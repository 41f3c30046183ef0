import Mathlib.Data.List.Perm.Subperm
import Mathlib.Data.List.Range
import RuleBench.Sampling.Choice

/-!
# Samples without repetition

What drawing can come to, for every state of the generator: never to an error, and if it comes to an
end, to elements at different places of the list, as many as are asked for and there are. A pool
always holds each position that is left once, and the last of the two ways remembers what was taken.
-/

namespace RuleBench.Sampling

open Generator (below below_lt drawUntil)
open scoped List

namespace Draw

variable {α β : Type}

/-- A computation that raises no error, and whatever it comes to has a property. -/
def Ensures (m : Draw α) (P : α → Prop) : Prop :=
  ∀ g, match (m g).run with
    | none => True
    | some (.error _) => False
    | some (.ok (a, _)) => P a

variable {m : Draw α} {f : α → Draw β} {P : α → Prop} {Q : β → Prop}

theorem run_bind (m : Draw α) (f : α → Draw β) (g : Generator) : ((m >>= f) g).run =
    (m g).run.bind fun ended => match ended with
      | .error e => some (.error e)
      | .ok (a, g') => (f a g').run := by
  change ((m g >>= fun x => f x.1 x.2 : ExceptT ChoiceError Option _)).run = _
  rw [ExceptT.run_bind]
  cases (m g).run with
  | none => rfl
  | some ended => cases ended <;> rfl

theorem ensures_pure {a : α} (h : P a) : Ensures (pure a) P := fun _ => h

theorem Ensures.bind (first : m.Ensures P) (next : ∀ a, P a → (f a).Ensures Q) :
    (m >>= f).Ensures Q := by
  intro g
  have first := first g
  rw [run_bind]
  cases ended : (m g).run with
  | none => trivial
  | some r =>
    rw [ended] at first
    cases r with
    | error e => exact first.elim
    | ok x => exact next x.1 first x.2

theorem Ensures.imp {P' : α → Prop} (h : m.Ensures P) (weaker : ∀ a, P a → P' a) :
    m.Ensures P' := by
  intro g
  have h := h g
  split at h <;> simp_all

end Draw

open Draw

theorem ensures_number (draws : Nat) {bound : Nat} (pos : 0 < bound) :
    (number draws bound).Ensures (· < bound) := by
  intro g
  cases drawn : below draws bound g with
  | none => simp [number, drawn]
  | some r => simpa [number, drawn] using below_lt pos drawn

theorem ensures_entry {α : Type} {xs : Array α} {i : Nat} (inside : i < xs.size) :
    (entry xs i).Ensures (· = xs[i]) := by
  simp only [entry, Array.getElem?_eq_getElem inside]
  exact ensures_pure rfl

/-! ### Positions -/

/-- The position that is taken from a pool and those that are left are the positions it held. -/
theorem perm_cons_of_taken (pool : List Nat) {left j : Nat} (inside : j < left)
    (fits : left ≤ pool.length) :
    (pool[j] :: (pool.set j pool[left - 1]).take (left - 1)).Perm (pool.take left) := by
  obtain ⟨k, rfl⟩ : ∃ k, left = k + 1 := ⟨left - 1, by omega⟩
  have last : k < pool.length := by omega
  simp only [Nat.add_sub_cancel, List.take_set, List.take_succ_eq_append_getElem last]
  by_cases end_ : j = k
  · subst end_
    rw [List.set_eq_of_length_le (by rw [List.length_take]; omega)]
    exact (List.perm_append_singleton _ _).symm
  · have within : j < (pool.take k).length := by rw [List.length_take]; omega
    have same : pool[j] = (pool.take k)[j] := by simp
    calc pool[j] :: (pool.take k).set j pool[k]
      _ ~ pool[j] :: pool[k] :: (pool.take k).eraseIdx j :=
          (List.set_perm_cons_eraseIdx within _).cons _
      _ ~ pool[k] :: pool[j] :: (pool.take k).eraseIdx j := .swap ..
      _ ~ pool[k] :: pool.take k := by
          rw [same]
          exact (List.getElem_cons_eraseIdx_perm within).cons _
      _ ~ pool.take k ++ [pool[k]] := (List.perm_append_singleton _ _).symm

/-- From a pool as many positions are taken as are asked for, each as often as it is there. -/
theorem ensures_fromPool (draws : Nat) {count left : Nat} {pool : Array Nat} (enough : count ≤ left)
    (fits : left ≤ pool.size) :
    (fromPool draws count left pool).Ensures fun places =>
      places.length = count ∧ places.Subperm (pool.toList.take left) := by
  induction count generalizing left pool with
  | zero => exact ensures_pure ⟨rfl, List.nil_subperm⟩
  | succ count ih =>
    unfold fromPool
    refine (ensures_number draws (by omega)).bind fun j below => ?_
    refine (ensures_entry (by omega)).bind fun chosen chosen_eq => ?_
    refine (ensures_entry (by omega)).bind fun last last_eq => ?_
    have rest := @ih (left - 1) (pool.setIfInBounds j last) (by omega) (by simp; omega)
    refine rest.bind fun places ⟨length, among⟩ => ensures_pure ⟨by simp [length], ?_⟩
    have taken := perm_cons_of_taken pool.toList below (by simpa using fits)
    simp only [Array.getElem_toList, ← chosen_eq, ← last_eq] at taken
    simp only [Array.toList_setIfInBounds] at among
    exact ((List.subperm_cons chosen).mpr among).trans taken.subperm

theorem ensures_fresh (draws : Nat) {bound : Nat} (taken : List Nat) (pos : 0 < bound) (fuel : Nat) :
    (fresh draws bound taken fuel).Ensures fun j => j < bound ∧ j ∉ taken := by
  induction fuel with
  | zero => exact fun _ => trivial
  | succ fuel ih =>
    refine (ensures_number draws pos).bind fun j below => ?_
    split
    · exact ih
    · next free => exact ensures_pure ⟨below, by simpa using free⟩

theorem ensures_avoiding (draws : Nat) {bound : Nat} (pos : 0 < bound) (count : Nat)
    (taken : List Nat) :
    (avoiding draws bound count taken).Ensures fun places => places.length = count ∧
      places.Nodup ∧ ∀ i ∈ places, i < bound ∧ i ∉ taken := by
  induction count generalizing taken with
  | zero => exact ensures_pure ⟨rfl, List.nodup_nil, by simp⟩
  | succ count ih =>
    refine (ensures_fresh draws taken pos draws).bind fun j ⟨below, free⟩ => ?_
    refine (ih (j :: taken)).bind fun places ⟨length, distinct, inside⟩ => ensures_pure ?_
    refine ⟨by simp [length], List.nodup_cons.mpr ⟨fun again => ?_, distinct⟩, fun i member => ?_⟩
    · exact (inside j again).2 (by simp)
    · rcases List.mem_cons.mp member with rfl | member
      · exact ⟨below, free⟩
      · exact ⟨(inside i member).1, fun old => (inside i member).2 (by simp [old])⟩

/-- The places of a sample: as many as are asked for, all different and all within the population. -/
structure Places (population count : Nat) (places : List Nat) : Prop where
  length : places.length = count
  distinct : places.Nodup
  inside : ∀ i ∈ places, i < population

theorem ensures_positions (draws : Nat) {population count : Nat} (enough : count ≤ population) :
    (positions draws population count).Ensures (Places population count) := by
  have fits : ¬ ((count : Int) < 0 ∨ (population : Int) < count) := by omega
  simp only [positions, fits, if_false, Int.toNat_natCast]
  split
  · refine (ensures_fromPool draws enough (by simp)).imp fun places ⟨length, among⟩ => ?_
    have among : places.Subperm (List.range population) := by simpa using among
    obtain ⟨sub, perm, sublist⟩ := among
    refine ⟨length, perm.nodup_iff.mp (sublist.nodup List.nodup_range), fun i member => ?_⟩
    exact List.mem_range.mp (sublist.subset (perm.mem_iff.mpr member))
  · next large =>
    have pos : 0 < population := by
      have : 21 ≤ poolLimit count := by
        unfold poolLimit
        split <;> omega
      omega
    exact (ensures_avoiding draws pos count []).imp fun places ⟨length, distinct, inside⟩ =>
      ⟨length, distinct, fun i member => (inside i member).1⟩

/-! ### Elements -/

theorem ensures_entries {α : Type} {xs : List α} {places : List Nat}
    (inside : ∀ i ∈ places, i < xs.length) :
    Ensures (places.mapM (entry xs.toArray)) fun chosen =>
      places.map (fun i => xs[i]?) = chosen.map some := by
  induction places with
  | nil => exact ensures_pure rfl
  | cons i places ih =>
    rw [List.mapM_cons]
    have here : i < xs.toArray.size := by simpa using inside i (by simp)
    refine (ensures_entry here).bind fun x found => ?_
    refine (ih fun j member => inside j (by simp [member])).bind fun chosen rest =>
      ensures_pure ?_
    have at_ : xs[i]? = some x := by
      rw [found]
      simp
    simp [rest, at_]

/-- Different places, as many as there are, are all places. -/
theorem Places.perm_range {population : Nat} {places : List Nat}
    (h : Places population population places) : places.Perm (List.range population) := by
  refine (List.subperm_of_subset h.distinct fun i member => ?_).perm_of_length_le ?_
  · exact List.mem_range.mpr (h.inside i member)
  · simp [h.length]

theorem map_getElem?_range {α : Type} (xs : List α) :
    ((List.range xs.length).map fun i => xs[i]?) = xs.map some := by
  refine List.ext_getElem (by simp) fun i inside _ => ?_
  have inside : i < xs.length := by simpa using inside
  simp [inside]

/-- Elements at all places of a list are the list in some order. -/
theorem perm_of_places {α : Type} {xs chosen : List α} {places : List Nat}
    (all : places.Perm (List.range xs.length))
    (found : places.map (fun i => xs[i]?) = chosen.map some) : chosen.Perm xs := by
  have perm : (chosen.map some).Perm (xs.map some) := by
    rw [← found, ← map_getElem?_range]
    exact all.map _
  simpa [List.filterMap_map, Function.comp_def] using perm.filterMap id

/-- A choice comes to the elements at the places of a sample. -/
theorem ensures_choose {α : Type} (draws : Nat) (xs : List α) (size : Nat) :
    (choose draws xs size).Ensures fun chosen => ∃ places,
      Places xs.length (min size xs.length) places ∧
        places.map (fun i => xs[i]?) = chosen.map some := by
  have count : min (size : Int) xs.length = ((min size xs.length : Nat) : Int) := by omega
  unfold choose
  rw [count]
  refine (ensures_positions draws (Nat.min_le_right ..)).bind fun places h => ?_
  exact (ensures_entries h.inside).imp fun chosen found => ⟨places, h, found⟩

/-! ### Patience -/

/-- What a computation comes to, another one comes to as well. -/
def Draw.Extends {α : Type} (m m' : Draw α) : Prop := ∀ g r, (m g).run = some r → (m' g).run = some r

theorem Draw.Extends.refl {α : Type} (m : Draw α) : m.Extends m := fun _ _ h => h

theorem Draw.Extends.bind {α β : Type} {m m' : Draw α} {f f' : α → Draw β} (first : m.Extends m')
    (next : ∀ a, (f a).Extends (f' a)) : (m >>= f).Extends (m' >>= f') := by
  intro g r h
  rw [run_bind] at h ⊢
  obtain ⟨x, ended, rest⟩ := Option.bind_eq_some_iff.mp h
  rw [first g x ended]
  cases x with
  | error e => exact rest
  | ok x => exact next x.1 x.2 r rest

section

variable {draws draws' : Nat} (more : draws ≤ draws')
include more

theorem drawUntil_mono {draw : Generator → Nat × Generator} {accept : Nat → Bool} {g : Generator}
    {r : Nat × Generator} (h : drawUntil draw accept draws g = some r) :
    drawUntil draw accept draws' g = some r := by
  induction draws generalizing draws' g with
  | zero => cases h
  | succ draws ih =>
    obtain ⟨further, rfl⟩ : ∃ further, draws' = further + 1 := ⟨draws' - 1, by omega⟩
    simp only [drawUntil] at h ⊢
    split
    · next accepted => simpa [accepted] using h
    · next rejected =>
      rw [if_neg rejected] at h
      exact ih (by omega) h

theorem extends_number (bound : Nat) : (number draws bound).Extends (number draws' bound) := by
  intro g r h
  simp only [number, ExceptT.run_mk, Option.map_eq_some_iff] at h ⊢
  obtain ⟨x, drawn, rfl⟩ := h
  refine ⟨x, ?_, rfl⟩
  unfold below at drawn ⊢
  split
  · next zero => simpa [zero] using drawn
  · next pos =>
    rw [if_neg pos] at drawn
    exact drawUntil_mono more drawn

theorem extends_fromPool (count left : Nat) (pool : Array Nat) :
    (fromPool draws count left pool).Extends (fromPool draws' count left pool) := by
  induction count generalizing left pool with
  | zero => exact .refl _
  | succ count ih =>
    refine (extends_number more left).bind fun j => ?_
    refine (Extends.refl _).bind fun chosen => (Extends.refl _).bind fun last => ?_
    exact (ih _ _).bind fun rest => .refl _

theorem extends_fresh (bound : Nat) (taken : List Nat) {fuel fuel' : Nat} (longer : fuel ≤ fuel') :
    (fresh draws bound taken fuel).Extends (fresh draws' bound taken fuel') := by
  induction fuel generalizing fuel' with
  | zero => exact fun _ _ h => by cases h
  | succ fuel ih =>
    obtain ⟨further, rfl⟩ : ∃ further, fuel' = further + 1 := ⟨fuel' - 1, by omega⟩
    refine (extends_number more bound).bind fun j => ?_
    split
    · exact ih (by omega)
    · exact .refl _

theorem extends_avoiding (bound count : Nat) (taken : List Nat) :
    (avoiding draws bound count taken).Extends (avoiding draws' bound count taken) := by
  induction count generalizing taken with
  | zero => exact .refl _
  | succ count ih =>
    exact (extends_fresh more bound taken more).bind fun j =>
      (ih _).bind fun rest => .refl _

/-- With more patience the same is chosen. -/
theorem extends_choose {α : Type} (xs : List α) (size : Int) :
    (choose draws xs size).Extends (choose draws' xs size) := by
  refine Extends.bind ?_ fun places => .refl _
  unfold positions
  split
  · exact .refl _
  · split
    · exact extends_fromPool more _ _ _
    · exact extends_avoiding more _ _ _

end

/-- A choice of samples raises no error, whatever the state of the generator. Whenever it comes to an
end, it has chosen the elements at different places of the list, as many as are asked for or else all
there are, so that a choice of all elements is the list in some order. More patience only lets more
choices come to an end. -/
theorem chooses_distinct_places {α : Type} (draws : Nat) (xs : List α) (size : Nat) (g : Generator) :
    (∀ e, (choose draws xs size g).run ≠ some (.error e)) ∧
    (∀ chosen g', (choose draws xs size g).run = some (.ok (chosen, g')) →
      chosen.length = min size xs.length ∧
      (∃ places : List Nat, places.Nodup ∧ places.map (fun i => xs[i]?) = chosen.map some) ∧
      (xs.length ≤ size → chosen.Perm xs)) ∧
    ∀ draws' r, draws ≤ draws' → (choose draws xs size g).run = some r →
      (choose draws' xs size g).run = some r := by
  have ends := ensures_choose draws xs size g
  refine ⟨fun e raised => ?_, fun chosen g' chose => ?_,
    fun draws' r more => extends_choose more xs size g r⟩
  · rw [raised] at ends
    exact ends
  · rw [chose] at ends
    obtain ⟨places, h, found⟩ := ends
    have length : chosen.length = places.length := by
      simpa using (congrArg List.length found).symm
    refine ⟨length.trans h.length, ⟨places, h.distinct, found⟩, fun all => ?_⟩
    rw [Nat.min_eq_right all] at h
    exact perm_of_places h.perm_range found

/-- A size below zero is refused. -/
theorem choose_of_neg {α : Type} (draws : Nat) (xs : List α) {size : Int} (h : size < 0)
    (g : Generator) : (choose draws xs size g).run = some (.error .sizeOutOfRange) := by
  have refused : min size xs.length < 0 ∨ (xs.length : Int) < min size xs.length := by omega
  unfold choose positions
  rw [if_pos refused]
  rfl

end RuleBench.Sampling
