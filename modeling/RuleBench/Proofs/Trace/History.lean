import Mathlib.Data.List.Induction
import Mathlib.Data.Nat.Find
import RuleBench.Trace.Record

/-!
# Histories of stores

A store against the history of what was done to it. An addition lasts if nothing removes its
identifier afterwards and every earlier addition of the identifier was removed before it. The main
statement says that a store lists exactly the traces whose addition lasts, in the order in which they
were added, and finds each under its identifier.
-/

namespace RuleBench.TraceStore

variable {τ : Type}

/-- What is done to a store. -/
inductive Step (τ : Type) where
  | add (trace : τ)
  | remove (id : String)
deriving DecidableEq

variable (idOf : τ → String)

def perform (s : TraceStore τ) : Step τ → TraceStore τ
  | .add t => s.add (idOf t) t
  | .remove id => s.remove id

/-- The store that a history leads to. -/
def ofSteps (ss : List (Step τ)) : TraceStore τ := ss.foldl (perform idOf) ⟨[], List.nodup_nil⟩

theorem ofSteps_concat (ss : List (Step τ)) (s : Step τ) :
    ofSteps idOf (ss ++ [s]) = (ofSteps idOf ss).perform idOf s := by
  simp [ofSteps]

/-- The trace that the step at a place of a history adds lasts to its end: the identifier is not
removed later, and it was removed after every earlier addition of it. -/
structure Lasts (ss : List (Step τ)) (i : Nat) (t : τ) : Prop where
  added : ss[i]? = some (.add t)
  kept : ∀ j, i < j → ss[j]? ≠ some (.remove (idOf t))
  first : ∀ j t', j < i → ss[j]? = some (.add t') → idOf t' = idOf t →
    ∃ k, j < k ∧ k < i ∧ ss[k]? = some (.remove (idOf t))

variable {idOf} {ss : List (Step τ)} {s : Step τ} {i : Nat} {t : τ} {id : String}

theorem getElem?_concat_eq_some {α : Type} {xs : List α} {x y : α} :
    (xs ++ [x])[i]? = some y ↔ xs[i]? = some y ∨ i = xs.length ∧ x = y := by
  rw [List.getElem?_append]
  split
  · next inside => simp [Nat.ne_of_lt inside]
  · next outside =>
    have outside := Nat.le_of_not_lt outside
    rw [List.getElem?_singleton, List.getElem?_eq_none outside]
    by_cases last : i = xs.length
    · simp [last]
    · have behind : i - xs.length ≠ 0 := by omega
      simp [last, behind]

theorem Lasts.lt_length (h : Lasts idOf ss i t) : i < ss.length :=
  (List.getElem?_eq_some_iff.mp h.added).1

/-- Of the additions of an identifier that nothing has removed, the first one lasts. -/
theorem exists_lasts (added : ss[i]? = some (.add t))
    (kept : ∀ j, i < j → ss[j]? ≠ some (.remove (idOf t))) :
    ∃ i' t', Lasts idOf ss i' t' ∧ idOf t' = idOf t := by
  classical
  let Stays (j : Nat) : Prop := ∃ t', ss[j]? = some (.add t') ∧ idOf t' = idOf t ∧
    ∀ k, j < k → ss[k]? ≠ some (.remove (idOf t))
  have found : ∃ j, Stays j := ⟨i, t, added, rfl, kept⟩
  obtain ⟨t', added', same, kept'⟩ := Nat.find_spec found
  refine ⟨Nat.find found, t', ⟨added', same ▸ kept', fun j t'' earlier addedEarlier same' => ?_⟩,
    same⟩
  have removed : ¬ Stays j := Nat.find_min found earlier
  by_contra never
  refine removed ⟨t'', addedEarlier, same'.trans same, fun k later removal => ?_⟩
  rw [← same] at removal
  rcases Nat.lt_trichotomy k (Nat.find found) with before | at_ | behind
  · exact never ⟨k, later, before, removal⟩
  · subst at_
    rw [added'] at removal
    cases removal
  · exact kept' k behind (same ▸ removal)

/-- A step behind a history ends what it removes, and adds what does not last already. -/
theorem lasts_concat : Lasts idOf (ss ++ [s]) i t ↔
    Lasts idOf ss i t ∧ s ≠ .remove (idOf t) ∨
      i = ss.length ∧ s = .add t ∧ ∀ i' t', Lasts idOf ss i' t' → idOf t' ≠ idOf t := by
  constructor
  · intro h
    rcases getElem?_concat_eq_some.mp h.added with added | ⟨rfl, rfl⟩
    · have inside := (List.getElem?_eq_some_iff.mp added).1
      refine .inl ⟨⟨added, fun j later removal => ?_, fun j t' earlier added' same => ?_⟩, ?_⟩
      · exact h.kept j later (getElem?_concat_eq_some.mpr (.inl removal))
      · obtain ⟨k, after, before, removal⟩ :=
          h.first j t' earlier (getElem?_concat_eq_some.mpr (.inl added')) same
        rcases getElem?_concat_eq_some.mp removal with removal | ⟨rfl, -⟩
        · exact ⟨k, after, before, removal⟩
        · omega
      · exact fun removes => h.kept ss.length inside
          (getElem?_concat_eq_some.mpr (.inr ⟨rfl, removes⟩))
    · refine .inr ⟨rfl, rfl, fun i' t' lasting same => ?_⟩
      obtain ⟨k, after, before, removal⟩ := h.first i' t' lasting.lt_length
        (getElem?_concat_eq_some.mpr (.inl lasting.added)) same
      rcases getElem?_concat_eq_some.mp removal with removal | ⟨rfl, -⟩
      · exact lasting.kept k after (same ▸ removal)
      · omega
  · rintro (⟨h, stays⟩ | ⟨rfl, rfl, fresh⟩)
    · refine ⟨getElem?_concat_eq_some.mpr (.inl h.added), fun j later removal => ?_,
        fun j t' earlier added same => ?_⟩
      · rcases getElem?_concat_eq_some.mp removal with removal | ⟨-, removes⟩
        · exact h.kept j later removal
        · exact stays removes
      · rcases getElem?_concat_eq_some.mp added with added | ⟨rfl, -⟩
        · obtain ⟨k, after, before, removal⟩ := h.first j t' earlier added same
          exact ⟨k, after, before, getElem?_concat_eq_some.mpr (.inl removal)⟩
        · have := h.lt_length
          omega
    · refine ⟨getElem?_concat_eq_some.mpr (.inr ⟨rfl, rfl⟩), fun j later removal => ?_,
        fun j t' earlier added same => ?_⟩
      · rcases getElem?_concat_eq_some.mp removal with removal | ⟨-, removes⟩
        · have := (List.getElem?_eq_some_iff.mp removal).1
          omega
        · cases removes
      · rcases getElem?_concat_eq_some.mp added with added | ⟨rfl, -⟩
        · by_contra never
          obtain ⟨i', t'', lasting, same'⟩ := exists_lasts added fun k after removal =>
            never ⟨k, after, (List.getElem?_eq_some_iff.mp removal).1,
              getElem?_concat_eq_some.mpr (.inl (same ▸ removal))⟩
          exact fresh i' t'' lasting (same'.trans same)
        · omega

/-- The additions that last, each with its place, in the order of their places. -/
structure Records (idOf : τ → String) (ss : List (Step τ)) (marks : List (Nat × τ)) : Prop where
  ordered : marks.Pairwise fun a b => a.1 < b.1
  exact_ : ∀ i t, (i, t) ∈ marks ↔ Lasts idOf ss i t

theorem Records.remove {marks : List (Nat × τ)} (h : Records idOf ss marks) (id : String) :
    Records idOf (ss ++ [.remove id]) (marks.filter fun m => idOf m.2 != id) where
  ordered := h.ordered.filter _
  exact_ i t := by
    rw [List.mem_filter, h.exact_, lasts_concat, bne_iff_ne]
    simp [eq_comm (a := idOf t)]

theorem Records.add_of_mem {marks : List (Nat × τ)} (h : Records idOf ss marks)
    (taken : ∃ m ∈ marks, idOf m.2 = idOf t) : Records idOf (ss ++ [.add t]) marks where
  ordered := h.ordered
  exact_ i' t' := by
    obtain ⟨⟨i, old⟩, member, same⟩ := taken
    have lasting := (h.exact_ i old).mp member
    rw [h.exact_, lasts_concat]
    refine ⟨fun h' => .inl ⟨h', nofun⟩, ?_⟩
    rintro (⟨h', -⟩ | ⟨-, adds, fresh⟩)
    · exact h'
    · cases adds
      exact absurd same (fresh i old lasting)

theorem Records.add_of_not_mem {marks : List (Nat × τ)} (h : Records idOf ss marks)
    (free : ∀ m ∈ marks, idOf m.2 ≠ idOf t) :
    Records idOf (ss ++ [.add t]) (marks ++ [(ss.length, t)]) where
  ordered := by
    rw [List.pairwise_append]
    refine ⟨h.ordered, by simp, fun a ha b hb => ?_⟩
    obtain rfl := List.mem_singleton.mp hb
    exact ((h.exact_ a.1 a.2).mp ha).lt_length
  exact_ i' t' := by
    rw [List.mem_append, h.exact_, lasts_concat, List.mem_singleton, Prod.mk.injEq]
    refine or_congr ⟨fun h' => ⟨h', nofun⟩, And.left⟩ ⟨?_, ?_⟩
    · rintro ⟨rfl, rfl⟩
      exact ⟨rfl, rfl, fun i old lasting => free (i, old) ((h.exact_ i old).mpr lasting)⟩
    · rintro ⟨rfl, adds, -⟩
      cases adds
      exact ⟨rfl, rfl⟩

/-- A store holds the additions that last, each under the identifier of its trace. -/
theorem exists_records (idOf : τ → String) (ss : List (Step τ)) : ∃ marks, Records idOf ss marks ∧
    (ofSteps idOf ss).entries = marks.map fun m => (idOf m.2, m.2) := by
  induction ss using List.reverseRecOn with
  | nil => exact ⟨[], ⟨.nil, fun i t => ⟨nofun, fun h => absurd h.lt_length (by simp)⟩⟩, rfl⟩
  | append_singleton ss s ih =>
    obtain ⟨marks, records, entries⟩ := ih
    rw [ofSteps_concat]
    cases s with
    | remove id =>
      refine ⟨_, records.remove id, ?_⟩
      simp [perform, entries, List.filter_map, Function.comp_def]
    | add t =>
      have ids : (ofSteps idOf ss).ids = marks.map fun m => idOf m.2 := by simp [ids, entries]
      cases taken : (ofSteps idOf ss).contains (idOf t) with
      | true =>
        refine ⟨marks, records.add_of_mem ?_, by simp [perform, taken, entries]⟩
        simpa [contains, ids] using taken
      | false =>
        refine ⟨_, records.add_of_not_mem (t := t) ?_, by simp [perform, taken, entries]⟩
        simpa [contains, ids] using taken

/-! ### What is found -/

theorem lookup_eq_some_iff_of_nodup {es : List (String × τ)} (distinct : (es.map (·.1)).Nodup) :
    es.lookup id = some t ↔ (id, t) ∈ es := by
  induction es with
  | nil => simp
  | cons e es ih =>
    obtain ⟨id', t'⟩ := e
    rw [List.map_cons, List.nodup_cons] at distinct
    by_cases own : id = id'
    · subst own
      have absent : (id, t) ∉ es := fun member => distinct.1 (List.mem_map.mpr ⟨_, member, rfl⟩)
      simp [absent, eq_comm]
    · simp [List.lookup_cons, beq_false_of_ne own, own, ih distinct.2]

/-- The traces of a store are those whose addition lasts, in the order in which they were added, no
identifier twice. Each is found under its identifier, and nothing is found under any other. To add a
trace whose identifier is taken changes nothing; to remove an identifier and add it again puts the
new trace at the end. -/
theorem lists_lasting_additions (idOf : τ → String) (ss : List (Step τ)) :
    let s := ofSteps idOf ss
    (∃ marks : List (Nat × τ), s.traces = marks.map Prod.snd ∧
      marks.Pairwise (fun a b => a.1 < b.1) ∧ ∀ i t, (i, t) ∈ marks ↔ Lasts idOf ss i t) ∧
    (s.traces.map idOf).Nodup ∧
    (∀ id t, s.get? id = some t ↔ t ∈ s.traces ∧ idOf t = id) ∧
    (∀ id, s.get? id = none ↔ ∀ t ∈ s.traces, idOf t ≠ id) ∧
    (∀ t, (∃ old ∈ s.traces, idOf old = idOf t) → ofSteps idOf (ss ++ [.add t]) = s) ∧
    ∀ t, (ofSteps idOf (ss ++ [.remove (idOf t), .add t])).traces =
      s.traces.filter (fun old => idOf old != idOf t) ++ [t] := by
  intro s
  obtain ⟨marks, records, entries⟩ := exists_records idOf ss
  change s.entries = _ at entries
  have traces : s.traces = marks.map Prod.snd := by simp [TraceStore.traces, entries]
  have ids : s.ids = s.traces.map idOf := by simp [TraceStore.ids, entries, traces]
  have found : ∀ id t, s.get? id = some t ↔ t ∈ s.traces ∧ idOf t = id := by
    intro id t
    rw [get?, lookup_eq_some_iff_of_nodup s.nodup, entries, traces]
    simp only [List.mem_map, Prod.mk.injEq, Prod.exists, exists_eq_right]
    constructor
    · rintro ⟨i, t', member, same, rfl⟩
      exact ⟨⟨i, member⟩, same⟩
    · rintro ⟨⟨i, member⟩, same⟩
      exact ⟨i, t, member, same, rfl⟩
  refine ⟨⟨marks, traces, records.ordered, records.exact_⟩, ids ▸ s.nodup, found, fun id => ?_,
    fun t taken => ?_, fun t => ?_⟩
  · rw [Option.eq_none_iff_forall_ne_some]
    simp only [ne_eq, found, not_and]
  · rw [ofSteps_concat]
    have taken : s.contains (idOf t) = true := by simpa [contains, ids] using taken
    exact add_of_mem taken
  · have free : (s.remove (idOf t)).contains (idOf t) = false := by
      simp [contains, TraceStore.ids]
    have split : ss ++ [.remove (idOf t), .add t] = ss ++ [.remove (idOf t)] ++ [.add t] := by simp
    rw [split, ofSteps_concat, ofSteps_concat]
    change ((s.remove (idOf t)).add (idOf t) t).traces = _
    simp [TraceStore.traces, free, entries, List.filter_map, Function.comp_def]

/-- A trace that comes back stands at the end, with its new content. -/
example : (ofSteps (τ := String × Nat) Prod.fst
    [.add ("a", 1), .add ("b", 2), .add ("a", 3), .remove "a", .add ("a", 4)]).traces =
      [("b", 2), ("a", 4)] := by decide

end RuleBench.TraceStore
