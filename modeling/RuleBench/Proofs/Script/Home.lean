import RuleBench.Proofs.Script.Resolution

/-!
# Where a name has its home

`blocksAround` gives the blocks around a place of a script, and `home` tells from them where a name
that stands there belongs: to one of these blocks or to the whole script. This is what `resolve`
decides, which tells blocks only apart as the own one and others (`resolveName_home`).

If some mentions of a script are left out, a name keeps its home, unless the block that was its home
has lost every binding of it.
-/

namespace RuleBench.Script

/-- Where a name belongs. -/
inductive Home where
  /-- The block so many blocks further out. -/
  | block (out : Nat)
  /-- The whole script, or what all scripts have. -/
  | global
  /-- A declaration says that a function around binds the name, but none does. -/
  | nowhere
deriving Repr, DecidableEq

/-- The resolution of a name tells where it has its home, but for which of the blocks around it. -/
def Home.Agrees : Home → Resolution → Prop
  | .block 0, r => r = .onlyHere
  | .block (_ + 1), r => r = .free
  | .global, r => r = .global ∨ r = .globalDeclared
  | .nowhere, _ => False

namespace Block

/-- The block itself gives the name a value of its own. -/
def isHome (b : Block) (n : String) : Bool :=
  let u := b.names.get n
  !u.global && !u.nonlocal && u.binds

/-- How far out a name is bound, as seen from inside these blocks: classes only offer `__class__`. -/
def lookOut (n : String) : List Block → Option Nat
  | [] => none
  | b :: bs =>
    match b.kind with
    | .module => none
    | .classBody _ => if n == "__class__" then some 0 else (lookOut n bs).map (· + 1)
    | _ =>
      if b.isHome n then some 0
      else if (b.names.get n).global then none
      else (lookOut n bs).map (· + 1)

/-- Where a name belongs that stands in the first of these blocks, which has the others around it. -/
def home (n : String) : List Block → Home
  | [] => .global
  | b :: bs =>
    if b.kind == .module || (b.names.get n).global then .global
    else if b.isHome n then .block 0
    else match lookOut n bs with
      | some out => .block (out + 1)
      | none => if (b.names.get n).nonlocal then .nowhere else .global

/-! ### The same as resolving -/

/-- The blocks offer these names to the ones inside them. -/
inductive Offers : List Block → Option (List String) → Prop where
  | outermost : Offers [] none
  | inside {kind : BlockKind} {names : NameTable} {places : List (String × Region)}
      {inner : List Block} {around : List Block} {bound : Option (List String)}
      {resolved : List (String × Resolution)} (distinct : names.keys.Nodup)
      (rest : Offers around bound) (ok : resolveNames bound places names = .ok resolved) :
      Offers (.mk kind names places inner :: around) (some (boundInside kind bound resolved))

/-- A name is offered by blocks if one of them is its home. -/
theorem Offers.lookOut {bs : List Block} {bound : Option (List String)} (h : Offers bs bound)
    (n : String) : n ∈ bound.getD [] ↔ (Block.lookOut n bs).isSome = true := by
  induction h with
  | outermost => simp [Block.lookOut]
  | @inside kind names places inner around bound resolved distinct rest ok ih =>
    have nested : kind ≠ .module → (∀ c, kind ≠ .classBody c) →
        (n ∈ boundInside kind bound resolved ↔
          (if (mk kind names places inner).isHome n then some 0
            else if (names.get n).global then none
            else (Block.lookOut n around).map (· + 1)).isSome = true) := by
      intro notModule notClass
      rw [mem_boundInside ok distinct notModule notClass, ih]
      rcases global : (names.get n).global with _ | _ <;>
        rcases nonlocal : (names.get n).nonlocal with _ | _ <;>
        rcases binds : (names.get n).binds with _ | _ <;>
        simp [isHome, Block.names, global, nonlocal, binds]
    cases kind with
    | module => simp [boundInside, Block.lookOut, Block.kind]
    | classBody c =>
      by_cases own : n = "__class__"
      · simp [boundInside, Block.lookOut, Block.kind, own]
      · simp [boundInside, Block.lookOut, Block.kind, own, ih]
    | _ => exact nested nofun nofun

/-- A name of a block that is not the whole script has its home where it is resolved to have its
value. -/
theorem resolveName_home {b : Block} (inner : b.kind ≠ .module) {around : List Block}
    {bound : Option (List String)} (offers : Offers around bound)
    {places : List (String × Region)} {n : String} {r : Resolution}
    (ok : resolveName bound places n (b.names.get n) = .ok r) :
    (home n (b :: around)).Agrees r := by
  have found := offers.lookOut n
  have kind : (b.kind == .module) = false := beq_eq_false_iff_ne.mpr inner
  by_cases global : (b.names.get n).global = true
  · have here : home n (b :: around) = .global := by simp [home, global]
    rw [here]
    by_cases nonlocal : (b.names.get n).nonlocal = true
    · simp [resolveName, global, nonlocal] at ok
    · simp only [resolveName, global, nonlocal, Bool.false_eq_true, if_true, if_false,
        Except.ok.injEq] at ok
      exact .inr ok.symm
  by_cases nonlocal : (b.names.get n).nonlocal = true
  · cases bound with
    | none => simp [resolveName, global, nonlocal] at ok
    | some names =>
      by_cases known : n ∈ names
      · obtain ⟨out, further⟩ := Option.isSome_iff_exists.mp (found.mp known)
        have here : home n (b :: around) = .block (out + 1) := by
          simp [home, isHome, kind, global, nonlocal, further]
        rw [here]
        simp only [resolveName, global, nonlocal, if_true, List.contains_iff_mem.mpr known,
          Bool.false_eq_true, if_false, Except.ok.injEq] at ok
        exact ok.symm
      · simp [resolveName, global, nonlocal, known] at ok
  by_cases binds : (b.names.get n).binds = true
  · have here : home n (b :: around) = .block 0 := by
      simp [home, isHome, kind, global, nonlocal, binds]
    rw [here]
    simp only [resolveName, global, nonlocal, binds, Bool.false_eq_true, if_true, if_false,
      Except.ok.injEq] at ok
    exact ok.symm
  · simp only [resolveName, global, nonlocal, binds, Bool.false_eq_true, if_false] at ok
    by_cases known : n ∈ bound.getD []
    · obtain ⟨out, further⟩ := Option.isSome_iff_exists.mp (found.mp known)
      have here : home n (b :: around) = .block (out + 1) := by
        simp [home, isHome, kind, global, nonlocal, binds, further]
      rw [here]
      simp only [List.contains_iff_mem.mpr known, if_true, Except.ok.injEq] at ok
      exact ok.symm
    · have further : lookOut n around = none := by
        rw [← Option.not_isSome_iff_eq_none]
        exact known ∘ found.mpr
      have here : home n (b :: around) = .global := by
        simp [home, isHome, kind, global, nonlocal, binds, further]
      rw [here]
      have unknown : (bound.getD []).contains n = false := by simpa using known
      simp only [unknown, Bool.false_eq_true, if_false, Except.ok.injEq] at ok
      exact .inl ok.symm

/-! ### With fewer mentions -/

variable {lost : String → Prop}

/-- The block so many blocks out was the home of the name and has lost every binding of it. -/
def Loses (n : String) (bs bs' : List Block) (out : Nat) : Prop :=
  ∃ b b', bs[out]? = some b ∧ bs'[out]? = some b' ∧ b.isHome n = true ∧
    (b'.names.get n).binds = false

namespace Trimmed

variable {b b' : Block}

theorem kind (h : b.Trimmed lost b') : b'.kind = b.kind := by
  cases h
  rfl

theorem table (h : b.Trimmed lost b') : b.names.Trimmed lost (b.kind ≠ .module) b'.names := by
  cases h
  assumption

theorem isHome (h : b.Trimmed lost b') (inner : b.kind ≠ .module) (n : String) :
    b'.isHome n = b.isHome n ∨
      (b.isHome n = true ∧ (b'.names.get n).binds = false ∧ lost n) := by
  have usage := h.table.usage n
  obtain ⟨global, nonlocal⟩ := usage.declared inner
  simp only [Block.isHome, global, nonlocal]
  cases bound : (b.names.get n).binds with
  | false =>
    have unbound : (b'.names.get n).binds = false := Bool.eq_false_iff.mpr fun binds => by
      simp [usage.bound binds] at bound
    exact .inl (by rw [unbound])
  | true =>
    cases bound' : (b'.names.get n).binds with
    | true => exact .inl rfl
    | false =>
      have gone : lost n := (usage.binds bound).resolve_left (by simp [bound'])
      cases elsewhere : !(b.names.get n).global && !(b.names.get n).nonlocal with
      | false => exact .inl rfl
      | true => exact .inr ⟨rfl, rfl, gone⟩

end Trimmed

theorem Loses.further {n : String} {bs bs' : List Block} {out : Nat} (h : Loses n bs bs' out)
    (b b' : Block) : Loses n (b :: bs) (b' :: bs') (out + 1) := h

/-- What blocks offer to the ones inside them is still offered by the same block, unless that block
has lost it. -/
theorem lookOut_trimmed {bs bs' : List Block} (h : List.Forall₂ (Trimmed lost) bs bs') (n : String) :
    lookOut n bs' = lookOut n bs ∨
      ∃ out, lookOut n bs = some out ∧ Loses n bs bs' out ∧ lost n := by
  induction h with
  | nil => exact .inl rfl
  | @cons b b' bs bs' head rest ih =>
    have further : (lookOut n bs').map (· + 1) = (lookOut n bs).map (· + 1) ∨
        ∃ out, (lookOut n bs).map (· + 1) = some out ∧ Loses n (b :: bs) (b' :: bs') out ∧
          lost n := by
      rcases ih with same | ⟨out, found, loses, gone⟩
      · exact .inl (by rw [same])
      · exact .inr ⟨out + 1, by rw [found]; rfl, loses.further b b', gone⟩
    have nested : b.kind ≠ .module →
        ((if b'.isHome n then some 0
          else if (b'.names.get n).global then none else (lookOut n bs').map (· + 1)) =
          (if b.isHome n then some 0
          else if (b.names.get n).global then none else (lookOut n bs).map (· + 1))) ∨
        ∃ out, (if b.isHome n then some 0
          else if (b.names.get n).global then none else (lookOut n bs).map (· + 1)) = some out ∧
          Loses n (b :: bs) (b' :: bs') out ∧ lost n := by
      intro inner
      rcases head.isHome inner n with same | ⟨bound, unbound, gone⟩
      · rw [same, ((head.table.usage n).declared inner).1]
        cases b.isHome n with
        | true => exact .inl rfl
        | false =>
          cases (b.names.get n).global with
          | true => exact .inl rfl
          | false => simpa using further
      · exact .inr ⟨0, by rw [if_pos bound], ⟨b, b', rfl, rfl, bound, unbound⟩, gone⟩
    simp only [lookOut, head.kind]
    cases kind : b.kind with
    | module => exact .inl rfl
    | classBody c =>
      by_cases own : n = "__class__"
      · exact .inl (by simp [own])
      · simpa [own] using further
    | _ => exact nested (by simp [kind])

/-- A name keeps its home, unless the block that was its home has lost it. -/
theorem home_trimmed {bs bs' : List Block} (h : List.Forall₂ (Trimmed lost) bs bs') (n : String) :
    home n bs' = home n bs ∨
      ∃ out, home n bs = .block out ∧ Loses n bs bs' out ∧ lost n := by
  cases h with
  | nil => exact .inl rfl
  | @cons b b' bs bs' head rest =>
    by_cases inner : b.kind = .module
    · exact .inl (by simp [home, head.kind, inner])
    · obtain ⟨global, nonlocal⟩ := (head.table.usage n).declared inner
      simp only [home, head.kind, beq_eq_false_iff_ne.mpr inner, Bool.false_or, global, nonlocal]
      cases (b.names.get n).global with
      | true => exact .inl rfl
      | false =>
        simp only [Bool.false_eq_true, if_false]
        rcases head.isHome inner n with same | ⟨bound, unbound, gone⟩
        · rw [same]
          cases b.isHome n with
          | true => exact .inl rfl
          | false =>
            simp only [Bool.false_eq_true, if_false]
            rcases lookOut_trimmed rest n with same | ⟨out, found, loses, gone⟩
            · exact .inl (by rw [same])
            · exact .inr ⟨out + 1, by rw [found], loses.further b b', gone⟩
        · exact .inr ⟨0, by rw [if_pos bound], ⟨b, b', rfl, rfl, bound, unbound⟩, gone⟩

end Block

end RuleBench.Script
