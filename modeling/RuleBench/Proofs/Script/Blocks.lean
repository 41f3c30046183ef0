import RuleBench.Script.Scope

/-!
# How blocks are read

What one mention does to the blocks that are open, for each kind of mention: under which condition
it is accepted, and what becomes of the names of the blocks.
-/

namespace RuleBench.Script

namespace NameTable

@[simp] theorem get_nil (n : String) : get [] n = .none := rfl

/-- To change what is known of one name leaves all others alone. -/
theorem get_alter (t : NameTable) (n m : String) (f : Usage → Usage) :
    (t.alter n f).get m = if m = n then f (t.get n) else t.get m := by
  induction t with
  | nil =>
    by_cases same : m = n
    · simp [alter, get, same]
    · simp [alter, get, same, List.lookup_cons, beq_eq_false_iff_ne.mpr same]
  | cons x t ih =>
    obtain ⟨k, u⟩ := x
    simp only [get] at ih ⊢
    by_cases hit : k = n
    · subst hit
      by_cases same : m = k
      · simp [alter, same]
      · simp [alter, same, List.lookup_cons, beq_eq_false_iff_ne.mpr same]
    · by_cases here : m = k
      · subst here
        simp [alter, hit, beq_eq_false_iff_ne.mpr hit]
      · have other : n ≠ k := fun h => hit h.symm
        simp [alter, beq_eq_false_iff_ne.mpr hit, List.lookup_cons,
          beq_eq_false_iff_ne.mpr here, beq_eq_false_iff_ne.mpr other, ih]

@[simp] theorem get_alter_self (t : NameTable) (n : String) (f : Usage → Usage) :
    (t.alter n f).get n = f (t.get n) := by
  simp [get_alter]

/-- The names of a table; what is known of them stands beside them. -/
def keys (t : NameTable) : List String := t.map Prod.fst

theorem keys_alter (t : NameTable) (n : String) (f : Usage → Usage) :
    (t.alter n f).keys = if n ∈ t.keys then t.keys else t.keys ++ [n] := by
  induction t with
  | nil => rfl
  | cons x t ih =>
    obtain ⟨k, u⟩ := x
    by_cases hit : k = n
    · simp [alter, keys, hit]
    · have other : n ≠ k := fun h => hit h.symm
      simp only [keys] at ih
      simp only [alter, beq_eq_false_iff_ne.mpr hit, Bool.false_eq_true, if_false, keys,
        List.map_cons, ih, List.mem_cons, other, false_or]
      by_cases known : n ∈ t.map Prod.fst <;> simp [known]

/-- A table has no name twice. -/
theorem nodup_alter {t : NameTable} (distinct : t.keys.Nodup) (n : String) (f : Usage → Usage) :
    (t.alter n f).keys.Nodup := by
  rw [keys_alter]
  split
  · exact distinct
  · next new => exact List.nodup_append.mpr ⟨distinct, by simp, by
      intro a mem b
      simp only [List.mem_singleton]
      rintro rfl rfl
      exact new mem⟩

theorem get_of_mem {t : NameTable} (distinct : t.keys.Nodup) {n : String} {u : Usage}
    (mem : (n, u) ∈ t) : t.get n = u := by
  induction t with
  | nil => cases mem
  | cons x t ih =>
    obtain ⟨k, v⟩ := x
    obtain ⟨fresh, distinct⟩ := List.nodup_cons.mp distinct
    rcases List.mem_cons.mp mem with head | behind
    · cases head
      simp [get]
    · have other : n ≠ k := by
        rintro rfl
        exact fresh (List.mem_map.mpr ⟨(n, u), behind, rfl⟩)
      have found := ih distinct behind
      simpa [get, List.lookup_cons, beq_eq_false_iff_ne.mpr other] using found

theorem mem_of_get {t : NameTable} {n : String} (used : t.get n ≠ .none) : (n, t.get n) ∈ t := by
  induction t with
  | nil => exact absurd rfl used
  | cons x t ih =>
    obtain ⟨k, v⟩ := x
    by_cases same : n = k
    · subst same
      simp [get]
    · have step : get ((k, v) :: t) n = get t n := by
        simp [get, List.lookup_cons, beq_eq_false_iff_ne.mpr same]
      rw [step] at used ⊢
      exact List.mem_cons_of_mem _ (ih used)

end NameTable

namespace OpenBlock

/-- What the block does with a name that is written in it. -/
def usage (b : OpenBlock) (id : String) : Usage := b.names.get (privateName b.className id)

/-- What is known of a name after it was noted: iteration variables are marked as such. -/
def noted (b : OpenBlock) (id : String) (change : Usage → Usage) : Usage :=
  if b.inTarget then { change (b.usage id) with iterated := true } else change (b.usage id)

/-- The block after it has noted a name. -/
def enter (b : OpenBlock) (id : String) (change : Usage → Usage) : OpenBlock :=
  { b with names := b.names.alter (privateName b.className id) fun _ => b.noted id change }

/-- A name may be noted, unless it is a parameter for the second time or an iteration variable that
belongs to another block. -/
def Admits (b : OpenBlock) (id : String) (change : Usage → Usage) (isParameter : Bool) : Prop :=
  (isParameter && (b.usage id).parameter) = false ∧
    (b.inTarget → (change (b.usage id)).global = false ∧ (change (b.usage id)).nonlocal = false)

end OpenBlock

namespace OpenBlocks

theorem enterName_eq_ok {b c : OpenBlock} {id : String} {change : Usage → Usage}
    {isParameter : Bool} {loc : Region} :
    enterName b id change isParameter loc = .ok c ↔
      b.Admits id change isParameter ∧ c = b.enter id change := by
  simp only [enterName, OpenBlock.Admits, OpenBlock.enter, OpenBlock.noted, OpenBlock.usage]
  generalize b.names.get (privateName b.className id) = u
  cases twice : isParameter && u.parameter with
  | true => simp [bind, Except.bind]
  | false =>
    cases target : b.inTarget with
    | false =>
      simp only [pure, Except.pure, Bool.false_eq_true, if_false, Except.ok.injEq, false_imp_iff,
        and_true, true_and]
      exact eq_comm
    | true =>
      cases elsewhere : (change u).global || (change u).nonlocal with
      | true =>
        simp only [Bool.or_eq_true] at elsewhere
        rcases elsewhere with h | h <;> simp [h, bind, Except.bind]
      | false =>
        obtain ⟨h, h'⟩ := Bool.or_eq_false_iff.mp elsewhere
        simp only [h, h', pure, Except.pure, Bool.false_eq_true, if_false, if_true,
          Except.ok.injEq, imp_self, and_true, true_and]
        exact eq_comm

theorem touch_eq_ok {s u : OpenBlocks} {id : String} {t : Touch} {loc : Region} :
    s.touch id t loc = .ok u ↔
      s.current.Admits id (·.touch t) (t == .parameter) ∧
        u = s.update (·.enter id (·.touch t)) := by
  simp only [touch, bind, Except.bind]
  constructor
  · intro h
    split at h
    · cases h
    · next b noted =>
      obtain ⟨admits, rfl⟩ := enterName_eq_ok.mp noted
      cases h
      exact ⟨admits, rfl⟩
  · rintro ⟨admits, rfl⟩
    rw [enterName_eq_ok.mpr ⟨admits, rfl⟩]
    rfl

theorem noteGlobal_nil (n : String) (b : OpenBlock) :
    (OpenBlocks.mk b []).noteGlobal n =
      ⟨{ b with names := b.names.alter n (·.declare .global) }, []⟩ := rfl

theorem noteGlobal_concat (n : String) (b outermost : OpenBlock) (bs : List OpenBlock) :
    (OpenBlocks.mk b (bs ++ [outermost])).noteGlobal n =
      ⟨b, bs ++ [{ outermost with names := outermost.names.alter n (·.declare .global) }]⟩ := by
  simp [noteGlobal]

/-- The blocks after a name was declared to belong elsewhere. -/
def declared (s : OpenBlocks) (d : Declaration) (id : String) : OpenBlocks :=
  let after := s.update (·.enter id (·.declare d))
  if d == .global then after.noteGlobal (privateName s.current.className id) else after

theorem declare_eq_ok {s u : OpenBlocks} {d : Declaration} {id : String} {loc : Region} :
    s.declare d id loc = .ok u ↔
      s.current.Admits id (·.declare d) false ∧ u = s.declared d id := by
  simp only [declare, bind, Except.bind]
  constructor
  · intro h
    split at h
    · cases h
    · next b noted =>
      obtain ⟨admits, rfl⟩ := enterName_eq_ok.mp noted
      cases h
      exact ⟨admits, rfl⟩
  · rintro ⟨admits, rfl⟩
    rw [enterName_eq_ok.mpr ⟨admits, rfl⟩]
    rfl

theorem checkDeclaration_eq_ok {s : OpenBlocks} {d : Declaration} {id : String} {loc : Region} :
    s.checkDeclaration d id loc = .ok () ↔
      let u := s.current.usage id
      u.parameter = false ∧ u.used = false ∧ u.annotated = false ∧ u.assigned = false := by
  simp only [checkDeclaration, OpenBlock.usage]
  generalize s.current.names.get (privateName s.current.className id) = u
  cases u.parameter <;> cases u.used <;> cases u.annotated <;> cases u.assigned <;> simp

/-- The blocks after a named expression in a comprehension, which binds a name of a block that is
`depth` blocks out. -/
def sentOut (s : OpenBlocks) (depth : Nat) (target : OpenBlock) (id : String) (loc : Region) :
    OpenBlocks :=
  let n := privateName s.current.className id
  let after := (s.declared (rebindDeclaration target id) id).update (·.record n loc)
  { after with around := after.around.modify (depth - 1) (reboundBlock n) }

theorem rebindOutside_eq_ok {s u : OpenBlocks} {id : String} {loc : Region} :
    s.rebindOutside id loc = .ok u ↔ ∃ depth,
      rebindDepth id loc (s.current :: s.around) = .ok depth ∧
        ((s.around[depth - 1]? = none ∧ u = s) ∨
          ∃ target, s.around[depth - 1]? = some target ∧
            s.current.Admits id (·.declare (rebindDeclaration target id)) false ∧
            u = s.sentOut depth target id loc) := by
  simp only [rebindOutside, bind, Except.bind]
  cases rebindDepth id loc (s.current :: s.around) with
  | error f => simp
  | ok depth =>
    simp only [Except.ok.injEq, exists_eq_left']
    cases s.around[depth - 1]? with
    | none => simp [pure, Except.pure, eq_comm]
    | some target =>
      simp only [reduceCtorEq, false_and, false_or, Option.some.injEq, exists_eq_left']
      constructor
      · intro h
        split at h
        · cases h
        · next v noted =>
          obtain ⟨admits, rfl⟩ := declare_eq_ok.mp noted
          cases h
          exact ⟨admits, rfl⟩
      · rintro ⟨admits, rfl⟩
        rw [declare_eq_ok.mpr ⟨admits, rfl⟩]
        rfl

/-- The blocks after one more is entered. -/
def opened (kind : BlockKind) (s : OpenBlocks) : OpenBlocks :=
  let className := match kind with
    | .classBody c => some c
    | _ => s.current.className
  ⟨.start kind className s.current.sources, s.current :: s.around⟩

/-- The blocks after the innermost one is left, which the one around it keeps. -/
def closed (kind : BlockKind) (s : OpenBlocks) : OpenBlocks :=
  match s.around with
  | [] => s
  | outer :: rest =>
    let inner := if kind == .hint then outer.inner else s.current.close :: outer.inner
    ⟨{ outer with inner := inner }, rest⟩

/-- Annotations have blocks of their own only where they are not evaluated. -/
def Opens (later : Bool) (kind : BlockKind) : Prop := (kind == .hint && !later) = false

theorem step_enter {later : Bool} {kind : BlockKind} (opens : Opens later kind) (s : OpenBlocks) :
    s.step later (.enter kind) = .ok (s.opened kind) := by
  simp only [step, show (kind == .hint && !later) = false from opens]
  rfl

theorem step_leave {later : Bool} {kind : BlockKind} (opens : Opens later kind) (s : OpenBlocks) :
    s.step later (.leave kind) = .ok (s.closed kind) := by
  simp only [step, show (kind == .hint && !later) = false from opens, closed]
  cases s.around <;> rfl

theorem step_enter_hint (s : OpenBlocks) : s.step false (.enter .hint) = .ok s := rfl

theorem step_leave_hint (s : OpenBlocks) : s.step false (.leave .hint) = .ok s := rfl

theorem step_name_of_ne_used {s : OpenBlocks} {later : Bool} {id : String} {t : Touch}
    (ne : t ≠ .used) {loc : Region} : s.step later (.name id t loc) = s.touch id t loc := by
  have other : (id == "super" && t == .used) = false := by simp [ne]
  simp only [step, other, bind, Except.bind]
  cases s.touch id t loc <;> rfl

theorem step_annotate_eq_ok {s u : OpenBlocks} {later : Bool} {id : String}
    {simple hasValue : Bool} {loc statement : Region} :
    s.step later (.annotate id simple hasValue loc statement) = .ok u ↔
      (simple = true → s.current.kind ≠ .module →
        (s.current.usage id).global = false ∧ (s.current.usage id).nonlocal = false) ∧
      match simple, hasValue with
      | true, _ => s.touch id .annotated loc = .ok u
      | false, true => s.touch id .assigned loc = .ok u
      | false, false => u = s := by
  simp only [step, OpenBlock.usage]
  generalize s.current.names.get (privateName s.current.className id) = v
  cases simple with
  | false =>
    cases hasValue with
    | false => simpa [pure, Except.pure] using eq_comm
    | true => simp
  | true =>
    by_cases module : s.current.kind = .module
    · simp [module]
    · cases v.global <;> cases v.nonlocal <;> simp [module, bind, Except.bind]

end OpenBlocks

end RuleBench.Script
