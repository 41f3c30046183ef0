import Mathlib.Data.List.Forall2
import RuleBench.Proofs.Script.Blocks
import RuleBench.Proofs.Script.Unplaced

/-!
# Blocks with fewer mentions

When some mentions of a script are left out, its blocks know less of their names. `Trimmed` says how
the blocks that are read from what is left compare with those of the whole script: they do nothing
that was not done before, they send names to the same blocks, and a name that has lost its binding
is one of those that something left out had bound. Reading on keeps blocks so related.
-/

namespace RuleBench.Script

/-- What is known of a name, before and after mentions were left out. `fixed` tells that its
declarations are all still there, `lost` that something which had bound it may be missing. -/
structure Usage.Trimmed (lost fixed : Prop) (u v : Usage) : Prop where
  parameter : v.parameter = true → u.parameter = true
  assigned : v.assigned = true → u.assigned = true
  used : v.used = true → u.used = true
  imported : v.imported = true → u.imported = true
  annotated : v.annotated = true → u.annotated = true
  global : v.global = true → u.global = true
  nonlocal : v.nonlocal = true → u.nonlocal = true
  iterated : v.iterated = true → u.iterated = true
  declared : fixed → v.global = u.global ∧ v.nonlocal = u.nonlocal
  binds : u.binds = true → v.binds = true ∨ lost

namespace Usage.Trimmed

variable {lost fixed : Prop} {u v w : Usage}

theorem refl (lost fixed : Prop) (u : Usage) : Trimmed lost fixed u u :=
  ⟨id, id, id, id, id, id, id, id, fun _ => ⟨rfl, rfl⟩, .inl⟩

theorem trans (h : Trimmed lost fixed u v) (h' : Trimmed lost fixed v w) :
    Trimmed lost fixed u w where
  parameter := h.parameter ∘ h'.parameter
  assigned := h.assigned ∘ h'.assigned
  used := h.used ∘ h'.used
  imported := h.imported ∘ h'.imported
  annotated := h.annotated ∘ h'.annotated
  global := h.global ∘ h'.global
  nonlocal := h.nonlocal ∘ h'.nonlocal
  iterated := h.iterated ∘ h'.iterated
  declared held :=
    ⟨(h'.declared held).1.trans (h.declared held).1, (h'.declared held).2.trans (h.declared held).2⟩
  binds bound := (h.binds bound).elim h'.binds .inr

theorem mono {fixed' : Prop} (h : Trimmed lost fixed u v) (sub : fixed' → fixed) :
    Trimmed lost fixed' u v :=
  { h with declared := fun held => h.declared (sub held) }

/-- A name that is bound was bound before. -/
theorem bound (h : Trimmed lost fixed u v) (binds : v.binds = true) : u.binds = true := by
  simp only [Usage.binds, Bool.or_eq_true] at binds ⊢
  exact binds.imp (Or.imp h.parameter h.assigned) h.imported

/-- The name is touched once more. -/
theorem touched (u : Usage) (t : Touch) (h : t ≠ .used → lost) :
    Trimmed lost fixed (u.touch t) u := by
  have same := refl lost fixed u
  cases t with
  | parameter => exact { same with parameter := fun _ => rfl, binds := fun _ => .inr (h nofun) }
  | assigned => exact { same with assigned := fun _ => rfl, binds := fun _ => .inr (h nofun) }
  | used => exact { same with used := fun _ => rfl, binds := same.binds }
  | imported => exact { same with imported := fun _ => rfl, binds := fun _ => .inr (h nofun) }
  | annotated =>
    exact { same with
      annotated := fun _ => rfl, assigned := fun _ => rfl, binds := fun _ => .inr (h nofun) }

/-- The name is declared to belong elsewhere, where that may happen. -/
theorem redeclared (u : Usage) (d : Declaration) (h : ¬fixed) :
    Trimmed lost fixed (u.declare d) u := by
  have same := refl lost fixed u
  cases d with
  | global => exact { same with global := fun _ => rfl, declared := (absurd · h), binds := same.binds }
  | nonlocal =>
    exact { same with nonlocal := fun _ => rfl, declared := (absurd · h), binds := same.binds }

theorem iterating (h : Trimmed lost fixed u v) :
    Trimmed lost fixed { u with iterated := true } v :=
  { h with iterated := fun _ => rfl, binds := h.binds }

/-- A change of what is known that keeps the comparison. -/
def Carried (f g : Usage → Usage) : Prop :=
  ∀ ⦃lost fixed : Prop⦄ ⦃u v : Usage⦄, Trimmed lost fixed u v → Trimmed lost fixed (f u) (g v)

theorem carried_touch (t : Touch) : Carried (·.touch t) (·.touch t) := by
  intro lost fixed u v h
  cases t with
  | parameter =>
    exact { h with parameter := fun _ => rfl, binds := fun _ => .inl (by simp [Usage.touch, Usage.binds]) }
  | assigned =>
    exact { h with assigned := fun _ => rfl, binds := fun _ => .inl (by simp [Usage.touch, Usage.binds]) }
  | used => exact { h with used := fun _ => rfl, binds := h.binds }
  | imported =>
    exact { h with imported := fun _ => rfl, binds := fun _ => .inl (by simp [Usage.touch, Usage.binds]) }
  | annotated =>
    exact { h with
      annotated := fun _ => rfl
      assigned := fun _ => rfl
      binds := fun _ => .inl (by simp [Usage.touch, Usage.binds]) }

/-- An annotated name may become a merely assigned one. -/
theorem carried_annotated : Carried (·.touch .annotated) (·.touch .assigned) := by
  intro lost fixed u v h
  exact { h with
    annotated := fun _ => rfl
    assigned := fun _ => rfl
    binds := fun _ => .inl (by simp [Usage.touch, Usage.binds]) }

theorem carried_declare (d : Declaration) : Carried (·.declare d) (·.declare d) := by
  intro lost fixed u v h
  cases d with
  | global =>
    exact { h with
      global := fun _ => rfl, declared := fun held => ⟨rfl, (h.declared held).2⟩, binds := h.binds }
  | nonlocal =>
    exact { h with
      nonlocal := fun _ => rfl, declared := fun held => ⟨(h.declared held).1, rfl⟩, binds := h.binds }

theorem carried_iterate : Carried ({ · with iterated := true }) ({ · with iterated := true }) := by
  intro lost fixed u v h
  exact { h with iterated := fun _ => rfl, binds := h.binds }

end Usage.Trimmed

/-- What two tables know of the same block. -/
structure NameTable.Trimmed (lost : String → Prop) (fixed : Prop) (t t' : NameTable) : Prop where
  distinct : t.keys.Nodup
  distinct' : t'.keys.Nodup
  usage (n : String) : Usage.Trimmed (lost n) fixed (t.get n) (t'.get n)

namespace NameTable.Trimmed

variable {lost : String → Prop} {fixed : Prop} {t t' : NameTable}

theorem refl (distinct : t.keys.Nodup) : Trimmed lost fixed t t :=
  ⟨distinct, distinct, fun n => .refl (lost n) fixed (t.get n)⟩

theorem trans {t'' : NameTable} (h : Trimmed lost fixed t t') (h' : Trimmed lost fixed t' t'') :
    Trimmed lost fixed t t'' :=
  ⟨h.distinct, h'.distinct', fun n => (h.usage n).trans (h'.usage n)⟩

theorem mono {fixed' : Prop} (h : Trimmed lost fixed t t') (sub : fixed' → fixed) :
    Trimmed lost fixed' t t' :=
  ⟨h.distinct, h.distinct', fun n => (h.usage n).mono sub⟩

theorem alter (h : Trimmed lost fixed t t') (n : String) {f g : Usage → Usage}
    (changed : Usage.Trimmed (lost n) fixed (f (t.get n)) (g (t'.get n))) :
    Trimmed lost fixed (t.alter n f) (t'.alter n g) where
  distinct := nodup_alter h.distinct n f
  distinct' := nodup_alter h.distinct' n g
  usage m := by
    rw [get_alter, get_alter]
    split
    · next same => exact same ▸ changed
    · exact h.usage m

/-- More is known of one name. -/
theorem alter_left (h : Trimmed lost fixed t t') (n : String) {f : Usage → Usage}
    (changed : Usage.Trimmed (lost n) fixed (f (t.get n)) (t'.get n)) :
    Trimmed lost fixed (t.alter n f) t' where
  distinct := nodup_alter h.distinct n f
  distinct' := h.distinct'
  usage m := by
    rw [get_alter]
    split
    · next same => exact same ▸ changed
    · exact h.usage m

end NameTable.Trimmed

mutual

/-- A block as it is read from the whole script and from what is left of it. -/
inductive Block.Trimmed (lost : String → Prop) : Block → Block → Prop where
  | mk {kind : BlockKind} {names names' : NameTable} {places places' : List (String × Region)}
      {inner inner' : List Block} (table : names.Trimmed lost (kind ≠ .module) names')
      (inside : Block.TrimmedAll lost inner inner') :
      Block.Trimmed lost (.mk kind names places inner) (.mk kind names' places' inner')

/-- Some of the blocks inside may be missing. -/
inductive Block.TrimmedAll (lost : String → Prop) : List Block → List Block → Prop where
  | nil : Block.TrimmedAll lost [] []
  | keep {b b' : Block} {bs bs' : List Block} (head : Block.Trimmed lost b b')
      (rest : Block.TrimmedAll lost bs bs') : Block.TrimmedAll lost (b :: bs) (b' :: bs')
  | skip {b : Block} {bs bs' : List Block} (rest : Block.TrimmedAll lost bs bs') :
      Block.TrimmedAll lost (b :: bs) bs'

end

namespace Block.TrimmedAll

variable {lost : String → Prop}

theorem append {bs bs' cs cs' : List Block} (h : TrimmedAll lost bs bs')
    (h' : TrimmedAll lost cs cs') : TrimmedAll lost (bs ++ cs) (bs' ++ cs') := by
  cases h with
  | nil => exact h'
  | keep head rest => exact .keep head (append rest h')
  | skip rest => exact .skip (append rest h')

theorem reverse {bs bs' : List Block} (h : TrimmedAll lost bs bs') :
    TrimmedAll lost bs.reverse bs'.reverse := by
  cases h with
  | nil => exact .nil
  | keep head rest =>
    rw [List.reverse_cons, List.reverse_cons]
    exact append (reverse rest) (.keep head .nil)
  | skip rest =>
    rw [List.reverse_cons]
    simpa using append (reverse rest) (.skip .nil)

/-- More blocks that are missing. -/
theorem skipAll {bs bs' : List Block} (h : TrimmedAll lost bs bs') (extra : List Block) :
    TrimmedAll lost (extra ++ bs) bs' := by
  induction extra with
  | nil => exact h
  | cons b extra ih => exact .skip ih

end Block.TrimmedAll

/-- A block that is still being read, from the whole script and from what is left of it. -/
structure OpenBlock.Trimmed (lost : String → Prop) (b b' : OpenBlock) : Prop where
  kind : b'.kind = b.kind
  className : b'.className = b.className
  sources : b'.sources = b.sources
  inTarget : b'.inTarget = b.inTarget
  table : b.names.Trimmed lost (b.kind ≠ .module) b'.names
  inside : Block.TrimmedAll lost b.inner b'.inner

namespace OpenBlock.Trimmed

variable {lost : String → Prop} {b b' : OpenBlock}

theorem usage (h : b.Trimmed lost b') (id : String) :
    Usage.Trimmed (lost (privateName b.className id)) (b.kind ≠ .module) (b.usage id)
      (b'.usage id) := by
  simpa only [OpenBlock.usage, h.className] using h.table.usage _

theorem admits (h : b.Trimmed lost b') {id : String} {f g : Usage → Usage}
    (carried : Usage.Trimmed.Carried f g) {isParameter : Bool}
    (admitted : b.Admits id f isParameter) : b'.Admits id g isParameter := by
  have before := h.usage id
  have after := carried before
  obtain ⟨once, here⟩ := admitted
  refine ⟨?_, fun target => ?_⟩
  · rw [Bool.and_eq_false_iff] at once ⊢
    exact once.imp_right fun new => Bool.eq_false_iff.mpr fun twice => by
      simp [before.parameter twice] at new
  · obtain ⟨global, nonlocal⟩ := here (h.inTarget ▸ target)
    exact ⟨Bool.eq_false_iff.mpr fun sent => by simp [after.global sent] at global,
      Bool.eq_false_iff.mpr fun sent => by simp [after.nonlocal sent] at nonlocal⟩

theorem enter (h : b.Trimmed lost b') (id : String) {f g : Usage → Usage}
    (carried : Usage.Trimmed.Carried f g) : (b.enter id f).Trimmed lost (b'.enter id g) where
  kind := h.kind
  className := h.className
  sources := h.sources
  inTarget := h.inTarget
  inside := h.inside
  table := by
    simp only [OpenBlock.enter, h.className]
    refine h.table.alter _ ?_
    have after := carried (h.usage id)
    simp only [noted, h.inTarget]
    cases b.inTarget with
    | true => exact Usage.Trimmed.carried_iterate after
    | false => exact after

theorem start (kind : BlockKind) (className : Option String) (sources : Nat) :
    (OpenBlock.start kind className sources).Trimmed lost
      (OpenBlock.start kind className sources) :=
  ⟨rfl, rfl, rfl, rfl, .refl List.nodup_nil, .nil⟩

theorem close (h : b.Trimmed lost b') : b.close.Trimmed lost b'.close := by
  obtain ⟨kind, className, names, places, inner, sources, inTarget⟩ := b
  obtain ⟨kind', className', names', places', inner', sources', inTarget'⟩ := b'
  obtain rfl : kind' = kind := h.kind
  exact .mk h.table h.inside.reverse

end OpenBlock.Trimmed

/-- The open blocks, from the whole script and from what is left of it. -/
structure OpenBlocks.Trimmed (lost : String → Prop) (s s' : OpenBlocks) : Prop where
  current : s.current.Trimmed lost s'.current
  around : List.Forall₂ (OpenBlock.Trimmed lost) s.around s'.around

/-- A mention and what becomes of it: it may stand elsewhere, and an annotated name that is given a
value may become an assigned one. -/
inductive Mention.Like : Mention → Mention → Prop where
  | enter (kind : BlockKind) : Like (.enter kind) (.enter kind)
  | leave (kind : BlockKind) : Like (.leave kind) (.leave kind)
  | name (id : String) (t : Touch) (l l' : Region) : Like (.name id t l) (.name id t l')
  | declare (d : Declaration) (id : String) (l l' : Region) :
      Like (.declare d id l) (.declare d id l')
  | annotate (id : String) (simple hasValue : Bool) (l r l' r' : Region) :
      Like (.annotate id simple hasValue l r) (.annotate id simple hasValue l' r')
  | assigned (id : String) (simple : Bool) (l r l' : Region) :
      Like (.annotate id simple true l r) (.name id .assigned l')
  | importAll (l l' : Region) : Like (.importAll l) (.importAll l')
  | enterSource : Like .enterSource .enterSource
  | leaveSource : Like .leaveSource .leaveSource
  | enterTarget : Like .enterTarget .enterTarget
  | leaveTarget : Like .leaveTarget .leaveTarget
  | rebind (id : String) (l r l' r' : Region) : Like (.rebind id l r) (.rebind id l' r')
  | bareOnly (what : String) (l l' : Region) : Like (.bareOnly what l) (.bareOnly what l')
  | yields (l l' : Region) : Like (.yields l) (.yields l')
  | suspends : Like .suspends .suspends

theorem Mention.Like.of_unplaced {m m' : Mention} (h : m.unplaced = m'.unplaced) : m.Like m' := by
  cases m <;> cases m' <;> simp only [Mention.unplaced, reduceCtorEq] at h <;>
    cases h <;> constructor

theorem Mention.Like.refl (m : Mention) : m.Like m := .of_unplaced rfl

section

variable {α β γ : Type} {R : α → β → Prop} {S : β → γ → Prop} {T : α → γ → Prop}

theorem forall₂_trans {as : List α} {bs : List β} {cs : List γ} (h : List.Forall₂ R as bs)
    (h' : List.Forall₂ S bs cs) (step : ∀ a b c, R a b → S b c → T a c) :
    List.Forall₂ T as cs := by
  induction h generalizing cs with
  | nil => cases h'; exact .nil
  | cons head rest ih =>
    cases h' with
    | cons head' rest' => exact .cons (step _ _ _ head head') (ih rest')

theorem map_eq_of_forall₂ {as : List α} {bs : List β} (h : List.Forall₂ R as bs) {f : α → γ}
    {g : β → γ} (same : ∀ a b, R a b → f a = g b) : as.map f = bs.map g := by
  induction h with
  | nil => rfl
  | cons head rest ih => rw [List.map_cons, List.map_cons, same _ _ head, ih]

theorem forall₂_modify {as : List α} {bs : List β} (h : List.Forall₂ R as bs) {f : α → α}
    {g : β → β} (keeps : ∀ a b, R a b → R (f a) (g b)) (i : Nat) :
    List.Forall₂ R (as.modify i f) (bs.modify i g) := by
  induction h generalizing i with
  | nil => cases i <;> exact .nil
  | cons head rest ih =>
    cases i with
    | zero => exact .cons (keeps _ _ head) rest
    | succ i => exact .cons head (ih i)

theorem forall₂_modify_self {as : List α} {Q : α → α → Prop} {f : α → α}
    (same : ∀ a ∈ as, Q a a) (changed : ∀ a ∈ as, Q a (f a)) (i : Nat) :
    List.Forall₂ Q as (as.modify i f) := by
  induction as generalizing i with
  | nil => cases i <;> exact .nil
  | cons a as ih =>
    have rest : ∀ b ∈ as, Q b b := fun b mem => same b (List.mem_cons_of_mem _ mem)
    cases i with
    | zero => exact .cons (changed a List.mem_cons_self) (List.forall₂_same.mpr rest)
    | succ i =>
      exact .cons (same a List.mem_cons_self)
        (ih rest (fun b mem => changed b (List.mem_cons_of_mem _ mem)) i)

end

namespace OpenBlocks

namespace Trimmed

variable {lost : String → Prop} {s s' t : OpenBlocks} {id : String} {l : Region}

theorem update (h : s.Trimmed lost s') {f g : OpenBlock → OpenBlock}
    (changed : (f s.current).Trimmed lost (g s'.current)) :
    (s.update f).Trimmed lost (s'.update g) :=
  ⟨changed, h.around⟩

theorem touch (h : s.Trimmed lost s') {u v : Touch}
    (carried : Usage.Trimmed.Carried (·.touch u) (·.touch v))
    (same : (v == .parameter) = (u == .parameter)) (l' : Region) (ok : s.touch id u l = .ok t) :
    ∃ t', s'.touch id v l' = .ok t' ∧ t.Trimmed lost t' := by
  obtain ⟨admitted, rfl⟩ := touch_eq_ok.mp ok
  exact ⟨_, touch_eq_ok.mpr ⟨same ▸ h.current.admits carried admitted, rfl⟩,
    h.update (h.current.enter id carried)⟩

theorem noteGlobal (h : s.Trimmed lost s') (n : String) :
    (s.noteGlobal n).Trimmed lost (s'.noteGlobal n) := by
  have noted : ∀ b b' : OpenBlock, b.Trimmed lost b' →
      OpenBlock.Trimmed lost { b with names := b.names.alter n (·.declare .global) }
        { b' with names := b'.names.alter n (·.declare .global) } := fun b b' hb =>
    { hb with table := hb.table.alter n (Usage.Trimmed.carried_declare .global (hb.table.usage n)) }
  have outward := List.rel_reverse h.around
  simp only [OpenBlocks.noteGlobal]
  generalize s.around.reverse = as at outward ⊢
  generalize s'.around.reverse = as' at outward ⊢
  cases outward with
  | nil => exact h.update (noted _ _ h.current)
  | cons outermost rest =>
    exact ⟨h.current, List.rel_reverse (.cons (noted _ _ outermost) rest)⟩

theorem declared (h : s.Trimmed lost s') (d : Declaration) (id : String) :
    (s.declared d id).Trimmed lost (s'.declared d id) := by
  have after : (s.update (·.enter id (·.declare d))).Trimmed lost
      (s'.update (·.enter id (·.declare d))) :=
    h.update (h.current.enter id (Usage.Trimmed.carried_declare d))
  simp only [OpenBlocks.declared, h.current.className]
  cases d with
  | global => exact after.noteGlobal _
  | nonlocal => exact after

theorem declare (h : s.Trimmed lost s') {d : Declaration} (l' : Region) (ok : s.declare d id l = .ok t) :
    ∃ t', s'.declare d id l' = .ok t' ∧ t.Trimmed lost t' := by
  obtain ⟨admitted, rfl⟩ := declare_eq_ok.mp ok
  exact ⟨_, declare_eq_ok.mpr
    ⟨h.current.admits (Usage.Trimmed.carried_declare d) admitted, rfl⟩, h.declared d id⟩

theorem checkDeclaration (h : s.Trimmed lost s') {d : Declaration} (l' : Region)
    (ok : s.checkDeclaration d id l = .ok ()) : s'.checkDeclaration d id l' = .ok () := by
  have usage := h.current.usage id
  obtain ⟨parameter, used, annotated, assigned⟩ := checkDeclaration_eq_ok.mp ok
  refine checkDeclaration_eq_ok.mpr ⟨?_, ?_, ?_, ?_⟩ <;>
    refine Bool.eq_false_iff.mpr fun touched => ?_
  · simp [usage.parameter touched] at parameter
  · simp [usage.used touched] at used
  · simp [usage.annotated touched] at annotated
  · simp [usage.assigned touched] at assigned

theorem rebindDepth {bs bs' : List OpenBlock} (h : List.Forall₂ (OpenBlock.Trimmed lost) bs bs')
    (l' : Region) {depth : Nat} (ok : OpenBlocks.rebindDepth id l bs = .ok depth) :
    OpenBlocks.rebindDepth id l' bs' = .ok depth := by
  induction h generalizing depth with
  | nil => exact ok
  | @cons b b' bs bs' head rest ih =>
    have further : ∀ {depth : Nat},
        (do return (← OpenBlocks.rebindDepth id l bs) + 1 : Except Fault Nat) = .ok depth →
          (do return (← OpenBlocks.rebindDepth id l' bs') + 1 : Except Fault Nat) = .ok depth := by
      intro depth ok
      cases deeper : OpenBlocks.rebindDepth id l bs with
      | error f => simp [deeper, bind, Except.bind] at ok
      | ok d => simpa only [deeper, ih deeper] using ok
    simp only [OpenBlocks.rebindDepth, head.kind] at ok ⊢
    cases kind : b.kind with
    | module => simpa only [kind] using ok
    | function => simpa only [kind] using ok
    | classBody name => simp [kind] at ok
    | hint => exact further (by simpa only [kind] using ok)
    | comprehension form =>
      simp only [kind] at ok ⊢
      by_cases iterates : (b'.names.get id).iterated ∧ (b'.names.get id).assigned
      · have usage := head.table.usage id
        simp [usage.iterated iterates.1, usage.assigned iterates.2, bind, Except.bind] at ok
      · rw [← Bool.and_eq_true] at iterates
        simp only [iterates]
        split at ok
        · simp [bind, Except.bind] at ok
        · exact further ok

theorem rebindDeclaration {b b' : OpenBlock} (h : b.Trimmed lost b') (id : String) :
    OpenBlocks.rebindDeclaration b' id = OpenBlocks.rebindDeclaration b id := by
  by_cases module : b.kind = .module
  · simp [OpenBlocks.rebindDeclaration, h.kind, module]
  · simp [OpenBlocks.rebindDeclaration, h.kind, ((h.table.usage id).declared module).1]

theorem reboundBlock {b b' : OpenBlock} (h : b.Trimmed lost b') (n : String) :
    (OpenBlocks.reboundBlock n b).Trimmed lost (OpenBlocks.reboundBlock n b') := by
  by_cases module : b.kind = .module
  · simpa [OpenBlocks.reboundBlock, h.kind, module] using h
  · simp only [OpenBlocks.reboundBlock, h.kind, beq_eq_false_iff_ne.mpr module,
      Bool.false_eq_true, if_false]
    exact ⟨rfl, h.className, h.sources, h.inTarget,
      h.table.alter n (Usage.Trimmed.carried_touch .assigned (h.table.usage n)), h.inside⟩

theorem record (h : s.Trimmed lost s') (n n' : String) (l' : Region) :
    (s.update (·.record n l)).Trimmed lost (s'.update (·.record n' l')) :=
  h.update { h.current with }

theorem rebindOutside (h : s.Trimmed lost s') (l' : Region) (ok : s.rebindOutside id l = .ok t) :
    ∃ t', s'.rebindOutside id l' = .ok t' ∧ t.Trimmed lost t' := by
  obtain ⟨depth, reached, ⟨missing, rfl⟩ | ⟨target, found, admitted, rfl⟩⟩ :=
    rebindOutside_eq_ok.mp ok
  all_goals
    have reached' := rebindDepth (.cons h.current h.around) l' reached
    have height : s'.around.length = _ := h.around.length_eq.symm
  · have missing' : s'.around[depth - 1]? = none := by
      rw [List.getElem?_eq_none_iff] at missing ⊢
      omega
    exact ⟨s', rebindOutside_eq_ok.mpr ⟨depth, reached', .inl ⟨missing', rfl⟩⟩, h⟩
  · obtain ⟨inside, rfl⟩ := List.getElem?_eq_some_iff.mp found
    have inside' : depth - 1 < s'.around.length := by omega
    have found' : s'.around[depth - 1]? = some s'.around[depth - 1] :=
      List.getElem?_eq_getElem inside'
    have related : OpenBlock.Trimmed lost s.around[depth - 1] s'.around[depth - 1] :=
      h.around.get inside inside'
    have declared := h.declared (OpenBlocks.rebindDeclaration s.around[depth - 1] id) id
    have admitted' := h.current.admits (Usage.Trimmed.carried_declare _) admitted
    rw [← rebindDeclaration related] at admitted'
    refine ⟨_, rebindOutside_eq_ok.mpr ⟨depth, reached', .inr ⟨_, found', admitted', rfl⟩⟩, ?_⟩
    simp only [sentOut, rebindDeclaration related, h.current.className]
    exact ⟨(declared.record _ _ l').current,
      forall₂_modify declared.around (fun _ _ hb => reboundBlock hb _) _⟩

/-- Reading one mention keeps the open blocks comparable, and what was accepted is accepted again
among fewer mentions. -/
theorem step (h : s.Trimmed lost s') (later : Bool) {m m' : Mention} (like : m.Like m')
    (ok : s.step later m = .ok t) : ∃ t', s'.step later m' = .ok t' ∧ t.Trimmed lost t' := by
  cases like with
  | enter kind =>
    simp only [OpenBlocks.step, h.current.className, h.current.sources] at ok ⊢
    split at ok
    · next silent =>
      cases ok
      exact ⟨s', by rw [if_pos silent], h⟩
    · next opens =>
      cases ok
      exact ⟨_, if_neg opens, .start _ _ _, .cons h.current h.around⟩
  | leave kind =>
    simp only [OpenBlocks.step] at ok ⊢
    split at ok
    · next silent =>
      cases ok
      exact ⟨s', by rw [if_pos silent], h⟩
    · next closes =>
      rw [if_neg closes]
      obtain ⟨b, bs⟩ := s
      obtain ⟨b', bs'⟩ := s'
      obtain ⟨current, around⟩ := h
      cases around with
      | nil =>
        cases ok
        exact ⟨_, rfl, current, .nil⟩
      | @cons outer outer' bs bs' head rest =>
        cases ok
        refine ⟨_, rfl, { head with inside := ?_ }, rest⟩
        by_cases hint : kind = .hint
        · simpa [hint] using head.inside
        · simpa [hint] using .keep current.close head.inside
  | name id u l l' =>
    simp only [OpenBlocks.step, bind, Except.bind] at ok ⊢
    cases touched : s.touch id u l with
    | error f => simp [touched] at ok
    | ok v =>
      obtain ⟨v', touched', h⟩ := h.touch (Usage.Trimmed.carried_touch u) rfl l' touched
      have own : v.touch "__class__" .used l = .ok t → ∃ t',
          v'.touch "__class__" .used l' = .ok t' ∧ t.Trimmed lost t' :=
        h.touch (Usage.Trimmed.carried_touch .used) rfl l'
      simp only [touched, touched', h.current.kind] at ok ⊢
      by_cases self : (id == "super" && u == .used) = true
      · simp only [self, if_true] at ok ⊢
        cases kind : v.current.kind <;> simp only [kind] at ok ⊢ <;>
          first | exact own ok | (cases ok; exact ⟨v', rfl, h⟩)
      · simp only [self] at ok ⊢
        cases ok
        exact ⟨v', rfl, h⟩
  | declare d id l l' =>
    simp only [OpenBlocks.step, bind, Except.bind] at ok ⊢
    cases checked : s.checkDeclaration d id l with
    | error f => simp [checked] at ok
    | ok =>
      simp only [checked, h.checkDeclaration l' checked] at ok ⊢
      cases noted : s.declare d id l with
      | error f => simp [noted] at ok
      | ok u =>
        obtain ⟨u', noted', h'⟩ := h.declare l' noted
        simp only [noted, noted'] at ok ⊢
        cases ok
        exact ⟨_, rfl, h'.record _ _ l'⟩
  | annotate id simple hasValue l r l' r' =>
    obtain ⟨here, after⟩ := step_annotate_eq_ok.mp ok
    have here' : simple = true → s'.current.kind ≠ .module →
        (s'.current.usage id).global = false ∧ (s'.current.usage id).nonlocal = false := by
      intro isSimple inner
      rw [h.current.kind] at inner
      obtain ⟨global, nonlocal⟩ := here isSimple inner
      obtain ⟨global', nonlocal'⟩ := (h.current.usage id).declared inner
      exact ⟨global'.trans global, nonlocal'.trans nonlocal⟩
    cases simple with
    | true =>
      obtain ⟨t', touched, h⟩ :=
        h.touch (Usage.Trimmed.carried_touch .annotated) rfl l' after
      exact ⟨t', step_annotate_eq_ok.mpr ⟨here', touched⟩, h⟩
    | false =>
      cases hasValue with
      | true =>
        obtain ⟨t', touched, h⟩ :=
          h.touch (Usage.Trimmed.carried_touch .assigned) rfl l' after
        exact ⟨t', step_annotate_eq_ok.mpr ⟨here', touched⟩, h⟩
      | false => exact ⟨s', step_annotate_eq_ok.mpr ⟨here', rfl⟩, after ▸ h⟩
  | assigned id simple l r l' =>
    obtain ⟨-, after⟩ := step_annotate_eq_ok.mp ok
    rw [step_name_of_ne_used (by decide)]
    cases simple with
    | true => exact h.touch Usage.Trimmed.carried_annotated rfl l' after
    | false => exact h.touch (Usage.Trimmed.carried_touch .assigned) rfl l' after
  | importAll l l' =>
    simp only [OpenBlocks.step, h.current.kind] at ok ⊢
    split at ok
    · cases ok
      exact ⟨s', by simp_all, h⟩
    · cases ok
  | enterSource =>
    cases ok
    exact ⟨_, rfl, h.update { h.current with sources := congrArg (· + 1) h.current.sources }⟩
  | leaveSource =>
    cases ok
    exact ⟨_, rfl, h.update { h.current with sources := congrArg (· - 1) h.current.sources }⟩
  | enterTarget =>
    cases ok
    exact ⟨_, rfl, h.update { h.current with inTarget := rfl }⟩
  | leaveTarget =>
    cases ok
    exact ⟨_, rfl, h.update { h.current with inTarget := rfl }⟩
  | rebind id l r l' r' =>
    simp only [OpenBlocks.step, OpenBlocks.rebind, h.current.sources, h.current.kind] at ok ⊢
    split at ok
    · cases ok
    · next free =>
      simp only [free, if_false]
      split at ok
      · exact h.rebindOutside l' ok
      · cases ok
        exact ⟨s', rfl, h⟩
  | bareOnly what l l' =>
    simp only [OpenBlocks.step, h.current.kind] at ok ⊢
    split at ok
    · cases ok
    · cases ok
      exact ⟨s', by simp_all, h⟩
  | yields l l' =>
    simp only [OpenBlocks.step, h.current.kind] at ok ⊢
    split at ok
    · cases ok
    · cases ok
      exact ⟨s', by simp_all, h⟩
  | suspends =>
    cases ok
    exact ⟨s', rfl, h⟩

end Trimmed

end OpenBlocks

end RuleBench.Script
