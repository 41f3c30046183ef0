import Mathlib.Data.List.Forall2
import RuleBench.Script.Plain

/-!
# What scripts lose with their annotations

The statements of a script form blocks, and each block that hangs below a statement is a `Suite`,
which the grammar may need to hold something. `SuiteStripped` tells how a suite comes to lose its
annotations in terms of its statements, their heads and their suites alone. The main statement says
that `plainScript` is such a change, that it leaves no annotation and no empty block at any depth,
and that it leaves alone whatever has none.
-/

namespace RuleBench.Script

/-- A block below a statement, and whether it must not be empty. -/
structure Suite where
  needed : Bool
  block : List Stmt

namespace Params

/-- Parameters by their kinds: before the slash, plain, starred, after the star, double-starred. -/
def groups (ps : Params Expr) : List (List (Param Expr)) :=
  [ps.positionalOnly, ps.plain, ps.rest.toList, ps.keywordOnly, ps.keywordRest.toList]

def annotations (ps : Params Expr) : List Expr := ps.groups.flatten.filterMap Param.annotation

end Params

namespace Param

/-- All of a parameter but its annotation. -/
def declared (p : Param Expr) : Region × String × Option Expr := (p.loc, p.name, p.default)

end Param

namespace Handler

def head (h : Handler Stmt) : Handler Stmt := { h with body := [] }

def suite (h : Handler Stmt) : Suite := ⟨true, h.body⟩

end Handler

namespace MatchCase

def head (c : MatchCase Stmt) : MatchCase Stmt := { c with body := [] }

def suite (c : MatchCase Stmt) : Suite := ⟨true, c.body⟩

end MatchCase

namespace Stmt

/-- The suites of a statement in their order. The `finally` of a `try` without handlers is needed. -/
def suites : Stmt → List Suite
  | functionDef _ _ _ _ b _ _ => [⟨true, b⟩]
  | classDef _ _ _ _ b _ => [⟨true, b⟩]
  | forLoop _ _ _ _ b e => [⟨true, b⟩, ⟨false, e⟩]
  | whileLoop _ _ b e => [⟨true, b⟩, ⟨false, e⟩]
  | ifElse _ _ b e => [⟨true, b⟩, ⟨false, e⟩]
  | withBlock _ _ _ b => [⟨true, b⟩]
  | matchOn _ _ cs => cs.map MatchCase.suite
  | tryBlock _ _ b hs e f =>
    ⟨true, b⟩ :: hs.map Handler.suite ++ [⟨false, e⟩, ⟨hs.isEmpty, f⟩]
  | _ => []

/-- The annotations that a statement has itself. -/
def annotations : Stmt → List Expr
  | functionDef _ _ _ ps _ _ result => ps.annotations ++ result.toList
  | annAssign _ _ a _ _ => [a]
  | _ => []

/-- The parameters of a definition by their kinds, apart from their annotations. -/
def parameters : Stmt → List (List (Region × String × Option Expr))
  | functionDef _ _ _ ps _ _ _ => ps.groups.map (List.map Param.declared)
  | _ => []

/-- All of a statement but its suites, its parameters and the annotation of its result. -/
def head : Stmt → Stmt
  | functionDef r isAsync n _ _ ds _ =>
    functionDef r isAsync n ⟨[], [], none, [], none⟩ [] ds none
  | classDef r n bs ks _ ds => classDef r n bs ks [] ds
  | forLoop r isAsync t s _ _ => forLoop r isAsync t s [] []
  | whileLoop r t _ _ => whileLoop r t [] []
  | ifElse r t _ _ => ifElse r t [] []
  | withBlock r isAsync is _ => withBlock r isAsync is []
  | matchOn r s cs => matchOn r s (cs.map MatchCase.head)
  | tryBlock r isStar _ hs _ _ =>
    tryBlock r isStar [] (hs.map Handler.head) [] []
  | s => s

def isAnnAssign : Stmt → Bool
  | annAssign .. => true
  | _ => false

/-- The statement occurs in a block at some depth. -/
inductive Within (s : Stmt) : List Stmt → Prop
  | here {ss : List Stmt} : s ∈ ss → Within s ss
  | inside {t : Stmt} {u : Suite} {ss : List Stmt} :
    t ∈ ss → u ∈ t.suites → Within s u.block → Within s ss

/-- There are no annotations on the statement, and no empty suites below it that are needed. -/
structure Bare (s : Stmt) : Prop where
  annotations : s.annotations = []
  filled : ∀ u ∈ s.suites, u.needed = true → u.block ≠ []

end Stmt

/-! ### Losing annotations -/

/-- An empty block that is needed gets a `pass`, any other stays as it is. -/
def Fills (needed : Bool) (before after : List Stmt) : Prop :=
  if needed && before.isEmpty then ∃ r, after = [.pass r] else after = before

mutual

/-- A statement that is kept has the same head, and its suites lose their annotations. -/
inductive StmtStripped : Stmt → Stmt → Prop
  | kept {s t : Stmt} : s.isAnnAssign = false → t.head = s.head → t.parameters = s.parameters →
    List.Forall₂ SuiteStripped s.suites t.suites → StmtStripped s t

/-- The statements of a block are kept in their order, but annotated assignments become plain ones
and annotated names without a value disappear. -/
inductive BlockStripped : List Stmt → List Stmt → Prop
  | nil : BlockStripped [] []
  | declared {r : Region} {t a : Expr} {simple : Bool} {ss ts : List Stmt} :
    BlockStripped ss ts → BlockStripped (.annAssign r t a none simple :: ss) ts
  | assigned {r : Region} {t a v : Expr} {simple : Bool} {ss ts : List Stmt} :
    BlockStripped ss ts →
      BlockStripped (.annAssign r t a (some v) simple :: ss) (.assign r [t] v :: ts)
  | kept {s t : Stmt} {ss ts : List Stmt} :
    StmtStripped s t → BlockStripped ss ts → BlockStripped (s :: ss) (t :: ts)

/-- A suite that is left empty is filled if it is needed. -/
inductive SuiteStripped : Suite → Suite → Prop
  | filled {needed : Bool} {ss ts after : List Stmt} :
    BlockStripped ss ts → Fills needed ts after → SuiteStripped ⟨needed, ss⟩ ⟨needed, after⟩

end

theorem fills_filled (r : Region) (ss : List Stmt) : Fills true ss (filled r ss) := by
  cases ss with
  | nil => exact ⟨r, rfl⟩
  | cons s ss => rfl

theorem BlockStripped.needed {ss ts : List Stmt} (h : BlockStripped ss ts) (r : Region) :
    SuiteStripped ⟨true, ss⟩ ⟨true, RuleBench.Script.filled r ts⟩ :=
  .filled h (fills_filled r ts)

theorem BlockStripped.optional {ss ts : List Stmt} (h : BlockStripped ss ts) :
    SuiteStripped ⟨false, ss⟩ ⟨false, ts⟩ :=
  .filled h rfl

theorem Params.declared_bare (ps : Params Expr) :
    ps.bare.groups.map (List.map Param.declared) = ps.groups.map (List.map Param.declared) := by
  have same : Param.declared ∘ Param.plain = Param.declared := rfl
  have rest (p : Option (Param Expr)) :
      (p.map Param.plain).toList.map Param.declared = p.toList.map Param.declared := by
    cases p <;> rfl
  simp [groups, bare, same, rest]

theorem isEmpty_plainHandlers (hs : List (Handler Stmt)) :
    (plainHandlers hs).isEmpty = hs.isEmpty := by
  cases hs <;> rfl

theorem head_plainHandlers (hs : List (Handler Stmt)) :
    (plainHandlers hs).map Handler.head = hs.map Handler.head := by
  induction hs with
  | nil => rfl
  | cons h hs ih => simp [plainHandlers, ih, Handler.head]

theorem head_plainCases (r : Region) (cs : List (MatchCase Stmt)) :
    (plainCases r cs).map MatchCase.head = cs.map MatchCase.head := by
  induction cs with
  | nil => rfl
  | cons c cs ih => simp [plainCases, ih, MatchCase.head]

mutual

theorem Stmt.stripped_plain {ss ts : List Stmt} (rest : BlockStripped ss ts) :
    ∀ s : Stmt, BlockStripped (s :: ss) (s.plain.toList ++ ts)
  | .functionDef r _ _ ps b _ _ =>
    .kept (.kept rfl rfl (Params.declared_bare ps) (.cons ((stripped_plainBlock b).needed r) .nil))
      rest
  | .classDef r _ _ _ b _ =>
    .kept (.kept rfl rfl rfl (.cons ((stripped_plainBlock b).needed r) .nil)) rest
  | .annAssign _ _ _ none _ => .declared rest
  | .annAssign _ _ _ (some _) _ => .assigned rest
  | .forLoop r _ _ _ b e | .whileLoop r _ b e | .ifElse r _ b e =>
    .kept (.kept rfl rfl rfl
      (.cons ((stripped_plainBlock b).needed r) (.cons (stripped_plainBlock e).optional .nil))) rest
  | .withBlock r _ _ b =>
    .kept (.kept rfl rfl rfl (.cons ((stripped_plainBlock b).needed r) .nil)) rest
  | .matchOn r _ cs => by
    refine .kept (.kept rfl ?_ rfl (stripped_plainCases r cs)) rest
    simp only [Stmt.head, head_plainCases]
  | .tryBlock r _ b hs e f => by
    refine .kept (.kept rfl ?_ rfl ?_) rest
    · simp only [Stmt.head, head_plainHandlers]
    · have final : SuiteStripped ⟨hs.isEmpty, f⟩
          ⟨hs.isEmpty, if hs.isEmpty then filled r (plainBlock f) else plainBlock f⟩ := by
        cases hs.isEmpty with
        | true => exact (stripped_plainBlock f).needed r
        | false => exact (stripped_plainBlock f).optional
      simp only [Stmt.suites, isEmpty_plainHandlers]
      exact List.rel_append (.cons ((stripped_plainBlock b).needed r) (stripped_plainHandlers hs))
        (.cons (stripped_plainBlock e).optional (.cons final .nil))
  | .returnStmt .. | .delete .. | .assign .. | .augAssign .. | .raise .. | .assert ..
  | .importModules .. | .importFrom .. | .global .. | .nonlocal .. | .expr .. | .pass ..
  | .breakLoop .. | .continueLoop .. => .kept (.kept rfl rfl rfl .nil) rest

theorem stripped_plainBlock : ∀ ss : List Stmt, BlockStripped ss (plainBlock ss)
  | [] => .nil
  | s :: ss => Stmt.stripped_plain (stripped_plainBlock ss) s

theorem stripped_plainHandlers : ∀ hs : List (Handler Stmt),
    List.Forall₂ SuiteStripped (hs.map Handler.suite) ((plainHandlers hs).map Handler.suite)
  | [] => .nil
  | ⟨r, _, _, b⟩ :: hs => .cons ((stripped_plainBlock b).needed r) (stripped_plainHandlers hs)

theorem stripped_plainCases (r : Region) : ∀ cs : List (MatchCase Stmt),
    List.Forall₂ SuiteStripped (cs.map MatchCase.suite) ((plainCases r cs).map MatchCase.suite)
  | [] => .nil
  | ⟨_, _, b⟩ :: cs => .cons ((stripped_plainBlock b).needed r) (stripped_plainCases r cs)

end

/-! ### Blocks without annotations -/

/-- A block without annotations and needed but empty suites at any depth. -/
def BareThroughout (ss : List Stmt) : Prop := ∀ s : Stmt, s.Within ss → s.Bare

/-- A suite without annotations and needed but empty suites, itself included. -/
structure Suite.Bare (u : Suite) : Prop where
  filled : u.needed = true → u.block ≠ []
  throughout : BareThroughout u.block

@[simp] theorem bareThroughout_nil : BareThroughout [] := by
  rintro s (inside | ⟨inside, _, _⟩) <;> cases inside

theorem bareThroughout_cons {s : Stmt} {ss : List Stmt} :
    BareThroughout (s :: ss) ↔
      s.annotations = [] ∧ (∀ u ∈ s.suites, u.Bare) ∧ BareThroughout ss := by
  constructor
  · intro bare
    have own := bare s (.here List.mem_cons_self)
    refine ⟨own.annotations, fun u among => ⟨own.filled u among, fun t inside => ?_⟩,
      fun t inside => ?_⟩
    · exact bare t (.inside List.mem_cons_self among inside)
    · cases inside with
      | here inside => exact bare t (.here (List.mem_cons_of_mem s inside))
      | inside outer among inside =>
        exact bare t (.inside (List.mem_cons_of_mem s outer) among inside)
  · rintro ⟨annotations, suites, rest⟩ t inside
    cases inside with
    | here inside =>
      cases inside with
      | head => exact ⟨annotations, fun u among => (suites u among).filled⟩
      | tail _ inside => exact rest t (.here inside)
    | inside outer among inside =>
      cases outer with
      | head => exact (suites _ among).throughout t inside
      | tail _ outer => exact rest t (.inside outer among inside)

theorem bare_needed {r : Region} {ss : List Stmt} (bare : BareThroughout ss) :
    Suite.Bare ⟨true, filled r ss⟩ where
  filled _ := filled_ne_nil r ss
  throughout := by
    cases ss with
    | nil => simp [filled, bareThroughout_cons, Stmt.annotations, Stmt.suites]
    | cons s ss => exact bare

theorem bare_optional {ss : List Stmt} (bare : BareThroughout ss) : Suite.Bare ⟨false, ss⟩ where
  filled := nofun
  throughout := bare

@[simp] theorem Params.annotations_bare (ps : Params Expr) : ps.bare.annotations = [] := by
  have rest (p : Option (Param Expr)) :
      (p.map Param.plain).toList.filterMap Param.annotation = [] := by
    cases p <;> rfl
  simp [annotations, groups, bare, List.filterMap_map, Param.plain, rest]

mutual

theorem Stmt.bare_plain {ts : List Stmt} (rest : BareThroughout ts) :
    ∀ s : Stmt, BareThroughout (s.plain.toList ++ ts)
  | .functionDef r _ _ ps b _ _ => bareThroughout_cons.mpr
    ⟨by simp [Stmt.annotations], by simpa [Stmt.suites] using bare_needed (bare_plainBlock b), rest⟩
  | .classDef r _ _ _ b _ | .withBlock r _ _ b => bareThroughout_cons.mpr
    ⟨rfl, by simpa [Stmt.suites] using bare_needed (bare_plainBlock b), rest⟩
  | .annAssign _ _ _ none _ => rest
  | .annAssign _ _ _ (some _) _ => bareThroughout_cons.mpr ⟨rfl, by simp [Stmt.suites], rest⟩
  | .forLoop r _ _ _ b e | .whileLoop r _ b e | .ifElse r _ b e => bareThroughout_cons.mpr
    ⟨rfl, by simpa [Stmt.suites] using
      ⟨bare_needed (bare_plainBlock b), bare_optional (bare_plainBlock e)⟩, rest⟩
  | .matchOn r _ cs => bareThroughout_cons.mpr
    ⟨rfl, by simpa [Stmt.suites] using bare_plainCases r cs, rest⟩
  | .tryBlock r _ b hs e f => by
    have final : Suite.Bare
        ⟨hs.isEmpty, if hs.isEmpty then filled r (plainBlock f) else plainBlock f⟩ := by
      cases hs.isEmpty with
      | true => exact bare_needed (bare_plainBlock f)
      | false => exact bare_optional (bare_plainBlock f)
    refine bareThroughout_cons.mpr ⟨rfl, ?_, rest⟩
    simp only [Stmt.suites, isEmpty_plainHandlers, List.mem_append, List.mem_cons]
    rintro u ((rfl | among) | rfl | rfl | among)
    · exact bare_needed (bare_plainBlock b)
    · exact bare_plainHandlers hs u among
    · exact bare_optional (bare_plainBlock e)
    · exact final
    · cases among
  | .returnStmt .. | .delete .. | .assign .. | .augAssign .. | .raise .. | .assert ..
  | .importModules .. | .importFrom .. | .global .. | .nonlocal .. | .expr .. | .pass ..
  | .breakLoop .. | .continueLoop .. =>
    bareThroughout_cons.mpr ⟨rfl, by simp [Stmt.suites], rest⟩

theorem bare_plainBlock : ∀ ss : List Stmt, BareThroughout (plainBlock ss)
  | [] => bareThroughout_nil
  | s :: ss => Stmt.bare_plain (bare_plainBlock ss) s

theorem bare_plainHandlers : ∀ hs : List (Handler Stmt),
    ∀ u ∈ (plainHandlers hs).map Handler.suite, u.Bare
  | [] => by simp [plainHandlers]
  | ⟨_, _, _, b⟩ :: hs => List.forall_mem_cons.mpr
    ⟨bare_needed (bare_plainBlock b), bare_plainHandlers hs⟩

theorem bare_plainCases (r : Region) : ∀ cs : List (MatchCase Stmt),
    ∀ u ∈ (plainCases r cs).map MatchCase.suite, u.Bare
  | [] => by simp [plainCases]
  | ⟨_, _, b⟩ :: cs => List.forall_mem_cons.mpr
    ⟨bare_needed (bare_plainBlock b), bare_plainCases r cs⟩

end

/-! ### Nothing to lose -/

theorem filled_of_ne_nil (r : Region) {ss : List Stmt} (nonempty : ss ≠ []) : filled r ss = ss := by
  cases ss with
  | nil => exact absurd rfl nonempty
  | cons s ss => rfl

/-- A suite that is needed stays as it is if its statements do. -/
theorem Suite.Bare.filled_eq {ss : List Stmt} (bare : Suite.Bare ⟨true, ss⟩)
    (same : plainBlock ss = ss) (r : Region) : Script.filled r (plainBlock ss) = ss := by
  rw [same, filled_of_ne_nil r (bare.filled rfl)]

theorem Params.bare_eq {ps : Params Expr} (unannotated : ps.annotations = []) : ps.bare = ps := by
  simp only [annotations, groups, List.filterMap_eq_nil_iff, List.mem_flatten] at unannotated
  have group {p : List (Param Expr)} (among : p ∈ ps.groups) : p.map Param.plain = p := by
    refine (List.map_congr_left fun q inside => ?_).trans (List.map_id p)
    have := unannotated q ⟨p, among, inside⟩
    cases q
    cases this
    rfl
  have rest {p : Option (Param Expr)} (among : p.toList ∈ ps.groups) : p.map Param.plain = p := by
    have := group among
    cases p with
    | none => rfl
    | some p => simpa using this
  simp only [bare]
  rw [group (p := ps.positionalOnly) (by simp [groups]), group (p := ps.plain) (by simp [groups]),
    group (p := ps.keywordOnly) (by simp [groups]), rest (p := ps.rest) (by simp [groups]),
    rest (p := ps.keywordRest) (by simp [groups])]

mutual

theorem Stmt.plain_of_bare : ∀ s : Stmt, s.annotations = [] → (∀ u ∈ s.suites, u.Bare) →
    s.plain = some s
  | .functionDef r _ _ ps b _ result, unannotated, suites => by
    obtain ⟨parameters, result⟩ := List.append_eq_nil_iff.mp unannotated
    have body := suites ⟨true, b⟩ List.mem_cons_self
    rw [Option.toList_eq_nil_iff] at result
    rw [Stmt.plain, Params.bare_eq parameters, body.filled_eq (plainBlock_of_bare b body.throughout),
      result]
  | .classDef r _ _ _ b _, _, suites | .withBlock r _ _ b, _, suites => by
    have body := suites ⟨true, b⟩ List.mem_cons_self
    rw [Stmt.plain, body.filled_eq (plainBlock_of_bare b body.throughout)]
  | .annAssign .., unannotated, _ => by cases unannotated
  | .forLoop r _ _ _ b e, _, suites | .whileLoop r _ b e, _, suites | .ifElse r _ b e, _, suites => by
    have body := suites ⟨true, b⟩ List.mem_cons_self
    have orelse := suites ⟨false, e⟩ (by simp [Stmt.suites])
    rw [Stmt.plain, body.filled_eq (plainBlock_of_bare b body.throughout),
      plainBlock_of_bare e orelse.throughout]
  | .matchOn r _ cs, _, suites => by
    rw [Stmt.plain, plainCases_of_bare r cs suites]
  | .tryBlock r _ b hs e f, _, suites => by
    simp only [Stmt.suites, List.mem_append, List.mem_cons] at suites
    have body := suites ⟨true, b⟩ (by simp)
    have orelse := suites ⟨false, e⟩ (by simp)
    have final := suites ⟨hs.isEmpty, f⟩ (by simp)
    have same : (if hs.isEmpty then filled r (plainBlock f) else plainBlock f) = f := by
      rw [plainBlock_of_bare f final.throughout]
      split
      · next needed => exact filled_of_ne_nil r (final.filled needed)
      · rfl
    rw [Stmt.plain, body.filled_eq (plainBlock_of_bare b body.throughout),
      plainHandlers_of_bare hs fun u among => suites u (.inl (.inr among)),
      plainBlock_of_bare e orelse.throughout]
    simp only [same]
  | .returnStmt .., _, _ | .delete .., _, _ | .assign .., _, _ | .augAssign .., _, _
  | .raise .., _, _ | .assert .., _, _ | .importModules .., _, _ | .importFrom .., _, _
  | .global .., _, _ | .nonlocal .., _, _ | .expr .., _, _ | .pass .., _, _
  | .breakLoop .., _, _ | .continueLoop .., _, _ => rfl

theorem plainBlock_of_bare : ∀ ss : List Stmt, BareThroughout ss → plainBlock ss = ss
  | [], _ => rfl
  | s :: ss, bare => by
    obtain ⟨unannotated, suites, rest⟩ := bareThroughout_cons.mp bare
    rw [plainBlock, Stmt.plain_of_bare s unannotated suites, plainBlock_of_bare ss rest]
    rfl

theorem plainHandlers_of_bare : ∀ hs : List (Handler Stmt),
    (∀ u ∈ hs.map Handler.suite, u.Bare) → plainHandlers hs = hs
  | [], _ => rfl
  | ⟨r, _, _, b⟩ :: hs, bare => by
    obtain ⟨body, rest⟩ := List.forall_mem_cons.mp bare
    rw [plainHandlers, body.filled_eq (plainBlock_of_bare b body.throughout),
      plainHandlers_of_bare hs rest]

theorem plainCases_of_bare (r : Region) : ∀ cs : List (MatchCase Stmt),
    (∀ u ∈ cs.map MatchCase.suite, u.Bare) → plainCases r cs = cs
  | [], _ => rfl
  | ⟨_, _, b⟩ :: cs, bare => by
    obtain ⟨body, rest⟩ := List.forall_mem_cons.mp bare
    rw [plainCases, body.filled_eq (plainBlock_of_bare b body.throughout),
      plainCases_of_bare r cs rest]

end

theorem plainScript_of_bare {script : List Stmt} (bare : Suite.Bare ⟨true, script⟩) :
    plainScript script = script :=
  bare.filled_eq (plainBlock_of_bare script bare.throughout) default

/-- Annotations are erased and nothing else. No parameter, no result and no assignment keeps an
annotation at any depth; the script as a suite loses them as `SuiteStripped` says, and no suite that
is needed is left empty, the script included. A script that has neither annotations nor needed but
empty suites stays as it is, so a second time nothing changes. -/
theorem plainScript_only_erases (script : List Stmt) :
    (∀ s : Stmt, s.Within (plainScript script) → s.annotations = []) ∧
    SuiteStripped ⟨true, script⟩ ⟨true, plainScript script⟩ ∧
    plainScript script ≠ [] ∧
    (∀ s : Stmt, s.Within (plainScript script) →
      ∀ u ∈ s.suites, u.needed = true → u.block ≠ []) ∧
    (script ≠ [] →
      (∀ s : Stmt, s.Within script → s.annotations = [] ∧
        ∀ u ∈ s.suites, u.needed = true → u.block ≠ []) →
      plainScript script = script) ∧
    plainScript (plainScript script) = plainScript script := by
  have bare : Suite.Bare ⟨true, plainScript script⟩ := bare_needed (bare_plainBlock script)
  refine ⟨fun s inside => (bare.throughout s inside).annotations,
    (stripped_plainBlock script).needed default, bare.filled rfl,
    fun s inside => (bare.throughout s inside).filled, fun nonempty clean => ?_,
    plainScript_of_bare bare⟩
  exact plainScript_of_bare ⟨fun _ => nonempty, fun s inside => ⟨(clean s inside).1, (clean s inside).2⟩⟩

end RuleBench.Script
