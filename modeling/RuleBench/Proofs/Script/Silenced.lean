import RuleBench.Execution.Names
import RuleBench.Proofs.Script.Fates
import RuleBench.Proofs.Script.Unplaced

/-!
# Scripts whose annotations say nothing

With `None` for every annotation a script still has its annotations, but nothing is left in them to
evaluate. Where every annotated name has a value, such a script mentions its names as the lowered
script does: only the remark is gone that a name is annotated, and the blocks for annotations, which
are empty. So functions and classes of both own the same names.
-/

namespace RuleBench.Script

/-- The annotation that says nothing. -/
def silence (_ : Expr) : Expr := .literal default .none

def Param.silenced (p : Param Expr) : Param Expr :=
  ⟨p.loc, p.name, p.annotation.map silence, p.default⟩

def Params.silenced (ps : Params Expr) : Params Expr :=
  ⟨ps.positionalOnly.map Param.silenced, ps.plain.map Param.silenced, ps.rest.map Param.silenced,
    ps.keywordOnly.map Param.silenced, ps.keywordRest.map Param.silenced⟩

mutual

/-- A statement with `None` for every annotation. -/
def Stmt.silenced : Stmt → Stmt
  | .functionDef r isAsync n ps b ds ret =>
    .functionDef r isAsync n ps.silenced (silencedBlock b) ds (ret.map silence)
  | .classDef r n bs ks b ds => .classDef r n bs ks (silencedBlock b) ds
  | .annAssign r t a v simple => .annAssign r t (silence a) v simple
  | .forLoop r isAsync t s b e => .forLoop r isAsync t s (silencedBlock b) (silencedBlock e)
  | .whileLoop r t b e => .whileLoop r t (silencedBlock b) (silencedBlock e)
  | .ifElse r t b e => .ifElse r t (silencedBlock b) (silencedBlock e)
  | .withBlock r isAsync is b => .withBlock r isAsync is (silencedBlock b)
  | .matchOn r s cs => .matchOn r s (silencedCases cs)
  | .tryBlock r isStar b hs e f =>
    .tryBlock r isStar (silencedBlock b) (silencedHandlers hs) (silencedBlock e) (silencedBlock f)
  | s => s

/-- Statements with `None` for every annotation. -/
def silencedBlock : List Stmt → List Stmt
  | [] => []
  | s :: ss => s.silenced :: silencedBlock ss

def silencedHandlers : List (Handler Stmt) → List (Handler Stmt)
  | [] => []
  | ⟨r, t, n, b⟩ :: hs => ⟨r, t, n, silencedBlock b⟩ :: silencedHandlers hs

def silencedCases : List (MatchCase Stmt) → List (MatchCase Stmt)
  | [] => []
  | ⟨p, g, b⟩ :: cs => ⟨p, g, silencedBlock b⟩ :: silencedCases cs

end

mutual

/-- Every annotated name in a statement has a value. -/
def Stmt.valued : Stmt → Bool
  | .functionDef _ _ _ _ b _ _ => valuedBlock b
  | .classDef _ _ _ _ b _ => valuedBlock b
  | .annAssign _ _ _ v _ => v.isSome
  | .forLoop _ _ _ _ b e => valuedBlock b && valuedBlock e
  | .whileLoop _ _ b e => valuedBlock b && valuedBlock e
  | .ifElse _ _ b e => valuedBlock b && valuedBlock e
  | .withBlock _ _ _ b => valuedBlock b
  | .matchOn _ _ cs => valuedCases cs
  | .tryBlock _ _ b hs e f =>
    valuedBlock b && valuedHandlers hs && valuedBlock e && valuedBlock f
  | _ => true

/-- No annotated declaration in these statements is without a value. -/
def valuedBlock : List Stmt → Bool
  | [] => true
  | s :: ss => s.valued && valuedBlock ss

def valuedHandlers : List (Handler Stmt) → Bool
  | [] => true
  | ⟨_, _, _, b⟩ :: hs => valuedBlock b && valuedHandlers hs

def valuedCases : List (MatchCase Stmt) → Bool
  | [] => true
  | ⟨_, _, b⟩ :: cs => valuedBlock b && valuedCases cs

end

/-! ### Places -/

theorem unplacedParamList_silenced (ps : List (Param Expr)) :
    unplacedParamList (ps.map Param.silenced) = (unplacedParamList ps).map Param.silenced := by
  induction ps with
  | nil => rfl
  | cons p ps ih =>
    obtain ⟨l, n, a, d⟩ := p
    cases a <;> simp [unplacedParamList, Param.silenced, unplacedOption, silence, Expr.unplaced, ih]

theorem unplacedRest_silenced (p : Option (Param Expr)) :
    unplacedRest (p.map Param.silenced) = (unplacedRest p).map Param.silenced := by
  cases p with
  | none => rfl
  | some p =>
    obtain ⟨l, n, a, d⟩ := p
    cases a <;> rfl

theorem unplacedParams_silenced (ps : Params Expr) :
    unplacedParams ps.silenced = (unplacedParams ps).silenced := by
  obtain ⟨po, pl, r, ko, kr⟩ := ps
  simp only [Params.silenced, unplacedParams, unplacedParamList_silenced, unplacedRest_silenced]

mutual

theorem Stmt.unplaced_silenced : ∀ s : Stmt, s.silenced.unplaced = s.unplaced.silenced
  | .functionDef _ _ _ ps b _ ret => by
    cases ret <;> simp [Stmt.silenced, Stmt.unplaced, unplacedParams_silenced ps, unplacedOption,
      unplacedBlock_silenced b, silence, Expr.unplaced]
  | .classDef _ _ _ _ b _ => by simp [Stmt.silenced, Stmt.unplaced, unplacedBlock_silenced b]
  | .annAssign .. => rfl
  | .forLoop _ _ _ _ b e => by
    simp [Stmt.silenced, Stmt.unplaced, unplacedBlock_silenced b, unplacedBlock_silenced e]
  | .whileLoop _ _ b e => by
    simp [Stmt.silenced, Stmt.unplaced, unplacedBlock_silenced b, unplacedBlock_silenced e]
  | .ifElse _ _ b e => by
    simp [Stmt.silenced, Stmt.unplaced, unplacedBlock_silenced b, unplacedBlock_silenced e]
  | .withBlock _ _ _ b => by simp [Stmt.silenced, Stmt.unplaced, unplacedBlock_silenced b]
  | .matchOn _ _ cs => by simp [Stmt.silenced, Stmt.unplaced, unplacedCases_silenced cs]
  | .tryBlock _ _ b hs e f => by
    simp [Stmt.silenced, Stmt.unplaced, unplacedBlock_silenced b, unplacedHandlers_silenced hs,
      unplacedBlock_silenced e, unplacedBlock_silenced f]
  | .returnStmt .. | .delete .. | .assign .. | .augAssign .. | .raise .. | .assert ..
  | .importModules .. | .importFrom .. | .global .. | .nonlocal .. | .expr .. | .pass _
  | .breakLoop _ | .continueLoop _ => rfl

theorem unplacedBlock_silenced : ∀ ss : List Stmt,
    unplacedBlock (silencedBlock ss) = silencedBlock (unplacedBlock ss)
  | [] => rfl
  | s :: ss => by
    simp [silencedBlock, unplacedBlock, s.unplaced_silenced, unplacedBlock_silenced ss]

theorem unplacedHandlers_silenced : ∀ hs : List (Handler Stmt),
    unplacedHandlers (silencedHandlers hs) = silencedHandlers (unplacedHandlers hs)
  | [] => rfl
  | ⟨_, _, _, b⟩ :: hs => by
    simp [silencedHandlers, unplacedHandlers, unplacedBlock_silenced b,
      unplacedHandlers_silenced hs]

theorem unplacedCases_silenced : ∀ cs : List (MatchCase Stmt),
    unplacedCases (silencedCases cs) = silencedCases (unplacedCases cs)
  | [] => rfl
  | ⟨_, _, b⟩ :: cs => by
    simp [silencedCases, unplacedCases, unplacedBlock_silenced b, unplacedCases_silenced cs]

end

theorem unplacedParamList_plain (ps : List (Param Expr)) :
    unplacedParamList (ps.map Param.plain) = (unplacedParamList ps).map Param.plain := by
  induction ps with
  | nil => rfl
  | cons p ps ih => simp [unplacedParamList, Param.plain, unplacedOption, ih]

theorem unplacedRest_plain (p : Option (Param Expr)) :
    unplacedRest (p.map Param.plain) = (unplacedRest p).map Param.plain := by
  cases p <;> rfl

theorem unplacedParams_bare (ps : Params Expr) :
    unplacedParams ps.bare = (unplacedParams ps).bare := by
  obtain ⟨po, pl, r, ko, kr⟩ := ps
  simp only [Params.bare, unplacedParams, unplacedParamList_plain, unplacedRest_plain]

theorem unplacedBlock_filled (r : Region) (ss : List Stmt) :
    unplacedBlock (filled r ss) = filled default (unplacedBlock ss) := by
  cases ss <;> rfl

theorem isEmpty_unplacedHandlers (hs : List (Handler Stmt)) :
    (unplacedHandlers hs).isEmpty = hs.isEmpty := by
  cases hs <;> rfl

mutual

theorem Stmt.unplaced_plain : ∀ s : Stmt,
    unplacedBlock s.plain.toList = s.unplaced.plain.toList
  | .functionDef _ _ _ ps b _ _ => by
    simp [Stmt.plain, Stmt.unplaced, unplacedBlock, unplacedParams_bare ps, unplacedOption,
      unplacedBlock_filled, unplacedBlock_plain b]
  | .classDef _ _ _ _ b _ => by
    simp [Stmt.plain, Stmt.unplaced, unplacedBlock, unplacedBlock_filled, unplacedBlock_plain b]
  | .annAssign _ _ _ none _ => rfl
  | .annAssign _ _ _ (some _) _ => rfl
  | .forLoop _ _ _ _ b e | .whileLoop _ _ b e | .ifElse _ _ b e => by
    simp [Stmt.plain, Stmt.unplaced, unplacedBlock, unplacedBlock_filled, unplacedBlock_plain b,
      unplacedBlock_plain e]
  | .withBlock _ _ _ b => by
    simp [Stmt.plain, Stmt.unplaced, unplacedBlock, unplacedBlock_filled, unplacedBlock_plain b]
  | .matchOn r _ cs => by
    simp [Stmt.plain, Stmt.unplaced, unplacedBlock, unplacedCases_plain r cs]
  | .tryBlock r _ b hs e f => by
    have final : unplacedBlock (if hs.isEmpty then filled r (plainBlock f) else plainBlock f) =
        if hs.isEmpty then filled default (unplacedBlock (plainBlock f))
        else unplacedBlock (plainBlock f) := by
      split
      · exact unplacedBlock_filled r _
      · rfl
    simp only [Stmt.plain, Stmt.unplaced, Option.toList_some, unplacedBlock, unplacedBlock_filled,
      final, isEmpty_unplacedHandlers, unplacedBlock_plain b, unplacedHandlers_plain hs,
      unplacedBlock_plain e, unplacedBlock_plain f]
  | .returnStmt .. | .delete .. | .assign .. | .augAssign .. | .raise .. | .assert ..
  | .importModules .. | .importFrom .. | .global .. | .nonlocal .. | .expr .. | .pass _
  | .breakLoop _ | .continueLoop _ => rfl

theorem unplacedBlock_plain : ∀ ss : List Stmt,
    unplacedBlock (plainBlock ss) = plainBlock (unplacedBlock ss)
  | [] => rfl
  | s :: ss => by
    simp [plainBlock, unplacedBlock, unplacedBlock_append, s.unplaced_plain, unplacedBlock_plain ss]

theorem unplacedHandlers_plain : ∀ hs : List (Handler Stmt),
    unplacedHandlers (plainHandlers hs) = plainHandlers (unplacedHandlers hs)
  | [] => rfl
  | ⟨_, _, _, b⟩ :: hs => by
    simp [plainHandlers, unplacedHandlers, unplacedBlock_filled, unplacedBlock_plain b,
      unplacedHandlers_plain hs]

theorem unplacedCases_plain (r : Region) : ∀ cs : List (MatchCase Stmt),
    unplacedCases (plainCases r cs) = plainCases default (unplacedCases cs)
  | [] => rfl
  | ⟨_, _, b⟩ :: cs => by
    simp [plainCases, unplacedCases, unplacedBlock_filled, unplacedBlock_plain b,
      unplacedCases_plain r cs]

end

theorem unplacedBlock_plainScript (script : List Stmt) :
    unplacedBlock (plainScript script) = plainScript (unplacedBlock script) := by
  rw [plainScript, unplacedBlock_filled, unplacedBlock_plain, plainScript]

mutual

theorem Stmt.valued_unplaced : ∀ s : Stmt, s.unplaced.valued = s.valued
  | .functionDef _ _ _ _ b _ _ | .classDef _ _ _ _ b _ | .withBlock _ _ _ b =>
    valuedBlock_unplaced b
  | .annAssign _ _ _ none _ => rfl
  | .annAssign _ _ _ (some _) _ => rfl
  | .forLoop _ _ _ _ b e | .whileLoop _ _ b e | .ifElse _ _ b e => by
    simp [Stmt.unplaced, Stmt.valued, valuedBlock_unplaced b, valuedBlock_unplaced e]
  | .matchOn _ _ cs => valuedCases_unplaced cs
  | .tryBlock _ _ b hs e f => by
    simp [Stmt.unplaced, Stmt.valued, valuedBlock_unplaced b, valuedHandlers_unplaced hs,
      valuedBlock_unplaced e, valuedBlock_unplaced f]
  | .returnStmt .. | .delete .. | .assign .. | .augAssign .. | .raise .. | .assert ..
  | .importModules .. | .importFrom .. | .global .. | .nonlocal .. | .expr .. | .pass _
  | .breakLoop _ | .continueLoop _ => rfl

theorem valuedBlock_unplaced : ∀ ss : List Stmt, valuedBlock (unplacedBlock ss) = valuedBlock ss
  | [] => rfl
  | s :: ss => by simp [unplacedBlock, valuedBlock, s.valued_unplaced, valuedBlock_unplaced ss]

theorem valuedHandlers_unplaced : ∀ hs : List (Handler Stmt),
    valuedHandlers (unplacedHandlers hs) = valuedHandlers hs
  | [] => rfl
  | ⟨_, _, _, b⟩ :: hs => by
    simp [unplacedHandlers, valuedHandlers, valuedBlock_unplaced b, valuedHandlers_unplaced hs]

theorem valuedCases_unplaced : ∀ cs : List (MatchCase Stmt),
    valuedCases (unplacedCases cs) = valuedCases cs
  | [] => rfl
  | ⟨_, _, b⟩ :: cs => by
    simp [unplacedCases, valuedCases, valuedBlock_unplaced b, valuedCases_unplaced cs]

end

/-! ### Mentions -/

/-- Mentions that are the same but for annotations that say nothing. -/
inductive Silenced : List Mention → List Mention → Prop
  | nil : Silenced [] []
  | same (m : Mention) {ms ms' : List Mention} (rest : Silenced ms ms') :
    Silenced (m :: ms) (m :: ms')
  | annotated (id : String) (simple : Bool) (loc whole : Region) {ms ms' : List Mention}
    (rest : Silenced ms ms') :
    Silenced (.annotate id simple true loc whole :: ms) (.name id .assigned loc :: ms')
  | hint {ms ms' : List Mention} (rest : Silenced ms ms') :
    Silenced (.enter .hint :: .leave .hint :: ms) ms'

namespace Silenced

variable {ms ms' ns ns' : List Mention}

theorem refl (ms : List Mention) : Silenced ms ms := by
  induction ms with
  | nil => exact .nil
  | cons m ms ih => exact .same m ih

theorem append (h : Silenced ms ms') (h' : Silenced ns ns') :
    Silenced (ms ++ ns) (ms' ++ ns') := by
  induction h with
  | nil => exact h'
  | same m _ ih => exact .same m ih
  | annotated id simple loc whole _ ih => exact .annotated id simple loc whole ih
  | hint _ ih => exact .hint ih

/-- Both bind and declare the same names. -/
theorem blockNames (h : Silenced ms ms') (inner : List Bool) :
    Execution.BlockNames.ofMentions inner ms = Execution.BlockNames.ofMentions inner ms' := by
  induction h generalizing inner with
  | nil => rfl
  | same m _ ih =>
    cases m with
    | enter kind => cases kind <;> simp [Execution.BlockNames.ofMentions, ih]
    | leave kind => cases kind <;> simp [Execution.BlockNames.ofMentions, ih]
    | _ => cases inner <;> simp [Execution.BlockNames.ofMentions, ih]
  | annotated id simple loc whole _ ih =>
    cases inner <;> simp [Execution.BlockNames.ofMentions, ih]
  | hint _ ih => simp [Execution.BlockNames.ofMentions, ih]

theorem yieldsAt (h : Silenced ms ms') (depth : Nat) :
    yieldsAt depth ms = Script.yieldsAt depth ms' := by
  induction h generalizing depth with
  | nil => rfl
  | same m _ ih =>
    cases m with
    | enter kind => cases kind <;> simp [Script.yieldsAt, ih]
    | leave kind => cases kind <;> cases depth <;> simp [Script.yieldsAt, ih]
    | _ => cases depth <;> simp [Script.yieldsAt, ih]
  | annotated id simple loc whole _ ih => cases depth <;> simp [Script.yieldsAt, ih]
  | hint _ ih => simp [Script.yieldsAt, ih]

end Silenced

theorem mentionsOfDefault_silenced (ps : List (Param Expr)) :
    mentionsOfDefault (ps.map Param.silenced) = mentionsOfDefault ps := by
  induction ps with
  | nil => rfl
  | cons p ps ih => simp [mentionsOfDefault, Param.silenced, ih]

@[simp] theorem mentionsOfDefaults_silenced (ps : Params Expr) :
    mentionsOfDefaults ps.silenced = mentionsOfDefaults ps := by
  obtain ⟨po, pl, r, ko, kr⟩ := ps
  simp only [Params.silenced, mentionsOfDefaults, mentionsOfDefault_silenced]

@[simp] theorem Params.mentions_silenced (ps : Params Expr) : ps.silenced.mentions = ps.mentions := by
  have same : Param.mention ∘ Param.silenced = Param.mention := rfl
  have option (p : Option (Param Expr)) :
      (p.map Param.silenced).toList.map Param.mention = p.toList.map Param.mention := by
    cases p <;> rfl
  simp only [Params.mentions, Params.silenced, List.map_append, List.map_map, same, option]

@[simp] theorem Params.annotationMentions_silenced (ps : Params Expr) :
    ps.silenced.annotationMentions = [] := by
  have none (p : Param Expr) : mentionsOfOption p.silenced.annotation = [] := by
    obtain ⟨l, n, a, d⟩ := p
    cases a <;> rfl
  simp [Params.annotationMentions, Params.silenced, none]

/-! ### Fates -/

/-- Mentions of a silenced script beside those of its source with what lowering makes of them: the
mentions of the annotations are gone, but not their blocks; those that lowering keeps are there as
they were before. -/
inductive Hushed : List Mention → List Fate → Prop
  | nil : Hushed [] []
  | kept (m : Mention) {ms : List Mention} {fs : List Fate} (rest : Hushed ms fs) :
    Hushed (m :: ms) ((m, some m) :: fs)
  | annotated (id : String) (simple : Bool) (loc whole : Region) {ms : List Mention}
    {fs : List Fate} (rest : Hushed ms fs) :
    Hushed (.annotate id simple true loc whole :: ms)
      ((.annotate id simple true loc whole, some (.name id .assigned loc)) :: fs)
  | dropped (m : Mention) {ms : List Mention} {fs : List Fate} (rest : Hushed ms fs) :
    Hushed ms ((m, none) :: fs)
  | hint {ms : List Mention} {fs : List Fate} (rest : Hushed ms fs) :
    Hushed (.enter .hint :: .leave .hint :: ms) fs

namespace Hushed

variable {ms ns : List Mention} {fs gs : List Fate}

theorem append (h : Hushed ms fs) (h' : Hushed ns gs) : Hushed (ms ++ ns) (fs ++ gs) := by
  induction h with
  | nil => exact h'
  | kept m _ ih => exact .kept m ih
  | annotated id simple loc whole _ ih => exact .annotated id simple loc whole ih
  | dropped m _ ih => exact .dropped m ih
  | hint _ ih => exact .hint ih

theorem all (ms : List Mention) : Hushed ms (Script.kept ms) := by
  induction ms with
  | nil => exact .nil
  | cons m ms ih => exact .kept m ih

theorem gone (ms : List Mention) : Hushed [] (Script.dropped ms) := by
  induction ms with
  | nil => exact .nil
  | cons m ms ih => exact .dropped m ih

/-- Nothing of an annotation is left but its block. -/
theorem silence (ms : List Mention) :
    Hushed (annotationMentions []) (Script.dropped ms) := .hint (gone ms)

theorem silenced (h : Hushed ms fs) : Silenced ms (fs.filterMap Prod.snd) := by
  induction h with
  | nil => exact .nil
  | kept m _ ih => exact .same m ih
  | annotated id simple loc whole _ ih => exact .annotated id simple loc whole ih
  | dropped m _ ih => exact ih
  | hint _ ih => exact .hint ih

mutual

theorem stmt : ∀ {s : Stmt}, s.valued = true → Hushed s.silenced.mentions s.fates
  | .functionDef r isAsync n ps b ds ret, h => by
    have body := (block (show valuedBlock b = true from h)).append (all [.leave .function])
    have inside := (all (mentionsOfAll ds)).append ((all [.enter .function]).append
      ((all ((if isAsync then [.suspends] else []) ++ ps.mentions)).append body))
    have hints : Hushed (annotationMentions []) (Script.kept [.enter .hint]
        ++ Script.dropped ps.annotationMentions ++ Script.kept [.leave .hint]) :=
      .kept _ ((gone ps.annotationMentions).append (all [.leave .hint]))
    have result : Hushed (match ret with | none => [] | some _ => annotationMentions [])
        (Script.dropped (match ret with | none => [] | some e => annotationMentions e.mentions)) := by
      cases ret with
      | none => exact .nil
      | some e => exact silence _
    have whole := (all (.name n .assigned r :: mentionsOfDefaults ps)).append
      ((hints.append result).append inside)
    cases ret <;> simpa [Stmt.silenced, Stmt.mentions, Stmt.fates, Script.silence, Expr.mentions]
      using whole
  | .classDef r n bs ks b ds, h => by
    have body := (block (show valuedBlock b = true from h)).append (all [.leave (.classBody n)])
    have head := all (.name n .assigned r :: mentionsOfAll bs ++ mentionsOfKeywords ks
      ++ mentionsOfAll ds)
    simpa only [Stmt.silenced, Stmt.mentions, Stmt.fates, List.append_assoc, List.cons_append,
      List.nil_append] using head.append ((all [.enter (.classBody n)]).append body)
  | .annAssign r t a (some v) simple, _ => by
    refine append (append ?_ (silence (annotationMentions a.mentions))) (all v.mentions)
    cases t with
    | name l id => exact .annotated id simple l r .nil
    | _ => exact all _
  | .forLoop _ _ t s b e, h => by
    obtain ⟨hb, he⟩ := Bool.and_eq_true_iff.mp h
    exact ((all _).append (block hb)).append (block he)
  | .whileLoop _ t b e, h => by
    obtain ⟨hb, he⟩ := Bool.and_eq_true_iff.mp h
    exact ((all _).append (block hb)).append (block he)
  | .ifElse _ t b e, h => by
    obtain ⟨hb, he⟩ := Bool.and_eq_true_iff.mp h
    exact ((all _).append (block hb)).append (block he)
  | .withBlock _ _ is b, h => (all _).append (block (show valuedBlock b = true from h))
  | .matchOn _ s cs, h => (all _).append (cases (show valuedCases cs = true from h))
  | .tryBlock r _ b hs e f, h => by
    obtain ⟨h, hf⟩ := Bool.and_eq_true_iff.mp h
    obtain ⟨h, he⟩ := Bool.and_eq_true_iff.mp h
    obtain ⟨hb, hhs⟩ := Bool.and_eq_true_iff.mp h
    exact (((block hb).append (block he)).append (handlers hhs)).append (block hf)
  | .returnStmt .., _ | .delete .., _ | .assign .., _ | .augAssign .., _ | .raise .., _
  | .assert .., _ | .importModules .., _ | .importFrom .., _ | .global .., _ | .nonlocal .., _
  | .expr .., _ | .pass _, _ | .breakLoop _, _ | .continueLoop _, _ => all _

theorem block : ∀ {ss : List Stmt}, valuedBlock ss = true →
    Hushed (mentionsOfBlock (silencedBlock ss)) (fatesOfBlock ss)
  | [], _ => .nil
  | s :: ss, h => by
    obtain ⟨hs, hss⟩ := Bool.and_eq_true_iff.mp h
    exact (stmt hs).append (block hss)

theorem handlers : ∀ {hs : List (Handler Stmt)}, valuedHandlers hs = true →
    Hushed (mentionsOfHandlers (silencedHandlers hs)) (fatesOfHandlers hs)
  | [], _ => .nil
  | ⟨_, _, _, b⟩ :: hs, h => by
    obtain ⟨hb, hhs⟩ := Bool.and_eq_true_iff.mp h
    exact ((all _).append (block hb)).append (handlers hhs)

theorem cases : ∀ {cs : List (MatchCase Stmt)}, valuedCases cs = true →
    Hushed (mentionsOfCases (silencedCases cs)) (fatesOfCases cs)
  | [], _ => .nil
  | ⟨_, _, b⟩ :: cs, h => by
    obtain ⟨hb, hcs⟩ := Bool.and_eq_true_iff.mp h
    exact ((all _).append (block hb)).append (cases hcs)

end

end Hushed

/-- Silenced and lowered scripts mention the same names. -/
theorem Silenced.block {ss : List Stmt} (h : valuedBlock ss = true) :
    Silenced (mentionsOfBlock (silencedBlock ss)) (mentionsOfBlock (plainBlock ss)) :=
  snd_fatesOfBlock ss ▸ (Hushed.block h).silenced

end RuleBench.Script
