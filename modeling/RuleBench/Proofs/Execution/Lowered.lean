import RuleBench.Execution.Apply
import RuleBench.Proofs.Execution.Follows
import RuleBench.Proofs.Script.Silenced

/-!
# Lowered code runs as its source does

Statement by statement the source, with annotations that say nothing, is followed by what lowering
leaves of it. The bodies of declared functions are not run when they are declared, so that it is
enough here that both sides keep like code; what calls of them do is up to the machine.
-/

namespace RuleBench.Execution

open RuleBench.Script

/-- Code that is the same, or silenced and lowered forms of one block. -/
def LikeCode (c c' : List Stmt) : Prop :=
  c = c' ∨ ∃ r ss, valuedBlock ss = true ∧ c = silencedBlock ss ∧ c' = filled r (plainBlock ss)

theorem LikeCode.refl (c : List Stmt) : LikeCode c c := .inl rfl

theorem LikeCode.lowered (r : Region) {ss : List Stmt} (h : valuedBlock ss = true) :
    LikeCode (silencedBlock ss) (filled r (plainBlock ss)) := .inr ⟨r, ss, h, rfl, rfl⟩

/-- The action of lowered code follows that of its source. -/
abbrev Keeps {α : Type} (m m' : Action α) : Prop := Action.Follows LikeCode m m'

namespace Keeps

variable {α β σ : Type}

theorem refl (m : Action α) : Keeps m m := Action.Follows.refl LikeCode.refl m

theorem of_eq {m m' : Action α} (h : m = m') : Keeps m m' := h ▸ refl m

theorem after (m : Action α) {f f' : α → Action β} (next : ∀ a, Keeps (f a) (f' a)) :
    Keeps (m >>= f) (m >>= f') := Action.Follows.after LikeCode.refl m next

theorem before {m m' : Action α} (h : Keeps m m') (f : α → Action β) :
    Keeps (m >>= f) (m' >>= f) := Action.Follows.before LikeCode.refl h f

theorem choose (b : Bool) {m m' n n' : Action α} (h : Keeps m m') (h' : Keeps n n') :
    Keeps (if b then m else n) (if b then m' else n') := by
  cases b
  · exact h'
  · exact h

end Keeps

/-! ### Blocks -/

theorem executeAll_filled (scopes : List Scope) (r : Region) (ss : List Stmt) :
    executeAll scopes (filled r ss) = executeAll scopes ss := by
  cases ss <;> rfl

theorem executeAll_append (scopes : List Scope) (ss ts : List Stmt) :
    executeAll scopes (ss ++ ts) = executeAll scopes ss >>= fun
      | .next => executeAll scopes ts
      | signal => pure signal := by
  induction ss with
  | nil => rfl
  | cons s ss ih =>
    simp only [List.cons_append, executeAll, ih, bind_assoc]
    congr 1
    funext signal
    cases signal <;> rfl

theorem docstring?_cons (s : Stmt) (ss ts : List Stmt) :
    docstring? (s :: ss) = docstring? (s :: ts) := by
  unfold docstring?
  split <;> simp_all

/-- Without bare declarations both begin with the same statement, as far as documentation goes. -/
theorem docstring?_lowered (r : Region) {ss : List Stmt} (h : valuedBlock ss = true) :
    docstring? (filled r (plainBlock ss)) = docstring? (silencedBlock ss) := by
  cases ss with
  | nil => rfl
  | cons s ss =>
    obtain ⟨valued, -⟩ := Bool.and_eq_true_iff.mp h
    cases s with
    | annAssign _ _ _ v _ =>
      cases v with
      | none => simp [Stmt.valued] at valued
      | some v => rfl
    | expr l e => exact docstring?_cons ..
    | _ => rfl

/-! ### Functions -/

theorem evaluateDefault_silenced (scopes : List Scope) (ps : List (Param Expr)) :
    evaluateDefault scopes (ps.map Param.silenced) = evaluateDefault scopes ps := by
  induction ps with
  | nil => rfl
  | cons p ps ih =>
    obtain ⟨l, n, a, d⟩ := p
    cases d <;> simp [evaluateDefault, Param.silenced, ih]

theorem evaluateDefault_plain (scopes : List Scope) (ps : List (Param Expr)) :
    evaluateDefault scopes (ps.map Param.plain) = evaluateDefault scopes ps := by
  induction ps with
  | nil => rfl
  | cons p ps ih =>
    obtain ⟨l, n, a, d⟩ := p
    cases d <;> simp [evaluateDefault, Param.plain, ih]

theorem evaluateDefaults_silenced (scopes : List Scope) (ps : Params Expr) :
    evaluateDefaults scopes ps.silenced = evaluateDefaults scopes ps := by
  obtain ⟨po, pl, r, ko, kr⟩ := ps
  simp only [Params.silenced, evaluateDefaults, evaluateDefault_silenced]

theorem evaluateDefaults_bare (scopes : List Scope) (ps : Params Expr) :
    evaluateDefaults scopes ps.bare = evaluateDefaults scopes ps := by
  obtain ⟨po, pl, r, ko, kr⟩ := ps
  simp only [Params.bare, evaluateDefaults, evaluateDefault_plain]

/-- Closures know nothing of annotations. -/
theorem keptParams_silenced (scopes : List Scope) (ps : Params Expr) :
    keptParams scopes ps.silenced = keptParams scopes ps.bare := by
  have same : keptParam scopes ∘ Param.silenced = keptParam scopes ∘ Param.plain := rfl
  simp only [keptParams, Params.silenced, Params.bare, List.map_map, Option.map_map, same]

theorem closureOf_lowered (scopes : List Scope) (name : String) (isAsync : Bool) (ps : Params Expr)
    (defaults : Bindings) {ms ms' : List Mention} (h : Silenced ms ms') (body : FunctionBody) :
    closureOf scopes name isAsync ps.silenced defaults ms body =
      closureOf scopes name isAsync ps.bare defaults ms' body := by
  have names : OwnNames.ofMentions (Names.className? scopes) (ps.mentions ++ ms) =
      OwnNames.ofMentions (Names.className? scopes) (ps.mentions ++ ms') := by
    simp only [OwnNames.ofMentions, ((Silenced.refl ps.mentions).append h).blockNames]
  have yields : Script.yields ms = Script.yields ms' := h.yieldsAt 0
  simp only [closureOf, keptParams_silenced, Params.mentions_silenced, Params.mentions_bare, names,
    yields]

theorem annotation_silence (scopes : List Scope) (e : Expr) :
    ∃ v, annotation scopes (silence e) = pure v := by
  unfold annotation
  split
  · split <;> exact ⟨_, rfl⟩
  · exact ⟨.none, by simp [silence, evaluate, literalValue]⟩

theorem annotatedNames_silenced (ps : Params Expr) (ret : Option Expr) :
    annotatedNames ps.silenced (ret.map silence) =
      (annotatedNames ps ret).map fun (n, e) => (n, silence e) := by
  have list (qs : List (Param Expr)) :
      (qs.map Param.silenced).filterMap (fun p => p.annotation.map fun e => (p.name, e)) =
        (qs.filterMap fun p => p.annotation.map fun e => (p.name, e)).map
          fun (n, e) => (n, silence e) := by
    simp [List.filterMap_map, List.map_filterMap, Function.comp_def, Param.silenced]
  have option (p : Option (Param Expr)) :
      (p.map Param.silenced).toList = p.toList.map Param.silenced := by
    cases p <;> rfl
  simp only [annotatedNames, Params.silenced, option, ← List.map_append, list]
  cases ret <;> simp

theorem annotatedNames_bare (ps : Params Expr) : annotatedNames ps.bare none = [] := by
  have list (qs : List (Param Expr)) :
      (qs.map Param.plain).filterMap (fun p => p.annotation.map fun e => (p.name, e)) = [] := by
    simp [Param.plain]
  have option (p : Option (Param Expr)) :
      (p.map Param.plain).toList = p.toList.map Param.plain := by
    cases p <;> rfl
  simp only [annotatedNames, Params.bare, option, ← List.map_append, list]
  rfl

theorem mapM_pure {α β : Type} {f : α → Action β} :
    ∀ {as : List α}, (∀ a ∈ as, ∃ b, f a = pure b) → ∃ bs, as.mapM f = pure bs
  | [], _ => ⟨[], rfl⟩
  | a :: as, h => by
    obtain ⟨b, hb⟩ := h a (by simp)
    obtain ⟨bs, hbs⟩ := mapM_pure fun x mem => h x (List.mem_cons_of_mem a mem)
    exact ⟨b :: bs, by simp [List.mapM_cons, hb, hbs]⟩

/-- Annotations that say nothing are there at once. -/
theorem functionAnnotations_silenced (scopes : List Scope) (ps : Params Expr) (ret : Option Expr) :
    ∃ bs, functionAnnotations scopes ps.silenced (ret.map silence) = pure bs := by
  refine mapM_pure fun (n, e) mem => ?_
  rw [annotatedNames_silenced] at mem
  obtain ⟨⟨n', e'⟩, -, same⟩ := List.mem_map.mp mem
  obtain ⟨v, hv⟩ := annotation_silence scopes e'
  exact ⟨(Names.kept scopes n, v), by simp [← (Prod.mk.inj same).2, hv]⟩

theorem functionAnnotations_bare (scopes : List Scope) (ps : Params Expr) :
    functionAnnotations scopes ps.bare none = pure [] := by
  simp [functionAnnotations, annotatedNames_bare]

theorem defineFunction_lowered (scopes : List Scope) (isAsync : Bool) (name : String)
    (ps : Params Expr) {body : List Stmt} (decorators : List Expr) (ret : Option Expr) (r : Region)
    (h : valuedBlock body = true) :
    Keeps
      (defineFunction scopes isAsync name ps.silenced (silencedBlock body) decorators
        (ret.map silence))
      (defineFunction scopes isAsync name ps.bare (filled r (plainBlock body)) decorators none) := by
  obtain ⟨bs, hbs⟩ := functionAnnotations_silenced scopes ps ret
  have mentions : Silenced (mentionsOfBlock (silencedBlock body))
      (mentionsOfBlock (filled r (plainBlock body))) := by
    simpa using Silenced.block h
  unfold defineFunction
  refine Keeps.after _ fun ds => ?_
  rw [evaluateDefaults_silenced, evaluateDefaults_bare]
  refine Keeps.after _ fun defaults => ?_
  rw [hbs, functionAnnotations_bare, pure_bind, pure_bind]
  simp only [docstring?_lowered r h]
  refine Action.Follows.keep (.lowered r h) fun code => ?_
  rw [closureOf_lowered scopes name isAsync ps defaults mentions]
  refine Keeps.after _ fun f => ?_
  by_cases empty : bs.isEmpty
  · simpa [empty] using Keeps.refl _
  · simpa [empty] using Action.Follows.quiet (n := .start f bs) trivial (Keeps.refl _)

/-! ### Assignments, modules and classes -/

theorem annotateName_silence (scopes : List Scope) (owner : Address) (name : String) (e : Expr) :
    Keeps (annotateName scopes owner name (silence e)) (pure ()) := by
  obtain ⟨v, hv⟩ := annotation_silence scopes e
  rw [annotateName, hv, pure_bind]
  exact Action.Follows.quiet (n := .entry owner (Names.kept scopes name) v) trivial (Keeps.refl _)

theorem annotatedAssignment_lowered (scopes : List Scope) (target note value : Expr)
    (simple : Bool) :
    Keeps (annotatedAssignment scopes target (silence note) (some value) simple)
      (do assignEach scopes (← evaluate scopes value) [target]) := by
  simp only [annotatedAssignment, assignEach]
  refine Keeps.after _ fun v => Keeps.after _ fun _ => ?_
  split
  · exact Keeps.refl _
  · split
    · exact annotateName_silence _ _ _ _
    · split <;> exact Keeps.refl _

theorem anyAnnotates_filled (r : Region) (ss : List Stmt) :
    anyAnnotates (filled r ss) = anyAnnotates ss := by
  cases ss <;> rfl

theorem anyAnnotates_append (ss ts : List Stmt) :
    anyAnnotates (ss ++ ts) = (anyAnnotates ss || anyAnnotates ts) := by
  induction ss with
  | nil => rfl
  | cons s ss ih => simp [anyAnnotates, ih, Bool.or_assoc]

mutual

/-- Nothing is annotated in lowered code. -/
theorem anyAnnotates_plain : ∀ s : Stmt, anyAnnotates s.plain.toList = false
  | .annAssign _ _ _ none _ => rfl
  | .annAssign _ _ _ (some _) _ => rfl
  | .forLoop _ _ _ _ b e | .whileLoop _ _ b e | .ifElse _ _ b e => by
    simp [Stmt.plain, anyAnnotates, annotates, anyAnnotates_filled, anyAnnotates_plainBlock b,
      anyAnnotates_plainBlock e]
  | .withBlock _ _ _ b => by
    simp [Stmt.plain, anyAnnotates, annotates, anyAnnotates_filled, anyAnnotates_plainBlock b]
  | .tryBlock r _ b hs e f => by
    have final : anyAnnotates (if hs = [] then filled r (plainBlock f) else plainBlock f) =
        false := by
      split <;> simp [anyAnnotates_filled, anyAnnotates_plainBlock f]
    simp [Stmt.plain, anyAnnotates, annotates, anyAnnotates_filled, anyAnnotates_plainBlock b,
      handlersAnnotate_plain hs, anyAnnotates_plainBlock e, final]
  | .functionDef .. | .classDef .. | .matchOn .. | .returnStmt .. | .delete .. | .assign ..
  | .augAssign .. | .raise .. | .assert .. | .importModules .. | .importFrom .. | .global ..
  | .nonlocal .. | .expr .. | .pass _ | .breakLoop _ | .continueLoop _ => rfl

theorem anyAnnotates_plainBlock : ∀ ss : List Stmt, anyAnnotates (plainBlock ss) = false
  | [] => rfl
  | s :: ss => by
    simp [plainBlock, anyAnnotates_append, anyAnnotates_plain s, anyAnnotates_plainBlock ss]

theorem handlersAnnotate_plain : ∀ hs : List (Handler Stmt),
    handlersAnnotate (plainHandlers hs) = false
  | [] => rfl
  | ⟨_, _, _, b⟩ :: hs => by
    simp [plainHandlers, handlersAnnotate, anyAnnotates_filled, anyAnnotates_plainBlock b,
      handlersAnnotate_plain hs]

end

theorem startBlock_lowered (scopes : List Scope) (r : Region) {body : List Stmt}
    (h : valuedBlock body = true) :
    Keeps (startBlock scopes (silencedBlock body))
      (startBlock scopes (filled r (plainBlock body))) := by
  have never : anyAnnotates (filled r (plainBlock body)) = false := by
    rw [anyAnnotates_filled, anyAnnotates_plainBlock]
  simp only [startBlock, never, docstring?_lowered r h, Bool.false_eq_true, if_false]
  split
  · cases annotated? scopes with
    | none => exact Keeps.refl _
    | some owner => exact Action.Follows.quiet (n := .start owner []) trivial (Keeps.refl _)
  · exact Keeps.refl _

theorem classScopes_lowered (scopes : List Scope) (name : String) (r : Region) {body : List Stmt}
    (h : valuedBlock body = true) (cell : Address) :
    classScopes scopes name (silencedBlock body) cell =
      classScopes scopes name (filled r (plainBlock body)) cell := by
  have mentions : Silenced (mentionsOfBlock (silencedBlock body))
      (mentionsOfBlock (filled r (plainBlock body))) := by
    simpa using Silenced.block h
  simp only [classScopes, OwnNames.ofMentions, mentions.blockNames]

/-! ### Statements -/

theorem executeAll_singleton (scopes : List Scope) (s : Stmt) :
    executeAll scopes [s] = execute scopes s := by
  simp only [executeAll]
  conv_rhs => rw [← bind_pure (execute scopes s)]
  congr 1
  funext signal
  cases signal <;> rfl

theorem inContext_keeps (manager : Value) {body body' : Value → Action Signal}
    (h : ∀ v, Keeps (body v) (body' v)) : Keeps (inContext manager body) (inContext manager body') := by
  unfold inContext
  refine Keeps.after _ fun (enter, leave) => Keeps.after _ fun entered => ?_
  exact Keeps.before (Action.Follows.attempted LikeCode.refl (h entered)) _

theorem withItems_keeps (scopes : List Scope) {body body' : Action Signal} (h : Keeps body body')
    (items : List WithItem) : Keeps (withItems scopes body items) (withItems scopes body' items) := by
  induction items with
  | nil => exact h
  | cons item items ih =>
    obtain ⟨context, target⟩ := item
    refine Keeps.after _ fun manager => inContext_keeps manager fun entered => ?_
    cases target with
    | none => exact ih
    | some t => exact Keeps.after _ fun _ => ih

theorem lastly_keeps {main main' last last' : Action Signal} (h : Keeps main main')
    (h' : Keeps last last') : Keeps (lastly main last) (lastly main' last') :=
  Action.Follows.bind (Action.Follows.attempted LikeCode.refl h) fun
    | .ok _ => Keeps.before h' _
    | .error e => Keeps.before (Action.Follows.handled LikeCode.refl e h') _

theorem handleAs_keeps (scopes : List Scope) (e : Value) (name : Option String)
    {body body' : Action Signal} (h : Keeps body body') :
    Keeps (handleAs scopes e name body) (handleAs scopes e name body') := by
  have handled := Action.Follows.handled LikeCode.refl e h
  cases name with
  | none => exact handled
  | some n =>
    exact Keeps.after _ fun _ => Keeps.before (Action.Follows.attempted LikeCode.refl handled) _

theorem attempt_settle {α : Type} (m : Action α) : attempt m >>= settle = m := by
  funext w
  show ((((m w).bind fun a => Action.pure (Except.ok a)).recover
    fun e => Action.pure (.error e)).bind fun x => settle x) = m w
  generalize m w = r
  induction r with
  | done => rfl
  | raised => rfl
  | ask r w k ih => exact congrArg (Run.ask r w) (funext fun x => funext fun w => ih x w)
  | keep c w k ih => exact congrArg (Run.keep c w) (funext fun n => funext fun w => ih n w)
  | note n w k ih => exact congrArg (Run.note n w) (funext fun b => funext fun w => ih b w)

theorem lastly_next (main : Action Signal) : lastly main (pure .next) = main := by
  conv_rhs => rw [← attempt_settle main]
  unfold lastly
  congr 1
  funext x
  cases x <;> rfl

/-- A `try` with nothing to do last is one that does nothing last. -/
theorem execute_tryBlock (scopes : List Scope) (r : Region) (isStar : Bool) (b : List Stmt)
    (hs : List (Handler Stmt)) (e f : List Stmt) :
    execute scopes (.tryBlock r isStar b hs e f) =
      lastly (do match ← attempt (executeAll scopes b) with
        | .ok .next => executeAll scopes e
        | .ok s => pure s
        | .error x => executeHandlers scopes x hs) (executeAll scopes f) := by
  cases f with
  | nil => exact (lastly_next _).symm
  | cons s ss => rfl

mutual

/-- What lowering leaves of a statement does what the silenced statement does. -/
theorem execute_lowered : ∀ {s : Stmt}, s.valued = true → ∀ scopes : List Scope,
    Keeps (execute scopes s.silenced) (executeAll scopes s.plain.toList)
  | .functionDef r isAsync n ps b ds ret, h, scopes => by
    simp only [Stmt.silenced, Stmt.plain, Option.toList_some, executeAll_singleton, execute]
    exact Keeps.before (defineFunction_lowered scopes isAsync n ps ds ret r h) _
  | .classDef r n bs ks b ds, h, scopes => by
    simp only [Stmt.silenced, Stmt.plain, Option.toList_some, executeAll_singleton, execute]
    refine Keeps.after _ fun _ => Keeps.after _ fun _ => Keeps.after _ fun _ =>
      Keeps.after _ fun cell => ?_
    rw [classScopes_lowered scopes n r h]
    refine Keeps.after _ fun inner => ?_
    refine Action.Follows.bind (startBlock_lowered inner r h) fun _ => ?_
    rw [executeAll_filled]
    exact Keeps.before (executeAll_lowered h inner) _
  | .annAssign _ t a (some v) simple, _, scopes => by
    simp only [Stmt.silenced, Stmt.plain, Option.toList_some, executeAll_singleton, execute]
    simpa using Keeps.before (annotatedAssignment_lowered scopes t a v simple) fun _ =>
      pure Signal.next
  | .forLoop _ _ t s b e, h, scopes => by
    obtain ⟨hb, he⟩ := Bool.and_eq_true_iff.mp h
    simp only [Stmt.silenced, Stmt.plain, Option.toList_some, executeAll_singleton, execute,
      executeAll_filled]
    refine Keeps.after _ fun v => Keeps.after _ fun i => ?_
    refine Action.Follows.bind (Action.Follows.looped LikeCode.refl (fun _ => ?_) ()) fun ended => ?_
    · refine Keeps.after _ fun next => ?_
      cases next with
      | none => exact Keeps.refl _
      | some v => exact Keeps.after _ fun _ => Keeps.before (executeAll_lowered hb scopes) _
    · cases ended with
      | none => exact executeAll_lowered he scopes
      | some s => exact Keeps.refl _
  | .whileLoop _ t b e, h, scopes => by
    obtain ⟨hb, he⟩ := Bool.and_eq_true_iff.mp h
    simp only [Stmt.silenced, Stmt.plain, Option.toList_some, executeAll_singleton, execute,
      executeAll_filled]
    refine Action.Follows.bind (Action.Follows.looped LikeCode.refl (fun _ => ?_) ()) fun ended => ?_
    · refine Keeps.after _ fun v => Keeps.after _ fun test => ?_
      split
      · exact Keeps.before (executeAll_lowered hb scopes) _
      · exact Keeps.refl _
    · cases ended with
      | none => exact executeAll_lowered he scopes
      | some s => exact Keeps.refl _
  | .ifElse _ t b e, h, scopes => by
    obtain ⟨hb, he⟩ := Bool.and_eq_true_iff.mp h
    simp only [Stmt.silenced, Stmt.plain, Option.toList_some, executeAll_singleton, execute,
      executeAll_filled]
    refine Keeps.after _ fun v => Keeps.after _ fun test => ?_
    split
    · exact executeAll_lowered hb scopes
    · exact executeAll_lowered he scopes
  | .withBlock _ _ is b, h, scopes => by
    simp only [Stmt.silenced, Stmt.plain, Option.toList_some, executeAll_singleton, execute,
      executeAll_filled]
    exact withItems_keeps scopes (executeAll_lowered h scopes) is
  | .matchOn r s cs, h, scopes => by
    simp only [Stmt.silenced, Stmt.plain, Option.toList_some, executeAll_singleton, execute]
    exact Keeps.after _ fun v => executeCases_lowered r h scopes v
  | .tryBlock r _ b hs e f, h, scopes => by
    obtain ⟨h, hf⟩ := Bool.and_eq_true_iff.mp h
    obtain ⟨h, he⟩ := Bool.and_eq_true_iff.mp h
    obtain ⟨hb, hhs⟩ := Bool.and_eq_true_iff.mp h
    have main : Keeps
        (do match ← attempt (executeAll scopes (silencedBlock b)) with
          | .ok .next => executeAll scopes (silencedBlock e)
          | .ok s => pure s
          | .error x => executeHandlers scopes x (silencedHandlers hs))
        (do match ← attempt (executeAll scopes (plainBlock b)) with
          | .ok .next => executeAll scopes (plainBlock e)
          | .ok s => pure s
          | .error x => executeHandlers scopes x (plainHandlers hs)) := by
      refine Action.Follows.bind
        (Action.Follows.attempted LikeCode.refl (executeAll_lowered hb scopes)) fun
        | .ok .next => executeAll_lowered he scopes
        | .ok .leaveLoop => Keeps.refl _
        | .ok .nextRound => Keeps.refl _
        | .ok (.returned v) => Keeps.refl _
        | .error x => executeHandlers_lowered hhs scopes x
    have final : executeAll scopes (if hs = [] then filled r (plainBlock f) else plainBlock f) =
        executeAll scopes (plainBlock f) := by
      split <;> simp [executeAll_filled]
    simpa [Stmt.silenced, Stmt.plain, executeAll_singleton, execute_tryBlock, executeAll_filled,
      final] using lastly_keeps main (executeAll_lowered hf scopes)
  | .returnStmt .., _, scopes | .delete .., _, scopes | .assign .., _, scopes
  | .augAssign .., _, scopes | .raise .., _, scopes | .assert .., _, scopes
  | .importModules .., _, scopes | .importFrom .., _, scopes | .global .., _, scopes
  | .nonlocal .., _, scopes | .expr .., _, scopes | .pass _, _, scopes | .breakLoop _, _, scopes
  | .continueLoop _, _, scopes => by
    simpa only [Stmt.silenced, Stmt.plain, Option.toList_some, executeAll_singleton] using
      Keeps.refl _

theorem executeAll_lowered : ∀ {ss : List Stmt}, valuedBlock ss = true → ∀ scopes : List Scope,
    Keeps (executeAll scopes (silencedBlock ss)) (executeAll scopes (plainBlock ss))
  | [], _, _ => Keeps.refl _
  | s :: ss, h, scopes => by
    obtain ⟨hs, hss⟩ := Bool.and_eq_true_iff.mp h
    simp only [silencedBlock, plainBlock, executeAll_append]
    refine Action.Follows.bind (execute_lowered hs scopes) fun
      | .next => executeAll_lowered hss scopes
      | .leaveLoop => Keeps.refl _
      | .nextRound => Keeps.refl _
      | .returned v => Keeps.refl _

theorem executeHandlers_lowered : ∀ {hs : List (Handler Stmt)}, valuedHandlers hs = true →
    ∀ (scopes : List Scope) (e : Value),
    Keeps (executeHandlers scopes e (silencedHandlers hs))
      (executeHandlers scopes e (plainHandlers hs))
  | [], _, _, _ => Keeps.refl _
  | ⟨r, t, n, b⟩ :: hs, h, scopes, e => by
    obtain ⟨hb, hhs⟩ := Bool.and_eq_true_iff.mp h
    have chosen (caught : Bool) := Keeps.choose caught
      (handleAs_keeps scopes e n (executeAll_lowered hb scopes))
      (executeHandlers_lowered hhs scopes e)
    simp only [silencedHandlers, plainHandlers, executeHandlers, executeAll_filled]
    cases t with
    | none => exact chosen true
    | some t => exact Keeps.after _ chosen

theorem executeCases_lowered (r : Region) : ∀ {cs : List (MatchCase Stmt)}, valuedCases cs = true →
    ∀ (scopes : List Scope) (v : Value),
    Keeps (executeCases scopes v (silencedCases cs)) (executeCases scopes v (plainCases r cs))
  | [], _, _, _ => Keeps.refl _
  | ⟨p, g, b⟩ :: cs, h, scopes, v => by
    obtain ⟨hb, hcs⟩ := Bool.and_eq_true_iff.mp h
    have chosen (fits : Bool) := Keeps.choose fits (executeAll_lowered hb scopes)
      (executeCases_lowered r hcs scopes v)
    simp only [silencedCases, plainCases, executeCases, executeAll_filled]
    refine Keeps.after _ fun fitting => ?_
    split
    · exact Keeps.after _ fun _ => Keeps.after _ chosen
    · exact chosen _

end

/-- A lowered script does in its module what the silenced script does. -/
theorem runModule_lowered {script : List Stmt} (h : valuedBlock script = true) (frame : Address)
    (later : Bool) :
    Keeps (runModule frame later (silencedBlock script))
      (runModule frame later (plainScript script)) := by
  unfold runModule plainScript
  refine Action.Follows.bind (startBlock_lowered _ default h) fun _ => ?_
  rw [executeAll_filled]
  exact Keeps.before (executeAll_lowered h _) _

/-! ### Calls -/

section

variable {code code' : Nat → List Stmt} (like : ∀ n, LikeCode (code n) (code' n))
include like

/-- Like code does the same when it is run. -/
theorem runBody_keeps (c : Closure) (frame : Address) :
    Keeps (runBody code c frame) (runBody code' c frame) := by
  unfold runBody
  split
  · exact Keeps.refl _
  · next number _ =>
    refine Keeps.before ?_ _
    rcases like number with same | ⟨r, ss, valued, source, lowered⟩
    · rw [same]
      exact Keeps.refl _
    · rw [source, lowered, executeAll_filled]
      exact executeAll_lowered valued _

theorem beginWork_keeps (work : GeneratorWork) :
    Keeps (beginWork code work) (beginWork code' work) := by
  cases work with
  | function c frame => exact runBody_keeps like c frame
  | comprehension => exact Keeps.refl _

theorem applyClosure_keeps (c : Closure) (args : List Value) (named : Bindings) :
    Keeps (applyClosure code c args named) (applyClosure code' c args named) := by
  unfold applyClosure
  refine Keeps.after _ fun _ => Keeps.after _ fun frame => ?_
  split
  · exact runBody_keeps like c frame
  · exact Keeps.refl _

theorem apply_keeps (f : Value) (args : List Value) (named : Bindings) :
    Keeps (apply code f args named) (apply code' f args named) := by
  unfold apply
  refine Keeps.after _ fun o => ?_
  split <;> first
    | exact applyClosure_keeps like _ args named
    | exact Keeps.refl _

end

end RuleBench.Execution
