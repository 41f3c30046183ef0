import RuleBench.Execution.Host
import RuleBench.Proofs.Execution.Lockstep
import RuleBench.Rule.Export

/-!
# Scenes in step

What a host does in one scene it does in every scene that differs from it only in annotations and in
code that is lowered there: it comes to the same end, unless something looks at annotations. All that
a test asks of a host is of this kind, so that a trial goes the same way in both.
-/

namespace RuleBench.Execution

/-- The same records in the same world, and memories that are alike. -/
structure Scene.Alike (s s' : Scene) : Prop where
  memory : s.memory.Alike s'.memory
  store : s.store = s'.store

/-- Something has looked at annotations. -/
def Scene.Looked (s : Scene) : Prop := s.memory.notes.seen = true

theorem Scene.Alike.refl {s : Scene} (unseen : ¬ s.Looked) : s.Alike s :=
  ⟨.refl (Bool.not_eq_true _ ▸ unseen), rfl⟩

section

variable {α β δ ε : Type}

/-- The scene that an action has come to. -/
def sceneOf : EStateM.Result ε Scene α → Scene
  | .ok _ s => s
  | .error _ s => s

/-- The same end in scenes that are alike. -/
inductive SameEnd : EStateM.Result ε Scene α → EStateM.Result ε Scene α → Prop
  | ok (a : α) {s s' : Scene} (alike : s.Alike s') : SameEnd (.ok a s) (.ok a s')
  | error (e : ε) {s s' : Scene} (alike : s.Alike s') : SameEnd (.error e s) (.error e s')

/-- From scenes that are alike both actions come to the same end, unless the first one looks at
annotations; and a look is not forgotten. -/
structure InStep (m m' : EStateM ε Scene α) : Prop where
  ends {s s' : Scene} (alike : s.Alike s') : (sceneOf (m s)).Looked ∨ SameEnd (m s) (m' s')
  looked {s : Scene} (h : s.Looked) : (sceneOf (m s)).Looked

/-- What is the same in scenes that are alike. -/
def Shared (view : Scene → α) : Prop := ∀ ⦃s s' : Scene⦄, s.Alike s' → view s = view s'

/-- Goes on from either end of an action. -/
def goOn (m : EStateM ε Scene α) (f : α → EStateM δ Scene β) (g : ε → EStateM δ Scene β) :
    EStateM δ Scene β := fun s =>
  match m s with
  | .ok a s => f a s
  | .error e s => g e s

namespace InStep

theorem ok (a : α) : InStep (ε := ε) (fun s => .ok a s) (fun s => .ok a s) :=
  ⟨fun alike => .inr (.ok a alike), id⟩

theorem error (e : ε) : InStep (α := α) (fun s => .error e s) (fun s => .error e s) :=
  ⟨fun alike => .inr (.error e alike), id⟩

theorem goOn {m m' : EStateM ε Scene α} {f f' : α → EStateM δ Scene β}
    {g g' : ε → EStateM δ Scene β} (first : InStep m m') (good : ∀ a, InStep (f a) (f' a))
    (bad : ∀ e, InStep (g e) (g' e)) : InStep (goOn m f g) (goOn m' f' g') where
  ends {s s'} alike := by
    unfold Execution.goOn
    rcases first.ends alike with seen | same
    · left
      generalize m s = x at seen
      cases x with
      | ok a t => exact (good a).looked seen
      | error e t => exact (bad e).looked seen
    · generalize m s = x, m' s' = x' at same
      cases same with
      | ok a alike => exact (good a).ends alike
      | error e alike => exact (bad e).ends alike
  looked {s} h := by
    have seen := first.looked h
    unfold Execution.goOn
    generalize m s = x at seen
    cases x with
    | ok a t => exact (good a).looked seen
    | error e t => exact (bad e).looked seen

/-- Both go on with what they see. -/
theorem bind {m m' : EStateM ε Scene α} {f f' : α → EStateM ε Scene β} (first : InStep m m')
    (next : ∀ a, InStep (f a) (f' a)) : InStep (m >>= f) (m' >>= f') := by
  have same (m : EStateM ε Scene α) (f : α → EStateM ε Scene β) :
      m >>= f = Execution.goOn m f fun e s => .error e s := by
    funext s
    show EStateM.bind m f s = _
    unfold EStateM.bind Execution.goOn
    generalize m s = x
    cases x <;> rfl
  rw [same, same]
  exact first.goOn next .error

theorem view {view : Scene → β} (shared : Shared view) (f f' : β → EStateM ε Scene α)
    (next : ∀ b, InStep (f b) (f' b)) : InStep (fun s => f (view s) s) (fun s => f' (view s) s) where
  ends {s s'} alike := by
    rw [shared alike]
    exact (next _).ends alike
  looked h := (next _).looked h

theorem look {view : Scene → α} (shared : Shared view) :
    InStep (ε := ε) (fun s => .ok (view s) s) (fun s => .ok (view s) s) :=
  .view shared _ _ .ok

theorem raise {view : Scene → ε} (shared : Shared view) :
    InStep (α := α) (fun s => .error (view s) s) (fun s => .error (view s) s) :=
  .view shared _ _ .error

theorem choose {test : Scene → Bool} (shared : Shared test) {m m' n n' : EStateM ε Scene α}
    (yes : InStep m m') (no : InStep n n') :
    InStep (fun s => if test s then m s else n s) (fun s => if test s then m' s else n' s) :=
  .view shared (fun b s => if b then m s else n s) (fun b s => if b then m' s else n' s) fun
    | true => yes
    | false => no

end InStep

end

/-! ### Actions in scenes -/

theorem Scene.perform_inStep {action action' : Action Value} (keeps : Keeps action action') :
    InStep (Scene.perform action) (Scene.perform action') where
  ends {s s'} alike := by
    unfold Scene.perform
    rcases alike.memory.perform keeps with seen | ⟨result, memory⟩
    · left
      simp only
      split <;> exact seen
    · right
      generalize s.memory.perform action = x, s'.memory.perform action' = x' at result memory
      simp only [← result]
      cases x.result with
      | ok v => exact .ok v ⟨memory, alike.store⟩
      | error e => exact .error e ⟨memory, alike.store⟩
  looked {s} h := by
    have seen := Memory.seen_perform h action
    unfold Scene.perform
    simp only
    split <;> exact seen

/-- The text that an action has come to. -/
def textFound : Value → EStateM Value Scene String
  | .str text => fun s => .ok text s
  | _ => fun s => .ok "" s

theorem Scene.performText_inStep (action : Action String) :
    InStep (Scene.performText action) (Scene.performText action) := by
  have same : Scene.performText action =
      goOn (Scene.perform (do return .str (← action))) textFound fun e s => .error e s := by
    funext s
    unfold Scene.performText goOn
    generalize Scene.perform (do return .str (← action)) s = x
    cases x with
    | ok v t => cases v <;> rfl
    | error e t => rfl
  rw [same]
  refine .goOn (Scene.perform_inStep (Keeps.refl _)) (fun v => ?_) .error
  cases v <;> exact .ok _

/-- Whether an action has come to a yes. -/
def testFound : Value → EStateM Value Scene Bool
  | .bool true => fun s => .ok true s
  | _ => fun s => .ok false s

theorem Scene.performTest_inStep (action : Action Bool) :
    InStep (Scene.performTest action) (Scene.performTest action) := by
  have same : Scene.performTest action =
      goOn (Scene.perform (do return .bool (← action))) testFound fun e s => .error e s := by
    funext s
    unfold Scene.performTest goOn
    generalize Scene.perform (do return .bool (← action)) s = x
    cases x with
    | ok v t =>
      cases v with
      | bool b => cases b <;> rfl
      | _ => rfl
    | error e t => rfl
  rw [same]
  refine .goOn (Scene.perform_inStep (Keeps.refl _)) (fun v => ?_) .error
  cases v with
  | bool b => cases b <;> exact .ok _
  | _ => exact .ok _

/-! ### Hosts -/

section

variable {ρ ν η ε : Type}

/-- Nothing that a host is asked for after it has loaded code tells scenes apart that are alike. -/
structure Steady (host : ScriptHost Scene ρ ν η ε) : Prop where
  lookup? (names : η) (name : String) : Shared (host.lookup? names name)
  isCallable (v : ν) : Shared (host.isCallable v)
  records : Shared host.records
  recordId (r : ρ) : InStep (host.recordId r) (host.recordId r)
  call (f : ν) (r : ρ) : InStep (host.call f r) (host.call f r)
  accepts (shape : AnswerShape) (v : ν) : InStep (host.accepts shape v) (host.accepts shape v)
  typeOf (v : ν) : InStep (host.typeOf v) (host.typeOf v)
  passage? (e : ε) : Shared (host.passage? e)
  errorClass (e : ε) : Shared (host.errorClass e)
  errorText (e : ε) : InStep (host.errorText e) (host.errorText e)

/-- What a test makes of a verdict. -/
def verdictFound (host : ScriptHost Scene ρ ν η ε) (r : ρ) :
    Trial.Verdict ν → EStateM (Stop ρ ε) Scene (Outcome ρ ν)
  | ⟨v, none⟩ => fun s => .ok ⟨r, v⟩ s
  | ⟨_, some actualType⟩ => goOn (host.recordId r)
    (fun id s => .error (.violation r id actualType) s) fun inner s => .error (.escaped inner) s

variable {host : ScriptHost Scene ρ ν η ε} (steady : Steady host)
include steady

namespace Steady

theorem passesThrough (e : ε) : Shared (host.passesThrough e) := fun s s' alike => by
  simp only [ScriptHost.passesThrough, steady.passage? e alike]

theorem describe (e : ε) : InStep (host.describe e) (host.describe e) := by
  have same : host.describe e = goOn (host.errorText e)
      (fun text s => .ok (if text.isEmpty then host.errorClass e s else text) s)
      (fun inner s => if host.passesThrough inner s then .error inner s
        else .ok (host.errorClass e s) s) := by
    funext s
    unfold ScriptHost.describe goOn
    generalize host.errorText e s = x
    cases x <;> rfl
  rw [same]
  refine .goOn (steady.errorText e) (fun text => .look fun s s' alike => ?_) fun inner =>
    .choose (steady.passesThrough inner) (.error inner) (.look (steady.errorClass e))
  simp only [steady.errorClass e alike]

theorem loadCode {code code' : String} (load : InStep (host.load code) (host.load code')) :
    InStep (RuleBench.loadCode host code) (RuleBench.loadCode host code') := by
  have same (code : String) : RuleBench.loadCode host code = goOn (host.load code)
      (fun names s => .ok names s) (fun e s =>
        if host.passesThrough e s then .error (.escaped e) s
        else goOn (host.describe e)
          (fun message s => .error (.raised (host.errorClass e s) message) s)
          (fun inner s => .error (.escaped inner) s) s) := by
    funext s
    unfold RuleBench.loadCode goOn
    generalize host.load code s = x
    cases x with
    | ok names t => rfl
    | error e t =>
      dsimp only
      generalize host.describe e t = y
      cases y <;> rfl
  rw [same, same]
  refine .goOn load .ok fun e => .choose (steady.passesThrough e) (.error _)
    (.goOn (steady.describe e) (fun message => .raise fun s s' alike => ?_) fun inner => .error _)
  simp only [steady.errorClass e alike]

/-! ### Trials -/

theorem judge (kind : RuleKind) (f : ν) (r : ρ) :
    InStep (Trial.judge host kind f r) (Trial.judge host kind f r) := by
  refine .bind (steady.call f r) fun v => .bind (steady.accepts _ v) fun fits => ?_
  cases fits
  · exact .bind (steady.typeOf v) fun t => .ok _
  · exact .ok _

theorem stopFor (r : ρ) (e : ε) :
    InStep (Trial.stopFor (ν := ν) host r e) (Trial.stopFor (ν := ν) host r e) := by
  have same : Trial.stopFor (ν := ν) host r e = fun s =>
      if host.passesThrough e s then .error (.escaped e) s
      else goOn (host.describe e) (fun message => goOn (host.recordId r)
        (fun id s => .error (.raised r id (host.errorClass e s) message) s)
        (fun inner s => .error (.escaped inner) s)) (fun inner s => .error (.escaped inner) s) s := by
    funext s
    unfold Trial.stopFor goOn
    generalize host.describe e s = x
    cases x with
    | error inner t => rfl
    | ok message t =>
      dsimp only
      generalize host.recordId r t = y
      cases y <;> rfl
  rw [same]
  refine .choose (steady.passesThrough e) (.error _) (.goOn (steady.describe e) (fun message =>
    .goOn (steady.recordId r) (fun id => .raise fun s s' alike => ?_) fun inner => .error _)
      fun inner => .error _)
  simp only [steady.errorClass e alike]

theorem test (kind : RuleKind) (f : ν) (r : ρ) :
    InStep (Trial.test host kind f r) (Trial.test host kind f r) := by
  have same : Trial.test host kind f r =
      goOn (Trial.judge host kind f r) (verdictFound host r) (Trial.stopFor host r) := by
    funext s
    unfold Trial.test goOn
    generalize Trial.judge host kind f r s = x
    rcases x with ⟨⟨v, _ | actualType⟩, t⟩ | ⟨e, t⟩
    · rfl
    · dsimp only [verdictFound, goOn]
      generalize host.recordId r t = y
      cases y <;> rfl
    · rfl
  rw [same]
  refine .goOn (steady.judge kind f r) (fun ⟨v, wrong⟩ => ?_) (steady.stopFor r)
  cases wrong with
  | none => exact .ok _
  | some actualType =>
    exact .goOn (steady.recordId r) (fun id => .error _) fun inner => .error _

theorem testAll (kind : RuleKind) (f : ν) (rs : List ρ) :
    InStep (Trial.testAll host kind f rs) (Trial.testAll host kind f rs) := by
  induction rs with
  | nil => exact .ok []
  | cons r rs ih =>
    exact .bind (steady.test kind f r) fun o => .bind ih fun os => .ok _

/-- A trial goes the same way in scenes that are alike. -/
theorem run (kind : RuleKind) (f : ν) :
    InStep (Trial.run host kind f) (Trial.run host kind f) :=
  .view steady.records _ _ fun rs => steady.testAll kind f rs

end Steady

end

end RuleBench.Execution
