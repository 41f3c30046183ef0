import RuleBench.Trial

/-!
# Exported functions

Loads compiled code and takes from it the function that a rule kind asks for.
-/

namespace RuleBench

/-- Why code yields no rule function. -/
inductive ExportStop (ε : Type) where
  | missingSymbol
  | notCallable
  /-- The code raised while it was loaded. -/
  | raised (errorClass message : String)
  /-- An error that is not turned into a failure. -/
  | escaped (error : ε)

namespace ExportStop

variable {ε : Type}

/-- The failure that a test ends with here, or the error that escaped. -/
def failure (kind : RuleKind) : ExportStop ε → Except ε Failure
  | missingSymbol => .ok
      { kind := .missingSymbol
        message := "Unexpected \"" ++ kind.exportName ++ "\" function"
        description := some kind.advice }
  | notCallable => .ok
      { kind := .notCallable
        message := "Unexpected \"" ++ kind.exportName ++ "\" function"
        description := some kind.advice }
  | raised errorClass message => .ok
      { kind := .evaluationError
        message := message
        description := some ("Top-level code of the script raised " ++ errorClass ++
          ". Check the statements outside of functions.") }
  | escaped e => .error e

def notes : ExportStop ε → List LogRecord
  | raised errorClass message => [⟨.info, .exports,
      "Evaluating rule code failed: " ++ errorClass ++ ": " ++ message⟩]
  | _ => []

end ExportStop

variable {σ ρ ν η ε : Type} (host : ScriptHost σ ρ ν η ε)

/-- Executes code and turns what it raises into a failure. -/
def loadCode (code : String) : EStateM (ExportStop ε) σ η := fun s =>
  match host.load code s with
  | .ok names s => .ok names s
  | .error e s =>
    if host.passesThrough e s then .error (.escaped e) s
    else match host.describe e s with
      | .error inner s => .error (.escaped inner) s
      | .ok message s => .error (.raised (host.errorClass e s) message) s

/-- The function that a rule kind asks for. -/
def exportedFunction (kind : RuleKind) (code : String) : EStateM (ExportStop ε) σ ν := fun s =>
  match loadCode host code s with
  | .error e s => .error e s
  | .ok names s => match host.lookup? names kind.exportName s with
    | none => .error .missingSymbol s
    | some f => if host.isCallable f s then .ok f s else .error .notCallable s

/-- What is noted when a function was found. -/
def exportNote (kind : RuleKind) : LogRecord :=
  ⟨.debug, .exports, "Synthesized " ++ kind.exportName ++ " from compiled code"⟩

end RuleBench
