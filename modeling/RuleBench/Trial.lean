import RuleBench.ErrorClass
import RuleBench.Log
import RuleBench.Report
import RuleBench.Rule.Kind

/-!
# Trials

Runs a rule function over all records of one snapshot and checks what it returns. The world in which
rule functions live is left open: `ScriptHost` says what is asked of it. Errors that pass through
leave a trial as they are; all others are turned into failures that name the record.
-/

namespace RuleBench

/-- A world in a state `σ` with records `ρ`, values `ν`, namespaces `η` and errors `ε`. Everything
that may run code of a script is an action. -/
structure ScriptHost (σ ρ ν η ε : Type) where
  /-- Executes code in a fresh namespace. -/
  load : String → EStateM ε σ η
  lookup? : η → String → σ → Option ν
  isCallable : ν → σ → Bool
  /-- The records there are to test, in their order. -/
  records : σ → List ρ
  recordId : ρ → EStateM ε σ String
  /-- Every record has a name, and to name it changes nothing. -/
  recordId_ok (r : ρ) (s : σ) : ∃ id, recordId r s = .ok id s := by
    intro r s
    exact ⟨_, rfl⟩
  /-- The span of a record as it is shown. -/
  shownSpan : ρ → σ → String
  call : ν → ρ → EStateM ε σ ν
  accepts : AnswerShape → ν → EStateM ε σ Bool
  typeOf : ν → EStateM ε σ String
  /-- What an error asks for that is no failure of the rule. -/
  passage? : ε → σ → Option ErrorClass.Passage
  errorClass : ε → σ → String
  errorText : ε → EStateM ε σ String

namespace ScriptHost

variable {σ ρ ν η ε : Type} (host : ScriptHost σ ρ ν η ε)

/-- Interrupts and cancellations pass through. -/
def passesThrough (e : ε) (s : σ) : Bool := (host.passage? e s).isSome

/-- The text of an error; its class where the text is empty or cannot be had. -/
def describe (e : ε) : EStateM ε σ String := fun s =>
  match host.errorText e s with
  | .ok text s => .ok (if text.isEmpty then host.errorClass e s else text) s
  | .error inner s =>
    if host.passesThrough inner s then .error inner s else .ok (host.errorClass e s) s

end ScriptHost

/-- Why a trial stopped. -/
inductive Stop (ρ ε : Type) where
  /-- A value has the wrong shape. -/
  | violation (record : ρ) (recordId actualType : String)
  /-- The call or the check of its value raised. -/
  | raised (record : ρ) (recordId errorClass message : String)
  /-- An error that is not turned into a failure. -/
  | escaped (error : ε)

namespace Stop

variable {ρ ε : Type}

/-- The failure that a trial ends with, or the error that escaped. -/
def failure (kind : RuleKind) : Stop ρ ε → Except ε Failure
  | violation _ id actualType => .ok
      { kind := .contractViolation
        message := "\"" ++ kind.exportName ++ "\" returned an unexpected value"
        description := some (kind.shapeAdvice actualType id)
        recordId := some id
        actualType := some actualType }
  | raised _ id errorClass message => .ok
      { kind := .evaluationError
        message := message
        description := some ("\"" ++ kind.exportName ++ "\" function raised " ++ errorClass ++
          " for span \"" ++ id ++ "\".")
        recordId := some id }
  | escaped e => .error e

/-- What is noted when a trial stops. -/
def notes {σ ν η : Type} (host : ScriptHost σ ρ ν η ε) (kind : RuleKind) (s : σ) :
    Stop ρ ε → List LogRecord
  | violation r _ actualType => [⟨.error, .trials,
      "Return value of \"" ++ kind.exportName ++ "\" must be " ++ kind.returnShape ++
        ", but received \"" ++ actualType ++ "\" for span " ++ host.shownSpan r s⟩]
  | raised _ id errorClass message => [⟨.info, .trials,
      kind.exportName ++ " raised " ++ errorClass ++ " for span " ++ id ++ ": " ++ message⟩]
  | escaped _ => []

end Stop

namespace Trial

variable {σ ρ ν η ε : Type} (host : ScriptHost σ ρ ν η ε) (kind : RuleKind)

/-- A returned value and, if it has the wrong shape, its type. -/
structure Verdict (ν : Type) where
  value : ν
  wrongType : Option String

/-- Calls the function for a record and checks the shape of what it returns. The check may run code
of the script too. -/
def judge (function : ν) (r : ρ) : EStateM ε σ (Verdict ν) := do
  let value ← host.call function r
  if ← host.accepts kind.shape value then return ⟨value, none⟩
  else return ⟨value, some (← host.typeOf value)⟩

/-- The same error for a trial. -/
def escape {α : Type} (action : EStateM ε σ α) : EStateM (Stop ρ ε) σ α := fun s =>
  match action s with
  | .ok a s => .ok a s
  | .error e s => .error (.escaped e) s

/-- Stops a trial because of an error that the function raised for a record. -/
def stopFor (r : ρ) (e : ε) : EStateM (Stop ρ ε) σ (Outcome ρ ν) := fun s =>
  if host.passesThrough e s then .error (.escaped e) s
  else match host.describe e s with
    | .error inner s => .error (.escaped inner) s
    | .ok message s => match host.recordId r s with
      | .error inner s => .error (.escaped inner) s
      | .ok id s => .error (.raised r id (host.errorClass e s) message) s

/-- Tests one record. -/
def test (function : ν) (r : ρ) : EStateM (Stop ρ ε) σ (Outcome ρ ν) := fun s =>
  match judge host kind function r s with
  | .error e s => stopFor host r e s
  | .ok ⟨value, none⟩ s => .ok ⟨r, value⟩ s
  | .ok ⟨_, some actualType⟩ s => match host.recordId r s with
    | .error inner s => .error (.escaped inner) s
    | .ok id s => .error (.violation r id actualType) s

/-- Tests records one after the other; the first that fails stops the trial. -/
def testAll (function : ν) : List ρ → EStateM (Stop ρ ε) σ (List (Outcome ρ ν))
  | [] => pure []
  | r :: rs => do
    let o ← test host kind function r
    let os ← testAll function rs
    return o :: os

/-- Tests the records there are when the trial starts. -/
def run (function : ν) : EStateM (Stop ρ ε) σ (List (Outcome ρ ν)) := fun s =>
  testAll host kind function (host.records s) s

/-- What is noted when a trial starts. -/
def startNote (records : Nat) : LogRecord :=
  ⟨.info, .trials, "Testing " ++ kind.exportName ++ " on " ++ toString records ++ " span(s)"⟩

end Trial

end RuleBench
