import RuleBench.Json.Writer
import RuleBench.Log
import RuleBench.Report

/-!
# Reports for readers

A report as the lines of a summary and as one JSON value.
-/

namespace RuleBench

/-- What a reader sees of a record. -/
structure ShownRecord where
  id : String
  operationName : String
deriving Repr, DecidableEq

inductive Status where
  | success
  | untested
  | failure
deriving Repr, DecidableEq

namespace Status

def name : Status → String
  | success => "success"
  | untested => "untested"
  | failure => "failure"

def symbol : Status → String
  | success => "✓"
  | untested => "⚠"
  | failure => "✗"

end Status

namespace Report

variable {ρ ν : Type}

def status : Report ρ ν → Status
  | failure _ => .failure
  | success s => if s.isEmpty then .untested else .success

/-- The exit code of a command that made this report. -/
def exitCode (r : Report ρ ν) : Nat := if r.status = .failure then 1 else 0

def rule : String := String.ofList (List.replicate 80 '=')

/-- The line of a summary for a sample. -/
def sampleLine (o : Outcome ShownRecord Data) : Except Json.WriteError String := do
  let value ← Json.write .line o.value
  return "  " ++ o.record.operationName ++ " => " ++ value

def bodyLines (r : Report ShownRecord Data) : Except Json.WriteError (List String) :=
  let symbol := r.status.symbol
  match r with
  | failure f =>
    let details := match f.description with
      | none => []
      | some text => if text.isEmpty then [] else ["  Details: " ++ text]
    .ok ((symbol ++ " " ++ f.kind.name ++ ": " ++ f.message) :: details)
  | success s =>
    if s.isEmpty then
      .ok [symbol ++ " Rule compiled but no spans were available to test it"]
    else do
      let samples ← s.samples.mapM sampleLine
      let count := toString s.outcomes.length
      return (symbol ++ " Test successful on " ++ count ++ " span(s)") :: samples

/-- The lines of a summary. -/
def summary (r : Report ShownRecord Data) : Except Json.WriteError (List String) := do
  return [rule, "Test Report Summary:", rule] ++ (← r.bodyLines)

def textEntries (es : List (String × Data)) : Data := .dict (es.map fun e => (.str e.1, e.2))

def diagnosticData (d : Diagnostic) : Data :=
  let number (n : Option Int) : Data := (n.map Data.int).getD .none
  textEntries [("message", .str d.message), ("line", number d.line), ("column", number d.column)]

def sampleData (o : Outcome ShownRecord Data) : Data := textEntries [
  ("span", .str o.record.id), ("operation", .str o.record.operationName), ("value", o.value)]

/-- A report as one value, under the name of its rule kind. -/
def toData (kindName : String) (r : Report ShownRecord Data) : Data :=
  let text (s : Option String) : Data := (s.map Data.str).getD .none
  let shared := [("status", Data.str r.status.name), ("kind", .str kindName)]
  match r with
  | failure f => textEntries (shared ++ [
      ("failure", .str f.kind.name), ("message", .str f.message),
      ("description", text f.description),
      ("diagnostics", .list (f.diagnostics.map diagnosticData)),
      ("record", text f.recordId), ("actual_type", text f.actualType)])
  | success s => textEntries (shared ++ [
      ("tested", .int s.outcomes.length), ("samples", .list (s.samples.map sampleData))])

/-- The JSON text that is printed for a report. -/
def output (kindName : String) (r : Report ShownRecord Data) : Except Json.WriteError String :=
  Json.write (.indented 2) (r.toData kindName)

end Report

end RuleBench
