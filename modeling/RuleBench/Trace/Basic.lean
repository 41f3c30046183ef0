import RuleBench.Json.Reader
import RuleBench.Trace.Span

/-!
# Traces

An ordered collection of spans for one end-to-end request, and the reading of trace exports.
-/

namespace RuleBench

open RuleBench.Validation

/-- The spans of one request, in the order of the export. -/
structure Trace where
  id : String
  spans : Items Span

namespace Trace

def idField : FieldName := .plain "id"
def spansField : FieldName := .plain "spans"

def rule : Rule Trace := record "Trace" fun es =>
  ((required idField text es).map mk).and
    (withDefault spansField (.ofList []) (sequence Span.rule) es)

/-- Earliest start of a span. -/
def startTime? (t : Trace) : Option Int := (t.spans.items.map Span.startTime).min?

/-- Latest finish of a span. -/
def finishTime? (t : Trace) : Option Int := (t.spans.items.map Span.finishTime).max?

/-- From the earliest start to the latest finish; nothing for a trace without spans. -/
def duration (t : Trace) : Int :=
  match t.startTime?, t.finishTime? with
  | some start, some finish => finish - start
  | _, _ => 0

def dump (naming : Naming) (t : Trace) : Data := dumpFields naming [
  (idField, .str t.id), (spansField, (t.spans.map (Span.dump naming)).toData)]

def equals (a b : Trace) : Bool := a.id == b.id && sameItems Span.equals a.spans b.spans

def shown (t : Trace) : String := showFields "Trace" [
  (idField, Text.quoted t.id), (spansField, showItems Span.shown t.spans)]

/-- A trace made of data. -/
def ofData (d : Data) : Except Refusal Trace := (rule d).titled "Trace"

/-- Why an export was not read. -/
inductive ReadError where
  | notJson (error : Json.ReadError)
  | refused (refusal : Refusal)

/-- Reads a list of traces or a single one. -/
def readAll (content : String) : Except ReadError (List Trace) :=
  match Json.read content with
  | .error e => .error (.notJson e)
  | .ok d =>
    let d := if d matches .dict _ then .list [d] else d
    match (listOf rule d).titled "list[Trace]" with
    | .error r => .error (.refused r)
    | .ok ts => .ok ts

end Trace

end RuleBench
