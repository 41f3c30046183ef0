import RuleBench.Execution.Declaration
import RuleBench.Trace.Basic

/-!
# Traces as scripts see them

Traces and the data in them become values on the heap. Lists and mappings become objects of their
own, so that scripts can change what is inside a record although they cannot assign to its fields.
-/

namespace RuleBench.Execution

/-- The known class of a plain value. -/
def baseOfData : Data → String
  | .str _ => "str"
  | .list _ => "list"
  | .tuple _ => "tuple"
  | .dict _ => "dict"
  | .int _ => "int"
  | .float _ => "float"
  | .bytes _ => "bytes"
  | .set _ => "set"
  | _ => "object"

mutual

def ofData : Data → Action Value
  | .none => pure .none
  | .bool b => pure (.bool b)
  | .int n => pure (.int n)
  | .float x => pure (.float x)
  | .str s => pure (.str s)
  | .bytes b => pure (.bytes b)
  | .list xs => do new (.list (← ofItems xs).toArray)
  | .tuple xs => do return .tuple (← ofItems xs)
  | .set xs => do new (.set (← ofItems xs).toArray false)
  | .dict es => do new (.dict (← ofEntries es).toArray)
  | .sub name content _ => do
    match ← Declaration.declareClass name name [.known (baseOfData content)] [] [] with
    | .type t => do new (.instance t [] (some (← ofData content)))
    | v => pure v
  | .object name => do
    match ← Declaration.declareClass name name [] [] [] with
    | .type t => new (.instance t [] none)
    | v => pure v
  | .classObject name => Declaration.declareClass name name [] [] []
  | .other name => new (.instance (.known name) [] none)

def ofItems : List Data → Action (List Value)
  | [] => pure []
  | d :: ds => do
    let v ← ofData d
    return v :: (← ofItems ds)

def ofEntries : List (Data × Data) → Action (List (Value × Value))
  | [] => pure []
  | (k, d) :: es => do
    let key ← ofData k
    let v ← ofData d
    return (key, v) :: (← ofEntries es)

end

def ofMapping (m : Mapping) : Action Value := do
  let entries ← m.mapM fun (n, d) => return (Value.str n, ← ofData d)
  new (.dict entries.toArray)

def ofSequence {α : Type} (s : Validation.Items α) (f : α → Action Value) : Action Value := do
  let vs ← s.items.mapM f
  match s.form with
  | .list => new (.list vs.toArray)
  | .tuple => pure (.tuple vs)

def ofOption {α : Type} (f : α → Action Value) : Option α → Action Value
  | none => pure .none
  | some a => f a

def newRecord (kind : String) (fields : List (Validation.FieldName × Value)) : Action Value :=
  new (.record kind (fields.map fun f => (f.1.name, f.2)) [])

def ofReference (r : SpanReference) : Action Value := newRecord "SpanReference" [
  (SpanReference.typeField, .str r.type.name), (SpanReference.traceIdField, .str r.traceId),
  (SpanReference.spanIdField, .str r.spanId)]

def ofLog (l : SpanLog) : Action Value := do
  newRecord "SpanLog" [(SpanLog.timestampField, .int l.timestamp),
    (SpanLog.fieldsField, ← ofMapping l.fields)]

def ofText : Option String → Value
  | none => .none
  | some s => .str s

def ofProcess (p : SpanProcess) : Action Value := do
  newRecord "SpanProcess" [(SpanProcess.serviceNameField, ofText p.serviceName),
    (SpanProcess.tagsField, ← ofMapping p.tags)]

def ofEndpoint (e : Endpoint) : Action Value :=
  let port := match e.port with
    | none => Value.none
    | some n => .int n
  newRecord "Endpoint" [(Endpoint.serviceNameField, ofText e.serviceName),
    (Endpoint.ipv4Field, ofText e.ipv4), (Endpoint.portField, port)]

def ofSpan (s : Span) : Action Value := do
  let references ← ofSequence s.references ofReference
  let tags ← ofMapping s.tags
  let logs ← ofSequence s.logs ofLog
  let process ← ofOption ofProcess s.process
  let localEndpoint ← ofOption ofEndpoint s.localEndpoint
  let remoteEndpoint ← ofOption ofEndpoint s.remoteEndpoint
  newRecord "Span" [
    (Span.idField, .str s.id), (Span.traceIdField, .str s.traceId),
    (Span.operationNameField, .str s.operationName), (Span.startTimeField, .int s.startTime),
    (Span.finishTimeField, .int s.finishTime), (Span.referencesField, references),
    (Span.tagsField, tags), (Span.logsField, logs), (Span.processField, process),
    (Span.localEndpointField, localEndpoint), (Span.remoteEndpointField, remoteEndpoint)]

/-- A trace as a value. -/
def ofTrace (t : Trace) : Action Value := do
  let spans ← ofSequence t.spans ofSpan
  newRecord "Trace" [(Trace.idField, .str t.id), (Trace.spansField, spans)]

end RuleBench.Execution
