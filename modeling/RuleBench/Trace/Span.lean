import RuleBench.Validation

/-!
# Spans

One timed operation and what hangs on it: references to other spans, log entries, and the process or
endpoints that took part. Every record is read from data under either of its field names, dumped
under one of them, compared by value and shown.
-/

namespace RuleBench

open RuleBench.Validation

/-- Which of its two names a field is dumped under. -/
inductive Naming where
  | library
  | wire
deriving Repr, DecidableEq

namespace Validation.FieldName

def under (f : FieldName) : Naming → String
  | .library => f.name
  | .wire => f.wire

/-- A field whose two names are one. -/
def plain (name : String) : FieldName := ⟨name, name⟩

end Validation.FieldName

/-- A record as a mapping of its fields. -/
def dumpFields (naming : Naming) (fields : List (FieldName × Data)) : Data :=
  .dict (fields.map fun f => (.str (f.1.under naming), f.2))

/-- A record as it is shown. -/
def showFields (recordName : String) (fields : List (FieldName × String)) : String :=
  recordName ++ Data.bracketed "(" ")" (fields.map fun f => f.1.name ++ "=" ++ f.2)

namespace Data

mutual

/-- Lists, tuples and mappings of declared classes as plain ones. -/
def plain : Data → Data
  | list xs => list (plainItems xs)
  | tuple xs => tuple (plainItems xs)
  | set xs => set (plainItems xs)
  | dict es => dict (plainEntries es)
  | sub name c length =>
    let c := plain c
    match c with
    | list _ => c
    | tuple _ => c
    | dict _ => c
    | _ => sub name c length
  | d => d

def plainItems : List Data → List Data
  | [] => []
  | x :: xs => plain x :: plainItems xs

def plainEntries : List (Data × Data) → List (Data × Data)
  | [] => []
  | (k, v) :: es => (plain k, plain v) :: plainEntries es

end

def ofOption (f : α → Data) : Option α → Data
  | some a => f a
  | Option.none => none

def ofText? : Option String → Data := ofOption str

def ofInt? : Option Int → Data := ofOption int

end Data

/-- A mapping of texts to any data, in the order of its entries. -/
abbrev Mapping := List (String × Data)

namespace Mapping

def toData (m : Mapping) : Data := .dict (m.map fun e => (.str e.1, e.2))

def dump (m : Mapping) : Data := (toData m).plain

def equals (a b : Mapping) : Bool := (toData a).equals (toData b)

def shown (m : Mapping) : String := (toData m).shown

end Mapping

def sameItems {α : Type} (same : α → α → Bool) (a b : Items α) : Bool :=
  a.form == b.form && a.items.length == b.items.length && (a.items.zip b.items).all fun p =>
    same p.1 p.2

def sameOption {α : Type} (same : α → α → Bool) : Option α → Option α → Bool
  | none, none => true
  | some a, some b => same a b
  | _, _ => false

def showItems {α : Type} (shown : α → String) (s : Items α) : String :=
  let texts := s.items.map shown
  match s.form with
  | .list => Data.bracketed "[" "]" texts
  | .tuple => Data.tupleText texts

def showOption {α : Type} (shown : α → String) : Option α → String
  | some a => shown a
  | none => "None"

inductive ReferenceType where
  | childOf
  | followsFrom
deriving Repr, DecidableEq

namespace ReferenceType

def name : ReferenceType → String
  | childOf => "childOf"
  | followsFrom => "followsFrom"

def names : List String := [childOf.name, followsFrom.name]

def rule : Rule ReferenceType := fun d =>
  match d.text? with
  | some "childOf" => .valid childOf
  | some "followsFrom" => .valid followsFrom
  | _ => .refuse (.notChoice names)

end ReferenceType

/-- Reference from one span to another. -/
structure SpanReference where
  type : ReferenceType
  traceId : String
  spanId : String
deriving Repr, DecidableEq

namespace SpanReference

def typeField : FieldName := .plain "type"
def traceIdField : FieldName := ⟨"trace_id", "traceId"⟩
def spanIdField : FieldName := ⟨"span_id", "spanId"⟩

def rule : Rule SpanReference := record "SpanReference" fun es =>
  (((required typeField ReferenceType.rule es).map mk).and
    (required traceIdField text es)).and (required spanIdField text es)

def dump (naming : Naming) (r : SpanReference) : Data := dumpFields naming [
  (typeField, .str r.type.name), (traceIdField, .str r.traceId), (spanIdField, .str r.spanId)]

def shown (r : SpanReference) : String := showFields "SpanReference" [
  (typeField, Text.quoted r.type.name), (traceIdField, Text.quoted r.traceId),
  (spanIdField, Text.quoted r.spanId)]

end SpanReference

/-- Timestamped log entry of a span. -/
structure SpanLog where
  timestamp : Int
  fields : Mapping

namespace SpanLog

def timestampField : FieldName := .plain "timestamp"
def fieldsField : FieldName := .plain "fields"

def rule : Rule SpanLog := record "SpanLog" fun es =>
  ((required timestampField integer es).map mk).and (withDefault fieldsField [] mapping es)

def dump (naming : Naming) (l : SpanLog) : Data := dumpFields naming [
  (timestampField, .int l.timestamp), (fieldsField, Mapping.dump l.fields)]

def equals (a b : SpanLog) : Bool := a.timestamp == b.timestamp && Mapping.equals a.fields b.fields

def shown (l : SpanLog) : String := showFields "SpanLog" [
  (timestampField, toString l.timestamp), (fieldsField, Mapping.shown l.fields)]

end SpanLog

/-- The process that a span ran in. -/
structure SpanProcess where
  serviceName : Option String
  tags : Mapping

namespace SpanProcess

def serviceNameField : FieldName := ⟨"service_name", "serviceName"⟩
def tagsField : FieldName := .plain "tags"

def rule : Rule SpanProcess := record "SpanProcess" fun es =>
  ((withDefault serviceNameField none (optional text) es).map mk).and
    (withDefault tagsField [] mapping es)

def dump (naming : Naming) (p : SpanProcess) : Data := dumpFields naming [
  (serviceNameField, .ofText? p.serviceName), (tagsField, Mapping.dump p.tags)]

def equals (a b : SpanProcess) : Bool :=
  a.serviceName == b.serviceName && Mapping.equals a.tags b.tags

def shown (p : SpanProcess) : String := showFields "SpanProcess" [
  (serviceNameField, showOption Text.quoted p.serviceName), (tagsField, Mapping.shown p.tags)]

end SpanProcess

/-- One end of a remote operation. -/
structure Endpoint where
  serviceName : Option String
  ipv4 : Option String
  port : Option Int
deriving Repr, DecidableEq

namespace Endpoint

def serviceNameField : FieldName := ⟨"service_name", "serviceName"⟩
def ipv4Field : FieldName := .plain "ipv4"
def portField : FieldName := .plain "port"

def rule : Rule Endpoint := record "Endpoint" fun es =>
  (((withDefault serviceNameField none (optional text) es).map mk).and
    (withDefault ipv4Field none (optional text) es)).and
    (withDefault portField none (optional integer) es)

def dump (naming : Naming) (e : Endpoint) : Data := dumpFields naming [
  (serviceNameField, .ofText? e.serviceName), (ipv4Field, .ofText? e.ipv4),
  (portField, .ofInt? e.port)]

def shown (e : Endpoint) : String := showFields "Endpoint" [
  (serviceNameField, showOption Text.quoted e.serviceName),
  (ipv4Field, showOption Text.quoted e.ipv4), (portField, showOption toString e.port)]

end Endpoint

/-- One timed operation within a trace; times are microseconds since the epoch. -/
structure Span where
  id : String
  traceId : String
  operationName : String
  startTime : Int
  finishTime : Int
  references : Items SpanReference
  tags : Mapping
  logs : Items SpanLog
  process : Option SpanProcess
  localEndpoint : Option Endpoint
  remoteEndpoint : Option Endpoint

namespace Span

def idField : FieldName := .plain "id"
def traceIdField : FieldName := ⟨"trace_id", "traceId"⟩
def operationNameField : FieldName := ⟨"operation_name", "operationName"⟩
def startTimeField : FieldName := ⟨"start_time", "startTime"⟩
def finishTimeField : FieldName := ⟨"finish_time", "finishTime"⟩
def referencesField : FieldName := .plain "references"
def tagsField : FieldName := .plain "tags"
def logsField : FieldName := .plain "logs"
def processField : FieldName := .plain "process"
def localEndpointField : FieldName := ⟨"local_endpoint", "localEndpoint"⟩
def remoteEndpointField : FieldName := ⟨"remote_endpoint", "remoteEndpoint"⟩

def rule : Rule Span := record "Span" fun es =>
  let identity := (((required idField text es).map mk).and (required traceIdField text es)).and
    (required operationNameField text es)
  let timed := (identity.and (required startTimeField integer es)).and
    (required finishTimeField integer es)
  let described := ((timed.and
    (withDefault referencesField (.ofList []) (sequence SpanReference.rule) es)).and
    (withDefault tagsField [] mapping es)).and
    (withDefault logsField (.ofList []) (sequence SpanLog.rule) es)
  ((described.and (withDefault processField none (optional SpanProcess.rule) es)).and
    (withDefault localEndpointField none (optional Endpoint.rule) es)).and
    (withDefault remoteEndpointField none (optional Endpoint.rule) es)

def duration (s : Span) : Int := s.finishTime - s.startTime

def dump (naming : Naming) (s : Span) : Data := dumpFields naming [
  (idField, .str s.id), (traceIdField, .str s.traceId), (operationNameField, .str s.operationName),
  (startTimeField, .int s.startTime), (finishTimeField, .int s.finishTime),
  (referencesField, (s.references.map (SpanReference.dump naming)).toData),
  (tagsField, Mapping.dump s.tags), (logsField, (s.logs.map (SpanLog.dump naming)).toData),
  (processField, .ofOption (SpanProcess.dump naming) s.process),
  (localEndpointField, .ofOption (Endpoint.dump naming) s.localEndpoint),
  (remoteEndpointField, .ofOption (Endpoint.dump naming) s.remoteEndpoint)]

def equals (a b : Span) : Bool :=
  a.id == b.id && a.traceId == b.traceId && a.operationName == b.operationName &&
  a.startTime == b.startTime && a.finishTime == b.finishTime &&
  sameItems (· == ·) a.references b.references && Mapping.equals a.tags b.tags &&
  sameItems SpanLog.equals a.logs b.logs && sameOption SpanProcess.equals a.process b.process &&
  a.localEndpoint == b.localEndpoint && a.remoteEndpoint == b.remoteEndpoint

def shown (s : Span) : String := showFields "Span" [
  (idField, Text.quoted s.id), (traceIdField, Text.quoted s.traceId),
  (operationNameField, Text.quoted s.operationName), (startTimeField, toString s.startTime),
  (finishTimeField, toString s.finishTime),
  (referencesField, showItems SpanReference.shown s.references),
  (tagsField, Mapping.shown s.tags), (logsField, showItems SpanLog.shown s.logs),
  (processField, showOption SpanProcess.shown s.process),
  (localEndpointField, showOption Endpoint.shown s.localEndpoint),
  (remoteEndpointField, showOption Endpoint.shown s.remoteEndpoint)]

/-- The data under the name of a field or of a derived quantity. -/
def attribute? (name : String) (s : Span) : Option Data :=
  if name == "duration" then some (.int s.duration)
  else match s.dump .library with
    | .dict es => Data.lookup? name es
    | _ => none

end Span

end RuleBench
