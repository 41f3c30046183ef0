import RuleBench.Trace.Basic

/-!
# Sample traces

Small traces with one span per service, for trying rules without an export.
-/

namespace RuleBench

open RuleBench.Validation

namespace Data

/-- Whether a value counts as present. -/
def isTruthy (d : Data) : Bool :=
  match d.content with
  | none => false
  | bool b => b
  | int n => n != 0
  | float x => !(x == 0.0)
  | _ => match d.ownLength? with
    | some n => n != 0
    | Option.none => true

end Data

/-- The text behind the last hyphen. -/
def lastPart (s : String) : String :=
  String.ofList (s.toList.reverse.takeWhile (· != '-')).reverse

/-- What a sample span is made of. -/
structure SampleSpan where
  spanId : String
  traceId : Data
  serviceName : Data := .none
  startTime : Data := .int 1000
  finishTime : Data := .int 2000

namespace SampleSpan

/-- A span named after its identifier; without a service name it has no process. -/
def toSpan (s : SampleSpan) : Except Refusal Span := do
  let process : Data ←
    if s.serviceName.isTruthy then do
      let p ← (SpanProcess.rule (.dict [(.str "service_name", s.serviceName)])).titled "SpanProcess"
      pure (p.dump .library)
    else pure .none
  (Span.rule (.dict [(.str "id", .str s.spanId), (.str "trace_id", s.traceId),
    (.str "operation_name", .str ("operation-" ++ lastPart s.spanId)),
    (.str "start_time", s.startTime), (.str "finish_time", s.finishTime),
    (.str "process", process)])).titled "Span"

end SampleSpan

/-- A trace with one span per service. -/
def Trace.sample (id : Data) (services : List Data) : Except Refusal Trace := do
  let spans ← services.zipIdx.mapM fun (service, index) =>
    SampleSpan.toSpan ⟨id.toText ++ "-" ++ toString index, id, service, .int 1000, .int 2000⟩
  Trace.ofData (.dict [(.str "id", id), (.str "spans", .list (spans.map (Span.dump .library)))])

end RuleBench
