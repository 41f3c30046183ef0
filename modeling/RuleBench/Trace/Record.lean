import RuleBench.Trial
import RuleBench.Rule.Shape
import RuleBench.Trace.Store
import RuleBench.Trace.Basic

/-!
# Records of plain traces

The pairs of a span and its trace that a rule is tested on, and the world of rule functions that
work on plain data.
-/

namespace RuleBench

/-- A span together with the trace it belongs to. -/
structure TraceRecord where
  span : Span
  trace : Trace

namespace TraceRecord

def id (r : TraceRecord) : String := r.trace.id ++ "/" ++ r.span.id

end TraceRecord

namespace TraceStore

def withTrace (s : TraceStore Trace) (t : Trace) : TraceStore Trace := s.add t.id t

/-- All records, in trace order and then in span order. -/
def records (s : TraceStore Trace) : List TraceRecord :=
  s.traces.flatMap fun t => t.spans.items.map fun span => ⟨span, t⟩

end TraceStore

/-- An action that answers a value or raises an error, and leaves the state alone. -/
def pureAction {σ ε α : Type} (r : Except ε α) : EStateM ε σ α := fun s =>
  match r with
  | .ok a => .ok a s
  | .error e => .error e s

/-- The world of rule functions on plain data. The state holds a store, which calls may change. -/
def dataHost {σ : Type} (store : σ → TraceStore Trace)
    (call : TraceRecord → EStateM ErrorSpec σ Data) :
    ScriptHost σ TraceRecord Data Unit ErrorSpec where
  load _ := pure ()
  lookup? _ _ _ := none
  isCallable _ _ := true
  records s := (store s).records
  recordId r := pure r.id
  shownSpan r _ := r.span.shown
  call _ r := call r
  accepts shape d := pureAction (d.hasShape shape)
  typeOf d := pure d.typeText
  passage? e _ := e.passage?
  errorClass e _ := e.className
  errorText e := pureAction e.text

end RuleBench
