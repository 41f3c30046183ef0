/-!
# Log records

What the parts of the bench note about their work. Records are plain values that an outer layer
writes, or drops.
-/

namespace RuleBench

inductive LogLevel where
  | debug
  | info
  | error
deriving Repr, DecidableEq

def LogLevel.name : LogLevel → String
  | debug => "DEBUG"
  | info => "INFO"
  | error => "ERROR"

/-- The part of the bench that made a record. -/
inductive LogSource where
  | bench
  | buffers
  | trials
  | savedRules
  | runs
  | desk
  | traces
  | exports
  | traceFiles
deriving Repr, DecidableEq

/-- The names of sources, the bench as a whole above its parts. -/
def LogSource.name : LogSource → String
  | bench => "span_rules"
  | buffers => "span_rules.compiler"
  | trials => "span_rules.harness"
  | savedRules => "span_rules.persistence"
  | runs => "span_rules.pipeline"
  | desk => "span_rules.session"
  | traces => "span_rules.stage"
  | exports => "span_rules.synthesizer"
  | traceFiles => "span_rules.trace_loader"

structure LogRecord where
  level : LogLevel
  source : LogSource
  text : String
deriving Repr, DecidableEq

end RuleBench
