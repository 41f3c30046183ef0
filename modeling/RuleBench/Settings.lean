import RuleBench.Trace.Span

/-!
# Settings

How many outcomes are shown, how often a change of the text is announced, and the seed of the choice
of outcomes.
-/

namespace RuleBench

open RuleBench.Validation

structure Settings where
  sampleSize : Nat := 5
  /-- Seconds between announcements. -/
  throttleInterval : Float := 0.1
  seed : Option Int := none

namespace Settings

def sampleSizeField : FieldName := .plain "sample_size"
def throttleIntervalField : FieldName := .plain "throttle_interval"
def seedField : FieldName := .plain "seed"

def recordName : String := "PipelineConfig"

def rule : Rule Settings := record recordName fun es =>
  (((withDefault sampleSizeField 5 natural es).map mk).and
    (withDefault throttleIntervalField 0.1 nonNegative es)).and
    (withDefault seedField none (optional integer) es)

def dump (c : Settings) : Data := dumpFields .library [
  (sampleSizeField, .int c.sampleSize), (throttleIntervalField, .float c.throttleInterval),
  (seedField, .ofInt? c.seed)]

def equals (a b : Settings) : Bool := a.dump.equals b.dump

def shown (c : Settings) : String := showFields recordName [
  (sampleSizeField, toString c.sampleSize),
  (throttleIntervalField, Number.floatText c.throttleInterval),
  (seedField, showOption toString c.seed)]

def ofData (d : Data) : Except Refusal Settings := (rule d).titled recordName

end Settings

end RuleBench
