import RuleBench.Log
import RuleBench.Report
import RuleBench.Rule.Raw
import RuleBench.Trace.Sample

/-!
# Saving rules

What is handed over when a tested rule is accepted. The key of a rule that has one is kept, so that
it is replaced where it is stored.
-/

namespace RuleBench

open RuleBench.Validation

/-- A rule ready to be applied. -/
structure LiveRule (ν : Type) where
  key : String
  name : String
  function : ν

/-- Everything that is handed over on saving. -/
structure SavedRule (ν : Type) where
  options : LiveRule ν
  raw : RawRule
  isNew : Bool

namespace SavedRule

variable {ρ ν : Type}

/-- The name a rule is saved under: the given one, else the one it had. -/
def chosenName (name : Data) (previous : Option RawRule) : Data :=
  if name.isTruthy then name else .str ((previous.map RawRule.name).getD "")

/-- Builds what is handed over for a test that passed. `freshKey` serves a rule without a key. -/
def ofSuccess (report : Success ρ ν) (name : Data) (previous : Option RawRule) (freshKey : String) :
    Except Refusal (SavedRule ν) := do
  let key := (previous.map RawRule.key).getD freshKey
  let raw ← RawRule.ofData (.dict [(.str "key", .str key),
    (.str "name", chosenName name previous), (.str "raw_code", .str report.artifact.source),
    (.str "compiled_code", .str report.artifact.code)])
  return ⟨⟨key, raw.name, report.function⟩, raw, previous.isNone⟩

def note (s : SavedRule ν) : LogRecord :=
  ⟨.info, .savedRules, "Saving rule " ++ s.raw.name ++ " (" ++ s.options.key ++ ")"⟩

end SavedRule

end RuleBench
