import RuleBench.Rule.Saved
import RuleBench.Rule.Export

/-!
# Restoring rules

A stored rule is used again by loading its compiled code; the source text is not compiled again.
-/

namespace RuleBench

variable {σ ρ ν η ε : Type}

/-- The rule that a stored one describes. -/
def LiveRule.ofRaw (host : ScriptHost σ ρ ν η ε) (kind : RuleKind) (raw : RawRule) :
    EStateM (ExportStop ε) σ (LiveRule ν) := do
  let function ← exportedFunction host kind raw.compiledCode
  return ⟨raw.key, raw.name, function⟩

end RuleBench
