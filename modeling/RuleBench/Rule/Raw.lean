import RuleBench.Trace.Span

/-!
# Stored rules

What is kept of a rule: enough to use it again without compiling it.
-/

namespace RuleBench

open RuleBench.Validation

structure RawRule where
  key : String
  name : String
  /-- The source text as written by the user. -/
  rawCode : String
  /-- The lowered code. -/
  compiledCode : String
deriving Repr, DecidableEq

namespace RawRule

def keyField : FieldName := .plain "key"
def nameField : FieldName := .plain "name"
def rawCodeField : FieldName := ⟨"raw_code", "rawCode"⟩
def compiledCodeField : FieldName := ⟨"compiled_code", "compiledCode"⟩

def recordName : String := "RawRuleOptions"

def rule : Rule RawRule := record recordName fun es =>
  ((((required keyField nonEmptyText es).map mk).and (required nameField visibleText es)).and
    (required rawCodeField text es)).and (required compiledCodeField text es)

def dump (naming : Naming) (r : RawRule) : Data := dumpFields naming [
  (keyField, .str r.key), (nameField, .str r.name), (rawCodeField, .str r.rawCode),
  (compiledCodeField, .str r.compiledCode)]

def shown (r : RawRule) : String := showFields recordName [
  (keyField, Text.quoted r.key), (nameField, Text.quoted r.name),
  (rawCodeField, Text.quoted r.rawCode), (compiledCodeField, Text.quoted r.compiledCode)]

def ofData (d : Data) : Except Refusal RawRule := (rule d).titled recordName

end RawRule

end RuleBench
