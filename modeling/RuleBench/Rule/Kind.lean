/-!
# Rule kinds

A rule kind says which function a script has to export and what that function has to return.
-/

namespace RuleBench

/-- What an exported function has to return. -/
inductive AnswerShape where
  /-- A tuple or list of exactly two texts. -/
  | textPair
  | text
deriving Repr, DecidableEq

/-- The contract of all rules of one type. -/
structure RuleKind where
  key : String
  title : String
  exportName : String
  returnShape : String
  shape : AnswerShape
  /-- The text that a new buffer starts with. -/
  template : String
deriving Repr, DecidableEq

namespace RuleKind

def spanGrouping : RuleKind where
  key := "span-grouping"
  title := "span grouping"
  exportName := "groupBy"
  returnShape := "a tuple of two strings (group_id, group_name)"
  shape := .textPair
  template := "\n".intercalate [
    "# Do something with \"span\" and \"trace\"",
    "# and return a tuple (group_id, group_name)",
    "# where group_id is a unique string to be used for grouping",
    "# and group_name is human readable string for displaying",
    "def groupBy(span: Span, trace: Trace) -> tuple[str, str]:",
    "    # Let's group by service name",
    "    service_name = 'unknown'",
    "",
    "    # Handle jaeger spans",
    "    if span.process and span.process.service_name:",
    "        service_name = span.process.service_name",
    "",
    "    # Handle zipkin spans",
    "    if span.local_endpoint and span.local_endpoint.service_name:",
    "        service_name = span.local_endpoint.service_name",
    "",
    "    return (service_name, service_name)",
    ""]

def spanLabeling : RuleKind where
  key := "span-labeling"
  title := "span labeling"
  exportName := "makeLabel"
  returnShape := "a string"
  shape := .text
  template := "\n".intercalate [
    "# Do something with \"span\" and \"trace\"",
    "# and return a string to be displayed as the span label",
    "def makeLabel(span: Span, trace: Trace) -> str:",
    "    return span.operation_name",
    ""]

def spanColoring : RuleKind where
  key := "span-coloring"
  title := "span coloring"
  exportName := "colorBy"
  returnShape := "a color string (e.g. '#ff0000')"
  shape := .text
  template := "\n".intercalate [
    "# Do something with \"span\" and \"trace\"",
    "# and return a color string for the span bar",
    "def colorBy(span: Span, trace: Trace) -> str:",
    "    if span.tags.get('error'):",
    "        return '#f5222d'",
    "    return '#1890ff'",
    ""]

/-- All kinds, in the order in which they are listed. -/
def all : List RuleKind := [spanGrouping, spanLabeling, spanColoring]

def find? (key : String) : Option RuleKind := all.find? (·.key == key)

/-- The wording for a key that names no kind. -/
def unknownMessage (key : String) : String :=
  "Rule kind '" ++ key ++ "' not found. Available rule kinds: [" ++
    ", ".intercalate (all.map fun k => "'" ++ k.key ++ "'") ++ "]"

/-- Tells what a script has to declare. -/
def advice (k : RuleKind) : String :=
  "You have to declare a function named \"" ++ k.exportName ++ "\" and it has to return " ++
    k.returnShape ++ "."

/-- Tells what a function has to return instead of what it returned. -/
def shapeAdvice (k : RuleKind) (actualType recordId : String) : String :=
  "Return value of \"" ++ k.exportName ++ "\" function has to be " ++ k.returnShape ++
    ", but got \"" ++ actualType ++ "\" for span \"" ++ recordId ++
    "\". Check the log output for further details."

theorem find?_key {key : String} {k : RuleKind} (h : find? key = some k) : k.key = key := by
  simpa using List.find?_some h

end RuleKind

end RuleBench
