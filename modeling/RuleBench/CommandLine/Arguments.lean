import RuleBench.Rule.Kind
import RuleBench.Text.Digit
import RuleBench.Text.Quoted

/-!
# Arguments

What the words of a command line ask for. Long switches may be shortened for as long as only one is
meant, and take their value from the same word behind `=` or from the next one. A lone `--` ends the
switches; words that belong to no switch are refused in the end.
-/

namespace RuleBench.CommandLine

inductive Switch where
  | help
  | script
  | traces
  | kind
  | config
deriving Repr, DecidableEq

namespace Switch

/-- The long spelling. -/
def long : Switch → String
  | help => "--help"
  | script => "--script"
  | traces => "--traces"
  | kind => "--kind"
  | config => "--config"

/-- All spellings with what they stand for, in the order in which they are listed. -/
def spellings : List (String × Switch) :=
  ("-h", help) :: [help, script, traces, kind, config].map fun s => (s.long, s)

/-- The name under which faults speak of a switch. -/
def name : Switch → String
  | help => "-h/--help"
  | s => s.long

end Switch

/-- What a test is asked for with. -/
structure Arguments where
  script : String
  traces : Option String := none
  kind : String := RuleKind.spanGrouping.key
  config : String := "\x7b\x7d"
deriving Repr, DecidableEq

/-- The keys of rule kinds that can be chosen. -/
def kindChoices : List String := (RuleKind.all.map (·.key)).mergeSort fun a b => decide (a ≤ b)

/-- What is wrong with the words of a command line. -/
inductive UsageFault where
  | ambiguous (word : String) (candidates : List String)
  | noValue (switch : Switch)
  /-- A value was given to a switch that takes none. -/
  | unwantedValue (switch : Switch) (value : String)
  | unknownKind (key : String)
  | noScript
  | unrecognized (words : List String)
deriving Repr, DecidableEq

namespace UsageFault

def message : UsageFault → String
  | ambiguous word candidates =>
    "ambiguous option: " ++ word ++ " could match " ++ ", ".intercalate candidates
  | noValue s => "argument " ++ s.name ++ ": expected one argument"
  | unwantedValue s value =>
    "argument " ++ s.name ++ ": ignored explicit argument " ++ Text.quoted value
  | unknownKind key => "argument " ++ Switch.kind.name ++ ": invalid choice: " ++ Text.quoted key ++
      " (choose from " ++ ", ".intercalate (kindChoices.map Text.quoted) ++ ")"
  | noScript => "the following arguments are required: " ++ Switch.script.name
  | unrecognized words => "unrecognized arguments: " ++ " ".intercalate words

end UsageFault

/-- Why the words do not lead to a test. -/
inductive Detour where
  | help
  | usage (fault : UsageFault)
  /-- The value of a switch is a lone `--`, which is dropped before it is looked at. -/
  | droppedValue
deriving Repr, DecidableEq

/-- A word by what it can be. -/
inductive Word where
  | plain (text : String)
  /-- It looks like a switch but is none. -/
  | unknown (text : String)
  | switch (switch : Switch) (value : Option String)
  | terminator

def Word.text : Word → String
  | plain t => t
  | unknown t => t
  | switch s _ => s.long
  | terminator => "--"

/-- Splits a word at the first `=`. -/
def splitValue (word : String) : String × Option String :=
  let cs := word.toList
  let name := cs.takeWhile (· != '=')
  match cs.dropWhile (· != '=') with
  | [] => (word, none)
  | _ :: value => (String.ofList name, some (String.ofList value))

/-- Whether a word is a negative number. -/
def isNegativeNumber (word : String) : Bool :=
  match word.toList with
  | '-' :: cs =>
    match cs.dropWhile Text.isDecimal with
    | [] => !cs.isEmpty
    | '.' :: fraction => !fraction.isEmpty && fraction.all Text.isDecimal
    | _ => false
  | _ => false

/-- The switches that a word may be a short form of, as they are spelled out, with the value that is
part of the word. -/
def candidates (word : String) : List (String × Switch × Option String) :=
  match word.toList with
  | '-' :: '-' :: _ =>
    let (name, value) := splitValue word
    (Switch.spellings.filter fun (spelling, _) => name.isPrefixOf spelling).map
      fun (spelling, s) => (spelling, s, value)
  | a :: b :: rest =>
    Switch.spellings.filterMap fun (spelling, s) =>
      if spelling == String.ofList [a, b] then some (spelling, s, some (String.ofList rest))
      else if word.isPrefixOf spelling then some (spelling, s, none)
      else none
  | _ => []

/-- A switch as it was spelled. A short one may be repeated within its word. -/
def Word.ofSpelling (spelling : String) (s : Switch) (value : Option String) : Word :=
  match value with
  | some v =>
    let rest := v.toList.dropWhile (· == 'h')
    if "--".isPrefixOf spelling then .switch s value
    else if rest.isEmpty && !v.isEmpty then .switch s none
    else .switch s (some (String.ofList rest))
  | none => .switch s none

/-- What a word can be. -/
def Word.ofText (word : String) : Except UsageFault Word :=
  if !"-".isPrefixOf word then .ok (.plain word)
  else match Switch.spellings.lookup word with
    | some s => .ok (.switch s none)
    | none =>
      if word.length == 1 then .ok (.plain word)
      else
        let (name, value) := splitValue word
        match value, Switch.spellings.lookup name with
        | some value, some s => .ok (.ofSpelling name s (some value))
        | _, _ => match candidates word with
          | [] =>
            .ok (if isNegativeNumber word || word.contains ' ' then .plain word else .unknown word)
          | [(spelling, s, value)] => .ok (.ofSpelling spelling s value)
          | several => .error (.ambiguous word (several.map (·.1)))

/-- The words of a command line; behind a lone `--` all are plain. -/
def Word.ofTexts : List String → Except UsageFault (List Word)
  | [] => .ok []
  | "--" :: rest => .ok (.terminator :: rest.map .plain)
  | word :: rest => do
    let w ← Word.ofText word
    return w :: (← Word.ofTexts rest)

/-- The switches seen so far. -/
structure Seen where
  script : Option String := none
  traces : Option String := none
  kind : String := RuleKind.spanGrouping.key
  config : String := "\x7b\x7d"
  /-- Words that belong to no switch. -/
  extras : List String := []

/-- Takes over the value of a switch. -/
def Seen.take (seen : Seen) (s : Switch) (value : String) : Except Detour Seen :=
  match s with
  | .help => .error (.usage (.unwantedValue .help value))
  | .script => .ok { seen with script := some value }
  | .traces => .ok { seen with traces := some value }
  | .kind =>
    if kindChoices.contains value then .ok { seen with kind := value }
    else .error (.usage (.unknownKind value))
  | .config => .ok { seen with config := value }

/-- Takes over a value that stands in the same word as its switch. -/
def Seen.takeAttached (seen : Seen) (s : Switch) (value : String) : Except Detour Seen :=
  if s != .help && value == "--" then .error .droppedValue else seen.take s value

/-- Goes through the words; a switch without a value of its own takes the plain word behind it. -/
def Seen.ofWords (seen : Seen) : List Word → Except Detour Seen
  | [] => .ok seen
  | .switch .help none :: _ => .error .help
  | .switch s (some value) :: rest => do
    let seen ← seen.takeAttached s value
    seen.ofWords rest
  | .switch s none :: .plain value :: rest => do
    let seen ← seen.take s value
    seen.ofWords rest
  | .switch s none :: _ => .error (.usage (.noValue s))
  | w :: rest => Seen.ofWords { seen with extras := seen.extras ++ [w.text] } rest

/-- What the words of a command line ask for. -/
def Arguments.ofTexts (words : List String) : Except Detour Arguments := do
  let words ← (Word.ofTexts words).mapError .usage
  let seen ← Seen.ofWords {} words
  match seen.script with
  | none => .error (.usage .noScript)
  | some script =>
    if seen.extras.isEmpty then
      return { script, traces := seen.traces, kind := seen.kind, config := seen.config }
    else .error (.usage (.unrecognized seen.extras))

/-! ### Texts -/

/-- The name of the command. -/
def program : String := "span-rules"

def usageText : String :=
  "usage: " ++ program ++ " [-h] --script SCRIPT [--traces TRACES]\n" ++
  "                  [--kind \x7b" ++ ",".intercalate kindChoices ++ "\x7d]\n" ++
  "                  [--config CONFIG]\n"

def helpText : String :=
  usageText ++
  "\nTest a span rule script against loaded traces\n" ++
  "\noptions:\n" ++
  "  -h, --help            show this help message and exit\n" ++
  "  --script SCRIPT       Path to the rule script\n" ++
  "  --traces TRACES       Path to a JSON file with traces to test on\n" ++
  "  --kind \x7b" ++ ",".intercalate kindChoices ++ "\x7d\n" ++
  "                        Rule kind\n" ++
  "  --config CONFIG       JSON configuration for the pipeline\n"

/-- What is shown for a fault in the words. -/
def UsageFault.text (f : UsageFault) :
    String := usageText ++ program ++ ": error: " ++ f.message ++ "\n"

end RuleBench.CommandLine
