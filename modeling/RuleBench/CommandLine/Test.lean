import RuleBench.CommandLine.Arguments
import RuleBench.Execution.Host
import RuleBench.Output
import RuleBench.Bench
import RuleBench.Text.LineEnd
import RuleBench.Text.Path

/-!
# Testing from files

One test of a script file on the traces of another file: from the arguments to what is printed and
the exit code. How files are read is left open, so that the same command runs on a disk and on given
contents.
-/

namespace RuleBench.CommandLine

open RuleBench.Execution RuleBench.Validation

/-- Why a file was not read. -/
inductive FileCause where
  | notFound
  | isDirectory
  | notDirectory
  | noPermission
  /-- The path holds a null character. -/
  | nullCharacter
deriving Repr, DecidableEq

structure FileFault where
  cause : FileCause
  path : String
deriving Repr, DecidableEq

def FileFault.message (f : FileFault) : String :=
  let worded (number text : String) : String :=
    "[Errno " ++ number ++ "] " ++ text ++ ": " ++ Text.quoted f.path
  match f.cause with
  | .notFound => worded "2" "No such file or directory"
  | .isDirectory => worded "21" "Is a directory"
  | .notDirectory => worded "20" "Not a directory"
  | .noPermission => worded "13" "Permission denied"
  | .nullCharacter => "embedded null byte"

/-- Reads the octets of the file at a path. -/
abbrev FileReader (m : Type → Type) := String → m (Except FileCause (List UInt8))

/-- Why a test ends without a report. -/
inductive TestFault where
  | unknownKind (key : String)
  | notJson (text : String) (cause : Json.ReadError)
  /-- The configuration is no object but something of another type. -/
  | configNotObject (typeName : String)
  | refused (refusal : Refusal)
  | file (fault : FileFault)
  | undecodable (fault : Text.OctetFault)
  | notRegistered (cause : NotRegistered)
  /-- The script raised an error that passes through: its class and its text. -/
  | escaped (error : String × String)
  | unwritable (cause : Json.WriteError)

def TestFault.message : TestFault → String
  | unknownKind key => RuleKind.unknownMessage key
  | notJson text e => e.message text
  | configNotObject t =>
    "span_rules.config.PipelineConfig() argument after ** must be a mapping, not " ++ t
  | refused r => r.title
  | file f => f.message
  | undecodable f => f.message
  | notRegistered e => e.message
  | escaped e => e.2
  | unwritable e => e.message

/-- What a command leaves behind. -/
structure TestResult where
  exitCode : Nat
  output : String
  notes : List LogRecord

/-- The configuration in a JSON text. -/
def readSettings (text : String) : Except TestFault Settings :=
  match Json.read text with
  | .error e => .error (.notJson text e)
  | .ok d =>
    if d matches .dict _ then (Settings.ofData d).mapError .refused
    else .error (.configNotObject d.typeName)

/-- The text that the octets of a file encode, with plain line ends. -/
def fileText (octets : List UInt8) : Except TestFault String :=
  match Text.decodeOctets octets with
  | .error f => .error (.undecodable f)
  | .ok s => .ok (String.ofList (Text.unifyLineEnds s.toList))

/-- The traces in a JSON text. -/
def readTraces (content : String) : Except TestFault (List Trace) :=
  match Trace.readAll content with
  | .error (.notJson e) => .error (.notJson content e)
  | .error (.refused r) => .error (.refused r)
  | .ok ts => .ok ts

/-- The text of the file at a path. -/
def readFile {m : Type → Type} [Monad m] (read : FileReader m) (path : String) :
    m (Except TestFault String) := do
  match ← read path with
  | .error cause => pure (.error (.file ⟨cause, path⟩))
  | .ok octets => pure (fileText octets)

/-- Everything that is read before a test starts. -/
structure Inputs where
  kind : RuleKind
  settings : Settings
  traces : List Trace
  /-- The path of the script as it is shown. -/
  scriptPath : String
  scriptText : String
  notes : List LogRecord

def loadedNote (count : Nat) (path : String) : LogRecord :=
  ⟨.info, .traceFiles, "Loaded " ++ toString count ++ " trace(s) from " ++ path⟩

/-- Reads what the arguments name: first the kind and the configuration, then the traces, and the
script last. -/
def Inputs.ofArguments {m : Type → Type} [Monad m] (read : FileReader m) (a : Arguments) :
    m (Except TestFault Inputs) := do
  match RuleKind.find? a.kind with
  | none => pure (.error (.unknownKind a.kind))
  | some kind => match readSettings a.config with
    | .error f => pure (.error f)
    | .ok settings =>
      let loaded ← match a.traces with
        | none => pure (.ok ([], []))
        | some path => do
          let path := Text.plainPath path
          match ← readFile read path with
          | .error f => pure (.error f)
          | .ok content => pure ((readTraces content).map fun ts =>
              (ts, loadedNote ts.length path :: TraceStore.repetitionNotes (ts.map Trace.id)))
      match loaded with
      | .error f => pure (.error f)
      | .ok (traces, notes) =>
        let scriptPath := Text.plainPath a.script
        match ← readFile read scriptPath with
        | .error f => pure (.error f)
        | .ok scriptText => pure (.ok ⟨kind, settings, traces, scriptPath, scriptText, notes⟩)

/-- What a reader sees of an outcome. -/
def shownOutcome (s : Scene) (o : Outcome LiveRecord Value) : Outcome ShownRecord Data :=
  let text (action : EStateM Value Scene String) : String := match action s with
    | .ok text _ => text
    | .error _ _ => ""
  ⟨⟨text ((host).recordId o.record),
    text (Scene.performText (attributeText o.record.span "operation_name"))⟩,
    snapshot s.world o.value⟩

def shownReport (s : Scene) : Report LiveRecord Value → Report ShownRecord Data
  | .failure f => .failure f
  | .success r => .success
      ⟨r.artifact, snapshot s.world r.function, r.outcomes.map (shownOutcome s),
        r.samples.map (shownOutcome s), r.revision⟩

def testingNote (i : Inputs) : LogRecord :=
  ⟨.info, .bench, "Testing " ++ i.kind.title ++ " rule " ++ i.scriptPath⟩

/-- Tests a script. Samples are drawn by the seed that is configured, else by a given one. -/
def Inputs.test (i : Inputs) (uri : String) (otherSeed : Int) : Except TestFault TestResult := do
  let p : Bench := ⟨i.kind, i.settings⟩
  let buffers := Buffers.insert {} uri i.scriptText
  let g := Generator.ofSeed (i.settings.seed.getD otherSeed)
  let (c, _, scene) := p.run host buffers uri g (Scene.ofTraces i.traces)
  match c.result with
  | .error (.notRegistered cause) => .error (.notRegistered cause)
  | .error (.escaped e) => .error (.escaped (scene.errorText e))
  | .ok report =>
    let shown := shownReport scene report
    let summary ← shown.summary.mapError .unwritable
    let output ← (shown.output i.kind.key).mapError .unwritable
    let notes := i.notes ++ [Buffers.insertNote uri, testingNote i] ++ c.notes ++
      summary.map fun line => ⟨.info, .bench, line⟩
    return ⟨report.exitCode, scene.world.printed ++ output ++ "\n", notes⟩

/-- Reads the files that the arguments name and tests the script. -/
def test {m : Type → Type} [Monad m] (read : FileReader m) (a : Arguments) (otherSeed : Int := 0) :
    m (Except TestFault TestResult) := do
  match ← Inputs.ofArguments read a with
  | .error f => pure (.error f)
  | .ok i => pure (i.test ("file:///" ++ i.scriptPath) otherSeed)

/-- What a command line comes to: a test, or a text with an exit code. -/
inductive Answer where
  | tested (result : Except TestFault TestResult)
  | help (text : String)
  | misused (text : String)
  /-- The value of a switch was dropped. -/
  | dropped

def droppedMessage : String := "not enough values to unpack (expected 1, got 0)"

/-- Answers the words of a command line. -/
def answer {m : Type → Type} [Monad m] (read : FileReader m) (words : List String)
    (otherSeed : Int := 0) : m Answer := do
  match Arguments.ofTexts words with
  | .error .help => pure (.help helpText)
  | .error (.usage f) => pure (.misused f.text)
  | .error .droppedValue => pure .dropped
  | .ok a => return .tested (← test read a otherSeed)

end RuleBench.CommandLine
