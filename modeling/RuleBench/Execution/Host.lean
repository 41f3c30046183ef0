import RuleBench.Execution.Machine
import RuleBench.Execution.Record
import RuleBench.Execution.Snapshot
import RuleBench.Trial
import RuleBench.Script.Lowering
import RuleBench.Script.Unplaced
import RuleBench.Trace.Store

/-!
# Scripts as a host of rules

The world in which rule functions are live: a store of traces that scripts can reach into, and the
memory in which their values stay from one call to the next.
-/

namespace RuleBench.Execution

open RuleBench.Script

/-- Everything that scripts and the traces they work on consist of. -/
structure Scene where
  memory : Memory := {}
  /-- The traces, as values. -/
  store : TraceStore Value := {}

instance : Inhabited Scene := ⟨{}⟩

/-- A live span with its trace. -/
structure LiveRecord where
  span : Value
  trace : Value

namespace Scene

/-- Performs an action on the scene. -/
def perform (action : Action Value) : EStateM Value Scene Value := fun s =>
  let ending := s.memory.perform action
  let s := { s with memory := ending.memory }
  match ending.result with
  | .ok v => .ok v s
  | .error e => .error e s

def performText (action : Action String) : EStateM Value Scene String := fun s =>
  match perform (do return .str (← action)) s with
  | .ok (.str text) s => .ok text s
  | .ok _ s => .ok "" s
  | .error e s => .error e s

def performTest (action : Action Bool) : EStateM Value Scene Bool := fun s =>
  match perform (do return .bool (← action)) s with
  | .ok v s => .ok (v matches .bool true) s
  | .error e s => .error e s

/-- The world as a script sees it that looks at all there is. -/
def world (s : Scene) : World := s.memory.notes.layOpen s.memory.world

/-- Puts a trace into the store; one whose identifier is taken changes nothing. -/
def withTrace (s : Scene) (t : Trace) : Scene :=
  if s.store.contains t.id then s
  else match perform (ofTrace t) s with
    | .ok v s => { s with store := s.store.add t.id v }
    | .error _ s => s

def withoutTrace (s : Scene) (id : String) : Scene := { s with store := s.store.remove id }

/-- The records there are now, in trace order and then in span order. -/
def records (s : Scene) : List LiveRecord :=
  s.store.traces.flatMap fun trace =>
    let spans := match s.memory.world.obj? trace with
      | some (.record _ fields _) => s.memory.world.itemsNow ((fields.lookup "spans").getD .none)
      | _ => []
    spans.map fun span => ⟨span, trace⟩

/-- A scene with traces in its store. -/
def ofTraces (traces : List Trace) : Scene := traces.foldl withTrace {}

end Scene

/-! ### Loading scripts -/

/-- The class of the error that a defect is reported with. -/
def defectClass : DefectFamily → String
  | .syntactic => "SyntaxError"
  | .indentation => "IndentationError"
  | .tabs => "TabError"

/-- Raises why a text is no script. -/
def reject {α : Type} (file : String) : Rejection → Action α
  | .fault f => do
    let place := Value.tuple [.str file, .int f.line, .int f.column, .none]
    Action.raise (← newError (defectClass f.defect.family) [.str f.defect.message, place])
  | .nullCharacter => valueError "source code string cannot contain null bytes"
  | .readerExhausted => do Action.raise (← newError "MemoryError" [])
  | .treeTooDeep => fail "RecursionError" "maximum recursion depth exceeded during compilation"

/-- The name of the module that a script runs in. -/
def moduleName : String := "span_rule"

def tableName : String := "__builtins__"

/-- Runs code in a fresh module; the value is the module's table of names. -/
def loadModule (file code : String) : Action Value := do
  match parseChecked code with
  | .error r => reject file r
  | .ok script => do
    let table ← new (.module "builtins" [])
    let frame ← alloc (.dict #[(.str "__name__", .str moduleName), (.str tableName, table)])
    runModule frame (keepsTexts script) (unplacedBlock script)
    pure (.ref frame)

/-- The names of a module with their values, the table of known names apart. -/
def moduleNames (w : World) (v : Value) : List (String × Value) :=
  match w.obj? v with
  | some (.dict es) => es.toList.filterMap fun (k, x) => match k with
      | .str n => if n == tableName then none else some (n, x)
      | _ => none
  | _ => []

/-! ### Shapes of answers -/

def isTextValue (v : Value) : Action Bool := passesFor v (.known "str")

/-- Whether a value passes for a tuple or a list. -/
def isSequence (v : Value) : Action Bool := do
  if ← passesFor v (.known "tuple") then pure true else passesFor v (.known "list")

/-- Whether a value is a list or tuple that claims two items and hands out only texts. -/
def isPair (v : Value) : Action Bool := do
  if ← isSequence v then
    if (← length v) == 2 then
      let i ← iterator v
      let other ← eachOf i fun x => do
        if ← isTextValue x then pure none else pure (some ())
      pure other.isNone
    else pure false
  else pure false

def hasShape (shape : AnswerShape) (v : Value) : Action Bool :=
  match shape with
  | .text => isTextValue v
  | .textPair => isPair v

/-- The class of a value, for lists and tuples with the classes of what they hand out. -/
def typeText (v : Value) : Action String := do
  let name ← typeNameOf v
  if ← isSequence v then
    let items ← drain (← iterator v)
    return name ++ Data.bracketed "[" "]" (← items.mapM typeNameOf)
  else pure name

/-- The text of an attribute. -/
def attributeText (v : Value) (name : String) : Action String := do format (← attrOf v name) ""

/-- The identifier of a span or trace. -/
def World.identifier (w : World) (v : Value) : String :=
  match w.obj? v with
  | some (.record _ fields _) => match fields.lookup "id" with
    | some (.str id) => id
    | _ => ""
  | _ => ""

/-- The host of live rule functions; code is loaded under the name of a file. -/
def host (file : String := "<" ++ moduleName ++ ">") :
    ScriptHost Scene LiveRecord Value Value Value where
  load code := Scene.perform (loadModule file code)
  lookup? names name s := (moduleNames s.memory.world names).lookup name
  isCallable v s := Builtin.isCallable s.memory.world v
  records := Scene.records
  recordId r := fun s => .ok (s.memory.world.identifier r.trace ++ "/" ++ s.memory.world.identifier r.span) s
  shownSpan r s := match Scene.performText (shown r.span) s with
    | .ok text _ => text
    | .error _ _ => ""
  call f r := Scene.perform (call f [r.span, r.trace])
  accepts shape v := Scene.performTest (hasShape shape v)
  typeOf v := Scene.performText (typeText v)
  passage? e s := ErrorClass.passageOf fun name => s.memory.world.isInstance e (.known name)
  errorClass e s := s.memory.world.typeName e
  errorText e := Scene.performText (errorText e)

/-- The class and the text of an error. Where the text cannot be had, those of the error that was
raised instead. -/
def Scene.errorText (s : Scene) (e : Value) : String × String :=
  match (host).errorText e s with
  | .ok text s => (s.memory.world.typeName e, text)
  | .error inner s => match (host).errorText inner s with
    | .ok text s => (s.memory.world.typeName inner, text)
    | .error _ s => (s.memory.world.typeName inner, "")

end RuleBench.Execution
