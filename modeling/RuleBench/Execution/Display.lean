import RuleBench.Data
import RuleBench.Execution.Comparison
import RuleBench.Number.Shortest
import RuleBench.Script.Constant
import RuleBench.Text.Quoted

/-!
# Values as text

Every value can be shown, and every value has a text. A class may declare either; known classes show
what they contain, and the text of an error comes from its arguments.
-/

namespace RuleBench.Execution

open RuleBench.Text RuleBench.Number

/-- A number that names the place of an object. -/
def placeText (a : Address) : String :=
  "0x" ++ String.ofList (hexDigits 12 (0x7f0000000000 + 16 * a))

/-- The text of an integer, for as long as integers have texts. -/
def intText (n : Int) : Action String :=
  let text := toString n
  if n.natAbs ≥ Nat.pow 10 Script.maxWrittenDigits then
    valueError ("Exceeds the limit (4300 digits) for integer string conversion; " ++
      "use sys.set_int_max_str_digits() to increase the limit")
  else pure text

/-- The modules that known classes belong to, where they show one. -/
def knownModule? (name : String) : Option String :=
  if recordKinds.any (·.1 == name) then
    some (if name == "Model" then "span_rules.models.base" else "span_rules.models.trace")
  else if name == "CancelledError" then some "asyncio.exceptions"
  else none

/-- The full name of a class. -/
def World.typePath (w : World) (t : TypeRef) : String :=
  match t, w.classInfo? t with
  | .known name, _ => match knownModule? name with
    | some m => m ++ "." ++ name
    | none => name
  | _, some info => match info.attrs.lookup "__module__" with
    | some (.str m) => m ++ "." ++ info.path
    | _ => info.path
  | _, none => "?"

/-- Items with something between them, each made by an action. -/
def shownAll (shown : Value → Action String) (xs : List Value) : Action (List String) :=
  xs.mapM shown

/-- The entries of a mapping as they are now. -/
def World.entriesNow (w : World) (d : Address) : List (Value × Value) :=
  match w.get d with
  | .dict es => es.toList
  | _ => []

/-- What a view holds for an entry of its mapping. -/
def ViewKind.item (kind : ViewKind) (e : Value × Value) : Value :=
  match kind with
  | .keys => e.1
  | .values => e.2
  | .items => .tuple [e.1, e.2]

section

variable (shown : Value → Action String)

/-- Entries as they stand in a mapping. -/
def shownEntries : List (Value × Value) → Action (List String)
  | [] => pure []
  | (k, v) :: es => do
    let key ← shown k
    let value ← shown v
    return (key ++ ": " ++ value) :: (← shownEntries es)

def shownFields : Bindings → Action (List String)
  | [] => pure []
  | (n, v) :: fs => do
    let value ← shown v
    return (n ++ "=" ++ value) :: (← shownFields fs)

def braced (texts : List String) : String := Data.bracketed "\x7b" "\x7d" texts

/-- An object with its class and the place where it lies. -/
def placed (description : String) (a : Address) : Action String := do
  return "<" ++ description ++ " at " ++ placeText (← Action.located a) ++ ">"

def shownObject (a : Address) (o : Obj) : Action String := do
  let w ← Action.world
  match o with
  | .list xs => return Data.bracketed "[" "]" (← shownAll shown xs.toList)
  | .dict es => return braced (← shownEntries shown es.toList)
  | .set xs frozen =>
    let texts ← shownAll shown xs.toList
    return match frozen, xs.isEmpty with
      | false, true => "set()"
      | false, false => braced texts
      | true, true => "frozenset()"
      | true, false => "frozenset(" ++ braced texts ++ ")"
  | .record kind fields _ => return kind ++ Data.bracketed "(" ")" (← shownFields shown fields)
  | .view kind d =>
    let texts ← shownAll shown ((w.entriesNow d).map kind.item)
    return kind.typeName ++ "(" ++ Data.bracketed "[" "]" texts ++ ")"
  | .function c _ => placed ("function " ++ c.path) a
  | .cls _ => return "<class '" ++ w.typePath (.declared a) ++ "'>"
  | .boundMethod f self => match w.obj? f with
    | some (.function c _) => return "<bound method " ++ c.path ++ " of " ++ (← shown self) ++ ">"
    | _ => return "<bound method of " ++ (← shown self) ++ ">"
  | .generator _ path form _ => placed (form.typeName ++ " object " ++ path) a
  | .superView behind self selfType =>
    let cls := "<class '" ++ w.typeRefName behind ++ "'>, "
    return "<super: " ++ cls ++ (match self with
      | .none => "NULL>"
      | _ => "<" ++ w.typeRefName selfType ++ " object>>")
  | .module name _ => return "<module '" ++ name ++ "'>"
  | .staticMethod f => return "<staticmethod(" ++ (← shown f) ++ ")>"
  | .classMethod f => return "<classmethod(" ++ (← shown f) ++ ")>"
  | o => placed (w.typePath o.typeRef ++ " object") a

/-- A value of a known class. -/
def shownKnown (v : Value) : Action String := do
  let w ← Action.world
  match v with
  | .none => pure "None"
  | .notImplemented => pure "NotImplemented"
  | .ellipsis => pure "Ellipsis"
  | .bool b => pure (if b then "True" else "False")
  | .int n => intText n
  | .float x => pure (floatText x)
  | .complex x y => pure (Script.Constant.complexText x y)
  | .str s => pure (quoted s)
  | .bytes b => pure (quotedBytes b)
  | .tuple xs => return Data.tupleText (← shownAll shown xs)
  | .range start stop step =>
    let ends := toString start ++ ", " ++ toString stop
    pure ("range(" ++ ends ++ (if step == 1 then "" else ", " ++ toString step) ++ ")")
  | .slice lower upper step =>
    return "slice" ++ Data.bracketed "(" ")" (← shownAll shown [lower, upper, step])
  | .type t => pure ("<class '" ++ w.typePath t ++ "'>")
  | .builtin name => pure ("<built-in function " ++ name ++ ">")
  | .method owner name self =>
    let place ← match self with
      | .ref a => Action.located a
      | _ => pure 0
    pure ("<built-in method " ++ name ++ " of " ++
      (if owner == "object" then w.typeName self else owner) ++ " object at " ++ placeText place ++
      ">")
  | .slot owner name =>
    pure ("<" ++ (if isOperation name then "slot wrapper" else "method") ++ " '" ++ name ++
      "' of '" ++
      owner ++ "' objects>")
  | .ref a => shownObject shown a (w.get a)

end

/-- The known part of a value of a declared class: what it contains, or the error that it is. -/
def shownInstance (shown : Value → Action String) (v : Value) : Action String := do
  let w ← Action.world
  if w.isError v then
    let args ← shownAll shown (w.errorArgs v)
    pure (w.typeName v ++ Data.bracketed "(" ")" args)
  else match w.content v, v with
    | .ref c, .ref a =>
      if c == a then placed (w.typePath (w.typeRef v) ++ " object") a
      else match w.get c with
        | .set xs _ => do
          let texts ← shownAll shown xs.toList
          pure (w.typeName v ++ "(" ++ (if xs.isEmpty then "" else braced texts) ++ ")")
        | o => shownObject shown c o
    | c, _ => shownKnown shown c

/-- What stands for a container that is shown inside itself. -/
def World.selfMark (w : World) (v : Value) : String :=
  match w.obj? (w.content v) with
  | some (.list _) => "[...]"
  | some (.dict _) => "\x7b...\x7d"
  | some (.set ..) => w.typeName v ++ "(...)"
  | _ => "..."

/-- Answers of declared methods for texts have to be texts. -/
def expectText (method : String) (answer : Value) : Action String := do
  match (← Action.world).text? answer with
  | some s => pure s
  | none => typeErrorOf answer fun t => method ++ " returned non-string (type " ++ t ++ ")"

/-- Shows a value that stands inside others, for as many levels as the fuel. -/
def shownWithin : Nat → List Address → Value → Action String
  | 0, _, _ =>
    fail "RecursionError" "maximum recursion depth exceeded while getting the repr of an object"
  | fuel + 1, inside, v => do
    match ← callDeclared? v "__repr__" with
    | some answer => expectText "__repr__" answer
    | none => match v with
      | .ref a =>
        let w ← Action.world
        if inside.contains a then pure (w.selfMark v)
        else
          let shown := shownWithin fuel (a :: inside)
          match w.get a with
          | .instance .. => shownInstance shown v
          | o => shownObject shown a o
      | v => shownKnown (shownWithin fuel inside) v

/-- The text that shows a value. -/
def shown (v : Value) : Action String := shownWithin greatestNesting [] v

/-- The known text of a value of a class that shows it. -/
def shownByContent (v : Value) : Action String := do
  match v with
  | .ref a => match ← load a with
    | .instance .. => shownInstance (shownWithin greatestNesting [a]) v
    | o => shownObject (shownWithin greatestNesting [a]) a o
  | v => shownKnown shown v

section

variable (text : Value → Action String)

/-- The text that the arguments of most errors make. -/
def argumentsText (className : String) : List Value → Action String
  | [] => pure ""
  | [a] => if ErrorClass.extend className "KeyError" then shown a else text a
  | as => shown (.tuple as)

/-- The text of an error of the system: its number, its message, and the files it names. -/
def systemErrorText (number message : Value) (rest : List Value) : Action String := do
  let first := "[Errno " ++ (← text number) ++ "] " ++ (← text message)
  match rest with
  | [] => pure first
  | .none :: _ => pure first
  | file :: _ :: other :: _ =>
    let name ← shown file
    if other matches .none then pure (first ++ ": " ++ name)
    else return first ++ ": " ++ name ++ " -> " ++ (← shown other)
  | file :: _ => return first ++ ": " ++ (← shown file)

/-- Where a script is wrong. -/
def sitePhrase (first : String) : Value → Value → String
  | .str f, .int n => first ++ " (" ++ ErrorSpec.baseName f ++ ", line " ++ toString n ++ ")"
  | .str f, _ => first ++ " (" ++ ErrorSpec.baseName f ++ ")"
  | _, .int n => first ++ " (line " ++ toString n ++ ")"
  | _, _ => first

def syntaxErrorText (args : List Value) : Action String := do
  match args with
  | [] => pure "None"
  | [message, .tuple (file :: line :: _)] => return sitePhrase (← text message) file line
  | first :: _ => text first

/-- The text that the arguments of an error make. -/
def errorTextWith (className : String) (args : List Value) : Action String := do
  if ErrorClass.extend className "OSError" && 2 ≤ args.length && args.length ≤ 5 then
    match args with
    | number :: message :: rest => systemErrorText text number message rest
    | as => argumentsText text className as
  else if ErrorClass.extend className "SyntaxError" then syntaxErrorText text args
  else argumentsText text className args

/-- The text of a value with this content, which is no text. -/
def textOfContent (v content : Value) : Action String := do
  let w ← Action.world
  if w.isError v then errorTextWith text (w.knownClass (w.typeRef v)) (w.errorArgs v)
  else match w.obj? content with
    | some (.record _ fields _) => return " ".intercalate (← shownFields shown fields)
    | _ => shown v

/-- The text of a value whose class declares none. -/
def textByContentWith (v : Value) : Action String := do
  match ← contentOf v with
  | .str s => pure s
  | c => textOfContent text v c

end

/-- The text of a value, for errors inside errors as deep as the fuel. -/
def textWithin : Nat → Value → Action String
  | 0, _ =>
    fail "RecursionError" "maximum recursion depth exceeded while getting the str of an object"
  | fuel + 1, v => do
    match v with
    | .str s => pure s
    | v => match ← callDeclared? v "__str__" with
      | some answer => expectText "__str__" answer
      | none => textByContentWith (textWithin fuel) v

/-- The text of a value. -/
def textOf (v : Value) : Action String := textWithin greatestNesting v

/-- The text of a value without asking its class. -/
def textByContent (v : Value) : Action String := textByContentWith textOf v

/-- The text of an error. -/
def errorText (v : Value) : Action String := textOf v

end RuleBench.Execution
