import RuleBench.ErrorClass
import RuleBench.Number.Magnitude
import RuleBench.Number.Shortest
import RuleBench.Text.Quoted

/-!
# Data

Plain values without identity: what trace exports, options and answers of rules are made of. Values
of subclasses keep the name of their class and what it answers when asked for a length; errors are
described by their class and arguments, for they can be such an answer.
-/

namespace RuleBench

open RuleBench.Number RuleBench.Text

mutual

inductive Data where
  | none
  | bool (value : Bool)
  | int (value : Int)
  | float (value : Float)
  | str (text : String)
  | bytes (value : List UInt8)
  | list (items : List Data)
  | tuple (items : List Data)
  | set (items : List Data)
  | dict (entries : List (Data × Data))
  /-- A value of a declared class that extends the class of its content. -/
  | sub (className : String) (content : Data) (length : Answer)
  /-- A value of a declared class without content. -/
  | object (className : String)
  | classObject (className : String)
  /-- Any other value, known by its type alone. -/
  | other (typeName : String)

/-- What a declared method answers. -/
inductive Answer where
  | inherited
  | returns (value : Data)
  | raises (error : ErrorSpec)

/-- An error to raise. -/
inductive ErrorSpec where
  | known (className : String) (args : List Data)
  | declared (className base : String) (text : Answer) (args : List Data)

end

instance : Inhabited Data := ⟨.none⟩
instance : Inhabited ErrorSpec := ⟨.known "Exception" []⟩

namespace Data

def typeName : Data → String
  | none => "NoneType"
  | bool _ => "bool"
  | int _ => "int"
  | float _ => "float"
  | str _ => "str"
  | bytes _ => "bytes"
  | list _ => "list"
  | tuple _ => "tuple"
  | set _ => "set"
  | dict _ => "dict"
  | sub name _ _ => name
  | object name => name
  | classObject _ => "type"
  | other name => name

/-- The value as one of the class that its own class extends. -/
def content : Data → Data
  | sub _ c _ => c
  | d => d

/-- The items of a list or tuple. -/
def items? (d : Data) : Option (List Data) :=
  match d.content with
  | list xs => some xs
  | tuple xs => some xs
  | _ => Option.none

def text? (d : Data) : Option String :=
  match d.content with
  | str s => some s
  | _ => Option.none

def entries? (d : Data) : Option (List (Data × Data)) :=
  match d.content with
  | dict es => some es
  | _ => Option.none

/-- Booleans count as numbers. -/
def magnitude? : Data → Option Magnitude
  | bool b => some (.ofInt (if b then 1 else 0))
  | int n => some (.ofInt n)
  | float x => some (.ofFloat x)
  | _ => Option.none

/-- Neither a number nor a container, and equal to its like only. -/
def sameAtom : Data → Data → Bool
  | none, none => true
  | str s, str t => s == t
  | bytes s, bytes t => s == t
  | _, _ => false

mutual

/-- Equality by value: numbers across their kinds, mappings in any order, and classes that extend a
class of values as that class. -/
def equals : Data → Data → Bool
  | list xs, d => match d.content with
    | list ys => equalItems xs ys
    | _ => false
  | tuple xs, d => match d.content with
    | tuple ys => equalItems xs ys
    | _ => false
  | set xs, d => match d.content with
    | set ys => xs.length == ys.length && eachIn xs ys
    | _ => false
  | dict es, d => match d.content with
    | dict fs => es.length == fs.length && eachEntryIn es fs
    | _ => false
  | sub _ c _, d => equals c d
  | a, d => match a.magnitude?, d.content.magnitude? with
    | some x, some y => x.same y
    | _, _ => sameAtom a d.content

def equalItems : List Data → List Data → Bool
  | [], ys => ys.isEmpty
  | x :: xs, ys => match ys with
    | [] => false
    | y :: ys => equals x y && equalItems xs ys

def eachIn : List Data → List Data → Bool
  | [], _ => true
  | x :: xs, ys => ys.any (equals x) && eachIn xs ys

def eachEntryIn : List (Data × Data) → List (Data × Data) → Bool
  | [], _ => true
  | (k, v) :: es, fs => fs.any (fun f => equals k f.1 && equals v f.2) && eachEntryIn es fs

end

/-- The number of items that a length of this value claims. -/
def ownLength? (d : Data) : Option Nat :=
  match d.content with
  | str s => some s.length
  | bytes b => some b.length
  | list xs => some xs.length
  | tuple xs => some xs.length
  | set xs => some xs.length
  | dict es => some es.length
  | _ => Option.none

/-- Puts a value under a key: in the place of an equal key, else at the end. -/
def insertEntry (key value : Data) : List (Data × Data) → List (Data × Data)
  | [] => [(key, value)]
  | (k, v) :: es => if k.equals key then (k, value) :: es else (k, v) :: insertEntry key value es

/-- A mapping from pairs of which the last of equal keys counts. -/
def ofEntries (es : List (Data × Data)) : Data :=
  dict (es.foldl (fun acc e => insertEntry e.1 e.2 acc) [])

def lookup? (key : String) (es : List (Data × Data)) : Option Data :=
  (es.find? fun e => e.1.equals (str key)).map (·.2)

/-- Items between brackets. -/
def bracketed (left right : String) (texts : List String) : String :=
  left ++ ", ".intercalate texts ++ right

/-- Texts as the items of a tuple: a single one is followed by a comma. -/
def tupleText : List String → String
  | [t] => "(" ++ t ++ ",)"
  | ts => bracketed "(" ")" ts

mutual

/-- The text that shows a value. -/
def shown : Data → String
  | none => "None"
  | bool b => if b then "True" else "False"
  | int n => toString n
  | float x => floatText x
  | str s => quoted s
  | bytes b => quotedBytes b
  | list xs => bracketed "[" "]" (shownItems xs)
  | tuple xs => tupleText (shownItems xs)
  | set xs => if xs.isEmpty then "set()" else bracketed "\x7b" "\x7d" (shownItems xs)
  | dict es => bracketed "\x7b" "\x7d" (shownEntries es)
  | sub _ c _ => shown c
  | object name => "<" ++ name ++ " object>"
  | classObject name => "<class '" ++ name ++ "'>"
  | other name => "<" ++ name ++ ">"

def shownItems : List Data → List String
  | [] => []
  | x :: xs => shown x :: shownItems xs

def shownEntries : List (Data × Data) → List String
  | [] => []
  | (k, v) :: es => (shown k ++ ": " ++ shown v) :: shownEntries es

end

/-- A value as text: texts are themselves, other values are shown. -/
def toText (d : Data) : String := d.text?.getD d.shown

end Data

namespace ErrorSpec

/-- The class of the error. A system error with a number has the class of that number. -/
def className : ErrorSpec → String
  | known name args => match name, args with
    | "OSError", .int n :: _ :: _ => ErrorClass.ofErrorNumber n
    | _, _ => name
  | declared name _ _ _ => name

/-- The class among those that need no declaration. -/
def knownClass : ErrorSpec → String
  | e@(known _ _) => e.className
  | declared _ base _ _ => base

def args : ErrorSpec → List Data
  | known _ as => as
  | declared _ _ _ as => as

def passage? (e : ErrorSpec) : Option ErrorClass.Passage := ErrorClass.passage? e.knownClass

/-- The last part of a path. -/
def baseName (path : String) : String :=
  String.ofList (path.toList.reverse.takeWhile (· != '/')).reverse

/-- The text that the arguments of an error make, by its class. -/
def argumentText (className : String) (args : List Data) : String :=
  if ErrorClass.extend className "OSError" && 2 ≤ args.length && args.length ≤ 5 then
    match args with
    | number :: text :: file :: _ =>
      "[Errno " ++ number.toText ++ "] " ++ text.toText ++
        (if file matches .none then "" else ": " ++ file.shown)
    | number :: text :: _ => "[Errno " ++ number.toText ++ "] " ++ text.toText
    | _ => ""
  else if ErrorClass.extend className "SyntaxError" then
    match args with
    | [] => "None"
    | [.str message, .tuple (file :: line :: _)] => match file, line with
      | .str f, .int n => message ++ " (" ++ baseName f ++ ", line " ++ toString n ++ ")"
      | .str f, _ => message ++ " (" ++ baseName f ++ ")"
      | _, .int n => message ++ " (line " ++ toString n ++ ")"
      | _, _ => message
    | first :: _ => first.toText
  else match args with
    | [] => ""
    | [a] => if ErrorClass.extend className "KeyError" then a.shown else a.toText
    | as => (Data.tuple as).shown

/-- The text of an error, or the error that its own text raises. -/
def text : ErrorSpec → Except ErrorSpec String
  | e@(known _ as) => .ok (argumentText e.className as)
  | declared _ base t as => match t with
    | .inherited => .ok (argumentText base as)
    | .returns v => match v.text? with
      | some s => .ok s
      | none => .error (known "TypeError"
          [.str ("__str__ returned non-string (type " ++ v.typeName ++ ")")])
    | .raises e => .error e

end ErrorSpec

namespace Data

/-- No length is greater. -/
def greatestLength : Nat := 9223372036854775807

/-- What a value answers when asked for its length. -/
def length (d : Data) : Except ErrorSpec Nat :=
  match d with
  | sub _ _ (.returns v) => match v.content with
    | int n =>
      if n < 0 then .error (.known "ValueError" [str "__len__() should return >= 0"])
      else if n > greatestLength then
        .error (.known "OverflowError" [str "cannot fit 'int' into an index-sized integer"])
      else .ok n.toNat
    | bool b => .ok (if b then 1 else 0)
    | _ => .error (.known "TypeError"
        [str ("'" ++ v.typeName ++ "' object cannot be interpreted as an integer")])
  | sub _ _ (.raises e) => .error e
  | d => match d.ownLength? with
    | some n => .ok n
    | Option.none => .error (.known "TypeError"
        [str ("object of type '" ++ d.typeName ++ "' has no len()")])

end Data

end RuleBench
