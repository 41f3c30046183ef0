import RuleBench.Execution.Attribute
import RuleBench.Execution.Subscript

/-!
# Declared classes

A class is made of the classes it extends and of its attributes. The order in which attributes are
looked up keeps every class in front of those it extends, and the classes of one declaration in the
order in which they are written; where no such order exists there is no class.
-/

namespace RuleBench.Execution

namespace Declaration

/-- Whether a class stands behind the first place of an order. -/
def isBehind (t : TypeRef) (order : List TypeRef) : Bool := order.tail.contains t

/-- The first class that heads an order and stands behind the head of none. -/
def nextClass? (orders : List (List TypeRef)) : Option TypeRef :=
  (orders.filterMap List.head?).find? fun t => !orders.any (isBehind t)

/-- Merges orders into one that respects all of them, of at most `fuel` classes. -/
def merge : Nat → List (List TypeRef) → Option (List TypeRef)
  | 0, orders => if orders.all List.isEmpty then some [] else none
  | fuel + 1, orders =>
    let orders := orders.filter fun o => !o.isEmpty
    if orders.isEmpty then some []
    else do
      let t ← nextClass? orders
      let rest ← merge fuel (orders.map fun o => if o.head? == some t then o.tail else o)
      return t :: rest

/-- The heads that no order of all classes can take next. -/
def conflict : Nat → List (List TypeRef) → List TypeRef
  | 0, _ => []
  | fuel + 1, orders =>
    let orders := orders.filter fun o => !o.isEmpty
    match nextClass? orders with
    | none => (orders.filterMap List.head?).eraseDups
    | some t => conflict fuel (orders.map fun o => if o.head? == some t then o.tail else o)

/-- The classes that give their instances a content of their own. -/
def contentClasses : List String := [
  "int", "float", "complex", "str", "bytes", "tuple", "list", "dict", "set", "frozenset",
  "property",
  "staticmethod", "classmethod", "super", "enumerate", "zip", "map", "filter", "reversed", "type",
  "BaseException", "OSError", "SyntaxError", "StopIteration", "SystemExit", "ImportError",
  "AttributeError", "NameError", "UnicodeEncodeError", "UnicodeDecodeError",
  "UnicodeTranslateError", "BaseModel"]

/-- The nearest class that gives instances of a known class their content. -/
def contentClass? (name : String) : Option String := (knownOrder name).find? contentClasses.contains

/-- Whether instances can have the contents of both classes. -/
def contentsAgree (a b : String) : Bool := (knownOrder a).contains b || (knownOrder b).contains a

/-- Classes that cannot be extended. -/
def isFinal (name : String) : Bool := [
  "bool", "range", "slice", "NoneType", "ellipsis", "NotImplementedType", "function", "method",
  "generator", "coroutine", "builtin_function_or_method", "dict_keys", "dict_values", "dict_items",
  "memoryview", "method-wrapper", "wrapper_descriptor", "method_descriptor"].contains name

/-- Refuses a class that cannot be extended. -/
def checkBase (t : TypeRef) : Action Unit := do
  match t with
  | .known k => if isFinal k then typeError ("type '" ++ k ++ "' is not an acceptable base type")
  | .declared _ => pure ()

/-- Refuses classes that cannot be extended, or not together. -/
def checkBases (bases : List TypeRef) : Action Unit := do
  let w ← Action.world
  for b in bases do checkBase b
  let contents := bases.filterMap fun b => contentClass? (w.knownClass b)
  let agree := contents.all fun a => contents.all (contentsAgree a)
  if !agree then typeError "multiple bases have instance lay-out conflict"

/-- The first class that occurs again. -/
def repeated? : List TypeRef → Option TypeRef
  | [] => none
  | t :: ts => if ts.contains t then some t else repeated? ts

/-- The order of classes behind a new class. -/
def orderOf (bases : List TypeRef) : Action (List TypeRef) := do
  let w ← Action.world
  match repeated? bases with
  | some t => typeError ("duplicate base class " ++ w.typeRefName t)
  | none =>
    let orders := bases.map w.order ++ [bases]
    let fuel := orders.flatten.length + 1
    match merge fuel orders with
    | some order => pure order
    | none =>
      let names := (conflict fuel orders).map w.typeRefName
      typeError ("Cannot create a consistent method resolution\norder (MRO) for bases " ++
        ", ".intercalate names)

/-- Attributes that a class declares for itself as a whole: they work on the class even when they
are written as plain functions. -/
def adjust (name : String) (v : Value) : Action Value := do
  match ← objOf v with
  | some (.function ..) => match name with
    | "__new__" => new (.staticMethod v)
    | "__init_subclass__" => new (.classMethod v)
    | "__class_getitem__" => new (.classMethod v)
    | _ => pure v
  | _ => pure v

/-- Tells the attributes of a new class their names. -/
def announceNames (cls : Value) : Bindings → Action Unit
  | [] => pure ()
  | (n, v) :: attrs => do
    let _ ← callDeclared? v "__set_name__" [cls, .str n]
    announceNames cls attrs

/-- Tells the classes that are extended of the new one. -/
def announceClass (t : TypeRef) (named : Bindings) : Action Unit := do
  let w ← Action.world
  match ← behindAttribute? t (.type t) t "__init_subclass__" with
  | some (.method ..) =>
    if !named.isEmpty then
      typeError (w.typeRefName t ++ ".__init_subclass__() takes no keyword arguments")
  | some f => do let _ ← call f [] named
  | none => pure ()

/-- The path that the attributes of a class give it. -/
def pathFrom (attrs : Bindings) (path : String) : String :=
  match attrs.lookup "__qualname__" with
  | some (.str s) => s
  | _ => path

/-- Declares a class. The annotations noted for the variables of its body are those of the class. -/
def declareClass (name path : String) (bases : List TypeRef) (attrs : Bindings) (named : Bindings)
    (frame? : Option Address := none) : Action Value := do
  let bases := if bases.isEmpty then [.known "object"] else bases
  checkBases bases
  let order ← orderOf bases
  let path := pathFrom attrs path
  let attrs ← (attrs.remove "__qualname__").mapM fun (n, v) => return (n, ← adjust n v)
  let a ← alloc (.cls ⟨name, path, bases, [], attrs⟩)
  store a (.cls ⟨name, path, bases, .declared a :: order, attrs⟩)
  match frame? with
  | some frame => do let _ ← Action.note (.move frame a)
  | none => pure ()
  announceNames (.type (.declared a)) attrs
  announceClass (.declared a) named
  pure (.type (.declared a))

/-- The classes that values in the place of classes stand for. -/
def baseOf (v : Value) : Action Value := do
  match ← objOf v with
  | some (.instance t attrs _) =>
    pure (if t == .known "GenericAlias" then (attrs.lookup "__origin__").getD v else v)
  | _ => pure v

/-- A value as a class. -/
def classOf? : Value → Option TypeRef
  | .type t => some t
  | _ => none

/-- The first value that is no class. -/
def noClass? (bases : List Value) : Option Value :=
  bases.find? fun b => !(b matches .type _)

end Declaration

end RuleBench.Execution
