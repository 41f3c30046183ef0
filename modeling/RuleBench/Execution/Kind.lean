import RuleBench.ErrorClass
import RuleBench.Execution.Action

/-!
# Classes of values

The class of every value, the order in which the classes of a value are searched, and what a value
of a declared class contains.
-/

namespace RuleBench.Execution

/-- The kinds of records, each with the class it extends. -/
def recordKinds : List (String × String) := [
  ("SpanReference", "Model"), ("SpanLog", "Model"), ("SpanProcess", "Model"), ("Endpoint", "Model"),
  ("Span", "Model"), ("Trace", "Model"), ("Model", "BaseModel")]

/-- Classes of values that are used under their names. -/
def plainClasses : List String := [
  "object", "bool", "int", "float", "complex", "str", "bytes", "tuple", "list", "dict", "set",
  "frozenset", "range", "slice", "type", "property", "staticmethod", "classmethod", "super",
  "enumerate", "zip", "map", "filter", "reversed", "bytearray", "memoryview"]

/-- The order of classes of a known class. -/
def knownOrder (name : String) : List String :=
  if name == "object" then ["object"]
  else if name == "bool" then ["bool", "int", "object"]
  else if name == "ValidationError" then name :: ErrorClass.ancestors "ValueError" ++ ["object"]
  else if ErrorClass.isKnown name then ErrorClass.ancestors name ++ ["object"]
  else match recordKinds.lookup name with
    | some "Model" => [name, "Model", "BaseModel", "object"]
    | some base => [name, base, "object"]
    | none => [name, "object"]

namespace Iterator

def typeName : Iterator → String
  | list .. => "list_iterator"
  | reversedList .. => "list_reverseiterator"
  | items _ name => name
  | range .. => "range_iterator"
  | entries _ _ _ name => name
  | members .. => "set_iterator"
  | enumerate .. => "enumerate"
  | zip .. => "zip"
  | map .. => "map"
  | filter .. => "filter"
  | calls .. => "callable_iterator"
  | positions .. => "iterator"

end Iterator

def ViewKind.typeName : ViewKind → String
  | .keys => "dict_keys"
  | .values => "dict_values"
  | .items => "dict_items"

def FunctionForm.typeName : FunctionForm → String
  | .plain => "function"
  | .generator => "generator"
  | .coroutine => "coroutine"
  | .asyncGenerator => "async_generator"

namespace Obj

def typeRef : Obj → TypeRef
  | list _ => .known "list"
  | dict _ => .known "dict"
  | set _ frozen => .known (if frozen then "frozenset" else "set")
  | frame _ => .known "frame"
  | function .. => .known "function"
  | cls _ => .known "type"
  | .instance t .. => t
  | record kind .. => .known kind
  | generator _ _ form _ => .known form.typeName
  | iterator i => .known i.typeName
  | boundMethod .. => .known "method"
  | property .. => .known "property"
  | staticMethod _ => .known "staticmethod"
  | classMethod _ => .known "classmethod"
  | superView .. => .known "super"
  | view k _ => .known k.typeName
  | module .. => .known "module"

end Obj

/-- Methods that stand for an operation of the language. -/
def isOperation (name : String) : Bool := name.startsWith "__" && name.endsWith "__"

/-- The class of a value. -/
def World.typeRef (w : World) : Value → TypeRef
  | .none => .known "NoneType"
  | .notImplemented => .known "NotImplementedType"
  | .ellipsis => .known "ellipsis"
  | .bool _ => .known "bool"
  | .int _ => .known "int"
  | .float _ => .known "float"
  | .complex .. => .known "complex"
  | .str _ => .known "str"
  | .bytes _ => .known "bytes"
  | .tuple _ => .known "tuple"
  | .range .. => .known "range"
  | .slice .. => .known "slice"
  | .type _ => .known "type"
  | .builtin _ => .known "builtin_function_or_method"
  | .method _ name _ =>
    .known (if isOperation name then "method-wrapper" else "builtin_function_or_method")
  | .slot _ name => .known (if isOperation name then "wrapper_descriptor" else "method_descriptor")
  | .ref a => (w.get a).typeRef

namespace World

def classInfo? (w : World) : TypeRef → Option ClassInfo
  | .declared a => match w.get? a with
    | some (.cls info) => some info
    | _ => none
  | .known _ => none

def typeRefName (w : World) (t : TypeRef) : String :=
  match t, w.classInfo? t with
  | .known name, _ => name
  | .declared _, some info => info.name
  | .declared _, none => "?"

/-- The classes in which an attribute is looked up. -/
def order (w : World) (t : TypeRef) : List TypeRef :=
  match t, w.classInfo? t with
  | .known name, _ => (knownOrder name).map .known
  | _, some info => info.mro
  | t, none => [t]

def typeName (w : World) (v : Value) : String := w.typeRefName (w.typeRef v)

/-- Whether a class is another one or extends it. -/
def isSubclass (w : World) (t ancestor : TypeRef) : Bool := (w.order t).contains ancestor

def isInstance (w : World) (v : Value) (t : TypeRef) : Bool := w.isSubclass (w.typeRef v) t

/-- What an attribute of a class is, as declared in the class or one it extends. -/
def classAttr? (w : World) (t : TypeRef) (name : String) : Option (TypeRef × Value) :=
  (w.order t).findSome? fun c => do
    let info ← w.classInfo? c
    let v ← info.attrs.lookup name
    return (c, v)

/-- The nearest class that needs no declaration. -/
def knownClass (w : World) (t : TypeRef) : String :=
  ((w.order t).findSome? fun c => match c with
    | .known name => some name
    | _ => none).getD "object"

/-- A value as one of the known class that its class extends. -/
def content (w : World) (v : Value) : Value :=
  match v with
  | .ref a => match w.get a with
    | .instance t _ (some c) =>
      if w.isSubclass t (.known "BaseException") then v else c
    | _ => v
  | v => v

def isError (w : World) (v : Value) : Bool := w.isInstance v (.known "BaseException")

def isErrorClass (w : World) : Value → Bool
  | .type t => w.isSubclass t (.known "BaseException")
  | _ => false

/-- The arguments that an error was made with. -/
def errorArgs (w : World) (v : Value) : List Value :=
  match w.obj? v with
  | some (.instance _ _ (some (.tuple xs))) => xs
  | _ => []

/-- The text that a value is, also as one of a class that extends texts. -/
def text? (w : World) (v : Value) : Option String :=
  match w.content v with
  | .str s => some s
  | _ => none

/-- Booleans count as integers. -/
def int? (w : World) (v : Value) : Option Int :=
  match w.content v with
  | .int n => some n
  | .bool b => some (if b then 1 else 0)
  | _ => none

end World

def typeNameOf (v : Value) : Action String := fun w => .done (w.typeName v) w

/-- Raises an error that names the class of a value. -/
def typeErrorOf {α : Type} (v : Value) (message : String → String) : Action α := do
  typeError (message (← typeNameOf v))

def typeRefOf (v : Value) : Action TypeRef := fun w => .done (w.typeRef v) w

def contentOf (v : Value) : Action Value := fun w => .done (w.content v) w

def isInstanceOf (v : Value) (className : String) : Action Bool := fun w =>
  .done (w.isInstance v (.known className)) w

/-- What a class declares for an operation, itself or in a declared class that it extends before any
known class. Only methods that a script declares are found. -/
def declared? (v : Value) (name : String) : Action (Option Value) := fun w =>
  .done ((w.classAttr? (w.typeRef v) name).map (·.2)) w

/-- Values that a declared attribute of a class becomes when it is taken from a value. -/
def bindTo (self : Value) (owner : TypeRef) (attr : Value) : Action Value := do
  match ← objOf attr with
  | some (.function ..) => new (.boundMethod attr self)
  | some (.staticMethod f) => pure f
  | some (.classMethod f) => new (.boundMethod f (.type owner))
  | some (.property getter _ _ _) => call getter [self]
  | _ => match attr with
    | .slot owner name => pure (.method owner name self)
    | _ => pure attr

/-- Calls the method that the class of a value declares for an operation, if it does. -/
def callDeclared? (v : Value) (name : String) (args : List Value := []) :
    Action (Option Value) := do
  match ← declared? v name with
  | none => pure none
  | some f =>
    let f ← bindTo v (← typeRefOf v) f
    return some (← call f args)

end RuleBench.Execution
