import RuleBench.Execution.Construct
import RuleBench.Execution.NumberMethod
import RuleBench.Execution.TextMethod

/-!
# Methods of known classes

Calls a method that a known class declares: those of texts, containers and numbers, the operations
that every class has under a name of its own, and the few methods of other values.
-/

namespace RuleBench.Execution

open RuleBench.Script

namespace Operation

/-- The operator that a method declares, and whether its sides are exchanged. -/
def operator? (name : String) : Option (BinOp × Bool) :=
  let all : List BinOp := [.add, .sub, .mul, .matMul, .div, .mod, .pow, .shiftLeft, .shiftRight,
    .bitOr,
    .bitXor, .bitAnd, .floorDiv]
  all.findSome? fun op =>
    let stem := (operatorNames op).2
    if name == "__" ++ stem ++ "__" then some (op, false)
    else if name == "__r" ++ stem ++ "__" then some (op, true)
    else none

def inPlace? (name : String) : Option BinOp :=
  (operator? ("__" ++ String.ofList (name.toList.drop 3))).bind fun (op, swapped) =>
    if name.startsWith "__i" && !swapped then some op else none

def relation? (name : String) : Option Relation :=
  [Relation.eq, .ne, .lt, .le, .gt, .ge].find? fun r => r.method == name

def unary? (name : String) : Option UnaryOp :=
  [UnaryOp.invert, .minus, .plus].find? fun op => (unaryNames op).2 == name

/-- Raises about a wrong number of operands. -/
def expected {α : Type} (n given : Nat) : Action α :=
  typeError ("expected " ++ toString n ++ " argument" ++ (if n == 1 then "" else "s") ++ ", got " ++
    toString given)

/-- An operator on values as known classes have it; sequences complain themselves. -/
def binary (op : BinOp) (a b : Value) : Action Value := do
  match ← knownOperation op (← contentOf a) (← contentOf b) with
  | .notImplemented =>
    let w ← Action.world
    if (w.sequenceKind? a).isSome && (op == .add || op == .mul) then
      sequenceOperation op (operatorNames op).1 a b
    else pure .notImplemented
  | v => pure v

/-- A relation as known classes have it. -/
def relation (r : Relation) (a b : Value) : Action Value := do
  match ← relateKnown relate r (← contentOf a) (← contentOf b) with
  | .notImplemented => match r with
    | .eq => pure (if identical a b then .bool true else .notImplemented)
    | .ne => match ← callDeclared? a "__eq__" [b] with
      | none => pure (if identical a b then .bool false else .notImplemented)
      | some .notImplemented => pure .notImplemented
      | some v => return .bool (!(← truthy v))
    | _ => pure .notImplemented
  | v => pure v

/-- A number that stands for a value among keys. -/
def hashOf (v : Value) : Action Value := do
  checkHashable v
  match ← contentOf v with
  | .int n => pure (.int n)
  | .bool b => pure (.int (if b then 1 else 0))
  | .ref a => return .int (← Action.located a)
  | _ => pure (.int 0)

/-- The name of the class that makes a value. -/
def makerName (w : World) : Value → String
  | .type t => w.typeRefName t
  | _ => "object"

/-- A value of a class that has the class that makes it among its bases. -/
def allocateBy (maker t : TypeRef) (args : List Value) (named : Bindings) : Action Value := do
  let w ← Action.world
  let home := w.typeRefName maker
  let name := w.typeRefName t
  let k := w.knownClass t
  if !w.isSubclass t maker then
    typeError (home ++ ".__new__(" ++ name ++ "): " ++ name ++ " is not a subtype of " ++ home)
  else if maker == .known "object" && (Declaration.contentClass? k).isSome then
    typeError ("object.__new__(" ++ name ++ ") is not safe, use " ++ k ++ ".__new__()")
  else match t with
    | .known k => Construct.known k args named
    | t => Construct.allocate t args named

/-- A value of a class without initialization. -/
def allocateFor (origin : Value) (args : List Value) (named : Bindings) : Action Value := do
  let w ← Action.world
  match args with
  | [] => typeError (makerName w origin ++ ".__new__(): not enough arguments")
  | .type t :: rest => match origin with
    | .type maker => allocateBy maker t rest named
    | _ => Construct.allocate t rest named
  | v :: _ => typeErrorOf v fun t =>
      makerName w origin ++ ".__new__(X): X is not a type object (" ++ t ++ ")"

/-- Assigns an attribute past all refusals. -/
def forceAttribute (v : Value) (name : String) (value : Value) : Action Unit := do
  match ← objOf v, v with
  | some (.record kind fields extra), .ref a =>
    if fields.has name then store a (.record kind (fields.put name value) extra)
    else store a (.record kind fields (extra.put name value))
  | _, _ => storeAttribute v name value

def nameArgument (v : Value) : Action String := do
  match (← Action.world).text? v with
  | some s => pure s
  | none => typeErrorOf v fun t => "attribute name must be string, not '" ++ t ++ "'"

/-- Takes a function out of a class for a value. -/
def bound (self : Value) (args : List Value) : Action Value := do
  let w ← Action.world
  match args with
  | [] => if w.isComputed self then expected 1 0 else pure self
  | .none :: _ :: _ => pure self
  | v :: _ => do bindTo v (← typeRefOf v) self

/-- A size without its sign. -/
def absolute (v : Value) : Action Value := do
  match ← contentOf v with
  | .int n => pure (.int n.natAbs)
  | .float x => pure (.float x.abs)
  | _ => pure .notImplemented

def knownLength (v : Value) : Action Value := do
  match (← Action.world).knownLength? v with
  | some n => pure (.int n)
  | none => typeErrorOf v fun t => "object of type '" ++ t ++ "' has no len()"

def iteratorOf (v : Value) : Action Value := do
  match ← knownIterator? v with
  | some i => pure i
  | none => notIterable v

/-- An operation without an operand. -/
def alone (name : String) (self : Value) : Action Value := do
  match name with
  | "__str__" => return .str (← textByContent self)
  | "__repr__" => return .str (← shownByContent self)
  | "__hash__" => hashOf self
  | "__len__" => knownLength self
  | "__bool__" => return .bool (← truthy (← contentOf self))
  | "__int__" => return .int (← Conversion.toWhole (← contentOf self))
  | "__trunc__" => return .int (← Conversion.toWhole (← contentOf self))
  | "__index__" => return .int (← asIndex (← contentOf self))
  | "__float__" => return .float (← Conversion.toFloat (← contentOf self))
  | "__abs__" => absolute self
  | "__iter__" => iteratorOf self
  | "__next__" => advance self
  | "__reversed__" => Construct.reversedOf (← contentOf self)
  | "__dir__" => new (.list #[])
  | _ => match unary? name with
    | some op => operateUnary op (← contentOf self)
    | none => expected 1 0

/-- An operator or a relation, by the name of its method. -/
def operated (owner name : String) (self v : Value) : Action Value := do
  match relation? name, operator? name, inPlace? name with
  | some r, _, _ => relation r self v
  | none, some (op, false), _ => binary op self v
  | none, some (op, true), _ => binary op v self
  | none, none, some op => do
    let _ ← operateInPlace op (← contentOf self) v
    pure self
  | none, none, none => typeError (owner ++ "." ++ name ++ "() takes no arguments (1 given)")

def instanceCheck (self v : Value) : Action Value := do
  match self with
  | .type t => return .bool (← passesFor v t)
  | _ => pure .notImplemented

def subclassCheck (self : Value) (s : TypeRef) : Action Value := do
  match self with
  | .type t => return .bool ((← Action.world).isSubclass s t)
  | _ => pure .notImplemented

/-- An operation with an operand. -/
def withOperand (owner name : String) (self v : Value) : Action Value := do
  match name with
  | "__divmod__" => do
    pure (.tuple [← binary .floorDiv self v, ← binary .mod self v])
  | "__contains__" => return .bool (← knownContains self v)
  | "__getitem__" => knownItem (← contentOf self) v
  | "__delitem__" => do
    deleteKnownItem self v
    pure .none
  | "__format__" => do
    let layout ← nameArgument v
    return .str (← formatKnown self layout)
  | "__getattribute__" => attrOf self (← nameArgument v)
  | "__delattr__" => do
    dropAttribute self (← nameArgument v)
    pure .none
  | "__class_getitem__" => parameterized self v
  | "__instancecheck__" => instanceCheck self v
  | "__subclasscheck__" => match v with
    | .type s => subclassCheck self s
    | v => operated owner name self v
  | _ => operated owner name self v

/-- Hands a value to the setter of a computed attribute. -/
def setComputed (self v x : Value) : Action Value := do
  match ← objOf self with
  | some (.property _ setter _ _) => call setter [v, x]
  | _ => pure .notImplemented

/-- An operation with two operands. -/
def withOperands (name : String) (self v x : Value) : Action Value := do
  match name with
  | "__setitem__" => do
    setKnownItem self v x
    pure .none
  | "__setattr__" => do
    forceAttribute self (← nameArgument v) x
    pure .none
  | "__set__" => setComputed self v x
  | "__pow__" => match x with
    | .none => binary .pow self v
    | _ => expected 1 2
  | _ => expected 1 2

/-- An operation that every class has under a name of its own. -/
def run (owner name : String) (self : Value) (args : List Value) (named : Bindings) :
    Action Value := do
  match name with
  | "__init__" => do
    Construct.setUp self args named
    pure .none
  | "__new__" => allocateFor self args named
  | "__call__" => call self args named
  | "__get__" => bound self args
  | "__round__" => roundNumber self (args.head?.getD .none)
  | "__init_subclass__" => pure .none
  | "__subclasshook__" => pure .notImplemented
  | _ => match args with
    | [] => alone name self
    | [v] => withOperand owner name self v
    | [v, x] => withOperands name self v x
    | args => expected 1 args.length

end Operation

/-! ### Methods of other values -/

/-- Whether a generator ends when it is told to stop. -/
def endsOn (a : Address) (stop : Value) : Action Bool :=
  try do
    let _ ← Action.ask (.resume a (.throw stop))
    pure false
  catch e => do
    if (← isInstanceOf e "GeneratorExit") || (← isInstanceOf e "StopIteration") then pure true
    else Action.raise e

/-- What a generator answers when it is told to stop. -/
def closeGenerator (a : Address) : Action Value := do
  let stop ← newError "GeneratorExit" []
  if ← endsOn a stop then pure .none else fail "RuntimeError" "generator ignored GeneratorExit"

/-- The error that is raised for a value: an error itself, or a class of errors with arguments. -/
def errorFrom (v : Value) (args : List Value) : Action Value := do
  let w ← Action.world
  if w.isError v then pure v
  else if w.isErrorClass v then
    match args with
    | [] => call v []
    | .none :: _ => call v []
    | .tuple xs :: _ => call v xs
    | x :: _ => if w.isError x then pure x else call v [x]
  else typeErrorOf v fun t =>
    "exceptions must be classes or instances deriving from BaseException, not " ++ t

def generatorMethod (name : String) (a : Address) (args : List Value) (named : Bindings) :
    Action Value := do
  match name with
  | "send" => do
    let v ← exactlyOne "generator.send" args named
    Action.ask (.resume a (.send v))
  | "throw" => do
    checkCount "throw" 1 3 args
    match args with
    | v :: rest => do Action.ask (.resume a (.throw (← errorFrom v rest)))
    | [] => pure .none
  | "close" => do
    noArguments "generator.close" args named
    closeGenerator a
  | _ => pure .notImplemented

/-- A record and the records inside it as mappings, for as many levels as the fuel. -/
def dumped : Nat → Value → Action Value
  | 0, v => pure v
  | fuel + 1, v => do
    match v, ← objOf v with
    | .tuple xs, _ => return .tuple (← xs.mapM (dumped fuel))
    | _, some (.record _ fields _) => do
      let entries ← fields.mapM fun (n, x) => return (n, ← dumped fuel x)
      newBindings entries
    | _, some (.list xs) => do new (.list (← xs.toList.mapM (dumped fuel)).toArray)
    | _, some (.dict es) => do
      let entries ← es.toList.mapM fun (k, x) => return (k, ← dumped fuel x)
      new (.dict entries.toArray)
    | v, _ => pure v

/-- An object like the one that a value stands for. -/
def copied (v : Value) : Action Value := do
  match ← objOf v with
  | some o => new o
  | none => pure .notImplemented

def recordMethod (name : String) (self : Value) : Action Value := do
  match name with
  | "model_dump" => dumped greatestNesting self
  | "dict" => dumped greatestNesting self
  | "model_copy" => copied self
  | "copy" => copied self
  | "__iter__" => Operation.iteratorOf self
  | _ => pure .notImplemented

def propertyMethod (name : String) (self : Value) (args : List Value) (named : Bindings) :
    Action Value := do
  let f ← exactlyOne ("property." ++ name) args named
  match ← objOf self with
  | some (.property g s d doc) => match name with
    | "getter" => new (.property f s d doc)
    | "setter" => new (.property g f d doc)
    | "deleter" => new (.property g s f doc)
    | _ => pure .notImplemented
  | _ => pure .notImplemented

/-- Octets as a text of which every character is one octet. -/
def asText (v : Value) : Value :=
  match v with
  | .bytes xs => .str (Conversion.octetText xs)
  | v => v

/-- The octets that such a text stands for. -/
def asOctets (v : Value) : Value :=
  match v with
  | .str s => .bytes (s.toList.map fun c => c.toNat.toUInt8)
  | v => v

def textArgument (v : Value) : Action Value := do
  match ← objOf v with
  | some (.list xs) => new (.list (xs.map asText))
  | _ => pure (asText v)

def octetResult (r : Value) : Action Value := do
  match r, ← objOf r with
  | .tuple xs, _ => pure (.tuple (xs.map asOctets))
  | _, some (.list xs) => new (.list (xs.map asOctets))
  | r, _ => pure (asOctets r)

/-- Two digits for every octet. -/
def octetDigits (b : List UInt8) : String :=
  let digits (x : UInt8) : List Char :=
    let ds := Nat.toDigits 16 x.toNat
    if ds.length < 2 then '0' :: ds else ds
  String.ofList (b.flatMap digits)

/-- Octets work like texts of which every character is one octet. -/
def octetMethod (name : String) (b : List UInt8) (args : List Value) (named : Bindings) :
    Action Value := do
  match name with
  | "decode" => do
    let picked ← pickArguments name ["encoding", "errors"] args named
    let codec ← Construct.codecNameOr "encoding" "utf-8" (picked.head?.getD none)
    return .str (← Conversion.decode b codec)
  | "hex" => do
    noArguments "bytes.hex" args named
    pure (.str (octetDigits b))
  | name => do
    let parts ← args.mapM textArgument
    octetResult (← textMethod name (Conversion.octetText b) parts named)

def sliceMethod (self : Value) (args : List Value) (named : Bindings) : Action Value := do
  let n ← asIndex (← exactlyOne "slice.indices" args named)
  if n < 0 then valueError "length should not be negative"
  else match self with
    | .slice lower upper step => do
      let (start, stop, step) ← sliceOf n.toNat lower upper step
      pure (.tuple [.int start, .int stop, .int step])
    | _ => pure .notImplemented

/-! ### Dispatch -/

/-- Whether the members of two containers differ. -/
def disjointMethod (name : String) (self : Value) (args : List Value) (named : Bindings) :
    Action Value := do
  match name with
  | "isdisjoint" => match (← Action.world).members? self with
    | some xs => do
      let ys ← membersFrom (← exactlyOne "isdisjoint" args named)
      return .bool (!(← anyM (fun x => member x ys) xs))
    | none => pure .notImplemented
  | _ => pure .notImplemented

/-- The classes that a class looks through. -/
def orderList (t : TypeRef) : Action Value := do
  new (.list (((← Action.world).order t).map Value.type).toArray)

/-- Calls the method of a set. -/
def setMethodOf (name : String) (a : Address) (args : List Value) (named : Bindings)
    (other : Action Value) : Action Value := do
  match (← Action.world).get? a with
  | some (.set xs frozen) => setMethod name a xs.toList frozen args named
  | _ => other

/-- Calls a method on what a value of its class holds, and goes on to `other` for what other
classes hold. -/
def contentMethod (owner name : String) (content : Value) (args : List Value) (named : Bindings)
    (other : Action Value) : Action Value := do
  match owner with
  | "dict" => match content with
    | .type _ => ofKeys args
    | .ref a => dictMethod name a args named
    | _ => other
  | "str" => match content with
    | .type _ => textMethod name "" args named
    | .str s => textMethod name s args named
    | _ => other
  | "bytes" => match content with
    | .bytes b => octetMethod name b args named
    | _ => other
  | "list" => match content with
    | .ref a => listMethod name a args named
    | _ => other
  | "tuple" => match content with
    | .tuple xs => tupleMethod name xs args named
    | _ => other
  | "set" => match content with
    | .ref a => setMethodOf name a args named other
    | _ => other
  | "frozenset" => match content with
    | .ref a => setMethodOf name a args named other
    | _ => other
  | "range" => match content with
    | .range start stop step => rangeMethod name start stop step args named
    | _ => other
  | "int" => match content with
    | .int n => wholeMethod name n args named
    | .bool b => wholeMethod name (if b then 1 else 0) args named
    | _ => other
  | "float" => match content with
    | .float x => floatMethod name x args named
    | _ => other
  | "complex" => match content with
    | .complex x y => do
      noArguments "complex.conjugate" args named
      pure (.complex x (-y))
    | _ => other
  | "generator" => match content with
    | .ref a => generatorMethod name a args named
    | _ => other
  | "coroutine" => match content with
    | .ref a => generatorMethod name a args named
    | _ => other
  | "type" => match content with
    | .type t => match name with
      | "mro" => orderList t
      | _ => new (.list #[])
    | _ => other
  | "slice" => sliceMethod content args named
  | "property" => propertyMethod name content args named
  | "BaseException" => match name with
    | "with_traceback" => pure content
    | _ => pure .none
  | "BaseModel" => recordMethod name content
  | _ => other

/-- Calls a method of a known class. -/
def callMethod (owner name : String) (self : Value) (args : List Value) (named : Bindings) :
    Action Value := do
  let w ← Action.world
  if isOperation name && owner != "BaseModel" then Operation.run owner name self args named
  else
    contentMethod owner name (w.content self) args named (disjointMethod name self args named)

/-- Calls a method as its class has it: the value comes first. -/
def callSlot (owner name : String) (args : List Value) (named : Bindings) : Action Value := do
  let plain := !isOperation name
  match args with
  | [] =>
    if plain then typeError ("unbound method " ++ owner ++ "." ++ name ++ "() needs an argument")
    else typeError ("descriptor '" ++ name ++ "' of '" ++ owner ++ "' object needs an argument")
  | self :: rest =>
    let w ← Action.world
    if w.isInstance self (.known owner) then callMethod owner name self rest named
    else
      let given := w.typeName self
      if plain then
        typeError ("descriptor '" ++ name ++ "' for '" ++ owner ++
          "' objects doesn't apply to a '" ++
          given ++ "' object")
      else
        typeError ("descriptor '" ++ name ++ "' requires a '" ++ owner ++
          "' object but received a '" ++
          given ++ "'")

end RuleBench.Execution
