import RuleBench.Execution.ContainerMethod
import RuleBench.Execution.Conversion
import RuleBench.Execution.Declaration

/-!
# Making values

What calling a class yields. A class that needs no declaration makes its value in one go; an
instance of a declared class is allocated first and initialized then, each by what the class
declares for it.
-/

namespace RuleBench.Execution

namespace Construct

/-- The only argument of a class, if it was given one. -/
def atMostOne (name : String) (args : List Value) (named : Bindings) : Action (Option Value) := do
  noNames name named
  checkCount name 0 1 args
  pure args.head?

/-! ### Numbers and texts -/

def whole (args : List Value) (named : Bindings) : Action Value := do
  allowNames "int" ["base"] named
  checkCountNamed "int" 0 2 (args.length + named.length)
  match args, named.lookup "base" with
  | [], none => pure (.int 0)
  | [], some _ => typeError "int() missing string argument"
  | v :: rest, base => match rest.head?.orElse fun _ => base with
    | none => return .int (← Conversion.toWhole v)
    | some base => return .int (← Conversion.toWholeIn v base)

def float (args : List Value) (named : Bindings) : Action Value := do
  match ← atMostOne "float" args named with
  | none => pure (.float 0.0)
  | some v => return .float (← Conversion.toFloat v)

/-- The parts of a complex number: those of a complex value, or a real one alone. -/
def complexParts (v : Value) : Action (Float × Float) := do
  match ← contentOf v with
  | .complex x y => pure (x, y)
  | .str _ => typeError "complex() can't take second arg if first is a string"
  | _ => match (← Action.world).int? v with
    | some n => return (← floatOfInt n, 0.0)
    | none => match v with
      | .float x => pure (x, 0.0)
      | v => typeErrorOf v fun t =>
          "complex() first argument must be a string or a number, not '" ++ t ++ "'"

def complex (args : List Value) (named : Bindings) : Action Value := do
  match ← pickArguments "complex" ["real", "imag"] args named with
  | [re, im] => do
    let (a, b) ← complexParts (re.getD (.int 0))
    let (c, d) ← complexParts (im.getD (.int 0))
    pure (.complex (a - d) (b + c))
  | _ => pure (.complex 0.0 0.0)

/-- A text argument of a conversion from octets. -/
def codecName (which : String) (v : Value) : Action String := do
  match (← Action.world).text? v with
  | some s => pure s
  | none => typeErrorOf v fun t => "str() argument '" ++ which ++ "' must be str, not " ++ t

/-- The name of a codec that may be left out. -/
def codecNameOr (which default : String) : Option Value → Action String
  | some v => codecName which v
  | none => pure default

/-- The text that octets spell in an encoding. -/
def decoded (v encoding errors : Option Value) : Action Value := do
  let encoding ← codecNameOr "encoding" "utf-8" encoding
  let _ ← codecNameOr "errors" "strict" errors
  match v with
  | none => pure (.str "")
  | some v => match ← contentOf v with
    | .bytes b => return .str (← Conversion.decode b encoding)
    | .str _ => typeError "decoding str is not supported"
    | _ => typeErrorOf v fun t => "decoding to str: need a bytes-like object, " ++ t ++ " found"

/-- The text of a value, nothing for none. -/
def textOr : Option Value → Action Value
  | none => pure (.str "")
  | some v => do return .str (← textOf v)

def text (args : List Value) (named : Bindings) : Action Value := do
  match ← pickArguments "str" ["object", "encoding", "errors"] args named with
  | [v, encoding, errors] =>
    if encoding.isNone && errors.isNone then textOr v else decoded v encoding errors
  | _ => pure (.str "")

/-- An octet from an integer. -/
def octetOf (v : Value) : Action UInt8 := do
  let n ← asIndex v
  if 0 ≤ n && n < 256 then pure n.toNat.toUInt8
  else valueError "bytes must be in range(0, 256)"

/-- Octets from a count or from integers. -/
def octetsFrom (v : Value) : Action Value := do
  match ← indexOf? v with
  | some n =>
    if n < 0 then valueError "negative count"
    else pure (.bytes (List.replicate n.toNat 0))
  | none => match ← iterator? v with
    | none => typeErrorOf v fun t => "cannot convert '" ++ t ++ "' object to bytes"
    | some _ => return .bytes (← (← collect v).mapM octetOf)

/-- The octets of a value; texts need an encoding. -/
def octetsOf (v : Value) (encoding : Option Value) : Action Value := do
  match ← contentOf v with
  | .str s =>
    if encoding.isNone then typeError "string argument without an encoding"
    else pure (.bytes s.toUTF8.toList)
  | .bytes b => pure (.bytes b)
  | _ => octetsFrom v

def octets (args : List Value) (named : Bindings) : Action Value := do
  match ← pickArguments "bytes" ["source", "encoding", "errors"] args named with
  | [source, encoding, errors] => match source with
    | some v => octetsOf v encoding
    | none =>
      if encoding.isNone && errors.isNone then pure (.bytes [])
      else typeError "encoding without a string argument"
  | _ => pure (.bytes [])

/-! ### Containers -/

def range (args : List Value) (named : Bindings) : Action Value := do
  noNames "range" named
  checkCount "range" 1 3 args
  match ← args.mapM asIndex with
  | [stop] => pure (.range 0 stop 1)
  | [start, stop] => pure (.range start stop 1)
  | [start, stop, step] =>
    if step == 0 then valueError "range() arg 3 must not be zero" else pure (.range start stop step)
  | _ => pure (.range 0 0 1)

def slice (args : List Value) (named : Bindings) : Action Value := do
  noNames "slice" named
  checkCount "slice" 1 3 args
  match args with
  | [stop] => pure (.slice .none stop .none)
  | [start, stop] => pure (.slice start stop .none)
  | [start, stop, step] => pure (.slice start stop step)
  | _ => pure .none

/-- A mapping that is still empty, filled from its arguments. -/
def mapping (args : List Value) (named : Bindings) : Action Value := do
  let d ← alloc (.dict #[])
  updateMapping "dict" d args named
  pure (.ref d)

def setFrom (name : String) (frozen : Bool) (args : List Value) (named : Bindings) :
    Action Value := do
  match ← atMostOne name args named with
  | none => new (.set #[] frozen)
  | some v => do new (.set (← membersOf (← collect v)) frozen)

/-! ### Iterators -/

def enumerate (args : List Value) (named : Bindings) : Action Value := do
  match ← pickArguments "enumerate" ["iterable", "start"] args named with
  | some source :: rest => do
    let count ← indexOr 0 (rest.head?.getD none)
    new (.iterator (.enumerate (← iterator source) count))
  | _ => typeError "enumerate() missing required argument 'iterable' (pos 1)"

def zip (args : List Value) (named : Bindings) : Action Value := do
  allowNames "zip" ["strict"] named
  let strict ← isOn (named.lookup "strict")
  new (.iterator (.zip (← args.mapM iterator) strict))

def map (args : List Value) (named : Bindings) : Action Value := do
  noNames "map" named
  match args with
  | f :: source :: more => do new (.iterator (.map f (← (source :: more).mapM iterator)))
  | _ => typeError "map() must have at least two arguments."

def filter (args : List Value) (named : Bindings) : Action Value := do
  noNames "filter" named
  checkCount "filter" 2 2 args
  match args with
  | [f, source] => do new (.iterator (.filter f (← iterator source)))
  | _ => pure .none

def reversedItems (xs : List Value) (name : String) : Action Value :=
  new (.iterator (.items xs.reverse name))

def notReversible {α : Type} (v : Value) : Action α :=
  typeErrorOf v fun t => "'" ++ t ++ "' object is not reversible"

/-- What a value has under all positions, from the last to the first. -/
def reversedPositions (v : Value) : Action Value := do
  if (← declared? v "__getitem__").isSome && (← declared? v "__len__").isSome then
    let n ← length v
    reversedItems (← (List.range n).mapM fun (i : Nat) => item v (.int i)) "reversed"
  else notReversible v

/-- An iterator from the last value to the first of a value of a known class. -/
def reversedKnown (v : Value) : Action Value := do
  let w ← Action.world
  match w.content v with
  | .str s => reversedItems (texts s) "reversed"
  | .bytes b => reversedItems (b.map fun x => .int x.toNat) "reversed"
  | .tuple xs => reversedItems xs "reversed"
  | .range start stop step =>
    let n := rangeLength start stop step
    new (.iterator (.range (start + ((n : Int) - 1) * step) (-step) n))
  | .ref a => match w.get a with
    | .list xs =>
      new (.iterator (.reversedList a (if xs.isEmpty then none else some (xs.size - 1))))
    | .dict es => reversedItems (es.toList.map (·.1)) "dict_reversekeyiterator"
    | .view kind d => reversedItems ((w.entriesNow d).map kind.item) kind.reverseName
    | _ => reversedPositions v
  | _ => notReversible v

/-- An iterator from the last value to the first. -/
def reversedOf (v : Value) : Action Value := do
  match ← callDeclared? v "__reversed__" with
  | some i => pure i
  | none => reversedKnown v

/-! ### Classes and what belongs to them -/

/-- An entry of a mapping of names. -/
def nameValue? (e : Value × Value) : Option (String × Value) :=
  match e.1 with
  | .str n => some (n, e.2)
  | _ => none

/-- Attributes from a mapping of names. -/
def attributesOf (v : Value) : Action Bindings := do
  match (← Action.world).obj? v with
  | some (.dict es) => return es.toList.filterMap nameValue?
  | _ => pure []

def typeArgument (i : Nat) (expected : String) (v : Value) : Action Value :=
  typeErrorOf v fun t => "type.__new__() argument " ++ toString i ++ " must be " ++ expected ++
    ", not " ++ t

/-- Declares a class from its name, the classes it extends, and a mapping of its attributes. -/
def newClass (name bases attrs : Value) (named : Bindings) : Action Value := do
  let w ← Action.world
  match w.text? name with
  | none => typeArgument 1 "str" name
  | some n => match w.content bases with
    | .tuple bs => match w.obj? attrs with
      | some (.dict _) => do
        match Declaration.noClass? bs with
        | some _ => typeError "bases must be types"
        | none =>
          let refs := bs.filterMap Declaration.classOf?
          Declaration.declareClass n n refs (← attributesOf attrs) named
      | _ => typeArgument 3 "dict" attrs
    | _ => typeArgument 2 "tuple" bases

def type (args : List Value) (named : Bindings) : Action Value := do
  match args with
  | [v] =>
    if named.isEmpty then return .type (← typeRefOf v)
    else typeError "type() takes 1 or 3 arguments"
  | [name, bases, attrs] => newClass name bases attrs named
  | _ => typeError "type() takes 1 or 3 arguments"

def property (args : List Value) (named : Bindings) : Action Value := do
  match ← pickArguments "property" ["fget", "fset", "fdel", "doc"] args named with
  | [getter, setter, deleter, doc] =>
    new (.property (getter.getD .none) (setter.getD .none) (deleter.getD .none) (doc.getD .none))
  | _ => pure .none

/-- Attributes of a value as found behind a class. -/
def superView (behind : TypeRef) (v : Value) : Action Value := do
  let w ← Action.world
  let refuse : Action Value :=
    typeError "super(type, obj): obj must be an instance or subtype of type"
  match v with
  | .type t =>
    if w.isSubclass t behind then new (.superView behind v t)
    else if w.isInstance v behind then new (.superView behind v (.known "type"))
    else refuse
  | v => if w.isInstance v behind then new (.superView behind v (w.typeRef v)) else refuse

def superOf (args : List Value) (named : Bindings) : Action Value := do
  noNames "super" named
  checkCount "super" 0 2 args
  match args with
  | [] => fail "RuntimeError" "super(): no arguments"
  | cls :: rest => match cls with
    | .type behind => match rest with
      | [] => new (.superView behind .none (.known "NoneType"))
      | v :: _ => superView behind v
    | v => typeErrorOf v fun t => "super() argument 1 must be a type, not " ++ t

/-! ### Errors -/

/-- Names that some errors take. -/
def errorNames (className : String) : List String :=
  if ErrorClass.extend className "ImportError" then ["name", "path"]
  else if ErrorClass.extend className "AttributeError" then ["name", "obj"]
  else if ErrorClass.extend className "NameError" then ["name"]
  else []

/-- Refuses arguments by names that errors of a known class do not take; the class goes by its own
name. -/
def checkErrorNames (name known : String) (named : Bindings) : Action Unit := do
  if (errorNames known).isEmpty && !named.isEmpty then
    typeError (name ++ "() takes no keyword arguments")
  allowNames known (errorNames known) named

/-- The class of an error by its arguments: errors of the system have one for every number. -/
def classByNumber (t : TypeRef) (args : List Value) : TypeRef :=
  match t == .known "OSError", args with
  | true, .int n :: _ :: _ => .known (ErrorClass.ofErrorNumber n)
  | _, _ => t

/-- An error of a class; `known` is the nearest class that needs no declaration. -/
def error (t : TypeRef) (known : String) (args : List Value) (named : Bindings) : Action Value := do
  let name := (← Action.world).typeRefName t
  checkErrorNames name known named
  if ErrorClass.extend known "UnicodeDecodeError" ||
      ErrorClass.extend known "UnicodeEncodeError" then
    if args.length != 5 then
      typeError ("function takes exactly 5 arguments (" ++ toString args.length ++ " given)")
  new (.instance (classByNumber t args) named (some (.tuple args)))

/-! ### Known classes -/

/-- The only value of a class. -/
def onlyValue (name : String) (v : Value) (args : List Value) (named : Bindings) : Action Value :=
  if !args.isEmpty || !named.isEmpty then typeError (name ++ " takes no arguments") else pure v

/-- Calls a class that needs no declaration. -/
def known (name : String) (args : List Value) (named : Bindings) : Action Value := do
  match name with
  | "int" => whole args named
  | "float" => float args named
  | "complex" => complex args named
  | "str" => text args named
  | "bytes" => octets args named
  | "bool" => match ← atMostOne name args named with
    | none => pure (.bool false)
    | some v => return .bool (← truthy v)
  | "list" => match ← atMostOne name args named with
    | none => new (.list #[])
    | some v => do new (.list (← collect v).toArray)
  | "tuple" => match ← atMostOne name args named with
    | none => pure (.tuple [])
    | some v => return .tuple (← collect v)
  | "set" => setFrom name false args named
  | "frozenset" => setFrom name true args named
  | "dict" => mapping args named
  | "range" => range args named
  | "slice" => slice args named
  | "enumerate" => enumerate args named
  | "zip" => zip args named
  | "map" => map args named
  | "filter" => filter args named
  | "reversed" => do
    noNames name named
    checkCount name 1 1 args
    reversedOf (args.head?.getD .none)
  | "type" => type args named
  | "property" => property args named
  | "staticmethod" => do
    noNames name named
    checkCount name 1 1 args
    new (.staticMethod (args.head?.getD .none))
  | "classmethod" => do
    noNames name named
    checkCount name 1 1 args
    new (.classMethod (args.head?.getD .none))
  | "super" => superOf args named
  | "object" =>
    if args.isEmpty && named.isEmpty then new (.instance (.known "object") [] none)
    else typeError "object() takes no arguments"
  | "NoneType" => onlyValue name .none args named
  | "ellipsis" => onlyValue name .ellipsis args named
  | "NotImplementedType" => onlyValue name .notImplemented args named
  | "function" =>
    match args with
    | code :: _ :: _ =>
      typeErrorOf code fun t => "function() argument 'code' must be code, not " ++ t
    | _ => typeError "function() missing required argument 'code' (pos 1)"
  | name =>
    if ErrorClass.isKnown name then error (.known name) name args named
    else typeError ("cannot create '" ++ name ++ "' instances")

/-! ### Instances of declared classes -/

/-- Whether a class declares an operation anywhere. -/
def declares (w : World) (t : TypeRef) (name : String) : Bool := (w.classAttr? t name).isSome

/-- Allocates an instance of a declared class. -/
def allocate (t : TypeRef) (args : List Value) (named : Bindings) : Action Value := do
  let w ← Action.world
  let k := w.knownClass t
  let empty (o : Obj) : Action Value := do new (.instance t [] (some (← new o)))
  match k with
  | "object" =>
    if args.isEmpty && named.isEmpty then new (.instance t [] none)
    else if declares w t "__new__" then
      typeError "object.__new__() takes exactly one argument (the type to instantiate)"
    else if declares w t "__init__" then new (.instance t [] none)
    else typeError (w.typeRefName t ++ "() takes no arguments")
  | "list" => empty (.list #[])
  | "dict" => empty (.dict #[])
  | "set" => empty (.set #[] false)
  | k =>
    if ErrorClass.isKnown k then new (.instance t [] (some (.tuple args)))
    else
      -- names are left to a declared initialization
      let named := if declares w t "__init__" then [] else named
      let content ← known k args named
      new (.instance t [] (some content))

/-- Takes over what a container is made of. -/
def fill (name : String) (a : Address) (empty : Obj) (full : List Value → Action Obj)
    (args : List Value) (named : Bindings) : Action Unit := do
  match ← atMostOne name args named with
  | none => store a empty
  | some source => do store a (← full (← collect source))

/-- Takes over the arguments of an error. -/
def setUpError (v : Value) (name known : String) (args : List Value) (named : Bindings) :
    Action Unit := do
  checkErrorNames name known named
  match v with
  | .ref a => match ← load a with
    | .instance t attrs _ =>
      store a (.instance t (named.foldl (fun acc b => acc.put b.1 b.2) attrs) (some (.tuple args)))
    | _ => pure ()
  | _ => pure ()

/-- Refuses arguments that nothing declared takes. -/
def refuseArguments (t : TypeRef) (args : List Value) (named : Bindings) : Action Unit := do
  let w ← Action.world
  if !args.isEmpty || !named.isEmpty then
    if declares w t "__init__" then
      typeError "object.__init__() takes exactly one argument (the instance to initialize)"
    else if !declares w t "__new__" then
      typeError (w.typeRefName t ++ ".__init__() takes exactly one argument " ++
        "(the instance to initialize)")

/-- Initializes an instance by the nearest class that needs no declaration. -/
def setUp (v : Value) (args : List Value) (named : Bindings) : Action Unit := do
  let w ← Action.world
  let t := w.typeRef v
  let k := w.knownClass t
  if ErrorClass.isKnown k then setUpError v (w.typeRefName t) k args named
  else if k == "object" then refuseArguments t args named
  else match w.content v with
    | .ref a => match k with
      | "list" => fill k a (.list #[]) (fun vs => pure (.list vs.toArray)) args named
      | "dict" => updateMapping k a args named
      | "set" => fill k a (.set #[] false) (fun vs => return .set (← membersOf vs) false) args named
      | _ => pure ()
    | _ => pure ()

/-- A new instance of a declared class, not initialized yet. -/
def newInstance (t : TypeRef) (args : List Value) (named : Bindings) : Action Value := do
  match (← Action.world).classAttr? t "__new__" with
  | some (_, f) => do call (← fromClass t f) (.type t :: args) named
  | none => allocate t args named

/-- Initializes a new instance. -/
def setUpInstance (v : Value) (args : List Value) (named : Bindings) : Action Value := do
  match ← declared? v "__init__" with
  | some f =>
    let f ← bindTo v (← typeRefOf v) f
    match ← call f args named with
    | .none => pure v
    | r => typeErrorOf r fun t => "__init__() should return None, not '" ++ t ++ "'"
  | none => do
    setUp v args named
    pure v

/-- Calls a class. -/
def instantiate (t : TypeRef) (args : List Value) (named : Bindings) : Action Value := do
  match t with
  | .known k => known k args named
  | t => do
    let v ← newInstance t args named
    if !((← Action.world).isInstance v t) then pure v else setUpInstance v args named

end Construct

end RuleBench.Execution
