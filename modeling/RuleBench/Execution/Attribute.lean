import RuleBench.Execution.Display
import RuleBench.Execution.Mapping
import RuleBench.Execution.Member

/-!
# Attributes

Where the attributes of a value come from: what its class computes, what the value itself carries,
what its class declares, and last the methods of known classes. Records refuse to be changed.
-/

namespace RuleBench.Execution

def attributeError {α : Type} (owner : Value) (name message : String) : Action α := do
  Action.raise (← new (.instance (.known "AttributeError") [("name", .str name), ("obj", owner)]
    (some (.tuple [.str message]))))

/-- Raises that a value lacks an attribute. -/
def noAttribute {α : Type} (v : Value) (name : String) : Action α := do
  let w ← Action.world
  let owner := match v, w.obj? v with
    | .type t, _ => "type object '" ++ w.typeRefName t ++ "'"
    | _, some (.module m _) => "module '" ++ m ++ "'"
    | _, _ => "'" ++ w.typeName v ++ "' object"
  attributeError v name (owner ++ " has no attribute '" ++ name ++ "'")

/-- A mapping of names. -/
def newBindings (bs : Bindings) : Action Value :=
  new (.dict (bs.map fun b => (Value.str b.1, b.2)).toArray)

/-- What a class itself carries, and the attributes every class has. -/
def classSpecial? (t : TypeRef) (name : String) : Action (Option Value) := do
  let w ← Action.world
  let info := w.classInfo? t
  match name with
  | "__name__" => return some (.str (w.typeRefName t))
  | "__qualname__" => return some (.str ((info.map (·.path)).getD (w.typeRefName t)))
  | "__mro__" => return some (.tuple ((w.order t).map .type))
  | "__bases__" => return some (.tuple (match info with
      | some i => i.bases.map .type
      | none => ((w.order t).drop 1).head?.toList.map .type))
  | "__base__" => return some (((w.order t).drop 1).head?.elim .none .type)
  | "__class__" => return some (.type (.known "type"))
  | "__dict__" => do
    Action.look
    let info := (← Action.world).classInfo? t
    return some (← newBindings ((info.map (·.attrs)).getD []))
  | "__module__" => return some (.str "builtins")
  | "__doc__" => return some .none
  | "__annotations__" => match t, info with
    | .declared a, some i =>
      let d ← new (.dict #[])
      store a (.cls { i with attrs := i.attrs ++ [(name, d)] })
      return some d
    | _, _ => return none
  | _ => return none

/-- A class attribute as it is taken from the class. -/
def fromClass (t : TypeRef) (attr : Value) : Action Value := do
  match ← objOf attr with
  | some (.staticMethod f) => pure f
  | some (.classMethod f) => new (.boundMethod f (.type t))
  | _ => pure attr

def classAttribute? (t : TypeRef) (name : String) : Action (Option Value) := do
  let w ← Action.world
  match w.classAttr? t name with
  | some (c, attr) =>
    if name == annotationsName && c != t then classSpecial? t name
    else return some (← fromClass t attr)
  | none => match ← classSpecial? t name with
    | some v => return some v
    | none => match knownOwner? (w.order t) name with
      | some owner =>
        if classLevel.contains (owner, name) then return some (.method owner name (.type t))
        else return some (.slot owner name)
      | none => match knownOwner? [.known "type", .known "object"] name with
        | some owner => return some (.method owner name (.type t))
        | none => return none

/-- What a function carries besides what was assigned to it. -/
def functionSpecial? (c : Closure) (name : String) : Action (Option Value) := do
  match name with
  | "__name__" => return some (.str c.name)
  | "__qualname__" => return some (.str c.path)
  | "__doc__" => return some .none
  | "__module__" => return some (.str "span_rule")
  | "__annotations__" => return some (← new (.dict #[]))
  | "__dict__" => return some (← new (.dict #[]))
  | "__defaults__" =>
    let names := (c.params.positionalOnly ++ c.params.plain).map (·.name)
    let values := names.filterMap fun n => c.defaults.lookup n
    return some (if values.isEmpty then .none else .tuple values)
  | "__kwdefaults__" =>
    let names := c.params.keywordOnly.map (·.name)
    let values := names.filterMap fun n => (c.defaults.lookup n).map fun v => (n, v)
    if values.isEmpty then return some .none else return some (← newBindings values)
  | "__closure__" => return some .none
  | _ => return none

/-- The argument of an error at a position. -/
def argumentAt (args : List Value) (i : Nat) : Value := (args[i]?).getD .none

/-- A detail of the place that a syntax error tells. -/
def detailAt (args : List Value) (i : Nat) : Value :=
  match args with
  | [_, .tuple xs] => argumentAt xs i
  | _ => .none

/-- What an exit was asked for with. -/
def exitCode : List Value → Value
  | [] => .none
  | [a] => a
  | as => .tuple as

/-- What only errors have whose known class extends another one. -/
def onlyExtending (known className : String) (value : Value) : Option Value :=
  if ErrorClass.extend known className then some value else none

/-- Attributes that errors have by their class, the known one that it extends. -/
def errorSpecialOf (known : String) (args : List Value) (name : String) : Option Value :=
  let ofClass := onlyExtending known
  match name with
  | "args" => some (.tuple args)
  | "__cause__" => some .none
  | "__context__" => some .none
  | "__traceback__" => some .none
  | "__suppress_context__" => some (.bool false)
  | "value" => ofClass "StopIteration" (argumentAt args 0)
  | "code" => ofClass "SystemExit" (exitCode args)
  | "errno" => ofClass "OSError" (if args.length < 2 then .none else argumentAt args 0)
  | "strerror" => ofClass "OSError" (if args.length < 2 then .none else argumentAt args 1)
  | "filename" =>
    if ErrorClass.extend known "OSError" then some (argumentAt args 2)
    else ofClass "SyntaxError" (detailAt args 0)
  | "msg" =>
    if ErrorClass.extend known "SyntaxError" then some (argumentAt args 0)
    else ofClass "ImportError" (argumentAt args 0)
  | "lineno" => ofClass "SyntaxError" (detailAt args 1)
  | "offset" => ofClass "SyntaxError" (detailAt args 2)
  | "text" => ofClass "SyntaxError" (detailAt args 3)
  | "name" =>
    if ErrorClass.extend known "NameError" then some .none else ofClass "ImportError" .none
  | "path" => ofClass "ImportError" .none
  | _ => none

/-- Attributes that an error has by its class. -/
def errorSpecial? (w : World) (v : Value) (name : String) : Option Value :=
  errorSpecialOf (w.knownClass (w.typeRef v)) (w.errorArgs v) name

/-- The instance's own attributes. -/
def World.ownAttrs (w : World) (v : Value) : Bindings :=
  match w.obj? v with
  | some (.instance _ attrs _) => attrs
  | some (.function _ attrs) => attrs
  | some (.record _ fields extra) => fields ++ extra
  | some (.module _ attrs) => attrs
  | _ => []

/-- The smaller or larger of two values. -/
def extreme (greatest : Bool) (a b : Value) : Action Value := do
  let replace ← if greatest then truthy (← relate .gt b a) else truthy (← relate .lt b a)
  pure (if replace then b else a)

/-- The extreme of values, nothing for none. -/
def extremeOf (greatest : Bool) : List Value → Action Value
  | [] => pure .none
  | v :: vs => vs.foldlM (extreme greatest) v

/-- The items of a list or tuple as they are now. -/
def World.itemsNow (w : World) (v : Value) : List Value :=
  match w.content v with
  | .tuple xs => xs
  | c => match w.obj? c with
    | some (.list xs) => xs.toList
    | _ => []

/-- The difference of two numbers. -/
def difference : Value → Value → Value
  | .int x, .int y => .int (x - y)
  | _, _ => .int 0

/-- The extreme of a field over the spans of a trace. -/
def extremeAmong (attrOf : Value → String → Action Value) (fields : Bindings) (greatest : Bool)
    (field : String) : Action Value := do
  let spans := (← Action.world).itemsNow ((fields.lookup "spans").getD .none)
  extremeOf greatest (← spans.mapM fun s => attrOf s field)

/-- Derived quantities of records. -/
def recordSpecial? (attrOf : Value → String → Action Value) (kind : String) (fields : Bindings)
    (name : String) : Action (Option Value) := do
  let field (f : String) : Value := (fields.lookup f).getD .none
  match kind, name with
  | "Span", "duration" => return some (difference (field "finish_time") (field "start_time"))
  | "Trace", "start_time" => return some (← extremeAmong attrOf fields false "start_time")
  | "Trace", "finish_time" => return some (← extremeAmong attrOf fields true "finish_time")
  | "Trace", "duration" =>
    let start ← extremeAmong attrOf fields false "start_time"
    if start matches .none then return some (.int 0)
    else return some (difference (← extremeAmong attrOf fields true "finish_time") start)
  | _, _ => return none

/-- Methods of known classes, taken from a value. -/
def knownMethod? (w : World) (order : List TypeRef) (self : Value) (name : String) : Option Value :=
  (knownOwner? order name).map fun owner =>
    if classLevel.contains (owner, name) then .method owner name (.type (w.typeRef self))
    else .method owner name self

/-- Attributes that objects have besides methods. -/
def objectSpecial? (attrOf : Value → String → Action Value) (w : World) (v : Value) (name : String) :
    Obj → Action (Option Value)
  | .instance _ attrs _ => match name with
    | "__dict__" => return some (← newBindings attrs)
    | _ => if w.isError v then return errorSpecial? w v name else return none
  | .record kind fields _ => match name with
    | "__dict__" => return some (← newBindings fields)
    | _ => recordSpecial? attrOf kind fields name
  | .function c _ => functionSpecial? c name
  | .boundMethod f self => match name with
    | "__func__" => return some f
    | "__self__" => return some self
    | _ => return some (← attrOf f name)
  | .property getter setter deleter doc => match name with
    | "fget" => return some getter
    | "fset" => return some setter
    | "fdel" => return some deleter
    | "__doc__" => return some doc
    | _ => return none
  | .staticMethod f => if name == "__func__" then return some f else return none
  | .classMethod f => if name == "__func__" then return some f else return none
  | .module m _ => if name == "__name__" then return some (.str m) else return none
  | .generator n path .. => match name with
    | "__name__" => return some (.str n)
    | "__qualname__" => return some (.str path)
    | _ => return none
  | _ => return none

/-- Attributes that values without a place on the heap have besides methods. -/
def atomSpecial? (name : String) : Value → Option Value
  | .builtin n => match name with
    | "__name__" => some (.str n)
    | "__qualname__" => some (.str n)
    | _ => none
  | .method _ n self => match name with
    | "__name__" => some (.str n)
    | "__self__" => some self
    | _ => none
  | .slot owner n => match name with
    | "__name__" => some (.str n)
    | "__qualname__" => some (.str (owner ++ "." ++ n))
    | _ => none
  | .range start stop step => match name with
    | "start" => some (.int start)
    | "stop" => some (.int stop)
    | "step" => some (.int step)
    | _ => none
  | .slice lower upper step => match name with
    | "start" => some lower
    | "stop" => some upper
    | "step" => some step
    | _ => none
  | .int n => match name with
    | "real" => some (.int n)
    | "imag" => some (.int 0)
    | "numerator" => some (.int n)
    | "denominator" => some (.int 1)
    | _ => none
  | .float x => match name with
    | "real" => some (.float x)
    | "imag" => some (.float 0.0)
    | _ => none
  | .complex x y => match name with
    | "real" => some (.float x)
    | "imag" => some (.float y)
    | _ => none
  | _ => none

/-- Attributes that values of known classes have besides methods. -/
def valueSpecial? (attrOf : Value → String → Action Value) (v : Value) (name : String) :
    Action (Option Value) := do
  let w ← Action.world
  if name == "__class__" then return some (.type (w.typeRef v))
  else match v with
    | .ref a => objectSpecial? attrOf w v name (w.get a)
    | v => return atomSpecial? name v

/-- Whether an attribute of a class decides before what a value carries itself. -/
def World.isComputed (w : World) (attr : Value) : Bool :=
  match w.obj? attr with
  | some (.property ..) => true
  | _ => false

/-- What a value answers for a property of its class. -/
def readProperty (v : Value) (t owner : TypeRef) (name : String) (attr : Value) :
    Action (Option Value) := do
  let w ← Action.world
  match w.obj? attr with
  | some (.property .none ..) =>
    attributeError v name ("property '" ++ name ++ "' of '" ++ w.typeRefName t ++
      "' object has no getter")
  | _ => return some (← bindTo v owner attr)

/-- What a value has neither of its own nor from a declared class. -/
def knownAttribute? (attrOf : Value → String → Action Value) (t : TypeRef) (v : Value)
    (name : String) : Action (Option Value) := do
  let w ← Action.world
  match ← valueSpecial? attrOf v name with
  | some special => return some special
  | none => match knownMethod? w (w.order t) v name with
    | some m => return some m
    | none =>
      if (name == "__module__" || name == "__doc__") && t matches .declared _ then
        classAttribute? t name
      else if name == "__doc__" then return some .none
      else return none

/-- An attribute of a value that is no class, as far as there is one. -/
def instanceAttribute? (attrOf : Value → String → Action Value) (v : Value) (name : String) :
    Action (Option Value) := do
  let w ← Action.world
  let t := w.typeRef v
  match w.classAttr? t name, (w.ownAttrs v).lookup name with
  | some (c, attr), own =>
    if w.isComputed attr then readProperty v t c name attr
    else match own with
      | some own => return some own
      | none => return some (← bindTo v t attr)
  | none, some own => return some own
  | none, none => knownAttribute? attrOf t v name

/-- What a class declares under a name, and whether it is known or has to be bound. -/
def World.declaredBy? (w : World) (self : Value) (selfType : TypeRef) (name : String) :
    TypeRef → Option (Value × Bool)
  | .known k =>
    if (methodsOf k).contains name then
      some (.method k name (if classLevel.contains (k, name) then .type selfType else self), false)
    else none
  | c => do
    let info ← w.classInfo? c
    let attr ← info.attrs.lookup name
    return (attr, true)

/-- The attribute that a class behind another one in an order of classes declares. -/
def behindAttribute? (behind : TypeRef) (self : Value) (selfType : TypeRef) (name : String) :
    Action (Option Value) := do
  let w ← Action.world
  let rest := ((w.order selfType).dropWhile (· != behind)).drop 1
  match rest.findSome? (w.declaredBy? self selfType name) with
  | none => return none
  | some (m, false) => return some m
  | some (attr, true) => match self with
    | .type t => return some (← fromClass t attr)
    | self => return some (← bindTo self selfType attr)

/-- An attribute of the classes behind another one, as far as there is one. -/
def superAttribute? (behind : TypeRef) (self : Value) (selfType : TypeRef) (name : String) :
    Action (Option Value) := do
  match ← behindAttribute? behind self selfType name with
  | some a => return some a
  | none => if name == "__class__" then return some (.type (.known "super")) else return none

/-- An attribute of a value, as far as there is one. -/
def anyAttribute? (attrOf : Value → String → Action Value) (v : Value) (name : String) :
    Action (Option Value) := do
  match v with
  | .type t => classAttribute? t name
  | v => match ← objOf v with
    | some (.superView behind self selfType) => superAttribute? behind self selfType name
    | _ => match ← instanceAttribute? attrOf v name with
      | some a => return some a
      | none => callDeclared? v "__getattr__" [.str name]

/-- The attribute of a value, for derived attributes of values inside it as deep as the fuel. -/
def attributeWithin : Nat → Value → String → Action (Option Value)
  | 0, _, _ => fail "RecursionError" "maximum recursion depth exceeded"
  | fuel + 1, v, name => do
    if name == annotationsName then Action.look
    anyAttribute? (fun u n => do
      match ← attributeWithin fuel u n with
      | some a => pure a
      | none => noAttribute u n) v name

def attrOf? (v : Value) (name : String) : Action (Option Value) :=
  attributeWithin greatestNesting v name

/-- The attribute of a value. -/
def attrOf (v : Value) (name : String) : Action Value := do
  match ← attrOf? v name with
  | some a => pure a
  | none => noAttribute v name

/-- The class that a value gives itself out for. Only what its own class declares counts besides
that class. -/
def claimedClass (v : Value) : Action TypeRef := do
  let w ← Action.world
  let own := w.typeRef v
  if (w.classAttr? own "__class__").isNone then pure own
  else
    try match ← attrOf? v "__class__" with
      | some (.type t) => pure t
      | _ => pure own
    catch e => if ← isInstanceOf e "AttributeError" then pure own else Action.raise e

/-- Whether a value is of a class, or gives itself out for one that is. -/
def passesFor (v : Value) (t : TypeRef) : Action Bool := do
  if (← Action.world).isInstance v t then pure true
  else
    let claimed ← claimedClass v
    return (← Action.world).isSubclass claimed t

/-! ### Changing attributes -/

/-- A text of which at most fifty octets are shown, from both its ends. -/
def abridged (s : String) : String :=
  if s.utf8ByteSize ≤ 50 then s
  else
    let rec front (left : Nat) : List Char → List Char
      | [] => []
      | c :: cs => if c.utf8Size ≤ left then c :: front (left - c.utf8Size) cs else []
    let cs := s.toList
    String.ofList (front 25 cs) ++ "..." ++ String.ofList (front 24 cs.reverse).reverse

/-- Raises that a record cannot be changed. -/
def frozenRecord {α : Type} (kind name : String) (input : Value) : Action α := do
  let text ← shown input
  let type ← typeNameOf input
  Action.raise (← newError "ValidationError" [.str (
    "1 validation error for " ++ kind ++ "\n" ++ name ++
    "\n  Instance is frozen [type=frozen_instance, input_value=" ++ abridged text ++
    ", input_type=" ++ type ++ "]\n    For further information visit " ++
    "https://errors.pydantic.dev/2.14/v/frozen_instance")])

/-- Raises that a value of a known class takes no attributes. -/
def refuseAttribute {α : Type} (v : Value) (name : String) : Action α := do
  let w ← Action.world
  if (knownOwner? (w.order (w.typeRef v)) name).isSome then
    attributeError v name ("'" ++ w.typeName v ++ "' object attribute '" ++ name ++
      "' is read-only")
  else noAttribute v name

/-- A class with an attribute changed. -/
def ClassInfo.withAttribute (info : ClassInfo) (name : String) (value : Value) : ClassInfo :=
  match name == "__name__", value with
  | true, .str s => { info with name := s }
  | _, _ => { info with attrs := info.attrs.put name value }

/-- A function with an attribute changed. -/
def functionWith (c : Closure) (attrs : Bindings) (name : String) (value : Value) : Obj :=
  match name == "__name__", name == "__qualname__", value with
  | true, _, .str s => .function { c with name := s } attrs
  | _, true, .str s => .function { c with path := s } attrs
  | _, _, _ => .function c (attrs.put name value)

/-- An instance with an attribute changed; errors know their arguments as an attribute. -/
def instanceWith (isError : Bool) (t : TypeRef) (attrs : Bindings) (content : Option Value)
    (name : String) (value : Value) : Obj :=
  match name == "args" && isError, name == "__class__", value with
  | true, _, .tuple xs => .instance t attrs (some (.tuple xs))
  | _, true, .type new => .instance new attrs content
  | _, _, _ => .instance t (attrs.put name value) content

/-- Assigns an attribute that no declared class computes. -/
def storeAttribute (v : Value) (name : String) (value : Value) : Action Unit := do
  let w ← Action.world
  match v with
  | .type (.declared a) => match w.get a with
    | .cls info => store a (.cls (info.withAttribute name value))
    | _ => pure ()
  | .type (.known k) =>
    typeError ("cannot set '" ++ name ++ "' attribute of immutable type '" ++ k ++ "'")
  | .ref a => match w.get a with
    | .instance t attrs content =>
      store a (instanceWith (w.isError v) t attrs content name value)
    | .record kind fields extra =>
      if name.startsWith "_" then store a (.record kind fields (extra.put name value))
      else frozenRecord kind name value
    | .function c attrs => store a (functionWith c attrs name value)
    | .module m attrs => store a (.module m (attrs.put name value))
    | _ => refuseAttribute v name
  | v => refuseAttribute v name

/-- What computes an attribute of a value that is no class. -/
def World.computed? (w : World) (v : Value) (name : String) : Option Obj :=
  match v with
  | .type _ => none
  | v => (w.classAttr? (w.typeRef v) name).bind fun (_, attr) => w.obj? attr

def setAttribute (v : Value) (name : String) (value : Value) : Action Unit := do
  if name == annotationsName then Action.look
  match ← callDeclared? v "__setattr__" [.str name, value] with
  | some _ => pure ()
  | none =>
    let w ← Action.world
    match w.computed? v name with
    | some (.property _ .none _ _) =>
      attributeError v name ("property '" ++ name ++ "' of '" ++ w.typeName v ++
        "' object has no setter")
    | some (.property _ setter _ _) => do let _ ← call setter [v, value]
    | _ => storeAttribute v name value

/-- Takes an attribute away that a value carries itself. -/
def dropAttribute (v : Value) (name : String) : Action Unit := do
  let w ← Action.world
  let absent : Action Unit := attributeError v name name
  match v with
  | .type (.declared a) => match w.get a with
    | .cls info =>
      if info.attrs.has name then store a (.cls { info with attrs := info.attrs.remove name })
      else absent
    | _ => pure ()
  | .type (.known k) =>
    typeError ("cannot set '" ++ name ++ "' attribute of immutable type '" ++ k ++ "'")
  | .ref a => match w.get a with
    | .instance t attrs content =>
      if attrs.has name then store a (.instance t (attrs.remove name) content)
      else absent
    | .record kind _ _ => frozenRecord kind name .none
    | .function c attrs =>
      if attrs.has name then store a (.function c (attrs.remove name)) else absent
    | _ => refuseAttribute v name
  | v => refuseAttribute v name

def deleteAttribute (v : Value) (name : String) : Action Unit := do
  if name == annotationsName || firstNames.contains name then Action.look
  match ← callDeclared? v "__delattr__" [.str name] with
  | some _ => pure ()
  | none =>
    let w ← Action.world
    match w.computed? v name with
    | some (.property _ _ .none _) =>
      attributeError v name ("property '" ++ name ++ "' of '" ++ w.typeName v ++
        "' object has no deleter")
    | some (.property _ _ deleter _) => do let _ ← call deleter [v]
    | _ => dropAttribute v name

end RuleBench.Execution
