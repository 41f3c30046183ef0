import RuleBench.Execution.Method

/-!
# Functions and names that need no declaration
-/

namespace RuleBench.Execution

open RuleBench.Script

namespace Builtin

/-! ### Numbers and characters -/

def absolute (v : Value) : Action Value := do
  match ← callDeclared? v "__abs__" with
  | some r => pure r
  | none => match ← contentOf v with
    | .int n => pure (.int n.natAbs)
    | .bool b => pure (.int (if b then 1 else 0))
    | .float x => pure (.float x.abs)
    | .complex x y => pure (.float (Float.sqrt (x * x + y * y)))
    | _ => typeErrorOf v fun t => "bad operand type for abs(): '" ++ t ++ "'"

/-- An integer in a base behind the mark of that base. -/
def inBase (base : Nat) (mark : String) (v : Value) : Action Value := do
  let n ← asIndex v
  let digits := String.ofList (Nat.toDigits base n.natAbs)
  pure (.str ((if n < 0 then "-" else "") ++ mark ++ digits))

def character (v : Value) : Action Value := do
  let n ← asIndex v
  if 0 ≤ n && n < 0x110000 then pure (.str (String.singleton (Char.ofNat n.toNat)))
  else if n.natAbs < 0x80000000 then valueError "chr() arg not in range(0x110000)"
  else fail "OverflowError" "Python int too large to convert to C int"

def codePoint (v : Value) : Action Value := do
  match ← contentOf v with
  | .str s => match s.toList with
    | [c] => pure (.int c.toNat)
    | cs => typeError ("ord() expected a character, but string of length " ++ toString cs.length ++
        " found")
  | .bytes [b] => pure (.int b.toNat)
  | .bytes bs => typeError ("ord() expected a character, but string of length " ++
      toString bs.length ++ " found")
  | _ => typeErrorOf v fun t => "ord() expected string of length 1, but " ++ t ++ " found"

/-- Quotient and remainder of a division to the floor. -/
def quotientAndRest (a b : Value) : Action Value := do
  match ← callDeclared? a "__divmod__" [b] with
  | some r => pure r
  | none =>
    let w ← Action.world
    let floats (x y : Float) : Action Value :=
      if y == 0.0 then zeroDivision "float divmod()"
      else
        let (q, r) := floorDivide x y
        pure (.tuple [.float q, .float r])
    match w.int? a, w.int? b, w.content a, w.content b with
    | some n, some m, _, _ =>
      if m == 0 then zeroDivision "integer division or modulo by zero"
      else pure (.tuple [.int (Int.fdiv n m), .int (Int.fmod n m)])
    | _, some m, .float x, _ => do floats x (← floatOfInt m)
    | some n, _, _, .float y => do floats (← floatOfInt n) y
    | _, _, .float x, .float y => floats x y
    | _, _, _, _ => unsupported "divmod()" a b

/-- A power modulo a number, by squaring. -/
def powerModulo (base exponent modulus : Nat) : Nat :=
  (Nat.toDigits 2 exponent).foldl
    (fun acc d => acc * acc * (if d == '1' then base else 1) % modulus) (1 % modulus)

def power (args : List Value) (named : Bindings) : Action Value := do
  match ← pickArguments "pow" ["base", "exp", "mod"] args named with
  | [some a, some b, none] => operate .pow a b
  | [some a, some b, some .none] => operate .pow a b
  | [some a, some b, some m] => do
    let w ← Action.world
    match w.int? a, w.int? b, w.int? m with
    | some x, some e, some n =>
      if n == 0 then valueError "pow() 3rd argument cannot be 0"
      else if e < 0 then valueError "base is not invertible for the given modulus"
      else
        let r : Int := powerModulo (Int.emod x n.natAbs).toNat e.toNat n.natAbs
        pure (.int (Int.fmod r n))
    | _, _, _ =>
      typeError ("unsupported operand type(s) for ** or pow(): '" ++ w.typeName a ++ "', '" ++
        w.typeName b ++ "', '" ++ w.typeName m ++ "'")
  | [none, _, _] => typeError "pow() missing required argument 'base' (pos 1)"
  | _ => typeError "pow() missing required argument 'exp' (pos 2)"

def round (args : List Value) (named : Bindings) : Action Value := do
  match ← pickArguments "round" ["number", "ndigits"] args named with
  | [some v, places] => match ← callDeclared? v "__round__" places.toList with
    | some r => pure r
    | none => roundNumber v (places.getD .none)
  | _ => typeError "round() missing required argument 'number' (pos 1)"

/-! ### Collections -/

/-- Whether some or every value that is handed out counts as true. -/
def quantify (wanted : Bool) (v : Value) : Action Value := do
  let i ← iterator v
  let found ← eachOf i fun x => do
    if (← truthy x) == wanted then pure (some ()) else pure none
  pure (.bool (if found.isSome then wanted else !wanted))

def sum (args : List Value) (named : Bindings) : Action Value := do
  allowNames "sum" ["start"] named
  match args with
  | [] => typeError "sum() takes at least 1 positional argument (0 given)"
  | source :: rest => do
    if rest.length + named.length > 1 then
      typeError ("sum() takes at most 2 arguments (" ++ toString (args.length + named.length) ++
        " given)")
    let start := ((rest.head?).orElse fun _ => named.lookup "start").getD (.int 0)
    let w ← Action.world
    let i ← iterator source
    match w.content start with
    | .str _ => typeError "sum() can't sum strings [use ''.join(seq) instead]"
    | .bytes _ => typeError "sum() can't sum bytes [use b''.join(seq) instead]"
    | _ => loop start fun total => do
      match ← next? i with
      | none => pure (.inr total)
      | some v => return .inl (← operate .add total v)

/-- The least or greatest of values by a key. -/
def extremeBy (greatest : Bool) (key : Value) (i : Value) : Action (Option Value) := do
  let keyOf (v : Value) : Action Value := match key with
    | .none => pure v
    | f => call f [v]
  let best ← loop (none : Option (Value × Value)) fun best => do
    match ← next? i with
    | none => pure (.inr best)
    | some v =>
      let k ← keyOf v
      match best with
      | none => pure (.inl (some (k, v)))
      | some (bestKey, bestValue) =>
        let better ← truthy (← relate (if greatest then .gt else .lt) k bestKey)
        pure (.inl (some (if better then (k, v) else (bestKey, bestValue))))
  return best.map (·.2)

def extremum (greatest : Bool) (args : List Value) (named : Bindings) : Action Value := do
  let name := if greatest then "max" else "min"
  let several := args.length > 1
  if args.isEmpty then typeError (name ++ " expected at least 1 argument, got 0")
  allowNames name ["key", "default"] named
  let default := named.lookup "default"
  if several && default.isSome then
    typeError ("Cannot specify a default for " ++ name ++ "() with multiple positional arguments")
  let source := if several then Value.tuple args else args.head?.getD .none
  match ← extremeBy greatest ((named.lookup "key").getD .none) (← iterator source), default with
  | some v, _ => pure v
  | none, some v => pure v
  | none, none => valueError (name ++ "() arg is an empty sequence")

def sorted (args : List Value) (named : Bindings) : Action Value := do
  checkCount "sorted" 1 1 args
  let xs ← collect (args.head?.getD .none)
  let (key, descending) ← sortOptions "sort" named
  new (.list (← sortValues isLess xs key descending).toArray)

/-! ### Iterators -/

def isCallable (w : World) (v : Value) : Bool :=
  match v with
  | .builtin _ => true
  | .method .. => true
  | .slot .. => true
  | .type _ => true
  | .ref a => match w.get a with
    | .function .. => true
    | .boundMethod .. => true
    | .staticMethod _ => true
    | .instance t .. => match w.classAttr? t "__call__" with
      | some (_, .none) => false
      | some _ => true
      | none => false
    | _ => false
  | _ => false

def iter (args : List Value) (named : Bindings) : Action Value := do
  noNames "iter" named
  checkCount "iter" 1 2 args
  match args with
  | [v] => iterator v
  | [f, sentinel] =>
    if isCallable (← Action.world) f then new (.iterator (.calls f sentinel false))
    else typeError "iter(v, w): v must be callable"
  | _ => pure .none

def next (args : List Value) (named : Bindings) : Action Value := do
  noNames "next" named
  checkCount "next" 1 2 args
  match args with
  | [i] => advance i
  | [i, default] => return (← next? i).getD default
  | _ => pure .none

/-! ### Attributes and classes -/

def hasAttribute (v : Value) (name : String) : Action Bool :=
  try return (← attrOf? v name).isSome
  catch e =>
    if ← isInstanceOf e "AttributeError" then pure false else Action.raise e

def getAttribute (args : List Value) (named : Bindings) : Action Value := do
  noNames "getattr" named
  checkCount "getattr" 2 3 args
  match args with
  | [v, n] => attrOf v (← Operation.nameArgument n)
  | [v, n, default] => do
    let name ← Operation.nameArgument n
    try attrOf v name
    catch e =>
      if ← isInstanceOf e "AttributeError" then pure default else Action.raise e
  | _ => pure .none

/-- The classes that an argument names: one, or a tuple of such. -/
def namedClasses (complaint : String) : Nat → Value → Action (List TypeRef)
  | 0, _ => fail "RecursionError" "maximum recursion depth exceeded in __instancecheck__"
  | fuel + 1, v => do
    match v, ← objOf v with
    | .type t, _ => pure [t]
    | .tuple vs, _ => return (← vs.mapM (namedClasses complaint fuel)).flatten
    | _, some (.instance (.known "UnionType") attrs _) => match attrs.lookup "__args__" with
      | some (.tuple vs) => do
        let refs ← vs.mapM fun u => match u with
          | .none => pure [TypeRef.known "NoneType"]
          | u => namedClasses complaint fuel u
        return refs.flatten
      | _ => pure []
    | _, _ => typeError complaint

/-- Whether one of the classes that an argument names passes a test; they are looked at one by
one. -/
def anyClass (complaint : String) (test : TypeRef → Action Bool) : Nat → Value → Action Bool
  | 0, _ => fail "RecursionError" "maximum recursion depth exceeded in __instancecheck__"
  | fuel + 1, v => do
    match v with
    | .tuple vs => anyM (anyClass complaint test fuel) vs
    | v => do anyM test (← namedClasses complaint (fuel + 1) v)

def isInstance (args : List Value) (named : Bindings) : Action Value := do
  noNames "isinstance" named
  checkCount "isinstance" 2 2 args
  match args with
  | [v, classes] => do
    return .bool (← anyClass "isinstance() arg 2 must be a type, a tuple of types, or a union"
      (passesFor v) greatestNesting classes)
  | _ => pure .none

def isSubclass (args : List Value) (named : Bindings) : Action Value := do
  noNames "issubclass" named
  checkCount "issubclass" 2 2 args
  match args with
  | [.type t, classes] => do
    let w ← Action.world
    return .bool (← anyClass "issubclass() arg 2 must be a class, a tuple of classes, or a union"
      (fun c => pure (w.isSubclass t c)) greatestNesting classes)
  | _ => typeError "issubclass() arg 1 must be a class"

/-- The names of the attributes that a value and its classes carry. -/
def attributeNames (v : Value) : Action (List String) := do
  Action.look
  let w ← Action.world
  let t := match v with
    | .type t => t
    | v => w.typeRef v
  let declared := (w.order t).flatMap fun c => match w.classInfo? c with
    | some info => info.attrs.map (·.1)
    | none => []
  let known := (w.order t).flatMap fun c => match c with
    | .known k => methodsOf k
    | .declared _ => []
  pure (((w.ownAttrs v).map (·.1) ++ declared ++ known).eraseDups.mergeSort)

/-! ### Output -/

def textOption (name : String) (default : String) : Option Value → Action String
  | none => pure default
  | some .none => pure default
  | some v => do
    match (← Action.world).text? v with
    | some s => pure s
    | none => typeErrorOf v fun t => name ++ " must be None or a string, not " ++ t

def print (args : List Value) (named : Bindings) : Action Value := do
  allowNames "print" ["sep", "end", "file", "flush"] named
  let separator ← textOption "sep" " " (named.lookup "sep")
  let ending ← textOption "end" "\n" (named.lookup "end")
  let write (s : String) : Action Unit := match named.lookup "file" with
    | none => emit s
    | some .none => emit s
    | some file => do let _ ← call (← attrOf file "write") [.str s]
  for (v, i) in args.zipIdx do
    if i > 0 then write separator
    write (← textOf v)
  write ending
  pure .none

/-! ### Dispatch -/

/-- A function of exactly one value. -/
def single (name : String) (args : List Value) (named : Bindings) (f : Value → Action Value) :
    Action Value := do f (← exactlyOne name args named)

/-- Calls a function that needs no declaration. -/
def run (name : String) (args : List Value) (named : Bindings) : Action Value := do
  match name with
  | "abs" => single name args named absolute
  | "all" => single name args named (quantify false)
  | "any" => single name args named (quantify true)
  | "ascii" => single name args named fun v => return .str (escapedAscii (← shown v))
  | "bin" => single name args named (inBase 2 "0b")
  | "callable" => single name args named fun v => return .bool (isCallable (← Action.world) v)
  | "chr" => single name args named character
  | "delattr" => do
    noNames name named
    checkCount name 2 2 args
    match args with
    | [v, n] => deleteAttribute v (← Operation.nameArgument n)
    | _ => pure ()
    pure .none
  | "dir" => do
    checkCount name 0 1 args
    let names ← attributeNames (args.head?.getD .none)
    new (.list (names.map Value.str).toArray)
  | "divmod" => do
    noNames name named
    checkCount name 2 2 args
    match args with
    | [a, b] => quotientAndRest a b
    | _ => pure .none
  | "format" => do
    noNames name named
    checkCount name 1 2 args
    match args with
    | [v] => return .str (← format v "")
    | [v, layout] => match (← Action.world).text? layout with
      | some s => return .str (← format v s)
      | none => typeErrorOf layout fun t => "format() argument 2 must be str, not " ++ t
    | _ => pure .none
  | "getattr" => getAttribute args named
  | "hasattr" => do
    noNames name named
    checkCount name 2 2 args
    match args with
    | [v, n] => return .bool (← hasAttribute v (← Operation.nameArgument n))
    | _ => pure .none
  | "hash" => single name args named fun v => do
    match ← callDeclared? v "__hash__" with
    | some r => pure r
    | none => Operation.hashOf v
  | "hex" => single name args named (inBase 16 "0x")
  | "id" => single name args named fun v => do
    match v with
    | .ref a => return .int (← Action.located a)
    | _ => pure (.int 0)
  | "isinstance" => isInstance args named
  | "issubclass" => isSubclass args named
  | "iter" => iter args named
  | "len" => single name args named fun v => return .int (← length v)
  | "max" => extremum true args named
  | "min" => extremum false args named
  | "next" => next args named
  | "oct" => single name args named (inBase 8 "0o")
  | "open" => do
    Action.raise (← new (.instance (.known "FileNotFoundError") []
      (some (.tuple [.int 2, .str "No such file or directory", args.head?.getD .none]))))
  | "ord" => single name args named codePoint
  | "pow" => power args named
  | "print" => print args named
  | "repr" => single name args named fun v => return .str (← shown v)
  | "round" => round args named
  | "setattr" => do
    noNames name named
    checkCount name 3 3 args
    match args with
    | [v, n, x] => setAttribute v (← Operation.nameArgument n) x
    | _ => pure ()
    pure .none
  | "sorted" => sorted args named
  | "sum" => sum args named
  | "vars" => single name args named fun v => do
    match ← attrOf? v "__dict__" with
    | some d => pure d
    | none => typeError "vars() argument must have __dict__ attribute"
  | "__import__" => match args with
    | .str m :: _ => fail "ModuleNotFoundError" ("No module named '" ++ m ++ "'")
    | _ => typeError "__import__() missing required argument 'name' (pos 1)"
  | name => fail "RuntimeError" (name ++ "() is not available to rules")

def functionNames : List String := [
  "abs", "all", "any", "ascii", "bin", "callable", "chr", "delattr", "dir", "divmod", "format",
  "getattr", "globals", "hasattr", "hash", "hex", "id", "isinstance", "issubclass", "iter", "len",
  "locals", "max", "min", "next", "oct", "open", "ord", "pow", "print", "repr", "round", "setattr",
  "sorted", "sum", "vars", "__import__", "eval", "exec", "compile", "input"]

/-- What the table of all these names says of itself. -/
def tableText : String :=
  "Built-in functions, exceptions, and other objects.\n\n" ++
  "Noteworthy: None is the `nil' object; Ellipsis represents `...' in slices."

/-- The value of a name that no script declares. -/
def value? (name : String) : Option Value :=
  if functionNames.contains name then some (.builtin name)
  else if plainClasses.contains name then some (.type (.known name))
  else if ErrorClass.isKnown name && name != "CancelledError" then some (.type (.known name))
  else match name with
    | "NotImplemented" => some .notImplemented
    | "Ellipsis" => some .ellipsis
    | "EnvironmentError" => some (.type (.known "OSError"))
    | "IOError" => some (.type (.known "OSError"))
    | "__name__" => some (.str "builtins")
    | "__doc__" => some (.str tableText)
    | "__debug__" => some (.bool true)
    | _ => none

end Builtin

end RuleBench.Execution
