import RuleBench.Execution.Format

/-!
# Operators

What the operators do with numbers, sequences, sets and mappings, and in which order the classes of
the two sides are asked.
-/

namespace RuleBench.Execution

open RuleBench.Script RuleBench.Number

/-- The sign of an operator and the name of the method that declares it, without its underscores. -/
def operatorNames : BinOp → String × String
  | .add => ("+", "add")
  | .sub => ("-", "sub")
  | .mul => ("*", "mul")
  | .matMul => ("@", "matmul")
  | .div => ("/", "truediv")
  | .mod => ("%", "mod")
  | .pow => ("** or pow()", "pow")
  | .shiftLeft => ("<<", "lshift")
  | .shiftRight => (">>", "rshift")
  | .bitOr => ("|", "or")
  | .bitXor => ("^", "xor")
  | .bitAnd => ("&", "and")
  | .floorDiv => ("//", "floordiv")

def zeroDivision {α : Type} (message : String) : Action α := fail "ZeroDivisionError" message

/-! ### Integers -/

/-- The quotient of two integers as the nearest floating-point number. -/
def divideInts (a b : Int) : Action Value := do
  if b == 0 then zeroDivision "division by zero"
  else
    let x := ofQuotient ((a < 0) != (b < 0)) a.natAbs b.natAbs
    if x.isInf then fail "OverflowError" "integer division result too large for a float"
    else if a == 0 then pure (.float 0.0)
    else pure (.float x)

/-- The bits of two integers put together one by one; negative numbers have endless ones in
front. -/
def combineBits (f : Bool → Bool → Bool) (a b : Int) : Int :=
  let width := max (Nat.log2 a.natAbs) (Nat.log2 b.natAbs) + 2
  let bit (n : Int) (i : Nat) : Bool := (n / Int.pow 2 i) % 2 == 1
  let low := (List.range width).foldl
    (fun (acc : Int) i => if f (bit a i) (bit b i) then acc + Int.pow 2 i else acc) 0
  if f (a < 0) (b < 0) then low - Int.pow 2 width else low

def floatsPower (x y : Float) : Action Value := do
  if x == 0.0 && y < 0.0 then zeroDivision "0.0 cannot be raised to a negative power"
  else if x < 0.0 && y != Float.floor y && !y.isInf && !x.isInf then
    -- a root of a negative number lies off the real line
    let size := Float.pow (-x) y
    let angle := y * 3.141592653589793
    pure (.complex (size * Float.cos angle) (size * Float.sin angle))
  else
    let z := Float.pow x y
    if z.isInf && !x.isInf && !y.isInf then
      Action.raise (← newError "OverflowError" [.int 34, .str "Numerical result out of range"])
    else pure (.float z)

/-- An operator on integers. -/
def integerOperation (op : BinOp) (a b : Int) : Action Value := do
  match op with
  | .add => pure (.int (a + b))
  | .sub => pure (.int (a - b))
  | .mul => pure (.int (a * b))
  | .div => divideInts a b
  | .floorDiv =>
    if b == 0 then zeroDivision "integer division or modulo by zero" else pure (.int (Int.fdiv a b))
  | .mod => if b == 0 then zeroDivision "integer modulo by zero" else pure (.int (Int.fmod a b))
  | .pow =>
    if b ≥ 0 then pure (.int (Int.pow a b.toNat))
    else do floatsPower (← floatOfInt a) (← floatOfInt b)
  | .shiftLeft =>
    if b < 0 then valueError "negative shift count" else pure (.int (a * Int.pow 2 b.toNat))
  | .shiftRight =>
    if b < 0 then valueError "negative shift count"
    else pure (.int (Int.fdiv a (Int.pow 2 b.toNat)))
  | .bitOr => pure (.int (combineBits (· || ·) a b))
  | .bitXor => pure (.int (combineBits (fun x y => x != y) a b))
  | .bitAnd => pure (.int (combineBits (· && ·) a b))
  | .matMul => pure .notImplemented

/-! ### Floating-point numbers -/

/-- A zero with the sign of another number. -/
def zeroLike (x : Float) : Float := if isNegative x then -0.0 else 0.0

/-- Quotient and remainder of a division to the floor; the remainder has the sign of the divisor. -/
def floorDivide (x y : Float) : Float × Float :=
  let rest := remainder x y
  let quotient := (x - rest) / y
  let (quotient, rest) :=
    if rest == 0.0 then (quotient, zeroLike y)
    else if (y < 0.0) != (rest < 0.0) then (quotient - 1.0, rest + y)
    else (quotient, rest)
  let whole :=
    if quotient == 0.0 then zeroLike (x / y)
    else
      let floor := Float.floor quotient
      if quotient - floor > 0.5 then floor + 1.0 else floor
  (whole, rest)

def floatOperation (op : BinOp) (x y : Float) : Action Value := do
  match op with
  | .add => pure (.float (x + y))
  | .sub => pure (.float (x - y))
  | .mul => pure (.float (x * y))
  | .div => if y == 0.0 then zeroDivision "float division by zero" else pure (.float (x / y))
  | .floorDiv =>
    if y == 0.0 then zeroDivision "float floor division by zero"
    else pure (.float (floorDivide x y).1)
  | .mod => if y == 0.0 then zeroDivision "float modulo" else pure (.float (floorDivide x y).2)
  | .pow => floatsPower x y
  | _ => pure .notImplemented

def complexOperation (op : BinOp) (a b c d : Float) : Action Value := do
  match op with
  | .add => pure (.complex (a + c) (b + d))
  | .sub => pure (.complex (a - c) (b - d))
  | .mul => pure (.complex (a * c - b * d) (a * d + b * c))
  | .div =>
    let size := c * c + d * d
    if size == 0.0 then zeroDivision "complex division by zero"
    else pure (.complex ((a * c + b * d) / size) ((b * c - a * d) / size))
  | _ => pure .notImplemented

/-! ### Sequences, sets and mappings -/

/-- A list repeated; nothing for counts below one. -/
def repeated {α : Type} (xs : List α) (n : Int) : List α := (List.replicate n.toNat xs).flatten

/-- A count of repetitions of so many items for which there is room. -/
def asRepetitions (size : Nat) (n : Int) : Action Int := do
  let n ← asPosition "OverflowError" n
  needRoom (size * n.toNat)
  pure n

/-- A sequence repeated. -/
def repeatSequence (v : Value) (n : Int) : Action Value := do
  match ← contentOf v with
  | .str s => return .str (String.ofList (repeated s.toList (← asRepetitions s.length n)))
  | .bytes b => return .bytes (repeated b (← asRepetitions b.length n))
  | .tuple xs => return .tuple (repeated xs (← asRepetitions xs.length n))
  | .ref a => match ← load a with
    | .list xs => do new (.list (repeated xs.toList (← asRepetitions xs.size n)).toArray)
    | _ => pure .notImplemented
  | _ => pure .notImplemented

/-- The kind of sequence that a value is, if it is one that operators take. -/
def World.sequenceKind? (w : World) (v : Value) : Option String :=
  match w.content v with
  | .str _ => some "str"
  | .bytes _ => some "bytes"
  | .tuple _ => some "tuple"
  | c => match w.obj? c with
    | some (.list _) => some "list"
    | _ => none

def cannotConcatenate {α : Type} (kind : String) (other : Value) : Action α :=
  typeErrorOf other fun t =>
    if kind == "bytes" then "can't concat " ++ t ++ " to bytes"
    else "can only concatenate " ++ kind ++ " (not \"" ++ t ++ "\") to " ++ kind

/-- Two sequences of one kind put together. -/
def concatenate (a b : Value) : Action Value := do
  let w ← Action.world
  match w.content a, w.content b with
  | .str s, .str t => pure (.str (s ++ t))
  | .bytes s, .bytes t => pure (.bytes (s ++ t))
  | .tuple xs, .tuple ys => pure (.tuple (xs ++ ys))
  | .ref x, .ref y => match w.get x, w.get y with
    | .list xs, .list ys => new (.list (xs ++ ys))
    | _, _ => pure .notImplemented
  | _, _ => pure .notImplemented

/-- The members of one list that a test keeps, asked of another list. -/
def filterMembers (keep : Bool → Bool) (ys : List Value) : List Value → Action (List Value)
  | [] => pure []
  | x :: xs => do
    let found ← member x ys
    let rest ← filterMembers keep ys xs
    return if keep found then x :: rest else rest

/-- An operator on the members of two sets. -/
def setOperation (op : BinOp) (xs ys : List Value) : Action (Option (List Value)) := do
  match op with
  | .sub => return some (← filterMembers (!·) ys xs)
  | .bitAnd => return some (← filterMembers id ys xs)
  | .bitOr => return some (xs ++ (← filterMembers (!·) xs ys))
  | .bitXor => return some ((← filterMembers (!·) ys xs) ++ (← filterMembers (!·) xs ys))
  | _ => return none

/-- The entries of two mappings put together. -/
def unitedEntries? (op : BinOp) : Option Obj → Option Obj → Option (List (Value × Value))
  | some (.dict es), some (.dict fs) => if op == .bitOr then some (es.toList ++ fs.toList) else none
  | _, _ => none

/-- Whether a value is a set that cannot be changed. -/
def World.isFrozenSet (w : World) (v : Value) : Bool :=
  match w.obj? v with
  | some (.set _ frozen) => frozen
  | _ => false

def objectOperation (op : BinOp) (a b : Value) : Action Value := do
  let w ← Action.world
  match unitedEntries? op (w.obj? a) (w.obj? b) with
  | some es => Mapping.ofEntries es
  | none => match w.members? a, w.members? b with
    | some xs, some ys => match ← setOperation op xs ys with
      | some zs => new (.set zs.toArray (w.isFrozenSet a))
      | none => pure .notImplemented
    | _, _ => pure .notImplemented

/-- A choice between classes, as annotations use it. -/
def uniteClasses (op : BinOp) (a b : Value) : Action Value := do
  match op with
  | .bitOr => new (.instance (.known "UnionType") [("__args__", .tuple [a, b])] none)
  | _ => pure .notImplemented

/-- An operator on two numbers. -/
def numberOperation? (op : BinOp) : Value → Value → Option (Action Value)
  | .bool x, .bool y => some (match op with
    | .bitAnd => pure (.bool (x && y))
    | .bitOr => pure (.bool (x || y))
    | .bitXor => pure (.bool (x != y))
    | op => integerOperation op (if x then 1 else 0) (if y then 1 else 0))
  | .int x, .int y => some (integerOperation op x y)
  | .bool x, .int y => some (integerOperation op (if x then 1 else 0) y)
  | .int x, .bool y => some (integerOperation op x (if y then 1 else 0))
  | .float x, .float y => some (floatOperation op x y)
  | .float x, .int y => some do floatOperation op x (← floatOfInt y)
  | .int x, .float y => some do floatOperation op (← floatOfInt x) y
  | .float x, .bool y => some (floatOperation op x (if y then 1.0 else 0.0))
  | .bool x, .float y => some (floatOperation op (if x then 1.0 else 0.0) y)
  | .complex x y, .complex z u => some (complexOperation op x y z u)
  | .complex x y, .int n => some do complexOperation op x y (← floatOfInt n) 0.0
  | .int n, .complex x y => some do complexOperation op (← floatOfInt n) 0.0 x y
  | .complex x y, .float z => some (complexOperation op x y z 0.0)
  | .float z, .complex x y => some (complexOperation op z 0.0 x y)
  | _, _ => none

/-- An operator on two values of known classes, numbers first. -/
def knownOperation (op : BinOp) (a b : Value) : Action Value := do
  match numberOperation? op a b with
  | some result => result
  | none => match a, b with
    | .str s, b => match op with
      | .mod => return .str (← percentText s b)
      | _ => pure .notImplemented
    | .ref _, .ref _ => objectOperation op a b
    | .type _, .type _ => uniteClasses op a b
    | .type _, .none => uniteClasses op a b
    | .none, .type _ => uniteClasses op a b
    | _, _ => pure .notImplemented

/-- Raises that an operator does not take two values. -/
def unsupported {α : Type} (sign : String) (a b : Value) : Action α := do
  let w ← Action.world
  typeError ("unsupported operand type(s) for " ++ sign ++ ": '" ++ w.typeName a ++ "' and '" ++
    w.typeName b ++ "'")

/-- A sequence as often as a number says. -/
def times (sequence count : Value) : Action Value := do
  match ← indexOf? count with
  | some n => repeatSequence sequence n
  | none => typeErrorOf count fun t => "can't multiply sequence by non-int of type '" ++ t ++ "'"

/-- What sequences do with an operator that no class has answered. -/
def sequenceOperation (op : BinOp) (sign : String) (a b : Value) : Action Value := do
  let w ← Action.world
  match op with
  | .add => match w.sequenceKind? a with
    | some kind => match ← concatenate a b with
      | .notImplemented => cannotConcatenate kind b
      | v => pure v
    | none => unsupported sign a b
  | .mul =>
    if (w.sequenceKind? a).isSome then times a b
    else if (w.sequenceKind? b).isSome then times b a
    else unsupported sign a b
  | _ => unsupported sign a b

/-- The first answer of actions that may have none. -/
def firstAnswer (otherwise : Action Value) : List (Action Value) → Action Value
  | [] => otherwise
  | m :: ms => do
    match ← m with
    | .notImplemented => firstAnswer otherwise ms
    | v => pure v

/-- What a declared class answers for an operator. -/
def askClass (v : Value) (method : String) (other : Value) : Action Value := do
  return (← callDeclared? v method [other]).getD .notImplemented

/-- Who is asked what an operator comes to: the class of one side, or what known classes do. -/
inductive Asked where
  | left
  | right
  | known

def forwardName (op : BinOp) : String := "__" ++ (operatorNames op).2 ++ "__"

def backwardName (op : BinOp) : String := "__r" ++ (operatorNames op).2 ++ "__"

/-- In which order the classes of two values are asked. The class of the left side is asked first,
unless the class of the right side extends it. -/
def World.askingOrder (w : World) (op : BinOp) (a b : Value) : List Asked :=
  let (s, t) := (w.typeRef a, w.typeRef b)
  let answersBack := (w.classAttr? t (backwardName op)).isSome
  if s != t && w.isSubclass t s && answersBack then [.right, .left, .known]
  else if (w.classAttr? s (forwardName op)).isSome then [.left, .right, .known]
  else if answersBack && !((w.sequenceKind? a) == some "str" && op == .mod) then [.right, .known]
  else [.known, .right]

/-- What one that is asked makes of two values. -/
def World.answerFrom (w : World) (op : BinOp) (a b : Value) : Asked → Action Value
  | .left => askClass a (forwardName op) b
  | .right =>
    if w.typeRef a == w.typeRef b then pure .notImplemented else askClass b (backwardName op) a
  | .known => knownOperation op (w.content a) (w.content b)

/-- An operator on two values. -/
def operate (op : BinOp) (a b : Value) (sign : Option String := none) : Action Value := do
  let w ← Action.world
  firstAnswer (sequenceOperation op (sign.getD (operatorNames op).1) a b)
    ((w.askingOrder op a b).map (w.answerFrom op a b))

/-- Puts a pair into a mapping. -/
def putPair (d : Address) (pair : Value) : Action Unit := do
  match ← collect pair with
  | [k, v] => Mapping.put d k v
  | _ => valueError "dictionary update sequence element has wrong length"

/-- Puts all entries of a mapping, or all pairs that a value hands out, into a mapping. -/
def putAll (d : Address) (source : Value) : Action Unit := do
  let w ← Action.world
  match w.obj? (w.content source) with
  | some (.dict es) => Mapping.putEntries d es.toList
  | _ => for pair in ← collect source do putPair d pair

/-- Puts all that a value hands out behind a list. -/
def extendList (a : Address) (source : Value) : Action Unit := do
  let more ← collect source
  match ← load a with
  | .list xs => store a (.list (xs ++ more.toArray))
  | _ => pure ()

/-- An operator on a set, in its place. -/
def changeSet (op : BinOp) (a : Address) (xs : Array Value) (other : Value) : Action Bool := do
  let w ← Action.world
  match w.obj? (w.content other) with
  | some (.set ys _) => match ← setOperation op xs.toList ys.toList with
    | some zs => do
      store a (.set zs.toArray false)
      pure true
    | none => pure false
  | _ => pure false

/-- Changes a list, set or mapping in its place, if the operator does. -/
def changeInPlace (op : BinOp) (a : Address) (other : Value) : Obj → Action Bool
  | .list xs => match op with
    | .add => do
      extendList a other
      pure true
    | .mul => do match ← indexOf? other with
      | some n =>
        let n ← asRepetitions xs.size n
        store a (.list (repeated xs.toList n).toArray)
        pure true
      | none => pure false
    | _ => pure false
  | .dict _ => match op with
    | .bitOr => do
      putAll a other
      pure true
    | _ => pure false
  | .set xs frozen => if frozen then pure false else changeSet op a xs other
  | _ => pure false

/-- An operator together with an assignment: lists, sets and mappings are changed in place. -/
def operateInPlace (op : BinOp) (a b : Value) : Action Value := do
  let (sign, name) := operatorNames op
  let sign := (if op == .pow then "**" else sign) ++ "="
  match ← callDeclared? a ("__i" ++ name ++ "__") [b] with
  | some .notImplemented => operate op a b (some sign)
  | some v => pure v
  | none =>
    let w ← Action.world
    if (w.classAttr? (w.typeRef a) (forwardName op)).isSome then operate op a b (some sign)
    else match w.content a with
      | .ref target => do
        if ← changeInPlace op target b (w.get target) then pure a else operate op a b (some sign)
      | _ => operate op a b (some sign)

/-- The sign of an operator with one side, and the method that declares it. -/
def unaryNames : UnaryOp → String × String
  | .invert => ("~", "__invert__")
  | .minus => ("-", "__neg__")
  | .plus => ("+", "__pos__")
  | .not => ("not", "")

/-- An operator with one side on an integer. -/
def unaryInteger (op : UnaryOp) (n : Int) : Int :=
  match op with
  | .minus => -n
  | .invert => -n - 1
  | _ => n

/-- An operator with one side on a number. -/
def unaryNumber? (op : UnaryOp) : Value → Option Value
  | .int n => some (.int (unaryInteger op n))
  | .bool b => some (.int (unaryInteger op (if b then 1 else 0)))
  | .float x => match op with
    | .minus => some (.float (-x))
    | .plus => some (.float x)
    | _ => none
  | .complex x y => match op with
    | .minus => some (.complex (-x) (-y))
    | .plus => some (.complex x y)
    | _ => none
  | _ => none

/-- An operator with one side. -/
def operateUnary (op : UnaryOp) (v : Value) : Action Value := do
  match op with
  | .not => return .bool (!(← truthy v))
  | op =>
    let (sign, method) := unaryNames op
    match ← callDeclared? v method with
    | some r => pure r
    | none => match unaryNumber? op (← contentOf v) with
      | some r => pure r
      | none => typeErrorOf v fun t => "bad operand type for unary " ++ sign ++ ": '" ++ t ++ "'"

end RuleBench.Execution
