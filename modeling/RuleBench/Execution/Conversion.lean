import RuleBench.Execution.Argument
import RuleBench.Text.Digit
import RuleBench.Text.Space

/-!
# Conversion to numbers

Integers and floating-point numbers from texts and from values of all kinds.
-/

namespace RuleBench.Execution

open RuleBench.Number RuleBench.Text

namespace Conversion

/-- A text in which white space is blank and decimal digits are those of ASCII. -/
def plainDigits (s : String) : List Char :=
  s.toList.map fun c =>
    if c.toNat < 128 then c
    else if isBlank c then ' '
    else match decimalValue? c with
      | some d => Char.ofNat (48 + d)
      | none => '?'

/-- The value of a digit in a base. -/
def digit? (base : Nat) (c : Char) : Option Nat :=
  let value := if c.isDigit || c.isUpper || c.isLower then some (digitValue c) else none
  value.filter (· < base)

/-- Digits of a base with single underscores between them. -/
def digits? (base : Nat) : List Char → Option (List Nat)
  | [] => none
  | [c] => (digit? base c).map fun d => [d]
  | c :: '_' :: rest => do return (← digit? base c) :: (← digits? base rest)
  | c :: rest => do return (← digit? base c) :: (← digits? base rest)

/-- The base that a mark in front of digits names. -/
def markedBase? : List Char → Option Nat
  | '0' :: c :: _ =>
    if c == 'x' || c == 'X' then some 16
    else if c == 'o' || c == 'O' then some 8
    else if c == 'b' || c == 'B' then some 2
    else none
  | _ => none

/-- An integer in a base; base zero leaves the base to the mark in front. The number of its digits
comes with it. -/
def readWhole (base : Nat) (cs : List Char) : Option (Int × Nat) := do
  let (negative, body) := Validation.splitSign (trimBoth isBlank cs)
  let marked := markedBase? body
  let actual := if base == 0 then marked.getD 10 else base
  let body :=
    if marked == some actual then
      let rest := body.drop 2
      if rest.head? == some '_' then rest.drop 1 else rest
    else body
  let digits ← digits? actual body
  let n := digits.foldl (fun n d => n * actual + d) 0
  -- without a mark and a base, a leading zero is for zero only
  if base == 0 && marked.isNone && digits.head? == some 0 && n != 0 then none
  else return (if negative then -(n : Int) else n, digits.length)

/-- Whether the digits of a base cost as much as those of base ten. -/
def isCostly (base : Nat) : Bool := !([2, 4, 8, 16, 32].contains base)

/-- The start of a text that stands in a message. -/
def excerpt (shownText : String) : String := String.ofList (shownText.toList.take 200)

def wholeFromText (v : Value) (s : String) (base : Nat) : Action Int := do
  match readWhole base (plainDigits s) with
  | some (n, size) =>
    if size > Validation.greatestDigits && isCostly base then
      valueError ("Exceeds the limit (4300 digits) for integer string conversion: value has " ++
        toString size ++ " digits; use sys.set_int_max_str_digits() to increase the limit")
    else pure n
  | none => do
    valueError ("invalid literal for int() with base " ++ toString base ++ ": " ++
      excerpt (← shown v))

/-- The part of a floating-point number before the point. -/
def truncateFloat (x : Float) : Action Int := do
  match Binary.ofFloat? x with
  | some b => pure b.truncate
  | none =>
    if x.isNaN then valueError "cannot convert float NaN to integer"
    else fail "OverflowError" "cannot convert float infinity to integer"

/-- The text that octets spell, one character each. -/
def octetText (b : List UInt8) : String := String.ofList (b.map fun x => Char.ofNat x.toNat)

/-- What a declared class answers for an integer. -/
def declaredWhole (v : Value) (name : String) : Action (Option Int) := do
  match ← callDeclared? v name with
  | none => pure none
  | some r => match (← Action.world).int? r with
    | some n => return some n
    | none => typeErrorOf r fun t => name ++ " returned non-int (type " ++ t ++ ")"

/-- An integer from any value. -/
def toWhole (v : Value) : Action Int := do
  match ← declaredWhole v "__int__" with
  | some n => pure n
  | none => match ← declaredWhole v "__index__" with
    | some n => pure n
    | none => match ← declaredWhole v "__trunc__" with
      | some n => pure n
      | none => match ← contentOf v with
        | .int n => pure n
        | .bool b => pure (if b then 1 else 0)
        | .float x => truncateFloat x
        | .str s => wholeFromText v s 10
        | .bytes b => wholeFromText v (octetText b) 10
        | _ => typeErrorOf v fun t =>
            "int() argument must be a string, a bytes-like object or a real number, not '" ++
              t ++ "'"

/-- An integer from a text in a base. -/
def toWholeIn (v base : Value) : Action Int := do
  let n ← asIndex base
  if (n != 0 && n < 2) || n > 36 then valueError "int() base must be >= 2 and <= 36, or 0"
  else match ← contentOf v with
    | .str s => wholeFromText v s n.toNat
    | .bytes b => wholeFromText v (octetText b) n.toNat
    | _ => typeError "int() can't convert non-string with explicit base"

/-- Underscores are taken away that stand between digits; no others are allowed. -/
def joinDigits (previous : Char) : List Char → Option (List Char)
  | [] => some []
  | '_' :: c :: rest =>
    if previous.isDigit && c.isDigit then (joinDigits c rest).map (c :: ·) else none
  | c :: rest => if c == '_' then none else (joinDigits c rest).map (c :: ·)

def floatFromText (v : Value) (s : String) : Action Float := do
  match (joinDigits ' ' (trimBoth isBlank (plainDigits s))).bind Validation.readNumber? with
  | some x => pure x
  | none => valueError ("could not convert string to float: " ++ (← shown v))

/-- A floating-point number from any value. -/
def toFloat (v : Value) : Action Float := do
  match ← callDeclared? v "__float__" with
  | some r => match ← contentOf r with
    | .float x => pure x
    | _ =>
      let w ← Action.world
      typeError (w.typeName v ++ ".__float__ returned non-float (type " ++ w.typeName r ++ ")")
  | none => match ← contentOf v with
    | .float x => pure x
    | .int n => floatOfInt n
    | .bool b => pure (if b then 1.0 else 0.0)
    | .str s => floatFromText v s
    | .bytes b => floatFromText v (octetText b)
    | _ =>
      if (← declared? v "__index__").isSome then floatOfInt (← asIndex v)
      else typeErrorOf v fun t => "float() argument must be a string or a real number, not '" ++
        t ++ "'"

/-- Text from octets in a named encoding. -/
def decode (b : List UInt8) (encoding : String) : Action String := do
  let name := encoding.map fun c => if c == '_' then '-' else c.toLower
  if ["utf-8", "utf8", "u8"].contains name then
    match decodeOctets b with
    | .ok s => pure s
    | .error e => fail "UnicodeDecodeError" e.message
  else if ["latin-1", "iso-8859-1", "latin1"].contains name then pure (octetText b)
  else if name == "ascii" then
    match b.findIdx? (· ≥ 128) with
    | none => pure (octetText b)
    | some i =>
      let octet := String.ofList (Nat.toDigits 16 ((b[i]?).getD 0).toNat)
      fail "UnicodeDecodeError" ("'ascii' codec can't decode byte 0x" ++ octet ++ " in position " ++
        toString i ++ ": ordinal not in range(128)")
  else fail "LookupError" ("unknown encoding: " ++ encoding)

end Conversion

end RuleBench.Execution
