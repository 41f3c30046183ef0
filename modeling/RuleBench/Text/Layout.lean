import RuleBench.Number.Decimal
import RuleBench.Number.Rounded

/-!
# Laying out values

A layout says how wide a value is written, where it stands in that width, what fills the rest, and
how its digits are grouped. It is written as a short text:
`[[fill]align][sign][#][0][width][,][.places][type]`.
-/

namespace RuleBench.Text

open RuleBench.Number

inductive Align where
  | left
  | right
  | center
  /-- Between the sign and the digits. -/
  | inside
deriving Repr, BEq, DecidableEq

namespace Align

def ofChar? : Char → Option Align
  | '<' => some left
  | '>' => some right
  | '^' => some center
  | '=' => some inside
  | _ => none

end Align

structure Layout where
  fill : Option Char := none
  align : Option Align := none
  sign : Option Char := none
  noNegativeZero : Bool := false
  alternate : Bool := false
  zero : Bool := false
  width : Nat := 0
  grouping : Option Char := none
  precision : Option Nat := none
  type : Option Char := none
deriving Repr

/-- Why a text is no layout, or a layout does not suit a value. -/
inductive LayoutError where
  | invalid (text : String)
  | missingPrecision
  | bothGroupings
  | noGrouping (grouping type : Char)
  | unknownType (type : Char)
  | signForText (space : Bool)
  | alternateForText
  | zeroForText
  | insideForText
  | precisionForInteger
  | zeroForInteger
  | signForCharacter
  | alternateForCharacter
  | characterRange
  | tooLarge
deriving Repr

namespace LayoutError

/-- The wording, for a value of a class. -/
def message (typeName : String) : LayoutError → String
  | invalid text =>
    "Invalid format specifier '" ++ text ++ "' for object of type '" ++ typeName ++ "'"
  | missingPrecision => "Format specifier missing precision"
  | bothGroupings => "Cannot specify both ',' and '_'."
  | noGrouping g t =>
    "Cannot specify '" ++ String.singleton g ++ "' with '" ++ String.singleton t ++ "'."
  | unknownType t =>
    let code := if 32 < t.toNat && t.toNat < 128 then String.singleton t
      else "\\x" ++ String.ofList (Nat.toDigits 16 t.toNat)
    "Unknown format code '" ++ code ++ "' for object of type '" ++ typeName ++ "'"
  | signForText space =>
    (if space then "Space" else "Sign") ++ " not allowed in string format specifier"
  | alternateForText => "Alternate form (#) not allowed in string format specifier"
  | zeroForText => "Negative zero coercion (z) not allowed in string format specifier"
  | insideForText => "'=' alignment not allowed in string format specifier"
  | precisionForInteger => "Precision not allowed in integer format specifier"
  | zeroForInteger =>
    "Negative zero coercion (z) not allowed in format specifier with integer presentation type"
  | signForCharacter => "Sign not allowed with integer format specifier 'c'"
  | alternateForCharacter => "Alternate form (#) not allowed with integer format specifier 'c'"
  | characterRange => "%c arg not in range(0x110000)"
  | tooLarge => "int too large to convert to float"

end LayoutError

namespace Layout

/-- Splits leading decimal digits off. -/
def number (cs : List Char) : Option Nat × List Char :=
  let digits := cs.takeWhile Char.isDigit
  (if digits.isEmpty then none else some (ofDigits 10 digits), cs.drop digits.length)

def readAlign (l : Layout) (cs : List Char) : Layout × List Char :=
  match cs with
  | f :: a :: rest => match Align.ofChar? a with
    | some align => ({ l with fill := some f, align := some align }, rest)
    | none => match Align.ofChar? f with
      | some align => ({ l with align := some align }, a :: rest)
      | none => (l, cs)
  | [a] => match Align.ofChar? a with
    | some align => ({ l with align := some align }, [])
    | none => (l, cs)
  | [] => (l, cs)

def readSign (l : Layout) : List Char → Layout × List Char
  | c :: rest =>
    if c == '+' || c == '-' || c == ' ' then ({ l with sign := some c }, rest) else (l, c :: rest)
  | [] => (l, [])

/-- Takes one character that stands for a switch. -/
def readSwitch (c : Char) (set : Layout → Layout) (l : Layout) : List Char → Layout × List Char
  | d :: rest => if d == c then (set l, rest) else (l, d :: rest)
  | [] => (l, [])

/-- A leading zero fills numbers with zeros behind their sign. -/
def readZero (numeric : Bool) (l : Layout) (cs : List Char) : Layout × List Char :=
  match cs with
  | '0' :: rest =>
    if l.fill.isSome then (l, cs)
    else
      let align := if l.align.isNone && numeric then some .inside else l.align
      ({ l with fill := some '0', align := align, zero := true }, rest)
  | _ => (l, cs)

def readGrouping (l : Layout) : List Char → Except LayoutError (Layout × List Char)
  | ',' :: rest =>
    if rest.head? == some '_' then .error .bothGroupings
    else if rest.head? == some ',' then .error (.noGrouping ',' ',')
    else .ok ({ l with grouping := some ',' }, rest)
  | '_' :: rest =>
    if rest.head? == some ',' then .error .bothGroupings
    else if rest.head? == some '_' then .error (.noGrouping '_' '_')
    else .ok ({ l with grouping := some '_' }, rest)
  | cs => .ok (l, cs)

def readPrecision (l : Layout) : List Char → Except LayoutError (Layout × List Char)
  | '.' :: rest => match number rest with
    | (some n, rest) => .ok ({ l with precision := some n }, rest)
    | (none, _) => .error .missingPrecision
  | cs => .ok (l, cs)

def checkGrouping (numeric : Bool) (l : Layout) : Except LayoutError Unit :=
  match l.grouping with
  | none => .ok ()
  | some g =>
    let t := l.type.getD (if numeric then 'd' else 's')
    if "defgEG%F".contains t then .ok ()
    else if "boxX".contains t && g == '_' then .ok ()
    else .error (.noGrouping g t)

/-- Reads a layout; values that are numbers stand at the right. -/
def read (numeric : Bool) (text : String) : Except LayoutError Layout := do
  let (l, cs) := readAlign {} text.toList
  let (l, cs) := readSign l cs
  let (l, cs) := readSwitch 'z' (fun l => { l with noNegativeZero := true }) l cs
  let (l, cs) := readSwitch '#' (fun l => { l with alternate := true }) l cs
  let (l, cs) := readZero numeric l cs
  let (width, cs) := number cs
  let l := { l with width := width.getD 0 }
  let (l, cs) ← readGrouping l cs
  let (l, cs) ← readPrecision l cs
  match cs with
  | [] =>
    l.checkGrouping numeric
    return l
  | [t] =>
    let l := { l with type := some t }
    l.checkGrouping numeric
    return l
  | _ => .error (.invalid text)

/-- Fills a text up to the width. -/
def pad (l : Layout) (default : Align) (before body : String) : String :=
  let missing := l.width - (before.length + body.length)
  let fill (n : Nat) : String := String.ofList (List.replicate n (l.fill.getD ' '))
  match l.align.getD default with
  | .left => before ++ body ++ fill missing
  | .right => fill missing ++ before ++ body
  | .center => fill (missing / 2) ++ before ++ body ++ fill (missing - missing / 2)
  | .inside => before ++ fill missing ++ body

/-- Digits in groups, counted from the last. -/
def grouped (separator : Char) (size : Nat) (digits : List Char) : List Char :=
  let rec go (left : Nat) : List Char → List Char
    | [] => []
    | c :: cs => if left == 0 then separator :: c :: go (size - 1) cs else c :: go (left - 1) cs
  (go size digits.reverse).reverse

/-- Groups digits, with zeros in front of them until they take a width. -/
def groupedTo (separator : Char) (size width : Nat) : Nat → List Char → List Char
  | 0, digits => grouped separator size digits
  | fuel + 1, digits =>
    let out := grouped separator size digits
    if out.length ≥ width then out else groupedTo separator size width fuel ('0' :: digits)

def signText (l : Layout) (negative : Bool) : String :=
  if negative then "-"
  else match l.sign with
    | some '+' => "+"
    | some ' ' => " "
    | _ => ""

/-- A number from its sign, the mark of its base, its digits and what follows them. -/
def numeral (l : Layout) (negative : Bool) (mark digits rest : String) (size : Nat := 3) : String :=
  let before := l.signText negative ++ mark
  let digits := match l.grouping with
    | none => digits
    | some separator =>
      let zeros := l.fill == some '0' && l.align == some .inside
      let width := if zeros then l.width - (before.length + rest.length) else 0
      String.ofList (groupedTo separator size width width digits.toList)
  l.pad .right before (digits ++ rest)

/-- A text in a layout. -/
def text (l : Layout) (s : String) : Except LayoutError String :=
  if l.sign.isSome then .error (.signForText (l.sign == some ' '))
  else if l.noNegativeZero then .error .zeroForText
  else if l.alternate then .error .alternateForText
  else if l.align == some .inside then .error .insideForText
  else match l.type with
    | some 's' | none =>
      let s := match l.precision with
        | some n => String.ofList (s.toList.take n)
        | none => s
      .ok (l.pad .left "" s)
    | some t => .error (.unknownType t)

/-- The digits of a number without its sign, and what follows them. -/
def floatParts (l : Layout) (type : Char) (x : Float) : String × String :=
  let split (text : String) : String × String :=
    let whole := text.toList.takeWhile Char.isDigit
    (String.ofList whole, String.ofList (text.toList.drop whole.length))
  let pointed (text : String) : String :=
    if l.alternate && !text.any (· == '.') then
      let (digits, rest) := split text
      digits ++ "." ++ rest
    else text
  let percent := type == '%'
  let x := if percent then x * 100.0 else x
  match Binary.ofFloat? x with
  | none => (if x.isNaN then "nan" else "inf", if percent then "%" else "")
  | some b =>
    let places := l.precision.getD 6
    let digits := if places == 0 then 1 else places
    let text := match type with
      | 'e' => b.scientificText places
      | 'f' => b.fixedText places
      | '%' => b.fixedText places
      | 'g' => b.generalText digits (digits - 1) l.alternate
      | _ => match l.precision with
        | none => floatText (if isNegative x then -x else x)
        | some _ =>
          let text := b.generalText digits (digits - 2) l.alternate
          if text.any (fun c => c == '.' || c == 'e') then text else text ++ ".0"
    let (whole, rest) := split (pointed text)
    (whole, rest ++ (if percent then "%" else ""))

/-- A floating-point number in a layout. -/
def float (l : Layout) (x : Float) : Except LayoutError String :=
  let write (type : Char) (capital : Bool) : Except LayoutError String :=
    let (digits, rest) := l.floatParts type x
    let zeroOnly := (digits ++ rest).all fun c => !c.isDigit || c == '0'
    let negative := isNegative x && !x.isNaN && !(l.noNegativeZero && zeroOnly)
    let raise (s : String) := if capital then s.map Char.toUpper else s
    .ok (l.numeral negative "" (raise digits) (raise rest))
  match l.type with
  | none => write 'r' false
  | some 'n' => write 'g' false
  | some t =>
    if "efg%".contains t then write t false
    else if "EFG".contains t then write t.toLower true
    else .error (.unknownType t)

/-- An integer in a layout; kinds of floating-point numbers take the nearest one. -/
def integer (l : Layout) (n : Int) (nearest : Int → Float) : Except LayoutError String :=
  let based (base : Nat) (mark : String) (capital : Bool) (size : Nat) :
      Except LayoutError String :=
    if l.precision.isSome then .error .precisionForInteger
    else if l.noNegativeZero then .error .zeroForInteger
    else
      let digits := String.ofList (Nat.toDigits base n.natAbs)
      let digits := if capital then digits.map Char.toUpper else digits
      .ok (l.numeral (n < 0) (if l.alternate then mark else "") digits "" size)
  match l.type with
  | none => based 10 "" false 3
  | some 'd' => based 10 "" false 3
  | some 'n' => based 10 "" false 3
  | some 'b' => based 2 "0b" false 4
  | some 'o' => based 8 "0o" false 4
  | some 'x' => based 16 "0x" false 4
  | some 'X' => based 16 "0X" true 4
  | some 'c' =>
    if l.precision.isSome then .error .precisionForInteger
    else if l.sign.isSome then .error .signForCharacter
    else if l.alternate then .error .alternateForCharacter
    else if n < 0 || n ≥ 0x110000 then .error .characterRange
    else .ok (l.pad .left "" (String.singleton (Char.ofNat n.toNat)))
  | some t =>
    if "eEfFgG%".contains t then
      let x := nearest n
      if Binary.ofFloat? x |>.isNone then .error .tooLarge else l.float x
    else .error (.unknownType t)

end Layout

end RuleBench.Text
