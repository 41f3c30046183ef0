import RuleBench.Execution.Subscript
import RuleBench.Text.Layout
import RuleBench.Validation

/-!
# Formatting

Values in a layout, texts with marked places that values are put into, and texts with percent signs
at such places.
-/

namespace RuleBench.Execution

open RuleBench.Text RuleBench.Number

/-- The floating-point number nearest to an integer, as far as there is one. -/
def floatOfInt (n : Int) : Action Float := do
  let x := Validation.nearestFloat n
  if x.isInf then fail "OverflowError" "int too large to convert to float" else pure x

/-- The class of the error that a bad layout is reported with. -/
def layoutErrorClass : LayoutError → String
  | .characterRange => "OverflowError"
  | .tooLarge => "OverflowError"
  | _ => "ValueError"

def ofLayout {α : Type} (v : Value) (r : Except LayoutError α) : Action α := do
  match r with
  | .ok a => pure a
  | .error e =>
    let t ← typeNameOf v
    fail (layoutErrorClass e) (e.message t)

/-- A value of a known class in a layout. -/
def formatKnown (v : Value) (layout : String) : Action String := do
  if layout.isEmpty then textOf v
  else match ← contentOf v with
    | .str s => do
      let l ← ofLayout v (Layout.read false layout)
      ofLayout v (l.text s)
    | .int n => do
      let l ← ofLayout v (Layout.read true layout)
      ofLayout v (l.integer n Validation.nearestFloat)
    | .bool b => do
      let l ← ofLayout v (Layout.read true layout)
      ofLayout v (l.integer (if b then 1 else 0) Validation.nearestFloat)
    | .float x => do
      let l ← ofLayout v (Layout.read true layout)
      ofLayout v (l.float x)
    | _ => typeErrorOf v fun t => "unsupported format string passed to " ++ t ++ ".__format__"

/-- A value in a layout. -/
def format (v : Value) (layout : String) : Action String := do
  match ← callDeclared? v "__format__" [.str layout] with
  | some answer => match (← Action.world).text? answer with
    | some s => pure s
    | none => typeErrorOf answer fun t => "__format__ must return a str, not " ++ t
  | none => formatKnown v layout

/-- A text with everything beyond ASCII escaped. -/
def escapedAscii (s : String) : String :=
  String.ofList (s.toList.flatMap fun c => if c.toNat < 128 then [c] else Text.escape c.toNat)

/-- A value as one of its three conversions shows it. -/
def convert (conversion : Option Char) (v : Value) : Action Value := do
  match conversion with
  | none => pure v
  | some 's' => return .str (← textOf v)
  | some 'r' => return .str (← shown v)
  | some 'a' => return .str (escapedAscii (← shown v))
  | some c =>
    valueError (if 32 < c.toNat && c.toNat < 127 then
      "Unknown conversion specifier '" ++ String.singleton c ++ "'"
      else "Unknown conversion specifier \\x" ++ String.ofList (Nat.toDigits 16 c.toNat))

/-! ### Marked places -/

/-- A piece of a text with marked places. -/
inductive Piece where
  | text (text : List Char)
  | place (field : List Char) (conversion : Option Char) (layout : List Char)

/-- Why a text with marked places cannot be read. -/
inductive PieceError where
  | singleOpen
  | singleClose
  | openInField
  | unclosed
  | noConversion
  | afterConversion
  | unclosedLayout

def PieceError.message : PieceError → String
  | singleOpen => "Single '\x7b' encountered in format string"
  | singleClose => "Single '\x7d' encountered in format string"
  | openInField => "unexpected '\x7b' in field name"
  | unclosed => "expected '\x7d' before end of string"
  | noConversion => "end of string while looking for conversion specifier"
  | afterConversion => "expected ':' after conversion specifier"
  | unclosedLayout => "unmatched '\x7b' in format spec"

/-- A layout up to the brace that closes the place. -/
def splitLayout : Nat → List Char → Option (List Char × List Char)
  | _, [] => none
  | depth, '\x7b' :: cs => (splitLayout (depth + 1) cs).map fun (l, r) => ('\x7b' :: l, r)
  | 0, '\x7d' :: cs => some ([], cs)
  | depth + 1, '\x7d' :: cs => (splitLayout depth cs).map fun (l, r) => ('\x7d' :: l, r)
  | depth, c :: cs => (splitLayout depth cs).map fun (l, r) => (c :: l, r)

/-- The name of a field up to the character that ends it. -/
def splitField : Bool → List Char → Except PieceError (List Char × Option Char × List Char)
  | _, [] => .ok ([], none, [])
  | inside, c :: cs =>
    if inside then (splitField (c != ']') cs).map fun (f, e, r) => (c :: f, e, r)
    else if c == '\x7b' then .error .openInField
    else if c == '\x7d' || c == ':' || c == '!' then .ok ([], some c, cs)
    else (splitField (c == '[') cs).map fun (f, e, r) => (c :: f, e, r)

/-- The place behind an opening brace, and what follows it. -/
def readPlace (cs : List Char) : Except PieceError (Piece × List Char) := do
  let (field, stop, rest) ← splitField false cs
  let withLayout (conversion : Option Char) (rest : List Char) :
      Except PieceError (Piece × List Char) :=
    match splitLayout 0 rest with
    | some (layout, rest) => .ok (.place field conversion layout, rest)
    | none => .error .unclosedLayout
  match stop, rest with
  | some '\x7d', rest => .ok (.place field none [], rest)
  | some ':', rest => withLayout none rest
  | some _, [] => .error .noConversion
  | some _, [c] => withLayout (some c) []
  | some _, c :: '\x7d' :: rest => .ok (.place field (some c) [], rest)
  | some _, c :: ':' :: rest => withLayout (some c) rest
  | some _, _ => .error .afterConversion
  | none, _ => .error .unclosed

/-- The text before the next place, doubled braces taken for single ones. -/
def readText : List Char → Except PieceError (List Char × Option (List Char))
  | [] => .ok ([], none)
  | '\x7b' :: cs => match cs with
    | '\x7b' :: rest => (readText rest).map fun (t, r) => ('\x7b' :: t, r)
    | [] => .error .singleOpen
    | rest => .ok ([], some rest)
  | '\x7d' :: cs => match cs with
    | '\x7d' :: rest => (readText rest).map fun (t, r) => ('\x7d' :: t, r)
    | _ => .error .singleClose
  | c :: cs => (readText cs).map fun (t, r) => (c :: t, r)

/-- The numbering of places without a name. -/
inductive Numbering where
  | undecided
  | automatic (next : Nat)
  | manual

/-- Where places take their values from. -/
structure FormatSource where
  positional : List Value
  named : String → Action Value

def automaticIndex : Numbering → Action (Nat × Numbering)
  | .undecided => pure (0, .automatic 1)
  | .automatic n => pure (n, .automatic (n + 1))
  | .manual => valueError
      "cannot switch from manual field specification to automatic field numbering"

def manualIndex (n : Nat) : Numbering → Action (Nat × Numbering)
  | .automatic _ => valueError
      "cannot switch from automatic field numbering to manual field specification"
  | _ => pure (n, .manual)

/-- What stands between brackets: a number or a text. -/
def bracketIndex (key : List Char) : Value :=
  if key.all Char.isDigit then .int (ofDigits 10 key) else .str (String.ofList key)

/-- Follows the attributes and subscripts behind a name; `fuel` bounds their number. -/
def followPath : Nat → Value → List Char → Action Value
  | 0, v, _ => pure v
  | fuel + 1, v, cs => do
    match cs with
    | [] => pure v
    | '.' :: cs => do
      let name := cs.takeWhile fun c => c != '.' && c != '['
      if name.isEmpty then valueError "Empty attribute in format string"
      else followPath fuel (← attrOf v (String.ofList name)) (cs.drop name.length)
    | '[' :: cs => do
      let key := cs.takeWhile (· != ']')
      if key.length == cs.length then valueError "Missing ']' in format string"
      else if key.isEmpty then valueError "Empty attribute in format string"
      else followPath fuel (← item v (bracketIndex key)) (cs.drop (key.length + 1))
    | _ => valueError "Only '.' or '[' may follow ']' in format field specifier"

/-- The number of a place, given in front or by the order of places. -/
def placeIndex (n : Numbering) (digits : List Char) : Action (Nat × Numbering) :=
  if digits.isEmpty then automaticIndex n else manualIndex (ofDigits 10 digits) n

/-- The value that a place starts from. -/
def sourceValue (source : FormatSource) (n : Numbering) (first : List Char) :
    Action (Value × Numbering) := do
  if first.all Char.isDigit then
    let (i, n) ← placeIndex n first
    match source.positional[i]? with
    | some v => pure (v, n)
    | none =>
      fail "IndexError" ("Replacement index " ++ toString i ++
        " out of range for positional args tuple")
  else
    let v ← source.named (String.ofList first)
    pure (v, n)

/-- The value of a place. -/
def placeValue (source : FormatSource) (n : Numbering) (field : List Char) :
    Action (Value × Numbering) := do
  let first := field.takeWhile fun c => c != '.' && c != '['
  let rest := field.drop first.length
  let (v, n) ← sourceValue source n first
  let v ← followPath (rest.length + 1) v rest
  pure (v, n)

def pieceError {α : Type} (e : PieceError) : Action α := valueError e.message

/-- Puts values into the places of a text. Layouts may have places too, as deep as the first number;
the second one bounds the number of pieces. -/
def fillPlaces : Nat → Nat → FormatSource → Numbering → List Char → Action (String × Numbering)
  | 0, _, _, _, _ => valueError "Max string recursion exceeded"
  | _, 0, _, n, _ => pure ("", n)
  | depth + 1, fuel + 1, source, n, cs => do
    match readText cs with
    | .error e => pieceError e
    | .ok (text, none) => pure (String.ofList text, n)
    | .ok (text, some rest) => match readPlace rest with
      | .error e => pieceError e
      | .ok (.text t, rest) => do
        let (tail, n) ← fillPlaces (depth + 1) fuel source n rest
        pure (String.ofList (text ++ t) ++ tail, n)
      | .ok (.place field conversion layout, rest) => do
        let (v, n) ← placeValue source n field
        let v ← convert conversion v
        let (layout, n) ←
          if layout.contains '\x7b' || layout.contains '\x7d' then
            fillPlaces depth (layout.length + 1) source n layout
          else pure (String.ofList layout, n)
        let out ← format v layout
        let (tail, n) ← fillPlaces (depth + 1) fuel source n rest
        pure (String.ofList text ++ out ++ tail, n)

/-- A text with its places filled. -/
def formatText (text : String) (source : FormatSource) : Action String := do
  let (out, _) ← fillPlaces 2 (text.length + 1) source .undecided text.toList
  pure out

/-! ### Percent signs -/

/-- The switches of a place behind a percent sign. -/
structure PercentPlace where
  left : Bool := false
  plus : Bool := false
  space : Bool := false
  alternate : Bool := false
  zero : Bool := false
  width : Nat := 0
  precision : Option Nat := none

namespace PercentPlace

def readSwitches (p : PercentPlace) : List Char → PercentPlace × List Char
  | '-' :: cs => readSwitches { p with left := true } cs
  | '+' :: cs => readSwitches { p with plus := true } cs
  | ' ' :: cs => readSwitches { p with space := true } cs
  | '#' :: cs => readSwitches { p with alternate := true } cs
  | '0' :: cs => readSwitches { p with zero := true } cs
  | cs => (p, cs)

def sign (p : PercentPlace) (negative : Bool) : String :=
  if negative then "-" else if p.plus then "+" else if p.space then " " else ""

/-- Fills a text up to the width; zeros come behind the sign of a number. -/
def pad (p : PercentPlace) (numeric : Bool) (before body : String) : String :=
  let missing := p.width - (before.length + body.length)
  let fill (c : Char) : String := String.ofList (List.replicate missing c)
  if p.left then before ++ body ++ fill ' '
  else if p.zero && numeric then before ++ fill '0' ++ body
  else fill ' ' ++ before ++ body

/-- An integer in a base. -/
def integer (p : PercentPlace) (n : Int) (base : Nat) (mark : String) (capital : Bool) : String :=
  let digits := Nat.toDigits base n.natAbs
  let digits := List.replicate (p.precision.getD 0 - digits.length) '0' ++ digits
  let text := String.ofList digits
  let mark := if p.alternate then mark else ""
  p.pad true (p.sign (n < 0) ++ mark) (if capital then text.map Char.toUpper else text)

def float (p : PercentPlace) (x : Float) (type : Char) : String :=
  let layout : Layout := { alternate := p.alternate, precision := p.precision }
  let (digits, rest) := layout.floatParts type.toLower x
  let text := digits ++ rest
  p.pad true (p.sign (isNegative x && !x.isNaN))
    (if type.isUpper then text.map Char.toUpper else text)

end PercentPlace

/-- What is left of the values for the places. -/
structure PercentSource where
  rest : List Value
  /-- The mapping that named places take their values from. -/
  mapping : Option Value

def takeValue (s : PercentSource) : Action (Value × PercentSource) := do
  match s.rest with
  | v :: rest => pure (v, { s with rest := rest })
  | [] => typeError "not enough arguments for format string"

/-- A number behind a percent sign, or a star that takes it from the values. -/
def takeNumber (s : PercentSource) (cs : List Char) :
    Action (Option Int × PercentSource × List Char) := do
  match cs with
  | '*' :: rest =>
    let (v, s) ← takeValue s
    match v with
    | .int n => pure (some n, s, rest)
    | .bool b => pure (some (if b then 1 else 0), s, rest)
    | _ => typeError "* wants int"
  | cs =>
    let (n, rest) := Layout.number cs
    pure (n.map fun n => (n : Int), s, rest)

/-- The real number that a value is, for places of integers. -/
def percentInteger (c : Char) (v : Value) : Action Int := do
  match ← contentOf v with
  | .int n => pure n
  | .bool b => pure (if b then 1 else 0)
  | .float x => match Binary.ofFloat? x with
    | some b => pure b.truncate
    | none =>
      if x.isNaN then valueError "cannot convert float NaN to integer"
      else fail "OverflowError" "cannot convert float infinity to integer"
  | _ => typeErrorOf v fun t =>
      "%" ++ String.singleton c ++ " format: a real number is required, not " ++ t

def percentIndex (c : Char) (v : Value) : Action Int := do
  match (← Action.world).int? v with
  | some n => pure n
  | none => typeErrorOf v fun t =>
      "%" ++ String.singleton c ++ " format: an integer is required, not " ++ t

/-- A value as a floating-point number. -/
def asFloat (v : Value) : Action Float := do
  match ← contentOf v with
  | .float x => pure x
  | .int n => floatOfInt n
  | .bool b => pure (if b then 1.0 else 0.0)
  | _ => typeErrorOf v fun t => "must be real number, not " ++ t

/-- A value as a single character. -/
def percentCharacter (p : PercentPlace) (v : Value) : Action String := do
  match ← contentOf v with
  | .str s =>
    if s.length == 1 then pure (p.pad false "" s) else typeError "%c requires int or char"
  | .int n =>
    if 0 ≤ n && n < 0x110000 then pure (p.pad false "" (String.singleton (Char.ofNat n.toNat)))
    else fail "OverflowError" "%c arg not in range(0x110000)"
  | _ => typeError "%c requires int or char"

/-- A value in a place of a kind. -/
def percentValue (p : PercentPlace) (c : Char) (offset : Nat) (v : Value) : Action String := do
  let text (s : String) : String :=
    let s := match p.precision with
      | some n => String.ofList (s.toList.take n)
      | none => s
    p.pad false "" s
  match c with
  | 's' => return text (← textOf v)
  | 'r' => return text (← shown v)
  | 'a' => return text (escapedAscii (← shown v))
  | 'd' | 'i' | 'u' => return p.integer (← percentInteger c v) 10 "" false
  | 'x' => return p.integer (← percentIndex c v) 16 "0x" false
  | 'X' => return p.integer (← percentIndex c v) 16 "0X" true
  | 'o' => return p.integer (← percentIndex c v) 8 "0o" false
  | 'e' | 'E' | 'f' | 'F' | 'g' | 'G' => return p.float (← asFloat v) c
  | 'c' => percentCharacter p v
  | c =>
    valueError ("unsupported format character '" ++ String.singleton c ++ "' (0x" ++
      String.ofList (Nat.toDigits 16 c.toNat) ++ ") at index " ++ toString offset)

/-- A name in parentheses, which may nest. -/
def splitName : Nat → List Char → Option (List Char × List Char)
  | _, [] => none
  | 0, ')' :: cs => some ([], cs)
  | depth + 1, ')' :: cs => (splitName depth cs).map fun (n, r) => (')' :: n, r)
  | depth, '(' :: cs => (splitName (depth + 1) cs).map fun (n, r) => ('(' :: n, r)
  | depth, c :: cs => (splitName depth cs).map fun (n, r) => (c :: n, r)

/-- Takes the value of a named place from the mapping. -/
def takeNamed (s : PercentSource) (cs : List Char) : Action (PercentSource × List Char) := do
  match cs with
  | '(' :: rest => match s.mapping with
    | none => typeError "format requires a mapping"
    | some m => match splitName 0 rest with
      | none => valueError "incomplete format key"
      | some (name, rest) => do
        let v ← item m (.str (String.ofList name))
        pure ({ s with rest := [v] }, rest)
  | cs => pure (s, cs)

/-- A place with a width; a negative one asks for the left. -/
def PercentPlace.withWidth (p : PercentPlace) : Option Int → PercentPlace
  | some n => if n < 0 then { p with left := true, width := n.natAbs } else { p with width := n.toNat }
  | none => p

/-- Takes the precision of a place. -/
def takePrecision (p : PercentPlace) (s : PercentSource) (cs : List Char) :
    Action (PercentPlace × PercentSource × List Char) := do
  match cs with
  | '.' :: rest => do
    let (n, s, rest) ← takeNumber s rest
    pure ({ p with precision := some ((n.getD 0).toNat) }, s, rest)
  | cs => pure (p, s, cs)

/-- The text behind a mark of length. -/
def behindLength : List Char → List Char
  | 'h' :: rest => rest
  | 'l' :: rest => rest
  | 'L' :: rest => rest
  | cs => cs

/-- One place behind a percent sign: its text, what is left of the values and of the text. -/
def percentPlace (size : Nat) (s : PercentSource) (cs : List Char) :
    Action (String × PercentSource × List Char) := do
  let (s, cs) ← takeNamed s cs
  let (p, cs) := PercentPlace.readSwitches {} cs
  let (width, s, cs) ← takeNumber s cs
  let (p, s, cs) ← takePrecision (p.withWidth width) s cs
  match behindLength cs with
  | [] => valueError "incomplete format"
  | '%' :: rest => pure ("%", s, rest)
  | c :: rest => do
    let (v, s) ← takeValue s
    let text ← percentValue p c (size - rest.length - 1) v
    pure (text, s, rest)

/-- Fills the places behind percent signs; `fuel` bounds their number. -/
def fillPercents (size : Nat) : Nat → PercentSource → List Char → Action (String × PercentSource)
  | 0, s, _ => pure ("", s)
  | fuel + 1, s, cs => do
    let text := cs.takeWhile (· != '%')
    match cs.drop text.length with
    | [] => pure (String.ofList text, s)
    | _ :: rest => do
      let (out, s, rest) ← percentPlace size s rest
      let (tail, s) ← fillPercents size fuel s rest
      pure (String.ofList text ++ out ++ tail, s)

/-- Whether named places can take their values from a value. -/
def World.isMappingLike (w : World) (v : Value) : Bool :=
  match w.content v with
  | .str _ => false
  | .tuple _ => false
  | .range .. => true
  | .bytes _ => true
  | c => match w.obj? c with
    | some (.list _) => true
    | some (.dict _) => true
    | some (.instance t ..) => (w.classAttr? t "__getitem__").isSome
    | _ => false

/-- The values for the places behind percent signs. -/
def World.percentValues (w : World) (values : Value) : List Value :=
  match w.content values with
  | .tuple xs => xs
  | _ => [values]

/-- A text with percent signs and the values for them. -/
def percentText (text : String) (values : Value) : Action String := do
  let w ← Action.world
  let mapping := if w.isMappingLike values then some values else none
  let (out, left) ←
    fillPercents text.length (text.length + 1) ⟨w.percentValues values, mapping⟩ text.toList
  if !left.rest.isEmpty && mapping.isNone then
    typeError "not all arguments converted during string formatting"
  else pure out

end RuleBench.Execution
