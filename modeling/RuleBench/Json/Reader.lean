import RuleBench.Data
import RuleBench.Number.Decimal

/-!
# Reading JSON

A reader of JSON text that also takes `NaN` and infinities, keeps integers exact and the last of
equal keys, and reports the first fault with its place.
-/

namespace RuleBench.Json

open RuleBench.Number

/-- What is wrong with a text. -/
inductive Fault where
  | byteOrderMark
  | noValue
  | noPropertyName
  | noColon
  | noComma
  | moreData
  | unterminatedText
  | controlCharacter
  | unknownEscape
  | malformedCodeUnit
deriving Repr, DecidableEq

namespace Fault

def message : Fault → String
  | byteOrderMark => "Unexpected UTF-8 BOM (decode using utf-8-sig)"
  | noValue => "Expecting value"
  | noPropertyName => "Expecting property name enclosed in double quotes"
  | noColon => "Expecting ':' delimiter"
  | noComma => "Expecting ',' delimiter"
  | moreData => "Extra data"
  | unterminatedText => "Unterminated string starting at"
  | controlCharacter => "Invalid control character at"
  | unknownEscape => "Invalid \\escape"
  | malformedCodeUnit => "Invalid \\uXXXX escape"

end Fault

/-- Why a text was not read. -/
inductive ReadError where
  | fault (fault : Fault) (offset : Nat)
  /-- An integer of more digits than are converted. -/
  | tooManyDigits (digits : Nat)
  | nestedTooDeep (isObject : Bool)
deriving Repr, DecidableEq

/-- The most digits of an integer. -/
def greatestDigits : Nat := 4300

/-- The deepest nesting that is read. -/
def greatestNesting : Nat := 990

namespace ReadError

/-- Line and column of an offset, both from one. -/
def place (text : String) (offset : Nat) : Nat × Nat :=
  let before := text.toList.take offset
  (before.count '\n' + 1, (before.reverse.takeWhile (· != '\n')).length + 1)

def className : ReadError → String
  | fault _ _ => "JSONDecodeError"
  | tooManyDigits _ => "ValueError"
  | nestedTooDeep _ => "RecursionError"

/-- The wording for a given text. -/
def message (text : String) : ReadError → String
  | fault f offset =>
    let (line, column) := place text offset
    s!"{f.message}: line {line} column {column} (char {offset})"
  | tooManyDigits n =>
    s!"Exceeds the limit (4300 digits) for integer string conversion: value has {n} digits; " ++
      "use sys.set_int_max_str_digits() to increase the limit"
  | nestedTooDeep isObject =>
    "maximum recursion depth exceeded while decoding a JSON " ++
      (if isObject then "object" else "array") ++ " from a unicode string"

end ReadError

/-- What is left of the text, with the offset where it starts. -/
structure Rest where
  chars : List Char
  offset : Nat

namespace Rest

def drop (r : Rest) (n : Nat) : Rest := ⟨r.chars.drop n, r.offset + n⟩

def isSpace (c : Char) : Bool := c == ' ' || c == '\t' || c == '\n' || c == '\r'

def skipSpace (r : Rest) : Rest := r.drop (r.chars.takeWhile isSpace).length

def fail {α : Type} (r : Rest) (f : Fault) : Except ReadError α := .error (.fault f r.offset)

end Rest

/-- The value of a hexadecimal digit. -/
def hexValue? (c : Char) : Option Nat :=
  if c.isDigit then some (c.toNat - 48)
  else if 'a' ≤ c && c ≤ 'f' then some (c.toNat - 87)
  else if 'A' ≤ c && c ≤ 'F' then some (c.toNat - 55)
  else none

/-- The code unit of four hexadecimal digits. -/
def codeUnit? : List Char → Option Nat
  | a :: b :: c :: d :: _ => do
    let x ← hexValue? a
    let y ← hexValue? b
    let z ← hexValue? c
    let w ← hexValue? d
    some (((x * 16 + y) * 16 + z) * 16 + w)
  | _ => none

def simpleEscape? : Char → Option Char
  | '"' => some '"'
  | '\\' => some '\\'
  | '/' => some '/'
  | 'b' => some '\x08'
  | 'f' => some '\x0c'
  | 'n' => some '\n'
  | 'r' => some '\r'
  | 't' => some '\t'
  | _ => none

/-- The second half of a surrogate pair, where one follows. A malformed one is a fault. -/
def lowSurrogate (high : Nat) (cs : List Char) (offset : Nat) :
    Except ReadError (Option Nat) :=
  match cs with
  | '\\' :: 'u' :: rest =>
    if rest.length < 5 then .ok none
    else match codeUnit? rest with
      | none => .error (.fault .malformedCodeUnit (offset + 1))
      | some low =>
        if 0xDC00 ≤ low && low < 0xE000 then
          .ok (some (0x10000 + (high - 0xD800) * 0x400 + (low - 0xDC00)))
        else .ok none
  | _ => .ok none

/-- The text up to the closing quote, backwards in `done`; `start` is the offset of the opening
quote. -/
def readText (start : Nat) : Nat → List Char → Rest → Except ReadError (String × Rest)
  | 0, _, _ => .error (.fault .unterminatedText start)
  | fuel + 1, done, ⟨cs, offset⟩ =>
    match cs with
    | [] => .error (.fault .unterminatedText start)
    | '"' :: rest => .ok (String.ofList done.reverse, ⟨rest, offset + 1⟩)
    | ['\\'] => .error (.fault .unterminatedText start)
    | '\\' :: 'u' :: rest =>
      if rest.length < 5 then .error (.fault .malformedCodeUnit (offset + 1))
      else match codeUnit? rest with
        | none => .error (.fault .malformedCodeUnit (offset + 1))
        | some unit =>
          let after := rest.drop 4
          if 0xD800 ≤ unit && unit < 0xDC00 then do
            match ← lowSurrogate unit after (offset + 6) with
            | some code => readText start fuel (Char.ofNat code :: done) ⟨after.drop 6, offset + 12⟩
            | none => readText start fuel ('\uFFFD' :: done) ⟨after, offset + 6⟩
          else if 0xDC00 ≤ unit && unit < 0xE000 then
            readText start fuel ('\uFFFD' :: done) ⟨after, offset + 6⟩
          else readText start fuel (Char.ofNat unit :: done) ⟨after, offset + 6⟩
    | '\\' :: c :: rest => match simpleEscape? c with
      | some d => readText start fuel (d :: done) ⟨rest, offset + 2⟩
      | none => .error (.fault .unknownEscape offset)
    | c :: rest =>
      if c.toNat < 32 then .error (.fault .controlCharacter offset)
      else readText start fuel (c :: done) ⟨rest, offset + 1⟩

/-- The characters of the number at the front, and whether it is an integer. -/
def scanNumber (cs : List Char) : Option (List Char × Bool) :=
  let (sign, body) := match cs with
    | '-' :: r => (['-'], r)
    | r => ([], r)
  let whole := match body with
    | '0' :: _ => ['0']
    | r => r.takeWhile Char.isDigit
  if whole.isEmpty then none
  else
    let rest := body.drop whole.length
    let fraction := match rest with
      | '.' :: r =>
        let ds := r.takeWhile Char.isDigit
        if ds.isEmpty then [] else '.' :: ds
      | _ => []
    let rest := rest.drop fraction.length
    let exponent := match rest with
      | e :: r =>
        if e == 'e' || e == 'E' then
          let mark := match r with
            | '+' :: _ => ['+']
            | '-' :: _ => ['-']
            | _ => []
          let ds := (r.drop mark.length).takeWhile Char.isDigit
          if ds.isEmpty then [] else e :: mark ++ ds
        else []
      | [] => []
    some (sign ++ whole ++ fraction ++ exponent, fraction.isEmpty && exponent.isEmpty)

/-- The number that characters write. -/
def numberOf (cs : List Char) (isInteger : Bool) : Except ReadError Data :=
  let negative := cs.head? == some '-'
  let digits := if negative then cs.drop 1 else cs
  if isInteger then
    if digits.length > greatestDigits then .error (.tooManyDigits digits.length)
    else
      let n : Int := ofDigits 10 digits
      .ok (.int (if negative then -n else n))
  else
    let x := readDecimal digits
    .ok (.float (if negative then -x else x))

/-- A word at the front. -/
def startsWith (word : String) (cs : List Char) : Bool := word.toList.isPrefixOf cs

/-- The words that are values. -/
def words : List (String × Data) := [
  ("null", .none), ("true", .bool true), ("false", .bool false), ("NaN", .float (0.0 / 0.0)),
  ("Infinity", .float infinity), ("-Infinity", .float (-infinity))]

mutual

/-- The value at the front; `depth` is how many more levels may be opened. -/
def readValue : Nat → Nat → Rest → Except ReadError (Data × Rest)
  | 0, _, r => r.fail .noValue
  | fuel + 1, depth, r =>
    match r.chars with
    | '"' :: _ => do
      let (s, r') ← readText r.offset (r.chars.length + 1) [] (r.drop 1)
      .ok (.str s, r')
    | '[' :: _ =>
      if depth == 0 then .error (.nestedTooDeep false)
      else
        let r' := (r.drop 1).skipSpace
        match r'.chars with
        | ']' :: _ => .ok (.list [], r'.drop 1)
        | _ => do
          let (items, r') ← readItems fuel (depth - 1) r'
          .ok (.list items, r')
    | '\x7b' :: _ =>
      if depth == 0 then .error (.nestedTooDeep true)
      else
        let r' := (r.drop 1).skipSpace
        match r'.chars with
        | '\x7d' :: _ => .ok (.dict [], r'.drop 1)
        | _ => do
          let (entries, r') ← readEntries fuel (depth - 1) r'
          .ok (.ofEntries entries, r')
    | cs => match words.find? (fun w => startsWith w.1 cs) with
      | some (word, value) => .ok (value, r.drop word.length)
      | none => match scanNumber cs with
        | none => r.fail .noValue
        | some (number, isInteger) => do
          let value ← numberOf number isInteger
          .ok (value, r.drop number.length)

/-- At least one item and the closing bracket. -/
def readItems : Nat → Nat → Rest → Except ReadError (List Data × Rest)
  | 0, _, r => r.fail .noValue
  | fuel + 1, depth, r => do
    let (item, r) ← readValue fuel depth r
    let r := r.skipSpace
    match r.chars with
    | ']' :: _ => .ok ([item], r.drop 1)
    | ',' :: _ => do
      let (items, r) ← readItems fuel depth (r.drop 1).skipSpace
      .ok (item :: items, r)
    | _ => r.fail .noComma

/-- At least one entry and the closing brace. -/
def readEntries : Nat → Nat → Rest → Except ReadError (List (Data × Data) × Rest)
  | 0, _, r => r.fail .noPropertyName
  | fuel + 1, depth, r =>
    match r.chars with
    | '"' :: _ => do
      let (key, r) ← readText r.offset (r.chars.length + 1) [] (r.drop 1)
      let r := r.skipSpace
      match r.chars with
      | ':' :: _ => do
        let (value, r) ← readValue fuel depth (r.drop 1).skipSpace
        let r := r.skipSpace
        match r.chars with
        | '\x7d' :: _ => .ok ([(.str key, value)], r.drop 1)
        | ',' :: _ => do
          let (entries, r) ← readEntries fuel depth (r.drop 1).skipSpace
          .ok ((.str key, value) :: entries, r)
        | _ => r.fail .noComma
      | _ => r.fail .noColon
    | _ => r.fail .noPropertyName

end

/-- The one value of a text, with space around it. -/
def read (text : String) : Except ReadError Data :=
  let start : Rest := ⟨text.toList, 0⟩
  if text.toList.head? == some '\uFEFF' then start.fail .byteOrderMark
  else do
    let (value, r) ← readValue (2 * text.length + 2) greatestNesting start.skipSpace
    let r := r.skipSpace
    if r.chars.isEmpty then .ok value else r.fail .moreData

end RuleBench.Json
