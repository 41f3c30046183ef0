import RuleBench.Number.Decimal
import RuleBench.Script.Defect
import RuleBench.Script.Syntax
import RuleBench.Text.Name

/-!
# The text of literals

What the characters of a number or string token stand for. Escapes are decoded over the characters
between the quotes; a malformed one is reported with its position, which is counted in a notation
where every character beyond ASCII takes ten places.
-/

namespace RuleBench.Script

open RuleBench.Number

/-- The most digits of a decimal integer. -/
def maxDigits : Nat := 4300

/-- The constant that a number token stands for. -/
def Literal.ofNumber (text : String) : Except Defect Literal :=
  let cs := (text.toList.filter (· != '_')).map Char.toLower
  match cs with
  | '0' :: 'x' :: r => .ok (.int (ofDigits 16 r))
  | '0' :: 'o' :: r => .ok (.int (ofDigits 8 r))
  | '0' :: 'b' :: r => .ok (.int (ofDigits 2 r))
  | _ =>
    if cs.getLast? == some 'j' then .ok (.imaginary (readDecimal cs.dropLast))
    else if cs.any fun c => c == '.' || c == 'e' then .ok (.float (readDecimal cs))
    else if cs.length > maxDigits then .error (.tooManyDigits cs.length)
    else .ok (.int (ofDigits 10 cs))

/-- The parts of a string token: the letters before the quote, and the characters between the
quotes. -/
structure StringParts where
  letters : List Char
  quotes : Nat
  body : List Char

def StringParts.ofToken (text : String) : StringParts :=
  let cs := text.toList
  let letters := cs.takeWhile fun c => c != '\'' && c != '"'
  let rest := cs.drop letters.length
  let n := match rest with
    | a :: b :: c :: _ :: _ :: _ => if a == b && b == c then 3 else 1
    | _ => 1
  ⟨letters, n, (rest.drop n).take (rest.length - 2 * n)⟩

namespace StringParts

variable (p : StringParts)

def has (c : Char) : Bool := p.letters.any fun d => d.toLower == c

def isRaw : Bool := p.has 'r'
def isBytes : Bool := p.has 'b'
def isFormat : Bool := p.has 'f'

end StringParts

/-- The characters that a letter after a backslash stands for. -/
def simpleEscape : Char → Option Nat
  | '\\' => some 0x5c
  | '\'' => some 0x27
  | '"' => some 0x22
  | 'b' => some 8
  | 'f' => some 12
  | 't' => some 9
  | 'n' => some 10
  | 'r' => some 13
  | 'v' => some 11
  | 'a' => some 7
  | _ => none

def isHex (c : Char) : Bool := c.isDigit || ('a' ≤ c && c ≤ 'f') || ('A' ≤ c && c ≤ 'F')

def isOctal (c : Char) : Bool := '0' ≤ c && c ≤ '7'

/-- Hexadecimal digits of an escape and what is wrong with too few of them. -/
def hexEscape : Char → Option (Nat × String)
  | 'x' => some (2, "truncated \\xXX escape")
  | 'u' => some (4, "truncated \\uXXXX escape")
  | 'U' => some (8, "truncated \\UXXXXXXXX escape")
  | _ => none

/-- Places that a character takes in the notation in which positions are counted. -/
def noteWidth (c : Char) : Nat := if c.toNat < 128 then 1 else 10

def noteWidths (cs : List Char) : Nat := cs.foldl (fun n c => n + noteWidth c) 0

private def escapeDefect (start stop : Nat) (why : String) : Defect :=
  .undecodable "unicode error"
    s!"'unicodeescape' codec can't decode bytes in position {start}-{stop - 1}: {why}"

/-- Decodes the escapes of a text; `at_` is the position reached. -/
def decodeText : Nat → List Char → Nat → Array Nat → Except Defect (Array Nat)
  | 0, _, _, acc => .ok acc
  | _, [], _, acc => .ok acc
  | fuel + 1, c :: r, at_, acc =>
    if c != '\\' then decodeText fuel r (at_ + noteWidth c) (acc.push c.toNat)
    else match r with
      | [] => .ok (acc.push 0x5c)
      | d :: r' =>
        if d.toNat ≥ 128 then decodeText fuel r (at_ + 6) (acc.push 0x5c)
        else if d == '\n' then decodeText fuel r' (at_ + 2) acc
        else match simpleEscape d with
          | some code => decodeText fuel r' (at_ + 2) (acc.push code)
          | none =>
            if isOctal d then
              let ds := (r.take 3).takeWhile isOctal
              decodeText fuel (r.drop ds.length) (at_ + 1 + ds.length) (acc.push (ofDigits 8 ds))
            else match hexEscape d with
              | some (n, why) =>
                let ds := (r'.take n).takeWhile isHex
                let code := ofDigits 16 (ds.map Char.toLower)
                if ds.length < n then .error (escapeDefect at_ (at_ + 2 + ds.length) why)
                else if code > 0x10ffff then
                  .error (escapeDefect at_ (at_ + 2 + n) "illegal Unicode character")
                else decodeText fuel (r'.drop n) (at_ + 2 + n) (acc.push code)
              | none =>
                if d == 'N' then named fuel r' at_ acc
                else decodeText fuel r' (at_ + 2) ((acc.push 0x5c).push d.toNat)
where
  /-- A character given by its name in braces. -/
  named (fuel : Nat) (r : List Char) (at_ : Nat) (acc : Array Nat) :
      Except Defect (Array Nat) :=
    let malformed (stop : Nat) : Except Defect (Array Nat) :=
      .error (escapeDefect at_ stop "malformed \\N character escape")
    match fuel, r with
    | fuel + 1, '\x7b' :: r' =>
      let name := r'.takeWhile (· != '\x7d')
      let rest := r'.drop name.length
      let stop := at_ + 3 + noteWidths name
      if rest.isEmpty then malformed stop
      else if name.isEmpty then malformed stop
      else match Text.codePointNamed? (String.ofList name) with
        | some code => decodeText fuel (rest.drop 1) (stop + 1) (acc.push code)
        | none => .error (escapeDefect at_ (stop + 1) "unknown Unicode character name")
    | _, _ => malformed (at_ + 2)

/-- Decodes the escapes of a byte string; `at_` is the position reached. -/
def decodeBytes : Nat → List Char → Nat → Array UInt8 → Except Defect (Array UInt8)
  | 0, _, _, acc => .ok acc
  | _, [], _, acc => .ok acc
  | fuel + 1, c :: r, at_, acc =>
    if c != '\\' then decodeBytes fuel r (at_ + 1) (acc.push c.toNat.toUInt8)
    else match r with
      | [] => .ok (acc.push 0x5c)
      | d :: r' =>
        if d == '\n' then decodeBytes fuel r' (at_ + 2) acc
        else match simpleEscape d with
          | some code => decodeBytes fuel r' (at_ + 2) (acc.push code.toUInt8)
          | none =>
            if isOctal d then
              let ds := (r.take 3).takeWhile isOctal
              decodeBytes fuel (r.drop ds.length) (at_ + 1 + ds.length)
                (acc.push (ofDigits 8 ds).toUInt8)
            else if d == 'x' then
              let ds := (r'.take 2).takeWhile isHex
              if ds.length < 2 then
                .error (.undecodable "value error" s!"invalid \\x escape at position {at_}")
              else decodeBytes fuel (r'.drop 2) (at_ + 4)
                (acc.push (ofDigits 16 (ds.map Char.toLower)).toUInt8)
            else decodeBytes fuel r' (at_ + 2) ((acc.push 0x5c).push d.toNat.toUInt8)

/-- The code points of the characters of a text part. -/
def textCodes (raw : Bool) (cs : List Char) : Except Defect (List Nat) :=
  if raw || !cs.contains '\\' then .ok (cs.map Char.toNat)
  else (decodeText (cs.length + 1) cs 0 #[]).map Array.toList

/-- The bytes of the characters of a byte string. -/
def byteCodes (raw : Bool) (cs : List Char) : Except Defect (List UInt8) :=
  if cs.any (·.toNat ≥ 128) then .error .nonAsciiBytes
  else if raw || !cs.contains '\\' then .ok (cs.map fun c => c.toNat.toUInt8)
  else (decodeBytes (cs.length + 1) cs 0 #[]).map Array.toList

/-- The text constant with these code points. -/
def Literal.ofCodes (codes : List Nat) (marked : Bool) : Literal :=
  if codes.all fun n => n.isValidChar then
    .str (String.ofList (codes.map Char.ofNat)) marked
  else .wide codes marked

end RuleBench.Script
