import RuleBench.Text.Printable

/-!
# Quoted text

The text of a string or of bytes between quotes, with escapes for what cannot be shown. Text is
given as code points, so that unpaired surrogates can be written too.
-/

namespace RuleBench.Text

/-- At least `width` hexadecimal digits in lower case. -/
def hexDigits (width n : Nat) : List Char :=
  let digits := Nat.toDigits 16 n
  List.replicate (width - digits.length) '0' ++ digits

/-- The escape of a code point: the three short ones, else the least of two, four or eight digits
that hold it. -/
def escape (code : Nat) : List Char :=
  if code == 9 then ['\\', 't']
  else if code == 10 then ['\\', 'n']
  else if code == 13 then ['\\', 'r']
  else if code == 92 then ['\\', '\\']
  else if code < 0x100 then '\\' :: 'x' :: hexDigits 2 code
  else if code < 0x10000 then '\\' :: 'u' :: hexDigits 4 code
  else '\\' :: 'U' :: hexDigits 8 code

/-- A code point as it is shown: the backslash and all that is not printable are escaped. -/
def shown (code : Nat) : List Char :=
  if code == 92 || !isPrintableCode code then escape code else [Char.ofNat code]

/-- Double quotes serve text that has single quotes and no double ones. -/
def quoteFor (codes : List Nat) : Char :=
  if codes.contains 39 && !codes.contains 34 then '"' else '\''

/-- The quote is escaped where it stands in the text. -/
def quotedBody (quote : Char) (codes : List Nat) : List Char :=
  codes.flatMap fun c => if c == quote.toNat then ['\\', quote] else shown c

/-- Text between the quote that suits it. -/
def quotedCodes (codes : List Nat) : String :=
  let q := quoteFor codes
  String.ofList (q :: quotedBody q codes ++ [q])

/-- The code points of a text. -/
def codesOf (s : String) : List Nat := s.toList.map Char.toNat

/-- A text between the quote that suits it. -/
def quoted (s : String) : String := quotedCodes (codesOf s)

/-- Bytes between quotes: what is no printable ASCII is escaped. -/
def quotedBytes (bytes : List UInt8) : String :=
  let codes := bytes.map UInt8.toNat
  let q := quoteFor codes
  let body := codes.flatMap fun c =>
    if c == q.toNat then ['\\', q] else if c < 127 then shown c else escape c
  String.ofList ('b' :: q :: body ++ [q])

/-- Text with everything beyond printable ASCII escaped. -/
def quotedAscii (s : String) : String :=
  String.ofList ((quoted s).toList.flatMap fun c => if c.toNat < 128 then [c] else escape c.toNat)

end RuleBench.Text
