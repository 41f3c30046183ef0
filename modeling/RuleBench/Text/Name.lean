import RuleBench.Text.Name.Letters
import RuleBench.Text.Name.Pictures
import RuleBench.Text.Name.Signs
import RuleBench.Text.Ranges

/-!
# Names of characters

A character can be written by its name. Names of syllable blocks and of ideographs follow a rule,
some characters have further names, and all other names are listed, for the scripts and signs that
have a table here.
-/

namespace RuleBench.Text

/-- Names of control characters, and further names of others. -/
def furtherNames : List (String × Nat) := [
  ("NULL", 0x0), ("NUL", 0x0), ("START OF HEADING", 0x1), ("SOH", 0x1), ("START OF TEXT", 0x2),
  ("STX", 0x2), ("END OF TEXT", 0x3), ("ETX", 0x3), ("END OF TRANSMISSION", 0x4), ("EOT", 0x4),
  ("ENQUIRY", 0x5), ("ENQ", 0x5), ("ACKNOWLEDGE", 0x6), ("ACK", 0x6), ("ALERT", 0x7), ("BEL", 0x7),
  ("BACKSPACE", 0x8), ("BS", 0x8), ("CHARACTER TABULATION", 0x9), ("HORIZONTAL TABULATION", 0x9),
  ("HT", 0x9), ("TAB", 0x9), ("LINE FEED", 0xa), ("NEW LINE", 0xa), ("END OF LINE", 0xa),
  ("LF", 0xa), ("NL", 0xa), ("EOL", 0xa), ("LINE TABULATION", 0xb), ("VERTICAL TABULATION", 0xb),
  ("VT", 0xb), ("FORM FEED", 0xc), ("FF", 0xc), ("CARRIAGE RETURN", 0xd), ("CR", 0xd),
  ("SHIFT OUT", 0xe), ("LOCKING-SHIFT ONE", 0xe), ("SO", 0xe), ("SHIFT IN", 0xf),
  ("LOCKING-SHIFT ZERO", 0xf), ("SI", 0xf), ("DATA LINK ESCAPE", 0x10), ("DLE", 0x10),
  ("DEVICE CONTROL ONE", 0x11), ("DC1", 0x11), ("DEVICE CONTROL TWO", 0x12), ("DC2", 0x12),
  ("DEVICE CONTROL THREE", 0x13), ("DC3", 0x13), ("DEVICE CONTROL FOUR", 0x14), ("DC4", 0x14),
  ("NEGATIVE ACKNOWLEDGE", 0x15), ("NAK", 0x15), ("SYNCHRONOUS IDLE", 0x16), ("SYN", 0x16),
  ("END OF TRANSMISSION BLOCK", 0x17), ("ETB", 0x17), ("CANCEL", 0x18), ("CAN", 0x18),
  ("END OF MEDIUM", 0x19), ("EOM", 0x19), ("SUBSTITUTE", 0x1a), ("SUB", 0x1a), ("ESCAPE", 0x1b),
  ("ESC", 0x1b), ("INFORMATION SEPARATOR FOUR", 0x1c), ("FILE SEPARATOR", 0x1c), ("FS", 0x1c),
  ("INFORMATION SEPARATOR THREE", 0x1d), ("GROUP SEPARATOR", 0x1d), ("GS", 0x1d),
  ("INFORMATION SEPARATOR TWO", 0x1e), ("RECORD SEPARATOR", 0x1e), ("RS", 0x1e),
  ("INFORMATION SEPARATOR ONE", 0x1f), ("UNIT SEPARATOR", 0x1f), ("US", 0x1f), ("SP", 0x20),
  ("DELETE", 0x7f), ("DEL", 0x7f), ("NEXT LINE", 0x85), ("NEL", 0x85), ("NBSP", 0xa0),
  ("SHY", 0xad), ("CGJ", 0x34f), ("ZWSP", 0x200b), ("ZWNJ", 0x200c), ("ZWJ", 0x200d),
  ("LRM", 0x200e), ("RLM", 0x200f), ("LRE", 0x202a), ("RLE", 0x202b), ("PDF", 0x202c),
  ("LRO", 0x202d), ("RLO", 0x202e), ("NNBSP", 0x202f), ("MMSP", 0x205f), ("WJ", 0x2060),
  ("VS1", 0xfe00), ("VS16", 0xfe0f), ("BYTE ORDER MARK", 0xfeff), ("BOM", 0xfeff),
  ("ZWNBSP", 0xfeff)]

/-- Looks a name up in rows of consecutive characters. -/
def codePointInRows? (rows : List (Nat × String × List String)) (name : String) : Option Nat :=
  rows.findSome? fun (first, start, rests) =>
    if name.startsWith start then
      (rests.flatMap (·.splitOn ";")).findIdx? (fun rest => start ++
        rest == name) |>.map (first + ·)
    else none

/-- Letters of syllable blocks as they are written in names. -/
def leadingNames : List String :=
  ["G", "GG", "N", "D", "DD", "R", "M", "B", "BB", "S", "SS", "", "J", "JJ", "C", "K", "T", "P",
    "H"]

def vowelNames : List String :=
  ["A", "AE", "YA", "YAE", "EO", "E", "YEO", "YE", "O", "WA", "WAE", "OE", "YO", "U", "WEO", "WE",
    "WI", "YU", "EU", "YI", "I"]

def trailingNames : List String :=
  ["", "G", "GG", "GS", "N", "NJ", "NH", "D", "L", "LG", "LM", "LB", "LS", "LT", "LP", "LH", "M",
    "B", "BS", "S", "SS", "NG", "J", "C", "K", "T", "P", "H"]

/-- Names of syllable blocks, in the order of their code points. -/
def syllableNames : List String :=
  leadingNames.flatMap fun l => vowelNames.flatMap fun v => trailingNames.map fun t => l ++ v ++ t

/-- Code points of ideographs that are named for their code point. -/
def ideographRanges : List (Nat × Nat) := [
  (0x3400, 0x4dbf), (0x4e00, 0x9fff), (0x20000, 0x2a6df), (0x2a700, 0x2b738), (0x2b740, 0x2b81d),
  (0x2b820, 0x2cea1), (0x2ceb0, 0x2ebe0), (0x30000, 0x3134a)]

/-- The ideograph whose code point has these hexadecimal digits. -/
def ideograph? (digits : List Char) : Option Nat :=
  let isDigit (c : Char) : Bool := c.isDigit || ('A' ≤ c && c ≤ 'F')
  let value (c : Char) : Nat := if c.isDigit then c.toNat - 0x30 else c.toNat - 0x37
  if (digits.length == 4 || digits.length == 5) && digits.all isDigit then
    let code := digits.foldl (fun n c => n * 16 + value c) 0
    if inRanges ideographRanges code then some code else none
  else none

/-- Where a name goes on after its beginning. -/
def after? (start name : String) : Option String :=
  if name.startsWith start then some (String.ofList (name.toList.drop start.length)) else none

/-- The character of a name. Listed names may be written in letters of either case. -/
def codePointNamed? (name : String) : Option Nat :=
  match after? "HANGUL SYLLABLE " name, after? "CJK UNIFIED IDEOGRAPH-" name with
  | some s, _ => (syllableNames.findIdx? (· == s)).map (0xac00 + ·)
  | _, some s => ideograph? s.toList
  | none, none =>
    let name := String.ofList (name.toList.map Char.toUpper)
    (furtherNames.lookup name).or
      ([letterNames, signNames, pictureNames].findSome? (codePointInRows? · name))

end RuleBench.Text
