import RuleBench.Data

/-!
# Writing JSON

Data as JSON text in ASCII, on one line or indented. Tuples are written as arrays; what has no JSON
form is refused by name.
-/

namespace RuleBench.Json

open RuleBench.Number RuleBench.Text

/-- Why data has no JSON text. -/
inductive WriteError where
  | noForm (typeName : String)
  | badKey (typeName : String)
  /-- The value raised an error of its own. -/
  | raised (error : ErrorSpec)

def WriteError.message : WriteError → String
  | noForm name => s!"Object of type {name} is not JSON serializable"
  | badKey name => s!"keys must be str, int, float, bool or None, not {name}"
  | raised e => (e.text.toOption).getD ""

/-- A code unit as an escape. -/
def unitEscape (unit : Nat) : List Char := '\\' :: 'u' :: hexDigits 4 unit

/-- A character between quotes: printable ASCII as it is, all else escaped, beyond the basic plane
as a surrogate pair. -/
def written (c : Char) : List Char :=
  if c == '"' then ['\\', '"']
  else if c == '\\' then ['\\', '\\']
  else if c == '\n' then ['\\', 'n']
  else if c == '\r' then ['\\', 'r']
  else if c == '\t' then ['\\', 't']
  else if c == '\x08' then ['\\', 'b']
  else if c == '\x0c' then ['\\', 'f']
  else
    let n := c.toNat
    if 32 ≤ n && n < 127 then [c]
    else if n < 0x10000 then unitEscape n
    else unitEscape (0xD800 + (n - 0x10000) / 0x400) ++ unitEscape (0xDC00 + (n - 0x10000) % 0x400)

def writtenText (s : String) : String :=
  String.ofList ('"' :: s.toList.flatMap written ++ ['"'])

/-- Numbers are written as they are shown, what is no number and infinities as words. -/
def floatStyle : FloatStyle :=
  { FloatStyle.plain with infinityText := "Infinity", nanText := "NaN" }

/-- How the parts of a value are laid out: on one line, or on lines indented by a number of blanks
per level. -/
structure Layout where
  indent : Option Nat
  comma : String
  colon : String

namespace Layout

/-- All on one line, with blanks after separators. -/
def line : Layout := ⟨none, ", ", ": "⟩

/-- All on one line without blanks. -/
def compact : Layout := ⟨none, ",", ":"⟩

def indented (n : Nat) : Layout := ⟨some n, ",", ": "⟩

/-- What stands in front of a part at some level. -/
def newline (l : Layout) (level : Nat) : String :=
  match l.indent with
  | none => ""
  | some n => "\n" ++ String.ofList (List.replicate (n * level) ' ')

/-- Parts between brackets. -/
def join (l : Layout) (level : Nat) (left right : String) (parts : List String) : String :=
  left ++ l.newline (level + 1) ++ (l.comma ++ l.newline (level + 1)).intercalate parts ++
    l.newline level ++ right

end Layout

/-- Whether a list or tuple is taken for empty: its own answer counts when it is laid out on
lines. -/
def takenForEmpty (l : Layout) (d : Data) (items : List Data) : Except WriteError Bool :=
  match l.indent with
  | none => .ok items.isEmpty
  | some _ => match d.length with
    | .ok n => .ok (n == 0)
    | .error e => .error (.raised e)

def keyText (key : Data) : Except WriteError String :=
  match key.content with
  | .str s => .ok s
  | .float x => .ok (floatStyle.render x)
  | .bool b => .ok (if b then "true" else "false")
  | .none => .ok "null"
  | .int n => .ok (toString n)
  | _ => .error (.badKey key.typeName)

mutual

/-- The text of a value at some level of nesting. -/
def writeAt (l : Layout) : Data → Nat → Except WriteError String
  | .none, _ => .ok "null"
  | .bool b, _ => .ok (if b then "true" else "false")
  | .int n, _ => .ok (toString n)
  | .float x, _ => .ok (floatStyle.render x)
  | .str s, _ => .ok (writtenText s)
  | .list xs, level => do
    let parts ← writeItems l xs (level + 1)
    .ok (if parts.isEmpty then "[]" else l.join level "[" "]" parts)
  | .tuple xs, level => do
    let parts ← writeItems l xs (level + 1)
    .ok (if parts.isEmpty then "[]" else l.join level "[" "]" parts)
  | .dict es, level => do
    let parts ← writeEntries l es (level + 1)
    .ok (if parts.isEmpty then "\x7b\x7d" else l.join level "\x7b" "\x7d" parts)
  | .sub name content length, level => do
    let d := Data.sub name content length
    match content with
    | .set _ => .error (.noForm name)
    | .bytes _ => .error (.noForm name)
    | _ =>
      let empty ← match d.items? with
        | some items => takenForEmpty l d items
        | none => .ok false
      if empty then .ok "[]"
      else
        let text ← writeAt l content level
        .ok (if text == "[]" then l.join level "[" "]" [] else text)
  | d, _ => .error (.noForm d.typeName)

def writeItems (l : Layout) : List Data → Nat → Except WriteError (List String)
  | [], _ => .ok []
  | x :: xs, level => do
    let t ← writeAt l x level
    let ts ← writeItems l xs level
    .ok (t :: ts)

def writeEntries (l : Layout) : List (Data × Data) → Nat → Except WriteError (List String)
  | [], _ => .ok []
  | (k, v) :: es, level => do
    let key ← keyText k
    let t ← writeAt l v level
    let ts ← writeEntries l es level
    .ok ((writtenText key ++ l.colon ++ t) :: ts)

end

def write (l : Layout) (d : Data) : Except WriteError String := writeAt l d 0

end RuleBench.Json
