import RuleBench.Script.Source
import RuleBench.Script.Token
import RuleBench.Text.Identifier
import RuleBench.Text.Printable

/-!
# Reading tokens

`Tokens.ofSource` cuts a source into tokens: indentation becomes `indent` and `dedent` marks,
brackets suspend lines, comments and blank lines vanish. Brackets are matched here, so that a
closing bracket without its opening one stops the reading.
-/

namespace RuleBench.Script

open RuleBench.Text

namespace Lexer

/-- How far tabs go: to a multiple of eight, and for the check of consistency by one. -/
structure Indent where
  width : Nat
  strict : Nat
deriving BEq, DecidableEq, Inhabited

/-- What the scanner knows between two tokens. -/
structure State where
  pos : Nat
  line : Nat
  lineStart : Nat
  /-- Start of the text that a misplaced continuation is counted from. -/
  bufferStart : Nat
  atLineStart : Bool
  indents : List Indent
  /-- Indents to deliver, or dedents when negative. -/
  pending : Int
  brackets : List OpenBracket

/-- Deepest nesting of brackets. -/
def maxBrackets : Nat := 200

/-- Deepest nesting of indented blocks, the outermost level included. -/
def maxIndents : Nat := 100

variable (src : Source)

/-- Bytes between the start of the current line and an index. -/
def State.column (st : State) (i : Nat) : Nat := src.offset i - src.offset st.lineStart

/-- A stop seen by the scanner, after the characters up to `i` of the current line. -/
def State.stopAt (st : State) (i : Nat) (d : Defect) : Stop :=
  ⟨d, st.line, i - st.lineStart, true, st.brackets.head?⟩

/-- Goes on to the line that starts at the current position, if there is one. `free` says that no
token is under way. -/
def State.enterLine (st : State) (free : Bool) : State :=
  if st.pos < src.size then
    { st with
      line := st.line + 1
      lineStart := st.pos
      bufferStart := if free then st.pos else st.bufferStart }
  else st

/-- After a backslash at index `i` a line must end and another follow. -/
def State.continueLine (st : State) (i : Nat) : Except Stop State :=
  if src.char? (i + 1) == some '\n' then
    let st' := { st with pos := i + 2 }
    if i + 2 < src.size then
      .ok (st'.enterLine src false)
    else
      match st.brackets with
      | b :: _ => .error ⟨.neverClosed b.char, b.line, b.col + 1, false, some b⟩
      | [] => .error ⟨.unexpectedEnd, st.line, i + 2 - st.lineStart, false, none⟩
  else
    .error ⟨.afterContinuation, st.line, i + 2 - st.bufferStart, false, st.brackets.head?⟩

/-- The indentation of a line: its two measures, that of the first continued line if the line is
continued, and where it ends. -/
def measure (fuel : Nat) (st : State) (here : Indent) (fixed : Nat) :
    Except Stop (Indent × Nat × State) :=
  match fuel with
  | 0 => .ok (here, fixed, st)
  | fuel + 1 => match src.char? st.pos with
    | some ' ' =>
      measure fuel { st with pos := st.pos + 1 } ⟨here.width + 1, here.strict + 1⟩ fixed
    | some '\t' => measure fuel { st with pos := st.pos + 1 }
        ⟨(here.width / 8 + 1) * 8, here.strict + 1⟩ fixed
    | some '\x0c' => measure fuel { st with pos := st.pos + 1 } ⟨0, 0⟩ fixed
    | some '\\' => do
      let st' ← st.continueLine src st.pos
      measure fuel { st' with bufferStart := st'.lineStart } here
        (if fixed == 0 then here.width else fixed)
    | _ => .ok (here, fixed, st)

/-- Leaves blocks until the width fits one. -/
def unindent (width : Nat) : List Indent → Int → List Indent × Int
  | [], n => ([], n)
  | [i], n => ([i], n)
  | i :: rest, n => if width < i.width then unindent width rest (n - 1) else (i :: rest, n)

/-- The last character index of the current line, its line feed included. -/
def State.lineEnd (st : State) : Nat :=
  let stop := src.skipWhile (· != '\n') st.lineStart
  if stop < src.size then stop + 1 else stop

/-- Compares the indentation of a line with that of the blocks around it. -/
def State.indent (st : State) (here : Indent) : Except Stop State :=
  let tabs : Except Stop State := .error ⟨.inconsistentTabs, st.line, 1, false, none⟩
  match st.indents with
  | [] => .ok st
  | top :: _ =>
    if here.width == top.width then
      if here.strict == top.strict then .ok st else tabs
    else if here.width > top.width then
      if st.indents.length ≥ maxIndents then
        .error ⟨.tooManyIndents, st.line, 1, false, none⟩
      else if here.strict ≤ top.strict then tabs
      else .ok { st with pending := st.pending + 1, indents := here :: st.indents }
    else
      let (rest, pending) := unindent here.width st.indents st.pending
      match rest with
      | [] => .ok st
      | i :: _ =>
        if here.width != i.width then
          .error ⟨.inconsistentUnindent, st.line, st.lineEnd src - st.lineStart, false, none⟩
        else if here.strict != i.strict then tabs
        else .ok { st with pending, indents := rest }

/-- A token of the current line between two indexes. -/
def State.token (st : State) (kind : TokenKind) (start stop : Nat) : Token :=
  { kind
    text := String.ofList (src.slice start stop)
    loc := ⟨st.line, st.column src start, st.line, st.column src stop⟩
    located := true
    cursor := st.column src stop
    level := st.brackets.length }

/-- A token without text. -/
def State.mark (st : State) (kind : TokenKind) : Token :=
  { kind
    text := ""
    loc := ⟨st.line, 0, st.line, 0⟩
    located := false
    cursor := st.column src st.pos
    level := st.brackets.length }

def isDigit (c : Char) : Bool := c.isDigit

def isHexDigit (c : Char) : Bool :=
  c.isDigit || ('a' ≤ c && c ≤ 'f') || ('A' ≤ c && c ≤ 'F')

/-- ASCII letters, digits, the underscore, and everything beyond ASCII. -/
def mayBePart (c : Char) : Bool := c.isAlphanum || c == '_' || c.toNat ≥ 128

def mayStart (c : Char) : Bool := c.isAlpha || c == '_' || c.toNat ≥ 128

/-- Whether the text at an index goes on with these characters. -/
def follows (i : Nat) : List Char → Bool
  | [] => true
  | c :: r => src.char? i == some c && follows (i + 1) r

/-- A number must not run into a name, unless it is one of the words that may follow a value. -/
def State.endNumber (st : State) (i : Nat) (kind : String) : Except Stop Nat :=
  match src.char? i with
  | none => .ok i
  | some c =>
    let word := ["and", "else", "for", "if", "in", "is", "not", "or"].any
      fun w => follows src i w.toList
    if word then .ok i
    else if mayBePart c then .error (st.stopAt i (.invalidNumber kind))
    else .ok i

/-- Digits, with single underscores between them. -/
def State.digits (st : State) (p : Char → Bool) (kind : String) (fuel i : Nat) :
    Except Stop Nat :=
  match fuel with
  | 0 => .ok i
  | fuel + 1 =>
    let j := src.skipWhile p i
    if src.char? j == some '_' then
      match src.char? (j + 1) with
      | some c => if p c then st.digits p kind fuel (j + 1)
        else .error (st.stopAt (j + 1) (.invalidNumber kind))
      | none => .error (st.stopAt (j + 1) (.invalidNumber kind))
    else .ok j

/-- An integer with a base mark, whose digits start at `i`. -/
def State.based (st : State) (p : Char → Bool) (kind : String) (fuel i : Nat) :
    Except Stop Nat :=
  match fuel with
  | 0 => .ok i
  | fuel + 1 =>
    let i := if src.char? i == some '_' then i + 1 else i
    match src.char? i with
    | none => .error (st.stopAt i (.invalidNumber kind))
    | some c =>
      if !p c then
        if c.isDigit then .error (st.stopAt (i + 1) (.invalidDigit c kind))
        else .error (st.stopAt i (.invalidNumber kind))
      else
        let j := src.skipWhile p i
        match src.char? j with
        | some '_' => st.based p kind fuel j
        | some d =>
          if d.isDigit then .error (st.stopAt (j + 1) (.invalidDigit d kind))
          else st.endNumber src j kind
        | none => .ok j

/-- The end of a number after its integer part: fraction, exponent, imaginary mark. -/
def State.numberTail (st : State) (i : Nat) (fraction : Bool) : Except Stop Nat := do
  let decimal := st.digits src isDigit "decimal" src.size
  let at_ (j : Nat) : Bool := (src.char? j).any isDigit
  let i ← if fraction then (if at_ i then decimal i else pure i) else pure i
  let finish (i : Nat) : Except Stop Nat :=
    match src.char? i with
    | some 'j' | some 'J' => st.endNumber src (i + 1) "imaginary"
    | _ => st.endNumber src i "decimal"
  match src.char? i with
  | some 'e' | some 'E' =>
    match src.char? (i + 1) with
    | some '+' | some '-' =>
      if at_ (i + 2) then do finish (← decimal (i + 2))
      else .error (st.stopAt (i + 2) (.invalidNumber "decimal"))
    | _ =>
      if at_ (i + 1) then do finish (← decimal (i + 1))
      else do
        let _ ← st.endNumber src i "decimal"
        pure i
  | _ => finish i

/-- The index after the number that starts at `i`. -/
def State.number (st : State) (i : Nat) : Except Stop Nat := do
  let decimal := st.digits src isDigit "decimal" src.size
  if src.char? i == some '0' then
    match src.char? (i + 1) with
    | some 'x' | some 'X' => st.based src isHexDigit "hexadecimal" src.size (i + 2)
    | some 'o' | some 'O' =>
      st.based src (fun c => '0' ≤ c && c < '8') "octal" src.size (i + 2)
    | some 'b' | some 'B' =>
      st.based src (fun c => c == '0' || c == '1') "binary" src.size (i + 2)
    | _ =>
      let zeros ← zerosFrom src.size i
      let nonzero := (src.char? zeros).any isDigit
      let j ← if nonzero then decimal zeros else pure zeros
      match src.char? j with
      | some '.' => st.numberTail src (j + 1) true
      | some 'e' | some 'E' | some 'j' | some 'J' => st.numberTail src j false
      | _ =>
        if nonzero then
          .error ⟨.leadingZeros, st.line, st.column src i + 1, true, st.brackets.head?⟩
        else st.endNumber src j "decimal"
  else
    let j ← decimal i
    if src.char? j == some '.' then st.numberTail src (j + 1) true
    else st.numberTail src j false
where
  /-- Skips zeros, with single underscores before digits. -/
  zerosFrom (fuel i : Nat) : Except Stop Nat :=
    match fuel with
    | 0 => .ok i
    | fuel + 1 => match src.char? i with
      | some '0' => zerosFrom fuel (i + 1)
      | some '_' =>
        if (src.char? (i + 1)).any isDigit then
          if src.char? (i + 1) == some '0' then zerosFrom fuel (i + 1) else .ok (i + 1)
        else .error (st.stopAt (i + 1) (.invalidNumber "decimal"))
      | _ => .ok i

/-- The end of the text of a string, and the state there: `seen` closing quotes stand before `i`. -/
def scanString (quote : Char) (triple : Bool) :
    Nat → Nat → Nat → State → Option Nat × State
  | 0, _, _, st => (none, st)
  | fuel + 1, i, seen, st =>
    if seen == (if triple then 3 else 1) then (some i, st)
    else match src.char? i with
      | none => (none, st)
      | some c =>
        if c == '\n' && !triple then (none, st)
        else
          let step (i : Nat) (c : Char) (st : State) : State :=
            if c == '\n' then { st with pos := i + 1 }.enterLine src false else st
          if c == quote then scanString quote triple fuel (i + 1) (seen + 1) st
          else if c == '\\' then
            match src.char? (i + 1) with
            | none => (none, st)
            | some d => scanString quote triple fuel (i + 2) 0 (step (i + 1) d st)
          else scanString quote triple fuel (i + 1) 0 (step i c st)

/-- The string whose prefix starts at `start` and whose quote stands at `i`. -/
def State.string (st : State) (start i : Nat) (quote : Char) : Except Stop (Token × State) :=
  let is (j : Nat) : Bool := src.char? j == some quote
  let triple := is (i + 1) && is (i + 2)
  let (stop, st') :=
    if triple then scanString src quote true (src.size + 1) (i + 3) 0 st
    else if is (i + 1) then (some (i + 2), st)
    else scanString src quote false (src.size + 1) (i + 1) 0 st
  match stop with
  | none =>
    let d := if triple then Defect.unterminatedTripleString st'.line
      else Defect.unterminatedString st'.line
    .error (st.stopAt (start + 1) d)
  | some j =>
    let t := st.token src .string start j
    .ok ({ t with
      loc := ⟨st.line, st.column src start, st'.line, st'.column src j⟩
      cursor := st'.column src j }, { st' with pos := j })

/-- Whether a word may stand before a quote: letters of raw, byte, format and marked strings. -/
def isStringPrefix (word : List Char) : Bool :=
  [[], ['r'], ['b'], ['f'], ['u'], ['r', 'b'], ['b', 'r'], ['r', 'f'], ['f', 'r']].contains
    (word.map Char.toLower)

/-- The quote that follows a string prefix at `i`, with its index. -/
def quoteAfterPrefix (i : Nat) : Option (Nat × Char) :=
  [0, 1, 2].findSome? fun n =>
    match src.char? (i + n) with
    | some c =>
      if (c == '\'' || c == '"') && isStringPrefix (src.slice i (i + n)) then some (i + n, c)
      else none
    | none => none

def State.word (st : State) (i : Nat) : Except Stop (Token × State) :=
  let j := src.skipWhile mayBePart i
  let cs := src.slice i j
  let good := identifierPrefix cs
  if cs.all (·.toNat < 128) || good == cs.length then
    let text := String.ofList cs
    let kind := if keywords.contains text then TokenKind.symbol else .name
    .ok (st.token src kind i j, { st with pos := j })
  else
    let c := cs.getD good ' '
    .error (st.stopAt (i + good + 1)
      (if isPrintable c then .invalidCharacter c else .invalidUnprintable c))

def operators3 : List String := ["**=", "...", "//=", "<<=", ">>="]

def operators2 : List String :=
  ["!=", "%=", "&=", "**", "*=", "+=", "-=", "->", "//", "/=", ":=", "<<", "<=", "<>", "==",
   ">=", ">>", "@=", "^=", "|="]

def operators1 : List String :=
  ["(", ")", "[", "]", "\x7b", "\x7d", ":", ",", ";", "+", "-", "*", "/", "|", "&", "<", ">",
   "=", ".", "%", "~", "^", "@"]

/-- The opening bracket that a closing one belongs to. -/
def partner : Char → Char
  | ')' => '('
  | ']' => '['
  | _ => '\x7b'

def State.operator (st : State) (i : Nat) (c : Char) : Except Stop (Token × State) :=
  let longest (ops : List String) (n : Nat) : Option Nat :=
    if ops.contains (String.ofList (src.slice i (i + n))) then some (i + n) else none
  match longest operators3 3 <|> longest operators2 2 with
  | some j => .ok (st.token src .symbol i j, { st with pos := j })
  | none => do
    let st ← match c with
      | '(' | '[' | '\x7b' =>
        if st.brackets.length ≥ maxBrackets then
          .error (st.stopAt (i + 1) .tooManyParentheses)
        else
          .ok { st with brackets := ⟨c, st.line, i - st.lineStart⟩ :: st.brackets }
      | ')' | ']' | '\x7d' =>
        match st.brackets with
        | [] => .error (st.stopAt (i + 1) (.unmatchedBracket c))
        | b :: rest =>
          if b.char == partner c then .ok { st with brackets := rest }
          else .error (({ st with brackets := rest } : State).stopAt (i + 1)
            (.mismatchedBracket c b.char (if b.line == st.line then none else some b.line)))
      | _ => .ok st
    if !isPrintable c then .error (st.stopAt (i + 1) (.invalidUnprintable c))
    else
      let kind := if operators1.contains (c.toString) then TokenKind.symbol else .stray
      pure (st.token src kind i (i + 1), { st with pos := i + 1 })

/-- What follows the end of the text: pending brackets are a defect. -/
def State.finish (st : State) : Except Stop (Token × State) :=
  match st.brackets with
  | b :: _ => .error ⟨.neverClosed b.char, b.line, b.col + 1, false, some b⟩
  | [] => .ok (st.mark src .endMark, st)

/-- The next token. Each turn of the loop leaves a line or a comment behind. -/
def next : Nat → State → Except Stop (Token × State)
  | 0, st => st.finish src
  | fuel + 1, st => do
    let (st, blank) ← if st.atLineStart then startLine st else pure (st, false)
    if st.pending < 0 then
      return (st.mark src .dedent, { st with pending := st.pending + 1 })
    if st.pending > 0 then
      return (st.mark src .indent, { st with pending := st.pending - 1 })
    let first := src.skipWhile (fun c => c == ' ' || c == '\t' || c == '\x0c') st.pos
    let i := if src.char? first == some '#' then src.skipWhile (· != '\n') first else first
    match src.char? i with
    | none => State.finish src { st with pos := i }
    | some '\n' =>
      let st' := { st with pos := i + 1, atLineStart := true }
      if blank || !st.brackets.isEmpty then next fuel st'
      else
        let t := st.token src .newline first i
        return ({ t with cursor := t.cursor + 1 }, st')
    | some '\\' =>
      let st ← st.continueLine src i
      next fuel st
    | some c =>
      match quoteAfterPrefix src i with
      | some (j, quote) => st.string src i j quote
      | none =>
        if mayStart c then st.word src i
        else if c.isDigit || (c == '.' && (src.char? (i + 1)).any isDigit) then do
          let j ← if c == '.' then st.numberTail src (i + 1) true else st.number src i
          return (st.token src .number i j, { st with pos := j })
        else st.operator src i c
where
  /-- Enters a line: its indentation counts unless it is blank or inside brackets. -/
  startLine (st : State) : Except Stop (State × Bool) := do
    let st := st.enterLine src true
    let st := { st with atLineStart := false }
    let (here, fixed, st) ← measure src (src.size + 1) st ⟨0, 0⟩ 0
    let blank := src.char? st.pos == some '#' || src.char? st.pos == some '\n'
    if blank || !st.brackets.isEmpty then return (st, blank)
    let here := if fixed == 0 then here else ⟨fixed, fixed⟩
    return (← st.indent src here, false)

/-- The state before the first line. -/
def start : State := ⟨0, 0, 0, 0, true, [⟨0, 0⟩], 0, []⟩

/-- Tokens until the end mark or a stop. -/
def run : Nat → State → Array Token → Tokens
  | 0, _, acc => ⟨acc, none⟩
  | fuel + 1, st, acc => match next src (src.size + 1) st with
    | .error stop => ⟨acc, some stop⟩
    | .ok (t, st) =>
      if t.kind == .endMark then ⟨acc.push t, none⟩ else run fuel st (acc.push t)

end Lexer

/-- The tokens of a source whose first line has number `line`. -/
def Tokens.ofSourceAt (src : Source) (line : Nat) : Tokens :=
  Lexer.run src (2 * src.size + 2) { Lexer.start with line := line - 1 } #[]

/-- The tokens of a source. -/
def Tokens.ofSource (src : Source) : Tokens := Tokens.ofSourceAt src 1

end RuleBench.Script
