import RuleBench.Script.Grammar.Rules
import RuleBench.Script.Token.Lexer

/-!
# String literals

Adjacent strings form one literal. A format string alternates between text and expressions in
braces; the expression is cut out by matching brackets and quotes, put in parentheses, and read by
the grammar as a little script of its own.
-/

namespace RuleBench.Script.Grammar

open Reader

namespace FormatString

/-- What has been read of a literal: finished parts and the text after them. -/
structure Builder where
  parts : Array Expr
  text : List Nat
  isFormat : Bool

/-- A string token that is being read, with the region of the whole literal. -/
structure Piece where
  token : Token
  chars : Array Char
  /-- Where the text inside the quotes ends. -/
  stop : Nat
  raw : Bool
  whole : Region
  marked : Bool

variable (p : Piece)

def Builder.empty : Builder := ⟨#[], [], false⟩

/-- Moves the pending text into the parts. -/
def Builder.flush (b : Builder) : Builder :=
  if b.text.isEmpty then b
  else { b with
    parts := b.parts.push (.literal p.whole (Literal.ofCodes b.text p.marked))
    text := [] }

def Builder.add (b : Builder) (codes : List Nat) : Builder := { b with text := b.text ++ codes }

/-- The literal: a constant unless a format string took part. -/
def Builder.finish (b : Builder) (region : Region) : Expr :=
  if b.isFormat then .joined region (b.flush p).parts.toList
  else .literal region (Literal.ofCodes b.text p.marked)

/-- Raises what is wrong with the text of a literal at the last token looked at. -/
def orFail {α : Type} : Except Defect α → Reader α
  | .ok a => pure a
  | .error d => failHere d

/-- Where a run of text ends. -/
inductive RunEnd where
  /-- At a doubled brace: text goes on after it. -/
  | doubled (stop next : Nat)
  | brace (stop : Nat)
  | lone

/-- Looks for the end of the text that starts at `i`. -/
def runEnd (nested : Bool) : Nat → Nat → RunEnd
  | 0, i => .brace i
  | fuel + 1, i =>
    if i ≥ p.stop then .brace p.stop
    else
      let c := p.chars.getD i ' '
      let brace (i : Nat) (c : Char) : RunEnd :=
        if c == '\x7b' || c == '\x7d' then
          if nested then .brace i
          else if i + 1 < p.stop && p.chars.getD (i + 1) ' ' == c then .doubled (i + 1) (i + 2)
          else if c == '\x7d' then .lone
          else .brace i
        else runEnd nested fuel (i + 1)
      if !p.raw && c == '\\' && i + 1 < p.stop then
        let d := p.chars.getD (i + 1) ' '
        if d == 'N' then
          if i + 2 < p.stop && p.chars.getD (i + 2) ' ' == '\x7b' then
            runEnd nested fuel (skipName fuel (i + 3))
          else runEnd nested fuel (min (i + 3) p.stop)
        else brace (i + 1) d
      else brace i c
where
  skipName : Nat → Nat → Nat
    | 0, i => i
    | fuel + 1, i =>
      if i ≥ p.stop then p.stop
      else if p.chars.getD i ' ' == '\x7d' then i + 1
      else skipName fuel (i + 1)

/-- A quoted string inside an expression part. -/
structure Quote where
  char : Char
  triple : Bool

/-- Looks for the end of the expression that starts at `i`: a sign outside of brackets and
quotes. -/
def expressionEnd : Nat → Nat → Option Quote → List Char → Except Defect Nat
  | 0, i, _, _ => .ok i
  | fuel + 1, i, quote, brackets =>
    let at_ (j : Nat) : Option Char := if j < p.stop then p.chars[j]? else none
    match at_ i with
    | none =>
      if quote.isSome then .error .formatUnterminated
      else match brackets with
        | b :: _ => .error (.formatUnmatched b)
        | [] => .ok i
    | some c =>
      if c == '\\' then .error .formatBackslash
      else match quote with
        | some q =>
          if c != q.char then expressionEnd fuel (i + 1) quote brackets
          else if q.triple then
            if at_ (i + 1) == some c && at_ (i + 2) == some c then
              expressionEnd fuel (i + 3) none brackets
            else expressionEnd fuel (i + 1) quote brackets
          else expressionEnd fuel (i + 1) none brackets
        | none =>
          if c == '\'' || c == '"' then
            if at_ (i + 1) == some c && at_ (i + 2) == some c then
              expressionEnd fuel (i + 3) (some ⟨c, true⟩) brackets
            else expressionEnd fuel (i + 1) (some ⟨c, false⟩) brackets
          else if c == '[' || c == '\x7b' || c == '(' then
            if brackets.length ≥ Lexer.maxBrackets then .error .formatTooManyParentheses
            else expressionEnd fuel (i + 1) none (c :: brackets)
          else if c == '#' then .error .formatComment
          else if brackets.isEmpty && "!:\x7d=<>".toList.contains c then
            if "!=<>".toList.contains c && at_ (i + 1) == some '=' then
              expressionEnd fuel (i + 2) none brackets
            else if c == '<' || c == '>' then expressionEnd fuel (i + 1) none brackets
            else .ok i
          else if c == ']' || c == '\x7d' || c == ')' then
            match brackets with
            | [] => .error (.formatUnmatched c)
            | b :: rest =>
              if b == Lexer.partner c then expressionEnd fuel (i + 1) none rest
              else .error (.formatMismatched c b)
          else expressionEnd fuel (i + 1) none brackets

/-- How many bytes characters take up. -/
def octetCount (cs : List Char) : Nat := cs.foldl (fun n c => n + c.utf8Size) 0

/-- Bytes of the characters between two indexes. -/
def bytes (start stop : Nat) : Nat :=
  octetCount (p.chars.extract start stop).toList

/-- How many lines below the start of the token a brace stands, and how many bytes right of the
start of its line or of the token. -/
def bracePlace (brace : Nat) : Nat × Nat :=
  let before := (p.chars.extract 0 brace).toList
  let lines := before.count '\n'
  let rest := (p.chars.extract (brace + 1) p.chars.size).toList
  let blankAfter := match rest.dropWhile fun c => c == ' ' || c == '\t' || c == '\x0c' with
    | c :: _ => c == '\x7d' || c == '\n'
    | [] => true
  let inLine := (before.reverse.takeWhile (· != '\n')).reverse
  let lineBytes := octetCount inLine
  (lines, if blankAfter then 0 else if lines == 0 then lineBytes else lineBytes + 1)

/-- Reads the expression between two indexes; `inner` reads what stands in the parentheses. -/
def compileExpression (inner : Reader Expr) (start stop : Nat) : Reader Expr := do
  let cs := (p.chars.extract start stop).toList
  if cs.all fun c => c == ' ' || c == '\t' || c == '\n' || c == '\x0c' then
    match p.chars.getD stop '\x7d' with
    | '\x7d' => failHere .formatEmpty
    | mark => failHere (.formatRequired mark)
  else
    let (lines, cols) := bracePlace p (start - 1)
    let line := p.token.loc.line + lines
    let shift := if lines == 0 then p.token.loc.col + cols else cols
    let source := Source.ofString (String.ofList ('(' :: cs ++ [')']))
    let found := Tokens.ofSourceAt source line
    let place (t : Token) : Token :=
      let l := t.loc
      let l := if l.line == line then { l with col := l.col + shift } else l
      let l := if l.endLine == line then { l with endCol := l.endCol + shift } else l
      { t with loc := l }
    let tokens := { found with tokens := found.tokens.map place }
    match Reader.run inner ⟨source, tokens, false, some shift⟩ with
    | .ok e => pure e
    | .error why => reject why

/-- Text and expressions up to the end of the token, or of the format part that encloses them.
`depth` counts the enclosing expressions. -/
def parts (inner : Reader Expr) (depth : Nat) : Nat → Nat → Builder → Reader (Builder × Nat)
  | 0, i, b => pure (b, i)
  | fuel + 1, i, b => do
    let b := { b with isFormat := true }
    let text (stop : Nat) : Reader Builder := do
      let codes ← orFail (textCodes p.raw (p.chars.extract i stop).toList)
      return b.add codes
    match runEnd p (depth > 0) p.chars.size i with
    | .lone => failHere .formatLoneBrace
    | .doubled stop next => parts inner depth fuel next (← text stop)
    | .brace stop =>
      let b ← text stop
      let c? := if stop < p.stop then p.chars[stop]? else none
      if c? != some '\x7b' then
        if depth > 0 && c? != some '\x7d' then failHere .formatExpecting
        else return (b, stop)
      else if depth ≥ 2 then failHere .formatNestedTooDeep
      else
        let start := stop + 1
        let last ← orFail (expressionEnd p p.chars.size start none [])
        if last ≥ p.stop then failHere .formatExpecting
        else
          let value ← compileExpression p inner start last
          let char (j : Nat) : Char := p.chars.getD j ' '
          -- a debugging mark repeats the text of the expression
          let shown := char last == '='
          let j := if shown then skipBlank p.chars.size (last + 1) else last
          if j ≥ p.stop then failHere .formatExpecting
          else
            let b := if shown then
                b.add ((p.chars.extract start j).toList.map Char.toNat)
              else b
            let (conversion, j) ← (do
              if char j == '!' then
                if j + 1 ≥ p.stop then failHere .formatExpecting
                else
                  let c := char (j + 1)
                  if c == 's' || c == 'r' || c == 'a' then pure (some c, j + 2)
                  else failHere .formatConversion
              else pure (none, j))
            let (spec, j) ← (do
              if j < p.stop && char j == ':' then
                if j + 1 ≥ p.stop then failHere .formatExpecting
                else
                  let (inside, j) ← parts inner (depth + 1) fuel (j + 1) Builder.empty
                  pure (some (inside.finish p p.token.loc), j)
              else pure (none, j))
            if j ≥ p.stop || char j != '\x7d' then failHere .formatExpecting
            else
              let conversion :=
                if shown && spec.isNone && conversion.isNone then some 'r' else conversion
              let b := b.flush p
              let b := { b with
                parts := b.parts.push (.formatted p.whole value conversion spec) }
              parts inner depth fuel (j + 1) b
where
  skipBlank : Nat → Nat → Nat
    | 0, i => i
    | fuel + 1, i =>
      if " \t\n\r\x0b\x0c".toList.contains (p.chars.getD i 'x') then skipBlank fuel (i + 1) else i

end FormatString

open FormatString

/-- The literal formed by adjacent string tokens. -/
def concatenate (inner : Reader Expr) (tokens : List Token) : Reader Expr := do
  match tokens with
  | [] => mismatch
  | first :: _ =>
    let last := tokens.getLastD first
    let whole := first.loc.upTo last.loc
    let marked := first.text.startsWith "u"
    let piece (t : Token) : Piece :=
      let s := StringParts.ofToken t.text
      ⟨t, t.text.toList.toArray, s.letters.length + s.quotes + s.body.length, s.isRaw, whole,
        marked⟩
    if (StringParts.ofToken first.text).isBytes then
      let mut acc : List UInt8 := []
      for t in tokens do
        let s := StringParts.ofToken t.text
        if !s.isBytes then
          if !s.isFormat then
            let _ ← orFail (textCodes s.isRaw s.body)
          failHere .mixedStrings
        acc := acc ++ (← orFail (byteCodes s.isRaw s.body))
      return .literal whole (.bytes acc)
    else
      let mut b := Builder.empty
      for t in tokens do
        let s := StringParts.ofToken t.text
        if s.isBytes then
          let _ ← orFail (byteCodes s.isRaw s.body)
          failHere .mixedStrings
        else if s.isFormat then
          let start := s.letters.length + s.quotes
          let (b', _) ← parts (piece t) inner 0 (t.text.length + 1) start b
          b := b'
        else b := b.add (← orFail (textCodes s.isRaw s.body))
      return b.finish (piece first) whole

/-- Adjacent strings. -/
def stringsRule (g : Rules) : Reader Expr :=
  remembering .strings do
    let tokens ← many1 (kind .string)
    concatenate g.starExpressions tokens

end RuleBench.Script.Grammar
