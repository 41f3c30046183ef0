import RuleBench.Script.Defect
import RuleBench.Script.Syntax

/-!
# Tokens

A script is read as a list of tokens that ends in an end mark, or stops at the first place where no
token can be read. Since the reader of the grammar looks at tokens one by one, a stop is reported
only when the reader gets there: `Stop` says what is reported then.
-/

namespace RuleBench.Script

inductive TokenKind where
  | name
  | symbol
  | number
  | string
  | newline
  | indent
  | dedent
  | endMark
  /-- A character that starts no token of the grammar. -/
  | stray
deriving Repr, BEq, DecidableEq, Inhabited

/-- A token with its text. `located` is false for tokens without a text of their own; for these
`cursor`, the number of bytes read of the line, is all there is. `level` counts open brackets. -/
structure Token where
  kind : TokenKind
  text : String
  loc : Region
  located : Bool
  cursor : Nat
  level : Nat
deriving Repr, Inhabited

namespace Token

def isSymbol (t : Token) (s : String) : Bool := t.kind == .symbol && t.text == s

def isName (t : Token) : Bool := t.kind == .name

end Token

/-- An open bracket with the line and the column it stands at, in characters from zero. -/
structure OpenBracket where
  char : Char
  line : Nat
  col : Nat
deriving Repr, BEq, DecidableEq, Inhabited

/-- Where and why no further token can be read. A stop is `immediate` when the scanner itself sees
the defect; others are found by the reader that asks for the token. -/
structure Stop where
  defect : Defect
  line : Nat
  column : Nat
  immediate : Bool
  /-- The innermost bracket still open. -/
  bracket : Option OpenBracket
deriving Repr

structure Tokens where
  tokens : Array Token
  stop : Option Stop

/-- Words that are no names. -/
def keywords : List String :=
  ["False", "None", "True", "and", "as", "assert", "async", "await", "break", "class", "continue",
   "def", "del", "elif", "else", "except", "finally", "for", "from", "global", "if", "import",
   "in", "is", "lambda", "nonlocal", "not", "or", "pass", "raise", "return", "try", "while",
   "with", "yield"]

/-- Names that act as keywords at some places. -/
def softKeywords : List String := ["_", "case", "match"]

end RuleBench.Script
