import RuleBench.Script.Constant

/-!
# Writing scripts

`printScript` writes a script as text. Parentheses are set by precedence, string constants keep as
few escapes as they can, and every statement stands on a line of its own. Two things cannot be
written: a backslash inside the braces of a format string, and an integer with too many decimal
digits.
-/

namespace RuleBench.Script

open RuleBench.Number RuleBench.Text

/-- What cannot be written. -/
inductive Unprintable where
  | formatBackslash
  | tooManyDigits
deriving Repr, DecidableEq

namespace Unprintable

def message : Unprintable → String
  | formatBackslash => "Unable to avoid backslash in f-string expression part"
  | tooManyDigits =>
    s!"Exceeds the limit ({maxWrittenDigits} digits) for integer string conversion; "
      ++ "use sys.set_int_max_str_digits() to increase the limit"

end Unprintable

/-- How tightly an expression binds; a place asks for at least a given level. -/
inductive Level where
  | tuple | yield | test | or | and | not | compare | bitOr | bitXor | bitAnd | shift | sum | term
  | factor | power | await | atom
deriving Repr, BEq, DecidableEq

namespace Level

def rank : Level → Nat
  | tuple => 0 | yield => 1 | test => 2 | or => 3 | and => 4 | not => 5 | compare => 6 | bitOr => 7
  | bitXor => 8 | bitAnd => 9 | shift => 10 | sum => 11 | term => 12 | factor => 13 | power => 14
  | await => 15 | atom => 16

/-- The next tighter level; nothing is tighter than an atom. -/
def next : Level → Level
  | tuple => yield | yield => test | test => or | or => and | and => not | not => compare
  | compare => bitOr | bitOr => bitXor | bitXor => bitAnd | bitAnd => shift | shift => sum
  | sum => term | term => factor | factor => power | power => await | await => atom | atom => atom

instance : LT Level := ⟨fun a b => a.rank < b.rank⟩
instance (a b : Level) : Decidable (a < b) := inferInstanceAs (Decidable (a.rank < b.rank))

end Level

namespace BinOp

def sign : BinOp → String
  | add => "+" | sub => "-" | mul => "*" | matMul => "@" | div => "/" | mod => "%" | pow => "**"
  | shiftLeft => "<<" | shiftRight => ">>" | bitOr => "|" | bitXor => "^" | bitAnd => "&"
  | floorDiv => "//"

def level : BinOp → Level
  | add | sub => .sum
  | mul | matMul | div | mod | floorDiv => .term
  | pow => .power
  | shiftLeft | shiftRight => .shift
  | bitOr => .bitOr
  | bitXor => .bitXor
  | bitAnd => .bitAnd

end BinOp

namespace UnaryOp

def sign : UnaryOp → String
  | invert => "~" | not => "not " | plus => "+" | minus => "-"

def level : UnaryOp → Level
  | not => .not
  | _ => .factor

end UnaryOp

namespace CompareOp

def sign : CompareOp → String
  | eq => "==" | ne => "!=" | lt => "<" | le => "<=" | gt => ">" | ge => ">=" | is => "is"
  | isNot => "is not" | isIn => "in" | notIn => "not in"

end CompareOp

namespace BoolOp

def word : BoolOp → String
  | and => "and"
  | or => "or"

def level : BoolOp → Level
  | and => .and
  | or => .or

end BoolOp

/-! ### String constants -/

def isTriple (quote : String) : Bool := quote.length == 3

def singleQuotes : List String := ["'", "\""]
def tripleQuotes : List String := ["\"\"\"", "'''"]
def allQuotes : List String := singleQuotes ++ tripleQuotes

/-- Whether one text occurs in another. -/
def occursIn (part : List Char) : List Char → Bool
  | [] => part.isEmpty
  | c :: cs => part.isPrefixOf (c :: cs) || occursIn part cs

/-- Characters of a constant as they are shown, line feeds and tabs as they are unless they are to
be escaped. -/
def constantBody (escapeBlanks : Bool) (codes : List Nat) : List Char :=
  codes.flatMap fun c =>
    if !escapeBlanks && (c == 9 || c == 10) then [Char.ofNat c] else shown c

/-- The characters to write and the quotes that may stand around them, best first. If no quote fits,
every special character is escaped. -/
def quoteChoice (codes : List Nat) (quotes : List String) (escapeBlanks : Bool) :
    List Char × List String :=
  let body := constantBody escapeBlanks codes
  let possible := if body.contains '\n' then quotes.filter isTriple else quotes
  let possible := possible.filter fun q => !occursIn q.toList body
  match possible with
  | [] =>
    let q := quoteFor codes
    let fitting := (quotes.find? fun t => t.toList.contains q).getD (String.ofList [q])
    (quotedBody q codes, [fitting])
  | first :: rest =>
    match body.getLast? with
    | none => (body, first :: rest)
    | some last =>
      let clashes (q : String) : Bool := q.toList.head? == some last
      let sorted := possible.filter (!clashes ·) ++ possible.filter clashes
      if clashes (sorted.headD "") then (body.dropLast ++ ['\\', last], sorted) else (body, sorted)

/-- A constant with few escapes. -/
def sparingQuoted (quotes : List String) (codes : List Nat) : String :=
  let (body, quotes) := quoteChoice codes quotes false
  let q := quotes.headD "'"
  q ++ String.ofList body ++ q

/-- The code points of a constant that is text. -/
def Literal.textCodes? : Literal → Option (List Nat)
  | .str s _ => some (codesOf s)
  | .wide cs _ => some cs
  | _ => Option.none

/-- The mark that a text constant was written with. -/
def Literal.mark : Literal → String
  | .str _ true | .wide _ true => "u"
  | _ => ""

/-- A number written so that it reads back: an infinity as a numeral that is too large. -/
def numberStyle (style : FloatStyle) : FloatStyle := { style with infinityText := "1e309" }

def Literal.print (sparing : Bool) : Literal → Except Unprintable String
  | .int n =>
    let digits := toString n
    if digits.length > maxWrittenDigits then .error .tooManyDigits else .ok digits
  | .float x => .ok ((numberStyle .plain).render x)
  | .imaginary x => .ok ((numberStyle .part).render x ++ "j")
  | .ellipsis => .ok "..."
  | v =>
    match v.textCodes? with
    | some cs => .ok (v.mark ++ if sparing then sparingQuoted allQuotes cs else quotedCodes cs)
    | Option.none => .ok (Constant.ofLiteral v).text

/-- A text constant inside a format string: braces are doubled. -/
def doubledBraces (codes : List Nat) : List Nat :=
  codes.flatMap fun c => if c == 123 || c == 125 then [c, c] else [c]

/-! ### Expressions -/

def parenthesize (needed : Bool) (s : String) : String := if needed then "(" ++ s ++ ")" else s

def commaList (parts : List String) : String := ", ".intercalate parts

/-- A tuple's elements: a single one keeps its comma. -/
def tupleItems : List String → String
  | [s] => s ++ ","
  | parts => commaList parts

/-- A parameter list, each parameter and default written out. -/
def printParamList (positionalOnly plain : List String) (rest : Option String)
    (keywordOnly : List String) (keywordRest : Option String) : String :=
  let slash := if positionalOnly.isEmpty then [] else ["/"]
  let star := match rest with
    | some r => ["*" ++ r]
    | none => if keywordOnly.isEmpty then [] else ["*"]
  commaList (positionalOnly ++ slash ++ plain ++ star ++ keywordOnly
    ++ keywordRest.toList.map ("**" ++ ·))

def conversionText : Option Char → String
  | none => ""
  | some c => String.ofList ['!', c]

/-- The expression of a replacement field, which must do without backslashes. -/
def fieldExpr (expr : String) : Except Unprintable String :=
  if expr.toList.contains '\\' then .error .formatBackslash else .ok expr

/-- A replacement field with its braces. The expression is kept apart from an opening brace of its
own. -/
def fieldText (expr : String) (conversion : Option Char) (spec : Option (List Nat)) : List Nat :=
  let gap := if expr.startsWith "\x7b" then " " else ""
  let tail := match spec with
    | none => []
    | some codes => codesOf ":" ++ codes
  codesOf ("\x7b" ++ gap ++ expr ++ conversionText conversion) ++ tail ++ codesOf "\x7d"

mutual

/-- An expression in a place that asks for a level. Inside the braces of a format string constants
are written `sparing` of backslashes. -/
def Expr.print (sparing : Bool) (level : Level) : Expr → Except Unprintable String
  | .boolOp _ op vs => do
    let parts ← printSteps sparing op.level.next vs
    return parenthesize (op.level < level) ((" " ++ op.word ++ " ").intercalate parts)
  | .named _ t v => do
    return parenthesize (.tuple < level)
      ((← t.print sparing .atom) ++ " := " ++ (← v.print sparing .atom))
  | .binOp _ a op b => do
    let l := op.level
    let (left, right) := if op == .pow then (l.next, l) else (l, l.next)
    return parenthesize (l < level)
      ((← a.print sparing left) ++ " " ++ op.sign ++ " " ++ (← b.print sparing right))
  | .unaryOp _ op a => do
    return parenthesize (op.level < level) (op.sign ++ (← a.print sparing op.level))
  | .lambda _ ps b => do
    let params ← printParams sparing ps
    let head := if params.isEmpty then "lambda" else "lambda " ++ params
    return parenthesize (.test < level) (head ++ ": " ++ (← b.print sparing .test))
  | .ifElse _ t b e => do
    return parenthesize (.test < level)
      ((← b.print sparing .or) ++ " if " ++ (← t.print sparing .or) ++ " else "
        ++ (← e.print sparing .test))
  | .dict _ is => do
    return "\x7b" ++ commaList (← printItems sparing is) ++ "\x7d"
  | .set _ es => do
    return "\x7b" ++ commaList (← printAll sparing es) ++ "\x7d"
  | .comprehension _ k e cs => do
    let (opening, closing) := match k with
      | .list => ("[", "]")
      | .set => ("\x7b", "\x7d")
      | .generator => ("(", ")")
    return opening ++ (← e.print sparing .test) ++ (← printClauses sparing cs) ++ closing
  | .dictComprehension _ k v cs => do
    return "\x7b" ++ (← k.print sparing .test) ++ ": " ++ (← v.print sparing .test)
      ++ (← printClauses sparing cs) ++ "\x7d"
  | .await _ v => do
    return parenthesize (.await < level) ("await " ++ (← v.print sparing .atom))
  | .yield _ none => .ok (parenthesize (.yield < level) "yield")
  | .yield _ (some v) => do
    return parenthesize (.yield < level) ("yield " ++ (← v.print sparing .atom))
  | .yieldFrom _ v => do
    return parenthesize (.yield < level) ("yield from " ++ (← v.print sparing .atom))
  | .compare _ a cs => do
    return parenthesize (.compare < level)
      ((← a.print sparing .bitOr) ++ (← printChain sparing cs))
  | .call _ f as ks => do
    return (← f.print sparing .atom) ++ "("
      ++ commaList ((← printAll sparing as) ++ (← printKeywords sparing ks)) ++ ")"
  | .formatted _ v c s => do
    return "f" ++ sparingQuoted allQuotes
      (fieldText (← fieldExpr (← v.print true .or)) c (← printSpec s))
  | .joined _ ps => do
    let parts ← printParts ps
    if sparing then
      return "f" ++ sparingQuoted allQuotes (parts.flatMap (·.1))
    let (body, quotes) := parts.foldl (fun (body, quotes) (codes, isConstant) =>
      let (next, quotes) := quoteChoice codes quotes isConstant
      (body ++ next, quotes)) ([], allQuotes)
    let q := quotes.headD "'"
    return "f" ++ q ++ String.ofList body ++ q
  | .literal _ v => v.print sparing
  | .member _ v n => do
    let isWhole := match v with
      | .literal _ (.int _) | .literal _ (.bool _) => true
      | _ => false
    return (← v.print sparing .atom) ++ (if isWhole then " ." else ".") ++ n
  | .subscript _ v (.tuple _ (e :: es)) => do
    return (← v.print sparing .atom) ++ "["
      ++ tupleItems ((← e.print sparing .test) :: (← printAll sparing es)) ++ "]"
  | .subscript _ v i => do
    return (← v.print sparing .atom) ++ "[" ++ (← i.print sparing .test) ++ "]"
  | .starred _ v => do return "*" ++ (← v.print sparing .bitOr)
  | .name _ id => .ok id
  | .list _ es => do return "[" ++ commaList (← printAll sparing es) ++ "]"
  | .tuple _ es => do
    return parenthesize (es.isEmpty || .tuple < level) (tupleItems (← printAll sparing es))
  | .slice _ l u s => do
    let step ← match s with
      | none => pure ""
      | some e => do pure (":" ++ (← e.print sparing .test))
    return (← printOption sparing l) ++ ":" ++ (← printOption sparing u) ++ step

def printAll (sparing : Bool) : List Expr → Except Unprintable (List String)
  | [] => .ok []
  | e :: es => do return (← e.print sparing .test) :: (← printAll sparing es)

/-- Operands of a chain of `and` or `or`, each in a place that asks for one level more than the one
before. -/
def printSteps (sparing : Bool) (level : Level) : List Expr → Except Unprintable (List String)
  | [] => .ok []
  | e :: es => do return (← e.print sparing level) :: (← printSteps sparing level.next es)

def printOption (sparing : Bool) : Option Expr → Except Unprintable String
  | none => .ok ""
  | some e => e.print sparing .test

def printItems (sparing : Bool) : List (DictItem Expr) → Except Unprintable (List String)
  | [] => .ok []
  | ⟨none, v⟩ :: is => do
    return ("**" ++ (← v.print sparing .bitOr)) :: (← printItems sparing is)
  | ⟨some k, v⟩ :: is => do
    return ((← k.print sparing .test) ++ ": " ++ (← v.print sparing .test))
      :: (← printItems sparing is)

def printChain (sparing : Bool) : List (Comparand Expr) → Except Unprintable String
  | [] => .ok ""
  | ⟨op, e⟩ :: cs => do
    return " " ++ op.sign ++ " " ++ (← e.print sparing .bitOr) ++ (← printChain sparing cs)

def printKeywords (sparing : Bool) : List (Keyword Expr) → Except Unprintable (List String)
  | [] => .ok []
  | ⟨_, n, v⟩ :: ks => do
    let head := match n with
      | none => "**"
      | some n => n ++ "="
    return (head ++ (← v.print sparing .test)) :: (← printKeywords sparing ks)

def printClauses (sparing : Bool) : List (Clause Expr) → Except Unprintable String
  | [] => .ok ""
  | ⟨isAsync, t, s, is⟩ :: cs => do
    return (if isAsync then " async for " else " for ") ++ (← t.print sparing .tuple) ++ " in "
      ++ (← s.print sparing .or) ++ (← printConditions sparing is) ++ (← printClauses sparing cs)

def printConditions (sparing : Bool) : List Expr → Except Unprintable String
  | [] => .ok ""
  | e :: es => do return " if " ++ (← e.print sparing .or) ++ (← printConditions sparing es)

/-- Parameters with annotations and defaults. -/
def printParam (sparing : Bool) : List (Param Expr) → Except Unprintable (List String)
  | [] => .ok []
  | ⟨_, n, a, d⟩ :: ps => do
    let hint ← match a with
      | none => pure ""
      | some e => do pure (": " ++ (← e.print sparing .test))
    let default ← match d with
      | none => pure ""
      | some e => do pure ("=" ++ (← e.print sparing .test))
    return (n ++ hint ++ default) :: (← printParam sparing ps)

def printRest (sparing : Bool) : Option (Param Expr) → Except Unprintable (Option String)
  | none => .ok none
  | some ⟨_, n, none, _⟩ => .ok (some n)
  | some ⟨_, n, some e, _⟩ => do return some (n ++ ": " ++ (← e.print sparing .test))

def printParams (sparing : Bool) : Params Expr → Except Unprintable String
  | ⟨po, pl, r, ko, kr⟩ => do
    return printParamList (← printParam sparing po) (← printParam sparing pl)
      (← printRest sparing r) (← printParam sparing ko) (← printRest sparing kr)

/-- The parts of a format string, each with the sign that it is constant text. -/
def printParts : List Expr → Except Unprintable (List (List Nat × Bool))
  | [] => .ok []
  | .literal _ v :: es => do
    return (doubledBraces (v.textCodes?.getD []), true) :: (← printParts es)
  | .formatted _ v c s :: es => do
    let field := fieldText (← fieldExpr (← v.print true .or)) c (← printSpec s)
    return (field, false) :: (← printParts es)
  | _ :: es => printParts es

/-- The text between the colon and the closing brace of a replacement field. -/
def printSpec : Option Expr → Except Unprintable (Option (List Nat))
  | some (.joined _ ps) => do return some ((← printParts ps).flatMap (·.1))
  | _ => .ok none

end

/-! ### Patterns -/

mutual

def Pattern.print (level : Level) : Pattern → Except Unprintable String
  | .value _ v => v.print false .test
  | .singleton _ v => v.print false
  | .sequence _ ps => do return "[" ++ commaList (← printPatterns .test ps) ++ "]"
  | .mapping _ ks ps rest => do
    let keys ← printAll false ks
    let values ← printPatterns .test ps
    let entries := (keys.zip values).map fun (k, v) => k ++ ": " ++ v
    return "\x7b" ++ commaList (entries ++ rest.toList.map ("**" ++ ·)) ++ "\x7d"
  | .classPattern _ c ps names qs => do
    let named := (names.zip (← printPatterns .test qs)).map fun (n, p) => n ++ "=" ++ p
    return (← c.print false .atom) ++ "(" ++ commaList ((← printPatterns .test ps) ++ named) ++ ")"
  | .star _ n => .ok ("*" ++ n.getD "_")
  | .capture _ none n => .ok (n.getD "_")
  | .capture _ (some p) n => do
    return parenthesize (.test < level) ((← p.print .bitOr) ++ " as " ++ n.getD "_")
  | .alternatives _ ps => do
    return parenthesize (.bitOr < level) (" | ".intercalate (← printPatterns .bitXor ps))

def printPatterns (level : Level) : List Pattern → Except Unprintable (List String)
  | [] => .ok []
  | p :: ps => do return (← p.print level) :: (← printPatterns level ps)

end

/-! ### Statements -/

/-- A line of text below `indent` others. -/
def indented (indent : Nat) (text : String) : String :=
  String.ofList (List.replicate (4 * indent) ' ') ++ text

def printOptional (head : String) : Option Expr → Except Unprintable String
  | none => .ok ""
  | some e => do return head ++ (← e.print false .test)

def printAlias (a : Alias) : String :=
  match a.asName with
  | none => a.name
  | some n => a.name ++ " as " ++ n

def printWithItem (i : WithItem) : Except Unprintable String := do
  return (← i.context.print false .test) ++ (← printOptional " as " i.target)

/-- The docstring at the head of a body, and the statements after it. -/
def splitDocstring : List Stmt → Option (String × List Nat) × List Stmt
  | .expr r (.literal l v) :: ss =>
    match v.textCodes? with
    | some codes => (some (v.mark, codes), ss)
    | none => (none, .expr r (.literal l v) :: ss)
  | ss => (none, ss)

/-- A statement that holds no others, as one line; nothing for the ones that do. -/
def printSimple : Stmt → Except Unprintable (Option String)
  | .returnStmt _ v => do return some ("return" ++ (← printOptional " " v))
  | .delete _ ts => do return some ("del " ++ commaList (← printAll false ts))
  | .assign _ ts v => do
    let targets ← ts.mapM fun t => return (← t.print false .tuple) ++ " = "
    return some (String.join targets ++ (← v.print false .test))
  | .augAssign _ t op v => do
    return some ((← t.print false .test) ++ " " ++ op.sign ++ "= " ++ (← v.print false .test))
  | .annAssign _ t a v simple => do
    let isName := match t with
      | .name .. => true
      | _ => false
    return some (parenthesize (!simple && isName) (← t.print false .test) ++ ": "
      ++ (← a.print false .test) ++ (← printOptional " = " v))
  | .raise _ e c => do
    return some ("raise" ++ (← printOptional " " e) ++ (← printOptional " from " c))
  | .assert _ t m => do
    return some ("assert " ++ (← t.print false .test) ++ (← printOptional ", " m))
  | .importModules _ ns => .ok (some ("import " ++ commaList (ns.map printAlias)))
  | .importFrom _ m ns dots =>
    .ok (some ("from " ++ String.ofList (List.replicate dots '.') ++ m.getD "" ++ " import "
      ++ commaList (ns.map printAlias)))
  | .global _ ns => .ok (some ("global " ++ commaList ns))
  | .nonlocal _ ns => .ok (some ("nonlocal " ++ commaList ns))
  | .expr _ e => do return some (← e.print false .yield)
  | .pass _ => .ok (some "pass")
  | .breakLoop _ => .ok (some "break")
  | .continueLoop _ => .ok (some "continue")
  | _ => .ok none

def asyncWord (isAsync : Bool) : String := if isAsync then "async " else ""

mutual

/-- The lines of a statement. Definitions are set apart by an empty line. -/
def Stmt.print (indent : Nat) : Stmt → Except Unprintable (List String)
  | .functionDef _ isAsync n ps b ds ret => do
    let decorators ← ds.mapM fun d => return indented indent ("@" ++ (← d.print false .test))
    let head := asyncWord isAsync ++ "def " ++ n ++ "(" ++ (← printParams false ps) ++ ")"
      ++ (← printOptional " -> " ret) ++ ":"
    return "" :: decorators ++ indented indent head :: (← printBody (indent + 1) b)
  | .classDef _ n bs ks b ds => do
    let decorators ← ds.mapM fun d => return indented indent ("@" ++ (← d.print false .test))
    let bases := (← printAll false bs) ++ (← printKeywords false ks)
    let head := "class " ++ n ++ (if bases.isEmpty then "" else "(" ++ commaList bases ++ ")") ++
      ":"
    return "" :: decorators ++ indented indent head :: (← printBody (indent + 1) b)
  | .forLoop _ isAsync t s b e => do
    let head := asyncWord isAsync ++ "for " ++ (← t.print false .tuple) ++ " in "
      ++ (← s.print false .test) ++ ":"
    return indented indent head :: (← printBlock (indent + 1) b) ++ (← printFinal indent "else" e)
  | .whileLoop _ t b e => do
    let head := "while " ++ (← t.print false .test) ++ ":"
    return indented indent head :: (← printBlock (indent + 1) b) ++ (← printFinal indent "else" e)
  | .ifElse _ t b e => do
    let head := "if " ++ (← t.print false .test) ++ ":"
    return indented indent head :: (← printBlock (indent + 1) b) ++ (← printElse indent e)
  | .withBlock _ isAsync is b => do
    let head := asyncWord isAsync ++ "with " ++ commaList (← is.mapM printWithItem) ++ ":"
    return indented indent head :: (← printBlock (indent + 1) b)
  | .matchOn _ s cs => do
    let head := "match " ++ (← s.print false .test) ++ ":"
    return indented indent head :: (← printCases (indent + 1) cs)
  | .tryBlock _ isStar b hs e f => do
    return indented indent "try:" :: (← printBlock (indent + 1) b)
      ++ (← printHandlers indent (if isStar then "except*" else "except") hs)
      ++ (← printFinal indent "else" e) ++ (← printFinal indent "finally" f)
  | s => do return (← printSimple s).toList.map (indented indent)

def printBlock (indent : Nat) : List Stmt → Except Unprintable (List String)
  | [] => .ok []
  | s :: ss => do return (← s.print indent) ++ (← printBlock indent ss)

/-- The body of a definition, with its docstring. -/
def printBody (indent : Nat) : List Stmt → Except Unprintable (List String)
  | [] => .ok []
  | s :: ss => do
    let head ← match (splitDocstring [s]).1 with
      | some (mark, codes) =>
        pure [indented indent (mark ++ sparingQuoted tripleQuotes codes)]
      | none => s.print indent
    return head ++ (← printBlock indent ss)

/-- A last block under a word, if there is one. -/
def printFinal (indent : Nat) (word : String) : List Stmt → Except Unprintable (List String)
  | [] => .ok []
  | s :: ss => do
    return indented indent (word ++ ":") :: (← s.print (indent + 1)) ++
      (← printBlock (indent + 1) ss)

/-- What follows the body of an `if`: a lone `if` joins it as `elif`. -/
def printElse (indent : Nat) : List Stmt → Except Unprintable (List String)
  | [] => .ok []
  | [.ifElse _ t b e] => do
    let head := "elif " ++ (← t.print false .test) ++ ":"
    return indented indent head :: (← printBlock (indent + 1) b) ++ (← printElse indent e)
  | s :: ss => do
    return indented indent "else:" :: (← s.print (indent + 1)) ++ (← printBlock (indent + 1) ss)

def printHandlers (indent : Nat) (word : String) :
    List (Handler Stmt) → Except Unprintable (List String)
  | [] => .ok []
  | ⟨_, t, n, b⟩ :: hs => do
    let name := match n with
      | none => ""
      | some n => " as " ++ n
    let head := word ++ (← printOptional " " t) ++ name ++ ":"
    return indented indent head :: (← printBlock (indent + 1) b) ++ (← printHandlers indent word hs)

def printCases (indent : Nat) : List (MatchCase Stmt) → Except Unprintable (List String)
  | [] => .ok []
  | ⟨p, g, b⟩ :: cs => do
    let head := "case " ++ (← p.print .test) ++ (← printOptional " if " g) ++ ":"
    return indented indent head :: (← printBlock (indent + 1) b) ++ (← printCases indent cs)

end

/-- The text of a script, without a last line feed. Nothing stands before the first definition. -/
def printScript (script : List Stmt) : Except Unprintable String := do
  let lines ← printBody 0 script
  let lines := match lines with
    | "" :: rest@(_ :: _) =>
      match script with
      | .functionDef .. :: _ | .classDef .. :: _ => rest
      | _ => lines
    | _ => lines
  return "\n".intercalate lines

end RuleBench.Script
