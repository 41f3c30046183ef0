import RuleBench.Script.Grammar.Statement

/-!
# Compound statements

Statements with blocks. A block that is missing is reported together with the statement that needs
it.
-/

namespace RuleBench.Script.Grammar

open Reader

variable (g : Rules)

/-- The line ends where an indented block should begin. -/
def missingBlock {α : Type} (owner : BlockOwner) (t : Token) : Reader α := do
  let _ ← newline
  notFollowedBy (kind .indent)
  failHere (.expectedBlockAfter owner t.loc.line)

def missingColon {α : Type} : Reader α := do
  let _ ← newline
  failHere (.expected "':'")

/-- The rule behind `Rules.block`. -/
def blockRule : Reader (List Stmt) :=
  rememberingBlock <|
    (do
      let _ ← newline
      let _ ← kind .indent
      let ss ← g.statements
      let _ ← kind .dedent
      return ss)
    <|> simpleStatements g
    <|> mistake (do
      let _ ← newline
      notFollowedBy (kind .indent)
      failHere .expectedBlock)

def elseBlock : Reader (List Stmt) :=
  mistake (do
    let t ← symbol "else"
    let _ ← symbol ":"
    missingBlock (.statement "else") t)
  <|> (do
    let _ ← symbol "else"
    let _ ← demand ":"
    g.block)

/-- A condition with its block and everything that depends on it. -/
def conditional (word : String) : Reader Stmt :=
  mistake (
    (do
      let _ ← symbol word
      let _ ← namedExpression g
      missingColon)
    <|> (do
      let t ← symbol word
      let _ ← namedExpression g
      let _ ← symbol ":"
      missingBlock (.statement word) t))
  <|> withRegion (do
    let _ ← symbol word
    let test ← namedExpression g
    let _ ← symbol ":"
    let body ← g.block
    let tail ← g.elifTail
    return fun r => .ifElse r test body [tail])
  <|> withRegion (do
    let _ ← symbol word
    let test ← namedExpression g
    let _ ← symbol ":"
    let body ← g.block
    let orelse ← optional (elseBlock g)
    return fun r => .ifElse r test body (orelse.getD []))

def whileRule : Reader Stmt :=
  mistake (
    (do
      let _ ← symbol "while"
      let _ ← namedExpression g
      missingColon)
    <|> (do
      let t ← symbol "while"
      let _ ← namedExpression g
      let _ ← symbol ":"
      missingBlock (.statement "while") t))
  <|> withRegion (do
    let _ ← symbol "while"
    let test ← namedExpression g
    let _ ← symbol ":"
    let body ← g.block
    let orelse ← optional (elseBlock g)
    return fun r => .whileLoop r test body (orelse.getD []))

def forRule : Reader Stmt :=
  bordered <|
    mistake (
      (do
        let _ ← optional (symbol "async")
        let _ ← symbol "for"
        let _ ← g.starTargets
        let _ ← symbol "in"
        let _ ← g.starExpressions
        missingColon)
      <|> (do
        let _ ← optional (symbol "async")
        let t ← symbol "for"
        let _ ← g.starTargets
        let _ ← symbol "in"
        let _ ← g.starExpressions
        let _ ← symbol ":"
        missingBlock (.statement "for") t))
    <|> withRegion (do
      let isAsync ← optional (symbol "async")
      let _ ← symbol "for"
      let target ← g.starTargets
      let _ ← symbol "in"
      committed do
        let source ← g.starExpressions
        let _ ← symbol ":"
        let body ← g.block
        let orelse ← optional (elseBlock g)
        return fun r => .forLoop r isAsync.isSome target source body (orelse.getD []))
    <|> mistake (misplacedForTarget g)

def withItem : Reader WithItem :=
  (do
    let e ← g.expression
    let _ ← symbol "as"
    let t ← g.starTarget
    followedBy (anyOf [",", ")", ":"])
    return ⟨e, some t⟩)
  <|> mistake (do
    let _ ← g.expression
    let _ ← symbol "as"
    let e ← g.expression
    followedBy (anyOf [",", ")", ":"])
    failInvalidTarget .assignment e)
  <|> (do
    let e ← g.expression
    return ⟨e, none⟩)

/-- Items of a `with`, read loosely. -/
def looseItems (expression : Reader Expr) : Reader Unit := do
  let _ ← sepBy1
    (do
      let _ ← expression
      let _ ← optional (do let _ ← symbol "as"; g.starTarget))
    (symbol ",")

/-- The head of a `with` up to its colon, read loosely. -/
def looseWith : Reader Token :=
  (do
    let _ ← optional (symbol "async")
    let t ← symbol "with"
    looseItems g g.expression
    return t)

def looseWithParentheses : Reader Token := do
  let _ ← optional (symbol "async")
  let t ← symbol "with"
  let _ ← symbol "("
  looseItems g (expressionsRule g)
  let _ ← optional (symbol ",")
  let _ ← symbol ")"
  return t

def withRule : Reader Stmt :=
  let misindented (head : Reader Token) : Reader Stmt := do
    let t ← head
    let _ ← symbol ":"
    missingBlock (.statement "with") t
  mistake (misindented (looseWith g) <|> misindented (looseWithParentheses g))
  <|> withRegion (do
    let isAsync ← optional (symbol "async")
    let _ ← symbol "with"
    let _ ← symbol "("
    let items ← sepBy1 (withItem g) (symbol ",")
    let _ ← optional (symbol ",")
    let _ ← symbol ")"
    let _ ← symbol ":"
    let body ← g.block
    return fun r => .withBlock r isAsync.isSome items body)
  <|> withRegion (do
    let isAsync ← optional (symbol "async")
    let _ ← symbol "with"
    let items ← sepBy1 (withItem g) (symbol ",")
    let _ ← symbol ":"
    let body ← g.block
    return fun r => .withBlock r isAsync.isSome items body)
  <|> mistake (
    (do let _ ← looseWith g; missingColon)
    <|> (do let _ ← looseWithParentheses g; missingColon))

def asName : Reader (Option String) := optional (do let _ ← symbol "as"; identifier)

/-- Mistakes in the head of a handler. -/
def misbuiltExcept {α : Type} : Reader α :=
  (do
    let _ ← symbol "except"
    let _ ← optional (symbol "*")
    let a ← g.expression
    let _ ← symbol ","
    let _ ← expressionsRule g
    let _ ← asName
    let _ ← symbol ":"
    failAt a.loc .unparenthesizedTypes)
  <|> (do
    let _ ← symbol "except"
    let _ ← optional (symbol "*")
    let _ ← g.expression
    let _ ← asName
    missingColon)
  <|> (do
    let _ ← symbol "except"
    missingColon)
  <|> (do
    let _ ← symbol "except"
    let _ ← symbol "*"
    (do let _ ← newline; pure ()) <|> (do let _ ← symbol ":"; pure ())
    failHere .noExceptionTypes)

def exceptBlock : Reader (Handler Stmt) :=
  mistake (
    (do
      let t ← symbol "except"
      let _ ← g.expression
      let _ ← asName
      let _ ← symbol ":"
      missingBlock (.statement "except") t)
    <|> (do
      let t ← symbol "except"
      let _ ← symbol ":"
      missingBlock (.statement "except") t))
  <|> withRegion (do
    let _ ← symbol "except"
    let e ← g.expression
    let n ← asName
    let _ ← symbol ":"
    let body ← g.block
    return fun r => ⟨r, some e, n, body⟩)
  <|> withRegion (do
    let _ ← symbol "except"
    let _ ← symbol ":"
    let body ← g.block
    return fun r => ⟨r, none, none, body⟩)
  <|> mistake (misbuiltExcept g)

def exceptStarBlock : Reader (Handler Stmt) :=
  mistake (do
    let t ← symbol "except"
    let _ ← symbol "*"
    let _ ← g.expression
    let _ ← asName
    let _ ← symbol ":"
    missingBlock (.statement "except*") t)
  <|> withRegion (do
    let _ ← symbol "except"
    let _ ← symbol "*"
    let e ← g.expression
    let n ← asName
    let _ ← symbol ":"
    let body ← g.block
    return fun r => ⟨r, some e, n, body⟩)
  <|> mistake (misbuiltExcept g)

def finallyBlock : Reader (List Stmt) :=
  mistake (do
    let t ← symbol "finally"
    let _ ← symbol ":"
    missingBlock (.statement "finally") t)
  <|> (do
    let _ ← symbol "finally"
    let _ ← demand ":"
    g.block)

/-- A `try` without its block, without handlers, or with handlers of both kinds. -/
def misbuiltTry {α : Type} : Reader α :=
  (do
    let t ← symbol "try"
    let _ ← symbol ":"
    missingBlock (.statement "try") t)
  <|> (do
    let _ ← symbol "try"
    let _ ← symbol ":"
    let _ ← g.block
    notFollowedBy (anyOf ["except", "finally"])
    failHere .tryWithoutHandler)
  <|> (do
    let _ ← symbol "try"
    let _ ← symbol ":"
    let _ ← many g.block
    let _ ← many1 (exceptBlock g)
    let t ← symbol "except"
    let _ ← symbol "*"
    let _ ← g.expression
    let _ ← asName
    let _ ← symbol ":"
    failAt t.loc .mixedHandlers)
  <|> (do
    let _ ← symbol "try"
    let _ ← symbol ":"
    let _ ← many g.block
    let _ ← many1 (exceptStarBlock g)
    let t ← symbol "except"
    let _ ← optional (do let _ ← g.expression; asName)
    let _ ← symbol ":"
    failAt t.loc .mixedHandlers)

def tryHead : Reader (List Stmt) := do
  let _ ← symbol "try"
  let _ ← demand ":"
  g.block

def tryRule : Reader Stmt :=
  mistake (misbuiltTry g)
  <|> withRegion (do
    let body ← tryHead g
    let final ← finallyBlock g
    return fun r => .tryBlock r false body [] [] final)
  <|> withRegion (do
    let body ← tryHead g
    let hs ← many1 (exceptBlock g)
    let orelse ← optional (elseBlock g)
    let final ← optional (finallyBlock g)
    return fun r => .tryBlock r false body hs (orelse.getD []) (final.getD []))
  <|> withRegion (do
    let body ← tryHead g
    let hs ← many1 (exceptStarBlock g)
    let orelse ← optional (elseBlock g)
    let final ← optional (finallyBlock g)
    return fun r => .tryBlock r true body hs (orelse.getD []) (final.getD []))

def subjectRule : Reader Expr :=
  withRegion (do
    let e ← g.starNamed
    let _ ← symbol ","
    let es ← optional (starNamedExpressions g)
    return fun r => .tuple r (e :: es.getD []))
  <|> namedExpression g

def guardRule : Reader (Option Expr) := optional (do let _ ← symbol "if"; namedExpression g)

def caseBlock : Reader (MatchCase Stmt) :=
  mistake (
    (do
      let _ ← softKeyword "case"
      let _ ← patternsRule g
      let _ ← guardRule g
      missingColon)
    <|> (do
      let t ← softKeyword "case"
      let _ ← patternsRule g
      let _ ← guardRule g
      let _ ← symbol ":"
      missingBlock (.statement "case") t))
  <|> (do
    let _ ← softKeyword "case"
    let p ← patternsRule g
    let guard ← guardRule g
    let _ ← symbol ":"
    let body ← g.block
    return ⟨p, guard, body⟩)

def matchRule : Reader Stmt :=
  withRegion (do
    let _ ← softKeyword "match"
    let subject ← subjectRule g
    let _ ← symbol ":"
    let _ ← newline
    let _ ← kind .indent
    let cases ← many1 (caseBlock g)
    let _ ← kind .dedent
    return fun r => .matchOn r subject cases)
  <|> mistake (
    (do
      let _ ← softKeyword "match"
      let _ ← subjectRule g
      missingColon)
    <|> (do
      let t ← softKeyword "match"
      let _ ← subjectRule g
      let _ ← symbol ":"
      missingBlock (.statement "match") t))

def decorators : Reader (List Expr) :=
  many1 (do
    let _ ← symbol "@"
    let e ← namedExpression g
    let _ ← newline
    return e)

def functionRule (decorators : List Expr) : Reader Stmt :=
  mistake (do
    let _ ← optional (symbol "async")
    let t ← symbol "def"
    let _ ← identifier
    let _ ← symbol "("
    let _ ← optional (Style.function.params g)
    let _ ← symbol ")"
    let _ ← optional (do let _ ← symbol "->"; g.expression)
    let _ ← symbol ":"
    missingBlock .functionDefinition t)
  <|> withRegion (do
    let isAsync ← optional (symbol "async")
    let _ ← symbol "def"
    let name ← identifier
    let _ ← demand "("
    let ps ← optional (Style.function.params g)
    let _ ← symbol ")"
    let returns ← optional (do let _ ← symbol "->"; g.expression)
    let _ ← demand ":"
    let body ← g.block
    return fun r =>
      .functionDef r isAsync.isSome name (ps.getD noParams) body decorators returns)

def classHead : Reader (String × Option Expr) := do
  let name ← identifier
  let args ← optional (do
    let _ ← symbol "("
    let a ← optional (argumentsRule g)
    let _ ← symbol ")"
    return a)
  return (name, args.join)

def classRule (decorators : List Expr) : Reader Stmt :=
  mistake (
    (do
      let _ ← symbol "class"
      let _ ← classHead g
      missingColon)
    <|> (do
      let t ← symbol "class"
      let _ ← classHead g
      let _ ← symbol ":"
      missingBlock .classDefinition t))
  <|> withRegion (do
    let _ ← symbol "class"
    let (name, args) ← classHead g
    let _ ← symbol ":"
    let body ← g.block
    let (bases, keywords) := (args.map argumentsOf).getD ([], [])
    return fun r => .classDef r name bases keywords body decorators)

def compoundStatement : Reader Stmt := do
  let t ← token
  if t.kind != .symbol then matchRule g
  else match t.text with
    | "def" => functionRule g []
    | "async" => functionRule g [] <|> withRule g <|> forRule g
    | "@" =>
      (do functionRule g (← decorators g)) <|> (do classRule g (← decorators g))
    | "if" => conditional g "if"
    | "class" => classRule g []
    | "with" => withRule g
    | "for" => forRule g
    | "try" => tryRule g
    | "while" => whileRule g
    | _ => mismatch

/-- A statement, or several on one line. -/
def statementRule : Reader (List Stmt) :=
  (do return [← compoundStatement g]) <|> simpleStatements g

/-- The rule behind `Rules.statements`. -/
def statementsRule : Reader (List Stmt) := do
  return (← many1 (statementRule g)).flatten

end RuleBench.Script.Grammar
