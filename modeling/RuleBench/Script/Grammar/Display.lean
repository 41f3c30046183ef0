import RuleBench.Script.Grammar.Strings

/-!
# Displays, comprehensions and groups

What stands in brackets: lists, tuples, sets, dicts, their comprehensions, and parenthesised
expressions.
-/

namespace RuleBench.Script.Grammar

open Reader

variable (g : Rules)

/-- `name := value`. -/
def assignmentExpression : Reader Expr :=
  withRegion do
    let target ← nameRule
    let _ ← symbol ":="
    let value ← g.expression
    return fun r => .named r target value

/-- An expression in a place where `:=` needs a bare name on its left. -/
def plainExpression : Reader Expr := do
  let e ← g.expression
  notFollowedBy (symbol ":=")
  return e

/-- An expression, or a name with its value. -/
def plainOrAssignment : Reader Expr := assignmentExpression g <|> plainExpression g

def starredExpression : Reader Expr :=
  withRegion do
    let _ ← symbol "*"
    let e ← g.expression
    return fun r => .starred r e

def starNamedExpressions : Reader (List Expr) := do
  let es ← sepBy1 g.starNamed (symbol ",")
  let _ ← optional (symbol ",")
  return es

def yieldExpression : Reader Expr :=
  withRegion do
    let _ ← symbol "yield"
    (do
      let _ ← symbol "from"
      let e ← g.expression
      return fun r => .yieldFrom r e)
    <|> (do
      let e ← optional g.starExpressions
      return fun r => .yield r e)

/-- The targets of a `for` that are no targets. -/
def misplacedForTarget {α : Type} : Reader α := do
  let _ ← optional (symbol "async")
  let _ ← symbol "for"
  let e ← g.starExpressions
  failInvalidTarget .loop e

/-- One `for … in …` with its conditions. -/
def forIfClause : Reader (Clause Expr) :=
  bordered <|
    (do
      let isAsync ← optional (symbol "async")
      let _ ← symbol "for"
      let target ← g.starTargets
      let _ ← symbol "in"
      committed do
        let source ← g.disjunction
        let conditions ← many (do let _ ← symbol "if"; g.disjunction)
        return ⟨isAsync.isSome, target, source, conditions⟩)
    <|> mistake (misplacedForTarget g)

def forIfClauses : Reader (List (Clause Expr)) := many1 (forIfClause g)

def openers (ss : List String) : Reader Token := anyOf ss

/-- Unpacking or a missing parenthesis in the target of a comprehension. -/
def misbuiltComprehension {α : Type} : Reader α :=
  (do
    let _ ← openers ["[", "(", "\x7b"]
    let e ← starredExpression g
    let _ ← forIfClauses g
    failAt e.loc .comprehensionUnpacking)
  <|> (do
    let _ ← openers ["[", "\x7b"]
    let e ← g.starNamed
    let _ ← symbol ","
    let _ ← starNamedExpressions g
    let _ ← forIfClauses g
    failAt e.loc .comprehensionTarget)
  <|> (do
    let _ ← openers ["[", "\x7b"]
    let e ← g.starNamed
    let _ ← symbol ","
    let _ ← forIfClauses g
    failAt e.loc .comprehensionTarget)

def listRule : Reader Expr :=
  withRegion do
    let _ ← symbol "["
    let es ← optional (starNamedExpressions g)
    let _ ← symbol "]"
    return fun r => .list r (es.getD [])

def tupleRule : Reader Expr :=
  withRegion do
    let _ ← symbol "("
    let es ← optional do
      let e ← g.starNamed
      let _ ← symbol ","
      let es ← optional (starNamedExpressions g)
      return e :: es.getD []
    let _ ← symbol ")"
    return fun r => .tuple r (es.getD [])

def generatorRule : Reader Expr :=
  withRegion (do
    let _ ← symbol "("
    let e ← plainOrAssignment g
    let cs ← forIfClauses g
    let _ ← symbol ")"
    return fun r => .comprehension r .generator e cs)
  <|> mistake (misbuiltComprehension g)

/-- An assignment in a place where only `==` or `:=` makes sense. -/
def misnamedExpression : Reader Expr :=
  remembering .misnamed <|
    (do
      let e ← g.expression
      let _ ← symbol ":="
      let _ ← g.expression
      failAt e.loc (.cannotName (nounOf e)))
    <|> (do
      let a ← nameRule
      let _ ← symbol "="
      let _ ← g.bitOr
      notFollowedBy (anyOf ["=", ":="])
      failAt a.loc .assignmentForComparison)
    <|> (do
      notFollowedBy (listRule g <|> tupleRule g <|> generatorRule g <|>
        (withRegion do
          let _ ← anyOf ["True", "None", "False"]
          return fun r => .literal r .none))
      let a ← g.bitOr
      let _ ← symbol "="
      let _ ← g.bitOr
      notFollowedBy (anyOf ["=", ":="])
      failAt a.loc (.cannotAssignHere (nounOf a)))

def namedExpression : Reader Expr :=
  assignmentExpression g <|> mistake (misnamedExpression g) <|> plainExpression g

/-- The rule behind `Rules.starNamed`. -/
def starNamedExpression : Reader Expr :=
  withRegion (do
    let _ ← symbol "*"
    let e ← g.bitOr
    return fun r => .starred r e)
  <|> namedExpression g

def groupRule : Reader Expr :=
  (do
    let _ ← symbol "("
    let e ← yieldExpression g <|> namedExpression g
    let _ ← symbol ")"
    return e)
  <|> mistake (
    (do
      let _ ← symbol "("
      let e ← starredExpression g
      let _ ← symbol ")"
      failAt e.loc .starredGroup)
    <|> (do
      let _ ← symbol "("
      let t ← symbol "**"
      let _ ← g.expression
      let _ ← symbol ")"
      failAt t.loc .doubleStarredGroup))

def listComprehension : Reader Expr :=
  withRegion (do
    let _ ← symbol "["
    let e ← namedExpression g
    let cs ← forIfClauses g
    let _ ← symbol "]"
    return fun r => .comprehension r .list e cs)
  <|> mistake (misbuiltComprehension g)

def setComprehension : Reader Expr :=
  withRegion (do
    let _ ← symbol "\x7b"
    let e ← namedExpression g
    let cs ← forIfClauses g
    let _ ← symbol "\x7d"
    return fun r => .comprehension r .set e cs)
  <|> mistake (misbuiltComprehension g)

def setRule : Reader Expr :=
  withRegion do
    let _ ← symbol "\x7b"
    let es ← starNamedExpressions g
    let _ ← symbol "\x7d"
    return fun r => .set r es

def keyValue : Reader (Expr × Expr) := do
  let k ← g.expression
  let _ ← symbol ":"
  let v ← g.expression
  return (k, v)

def dictItem : Reader (DictItem Expr) :=
  (do
    let _ ← symbol "**"
    let e ← g.bitOr
    return ⟨none, e⟩)
  <|> (do
    let (k, v) ← keyValue g
    return ⟨some k, v⟩)

/-- A dict entry without its colon or without its value. -/
def misbuiltItem : Reader Unit :=
  (do
    let e ← g.expression
    notFollowedBy (symbol ":")
    let ctx ← read
    rejectAt e.loc.line (ctx.report e.loc.line e.loc.endCol) .dictColon)
  <|> misvalued

where
  misvalued : Reader Unit :=
    (do
      let _ ← g.expression
      let _ ← symbol ":"
      let t ← symbol "*"
      let _ ← g.bitOr
      failAt t.loc .dictStarredValue)
    <|> (do
      let _ ← g.expression
      let t ← symbol ":"
      followedBy (anyOf ["\x7d", ","])
      failAt t.loc .dictValue)

/-- Entries of which one is incomplete. -/
def misbuiltItems : Reader Unit :=
  (do
    let _ ← sepBy1 (dictItem g) (symbol ",")
    let _ ← symbol ","
    misbuiltItem g)
  <|> misbuiltItem.misvalued g

def dictRule : Reader Expr :=
  withRegion (do
    let _ ← symbol "\x7b"
    let items ← optional do
      let items ← sepBy1 (dictItem g) (symbol ",")
      let _ ← optional (symbol ",")
      return items
    let _ ← symbol "\x7d"
    return fun r => .dict r (items.getD []))
  <|> (do
    let _ ← symbol "\x7b"
    misbuiltItems g
    let _ ← symbol "\x7d"
    mismatch)

def dictComprehension : Reader Expr :=
  withRegion (do
    let _ ← symbol "\x7b"
    let (k, v) ← keyValue g
    let cs ← forIfClauses g
    let _ ← symbol "\x7d"
    return fun r => .dictComprehension r k v cs)
  <|> mistake (do
    let _ ← symbol "\x7b"
    let t ← symbol "**"
    let _ ← g.bitOr
    let _ ← forIfClauses g
    let _ ← symbol "\x7d"
    failAt t.loc .dictComprehensionUnpacking)

/-- A constant written as a word or as three dots. -/
def constantRule : Reader Expr := do
  let t ← token
  if t.kind == .symbol then
    let constant (v : Literal) : Reader Expr := do
      advance
      return .literal t.loc v
    match t.text with
    | "True" => constant (.bool true)
    | "False" => constant (.bool false)
    | "None" => constant .none
    | "..." => constant .ellipsis
    | _ => mismatch
  else mismatch

/-- The smallest expressions. -/
def atomRule : Reader Expr := do
  let t ← token
  match t.kind with
  | .name => nameRule
  | .number => numberRule
  | .string => stringsRule g
  | .symbol =>
    match t.text with
    | "(" => tupleRule g <|> groupRule g <|> generatorRule g
    | "[" => listRule g <|> listComprehension g
    | "\x7b" => dictRule g <|> setRule g <|> dictComprehension g <|> setComprehension g
    | _ => constantRule
  | _ => mismatch

end RuleBench.Script.Grammar
