import RuleBench.Script.Grammar.Call

/-!
# Targets

What may stand left of an assignment, after `for` and after `del`.
-/

namespace RuleBench.Script.Grammar

open Reader

variable (g : Rules)

/-- Targets in brackets, where a single one needs no comma. -/
def listTargets : Reader (List Expr) := do
  let es ← sepBy1 g.starTarget (symbol ",")
  let _ ← optional (symbol ",")
  return es

/-- Targets in parentheses, where a single one needs a comma. -/
def tupleTargets : Reader (List Expr) :=
  (do
    let e ← g.starTarget
    let es ← many1 (do let _ ← symbol ","; g.starTarget)
    let _ ← optional (symbol ",")
    return e :: es)
  <|> (do
    let e ← g.starTarget
    let _ ← symbol ","
    return [e])

/-- A target without a star. `again` reads one in parentheses. -/
def atomTarget (again : Reader Expr) : Reader Expr :=
  nameRule
  <|> (do
    let _ ← symbol "("
    let e ← again
    let _ ← symbol ")"
    return e)
  <|> withRegion (do
    let _ ← symbol "("
    let es ← optional (tupleTargets g)
    let _ ← symbol ")"
    return fun r => .tuple r (es.getD []))
  <|> withRegion (do
    let _ ← symbol "["
    let es ← optional (listTargets g)
    let _ ← symbol "]"
    return fun r => .list r (es.getD []))

/-- A target without a star in front; it recurs through parentheses. -/
def unstarredTarget : Reader Expr :=
  remembering .starAtomTarget <|
    lastStep g
    <|> atomTarget g (do
      let t ← token
      if t.isSymbol "*" then mismatch else g.starTarget)

/-- The rule behind `Rules.starTarget`. -/
def starTargetRule : Reader Expr :=
  remembering .starTarget <|
    withRegion (do
      let _ ← symbol "*"
      notFollowedBy (symbol "*")
      let e ← g.starTarget
      return fun r => .starred r e)
    <|> unstarredTarget g

/-- The rule behind `Rules.starTargets`. -/
def starTargetsRule : Reader Expr :=
  (do
    let e ← g.starTarget
    notFollowedBy (symbol ",")
    return e)
  <|> withRegion (do
    let e ← g.starTarget
    let es ← many (do let _ ← symbol ","; g.starTarget)
    let _ ← optional (symbol ",")
    return fun r => .tuple r (e :: es))

/-- The rule behind `Rules.singleTarget`. -/
def singleTargetRule : Reader Expr :=
  lastStep g
  <|> nameRule
  <|> (do
    let _ ← symbol "("
    let e ← g.singleTarget
    let _ ← symbol ")"
    return e)

def delTargets : Reader (List Expr) := do
  let es ← sepBy1 g.delTarget (symbol ",")
  let _ ← optional (symbol ",")
  return es

/-- The rule behind `Rules.delTarget`. -/
def delTargetRule : Reader Expr :=
  remembering .delTarget <|
    lastStep g
    <|> nameRule
    <|> (do
      let _ ← symbol "("
      let e ← g.delTarget
      let _ ← symbol ")"
      return e)
    <|> withRegion (do
      let _ ← symbol "("
      let es ← optional (delTargets g)
      let _ ← symbol ")"
      return fun r => .tuple r (es.getD []))
    <|> withRegion (do
      let _ ← symbol "["
      let es ← optional (delTargets g)
      let _ ← symbol "]"
      return fun r => .list r (es.getD []))

end RuleBench.Script.Grammar
