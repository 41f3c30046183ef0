import RuleBench.Script.Grammar.Expression

/-!
# Patterns

What may follow `case`. Names capture, dotted names and literals are compared with, sequences,
mappings and classes are taken apart.
-/

namespace RuleBench.Script.Grammar

open Reader

variable (g : Rules)

/-- A real number, as the first part of a complex one. -/
def realNumber : Reader Expr := do
  let e ← numberRule
  match e with
  | .literal r (.imaginary _) => failAt r .realNumberRequired
  | _ => return e

def imaginaryNumber : Reader Expr := do
  let e ← numberRule
  match e with
  | .literal _ (.imaginary _) => return e
  | _ => failAt e.loc .imaginaryNumberRequired

def negated (p : Reader Expr) : Reader Expr :=
  p <|> withRegion (do
    let _ ← symbol "-"
    let e ← p
    return fun r => .unaryOp r .minus e)

def complexNumber : Reader Expr :=
  withRegion do
    let a ← negated realNumber
    let t ← anyOf ["+", "-"]
    let b ← imaginaryNumber
    return fun r => .binOp r a (if t.text == "+" then .add else .sub) b

/-- A signed number that is no part of a sum. -/
def lonelyNumber : Reader Expr := do
  let e ← negated numberRule
  notFollowedBy (anyOf ["+", "-"])
  return e

def wordConstant : Reader (Region × Literal) := do
  let t ← anyOf ["None", "True", "False"]
  return (t.loc, match t.text with
    | "None" => .none
    | "True" => .bool true
    | _ => .bool false)

def literalPattern : Reader Pattern :=
  withRegion (do
    let e ← lonelyNumber <|> complexNumber <|> stringsRule g
    return fun r => .value r e)
  <|> (do
    let (r, v) ← wordConstant
    return .singleton r v)

/-- A literal as the key of a mapping pattern. -/
def literalKey : Reader Expr :=
  lonelyNumber <|> complexNumber <|> stringsRule g
  <|> (do
    let (r, v) ← wordConstant
    return .literal r v)

/-- The name of a capture: not the wildcard, and no start of something longer. -/
def captureName : Reader String := do
  notFollowedBy (softKeyword "_")
  let n ← identifier
  notFollowedBy (anyOf [".", "(", "="])
  return n

/-- Names with dots between them, at least `least` dots. -/
def dottedExpr (least : Nat) : Reader Expr := do
  let start ← token
  let e ← nameRule
  let step (e : Expr) : Reader Expr := do
    let _ ← symbol "."
    let n ← identifier
    return .member (start.loc.upTo (← lastRead).loc) e n
  let first ← if least == 0 then pure e else step e
  growing step (← bound) first

def starPattern : Reader Pattern :=
  withRegion (do
    let _ ← symbol "*"
    let n ← captureName
    return fun r => .star r (some n))
  <|> withRegion (do
    let _ ← symbol "*"
    let _ ← softKeyword "_"
    return fun r => .star r none)

def maybeStarPattern : Reader Pattern := starPattern <|> g.pattern

def maybeSequence : Reader (List Pattern) := do
  let ps ← sepBy1 (maybeStarPattern g) (symbol ",")
  let _ ← optional (symbol ",")
  return ps

def openSequence : Reader (List Pattern) := do
  let p ← maybeStarPattern g
  let _ ← symbol ","
  let ps ← optional (maybeSequence g)
  return p :: ps.getD []

def sequencePattern : Reader Pattern :=
  withRegion (do
    let _ ← symbol "["
    let ps ← optional (maybeSequence g)
    let _ ← symbol "]"
    return fun r => .sequence r (ps.getD []))
  <|> withRegion (do
    let _ ← symbol "("
    let ps ← optional (openSequence g)
    let _ ← symbol ")"
    return fun r => .sequence r (ps.getD []))

def keyPattern : Reader (Expr × Pattern) := do
  let k ← literalKey g <|> dottedExpr 1
  let _ ← symbol ":"
  let p ← g.pattern
  return (k, p)

def restPattern : Reader String := do
  let _ ← symbol "**"
  captureName

def mappingPattern : Reader Pattern :=
  let build (items : List (Expr × Pattern)) (rest : Option String) (r : Region) : Pattern :=
    .mapping r (items.map (·.1)) (items.map (·.2)) rest
  withRegion (do
    let _ ← symbol "\x7b"
    let _ ← symbol "\x7d"
    return build [] none)
  <|> withRegion (do
    let _ ← symbol "\x7b"
    let rest ← restPattern
    let _ ← optional (symbol ",")
    let _ ← symbol "\x7d"
    return build [] (some rest))
  <|> withRegion (do
    let _ ← symbol "\x7b"
    let items ← sepBy1 (keyPattern g) (symbol ",")
    let _ ← symbol ","
    let rest ← restPattern
    let _ ← optional (symbol ",")
    let _ ← symbol "\x7d"
    return build items (some rest))
  <|> withRegion (do
    let _ ← symbol "\x7b"
    let items ← sepBy1 (keyPattern g) (symbol ",")
    let _ ← optional (symbol ",")
    let _ ← symbol "\x7d"
    return build items none)

def namedPattern : Reader (String × Pattern) := do
  let n ← identifier
  let _ ← symbol "="
  let p ← g.pattern
  return (n, p)

def positionalPatterns : Reader (List Pattern) := sepBy1 g.pattern (symbol ",")

def namedPatterns : Reader (List (String × Pattern)) := sepBy1 (namedPattern g) (symbol ",")

def classPattern : Reader Pattern :=
  let build (cls : Expr) (ps : List Pattern) (ns : List (String × Pattern)) (r : Region) :
      Pattern := .classPattern r cls ps (ns.map (·.1)) (ns.map (·.2))
  withRegion (do
    let cls ← dottedExpr 0
    let _ ← symbol "("
    let _ ← symbol ")"
    return build cls [] [])
  <|> withRegion (do
    let cls ← dottedExpr 0
    let _ ← symbol "("
    let ps ← positionalPatterns g
    let _ ← optional (symbol ",")
    let _ ← symbol ")"
    return build cls ps [])
  <|> withRegion (do
    let cls ← dottedExpr 0
    let _ ← symbol "("
    let ns ← namedPatterns g
    let _ ← optional (symbol ",")
    let _ ← symbol ")"
    return build cls [] ns)
  <|> withRegion (do
    let cls ← dottedExpr 0
    let _ ← symbol "("
    let ps ← positionalPatterns g
    let _ ← symbol ","
    let ns ← namedPatterns g
    let _ ← optional (symbol ",")
    let _ ← symbol ")"
    return build cls ps ns)
  <|> mistake (do
    let _ ← dottedExpr 0
    let _ ← symbol "("
    let _ ← optional (do let _ ← positionalPatterns g; symbol ",")
    let _ ← namedPatterns g
    let _ ← symbol ","
    let ps ← positionalPatterns g
    failAt ((ps.head?.map Pattern.loc).getD default) .positionalPatternAfterKeyword)

/-- Patterns that need no parentheses anywhere. -/
def closedPattern : Reader Pattern := rememberingPattern <|
  literalPattern g
  <|> withRegion (do
    let n ← captureName
    return fun r => .capture r none (some n))
  <|> withRegion (do
    let _ ← softKeyword "_"
    return fun r => .capture r none none)
  <|> withRegion (do
    let e ← dottedExpr 1
    notFollowedBy (anyOf [".", "(", "="])
    return fun r => .value r e)
  <|> (do
    let _ ← symbol "("
    let p ← g.pattern
    let _ ← symbol ")"
    return p)
  <|> sequencePattern g
  <|> mappingPattern g
  <|> classPattern g

def orPattern : Reader Pattern :=
  withRegion do
    let ps ← sepBy1 (closedPattern g) (symbol "|")
    return fun r => match ps with
      | [p] => p
      | _ => .alternatives r ps

/-- The rule behind `Rules.pattern`. -/
def patternRule : Reader Pattern :=
  withRegion (do
    let p ← orPattern g
    let _ ← symbol "as"
    let n ← captureName
    return fun r => .capture r (some p) (some n))
  <|> mistake (
    (do
      let _ ← orPattern g
      let _ ← symbol "as"
      let t ← softKeyword "_"
      failAt t.loc .wildcardTarget)
    <|> (do
      let _ ← orPattern g
      let _ ← symbol "as"
      notFollowedBy nameToken
      let e ← g.expression
      failAt e.loc .patternTarget))
  <|> orPattern g

/-- What follows `case`. -/
def patternsRule : Reader Pattern :=
  withRegion (do
    let ps ← openSequence g
    return fun r => .sequence r ps)
  <|> g.pattern

end RuleBench.Script.Grammar
