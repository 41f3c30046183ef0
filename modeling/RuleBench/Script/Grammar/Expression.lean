import RuleBench.Script.Grammar.Call
import RuleBench.Script.Grammar.Parameters

/-!
# Expressions

Operators by level, from `or` down to the power sign, conditional expressions and lambdas.
-/

namespace RuleBench.Script.Grammar

open Reader

variable (g : Rules)

def awaitPrimary : Reader Expr :=
  remembering .awaitPrimary <|
    withRegion (do
      let _ ← symbol "await"
      let e ← primaryRule g
      return fun r => .await r e)
    <|> primaryRule g

def powerRule : Reader Expr := do
  let start ← token
  let e ← awaitPrimary g
  let right ← optional (do let _ ← symbol "**"; g.factor)
  match right with
  | none => return e
  | some f =>
    let stop := textBefore (← read).tokens.tokens (← get).pos
    return .binOp (start.loc.upTo stop.loc) e .pow f

def signOf : String → Option UnaryOp
  | "+" => some .plus
  | "-" => some .minus
  | "~" => some .invert
  | _ => none

/-- The rule behind `Rules.factor`. -/
def factorRule : Reader Expr :=
  remembering .factor do
    let t ← token
    match (if t.kind == .symbol then signOf t.text else none) with
    | some op =>
      withRegion (do
        advance
        let e ← g.factor
        return fun r => .unaryOp r op e)
      <|> powerRule g
    | none => powerRule g

/-- A level of operators that group to the left. -/
@[inline] def leftLevel (rule : ExprRule) (operand : Reader Expr)
    (op? : String → Option BinOp) : Reader Expr :=
  remembering rule do
    let start ← token
    let e ← operand
    let step (e : Expr) : Reader Expr := do
      let t ← token
      match (if t.kind == .symbol then op? t.text else none) with
      | none => mismatch
      | some op =>
        advance
        let f ← operand
        let stop := textBefore (← read).tokens.tokens (← get).pos
        return .binOp (start.loc.upTo stop.loc) e op f
    growing step (← bound) e

def termRule : Reader Expr :=
  leftLevel .term (factorRule g) fun
    | "*" => some .mul
    | "/" => some .div
    | "//" => some .floorDiv
    | "%" => some .mod
    | "@" => some .matMul
    | _ => none

def sumRule : Reader Expr :=
  leftLevel .sum (termRule g) fun
    | "+" => some .add
    | "-" => some .sub
    | _ => none

def shiftRule : Reader Expr :=
  leftLevel .shift (sumRule g) fun
    | "<<" => some .shiftLeft
    | ">>" => some .shiftRight
    | _ => none

def bitAndRule : Reader Expr :=
  leftLevel .bitAnd (shiftRule g) fun
    | "&" => some .bitAnd
    | _ => none

def bitXorRule : Reader Expr :=
  leftLevel .bitXor (bitAndRule g) fun
    | "^" => some .bitXor
    | _ => none

/-- The rule behind `Rules.bitOr`. -/
def bitOrRule : Reader Expr :=
  leftLevel .bitOr (bitXorRule g) fun
    | "|" => some .bitOr
    | _ => none

/-- An operator of comparison; some take two words. -/
def compareOp : Reader CompareOp := do
  let t ← token
  let one (op : CompareOp) : Reader CompareOp := do
    advance
    return op
  if t.kind != .symbol then mismatch
  else match t.text with
    | "==" => one .eq
    | "!=" => one .ne
    | "<=" => one .le
    | "<" => one .lt
    | ">=" => one .ge
    | ">" => one .gt
    | "not" => do
      advance
      let _ ← symbol "in"
      return .notIn
    | "in" => one .isIn
    | _ => mismatch

def comparand : Reader (Comparand Expr) :=
  (do
    let op ← compareOp
    let e ← bitOrRule g
    return ⟨op, e⟩)
  <|> (do
    let _ ← symbol "is"
    let _ ← symbol "not"
    let e ← bitOrRule g
    return ⟨.isNot, e⟩)
  <|> (do
    let _ ← symbol "is"
    let e ← bitOrRule g
    return ⟨.is, e⟩)

def comparisonRule : Reader Expr := do
  let (e, chain, r) ← (do
    let ((e, chain), r) ← located (do
      let e ← bitOrRule g
      let chain ← many (comparand g)
      return (e, chain))
    return (e, chain, r))
  return if chain.isEmpty then e else .compare r e chain

/-- The rule behind `Rules.inversion`. -/
def inversionRule : Reader Expr :=
  remembering .inversion <|
    withRegion (do
      let _ ← symbol "not"
      let e ← g.inversion
      return fun r => .unaryOp r .not e)
    <|> comparisonRule g

/-- A level of words between operands. -/
@[inline] def wordLevel (rule : ExprRule) (operand : Reader Expr) (word : String)
    (op : BoolOp) : Reader Expr :=
  remembering rule do
    let ((e, es), r) ← located (do
      let e ← operand
      let es ← many (do let _ ← symbol word; operand)
      return (e, es))
    return if es.isEmpty then e else .boolOp r op (e :: es)

def conjunctionRule : Reader Expr := wordLevel .conjunction (inversionRule g) "and" .and

/-- The rule behind `Rules.disjunction`. -/
def disjunctionRule : Reader Expr := wordLevel .disjunction (conjunctionRule g) "or" .or

def lambdaRule : Reader Expr :=
  withRegion do
    let _ ← symbol "lambda"
    let ps ← optional (Style.lambda.params g)
    let _ ← symbol ":"
    let body ← g.expression
    return fun r => .lambda r (ps.getD noParams) body

/-- A conditional expression, its first operand alone, or a lambda. -/
def soundExpression : Reader Expr :=
  withRegion (do
    let body ← disjunctionRule g
    let _ ← symbol "if"
    let test ← disjunctionRule g
    let _ ← symbol "else"
    let orelse ← g.expression
    return fun r => .ifElse r test body orelse)
  <|> disjunctionRule g
  <|> lambdaRule g

/-- Whether an expression is the name of a statement of old. -/
def isOldStatement : Expr → Bool
  | .name _ id => id == "print" || id == "exec"
  | _ => false

/-- Two expressions side by side, or a condition without its alternative. -/
def misbuiltExpression {α : Type} : Reader α :=
  (do
    notFollowedBy (
      (do let _ ← nameToken; let _ ← kind .string; pure ())
      <|> (do let _ ← tokenIf fun t => t.isName && softKeywords.contains t.text; pure ()))
    let a ← disjunctionRule g
    let b ← trusting (soundExpression g)
    if isOldStatement a then mismatch
    else if (← lastRead).level == 0 then mismatch
    else
      let _ := b
      failAt a.loc .forgottenComma)
  <|> (do
    let a ← disjunctionRule g
    let _ ← symbol "if"
    let _ ← disjunctionRule g
    notFollowedBy (anyOf ["else", ":"])
    failAt a.loc .missingElse)

/-- A statement of old, written without parentheses. -/
def oldStatement {α : Type} : Reader α := do
  let a ← nameRule
  notFollowedBy (symbol "(")
  let _ ← g.starExpressions
  match a with
  | .name r id => if isOldStatement a then failAt r (.forgottenParentheses id) else mismatch
  | _ => mismatch

/-- The rule behind `Rules.expression`. -/
def expressionRule : Reader Expr :=
  remembering .expression <|
    mistake (misbuiltExpression g)
    <|> mistake (oldStatement g)
    <|> soundExpression g

def starExpression : Reader Expr :=
  remembering .starExpression <|
    withRegion (do
      let _ ← symbol "*"
      let e ← bitOrRule g
      return fun r => .starred r e)
    <|> g.expression

/-- The rule behind `Rules.starExpressions`. -/
def starExpressionsRule : Reader Expr :=
  withRegion (do
    let e ← starExpression g
    let es ← many1 (do let _ ← symbol ","; starExpression g)
    let _ ← optional (symbol ",")
    return fun r => .tuple r (e :: es))
  <|> withRegion (do
    let e ← starExpression g
    let _ ← symbol ","
    return fun r => .tuple r [e])
  <|> starExpression g

/-- Expressions without stars, as one. -/
def expressionsRule : Reader Expr :=
  withRegion (do
    let e ← g.expression
    let es ← many1 (do let _ ← symbol ","; g.expression)
    let _ ← optional (symbol ",")
    return fun r => .tuple r (e :: es))
  <|> withRegion (do
    let e ← g.expression
    let _ ← symbol ","
    return fun r => .tuple r [e])
  <|> g.expression

end RuleBench.Script.Grammar
