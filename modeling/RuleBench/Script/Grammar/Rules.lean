import RuleBench.Script.Grammar.Reader
import RuleBench.Script.TextLiteral
import RuleBench.Text.Normal

/-!
# Rules that recur

The grammar is a set of rules that call each other. `Rules` holds those that can be reached again
from inside themselves; every other rule is a function of them. The knot is tied at the end of the
grammar, where each turn through a recurring rule costs one unit of depth.
-/

namespace RuleBench.Script.Grammar

open Reader

structure Rules where
  expression : Reader Expr
  disjunction : Reader Expr
  inversion : Reader Expr
  bitOr : Reader Expr
  factor : Reader Expr
  starNamed : Reader Expr
  starExpressions : Reader Expr
  starTargets : Reader Expr
  starTarget : Reader Expr
  singleTarget : Reader Expr
  delTarget : Reader Expr
  pattern : Reader Pattern
  annotatable : Reader Expr
  elifTail : Reader Stmt
  block : Reader (List Stmt)
  statements : Reader (List Stmt)

/-- How a diagnostic names an expression that cannot be assigned to. -/
def nounOf : Expr → String
  | .member .. => "attribute"
  | .subscript .. => "subscript"
  | .starred .. => "starred"
  | .name .. => "name"
  | .list .. => "list"
  | .tuple .. => "tuple"
  | .lambda .. => "lambda"
  | .call .. => "function call"
  | .boolOp .. | .binOp .. | .unaryOp .. => "expression"
  | .comprehension _ .generator .. => "generator expression"
  | .comprehension _ .list .. => "list comprehension"
  | .comprehension _ .set .. => "set comprehension"
  | .yield .. | .yieldFrom .. => "yield expression"
  | .await .. => "await expression"
  | .dictComprehension .. => "dict comprehension"
  | .dict .. => "dict literal"
  | .set .. => "set display"
  | .joined .. | .formatted .. => "f-string expression"
  | .literal _ .none => "None"
  | .literal _ (.bool true) => "True"
  | .literal _ (.bool false) => "False"
  | .literal _ .ellipsis => "ellipsis"
  | .literal .. => "literal"
  | .compare .. => "comparison"
  | .ifElse .. => "conditional expression"
  | .named .. => "named expression"
  | .slice .. => "slice"

/-- What a list of targets is for. -/
inductive TargetUse where
  | assignment
  | deletion
  | loop
deriving DecidableEq, BEq

mutual

/-- The first part of a target list that cannot be a target. -/
def invalidTarget (use : TargetUse) : Expr → Option Expr
  | .list _ es => invalidTargets use es
  | .tuple _ es => invalidTargets use es
  | .starred r e => if use == .deletion then some (.starred r e) else invalidTarget use e
  | .compare r left chain =>
    if use == .loop then
      match chain with
      | ⟨.isIn, _⟩ :: _ => invalidTarget use left
      | _ => none
    else some (.compare r left chain)
  | .name .. | .subscript .. | .member .. => none
  | e => some e

def invalidTargets (use : TargetUse) : List Expr → Option Expr
  | [] => none
  | e :: es => match invalidTarget use e with
    | some bad => some bad
    | none => invalidTargets use es

end

/-- Rejects a target list that holds something else than targets. -/
def failInvalidTarget {α : Type} (use : TargetUse) (e : Expr) : Reader α :=
  match invalidTarget use e with
  | none => mismatch
  | some bad =>
    failAt bad.loc (if use == .deletion then .cannotDelete (nounOf bad)
      else .cannotAssign (nounOf bad))

/-- A name; its spelling is brought to normal form. -/
def nameRule : Reader Expr := do
  let t ← nameToken
  return .name t.loc (Text.normalIdentifier t.text)

/-- The spelling of a name. -/
def identifier : Reader String := return Text.normalIdentifier (← nameToken).text

def numberRule : Reader Expr := do
  let t ← kind .number
  match Literal.ofNumber t.text with
  | .ok v => return .literal t.loc v
  | .error d => rejectAt t.loc.line 0 d

end RuleBench.Script.Grammar
