import RuleBench.Script.Grammar.Compound
import RuleBench.Script.Token.Lexer

/-!
# Reading scripts

`parse` reads the text of a script. The recurring rules are tied together by depth: the reading of a
text that nests deeper than `maxDepth` is given up.
-/

namespace RuleBench.Script

namespace Grammar

open Reader

/-- How often rules may recur inside each other. -/
def maxDepth : Nat := 6000

/-- The rules, as far as a given depth. -/
def rules : Nat → Rules
  | 0 =>
    { expression := reject .readerExhausted
      disjunction := reject .readerExhausted
      inversion := reject .readerExhausted
      bitOr := reject .readerExhausted
      factor := reject .readerExhausted
      starNamed := reject .readerExhausted
      starExpressions := reject .readerExhausted
      starTargets := reject .readerExhausted
      starTarget := reject .readerExhausted
      singleTarget := reject .readerExhausted
      delTarget := reject .readerExhausted
      pattern := reject .readerExhausted
      annotatable := reject .readerExhausted
      elifTail := reject .readerExhausted
      block := reject .readerExhausted
      statements := reject .readerExhausted }
  | n + 1 =>
    { expression := fun c s => expressionRule (rules n) c s
      disjunction := fun c s => disjunctionRule (rules n) c s
      inversion := fun c s => inversionRule (rules n) c s
      bitOr := fun c s => bitOrRule (rules n) c s
      factor := fun c s => factorRule (rules n) c s
      starNamed := fun c s => starNamedExpression (rules n) c s
      starExpressions := fun c s => starExpressionsRule (rules n) c s
      starTargets := fun c s => starTargetsRule (rules n) c s
      starTarget := fun c s => starTargetRule (rules n) c s
      singleTarget := fun c s => singleTargetRule (rules n) c s
      delTarget := fun c s => delTargetRule (rules n) c s
      pattern := fun c s => patternRule (rules n) c s
      annotatable := fun c s => annotatableRule (rules n) c s
      elifTail := fun c s => conditional (rules n) "elif" c s
      block := fun c s => blockRule (rules n) c s
      statements := fun c s => statementsRule (rules n) c s }

/-- A whole script. -/
def scriptRule (g : Rules) : Reader (List Stmt) := do
  let ss ← optional g.statements
  let _ ← kind .endMark
  return ss.getD []

end Grammar

/-- Reads a script. -/
def parse (text : String) : Except Rejection (List Stmt) :=
  if text.toList.any (· == '\x00') then .error .nullCharacter
  else
    let source := Source.ofString text
    Grammar.Reader.run (Grammar.scriptRule (Grammar.rules Grammar.maxDepth))
      ⟨source, Tokens.ofSource source, false, none⟩

end RuleBench.Script
