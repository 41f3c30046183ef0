import RuleBench.Script.Grammar.Pattern
import RuleBench.Script.Grammar.Target

/-!
# Simple statements

Statements that fit on one line, and their sequences separated by semicolons.
-/

namespace RuleBench.Script.Grammar

open Reader

variable (g : Rules)

def rightSide : Reader Expr := yieldExpression g <|> g.starExpressions

def augmentedOp : String → Option BinOp
  | "+=" => some .add
  | "-=" => some .sub
  | "*=" => some .mul
  | "@=" => some .matMul
  | "/=" => some .div
  | "%=" => some .mod
  | "&=" => some .bitAnd
  | "|=" => some .bitOr
  | "^=" => some .bitXor
  | "<<=" => some .shiftLeft
  | ">>=" => some .shiftRight
  | "**=" => some .pow
  | "//=" => some .floorDiv
  | _ => none

def augmentedSign : Reader BinOp := do
  let t ← token
  match (if t.kind == .symbol then augmentedOp t.text else none) with
  | some op => do
    advance
    return op
  | none => mismatch

/-- The rule behind `Rules.annotatable`: a list or a tuple, in parentheses or not. -/
def annotatableRule : Reader Expr :=
  listRule g <|> tupleRule g
  <|> (do
    let _ ← symbol "("
    let e ← g.annotatable
    let _ ← symbol ")"
    return e)

def targetSigns : Reader Unit := do
  let _ ← many (do let _ ← g.starTargets; symbol "=")

/-- Assignments to what cannot be assigned to. -/
def misbuiltAssignment {α : Type} : Reader α :=
  (do
    let a ← g.annotatable
    let _ ← symbol ":"
    let _ ← g.expression
    failAt a.loc (.annotatedContainer (nounOf a)))
  <|> (do
    let a ← g.starNamed
    let _ ← symbol ","
    let _ ← many (starNamedExpressions g)
    let _ ← symbol ":"
    let _ ← g.expression
    failAt a.loc (.annotatedContainer "tuple"))
  <|> (do
    let a ← g.expression
    let _ ← symbol ":"
    let _ ← g.expression
    failAt a.loc .illegalAnnotationTarget)
  <|> (do
    targetSigns g
    let a ← g.starExpressions
    let _ ← symbol "="
    failInvalidTarget .assignment a)
  <|> (do
    targetSigns g
    let a ← yieldExpression g
    let _ ← symbol "="
    failAt a.loc .yieldTarget)
  <|> (do
    let a ← g.starExpressions
    let _ ← augmentedSign
    let _ ← rightSide g
    failAt a.loc (.illegalAugmented (nounOf a)))

def annotationTail : Reader (Expr × Option Expr) := do
  let _ ← symbol ":"
  let a ← g.expression
  let v ← optional (do let _ ← symbol "="; rightSide g)
  return (a, v)

def assignmentRule : Reader Stmt :=
  bordered <|
    withRegion (do
      let t ← nameRule
      let (a, v) ← annotationTail g
      return fun r => .annAssign r t a v true)
    <|> withRegion (do
      let t ← (do
          let _ ← symbol "("
          let t ← g.singleTarget
          let _ ← symbol ")"
          return t)
        <|> lastStep g
      let (a, v) ← annotationTail g
      return fun r => .annAssign r t a v false)
    <|> withRegion (do
      let ts ← many1 (do let t ← g.starTargets; let _ ← symbol "="; return t)
      let v ← rightSide g
      notFollowedBy (symbol "=")
      return fun r => .assign r ts v)
    <|> withRegion (do
      let t ← g.singleTarget
      let op ← augmentedSign
      committed do
        let v ← rightSide g
        return fun r => .augAssign r t op v)
    <|> mistake (misbuiltAssignment g)

def dottedName : Reader String := do
  let n ← identifier
  let ns ← many (do let _ ← symbol "."; identifier)
  return ".".intercalate (n :: ns)

def aliasRule (name : Reader String) : Reader Alias :=
  withRegion do
    let n ← name
    let a ← optional (do let _ ← symbol "as"; identifier)
    return fun r => ⟨r, n, a⟩

def importedNames : Reader (List Alias) := sepBy1 (aliasRule identifier) (symbol ",")

def importTargets : Reader (List Alias) :=
  (do
    let _ ← symbol "("
    let ns ← importedNames
    let _ ← optional (symbol ",")
    let _ ← symbol ")"
    return ns)
  <|> (do
    let ns ← importedNames
    notFollowedBy (symbol ",")
    return ns)
  <|> (do
    let t ← symbol "*"
    return [⟨t.loc, "*", none⟩])
  <|> mistake (do
    let _ ← importedNames
    let _ ← symbol ","
    let _ ← newline
    failHere .trailingComma)

def importRule : Reader Stmt :=
  withRegion (do
    let _ ← symbol "import"
    let ns ← sepBy1 (aliasRule dottedName) (symbol ",")
    return fun r => .importModules r ns)
  <|> withRegion (do
    let _ ← symbol "from"
    let dots ← many (anyOf [".", "..."])
    let level := dots.foldl (fun n t => n + t.text.length) 0
    let module ← optional dottedName
    if module.isNone && level == 0 then mismatch
    let _ ← symbol "import"
    let ns ← importTargets
    return fun r => .importFrom r module ns level)

def nameList (word : String) : Reader (List String) := do
  let _ ← symbol word
  sepBy1 identifier (symbol ",")

def deleteRule : Reader Stmt :=
  withRegion (do
    let _ ← symbol "del"
    let ts ← delTargets g
    followedBy ((do let _ ← symbol ";"; pure ()) <|> (do let _ ← newline; pure ()))
    return fun r => .delete r ts)
  <|> mistake (do
    let _ ← symbol "del"
    let e ← g.starExpressions
    failInvalidTarget .deletion e)

def raiseRule : Reader Stmt :=
  withRegion do
    let _ ← symbol "raise"
    let e ← optional g.expression
    let cause ← if e.isSome then optional (do let _ ← symbol "from"; g.expression) else pure none
    return fun r => .raise r e cause

/-- Statements that start with a keyword of their own. -/
def keywordStatement (word : String) : Reader Stmt :=
  match word with
  | "return" => withRegion do
    advance
    let e ← optional g.starExpressions
    return fun r => .returnStmt r e
  | "import" | "from" => importRule
  | "raise" => raiseRule g
  | "pass" => do
    let t ← symbol "pass"
    return .pass t.loc
  | "del" => deleteRule g
  | "yield" => withRegion do
    let e ← yieldExpression g
    return fun r => .expr r e
  | "assert" => withRegion do
    advance
    let e ← g.expression
    let m ← optional (do let _ ← symbol ","; g.expression)
    return fun r => .assert r e m
  | "break" => do
    let t ← symbol "break"
    return .breakLoop t.loc
  | "continue" => do
    let t ← symbol "continue"
    return .continueLoop t.loc
  | "global" => withRegion do
    let ns ← nameList "global"
    return fun r => .global r ns
  | "nonlocal" => withRegion do
    let ns ← nameList "nonlocal"
    return fun r => .nonlocal r ns
  | _ => mismatch

def simpleStatement : Reader Stmt :=
  assignmentRule g
  <|> withRegion (do
    let e ← g.starExpressions
    return fun r => .expr r e)
  <|> (do
    let t ← token
    if t.kind == .symbol then keywordStatement g t.text else mismatch)

def simpleStatements : Reader (List Stmt) :=
  (do
    let s ← simpleStatement g
    notFollowedBy (symbol ";")
    let _ ← newline
    return [s])
  <|> (do
    let ss ← sepBy1 (simpleStatement g) (symbol ";")
    let _ ← optional (symbol ";")
    let _ ← newline
    return ss)

end RuleBench.Script.Grammar
