import RuleBench.Script.Syntax

/-!
# Scripts without annotations

`plain` drops the annotations of a script, which only serve its reader: parameters and results lose
theirs, an annotated assignment becomes an assignment, an annotated name without a value disappears.
A body that is left empty gets a `pass`, and so does the `finally` of a `try` that would be left
with neither a handler nor a `finally`. Expressions hold no annotations but those of parameters,
which lambdas do not have.
-/

namespace RuleBench.Script

namespace Param

def plain (p : Param Expr) : Param Expr := ⟨p.loc, p.name, none, p.default⟩

@[simp] theorem plain_plain (p : Param Expr) : p.plain.plain = p.plain := rfl

end Param

namespace Params

/-- Parameters without annotations. -/
def bare (ps : Params Expr) : Params Expr :=
  ⟨ps.positionalOnly.map Param.plain, ps.plain.map Param.plain, ps.rest.map Param.plain,
    ps.keywordOnly.map Param.plain, ps.keywordRest.map Param.plain⟩

end Params

/-- A body that must not be empty. -/
def filled (loc : Region) : List Stmt → List Stmt
  | [] => [.pass loc]
  | s :: ss => s :: ss

theorem filled_ne_nil (loc : Region) (ss : List Stmt) : filled loc ss ≠ [] := by
  cases ss <;> simp [filled]

mutual

/-- What is left of a statement: itself without annotations, or nothing. -/
def Stmt.plain : Stmt → Option Stmt
  | .functionDef r isAsync n ps b ds _ =>
    some (.functionDef r isAsync n ps.bare (filled r (plainBlock b)) ds none)
  | .classDef r n bs ks b ds => some (.classDef r n bs ks (filled r (plainBlock b)) ds)
  | .annAssign _ _ _ none _ => none
  | .annAssign r t _ (some v) _ => some (.assign r [t] v)
  | .forLoop r isAsync t s b e =>
    some (.forLoop r isAsync t s (filled r (plainBlock b)) (plainBlock e))
  | .whileLoop r t b e => some (.whileLoop r t (filled r (plainBlock b)) (plainBlock e))
  | .ifElse r t b e => some (.ifElse r t (filled r (plainBlock b)) (plainBlock e))
  | .withBlock r isAsync is b => some (.withBlock r isAsync is (filled r (plainBlock b)))
  | .matchOn r s cs => some (.matchOn r s (plainCases r cs))
  | .tryBlock r isStar b hs e f =>
    let final := plainBlock f
    some (.tryBlock r isStar (filled r (plainBlock b)) (plainHandlers hs) (plainBlock e)
      (if hs.isEmpty then filled r final else final))
  | s => some s

/-- A block without annotations, which may be empty. -/
def plainBlock : List Stmt → List Stmt
  | [] => []
  | s :: ss => s.plain.toList ++ plainBlock ss

def plainHandlers : List (Handler Stmt) → List (Handler Stmt)
  | [] => []
  | ⟨r, t, n, b⟩ :: hs => ⟨r, t, n, filled r (plainBlock b)⟩ :: plainHandlers hs

def plainCases (r : Region) : List (MatchCase Stmt) → List (MatchCase Stmt)
  | [] => []
  | ⟨p, g, b⟩ :: cs => ⟨p, g, filled r (plainBlock b)⟩ :: plainCases r cs

end

/-- A script without annotations; one that is left empty still has a statement. -/
def plainScript (script : List Stmt) : List Stmt := filled default (plainBlock script)

end RuleBench.Script
