import RuleBench.Script.Scope

/-!
# Imports from the future

`from __future__ import …` switches a feature of the language on. Such imports stand at the start of
a script, after its docstring at most.
-/

namespace RuleBench.Script

/-- The features that have a name. -/
def futureFeatures : List String :=
  ["nested_scopes", "generators", "division", "absolute_import", "with_statement",
    "print_function", "unicode_literals", "barry_as_FLUFL", "generator_stop", "annotations"]

def futureModule : String := "__future__"

/-- What a script switches on: whether annotations stay unevaluated. -/
structure Future where
  annotations : Bool
deriving Repr, DecidableEq

namespace Future

def none : Future := ⟨false⟩

/-- An import from the future. -/
def isImport : Stmt → Bool
  | .importFrom _ (some m) _ _ => m == futureModule
  | _ => false

/-- Imports from the future stand at the start of a script, with nothing but constants between. -/
def leads : Stmt → Bool
  | .expr _ (.literal ..) => true
  | s => isImport s

/-- The features of one import statement. -/
def ofNames (f : Future) (loc : Region) : List Alias → Except Fault Future
  | [] => .ok f
  | a :: rest =>
    if a.name == "annotations" then ofNames { f with annotations := true } loc rest
    else if a.name == "braces" then .error (faultAt loc .futureBraces)
    else if futureFeatures.contains a.name then ofNames f loc rest
    else .error (faultAt loc (.futureUnknown a.name))

/-- Reads statements until one that is neither an import from the future nor a constant is followed
by another line; `closed` tells that such a statement stands on the line `last`. -/
def scan (f : Future) (closed : Bool) (last : Nat) : List Stmt → Except Fault Future
  | [] => .ok f
  | s :: rest =>
    if closed && s.loc.line > last then .ok f
    else match s with
      | .importFrom loc (some m) names _ =>
        if m == futureModule then
          if closed then .error (faultAt loc .futureLate)
          else do
            let f ← ofNames f loc names
            scan f false loc.line rest
        else scan f true loc.line rest
      | .expr loc (.literal ..) => scan f closed loc.line rest
      | s => scan f true s.loc.line rest

/-- The features that a script switches on. -/
def ofScript (script : List Stmt) : Except Fault Future := scan none false 0 script

end Future

end RuleBench.Script
