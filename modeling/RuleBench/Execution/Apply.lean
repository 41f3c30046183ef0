import RuleBench.Execution.Signature
import RuleBench.Execution.Statement

/-!
# Calls

What happens when a value is called: known functions answer at once, a declared function gets its
arguments into variables and runs, a generator is only made ready. The statements of declared
functions are found by their numbers.
-/

namespace RuleBench.Execution

open RuleBench.Script

def notCallable {α : Type} (v : Value) : Action α :=
  typeErrorOf v fun t => "'" ++ t ++ "' object is not callable"

section

variable (code : Nat → List Stmt)

/-- Calls a declared function. -/
def applyClosure (c : Closure) (args : List Value) (named : Bindings) : Action Value := do
  let frame ← alloc (.frame (← bindArguments c args named))
  match c.form with
  | .plain => runBody code c frame
  | form => new (.generator c.name c.path form (.fresh (.function c frame)))

/-- Calls a value. -/
def apply (f : Value) (args : List Value) (named : Bindings) : Action Value := do
  match f, ← objOf f with
  | .builtin name, _ => Builtin.run name args named
  | .method owner name self, _ => callMethod owner name self args named
  | .slot owner name, _ => callSlot owner name args named
  | .type t, _ => Construct.instantiate t args named
  | _, some (.function c _) => applyClosure code c args named
  | _, some (.boundMethod g self) => call g (self :: args) named
  | _, some (.staticMethod g) => call g args named
  | f, some (.instance ..) => match ← declared? f "__call__" with
    | some g => do call (← bindTo f (← typeRefOf f) g) args named
    | none => notCallable f
  | f, _ => notCallable f

/-- Starts what a generator works off. -/
def beginWork : GeneratorWork → Action Value
  | .function c frame => runBody code c frame
  | .comprehension element clauses source scopes => runComprehension element clauses source scopes

end

/-- Whether a call of a value takes a level of nesting. -/
def World.isNested (w : World) (f : Value) : Bool :=
  match w.obj? f with
  | some (.function ..) => true
  | _ => false

end RuleBench.Execution
