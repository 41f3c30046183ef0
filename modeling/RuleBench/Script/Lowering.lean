import RuleBench.Script.Depth
import RuleBench.Script.Grammar
import RuleBench.Script.Placement
import RuleBench.Script.Plain
import RuleBench.Script.Print

/-!
# Lowering

A script is read, checked, relieved of its annotations and written again. The outcome is either code
or the one reason why there is none.
-/

namespace RuleBench.Script

/-- Why a text has no lowered code. -/
inductive LoweringError where
  | fault (fault : Fault)
  | nullCharacter
  | readerExhausted
  | treeTooDeep
  | unprintable (cause : Unprintable)
deriving Repr

namespace LoweringError

/-- The wording: faults speak for themselves, other causes name the failure. -/
def message : LoweringError → String
  | fault f => f.defect.message
  | nullCharacter =>
    "Source cannot be compiled: ValueError: source code string cannot contain null bytes"
  | readerExhausted => "Source cannot be compiled: MemoryError: "
  | treeTooDeep => "Source cannot be compiled: RecursionError: " ++
      "maximum recursion depth exceeded during ast construction"
  | unprintable u => "Source cannot be compiled: ValueError: " ++ u.message

def ofRejection : Rejection → LoweringError
  | .fault f => fault f
  | .nullCharacter => nullCharacter
  | .readerExhausted => readerExhausted
  | .treeTooDeep => treeTooDeep

/-- Line and column, where the error has a place. -/
def place? : LoweringError → Option (Nat × Nat)
  | fault f => some (f.line, f.column)
  | _ => none

end LoweringError

/-- The checks that follow reading, in their order. -/
def check (script : List Stmt) : Except Fault Unit := do
  let future ← Future.ofScript script
  let _ ← Scope.ofScript future.annotations script
  checkPlacement future script

/-- Reads a script and checks it. -/
def parseChecked (text : String) : Except Rejection (List Stmt) := do
  let script ← parse text
  if depthOfBlock script > greatestDepth then .error .treeTooDeep
  match check script with
  | .error f => .error (.fault f)
  | .ok () => .ok script

/-- The code of a script. -/
def lower (text : String) : Except LoweringError String :=
  match parseChecked text with
  | .error r => .error (.ofRejection r)
  | .ok script =>
    match printScript (plainScript script) with
    | .error u => .error (.unprintable u)
    | .ok code => .ok (code ++ "\n")

end RuleBench.Script
