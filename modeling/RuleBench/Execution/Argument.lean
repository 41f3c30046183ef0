import RuleBench.Execution.Format

/-!
# Arguments of known functions

Known functions take their arguments by position, a few by name, and complain in their own words
when there are too few or too many.
-/

namespace RuleBench.Execution

def plural (n : Nat) (one : String := "argument") : String := if n == 1 then one else one ++ "s"

/-- Refuses arguments by name. -/
def noNames (function : String) (named : Bindings) : Action Unit := do
  if !named.isEmpty then typeError (function ++ "() takes no keyword arguments")

/-- The only argument. -/
def exactlyOne (function : String) (args : List Value) (named : Bindings) : Action Value := do
  noNames function named
  match args with
  | [v] => pure v
  | vs =>
    typeError (function ++ "() takes exactly one argument (" ++ toString vs.length ++ " given)")

def noArguments (function : String) (args : List Value) (named : Bindings) : Action Unit := do
  noNames function named
  if !args.isEmpty then
    typeError (function ++ "() takes no arguments (" ++ toString args.length ++ " given)")

/-- Between two numbers of arguments. -/
def checkCount (function : String) (low high : Nat) (args : List Value) : Action Unit := do
  let n := args.length
  let wrong (bound : String) (k : Nat) : Action Unit :=
    typeError (function ++ " expected " ++ bound ++ toString k ++ " " ++ plural k ++ ", got " ++
      toString n)
  if low == high && n != low then wrong "" low
  else if n < low then wrong "at least " low
  else if n > high then wrong "at most " high

/-- The same, in the words of functions whose arguments may come by name. -/
def checkCountNamed (function : String) (low high : Nat) (given : Nat) : Action Unit := do
  let wrong (bound : String) (k : Nat) : Action Unit :=
    typeError (function ++ "() takes " ++ bound ++ toString k ++ " " ++ plural k ++ " (" ++
      toString given ++ " given)")
  if low == high && given != low then wrong "exactly " low
  else if given < low then wrong "at least " low
  else if given > high then wrong "at most " high

def unexpectedName {α : Type} (function name : String) : Action α :=
  typeError ("'" ++ name ++ "' is an invalid keyword argument for " ++ function ++ "()")

/-- Refuses arguments by other names. -/
def allowNames (function : String) (names : List String) (named : Bindings) : Action Unit := do
  match named.find? fun b => !names.contains b.1 with
  | some (n, _) => unexpectedName function n
  | none => pure ()

/-- Arguments by position or by name, nothing for those that were not given. -/
def pickArguments (function : String) (names : List String) (args : List Value) (named : Bindings) :
    Action (List (Option Value)) := do
  checkCountNamed function 0 names.length (args.length + named.length)
  allowNames function names named
  return names.zipIdx.map fun (n, i) => match args[i]? with
    | some v => some v
    | none => named.lookup n

/-- Whether something is switched on: not where it is missing. -/
def isOn : Option Value → Action Bool
  | some v => truthy v
  | none => pure false

/-- A whole number: missing ones are the given default. -/
def indexOr (default : Int) : Option Value → Action Int
  | some v => asIndex v
  | none => pure default

/-- A position in a sequence: missing ones are the given default. -/
def boundOr (default : Int) : Option Value → Action Int
  | none => pure default
  | some v => return (← sliceBound v).getD default

end RuleBench.Execution
