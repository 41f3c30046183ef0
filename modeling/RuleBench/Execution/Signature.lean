import RuleBench.Execution.Kind

/-!
# Arguments and parameters

Puts the arguments of a call under the names of the parameters of a declared function. Arguments by
name are looked at before it is known whether there are too many by position; the missing ones come
last.
-/

namespace RuleBench.Execution

open RuleBench.Script

namespace Signature

/-- Names in a sentence. -/
def listed (names : List String) : String :=
  match names.map fun n => "'" ++ n ++ "'" with
  | [a, b] => a ++ " and " ++ b
  | quoted =>
    match quoted.getLast?, quoted.dropLast with
    | some last, a :: b :: rest => ", ".intercalate (a :: b :: rest) ++ ", and " ++ last
    | _, _ => ", ".intercalate quoted

def ending (n : Nat) : String := if n == 1 then "" else "s"

/-- Why arguments do not fit parameters. -/
inductive Mismatch where
  | positionalOnlyByName (names : List String)
  | unexpectedName (name : String)
  | repeated (name : String)
  /-- Too many by position, for a number of parameters of which some have defaults; some parameters
  that take names only were given too. -/
  | tooMany (given parameters defaults namedOnly : Nat)
  | missing (kind : String) (names : List String)
deriving Repr, DecidableEq

/-- What is wrong with a call of a function. -/
def Mismatch.message (path : String) : Mismatch → String
  | positionalOnlyByName names =>
    path ++ "() got some positional-only arguments passed as keyword arguments: '" ++
      ", ".intercalate names ++ "'"
  | unexpectedName name => path ++ "() got an unexpected keyword argument '" ++ name ++ "'"
  | repeated name => path ++ "() got multiple values for argument '" ++ name ++ "'"
  | tooMany given parameters defaults namedOnly =>
    let takes := if defaults == 0 then toString parameters
      else "from " ++ toString (parameters - defaults) ++ " to " ++ toString parameters
    let also := if namedOnly == 0 then ""
      else " positional argument" ++ ending given ++ " (and " ++ toString namedOnly ++
        " keyword-only argument" ++ ending namedOnly ++ ")"
    let were := if given == 1 && namedOnly == 0 then "was" else "were"
    path ++ "() takes " ++ takes ++ " positional argument" ++
      ending (if defaults == 0 then parameters else 2) ++
      " but " ++ toString given ++ also ++ " " ++ were ++ " given"
  | missing kind names =>
    path ++ "() missing " ++ toString names.length ++ " required " ++ kind ++ " argument" ++
      ending names.length ++ ": " ++ listed names

/-- Puts arguments by name under the parameters that take names; the others are left over. -/
def placeNames (open' closed : List String) (takesRest : Bool) :
    Bindings → Bindings → Bindings → Except Mismatch (Bindings × Bindings)
  | bound, rest, [] => .ok (bound, rest)
  | bound, rest, (n, v) :: named =>
    if open'.contains n then
      if bound.has n then .error (.repeated n)
      else placeNames open' closed takesRest (bound.put n v) rest named
    else if takesRest then placeNames open' closed takesRest bound (rest.put n v) named
    else
      match (n :: named.map (·.1)).filter closed.contains with
      | [] => .error (.unexpectedName n)
      | names => .error (.positionalOnlyByName names)

/-- Defaults for parameters that are without a value, and the parameters that stay without one. -/
def fill (defaults : Bindings) : List String → Bindings → Bindings × List String
  | [], bound => (bound, [])
  | n :: ns, bound =>
    if bound.has n then fill defaults ns bound
    else match defaults.lookup n with
      | some v => fill defaults ns (bound.put n v)
      | none =>
        let (bound, missing) := fill defaults ns bound
        (bound, n :: missing)

/-- What the parameters of a function stand for in a call. -/
structure Filled where
  bound : Bindings
  /-- Arguments by position that no parameter names. -/
  extra : List Value
  /-- Arguments by name that no parameter names. -/
  rest : Bindings

/-- Matches arguments with parameters. -/
def place (c : Closure) (args : List Value) (named : Bindings) : Except Mismatch Filled := do
  let ps := c.params
  let closed := ps.positionalOnly.map Param.name
  let plain := ps.plain.map Param.name
  let only := ps.keywordOnly.map Param.name
  let positional := closed ++ plain
  let bound := positional.zip args
  let extra := args.drop positional.length
  let (bound, rest) ←
    placeNames (plain ++ only) closed ps.keywordRest.isSome bound [] named
  if !extra.isEmpty && ps.rest.isNone then
    throw (.tooMany args.length positional.length (positional.filter c.defaults.has).length
      (only.filter bound.has).length)
  let (bound, missing) := fill c.defaults positional bound
  if !missing.isEmpty then throw (.missing "positional" missing)
  let (bound, missing) := fill c.defaults only bound
  if !missing.isEmpty then throw (.missing "keyword-only" missing)
  return ⟨bound, extra, rest⟩

end Signature

/-- The variables that a call of a function starts with. -/
def bindArguments (c : Closure) (args : List Value) (named : Bindings) : Action Bindings := do
  match Signature.place c args named with
  | .error e => typeError (e.message c.path)
  | .ok filled =>
    let rest := match c.params.rest with
      | some p => [(p.name, Value.tuple filled.extra)]
      | none => []
    let keywordRest ← match c.params.keywordRest with
      | some p => do
        let d ← new (.dict (filled.rest.map fun b => (Value.str b.1, b.2)).toArray)
        pure [(p.name, d)]
      | none => pure []
    return filled.bound ++ rest ++ keywordRest

end RuleBench.Execution
