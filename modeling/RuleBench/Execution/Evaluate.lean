import RuleBench.Execution.Names

/-!
# Evaluation of expressions

An expression is worked off from left to right. Everything that runs code of its own, a call above
all, is asked for (`RuleBench.Execution.Action`), so that evaluation follows the structure of the
expression.
-/

namespace RuleBench.Execution

open RuleBench.Script

def literalValue : Literal → Value
  | .none => .none
  | .bool b => .bool b
  | .int n => .int n
  | .float x => .float x
  | .imaginary x => .complex 0.0 x
  | .str s _ => .str s
  | .wide codes _ => .str (String.ofList (codes.map Char.ofNat))
  | .bytes b => .bytes b
  | .ellipsis => .ellipsis

/-! ### Calls -/

/-- How a function is called in a message. -/
def calledText (f : Value) : Action String := do
  match ← attrOf? f "__qualname__" with
  | some path => do
    let path ← textOf path
    match ← attrOf? f "__module__" with
    | some (.str m) => pure (if m == "builtins" then path ++ "()" else m ++ "." ++ path ++ "()")
    | _ => pure (path ++ "()")
  | none => match f with
    | .method owner name _ => pure (owner ++ "." ++ name ++ "()")
    | f => shown f

/-- The values that a starred argument stands for. -/
def spread (complaint : Value → Action String) (v : Value) : Action (List Value) := do
  match ← iterator? v with
  | some _ => collect v
  | none => typeError (← complaint v)

def notSpread (v : Value) : Action String :=
  return "Value after * must be an iterable, not " ++ (← typeNameOf v)

/-- A starred argument that stands alone is named after the function in complaints. -/
def starComplaint (f : Value) (args : List Expr) (v : Value) : Action String := do
  if args.length == 1 then
    return (← calledText f) ++ " argument after * must be an iterable, not " ++ (← typeNameOf v)
  else notSpread v

/-- Whether a value can be taken for names with values. -/
def isMappingLike (v : Value) : Action Bool := do
  let w ← Action.world
  match w.obj? (w.content v) with
  | some (.dict _) => pure true
  | _ => return (← attrOf? v "keys").isSome

/-- Takes the entries of a double-starred element into a mapping. -/
def spreadEntries (d : Address) (v : Value) : Action Unit := do
  if ← isMappingLike v then putFrom d v
  else typeErrorOf v fun t => "'" ++ t ++ "' object is not a mapping"

/-- Names and values of a double-starred argument. -/
def spreadNames (f : Value) (soFar : Bindings) (v : Value) : Action Bindings := do
  if !(← isMappingLike v) then
    let text ← calledText f
    typeErrorOf v fun t => text ++ " argument after ** must be a mapping, not " ++ t
  else
    let d ← alloc (.dict #[])
    putFrom d v
    let es ← entriesOf d
    es.toList.foldlM (fun acc (k, x) => do
      match (← Action.world).text? k with
      | none => typeError "keywords must be strings"
      | some n =>
        if Bindings.has n acc then
          typeError ((← calledText f) ++ " got multiple values for keyword argument '" ++ n ++ "'")
        else pure (acc ++ [(n, x)])) soFar

/-- Calls a value; a few functions look at the place they are called from. -/
def callFrom (scopes : List Scope) (f : Value) (args : List Value) (named : Bindings) :
    Action Value := do
  if args.isEmpty && named.isEmpty then
    match f with
    | .type (.known "super") => Names.superHere scopes
    | .builtin "globals" => Names.everywhere scopes
    | .builtin "locals" => Names.here scopes
    | .builtin "vars" => Names.here scopes
    | .builtin "dir" => do
      let vs ← collect (← Names.here scopes)
      new (.list (← sortValues isLess vs .none false).toArray)
    | f => call f args named
  else call f args named

/-! ### Operators -/

def compareBy (op : CompareOp) (a b : Value) : Action Value := do
  match op with
  | .eq => relate .eq a b
  | .ne => relate .ne a b
  | .lt => relate .lt a b
  | .le => relate .le a b
  | .gt => relate .gt a b
  | .ge => relate .ge a b
  | .is => pure (.bool (identical a b))
  | .isNot => pure (.bool !(identical a b))
  | .isIn => return .bool (← contains b a)
  | .notIn => return .bool !(← contains b a)

/-! ### Unpacking -/

/-- Takes a number of values from an iterator; fewer where it ends. -/
def takeValues (i : Value) : Nat → Action (List Value)
  | 0 => pure []
  | n + 1 => do
    match ← next? i with
    | none => pure []
    | some v => return v :: (← takeValues i n)

def tooFew {α : Type} (wanted : String) (got : Nat) : Action α :=
  valueError ("not enough values to unpack (expected " ++ wanted ++ ", got " ++ toString got ++ ")")

/-- A value as the values for as many targets; a starred target takes a list. -/
def unpack (targets : List Expr) (v : Value) : Action (List Value) := do
  match ← iterator? v with
  | none => typeErrorOf v fun t => "cannot unpack non-iterable " ++ t ++ " object"
  | some i =>
    let n := targets.length
    match targets.findIdx? Expr.isStarred with
    | none => do
      let vs ← takeValues i n
      if vs.length < n then tooFew (toString n) vs.length
      else match ← next? i with
        | none => pure vs
        | some _ => valueError ("too many values to unpack (expected " ++ toString n ++ ")")
    | some before => do
      let after := n - 1 - before
      let front ← takeValues i before
      if front.length < before then tooFew ("at least " ++ toString (n - 1)) front.length
      else
        let rest ← drain i
        if rest.length < after then
          tooFew ("at least " ++ toString (n - 1)) (front.length + rest.length)
        else
          let starred ← new (.list (rest.take (rest.length - after)).toArray)
          pure (front ++ starred :: rest.drop (rest.length - after))

/-- The names that an assignment target binds. -/
def targetNames (target : Expr) : List String :=
  target.bindings.filterMap fun m => match m with
    | .name id .assigned _ => some id
    | _ => none

/-! ### Comprehensions and functions -/

/-- The scope of a comprehension. -/
def comprehensionScope (scopes : List Scope) (name : String) (clauses : List (Clause Expr)) :
    Action (List Scope) := do
  let frame ← alloc (.frame [])
  let names := (clauses.flatMap fun c => targetNames c.target).map (Names.kept scopes)
  return { kind := .comprehension, frame, locals := names,
           path := Names.pathOf scopes name } :: scopes

/-- A parameter of a function, under the name by which it is kept. -/
def keptParam (scopes : List Scope) (p : Param Expr) : Param Expr :=
  { p with name := Names.kept scopes p.name, annotation := none }

def keptParams (scopes : List Scope) (ps : Params Expr) : Params Expr where
  positionalOnly := ps.positionalOnly.map (keptParam scopes)
  plain := ps.plain.map (keptParam scopes)
  rest := ps.rest.map (keptParam scopes)
  keywordOnly := ps.keywordOnly.map (keptParam scopes)
  keywordRest := ps.keywordRest.map (keptParam scopes)

/-- A function as it is declared in scopes, with a body that has these mentions. -/
def closureOf (scopes : List Scope) (name : String) (isAsync : Bool) (ps : Params Expr)
    (defaults : Bindings) (mentions : List Mention) (body : FunctionBody) : Closure :=
  let own := OwnNames.ofMentions (Names.className? scopes) (ps.mentions ++ mentions)
  let generates := Script.yields mentions
  let sentToModule := match scopes with
    | s :: _ => s.globals.contains name
    | [] => false
  { name
    path := if sentToModule then name else Names.pathOf scopes name
    params := keptParams scopes ps
    defaults
    body
    form := match isAsync, generates with
      | false, false => .plain
      | false, true => .generator
      | true, false => .coroutine
      | true, true => .asyncGenerator
    locals := own.locals
    globals := own.globals
    outer := scopes }

/-- The iterator that is delegated to. -/
def delegate? (v : Value) : Action Value := do
  match ← objOf v with
  | some (.generator ..) => pure v
  | _ => iterator v

/-- Hands out all that an iterator hands out, and passes on to it what comes back. The value is the
one that the iterator ends with. -/
def delegate (i : Value) : Action Value := do
  let stepWith (back : Except Value Value) : Action (Except Value Value ⊕ Value) := do
    let out ← try
        let v ← match back with
          | .ok .none => advance i
          | .ok v => do call (← attrOf i "send") [v]
          | .error e => match ← attrOf? i "throw" with
            | some f => call f [e]
            | none => Action.raise e
        pure (Except.ok v)
      catch e =>
        if ← isInstanceOf e "StopIteration" then
          pure (Except.error (((← Action.world).errorArgs e).head?.getD .none))
        else Action.raise e
    match out with
    | .error result => pure (.inr result)
    | .ok v =>
      let back ← try
          let r ← Action.ask (.yield v)
          pure (Except.ok r)
        catch e => pure (Except.error e)
      pure (.inl back)
  loop (Except.ok .none) stepWith

mutual

/-- The value of an expression in scopes, the innermost first. -/
def evaluate (scopes : List Scope) : Expr → Action Value
  | .boolOp _ op operands => evaluateUntil scopes (op == .or) operands
  | .named _ target value => do
    let v ← evaluate scopes value
    match target with
    | .name _ id => Names.write (Names.outsideComprehensions scopes) id v
    | _ => pure ()
    pure v
  | .binOp _ left op right => do
    let a ← evaluate scopes left
    let b ← evaluate scopes right
    operate op a b
  | .unaryOp _ op operand => do operateUnary op (← evaluate scopes operand)
  | .lambda _ ps body => do
    let defaults ← evaluateDefaults scopes ps
    let c := closureOf scopes "<lambda>" false ps defaults body.mentions (.expression body)
    new (.function c [])
  | .ifElse _ test body orelse => do
    if ← truthy (← evaluate scopes test) then evaluate scopes body else evaluate scopes orelse
  | .dict _ items => do
    let d ← alloc (.dict #[])
    evaluateEntries scopes d items
    pure (.ref d)
  | .set _ elements => do
    let vs ← evaluateAll scopes notSpread elements
    new (.set (← membersOf vs) false)
  | .comprehension _ kind element clauses => do
    let source ← evaluateFirst scopes clauses
    let name := match kind with
      | .list => "<listcomp>"
      | .set => "<setcomp>"
      | .generator => "<genexpr>"
    let inner ← comprehensionScope scopes name clauses
    match kind with
    | .list => do
      let a ← alloc (.list #[])
      runClauses inner (some source) (do listPush a (← evaluate inner element)) clauses
      pure (.ref a)
    | .set => do
      let a ← alloc (.set #[] false)
      let add : Action Unit := do
        let v ← evaluate inner element
        match ← load a with
        | .set xs _ => do store a (.set (← insertMember xs v) false)
        | _ => pure ()
      runClauses inner (some source) add clauses
      pure (.ref a)
    | .generator =>
      new (.generator "<genexpr>" (Names.pathOf scopes "<genexpr>") .generator
        (.fresh (.comprehension element clauses source inner)))
  | .dictComprehension _ key value clauses => do
    let source ← evaluateFirst scopes clauses
    let inner ← comprehensionScope scopes "<dictcomp>" clauses
    let d ← alloc (.dict #[])
    let add : Action Unit := do
      let k ← evaluate inner key
      let v ← evaluate inner value
      Mapping.put d k v
    runClauses inner (some source) add clauses
    pure (.ref d)
  | .await _ value => do delegate (← delegate? (← evaluate scopes value))
  | .yield _ value => do Action.ask (.yield (← evaluateOption scopes value))
  | .yieldFrom _ value => do delegate (← delegate? (← evaluate scopes value))
  | .compare _ left chain => do evaluateChain scopes (← evaluate scopes left) chain
  | .call _ function args keywords => do
    let f ← evaluate scopes function
    let args ← evaluateAll scopes (starComplaint f args) args
    let named ← evaluateKeywords scopes f [] keywords
    callFrom scopes f args named
  | .formatted _ value conversion spec => do
    let v ← convert conversion (← evaluate scopes value)
    let layout ← evaluateSpec scopes spec
    return .str (← format v layout)
  | .joined _ parts => do return .str (← evaluateParts scopes parts)
  | .literal _ value => pure (literalValue value)
  | .member _ value name => do attrOf (← evaluate scopes value) (Names.kept scopes name)
  | .subscript _ value index => do
    let v ← evaluate scopes value
    item v (← evaluate scopes index)
  | .starred _ value => evaluate scopes value
  | .name _ id => Names.read scopes id
  | .list _ elements => do new (.list (← evaluateAll scopes notSpread elements).toArray)
  | .tuple _ elements => do return .tuple (← evaluateAll scopes notSpread elements)
  | .slice _ lower upper step => do
    let lower ← evaluateOption scopes lower
    let upper ← evaluateOption scopes upper
    let step ← evaluateOption scopes step
    pure (.slice lower upper step)

/-- Operands up to the first whose truth decides. -/
def evaluateUntil (scopes : List Scope) (decisive : Bool) : List Expr → Action Value
  | [] => pure .none
  | e :: rest => do
    let v ← evaluate scopes e
    if rest.isEmpty then pure v
    else if (← truthy v) == decisive then pure v
    else evaluateUntil scopes decisive rest

def evaluateOption (scopes : List Scope) : Option Expr → Action Value
  | none => pure .none
  | some e => evaluate scopes e

/-- Elements of a display or arguments by position; a starred one stands for all that it hands
out. -/
def evaluateAll (scopes : List Scope) (complaint : Value → Action String) :
    List Expr → Action (List Value)
  | [] => pure []
  | e :: rest => do
    let v ← evaluate scopes e
    let vs ← if e.isStarred then spread complaint v else pure [v]
    return vs ++ (← evaluateAll scopes complaint rest)

def evaluateKeywords (scopes : List Scope) (f : Value) (soFar : Bindings) :
    List (Keyword Expr) → Action Bindings
  | [] => pure soFar
  | ⟨_, name, value⟩ :: rest => do
    let v ← evaluate scopes value
    match name with
    | some n =>
      if soFar.has n then
        typeError ((← calledText f) ++ " got multiple values for keyword argument '" ++ n ++ "'")
      else evaluateKeywords scopes f (soFar ++ [(n, v)]) rest
    | none => do
      let soFar ← spreadNames f soFar v
      evaluateKeywords scopes f soFar rest

def evaluateEntries (scopes : List Scope) (d : Address) : List (DictItem Expr) → Action Unit
  | [] => pure ()
  | ⟨some key, value⟩ :: rest => do
    let k ← evaluate scopes key
    let v ← evaluate scopes value
    Mapping.put d k v
    evaluateEntries scopes d rest
  | ⟨none, value⟩ :: rest => do
    spreadEntries d (← evaluate scopes value)
    evaluateEntries scopes d rest

/-- A chain of comparisons, up to the first that does not hold. -/
def evaluateChain (scopes : List Scope) (left : Value) : List (Comparand Expr) → Action Value
  | [] => pure left
  | ⟨op, operand⟩ :: rest => do
    let right ← evaluate scopes operand
    let r ← compareBy op left right
    if rest.isEmpty then pure r
    else if ← truthy r then evaluateChain scopes right rest
    else pure r

def evaluateSpec (scopes : List Scope) : Option Expr → Action String
  | none => pure ""
  | some e => do textOf (← evaluate scopes e)

def evaluateParts (scopes : List Scope) : List Expr → Action String
  | [] => pure ""
  | e :: rest => do
    let s ← textOf (← evaluate scopes e)
    return s ++ (← evaluateParts scopes rest)

def evaluateDefault (scopes : List Scope) : List (Param Expr) → Action Bindings
  | [] => pure []
  | ⟨_, _, _, none⟩ :: rest => evaluateDefault scopes rest
  | ⟨_, name, _, some e⟩ :: rest => do
    let v ← evaluate scopes e
    return (Names.kept scopes name, v) :: (← evaluateDefault scopes rest)

/-- The defaults of parameters, which are evaluated once. -/
def evaluateDefaults (scopes : List Scope) : Params Expr → Action Bindings
  | ⟨positionalOnly, plain, _, keywordOnly, _⟩ => do
    let a ← evaluateDefault scopes positionalOnly
    let b ← evaluateDefault scopes plain
    let c ← evaluateDefault scopes keywordOnly
    return a ++ b ++ c

/-- The iterator of the first clause of a comprehension, which is taken outside of it. -/
def evaluateFirst (scopes : List Scope) : List (Clause Expr) → Action Value
  | [] => pure .none
  | ⟨_, _, source, _⟩ :: _ => do iterator (← evaluate scopes source)

/-- Whether all conditions hold. -/
def evaluateTests (scopes : List Scope) : List Expr → Action Bool
  | [] => pure true
  | e :: rest => do
    if ← truthy (← evaluate scopes e) then evaluateTests scopes rest else pure false

/-- Runs through the clauses of a comprehension, the first with a given iterator. -/
def runClauses (scopes : List Scope) (first : Option Value) (body : Action Unit) :
    List (Clause Expr) → Action Unit
  | [] => body
  | ⟨_, target, source, conditions⟩ :: rest => do
    let i ← match first with
      | some i => pure i
      | none => do iterator (← evaluate scopes source)
    let _ ← eachOf (α := Unit) i fun v => do
      assign scopes v target
      if ← evaluateTests scopes conditions then runClauses scopes none body rest
      pure none

/-- Assigns a value to a target. -/
def assign (scopes : List Scope) (v : Value) : Expr → Action Unit
  | .name _ id => Names.write scopes id v
  | .starred _ target => assign scopes v target
  | .tuple _ targets => do assignAll scopes (← unpack targets v) targets
  | .list _ targets => do assignAll scopes (← unpack targets v) targets
  | .member _ value name => do setAttribute (← evaluate scopes value) (Names.kept scopes name) v
  | .subscript _ value index => do
    let container ← evaluate scopes value
    setItem container (← evaluate scopes index) v
  | _ => pure ()

def assignAll (scopes : List Scope) (vs : List Value) : List Expr → Action Unit
  | [] => pure ()
  | target :: rest => do
    assign scopes (vs.head?.getD .none) target
    assignAll scopes vs.tail rest

end

/-- Works off a generator expression. -/
def runComprehension (element : Expr) (clauses : List (Clause Expr)) (source : Value)
    (scopes : List Scope) : Action Value := do
  let handOut : Action Unit := do
    let _ ← Action.ask (.yield (← evaluate scopes element))
  runClauses scopes (some source) handOut clauses
  pure .none

end RuleBench.Execution
