import RuleBench.Execution.Matching
import RuleBench.Script.Future
import RuleBench.Script.Print

/-!
# Execution of statements

A statement ends normally, leaves a loop or the function, or raises. Execution follows the structure
of the statement; only loops go round for as long as they like.
-/

namespace RuleBench.Execution

open RuleBench.Script

/-- How a statement ends that raises nothing. -/
inductive Signal where
  | next
  | leaveLoop
  | nextRound
  | returned (value : Value)

/-- The outcome of an action, an error included. -/
def attempt {α : Type} (m : Action α) : Action (Except Value α) :=
  tryCatch (do pure (.ok (← m))) fun e => pure (.error e)

def settle {α : Type} : Except Value α → Action α
  | .ok a => pure a
  | .error e => Action.raise e

/-- Notes on an error what was being handled when it was raised. -/
def noteContext (e context : Value) : Action Unit := do
  match e, ← objOf e with
  | .ref a, some (.instance t attrs content) =>
    if attrs.has "__context__" || identical e context then pure ()
    else store a (.instance t (attrs.put "__context__" context) content)
  | _, _ => pure ()

/-- Works while an error is being handled. -/
def handling {α : Type} (e : Value) (m : Action α) : Action α := do
  Action.change fun w => { w with handled := e :: w.handled }
  let r ← attempt m
  Action.change fun w => { w with handled := w.handled.tail }
  match r with
  | .ok a => pure a
  | .error e' => do
    noteContext e' e
    Action.raise e'

/-! ### Raising -/

/-- The error that a value in a `raise` statement stands for. -/
def raisable (v : Value) : Action Value := do
  let w ← Action.world
  if w.isErrorClass v then
    let e ← call v []
    if (← Action.world).isError e then pure e
    else
      let cls ← shown v
      typeErrorOf e fun t => "calling " ++ cls ++
        " should have returned an instance of BaseException, not " ++ t
  else if w.isError v then pure v
  else typeError "exceptions must derive from BaseException"

/-- The cause of an error: an error, a class of errors, or nothing. -/
def causeOf (v : Value) : Action Value := do
  let w ← Action.world
  if w.isErrorClass v then call v []
  else if w.isError v || v matches .none then pure v
  else typeError "exception causes must derive from BaseException"

def noteCause (e cause : Value) : Action Unit := do
  match e, ← objOf e with
  | .ref a, some (.instance t attrs content) =>
    let attrs := (attrs.put "__cause__" cause).put "__suppress_context__" (.bool true)
    store a (.instance t attrs content)
  | _, _ => pure ()

def raiseStatement (v : Option Value) (cause : Option Value) : Action Signal := do
  match v with
  | none => match (← Action.world).handled with
    | e :: _ => Action.raise e
    | [] => fail "RuntimeError" "No active exception to reraise"
  | some v => do
    let e ← raisable v
    match cause with
    | none => pure ()
    | some c => do noteCause e (← causeOf c)
    Action.raise e

/-- Whether an error is of the classes that a handler names. -/
def isCaught (e classes : Value) : Action Bool := do
  let w ← Action.world
  let named := match classes with
    | .tuple cs => cs
    | c => [c]
  if named.all w.isErrorClass then
    pure (named.any fun c => match c with
      | .type t => w.isInstance e t
      | _ => false)
  else typeError "catching classes that do not inherit from BaseException is not allowed"

/-! ### Imports -/

/-- The modules that scripts can import, with what is in them. -/
def modules : List (String × Bindings) := [
  ("asyncio", [("CancelledError", .type (.known "CancelledError"))])]

def importError {α : Type} (className name message : String) : Action α := do
  Action.raise (← new (.instance (.known className) [("name", .str name)]
    (some (.tuple [.str message]))))

def noModule {α : Type} (path : String) : Action α :=
  let top := String.ofList (path.toList.takeWhile (· != '.'))
  importError "ModuleNotFoundError" top ("No module named '" ++ top ++ "'")

def importModule (a : Alias) : Action Value := do
  match modules.lookup a.name with
  | some attrs => new (.module a.name attrs)
  | none => noModule a.name

def importFrom (module : String) (level : Nat) (name : String) : Action Value := do
  if level > 0 then fail "ImportError" "attempted relative import with no known parent package"
  else if module == futureModule then
    new (.instance (.known "_Feature") [("name", .str name)] none)
  else match modules.lookup module with
    | none => noModule module
    | some attrs => match attrs.lookup name with
      | some v => pure v
      | none =>
        importError "ImportError" module ("cannot import name '" ++ name ++ "' from '" ++ module ++
          "' (unknown location)")

/-! ### Annotations and documentation -/

mutual

/-- Whether a statement annotates a name of the module or class that it stands in. -/
def annotates : Stmt → Bool
  | .annAssign .. => true
  | .forLoop _ _ _ _ b e => anyAnnotates b || anyAnnotates e
  | .whileLoop _ _ b e => anyAnnotates b || anyAnnotates e
  | .ifElse _ _ b e => anyAnnotates b || anyAnnotates e
  | .withBlock _ _ _ b => anyAnnotates b
  | .tryBlock _ _ b hs e f =>
    anyAnnotates b || handlersAnnotate hs || anyAnnotates e || anyAnnotates f
  | _ => false

def anyAnnotates : List Stmt → Bool
  | [] => false
  | s :: ss => annotates s || anyAnnotates ss

def handlersAnnotate : List (Handler Stmt) → Bool
  | [] => false
  | ⟨_, _, _, b⟩ :: hs => anyAnnotates b || handlersAnnotate hs

end

/-- The text that a block starts with to document itself. -/
def docstring? : List Stmt → Option String
  | .expr _ (.literal _ (.str s _)) :: _ => some s
  | _ => none

/-- Whether annotations stay texts. -/
def keepsAnnotations (scopes : List Scope) : Bool :=
  ((Names.module? scopes).map (·.laterAnnotations)).getD false

/-- The value of an annotation. -/
def annotation (scopes : List Scope) (e : Expr) : Action Value :=
  if keepsAnnotations scopes then
    match Expr.print false .test e with
    | .ok s => pure (.str s)
    | .error _ => pure (.str "")
  else evaluate scopes e

/-- The annotated parameters of a function, and what it returns, in the order of evaluation. -/
def annotatedNames (ps : Params Expr) (returns : Option Expr) : List (String × Expr) :=
  let params := ps.positionalOnly ++ ps.plain ++ ps.rest.toList ++ ps.keywordOnly ++
    ps.keywordRest.toList
  params.filterMap (fun p => p.annotation.map fun e => (p.name, e)) ++
    returns.toList.map fun e => ("return", e)

def functionAnnotations (scopes : List Scope) (ps : Params Expr) (returns : Option Expr) :
    Action Bindings :=
  (annotatedNames ps returns).mapM fun (n, e) =>
    return (Names.kept scopes n, ← annotation scopes e)

/-- Notes the annotation of a name of a module or class. -/
def annotateName (scopes : List Scope) (owner : Address) (name : String) (e : Expr) :
    Action Unit := do
  let v ← annotation scopes e
  let name := Names.kept scopes name
  if !(← Action.note (.entry owner name v)) then
    let d ← Names.read scopes annotationsName
    setItem d (.str name) v

/-- The owner of the annotations of names, where these are kept. -/
def annotated? : List Scope → Option Address
  | s :: _ => match s.kind with
    | .module => some s.frame
    | .classBody _ => some s.frame
    | _ => none
  | [] => none

/-- The parts of a target that are looked at where it gets no value. -/
def touchTarget (scopes : List Scope) : Expr → Action Unit
  | .member _ value _ => do let _ ← evaluate scopes value
  | .subscript _ value index => do
    let _ ← evaluate scopes value
    let _ ← evaluate scopes index
  | _ => pure ()

def annotatedAssignment (scopes : List Scope) (target note : Expr) (value : Option Expr)
    (simple : Bool) : Action Unit := do
  match value with
  | some e => do assign scopes (← evaluate scopes e) target
  | none => touchTarget scopes target
  match annotated? scopes with
  | none => pure ()
  | some owner => match target, simple with
    | .name _ id, true => annotateName scopes owner id note
    | _, _ => if !(keepsAnnotations scopes) then do let _ ← evaluate scopes note

/-! ### Simple statements -/

mutual

def deleteTarget (scopes : List Scope) : Expr → Action Unit
  | .name _ id => Names.delete scopes id
  | .member _ value name => do deleteAttribute (← evaluate scopes value) (Names.kept scopes name)
  | .subscript _ value index => do
    let v ← evaluate scopes value
    deleteItem v (← evaluate scopes index)
  | .tuple _ es => deleteTargets scopes es
  | .list _ es => deleteTargets scopes es
  | _ => pure ()

def deleteTargets (scopes : List Scope) : List Expr → Action Unit
  | [] => pure ()
  | e :: es => do
    deleteTarget scopes e
    deleteTargets scopes es

end

/-- An assignment that combines the old value with another one. -/
def augmentedAssignment (scopes : List Scope) (target : Expr) (op : BinOp) (value : Expr) :
    Action Unit := do
  match target with
  | .name _ id => do
    let old ← Names.read scopes id
    Names.write scopes id (← operateInPlace op old (← evaluate scopes value))
  | .member _ object name => do
    let o ← evaluate scopes object
    let name := Names.kept scopes name
    let old ← attrOf o name
    setAttribute o name (← operateInPlace op old (← evaluate scopes value))
  | .subscript _ container index => do
    let c ← evaluate scopes container
    let i ← evaluate scopes index
    let old ← item c i
    setItem c i (← operateInPlace op old (← evaluate scopes value))
  | _ => pure ()

def assignEach (scopes : List Scope) (v : Value) : List Expr → Action Unit
  | [] => pure ()
  | t :: ts => do
    assign scopes v t
    assignEach scopes v ts

/-- Applies decorators, the last one first. -/
def decorate (decorators : List Value) (v : Value) : Action Value :=
  decorators.foldrM (fun d v => call d [v]) v

/-! ### Functions and classes -/

def defineFunction (scopes : List Scope) (isAsync : Bool) (name : String) (ps : Params Expr)
    (body : List Stmt) (decorators : List Expr) (returns : Option Expr) : Action Unit := do
  let decorators ← evaluateAll scopes notSpread decorators
  let defaults ← evaluateDefaults scopes ps
  let annotations ← functionAnnotations scopes ps returns
  let doc := match docstring? body with
    | some s => [("__doc__", Value.str s)]
    | none => []
  let code ← Action.keep body
  let c := closureOf scopes name isAsync ps defaults (mentionsOfBlock body) (.block code)
  let f ← alloc (.function c doc)
  if !annotations.isEmpty then do let _ ← Action.note (.start f annotations)
  Names.write scopes name (← decorate decorators (.ref f))

/-- Makes a class of the variables that its body has bound. -/
def makeClass (name path : String) (bases : List Value) (named : Bindings) (frame : Address) :
    Action Value := do
  let bases ← bases.mapM Declaration.baseOf
  let plain := named.remove "metaclass"
  -- Whatever else makes the class is handed all its names, the annotations among them.
  let callMaker (maker : Value) : Action Value := do
    Action.look
    let attrs ← newBindings (← Names.variablesOf frame)
    call maker [.str name, .tuple bases, attrs] plain
  match named.lookup "metaclass", Declaration.noClass? bases with
  | some (.type _), none | none, none =>
    let refs := bases.filterMap Declaration.classOf?
    Declaration.declareClass name path refs (← Names.variablesOf frame) plain (some frame)
  | some maker, _ => callMaker maker
  | none, some b => do callMaker (.type (← typeRefOf b))

/-- The scopes of the body of a class: its own names, around them what its methods find. -/
def classScopes (scopes : List Scope) (name : String) (body : List Stmt) (cell : Address) :
    Action (List Scope) := do
  let path := match scopes with
    | s :: _ => if s.globals.contains name then name else Names.pathOf scopes name
    | [] => name
  let module ← match Names.module? scopes with
    | some m => pure (Names.moduleValue? (← Action.world) m.frame "__name__")
    | none => pure none
  let start := module.toList.map (fun m => ("__module__", m)) ++ [("__qualname__", .str path)]
  let frame ← alloc (.frame start)
  let own := OwnNames.ofMentions (some name) (mentionsOfBlock body)
  let always := ["__module__", "__qualname__", "__doc__", "__annotations__"]
  return { kind := .classBody name, frame, locals := own.locals ++ always,
           globals := own.globals, path }
    :: { kind := .cell, frame := cell } :: scopes

/-- What is done for a module or class before its first statement. -/
def startBlock (scopes : List Scope) (body : List Stmt) : Action Unit := do
  if anyAnnotates body then
    match annotated? scopes with
    | some owner => do let _ ← Action.note (.start owner [])
    | none => pure ()
  match docstring? body with
  | some s => Names.write scopes "__doc__" (.str s)
  | none => pure ()

/-! ### Context managers -/

/-- What a context manager does when it is entered and left. -/
def contextMethods (manager : Value) : Action (Value × Value) := do
  let w ← Action.world
  let refuse (detail : String) : Action (Value × Value) :=
    typeErrorOf manager fun t =>
      "'" ++ t ++ "' object does not support the context manager protocol" ++ detail
  let t := w.typeRef manager
  match ← declared? manager "__enter__", ← declared? manager "__exit__" with
  | none, _ => refuse ""
  | some _, none => refuse " (missed __exit__ method)"
  | some enter, some leave => return (← bindTo manager t enter, ← bindTo manager t leave)

/-- Enters a context, works in it and leaves it again; leaving may take back an error. -/
def inContext (manager : Value) (body : Value → Action Signal) : Action Signal := do
  let (enter, leave) ← contextMethods manager
  let entered ← call enter []
  match ← attempt (body entered) with
  | .ok s => do
    let _ ← call leave [.none, .none, .none]
    pure s
  | .error e => do
    let cls := Value.type (← typeRefOf e)
    let taken ← handling e do truthy (← call leave [cls, e, .none])
    if taken then pure .next else Action.raise e

/-- Does a last thing however an action ends. Where that thing ends normally, the action ends as it
would have without. -/
def lastly (main last : Action Signal) : Action Signal := do
  match ← attempt main with
  | .ok s => do
    match ← last with
    | .next => pure s
    | s => pure s
  | .error e => do
    match ← handling e last with
    | .next => Action.raise e
    | s => pure s

/-- Works off a handler for an error. Meanwhile its name stands for the error, and afterwards for
nothing. -/
def handleAs (scopes : List Scope) (e : Value) (name : Option String) (body : Action Signal) :
    Action Signal := do
  match name with
  | none => handling e body
  | some n => do
    Names.write scopes n e
    let r ← attempt (handling e body)
    Names.write scopes n .none
    Names.delete scopes n
    settle r

/-! ### Statements -/

mutual

def execute (scopes : List Scope) : Stmt → Action Signal
  | .functionDef _ isAsync name ps body decorators returns => do
    defineFunction scopes isAsync name ps body decorators returns
    pure .next
  | .classDef _ name bases keywords body decorators => do
    let decorators ← evaluateAll scopes notSpread decorators
    let bases ← evaluateAll scopes notSpread bases
    let named ← evaluateKeywords scopes .none [] keywords
    let cell ← alloc (.frame [])
    let inner ← classScopes scopes name body cell
    startBlock inner body
    let _ ← executeAll inner body
    match inner with
    | [] => pure ()
    | s :: _ => do
      let cls ← makeClass name s.path bases named s.frame
      Names.putVariable cell "__class__" cls
      Names.write scopes name (← decorate decorators cls)
    pure .next
  | .returnStmt _ value => do return .returned (← evaluateOption scopes value)
  | .delete _ targets => do
    deleteTargets scopes targets
    pure .next
  | .assign _ targets value => do
    assignEach scopes (← evaluate scopes value) targets
    pure .next
  | .augAssign _ target op value => do
    augmentedAssignment scopes target op value
    pure .next
  | .annAssign _ target note value simple => do
    annotatedAssignment scopes target note value simple
    pure .next
  | .forLoop _ _ target source body orelse => do
    let i ← iterator (← evaluate scopes source)
    let ended ← loop () fun _ => do
      match ← next? i with
      | none => pure (.inr none)
      | some v => do
        assign scopes v target
        match ← executeAll scopes body with
        | .next => pure (.inl ())
        | .nextRound => pure (.inl ())
        | .leaveLoop => pure (.inr (some Signal.next))
        | s => pure (.inr (some s))
    match ended with
    | some s => pure s
    | none => executeAll scopes orelse
  | .whileLoop _ test body orelse => do
    let ended ← loop () fun _ => do
      if ← truthy (← evaluate scopes test) then
        match ← executeAll scopes body with
        | .next => pure (.inl ())
        | .nextRound => pure (.inl ())
        | .leaveLoop => pure (.inr (some Signal.next))
        | s => pure (.inr (some s))
      else pure (.inr none)
    match ended with
    | some s => pure s
    | none => executeAll scopes orelse
  | .ifElse _ test body orelse => do
    if ← truthy (← evaluate scopes test) then executeAll scopes body else executeAll scopes orelse
  | .withBlock _ _ items body => withItems scopes (executeAll scopes body) items
  | .matchOn _ subject cases => do executeCases scopes (← evaluate scopes subject) cases
  | .raise _ exception cause => do
    let v ← match exception with
      | some e => do pure (some (← evaluate scopes e))
      | none => pure none
    let c ← match cause with
      | some e => do pure (some (← evaluate scopes e))
      | none => pure none
    raiseStatement v c
  | .tryBlock _ _ body handlers orelse finalbody => do
    let main : Action Signal := do
      match ← attempt (executeAll scopes body) with
      | .ok .next => executeAll scopes orelse
      | .ok s => pure s
      | .error e => executeHandlers scopes e handlers
    if finalbody.isEmpty then main else lastly main (executeAll scopes finalbody)
  | .assert _ test message => do
    if ← truthy (← evaluate scopes test) then pure .next
    else
      let args ← match message with
        | some e => do pure [← evaluate scopes e]
        | none => pure []
      Action.raise (← newError "AssertionError" args)
  | .importModules _ names => do
    for a in names do Names.write scopes a.boundName (← importModule a)
    pure .next
  | .importFrom _ module names level => do
    for a in names do
      let v ← importFrom (module.getD "") level a.name
      Names.write scopes (a.asName.getD a.name) v
    pure .next
  | .global .. => pure .next
  | .nonlocal .. => pure .next
  | .expr _ value => do
    let _ ← evaluate scopes value
    pure .next
  | .pass _ => pure .next
  | .breakLoop _ => pure .leaveLoop
  | .continueLoop _ => pure .nextRound

def executeAll (scopes : List Scope) : List Stmt → Action Signal
  | [] => pure .next
  | s :: ss => do
    match ← execute scopes s with
    | .next => executeAll scopes ss
    | signal => pure signal

/-- Runs the first handler for an error. -/
def executeHandlers (scopes : List Scope) (e : Value) : List (Handler Stmt) → Action Signal
  | [] => Action.raise e
  | ⟨_, type, name, body⟩ :: rest => do
    let caught ← match type with
      | none => pure true
      | some t => handling e do isCaught e (← evaluate scopes t)
    if caught then handleAs scopes e name (executeAll scopes body)
    else executeHandlers scopes e rest

def executeCases (scopes : List Scope) (v : Value) : List (MatchCase Stmt) → Action Signal
  | [] => pure .next
  | ⟨pattern, guard, body⟩ :: rest => do
    let fitting ← matchValue scopes v pattern
    let chosen ← match fitting, guard with
      | true, some g => do truthy (← evaluate scopes g)
      | fitting, _ => pure fitting
    if chosen then executeAll scopes body else executeCases scopes v rest

def withItems (scopes : List Scope) (body : Action Signal) : List WithItem → Action Signal
  | [] => body
  | ⟨context, target⟩ :: rest => do
    inContext (← evaluate scopes context) fun entered => do
      match target with
      | some t => assign scopes entered t
      | none => pure ()
      withItems scopes body rest

end

/-- Whether annotations of a script stay texts. -/
def keepsTexts (script : List Stmt) : Bool :=
  match Future.ofScript script with
  | .ok f => f.annotations
  | .error _ => false

/-- Runs a script in a module; `later` tells that annotations stay texts. -/
def runModule (frame : Address) (later : Bool) (script : List Stmt) : Action Unit := do
  let scopes : List Scope := [{ kind := .module, frame, laterAnnotations := later }]
  startBlock scopes script
  let _ ← executeAll scopes script

/-- Runs the body of a function whose variables are in place; the statements of functions are found
by their numbers. -/
def runBody (code : Nat → List Stmt) (c : Closure) (frame : Address) : Action Value := do
  let first := (c.params.positionalOnly ++ c.params.plain).head?.map Param.name
  let scope : Scope :=
    { kind := .function
      frame
      locals := c.locals
      globals := c.globals
      path := c.path
      first := first.orElse fun _ => c.params.rest.map Param.name }
  let scopes := scope :: c.outer
  match c.body with
  | .expression e => evaluate scopes e
  | .block number => match ← executeAll scopes (code number) with
    | .returned v => pure v
    | _ => pure .none

end RuleBench.Execution
