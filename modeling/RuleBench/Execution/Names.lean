import RuleBench.Execution.Builtin
import RuleBench.Script.Mention
import RuleBench.Script.Scope

/-!
# Names of running scripts

Where a name has its value. A function owns the names that it binds; all others it finds in the
functions around it, then in the module, and last among the names that need no declaration. The body
of a class is looked into only by itself.
-/

namespace RuleBench.Execution

open RuleBench.Script

/-- The names that a block binds and those that it declares, one for each time. -/
structure BlockNames where
  bound : List String := []
  globals : List String := []
  nonlocals : List String := []

namespace BlockNames

def bind (id : String) (b : BlockNames) : BlockNames := { b with bound := id :: b.bound }

def declare (d : Declaration) (id : String) (b : BlockNames) : BlockNames :=
  match d with
  | .global => { b with globals := id :: b.globals }
  | .nonlocal => { b with nonlocals := id :: b.nonlocals }

/-- The names of a block with these mentions. The list tells of each block inside it that is open
whether it is a comprehension: out of those a named expression binds here. -/
def ofMentions : List Bool → List Mention → BlockNames
  | _, [] => {}
  | inner, m :: ms => match inner, m with
    | _, .enter .hint => ofMentions inner ms
    | _, .leave .hint => ofMentions inner ms
    | _, .enter kind => ofMentions ((kind matches .comprehension _) :: inner) ms
    | _, .leave _ => ofMentions inner.tail ms
    | [], .name id touch _ =>
      if touch == .used then ofMentions inner ms else (ofMentions inner ms).bind id
    | [], .annotate id simple hasValue _ _ =>
      if simple || hasValue then (ofMentions inner ms).bind id else ofMentions inner ms
    | [], .declare d id _ => (ofMentions inner ms).declare d id
    | _ :: _, .rebind id _ _ =>
      if !inner.contains false then (ofMentions inner ms).bind id else ofMentions inner ms
    | _, _ => ofMentions inner ms

end BlockNames

/-- The names of a stretch that are its own, and those that it sends to the module. -/
structure OwnNames where
  locals : List String := []
  globals : List String := []

/-- What a block with these mentions owns, in a class of the given name. -/
def OwnNames.ofMentions (className : Option String) (ms : List Mention) : OwnNames :=
  let b := BlockNames.ofMentions [] ms
  let own := b.bound.filter fun n => !b.globals.contains n && !b.nonlocals.contains n
  ⟨own.eraseDups.map (privateName className), b.globals.eraseDups.map (privateName className)⟩

namespace Names

/-- The class whose private names are meant. -/
def className? : List Scope → Option String
  | [] => none
  | s :: outer => match s.kind with
    | .classBody name => some name
    | _ => className? outer

/-- A name as it is kept. -/
def kept (scopes : List Scope) (id : String) : String := privateName (className? scopes) id

/-- The module around all scopes. -/
def module? : List Scope → Option Scope
  | [] => none
  | [s] => some s
  | _ :: outer => module? outer

/-- The name of a thing that is declared in a scope, with what is around it. -/
def pathOf (scopes : List Scope) (name : String) : String :=
  match scopes with
  | [] => name
  | s :: _ => match s.kind with
    | .module => name
    | .cell => name
    | .classBody _ => s.path ++ "." ++ name
    | .function => s.path ++ ".<locals>." ++ name
    | .comprehension => s.path ++ ".<locals>." ++ name

/-! ### Errors -/

def nameError {α : Type} (className name message : String) : Action α := do
  Action.raise (← new (.instance (.known className) [("name", .str name)]
    (some (.tuple [.str message]))))

def undefined {α : Type} (name : String) : Action α :=
  nameError "NameError" name ("name '" ++ name ++ "' is not defined")

def unbound {α : Type} (name : String) : Action α :=
  nameError "UnboundLocalError" name
    ("cannot access local variable '" ++ name ++ "' where it is not associated with a value")

def unboundFree {α : Type} (name : String) : Action α :=
  nameError "NameError" name ("cannot access free variable '" ++ name ++
    "' where it is not associated with a value in enclosing scope")

/-! ### Variables -/

/-- The variables of a stretch, the module apart. -/
def variablesOf (a : Address) : Action Bindings := do
  match ← load a with
  | .frame bs => pure bs
  | _ => pure []

def putVariable (a : Address) (name : String) (value : Value) : Action Unit :=
  alter a fun o => match o with
    | .frame bs => .frame (bs.put name value)
    | o => o

def removeVariable (a : Address) (name : String) : Action Unit :=
  alter a fun o => match o with
    | .frame bs => .frame (bs.remove name)
    | o => o

def isKey (name : String) (e : Value × Value) : Bool :=
  match e.1 with
  | .str s => s == name
  | _ => false

/-- The value of a name in a module. -/
def moduleValue? (w : World) (a : Address) (name : String) : Option Value :=
  match w.get a with
  | .dict es => (es.find? (isKey name)).map (·.2)
  | _ => none

def putModule (a : Address) (name : String) (value : Value) : Action Unit :=
  alter a fun o => match o with
    | .dict es => match es.findIdx? (isKey name) with
      | some i => .dict (es.setIfInBounds i (.str name, value))
      | none => .dict (es.push (.str name, value))
    | o => o

def removeModule (a : Address) (name : String) : Action Unit := do
  match (← Action.world).get a with
  | .dict es => match es.findIdx? (isKey name) with
    | some i => store a (.dict (es.eraseIdxIfInBounds i))
    | none => undefined name
  | _ => undefined name

/-! ### Reading -/

def readGlobal (scopes : List Scope) (name : String) : Action Value := do
  let found := (module? scopes).bind fun m => some m.frame
  match found with
  | none => undefined name
  | some a => match moduleValue? (← Action.world) a name with
    | some v => pure v
    | none => match Builtin.value? name with
      | some v => pure v
      | none => undefined name

/-- A name that the innermost scope does not own. -/
def readAround (name : String) : List Scope → Action Value
  | [] => undefined name
  | s :: outer => do
    let own : Action Value := do
      match (← variablesOf s.frame).lookup name with
      | some v => pure v
      | none => unboundFree name
    match s.kind with
    | .module => readGlobal [s] name
    | .classBody _ => readAround name outer
    | .cell => if name == "__class__" then own else readAround name outer
    | _ =>
      if s.globals.contains name then readGlobal (s :: outer) name
      else if s.locals.contains name then own
      else readAround name outer

/-- The value of a name. -/
def read (scopes : List Scope) (id : String) : Action Value := do
  let name := kept scopes id
  if name == annotationsName then Action.look
  match scopes with
  | [] => undefined name
  | s :: outer => match s.kind with
    | .module => readGlobal scopes name
    | .cell => readAround name scopes
    | .classBody _ =>
      if s.globals.contains name then readGlobal scopes name
      else match (← variablesOf s.frame).lookup name with
        | some v => pure v
        | none =>
          if s.locals.contains name then readGlobal scopes name else readAround name outer
    | _ =>
      if s.globals.contains name then readGlobal scopes name
      else if s.locals.contains name then
        match (← variablesOf s.frame).lookup name with
        | some v => pure v
        | none => unbound name
      else readAround name outer

/-! ### Writing -/

/-- The scope that a function around owns a name in. -/
def ownerAround? (name : String) : List Scope → Option Scope
  | [] => none
  | s :: outer => match s.kind with
    | .function => if s.locals.contains name then some s else ownerAround? name outer
    | _ => ownerAround? name outer

/-- Where a name is bound. -/
inductive Home where
  | module (frame : Address)
  /-- The stretch itself. -/
  | here (frame : Address) (isClass : Bool)
  /-- A function around. -/
  | around (frame : Address)

def homeOf (scopes : List Scope) (name : String) : Option Home :=
  match scopes with
  | [] => none
  | s :: outer =>
    let global := (module? scopes).map fun m => Home.module m.frame
    if s.kind == .module || s.globals.contains name then global
    else if s.locals.contains name then some (.here s.frame (s.kind matches .classBody _))
    else match ownerAround? name outer with
      | some o => some (.around o.frame)
      | none => global

def write (scopes : List Scope) (id : String) (value : Value) : Action Unit := do
  let name := kept scopes id
  if name == annotationsName then Action.look
  match homeOf scopes name with
  | none => pure ()
  | some (.module a) => putModule a name value
  | some (.here a _) => putVariable a name value
  | some (.around a) => putVariable a name value

def delete (scopes : List Scope) (id : String) : Action Unit := do
  let name := kept scopes id
  if name == annotationsName || firstNames.contains name then Action.look
  let remove (a : Address) (absent : Action Unit) : Action Unit := do
    if (← variablesOf a).has name then removeVariable a name else absent
  match homeOf scopes name with
  | none => undefined name
  | some (.module a) => removeModule a name
  | some (.here a isClass) => remove a (if isClass then undefined name else unbound name)
  | some (.around a) => remove a (unboundFree name)

/-- The scopes in which a named expression binds: comprehensions are passed by. -/
def outsideComprehensions : List Scope → List Scope
  | [] => []
  | s :: outer => if s.kind == .comprehension then outsideComprehensions outer else s :: outer

/-! ### What a function knows of its place -/

/-- The first argument of the function that is running. -/
def firstArgument? : List Scope → Option (Address × String)
  | [] => none
  | s :: _ => match s.kind, s.first with
    | .function, some name => some (s.frame, name)
    | _, _ => none

/-- The attribute lookup behind the class in which a function is declared. -/
def superHere (scopes : List Scope) : Action Value := do
  match firstArgument? scopes with
  | none => fail "RuntimeError" "super(): no arguments"
  | some (frame, first) => match (← variablesOf frame).lookup first with
    | none => fail "RuntimeError" "super(): arg[0] deleted"
    | some self =>
      let cell := scopes.find? fun s => s.kind == .cell
      match cell with
      | none => fail "RuntimeError" "super(): __class__ cell not found"
      | some c => match (← variablesOf c.frame).lookup "__class__" with
        | none => fail "RuntimeError" "super(): empty __class__ cell"
        | some cls => Construct.superOf [cls, self] []

/-- The names and values of the innermost stretch. -/
def here (scopes : List Scope) : Action Value := do
  match scopes with
  | [] => newBindings []
  | s :: _ => match s.kind with
    | .module => do
      Action.look
      pure (.ref s.frame)
    | .classBody _ => do
      Action.look
      newBindings (← variablesOf s.frame)
    | _ => newBindings (← variablesOf s.frame)

def everywhere (scopes : List Scope) : Action Value := do
  Action.look
  match module? scopes with
  | some m => pure (.ref m.frame)
  | none => newBindings []

end Names

end RuleBench.Execution
