import RuleBench.Script.Syntax

/-!
# Values of running scripts

Values that nothing can change stand for themselves; everything else lives on a heap and is reached
by its address. Classes that need no declaration are known by their names.
-/

namespace RuleBench.Execution

open RuleBench.Script

/-- The place of an object on the heap. -/
abbrev Address := Nat

/-- A class: one that needs no declaration, or a declared one. -/
inductive TypeRef where
  | known (name : String)
  | declared (address : Address)
deriving Repr, BEq, DecidableEq, Inhabited

inductive Value where
  | none
  | notImplemented
  | ellipsis
  | bool (value : Bool)
  | int (value : Int)
  | float (value : Float)
  | complex (re im : Float)
  | str (text : String)
  | bytes (value : List UInt8)
  | tuple (items : List Value)
  | range (start stop step : Int)
  | slice (lower upper step : Value)
  | type (type : TypeRef)
  /-- A function that needs no declaration. -/
  | builtin (name : String)
  /-- A method of a known class together with the value it was taken from. -/
  | method (owner name : String) (self : Value)
  /-- A method of a known class as such. -/
  | slot (owner name : String)
  | ref (address : Address)

instance : Inhabited Value := ⟨.none⟩

/-- Names with their values, in the order in which they were bound first. -/
abbrev Bindings := List (String × Value)

namespace Bindings

/-- Puts a value under a name: in the place of the old one, else at the end. -/
def put (name : String) (value : Value) : Bindings → Bindings
  | [] => [(name, value)]
  | (n, v) :: rest => if n == name then (n, value) :: rest else (n, v) :: put name value rest

def remove (name : String) (bs : Bindings) : Bindings := bs.filter (·.1 != name)

def has (name : String) (bs : Bindings) : Bool := bs.any (·.1 == name)

theorem lookup_put_self (name : String) (value : Value) (bs : Bindings) :
    (put name value bs).lookup name = some value := by
  induction bs with
  | nil => simp [put]
  | cons b rest ih =>
    obtain ⟨n, v⟩ := b
    by_cases h : n = name
    · subst h
      simp [put]
    · have h' : (name == n) = false := beq_false_of_ne (Ne.symm h)
      simp [put, h, List.lookup_cons, h', ih]

end Bindings

/-- A stretch of a running script with variables of its own. -/
inductive ScopeKind where
  | module
  | function
  | comprehension
  | classBody (name : String)
  /-- What methods of a class find around them. -/
  | cell
deriving Repr, BEq, DecidableEq

/-- Where the variables of a stretch live, and which names are its own. -/
structure Scope where
  kind : ScopeKind
  frame : Address
  locals : List String := []
  /-- Names that a declaration sends to the module. -/
  globals : List String := []
  /-- The names of the stretches around it and its own, as they are shown. -/
  path : String := ""
  /-- The first parameter of a function. -/
  first : Option String := .none
  /-- Annotations stay texts. -/
  laterAnnotations : Bool := false

inductive FunctionBody where
  | expression (value : Expr)
  /-- Statements, by the number that they are kept under. -/
  | block (code : Nat)

/-- What a function hands out. -/
inductive FunctionForm where
  | plain
  | generator
  | coroutine
  | asyncGenerator
deriving Repr, BEq, DecidableEq

/-- A declared function with the scopes around it, innermost first. -/
structure Closure where
  name : String
  path : String
  params : Params Expr
  defaults : Bindings
  body : FunctionBody
  form : FunctionForm
  locals : List String
  globals : List String
  outer : List Scope

/-- What a generator works off when it is first resumed. -/
inductive GeneratorWork where
  | function (closure : Closure) (frame : Address)
  | comprehension (element : Expr) (clauses : List (Clause Expr)) (source : Value)
      (scopes : List Scope)

inductive GeneratorState where
  | fresh (work : GeneratorWork)
  | suspended
  | running
  | finished

/-- What hands out values one by one. -/
inductive Iterator where
  /-- The items of a list from a position on; a list that is used up stays so. -/
  | list (source : Address) (next : Nat) (exhausted : Bool)
  | reversedList (source : Address) (next : Option Nat)
  /-- Items that do not change any more, under the name of their kind. -/
  | items (rest : List Value) (typeName : String)
  | range (next step : Int) (left : Nat)
  /-- The entries of a mapping that must keep its size. -/
  | entries (source : Address) (next size : Nat) (typeName : String)
  | members (source : Address) (next size : Nat)
  | enumerate (source : Value) (count : Int)
  | zip (sources : List Value) (strict : Bool)
  | map (function : Value) (sources : List Value)
  | filter (function source : Value)
  | calls (function sentinel : Value) (exhausted : Bool)
  /-- Items by position, from a value that answers subscripts. -/
  | positions (source : Value) (next : Nat)

/-- A declared class. -/
structure ClassInfo where
  name : String
  path : String
  bases : List TypeRef
  /-- The class and all it extends, in the order in which attributes are looked up. -/
  mro : List TypeRef
  attrs : Bindings

inductive ViewKind where
  | keys
  | values
  | items
deriving Repr, BEq, DecidableEq

/-- A thing on the heap. -/
inductive Obj where
  | list (items : Array Value)
  | dict (entries : Array (Value × Value))
  | set (members : Array Value) (frozen : Bool)
  | frame (bindings : Bindings)
  | function (closure : Closure) (attrs : Bindings)
  | cls (info : ClassInfo)
  /-- An instance of a class that is no plain container; errors keep their arguments as content,
  extensions of containers and texts what they contain. -/
  | instance (type : TypeRef) (attrs : Bindings) (content : Option Value)
  /-- A record whose fields cannot be assigned to. -/
  | record (kind : String) (fields : Bindings) (extra : Bindings)
  | generator (name path : String) (form : FunctionForm) (state : GeneratorState)
  | iterator (iterator : Iterator)
  | boundMethod (function self : Value)
  | property (getter setter deleter doc : Value)
  | staticMethod (function : Value)
  | classMethod (function : Value)
  /-- Attributes of a value as found behind a class in its order of classes. -/
  | superView (behind : TypeRef) (self : Value) (selfType : TypeRef)
  | view (kind : ViewKind) (source : Address)
  | module (name : String) (attrs : Bindings)

instance : Inhabited Obj := ⟨.frame []⟩

end RuleBench.Execution
