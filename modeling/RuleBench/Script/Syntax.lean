/-!
# Syntax of rule scripts

A script is a list of statements over expressions and patterns. Every node that a diagnostic can
point at carries the `Region` of the text it was read from. The parts that hang below a node
(`Param`, `Keyword`, `Clause`, …) are structures over the type of expressions, so that each has
its own fields and the recursion stays in `Expr`, `Pattern` and `Stmt`.
-/

namespace RuleBench.Script

/-- A stretch of source text: lines count from one, columns count UTF-8 bytes from zero. -/
structure Region where
  line : Nat
  col : Nat
  endLine : Nat
  endCol : Nat
deriving Repr, BEq, DecidableEq, Inhabited

namespace Region

/-- The stretch from the start of one region to the end of another. -/
def upTo (first last : Region) : Region :=
  ⟨first.line, first.col, last.endLine, last.endCol⟩

@[simp] theorem upTo_self (r : Region) : r.upTo r = r := rfl

end Region

/-- Constants that a script can write down. Text with an unpaired surrogate cannot be a `String`
and is kept as code points. -/
inductive Literal where
  | none
  | bool (value : Bool)
  | int (value : Nat)
  | float (value : Float)
  | imaginary (value : Float)
  | str (value : String) (marked : Bool)
  | wide (codePoints : List Nat) (marked : Bool)
  | bytes (value : List UInt8)
  | ellipsis
deriving Inhabited

inductive BoolOp where
  | and
  | or
deriving Repr, BEq, DecidableEq, Inhabited

inductive BinOp where
  | add | sub | mul | matMul | div | mod | pow
  | shiftLeft | shiftRight | bitOr | bitXor | bitAnd | floorDiv
deriving Repr, BEq, DecidableEq, Inhabited

inductive UnaryOp where
  | invert | not | plus | minus
deriving Repr, BEq, DecidableEq, Inhabited

inductive CompareOp where
  | eq | ne | lt | le | gt | ge | is | isNot | isIn | notIn
deriving Repr, BEq, DecidableEq, Inhabited

/-- A declared parameter, with its annotation and its default where it has them. -/
structure Param (ε : Type) where
  loc : Region
  name : String
  annotation : Option ε
  default : Option ε

/-- A parameter list: before the slash, plain, starred, after the star, double-starred. -/
structure Params (ε : Type) where
  positionalOnly : List (Param ε)
  plain : List (Param ε)
  rest : Option (Param ε)
  keywordOnly : List (Param ε)
  keywordRest : Option (Param ε)

/-- An argument given by name; without a name it is a double-starred mapping. -/
structure Keyword (ε : Type) where
  loc : Region
  name : Option String
  value : ε

/-- One `for … in … if …` clause of a comprehension. -/
structure Clause (ε : Type) where
  isAsync : Bool
  target : ε
  source : ε
  conditions : List ε

/-- An entry of a dict display; without a key it is a double-starred mapping. -/
structure DictItem (ε : Type) where
  key : Option ε
  value : ε

/-- An operator of a comparison chain with the operand on its right. -/
structure Comparand (ε : Type) where
  op : CompareOp
  operand : ε

inductive ComprehensionKind where
  | list
  | set
  | generator
deriving Repr, BEq, DecidableEq, Inhabited

/-- The shape of a comprehension, dicts included. -/
inductive ComprehensionForm where
  | list
  | set
  | dict
  | generator
deriving Repr, BEq, DecidableEq, ReflBEq, LawfulBEq

def ComprehensionKind.form : ComprehensionKind → ComprehensionForm
  | .list => .list
  | .set => .set
  | .generator => .generator

inductive Expr where
  | boolOp (loc : Region) (op : BoolOp) (operands : List Expr)
  | named (loc : Region) (target value : Expr)
  | binOp (loc : Region) (left : Expr) (op : BinOp) (right : Expr)
  | unaryOp (loc : Region) (op : UnaryOp) (operand : Expr)
  | lambda (loc : Region) (params : Params Expr) (body : Expr)
  | ifElse (loc : Region) (test body orelse : Expr)
  | dict (loc : Region) (items : List (DictItem Expr))
  | set (loc : Region) (elements : List Expr)
  | comprehension (loc : Region) (kind : ComprehensionKind) (element : Expr)
      (clauses : List (Clause Expr))
  | dictComprehension (loc : Region) (key value : Expr) (clauses : List (Clause Expr))
  | await (loc : Region) (value : Expr)
  | yield (loc : Region) (value : Option Expr)
  | yieldFrom (loc : Region) (value : Expr)
  | compare (loc : Region) (left : Expr) (chain : List (Comparand Expr))
  | call (loc : Region) (function : Expr) (args : List Expr) (keywords : List (Keyword Expr))
  | formatted (loc : Region) (value : Expr) (conversion : Option Char) (spec : Option Expr)
  | joined (loc : Region) (parts : List Expr)
  | literal (loc : Region) (value : Literal)
  | member (loc : Region) (value : Expr) (name : String)
  | subscript (loc : Region) (value index : Expr)
  | starred (loc : Region) (value : Expr)
  | name (loc : Region) (id : String)
  | list (loc : Region) (elements : List Expr)
  | tuple (loc : Region) (elements : List Expr)
  | slice (loc : Region) (lower upper step : Option Expr)

instance : Inhabited Expr := ⟨.literal default .none⟩

namespace Expr

/-- The region a diagnostic about the expression points at. -/
def loc : Expr → Region
  | boolOp l .. | named l .. | binOp l .. | unaryOp l .. | lambda l .. | ifElse l ..
  | dict l .. | set l .. | comprehension l .. | dictComprehension l .. | await l ..
  | yield l .. | yieldFrom l .. | compare l .. | call l .. | formatted l .. | joined l ..
  | literal l .. | member l .. | subscript l .. | starred l .. | name l .. | list l ..
  | tuple l .. | slice l .. => l

/-- The same expression at another region: grouping parentheses widen a target. -/
def relocate (r : Region) : Expr → Expr
  | boolOp _ o vs => boolOp r o vs
  | named _ t v => named r t v
  | binOp _ a o b => binOp r a o b
  | unaryOp _ o a => unaryOp r o a
  | lambda _ ps b => lambda r ps b
  | ifElse _ t b e => ifElse r t b e
  | dict _ is => dict r is
  | set _ es => set r es
  | comprehension _ k e cs => comprehension r k e cs
  | dictComprehension _ k v cs => dictComprehension r k v cs
  | await _ v => await r v
  | yield _ v => yield r v
  | yieldFrom _ v => yieldFrom r v
  | compare _ a cs => compare r a cs
  | call _ f as ks => call r f as ks
  | formatted _ v c s => formatted r v c s
  | joined _ ps => joined r ps
  | literal _ v => literal r v
  | member _ v n => member r v n
  | subscript _ v i => subscript r v i
  | starred _ v => starred r v
  | name _ n => name r n
  | list _ es => list r es
  | tuple _ es => tuple r es
  | slice _ l u s => slice r l u s

def isStarred : Expr → Bool
  | starred .. => true
  | _ => false

@[simp] theorem loc_relocate (r : Region) (e : Expr) : (e.relocate r).loc = r := by
  cases e <;> rfl

end Expr

inductive Pattern where
  | value (loc : Region) (value : Expr)
  | singleton (loc : Region) (value : Literal)
  | sequence (loc : Region) (patterns : List Pattern)
  | mapping (loc : Region) (keys : List Expr) (patterns : List Pattern) (rest : Option String)
  | classPattern (loc : Region) (cls : Expr) (positional : List Pattern)
      (names : List String) (named : List Pattern)
  | star (loc : Region) (name : Option String)
  | capture (loc : Region) (pattern : Option Pattern) (name : Option String)
  | alternatives (loc : Region) (patterns : List Pattern)

instance : Inhabited Pattern := ⟨.star default none⟩

namespace Pattern

def loc : Pattern → Region
  | value l .. | singleton l .. | sequence l .. | mapping l .. | classPattern l .. | star l ..
  | capture l .. | alternatives l .. => l

end Pattern

/-- An imported name and the name it is bound to. -/
structure Alias where
  loc : Region
  name : String
  asName : Option String
deriving Inhabited

structure WithItem where
  context : Expr
  target : Option Expr
deriving Inhabited

structure Handler (σ : Type) where
  loc : Region
  type : Option Expr
  name : Option String
  body : List σ

structure MatchCase (σ : Type) where
  pattern : Pattern
  guard : Option Expr
  body : List σ

inductive Stmt where
  | functionDef (loc : Region) (isAsync : Bool) (name : String) (params : Params Expr)
      (body : List Stmt) (decorators : List Expr) (returns : Option Expr)
  | classDef (loc : Region) (name : String) (bases : List Expr) (keywords : List (Keyword Expr))
      (body : List Stmt) (decorators : List Expr)
  | returnStmt (loc : Region) (value : Option Expr)
  | delete (loc : Region) (targets : List Expr)
  | assign (loc : Region) (targets : List Expr) (value : Expr)
  | augAssign (loc : Region) (target : Expr) (op : BinOp) (value : Expr)
  | annAssign (loc : Region) (target annotation : Expr) (value : Option Expr) (simple : Bool)
  | forLoop (loc : Region) (isAsync : Bool) (target source : Expr) (body orelse : List Stmt)
  | whileLoop (loc : Region) (test : Expr) (body orelse : List Stmt)
  | ifElse (loc : Region) (test : Expr) (body orelse : List Stmt)
  | withBlock (loc : Region) (isAsync : Bool) (items : List WithItem) (body : List Stmt)
  | matchOn (loc : Region) (subject : Expr) (cases : List (MatchCase Stmt))
  | raise (loc : Region) (exception cause : Option Expr)
  | tryBlock (loc : Region) (isStar : Bool) (body : List Stmt) (handlers : List (Handler Stmt))
      (orelse finalbody : List Stmt)
  | assert (loc : Region) (test : Expr) (message : Option Expr)
  | importModules (loc : Region) (names : List Alias)
  | importFrom (loc : Region) (module : Option String) (names : List Alias) (level : Nat)
  | global (loc : Region) (names : List String)
  | nonlocal (loc : Region) (names : List String)
  | expr (loc : Region) (value : Expr)
  | pass (loc : Region)
  | breakLoop (loc : Region)
  | continueLoop (loc : Region)

instance : Inhabited Stmt := ⟨.pass default⟩

namespace Stmt

def loc : Stmt → Region
  | functionDef l .. | classDef l .. | returnStmt l .. | delete l .. | assign l ..
  | augAssign l .. | annAssign l .. | forLoop l .. | whileLoop l .. | ifElse l ..
  | withBlock l .. | matchOn l .. | raise l .. | tryBlock l .. | assert l ..
  | importModules l .. | importFrom l .. | global l .. | nonlocal l .. | expr l ..
  | pass l | breakLoop l | continueLoop l => l

end Stmt

end RuleBench.Script
