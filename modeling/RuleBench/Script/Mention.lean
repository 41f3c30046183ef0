import RuleBench.Script.Syntax

/-!
# Names as a script mentions them

`Stmt.mentions` lists, in reading order, every way in which a script touches a name: it binds or
uses it, declares it `global`, opens a block that has names of its own, and so on. What blocks exist
and where a name belongs is decided from this list alone (`RuleBench.Script.Scope`).
-/

namespace RuleBench.Script

/-- The stretches of a script that have names of their own. -/
inductive BlockKind where
  | module
  | function
  | comprehension (form : ComprehensionForm)
  | classBody (name : String)
  | hint
deriving Repr, BEq, DecidableEq, ReflBEq, LawfulBEq

/-- How a name is touched where it stands. -/
inductive Touch where
  | parameter
  | assigned
  | used
  | imported
  | annotated
deriving Repr, BEq, DecidableEq, ReflBEq, LawfulBEq

/-- The two declarations that send a name to another block. -/
inductive Declaration where
  | global
  | nonlocal
deriving Repr, BEq, DecidableEq, ReflBEq, LawfulBEq

def Declaration.word : Declaration → String
  | .global => "global"
  | .nonlocal => "nonlocal"

inductive Mention where
  | enter (kind : BlockKind)
  | leave (kind : BlockKind)
  | name (id : String) (touch : Touch) (loc : Region)
  | declare (declaration : Declaration) (id : String) (loc : Region)
  /-- A name with an annotation: a bare name without parentheses is the simple case. -/
  | annotate (id : String) (simple hasValue : Bool) (loc statement : Region)
  | importAll (loc : Region)
  /-- What a comprehension runs over is read between these two. -/
  | enterSource
  | leaveSource
  /-- The iteration variables of a comprehension stand between these two. -/
  | enterTarget
  | leaveTarget
  /-- A named expression is about to bind this name. -/
  | rebind (id : String) (loc whole : Region)
  /-- Something that may not stand in an annotation. -/
  | bareOnly (what : String) (loc : Region)
  | yields (loc : Region)
  | suspends
deriving Repr

namespace Param

def mention (p : Param Expr) : Mention := .name p.name .parameter p.loc

end Param

/-- The parameters of a function as names of its block. -/
def Params.mentions (ps : Params Expr) : List Mention :=
  (ps.positionalOnly ++ ps.plain ++ ps.keywordOnly ++ ps.rest.toList ++ ps.keywordRest.toList).map
    Param.mention

mutual

/-- The mentions of an expression that is read. -/
def Expr.mentions : Expr → List Mention
  | .boolOp _ _ vs => mentionsOfAll vs
  | .named r t v =>
    [.bareOnly "named expression" r]
      ++ (match t with | .name l id => [.rebind id l r] | _ => [])
      ++ v.mentions ++ t.bindings
  | .binOp _ a _ b => a.mentions ++ b.mentions
  | .unaryOp _ _ a => a.mentions
  | .lambda _ ps b =>
    mentionsOfDefaults ps ++ .enter .function :: ps.mentions ++ b.mentions ++ [.leave .function]
  | .ifElse _ t b e => t.mentions ++ b.mentions ++ e.mentions
  | .dict _ is => mentionsOfKeys is ++ mentionsOfEntries is
  | .set _ es => mentionsOfAll es
  | .comprehension _ k e cs =>
    mentionsOfFirst cs ++ .enter (.comprehension k.form) :: mentionsOfClauses true cs
      ++ e.mentions ++ [.leave (.comprehension k.form)]
  | .dictComprehension _ k v cs =>
    mentionsOfFirst cs ++ .enter (.comprehension .dict) :: mentionsOfClauses true cs
      ++ v.mentions ++ k.mentions ++ [.leave (.comprehension .dict)]
  | .await r v => .bareOnly "await expression" r :: v.mentions ++ [.suspends]
  | .yield r v => .bareOnly "yield expression" r :: mentionsOfOption v ++ [.yields r]
  | .yieldFrom r v => .bareOnly "yield expression" r :: v.mentions ++ [.yields r]
  | .compare _ a cs => a.mentions ++ mentionsOfChain cs
  | .call _ f as ks => f.mentions ++ mentionsOfAll as ++ mentionsOfKeywords ks
  | .formatted _ v _ s => v.mentions ++ mentionsOfOption s
  | .joined _ ps => mentionsOfAll ps
  | .literal .. => []
  | .member _ v _ => v.mentions
  | .subscript _ v i => v.mentions ++ i.mentions
  | .starred _ v => v.mentions
  | .name r id => [.name id .used r]
  | .list _ es => mentionsOfAll es
  | .tuple _ es => mentionsOfAll es
  | .slice _ l u s => mentionsOfOption l ++ mentionsOfOption u ++ mentionsOfOption s

/-- The mentions of an expression that is assigned to or deleted. -/
def Expr.bindings : Expr → List Mention
  | .name r id => [.name id .assigned r]
  | .starred _ v => v.bindings
  | .list _ es => bindingsOfAll es
  | .tuple _ es => bindingsOfAll es
  | .member _ v _ => v.mentions
  | .subscript _ v i => v.mentions ++ i.mentions
  | _ => []

def mentionsOfAll : List Expr → List Mention
  | [] => []
  | e :: es => e.mentions ++ mentionsOfAll es

def bindingsOfAll : List Expr → List Mention
  | [] => []
  | e :: es => e.bindings ++ bindingsOfAll es

def mentionsOfOption : Option Expr → List Mention
  | none => []
  | some e => e.mentions

def mentionsOfKeys : List (DictItem Expr) → List Mention
  | [] => []
  | ⟨k, _⟩ :: is => mentionsOfOption k ++ mentionsOfKeys is

def mentionsOfEntries : List (DictItem Expr) → List Mention
  | [] => []
  | ⟨_, v⟩ :: is => v.mentions ++ mentionsOfEntries is

def mentionsOfChain : List (Comparand Expr) → List Mention
  | [] => []
  | ⟨_, e⟩ :: cs => e.mentions ++ mentionsOfChain cs

def mentionsOfKeywords : List (Keyword Expr) → List Mention
  | [] => []
  | ⟨_, _, v⟩ :: ks => v.mentions ++ mentionsOfKeywords ks

/-- The first source of a comprehension is read in the block around it. -/
def mentionsOfFirst : List (Clause Expr) → List Mention
  | [] => []
  | ⟨_, _, s, _⟩ :: _ => .enterSource :: s.mentions ++ [.leaveSource]

def mentionsOfClauses (first : Bool) : List (Clause Expr) → List Mention
  | [] => []
  | ⟨isAsync, t, s, is⟩ :: cs =>
    .enterTarget :: t.bindings ++ .leaveTarget
      :: (if first then [] else .enterSource :: s.mentions ++ [.leaveSource])
      ++ mentionsOfAll is ++ (if isAsync then [.suspends] else []) ++ mentionsOfClauses false cs

def mentionsOfDefault : List (Param Expr) → List Mention
  | [] => []
  | ⟨_, _, _, d⟩ :: ps => mentionsOfOption d ++ mentionsOfDefault ps

/-- Defaults are read in the block around the function. -/
def mentionsOfDefaults : Params Expr → List Mention
  | ⟨po, pl, _, ko, _⟩ => mentionsOfDefault po ++ mentionsOfDefault pl ++ mentionsOfDefault ko

end

/-- The names that an annotation mentions, in a block of their own. -/
def annotationMentions (ms : List Mention) : List Mention :=
  .enter .hint :: ms ++ [.leave .hint]

namespace Params

/-- The mentions of the annotations of parameters. -/
def annotationMentions (ps : Params Expr) : List Mention :=
  (ps.positionalOnly ++ ps.plain ++ ps.rest.toList ++ ps.keywordRest.toList ++
    ps.keywordOnly).flatMap
    fun p => mentionsOfOption (Param.annotation p)

end Params

mutual

def Pattern.mentions : Pattern → List Mention
  | .value _ v => v.mentions
  | .singleton .. => []
  | .sequence _ ps => mentionsOfPatterns ps
  | .mapping r ks ps rest =>
    mentionsOfAll ks ++ mentionsOfPatterns ps ++ rest.toList.map (.name · .assigned r)
  | .classPattern _ c ps _ qs => c.mentions ++ mentionsOfPatterns ps ++ mentionsOfPatterns qs
  | .star r n => n.toList.map (.name · .assigned r)
  | .capture r p n => mentionsOfPattern p ++ n.toList.map (.name · .assigned r)
  | .alternatives _ ps => mentionsOfPatterns ps

def mentionsOfPatterns : List Pattern → List Mention
  | [] => []
  | p :: ps => p.mentions ++ mentionsOfPatterns ps

def mentionsOfPattern : Option Pattern → List Mention
  | none => []
  | some p => p.mentions

end

namespace Alias

/-- The name that an import binds: of a dotted name the part before the first dot. -/
def boundName (a : Alias) : String :=
  match a.asName with
  | some n => n
  | none => String.ofList (a.name.toList.takeWhile (· != '.'))

def mention (a : Alias) : Mention :=
  if a.name == "*" then .importAll a.loc else .name a.boundName .imported a.loc

end Alias

def WithItem.mentions (i : WithItem) : List Mention :=
  i.context.mentions ++ (i.target.map Expr.bindings).getD []

mutual

/-- The mentions of a statement, in reading order. -/
def Stmt.mentions : Stmt → List Mention
  | .functionDef r isAsync n ps b ds ret =>
    .name n .assigned r :: mentionsOfDefaults ps ++ annotationMentions ps.annotationMentions
      ++ (match ret with | none => [] | some e => annotationMentions e.mentions)
      ++ mentionsOfAll ds ++ .enter .function :: (if isAsync then [.suspends] else [])
      ++ ps.mentions ++ mentionsOfBlock b ++ [.leave .function]
  | .classDef r n bs ks b ds =>
    .name n .assigned r :: mentionsOfAll bs ++ mentionsOfKeywords ks ++ mentionsOfAll ds
      ++ .enter (.classBody n) :: mentionsOfBlock b ++ [.leave (.classBody n)]
  | .returnStmt _ v => mentionsOfOption v
  | .delete _ ts => bindingsOfAll ts
  | .assign _ ts v => bindingsOfAll ts ++ v.mentions
  | .augAssign _ t _ v => t.bindings ++ v.mentions
  | .annAssign r t a v simple =>
    (match t with
      | .name l id => [.annotate id simple v.isSome l r]
      | _ => t.bindings)
      ++ annotationMentions a.mentions ++ mentionsOfOption v
  | .forLoop _ _ t s b e => t.bindings ++ s.mentions ++ mentionsOfBlock b ++ mentionsOfBlock e
  | .whileLoop _ t b e => t.mentions ++ mentionsOfBlock b ++ mentionsOfBlock e
  | .ifElse _ t b e => t.mentions ++ mentionsOfBlock b ++ mentionsOfBlock e
  | .withBlock _ _ is b => is.flatMap WithItem.mentions ++ mentionsOfBlock b
  | .matchOn _ s cs => s.mentions ++ mentionsOfCases cs
  | .raise _ e c => mentionsOfOption e ++ mentionsOfOption c
  | .tryBlock _ _ b hs e f =>
    mentionsOfBlock b ++ mentionsOfBlock e ++ mentionsOfHandlers hs ++ mentionsOfBlock f
  | .assert _ t m => t.mentions ++ mentionsOfOption m
  | .importModules _ ns => ns.map Alias.mention
  | .importFrom _ _ ns _ => ns.map Alias.mention
  | .global r ns => ns.map (.declare .global · r)
  | .nonlocal r ns => ns.map (.declare .nonlocal · r)
  | .expr _ e => e.mentions
  | .pass _ => []
  | .breakLoop _ => []
  | .continueLoop _ => []

def mentionsOfBlock : List Stmt → List Mention
  | [] => []
  | s :: ss => s.mentions ++ mentionsOfBlock ss

def mentionsOfHandlers : List (Handler Stmt) → List Mention
  | [] => []
  | ⟨r, t, n, b⟩ :: hs =>
    mentionsOfOption t ++ n.toList.map (.name · .assigned r) ++ mentionsOfBlock b
      ++ mentionsOfHandlers hs

def mentionsOfCases : List (MatchCase Stmt) → List Mention
  | [] => []
  | ⟨p, g, b⟩ :: cs => p.mentions ++ mentionsOfOption g ++ mentionsOfBlock b ++ mentionsOfCases cs

end

/-! ### What a block does besides naming -/

/-- Whether the block whose mentions these are, without the blocks inside it, contains `yield`. -/
def yieldsAt : Nat → List Mention → Bool
  | _, [] => false
  | 0, .yields _ :: _ => true
  | depth, .enter .hint :: ms => yieldsAt depth ms
  | depth, .leave .hint :: ms => yieldsAt depth ms
  | depth, .enter _ :: ms => yieldsAt (depth + 1) ms
  | 0, .leave _ :: _ => false
  | depth + 1, .leave _ :: ms => yieldsAt depth ms
  | depth, _ :: ms => yieldsAt depth ms

/-- Whether a block suspends: it awaits, or runs over something asynchronous, itself or in a
comprehension that is worked off at once. The list holds the answer so far for each open block,
innermost first. -/
def suspendsAt : List Bool → List Mention → Bool
  | open', [] => open'.getLast?.getD false
  | open', .suspends :: ms => suspendsAt (true :: open'.tail) ms
  | open', .enter .hint :: ms => suspendsAt open' ms
  | open', .leave .hint :: ms => suspendsAt open' ms
  | open', .enter _ :: ms => suspendsAt (false :: open') ms
  | inner :: outer :: rest, .leave (.comprehension form) :: ms =>
    suspendsAt ((outer || (inner && form != .generator)) :: rest) ms
  | open', .leave _ :: ms => suspendsAt open'.tail ms
  | open', _ :: ms => suspendsAt open' ms

/-- Whether a function with this body hands out values one by one. -/
def yields (body : List Mention) : Bool := yieldsAt 0 body

/-- Whether a block with these mentions suspends. -/
def suspends (ms : List Mention) : Bool := suspendsAt [false] ms

end RuleBench.Script
