import RuleBench.Script.Syntax

/-!
# Scripts without their places

A tree remembers where in the text each of its nodes was read. `unplaced` forgets these places, which
only matter to faults: a script that runs takes no notice of them, and trees can be compared that
were read from different texts.
-/

namespace RuleBench.Script

mutual

/-- The same expression, read nowhere. -/
def Expr.unplaced : Expr → Expr
  | .boolOp _ o vs => .boolOp default o (unplacedAll vs)
  | .named _ t v => .named default t.unplaced v.unplaced
  | .binOp _ a o b => .binOp default a.unplaced o b.unplaced
  | .unaryOp _ o a => .unaryOp default o a.unplaced
  | .lambda _ ps b => .lambda default (unplacedParams ps) b.unplaced
  | .ifElse _ t b e => .ifElse default t.unplaced b.unplaced e.unplaced
  | .dict _ is => .dict default (unplacedItems is)
  | .set _ es => .set default (unplacedAll es)
  | .comprehension _ k e cs => .comprehension default k e.unplaced (unplacedClauses cs)
  | .dictComprehension _ k v cs =>
    .dictComprehension default k.unplaced v.unplaced (unplacedClauses cs)
  | .await _ v => .await default v.unplaced
  | .yield _ v => .yield default (unplacedOption v)
  | .yieldFrom _ v => .yieldFrom default v.unplaced
  | .compare _ a cs => .compare default a.unplaced (unplacedChain cs)
  | .call _ f as ks => .call default f.unplaced (unplacedAll as) (unplacedKeywords ks)
  | .formatted _ v c s => .formatted default v.unplaced c (unplacedOption s)
  | .joined _ ps => .joined default (unplacedAll ps)
  | .literal _ v => .literal default v
  | .member _ v n => .member default v.unplaced n
  | .subscript _ v i => .subscript default v.unplaced i.unplaced
  | .starred _ v => .starred default v.unplaced
  | .name _ n => .name default n
  | .list _ es => .list default (unplacedAll es)
  | .tuple _ es => .tuple default (unplacedAll es)
  | .slice _ l u s => .slice default (unplacedOption l) (unplacedOption u) (unplacedOption s)

def unplacedAll : List Expr → List Expr
  | [] => []
  | e :: es => e.unplaced :: unplacedAll es

def unplacedOption : Option Expr → Option Expr
  | none => none
  | some e => some e.unplaced

def unplacedItems : List (DictItem Expr) → List (DictItem Expr)
  | [] => []
  | ⟨k, v⟩ :: is => ⟨unplacedOption k, v.unplaced⟩ :: unplacedItems is

def unplacedChain : List (Comparand Expr) → List (Comparand Expr)
  | [] => []
  | ⟨o, e⟩ :: cs => ⟨o, e.unplaced⟩ :: unplacedChain cs

def unplacedKeywords : List (Keyword Expr) → List (Keyword Expr)
  | [] => []
  | ⟨_, n, v⟩ :: ks => ⟨default, n, v.unplaced⟩ :: unplacedKeywords ks

def unplacedClauses : List (Clause Expr) → List (Clause Expr)
  | [] => []
  | ⟨isAsync, t, s, is⟩ :: cs =>
    ⟨isAsync, t.unplaced, s.unplaced, unplacedAll is⟩ :: unplacedClauses cs

def unplacedParamList : List (Param Expr) → List (Param Expr)
  | [] => []
  | ⟨_, n, a, d⟩ :: ps =>
    ⟨default, n, unplacedOption a, unplacedOption d⟩ :: unplacedParamList ps

def unplacedRest : Option (Param Expr) → Option (Param Expr)
  | none => none
  | some ⟨_, n, a, d⟩ => some ⟨default, n, unplacedOption a, unplacedOption d⟩

def unplacedParams : Params Expr → Params Expr
  | ⟨po, pl, r, ko, kr⟩ => ⟨unplacedParamList po, unplacedParamList pl, unplacedRest r,
    unplacedParamList ko, unplacedRest kr⟩

end

mutual

/-- The same pattern, read nowhere. -/
def Pattern.unplaced : Pattern → Pattern
  | .value _ v => .value default v.unplaced
  | .singleton _ v => .singleton default v
  | .sequence _ ps => .sequence default (unplacedPatterns ps)
  | .mapping _ ks ps rest => .mapping default (unplacedAll ks) (unplacedPatterns ps) rest
  | .classPattern _ c ps ns qs =>
    .classPattern default c.unplaced (unplacedPatterns ps) ns (unplacedPatterns qs)
  | .star _ n => .star default n
  | .capture _ p n => .capture default (unplacedPattern p) n
  | .alternatives _ ps => .alternatives default (unplacedPatterns ps)

def unplacedPatterns : List Pattern → List Pattern
  | [] => []
  | p :: ps => p.unplaced :: unplacedPatterns ps

def unplacedPattern : Option Pattern → Option Pattern
  | none => none
  | some p => some p.unplaced

end

def Alias.unplaced (a : Alias) : Alias := ⟨default, a.name, a.asName⟩

def WithItem.unplaced (i : WithItem) : WithItem := ⟨i.context.unplaced, unplacedOption i.target⟩

mutual

/-- The same statement, read nowhere. -/
def Stmt.unplaced : Stmt → Stmt
  | .functionDef _ isAsync n ps b ds r => .functionDef default isAsync n (unplacedParams ps)
    (unplacedBlock b) (unplacedAll ds) (unplacedOption r)
  | .classDef _ n bs ks b ds => .classDef default n (unplacedAll bs) (unplacedKeywords ks)
    (unplacedBlock b) (unplacedAll ds)
  | .returnStmt _ v => .returnStmt default (unplacedOption v)
  | .delete _ ts => .delete default (unplacedAll ts)
  | .assign _ ts v => .assign default (unplacedAll ts) v.unplaced
  | .augAssign _ t o v => .augAssign default t.unplaced o v.unplaced
  | .annAssign _ t a v simple =>
    .annAssign default t.unplaced a.unplaced (unplacedOption v) simple
  | .forLoop _ isAsync t s b e =>
    .forLoop default isAsync t.unplaced s.unplaced (unplacedBlock b) (unplacedBlock e)
  | .whileLoop _ t b e => .whileLoop default t.unplaced (unplacedBlock b) (unplacedBlock e)
  | .ifElse _ t b e => .ifElse default t.unplaced (unplacedBlock b) (unplacedBlock e)
  | .withBlock _ isAsync is b =>
    .withBlock default isAsync (is.map WithItem.unplaced) (unplacedBlock b)
  | .matchOn _ s cs => .matchOn default s.unplaced (unplacedCases cs)
  | .raise _ e c => .raise default (unplacedOption e) (unplacedOption c)
  | .tryBlock _ isStar b hs e f => .tryBlock default isStar (unplacedBlock b)
    (unplacedHandlers hs) (unplacedBlock e) (unplacedBlock f)
  | .assert _ t m => .assert default t.unplaced (unplacedOption m)
  | .importModules _ ns => .importModules default (ns.map Alias.unplaced)
  | .importFrom _ m ns l => .importFrom default m (ns.map Alias.unplaced) l
  | .global _ ns => .global default ns
  | .nonlocal _ ns => .nonlocal default ns
  | .expr _ e => .expr default e.unplaced
  | .pass _ => .pass default
  | .breakLoop _ => .breakLoop default
  | .continueLoop _ => .continueLoop default

/-- The same statements, read nowhere. -/
def unplacedBlock : List Stmt → List Stmt
  | [] => []
  | s :: ss => s.unplaced :: unplacedBlock ss

def unplacedHandlers : List (Handler Stmt) → List (Handler Stmt)
  | [] => []
  | ⟨_, t, n, b⟩ :: hs => ⟨default, unplacedOption t, n, unplacedBlock b⟩ :: unplacedHandlers hs

def unplacedCases : List (MatchCase Stmt) → List (MatchCase Stmt)
  | [] => []
  | ⟨p, g, b⟩ :: cs => ⟨p.unplaced, unplacedOption g, unplacedBlock b⟩ :: unplacedCases cs

end

end RuleBench.Script
