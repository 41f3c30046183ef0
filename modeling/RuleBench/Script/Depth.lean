import RuleBench.Script.Syntax

/-!
# How deep a script nests

The height of the tree of a script, counted in statements, expressions and patterns.
-/

namespace RuleBench.Script

/-- The tallest of several parts. -/
def tallest (heights : List Nat) : Nat := heights.foldl max 0

mutual

def Expr.depth : Expr → Nat
  | .boolOp _ _ vs => depthOfAll vs + 1
  | .named _ t v => max t.depth v.depth + 1
  | .binOp _ a _ b => max a.depth b.depth + 1
  | .unaryOp _ _ a => a.depth + 1
  | .lambda _ ps b => max (depthOfParams ps) b.depth + 1
  | .ifElse _ t b e => max t.depth (max b.depth e.depth) + 1
  | .dict _ is => depthOfItems is + 1
  | .set _ es => depthOfAll es + 1
  | .comprehension _ _ e cs => max e.depth (depthOfClauses cs) + 1
  | .dictComprehension _ k v cs => max k.depth (max v.depth (depthOfClauses cs)) + 1
  | .await _ v => v.depth + 1
  | .yield _ v => depthOfOption v + 1
  | .yieldFrom _ v => v.depth + 1
  | .compare _ a cs => max a.depth (depthOfChain cs) + 1
  | .call _ f as ks => max f.depth (max (depthOfAll as) (depthOfKeywords ks)) + 1
  | .formatted _ v _ s => max v.depth (depthOfOption s) + 1
  | .joined _ ps => depthOfAll ps + 1
  | .literal .. => 1
  | .member _ v _ => v.depth + 1
  | .subscript _ v i => max v.depth i.depth + 1
  | .starred _ v => v.depth + 1
  | .name .. => 1
  | .list _ es => depthOfAll es + 1
  | .tuple _ es => depthOfAll es + 1
  | .slice _ l u s => max (depthOfOption l) (max (depthOfOption u) (depthOfOption s)) + 1

def depthOfAll : List Expr → Nat
  | [] => 0
  | e :: es => max e.depth (depthOfAll es)

def depthOfOption : Option Expr → Nat
  | none => 0
  | some e => e.depth

def depthOfItems : List (DictItem Expr) → Nat
  | [] => 0
  | ⟨k, v⟩ :: is => max (depthOfOption k) (max v.depth (depthOfItems is))

def depthOfChain : List (Comparand Expr) → Nat
  | [] => 0
  | ⟨_, e⟩ :: cs => max e.depth (depthOfChain cs)

def depthOfKeywords : List (Keyword Expr) → Nat
  | [] => 0
  | ⟨_, _, v⟩ :: ks => max v.depth (depthOfKeywords ks)

def depthOfClauses : List (Clause Expr) → Nat
  | [] => 0
  | ⟨_, t, s, is⟩ :: cs => max t.depth (max s.depth (max (depthOfAll is) (depthOfClauses cs)))

def depthOfParam : List (Param Expr) → Nat
  | [] => 0
  | ⟨_, _, a, d⟩ :: ps => max (depthOfOption a) (max (depthOfOption d) (depthOfParam ps))

def depthOfRest : Option (Param Expr) → Nat
  | none => 0
  | some ⟨_, _, a, d⟩ => max (depthOfOption a) (depthOfOption d)

def depthOfParams : Params Expr → Nat
  | ⟨po, pl, r, ko, kr⟩ =>
    max (depthOfParam po) (max (depthOfParam pl) (max (depthOfRest r)
      (max (depthOfParam ko) (depthOfRest kr))))

end

mutual

def Pattern.depth : Pattern → Nat
  | .value _ v => v.depth + 1
  | .singleton .. => 1
  | .sequence _ ps => depthOfPatterns ps + 1
  | .mapping _ ks ps _ => max (depthOfAll ks) (depthOfPatterns ps) + 1
  | .classPattern _ c ps _ qs => max c.depth (max (depthOfPatterns ps) (depthOfPatterns qs)) + 1
  | .star .. => 1
  | .capture _ p _ => depthOfPattern p + 1
  | .alternatives _ ps => depthOfPatterns ps + 1

def depthOfPatterns : List Pattern → Nat
  | [] => 0
  | p :: ps => max p.depth (depthOfPatterns ps)

def depthOfPattern : Option Pattern → Nat
  | none => 0
  | some p => p.depth

end

mutual

def Stmt.depth : Stmt → Nat
  | .functionDef _ _ _ ps b ds r =>
    tallest [depthOfParams ps, depthOfBody b, depthOfAll ds, depthOfOption r] + 1
  | .classDef _ _ bs ks b ds =>
    tallest [depthOfAll bs, depthOfKeywords ks, depthOfBody b, depthOfAll ds] + 1
  | .returnStmt _ v => depthOfOption v + 1
  | .delete _ ts => depthOfAll ts + 1
  | .assign _ ts v => max (depthOfAll ts) v.depth + 1
  | .augAssign _ t _ v => max t.depth v.depth + 1
  | .annAssign _ t a v _ => max t.depth (max a.depth (depthOfOption v)) + 1
  | .forLoop _ _ t s b e => tallest [t.depth, s.depth, depthOfBody b, depthOfBlock e] + 1
  | .whileLoop _ t b e => tallest [t.depth, depthOfBody b, depthOfBlock e] + 1
  | .ifElse _ t b e => tallest [t.depth, depthOfBody b, depthOfBlock e] + 1
  | .withBlock _ _ is b =>
    max (tallest (is.map fun i => max i.context.depth (depthOfOption i.target)))
      (depthOfBody b) + 1
  | .matchOn _ s cs => max s.depth (depthOfCases cs) + 1
  | .raise _ e c => max (depthOfOption e) (depthOfOption c) + 1
  | .tryBlock _ _ b hs e f =>
    tallest [depthOfBody b, depthOfHandlers hs, depthOfBlock e, depthOfBlock f] + 1
  | .assert _ t m => max t.depth (depthOfOption m) + 1
  | .importModules .. => 1
  | .importFrom .. => 1
  | .global .. => 1
  | .nonlocal .. => 1
  | .expr _ e => e.depth + 1
  | .pass _ => 1
  | .breakLoop _ => 1
  | .continueLoop _ => 1

def depthOfBlock : List Stmt → Nat
  | [] => 0
  | s :: ss => max s.depth (depthOfBlock ss)

/-- A body, which has at least one statement. -/
def depthOfBody : List Stmt → Nat
  | [] => 1
  | s :: ss => max s.depth (depthOfBlock ss)

def depthOfHandlers : List (Handler Stmt) → Nat
  | [] => 0
  | ⟨_, t, _, b⟩ :: hs => max (depthOfOption t) (max (depthOfBody b) (depthOfHandlers hs))

def depthOfCases : List (MatchCase Stmt) → Nat
  | [] => 0
  | ⟨p, g, b⟩ :: cs =>
    max p.depth (max (depthOfOption g) (max (depthOfBody b) (depthOfCases cs)))

end

/-- The depth that later passes can follow. -/
def greatestDepth : Nat := 2900

end RuleBench.Script
