import RuleBench.Script.Constant
import RuleBench.Script.Future

/-!
# Where things may stand

The checks that need more than the grammar and the names: `return` belongs in a function, `break` in
a loop, a starred target in a list, a pattern that always matches at the end, and so on. The parts
of a statement are checked in the order in which they are carried out, and the first fault is
reported.
-/

namespace RuleBench.Script

/-- The kinds of code that `return`, `yield` and `await` tell apart. -/
inductive CodeKind where
  | module
  | classBody
  | function
  | asyncFunction
  | lambda
  | comprehension
deriving Repr, BEq, DecidableEq, ReflBEq, LawfulBEq

namespace CodeKind

/-- Code that runs when it is called. -/
def isCallable : CodeKind → Bool
  | module | classBody => false
  | _ => true

/-- Code in which annotations of names are kept. -/
def keepsAnnotations : CodeKind → Bool
  | module | classBody => true
  | _ => false

end CodeKind

/-- The statements around a place that a jump has to leave. A `finally` block runs on the way out:
its own fault, if it has one, is found then. -/
inductive Enclosing where
  | loop
  | groupHandler
  | final (fault : Option Fault)
  | other

/-- What a check needs to know of the code around. -/
structure Placement where
  kind : CodeKind
  /-- The code is a function that suspends and hands out values. -/
  asyncGenerator : Bool
  enclosing : List Enclosing
  future : Future

namespace Placement

/-- The most statements that may be open inside each other in one function. -/
def maxEnclosing : Nat := 20

def fail (r : Region) (d : Defect) : Except Fault Unit := .error (faultAt r d)

def enter (p : Placement) (r : Region) (e : Enclosing) : Except Fault Placement :=
  if p.enclosing.length ≥ maxEnclosing then .error (faultAt r .nestedBlocks)
  else .ok { p with enclosing := e :: p.enclosing }

/-- Enters a statement that may be missing. -/
def enterIf (p : Placement) (present : Bool) (r : Region) (e : Enclosing) :
    Except Fault Placement :=
  if present then p.enter r e else .ok p

/-- Leaves the enclosing statements, all of them or those inside the nearest loop; tells whether a
loop was found. -/
def leave (toLoop : Bool) (r : Region) : List Enclosing → Except Fault Bool
  | [] => .ok false
  | .groupHandler :: _ => .error (faultAt r .exceptStarJump)
  | .loop :: rest => if toLoop then .ok true else leave toLoop r rest
  | .final (some f) :: _ => .error f
  | _ :: rest => leave toLoop r rest

/-- Code of a kind of its own inside the present one. -/
def inside (p : Placement) (kind : CodeKind) : Placement := ⟨kind, false, [], p.future⟩

/-- The code of a function with this body. -/
def insideFunction (p : Placement) (isAsync : Bool) (body : List Mention) : Placement :=
  ⟨if isAsync then .asyncFunction else .function, yields body && (isAsync || suspends body), [],
    p.future⟩

end Placement

open Placement

/-- A check that is not always made. -/
def checkIf (condition : Bool) (check : Except Fault Unit) : Except Fault Unit :=
  if condition then check else .ok ()

/-- What a check has found wrong. -/
def faultOf? : Except Fault Unit → Option Fault
  | .error fault => some fault
  | .ok () => none

/-- The one name that cannot be bound. -/
def debugName : String := "__debug__"

def checkName (r : Region) (n : String) : Except Fault Unit :=
  if n == debugName then fail r (.cannotAssign debugName) else .ok ()

/-- Parameter names are reported at the function. -/
def checkParams (r : Region) (ps : Params Expr) : Except Fault Unit :=
  (ps.positionalOnly ++ ps.plain ++ ps.rest.toList ++ ps.keywordOnly ++ ps.keywordRest.toList).forM
    fun p => checkName r p.name

/-- A keyword may be given once, and is reported where it is repeated. -/
def checkKeywords (r : Region) : List (Keyword Expr) → Except Fault Unit
  | [] => .ok ()
  | k :: ks => do
    match k.name with
    | none => pure ()
    | some n =>
      checkName r n
      match ks.find? (·.name == some n) with
      | none => pure ()
      | some again => fail again.loc (.keywordRepeated n)
    checkKeywords r ks

/-- Of the targets in one list at most one is starred, and the list is not too long for it. -/
def checkStars (r : Region) (targets : List Expr) : Except Fault Unit :=
  match targets.findIdx? Expr.isStarred with
  | none => .ok ()
  | some i =>
    if i ≥ 256 then fail r .starTooMany
    else if (targets.drop (i + 1)).any Expr.isStarred then fail r .starTargets
    else .ok ()

/-- The place of the member name of a member expression that spans lines. -/
def memberPlace (r : Region) (name : String) : Region :=
  if r.line == r.endLine then r else { r with line := r.endLine, col := r.endCol - name.length }

/-- A comprehension that suspends needs code that may suspend around it. -/
def checkSuspension (p : Placement) (r : Region) (form : ComprehensionForm) (suspends : Bool) :
    Except Fault Unit :=
  if suspends && form != .generator && p.kind != .asyncFunction && p.kind != .comprehension then
    fail r .asyncComprehension
  else .ok ()

mutual

def checkExpr (p : Placement) : Expr → Except Fault Unit
  | .boolOp _ _ vs => checkAll p vs
  | .named _ t v => do
    checkExpr p v
    checkTarget p t
  | .binOp _ a _ b => do
    checkExpr p a
    checkExpr p b
  | .unaryOp _ _ a => checkExpr p a
  | .lambda r ps b => do
    checkParams r ps
    checkDefaults p ps
    checkExpr (p.inside .lambda) b
  | .ifElse _ t b e => do
    checkExpr p t
    checkExpr p b
    checkExpr p e
  | .dict _ is => checkItems p is
  | .set _ es => checkElements p es
  | .comprehension r k e cs => do
    checkSuspension p r k.form (suspends (mentionsOfClauses true cs ++ e.mentions))
    let q := p.inside .comprehension
    checkClauses q r true cs
    checkExpr q e
    checkFirst p cs
  | .dictComprehension r k v cs => do
    checkSuspension p r .dict (suspends (mentionsOfClauses true cs ++ v.mentions ++ k.mentions))
    let q := p.inside .comprehension
    checkClauses q r true cs
    checkExpr q k
    checkExpr q v
    checkFirst p cs
  | .await r v => do
    if !p.kind.isCallable then fail r .awaitOutsideFunction
    if p.kind != .asyncFunction && p.kind != .comprehension then fail r .awaitOutsideAsync
    checkExpr p v
  | .yield r v => do
    if !p.kind.isCallable then fail r .yieldOutside
    checkOption p v
  | .yieldFrom r v => do
    if !p.kind.isCallable then fail r .yieldOutside
    if p.kind == .asyncFunction then fail r .yieldFromAsync
    checkExpr p v
  | .compare _ a cs => do
    checkExpr p a
    checkChain p cs
  | .call r f as ks => do
    checkKeywords r ks
    checkExpr p f
    checkElements p as
    checkValues p ks
  | .formatted _ v _ s => do
    checkExpr p v
    checkOption p s
  | .joined _ ps => checkAll p ps
  | .literal .. => .ok ()
  | .member _ v _ => checkExpr p v
  | .subscript _ v i => do
    checkExpr p v
    checkExpr p i
  | .starred r _ => fail r .starHere
  | .name .. => .ok ()
  | .list _ es => checkElements p es
  | .tuple _ es => checkElements p es
  | .slice _ l u s => do
    checkOption p l
    checkOption p u
    checkOption p s

/-- A target of an assignment. -/
def checkTarget (p : Placement) : Expr → Except Fault Unit
  | .name r n => checkName r n
  | .member r v n => do
    checkExpr p v
    checkName (memberPlace r n) n
  | .subscript _ v i => do
    checkExpr p v
    checkExpr p i
  | .starred r _ => fail r .starTarget
  | .list r es => do
    checkStars r es
    checkTargets p es
  | .tuple r es => do
    checkStars r es
    checkTargets p es
  | _ => .ok ()

/-- A target of `del`. -/
def checkDeleted (p : Placement) : Expr → Except Fault Unit
  | .name r n => if n == debugName then fail r (.cannotDelete debugName) else .ok ()
  | .member _ v _ => checkExpr p v
  | .subscript _ v i => do
    checkExpr p v
    checkExpr p i
  | .starred r _ => fail r .starHere
  | .list _ es => checkDeletions p es
  | .tuple _ es => checkDeletions p es
  | _ => .ok ()

def checkDeletions (p : Placement) : List Expr → Except Fault Unit
  | [] => .ok ()
  | e :: es => do
    checkDeleted p e
    checkDeletions p es

/-- Targets in a list, where one may be starred. -/
def checkTargets (p : Placement) : List Expr → Except Fault Unit
  | [] => .ok ()
  | .starred _ e :: es => do
    checkTarget p e
    checkTargets p es
  | e :: es => do
    checkTarget p e
    checkTargets p es

def checkAll (p : Placement) : List Expr → Except Fault Unit
  | [] => .ok ()
  | e :: es => do
    checkExpr p e
    checkAll p es

/-- Elements of a display or a call, which may be starred. -/
def checkElements (p : Placement) : List Expr → Except Fault Unit
  | [] => .ok ()
  | .starred _ e :: es => do
    checkExpr p e
    checkElements p es
  | e :: es => do
    checkExpr p e
    checkElements p es

def checkOption (p : Placement) : Option Expr → Except Fault Unit
  | none => .ok ()
  | some e => checkExpr p e

def checkItems (p : Placement) : List (DictItem Expr) → Except Fault Unit
  | [] => .ok ()
  | ⟨k, v⟩ :: is => do
    checkOption p k
    checkExpr p v
    checkItems p is

def checkChain (p : Placement) : List (Comparand Expr) → Except Fault Unit
  | [] => .ok ()
  | ⟨_, e⟩ :: cs => do
    checkExpr p e
    checkChain p cs

def checkValues (p : Placement) : List (Keyword Expr) → Except Fault Unit
  | [] => .ok ()
  | ⟨_, _, v⟩ :: ks => do
    checkExpr p v
    checkValues p ks

/-- What a comprehension runs over first belongs to the code around it. -/
def checkFirst (p : Placement) : List (Clause Expr) → Except Fault Unit
  | [] => .ok ()
  | ⟨_, _, s, _⟩ :: _ => checkExpr p s

def checkClauses (p : Placement) (r : Region) (first : Bool) :
    List (Clause Expr) → Except Fault Unit
  | [] => .ok ()
  | ⟨isAsync, t, s, is⟩ :: cs => do
    if !first then checkExpr p s
    let p ← if isAsync then p.enter r .other else pure p
    checkTarget p t
    checkAll p is
    checkClauses p r false cs

def checkDefault (p : Placement) : List (Param Expr) → Except Fault Unit
  | [] => .ok ()
  | ⟨_, _, _, d⟩ :: ps => do
    checkOption p d
    checkDefault p ps

def checkDefaults (p : Placement) : Params Expr → Except Fault Unit
  | ⟨po, pl, _, ko, _⟩ => do
    checkDefault p po
    checkDefault p pl
    checkDefault p ko

end

/-! ### Patterns -/

/-- The names that a pattern has captured so far, and the part of it that was looked at last. -/
structure Captures where
  names : List String
  here : Region

namespace Captures

/-- A name may be captured once. -/
def store (c : Captures) : Option String → Except Fault Captures
  | none => .ok c
  | some n => do
    checkName c.here n
    if c.names.contains n then fail c.here (.patternNameTwice n)
    return { c with names := c.names ++ [n] }

end Captures

namespace Pattern

def isWildcard : Pattern → Bool
  | .capture _ none none => true
  | _ => false

def isStar : Pattern → Bool
  | .star .. => true
  | _ => false

def isStarWildcard : Pattern → Bool
  | .star _ none => true
  | _ => false

end Pattern

/-- What a pattern may compare with: a constant, or a member of something. -/
def isComparable : Expr → Bool
  | .literal .. | .member .. => true
  | e => (Constant.ofExpr? e).isSome

/-- The constant keys of a mapping pattern differ from each other. -/
def checkPatternKeys (p : Placement) (r : Region) (seen : List Constant) :
    List Expr → Except Fault Unit
  | [] => .ok ()
  | k :: ks => do
    match Constant.ofExpr? k with
    | some v =>
      if seen.any (·.equals v) then fail r (.patternKeyTwice v.text)
      checkPatternKeys p r (v :: seen) ks
    | none =>
      if !isComparable k then fail r .patternKey
      checkExpr p k
      checkPatternKeys p r seen ks

/-- The attributes of a class pattern differ from each other; faults are reported at the patterns
that are given for them. -/
def checkAttributes (r : Region) : List (String × Region) → Except Fault Region
  | [] => .ok r
  | (n, loc) :: rest => do
    checkName loc n
    match rest.lookup n with
    | none => checkAttributes loc rest
    | some again =>
      fail again (.patternAttributeTwice n)
      return again

/-- The parts of a pattern that are not looked at. -/
inductive Skipped where
  | none
  | wildcards
  | bare

/-- `bare` parts are wildcards and starred wildcards. -/
def Skipped.covers : Skipped → Pattern → Bool
  | .none, _ => false
  | .wildcards, q => q.isWildcard
  | .bare, q => q.isWildcard || q.isStarWildcard

mutual

/-- A pattern; `last` tells that one that always matches may stand here. -/
def checkPattern (p : Placement) (last : Bool) (c : Captures) : Pattern → Except Fault Captures
  | .value r v => do
    if !isComparable v then fail r .patternValue
    checkExpr p v
    return { c with here := r }
  | .singleton r _ => .ok { c with here := r }
  | .star r n => { c with here := r }.store n
  | .capture r none n => do
    if !last then
      fail r (match n with | none => .unreachableWildcard | some n => .unreachableCapture n)
    { c with here := r }.store n
  | .capture r (some q) n => do
    let c ← checkPattern p last { c with here := r } q
    c.store n
  | .sequence r ps => do
    let c := { c with here := r }
    if (ps.filter Pattern.isStar).length > 1 then fail r .patternStars
    if ps.all fun q => q.isWildcard || q.isStarWildcard then return c
    if ps.any Pattern.isStarWildcard then checkPatterns p .bare c ps
    else
      if (ps.findIdx? Pattern.isStar).getD 0 ≥ 256 then fail r .patternStarTooMany
      checkPatterns p .none c ps
  | .mapping r ks ps rest => do
    checkPatternKeys p r [] ks
    let c ← checkPatterns p .none { c with here := r } ps
    c.store rest
  | .classPattern r cls ps names qs => do
    let here ← checkAttributes r (names.zip (qs.map Pattern.loc))
    checkExpr p cls
    let c ← checkPatterns p .wildcards { c with here := here } ps
    checkPatterns p .wildcards c qs
  | .alternatives r ps => do
    let (names, here) ← checkAlternatives p last r none ps
    names.foldlM (fun c n => do
      if c.names.contains n then fail here (.patternNameTwice n)
      return { c with names := c.names ++ [n] }) { c with here := here }

/-- The parts of a pattern, each of which may always match; some kinds are passed over. -/
def checkPatterns (p : Placement) (skip : Skipped) (c : Captures) :
    List Pattern → Except Fault Captures
  | [] => .ok c
  | q :: qs => do
    let c ← if skip.covers q then pure c else checkPattern p true c q
    checkPatterns p skip c qs

/-- Alternatives capture the same names, and only the last may always match. -/
def checkAlternatives (p : Placement) (last : Bool) (here : Region)
    (names : Option (List String)) : List Pattern → Except Fault (List String × Region)
  | [] => .ok (names.getD [], here)
  | q :: qs => do
    let c ← checkPattern p (last && qs.isEmpty) ⟨[], q.loc⟩ q
    match names with
    | none => checkAlternatives p last c.here (some c.names) qs
    | some first =>
      if c.names.length != first.length || !first.all c.names.contains then
        fail c.here .alternativeNames
      checkAlternatives p last c.here (some first) qs

end

/-! ### Statements -/

/-- A whole pattern of a case: it may always match if a guard follows or no case does. -/
def checkCasePattern (p : Placement) (last : Bool) (q : Pattern) : Except Fault Unit := do
  let _ ← checkPattern p last ⟨[], q.loc⟩ q

/-- Annotations of parameters and results, unless they stay unevaluated. -/
def checkAnnotations (p : Placement) (ps : Params Expr) (returns : Option Expr) :
    Except Fault Unit :=
  if p.future.annotations then .ok ()
  else
    ((ps.plain ++ ps.positionalOnly ++ ps.rest.toList ++ ps.keywordOnly
        ++ ps.keywordRest.toList).filterMap (Param.annotation ·) ++ returns.toList).forM fun
      | .starred _ e => checkExpr p e
      | e => checkExpr p e

/-- An annotated target. The annotation of a plain name is evaluated where annotations are kept,
that of any other target there too, after the parts of the target. -/
def checkAnnotated (p : Placement) (place : Region) (target hint : Expr) (hasValue simple : Bool) :
    Except Fault Unit := do
  let evaluated := p.kind.keepsAnnotations && !p.future.annotations
  match target with
  | .name _ n =>
    checkName place n
    if simple && evaluated then checkExpr p hint
  | .member _ v n =>
    checkName place n
    if !hasValue then checkExpr p v
  | .subscript _ v i =>
    if !hasValue then
      checkExpr p v
      checkExpr p i
  | _ => pure ()
  if !simple && evaluated then checkExpr p hint

def checkWithItems (p : Placement) (isAsync : Bool) (r : Region) :
    List WithItem → Except Fault Placement
  | [] => .ok p
  | i :: is => do
    if isAsync && p.kind != .asyncFunction then fail r (.asyncOutside "async with")
    checkExpr p i.context
    let p ← p.enter r .other
    match i.target with
    | none => pure ()
    | some t => checkTarget p t
    checkWithItems p isAsync r is

def checkAliases (r : Region) (ns : List Alias) : Except Fault Unit :=
  ns.forM fun a => checkName r (a.asName.getD a.name)

mutual

def checkStmt (p : Placement) : Stmt → Except Fault Unit
  | .functionDef r isAsync n ps b ds ret => do
    checkParams r ps
    checkAll p ds
    checkDefaults p ps
    checkAnnotations p ps ret
    checkBlock (p.insideFunction isAsync (mentionsOfBlock b)) b
    checkName r n
  | .classDef r n bs ks b ds => do
    checkAll p ds
    checkBlock (p.inside .classBody) b
    checkKeywords r ks
    checkElements p bs
    checkValues p ks
    checkName r n
  | .returnStmt r v => do
    if p.kind != .function && p.kind != .asyncFunction then fail r .returnOutside
    if v.isSome && p.asyncGenerator then fail r .returnInGenerator
    checkOption p v
    let _ ← leave false r p.enclosing
  | .delete _ ts => checkDeletions p ts
  | .assign _ ts v => do
    checkExpr p v
    ts.forM (checkTarget p)
  | .augAssign _ t _ v => do
    match t with
    | .name .. => pure ()
    | t => checkTarget p t
    checkExpr p v
    match t with
    | .name r n => checkName r n
    | _ => pure ()
  | .annAssign r t a v simple => do
    if let some e := v then
      checkExpr p e
      checkTarget p t
    checkAnnotated p r t a v.isSome simple
  | .forLoop r isAsync t s b e => do
    if isAsync then
      if p.kind != .asyncFunction then fail r (.asyncOutside "async for")
      checkExpr p s
      let q ← p.enter r .loop
      checkTarget q t
      checkBlock q b
    else
      let q ← p.enter r .loop
      checkExpr q s
      checkTarget q t
      checkBlock q b
    checkBlock p e
  | .whileLoop r t b e => do
    let q ← p.enter r .loop
    checkExpr q t
    checkBlock q b
    checkBlock p e
  | .ifElse _ t b e => do
    checkExpr p t
    checkBlock p b
    checkBlock p e
  | .withBlock r isAsync is b => do
    let q ← checkWithItems p isAsync r is
    checkBlock q b
  | .matchOn _ s cs => do
    checkExpr p s
    checkCases p cs
  | .raise _ e c => do
    checkOption p e
    checkOption p c
  | .tryBlock r isStar b hs e f => do
    if hs.isEmpty && f.isEmpty then fail r .tryWithoutHandler
    let onExit := faultOf? (checkBlock p f)
    let q ← p.enterIf (!f.isEmpty) r (.final onExit)
    let guarded ← q.enterIf (!hs.isEmpty) r .other
    checkBlock guarded b
    checkIf (!isStar) (checkBlock q e)
    let inHandler ← q.enterIf (!hs.isEmpty) r (if isStar then .groupHandler else .other)
    checkHandlers inHandler hs
    checkIf isStar (checkBlock q e)
    match onExit with
    | some fault => .error fault
    | none => checkBlock { p with enclosing := .other :: p.enclosing } f
  | .assert _ t m => do
    checkExpr p t
    checkOption p m
  | .importModules r ns => ns.forM fun a => checkName r a.boundName
  | .importFrom r m ns _ => do
    if m == some futureModule then fail r .futureLate
    checkAliases r ns
  | .global .. => .ok ()
  | .nonlocal .. => .ok ()
  | .expr _ e => checkExpr p e
  | .pass _ => .ok ()
  | .breakLoop r => do
    let found ← leave true r p.enclosing
    if !found then fail r (.outsideLoop "break")
  | .continueLoop r => do
    let found ← leave true r p.enclosing
    if !found then fail r (.outsideLoop "continue")

def checkBlock (p : Placement) : List Stmt → Except Fault Unit
  | [] => .ok ()
  | s :: ss => do
    checkStmt p s
    checkBlock p ss

def checkHandlers (p : Placement) : List (Handler Stmt) → Except Fault Unit
  | [] => .ok ()
  | ⟨r, t, n, b⟩ :: hs => do
    if t.isNone && !hs.isEmpty then fail r .defaultHandlerLast
    checkOption p t
    n.toList.forM (checkName r)
    let q ← p.enter r .other
    checkBlock q b
    checkHandlers p hs

/-- A last case that is a mere wildcard is not looked at as a pattern. -/
def checkCases (p : Placement) : List (MatchCase Stmt) → Except Fault Unit
  | [] => .ok ()
  | ⟨q, g, b⟩ :: cs => do
    checkCasePattern p (g.isSome || cs.isEmpty) q
    checkOption p g
    checkBlock p b
    checkCases p cs

end

/-- One of the statements that a script starts with: there imports from the future are in place. -/
def checkLeading : Stmt → Except Fault Unit
  | .importFrom r _ ns _ => checkAliases r ns
  | _ => .ok ()

/-- The first thing of a script that stands where it may not. -/
def checkPlacement (future : Future) (script : List Stmt) : Except Fault Unit := do
  (script.takeWhile Future.leads).forM checkLeading
  checkBlock ⟨.module, false, [], future⟩ (script.dropWhile Future.leads)

end RuleBench.Script
