import RuleBench.Script.Mention
import RuleBench.Script.Defect

/-!
# Blocks and the names in them

`Block.ofMentions` collects what each block of a script does with its names, and `Block.resolve`
decides for every name of every block whether it is local to the block, free in a function around
it, or global. Both refuse scripts whose names are at odds with each other.
-/

namespace RuleBench.Script

/-- Everything that one block does with one name. -/
structure Usage where
  parameter : Bool
  assigned : Bool
  used : Bool
  imported : Bool
  annotated : Bool
  global : Bool
  nonlocal : Bool
  iterated : Bool
deriving Repr, BEq, DecidableEq, Inhabited

namespace Usage

def none : Usage := ⟨false, false, false, false, false, false, false, false⟩

def touch (u : Usage) : Touch → Usage
  | .parameter => { u with parameter := true }
  | .assigned => { u with assigned := true }
  | .used => { u with used := true }
  | .imported => { u with imported := true }
  | .annotated => { u with annotated := true, assigned := true }

def declare (u : Usage) : Declaration → Usage
  | .global => { u with global := true }
  | .nonlocal => { u with nonlocal := true }

/-- The block itself gives the name a value. -/
def binds (u : Usage) : Bool := u.parameter || u.assigned || u.imported

end Usage

/-- The names of a block in the order in which they were met first. -/
abbrev NameTable := List (String × Usage)

namespace NameTable

def get (t : NameTable) (n : String) : Usage := (t.lookup n).getD .none

/-- Changes what is known of a name. -/
def alter (n : String) (f : Usage → Usage) : NameTable → NameTable
  | [] => [(n, f .none)]
  | (m, u) :: t => if m == n then (m, f u) :: t else (m, u) :: alter n f t

end NameTable

/-- A block with its names, the places of its declarations, and the blocks inside it. -/
inductive Block where
  | mk (kind : BlockKind) (names : NameTable) (declarations : List (String × Region))
      (inner : List Block)

namespace Block

def kind : Block → BlockKind
  | mk k .. => k

def names : Block → NameTable
  | mk _ ns .. => ns

def inner : Block → List Block
  | mk _ _ _ bs => bs

end Block

/-- The name under which a class keeps a private name: two leading underscores, not two trailing. -/
def privateName (className : Option String) (n : String) : String :=
  match className with
  | none => n
  | some c =>
    let stem := c.toList.dropWhile (· == '_')
    if !n.startsWith "__" || n.endsWith "__" || n.any (· == '.') || stem.isEmpty then n
    else "_" ++ String.ofList stem ++ n

/-- A block that is still being read; `sources` counts the comprehension sources around the place
that is read, `inTarget` tells that it is among the iteration variables. -/
structure OpenBlock where
  kind : BlockKind
  className : Option String
  names : NameTable
  declarations : List (String × Region)
  inner : List Block
  sources : Nat
  inTarget : Bool

namespace OpenBlock

def start (kind : BlockKind) (className : Option String) (sources : Nat) : OpenBlock :=
  ⟨kind, className, [], [], [], sources, false⟩

def close (b : OpenBlock) : Block := .mk b.kind b.names b.declarations b.inner.reverse

def record (b : OpenBlock) (n : String) (loc : Region) : OpenBlock :=
  { b with declarations := b.declarations ++ [(n, loc)] }

end OpenBlock

/-- The block that is read and the ones around it, innermost first. -/
structure OpenBlocks where
  current : OpenBlock
  around : List OpenBlock

/-- A fault at the start of a region; columns of such faults count bytes. -/
def faultAt (r : Region) (d : Defect) : Fault := ⟨d, r.line, r.col + 1⟩

namespace OpenBlocks

def update (f : OpenBlock → OpenBlock) (s : OpenBlocks) : OpenBlocks :=
  { s with current := f s.current }

/-- The block of the whole script takes note of what is declared global anywhere. -/
def noteGlobal (n : String) (s : OpenBlocks) : OpenBlocks :=
  let note (b : OpenBlock) := { b with names := b.names.alter n (·.declare .global) }
  match s.around.reverse with
  | [] => s.update note
  | outermost :: rest => { s with around := (note outermost :: rest).reverse }

/-- Notes a name in one block: a parameter only once, an iteration variable never where a named
expression already sends the name elsewhere. -/
def enterName (b : OpenBlock) (id : String) (change : Usage → Usage) (isParameter : Bool)
    (loc : Region) : Except Fault OpenBlock := do
  let n := privateName b.className id
  let before := b.names.get n
  if isParameter && before.parameter then
    .error (faultAt loc (.duplicateArgument id))
  let after := change before
  if b.inTarget then
    if after.global || after.nonlocal then
      .error (faultAt loc (.innerRebinds id))
    return { b with names := b.names.alter n fun _ => { after with iterated := true } }
  return { b with names := b.names.alter n fun _ => after }

def touch (s : OpenBlocks) (id : String) (t : Touch) (loc : Region) : Except Fault OpenBlocks := do
  let b ← enterName s.current id (·.touch t) (t == .parameter) loc
  return { s with current := b }

def declare (s : OpenBlocks) (d : Declaration) (id : String) (loc : Region) :
    Except Fault OpenBlocks := do
  let b ← enterName s.current id (·.declare d) false loc
  let n := privateName s.current.className id
  let s := { s with current := b }
  return if d == .global then s.noteGlobal n else s

/-- A `global` or `nonlocal` statement must come before every other mention of the name. -/
def checkDeclaration (s : OpenBlocks) (d : Declaration) (id : String) (loc : Region) :
    Except Fault Unit :=
  let u := s.current.names.get (privateName s.current.className id)
  let fail (x : Defect) : Except Fault Unit := .error (faultAt loc x)
  if u.parameter then
    fail (match d with | .global => .parameterAndGlobal id | .nonlocal => .parameterAndNonlocal id)
  else if u.used then fail (.usedBefore id d.word)
  else if u.annotated then
    fail (match d with | .global => .annotatedGlobal id | .nonlocal => .annotatedNonlocal id)
  else if u.assigned then fail (.assignedBefore id d.word)
  else .ok ()

/-- How many blocks out from the innermost one a named expression inside comprehensions binds: in
the nearest block that is no comprehension, unless one on the way iterates over the name. -/
def rebindDepth (id : String) (loc : Region) : List OpenBlock → Except Fault Nat
  | [] => .ok 0
  | b :: rest => do
    match b.kind with
    | .comprehension _ =>
      let u := b.names.get id
      if u.iterated && u.assigned then .error (faultAt loc (.rebindsIteration id))
      return (← rebindDepth id loc rest) + 1
    | .hint => return (← rebindDepth id loc rest) + 1
    | .classBody _ => .error (faultAt loc .namedInClass)
    | .function | .module => return 0

/-- How a comprehension declares a name that is bound in a block around it. -/
def rebindDeclaration (target : OpenBlock) (id : String) : Declaration :=
  if target.kind == .module || (target.names.get id).global then .global else .nonlocal

/-- The block whose name is bound by a named expression further in. -/
def reboundBlock (n : String) (b : OpenBlock) : OpenBlock :=
  if b.kind == .module then b else { b with names := b.names.alter n (·.touch .assigned) }

/-- A named expression in a comprehension: the name is declared to belong further out. -/
def rebindOutside (s : OpenBlocks) (id : String) (loc : Region) : Except Fault OpenBlocks := do
  let depth ← rebindDepth id loc (s.current :: s.around)
  match s.around[depth - 1]? with
  | none => return s
  | some target =>
    let n := privateName s.current.className id
    let s := (← s.declare (rebindDeclaration target id) id loc).update (·.record n loc)
    return { s with around := s.around.modify (depth - 1) (reboundBlock n) }

/-- A named expression: refused in what a comprehension runs over. -/
def rebind (s : OpenBlocks) (id : String) (loc whole : Region) : Except Fault OpenBlocks :=
  if s.current.sources > 0 then .error (faultAt whole .namedInIterable)
  else match s.current.kind with
    | .comprehension _ => s.rebindOutside id loc
    | _ => .ok s

/-- One mention; `later` tells that annotations are not evaluated and have blocks of their own. -/
def step (later : Bool) (s : OpenBlocks) : Mention → Except Fault OpenBlocks
  | .enter kind =>
    if kind == .hint && !later then .ok s
    else
      let className := match kind with
        | .classBody c => some c
        | _ => s.current.className
      .ok ⟨.start kind className s.current.sources, s.current :: s.around⟩
  | .leave kind =>
    if kind == .hint && !later then .ok s
    else match s.around with
      | [] => .ok s
      | outer :: rest =>
        let inner := if kind == .hint then outer.inner else s.current.close :: outer.inner
        .ok ⟨{ outer with inner := inner }, rest⟩
  | .name id t loc => do
    let s ← s.touch id t loc
    if id == "super" && t == .used then
      match s.current.kind with
      | .function | .comprehension _ => s.touch "__class__" .used loc
      | _ => return s
    else return s
  | .declare d id loc => do
    s.checkDeclaration d id loc
    let s ← s.declare d id loc
    return s.update (·.record (privateName s.current.className id) loc)
  | .annotate id simple hasValue loc statement => do
    let u := s.current.names.get (privateName s.current.className id)
    if (u.global || u.nonlocal) && s.current.kind != .module && simple then
      .error (faultAt statement (if u.global then .annotatedGlobal id else .annotatedNonlocal id))
    if simple then s.touch id .annotated loc
    else if hasValue then s.touch id .assigned loc
    else return s
  | .importAll loc =>
    if s.current.kind == .module then .ok s else .error (faultAt loc .starImport)
  | .enterSource => .ok (s.update fun b => { b with sources := b.sources + 1 })
  | .leaveSource => .ok (s.update fun b => { b with sources := b.sources - 1 })
  | .enterTarget => .ok (s.update fun b => { b with inTarget := true })
  | .leaveTarget => .ok (s.update fun b => { b with inTarget := false })
  | .rebind id loc whole => s.rebind id loc whole
  | .bareOnly what loc =>
    if s.current.kind == .hint then .error (faultAt loc (.inHint what)) else .ok s
  | .yields loc =>
    match s.current.kind with
    | .comprehension form => .error (faultAt loc (.yieldInside form))
    | _ => .ok s
  | .suspends => .ok s

end OpenBlocks

/-- The blocks of a script with these mentions. -/
def Block.ofMentions (later : Bool) (ms : List Mention) : Except Fault Block := do
  let s ← ms.foldlM (OpenBlocks.step later) ⟨.start .module none 0, []⟩
  return s.current.close

/-- Where a name of a block has its value. -/
inductive Resolution where
  | onlyHere
  | free
  | globalDeclared
  | global
deriving Repr, BEq, DecidableEq, ReflBEq, LawfulBEq

/-- A block with the resolution of each of its names. -/
inductive Scope where
  | mk (kind : BlockKind) (names : List (String × Resolution)) (inner : List Scope)

namespace Block

/-- The resolution of one name; `bound` holds the names that functions around the block give values,
nothing for the block of the whole script. -/
def resolveName (bound : Option (List String)) (declarations : List (String × Region))
    (n : String) (u : Usage) : Except Fault Resolution :=
  let fail (d : Defect) : Except Fault Resolution :=
    .error (faultAt ((declarations.lookup n).getD default) d)
  if u.global then
    if u.nonlocal then fail (.nonlocalAndGlobal n) else .ok .globalDeclared
  else if u.nonlocal then
    match bound with
    | none => fail .nonlocalAtModule
    | some names => if names.contains n then .ok .free else fail (.noBinding n)
  else if u.binds then .ok .onlyHere
  else if (bound.getD []).contains n then .ok .free
  else .ok .global

/-- The names that blocks inside this one find bound around them. A class offers only its own
`__class__`, the block of the whole script nothing. -/
def boundInside (kind : BlockKind) (bound : Option (List String))
    (names : List (String × Resolution)) : List String :=
  let outer := bound.getD []
  match kind with
  | .classBody _ => "__class__" :: outer
  | .module => []
  | _ =>
    let kept := outer.filter fun n => names.lookup n != some .globalDeclared
    (names.filter (·.2 == .onlyHere)).map (·.1) ++ kept

mutual

def resolve (bound : Option (List String)) : Block → Except Fault Scope
  | .mk kind names declarations inner => do
    let resolved ← names.mapM fun (n, u) =>
      return (n, ← resolveName bound declarations n u)
    let inner ← resolveAll (boundInside kind bound resolved) inner
    return .mk kind resolved inner

def resolveAll (bound : List String) : List Block → Except Fault (List Scope)
  | [] => .ok []
  | b :: bs => do
    let s ← resolve (some bound) b
    return s :: (← resolveAll bound bs)

end

end Block

/-- The scopes of a script, or the first fault of its names. -/
def Scope.ofScript (later : Bool) (script : List Stmt) : Except Fault Scope := do
  let block ← Block.ofMentions later (mentionsOfBlock script)
  block.resolve none

end RuleBench.Script
