import RuleBench.Script.Source
import RuleBench.Script.Token
import Std.Data.TreeMap

/-!
# Reading by rules

A `Reader` tries to read something at the current token. It reads it, finds a mismatch, or rejects
the script. After a mismatch the next alternative starts again at the same token; a rejection is
final. Two facts about a failed reading matter to diagnostics and are kept through backtracking: how
many tokens have been looked at, and what the remembering rules found where.

A script is read twice if need be: the second time `diagnosing` is on, and rules that only exist to
recognise typical mistakes take part.
-/

namespace RuleBench.Script.Grammar

/-- What a reader may look at. -/
structure Context where
  source : Source
  tokens : Tokens
  diagnosing : Bool
  /-- For the expression part of a format string, the byte column of its opening bracket. -/
  inset : Option Nat

/-- The column that is reported for a number of bytes of a line: characters in a script, and bytes
from the opening bracket in a format string. -/
def Context.report (ctx : Context) (line bytes : Nat) : Nat :=
  match ctx.inset with
  | none => charactersIn (ctx.source.lineFrom (ctx.source.lineStart line)) bytes
  | some inset => bytes - inset

inductive Halt where
  | mismatch
  /-- A mismatch that also rules out the alternatives after it. -/
  | cut
  | rejected (why : Rejection)

/-- Rules that remember which expression they read at a token. -/
inductive ExprRule where
  | expression
  | starExpression
  | misnamed
  | disjunction
  | conjunction
  | inversion
  | bitOr
  | bitXor
  | bitAnd
  | shift
  | sum
  | term
  | factor
  | awaitPrimary
  | primary
  | strings
  | arguments
  | starTarget
  | starAtomTarget
  | primaryTarget
  | delTarget
deriving DecidableEq, BEq

structure State where
  pos : Nat
  /-- Tokens looked at so far. -/
  seen : Nat
  exprs : Std.TreeMap Nat (Option (Expr × Nat))
  blocks : Std.TreeMap Nat (Option (List Stmt × Nat))
  patterns : Std.TreeMap Nat (Option (Pattern × Nat))

/-- The state before the first token. -/
def State.start : State := ⟨0, 0, {}, {}, {}⟩

/-- Back to the first token, with nothing kept but how far the reading got. -/
def State.restart (st : State) : State := { State.start with seen := st.seen }

abbrev Reader (α : Type) := ReaderT Context (EStateM Halt State) α

namespace Reader

variable {α β : Type}

@[inline] def mismatch : Reader α := throw .mismatch

/-- The first reading that does not mismatch. -/
@[inline] def orElse (p : Reader α) (q : Unit → Reader α) : Reader α := fun ctx st =>
  let pos := st.pos
  match p ctx st with
  | .error .mismatch st' => q () ctx { st' with pos := pos }
  | r => r

instance : OrElse (Reader α) := ⟨orElse⟩

/-- Once this point is reached, a mismatch of the rest rules out the other alternatives. -/
@[inline] def committed (p : Reader α) : Reader α := fun ctx st =>
  match p ctx st with
  | .error .mismatch st' => .error .cut st'
  | r => r

/-- The border of a rule: what is ruled out inside is a mismatch outside. -/
@[inline] def bordered (p : Reader α) : Reader α := fun ctx st =>
  match p ctx st with
  | .error .cut st' => .error .mismatch st'
  | r => r

@[inline] def optional (p : Reader α) : Reader (Option α) := fun ctx st =>
  let pos := st.pos
  match p ctx st with
  | .ok a st' => .ok (some a) st'
  | .error .mismatch st' => .ok none { st' with pos := pos }
  | .error h st' => .error h st'

/-- Whether something can be read here, without reading it. -/
@[inline] def ahead (p : Reader α) : Reader Bool := fun ctx st =>
  let pos := st.pos
  match p ctx st with
  | .ok _ st' => .ok true { st' with pos := pos }
  | .error .mismatch st' => .ok false { st' with pos := pos }
  | .error h st' => .error h st'

@[inline] def require (b : Bool) : Reader Unit := if b then pure () else mismatch

@[inline] def followedBy (p : Reader α) : Reader Unit := do require (← ahead p)

@[inline] def notFollowedBy (p : Reader α) : Reader Unit := do require (!(← ahead p))

/-- Repeats a reading until it mismatches or reads nothing. -/
@[specialize] def repeatInto (p : Reader α) : Nat → Array α → Reader (Array α)
  | 0, acc => pure acc
  | n + 1, acc => do
    let before := (← get).pos
    match ← optional p with
    | none => pure acc
    | some a => if (← get).pos == before then pure acc else repeatInto p n (acc.push a)

/-- No repetition is longer than the script. -/
@[inline] def bound : Reader Nat := return (← read).tokens.tokens.size + 1

@[inline] def many (p : Reader α) : Reader (List α) := do
  return (← repeatInto p (← bound) #[]).toList

@[inline] def many1 (p : Reader α) : Reader (List α) := do
  let a ← p
  return (← repeatInto p (← bound) #[a]).toList

/-- One or more, with separators between them. -/
@[inline] def sepBy1 (p : Reader α) (sep : Reader β) : Reader (List α) := do
  let a ← p
  return (← repeatInto (do let _ ← sep; p) (← bound) #[a]).toList

/-- A rule that only exists to recognise a mistake. -/
@[inline] def mistake (p : Reader α) : Reader α := do
  if (← read).diagnosing then p else mismatch

/-- Reads without looking for mistakes. -/
@[inline] def trusting (p : Reader α) : Reader α := fun ctx st =>
  p { ctx with diagnosing := false } st

/-! ### Rejections -/

def reject (why : Rejection) : Reader α := throw (.rejected why)

/-- A defect at a reported place. -/
def rejectAt (line column : Nat) (d : Defect) : Reader α := do
  let d := if (← read).inset.isSome then Defect.inFormat d else d
  reject (.fault ⟨d, line, column⟩)

/-- A defect at the start of a region. -/
def failAt (r : Region) (d : Defect) : Reader α := do
  rejectAt r.line ((← read).report r.line (r.col + 1)) d

/-- A defect at the start of a token; tokens without text have no column. -/
def failAtToken (t : Token) (d : Defect) : Reader α := do
  if t.located then failAt t.loc d
  else rejectAt t.loc.line ((← read).report t.loc.line 0) d

/-- A defect at the last token that has been looked at. -/
def failHere (d : Defect) : Reader α := do
  let ctx ← read
  match ctx.tokens.tokens[(← get).seen - 1]? with
  | none => rejectAt 0 0 d
  | some t =>
    if t.located then failAt t.loc d
    else rejectAt t.loc.line (ctx.report t.loc.line t.cursor) d

/-! ### Tokens -/

/-- The current token. Where no token can be read, that is reported. -/
def token : Reader Token := fun ctx st =>
  match ctx.tokens.tokens[st.pos]? with
  | some t => .ok t { st with seen := max st.seen (st.pos + 1) }
  | none => match ctx.tokens.stop with
    | some stop =>
      let d := if ctx.inset.isSome && !stop.immediate then .inFormat stop.defect else stop.defect
      .error (.rejected (.fault ⟨d, stop.line, stop.column⟩))
        { st with seen := max st.seen (st.pos + 1) }
    | none => .error .mismatch st

@[inline] def advance : Reader Unit := modify fun st => { st with pos := st.pos + 1 }

/-- The current token if it passes a test. -/
def tokenIf (p : Token → Bool) : Reader Token := do
  let t ← token
  if p t then advance; pure t else mismatch

/-- The keyword or sign `s`. -/
def symbol (s : String) : Reader Token := tokenIf (·.isSymbol s)

/-- One of several keywords or signs. -/
def anyOf (ss : List String) : Reader Token :=
  tokenIf fun t => t.kind == .symbol && ss.contains t.text

def kind (k : TokenKind) : Reader Token := tokenIf (·.kind == k)

def nameToken : Reader Token := kind .name

/-- A name that acts as a keyword here. -/
def softKeyword (s : String) : Reader Token := tokenIf fun t => t.kind == .name && t.text == s

def newline : Reader Token := kind .newline

/-- The sign `s`, without which the script is rejected. -/
def demand (s : String) : Reader Token := do
  let t ← token
  if t.isSymbol s then advance; pure t
  else failAtToken t (.expected s!"'{s}'")

/-- The token read last. -/
def lastRead : Reader Token := do
  return (← read).tokens.tokens.getD ((← get).pos - 1) default

/-- The last token before an index that has text. -/
def textBefore (tokens : Array Token) : Nat → Token
  | 0 => default
  | n + 1 =>
    let t := tokens.getD n default
    match t.kind with
    | .newline | .indent | .dedent | .endMark => textBefore tokens n
    | _ => t

/-- Reads something together with the region it takes. -/
@[inline] def located (p : Reader α) : Reader (α × Region) := do
  let start ← token
  let a ← p
  let stop := textBefore (← read).tokens.tokens (← get).pos
  return (a, start.loc.upTo stop.loc)

/-- Reads something that is told the region it takes. -/
@[inline] def withRegion (p : Reader (Region → α)) : Reader α := do
  let (f, r) ← located p
  return f r

/-! ### Remembering -/

/-- Reads by a rule at most once at each token. -/
@[inline] def remembering (rule : ExprRule) (p : Reader Expr) : Reader Expr := fun ctx st =>
  let key := st.pos * 32 + rule.ctorIdx
  match st.exprs[key]? with
  | some (some (e, stop)) => .ok e { st with pos := stop }
  | some none => .error .mismatch st
  | none => match p ctx st with
    | .ok e st' =>
      let stop := st'.pos
      .ok e { st' with exprs := st'.exprs.insert key (some (e, stop)) }
    | .error (.rejected why) st' => .error (.rejected why) st'
    | .error _ st' => .error .mismatch { st' with exprs := st'.exprs.insert key none }

/-- Reads a block at most once at each token. -/
@[inline] def rememberingBlock (p : Reader (List Stmt)) : Reader (List Stmt) := fun ctx st =>
  let key := st.pos
  match st.blocks[key]? with
  | some (some (b, stop)) => .ok b { st with pos := stop }
  | some none => .error .mismatch st
  | none => match p ctx st with
    | .ok b st' =>
      let stop := st'.pos
      .ok b { st' with blocks := st'.blocks.insert key (some (b, stop)) }
    | .error (.rejected why) st' => .error (.rejected why) st'
    | .error _ st' => .error .mismatch { st' with blocks := st'.blocks.insert key none }

/-- Reads a pattern at most once at each token. -/
@[inline] def rememberingPattern (p : Reader Pattern) : Reader Pattern := fun ctx st =>
  let key := st.pos
  match st.patterns[key]? with
  | some (some (b, stop)) => .ok b { st with pos := stop }
  | some none => .error .mismatch st
  | none => match p ctx st with
    | .ok b st' =>
      let stop := st'.pos
      .ok b { st' with patterns := st'.patterns.insert key (some (b, stop)) }
    | .error (.rejected why) st' => .error (.rejected why) st'
    | .error _ st' => .error .mismatch { st' with patterns := st'.patterns.insert key none }

/-! ### Running -/

/-- What is reported instead of a defect found by the rules: a defect of the tokens further on, or
a bracket left open on an earlier line than the one the reading got to. -/
def overruled (tokens : Tokens) (st : State) (f : Fault) : Rejection :=
  match tokens.stop with
  | none => .fault f
  | some stop =>
    if stop.immediate then .fault ⟨stop.defect, stop.line, stop.column⟩
    else match stop.bracket with
      | none => .fault f
      | some b =>
        let here := (tokens.tokens.getD (st.seen - 1) default).loc.line
        if b.line < here then .fault ⟨.neverClosed b.char, b.line, b.col + 1⟩ else .fault f

/-- What is wrong with a script that matches no rule. -/
def unexplained (ctx : Context) (last : Token) : Reader α :=
  match last.kind with
  | .indent => failHere .unexpectedIndent
  | .dedent => failHere .unexpectedUnindent
  | _ => fun _ st =>
    match failAtToken (α := Unit) last .invalidSyntax ctx st with
    | .error (.rejected (.fault f)) st' => .error (.rejected (overruled ctx.tokens st' f)) st'
    | .error h st' => .error h st'
    | .ok _ st' => .error .mismatch st'

/-- Reads all there is, a second time with an eye on mistakes if the first time fails. -/
def run (p : Reader α) (ctx : Context) : Except Rejection α :=
  let explain (why : Rejection) (st : State) : Except Rejection α :=
    match why with
    | .fault f => .error (overruled ctx.tokens st f)
    | _ => .error why
  match p { ctx with diagnosing := false } .start with
  | .ok a _ => .ok a
  | .error (.rejected why) st => explain why st
  | .error _ st =>
    let last := ctx.tokens.tokens.getD (st.seen - 1) default
    match p { ctx with diagnosing := true } st.restart with
    | .ok a _ => .ok a
    | .error (.rejected why) st' => explain why st'
    | .error _ st' =>
      match unexplained (α := α) ctx last ctx st' with
      | .error (.rejected why) _ => .error why
      | _ => .error (.fault ⟨.invalidSyntax, last.loc.line, 0⟩)

end Reader

end RuleBench.Script.Grammar
