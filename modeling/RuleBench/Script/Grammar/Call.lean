import RuleBench.Script.Grammar.Display

/-!
# Calls, subscripts and members

What may follow an atom: arguments in parentheses, an index in brackets, a member after a dot.
-/

namespace RuleBench.Script.Grammar

open Reader

variable (g : Rules)

/-- A call whose function is still to be filled in. -/
def argumentList (args : List Expr) (keywords : List (Keyword Expr)) (r : Region) : Expr :=
  .call r (.name r "") args keywords

/-- The arguments held by such a call. -/
def argumentsOf : Expr → List Expr × List (Keyword Expr)
  | .call _ _ args keywords => (args, keywords)
  | _ => ([], [])

/-- An argument after the plain ones. -/
inductive LateArgument where
  | keyword (k : Keyword Expr)
  | starred (e : Expr)

def lateKeywords (as : List LateArgument) : List (Keyword Expr) :=
  as.filterMap fun
    | .keyword k => some k
    | .starred _ => none

def lateStarred (as : List LateArgument) : List Expr :=
  as.filterMap fun
    | .keyword _ => none
    | .starred e => some e

/-- An assignment to something that is no parameter name. -/
def misbuiltKeyword {α : Type} : Reader α :=
  (do
    let t ← anyOf ["True", "False", "None"]
    let _ ← symbol "="
    failAt t.loc (.cannotAssign t.text))
  <|> (do
    let a ← nameRule
    let _ ← symbol "="
    let _ ← g.expression
    let _ ← forIfClauses g
    failAt a.loc .assignmentForComparison)
  <|> (do
    notFollowedBy (do let _ ← nameToken; symbol "=")
    let a ← g.expression
    let _ ← symbol "="
    failAt a.loc .keywordExpression)

def keywordArgument : Reader LateArgument :=
  withRegion do
    let name ← identifier
    let _ ← symbol "="
    let e ← g.expression
    return fun r => .keyword ⟨r, some name, e⟩

def keywordOrStarred : Reader LateArgument :=
  mistake (misbuiltKeyword g) <|> keywordArgument g
  <|> (return .starred (← starredExpression g))

def keywordOrDoubleStarred : Reader LateArgument :=
  mistake (misbuiltKeyword g) <|> keywordArgument g
  <|> withRegion (do
    let _ ← symbol "**"
    let e ← g.expression
    return fun r => .keyword ⟨r, none, e⟩)

def lateArguments : Reader (List LateArgument) :=
  (do
    let a ← sepBy1 (keywordOrStarred g) (symbol ",")
    let _ ← symbol ","
    let b ← sepBy1 (keywordOrDoubleStarred g) (symbol ",")
    return a ++ b)
  <|> sepBy1 (keywordOrStarred g) (symbol ",")
  <|> sepBy1 (keywordOrDoubleStarred g) (symbol ",")

/-- Arguments as a call without a function. -/
def argsRule : Reader Expr :=
  withRegion (do
    let plain ← sepBy1
      (starredExpression g <|> (do
        let e ← plainOrAssignment g
        notFollowedBy (symbol "=")
        return e))
      (symbol ",")
    let late ← optional (do let _ ← symbol ","; lateArguments g)
    let late := late.getD []
    return argumentList (plain ++ lateStarred late) (lateKeywords late))
  <|> withRegion (do
    let late ← lateArguments g
    return argumentList (lateStarred late) (lateKeywords late))

/-- Arguments in a wrong order, and generators without parentheses. -/
def misbuiltArguments {α : Type} : Reader α :=
  (do
    let a ← argsRule g
    let _ ← symbol ","
    let _ ← symbol "*"
    failAt a.loc .unpackingAfterUnpacking)
  <|> (do
    let a ← g.expression
    let _ ← forIfClauses g
    let _ ← symbol ","
    let _ ← optional (
      (do let _ ← argsRule g; pure ())
      <|> (do let _ ← g.expression; let _ ← forIfClauses g; pure ()))
    failAt a.loc .bareGenerator)
  <|> (do
    let a ← nameRule
    let _ ← symbol "="
    let _ ← g.expression
    let _ ← forIfClauses g
    failAt a.loc .assignmentForComparison)
  <|> (do
    let a ← argsRule g
    let _ ← forIfClauses g
    match argumentsOf a with
    | (args, _) =>
      if args.length ≤ 1 then mismatch
      else failAt (args.getLastD a).loc .bareGenerator)
  <|> (do
    let _ ← argsRule g
    let _ ← symbol ","
    let a ← g.expression
    let _ ← forIfClauses g
    failAt a.loc .bareGenerator)
  <|> (do
    let a ← argsRule g
    let _ ← symbol ","
    let _ ← argsRule g
    if (argumentsOf a).2.any (·.name.isNone) then failHere .positionalAfterUnpacking
    else failHere .positionalAfterKeyword)

def argumentsRule : Reader Expr :=
  remembering .arguments <|
    (do
      let a ← argsRule g
      let _ ← optional (symbol ",")
      followedBy (symbol ")")
      return a)
    <|> mistake (misbuiltArguments g)

/-- One index, or a stretch with colons. -/
def sliceRule : Reader Expr :=
  withRegion (do
    let lower ← optional g.expression
    let _ ← symbol ":"
    let upper ← optional g.expression
    let step ← optional (do let _ ← symbol ":"; optional g.expression)
    return fun r => .slice r lower upper step.join)
  <|> namedExpression g

def slicesRule : Reader Expr :=
  (do
    let e ← sliceRule g
    notFollowedBy (symbol ",")
    return e)
  <|> withRegion (do
    let es ← sepBy1 (sliceRule g <|> starredExpression g) (symbol ",")
    let _ ← optional (symbol ",")
    return fun r => .tuple r es)

/-- What may follow an expression `e` that starts at `start`; `check` looks at what comes next. -/
def trailer (start : Token) (check : Reader Unit) (e : Expr) : Reader Expr := do
  let finish (build : Region → Expr) : Reader Expr := do
    let stop := textBefore (← read).tokens.tokens (← get).pos
    let r := start.loc.upTo stop.loc
    check
    return build r
  (do
    let _ ← symbol "."
    let name ← identifier
    finish fun r => .member r e name)
  <|> (do
    let a ← generatorRule g
    finish fun r => .call r e [a] [])
  <|> (do
    let _ ← symbol "("
    let a ← optional (argumentsRule g)
    let _ ← symbol ")"
    let (args, keywords) := (a.map argumentsOf).getD ([], [])
    finish fun r => .call r e args keywords)
  <|> (do
    let _ ← symbol "["
    let i ← slicesRule g
    let _ ← symbol "]"
    finish fun r => .subscript r e i)

/-- Applies a reading to what was read before, as often as it goes. -/
@[specialize] def growing (p : Expr → Reader Expr) : Nat → Expr → Reader Expr
  | 0, e => pure e
  | n + 1, e => do
    match ← optional (p e) with
    | none => pure e
    | some e' => growing p n e'

/-- An atom with everything that follows it. -/
def primaryRule : Reader Expr :=
  remembering .primary do
    let start ← token
    let e ← atomRule g
    growing (trailer g start (pure ())) (← bound) e

/-- Signs that go on with an expression. -/
def opensTrailer : Reader Token := anyOf ["(", "[", "."]

/-- As much of a primary as leaves something that follows it. -/
def primaryTarget : Reader Expr :=
  remembering .primaryTarget do
    let start ← token
    let e ← atomRule g
    followedBy opensTrailer
    growing (trailer g start (followedBy opensTrailer)) (← bound) e

/-- The last step of a target: a member or an index with nothing after it. -/
def lastStep : Reader Expr :=
  withRegion (do
    let e ← primaryTarget g
    let _ ← symbol "."
    let name ← identifier
    notFollowedBy opensTrailer
    return fun r => .member r e name)
  <|> withRegion (do
    let e ← primaryTarget g
    let _ ← symbol "["
    let i ← slicesRule g
    let _ ← symbol "]"
    notFollowedBy opensTrailer
    return fun r => .subscript r e i)

end RuleBench.Script.Grammar
