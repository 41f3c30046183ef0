import RuleBench.Script.Grammar.Display

/-!
# Parameters

Functions and lambdas declare parameters in the same way, but for annotations and for the sign that
ends the list: a closing parenthesis or a colon. `Style` says which it is.
-/

namespace RuleBench.Script.Grammar

open Reader

variable (g : Rules)

inductive Style where
  | function
  | lambda
deriving DecidableEq, BEq

namespace Style

def closing : Style → String
  | function => ")"
  | lambda => ":"

variable (s : Style)

/-- A parameter with its annotation, where the style has annotations. -/
def param : Reader (Param Expr) :=
  withRegion do
    let name ← identifier
    let annotation ← match s with
      | .lambda => pure none
      | .function => optional (do let _ ← symbol ":"; g.expression)
    return fun r => ⟨r, name, annotation, none⟩

/-- What follows a parameter: a comma, or the end of the list. -/
def ending : Reader Unit :=
  (do let _ ← symbol ","; pure ()) <|> followedBy (symbol s.closing)

def paramNoDefault : Reader (Param Expr) := do
  let p ← s.param g
  s.ending
  return p

/-- A starred parameter whose annotation may be starred too. -/
def paramStarAnnotation : Reader (Param Expr) := do
  match s with
  | .lambda => mismatch
  | .function =>
    let p ← withRegion do
      let name ← identifier
      let _ ← symbol ":"
      let e ← withRegion (do
          let _ ← symbol "*"
          let e ← g.bitOr
          return fun r => .starred r e)
        <|> g.expression
      return fun r => (⟨r, name, some e, none⟩ : Param Expr)
    s.ending
    return p

def default : Reader Expr :=
  (do
    let _ ← symbol "="
    g.expression)
  <|> mistake (do
    let t ← symbol "="
    followedBy (anyOf [s.closing, ","])
    failAt t.loc .missingDefault)

def paramWithDefault : Reader (Param Expr) := do
  let p ← s.param g
  let d ← s.default g
  s.ending
  return { p with default := some d }

def paramMaybeDefault : Reader (Param Expr) := do
  let p ← s.param g
  let d ← optional (s.default g)
  s.ending
  return { p with default := d }

/-- Parameters without defaults that a slash closes. -/
def slashNoDefault : Reader (List (Param Expr)) := do
  let ps ← many1 (s.paramNoDefault g)
  let _ ← symbol "/"
  s.ending
  return ps

/-- Parameters, the last of them with defaults, that a slash closes. -/
def slashWithDefault : Reader (List (Param Expr)) := do
  let ps ← many (s.paramNoDefault g)
  let qs ← many1 (s.paramWithDefault g)
  let _ ← symbol "/"
  s.ending
  return ps ++ qs

/-- Mistakes after a double star. -/
def misbuiltKeywordRest {α : Type} : Reader α :=
  (do
    let _ ← symbol "**"
    let _ ← s.param g
    let t ← symbol "="
    failAt t.loc .starStarDefault)
  <|> (do
    let _ ← symbol "**"
    let _ ← s.param g
    let _ ← symbol ","
    let p ← s.param g
    failAt p.loc .afterStarStar)
  <|> (do
    let _ ← symbol "**"
    let _ ← s.param g
    let _ ← symbol ","
    let t ← anyOf ["*", "**", "/"]
    failAt t.loc .afterStarStar)

def keywordRest : Reader (Param Expr) :=
  mistake (s.misbuiltKeywordRest g)
  <|> (do
    let _ ← symbol "**"
    s.paramNoDefault g)

/-- Mistakes after a star. -/
def misbuiltStar {α : Type} : Reader α :=
  (do
    let t ← symbol "*"
    (do let _ ← symbol s.closing; pure ())
      <|> (do
        let _ ← symbol ","
        let _ ← anyOf [s.closing, "**"]
        pure ())
    match s with
    | .function => failAt t.loc .bareStar
    | .lambda => failHere .bareStar)
  <|> (do
    let _ ← symbol "*"
    let _ ← s.param g
    let t ← symbol "="
    failAt t.loc .starDefault)
  <|> (do
    let _ ← symbol "*"
    let _ ← (do let _ ← s.paramNoDefault g; pure ()) <|> (do let _ ← symbol ","; pure ())
    let _ ← many (s.paramMaybeDefault g)
    let t ← symbol "*"
    let _ ← (do let _ ← s.paramNoDefault g; pure ()) <|> (do let _ ← symbol ","; pure ())
    failAt t.loc .starTwice)

/-- A parameter list of its starred parts only. -/
def starParts (rest : Option (Param Expr)) (keywordOnly : List (Param Expr))
    (keywordRest : Option (Param Expr)) : Params Expr :=
  ⟨[], [], rest, keywordOnly, keywordRest⟩

/-- The part of a parameter list from its first star on. -/
def starTail : Reader (Params Expr) :=
  mistake (s.misbuiltStar g)
  <|> (do
    let _ ← symbol "*"
    let p ← s.paramNoDefault g
    let ps ← many (s.paramMaybeDefault g)
    let k ← optional (s.keywordRest g)
    return starParts (some p) ps k)
  <|> (do
    let _ ← symbol "*"
    let p ← s.paramStarAnnotation g
    let ps ← many (s.paramMaybeDefault g)
    let k ← optional (s.keywordRest g)
    return starParts (some p) ps k)
  <|> (do
    let _ ← symbol "*"
    let _ ← symbol ","
    let ps ← many1 (s.paramMaybeDefault g)
    let k ← optional (s.keywordRest g)
    return starParts none ps k)
  <|> (do
    let k ← s.keywordRest g
    return starParts none [] (some k))

/-- Mistakes in the order of parameters. -/
def misbuiltParameters {α : Type} : Reader α :=
  (do
    let _ ← many (s.paramNoDefault g)
    let _ ← (s.slashWithDefault g) <|> many1 (s.paramWithDefault g)
    let p ← s.paramNoDefault g
    failAt p.loc .defaultBeforePlain)
  <|> (do
    let _ ← many (s.paramNoDefault g)
    let t ← symbol "("
    let _ ← match s with
      | .function => do let _ ← many1 (s.paramNoDefault g); pure ()
      | .lambda => do let _ ← sepBy1 (s.param g) (symbol ","); pure ()
    let _ ← optional (symbol ",")
    let _ ← symbol ")"
    failAt t.loc (.parenthesizedParameters (s == .lambda)))
  <|> (do
    let t ← symbol "/"
    let _ ← symbol ","
    failAt t.loc .slashFirst)
  <|> (do
    let _ ← s.slashNoDefault g <|> s.slashWithDefault g
    let _ ← many (s.paramMaybeDefault g)
    let t ← symbol "/"
    failAt t.loc .slashTwice)
  <|> (do
    let _ ← optional (s.slashNoDefault g <|> s.slashWithDefault g)
    let _ ← many (s.paramMaybeDefault g)
    let _ ← symbol "*"
    let _ ← (do let _ ← symbol ","; pure ()) <|> (do let _ ← s.paramNoDefault g; pure ())
    let _ ← many (s.paramMaybeDefault g)
    let t ← symbol "/"
    failAt t.loc .slashAfterStar)
  <|> (do
    let _ ← many1 (s.paramMaybeDefault g)
    let _ ← symbol "/"
    let t ← symbol "*"
    failAt t.loc .slashStarComma)

def join (positionalOnly plain : List (Param Expr)) (tail : Option (Params Expr)) :
    Params Expr :=
  match tail with
  | none => ⟨positionalOnly, plain, none, [], none⟩
  | some t => ⟨positionalOnly, plain, t.rest, t.keywordOnly, t.keywordRest⟩

/-- A parameter list with at least one parameter. -/
def params : Reader (Params Expr) :=
  mistake (s.misbuiltParameters g)
  <|> (do
    let a ← s.slashNoDefault g
    let b ← many (s.paramNoDefault g)
    let c ← many (s.paramWithDefault g)
    let d ← optional (s.starTail g)
    return join a (b ++ c) d)
  <|> (do
    let a ← s.slashWithDefault g
    let b ← many (s.paramWithDefault g)
    let d ← optional (s.starTail g)
    return join a b d)
  <|> (do
    let a ← many1 (s.paramNoDefault g)
    let b ← many (s.paramWithDefault g)
    let d ← optional (s.starTail g)
    return join [] (a ++ b) d)
  <|> (do
    let a ← many1 (s.paramWithDefault g)
    let d ← optional (s.starTail g)
    return join [] a d)
  <|> (do
    let d ← s.starTail g
    return join [] [] (some d))

end Style

/-- The parameter list of something that takes none. -/
def noParams : Params Expr := ⟨[], [], none, [], none⟩

end RuleBench.Script.Grammar
