import RuleBench.Execution.Argument
import RuleBench.Text.Case
import RuleBench.Text.Digit
import RuleBench.Text.Identifier
import RuleBench.Text.Search

/-!
# Methods of texts
-/

namespace RuleBench.Execution

open RuleBench.Text

namespace TextMethod

def ofChars (cs : List Char) : Value := .str (String.ofList cs)

/-- A text argument, with the complaint about anything else. -/
def expect (v : Value) (complaint : String → String) : Action (List Char) := do
  match (← Action.world).text? v with
  | some s => pure s.toList
  | none => typeErrorOf v complaint

def mustBeText (v : Value) : Action (List Char) := expect v fun t => "must be str, not " ++ t

/-- A count: negative ones and missing ones mean no limit. -/
def limitOf : Option Value → Action (Option Nat)
  | none => pure none
  | some v => do
    let n ← asCount v
    pure (if n < 0 then none else some n.toNat)

/-- The stretch of a text that a search works on, with its offset; nothing where it starts behind
the end. -/
def window (cs : List Char) (args : List Value) : Action (Option (List Char × Nat)) := do
  let size := cs.length
  let start ← boundOr 0 args[0]?
  let stop ← boundOr size args[1]?
  let start := if start < 0 then max 0 (start + size) else start
  let stop := if stop < 0 then max 0 (stop + size) else min stop size
  if start > size || start > stop then pure none
  else pure (some ((cs.take stop.toNat).drop start.toNat, start.toNat))

/-- Searches for a part within a window. -/
def search (name : String) (find : List Char → List Char → Option Nat) (cs : List Char)
    (args : List Value) : Action (Option Int) := do
  checkCountNamed name 1 3 args.length
  match args with
  | part :: rest =>
    let part ← mustBeText part
    match ← window cs rest with
    | none => pure none
    | some (within, offset) => pure ((find part within).map fun i => (i + offset : Int))
  | [] => pure none

def orMissing (found : Option Int) : Action Value := do
  match found with
  | some n => pure (.int n)
  | none => valueError "substring not found"

/-- The parts that a text may start or end with. -/
def affixesOf (name : String) (part : Value) : Action (List (List Char)) := do
  match ← contentOf part with
  | .tuple xs =>
    xs.mapM fun x => expect x fun t => "tuple for " ++ name ++ " must only contain str, not " ++ t
  | _ => do
    let p ← expect part fun t => name ++ " first arg must be str or a tuple of str, not " ++ t
    pure [p]

/-- Whether a text starts or ends with one of the parts. -/
def affix (name : String) (test : List Char → List Char → Bool) (cs : List Char)
    (args : List Value) :
    Action Value := do
  checkCountNamed name 1 3 args.length
  match args with
  | part :: rest =>
    let parts ← affixesOf name part
    match ← window cs rest with
    | none => pure (.bool false)
    | some (within, _) => pure (.bool (parts.any fun p => test p within))
  | [] => pure .none

/-- A text without the characters at its ends that are gone. -/
def stripped (front back : Bool) (isGone : Char → Bool) (cs : List Char) : Value :=
  let cs := if front then cs.dropWhile isGone else cs
  ofChars (if back then (cs.reverse.dropWhile isGone).reverse else cs)

/-- Strips off blanks, or the characters of a text. -/
def strip (name : String) (front back : Bool) (cs : List Char) (args : List Value) :
    Action Value := do
  checkCount name 0 1 args
  match args with
  | [] => pure (stripped front back isBlank cs)
  | [.none] => pure (stripped front back isBlank cs)
  | v :: _ => match (← Action.world).text? v with
    | some s => pure (stripped front back (s.toList.contains ·) cs)
    | none => typeError (name ++ " arg must be None or str")

/-- The character that fills a text up. -/
def fillOf : Option Value → Action Char
  | none => pure ' '
  | some v => do
    match (← Action.world).text? v with
    | none => typeErrorOf v fun t => "The fill character must be a unicode character, not " ++ t
    | some s => match s.toList with
      | [c] => pure c
      | _ => typeError "The fill character must be exactly one character long"

/-- Fills a text up to a width; `front` says how much of a gap goes before the text. -/
def fill (name : String) (front : Nat → Nat → Nat) (cs : List Char) (args : List Value) :
    Action Value := do
  checkCount name 1 2 args
  let width ← asCount ((args.head?).getD .none)
  let c ← fillOf args[1]?
  needRoom width.toNat
  let gap := width.toNat - cs.length
  let before := front gap width.toNat
  pure (ofChars (List.replicate before c ++ cs ++ List.replicate (gap - before) c))

/-- The items of a joined text. -/
def joinItems : List Value → Nat → Action (List (List Char))
  | [], _ => pure []
  | v :: vs, i => do
    let s ← expect v fun t =>
      "sequence item " ++ toString i ++ ": expected str instance, " ++ t ++ " found"
    return s :: (← joinItems vs (i + 1))

/-- The items of a list as they are, or those that an iterator yields. -/
def itemsBehind (v i : Value) : Action (List Value) := do
  match (← Action.world).obj? v with
  | some (.list xs) => pure xs.toList
  | _ => drain i

def join (cs : List Char) (v : Value) : Action Value := do
  match ← iterator? v with
  | none => typeError "can only join an iterable"
  | some i =>
    pure (ofChars (cs.intercalate (← joinItems (← itemsBehind v i) 0)))

/-- The parts of a text between separators, or its words. -/
def splitParts (back : Bool) (cs : List Char) (limit : Option Nat) :
    Value → Action (List (List Char))
  | .none => pure (if back then wordsBack limit cs else words limit cs)
  | separator => do
    let s ← expect separator fun t => "must be str or None, not " ++ t
    if s.isEmpty then valueError "empty separator"
    else pure (if back then Text.splitBack s limit cs else Text.split s limit cs)

/-- Splits at a separator, or at blanks. -/
def split (name : String) (back : Bool) (cs : List Char) (args : List Value) (named : Bindings) :
    Action Value := do
  let picked ← pickArguments name ["sep", "maxsplit"] args named
  let limit ← limitOf (picked[1]?.getD none)
  let parts ← splitParts back cs limit ((picked.head?.getD none).getD .none)
  new (.list (parts.map ofChars).toArray)

def partition (back : Bool) (cs : List Char) (v : Value) : Action Value := do
  let s ← mustBeText v
  if s.isEmpty then valueError "empty separator"
  else match if back then findLast? s cs else find? s cs with
    | some i => pure (.tuple [ofChars (cs.take i), ofChars s, ofChars (cs.drop (i + s.length))])
    | none => pure (.tuple (if back then [.str "", .str "", ofChars cs]
        else [ofChars cs, .str "", .str ""]))

def replace (cs : List Char) (args : List Value) : Action Value := do
  checkCount "replace" 2 3 args
  match args with
  | old :: new :: rest =>
    let old ← expect old fun t => "replace() argument 1 must be str, not " ++ t
    let new ← expect new fun t => "replace() argument 2 must be str, not " ++ t
    pure (ofChars (Text.replace old new (← limitOf rest.head?) cs))
  | _ => pure .none

/-- Zeros behind the sign, up to a width. -/
def zeroFill (cs : List Char) (width : Int) : List Char :=
  let zeros := List.replicate (width.toNat - cs.length) '0'
  match cs with
  | c :: rest => if c == '+' || c == '-' then c :: zeros ++ rest else zeros ++ cs
  | [] => zeros

/-- Words start with an upper or title character and go on with lower ones. -/
def isTitled (cs : List Char) : Bool :=
  let step (s : Bool × Bool × Bool) (c : Char) : Bool × Bool × Bool :=
    let (good, afterCased, seen) := s
    if isUpper c || inRanges titleRanges c.toNat then (good && !afterCased, true, true)
    else if isLower c then (good && afterCased, true, true)
    else (good, false, seen)
  let (good, _, seen) := cs.foldl step (true, false, false)
  good && seen

/-- All characters pass, and there are some. -/
def allOf (p : Char → Bool) (cs : List Char) : Bool := !cs.isEmpty && cs.all p

def test? (name : String) (cs : List Char) : Option Bool :=
  match name with
  | "isalnum" => some (allOf isAlphanumeric cs)
  | "isalpha" => some (allOf isLetter cs)
  | "isascii" => some (cs.all fun c => c.toNat < 128)
  | "isdecimal" => some (allOf isDecimal cs)
  | "isdigit" => some (allOf isDigit cs)
  | "isidentifier" => some (isIdentifier (String.ofList cs))
  | "islower" => some (cs.any isLower && !cs.any fun c => isUpper c || inRanges titleRanges c.toNat)
  | "isupper" => some (cs.any isUpper && !cs.any fun c => isLower c || inRanges titleRanges c.toNat)
  | "isnumeric" => some (allOf isNumeric cs)
  | "isprintable" => some (cs.all isPrintable)
  | "isspace" => some (allOf isBlank cs)
  | "istitle" => some (isTitled cs)
  | _ => none

def changed? (name : String) (s : String) : Option String :=
  match name with
  | "capitalize" => some (capitalized s)
  | "casefold" => some (Text.toLower s)
  | "lower" => some (Text.toLower s)
  | "upper" => some (Text.toUpper s)
  | "title" => some (toTitle s)
  | "swapcase" => some (swapCase s)
  | _ => none

/-- Tabs as blanks up to the next column that is a multiple of the size. -/
def expandTabs (size : Nat) : Nat → List Char → List Char
  | _, [] => []
  | column, '\t' :: cs =>
    let n := if size == 0 then 0 else size - column % size
    List.replicate n ' ' ++ expandTabs size (column + n) cs
  | column, c :: cs => c :: expandTabs size (if c == '\n' || c == '\r' then 0 else column + 1) cs

/-- What is under a key, nothing where it is missing. -/
def itemUnlessMissing (table key : Value) : Action (Option Value) :=
  try some <$> item table key
  catch e => do if ← isInstanceOf e "LookupError" then pure none else Action.raise e

/-- What stands for a character. -/
def translated (c : Char) : Option Value → Action (List Char)
  | none => pure [c]
  | some .none => pure []
  | some (.int n) => pure [Char.ofNat n.toNat]
  | some (.str s) => pure s.toList
  | some _ => typeError "character mapping must return integer, None or str"

/-- Characters replaced by what a mapping has under their numbers. -/
def translate (table : Value) : List Char → Action (List Char)
  | [] => pure []
  | c :: cs => do
    let new ← translated c (← itemUnlessMissing table (.int c.toNat))
    return new ++ (← translate table cs)

/-- A mapping from characters to characters, or to nothing. -/
def charTable (from' to' gone : String) : Action Value :=
  if from'.length != to'.length then
    valueError "the first two maketrans arguments must have equal length"
  else Mapping.ofEntries (((from'.toList.zip to'.toList).map fun (a, b) =>
      ((.int a.toNat, .int b.toNat) : Value × Value)) ++
    gone.toList.map fun c => (.int c.toNat, .none))

/-- The number of a character that is a key. -/
def charNumber : Value → Value
  | .str s => match s.toList with
    | [c] => .int c.toNat
    | _ => .str s
  | k => k

/-- A mapping for `translate`. -/
def makeTable (args : List Value) : Action Value := do
  match args with
  | [.str from', .str to'] => charTable from' to' ""
  | [.str from', .str to', .str gone] => charTable from' to' gone
  | [.ref d] => do
    let es ← entriesOf d
    Mapping.ofEntries (es.toList.map fun e => (charNumber e.1, e.2))
  | _ => typeError "maketrans expected at least 1 argument, got 0"

/-- What stands for a name in a text that is laid out. -/
def namedField (named : Bindings) (name : String) : Action Value :=
  match named.lookup name with
  | some v => pure v
  | none => Mapping.missing (.str name)

/-- The octets that encode a text. -/
def encode (s : String) : Value := .bytes s.toUTF8.toList

end TextMethod

open TextMethod in
/-- Calls a method of a text. -/
def textMethod (name : String) (s : String) (args : List Value) (named : Bindings) :
    Action Value := do
  let cs := s.toList
  let full := "str." ++ name
  match test? name cs, changed? name s with
  | some b, _ => do
    noArguments full args named
    pure (.bool b)
  | _, some t => do
    noArguments full args named
    pure (.str t)
  | _, _ => match name with
    | "center" =>
      let before (gap width : Nat) : Nat :=
        gap / 2 + (if gap % 2 == 1 && width % 2 == 1 then 1 else 0)
      fill name before cs args
    | "ljust" => fill name (fun _ _ => 0) cs args
    | "rjust" => fill name (fun gap _ => gap) cs args
    | "count" => do
      checkCountNamed name 1 3 args.length
      let part ← mustBeText ((args.head?).getD .none)
      match ← window cs (args.drop 1) with
      | none => pure (.int 0)
      | some (within, _) => pure (.int (Text.count part within))
    | "find" => return .int ((← search name Text.find? cs args).getD (-1))
    | "rfind" => return .int ((← search name findLast? cs args).getD (-1))
    | "index" => do orMissing (← search name Text.find? cs args)
    | "rindex" => do orMissing (← search name findLast? cs args)
    | "startswith" => affix name List.isPrefixOf cs args
    | "endswith" => affix name (fun p t => p.isSuffixOf t) cs args
    | "strip" => strip name true true cs args
    | "lstrip" => strip name true false cs args
    | "rstrip" => strip name false true cs args
    | "join" => do join cs (← exactlyOne full args named)
    | "split" => split name false cs args named
    | "rsplit" => split name true cs args named
    | "partition" => do partition false cs (← exactlyOne full args named)
    | "rpartition" => do partition true cs (← exactlyOne full args named)
    | "replace" => replace cs args
    | "zfill" => do
      let width ← asCount (← exactlyOne full args named)
      needRoom width.toNat
      pure (ofChars (zeroFill cs width))
    | "format" => return .str (← formatText s ⟨args, namedField named⟩)
    | "format_map" => do
      let mapping ← exactlyOne full args named
      return .str (← formatText s ⟨[], fun n => item mapping (.str n)⟩)
    | "splitlines" => do
      let picked ← pickArguments name ["keepends"] args named
      let keep ← isOn (picked.head?.getD none)
      new (.list ((Text.lines keep cs).map ofChars).toArray)
    | "removeprefix" => do
      let p ← expect (← exactlyOne full args named) fun t =>
        "removeprefix() argument must be str, not " ++ t
      pure (ofChars (if p.isPrefixOf cs then cs.drop p.length else cs))
    | "removesuffix" => do
      let p ← expect (← exactlyOne full args named) fun t =>
        "removesuffix() argument must be str, not " ++ t
      pure (ofChars (if p.isSuffixOf cs then cs.take (cs.length - p.length) else cs))
    | "expandtabs" => do
      let picked ← pickArguments name ["tabsize"] args named
      let size ← indexOr 8 (picked.head?.getD none)
      pure (ofChars (expandTabs size.toNat 0 cs))
    | "translate" => do return ofChars (← translate (← exactlyOne full args named) cs)
    | "maketrans" => makeTable args
    | "encode" => pure (encode s)
    | _ => pure .notImplemented

end RuleBench.Execution
