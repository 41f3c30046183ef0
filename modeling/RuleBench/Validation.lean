import RuleBench.Data
import RuleBench.Number.Decimal
import RuleBench.Text.Octets
import RuleBench.Text.Space

/-!
# Validation

Rules turn data into typed values. A rule that refuses names every part it objects to by its path;
the objections to all fields of a record are collected before the record is refused.
-/

namespace RuleBench.Validation

open RuleBench.Number RuleBench.Text

/-- What a rule objects to. -/
inductive Cause where
  | missing
  | notRecord (recordName : String)
  | notList
  | notText
  | notUnicode
  | textTooShort
  | blankText
  | notInteger
  | unreadableInteger
  | integerTooLong
  | fractional
  | notFinite
  | notNumber
  | unreadableNumber
  | notMapping
  | notSequence
  | textForSequence (typeName : String)
  | notChoice (choices : List String)
  | negative
  | frozen
deriving Repr, DecidableEq

namespace Cause

/-- The identifier of a cause. -/
def code : Cause → String
  | missing => "missing"
  | notRecord _ => "model_type"
  | notList => "list_type"
  | notText => "string_type"
  | notUnicode => "string_unicode"
  | textTooShort => "string_too_short"
  | blankText => "string_pattern_mismatch"
  | notInteger => "int_type"
  | unreadableInteger => "int_parsing"
  | integerTooLong => "int_parsing_size"
  | fractional => "int_from_float"
  | notFinite => "finite_number"
  | notNumber => "float_type"
  | unreadableNumber => "float_parsing"
  | notMapping => "dict_type"
  | notSequence => "is_instance_of"
  | textForSequence _ => "sequence_str"
  | notChoice _ => "literal_error"
  | negative => "greater_than_equal"
  | frozen => "frozen_instance"

/-- Choices in quotes, the last one after "or". -/
def choiceText : List String → String
  | [] => ""
  | [a] => "'" ++ a ++ "'"
  | [a, b] => "'" ++ a ++ "' or '" ++ b ++ "'"
  | a :: rest => "'" ++ a ++ "', " ++ choiceText rest

def message : Cause → String
  | missing => "Field required"
  | notRecord name => "Input should be a valid dictionary or instance of " ++ name
  | notList => "Input should be a valid list"
  | notText => "Input should be a valid string"
  | notUnicode => "Input should be a valid string, unable to parse raw data as a unicode string"
  | textTooShort => "String should have at least 1 character"
  | blankText => "String should match pattern '\\S'"
  | notInteger => "Input should be a valid integer"
  | unreadableInteger => "Input should be a valid integer, unable to parse string as an integer"
  | integerTooLong => "Unable to parse input string as an integer, exceeded maximum size"
  | fractional => "Input should be a valid integer, got a number with a fractional part"
  | notFinite => "Input should be a finite number"
  | notNumber => "Input should be a valid number"
  | unreadableNumber => "Input should be a valid number, unable to parse string as a number"
  | notMapping => "Input should be a valid dictionary"
  | notSequence => "Input should be an instance of Sequence"
  | textForSequence name => "'" ++ name ++ "' instances are not allowed as a Sequence value"
  | notChoice choices => "Input should be " ++ choiceText choices
  | negative => "Input should be greater than or equal to 0"
  | frozen => "Instance is frozen"

end Cause

/-- A step from a value to a part of it. -/
inductive Step where
  | key (name : String)
  | index (position : Int)
deriving Repr, DecidableEq

/-- An objection to the part at the end of a path. -/
structure Issue where
  path : List Step
  cause : Cause
deriving Repr, DecidableEq

/-- A value, or all objections to the data it was to be made of. -/
inductive Checked (α : Type) where
  | valid (value : α)
  | refused (issues : List Issue)

namespace Checked

variable {α β : Type}

def map (f : α → β) : Checked α → Checked β
  | valid a => valid (f a)
  | refused is => refused is

/-- Both parts, or the objections to either, the left ones first. -/
def and (f : Checked (α → β)) (x : Checked α) : Checked β :=
  match f, x with
  | valid f, valid a => valid (f a)
  | valid _, refused is => refused is
  | refused is, valid _ => refused is
  | refused is, refused js => refused (is ++ js)

instance : Functor Checked := ⟨map, fun a => map (fun _ => a)⟩

def bind (x : Checked α) (f : α → Checked β) : Checked β :=
  match x with
  | valid a => f a
  | refused is => refused is

/-- Objects to the data itself. -/
def refuse (cause : Cause) : Checked α := refused [⟨[], cause⟩]

/-- The objections as seen from the whole of which the data is a part. -/
def under (step : Step) : Checked α → Checked α
  | valid a => valid a
  | refused is => refused (is.map fun i => { i with path := step :: i.path })

@[simp] theorem map_valid (f : α → β) (a : α) : map f (valid a) = valid (f a) := rfl

@[simp] theorem and_valid (f : α → β) (a : α) : and (valid f) (valid a) = valid (f a) := rfl

@[simp] theorem under_valid (step : Step) (a : α) : under step (valid a) = valid a := rfl

/-- The values of a list of parts, or the objections to all of them. -/
def sequence : List (Checked α) → Checked (List α)
  | [] => valid []
  | x :: xs => (x.map List.cons).and (sequence xs)

end Checked

/-- A rule makes typed values of data. -/
abbrev Rule (α : Type) := Data → Checked α

/-- Text of a string or of the octets that encode it. -/
def text : Rule String := fun d =>
  match d.content with
  | .str s => .valid s
  | .bytes b => match decodeOctets b with
    | .ok s => .valid s
    | .error _ => .refuse .notUnicode
  | _ => .refuse .notText

/-- Text with at least one character. -/
def nonEmptyText : Rule String := fun d =>
  (text d).bind fun s => if s.isEmpty then .refuse .textTooShort else .valid s

/-- Text with at least one character that is no white space. -/
def visibleText : Rule String := fun d =>
  (nonEmptyText d).bind fun s =>
    if s.toList.all isWhiteSpace then .refuse .blankText else .valid s

/-- Digits with single underscores between them. -/
def digitGroups? : List Char → Option (List Char)
  | [] => none
  | [c] => if c.isDigit then some [c] else none
  | c :: '_' :: rest => if c.isDigit then (digitGroups? rest).map (c :: ·) else none
  | c :: rest => if c.isDigit then (digitGroups? rest).map (c :: ·) else none

/-- The most digits of an integer written as text. -/
def greatestDigits : Nat := 4300

/-- A sign in front, and the rest. -/
def splitSign : List Char → Bool × List Char
  | '-' :: rest => (true, rest)
  | '+' :: rest => (false, rest)
  | rest => (false, rest)

/-- An integer in text: a sign, digits, and a fraction of zeros. -/
def readInteger (s : String) : Checked Int :=
  let trimmed := trimBoth isWhiteSpace s.toList
  let (isNegative, body) := splitSign trimmed
  let whole := body.takeWhile (· != '.')
  let fraction := body.drop whole.length
  let fractionFits := match fraction with
    | [] => true
    | _ :: zeros => !zeros.isEmpty && zeros.all (· == '0')
  match digitGroups? whole with
  | some digits =>
    if !fractionFits then .refuse .unreadableInteger
    else if digits.length > greatestDigits then .refuse .integerTooLong
    else
      let n : Int := ofDigits 10 digits
      .valid (if isNegative then -n else n)
  | none => .refuse .unreadableInteger

/-- Integers below it in magnitude fit into a machine word. -/
def greatestWhole : Int := 9223372036854775808

/-- The integer that a floating-point number is. -/
def wholeFloat (x : Float) : Checked Int :=
  match Binary.ofFloat? x with
  | none => .refuse .notFinite
  | some b =>
    if !b.isWhole then .refuse .fractional
    else
      let n := b.truncate
      if -greatestWhole < n && n < greatestWhole then .valid n else .refuse .integerTooLong

def integer : Rule Int := fun d =>
  match d.content with
  | .int n => .valid n
  | .bool b => .valid (if b then 1 else 0)
  | .float x => wholeFloat x
  | .str s => readInteger s
  | .bytes b => match decodeOctets b with
    | .ok s => readInteger s
    | .error _ => .refuse .unreadableInteger
  | _ => .refuse .notInteger

/-- Digits, a point and an exponent, of which the digits are needed. -/
def isDecimal (cs : List Char) : Bool :=
  let body := cs.takeWhile fun c => c != 'e' && c != 'E'
  let exponent := cs.drop body.length
  let whole := body.takeWhile (· != '.')
  let fraction := (body.drop whole.length).drop 1
  let exponentFits := match exponent with
    | [] => true
    | _ :: r =>
      let ds := (splitSign r).2
      !ds.isEmpty && ds.all Char.isDigit
  whole.all Char.isDigit && fraction.all Char.isDigit && !(whole.isEmpty && fraction.isEmpty) &&
    exponentFits

/-- A number in text, or one of the words for infinity and for what is no number. -/
def readNumber? (cs : List Char) : Option Float :=
  let (isNegative, body) := splitSign cs
  let lower := String.ofList (body.map Char.toLower)
  let magnitude : Option Float :=
    if lower == "inf" || lower == "infinity" then some infinity
    else if lower == "nan" then some (0.0 / 0.0)
    else if isDecimal body then some (readDecimal body)
    else none
  magnitude.map fun x => if isNegative then -x else x

/-- Removes underscores, of which none may stand at an end or beside another. -/
def joinGroups? (cs : List Char) : Option (List Char) :=
  let pieces := cs.splitOnP (· == '_')
  if pieces.any List.isEmpty then none else some pieces.flatten

def readNumber (s : String) : Checked Float :=
  match readNumber? (trimBoth isWhiteSpace s.toList) with
  | some x => .valid x
  | none => match (joinGroups? s.toList).bind readNumber? with
    | some x => .valid x
    | none => .refuse .unreadableNumber

/-- The floating-point number nearest to an integer. -/
def nearestFloat (n : Int) : Float :=
  let magnitude := ofDecimal n.natAbs 0
  if n < 0 then -magnitude else magnitude

def number : Rule Float := fun d =>
  match d.content with
  | .float x => .valid x
  | .int n =>
    let x := nearestFloat n
    if x.isInf then .refuse .notNumber else .valid x
  | .bool b => .valid (if b then 1.0 else 0.0)
  | .str s => readNumber s
  | .bytes b => match decodeOctets b with
    | .ok s => readNumber s
    | .error _ => .refuse .unreadableNumber
  | _ => .refuse .notNumber

/-- No less than zero. -/
def natural : Rule Nat := fun d =>
  (integer d).bind fun n => if n < 0 then .refuse .negative else .valid n.toNat

/-- No less than zero; what is no number is less than nothing and refused all the same. -/
def nonNegative : Rule Float := fun d =>
  (number d).bind fun x => if x ≥ 0.0 then .valid x else .refuse .negative

/-- A rule that also takes nothing. -/
def optional {α : Type} (rule : Rule α) : Rule (Option α) := fun d =>
  match d with
  | .none => .valid none
  | d => (rule d).map some

/-- A key of a mapping as it occurs in a path. -/
def keyStep (key : Data) : Step :=
  match key.content with
  | .str s => .key s
  | .int n => if -greatestWhole ≤ n && n < greatestWhole then .index n else .key (toString n)
  | .bool b => .index (if b then 1 else 0)
  | k => .key k.shown

/-- Puts a value under a name: in the place of an equal name, else at the end. -/
def putEntry (name : String) (value : Data) : List (String × Data) → List (String × Data)
  | [] => [(name, value)]
  | (n, v) :: es => if n == name then (n, value) :: es else (n, v) :: putEntry name value es

/-- A mapping of texts to any data. -/
def mapping : Rule (List (String × Data)) := fun d =>
  match d.content with
  | .dict es =>
    let entries := es.map fun e =>
      ((((text e.1).under (.key "[key]")).under (keyStep e.1)).map fun k => (k, e.2))
    (Checked.sequence entries).map fun named =>
      named.foldl (fun acc e => putEntry e.1 e.2 acc) []
  | _ => .refuse .notMapping

/-- Which kind of sequence items come in. -/
inductive SequenceForm where
  | list
  | tuple
deriving Repr, DecidableEq

/-- Items that keep the kind of sequence they came in. -/
structure Items (α : Type) where
  form : SequenceForm
  items : List α
deriving Repr, DecidableEq

namespace Items

variable {α β : Type}

def map (f : α → β) (s : Items α) : Items β := ⟨s.form, s.items.map f⟩

def toData (s : Items Data) : Data :=
  match s.form with
  | .list => .list s.items
  | .tuple => .tuple s.items

def ofList (items : List α) : Items α := ⟨.list, items⟩

end Items

/-- Items that all obey one rule. -/
def each {α : Type} (rule : Rule α) (items : List Data) : Checked (List α) :=
  Checked.sequence (items.zipIdx.map fun e => (rule e.1).under (.index e.2))

def sequence {α : Type} (rule : Rule α) : Rule (Items α) := fun d =>
  match d.content with
  | .list xs => (each rule xs).map (Items.mk .list)
  | .tuple xs => (each rule xs).map (Items.mk .tuple)
  | .str _ => .refuse (.textForSequence "str")
  | .bytes _ => .refuse (.textForSequence "bytes")
  | _ => .refuse .notSequence

/-- A list and nothing else. -/
def listOf {α : Type} (rule : Rule α) : Rule (List α) := fun d =>
  match d.content with
  | .list xs => each rule xs
  | .tuple xs => each rule xs
  | _ => .refuse .notList

/-- The name of a field in the library and its name in trace exports. -/
structure FieldName where
  name : String
  wire : String
deriving Repr, DecidableEq

/-- The entry for a field: the one under its wire name counts. -/
def entryFor? (field : FieldName) (entries : List (Data × Data)) : Option (String × Data) :=
  match Data.lookup? field.wire entries with
  | some d => some (field.wire, d)
  | none => (Data.lookup? field.name entries).map fun d => (field.name, d)

/-- A field that has to be there. -/
def required {α : Type} (field : FieldName) (rule : Rule α) (entries : List (Data × Data)) :
    Checked α :=
  match entryFor? field entries with
  | some (key, d) => (rule d).under (.key key)
  | none => (Checked.refuse .missing).under (.key field.wire)

/-- A field with a value of its own where it is not there. -/
def withDefault {α : Type} (field : FieldName) (value : α) (rule : Rule α)
    (entries : List (Data × Data)) : Checked α :=
  match entryFor? field entries with
  | some (key, d) => (rule d).under (.key key)
  | none => .valid value

/-- A record made of the entries of a mapping. -/
def record {α : Type} (recordName : String) (fields : List (Data × Data) → Checked α) : Rule α :=
  fun d => match d.content with
    | .dict es => fields es
    | _ => .refuse (.notRecord recordName)

/-- A refusal, with the name of what was to be made. -/
structure Refusal where
  title : String
  issues : List Issue

/-- The outcome of a rule for a named kind of value. -/
def Checked.titled {α : Type} (title : String) : Checked α → Except Refusal α
  | .valid a => .ok a
  | .refused is => .error ⟨title, is⟩

end RuleBench.Validation
