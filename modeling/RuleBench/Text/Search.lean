import RuleBench.Text.Space

/-!
# Searching and splitting text

Where a part occurs in a text, and how a text falls apart at a separator, at blanks or at line ends.
All functions work on lists of characters.
-/

namespace RuleBench.Text

/-- The first offset at which a part occurs. -/
def find? (part : List Char) : List Char → Option Nat
  | [] => if part.isEmpty then some 0 else none
  | c :: cs => if part.isPrefixOf (c :: cs) then some 0 else (find? part cs).map (· + 1)

/-- The last offset at which a part occurs. -/
def findLast? (part : List Char) : List Char → Option Nat
  | [] => if part.isEmpty then some 0 else none
  | c :: cs => match findLast? part cs with
    | some i => some (i + 1)
    | none => if part.isPrefixOf (c :: cs) then some 0 else none

/-- How often a part occurs without overlap; `skip` characters belong to the last occurrence. -/
def countFrom (part : List Char) : Nat → List Char → Nat
  | _, [] => 0
  | skip + 1, _ :: cs => countFrom part skip cs
  | 0, c :: cs =>
    if part.isPrefixOf (c :: cs) then 1 + countFrom part (part.length - 1) cs
    else countFrom part 0 cs

/-- How often a part occurs without overlap; an empty part occurs around every character. -/
def count (part cs : List Char) : Nat :=
  if part.isEmpty then cs.length + 1 else countFrom part 0 cs

/-- Splits at most `limit` times at a separator that is not empty, from the front. -/
def splitAtEach (separator : List Char) : Nat → Nat → List Char → List (List Char)
  | 0, _, cs => [cs]
  | _, 0, cs => [cs]
  | fuel + 1, limit + 1, cs => match find? separator cs with
    | none => [cs]
    | some i => cs.take i :: splitAtEach separator fuel limit (cs.drop (i + separator.length))

/-- The parts of a text between separators. -/
def split (separator : List Char) (limit : Option Nat) (cs : List Char) : List (List Char) :=
  splitAtEach separator (cs.length + 1) (limit.getD (cs.length + 1)) cs

/-- The same, with the separators taken from the back. -/
def splitBack (separator : List Char) (limit : Option Nat) (cs : List Char) : List (List Char) :=
  ((split separator.reverse limit cs.reverse).map List.reverse).reverse

/-- The words of a text, split at most `limit` times. -/
def wordsUpTo : Nat → Nat → List Char → List (List Char)
  | 0, _, _ => []
  | fuel + 1, limit, cs =>
    match cs.dropWhile isBlank with
    | [] => []
    | rest => match limit with
      | 0 => [rest]
      | limit + 1 =>
        let word := rest.takeWhile fun c => !isBlank c
        word :: wordsUpTo fuel limit (rest.drop word.length)

def words (limit : Option Nat) (cs : List Char) : List (List Char) :=
  wordsUpTo (cs.length + 1) (limit.getD (cs.length + 1)) cs

/-- The same, with the words taken from the back. -/
def wordsBack (limit : Option Nat) (cs : List Char) : List (List Char) :=
  ((words limit cs.reverse).map List.reverse).reverse

/-- Replaces the first `limit` occurrences of a part. An empty part stands before every character
and at the end. -/
def replace (part new : List Char) (limit : Option Nat) (cs : List Char) : List Char :=
  if part.isEmpty then
    let n := limit.getD (cs.length + 1)
    let rec insert (left : Nat) : List Char → List Char
      | [] => if left == 0 then [] else new
      | c :: rest => if left == 0 then c :: rest else new ++ c :: insert (left - 1) rest
    insert n cs
  else new.intercalate (split part limit cs)

/-- Characters at which a line ends. -/
def isLineEnd (c : Char) : Bool :=
  let n := c.toNat
  (10 ≤ n && n ≤ 13) || (28 ≤ n && n ≤ 30) || n == 0x85 || n == 0x2028 || n == 0x2029

/-- The lines of a text, with their ends or without. -/
def linesUpTo (keep : Bool) : Nat → List Char → List (List Char)
  | 0, _ => []
  | _, [] => []
  | fuel + 1, cs =>
    let line := cs.takeWhile fun c => !isLineEnd c
    match cs.drop line.length with
    | [] => [line]
    | '\r' :: '\n' :: rest =>
      (line ++ (if keep then ['\r', '\n'] else [])) :: linesUpTo keep fuel rest
    | c :: rest => (line ++ (if keep then [c] else [])) :: linesUpTo keep fuel rest

def lines (keep : Bool) (cs : List Char) : List (List Char) := linesUpTo keep (cs.length + 1) cs

end RuleBench.Text
