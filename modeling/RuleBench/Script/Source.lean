import RuleBench.Text.LineEnd

/-!
# Source texts

A script is read as an array of characters whose lines all end in a line feed. Places are counted
in two units: nodes count UTF-8 bytes, diagnostics count characters. `Source` keeps what is needed
to go from one to the other.
-/

namespace RuleBench.Script

/-- A text cut into characters, with the byte offset of each and the start of each line. -/
structure Source where
  chars : Array Char
  /-- Byte offsets, one more than there are characters. -/
  offsets : Array Nat
  /-- Indexes of the characters that start a line. -/
  starts : Array Nat

namespace Source

private def tally : List Char → Nat → Nat → Bool → Array Nat → Array Nat → Array Nat × Array Nat
  | [], _, _, _, offsets, starts => (offsets, starts)
  | c :: r, i, at_, fresh, offsets, starts =>
    let next := at_ + c.utf8Size
    tally r (i + 1) next (c == '\n') (offsets.push next) (if fresh then starts.push i else starts)

/-- The source of a text: newlines unified and the last line closed. -/
def ofString (text : String) : Source :=
  let cs := Text.unifyLineEnds text.toList
  let cs := if cs.getLast? == some '\n' then cs else cs ++ ['\n']
  let (offsets, starts) := tally cs 0 0 true #[0] #[]
  ⟨cs.toArray, offsets, starts⟩

variable (s : Source)

/-- Number of characters. -/
def size : Nat := s.chars.size

/-- The character at an index, none at the end. -/
def char? (i : Nat) : Option Char := s.chars[i]?

/-- The byte offset of an index. -/
def offset (i : Nat) : Nat := s.offsets.getD i (s.offsets.back?.getD 0)

/-- The characters from one index up to another. -/
def slice (start stop : Nat) : List Char := (s.chars.extract start stop).toList

/-- The index of the first character of a line. -/
def lineStart (line : Nat) : Nat := s.starts.getD (line - 1) s.size

/-- Characters of a line, its line feed included, starting at an index. -/
def lineFrom (start : Nat) : List Char :=
  let rec go : Nat → Nat → List Char
    | 0, _ => []
    | n + 1, i => match s.char? i with
      | none => []
      | some c => if c == '\n' then [c] else c :: go n (i + 1)
  go (s.size - start) start

end Source

/-- How many characters the first `bytes` bytes of a text touch; past its end every byte counts
as one, up to one beyond the end. -/
def charactersIn : List Char → Nat → Nat
  | _, 0 => 0
  | [], _ + 1 => 1
  | c :: r, n + 1 => 1 + charactersIn r (n + 1 - c.utf8Size)

/-- The index of the first character from `i` on that fails the test. -/
def Source.skipWhile (s : Source) (p : Char → Bool) (i : Nat) : Nat :=
  if h : i < s.chars.size then
    if p s.chars[i] then s.skipWhile p (i + 1) else i
  else i
termination_by s.chars.size - i

theorem Source.le_skipWhile (s : Source) (p : Char → Bool) (i : Nat) : i ≤ s.skipWhile p i := by
  fun_induction s.skipWhile p i with
  | case1 i h hp ih => omega
  | case2 i h hp => exact Nat.le_refl _
  | case3 i h => exact Nat.le_refl _

end RuleBench.Script
