import RuleBench.Text.Ranges

/-!
# White space

Two classes of white space: the property of that name, and the characters at which text is split and
trimmed, which also count the four separators of ASCII.
-/

namespace RuleBench.Text

/-- The property `White_Space`. -/
def whiteSpaceRanges : List (Nat × Nat) := [
  (0x09, 0x0D), (0x20, 0x20), (0x85, 0x85), (0xA0, 0xA0), (0x1680, 0x1680), (0x2000, 0x200A),
  (0x2028, 0x2029), (0x202F, 0x202F), (0x205F, 0x205F), (0x3000, 0x3000)]

def isWhiteSpace (c : Char) : Bool := inRanges whiteSpaceRanges c.toNat

/-- White space and the separators from U+001C to U+001F. -/
def isBlank (c : Char) : Bool := isWhiteSpace c || (28 ≤ c.toNat && c.toNat ≤ 31)

theorem isBlank_of_isWhiteSpace {c : Char} (h : isWhiteSpace c) : isBlank c := by
  simp [isBlank, h]

/-- A list without its leading and trailing elements of a class. -/
def trimBoth {α : Type} (p : α → Bool) (xs : List α) : List α :=
  ((xs.dropWhile p).reverse.dropWhile p).reverse

@[simp] theorem trimBoth_nil {α : Type} (p : α → Bool) : trimBoth p ([] : List α) = [] := rfl

end RuleBench.Text
