import RuleBench.Text.Composite
import RuleBench.Text.Variant

/-!
# Normal form of names

Two spellings of a name are the same name if they have the same normal form. It is reached in three
steps: variants are replaced and composites taken apart; the marks after a base are put into the
order of their classes; and bases and marks are joined to composites again.
-/

namespace RuleBench.Text

/-! ## Syllables

A syllable block of the Korean alphabet is composed of a leading and a vowel letter, and of a
trailing letter if it has one. Its parts are computed. -/

/-- The two parts of a syllable block. -/
def syllableParts? (code : Nat) : Option (Nat × Nat) :=
  if 0xac00 ≤ code && code ≤ 0xd7a3 then
    let i := code - 0xac00
    if i % 28 = 0 then some (0x1100 + i / 588, 0x1161 + i % 588 / 28)
    else some (code - i % 28, 0x11a7 + i % 28)
  else none

/-- The syllable block of two parts. -/
def syllable? (first second : Nat) : Option Nat :=
  if 0x1100 ≤ first && first < 0x1113 && 0x1161 ≤ second && second < 0x1176 then
    some (0xac00 + ((first - 0x1100) * 21 + (second - 0x1161)) * 28)
  else if 0xac00 ≤ first && first ≤ 0xd7a3 && (first - 0xac00) % 28 = 0
      && 0x11a7 < second && second < 0x11c3 then
    some (first + (second - 0x11a7))
  else none

/-- The two parts of a composite. -/
def parts? (code : Nat) : Option (Nat × Nat) := (syllableParts? code).or (tableParts? code)

/-- The composite of two parts. -/
def composite? (first second : Nat) : Option Nat :=
  (syllable? first second).or (tableComposite? first second)

/-! ## The three steps -/

/-- Takes a character apart. Parts are nested no deeper than the first argument. -/
def takeApart : Nat → Nat → List Nat
  | 0, code => [code]
  | depth + 1, code =>
    match parts? code with
    | some (first, second) => takeApart depth first ++ [second]
    | none => (replacement? code).getD [code]

/-- Composites have at most four parts. -/
def decomposed (codes : List Nat) : List Nat := codes.flatMap (takeApart 3)

/-- Puts a character behind others given in reverse. A mark goes before marks of a greater class. -/
def place (code : Nat) : List Nat → List Nat
  | [] => [code]
  | c :: cs =>
    if markClass code != 0 && markClass code < markClass c then c :: place code cs
    else code :: c :: cs

theorem place_perm (code : Nat) (cs : List Nat) : (place code cs).Perm (code :: cs) := by
  induction cs with
  | nil => exact .refl _
  | cons c cs ih =>
    simp only [place]
    split
    · exact (ih.cons c).trans (.swap code c cs)
    · exact .refl _

/-- The characters with all marks in the order of their classes. -/
def ordered (codes : List Nat) : List Nat := (codes.foldl (fun cs c => place c cs) []).reverse

/-- Nothing is lost and nothing is added. -/
theorem ordered_perm (codes : List Nat) : (ordered codes).Perm codes := by
  have h (acc : List Nat) : (codes.foldl (fun cs c => place c cs) acc).Perm (codes ++ acc) := by
    induction codes generalizing acc with
    | nil => exact .refl _
    | cons c cs ih =>
      exact (ih (place c acc)).trans
        (((place_perm c acc).append_left cs).trans List.perm_middle)
  exact (List.reverse_perm _).trans (by simpa using h [])

/-- A base and the marks that were not joined to it; the marks are in reverse. -/
structure Cluster where
  base : Nat
  marks : List Nat

namespace Cluster

def codes (c : Cluster) : List Nat := c.base :: c.marks.reverse

/-- Joins a character to the base, unless a mark of no smaller class stands between. -/
def join? (c : Cluster) (code : Nat) : Option Cluster :=
  match c.marks with
  | [] => (composite? c.base code).map fun base => { c with base }
  | m :: _ =>
    if markClass m < markClass code then (composite? c.base code).map fun base => { c with base }
    else none

end Cluster

/-- Joins bases and marks of a cluster and the characters after it. -/
def joined (c : Cluster) : List Nat → List Nat
  | [] => c.codes
  | code :: rest =>
    match c.join? code with
    | some c' => joined c' rest
    | none =>
      if markClass code = 0 then c.codes ++ joined ⟨code, []⟩ rest
      else joined { c with marks := code :: c.marks } rest

/-- The normal form of a sequence of characters. -/
def normalCodes (codes : List Nat) : List Nat :=
  match ordered (decomposed codes) with
  | [] => []
  | c :: cs => joined ⟨c, []⟩ cs

/-- The normal form of a name. ASCII is in normal form. -/
def normalIdentifier (s : String) : String :=
  if s.toList.all fun c => c.toNat < 128 then s
  else String.ofList ((normalCodes (s.toList.map Char.toNat)).map Char.ofNat)

@[simp] theorem normalCodes_nil : normalCodes [] = [] := rfl

/-- A syllable block without a trailing letter is taken apart into what it was composed of. -/
theorem syllableParts?_of_syllable? {i j : Nat} (hi : i < 19) (hj : j < 21) :
    (syllable? (0x1100 + i) (0x1161 + j)).bind syllableParts? =
      some (0x1100 + i, 0x1161 + j) := by
  have hs : syllable? (0x1100 + i) (0x1161 + j) = some (0xac00 + (i * 21 + j) * 28) := by
    unfold syllable?
    rw [if_pos (by simp only [Bool.and_eq_true, decide_eq_true_eq]; omega)]
    simp only [Option.some.injEq]
    omega
  have hp : syllableParts? (0xac00 + (i * 21 + j) * 28) = some (0x1100 + i, 0x1161 + j) := by
    unfold syllableParts?
    rw [if_pos (by simp only [Bool.and_eq_true, decide_eq_true_eq]; omega)]
    simp only [show 0xac00 + (i * 21 + j) * 28 - 0xac00 = (i * 21 + j) * 28 by omega]
    rw [if_pos (by omega)]
    simp only [Option.some.injEq, Prod.mk.injEq]
    omega
  rw [hs]
  exact hp

end RuleBench.Text
