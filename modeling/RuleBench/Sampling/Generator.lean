/-!
# The generator of random numbers

A generator of 32-bit words with a state of 624 words, seeded by an integer of any size. Numbers
below a bound are drawn by discarding what is too large.
-/

namespace RuleBench

/-- The words of the state, and how many of them have been given out. -/
structure Generator where
  words : Array UInt32
  used : Nat

namespace Generator

/-- How many words the state has. -/
def size : Nat := 624

/-- How far away the word lies that a word is mixed with. -/
def offset : Nat := 397

def word (ws : Array UInt32) (i : Nat) : UInt32 := ws.getD i 0

/-- A word with its own upper bits mixed into the lower ones. -/
def fold (w : UInt32) : UInt32 := w ^^^ (w >>> 30)

/-- The state that grows out of one word. -/
def grow (seed : UInt32) : Array UInt32 :=
  (List.range (size - 1)).foldl
    (fun ws i => ws.push (1812433253 * fold (word ws i) + UInt32.ofNat (i + 1))) #[seed]

/-- Where a state is changed next, and where the key is read. -/
structure Cursor where
  words : Array UInt32
  at_ : Nat
  key : Nat

/-- One round of mixing: `mix` is given the place, the word there and the word before it. -/
def Cursor.step (keyLength : Nat) (mix : Nat → Nat → UInt32 → UInt32 → UInt32) (c : Cursor) :
    Cursor :=
  let ws := c.words.setIfInBounds c.at_
    (mix c.at_ c.key (word c.words c.at_) (word c.words (c.at_ - 1)))
  let key := if c.key + 1 ≥ keyLength then 0 else c.key + 1
  if c.at_ + 1 ≥ size then ⟨ws.setIfInBounds 0 (word ws (size - 1)), 1, key⟩
  else ⟨ws, c.at_ + 1, key⟩

/-- The state for a key of words. -/
def ofKey (key : List UInt32) : Generator :=
  let keyWords := key.toArray
  let n := max 1 keyWords.size
  let absorb (_ j : Nat) (w before : UInt32) : UInt32 :=
    (w ^^^ (fold before * 1664525)) + word keyWords j + UInt32.ofNat j
  let stir (i _ : Nat) (w before : UInt32) : UInt32 :=
    (w ^^^ (fold before * 1566083941)) - UInt32.ofNat i
  let start : Cursor := ⟨grow 19650218, 1, 0⟩
  let first : Cursor := (List.range (max size n)).foldl (fun c _ => c.step n absorb) start
  let second : Cursor := (List.range (size - 1)).foldl (fun c _ => c.step n stir) first
  ⟨second.words.setIfInBounds 0 0x80000000, size⟩

/-- The words of a number, the least significant first. -/
def wordsOf (n : Nat) : List UInt32 :=
  if n < 4294967296 then [UInt32.ofNat n]
  else UInt32.ofNat (n % 4294967296) :: wordsOf (n / 4294967296)
termination_by n
decreasing_by exact Nat.div_lt_self (by omega) (by decide)

/-- The generator for a seed; the sign of the seed does not count. -/
def ofSeed (seed : Int) : Generator := ofKey (wordsOf seed.natAbs)

/-- The next state: each word is mixed with its successor and a distant one. -/
def refresh (ws : Array UInt32) : Array UInt32 :=
  (List.range size).foldl (fun ws i =>
    let joined := (word ws i &&& 0x80000000) ||| (word ws ((i + 1) % size) &&& 0x7fffffff)
    let twist : UInt32 := if joined &&& 1 == 1 then 0x9908b0df else 0
    ws.setIfInBounds i (word ws ((i + offset) % size) ^^^ (joined >>> 1) ^^^ twist)) ws

/-- The word that is given out for a word of the state. -/
def temper (w : UInt32) : UInt32 :=
  let w := w ^^^ (w >>> 11)
  let w := w ^^^ ((w <<< 7) &&& 0x9d2c5680)
  let w := w ^^^ ((w <<< 15) &&& 0xefc60000)
  w ^^^ (w >>> 18)

def next (g : Generator) : UInt32 × Generator :=
  let g := if g.used ≥ size then ⟨refresh g.words, 0⟩ else g
  (temper (word g.words g.used), { g with used := g.used + 1 })

/-- A number of `k` bits, its lower words drawn first; at most `fuel` words. -/
def bitsFrom : Nat → Nat → Generator → Nat × Generator
  | 0, _, g => (0, g)
  | fuel + 1, k, g =>
    if k == 0 then (0, g)
    else
      let (w, g) := g.next
      if k ≤ 32 then (w.toNat / Nat.pow 2 (32 - k), g)
      else
        let (rest, g) := bitsFrom fuel (k - 32) g
        (w.toNat + 4294967296 * rest, g)

def bits (k : Nat) (g : Generator) : Nat × Generator := bitsFrom (k + 1) k g

/-- How many bits a number has. -/
def bitLength (n : Nat) : Nat := if n = 0 then 0 else n.log2 + 1

/-- The most draws for one number. -/
def greatestDraws : Nat := 100000

/-- The first of at most `fuel` draws that a condition accepts. -/
def drawUntil (draw : Generator → Nat × Generator) (accept : Nat → Bool) :
    Nat → Generator → Option (Nat × Generator)
  | 0, _ => none
  | fuel + 1, g =>
    let (n, g) := draw g
    if accept n then some (n, g) else drawUntil draw accept fuel g

/-- A number below a bound, among the first `draws` that are drawn; nothing is drawn for zero. -/
def below (draws bound : Nat) (g : Generator) : Option (Nat × Generator) :=
  if bound = 0 then some (0, g)
  else drawUntil (bits (bitLength bound)) (· < bound) draws g

theorem drawUntil_accept {draw : Generator → Nat × Generator} {accept : Nat → Bool}
    {fuel : Nat} {g g' : Generator} {n : Nat} (h : drawUntil draw accept fuel g = some (n, g')) :
    accept n = true := by
  induction fuel generalizing g with
  | zero => simp [drawUntil] at h
  | succ fuel ih =>
    simp only [drawUntil] at h
    split at h
    · simp_all
    · exact ih h

theorem below_lt {draws bound : Nat} {g g' : Generator} {n : Nat} (pos : 0 < bound)
    (h : below draws bound g = some (n, g')) : n < bound := by
  have ne : bound ≠ 0 := by omega
  simp only [below, ne, if_false] at h
  simpa using drawUntil_accept h

end Generator

end RuleBench
