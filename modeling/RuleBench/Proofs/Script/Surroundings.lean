import RuleBench.Proofs.Script.Home

/-!
# The blocks around a place

`blocksAround` reads a whole script and hands out the blocks that are open at one place of it, with
all that is known of their names when they are left. Reading what lowering leaves of the script gives
blocks around the same place that compare as `Trimmed` says.
-/

namespace RuleBench.Script

namespace OpenBlocks

/-- How many blocks are open. -/
def height (s : OpenBlocks) : Nat := s.around.length + 1

/-- The outermost blocks, so many of them, as they are when they are left, innermost first. -/
def finish (later : Bool) : Nat → OpenBlocks → List Mention → Except Fault (List Block)
  | _, s, [] => .ok [s.current.close]
  | height, s, m :: ms => do
    let t ← s.step later m
    if t.height < height then return s.current.close :: (← finish later t.height t ms)
    else finish later height t ms

/-- Before anything is read. -/
def start : OpenBlocks := ⟨.start .module none 0, []⟩

section

variable {later : Bool} {s t : OpenBlocks} {m : Mention} {ms : List Mention} {height : Nat}

/-- A step after which all blocks in question are open. -/
theorem finish_step (ok : s.step later m = .ok t) (low : height ≤ t.height) :
    finish later height s (m :: ms) = finish later height t ms := by
  have open' : ¬ t.height < height := Nat.not_lt.mpr low
  simp only [finish, ok, bind, Except.bind, open', if_false]

/-- A step that leaves the innermost of the blocks in question. -/
theorem finish_leave (ok : s.step later m = .ok t) (left : t.height < height) {bs : List Block}
    (rest : finish later t.height t ms = .ok bs) :
    finish later height s (m :: ms) = .ok (s.current.close :: bs) := by
  simp only [finish, ok, bind, Except.bind, left, if_true, rest]
  rfl

theorem height_eq (s : OpenBlocks) : s.height = s.kinds.length := by
  simp [height, kinds]

theorem height_step (flat : m.IsFlat) (ok : s.step later m = .ok t) : t.height = s.height := by
  rw [height_eq, height_eq, kinds_step flat ok]

@[simp] theorem height_opened (kind : BlockKind) (s : OpenBlocks) :
    (s.opened kind).height = s.height + 1 := rfl

theorem height_closed (kind : BlockKind) {s : OpenBlocks} {n : Nat} (tall : s.height = n + 2) :
    (s.closed kind).height = n + 1 := by
  obtain ⟨current, around⟩ := s
  cases around with
  | nil => simp [height] at tall
  | cons outer rest => simpa [height, closed] using tall

end

end OpenBlocks

open OpenBlocks

/-- The blocks around a place of a script, innermost first: what is read before the place and after
it makes them what they are. -/
def blocksAround (later : Bool) (before after : List Mention) : Except Fault (List Block) := do
  let s ← OpenBlocks.start.read later before
  s.finish later s.height after

/-- All blocks in question are still open after these mentions. -/
def Passed (later : Bool) (height : Nat) (ms : List Mention) (s t : OpenBlocks) : Prop :=
  t.height = s.height ∧ ∀ rest,
    finish later height s (ms ++ rest) = finish later height t rest

namespace Passed

variable {later : Bool} {height : Nat} {ms ns : List Mention} {s t u : OpenBlocks}

theorem one {m : Mention} (flat : m.IsFlat) (low : height ≤ s.height)
    (ok : s.step later m = .ok t) : Passed later height [m] s t := by
  have same := height_step flat ok
  exact ⟨same, fun rest => finish_step ok (same.symm ▸ low)⟩

theorem append (h : Passed later height ms s t) (h' : Passed later height ns t u) :
    Passed later height (ms ++ ns) s u :=
  ⟨h'.1.trans h.1, fun rest => by rw [List.append_assoc, h.2, h'.2]⟩

theorem low (h : Passed later height ms s t) (low : height ≤ s.height) : height ≤ t.height :=
  h.1.symm ▸ low

/-- A block that is entered and left again. -/
theorem block {kind : BlockKind} (opens : Opens later kind) (low : height ≤ s.height)
    (inner : Passed later height ms (s.opened kind) u) :
    Passed later height (.enter kind :: ms ++ [.leave kind]) s (u.closed kind) := by
  have closed : (u.closed kind).height = s.height := height_closed kind inner.1
  refine ⟨closed, fun rest => ?_⟩
  simp only [List.cons_append, List.append_assoc, List.nil_append]
  rw [finish_step (step_enter opens s) (Nat.le_succ_of_le low), inner.2,
    finish_step (step_leave opens u) (closed.symm ▸ low)]

end Passed

/-- Mentions that leave the blocks which they enter leave all blocks open that were open. -/
theorem Balanced.passed {c later : Bool} {ms : List Mention} (h : Balanced c ms) {s t : OpenBlocks}
    {height : Nat} (low : height ≤ s.height) (ok : s.read later ms = .ok t) :
    Passed later height ms s t := by
  -- What comes first and last around a source or a target enters no block.
  have between : ∀ {first last : Mention} {ms : List Mention} {s t : OpenBlocks},
      first.IsFlat → last.IsFlat → height ≤ s.height →
      s.read later (first :: ms ++ [last]) = .ok t →
      (∀ {s t : OpenBlocks}, height ≤ s.height → s.read later ms = .ok t →
        Passed later height ms s t) → Passed later height (first :: ms ++ [last]) s t := by
    intro first last ms s t flat flat' low ok inner
    obtain ⟨v, entered, ok⟩ := read_cons_eq_ok.mp ok
    obtain ⟨u, inside, left⟩ := read_append_eq_ok.mp ok
    have head := Passed.one flat low entered
    have body := inner (head.low low) inside
    rw [read_one] at left
    exact (head.append body).append (.one flat' ((head.append body).low low) left)
  induction h generalizing s t with
  | nil =>
    cases ok
    exact ⟨rfl, fun _ => rfl⟩
  | name | annotate | rebind | bareOnly | yields | suspends =>
    rw [read_one] at ok
    exact .one trivial low ok
  | append _ _ ih ih' =>
    obtain ⟨u, first, second⟩ := read_append_eq_ok.mp ok
    have head := ih low first
    exact head.append (ih' (head.low low) second)
  | @block c kind ms named _ ih =>
    have opens : Opens later kind := by simp [Opens, named]
    obtain ⟨u, inside, rfl⟩ := (read_block_eq_ok opens).mp ok
    exact .block opens low (ih (Nat.le_trans low (Nat.le_succ _)) inside)
  | @hint c ms _ ih =>
    cases later with
    | true =>
      have opens : Opens true .hint := rfl
      obtain ⟨u, inside, rfl⟩ := (read_block_eq_ok opens).mp ok
      exact .block opens low (ih (Nat.le_trans low (Nat.le_succ _)) inside)
    | false =>
      obtain ⟨_, ⟨⟩, ok⟩ := read_cons_eq_ok.mp ok
      obtain ⟨u, inside, last⟩ := read_append_eq_ok.mp ok
      rw [read_one, step_leave_hint] at last
      cases last
      have body := ih low inside
      refine ⟨body.1, fun rest => ?_⟩
      simp only [annotationMentions, List.cons_append, List.append_assoc, List.nil_append]
      rw [finish_step (step_enter_hint s) low, body.2,
        finish_step (step_leave_hint t) (body.low low)]
  | source _ ih => exact between trivial trivial low ok ih
  | target _ ih => exact between trivial trivial low ok ih

variable {lost : String → Prop} {later : Bool} {ks : List BlockKind} {fs : List Fate}

theorem OpenBlocks.Trimmed.height {s s' : OpenBlocks} (h : s.Trimmed lost s') :
    s'.height = s.height :=
  congrArg (· + 1) h.around.length_eq.symm

/-- The blocks in question are comparable when they are left. -/
def Finishes (lost : String → Prop) (later : Bool) (height : Nat) (fs : List Fate)
    (s s' : OpenBlocks) : Prop :=
  ∃ bs bs', s.finish later height (fs.map Prod.fst) = .ok bs ∧
    s'.finish later height (fs.filterMap Prod.snd) = .ok bs' ∧
    List.Forall₂ (Block.Trimmed lost) bs bs'

/-- A mention that stays may leave a block. -/
theorem Finishes.keep {s s' t : OpenBlocks} (related : s.Trimmed lost s') {m m' : Mention}
    (like : m.Like m') (ok : s.step later m = .ok t) {height : Nat}
    (rest : ∀ {t' : OpenBlocks} {height : Nat}, t.Trimmed lost t' → height ≤ t.height →
      Finishes lost later height fs t t') :
    Finishes lost later height ((m, some m') :: fs) s s' := by
  obtain ⟨t', ok', related'⟩ := related.step later like ok
  by_cases left : t.height < height
  · obtain ⟨bs, bs', finish, finish', comparable⟩ := rest related' (Nat.le_refl _)
    have left' : t'.height < height := related'.height.symm ▸ left
    rw [← related'.height] at finish'
    exact ⟨_, _, finish_leave ok left finish, finish_leave ok' left' finish',
      .cons related.current.close comparable⟩
  · have low : height ≤ t.height := Nat.le_of_not_lt left
    obtain ⟨bs, bs', finish, finish', comparable⟩ := rest related' low
    exact ⟨bs, bs', (finish_step ok low).trans finish,
      (finish_step ok' (related'.height.symm ▸ low)).trans finish', comparable⟩

/-- Blocks that are comparable now are so when they are left. -/
theorem Thinned.finishes (h : Thinned ks fs) {s s' t : OpenBlocks} (related : s.Trimmed lost s')
    (inside : s.Inside later ks) (bound : ∀ m, (m, none) ∈ fs → ∀ n, m.Binds n → lost n)
    (ok : s.read later (fs.map Prod.fst) = .ok t) {height : Nat} (low : height ≤ s.height) :
    Finishes lost later height fs s s' := by
  induction h generalizing s s' height with
  | done => exact ⟨_, _, rfl, rfl, .cons related.current.close .nil⟩
  | keep flat like rest ih =>
    obtain ⟨u, head, behind⟩ := read_cons_eq_ok.mp ok
    exact .keep related like head fun related' low' => ih related' (inside.flat flat head)
      (fun m mem => bound m (List.mem_cons_of_mem _ mem)) behind low'
  | @enter ks kind fs rest ih =>
    obtain ⟨u, head, behind⟩ := read_cons_eq_ok.mp ok
    exact .keep related (.enter kind) head fun related' low' => ih related' (inside.enter head)
      (fun m mem => bound m (List.mem_cons_of_mem _ mem)) behind low'
  | @leave ks kind fs rest ih =>
    obtain ⟨u, head, behind⟩ := read_cons_eq_ok.mp ok
    exact .keep related (.leave kind) head fun related' low' => ih related' (inside.leave head)
      (fun m mem => bound m (List.mem_cons_of_mem _ mem)) behind low'
  | @drop ks ms fs settled balanced rest ih =>
    rw [List.map_append, fst_dropped] at ok
    obtain ⟨u, first, behind⟩ := read_append_eq_ok.mp ok
    obtain ⟨apace, inside'⟩ := Apace.dropped related balanced inside settled
      (fun m mem => bound m (List.mem_append_left _ (mem_dropped.mpr ⟨mem, rfl⟩))) first
    have passed := balanced.passed low first
    obtain ⟨bs, bs', finish, finish', comparable⟩ := ih apace.trimmed inside'
      (fun m mem => bound m (List.mem_append_right _ mem)) behind (passed.low low)
    refine ⟨bs, bs', ?_, ?_, comparable⟩
    · rw [List.map_append, fst_dropped, passed.2, finish]
    · rw [List.filterMap_append, snd_dropped, List.nil_append, finish']

end RuleBench.Script
