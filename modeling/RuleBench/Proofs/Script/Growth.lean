import RuleBench.Proofs.Script.Balanced
import RuleBench.Proofs.Script.Trimmed

/-!
# What an expression does to the blocks around it

Reading the mentions of an expression leaves the blocks that were open as they were, but for what is
known of their names: more may be known, and a name that is bound now and was not before is bound by
one of the mentions. Declarations are added to the block of the whole script at most.
-/

namespace RuleBench.Script

/-- The name that a mention binds, in the block where it stands or further out. -/
def Mention.bound? : Mention → Option String
  | .name id t _ => if t == .used then none else some id
  | .annotate id simple hasValue _ _ => if simple || hasValue then some id else none
  | .rebind id _ _ => some id
  | _ => none

/-- The mention binds the name, which a class may keep under another one. -/
def Mention.Binds (m : Mention) (n : String) : Prop :=
  ∃ id className, m.bound? = some id ∧ privateName className id = n

/-- Code in which only mentions of the code itself declare a name `global` or `nonlocal`. -/
def BlockKind.Settled (kind : BlockKind) : Prop := kind ≠ .module ∧ kind.isComprehension = false

/-- An open block, before and after mentions were read that leave it open. -/
structure OpenBlock.Grown (lost : String → Prop) (b c : OpenBlock) : Prop where
  kind : c.kind = b.kind
  className : c.className = b.className
  sources : c.sources = b.sources
  inTarget : c.inTarget = b.inTarget
  inner : ∃ more, c.inner = more ++ b.inner
  table : c.names.Trimmed lost b.kind.Settled b.names

namespace OpenBlock.Grown

variable {lost : String → Prop} {b c d : OpenBlock}

theorem refl (distinct : b.names.keys.Nodup) : b.Grown lost b :=
  ⟨rfl, rfl, rfl, rfl, ⟨[], rfl⟩, .refl distinct⟩

theorem trans (h : b.Grown lost c) (h' : c.Grown lost d) : b.Grown lost d where
  kind := h'.kind.trans h.kind
  className := h'.className.trans h.className
  sources := h'.sources.trans h.sources
  inTarget := h'.inTarget.trans h.inTarget
  inner := by
    obtain ⟨more, hc⟩ := h.inner
    obtain ⟨more', hd⟩ := h'.inner
    exact ⟨more' ++ more, by rw [hd, hc, List.append_assoc]⟩
  table := (h.kind ▸ h'.table).trans h.table

/-- More is known of one name. -/
theorem enter (distinct : b.names.keys.Nodup) (id : String) {change : Usage → Usage}
    (changed : Usage.Trimmed (lost (privateName b.className id)) b.kind.Settled
      (change (b.usage id)) (b.usage id)) : b.Grown lost (b.enter id change) where
  kind := rfl
  className := rfl
  sources := rfl
  inTarget := rfl
  inner := ⟨[], rfl⟩
  table := by
    refine (NameTable.Trimmed.refl distinct).alter_left _ ?_
    simp only [noted]
    split
    · exact changed.iterating
    · exact changed

/-- The outermost block takes note of what is declared global anywhere. -/
theorem noteGlobal (distinct : b.names.keys.Nodup) (module : b.kind = .module) (n : String) :
    b.Grown lost { b with names := b.names.alter n (·.declare .global) } where
  kind := rfl
  className := rfl
  sources := rfl
  inTarget := rfl
  inner := ⟨[], rfl⟩
  table := (NameTable.Trimmed.refl distinct).alter_left n
    (.redeclared _ .global fun settled => settled.1 module)

theorem rebound (distinct : b.names.keys.Nodup) {n : String} (bound : lost n) :
    b.Grown lost (OpenBlocks.reboundBlock n b) := by
  simp only [OpenBlocks.reboundBlock]
  split
  · exact .refl distinct
  · exact ⟨rfl, rfl, rfl, rfl, ⟨[], rfl⟩, (NameTable.Trimmed.refl distinct).alter_left n
      (.touched _ .assigned fun _ => bound)⟩

end OpenBlock.Grown

/-- The open blocks, before and after mentions were read that leave all of them open. -/
structure OpenBlocks.Grown (lost : String → Prop) (s t : OpenBlocks) : Prop where
  current : s.current.Grown lost t.current
  around : List.Forall₂ (OpenBlock.Grown lost) s.around t.around

namespace OpenBlocks

/-- Reads mentions one after the other. -/
def read (later : Bool) (ms : List Mention) (s : OpenBlocks) : Except Fault OpenBlocks :=
  ms.foldlM (step later) s

@[simp] theorem read_nil (later : Bool) (s : OpenBlocks) : s.read later [] = .ok s := rfl

theorem read_cons_eq_ok {later : Bool} {m : Mention} {ms : List Mention} {s u : OpenBlocks} :
    s.read later (m :: ms) = .ok u ↔ ∃ t, s.step later m = .ok t ∧ t.read later ms = .ok u := by
  simp only [read, List.foldlM_cons, bind, Except.bind]
  cases s.step later m <;> simp

theorem read_append_eq_ok {later : Bool} {ms ns : List Mention} {s u : OpenBlocks} :
    s.read later (ms ++ ns) = .ok u ↔
      ∃ t, s.read later ms = .ok t ∧ t.read later ns = .ok u := by
  simp only [read, List.foldlM_append, bind, Except.bind]
  cases ms.foldlM (step later) s <;> simp

theorem read_one (later : Bool) (m : Mention) (s : OpenBlocks) :
    s.read later [m] = s.step later m := by
  simp only [read, List.foldlM_cons, List.foldlM_nil]
  cases s.step later m <;> rfl

/-- A block is read by reading what stands in it. -/
theorem read_block_eq_ok {later : Bool} {kind : BlockKind} (opens : Opens later kind)
    {ms : List Mention} {s t : OpenBlocks} :
    s.read later (.enter kind :: ms ++ [.leave kind]) = .ok t ↔
      ∃ u, (s.opened kind).read later ms = .ok u ∧ u.closed kind = t := by
  simp only [List.cons_append, read_cons_eq_ok, read_append_eq_ok, step_enter opens, read_one,
    step_leave opens, Except.ok.injEq, exists_eq_left']

/-- The kinds of the open blocks, innermost first. -/
def kinds (s : OpenBlocks) : List BlockKind := (s.current :: s.around).map OpenBlock.kind

/-- The outermost block is that of the whole script, and no table has a name twice. -/
structure Sound (s : OpenBlocks) : Prop where
  rooted : s.kinds.getLast? = some .module
  distinct : ∀ b ∈ s.current :: s.around, b.names.keys.Nodup

namespace Grown

variable {lost : String → Prop} {s t u : OpenBlocks}

theorem refl (sound : s.Sound) : s.Grown lost s :=
  ⟨.refl (sound.distinct _ List.mem_cons_self), List.forall₂_same.mpr fun b mem =>
    .refl (sound.distinct b (List.mem_cons_of_mem _ mem))⟩

theorem trans (h : s.Grown lost t) (h' : t.Grown lost u) : s.Grown lost u :=
  ⟨h.current.trans h'.current,
    forall₂_trans h.around h'.around fun _ _ _ => OpenBlock.Grown.trans⟩

theorem blocks (h : s.Grown lost t) :
    List.Forall₂ (OpenBlock.Grown lost) (s.current :: s.around) (t.current :: t.around) :=
  .cons h.current h.around

theorem kinds (h : s.Grown lost t) : t.kinds = s.kinds :=
  (map_eq_of_forall₂ h.blocks fun _ _ grown => grown.kind.symm).symm

theorem sound (h : s.Grown lost t) (sound : s.Sound) : t.Sound where
  rooted := h.kinds ▸ sound.rooted
  distinct b mem := by
    obtain ⟨i, inside, rfl⟩ := List.getElem_of_mem mem
    have inside' : i < (s.current :: s.around).length := h.blocks.length_eq ▸ inside
    exact (h.blocks.get inside' inside).table.distinct

theorem touch (sound : s.Sound) {id : String} {u : Touch} {l : Region}
    (bound : u ≠ .used → lost (privateName s.current.className id))
    (ok : s.touch id u l = .ok t) : s.Grown lost t := by
  obtain ⟨-, rfl⟩ := touch_eq_ok.mp ok
  exact ⟨.enter (sound.distinct _ List.mem_cons_self) id (.touched _ u bound),
    (Grown.refl sound).around⟩

theorem noteGlobal (sound : s.Sound) (n : String) : s.Grown lost (s.noteGlobal n) := by
  have same : s.Grown lost s := .refl sound
  obtain ⟨current, around⟩ := s
  obtain ⟨rooted, distinct⟩ := sound
  rcases List.eq_nil_or_concat around with rfl | ⟨bs, outermost, rfl⟩
  · rw [noteGlobal_nil]
    exact ⟨.noteGlobal (distinct _ List.mem_cons_self) (Option.some.inj rooted) n, .nil⟩
  · rw [List.concat_eq_append] at *
    rw [noteGlobal_concat]
    have module : outermost.kind = .module := by
      simpa [OpenBlocks.kinds, List.getLast?_cons] using rooted
    exact ⟨same.current, List.rel_append
      (List.forall₂_same.mpr fun b mem => .refl (distinct b (by simp [mem])))
      (.cons (.noteGlobal (distinct _ (by simp)) module n) .nil)⟩

theorem declared (sound : s.Sound) (d : Declaration) (id : String)
    (inside : s.current.kind.isComprehension = true) : s.Grown lost (s.declared d id) := by
  have noted : s.Grown lost (s.update (·.enter id (·.declare d))) :=
    ⟨.enter (sound.distinct _ List.mem_cons_self) id
      (.redeclared _ d fun settled => by simp [settled.2] at inside), (Grown.refl sound).around⟩
  simp only [OpenBlocks.declared]
  split
  · exact noted.trans (.noteGlobal (noted.sound sound) _)
  · exact noted

theorem sentOut (sound : s.Sound) (depth : Nat) (target : OpenBlock) {id : String} (l : Region)
    (inside : s.current.kind.isComprehension = true)
    (bound : lost (privateName s.current.className id)) :
    s.Grown lost (s.sentOut depth target id l) := by
  have declared : s.Grown lost (s.declared (rebindDeclaration target id) id) :=
    .declared sound _ id inside
  have distinct := (declared.sound sound).distinct
  simp only [OpenBlocks.sentOut]
  generalize s.declared (rebindDeclaration target id) id = u at declared distinct ⊢
  refine declared.trans ⟨?_, ?_⟩
  · exact ⟨rfl, rfl, rfl, rfl, ⟨[], rfl⟩, .refl (distinct u.current List.mem_cons_self)⟩
  · exact forall₂_modify_self (fun b mem => .refl (distinct b (List.mem_cons_of_mem _ mem)))
      (fun b mem => .rebound (distinct b (List.mem_cons_of_mem _ mem)) bound) _

/-- A named expression binds a name in a block around comprehensions. -/
theorem rebind (sound : s.Sound) {id : String} {l whole : Region}
    (bound : lost (privateName s.current.className id)) (ok : s.rebind id l whole = .ok t) :
    s.Grown lost t := by
  simp only [OpenBlocks.rebind] at ok
  split at ok
  · cases ok
  · split at ok
    · next form kind =>
      obtain ⟨depth, -, ⟨-, rfl⟩ | ⟨target, -, -, rfl⟩⟩ := rebindOutside_eq_ok.mp ok
      · exact .refl sound
      · exact .sentOut sound depth target l (by rw [kind]; rfl) bound
    · cases ok
      exact .refl sound

theorem name (sound : s.Sound) {later : Bool} {id : String} {u : Touch} {l : Region}
    (bound : u ≠ .used → lost (privateName s.current.className id))
    (ok : s.step later (.name id u l) = .ok t) : s.Grown lost t := by
  simp only [step, bind, Except.bind] at ok
  cases touched : s.touch id u l with
  | error f => simp [touched] at ok
  | ok v =>
    have grown : s.Grown lost v := .touch sound bound touched
    have same : (pure v : Except Fault OpenBlocks) = .ok t → s.Grown lost t := by
      rintro ⟨⟩
      exact grown
    have own : v.touch "__class__" .used l = .ok t → s.Grown lost t := fun ok =>
      grown.trans (.touch (grown.sound sound) (by simp) ok)
    simp only [touched] at ok
    split at ok
    · split at ok <;> first | exact own ok | exact same ok
    · exact same ok

/-- A block that was entered and is left again. -/
theorem closed {kind : BlockKind} (h : (s.opened kind).Grown lost u) :
    s.Grown lost (u.closed kind) := by
  obtain ⟨inmost, around⟩ := u
  obtain ⟨-, around⟩ := h
  cases around with
  | @cons _ outer _ bs head rest =>
    obtain ⟨more, inner⟩ := head.inner
    refine ⟨{ head with inner := ?_ }, rest⟩
    by_cases hint : kind = .hint
    · exact ⟨more, by simpa [OpenBlocks.closed, hint] using inner⟩
    · exact ⟨inmost.close :: more, by simpa [OpenBlocks.closed, hint] using inner⟩

end Grown

theorem Sound.opened {s : OpenBlocks} (sound : s.Sound) (kind : BlockKind) :
    (s.opened kind).Sound where
  rooted := by
    have := sound.rooted
    simpa [kinds, OpenBlocks.opened, List.getLast?_cons] using this
  distinct b mem := by
    rcases List.mem_cons.mp mem with rfl | mem
    · exact List.nodup_nil
    · exact sound.distinct b mem

theorem Sound.update {s : OpenBlocks} (sound : s.Sound) {f : OpenBlock → OpenBlock}
    (kind : (f s.current).kind = s.current.kind) (names : (f s.current).names = s.current.names) :
    (s.update f).Sound where
  rooted := by
    have := sound.rooted
    simpa [kinds, OpenBlocks.update, kind] using this
  distinct b mem := by
    rcases List.mem_cons.mp mem with rfl | mem
    · simpa [OpenBlocks.update, names] using sound.distinct _ List.mem_cons_self
    · exact sound.distinct b (List.mem_cons_of_mem _ mem)

end OpenBlocks

open OpenBlocks

/-- Mentions that leave every block that they enter make the blocks around them grow, by what they
bind. -/
theorem Balanced.grown {c later : Bool} {ms : List Mention} (h : Balanced c ms)
    {lost : String → Prop} {s t : OpenBlocks} (sound : s.Sound)
    (free : c = true → s.current.inTarget = false) (bound : ∀ m ∈ ms, ∀ n, m.Binds n → lost n)
    (ok : s.read later ms = .ok t) : s.Grown lost t := by
  induction h generalizing s t with
  | nil =>
    cases ok
    exact .refl sound
  | name id u l =>
    rw [read_one] at ok
    exact .name sound (fun ne =>
      bound _ List.mem_cons_self _ ⟨id, _, by simp [Mention.bound?, ne], rfl⟩) ok
  | annotate id simple hasValue l statement =>
    rw [read_one] at ok
    obtain ⟨-, after⟩ := step_annotate_eq_ok.mp ok
    have binds (named : (Mention.annotate id simple hasValue l statement).bound? = some id) :
        lost (privateName s.current.className id) :=
      bound _ List.mem_cons_self _ ⟨id, _, named, rfl⟩
    cases simple with
    | true => exact .touch sound (fun _ => binds rfl) after
    | false =>
      cases hasValue with
      | true => exact .touch sound (fun _ => binds rfl) after
      | false =>
        obtain rfl : t = s := after
        exact .refl sound
  | rebind id l whole =>
    rw [read_one] at ok
    exact .rebind sound (bound _ List.mem_cons_self _ ⟨id, _, rfl, rfl⟩) ok
  | bareOnly what l =>
    simp only [read_one, step] at ok
    split at ok
    · cases ok
    · cases ok
      exact .refl sound
  | yields l =>
    simp only [read_one, step] at ok
    split at ok
    · cases ok
    · cases ok
      exact .refl sound
  | suspends =>
    cases ok
    exact .refl sound
  | append first second ih ih' =>
    obtain ⟨u, ok, ok'⟩ := read_append_eq_ok.mp ok
    have grown := ih sound free (fun m mem => bound m (List.mem_append_left _ mem)) ok
    exact grown.trans (ih' (grown.sound sound) (fun h => grown.current.inTarget.trans (free h))
      (fun m mem => bound m (List.mem_append_right _ mem)) ok')
  | @block c kind ms named inner ih =>
    have opens : Opens later kind := by simp [Opens, named]
    obtain ⟨u, inside, rfl⟩ := (read_block_eq_ok opens).mp ok
    exact .closed (ih (sound.opened kind) (fun _ => rfl) (fun m mem => bound m (by simp [mem]))
      inside)
  | @hint c ms inner ih =>
    have bound : ∀ m ∈ ms, ∀ n, m.Binds n → lost n := fun m mem =>
      bound m (by simp [annotationMentions, mem])
    cases later with
    | true =>
      have opens : Opens true .hint := rfl
      obtain ⟨u, inside, rfl⟩ := (read_block_eq_ok opens).mp ok
      exact .closed (ih (sound.opened .hint) (fun _ => rfl) bound inside)
    | false =>
      -- Annotations that are evaluated belong to the block where they stand.
      obtain ⟨_, ⟨⟩, ok⟩ := read_cons_eq_ok.mp ok
      obtain ⟨u, inside, last⟩ := read_append_eq_ok.mp ok
      rw [read_one, step_leave_hint] at last
      cases last
      exact ih sound free bound inside
  | @source c ms inner ih =>
    obtain ⟨_, ⟨⟩, ok⟩ := read_cons_eq_ok.mp ok
    obtain ⟨u, inside, last⟩ := read_append_eq_ok.mp ok
    rw [read_one] at last
    cases last
    have sound' : (s.update fun b => { b with sources := b.sources + 1 }).Sound :=
      sound.update rfl rfl
    have grown := ih sound' free (fun m mem => bound m (by simp [mem])) inside
    exact ⟨{ grown.current with sources := by simp [update, grown.current.sources] },
      grown.around⟩
  | @target ms inner ih =>
    obtain ⟨_, ⟨⟩, ok⟩ := read_cons_eq_ok.mp ok
    obtain ⟨u, inside, last⟩ := read_append_eq_ok.mp ok
    rw [read_one] at last
    cases last
    have sound' : (s.update fun b => { b with inTarget := true }).Sound := sound.update rfl rfl
    have grown := ih sound' (absurd · Bool.false_ne_true) (fun m mem => bound m (by simp [mem]))
      inside
    exact ⟨{ grown.current with inTarget := (free rfl).symm }, grown.around⟩

end RuleBench.Script
