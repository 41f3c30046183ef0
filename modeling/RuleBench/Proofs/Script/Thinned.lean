import RuleBench.Proofs.Script.Fates
import RuleBench.Proofs.Script.Growth

/-!
# Reading what lowering leaves

The mentions that lowering leaves of a script are accepted if all of them are, and at every mention
that stays the open blocks compare as `Trimmed` says. A name that has lost its binding is one that a
mention which was left out had bound.
-/

namespace RuleBench.Script

namespace OpenBlocks

/-! ### Which blocks are open -/

theorem kinds_update (s : OpenBlocks) {f : OpenBlock → OpenBlock}
    (same : (f s.current).kind = s.current.kind) : (s.update f).kinds = s.kinds := by
  simp [kinds, update, same]

theorem kinds_touch {s t : OpenBlocks} {id : String} {u : Touch} {l : Region}
    (ok : s.touch id u l = .ok t) : t.kinds = s.kinds := by
  obtain ⟨-, rfl⟩ := touch_eq_ok.mp ok
  exact s.kinds_update rfl

theorem kinds_noteGlobal (n : String) (s : OpenBlocks) : (s.noteGlobal n).kinds = s.kinds := by
  obtain ⟨current, around⟩ := s
  rcases List.eq_nil_or_concat around with rfl | ⟨bs, outermost, rfl⟩
  · rfl
  · rw [List.concat_eq_append, noteGlobal_concat]
    simp [kinds]

theorem kinds_declared (s : OpenBlocks) (d : Declaration) (id : String) :
    (s.declared d id).kinds = s.kinds := by
  cases d with
  | global => exact (kinds_noteGlobal _ _).trans (s.kinds_update rfl)
  | nonlocal => exact s.kinds_update rfl

theorem kind_reboundBlock (n : String) (b : OpenBlock) : (reboundBlock n b).kind = b.kind := by
  simp only [reboundBlock]
  split <;> rfl

theorem kinds_sentOut (s : OpenBlocks) (depth : Nat) (target : OpenBlock) (id : String)
    (l : Region) : (s.sentOut depth target id l).kinds = s.kinds := by
  rw [← s.kinds_declared (rebindDeclaration target id) id]
  have same : ∀ (bs : List OpenBlock) (i : Nat) (n : String),
      (bs.modify i (reboundBlock n)).map OpenBlock.kind = bs.map OpenBlock.kind := by
    intro bs i n
    induction bs generalizing i with
    | nil => cases i <;> rfl
    | cons b bs ih => cases i <;> simp [List.modify_succ_cons, kind_reboundBlock, ih]
  simp [kinds, sentOut, update, OpenBlock.record, same]

/-- Only entering and leaving changes which blocks are open. -/
theorem kinds_step {s t : OpenBlocks} {later : Bool} {m : Mention} (flat : m.IsFlat)
    (ok : s.step later m = .ok t) : t.kinds = s.kinds := by
  cases m with
  | enter => exact flat.elim
  | leave => exact flat.elim
  | name id u l =>
    simp only [step, bind, Except.bind] at ok
    cases touched : s.touch id u l with
    | error f => simp [touched] at ok
    | ok v =>
      have same := kinds_touch touched
      simp only [touched] at ok
      split at ok
      · split at ok
        · exact (kinds_touch ok).trans same
        · exact (kinds_touch ok).trans same
        · cases ok
          exact same
      · cases ok
        exact same
  | declare d id l =>
    simp only [step, bind, Except.bind] at ok
    split at ok
    · cases ok
    · split at ok
      · cases ok
      · next declared =>
        obtain ⟨-, rfl⟩ := declare_eq_ok.mp declared
        cases ok
        exact (kinds_update _ rfl).trans (s.kinds_declared d id)
  | annotate id simple hasValue l statement =>
    obtain ⟨-, after⟩ := step_annotate_eq_ok.mp ok
    cases simple with
    | true => exact kinds_touch after
    | false =>
      cases hasValue with
      | true => exact kinds_touch after
      | false => exact congrArg kinds after
  | rebind id l whole =>
    simp only [step, rebind] at ok
    split at ok
    · cases ok
    · split at ok
      · obtain ⟨depth, -, ⟨-, rfl⟩ | ⟨target, -, -, rfl⟩⟩ := rebindOutside_eq_ok.mp ok
        · rfl
        · exact s.kinds_sentOut depth target id l
      · cases ok
        rfl
  | enterSource | leaveSource | enterTarget | leaveTarget =>
    cases ok
    exact s.kinds_update rfl
  | importAll =>
    simp only [step] at ok
    split at ok
    · cases ok
      rfl
    · cases ok
  | bareOnly | yields =>
    simp only [step] at ok
    split at ok
    · cases ok
    · cases ok
      rfl
  | suspends =>
    cases ok
    rfl

/-- The blocks that are open inside others; those of annotations are only there if annotations are
not evaluated. -/
def shown (later : Bool) (ks : List BlockKind) : List BlockKind :=
  ks.filter fun k => !(k == .hint && !later)

/-- The given blocks are open, inside the block of the whole script. -/
def Inside (later : Bool) (ks : List BlockKind) (s : OpenBlocks) : Prop :=
  s.kinds = shown later ks ++ [.module]

theorem Inside.sound {lost : String → Prop} {later : Bool} {ks : List BlockKind}
    {s s' : OpenBlocks} (inside : s.Inside later ks) (related : s.Trimmed lost s') : s.Sound where
  rooted := by rw [show s.kinds = _ from inside, List.getLast?_concat]
  distinct b mem := by
    obtain ⟨i, inside, rfl⟩ := List.getElem_of_mem mem
    have blocks := List.Forall₂.cons related.current related.around
    exact (blocks.get inside (blocks.length_eq ▸ inside)).table.distinct

theorem Inside.enter {later : Bool} {ks : List BlockKind} {s t : OpenBlocks} {kind : BlockKind}
    (inside : s.Inside later ks) (ok : s.step later (.enter kind) = .ok t) :
    t.Inside later (kind :: ks) := by
  by_cases opens : Opens later kind
  · rw [step_enter opens] at ok
    cases ok
    have same : s.kinds = shown later ks ++ [.module] := inside
    have first : shown later (kind :: ks) = kind :: shown later ks :=
      List.filter_cons_of_pos (by simpa [Opens, or_iff_not_imp_left] using opens)
    show kind :: s.kinds = _
    rw [same, first, List.cons_append]
  · obtain ⟨rfl, rfl⟩ : kind = .hint ∧ later = false := by simpa [Opens] using opens
    cases ok
    exact inside

theorem Inside.leave {later : Bool} {ks : List BlockKind} {s t : OpenBlocks} {kind : BlockKind}
    (inside : s.Inside later (kind :: ks)) (ok : s.step later (.leave kind) = .ok t) :
    t.Inside later ks := by
  by_cases opens : Opens later kind
  · rw [step_leave opens] at ok
    cases ok
    have same : s.kinds = shown later (kind :: ks) ++ [.module] := inside
    have first : shown later (kind :: ks) = kind :: shown later ks :=
      List.filter_cons_of_pos (by simpa [Opens, or_iff_not_imp_left] using opens)
    rw [first] at same
    obtain ⟨current, around⟩ := s
    obtain ⟨-, rest⟩ := List.cons.inj same
    cases around with
    | nil => simp at rest
    | cons outer bs => exact rest
  · obtain ⟨rfl, rfl⟩ : kind = .hint ∧ later = false := by simpa [Opens] using opens
    cases ok
    exact inside

theorem Inside.flat {later : Bool} {ks : List BlockKind} {s t : OpenBlocks} {m : Mention}
    (inside : s.Inside later ks) (flat : m.IsFlat) (ok : s.step later m = .ok t) :
    t.Inside later ks :=
  (kinds_step flat ok).trans inside

theorem Inside.settled {later : Bool} {ks : List BlockKind} {s : OpenBlocks}
    (inside : s.Inside later ks) (settled : ∀ k ∈ ks, k.isComprehension = false) :
    ∀ k ∈ s.kinds, k.isComprehension = false := by
  intro k mem
  rw [show s.kinds = _ from inside] at mem
  rcases List.mem_append.mp mem with inner | module
  · exact settled k (List.mem_of_mem_filter inner)
  · rw [List.mem_singleton.mp module]
    rfl

end OpenBlocks

open OpenBlocks

variable {lost : String → Prop} {later : Bool} {ks : List BlockKind} {fs : List Fate}

/-- What is left out can be read in between: the block only grows. -/
theorem OpenBlock.Trimmed.grown {b b' c : OpenBlock} (h : b.Trimmed lost b')
    (grown : b.Grown lost c) (settled : b.kind.isComprehension = false) : c.Trimmed lost b' where
  kind := h.kind.trans grown.kind.symm
  className := h.className.trans grown.className.symm
  sources := h.sources.trans grown.sources.symm
  inTarget := h.inTarget.trans grown.inTarget.symm
  table := by
    rw [grown.kind]
    exact (grown.table.mono fun inner => ⟨inner, settled⟩).trans h.table
  inside := by
    obtain ⟨more, inner⟩ := grown.inner
    rw [inner]
    exact h.inside.skipAll more

theorem OpenBlocks.Trimmed.grown {s s' t : OpenBlocks} (h : s.Trimmed lost s')
    (grown : s.Grown lost t) (settled : ∀ k ∈ s.kinds, k.isComprehension = false) :
    t.Trimmed lost s' where
  current := h.current.grown grown.current (settled _ List.mem_cons_self)
  around := by
    have inner : ∀ b ∈ s.around, b.kind.isComprehension = false := fun b mem =>
      settled _ (List.mem_cons_of_mem _ (List.mem_map_of_mem mem))
    have around := h.around
    have around' := grown.around
    generalize s.around = bs, s'.around = bs', t.around = cs at inner around around'
    induction around generalizing cs with
    | nil =>
      cases around'
      exact .nil
    | cons head rest ih =>
      cases around' with
      | cons head' rest' =>
        exact .cons (head.grown head' (inner _ List.mem_cons_self))
          (ih _ (fun b mem => inner b (List.mem_cons_of_mem _ mem)) rest')

/-! ### Reading in step -/

/-- Both readings get through these mentions, and their open blocks are comparable then. -/
structure Apace (lost : String → Prop) (later : Bool) (fs : List Fate)
    (s s' t t' : OpenBlocks) : Prop where
  whole : s.read later (fs.map Prod.fst) = .ok t
  left : s'.read later (fs.filterMap Prod.snd) = .ok t'
  trimmed : t.Trimmed lost t'

namespace Apace

variable {gs : List Fate} {s s' t t' u u' : OpenBlocks}

theorem refl (related : s.Trimmed lost s') : Apace lost later [] s s' s s' := ⟨rfl, rfl, related⟩

theorem append (h : Apace lost later fs s s' t t') (h' : Apace lost later gs t t' u u') :
    Apace lost later (fs ++ gs) s s' u u' where
  whole := by
    rw [List.map_append]
    exact read_append_eq_ok.mpr ⟨t, h.whole, h'.whole⟩
  left := by
    rw [List.filterMap_append]
    exact read_append_eq_ok.mpr ⟨t', h.left, h'.left⟩
  trimmed := h'.trimmed

/-- A mention that stays. -/
theorem one (related : s.Trimmed lost s') {m m' : Mention} (like : m.Like m')
    (ok : s.step later m = .ok t) : ∃ t', Apace lost later [(m, some m')] s s' t t' := by
  obtain ⟨t', ok', related⟩ := related.step later like ok
  exact ⟨t', (read_one _ _ _).trans ok, (read_one _ _ _).trans ok', related⟩

/-- Mentions that are left out. -/
theorem dropped (related : s.Trimmed lost s') {ms : List Mention} (balanced : Balanced false ms)
    (inside : s.Inside later ks) (settled : ∀ k ∈ ks, k.isComprehension = false)
    (bound : ∀ m ∈ ms, ∀ n, m.Binds n → lost n) (ok : s.read later ms = .ok t) :
    Apace lost later (dropped ms) s s' t s' ∧ t.Inside later ks := by
  have grown : s.Grown lost t := balanced.grown (inside.sound related) nofun bound ok
  refine ⟨⟨?_, ?_, related.grown grown (inside.settled settled)⟩, grown.kinds.trans inside⟩
  · rw [fst_dropped]
    exact ok
  · rw [snd_dropped]
    rfl

end Apace

theorem mem_dropped {m : Mention} {r : Option Mention} {ms : List Mention} :
    (m, r) ∈ dropped ms ↔ m ∈ ms ∧ r = none := by
  simp [dropped, eq_comm]

/-- Reading gets to what comes last of these mentions. -/
def Reaches (lost : String → Prop) (later : Bool) (pre post : List Fate) (s s' : OpenBlocks) :
    Prop :=
  ∃ ks u u', Apace lost later pre s s' u u' ∧ u.Inside later ks ∧ Thinned ks post

theorem Reaches.append {s s' u u' : OpenBlocks} {pre post : List Fate}
    (first : Apace lost later fs s s' u u') (next : Reaches lost later pre post u u') :
    Reaches lost later (fs ++ pre) post s s' := by
  obtain ⟨ks, v, v', further, inside, rest⟩ := next
  exact ⟨ks, v, v', first.append further, inside, rest⟩

/-- To what comes after one more mention, or to that mention itself. -/
theorem Reaches.cons {s s' u u' : OpenBlocks} {f : Fate} {pre post : List Fate}
    (here : s.Trimmed lost s' ∧ s.Inside later ks ∧ Thinned ks (f :: fs))
    (first : Apace lost later [f] s s' u u') (parts : f :: fs = pre ++ post)
    (next : ∀ pre, fs = pre ++ post → Reaches lost later pre post u u') :
    Reaches lost later pre post s s' := by
  rcases List.cons_eq_append_iff.mp parts with ⟨rfl, rfl⟩ | ⟨pre', rfl, parts'⟩
  · exact ⟨ks, s, s', .refl here.1, here.2⟩
  · exact .append first (next pre' parts')

/-- Up to a mention that stays, or up to the end, what is left can be read if all of it can. -/
theorem Thinned.reaches (h : Thinned ks fs) {s s' t : OpenBlocks} (related : s.Trimmed lost s')
    (inside : s.Inside later ks) (bound : ∀ m, (m, none) ∈ fs → ∀ n, m.Binds n → lost n)
    (ok : s.read later (fs.map Prod.fst) = .ok t) {pre post : List Fate} (parts : fs = pre ++ post)
    (stays : ∀ m, post.head? ≠ some (m, none)) : Reaches lost later pre post s s' := by
  induction h generalizing s s' pre with
  | done =>
    obtain ⟨rfl, rfl⟩ := List.append_eq_nil_iff.mp parts.symm
    exact ⟨_, s, s', .refl related, inside, .done⟩
  | keep flat like rest ih =>
    obtain ⟨u, head, behind⟩ := read_cons_eq_ok.mp ok
    obtain ⟨u', first⟩ := Apace.one related like head
    exact .cons ⟨related, inside, .keep flat like rest⟩ first parts fun pre parts =>
      ih first.trimmed (inside.flat flat head)
        (fun m mem => bound m (List.mem_cons_of_mem _ mem)) behind parts
  | @enter ks kind fs rest ih =>
    obtain ⟨u, head, behind⟩ := read_cons_eq_ok.mp ok
    obtain ⟨u', first⟩ := Apace.one related (.enter kind) head
    exact .cons ⟨related, inside, .enter rest⟩ first parts fun pre parts =>
      ih first.trimmed (inside.enter head)
        (fun m mem => bound m (List.mem_cons_of_mem _ mem)) behind parts
  | @leave ks kind fs rest ih =>
    obtain ⟨u, head, behind⟩ := read_cons_eq_ok.mp ok
    obtain ⟨u', first⟩ := Apace.one related (.leave kind) head
    exact .cons ⟨related, inside, .leave rest⟩ first parts fun pre parts =>
      ih first.trimmed (inside.leave head)
        (fun m mem => bound m (List.mem_cons_of_mem _ mem)) behind parts
  | @drop ks ms fs settled balanced rest ih =>
    rw [List.map_append, fst_dropped] at ok
    obtain ⟨u, first, behind⟩ := read_append_eq_ok.mp ok
    obtain ⟨apace, inside'⟩ := Apace.dropped related balanced inside settled
      (fun m mem => bound m (List.mem_append_left _ (mem_dropped.mpr ⟨mem, rfl⟩))) first
    have bound' : ∀ m, (m, none) ∈ fs → ∀ n, m.Binds n → lost n := fun m mem =>
      bound m (List.mem_append_right _ mem)
    -- What is left out ends before a mention that stays.
    rcases List.append_eq_append_iff.mp parts with ⟨pre', rfl, parts'⟩ | ⟨passed', parts', rfl⟩
    · exact .append apace (ih apace.trimmed inside' bound' behind parts')
    · cases passed' with
      | nil =>
        rw [List.append_nil] at parts'
        subst parts'
        exact ⟨ks, u, s', apace, inside', rest⟩
      | cons f passed' =>
        obtain ⟨m, r⟩ := f
        have mem : (m, r) ∈ dropped ms := parts' ▸ by simp
        obtain ⟨-, rfl⟩ := mem_dropped.mp mem
        exact absurd rfl (stays m)

/-- What is left of mentions that are accepted is accepted. -/
theorem Thinned.read (h : Thinned ks fs) {s s' t : OpenBlocks} (related : s.Trimmed lost s')
    (inside : s.Inside later ks) (bound : ∀ m, (m, none) ∈ fs → ∀ n, m.Binds n → lost n)
    (ok : s.read later (fs.map Prod.fst) = .ok t) : ∃ t', Apace lost later fs s s' t t' := by
  obtain ⟨ks', u, u', apace, -, -⟩ :=
    h.reaches related inside bound ok (List.append_nil fs).symm nofun
  obtain rfl : u = t := Except.ok.inj (apace.whole.symm.trans ok)
  exact ⟨u', apace⟩

theorem Mention.Like.unplaced {m m' n : Mention} (like : m.Like m') (same : m'.unplaced = n.unplaced) :
    m.Like n := by
  cases like <;> cases n <;> simp only [Mention.unplaced, reduceCtorEq] at same <;> cases same <;>
    constructor

/-- What is left may stand elsewhere. -/
theorem Thinned.relaid (h : Thinned ks fs) {ms : List Mention}
    (same : (fs.filterMap Prod.snd).map Mention.unplaced = ms.map Mention.unplaced) :
    ∃ gs, Thinned ks gs ∧ gs.map Prod.fst = fs.map Prod.fst ∧ gs.filterMap Prod.snd = ms ∧
      ∀ m, (m, none) ∈ gs → (m, none) ∈ fs := by
  induction h generalizing ms with
  | done => exact ⟨[], .done, rfl, (List.map_eq_nil_iff.mp same.symm).symm, by simp⟩
  | @keep ks m m' fs flat like rest ih =>
    obtain ⟨n, ms, rfl, head, behind⟩ := List.map_eq_cons_iff.mp same.symm
    obtain ⟨gs, thinned, whole, left, out⟩ := ih behind.symm
    refine ⟨(m, some n) :: gs, .keep flat (like.unplaced head.symm) thinned, ?_, ?_, ?_⟩
    · simp [whole]
    · simp [left]
    · simpa using out
  | @enter ks kind fs rest ih =>
    obtain ⟨n, ms, rfl, head, behind⟩ := List.map_eq_cons_iff.mp same.symm
    obtain ⟨gs, thinned, whole, left, out⟩ := ih behind.symm
    obtain rfl : n = .enter kind := by
      cases n <;> simp only [Mention.unplaced, reduceCtorEq, Mention.enter.injEq] at head
      rw [head]
    refine ⟨(.enter kind, some (.enter kind)) :: gs, .enter thinned, ?_, ?_, ?_⟩
    · simp [whole]
    · simp [left]
    · simpa using out
  | @leave ks kind fs rest ih =>
    obtain ⟨n, ms, rfl, head, behind⟩ := List.map_eq_cons_iff.mp same.symm
    obtain ⟨gs, thinned, whole, left, out⟩ := ih behind.symm
    obtain rfl : n = .leave kind := by
      cases n <;> simp only [Mention.unplaced, reduceCtorEq, Mention.leave.injEq] at head
      rw [head]
    refine ⟨(.leave kind, some (.leave kind)) :: gs, .leave thinned, ?_, ?_, ?_⟩
    · simp [whole]
    · simp [left]
    · simpa using out
  | @drop ks passed fs settled balanced rest ih =>
    rw [List.filterMap_append, snd_dropped, List.nil_append] at same
    obtain ⟨gs, thinned, whole, left, out⟩ := ih same
    refine ⟨dropped passed ++ gs, .drop settled balanced thinned, ?_, ?_, ?_⟩
    · simp [whole]
    · simp [left]
    · intro m mem
      exact List.mem_append.mpr ((List.mem_append.mp mem).imp_right (out m))

end RuleBench.Script
