import RuleBench.Proofs.Desk.Mirror.Event
import RuleBench.Proofs.Desk.Mirror.Other

/-!
# Editors alone at a desk

A history of moves without those of other editors (`alone`) is what an editor would have gone
through alone: its own operations and the turns of its own events, in the same order. The main
statement compares the two. What an editor shows is the same after either, and its runs tell the
same on the way, as long as the runs of others leave worlds behind in which its own runs cannot tell
the difference (`Traceless`).
-/

namespace RuleBench

variable {σ ρ ν η ε γ : Type}

/-- A run that goes past its compilation: its editor, its request and its artifact. -/
structure PassingRun where
  editor : Nat
  request : Nat
  artifact : Artifact

/-- The same run on the two desks. -/
structure PassingRun.Mirrors (n : Nat) (r r' : PassingRun) : Prop where
  editor : r.editor = n
  editor' : r'.editor = n
  request : r'.request = r.request
  artifact : r.artifact.Mirrors r'.artifact

namespace Desk

/-- The run that goes past its compilation when an event happens. -/
def passingOn? (d : Desk σ ρ ν ε) : Event → Option PassingRun
  | .run i => match d.call? i with
    | some ⟨n, .awaiting _ request run, _⟩ =>
      (run.passing? d.gateOpen).map fun a => ⟨n, request, a⟩
    | _ => none
  | _ => none

/-- The run that goes past its compilation with a move. -/
def passing? (d : Desk σ ρ ν ε) (m : Move σ) : Option PassingRun := (d.act m).bind d.passingOn?

/-- What is left of a move for an editor that is alone: calls and events have other places then. -/
def alone? (n : Nat) (d : Desk σ ρ ν ε) : Move σ → Option (Move σ)
  | .turn place => match d.act (.turn place : Move σ) with
    | some e =>
      if e.site d = some n then
        some (.turn ((d.ready.take place).countP fun e => e.site d = some n))
      else none
    | none => none
  | .cancel i => (d.rank n i).map .cancel
  | m => match d.owner m with
    | some k => if k = n then some m else none
    | none => some m

section Histories

variable (p : Bench) (host : ScriptHost σ ρ ν η ε) (seen : σ → Outcome ρ ν → γ) (n : Nat)

/-- The history of an editor that is alone. -/
def alone : Desk σ ρ ν ε → List (Move σ) → List (Move σ)
  | _, [] => []
  | d, m :: ms => (d.alone? n m).toList ++ alone (d.move p host m) ms

/-- The artifacts of the runs of an editor that go past their compilations in a history. -/
def artifacts : Desk σ ρ ν ε → List (Move σ) → List Artifact
  | _, [] => []
  | d, m :: ms =>
    (((d.passing? m).filter (·.editor = n)).map PassingRun.artifact).toList ++
      artifacts (d.move p host m) ms

/-- What the runs of an editor tell in a history, with the numbers of their requests. -/
def accounts : Desk σ ρ ν ε → List (Move σ) → List (Nat × Account γ)
  | _, [] => []
  | d, m :: ms =>
    (((d.passing? m).filter (·.editor = n)).map fun r =>
      (r.request, Bench.account host seen (p.conclude host r.artifact d.generator d.world))).toList ++
      accounts (d.move p host m) ms

/-- The runs of all other editors leave worlds behind in which the runs of the editor that are
still to come tell what they would have told before. -/
def Traceless : Desk σ ρ ν ε → List (Move σ) → Prop
  | _, [] => True
  | d, m :: ms =>
    (∀ r ∈ d.passing? m, r.editor ≠ n →
      p.Indistinct host seen (artifacts p host n (d.move p host m) ms) d.world
        (d.move p host m).world) ∧
      Traceless (d.move p host m) ms

instance [DecidableEq γ] (d : Desk σ ρ ν ε) (ms : List (Move σ)) :
    Decidable (Traceless p host seen n d ms) :=
  match ms with
  | [] => isTrue trivial
  | m :: ms =>
    have := instDecidableTracelessOfDecidableEq (d.move p host m) ms
    inferInstanceAs (Decidable (_ ∧ _))

end Histories

variable {p : Bench} {host : ScriptHost σ ρ ν η ε} {seen : σ → Outcome ρ ν → γ}
  {d d' : Desk σ ρ ν ε} {n : Nat} {m m' : Move σ} {e e' : Event} {r : PassingRun}

/-! ### Runs that go past their compilations -/

theorem passingOn?_eq_some : d.passingOn? e = some r ↔ ∃ i uri run asked, e = .run i ∧
    d.call? i = some ⟨r.editor, .awaiting uri r.request run, asked⟩ ∧
      run.passing? d.gateOpen = some r.artifact := by
  constructor
  · intro passes
    cases e with
    | run i =>
      simp only [passingOn?] at passes
      split at passes
      · next n uri request run asked found =>
        obtain ⟨a, passing, rfl⟩ := Option.map_eq_some_iff.mp passes
        exact ⟨i, uri, run, asked, rfl, found, passing⟩
      · cases passes
    | _ => cases passes
  · rintro ⟨i, uri, run, asked, rfl, found, passing⟩
    simp [passingOn?, found, passing]

/-- The world that a run leaves which goes past its compilation. -/
theorem world_react_of_passing (passes : d.passingOn? e = some r) :
    (d.react p host e).world = p.left host r.artifact d.world := by
  have concluded (d : Desk σ ρ ν ε) (i n : Nat) (uri : String) (request : Nat) (a : Artifact) :
      (d.conclude p host i n uri request a).world = p.left host a d.world := by
    have same : (p.conclude host a d.generator d.world).2.2 = p.left host a d.world :=
      Bench.left_conclude (.refl a) d.generator d.world
    unfold conclude
    dsimp only
    split
    · exact (alike_followUp _ _).world.trans same
    · split <;> exact same
  obtain ⟨i, uri, run, asked, rfl, found, passing⟩ := passingOn?_eq_some.mp passes
  simp only [react, advanceRun, found]
  cases run with
  | lowered a =>
    cases isOpen : d.gateOpen with
    | false => simp [RunPhase.passing?, isOpen] at passing
    | true =>
      obtain rfl : a = r.artifact := by simpa [RunPhase.passing?, isOpen] using passing
      have isOpen : (d.note (Buffers.finishNotes r.artifact)).gateOpen = true := isOpen
      dsimp only
      rw [isOpen, if_pos rfl]
      exact concluded _ _ _ _ _ _
  | released a =>
    obtain rfl : a = r.artifact := by simpa [RunPhase.passing?] using passing
    exact concluded _ _ _ _ _ _
  | _ => cases passing

theorem world_move_of_passing (p : Bench) (host : ScriptHost σ ρ ν η ε)
    (passes : d.passing? m = some r) :
    (d.move p host m).world = p.left host r.artifact d.world := by
  obtain ⟨e, acts, passes⟩ := Option.bind_eq_some_iff.mp passes
  obtain ⟨ready, same⟩ := move_of_act (η := η) acts
  rw [same]
  exact world_react_of_passing (d := { d with ready }) passes

/-- A move with which no run goes past its compilation leaves the world alone, unless it changes the
world from outside. -/
theorem world_move_of_not_passing (p : Bench) (host : ScriptHost σ ρ ν η ε)
    (waits : d.passing? m = none) (inside : ∀ world, m ≠ .world world) :
    (d.move p host m).world = d.world := by
  refine world_move p host ?_
  rintro (⟨world, rfl⟩ | ⟨i, a, e, acts, passes⟩)
  · exact inside world rfl
  · cases passes with
    | intro found passing =>
      simp [passing?, acts, passingOn?, found, passing] at waits

section Cons

variable {ms : List (Move σ)}

theorem artifacts_of_waiting (waits : d.passing? m = none) :
    artifacts p host n d (m :: ms) = artifacts p host n (d.move p host m) ms := by
  simp [artifacts, waits]

theorem artifacts_of_own (passes : d.passing? m = some r) (own : r.editor = n) :
    artifacts p host n d (m :: ms) = r.artifact :: artifacts p host n (d.move p host m) ms := by
  simp [artifacts, passes, Option.filter, own]

theorem artifacts_of_foreign (passes : d.passing? m = some r) (foreign : r.editor ≠ n) :
    artifacts p host n d (m :: ms) = artifacts p host n (d.move p host m) ms := by
  simp [artifacts, passes, foreign]

theorem accounts_of_waiting (waits : d.passing? m = none) :
    accounts p host seen n d (m :: ms) = accounts p host seen n (d.move p host m) ms := by
  simp [accounts, waits]

theorem accounts_of_own (passes : d.passing? m = some r) (own : r.editor = n) :
    accounts p host seen n d (m :: ms) =
      (r.request, Bench.account host seen (p.conclude host r.artifact d.generator d.world)) ::
        accounts p host seen n (d.move p host m) ms := by
  simp [accounts, passes, Option.filter, own]

theorem accounts_of_foreign (passes : d.passing? m = some r) (foreign : r.editor ≠ n) :
    accounts p host seen n d (m :: ms) = accounts p host seen n (d.move p host m) ms := by
  simp [accounts, passes, foreign]

end Cons

/-! ### One move -/

namespace Mirrors

theorem passingOn? (h : d.Mirrors n d') (same : e.mirrored n (d.rank n) = some e') :
    Option.Rel (PassingRun.Mirrors n) (d.passingOn? e) (d'.passingOn? e') := by
  cases e with
  | run i =>
    obtain ⟨j, own, rfl⟩ := Option.map_eq_some_iff.mp same
    obtain ⟨⟨m, phase, asked⟩, found, rfl⟩ := exists_call?_of_rank own
    obtain ⟨⟨m', phase', asked'⟩, found', like⟩ := h.calls i j _ own found
    obtain rfl : m' = m := like.editor
    have phases : phase.Mirrors phase' := like.phase
    simp only [Desk.passingOn?, found, found']
    cases phases with
    | scheduled => exact .none
    | ended outcomes => exact .none
    | awaiting uri uri' request runs =>
      cases runs with
      | lowered artifacts =>
        simp only [RunPhase.passing?, h.gateOpen]
        split
        · exact .some ⟨rfl, rfl, rfl, artifacts⟩
        · exact .none
      | released artifacts => exact .some ⟨rfl, rfl, rfl, artifacts⟩
      | _ => exact .none
  | call i =>
    obtain ⟨j, -, rfl⟩ := Option.map_eq_some_iff.mp same
    exact .none
  | lowering i =>
    obtain ⟨j, -, rfl⟩ := Option.map_eq_some_iff.mp same
    exact .none
  | command k command =>
    simp only [Event.mirrored] at same
    split at same
    · cases same
      exact .none
    · cases same

/-- The place of an event among those of its editor. -/
theorem act_turn (h : d.Mirrors n d') {place : Nat} (acts : d.act (.turn place : Move σ) = some e)
    (same : e.mirrored n (d.rank n) = some e') :
    d'.act (.turn ((d.ready.take place).filterMap (Event.mirrored n (d.rank n))).length : Move σ) =
      some e' := by
  simp only [act] at acts ⊢
  split at acts
  · cases acts
  · next going =>
    have going : d.interrupt = none := by simpa using going
    rw [h.going going, h.ready going]
    exact getElem?_filterMap acts same

/-- The editor's own turn. -/
theorem turn (h : d.Mirrors n d') (sound : d.Sound p host) (sound' : d'.Sound p host)
    {place : Nat} (acts : d.act (.turn place : Move σ) = some e)
    (same : e.mirrored n (d.rank n) = some e')
    (agree : ∀ i a a', d.PassesOn i a e → a.Mirrors a' →
      Bench.Agree host (p.conclude host a d.generator d.world)
        (p.conclude host a' d'.generator d'.world)) :
    (d.turn p host place).Mirrors n (d'.turn p host
      ((d.ready.take place).filterMap (Event.mirrored n (d.rank n))).length) := by
  have acts' := h.act_turn acts same
  simp only [act] at acts acts'
  split at acts
  · cases acts
  · next going =>
    split at acts'
    · cases acts'
    · next going' =>
      have going : d.interrupt.isSome = false := by simpa using going
      have going' : d'.interrupt.isSome = false := by simpa using going'
      have taken := h.takeBoth acts same
      simp only [Desk.turn, acts, acts', handle, going, going']
      exact taken.react (sound.taken _) (sound'.taken _) same fun i a a' passes =>
        agree i a a' (by cases passes with | intro found passing => exact .intro found passing)

/-- A turn after an interrupt, or of no event, does nothing. -/
theorem turn_of_quiet (h : d.Mirrors n d') {place : Nat}
    (quiet : d.act (.turn place : Move σ) = none) : (d.turn p host place).Mirrors n d' := by
  simp only [act] at quiet
  unfold Desk.turn
  split
  · next e found =>
    split at quiet
    · next stopped =>
      simp only [handle, stopped, if_true]
      exact ⟨h.editor, h.editors, h.buffer, h.count, h.calls,
        fun e member => h.known e (List.mem_of_mem_eraseIdx member),
        fun going => by
          have going : d.interrupt = none := going
          simp [going] at stopped,
        h.going, h.gateOpen, h.afterRun⟩
    · rw [found] at quiet
      cases quiet
  · exact h

end Mirrors

/-- What a move does to a desk and to the one that mirrors it: what is left of the move is made on
both, and the same run goes past its compilation; or the move belongs to others and is made on the
first desk alone. -/
inductive Parallel (p : Bench) (host : ScriptHost σ ρ ν η ε) (n : Nat) (d d' : Desk σ ρ ν ε)
    (m : Move σ) : Prop
  | both (m' : Move σ) (alone : d.alone? n m = some m')
      (mirrors : (d.move p host m).Mirrors n (d'.move p host m'))
      (passing : Option.Rel (PassingRun.Mirrors n) (d.passing? m) (d'.passing? m'))
      (world : ∀ world, m = .world world ↔ m' = .world world)
  | first (alone : d.alone? n m = none) (mirrors : (d.move p host m).Mirrors n d')
      (passing : ∀ r ∈ d.passing? m, r.editor ≠ n) (world : ∀ world, m ≠ .world world)

/-- The run that goes past its compilation is one of the editor that the move belongs to. -/
theorem editor_of_passing {k : Nat} (owned : d.owner m = some k) (passes : d.passing? m = some r) :
    r.editor = k := by
  obtain ⟨e, acts, passes⟩ := Option.bind_eq_some_iff.mp passes
  obtain ⟨i, uri, run, asked, rfl, found, -⟩ := passingOn?_eq_some.mp passes
  have site := site_of_act owned acts
  simpa [Event.site, found] using site

theorem countP_site (es : List Event) (d : Desk σ ρ ν ε) (n : Nat) :
    es.countP (fun e => e.site d = some n) = (es.filterMap (Event.mirrored n (d.rank n))).length := by
  rw [List.length_filterMap_eq_countP]
  refine List.countP_congr fun e _ => ?_
  rw [isSome_mirrored, decide_eq_true_iff]

namespace Mirrors

/-- A move that belongs to another editor. -/
theorem parallel_of_foreign {k : Nat} (h : d.Mirrors n d') (sound : d.Sound p host)
    (owned : d.owner m = some k) (other : n ≠ k) (alone : d.alone? n m = none) :
    d.Parallel p host n d' m := by
  refine .first alone (h.foreign sound owned other) (fun r passes => ?_) ?_
  · rw [editor_of_passing owned passes]
    exact other.symm
  · rintro world rfl
    cases owned

/-- A move that no run goes past its compilation with, and that is made on both desks as it is. -/
theorem parallel_of_same (mirrors : (d.move p host m).Mirrors n (d'.move p host m))
    (alone : d.alone? n m = some m) (waits : d.passing? m = none) (waits' : d'.passing? m = none) :
    d.Parallel p host n d' m :=
  .both m alone mirrors (by rw [waits, waits']; exact .none) fun _ => Iff.rfl

theorem parallel_turn (h : d.Mirrors n d') (sound : d.Sound p host) (sound' : d'.Sound p host)
    (place : Nat)
    (agree : ∀ r ∈ d.passing? (.turn place : Move σ), r.editor = n → ∀ a', r.artifact.Mirrors a' →
      Bench.Agree host (p.conclude host r.artifact d.generator d.world)
        (p.conclude host a' d'.generator d'.world)) :
    d.Parallel p host n d' (.turn place) := by
  cases acts : d.act (.turn place : Move σ) with
  | none =>
    refine .first (by simp [alone?, acts]) (h.turn_of_quiet acts) ?_ (fun _ same => by cases same)
    intro r passes
    simp [passing?, acts] at passes
  | some e =>
    by_cases site : e.site d = some n
    · obtain ⟨e', same⟩ := Option.isSome_iff_exists.mp (isSome_mirrored.mpr site)
      have acts' := h.act_turn acts same
      refine .both (.turn ((d.ready.take place).filterMap (Event.mirrored n (d.rank n))).length)
        (by simp [alone?, acts, site, countP_site]) (h.turn sound sound' acts same ?_) ?_
        (fun _ => by simp)
      · rintro i a a' ⟨found, passing⟩ like
        rename_i k request uri run asked
        have here : k = n := by simpa [Event.site, found] using site
        have passes : d.passing? (.turn place : Move σ) = some ⟨k, request, a⟩ :=
          Option.bind_eq_some_iff.mpr ⟨.run i, acts,
            passingOn?_eq_some.mpr ⟨i, uri, run, asked, rfl, found, passing⟩⟩
        exact agree _ passes here a' like
      · simp only [passing?, acts, acts', Option.bind_some]
        exact h.passingOn? same
    · have member : e ∈ d.ready := by
        simp only [act] at acts
        split at acts
        · cases acts
        · exact List.mem_of_getElem? acts
      obtain ⟨k, here⟩ := Option.isSome_iff_exists.mp (h.known e member)
      have owned : d.owner (.turn place : Move σ) = some k := by
        simp only [act] at acts
        split at acts
        · cases acts
        · simp [owner, acts, here]
      refine h.parallel_of_foreign sound owned ?_ (by simp [alone?, acts, site])
      rintro rfl
      exact site here

theorem parallel (h : d.Mirrors n d') (sound : d.Sound p host) (sound' : d'.Sound p host)
    (closed : ∀ uri text, m ≠ .update uri text)
    (agree : ∀ r ∈ d.passing? m, r.editor = n → ∀ a', r.artifact.Mirrors a' →
      Bench.Agree host (p.conclude host r.artifact d.generator d.world)
        (p.conclude host a' d'.generator d'.world)) : d.Parallel p host n d' m := by
  cases m with
  | turn place => exact h.parallel_turn sound sound' place agree
  | command k command =>
    by_cases own : k = n
    · subst own
      exact parallel_of_same (h.perform p command) (by simp [alone?, owner]) rfl rfl
    · exact h.parallel_of_foreign sound rfl (Ne.symm own) (by simp [alone?, owner, own])
  | save k name freshKey =>
    by_cases own : k = n
    · subst own
      exact parallel_of_same (h.save p host name freshKey) (by simp [alone?, owner]) rfl rfl
    · exact h.parallel_of_foreign sound rfl (Ne.symm own) (by simp [alone?, owner, own])
  | start k =>
    by_cases own : k = n
    · subst own
      exact parallel_of_same h.startCall (by simp [alone?, owner]) rfl rfl
    · exact h.parallel_of_foreign sound rfl (Ne.symm own) (by simp [alone?, owner, own])
  | cancel i =>
    cases own : d.rank n i with
    | some j =>
      exact .both (.cancel j) (by simp [alone?, own]) (h.cancelCall own) .none fun _ => by simp
    | none =>
      have alone : d.alone? n (.cancel i : Move σ) = none := by simp [alone?, own]
      cases site : d.sites[i]? with
      | some k =>
        refine h.parallel_of_foreign sound site ?_ alone
        rintro rfl
        simp [rank, rankIn, site] at own
      | none =>
        have found : d.call? i = none := by simpa [getElem?_sites] using site
        have idle : d.move p host (.cancel i) = d := by simp [move, Desk.cancelCall, found]
        exact .first alone (idle.symm ▸ h) (fun r passes => by cases passes) (fun _ same => by cases same)
  | update uri text => exact absurd rfl (closed uri text)
  | world world =>
    refine parallel_of_same ?_ rfl rfl rfl
    exact h.of_sameLoop ⟨rfl, rfl, rfl, rfl, rfl, rfl⟩ ⟨rfl, rfl, rfl, rfl, rfl, rfl⟩ h.editor
      h.buffer
  | gate isOpen => exact parallel_of_same (h.setGate isOpen) rfl rfl rfl
  | afterRun command =>
    refine parallel_of_same ?_ rfl rfl rfl
    exact ⟨h.editor, h.editors, h.buffer, h.count, h.calls, h.known, h.ready, h.going, h.gateOpen,
      rfl⟩
  | advance seconds => exact parallel_of_same (h.advance seconds) rfl rfl rfl

/-- A desk on which nothing has happened yet mirrors itself. -/
theorem fresh (listening : List Bool) (buffers : Buffers) (opened : Nat) (generator : Generator)
    (world : σ) (n : Nat) :
    (fresh listening buffers opened generator world : Desk σ ρ ν ε).Mirrors n
      (Desk.fresh listening buffers opened generator world) := by
  obtain ⟨listening', same⟩ :=
    editor_fresh (ρ := ρ) (ν := ν) (ε := ε) listening buffers opened generator world n
  refine ⟨?_, rfl, rfl, rfl, ?_, ?_, fun _ => rfl, id, rfl, rfl⟩
  · rw [same]
    exact ⟨rfl, rfl, .none, .none, rfl⟩
  · intro i j c own found
    cases found
  · intro e member
    cases member

/-- A history and what is left of it for one editor lead to desks of which the second mirrors the
first, and the runs of the editor tell the same on the way. -/
theorem after (h : d.Mirrors n d') (reachable : Reachable p host d)
    (reachable' : Reachable p host d') {ms : List (Move σ)}
    (closed : ∀ uri text, .update uri text ∉ ms) (traceless : Traceless p host seen n d ms)
    (indistinct : p.Indistinct host seen (artifacts p host n d ms) d.world d'.world) :
    accounts p host seen n d ms = accounts p host seen n d' (alone p host n d ms) ∧
      (d.after p host ms).Mirrors n (d'.after p host (alone p host n d ms)) := by
  induction ms generalizing d d' with
  | nil => exact ⟨rfl, h⟩
  | cons m ms ih =>
    have closed' : ∀ uri text, Move.update uri text ∉ ms := fun uri text member =>
      closed uri text (List.mem_cons_of_mem _ member)
    have stays (uri text : String) : m ≠ .update uri text := by
      rintro rfl
      exact closed uri text List.mem_cons_self
    have agree (r : PassingRun) (passes : r ∈ d.passing? m) (own : r.editor = n) (a' : Artifact)
        (like : r.artifact.Mirrors a') :
        Bench.Agree host (p.conclude host r.artifact d.generator d.world)
          (p.conclude host a' d'.generator d'.world) := by
      rw [artifacts_of_own passes own] at indistinct
      exact .of_told like _ _ indistinct.1
    cases h.parallel reachable.sound reachable'.sound stays agree with
    | both m' left mirrors passing world =>
      have rest := ih mirrors (reachable.move m) (reachable'.move m') closed' traceless.2
      have split : alone p host n d (m :: ms) = m' :: alone p host n (d.move p host m) ms := by
        simp [alone, left]
      rw [split]
      cases passes : d.passing? m with
      | none =>
        rw [passes] at passing
        cases passes' : d'.passing? m' with
        | some r' => rw [passes'] at passing; cases passing
        | none =>
          rw [accounts_of_waiting passes, accounts_of_waiting passes']
          rw [artifacts_of_waiting passes] at indistinct
          refine rest ?_
          by_cases changes : ∃ world, m = .world world
          · obtain ⟨world', rfl⟩ := changes
            obtain rfl := (world world').mp rfl
            exact .refl _ _
          · have same := world_move_of_not_passing p host passes fun world same =>
              changes ⟨world, same⟩
            have same' := world_move_of_not_passing p host passes' fun world' same =>
              changes ⟨world', (world world').mpr same⟩
            rwa [same, same']
      | some r =>
        rw [passes] at passing
        cases passes' : d'.passing? m' with
        | none => rw [passes'] at passing; cases passing
        | some r' =>
          rw [passes'] at passing
          cases passing with
          | some like =>
            rw [artifacts_of_own passes like.editor] at indistinct
            have told := indistinct.1
            have told' : Bench.account host seen
                (p.conclude host r'.artifact d'.generator d'.world) =
                  p.told host seen r.artifact d'.world := Bench.account_conclude like.artifact _ _
            have told'' : Bench.account host seen
                (p.conclude host r.artifact d.generator d.world) =
                  p.told host seen r.artifact d.world := Bench.account_conclude (.refl _) _ _
            have left' : p.left host r'.artifact d'.world = p.left host r.artifact d'.world :=
              Bench.left_conclude like.artifact _ _
            have worlds := indistinct.2
            rw [← world_move_of_passing p host passes, ← left',
              ← world_move_of_passing p host passes'] at worlds
            obtain ⟨same, final⟩ := rest worlds
            rw [accounts_of_own passes like.editor, accounts_of_own passes' like.editor', same,
              told', told'', told, like.request]
            exact ⟨rfl, final⟩
    | first left mirrors passing world =>
      have rest := ih mirrors (reachable.move m) reachable' closed' traceless.2
      have split : alone p host n d (m :: ms) = alone p host n (d.move p host m) ms := by
        simp [alone, left]
      rw [split]
      cases passes : d.passing? m with
      | none =>
        rw [accounts_of_waiting passes]
        rw [artifacts_of_waiting passes] at indistinct
        exact rest ((world_move_of_not_passing p host passes world).symm ▸ indistinct)
      | some r =>
        have foreign := passing r passes
        rw [accounts_of_foreign passes foreign]
        rw [artifacts_of_foreign passes foreign] at indistinct
        exact rest ((traceless.1 r passes foreign).symm.trans indistinct)

end Mirrors

/-- Editors that share a desk do not disturb each other. Whatever belongs to one of them leaves every
other one untouched, on every desk that moves lead to. And in every history in which texts are
replaced by their editors only, the runs of an editor tell what they would have told without all
others, samples apart, and it comes to show the same and its calls to answer the same; scripts of
others must leave no trace in the world that its own scripts could see. -/
theorem editors_undisturbed (p : Bench) (host : ScriptHost σ ρ ν η ε)
    (seen : σ → Outcome ρ ν → γ) :
    (∀ (d : Desk σ ρ ν ε) (m : Move σ) (k n : Nat), Reachable p host d → d.owner m = some k →
      n ≠ k → d.Untouched n (d.move p host m)) ∧
    ∀ (listening : List Bool) (buffers : Buffers) (opened : Nat) (generator : Generator) (world : σ)
      (n : Nat) (ms : List (Move σ)), (∀ uri text, .update uri text ∉ ms) →
      let start : Desk σ ρ ν ε := fresh listening buffers opened generator world
      Traceless p host seen n start ms →
        accounts p host seen n start ms =
          accounts p host seen n start (alone p host n start ms) ∧
        (start.after p host ms).Mirrors n (start.after p host (alone p host n start ms)) := by
  refine ⟨fun d m k n reachable owned other => reachable.untouched_of_owner owned other, ?_⟩
  intro listening buffers opened generator world n ms closed start traceless
  have reachable : Reachable p host start := .fresh listening buffers opened generator world
  exact (Mirrors.fresh listening buffers opened generator world n).after reachable reachable closed
    traceless (.refl _ _)

/-! ### Two editors at work -/

/-- A desk with two editors, and with one trace of one span in its world. -/
def sharedDesk : Desk Execution.Scene Execution.LiveRecord Execution.Value Execution.Value :=
  fresh [true, true] {} 0 (.ofSeed 0)
    (.ofTraces (Trace.sample (.str "t1") [.str "checkout"]).toOption.toList)

/-- A script that keeps a list of what it has grouped. -/
def rememberingScript : String :=
  "seen = []\ndef groupBy(span, trace):\n    seen.append(span)\n    return ('b', span.id)\n"

/-- Both editors open a rule and test it at the same time. -/
def sharedTests : List (Move Execution.Scene) :=
  [.command 0 (.open (some ⟨"key", "name", rememberingScript, ""⟩)),
    .command 1 (.open (some ⟨"key", "name", groupingScript, ""⟩)), .start 0, .start 1] ++
    List.replicate 10 (.turn 0)

/-- What is seen of an outcome whose value is a pair of texts. -/
def seenPair (s : Execution.Scene) (o : Outcome Execution.LiveRecord Execution.Value) :
    String × List String :=
  (s.memory.world.identifier o.record.span, match o.value with
    | .tuple vs => vs.filterMap s.memory.world.text?
    | _ => [])

/-- Two rules that are tested at the same time are reported on as if each were alone. -/
theorem shared_tests_undisturbed :
    accounts sampleBench Execution.host seenPair 1 sharedDesk sharedTests =
        accounts sampleBench Execution.host seenPair 1 sharedDesk
          (alone sampleBench Execution.host 1 sharedDesk sharedTests) ∧
      (sharedDesk.after sampleBench Execution.host sharedTests).Mirrors 1
        (sharedDesk.after sampleBench Execution.host
          (alone sampleBench Execution.host 1 sharedDesk sharedTests)) :=
  (editors_undisturbed sampleBench Execution.host seenPair).2 [true, true] {} 0 (.ofSeed 0) _ 1
    sharedTests (by simp [sharedTests]) (by decide +kernel)

end Desk

end RuleBench
