import RuleBench.Proofs.Desk.Mirror.Operation

/-!
# What other editors do to a mirror

Nothing: a desk keeps mirroring another one in an editor whatever belongs to other editors on the
latter (`Mirrors.foreign`). The gate and the time belong to all editors alike.
-/

namespace RuleBench

variable {σ ρ ν η ε : Type} {p : Bench} {host : ScriptHost σ ρ ν η ε}

/-! ### Taking one thing off a list -/

section EraseIdx

variable {α β : Type} {f : α → Option β} {l : List α} {place : Nat} {a : α} {b : β}

theorem split_at (found : l[place]? = some a) :
    l = l.take place ++ a :: l.drop (place + 1) ∧
      l.eraseIdx place = l.take place ++ l.drop (place + 1) := by
  obtain ⟨inside, rfl⟩ := List.getElem?_eq_some_iff.mp found
  refine ⟨?_, List.eraseIdx_eq_take_drop_succ _ _⟩
  rw [← List.drop_eq_getElem_cons inside, List.take_append_drop]

theorem filterMap_eraseIdx_of_none (found : l[place]? = some a) (dropped : f a = none) :
    (l.eraseIdx place).filterMap f = l.filterMap f := by
  obtain ⟨whole, erased⟩ := split_at found
  conv_rhs => rw [whole]
  rw [erased, List.filterMap_append, List.filterMap_append, List.filterMap_cons_none dropped]

/-- The place of a thing among those that are kept. -/
theorem getElem?_filterMap (found : l[place]? = some a) (kept : f a = some b) :
    (l.filterMap f)[((l.take place).filterMap f).length]? = some b := by
  obtain ⟨whole, -⟩ := split_at found
  have split : l.filterMap f =
      (l.take place).filterMap f ++ b :: (l.drop (place + 1)).filterMap f := by
    conv_lhs => rw [whole]
    rw [List.filterMap_append, List.filterMap_cons_some kept]
  rw [split, List.getElem?_append_right (Nat.le_refl _), Nat.sub_self]
  rfl

theorem eraseIdx_filterMap (found : l[place]? = some a) (kept : f a = some b) :
    (l.filterMap f).eraseIdx ((l.take place).filterMap f).length =
      (l.eraseIdx place).filterMap f := by
  obtain ⟨whole, erased⟩ := split_at found
  have split : l.filterMap f =
      (l.take place).filterMap f ++ b :: (l.drop (place + 1)).filterMap f := by
    conv_lhs => rw [whole]
    rw [List.filterMap_append, List.filterMap_cons_some kept]
  rw [erased, List.filterMap_append, split, List.eraseIdx_append_of_length_le (Nat.le_refl _),
    Nat.sub_self]
  rfl

end EraseIdx

namespace Desk

namespace Mirrors

variable {d d' d₁ : Desk σ ρ ν ε} {k n : Nat} {i j : CallId} {e e' : Event} {m : Move σ}

/-- A step within another editor that leaves the editor and its calls alone. -/
theorem of_within (h : d.Mirrors n d') (within : d.Within k d₁) (other : n ≠ k)
    (editor : d₁.editor n = d.editor n) (buffer : d₁.openBuffer? n = d.openBuffer? n)
    (calls : ∀ i c, d.call? i = some c → c.editor ≠ k → d₁.call? i = some c) :
    d₁.Mirrors n d' := by
  obtain ⟨more, sites⟩ := within.sites
  obtain ⟨es, ready, own⟩ := within.ready
  have rank : d₁.rank n = d.rank n := by
    rw [Desk.rank, sites, rankIn_append_replicate other.symm]
    rfl
  refine ⟨?_, within.editors ▸ h.editors, buffer ▸ h.buffer, ?_, ?_, ?_, fun going => ?_,
    h.going ∘ within.interrupt, within.gateOpen ▸ h.gateOpen, within.afterRun ▸ h.afterRun⟩
  · rw [editor, rank]
    exact h.editor
  · rw [sites, List.count_append, List.count_replicate, h.count]
    simp [other.symm]
  · rw [rank]
    intro i j c here found
    obtain ⟨c₀, found₀, site⟩ := exists_call?_of_rank here
    have found' := calls i c₀ found₀ (site ▸ other)
    obtain rfl : c₀ = c := Option.some.inj (found'.symm.trans found)
    exact h.calls i j c₀ here found₀
  · rw [ready]
    intro e member
    rcases List.mem_append.mp member with before | new
    · exact isSome_site_of_sites sites (h.known e before)
    · exact Option.isSome_iff_exists.mpr ⟨k, own e new⟩
  · have dropped : es.filterMap (Event.mirrored n (d₁.rank n)) = [] := by
      refine List.filterMap_eq_nil_iff.mpr fun e member => ?_
      rw [← Option.not_isSome_iff_eq_none, isSome_mirrored, own e member]
      simpa using other.symm
    rw [ready, List.filterMap_append, dropped, List.append_nil, rank]
    exact h.ready (within.interrupt going)

theorem openBuffer?_congr {d d₁ : Desk σ ρ ν ε} (editor : d₁.editor n = d.editor n)
    (buffer : ∀ uri, (d.editor n).uri = some uri → d₁.buffers.get? uri = d.buffers.get? uri) :
    d₁.openBuffer? n = d.openBuffer? n := by
  cases opened : (d.editor n).uri with
  | none =>
    rw [openBuffer?_of_closed opened, openBuffer?_of_closed (editor.symm ▸ opened)]
  | some uri =>
    rw [openBuffer?_of_opened opened, openBuffer?_of_opened (d := d₁) (editor.symm ▸ opened),
      buffer uri opened]

/-- An event of another editor is taken off. -/
theorem take (h : d.Mirrors n d') {place : Nat} (found : d.ready[place]? = some e)
    (dropped : e.mirrored n (d.rank n) = none) :
    Mirrors n { d with ready := d.ready.eraseIdx place } d' where
  editor := h.editor
  editors := h.editors
  buffer := h.buffer
  count := h.count
  calls := h.calls
  known := fun e member => h.known e (List.mem_of_mem_eraseIdx member)
  ready := fun going => (h.ready going).trans (filterMap_eraseIdx_of_none found dropped).symm
  going := h.going
  gateOpen := h.gateOpen
  afterRun := h.afterRun

/-- The same event of the editor is taken off on both desks. -/
theorem takeBoth (h : d.Mirrors n d') {place : Nat} (found : d.ready[place]? = some e)
    (kept : e.mirrored n (d.rank n) = some e') :
    Mirrors n { d with ready := d.ready.eraseIdx place }
      { d' with
        ready := d'.ready.eraseIdx
          ((d.ready.take place).filterMap (Event.mirrored n (d.rank n))).length } where
  editor := h.editor
  editors := h.editors
  buffer := h.buffer
  count := h.count
  calls := h.calls
  known := fun e member => h.known e (List.mem_of_mem_eraseIdx member)
  ready := fun going => by
    have same := h.ready going
    change d'.ready.eraseIdx _ = _
    rw [same]
    exact eraseIdx_filterMap found kept
  going := h.going
  gateOpen := h.gateOpen
  afterRun := h.afterRun

/-- Whatever belongs to another editor keeps the mirror. -/
theorem foreign (h : d.Mirrors n d') (sound : d.Sound p host) (owned : d.owner m = some k)
    (other : n ≠ k) : (d.move p host m).Mirrors n d' := by
  have editor := editor_move_of_owner p host owned other
  have buffer := openBuffer?_congr editor fun uri opened =>
    get?_move_of_owner sound owned other opened
  have calls (i : CallId) (c : TestCall ρ ν ε) (found : d.call? i = some c)
      (site : c.editor ≠ k) := call?_move_of_owner p host sound owned found site
  by_cases turns : ∃ place, m = .turn place
  · obtain ⟨place, rfl⟩ := turns
    cases found : d.ready[place]? with
    | none => simp [owner, found] at owned
    | some e =>
      have site : e.site d = some k := by simpa [owner, found] using owned
      have dropped : e.mirrored n (d.rank n) = none := by
        rw [← Option.not_isSome_iff_eq_none, isSome_mirrored, site]
        simpa using other.symm
      exact (h.take found dropped).of_within (within_turn p host (sound.named k) owned) other editor
        buffer calls
  · have within := within_move p host (sound.named k) owned fun place same => turns ⟨place, same⟩
    exact h.of_within within other editor buffer calls

/-! ### The gate -/

/-- A run of the editor is let past the gate on both desks. -/
theorem release (h : d.Mirrors n d') (own : d.rank n i = some j) :
    (d.release i).Mirrors n (d'.release j) := by
  obtain ⟨⟨m, phase, asked⟩, found, -⟩ := exists_call?_of_rank own
  obtain ⟨⟨m', phase', asked'⟩, found', like⟩ := h.calls i j _ own found
  have phases : phase.Mirrors phase' := like.phase
  unfold Desk.release
  rw [found, found']
  cases phases with
  | awaiting uri uri' request runs =>
    cases runs with
    | held artifacts =>
      exact h.proceed own (.awaiting uri uri' request (.released artifacts)) (mirrored_run own)
    | _ => exact h
  | _ => exact h

/-- A run of another editor is let past the gate. -/
theorem release_foreign (h : d.Mirrors n d') (foreign : d.sites[i]? ≠ some n) :
    (d.release i).Mirrors n d' := by
  cases found : d.call? i with
  | none =>
    unfold Desk.release
    rw [found]
    exact h
  | some c =>
    have site : d.sites[i]? = some c.editor := by rw [getElem?_sites, found]; rfl
    have other : n ≠ c.editor := by
      rintro rfl
      exact foreign site
    have within : d.Within c.editor (d.release i) := by
      unfold Desk.release
      split
      · exact (Within.refl _ d).proceed site rfl _
      · exact .refl _ d
    have alike := alike_release d i
    refine h.of_within within other (alike.editor n) ?_ fun l c' found' elsewhere => ?_
    · exact openBuffer?_congr (alike.editor n) fun uri _ => by rw [alike.buffers]
    · rw [call?_release, if_neg]
      · exact found'
      · rintro rfl
        exact elsewhere (congrArg TestCall.editor (Option.some.inj (found'.symm.trans found)))

theorem sites_release (d : Desk σ ρ ν ε) (i : CallId) : (d.release i).sites = d.sites := by
  unfold Desk.release
  split
  · exact sites_setPhase i _ d
  · rfl

/-- Calls are let past the gate in the order in which they were made. -/
theorem releaseAll (h : d.Mirrors n d') {l : Nat} (inside : l ≤ d.sites.length) :
    ((List.range l).foldl Desk.release d).Mirrors n
      ((List.range ((d.sites.take l).count n)).foldl Desk.release d') := by
  have sites (is : List CallId) (d : Desk σ ρ ν ε) :
      (is.foldl Desk.release d).sites = d.sites := by
    induction is generalizing d with
    | nil => rfl
    | cons i rest ih => exact (ih _).trans (sites_release d i)
  induction l with
  | zero => exact h
  | succ l ih =>
    have before := ih (Nat.le_of_succ_le inside)
    obtain ⟨k, next⟩ : ∃ k, d.sites[l]? = some k := ⟨_, List.getElem?_eq_getElem inside⟩
    rw [List.range_succ, List.foldl_append, List.take_add_one, next, Option.toList_some,
      List.count_append, List.count_singleton]
    by_cases own : k = n
    · rw [if_pos (by simpa using own), List.range_succ, List.foldl_append]
      refine before.release ?_
      rw [rank_eq_some, sites, next, own]
      exact ⟨rfl, rfl⟩
    · rw [if_neg (by simpa using own)]
      refine before.release_foreign ?_
      rw [sites, next]
      simpa using own

theorem setGate (h : d.Mirrors n d') (isOpen : Bool) :
    (d.setGate isOpen).Mirrors n (d'.setGate isOpen) := by
  have set : Mirrors n { d with gateOpen := isOpen } { d' with gateOpen := isOpen } :=
    ⟨h.editor, h.editors, h.buffer, h.count, h.calls, h.known, h.ready, h.going, rfl, h.afterRun⟩
  unfold Desk.setGate
  dsimp only
  split
  · have length : d.sites.length = d.calls.length := List.length_map _
    have all := set.releaseAll (l := d.calls.length) (Nat.le_of_eq length.symm)
    have whole : (({ d with gateOpen := isOpen } : Desk σ ρ ν ε).sites.take d.calls.length).count n
        = d'.calls.length := by
      rw [h.count, ← length]
      exact congrArg (List.count n) (List.take_length)
    rw [whole] at all
    exact all
  · exact set

end Mirrors

end Desk

end RuleBench
