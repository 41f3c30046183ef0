import RuleBench.Buffers

/-!
# What buffers remember

The laws of registering, editing and erasing, by what is found under an identifier afterwards. They
give the fact that lets a revision stand for a text: as long as nobody registers an identifier anew,
a text that was read at the revision the buffer still has is the text it has now (`Knows`), and so
an artifact of that revision is made from the text of now (`Made`).
-/

namespace RuleBench.Buffers

variable {bs bs' : Buffers} {uri text : String}

@[simp] theorem get?_insert (bs : Buffers) (uri text u : String) :
    (bs.insert uri text).get? u = if u = uri then some ⟨text, 0⟩ else bs.get? u :=
  lookup_put uri ⟨text, 0⟩ bs.entries u

theorem start_of_get? {b : Buffer} (found : bs.get? uri = some b) : bs.start uri = .ok ⟨uri, b⟩ := by
  simp [start, get, found, Except.map]

/-- An edit finds the buffer and raises its revision; no other buffer is touched. -/
theorem get?_of_edit (h : bs.edit uri text = .ok bs') :
    ∃ b, bs.get? uri = some b ∧
      ∀ u, bs'.get? u = if u = uri then some ⟨text, b.revision + 1⟩ else bs.get? u := by
  cases found : bs.get? uri with
  | none => simp [edit, get, found, bind, Except.bind] at h
  | some b =>
    simp only [edit, get, found, bind, Except.bind, pure, Except.pure, Except.ok.injEq] at h
    subst h
    exact ⟨b, rfl, lookup_put uri ⟨text, b.revision + 1⟩ bs.entries⟩

@[simp] theorem get?_erase (bs : Buffers) (uri u : String) :
    (bs.erase uri).get? u = if u = uri then none else bs.get? u := by
  change (bs.entries.filter (·.1 != uri)).lookup u = if u = uri then none else bs.entries.lookup u
  induction bs.entries with
  | nil => simp
  | cons e rest ih =>
    obtain ⟨k, b⟩ := e
    by_cases hk : k = uri
    · subst hk
      by_cases hu : u = k
      · simpa [hu] using ih
      · simpa [hu, List.lookup_cons, beq_false_of_ne hu] using ih
    · by_cases hu : u = k
      · subst hu
        simp [hk]
      · simpa [hk, List.lookup_cons, beq_false_of_ne hu] using ih

/-- A buffer as it is or once was. -/
def Knows (bs : Buffers) (uri : String) (b : Buffer) : Prop :=
  ∃ now, bs.get? uri = some now ∧ b.revision ≤ now.revision ∧
    (b.revision = now.revision → b = now)

namespace Knows

variable {b now : Buffer}

theorem of_get? (h : bs.get? uri = some b) : bs.Knows uri b :=
  ⟨b, h, Nat.le_refl _, fun _ => rfl⟩

/-- At the revision that the buffer has, it is the buffer. -/
theorem eq_of_revision (h : bs.Knows uri b) (found : bs.get? uri = some now)
    (same : b.revision = now.revision) : b = now := by
  obtain ⟨current, hcurrent, _, heq⟩ := h
  rw [found, Option.some.injEq] at hcurrent
  subst hcurrent
  exact heq same

theorem congr (h : bs.Knows uri b) (same : bs'.get? uri = bs.get? uri) : bs'.Knows uri b := by
  obtain ⟨current, hcurrent, rest⟩ := h
  exact ⟨current, same.trans hcurrent, rest⟩

/-- Edits of whatever buffer do not make anything forgotten: the edited one has a revision that it
never had before. -/
theorem edit {u : String} (h : bs.Knows uri b) (edited : bs.edit u text = .ok bs') :
    bs'.Knows uri b := by
  obtain ⟨old, hold, found⟩ := get?_of_edit edited
  by_cases hu : uri = u
  · subst hu
    obtain ⟨current, hcurrent, hle, _⟩ := h
    rw [hold, Option.some.injEq] at hcurrent
    subst hcurrent
    refine ⟨⟨text, old.revision + 1⟩, by simp [found], Nat.le_succ_of_le hle, ?_⟩
    intro same
    exact absurd same (Nat.ne_of_lt (Nat.lt_succ_of_le hle))
  · exact h.congr (by simp [found, hu])

end Knows

/-- An artifact that was made from a buffer as it is or once was. -/
def Made (bs : Buffers) (uri : String) (a : Artifact) : Prop :=
  ∃ b, bs.Knows uri b ∧ a = (⟨uri, b⟩ : Job).finish

namespace Made

variable {a : Artifact} {now : Buffer}

theorem of_job {j : Job} (known : bs.Knows j.uri j.buffer) : bs.Made j.uri j.finish :=
  ⟨j.buffer, known, rfl⟩

/-- At the revision that the buffer has, the artifact is made from its text. -/
theorem eq_of_revision (h : bs.Made uri a) (found : bs.get? uri = some now)
    (same : a.revision = now.revision) : a = (⟨uri, now⟩ : Job).finish := by
  obtain ⟨b, known, rfl⟩ := h
  have revision : b.revision = now.revision := by simpa [Job.finish] using same
  rw [known.eq_of_revision found revision]

theorem of_imp (h : bs.Made uri a) (keeps : ∀ b, bs.Knows uri b → bs'.Knows uri b) :
    bs'.Made uri a := by
  obtain ⟨b, known, made⟩ := h
  exact ⟨b, keeps b known, made⟩

end Made

end RuleBench.Buffers
