import RuleBench.Proofs.Desk.Sound
import RuleBench.Proofs.Rule.Saved

/-!
# What may be saved

An editor offers its rule for saving only after a test of exactly the text that its buffer has now,
whatever was edited, closed, opened again or tested in between. So what is handed over on saving is
that text, with the code that it lowers to and the function that was tested.
-/

namespace RuleBench

variable {σ ρ ν η ε : Type}

/-- What is handed over is what was tested. -/
theorem SavedRule.of_ofSuccess {report : Success ρ ν} {name : Data} {previous : Option RawRule}
    {freshKey : String} {saved : SavedRule ν}
    (h : SavedRule.ofSuccess report name previous freshKey = .ok saved) :
    saved.raw.rawCode = report.artifact.source ∧ saved.raw.compiledCode = report.artifact.code ∧
      saved.options.function = report.function :=
  have carries := SavedRule.carries_of_ofSuccess h
  ⟨carries.source, carries.code, carries.function⟩

/-- What a rule is stored under, and its code. -/
def SavedRule.labels (saved : SavedRule ν) : String × String × String :=
  (saved.options.key, saved.options.name, saved.raw.compiledCode)

theorem Artifact.lower_of_ok {uri text : String} {revision : Nat}
    (h : (Artifact.ofText uri revision text).ok = true) :
    Script.lower text = .ok (Artifact.ofText uri revision text).code := by
  unfold Artifact.ofText at h ⊢
  split
  · next lowered => exact lowered
  · next failed => simp [failed, Artifact.ok] at h

/-- A success that was made from a text: its artifact holds the text and, without any diagnostics,
the code that the text lowers to, and its function was exported from that code. -/
structure Bench.Tests (p : Bench) (host : ScriptHost σ ρ ν η ε) (s : Success ρ ν) (text : String) :
    Prop where
  source : s.artifact.source = text
  lowered : Script.lower text = .ok s.artifact.code
  clean : s.artifact.diagnostics = []
  exported : ∃ w w', exportedFunction host p.kind s.artifact.code w = .ok s.function w'

namespace Desk

variable {p : Bench} {host : ScriptHost σ ρ ν η ε} {d d' : Desk σ ρ ν ε} {n : Nat}

/-- The success that an editor offers for saving was made from the text of now. -/
theorem Sound.tests_of_savable (h : d.Sound p host) {s : Success ρ ν}
    (savable : (d.editor n).savable? d.buffers = some s) :
    ∃ uri b, (d.editor n).uri = some uri ∧ d.buffers.get? uri = some b ∧
      (d.editor n).report = some (.success s) ∧ p.Tests host s b.text := by
  unfold Editor.savable? at savable
  split at savable
  · next s' b state reported buffer =>
    split at savable
    · next revision =>
      cases savable
      obtain ⟨_, _, uri, a, opened, made, same, rfl, ok, exported⟩ :=
        (h.inOrder n).report _ reported
      obtain ⟨_, now, found⟩ := (h.inOrder n).buffer uri opened
      have current : b = now := by
        rw [Editor.buffer_of_opened opened found] at buffer
        exact (Except.ok.inj buffer).symm
      subst current
      have revision : s.revision = b.revision := by simpa using revision
      have made : s.artifact = (⟨uri, b⟩ : Buffers.Job).finish :=
        made.eq_of_revision found (same.symm.trans revision)
      rw [made] at ok
      have lowered := Artifact.lower_of_ok ok
      refine ⟨uri, b, opened, found, reported, ?_, ?_, ?_, exported⟩
      · rw [made]
        exact Artifact.source_ofText _ _ _
      · rw [made]
        exact lowered
      · rw [made]
        exact List.isEmpty_iff.mp ok
    · cases savable
  · cases savable

/-- A rule is saved after the success on hand, in the place of the rule that is being edited, and
then is the one that is being edited. -/
theorem carries_of_save {name : Data} {freshKey : String} {saved : SavedRule ν}
    (ok : d.save n name freshKey = .ok (saved, d')) :
    ∃ report, (d.editor n).savable? d.buffers = some report ∧
      saved.Carries report name (d.editor n).rawRule freshKey ∧
      d' = (d.alterEditor n fun e => { e with rawRule := some saved.raw }).note [saved.note] := by
  unfold save at ok
  dsimp only at ok
  split at ok
  · cases ok
  · next report savable =>
    split at ok
    · cases ok
    · next built =>
      cases ok
      exact ⟨report, savable, SavedRule.carries_of_ofSuccess built, rfl⟩

/-- Only a rule that may be saved is saved. -/
theorem isSavable_of_save {name : Data} {freshKey : String} {result : SavedRule ν × Desk σ ρ ν ε}
    (saved : d.save n name freshKey = .ok result) : d.isSavable n = true := by
  unfold save at saved
  dsimp only at saved
  split at saved
  · cases saved
  · next s savable => simp [isSavable, Editor.isSavable, savable]

/-- What the grouping script lowers to. -/
def groupingCode : String := "def groupBy(span, trace):\n    return ('a', span.trace_id)\n"

/-- After an undisturbed test of the grouping script, the rule that was opened can be saved in its
old place. -/
theorem exists_save_sampleAfter :
    ∃ saved d', (sampleAfter groupingScript 5).save 0 .none "new" = .ok (saved, d') ∧
      saved.labels = ("key", "name", groupingCode) := by
  have passes : ((sampleAfter groupingScript 5).save 0 .none "new").toOption.map
      (fun result => result.1.labels) = some ("key", "name", groupingCode) := by decide +kernel
  obtain ⟨⟨saved, d'⟩, built, labels⟩ := Option.map_eq_some_iff.mp passes
  exact ⟨saved, d', toOption_eq_some.mp built, labels⟩

/-- Saving is sound. If the rule of an editor may be saved, its report is a success made from the
text of now, and a rule that is saved carries that text and the code it lowers to. -/
theorem Reachable.saves_text_of_now (h : Reachable p host d) (n : Nat) :
    (d.isSavable n = true → ∃ uri b s, (d.editor n).uri = some uri ∧
      d.buffers.get? uri = some b ∧ (d.editor n).report = some (.success s) ∧
        p.Tests host s b.text) ∧
    ∀ name freshKey saved d', d.save n name freshKey = .ok (saved, d') →
      ∃ uri b s, (d.editor n).uri = some uri ∧ d.buffers.get? uri = some b ∧
        (d.editor n).report = some (.success s) ∧ p.Tests host s b.text ∧
        saved.raw.rawCode = b.text ∧ Script.lower b.text = .ok saved.raw.compiledCode ∧
        saved.options.function = s.function := by
  refine ⟨fun savable => ?_, fun name freshKey saved d' ok => ?_⟩
  · obtain ⟨s, savable⟩ := Option.isSome_iff_exists.mp savable
    obtain ⟨uri, b, opened, found, reported, tests⟩ := h.sound.tests_of_savable savable
    exact ⟨uri, b, s, opened, found, reported, tests⟩
  · unfold save at ok
    dsimp only at ok
    split at ok
    · cases ok
    · next s savable =>
      split at ok
      · cases ok
      · next made built =>
        cases ok
        obtain ⟨uri, b, opened, found, reported, tests⟩ := h.sound.tests_of_savable savable
        obtain ⟨source, code, function⟩ := SavedRule.of_ofSuccess built
        refine ⟨uri, b, s, opened, found, reported, tests, source.trans tests.source, ?_, function⟩
        rw [code]
        exact tests.lowered

/-- After an undisturbed test of a script that passes, its rule may be saved. -/
theorem grouping_saves :
    ((sampleAfter groupingScript 5).isSavable 0 = true ∧
      ∃ uri b s, ((sampleAfter groupingScript 5).editor 0).uri = some uri ∧
        (sampleAfter groupingScript 5).buffers.get? uri = some b ∧
        ((sampleAfter groupingScript 5).editor 0).report = some (.success s) ∧
          sampleBench.Tests Execution.host s b.text) ∧
    ∃ saved d', (sampleAfter groupingScript 5).save 0 .none "new" = .ok (saved, d') ∧
      ∃ uri b s, ((sampleAfter groupingScript 5).editor 0).uri = some uri ∧
        (sampleAfter groupingScript 5).buffers.get? uri = some b ∧
        ((sampleAfter groupingScript 5).editor 0).report = some (.success s) ∧
        sampleBench.Tests Execution.host s b.text ∧
        saved.raw.rawCode = b.text ∧ Script.lower b.text = .ok saved.raw.compiledCode ∧
        saved.options.function = s.function := by
  obtain ⟨offers, saves⟩ :=
    Reachable.saves_text_of_now (reachable_sampleAfter groupingScript 5) 0
  obtain ⟨saved, d', built, -⟩ := exists_save_sampleAfter
  have savable := isSavable_of_save built
  exact ⟨⟨savable, offers savable⟩, saved, d', built, saves _ _ _ _ built⟩

end Desk

end RuleBench
