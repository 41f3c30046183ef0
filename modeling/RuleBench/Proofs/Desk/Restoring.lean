import RuleBench.Proofs.Bench
import RuleBench.Proofs.Desk.Saving

/-!
# Saved rules can be restored

What an editor hands over on saving, and what is made of any success of a run, comes back when it is
restored.
-/

namespace RuleBench

variable {σ ρ ν η ε : Type}

namespace Desk

/-- Restoring undoes saving. What is saved after a success that a run has come to, under whatever
name and in the place of whatever rule, comes back; and so does what an editor saves, whatever has
happened on its desk. -/
theorem restoring_undoes_saving (p : Bench) (host : ScriptHost σ ρ ν η ε) :
    (∀ (a : Artifact) (g : Generator) (w : σ) (report : Success ρ ν),
      (p.conclude host a g w).1.result = .ok (.success report) →
      ∀ name previous freshKey saved,
        SavedRule.ofSuccess report name previous freshKey = .ok saved →
        saved.ComesBack host p.kind report.artifact.code) ∧
    ∀ (d : Desk σ ρ ν ε), Reachable p host d → ∀ n name freshKey saved d',
      d.save n name freshKey = .ok (saved, d') →
      ∃ report, (d.editor n).report = some (.success report) ∧
        saved.ComesBack host p.kind report.artifact.code := by
  constructor
  · intro a g w report concluded name previous freshKey saved built
    obtain ⟨_, _, rfl, _, exported⟩ := p.conclude_ok host concluded
    exact (SavedRule.carries_of_ofSuccess built).comesBack exported
  · intro d reachable n name freshKey saved d' ok
    obtain ⟨report, savable, carries, rfl⟩ := carries_of_save ok
    obtain ⟨_, _, _, _, reported, tests⟩ := reachable.sound.tests_of_savable savable
    exact ⟨report, reported, carries.comesBack tests.exported⟩

end Desk

def Report.success? : Report ρ ν → Option (Success ρ ν)
  | failure _ => none
  | success s => some s

theorem Report.success?_eq_some {r : Report ρ ν} {s : Success ρ ν} :
    r.success? = some s ↔ r = .success s := by
  cases r <;> simp [success?]

namespace Desk

/-- The code yields its function also where there are no traces. -/
theorem repeats_grouping :
    Execution.host.Repeats .spanGrouping groupingCode (.ofTraces []) := by
  intro _ _ _ _
  have loads : (Trial.afresh Execution.host .spanGrouping
      (exportedFunction Execution.host .spanGrouping groupingCode) id id
      (.ofTraces [])).toOption.isSome = true := by decide +kernel
  unfold Trial.afresh at loads
  cases loaded : exportedFunction Execution.host .spanGrouping groupingCode (.ofTraces []) with
  | ok f w => exact ⟨f, w, rfl⟩
  | error stop w =>
    rw [loaded] at loads
    cases loads

/-- A rule is tested and saved, once under a new name and once in the place of the rule that was
opened, and restored where there are no traces. -/
theorem grouping_comes_back :
    (∃ report, (sampleBench.conclude Execution.host ⟨"", 0, groupingScript, groupingCode, []⟩
        (.ofSeed 0) sampleDesk.world).1.result = .ok (.success report) ∧
      ∃ saved, SavedRule.ofSuccess report (.str "n") none "new" = .ok saved ∧
        ∃ f w, LiveRule.ofRaw Execution.host sampleBench.kind saved.raw (.ofTraces []) =
          .ok ⟨"new", "n", f⟩ w) ∧
    ∃ saved d', (sampleAfter groupingScript 5).save 0 .none "new" = .ok (saved, d') ∧
      ∃ f w, LiveRule.ofRaw Execution.host sampleBench.kind saved.raw (.ofTraces []) =
        .ok ⟨"key", "name", f⟩ w := by
  obtain ⟨ofRun, ofDesk⟩ := restoring_undoes_saving sampleBench Execution.host
  constructor
  · have passes : ((sampleBench.conclude Execution.host ⟨"", 0, groupingScript, groupingCode, []⟩
        (.ofSeed 0) sampleDesk.world).1.result.toOption.bind Report.success?).bind (fun report =>
          (SavedRule.ofSuccess report (.str "n") none "new").toOption.map SavedRule.labels) =
        some ("new", "n", groupingCode) := by decide +kernel
    obtain ⟨report, success, passes⟩ := Option.bind_eq_some_iff.mp passes
    obtain ⟨r, concluded, success⟩ := Option.bind_eq_some_iff.mp success
    obtain rfl := Report.success?_eq_some.mp success
    obtain ⟨saved, built, labels⟩ := Option.map_eq_some_iff.mp passes
    have concluded := toOption_eq_some.mp concluded
    have built := toOption_eq_some.mp built
    have comesBack := ofRun _ _ _ report concluded _ _ _ saved built
    simp only [SavedRule.labels, Prod.mk.injEq] at labels
    obtain ⟨key, name, code⟩ := labels
    obtain ⟨f, w, _, restored⟩ :=
      comesBack.restored _ (comesBack.sameCode ▸ code ▸ repeats_grouping)
    rw [key, name] at restored
    exact ⟨report, concluded, saved, built, f, w, restored⟩
  · obtain ⟨saved, d', built, labels⟩ := exists_save_sampleAfter
    obtain ⟨report, reported, comesBack⟩ :=
      ofDesk _ (reachable_sampleAfter groupingScript 5) _ _ _ saved d' built
    simp only [SavedRule.labels, Prod.mk.injEq] at labels
    obtain ⟨key, name, code⟩ := labels
    obtain ⟨f, w, _, restored⟩ :=
      comesBack.restored _ (comesBack.sameCode ▸ code ▸ repeats_grouping)
    rw [key, name] at restored
    exact ⟨saved, d', built, f, w, restored⟩

end Desk

end RuleBench
