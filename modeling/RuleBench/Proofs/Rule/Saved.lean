import RuleBench.Proofs.Trace.ReadBack
import RuleBench.Rule.Restored

/-!
# Saved and restored rules

A rule that is saved carries the codes of the test that it passed, the key that its predecessor had
and a name that validates (`SavedRule.Carries`). It can be restored: what is stored is read back as
it is, also from a dump, and loading its code is loading the code that was tested
(`SavedRule.ComesBack`).
-/

namespace RuleBench

open RuleBench.Validation

variable {σ ρ ν η ε : Type}

/-! ### What is stored -/

/-- A stored rule has the parts that it was made of. -/
theorem RawRule.parts_of_ofData {key name : Data} {source code : String} {raw : RawRule}
    (h : RawRule.ofData (.dict [(.str "key", key), (.str "name", name),
      (.str "raw_code", .str source), (.str "compiled_code", .str code)]) = .ok raw) :
    nonEmptyText key = .valid raw.key ∧ visibleText name = .valid raw.name ∧
      raw.rawCode = source ∧ raw.compiledCode = code := by
  obtain ⟨_, content, hkey, hname, hraw, hcompiled⟩ :=
    RawRule.rule_eq_valid.mp (Checked.titled_eq_ok.mp h)
  cases content
  have missing (name : String) : Data.lookup? name [] = none := rfl
  refine ⟨?_, ?_, ?_, ?_⟩
  · simpa [required, entryFor?, keyField, FieldName.plain, Data.lookup?_str] using hkey
  · simpa [required, entryFor?, nameField, FieldName.plain, Data.lookup?_str] using hname
  · have same : source = raw.rawCode := by
      simpa [required, entryFor?, rawCodeField, Data.lookup?_str, missing] using hraw
    exact same.symm
  · have same : code = raw.compiledCode := by
      simpa [required, entryFor?, compiledCodeField, Data.lookup?_str, missing] using hcompiled
    exact same.symm

/-- A stored rule is read back from its dump. -/
theorem RawRule.ofData_dump {d : Data} {raw : RawRule} (h : RawRule.ofData d = .ok raw)
    (naming : Naming) : RawRule.ofData (raw.dump naming) = .ok raw :=
  Checked.titled_eq_ok.mpr (RawRule.rule_dump naming (Checked.titled_eq_ok.mp h))

/-- A text of some characters is accepted as it is. -/
theorem Validation.eq_of_nonEmptyText {s s' : String} (h : nonEmptyText (.str s) = .valid s') :
    s = s' := by
  obtain ⟨_, read, chosen⟩ := Checked.bind_eq_valid.mp h
  cases read
  split at chosen
  · cases chosen
  · cases chosen
    rfl

/-- What is accepted as a visible text is a text. -/
theorem Validation.text_of_visibleText {d : Data} {s : String} (h : visibleText d = .valid s) :
    text d = .valid s := by
  obtain ⟨s', nonEmpty, chosen⟩ := Checked.bind_eq_valid.mp h
  obtain ⟨s'', read, chosen'⟩ := Checked.bind_eq_valid.mp nonEmpty
  rw [read]
  split at chosen
  · cases chosen
  · split at chosen'
    · cases chosen'
    · cases chosen
      cases chosen'
      rfl

namespace SavedRule

/-- What a rule takes along that is saved after a test, under a name and in the place of the rule
that was stored before. -/
structure Carries (saved : SavedRule ν) (report : Success ρ ν) (name : Data)
    (previous : Option RawRule) (freshKey : String) : Prop where
  stored : ∃ d, RawRule.ofData d = .ok saved.raw
  key : saved.raw.key = (previous.map RawRule.key).getD freshKey
  sameKey : saved.options.key = saved.raw.key
  name : visibleText (chosenName name previous) = .valid saved.raw.name
  sameName : saved.options.name = saved.raw.name
  source : saved.raw.rawCode = report.artifact.source
  code : saved.raw.compiledCode = report.artifact.code
  function : saved.options.function = report.function
  isNew : saved.isNew = previous.isNone

theorem carries_of_ofSuccess {report : Success ρ ν} {name : Data} {previous : Option RawRule}
    {freshKey : String} {saved : SavedRule ν}
    (h : ofSuccess report name previous freshKey = .ok saved) :
    saved.Carries report name previous freshKey := by
  unfold ofSuccess at h
  simp only [bind, Except.bind, pure, Except.pure] at h
  split at h
  · cases h
  · next raw made =>
    cases h
    obtain ⟨key, named, source, code⟩ := RawRule.parts_of_ofData made
    have key := eq_of_nonEmptyText key
    exact ⟨⟨_, made⟩, key.symm, key, named, rfl, source, code, rfl, rfl⟩

/-- A name that is given is the name of the rule; else it keeps the one it had. -/
theorem Carries.name_eq {saved : SavedRule ν} {report : Success ρ ν} {name : Data}
    {previous : Option RawRule} {freshKey : String}
    (h : saved.Carries report name previous freshKey) :
    if name.isTruthy then text name = .valid saved.raw.name
    else some saved.raw.name = previous.map RawRule.name := by
  have chosen := text_of_visibleText h.name
  unfold chosenName at chosen
  split
  · next given =>
    rw [if_pos given] at chosen
    exact chosen
  · next missing =>
    rw [if_neg missing] at chosen
    cases previous with
    | some raw => exact congrArg some (Checked.valid.inj chosen).symm
    | none =>
      -- without a rule before, the name would be empty, which is not visible
      have invisible : visibleText (chosenName name none) = .refuse .textTooShort := by
        simp [chosenName, missing, visibleText, nonEmptyText, Checked.bind, Checked.refuse]
      have := h.name
      rw [invisible] at this
      cases this

end SavedRule

/-! ### Restoring -/

/-- Code that has yielded the function of a kind anywhere yields it in a world too: loading it again
does not turn out otherwise. -/
def ScriptHost.Repeats (host : ScriptHost σ ρ ν η ε) (kind : RuleKind) (code : String) (w : σ) :
    Prop :=
  ∀ u f u', exportedFunction host kind code u = .ok f u' →
    ∃ f' w', exportedFunction host kind code w = .ok f' w'

/-- What a trial of a function comes to that has just been had, on a stage that may have changed
since; or why there is no function. -/
def Trial.afresh {α : Type} (host : ScriptHost σ ρ ν η ε) (kind : RuleKind)
    (acquire : EStateM (ExportStop ε) σ α) (function : α → ν) (stage : σ → σ) (w : σ) :
    Except (ExportStop ε) (EStateM.Result (Stop ρ ε) σ (List (Outcome ρ ν))) :=
  match acquire w with
  | .ok a w => .ok (Trial.run host kind (function a) (stage w))
  | .error stop _ => .error stop

/-- To restore a rule is to load its code. -/
theorem LiveRule.ofRaw_eq (host : ScriptHost σ ρ ν η ε) (kind : RuleKind) (raw : RawRule) (w : σ) :
    LiveRule.ofRaw host kind raw w = match exportedFunction host kind raw.compiledCode w with
      | .ok f w => .ok ⟨raw.key, raw.name, f⟩ w
      | .error stop w => .error stop w := by
  simp only [LiveRule.ofRaw, bind, EStateM.bind]
  cases exportedFunction host kind raw.compiledCode w <;> rfl

/-- A saved rule holds the code that was tested and comes back from its stored form, and from either
dump of that, under the key and the name that it was saved with. It comes back with the function
that the tested code yields, and this does on every stage what the one does that is loaded afresh
from the tested code. -/
structure SavedRule.ComesBack (saved : SavedRule ν) (host : ScriptHost σ ρ ν η ε) (kind : RuleKind)
    (code : String) : Prop where
  sameCode : saved.raw.compiledCode = code
  reread : ∀ naming, RawRule.ofData (saved.raw.dump naming) = .ok saved.raw
  restored : ∀ w, host.Repeats kind code w → ∃ f w',
    exportedFunction host kind code w = .ok f w' ∧
      LiveRule.ofRaw host kind saved.raw w = .ok ⟨saved.options.key, saved.options.name, f⟩ w'
  agrees : ∀ stage w,
    Trial.afresh host kind (LiveRule.ofRaw host kind saved.raw) LiveRule.function stage w =
      Trial.afresh host kind (exportedFunction host kind code) id stage w

theorem SavedRule.Carries.comesBack {host : ScriptHost σ ρ ν η ε} {kind : RuleKind}
    {saved : SavedRule ν} {report : Success ρ ν} {name : Data} {previous : Option RawRule}
    {freshKey : String} (h : saved.Carries report name previous freshKey)
    (exported : ∃ u u', exportedFunction host kind report.artifact.code u =
      .ok report.function u') : saved.ComesBack host kind report.artifact.code where
  sameCode := h.code
  reread naming := by
    obtain ⟨d, made⟩ := h.stored
    exact RawRule.ofData_dump made naming
  restored w repeats := by
    obtain ⟨u, u', exported⟩ := exported
    obtain ⟨f, w', loaded⟩ := repeats u _ u' exported
    refine ⟨f, w', loaded, ?_⟩
    rw [LiveRule.ofRaw_eq, h.code, loaded, h.sameKey, h.sameName]
  agrees stage w := by
    unfold Trial.afresh
    rw [LiveRule.ofRaw_eq, h.code]
    cases exportedFunction host kind report.artifact.code w <;> rfl

end RuleBench
