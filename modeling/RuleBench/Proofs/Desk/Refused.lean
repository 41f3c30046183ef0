import RuleBench.Proofs.Desk.Agreement
import RuleBench.Proofs.Desk.Saving

/-!
# Operations that are refused

An operation touches the buffer of its editor, its run, its report and its notifier one after the
other. Here operations are put down step by step, so that an error keeps what was done before it
(`Deed`), and shown to be the operations of the desk. The main statement says that an operation that
is refused has done nothing yet: everything is as it was, a run under way goes on, and whatever is
saved later is saved as if nothing had been tried, up to a generated key.
-/

namespace RuleBench

open RuleBench.Validation

variable {σ ρ ν η ε : Type}

/-! ### Keys -/

/-- The same rule under another key. -/
def SavedRule.underKey (key : String) (s : SavedRule ν) : SavedRule ν :=
  { s with options := { s.options with key }, raw := { s.raw with key } }

theorem Validation.nonEmptyText_of_ne {s : String} (h : s ≠ "") :
    nonEmptyText (.str s) = .valid s := by
  have text : text (.str s) = .valid s := rfl
  simp [nonEmptyText, text, Checked.bind, h]

/-- A stored rule is made of the four parts that are handed over. -/
theorem RawRule.rule_parts {key : String} (nonEmpty : key ≠ "") (name : Data)
    (source code : String) :
    RawRule.rule (.dict [(.str "key", .str key), (.str "name", name),
        (.str "raw_code", .str source), (.str "compiled_code", .str code)]) =
      ((visibleText name).under (.key "name")).map fun name => ⟨key, name, source, code⟩ := by
  have missing (name : String) : Data.lookup? name [] = none := rfl
  have text (s : String) : text (.str s) = .valid s := rfl
  have content (es : List (Data × Data)) : (Data.dict es).content = .dict es := rfl
  cases visible : visibleText name <;>
    simp [rule, record, content, required, entryFor?, keyField, nameField, rawCodeField,
      compiledCodeField, FieldName.plain, Data.lookup?_str, missing, nonEmptyText_of_ne nonEmpty,
      text, visible, Checked.map, Checked.and, Checked.under]

/-- The key of a stored rule has no bearing on its other parts. -/
theorem RawRule.ofData_of_key {key key' : String} (nonEmpty : key ≠ "") (nonEmpty' : key' ≠ "")
    (name : Data) (source code : String) :
    RawRule.ofData (.dict [(.str "key", .str key'), (.str "name", name),
        (.str "raw_code", .str source), (.str "compiled_code", .str code)]) =
      (RawRule.ofData (.dict [(.str "key", .str key), (.str "name", name),
        (.str "raw_code", .str source), (.str "compiled_code", .str code)])).map
          fun raw => { raw with key := key' } := by
  simp only [ofData, rule_parts nonEmpty, rule_parts nonEmpty']
  cases visibleText name <;> rfl

/-- A rule is saved under a new key only if it had none, and the key has no bearing on the rest. -/
theorem SavedRule.ofSuccess_of_key {key key' : String} (nonEmpty : key ≠ "") (nonEmpty' : key' ≠ "")
    (report : Success ρ ν) (name : Data) (previous : Option RawRule) :
    SavedRule.ofSuccess report name previous key' =
      (SavedRule.ofSuccess report name previous key).map fun saved =>
        if previous.isSome then saved else saved.underKey key' := by
  cases previous with
  | some raw =>
    cases made : SavedRule.ofSuccess report name (some raw) key <;>
      exact made
  | none =>
    simp only [ofSuccess, Option.map_none, Option.getD_none, bind, Except.bind,
      RawRule.ofData_of_key nonEmpty nonEmpty']
    cases RawRule.ofData _ <;> rfl

@[simp] theorem TestCall.outcome?_stop (c : TestCall ρ ν ε) : c.stop.outcome? = c.outcome? := by
  obtain ⟨k, phase, asked⟩ := c
  cases phase <;> rfl

@[simp] theorem TestCall.outcome?_letPass (c : TestCall ρ ν ε) :
    c.letPass.outcome? = c.outcome? := by
  obtain ⟨k, phase, asked⟩ := c
  cases phase with
  | awaiting uri request run => cases run <;> rfl
  | _ => rfl

namespace Desk

/-- What is done to a desk step by step. An error keeps what was done before it. -/
abbrev Deed (σ ρ ν ε α : Type) := EStateM EditorError (Desk σ ρ ν ε) α

/-- A step that is never refused. -/
def doing (f : Desk σ ρ ν ε → Desk σ ρ ν ε) : Deed σ ρ ν ε Unit := fun d => .ok () (f d)

/-- The buffer that an editor has open. -/
def openUri (n : Nat) : Deed σ ρ ν ε String := fun d =>
  match (d.editor n).uri with
  | some uri => .ok uri d
  | none => .error .notOpen d

def replaceText (uri text : String) : Deed σ ρ ν ε Unit := fun d =>
  match d.buffers.edit uri text with
  | .ok buffers => .ok () { d with buffers }
  | .error cause => .error (.notRegistered cause) d

/-- Replaces the text of the open buffer, then makes the report void, then tells the listener. -/
def editing (p : Bench) (n : Nat) (text : String) : Deed σ ρ ν ε Unit := do
  let uri ← openUri n
  replaceText uri text
  doing (invalidate n)
  doing fun d => d.alterEditor n (Editor.announce p.settings.throttleInterval d.now)

/-- Stops the run under way, then asks for a run of its own on behalf of a call. -/
def requesting (i : CallId) (n : Nat) : Deed σ ρ ν ε Unit := do
  let uri ← openUri n
  doing (abandonRun n)
  doing fun d =>
    let request := (d.editor n).request + 1
    let d := d.alterEditor n fun e => { e with request, report := none, current := some i }
    (d.setPhase i (.awaiting uri request .scheduled)).schedule (.run i)

/-- The success that an editor offers for saving. -/
def savableReport (n : Nat) : Deed σ ρ ν ε (Success ρ ν) := fun d =>
  match (d.editor n).savable? d.buffers with
  | some report => .ok report d
  | none => .error .saveNotAllowed d

/-- Builds what is handed over for a success. -/
def building (n : Nat) (report : Success ρ ν) (name : Data) (freshKey : String) :
    Deed σ ρ ν ε (SavedRule ν) := fun d =>
  match SavedRule.ofSuccess report name (d.editor n).rawRule freshKey with
  | .ok saved => .ok saved (d.note [saved.note])
  | .error refusal => .error (.refused refusal) d

/-- Builds what is handed over and then makes it the rule that is being edited. -/
def saving (n : Nat) (name : Data) (freshKey : String) : Deed σ ρ ν ε (SavedRule ν) := do
  let report ← savableReport n
  let saved ← building n report name freshKey
  doing fun d => d.alterEditor n fun e => { e with rawRule := some saved.raw }
  return saved

variable {p : Bench} {host : ScriptHost σ ρ ν η ε} {d d' : Desk σ ρ ν ε} {n : Nat} {i : CallId}
  {cause : EditorError}

/-! ### The operations of the desk -/

theorem editing_eq (p : Bench) (n : Nat) (text : String) (d : Desk σ ρ ν ε) :
    editing p n text d = match d.edit p n text with
      | .ok d' => .ok () d'
      | .error cause => .error cause d := by
  cases opened : (d.editor n).uri with
  | none => simp [editing, edit, openUri, opened, bind, EStateM.bind]
  | some uri =>
    cases edited : d.buffers.edit uri text with
    | error e => simp [editing, edit, openUri, replaceText, opened, edited, bind, EStateM.bind]
    | ok buffers =>
      simp [editing, edit, openUri, replaceText, opened, edited, doing, bind, EStateM.bind]

theorem beginCall_eq_requesting (i : CallId) (n : Nat) (d : Desk σ ρ ν ε) :
    d.beginCall i n = match requesting i n d with
      | .ok () d' => d'
      | .error cause d' => d'.endCall i (.failed cause) := by
  cases opened : (d.editor n).uri with
  | none => simp [beginCall, requesting, openUri, opened, bind, EStateM.bind]
  | some uri =>
    simp [beginCall, requesting, openUri, opened, doing, bind, EStateM.bind]

theorem saving_eq (n : Nat) (name : Data) (freshKey : String) (d : Desk σ ρ ν ε) :
    saving n name freshKey d = match d.save n name freshKey with
      | .ok (saved, d') => .ok saved d'
      | .error cause => .error cause d := by
  cases savable : (d.editor n).savable? d.buffers with
  | none => simp [saving, save, savableReport, savable, bind, EStateM.bind]
  | some report =>
    cases built : SavedRule.ofSuccess report name (d.editor n).rawRule freshKey with
    | error refusal =>
      simp [saving, save, savableReport, building, savable, built, bind, EStateM.bind]
    | ok saved =>
      simp [saving, save, savableReport, building, savable, built, doing, bind, EStateM.bind, pure,
        EStateM.pure]
      rfl

/-! ### What refused operations leave behind -/

/-- A text is refused only where nothing is open, and then before anything is done. -/
theorem Sound.of_editing_eq_error (sound : d.Sound p host) {text : String}
    (refused : editing p n text d = .error cause d') :
    cause = .notOpen ∧ (d.editor n).uri = none ∧ d' = d := by
  rw [editing_eq] at refused
  cases edited : d.edit p n text with
  | ok d'' => simp [edited] at refused
  | error cause' =>
    simp only [edited] at refused
    cases refused
    have closed := closed_of_perform_error (c := .edit text) (sound.inOrder n) edited
    simp only [edit, closed] at edited
    cases edited
    exact ⟨rfl, closed, rfl⟩

/-- A test is refused only where nothing is open, and then before anything is done. -/
theorem of_requesting_eq_error (refused : requesting i n d = .error cause d') :
    cause = .notOpen ∧ (d.editor n).uri = none ∧ d' = d := by
  cases opened : (d.editor n).uri with
  | none =>
    simp only [requesting, openUri, opened, bind, EStateM.bind] at refused
    cases refused
    exact ⟨rfl, rfl, rfl⟩
  | some uri =>
    simp [requesting, openUri, opened, doing, bind, EStateM.bind]
      at refused

/-- No call learns from its run that nothing is open: where nothing is open, no run counts. -/
theorem Sound.answer_ne_notOpen (sound : d.Sound p host) {uri : String} {request : Nat}
    {result : RunResult ρ ν ε} {asked : Bool}
    (found : d.call? i = some ⟨n, .awaiting uri request (.ended result), asked⟩) :
    d.answer n request asked result ≠ .failed .notOpen := by
  intro answered
  cases asked with
  | true => simp [answer_asked] at answered
  | false =>
    cases result with
    | report r =>
      cases opened : (d.editor n).uri with
      | none =>
        have old := ((sound.inOrder n).overtaken_of_closed opened found).request
        simp [answer, Nat.ne_of_lt old] at answered
      | some uri' =>
        obtain ⟨b, known⟩ := ((sound.inOrder n).buffer uri' opened).2
        simp only [answer, Bool.false_eq_true, if_false,
          Editor.buffer_of_opened opened known] at answered
        split at answered
        · cases answered
        · split at answered <;> cases answered
    | _ => simp [answer] at answered

/-- Only an event of its own makes a call answer. -/
theorem outcome?_react_of_ne (p : Bench) (host : ScriptHost σ ρ ν η ε) {e : Event}
    (other : e.call? ≠ some i) : (d.react p host e).outcome? i = d.outcome? i := by
  rcases call?_react_of_ne p host (d := d) other with same | ⟨k, stopped, _⟩
  · simp [outcome?, same]
  · cases found : d.call? i with
    | none => simp [outcome?, stopped, call?_abandonRun, found]
    | some c => by_cases current : (d.editor k).current = some i <;>
        simp [outcome?, stopped, call?_abandonRun, found, current]

/-- A call does not answer while its run goes on. -/
theorem outcome?_react_of_run (p : Bench) (host : ScriptHost σ ρ ν η ε) {e : Event}
    (unanswered : d.outcome? i = none) (own : e.call? = some i) (other : e ≠ .call i) :
    (d.react p host e).outcome? i = none := by
  cases e with
  | command k c => cases own
  | call j => exact absurd (congrArg Event.call (by simpa [Event.call?] using own)) other
  | run j =>
    obtain rfl : j = i := by simpa [Event.call?] using own
    simp only [react]
    cases found : d.call? j with
    | none => simpa [advanceRun, found] using unanswered
    | some c =>
      obtain ⟨k, phase, asked⟩ := c
      cases phase with
      | awaiting uri request run =>
        obtain ⟨run', after⟩ := call?_advanceRun p host found
        simp [outcome?, after, TestCall.outcome?]
      | _ => simpa [advanceRun, found] using unanswered
  | lowering j =>
    obtain rfl : j = i := by simpa [Event.call?] using own
    simp only [react, finishLowering]
    split
    · next found => simp [outcome?, found, TestCall.outcome?]
    · exact unanswered

/-- The event with which a call is refused does nothing else: the call begins in an editor that has
nothing open. -/
theorem react_of_refused (sound : d.Sound p host) {e : Event} (unanswered : d.outcome? i = none)
    (refused : (d.react p host e).outcome? i = some (.failed .notOpen)) :
    ∃ n, d.Begins n i e ∧ (d.editor n).uri = none ∧
      d.react p host e = d.endCall i (.failed .notOpen) := by
  have own : e.call? = some i := by
    refine Decidable.not_not.mp fun other => ?_
    rw [outcome?_react_of_ne p host other, unanswered] at refused
    cases refused
  have begins : e = .call i := by
    refine Classical.byContradiction fun other => ?_
    rw [outcome?_react_of_run p host unanswered own other] at refused
    cases refused
  subst begins
  cases found : d.call? i with
  | none => simp [react, advanceCall, found, unanswered] at refused
  | some c =>
    obtain ⟨k, phase, asked⟩ := c
    cases phase with
    | scheduled =>
      cases asked with
      | true => simp [react, advanceCall, found, outcome?, TestCall.outcome?] at refused
      | false =>
        have begins : d.react p host (.call i) = d.beginCall i k := by
          simp [react, advanceCall, found]
        cases opened : (d.editor k).uri with
        | none => exact ⟨k, ⟨rfl, found⟩, opened, by simp [begins, beginCall, opened]⟩
        | some uri =>
          rw [begins, outcome?, call?_beginCall opened, if_pos rfl] at refused
          cases waits : (d.abandonRun k).call? i <;> simp [waits, TestCall.outcome?] at refused
    | awaiting uri request run =>
      cases run with
      | ended result =>
        have finishes : (d.react p host (.call i)).outcome? i =
            some (d.answer k request asked result) := by
          simp [react, advanceCall, found, outcome?, TestCall.outcome?]
        exact absurd (Option.some.inj (finishes.symm.trans refused))
          (sound.answer_ne_notOpen found)
      | _ => simp [react, advanceCall, found, unanswered] at refused
    | ended outcome => simp [react, advanceCall, found, unanswered] at refused

/-- A move that makes nothing happen makes no call answer. -/
theorem outcome?_move_of_quiet (p : Bench) (host : ScriptHost σ ρ ν η ε) {m : Move σ}
    (quiet : d.act m = none) (unanswered : d.outcome? i = none) :
    (d.move p host m).outcome? i = none := by
  cases found : d.call? i with
  | none =>
    rcases call?_move_of_none p host found quiet with absent | ⟨k, made⟩
    · simp [outcome?, absent]
    · simp [outcome?, made, TestCall.outcome?]
  | some c =>
    have before : c.outcome? = none := by simpa [outcome?, found] using unanswered
    obtain ⟨c', after, rfl | ⟨_, rfl⟩ | ⟨_, rfl⟩⟩ := call?_move_of_quiet p host quiet found
    · simp [outcome?, after, before]
    · rw [outcome?, after]
      exact (TestCall.outcome?_stop c).trans before
    · simp [outcome?, after, before]

/-- A test call that is refused ends, and nothing else happens: the loop takes up the call, in an
editor that has nothing open. -/
theorem move_of_refused (sound : d.Sound p host) {m : Move σ} (unanswered : d.outcome? i = none)
    (refused : (d.move p host m).outcome? i = some (.failed .notOpen)) :
    ∃ n asked place, d.call? i = some ⟨n, .scheduled, asked⟩ ∧ (d.editor n).uri = none ∧
      m = .turn place ∧ d.ready[place]? = some (.call i) ∧ d.move p host m =
        ({ d with ready := d.ready.eraseIdx place } : Desk σ ρ ν ε).endCall i (.failed .notOpen) := by
  cases acts : d.act m with
  | none =>
    rw [outcome?_move_of_quiet p host acts unanswered] at refused
    cases refused
  | some e =>
    cases m with
    | command k c =>
      obtain ⟨_, begins, _⟩ := react_of_refused sound unanswered refused
      cases begins.1
    | turn place =>
      simp only [act] at acts
      split at acts
      · cases acts
      · next going =>
        have handled : d.move p host (.turn place) =
            ({ d with ready := d.ready.eraseIdx place } : Desk σ ρ ν ε).react p host e := by
          simp [move, turn, acts, handle, going]
        rw [handled] at refused ⊢
        obtain ⟨n, begins, closed, same⟩ :=
          react_of_refused (sound.taken (d.ready.eraseIdx place)) unanswered refused
        obtain rfl := begins.1
        exact ⟨n, false, place, begins.2, closed, rfl, acts, same⟩
    | _ => cases acts

/-- Saving is refused before anything is done. -/
theorem of_saving_eq_error {name : Data} {freshKey : String}
    (refused : saving n name freshKey d = .error cause d') :
    d.save n name freshKey = .error cause ∧ d' = d := by
  rw [saving_eq] at refused
  cases saved : d.save n name freshKey with
  | ok result => simp [saved] at refused
  | error cause' =>
    simp only [saved] at refused
    cases refused
    exact ⟨rfl, rfl⟩

/-- A generated key has no bearing on the rest of what is saved, and none at all on a rule that has
been stored before. -/
theorem save_of_key {key key' : String} (nonEmpty : key ≠ "") (nonEmpty' : key' ≠ "") (n : Nat)
    (name : Data) (d : Desk σ ρ ν ε) :
    (d.save n name key').map Prod.fst = (d.save n name key).map fun result =>
      if (d.editor n).rawRule.isSome then result.1 else result.1.underKey key' := by
  unfold save
  dsimp only
  cases (d.editor n).savable? d.buffers with
  | none => rfl
  | some report =>
    dsimp only
    rw [SavedRule.ofSuccess_of_key nonEmpty nonEmpty']
    cases SavedRule.ofSuccess report name (d.editor n).rawRule key <;> rfl

/-- An operation that is refused leaves everything as it was. Taken step by step, an edit or a test
is refused only where nothing is open, and it or a refused saving has changed nothing of the desk
when it is refused, be it the editor, its run, its notifier or a buffer. A test call that is refused
ends, and that is all that happens. Whatever happens after a refused saving, the next one gives what
it would have given without it, up to a key that is generated. -/
theorem Reachable.refused_leaves_all (h : Reachable p host d) (n : Nat) :
    (∀ text cause d', editing p n text d = .error cause d' →
      cause = .notOpen ∧ (d.editor n).uri = none ∧ d' = d ∧
        d.move p host (.command n (.edit text)) = d) ∧
    (∀ i cause d', requesting i n d = .error cause d' →
      cause = .notOpen ∧ (d.editor n).uri = none ∧ d' = d) ∧
    (∀ i m, d.outcome? i = none → (d.move p host m).outcome? i = some (.failed .notOpen) →
      ∃ k asked place, d.call? i = some ⟨k, .scheduled, asked⟩ ∧ (d.editor k).uri = none ∧
        m = .turn place ∧ d.ready[place]? = some (.call i) ∧ d.move p host m =
          ({ d with ready := d.ready.eraseIdx place } : Desk σ ρ ν ε).endCall i
            (.failed .notOpen)) ∧
    ∀ name freshKey cause d', saving n name freshKey d = .error cause d' →
      d' = d ∧ d.move p host (.save n name freshKey) = d ∧
        ∀ ms k name' key key', key ≠ "" → key' ≠ "" →
          ((d'.after p host ms).save k name' key').map Prod.fst =
            ((d.after p host ms).save k name' key).map fun result =>
              if ((d.after p host ms).editor k).rawRule.isSome then result.1
              else result.1.underKey key' := by
  refine ⟨fun text cause d' refused => ?_, fun i cause d' => of_requesting_eq_error,
    fun i m => move_of_refused h.sound, fun name freshKey cause d' refused => ?_⟩
  · obtain ⟨what, closed, same⟩ := h.sound.of_editing_eq_error refused
    refine ⟨what, closed, same, ?_⟩
    simp [Desk.move, react, perform, edit, closed, Except.toOption]
  · obtain ⟨saved, rfl⟩ := of_saving_eq_error refused
    refine ⟨rfl, by simp [Desk.move, saved, Except.toOption], fun ms k name' key key' => ?_⟩
    exact fun nonEmpty nonEmpty' => save_of_key nonEmpty nonEmpty' k name' _

/-- On a desk where a rule has been tested, a name that nobody could see is refused, and the rule is
saved under another one afterwards. Before anything was opened, an edit and a test are refused. -/
theorem grouping_refused :
    (∃ cause d', saving 0 (.str " ") "new" (sampleAfter groupingScript 5) = .error cause d' ∧
      d' = sampleAfter groupingScript 5 ∧
      ∃ saved d'', d'.save 0 (.str "visible") "newer" = .ok (saved, d'') ∧
        ((sampleAfter groupingScript 5).save 0 (.str "visible") "new").map Prod.fst = .ok saved) ∧
    ∃ d, d = sampleDesk.after sampleBench Execution.host [.start 0] ∧
      (∃ d', editing sampleBench 0 "" d = .error .notOpen d' ∧ d' = d) ∧
      (∃ d', requesting 0 0 d = .error .notOpen d' ∧ d' = d) ∧
      d.move sampleBench Execution.host (.turn 0) =
        ({ d with ready := [] } : Desk _ _ _ _).endCall 0 (.failed .notOpen) := by
  have reachable := reachable_sampleAfter groupingScript 5
  refine ⟨?_, _, rfl, ?_⟩
  · have evaluated : ((sampleAfter groupingScript 5).save 0 (.str " ") "new").toOption.isNone &&
        (((sampleAfter groupingScript 5).save 0 (.str "visible") "newer").toOption.isSome &&
          ((sampleAfter groupingScript 5).editor 0).rawRule.isSome) := by decide +kernel
    obtain ⟨invisible, accepted, stored⟩ := by simpa only [Bool.and_eq_true] using evaluated
    cases refused : (sampleAfter groupingScript 5).save 0 (.str " ") "new" with
    | ok result =>
      rw [refused] at invisible
      cases invisible
    | error cause =>
      obtain ⟨-, -, -, leaves⟩ := Reachable.refused_leaves_all reachable 0
      obtain ⟨same, -, later⟩ := leaves (.str " ") "new" cause _ (by rw [saving_eq, refused])
      have later := later [] 0 (.str "visible") "newer" "new" (by decide) (by decide)
      cases saved : (sampleAfter groupingScript 5).save 0 (.str "visible") "newer" with
      | error cause =>
        rw [saved] at accepted
        cases accepted
      | ok result =>
        refine ⟨cause, _, by rw [saving_eq, refused], same, result.1, result.2, saved, ?_⟩
        rw [after_nil, saved] at later
        simp only [stored, if_true] at later
        exact later
  · have reachable : Reachable sampleBench Execution.host
        (sampleDesk.after sampleBench Execution.host [.start 0]) := (Reachable.fresh ..).after _
    obtain ⟨edits, tests, calls, -⟩ := Reachable.refused_leaves_all reachable 0
    obtain ⟨-, -, editSame, -⟩ := edits "" .notOpen _ rfl
    obtain ⟨-, -, testSame⟩ := tests 0 .notOpen _ rfl
    obtain ⟨_, _, place, _, _, turn, _, ends⟩ := calls 0 (.turn 0) rfl rfl
    cases turn
    exact ⟨⟨_, rfl, editSame⟩, ⟨_, rfl, testSame⟩, ends⟩

end Desk

end RuleBench
