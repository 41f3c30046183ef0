import RuleBench.Proofs.Trace.ReadBack

/-!
# Traces that are read

A JSON text has no way to name a class, so that whatever is read from one is simple data
(`Json.isSimple_of_read`). What an export leaves open to the user, the mappings of its spans, is taken
over from that data as it is and so is simple too (`Trace.isSimple_of_readAll`).
-/

namespace RuleBench

open RuleBench.Validation

/-! ### Simple data of a text -/

namespace Data

theorem areSimpleEntries_insertEntry {key value : Data} (ofKey : key.isSimple)
    (ofValue : value.isSimple) {es : List (Data × Data)} (h : areSimpleEntries es) :
    areSimpleEntries (insertEntry key value es) := by
  induction es with
  | nil => simp [insertEntry, areSimpleEntries, ofKey, ofValue]
  | cons e es ih =>
    obtain ⟨k, v⟩ := e
    simp only [areSimpleEntries, Bool.and_eq_true] at h
    unfold insertEntry
    split
    · simp [areSimpleEntries, h, ofValue]
    · simp [areSimpleEntries, h, ih h.2]

theorem isSimple_ofEntries {es : List (Data × Data)} (h : areSimpleEntries es) :
    (ofEntries es).isSimple := by
  suffices ∀ acc, areSimpleEntries acc →
      areSimpleEntries (es.foldl (fun acc e => insertEntry e.1 e.2 acc) acc) from this [] rfl
  induction es with
  | nil => exact fun _ acc => acc
  | cons e es ih =>
    simp only [areSimpleEntries, Bool.and_eq_true] at h
    exact fun acc simple => ih h.2 _ (areSimpleEntries_insertEntry h.1.1 h.1.2 simple)

end Data

namespace Json

theorem bind_eq_ok {α β : Type} {x : Except ReadError α} {f : α → Except ReadError β} {b : β}
    (h : (x >>= f) = .ok b) : ∃ a, x = .ok a ∧ f a = .ok b := by
  cases x with
  | error e => cases h
  | ok a => exact ⟨a, rfl, h⟩

theorem isSimple_of_numberOf {cs : List Char} {isInteger : Bool} {d : Data}
    (h : numberOf cs isInteger = .ok d) : d.isSimple := by
  cases isInteger with
  | false =>
    cases h
    rfl
  | true =>
    simp only [numberOf, if_true] at h
    generalize (if (cs.head? == some '-') = true then cs.drop 1 else cs) = digits at h
    split at h
    · cases h
    · cases h
      rfl

theorem isSimple_of_words {w : String × Data} (h : w ∈ words) : w.2.isSimple := by
  simp only [words, List.mem_cons, List.not_mem_nil, or_false] at h
  rcases h with rfl | rfl | rfl | rfl | rfl | rfl <;> rfl

/-- All that is read with some fuel is simple. -/
structure ReadsSimple (fuel : Nat) : Prop where
  value {depth : Nat} {r r' : Rest} {d : Data} :
    readValue fuel depth r = .ok (d, r') → d.isSimple
  items {depth : Nat} {r r' : Rest} {ds : List Data} :
    readItems fuel depth r = .ok (ds, r') → Data.areSimple ds
  entries {depth : Nat} {r r' : Rest} {es : List (Data × Data)} :
    readEntries fuel depth r = .ok (es, r') → Data.areSimpleEntries es

theorem readsSimple (fuel : Nat) : ReadsSimple fuel := by
  induction fuel with
  | zero =>
    refine ⟨fun h => ?_, fun h => ?_, fun h => ?_⟩
    · rw [readValue] at h
      cases h
    · rw [readItems] at h
      cases h
    · rw [readEntries] at h
      cases h
  | succ fuel ih =>
    refine ⟨fun h => ?value, fun h => ?items, fun h => ?entries⟩
    case value =>
      rw [readValue] at h
      split at h
      · obtain ⟨_, _, h⟩ := bind_eq_ok h
        cases h
        rfl
      · split at h
        · cases h
        · dsimp only at h
          split at h
          · cases h
            rfl
          · obtain ⟨_, read, h⟩ := bind_eq_ok h
            cases h
            exact ih.items read
      · split at h
        · cases h
        · dsimp only at h
          split at h
          · cases h
            rfl
          · obtain ⟨_, read, h⟩ := bind_eq_ok h
            cases h
            exact Data.isSimple_ofEntries (ih.entries read)
      · split at h
        · next found =>
          cases h
          exact isSimple_of_words (List.mem_of_find?_eq_some found)
        · split at h
          · cases h
          · obtain ⟨_, number, h⟩ := bind_eq_ok h
            cases h
            exact isSimple_of_numberOf number
    case items =>
      rw [readItems] at h
      obtain ⟨⟨d, r⟩, read, h⟩ := bind_eq_ok h
      dsimp only at h
      split at h
      · cases h
        simp [Data.areSimple, ih.value read]
      · obtain ⟨_, others, h⟩ := bind_eq_ok h
        cases h
        simp [Data.areSimple, ih.value read, ih.items others]
      · cases h
    case entries =>
      rw [readEntries] at h
      split at h
      · obtain ⟨⟨key, r⟩, _, h⟩ := bind_eq_ok h
        dsimp only at h
        split at h
        · obtain ⟨⟨d, r⟩, read, h⟩ := bind_eq_ok h
          dsimp only at h
          split at h
          · cases h
            simp [Data.areSimpleEntries, Data.isSimple, ih.value read]
          · obtain ⟨_, others, h⟩ := bind_eq_ok h
            cases h
            simp [Data.areSimpleEntries, Data.isSimple, ih.value read, ih.entries others]
          · cases h
        · cases h
      · cases h

/-- Whatever is read is simple. -/
theorem isSimple_of_read {text : String} {d : Data} (h : read text = .ok d) : d.isSimple := by
  unfold read at h
  dsimp only at h
  split at h
  · cases h
  · obtain ⟨⟨d', r⟩, value, h⟩ := bind_eq_ok h
    dsimp only at h
    split at h
    · cases h
      exact (readsSimple _).value value
    · cases h

end Json

/-! ### Simple data of traces -/

/-- All values of a mapping are simple. -/
def Mapping.IsSimple (m : Mapping) : Prop := ∀ e ∈ m, e.2.isSimple

theorem Mapping.isSimple_of_mapping {d : Data} {m : Mapping} (simple : d.isSimple)
    (h : mapping d = .valid m) : m.IsSimple := by
  obtain ⟨_, es, content, held⟩ := mapping_eq_valid h
  intro e inside
  obtain ⟨f, here, same⟩ := held e inside
  rw [Data.content_of_isSimple simple] at content
  subst content
  exact same ▸ (Data.areSimpleEntries_iff.mp simple f here).2

theorem Mapping.isSimple_of_field {field : FieldName} {es : List (Data × Data)} {m : Mapping}
    (simple : Data.areSimpleEntries es) (h : withDefault field [] mapping es = .valid m) :
    m.IsSimple := by
  rcases withDefault_eq_valid h with rfl | ⟨_, d, found, valid⟩
  · exact fun _ inside => nomatch inside
  · obtain ⟨_, inside⟩ := mem_of_entryFor? found
    exact isSimple_of_mapping (Data.areSimpleEntries_iff.mp simple _ inside).2 valid

/-- All mappings of a span are simple, those of its logs and of its process among them. -/
structure Span.IsSimple (s : Span) : Prop where
  tags : Mapping.IsSimple s.tags
  logs : ∀ l ∈ s.logs.items, Mapping.IsSimple l.fields
  process : ∀ p ∈ s.process, Mapping.IsSimple p.tags

theorem Span.isSimple_of_rule {d : Data} {s : Span} (simple : d.isSimple)
    (h : Span.rule d = .valid s) : s.IsSimple := by
  obtain ⟨es, content, _, _, _, _, _, _, tags, logs, process, _, _⟩ := Span.rule_eq_valid.mp h
  have simple := Data.areSimpleEntries_of_content simple content
  refine ⟨Mapping.isSimple_of_field simple tags, ?_, ?_⟩
  · refine forall_of_sequenceField simple (fun {d l} simple made => ?_) logs
    obtain ⟨es, content, _, fields⟩ := SpanLog.rule_eq_valid.mp made
    exact Mapping.isSimple_of_field (Data.areSimpleEntries_of_content simple content) fields
  · refine forall_of_optionalField simple (fun {d p} simple made => ?_) process
    obtain ⟨es, content, _, tags⟩ := SpanProcess.rule_eq_valid.mp made
    exact Mapping.isSimple_of_field (Data.areSimpleEntries_of_content simple content) tags

namespace Trace

/-- All mappings of a trace are simple. -/
def IsSimple (t : Trace) : Prop := ∀ s ∈ t.spans.items, s.IsSimple

theorem isSimple_of_rule {d : Data} {t : Trace} (simple : d.isSimple) (h : rule d = .valid t) :
    t.IsSimple := by
  obtain ⟨es, content, _, spans⟩ := rule_eq_valid.mp h
  exact forall_of_sequenceField (Data.areSimpleEntries_of_content simple content)
    Span.isSimple_of_rule spans

/-- What holds of everything that simple data makes holds of all items of a list. -/
theorem forall_of_listOf {α : Type} {rule : Rule α} {P : α → Prop} {d : Data} (simple : d.isSimple)
    (made : ∀ {d a}, d.isSimple → rule d = .valid a → P a) {as : List α}
    (h : listOf rule d = .valid as) : ∀ a ∈ as, P a := by
  suffices ∃ ds, Data.areSimple ds ∧ each rule ds = .valid as by
    obtain ⟨ds, simple, all⟩ := this
    intro a here
    obtain ⟨d, there, valid⟩ := exists_of_each (each_eq_valid.mp all) here
    exact made (Data.areSimple_iff.mp simple d there) valid
  unfold listOf at h
  rw [Data.content_of_isSimple simple] at h
  split at h
  · exact ⟨_, simple, h⟩
  · exact ⟨_, simple, h⟩
  · cases h

/-- A single object stands for a list of it. -/
theorem isSimple_wrapped {d : Data} :
    d.isSimple → (if d matches .dict _ then Data.list [d] else d).isSimple := by
  intro h
  cases d with
  | dict es =>
    change Data.areSimple [.dict es] = true
    simp only [Data.areSimple, h, Bool.and_self]
  | _ => exact h

/-- All traces of an export are simple, whether it is a list or a single trace. -/
theorem isSimple_of_readAll {content : String} {ts : List Trace} (h : readAll content = .ok ts) :
    ∀ t ∈ ts, t.IsSimple := by
  unfold readAll at h
  split at h
  · cases h
  · next d read =>
    have simple := isSimple_wrapped (Json.isSimple_of_read read)
    dsimp only at h
    split at h
    · cases h
    · next made =>
      cases h
      exact forall_of_listOf simple isSimple_of_rule (Checked.titled_eq_ok.mp made)

end Trace

end RuleBench
