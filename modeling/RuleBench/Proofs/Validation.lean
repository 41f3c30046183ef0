import Mathlib.Data.List.Forall2
import Mathlib.Data.List.Pairwise
import RuleBench.Trace.Span

/-!
# When data is valid

What a rule needs in order to accept, taken apart along the combinators that rules are made of. Each
combinator has one equivalence, so that the same lemma reads the parts off a valid value and puts
them together again.
-/

namespace RuleBench

open RuleBench.Validation

theorem toOption_eq_some {ε α : Type} {x : Except ε α} {a : α} :
    x.toOption = some a ↔ x = .ok a := by
  cases x <;> simp [Except.toOption]

/-- Entries with texts for keys. -/
theorem Data.lookup?_str (name key : String) (value : Data) (es : List (Data × Data)) :
    Data.lookup? name ((.str key, value) :: es) =
      if key = name then some value else Data.lookup? name es := by
  have same : (Data.str key).equals (.str name) = decide (key = name) := by
    simp only [equals, magnitude?, content, sameAtom]
    rfl
  simp only [lookup?, List.find?_cons, same]
  by_cases h : key = name <;> simp [h]

/-- What is found in a mapping is in it. -/
theorem Data.mem_of_lookup? {name : String} {es : List (Data × Data)} {d : Data}
    (h : Data.lookup? name es = some d) : ∃ key, (key, d) ∈ es := by
  simp only [lookup?, Option.map_eq_some_iff] at h
  obtain ⟨⟨key, d'⟩, found, rfl⟩ := h
  exact ⟨key, List.mem_of_find?_eq_some found⟩

namespace Validation

variable {α β : Type}

namespace Checked

/-- A record is valid if both of its parts are, and only then. -/
theorem and_eq_valid {f : Checked (α → β)} {x : Checked α} {b : β} :
    f.and x = .valid b ↔ ∃ g a, f = .valid g ∧ x = .valid a ∧ g a = b := by
  cases f <;> cases x <;> simp [and]

theorem map_eq_valid {f : α → β} {x : Checked α} {b : β} :
    x.map f = .valid b ↔ ∃ a, x = .valid a ∧ f a = b := by
  cases x <;> simp [map]

theorem bind_eq_valid {x : Checked α} {f : α → Checked β} {b : β} :
    x.bind f = .valid b ↔ ∃ a, x = .valid a ∧ f a = .valid b := by
  cases x <;> simp [bind]

@[simp] theorem under_eq_valid {step : Step} {x : Checked α} {a : α} :
    x.under step = .valid a ↔ x = .valid a := by
  cases x <;> simp [under]

theorem sequence_eq_valid {xs : List (Checked α)} {as : List α} :
    sequence xs = .valid as ↔ xs = as.map .valid := by
  induction xs generalizing as with
  | nil => cases as <;> simp [sequence]
  | cons x xs ih =>
    constructor
    · intro h
      obtain ⟨_, rest, first, hrest, rfl⟩ := and_eq_valid.mp h
      obtain ⟨a, rfl, rfl⟩ := map_eq_valid.mp first
      simp [ih.mp hrest]
    · intro h
      cases as with
      | nil => cases h
      | cons a as =>
        obtain ⟨rfl, rest⟩ := List.cons.inj h
        simp [sequence, ih.mpr rest]

theorem titled_eq_ok {title : String} {x : Checked α} {a : α} :
    x.titled title = .ok a ↔ x = .valid a := by
  cases x <;> simp [titled]

end Checked

/-! ### Plain values -/

@[simp] theorem text_str (s : String) : text (.str s) = .valid s := rfl

@[simp] theorem integer_int (n : Int) : integer (.int n) = .valid n := rfl

/-- A text that is accepted is accepted as it is. -/
theorem nonEmptyText_str {d : Data} {s : String} (h : nonEmptyText d = .valid s) :
    nonEmptyText (.str s) = .valid s := by
  obtain ⟨s', _, chosen⟩ := Checked.bind_eq_valid.mp h
  have same : s' = s := by
    split at chosen
    · cases chosen
    · cases chosen; rfl
  subst same
  exact chosen

theorem visibleText_str {d : Data} {s : String} (h : visibleText d = .valid s) :
    visibleText (.str s) = .valid s := by
  obtain ⟨s', nonEmpty, chosen⟩ := Checked.bind_eq_valid.mp h
  have same : s' = s := by
    split at chosen
    · cases chosen
    · cases chosen; rfl
  subst same
  have accepted := nonEmptyText_str nonEmpty
  unfold visibleText
  rw [accepted]
  exact chosen

theorem optional_eq_valid {rule : Rule α} {d : Data} {o : Option α}
    (h : optional rule d = .valid o) : ∀ a ∈ o, rule d = .valid a := by
  intro a inside
  have opened : d = .none ∨ optional rule d = (rule d).map some := by
    cases d <;> simp [optional]
  rcases opened with rfl | opened
  · cases h
    cases inside
  · rw [opened] at h
    obtain ⟨a', found, rfl⟩ := Checked.map_eq_valid.mp h
    cases inside
    exact found

/-- A value that is there is read back, and so is none. -/
theorem optional_ofOption {rule : Rule α} {dump : α → Data} {o : Option α}
    (present : ∀ a, dump a ≠ .none) (back : ∀ a ∈ o, rule (dump a) = .valid a) :
    optional rule (.ofOption dump o) = .valid o := by
  cases o with
  | none => rfl
  | some a =>
    have opened : optional rule (dump a) = (rule (dump a)).map some := by
      have := present a
      unfold optional
      split
      · contradiction
      · rfl
    rw [Data.ofOption, opened, back a rfl]
    rfl

/-! ### Sequences -/

theorem each_eq_valid {rule : Rule α} {ds : List Data} {as : List α} :
    each rule ds = .valid as ↔ List.Forall₂ (fun d a => rule d = .valid a) ds as := by
  suffices h : ∀ k, (ds.zipIdx k).map (fun e => (rule e.1).under (.index e.2)) = as.map .valid ↔
      List.Forall₂ (fun d a => rule d = .valid a) ds as by
    rw [each, Checked.sequence_eq_valid]
    exact h 0
  induction ds generalizing as with
  | nil => cases as <;> simp
  | cons d ds ih =>
    intro k
    cases as with
    | nil => simp
    | cons a as => simp [ih]

/-- Every item was made of some part of the data. -/
theorem exists_of_each {rule : Rule α} {ds : List Data} {as : List α}
    (h : List.Forall₂ (fun d a => rule d = .valid a) ds as) {a : α} (inside : a ∈ as) :
    ∃ d ∈ ds, rule d = .valid a := by
  induction h with
  | nil => cases inside
  | cons first _ ih =>
    rcases List.mem_cons.mp inside with rfl | inside
    · exact ⟨_, .head _, first⟩
    · obtain ⟨d, there, valid⟩ := ih inside
      exact ⟨d, .tail _ there, valid⟩

theorem sequence_eq_valid {rule : Rule α} {d : Data} {s : Items α}
    (h : sequence rule d = .valid s) :
    ∃ ds, (d.content = .list ds ∨ d.content = .tuple ds) ∧
      List.Forall₂ (fun d a => rule d = .valid a) ds s.items := by
  unfold sequence at h
  split at h
  · next ds content =>
    obtain ⟨as, found, rfl⟩ := Checked.map_eq_valid.mp h
    exact ⟨ds, .inl content, each_eq_valid.mp found⟩
  · next ds content =>
    obtain ⟨as, found, rfl⟩ := Checked.map_eq_valid.mp h
    exact ⟨ds, .inr content, each_eq_valid.mp found⟩
  all_goals cases h

/-- Items of which each is read back are read back together, in the same kind of sequence. -/
theorem sequence_toData {rule : Rule α} {dump : α → Data} {s : Items α}
    (back : ∀ a ∈ s.items, rule (dump a) = .valid a) :
    sequence rule (s.map dump).toData = .valid s := by
  obtain ⟨form, as⟩ := s
  have all : each rule (as.map dump) = .valid as := by
    rw [each_eq_valid, List.forall₂_map_left_iff, List.forall₂_same]
    exact back
  cases form <;> simp [sequence, Items.toData, Items.map, Data.content, all]

/-! ### Mappings -/

theorem map_fst_putEntry (name : String) (d : Data) (es : List (String × Data)) :
    (putEntry name d es).map (·.1) =
      if name ∈ es.map (·.1) then es.map (·.1) else es.map (·.1) ++ [name] := by
  induction es with
  | nil => simp [putEntry]
  | cons e es ih =>
    obtain ⟨n, v⟩ := e
    by_cases h : n = name
    · simp [putEntry, h]
    · simp only [putEntry, beq_false_of_ne h, Bool.false_eq_true, if_false, List.map_cons, ih,
        List.mem_cons, Ne.symm h, false_or]
      split <;> simp

theorem mem_putEntry {name : String} {d : Data} {es : List (String × Data)} {e : String × Data}
    (h : e ∈ putEntry name d es) : e.2 = d ∨ e ∈ es := by
  induction es with
  | nil =>
    left
    simpa [putEntry] using congrArg Prod.snd (List.mem_singleton.mp h)
  | cons f es ih =>
    obtain ⟨n, v⟩ := f
    simp only [putEntry] at h
    split at h
    · rcases List.mem_cons.mp h with rfl | inside
      · exact .inl rfl
      · exact .inr (.tail _ inside)
    · rcases List.mem_cons.mp h with rfl | inside
      · exact .inr (.head _)
      · exact (ih inside).imp_right (.tail _)

/-- A name that is not there yet goes to the end. -/
theorem putEntry_of_not_mem {name : String} {d : Data} {es : List (String × Data)}
    (h : name ∉ es.map (·.1)) : putEntry name d es = es ++ [(name, d)] := by
  induction es with
  | nil => rfl
  | cons e es ih =>
    obtain ⟨n, v⟩ := e
    obtain ⟨other, rest⟩ : ¬name = n ∧ name ∉ es.map (·.1) := by simpa using h
    simp [putEntry, beq_false_of_ne (Ne.symm other), ih rest]

variable {named : List (String × Data)}

theorem nodup_putEntries (es : List (String × Data)) (h : (es.map (·.1)).Nodup) :
    ((named.foldl (fun acc e => putEntry e.1 e.2 acc) es).map (·.1)).Nodup := by
  induction named generalizing es with
  | nil => exact h
  | cons e named ih =>
    refine ih _ ?_
    rw [map_fst_putEntry]
    split
    · exact h
    · next absent => exact List.nodup_append.mpr ⟨h, by simp, by grind⟩

theorem mem_putEntries (es : List (String × Data)) {e : String × Data}
    (h : e ∈ named.foldl (fun acc e => putEntry e.1 e.2 acc) es) :
    e ∈ es ∨ ∃ f ∈ named, f.2 = e.2 := by
  induction named generalizing es with
  | nil => exact .inl h
  | cons f named ih =>
    rcases ih _ h with inside | ⟨g, inside, same⟩
    · rcases mem_putEntry inside with same | inside
      · exact .inr ⟨f, .head _, same.symm⟩
      · exact .inl inside
    · exact .inr ⟨g, .tail _ inside, same⟩

/-- Names that differ stay as they are. -/
theorem putEntries_of_nodup (es : List (String × Data)) (h : ((es ++ named).map (·.1)).Nodup) :
    named.foldl (fun acc e => putEntry e.1 e.2 acc) es = es ++ named := by
  induction named generalizing es with
  | nil => simp
  | cons e named ih =>
    have absent : e.1 ∉ es.map (·.1) := by
      rw [List.map_append, List.map_cons] at h
      exact fun inside => (List.nodup_append.mp h).2.2 e.1 inside e.1 (.head _) rfl
    rw [List.foldl_cons, putEntry_of_not_mem absent, ih]
    · simp
    · simpa using h

/-- A mapping has every name once, and what it holds was in the data. -/
theorem mapping_eq_valid {d : Data} {m : List (String × Data)} (h : mapping d = .valid m) :
    (m.map (·.1)).Nodup ∧ ∃ es, d.content = .dict es ∧ ∀ e ∈ m, ∃ f ∈ es, f.2 = e.2 := by
  unfold mapping at h
  split at h
  · next es content =>
    obtain ⟨named, sequenced, rfl⟩ := Checked.map_eq_valid.mp h
    refine ⟨nodup_putEntries [] (by simp), es, content, fun e inside => ?_⟩
    obtain ⟨f, inside, same⟩ := (mem_putEntries [] inside).resolve_left (by simp)
    have valid := Checked.sequence_eq_valid.mp sequenced
    have entry : Checked.valid f ∈ named.map .valid := List.mem_map_of_mem inside
    rw [← valid, List.mem_map] at entry
    obtain ⟨g, here, made⟩ := entry
    obtain ⟨_, _, rfl⟩ := Checked.map_eq_valid.mp made
    exact ⟨g, here, same⟩
  · cases h

/-- A mapping in which no name stands twice is read as it is. -/
theorem mapping_toData {m : Mapping} (h : (m.map (·.1)).Nodup) :
    mapping (Mapping.toData m) = .valid m := by
  have entries : (m.map fun e => (Data.str e.1, e.2)).map (fun e =>
      ((((text e.1).under (.key "[key]")).under (keyStep e.1)).map fun k => (k, e.2))) =
        m.map .valid := by
    simp
  simp only [mapping, Mapping.toData, Data.content, entries,
    Checked.sequence_eq_valid.mpr rfl, Checked.map_valid, putEntries_of_nodup [] (by simpa using h),
    List.nil_append]

/-! ### Fields -/

theorem required_eq_valid {field : FieldName} {rule : Rule α} {es : List (Data × Data)} {a : α}
    (h : required field rule es = .valid a) :
    ∃ key d, entryFor? field es = some (key, d) ∧ rule d = .valid a := by
  unfold required at h
  split at h
  · next key d found => exact ⟨key, d, found, Checked.under_eq_valid.mp h⟩
  · cases h

theorem withDefault_eq_valid {field : FieldName} {value : α} {rule : Rule α}
    {es : List (Data × Data)} {a : α} (h : withDefault field value rule es = .valid a) :
    a = value ∨ ∃ key d, entryFor? field es = some (key, d) ∧ rule d = .valid a := by
  unfold withDefault at h
  split at h
  · next key d found => exact .inr ⟨key, d, found, Checked.under_eq_valid.mp h⟩
  · cases h
    exact .inl rfl

theorem mem_of_entryFor? {field : FieldName} {es : List (Data × Data)} {key : String} {d : Data}
    (h : entryFor? field es = some (key, d)) : ∃ k, (k, d) ∈ es := by
  unfold entryFor? at h
  split at h
  · next d' found =>
    cases h
    exact Data.mem_of_lookup? found
  · obtain ⟨d', found, same⟩ := Option.map_eq_some_iff.mp h
    cases same
    exact Data.mem_of_lookup? found

theorem record_eq_valid {name : String} {fields : List (Data × Data) → Checked α} {d : Data}
    {a : α} : record name fields d = .valid a ↔
      ∃ es, d.content = .dict es ∧ fields es = .valid a := by
  constructor
  · intro h
    unfold record at h
    split at h
    · next es content => exact ⟨es, content, h⟩
    · cases h
  · rintro ⟨es, content, h⟩
    simp [record, content, h]

/-- Two fields that have no name in common. -/
def FieldName.Apart (f g : FieldName) : Prop :=
  f.wire ≠ g.wire ∧ f.wire ≠ g.name ∧ f.name ≠ g.wire ∧ f.name ≠ g.name

instance (f g : FieldName) : Decidable (f.Apart g) := by
  unfold FieldName.Apart
  infer_instance

instance : Std.Symm FieldName.Apart :=
  ⟨fun _ _ h => ⟨h.1.symm, h.2.2.1.symm, h.2.1.symm, h.2.2.2.symm⟩⟩

/-- The entries of a dump. -/
def dumped (naming : Naming) (fields : List (FieldName × Data)) : List (Data × Data) :=
  fields.map fun f => (.str (f.1.under naming), f.2)

theorem lookup?_dumped_of_forall_ne {naming : Naming} {fields : List (FieldName × Data)}
    {name : String} (h : ∀ f ∈ fields, f.1.under naming ≠ name) :
    Data.lookup? name (dumped naming fields) = none := by
  induction fields with
  | nil => rfl
  | cons f fields ih =>
    have first := h f (.head _)
    rw [dumped, List.map_cons, Data.lookup?_str, if_neg first]
    exact ih fun g inside => h g (.tail _ inside)

theorem lookup?_dumped {naming : Naming} {fields : List (FieldName × Data)} {field : FieldName}
    {d : Data} (others : ∀ f ∈ fields, f.1 = field ∨ f.1.under naming ≠ field.under naming)
    (found : fields.lookup field = some d) :
    Data.lookup? (field.under naming) (dumped naming fields) = some d := by
  induction fields with
  | nil => cases found
  | cons f fields ih =>
    obtain ⟨g, d'⟩ := f
    rw [dumped, List.map_cons, Data.lookup?_str]
    by_cases own : g = field
    · subst own
      simpa using found
    · rw [if_neg ((others (g, d') (.head _)).resolve_left own)]
      refine ih (fun f inside => others f (.tail _ inside)) ?_
      simpa [List.lookup_cons, beq_false_of_ne (Ne.symm own)] using found

/-- In a dump every field is found, under whichever of its names it was dumped. -/
theorem entryFor?_dumped {naming : Naming} {fields : List (FieldName × Data)}
    (apart : (fields.map (·.1)).Pairwise FieldName.Apart) {field : FieldName} {d : Data}
    (found : fields.lookup field = some d) :
    entryFor? field (dumped naming fields) = some (field.under naming, d) := by
  have inside : field ∈ fields.map (·.1) := by
    obtain ⟨before, after, rfl, -⟩ := List.lookup_eq_some_iff.mp found
    simp
  have others (f : FieldName × Data) (here : f ∈ fields) : f.1 = field ∨ f.1.Apart field := by
    by_cases own : f.1 = field
    · exact .inl own
    · exact .inr (apart.forall (List.mem_map_of_mem here) inside own)
  unfold entryFor?
  cases naming with
  | wire =>
    have here : Data.lookup? (field.under .wire) (dumped .wire fields) = some d :=
      lookup?_dumped (fun f h => (others f h).imp_right fun far => far.1) found
    rw [show field.wire = field.under .wire from rfl, here]
  | library =>
    have here : Data.lookup? (field.under .library) (dumped .library fields) = some d :=
      lookup?_dumped (fun f h => (others f h).imp_right fun far => far.2.2.2) found
    by_cases same : field.wire = field.name
    · rw [same, show field.name = field.under .library from rfl, here]
    · have absent : Data.lookup? field.wire (dumped .library fields) = none := by
        refine lookup?_dumped_of_forall_ne fun f h => ?_
        rcases others f h with own | far
        · rw [own]
          exact Ne.symm same
        · exact far.2.2.1
      rw [absent, show field.name = field.under .library from rfl, here]
      rfl

section

variable {naming : Naming} {fields : List (FieldName × Data)} {names : List FieldName}
  {rule : Rule α} {field : FieldName} {d : Data} {a : α}

/-- A field that is read back from what it was dumped as is read back from the dump of a record. -/
theorem required_dumped (apart : names.Pairwise FieldName.Apart) (back : rule d = .valid a)
    (found : fields.lookup field = some d := by rfl) (named : fields.map (·.1) = names := by rfl) :
    required field rule (dumped naming fields) = .valid a := by
  simp [required, entryFor?_dumped (named ▸ apart) found, back]

theorem withDefault_dumped (apart : names.Pairwise FieldName.Apart) (back : rule d = .valid a)
    (value : α) (found : fields.lookup field = some d := by rfl)
    (named : fields.map (·.1) = names := by rfl) :
    withDefault field value rule (dumped naming fields) = .valid a := by
  simp [withDefault, entryFor?_dumped (named ▸ apart) found, back]

end

end Validation

end RuleBench
