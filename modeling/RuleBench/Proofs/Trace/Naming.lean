import Mathlib.Data.List.Nodup
import RuleBench.Proofs.Trace.History

/-!
# Names of records

A record goes by the identifier of its trace and that of its span, with a slash between them. No trace
is on a stage twice, but nothing keeps a trace from having two spans of one identifier, and identifiers
may hold slashes of their own. The main statement is that two records of a stage go by one name in
these two cases and in no other (`id_eq_id_iff`), so that a name tells its record from all others
that cannot be confused with it (`tells_of_getElem?`).
-/

namespace RuleBench

/-! ### Texts with a slash between them -/

/-- A list that is split at a separator twice is split at the same one, or at one of them further on. -/
theorem append_cons_eq_append_cons_iff {α : Type} {x : α} {as bs cs ds : List α} :
    as ++ x :: bs = cs ++ x :: ds ↔ (as = cs ∧ bs = ds) ∨
      (∃ m, cs = as ++ x :: m ∧ bs = m ++ x :: ds) ∨ ∃ m, as = cs ++ x :: m ∧ ds = m ++ x :: bs := by
  constructor
  · intro same
    rcases List.append_eq_append_iff.mp same with ⟨between, later, rest⟩ | ⟨between, later, rest⟩
    · cases between with
      | nil => exact .inl ⟨by simp [later], (List.cons.inj rest).2⟩
      | cons y m =>
        obtain ⟨rfl, tail⟩ := List.cons_eq_cons.mp rest
        exact .inr (.inl ⟨m, later, tail⟩)
    · cases between with
      | nil => exact .inl ⟨by simp [later], (List.cons.inj rest).2.symm⟩
      | cons y m =>
        obtain ⟨rfl, tail⟩ := List.cons_eq_cons.mp rest
        exact .inr (.inr ⟨m, later, tail⟩)
  · rintro (⟨rfl, rfl⟩ | ⟨m, rfl, rfl⟩ | ⟨m, rfl, rfl⟩) <;> simp

/-- One text split at two slashes, the second time further on: what lies between the slashes ends the
first part of the second split and begins the rest of the first one. -/
def Straddles (first rest first' rest' : String) : Prop :=
  ∃ between, first' = first ++ "/" ++ between ∧ rest = between ++ "/" ++ rest'

theorem straddles_iff {first rest first' rest' : String} : Straddles first rest first' rest' ↔
    ∃ m, first'.toList = first.toList ++ '/' :: m ∧ rest.toList = m ++ '/' :: rest'.toList := by
  constructor
  · rintro ⟨m, rfl, rfl⟩
    exact ⟨m.toList, by simp, by simp⟩
  · rintro ⟨m, first, rest⟩
    exact ⟨String.ofList m, String.toList_inj.mp (by simp [first]),
      String.toList_inj.mp (by simp [rest])⟩

theorem slashed_eq_slashed_iff {first rest first' rest' : String} :
    first ++ "/" ++ rest = first' ++ "/" ++ rest' ↔ (first = first' ∧ rest = rest') ∨
      Straddles first rest first' rest' ∨ Straddles first' rest' first rest := by
  rw [← String.toList_inj, straddles_iff, straddles_iff, ← @String.toList_inj first,
    ← @String.toList_inj rest]
  simpa using append_cons_eq_append_cons_iff

/-! ### Records of a stage -/

namespace TraceRecord

/-- What gives two records one name: they are spans of one trace with one identifier, or there are
slashes in their identifiers, so that more of the name belongs to the trace of the one and more to
the span of the other. -/
inductive Confusable (a b : TraceRecord) : Prop
  | repeated (trace : a.trace = b.trace) (span : a.span.id = b.span.id)
  | straddled (split : Straddles a.trace.id a.span.id b.trace.id b.span.id)
  | straddling (split : Straddles b.trace.id b.span.id a.trace.id a.span.id)

/-- A name tells the record at a place: it is the name of that record and, at other places, of
exactly those that can be confused with it. -/
def Tells (rs : List TraceRecord) (name : String) (k : Nat) : Prop :=
  ∃ a, rs[k]? = some a ∧ a.id = name ∧
    ∀ j b, j ≠ k → rs[j]? = some b → (b.id = name ↔ a.Confusable b)

end TraceRecord

namespace TraceStore

section

variable {τ : Type} (idOf : τ → String) (ss : List (Step τ))

/-- A stage holds every trace under its identifier. -/
theorem fst_of_mem_entries {e : String × τ} (h : e ∈ (ofSteps idOf ss).entries) :
    e.1 = idOf e.2 := by
  obtain ⟨marks, _, entries⟩ := exists_records idOf ss
  rw [entries] at h
  obtain ⟨m, _, rfl⟩ := List.mem_map.mp h
  rfl

theorem ids_ofSteps : (ofSteps idOf ss).ids = (ofSteps idOf ss).traces.map idOf := by
  rw [ids, traces, List.map_map]
  exact List.map_congr_left fun e inside => fst_of_mem_entries idOf ss inside

/-- A trace comes onto the stage unless its identifier is there. -/
theorem traces_ofSteps_add (t : τ) : (ofSteps idOf (ss ++ [.add t])).traces =
    if idOf t ∈ (ofSteps idOf ss).traces.map idOf then (ofSteps idOf ss).traces
    else (ofSteps idOf ss).traces ++ [t] := by
  rw [ofSteps_concat, ← ids_ofSteps, perform]
  cases taken : (ofSteps idOf ss).contains (idOf t) with
  | true =>
    have inside : idOf t ∈ (ofSteps idOf ss).ids := by simpa [contains] using taken
    rw [add_of_mem taken, if_pos inside]
  | false =>
    rw [if_neg (not_mem_ids taken), traces, entries_add_of_not_mem taken, List.map_append]
    rfl

theorem traces_ofSteps_remove (id : String) : (ofSteps idOf (ss ++ [.remove id])).traces =
    (ofSteps idOf ss).traces.filter fun t => idOf t != id := by
  rw [ofSteps_concat, perform, traces, traces, entries_remove, List.filter_map]
  refine congrArg (List.map Prod.snd) (List.filter_congr fun e inside => ?_)
  rw [fst_of_mem_entries idOf ss inside]
  rfl

end

theorem nodup_ids_ofSteps (ss : List (Step Trace)) :
    ((ofSteps Trace.id ss).traces.map Trace.id).Nodup := by
  rw [← ids_ofSteps]
  exact (ofSteps Trace.id ss).nodup

theorem trace_mem_of_mem_records {s : TraceStore Trace} {r : TraceRecord} (h : r ∈ s.records) :
    r.trace ∈ s.traces := by
  obtain ⟨t, inside, here⟩ := List.mem_flatMap.mp h
  obtain ⟨span, _, rfl⟩ := List.mem_map.mp here
  exact inside

variable (ss : List (Step Trace)) {a b : TraceRecord}

/-- Two records of a stage have one name exactly if they can be confused. -/
theorem id_eq_id_iff (ha : a ∈ (ofSteps Trace.id ss).records)
    (hb : b ∈ (ofSteps Trace.id ss).records) : a.id = b.id ↔ a.Confusable b := by
  unfold TraceRecord.id
  rw [slashed_eq_slashed_iff]
  constructor
  · rintro (⟨trace, span⟩ | split | split)
    · have same := List.inj_on_of_nodup_map (nodup_ids_ofSteps ss) (trace_mem_of_mem_records ha)
        (trace_mem_of_mem_records hb) trace
      exact .repeated same span
    · exact .straddled split
    · exact .straddling split
  · rintro (⟨trace, span⟩ | split | split)
    · exact .inl ⟨congrArg Trace.id trace, span⟩
    · exact .inr (.inl split)
    · exact .inr (.inr split)

/-- The names of all records differ exactly if no two records can be confused. -/
theorem nodup_ids_iff : ((ofSteps Trace.id ss).records.map TraceRecord.id).Nodup ↔
    (ofSteps Trace.id ss).records.Pairwise fun a b => ¬ a.Confusable b := by
  rw [List.Nodup, List.pairwise_map]
  exact List.Pairwise.iff_of_mem fun ha hb => not_congr (id_eq_id_iff ss ha hb)

/-- The name of a record tells it. -/
theorem tells_of_getElem? {k : Nat} (h : (ofSteps Trace.id ss).records[k]? = some a) :
    TraceRecord.Tells (ofSteps Trace.id ss).records a.id k := by
  refine ⟨a, h, rfl, fun j b _ there => ?_⟩
  rw [eq_comm]
  exact id_eq_id_iff ss (List.mem_of_getElem? h) (List.mem_of_getElem? there)

end TraceStore

end RuleBench
