import RuleBench.Proofs.Data
import RuleBench.Proofs.Validation
import RuleBench.Rule.Raw
import RuleBench.Trace.Basic

/-!
# Dumps are read back

A record is dumped under either name of its fields, and what is dumped validates again: to the same
record, at every level at once. Of what is left open to the user, only containers of declared
classes are dumped as something else, so records that were made of simple data come back as they
were (`validation_undoes_dump`).
-/

namespace RuleBench

open RuleBench.Validation

/-! ### Mappings -/

namespace Mapping

/-- No name stands twice, and a dump leaves all values as they are. -/
structure Settled (m : Mapping) : Prop where
  nodup : (m.map (·.1)).Nodup
  plain : ∀ e ∈ m, e.2.plain = e.2

variable {m : Mapping}

theorem Settled.nil : Settled [] := ⟨by simp, by simp⟩

theorem Settled.dump (h : m.Settled) : m.dump = m.toData := by
  simp only [Mapping.dump, toData, Data.plain_dict, List.map_map]
  refine congrArg Data.dict (List.map_congr_left fun e inside => ?_)
  simp [h.plain e inside]

theorem Settled.mapping_dump (h : m.Settled) : mapping m.dump = .valid m := by
  rw [h.dump]
  exact mapping_toData h.nodup

theorem settled_of_mapping {d : Data} (simple : d.isSimple) (h : mapping d = .valid m) :
    m.Settled := by
  obtain ⟨nodup, es, content, held⟩ := mapping_eq_valid h
  refine ⟨nodup, fun e inside => ?_⟩
  obtain ⟨f, here, same⟩ := held e inside
  rw [Data.content_of_isSimple simple] at content
  subst content
  exact same ▸ Data.plain_of_isSimple _ (Data.areSimpleEntries_iff.mp simple f here).2

/-- A mapping in a record, from the entry for its field or empty where there is none. -/
theorem settled_of_field {field : FieldName} {es : List (Data × Data)}
    (simple : Data.areSimpleEntries es) (h : withDefault field [] mapping es = .valid m) :
    m.Settled := by
  rcases withDefault_eq_valid h with rfl | ⟨_, d, found, valid⟩
  · exact .nil
  · obtain ⟨_, inside⟩ := mem_of_entryFor? found
    exact settled_of_mapping (Data.areSimpleEntries_iff.mp simple _ inside).2 valid

end Mapping

/-! ### Fields of simple data -/

section

variable {α : Type} {rule : Rule α} {P : α → Prop} {field : FieldName} {es : List (Data × Data)}

theorem Data.areSimpleEntries_of_content {d : Data} (simple : d.isSimple)
    (content : d.content = .dict es) : Data.areSimpleEntries es := by
  rw [Data.content_of_isSimple simple] at content
  subst content
  exact simple

/-- What holds of everything that simple data makes holds of all items of a field. -/
theorem forall_of_sequenceField (simple : Data.areSimpleEntries es)
    (made : ∀ {d a}, d.isSimple → rule d = .valid a → P a) {s : Items α}
    (h : withDefault field (.ofList []) (sequence rule) es = .valid s) : ∀ a ∈ s.items, P a := by
  rcases withDefault_eq_valid h with rfl | ⟨_, d, found, valid⟩
  · simp [Items.ofList]
  · obtain ⟨_, inside⟩ := mem_of_entryFor? found
    have simple := (Data.areSimpleEntries_iff.mp simple _ inside).2
    obtain ⟨ds, content, all⟩ := sequence_eq_valid valid
    have items : Data.areSimple ds := by
      rw [Data.content_of_isSimple simple] at content
      rcases content with rfl | rfl <;> exact simple
    intro a here
    obtain ⟨d, there, valid⟩ := exists_of_each all here
    exact made (Data.areSimple_iff.mp items d there) valid

theorem forall_of_optionalField (simple : Data.areSimpleEntries es)
    (made : ∀ {d a}, d.isSimple → rule d = .valid a → P a) {o : Option α}
    (h : withDefault field none (optional rule) es = .valid o) : ∀ a ∈ o, P a := by
  rcases withDefault_eq_valid h with rfl | ⟨_, d, found, valid⟩
  · simp
  · obtain ⟨_, inside⟩ := mem_of_entryFor? found
    exact fun a here => made (Data.areSimpleEntries_iff.mp simple _ inside).2
      (optional_eq_valid valid a here)

end

theorem optional_ofText? (o : Option String) : optional text (.ofText? o) = .valid o :=
  optional_ofOption (by simp) fun _ _ => text_str _

theorem optional_ofInt? (o : Option Int) : optional integer (.ofInt? o) = .valid o :=
  optional_ofOption (by simp) fun _ _ => integer_int _

/-! ### The parts of a span -/

@[simp] theorem ReferenceType.rule_name (t : ReferenceType) : rule (.str t.name) = .valid t := by
  cases t <;> rfl

namespace SpanReference

theorem rule_eq_valid {d : Data} {r : SpanReference} : rule d = .valid r ↔
    ∃ es, d.content = .dict es ∧ required typeField ReferenceType.rule es = .valid r.type ∧
      required traceIdField text es = .valid r.traceId ∧
      required spanIdField text es = .valid r.spanId := by
  rw [rule, record_eq_valid]
  refine exists_congr fun es => and_congr_right fun _ => ⟨fun h => ?_, fun h => ?_⟩
  · obtain ⟨_, _, upToTrace, spanId, rfl⟩ := Checked.and_eq_valid.mp h
    obtain ⟨_, _, upToType, traceId, rfl⟩ := Checked.and_eq_valid.mp upToTrace
    obtain ⟨_, type, rfl⟩ := Checked.map_eq_valid.mp upToType
    exact ⟨type, traceId, spanId⟩
  · simp [h]

theorem rule_dump (naming : Naming) (r : SpanReference) : rule (r.dump naming) = .valid r := by
  have apart : [typeField, traceIdField, spanIdField].Pairwise FieldName.Apart := by decide
  exact rule_eq_valid.mpr ⟨_, rfl, required_dumped apart (ReferenceType.rule_name r.type),
    required_dumped apart (text_str _), required_dumped apart (text_str _)⟩

end SpanReference

namespace SpanLog

theorem rule_eq_valid {d : Data} {l : SpanLog} : rule d = .valid l ↔
    ∃ es, d.content = .dict es ∧ required timestampField integer es = .valid l.timestamp ∧
      withDefault fieldsField [] mapping es = .valid l.fields := by
  rw [rule, record_eq_valid]
  refine exists_congr fun es => and_congr_right fun _ => ⟨fun h => ?_, fun h => ?_⟩
  · obtain ⟨_, _, upToTimestamp, fields, rfl⟩ := Checked.and_eq_valid.mp h
    obtain ⟨_, timestamp, rfl⟩ := Checked.map_eq_valid.mp upToTimestamp
    exact ⟨timestamp, fields⟩
  · simp [h]

theorem settled_of_rule {d : Data} {l : SpanLog} (simple : d.isSimple) (h : rule d = .valid l) :
    Mapping.Settled l.fields := by
  obtain ⟨es, content, _, fields⟩ := rule_eq_valid.mp h
  exact Mapping.settled_of_field (Data.areSimpleEntries_of_content simple content) fields

theorem rule_dump (naming : Naming) {l : SpanLog} (h : Mapping.Settled l.fields) :
    rule (l.dump naming) = .valid l := by
  have apart : [timestampField, fieldsField].Pairwise FieldName.Apart := by decide
  exact rule_eq_valid.mpr ⟨_, rfl, required_dumped apart (integer_int _),
    withDefault_dumped apart h.mapping_dump _⟩

end SpanLog

namespace SpanProcess

theorem rule_eq_valid {d : Data} {p : SpanProcess} : rule d = .valid p ↔
    ∃ es, d.content = .dict es ∧
      withDefault serviceNameField none (optional text) es = .valid p.serviceName ∧
      withDefault tagsField [] mapping es = .valid p.tags := by
  rw [rule, record_eq_valid]
  refine exists_congr fun es => and_congr_right fun _ => ⟨fun h => ?_, fun h => ?_⟩
  · obtain ⟨_, _, upToName, tags, rfl⟩ := Checked.and_eq_valid.mp h
    obtain ⟨_, name, rfl⟩ := Checked.map_eq_valid.mp upToName
    exact ⟨name, tags⟩
  · simp [h]

theorem settled_of_rule {d : Data} {p : SpanProcess} (simple : d.isSimple)
    (h : rule d = .valid p) : Mapping.Settled p.tags := by
  obtain ⟨es, content, _, tags⟩ := rule_eq_valid.mp h
  exact Mapping.settled_of_field (Data.areSimpleEntries_of_content simple content) tags

theorem rule_dump (naming : Naming) {p : SpanProcess} (h : Mapping.Settled p.tags) :
    rule (p.dump naming) = .valid p := by
  have apart : [serviceNameField, tagsField].Pairwise FieldName.Apart := by decide
  exact rule_eq_valid.mpr ⟨_, rfl, withDefault_dumped apart (optional_ofText? _) _,
    withDefault_dumped apart h.mapping_dump _⟩

end SpanProcess

namespace Endpoint

theorem rule_eq_valid {d : Data} {e : Endpoint} : rule d = .valid e ↔
    ∃ es, d.content = .dict es ∧
      withDefault serviceNameField none (optional text) es = .valid e.serviceName ∧
      withDefault ipv4Field none (optional text) es = .valid e.ipv4 ∧
      withDefault portField none (optional integer) es = .valid e.port := by
  rw [rule, record_eq_valid]
  refine exists_congr fun es => and_congr_right fun _ => ⟨fun h => ?_, fun h => ?_⟩
  · obtain ⟨_, _, upToIpv4, port, rfl⟩ := Checked.and_eq_valid.mp h
    obtain ⟨_, _, upToName, ipv4, rfl⟩ := Checked.and_eq_valid.mp upToIpv4
    obtain ⟨_, name, rfl⟩ := Checked.map_eq_valid.mp upToName
    exact ⟨name, ipv4, port⟩
  · simp [h]

theorem rule_dump (naming : Naming) (e : Endpoint) : rule (e.dump naming) = .valid e := by
  have apart : [serviceNameField, ipv4Field, portField].Pairwise FieldName.Apart := by decide
  exact rule_eq_valid.mpr ⟨_, rfl, withDefault_dumped apart (optional_ofText? _) _,
    withDefault_dumped apart (optional_ofText? _) _,
    withDefault_dumped apart (optional_ofInt? _) _⟩

end Endpoint

/-! ### Spans -/

namespace Span

/-- All mappings of a span, those of its logs and of its process among them. -/
structure Settled (s : Span) : Prop where
  tags : Mapping.Settled s.tags
  logs : ∀ l ∈ s.logs.items, Mapping.Settled l.fields
  process : ∀ p ∈ s.process, Mapping.Settled p.tags

theorem rule_eq_valid {d : Data} {s : Span} : rule d = .valid s ↔
    ∃ es, d.content = .dict es ∧ required idField text es = .valid s.id ∧
      required traceIdField text es = .valid s.traceId ∧
      required operationNameField text es = .valid s.operationName ∧
      required startTimeField integer es = .valid s.startTime ∧
      required finishTimeField integer es = .valid s.finishTime ∧
      withDefault referencesField (.ofList []) (sequence SpanReference.rule) es =
        .valid s.references ∧
      withDefault tagsField [] mapping es = .valid s.tags ∧
      withDefault logsField (.ofList []) (sequence SpanLog.rule) es = .valid s.logs ∧
      withDefault processField none (optional SpanProcess.rule) es = .valid s.process ∧
      withDefault localEndpointField none (optional Endpoint.rule) es = .valid s.localEndpoint ∧
      withDefault remoteEndpointField none (optional Endpoint.rule) es =
        .valid s.remoteEndpoint := by
  rw [rule, record_eq_valid]
  refine exists_congr fun es => and_congr_right fun _ => ⟨fun h => ?_, fun h => ?_⟩
  · obtain ⟨_, _, upToLocal, remote, rfl⟩ := Checked.and_eq_valid.mp h
    obtain ⟨_, _, upToProcess, own, rfl⟩ := Checked.and_eq_valid.mp upToLocal
    obtain ⟨_, _, upToLogs, process, rfl⟩ := Checked.and_eq_valid.mp upToProcess
    obtain ⟨_, _, upToTags, logs, rfl⟩ := Checked.and_eq_valid.mp upToLogs
    obtain ⟨_, _, upToReferences, tags, rfl⟩ := Checked.and_eq_valid.mp upToTags
    obtain ⟨_, _, upToFinish, references, rfl⟩ := Checked.and_eq_valid.mp upToReferences
    obtain ⟨_, _, upToStart, finish, rfl⟩ := Checked.and_eq_valid.mp upToFinish
    obtain ⟨_, _, upToOperation, start, rfl⟩ := Checked.and_eq_valid.mp upToStart
    obtain ⟨_, _, upToTrace, operation, rfl⟩ := Checked.and_eq_valid.mp upToOperation
    obtain ⟨_, _, upToId, traceId, rfl⟩ := Checked.and_eq_valid.mp upToTrace
    obtain ⟨_, id, rfl⟩ := Checked.map_eq_valid.mp upToId
    exact ⟨id, traceId, operation, start, finish, references, tags, logs, process, own, remote⟩
  · simp [h]

theorem settled_of_rule {d : Data} {s : Span} (simple : d.isSimple) (h : rule d = .valid s) :
    s.Settled := by
  obtain ⟨es, content, _, _, _, _, _, _, tags, logs, process, _, _⟩ := rule_eq_valid.mp h
  have simple := Data.areSimpleEntries_of_content simple content
  refine ⟨Mapping.settled_of_field simple tags, ?_, ?_⟩
  · exact forall_of_sequenceField simple SpanLog.settled_of_rule logs
  · exact forall_of_optionalField simple SpanProcess.settled_of_rule process

theorem rule_dump (naming : Naming) {s : Span} (h : s.Settled) :
    rule (s.dump naming) = .valid s := by
  have apart : [idField, traceIdField, operationNameField, startTimeField, finishTimeField,
      referencesField, tagsField, logsField, processField, localEndpointField,
      remoteEndpointField].Pairwise FieldName.Apart := by decide
  exact rule_eq_valid.mpr ⟨_, rfl, required_dumped apart (text_str _),
    required_dumped apart (text_str _), required_dumped apart (text_str _),
    required_dumped apart (integer_int _), required_dumped apart (integer_int _),
    withDefault_dumped apart (sequence_toData fun r _ => r.rule_dump naming) _,
    withDefault_dumped apart h.tags.mapping_dump _,
    withDefault_dumped apart (sequence_toData fun l inside => l.rule_dump naming (h.logs l inside)) _,
    withDefault_dumped apart (optional_ofOption (by simp [SpanProcess.dump, dumpFields])
      fun p inside => p.rule_dump naming (h.process p inside)) _,
    withDefault_dumped apart (optional_ofOption (by simp [Endpoint.dump, dumpFields])
      fun e _ => e.rule_dump naming) _,
    withDefault_dumped apart (optional_ofOption (by simp [Endpoint.dump, dumpFields])
      fun e _ => e.rule_dump naming) _⟩

end Span

namespace Trace

theorem rule_eq_valid {d : Data} {t : Trace} : rule d = .valid t ↔
    ∃ es, d.content = .dict es ∧ required idField text es = .valid t.id ∧
      withDefault spansField (.ofList []) (sequence Span.rule) es = .valid t.spans := by
  rw [rule, record_eq_valid]
  refine exists_congr fun es => and_congr_right fun _ => ⟨fun h => ?_, fun h => ?_⟩
  · obtain ⟨_, _, upToId, spans, rfl⟩ := Checked.and_eq_valid.mp h
    obtain ⟨_, id, rfl⟩ := Checked.map_eq_valid.mp upToId
    exact ⟨id, spans⟩
  · simp [h]

/-- All mappings of a trace. -/
def Settled (t : Trace) : Prop := ∀ s ∈ t.spans.items, s.Settled

theorem settled_of_rule {d : Data} {t : Trace} (simple : d.isSimple) (h : rule d = .valid t) :
    t.Settled := by
  obtain ⟨es, content, _, spans⟩ := rule_eq_valid.mp h
  exact forall_of_sequenceField (Data.areSimpleEntries_of_content simple content)
    Span.settled_of_rule spans

theorem rule_dump (naming : Naming) {t : Trace} (h : t.Settled) :
    rule (t.dump naming) = .valid t := by
  have apart : [idField, spansField].Pairwise FieldName.Apart := by decide
  exact rule_eq_valid.mpr ⟨_, rfl, required_dumped apart (text_str _),
    withDefault_dumped apart
      (sequence_toData fun s inside => s.rule_dump naming (h s inside)) _⟩

end Trace

/-! ### Stored rules -/

namespace RawRule

theorem rule_eq_valid {d : Data} {r : RawRule} : rule d = .valid r ↔
    ∃ es, d.content = .dict es ∧ required keyField nonEmptyText es = .valid r.key ∧
      required nameField visibleText es = .valid r.name ∧
      required rawCodeField text es = .valid r.rawCode ∧
      required compiledCodeField text es = .valid r.compiledCode := by
  rw [rule, record_eq_valid]
  refine exists_congr fun es => and_congr_right fun _ => ⟨fun h => ?_, fun h => ?_⟩
  · obtain ⟨_, _, upToRaw, compiled, rfl⟩ := Checked.and_eq_valid.mp h
    obtain ⟨_, _, upToName, raw, rfl⟩ := Checked.and_eq_valid.mp upToRaw
    obtain ⟨_, _, upToKey, name, rfl⟩ := Checked.and_eq_valid.mp upToName
    obtain ⟨_, key, rfl⟩ := Checked.map_eq_valid.mp upToKey
    exact ⟨key, name, raw, compiled⟩
  · simp [h]

/-- Whatever a stored rule was made of, its dump makes it again. -/
theorem rule_dump (naming : Naming) {d : Data} {r : RawRule} (h : rule d = .valid r) :
    rule (r.dump naming) = .valid r := by
  have apart : [keyField, nameField, rawCodeField, compiledCodeField].Pairwise FieldName.Apart := by
    decide
  obtain ⟨es, _, key, name, _, _⟩ := rule_eq_valid.mp h
  obtain ⟨_, _, _, key⟩ := required_eq_valid key
  obtain ⟨_, _, _, name⟩ := required_eq_valid name
  exact rule_eq_valid.mpr ⟨_, rfl, required_dumped apart (nonEmptyText_str key),
    required_dumped apart (visibleText_str name), required_dumped apart (text_str _),
    required_dumped apart (text_str _)⟩

end RawRule

/-- Validation undoes dumping. Whatever simple data validates as a trace, the trace is made again of
its dump, under either name of every field; and so is a stored rule. -/
theorem validation_undoes_dump (naming : Naming) (d : Data) :
    (∀ t, d.isSimple → Trace.rule d = .valid t → Trace.rule (t.dump naming) = .valid t) ∧
      ∀ r, RawRule.rule d = .valid r → RawRule.rule (r.dump naming) = .valid r :=
  ⟨fun _ simple h => Trace.rule_dump naming (Trace.settled_of_rule simple h),
    fun _ h => RawRule.rule_dump naming h⟩

/-- A trace as it may come: fields under either name, numbers as texts, a tuple for a list. -/
def mixedTrace : Data := .dict [(.str "id", .bytes [116, 49]), (.str "spans", .tuple [
  .dict [(.str "id", .str "s1"), (.str "trace_id", .str "t1"), (.str "operationName", .str "cart"),
    (.str "startTime", .str " 1_000.0 "), (.str "finish_time", .bool true),
    (.str "references", .list [.dict [(.str "type", .str "childOf"), (.str "traceId", .str "t1"),
      (.str "span_id", .str "s0")]]),
    (.str "tags", .dict [(.str "retries", .list [.int 1, .none])]),
    (.str "logs", .tuple [.dict [(.str "timestamp", .int 5), (.str "fields", .dict [])]]),
    (.str "process", .dict [(.str "serviceName", .str "shop")]),
    (.str "local_endpoint", .dict [(.str "port", .str "80")]), (.str "remoteEndpoint", .none)]])]

/-- A stored rule as it may come. -/
def mixedRule : Data := .dict [(.str "key", .bytes [107]), (.str "name", .str " n"),
  (.str "rawCode", .str ""), (.str "compiled_code", .str "pass")]

/-- Both are accepted, and come back under all names. -/
theorem mixed_comes_back :
    (∃ t, mixedTrace.isSimple ∧ Trace.rule mixedTrace = .valid t ∧
      ∀ naming, Trace.rule (t.dump naming) = .valid t) ∧
    ∃ r, RawRule.rule mixedRule = .valid r ∧ ∀ naming, RawRule.rule (r.dump naming) = .valid r := by
  have simple : mixedTrace.isSimple := by decide +kernel
  have acceptedTrace : (Trace.ofData mixedTrace).toOption.isSome = true := by decide +kernel
  have acceptedRule : (RawRule.ofData mixedRule).toOption.isSome = true := by decide +kernel
  constructor
  · cases made : Trace.rule mixedTrace with
    | refused => simp [Trace.ofData, made, Checked.titled, Except.toOption] at acceptedTrace
    | valid t =>
      exact ⟨t, simple, rfl, fun naming => (validation_undoes_dump naming _).1 t simple made⟩
  · cases made : RawRule.rule mixedRule with
    | refused => simp [RawRule.ofData, made, Checked.titled, Except.toOption] at acceptedRule
    | valid r => exact ⟨r, rfl, fun naming => (validation_undoes_dump naming _).2 r made⟩

end RuleBench
