import RuleBench.Proofs.Script.Thinned

/-!
# Resolving names that have fewer mentions

When the names of a script can be resolved, so can those of what is left of it, with one exception:
a `nonlocal` declaration stays behind when what was left out had the only binding of its name.
-/

namespace RuleBench.Script

section

variable {ε α β : Type} {f : α → Except ε β}

theorem mapM_eq_ok {as : List α} {bs : List β} :
    as.mapM f = .ok bs ↔ List.Forall₂ (fun a b => f a = .ok b) as bs := by
  induction as generalizing bs with
  | nil =>
    rw [List.forall₂_nil_left_iff]
    exact ⟨fun h => (Except.ok.inj h).symm, fun h => h ▸ rfl⟩
  | cons a as ih =>
    simp only [List.mapM_cons, bind, Except.bind, pure, Except.pure, List.forall₂_cons_left_iff]
    cases first : f a with
    | error e => simp
    | ok b =>
      cases rest : as.mapM f with
      | error e => simpa [rest] using fun bs h => absurd (ih.mpr h) (by simp [rest])
      | ok cs =>
        constructor
        · intro h
          exact ⟨b, cs, rfl, ih.mp rest, (Except.ok.inj h).symm⟩
        · rintro ⟨_, ds, ⟨⟩, behind, rfl⟩
          rw [Except.ok.inj (rest.symm.trans (ih.mpr behind))]

theorem mapM_eq_error {as : List α} {e : ε} (failed : as.mapM f = .error e) :
    ∃ a ∈ as, f a = .error e := by
  induction as with
  | nil => cases failed
  | cons a as ih =>
    simp only [List.mapM_cons, bind, Except.bind, pure, Except.pure] at failed
    cases first : f a with
    | error e' =>
      simp only [first] at failed
      cases failed
      exact ⟨a, List.mem_cons_self, first⟩
    | ok b =>
      cases rest : as.mapM f with
      | error e' =>
        simp only [first, rest] at failed
        cases failed
        obtain ⟨x, mem, failed⟩ := ih rest
        exact ⟨x, List.mem_cons_of_mem _ mem, failed⟩
      | ok bs => simp [first, rest] at failed

end

namespace Block

/-- A declaration whose name has lost its binding. -/
def Unbound (lost : String → Prop) {α : Type} (x : Except Fault α) : Prop :=
  ∃ n place, lost n ∧ x = .error (faultAt place (.noBinding n))

variable {lost : String → Prop}

/-- The names that are bound around a block, in the whole script and in what is left of it. -/
structure Around (lost : String → Prop) (bound bound' : Option (List String)) : Prop where
  inner : bound' = none → bound = none
  names (n : String) : n ∈ bound.getD [] → n ∈ bound'.getD [] ∨ lost n

theorem resolveName_trimmed {bound bound' : Option (List String)} (around : Around lost bound bound')
    {places : List (String × Region)} (places' : List (String × Region)) {n : String} {u v : Usage}
    {fixed : Prop}
    (h : Usage.Trimmed (lost n) fixed u v) {r : Resolution}
    (ok : resolveName bound places n u = .ok r) :
    (∃ r', resolveName bound' places' n v = .ok r') ∨
      Unbound lost (resolveName bound' places' n v) := by
  by_cases global : v.global = true
  · have before := h.global global
    have clear : v.nonlocal = false := Bool.eq_false_iff.mpr fun nonlocal => by
      simp [resolveName, before, h.nonlocal nonlocal] at ok
    exact .inl ⟨.globalDeclared, by simp [resolveName, global, clear]⟩
  by_cases nonlocal : v.nonlocal = true
  · have before := h.nonlocal nonlocal
    have free : u.global = false := Bool.eq_false_iff.mpr fun global => by
      simp [resolveName, before, global] at ok
    cases bound with
    | none => simp [resolveName, before, free] at ok
    | some names =>
      have known : n ∈ names := by
        by_contra unknown
        simp [resolveName, before, free, unknown] at ok
      cases bound' with
      | none => exact absurd (around.inner rfl) nofun
      | some names' =>
        by_cases still : n ∈ names'
        · exact .inl ⟨.free, by simp [resolveName, global, nonlocal, still]⟩
        · have gone : lost n := (around.names n known).resolve_left still
          refine .inr ⟨n, (places'.lookup n).getD default, gone, ?_⟩
          simp [resolveName, global, nonlocal, still]
  · left
    rw [Bool.not_eq_true] at global nonlocal
    simp only [resolveName, global, nonlocal, Bool.false_eq_true, if_false]
    cases v.binds
    · cases (bound'.getD []).contains n <;> exact ⟨_, rfl⟩
    · exact ⟨_, rfl⟩

/-- A name is resolved to be local only where it is bound and not sent elsewhere. -/
theorem resolveName_onlyHere {bound : Option (List String)} {places : List (String × Region)}
    {n : String} {u : Usage} :
    resolveName bound places n u = .ok .onlyHere ↔
      u.global = false ∧ u.nonlocal = false ∧ u.binds = true := by
  simp only [resolveName]
  cases u.global
  · cases u.nonlocal
    · cases u.binds
      · cases (bound.getD []).contains n <;> simp
      · simp
    · cases bound with
      | none => simp
      | some names => by_cases known : n ∈ names <;> simp [known]
  · cases u.nonlocal <;> simp

theorem resolveName_globalDeclared {bound : Option (List String)} {places : List (String × Region)}
    {n : String} {u : Usage} :
    resolveName bound places n u = .ok .globalDeclared ↔
      u.global = true ∧ u.nonlocal = false := by
  simp only [resolveName]
  cases u.global
  · cases u.nonlocal
    · cases u.binds
      · cases (bound.getD []).contains n <;> simp
      · simp
    · cases bound with
      | none => simp
      | some names => by_cases known : n ∈ names <;> simp [known]
  · cases u.nonlocal <;> simp

/-- Each name of a table with its resolution. -/
def resolveNames (bound : Option (List String)) (places : List (String × Region))
    (names : NameTable) : Except Fault (List (String × Resolution)) :=
  names.mapM fun (n, u) => return (n, ← resolveName bound places n u)

theorem resolve_eq (bound : Option (List String)) (kind : BlockKind) (names : NameTable)
    (places : List (String × Region)) (inner : List Block) :
    resolve bound (.mk kind names places inner) = (do
      let resolved ← resolveNames bound places names
      let inner ← resolveAll (boundInside kind bound resolved) inner
      return .mk kind resolved inner) := by
  rw [resolve]
  rfl

section

variable {bound : Option (List String)} {places : List (String × Region)} {names : NameTable}
  {resolved : List (String × Resolution)}

theorem resolveNames_forall₂ (ok : resolveNames bound places names = .ok resolved) :
    List.Forall₂ (fun x y => y.1 = x.1 ∧ resolveName bound places x.1 x.2 = .ok y.2)
      names resolved := by
  refine (mapM_eq_ok.mp ok).imp fun x y resolves => ?_
  simp only [bind, Except.bind, pure, Except.pure] at resolves
  cases one : resolveName bound places x.1 x.2 with
  | error e => simp [one] at resolves
  | ok r =>
    simp only [one] at resolves
    cases resolves
    exact ⟨rfl, rfl⟩

theorem mem_resolved (ok : resolveNames bound places names = .ok resolved) {n : String}
    {r : Resolution} : (n, r) ∈ resolved ↔ ∃ u, (n, u) ∈ names ∧
      resolveName bound places n u = .ok r := by
  have pairs := resolveNames_forall₂ ok
  clear ok
  induction pairs with
  | nil => simp
  | @cons x y names resolved head rest ih =>
    obtain ⟨k, u⟩ := x
    obtain ⟨k', r'⟩ := y
    obtain ⟨rfl, here⟩ := head
    simp only [List.mem_cons, Prod.mk.injEq, ih]
    constructor
    · rintro (⟨rfl, rfl⟩ | ⟨v, mem, resolves⟩)
      · exact ⟨u, .inl ⟨rfl, rfl⟩, here⟩
      · exact ⟨v, .inr mem, resolves⟩
    · rintro ⟨v, ⟨rfl, rfl⟩ | mem, resolves⟩
      · exact .inl ⟨rfl, Except.ok.inj (resolves.symm.trans here)⟩
      · exact .inr ⟨v, mem, resolves⟩

theorem lookup_resolved (ok : resolveNames bound places names = .ok resolved) {n : String}
    {r : Resolution} : resolved.lookup n = some r ↔ n ∈ names.keys ∧
      resolveName bound places n (names.get n) = .ok r := by
  have pairs := resolveNames_forall₂ ok
  clear ok
  induction pairs with
  | nil => simp [NameTable.keys]
  | @cons x y names resolved head rest ih =>
    obtain ⟨k, u⟩ := x
    obtain ⟨k', r'⟩ := y
    obtain ⟨rfl, here⟩ := head
    by_cases same : n = k'
    · subst same
      have found : NameTable.get ((n, u) :: names) n = u := by simp [NameTable.get]
      simp only [List.lookup_cons_self, Option.some.injEq, found, NameTable.keys, List.map_cons,
        List.mem_cons, true_or, true_and]
      constructor
      · rintro rfl
        exact here
      · intro resolves
        exact Except.ok.inj (here.symm.trans resolves)
    · have behind : NameTable.get ((k', u) :: names) n = NameTable.get names n := by
        simp [NameTable.get, List.lookup_cons, beq_eq_false_iff_ne.mpr same]
      have further : NameTable.keys ((k', u) :: names) = k' :: NameTable.keys names := rfl
      rw [List.lookup_cons, beq_eq_false_iff_ne.mpr same, behind, further, List.mem_cons]
      simpa [same] using ih

/-- Every name of the table has been resolved. -/
theorem resolves_of_mem (ok : resolveNames bound places names = .ok resolved) {n : String}
    {u : Usage} (mem : (n, u) ∈ names) : ∃ r, resolveName bound places n u = .ok r := by
  have pairs := resolveNames_forall₂ ok
  clear ok
  induction pairs with
  | nil => cases mem
  | @cons x y names resolved head rest ih =>
    rcases List.mem_cons.mp mem with rfl | behind
    · exact ⟨y.2, head.2⟩
    · exact ih behind

/-- The names of a table that are local to its block. -/
theorem mem_onlyHere (ok : resolveNames bound places names = .ok resolved)
    (distinct : names.keys.Nodup) {n : String} : (n, .onlyHere) ∈ resolved ↔
      (names.get n).global = false ∧ (names.get n).nonlocal = false ∧
        (names.get n).binds = true := by
  rw [mem_resolved ok]
  simp only [resolveName_onlyHere]
  constructor
  · rintro ⟨u, mem, here⟩
    rw [NameTable.get_of_mem distinct mem]
    exact here
  · intro here
    refine ⟨names.get n, NameTable.mem_of_get fun unknown => ?_, here⟩
    rw [unknown] at here
    exact absurd here.2.2 nofun

/-- The names of a table that are sent to the block of the whole script. -/
theorem lookup_globalDeclared (ok : resolveNames bound places names = .ok resolved) {n : String} :
    resolved.lookup n = some .globalDeclared ↔ (names.get n).global = true := by
  rw [lookup_resolved ok, resolveName_globalDeclared]
  constructor
  · exact fun h => h.2.1
  · intro global
    have mem : (n, names.get n) ∈ names := NameTable.mem_of_get fun unknown => by
      rw [unknown] at global
      exact absurd global nofun
    obtain ⟨r, resolves⟩ := resolves_of_mem ok mem
    refine ⟨List.mem_map.mpr ⟨_, mem, rfl⟩, global, Bool.eq_false_iff.mpr fun nonlocal => ?_⟩
    simp [resolveName, global, nonlocal] at resolves

/-- What a block that is neither a class nor the whole script offers to the blocks inside it. -/
theorem mem_boundInside (ok : resolveNames bound places names = .ok resolved)
    (distinct : names.keys.Nodup) {kind : BlockKind} (inner : kind ≠ .module)
    (named : ∀ c, kind ≠ .classBody c) {n : String} :
    n ∈ boundInside kind bound resolved ↔
      ((names.get n).global = false ∧ (names.get n).nonlocal = false ∧
        (names.get n).binds = true) ∨
      (n ∈ bound.getD [] ∧ (names.get n).global = false) := by
  have own : n ∈ (resolved.filter (·.2 == .onlyHere)).map (·.1) ↔ (n, .onlyHere) ∈ resolved := by
    simp [List.mem_map, List.mem_filter]
  have kept : n ∈ (bound.getD []).filter (fun n => resolved.lookup n != some .globalDeclared) ↔
      n ∈ bound.getD [] ∧ (names.get n).global = false := by
    rw [List.mem_filter, bne_iff_ne, ne_eq, lookup_globalDeclared ok, Bool.not_eq_true]
  have whole : boundInside kind bound resolved =
      (resolved.filter (·.2 == .onlyHere)).map (·.1) ++
        (bound.getD []).filter fun n => resolved.lookup n != some .globalDeclared := by
    cases kind with
    | module => exact absurd rfl inner
    | classBody c => exact absurd rfl (named c)
    | _ => rfl
  rw [whole, List.mem_append, own, kept, mem_onlyHere ok distinct]

theorem resolves_get (ok : resolveNames bound places names = .ok resolved) (n : String) :
    ∃ r, resolveName bound places n (names.get n) = .ok r := by
  by_cases unknown : names.get n = .none
  · rw [unknown]
    simp only [resolveName, Usage.none, Usage.binds, Bool.or_self, Bool.false_eq_true, if_false]
    cases (bound.getD []).contains n <;> exact ⟨_, rfl⟩
  · exact resolves_of_mem ok (NameTable.mem_of_get unknown)

end

section

variable {bound bound' : Option (List String)} {places places' : List (String × Region)}
  {names names' : NameTable} {resolved resolved' : List (String × Resolution)} {fixed : Prop}

theorem resolveNames_trimmed (around : Around lost bound bound')
    (places' : List (String × Region)) (h : names.Trimmed lost fixed names') (ok : resolveNames bound places names = .ok resolved) :
    (∃ resolved', resolveNames bound' places' names' = .ok resolved') ∨
      Unbound lost (resolveNames bound' places' names') := by
  cases result : resolveNames bound' places' names' with
  | ok resolved' => exact .inl ⟨resolved', rfl⟩
  | error e =>
    obtain ⟨⟨n, v⟩, mem, failed⟩ := mapM_eq_error result
    have known : names'.get n = v := NameTable.get_of_mem h.distinct' mem
    obtain ⟨r, before⟩ := resolves_get ok n
    rcases resolveName_trimmed around places' (h.usage n) before with
      ⟨r', after⟩ | ⟨m, place, gone, after⟩
    · rw [known] at after
      simp [after, bind, Except.bind, pure, Except.pure] at failed
    · rw [known] at after
      simp only [after, bind, Except.bind] at failed
      cases failed
      exact .inr ⟨m, place, gone, rfl⟩

/-- What the blocks inside find bound around them. -/
theorem around_inside (around : Around lost bound bound') {kind : BlockKind}
    (h : names.Trimmed lost (kind ≠ .module) names')
    (ok : resolveNames bound places names = .ok resolved)
    (ok' : resolveNames bound' places' names' = .ok resolved') :
    Around lost (some (boundInside kind bound resolved))
      (some (boundInside kind bound' resolved')) where
  inner := nofun
  names n mem := by
    have offered : kind ≠ .module → (∀ c, kind ≠ .classBody c) →
        n ∈ boundInside kind bound' resolved' ∨ lost n := by
      intro inner named
      obtain ⟨global, nonlocal⟩ := (h.usage n).declared inner
      rw [mem_boundInside ok' h.distinct' inner named, global, nonlocal]
      rcases (mem_boundInside ok h.distinct inner named).mp mem with own | outer
      · exact ((h.usage n).binds own.2.2).imp_left fun binds => .inl ⟨own.1, own.2.1, binds⟩
      · exact (around.names n outer.1).imp_left fun found => .inr ⟨found, outer.2⟩
    cases kind with
    | module => cases mem
    | classBody c =>
      rcases List.mem_cons.mp mem with rfl | outer
      · exact .inl List.mem_cons_self
      · exact (around.names n outer).imp_left (List.mem_cons_of_mem _)
    | _ => exact offered nofun nofun

end

mutual

/-- What is left of a block whose names can be resolved can be resolved, unless a declaration has
lost the binding of its name. -/
theorem Trimmed.resolve {b b' : Block} (h : b.Trimmed lost b') {bound bound' : Option (List String)}
    (around : Around lost bound bound') {scope : Scope} (ok : b.resolve bound = .ok scope) :
    (∃ scope', b'.resolve bound' = .ok scope') ∨ Unbound lost (b'.resolve bound') := by
  cases h with
  | @mk kind names names' places places' inner inner' table inside =>
    rw [resolve_eq] at ok ⊢
    cases head : resolveNames bound places names with
    | error e => simp [head, bind, Except.bind] at ok
    | ok resolved =>
      simp only [head, bind, Except.bind] at ok
      rcases resolveNames_trimmed around places' table head with
        ⟨resolved', head'⟩ | ⟨n, place, gone, failed⟩
      · cases rest : resolveAll (boundInside kind bound resolved) inner with
        | error e => simp [rest] at ok
        | ok scopes =>
          simp only [head', bind, Except.bind]
          have within := around_inside around table head head'
          rcases TrimmedAll.resolve inside within rest with
            ⟨scopes', rest'⟩ | ⟨n, place, gone, failed⟩
          · exact .inl ⟨.mk kind resolved' scopes', by rw [rest']; rfl⟩
          · exact .inr ⟨n, place, gone, by rw [failed]⟩
      · exact .inr ⟨n, place, gone, by simp [failed, bind, Except.bind]⟩

theorem TrimmedAll.resolve {bs bs' : List Block} (h : TrimmedAll lost bs bs')
    {bound bound' : List String} (around : Around lost (some bound) (some bound'))
    {scopes : List Scope} (ok : resolveAll bound bs = .ok scopes) :
    (∃ scopes', resolveAll bound' bs' = .ok scopes') ∨ Unbound lost (resolveAll bound' bs') := by
  cases h with
  | nil => exact .inl ⟨[], rfl⟩
  | @keep b b' bs bs' head rest =>
    simp only [resolveAll, bind, Except.bind] at ok ⊢
    cases first : b.resolve (some bound) with
    | error e => simp [first] at ok
    | ok scope =>
      simp only [first] at ok
      cases further : resolveAll bound bs with
      | error e => simp [further] at ok
      | ok scopes =>
        rcases Trimmed.resolve head around first with ⟨scope', first'⟩ | ⟨n, place, gone, failed⟩
        · simp only [first']
          rcases TrimmedAll.resolve rest around further with
            ⟨scopes', further'⟩ | ⟨n, place, gone, failed⟩
          · exact .inl ⟨scope' :: scopes', by rw [further']; rfl⟩
          · exact .inr ⟨n, place, gone, by rw [failed]⟩
        · exact .inr ⟨n, place, gone, by simp [failed]⟩
  | @skip b bs bs' rest =>
    simp only [resolveAll, bind, Except.bind] at ok
    cases first : b.resolve (some bound) with
    | error e => simp [first] at ok
    | ok scope =>
      simp only [first] at ok
      cases further : resolveAll bound bs with
      | error e => simp [further] at ok
      | ok scopes => exact TrimmedAll.resolve rest around further

end

end Block

theorem ofMentions_eq_ok {later : Bool} {ms : List Mention} {b : Block} :
    Block.ofMentions later ms = .ok b ↔ ∃ t : OpenBlocks,
      OpenBlocks.read later ms ⟨.start .module none 0, []⟩ = .ok t ∧ t.current.close = b := by
  simp only [Block.ofMentions, OpenBlocks.read, bind, Except.bind, pure, Except.pure]
  cases ms.foldlM (OpenBlocks.step later) ⟨.start .module none 0, []⟩ <;> simp

/-- Something that lowering leaves out of a script had bound the name. -/
def BoundByDropped (script : List Stmt) (n : String) : Prop :=
  ∃ m, (m, none) ∈ fatesOfBlock script ∧ m.Binds n

/-- What is left of a script, wherever it may stand, has the same mentions but for those that were
left out. -/
theorem exists_thinned {script script' : List Stmt}
    (same : unplacedBlock script' = unplacedBlock (plainScript script)) :
    ∃ fs, Thinned [] fs ∧ fs.map Prod.fst = mentionsOfBlock script ∧
      fs.filterMap Prod.snd = mentionsOfBlock script' ∧
      ∀ m, (m, none) ∈ fs → (m, none) ∈ fatesOfBlock script := by
  have mentions : (mentionsOfBlock (plainBlock script)).map Mention.unplaced =
      (mentionsOfBlock script').map Mention.unplaced := by
    rw [← mentionsOfBlock_unplaced, ← mentionsOfBlock_unplaced, same, mentionsOfBlock_unplaced,
      mentionsOfBlock_unplaced, plainScript, mentionsOfBlock_filled]
  rw [← snd_fatesOfBlock] at mentions
  obtain ⟨fs, thinned, before, after, out⟩ := (thinned_fatesOfBlock script).relaid mentions
  exact ⟨fs, thinned, before.trans (fst_fatesOfBlock script), after, out⟩

/-- What is left of mentions whose names can be resolved can be read, and its names be resolved
unless a declaration has lost the binding of its name. -/
theorem Thinned.resolve {fs : List Fate} (thinned : Thinned [] fs) {lost : String → Prop}
    (bound : ∀ m, (m, none) ∈ fs → ∀ n, m.Binds n → lost n) {later : Bool} {b : Block}
    (read : Block.ofMentions later (fs.map Prod.fst) = .ok b) {scope : Scope}
    (ok : b.resolve none = .ok scope) : ∃ b', Block.ofMentions later (fs.filterMap Prod.snd) = .ok b' ∧
      ((∃ scope', b'.resolve none = .ok scope') ∨ Block.Unbound lost (b'.resolve none)) := by
  have start : OpenBlocks.Trimmed lost ⟨.start .module none 0, []⟩
      ⟨.start .module none 0, []⟩ := ⟨.start .module none 0, .nil⟩
  obtain ⟨t, whole, rfl⟩ := ofMentions_eq_ok.mp read
  obtain ⟨t', apace⟩ := thinned.read start rfl bound whole
  exact ⟨_, ofMentions_eq_ok.mpr ⟨t', apace.left, rfl⟩,
    apace.trimmed.current.close.resolve ⟨id, fun _ => .inl⟩ ok⟩

theorem Scope.ofScript_eq_ok {later : Bool} {script : List Stmt} {scope : Scope} :
    Scope.ofScript later script = .ok scope ↔
      ∃ b, Block.ofMentions later (mentionsOfBlock script) = .ok b ∧ b.resolve none = .ok scope := by
  simp only [Scope.ofScript, bind, Except.bind]
  cases Block.ofMentions later (mentionsOfBlock script) <;> simp

/-- The names of what is left of a script can be resolved, unless a declaration has lost the binding
of its name. -/
theorem Scope.ofScript_relaid {script script' : List Stmt}
    (same : unplacedBlock script' = unplacedBlock (plainScript script)) {later : Bool} {scope : Scope}
    (ok : Scope.ofScript later script = .ok scope) :
    (∃ scope', Scope.ofScript later script' = .ok scope') ∨
      Block.Unbound (BoundByDropped script) (Scope.ofScript later script') := by
  obtain ⟨fs, thinned, before, after, out⟩ := exists_thinned same
  obtain ⟨b, read, resolves⟩ := ofScript_eq_ok.mp ok
  have bound : ∀ m, (m, none) ∈ fs → ∀ n, m.Binds n → BoundByDropped script n :=
    fun m mem n binds => ⟨m, out m mem, binds⟩
  obtain ⟨b', left, resolves'⟩ := thinned.resolve bound (before ▸ read) resolves
  simp only [Scope.ofScript, ← after, left, bind, Except.bind]
  exact resolves'

end RuleBench.Script
