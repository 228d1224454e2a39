import PathQuery.Proofs.Canonical
import PathQuery.Proofs.Placeholders
import PathQuery.Proofs.Workspaces

namespace PathQuery

/-- A text with a placeholder in it, whatever stands in front of it. -/
def HoldsPlaceholder (text : List Char) : Prop :=
  ∀ before ended, ∃ name, .placeholder name ∈ Marker.braces.piecesFrom before ended 0 text

namespace HoldsPlaceholder

theorem of_braces_at {c : Char} {rest : List Char} {occurrence : Occurrence}
    (h : Marker.bracesAt? (c :: rest) = some occurrence) : HoldsPlaceholder (c :: rest) := by
  intro before ended
  obtain ⟨hpos, _⟩ := Marker.braces_at_length h
  obtain ⟨_ | length, name⟩ := occurrence
  · cases hpos
  · refine ⟨Text.trim name, ?_⟩
    simp [Marker.piecesFrom, Marker.at?, h]

theorem cons {rest : List Char} (h : HoldsPlaceholder rest) (c : Char) :
    HoldsPlaceholder (c :: rest) := by
  cases hb : Marker.bracesAt? (c :: rest) with
  | some occurrence => exact of_braces_at hb
  | none =>
    intro before ended
    obtain ⟨name, hm⟩ := h (some c) false
    refine ⟨name, ?_⟩
    simpa [Marker.piecesFrom, Marker.at?, hb] using hm

theorem append {rest : List Char} (h : HoldsPlaceholder rest) (front : List Char) :
    HoldsPlaceholder (front ++ rest) := by
  induction front with
  | nil => exact h
  | cons c front ih => exact ih.cons c

theorem names_ne_nil {text : String} (h : HoldsPlaceholder text.toList) :
    Marker.braces.names text ≠ [] := by
  obtain ⟨name, hm⟩ := h none false
  exact List.ne_nil_of_mem (Marker.mem_names.mpr ⟨name, hm, rfl⟩)

/-- A run that counts as a template has taken a placeholder. -/
theorem of_run {source : List Char} {allowed : Char → Bool} {text : List Char} {run : Run}
    (h : takeRun ⟨.braces, source⟩ allowed 0 text = .ok run) (ht : run.templated = true) :
    HoldsPlaceholder text := by
  induction text generalizing run with
  | nil =>
    cases h
    cases ht
  | cons c rest ih =>
    unfold takeRun at h
    split at h
    · cases h
    · rename_i hp
      obtain ⟨occurrence, hb, _⟩ := Source.placeholder_succ hp
      exact of_braces_at hb
    · -- no placeholder starts here, so the one that was taken comes later
      split at h
      · obtain ⟨later, hl, rfl⟩ := map_eq_ok h
        exact (ih hl ht).cons c
      · cases h
        cases ht

end HoldsPlaceholder

theorem word_ne_template (word : List Char) (text : String) :
    Literal.ofWord word ≠ .template text := by
  unfold Literal.ofWord
  intro h
  split at h
  · cases h
  · split at h
    · cases h
    · split at h
      · cases h
      · split at h <;> cases h

/-- A value that is read as a template holds a placeholder. -/
theorem template_holds_placeholder {source text rest : List Char} {template : String}
    (h : readValue ⟨.braces, source⟩ text = .ok (.template template, rest)) :
    HoldsPlaceholder text := by
  have hword : readWord ⟨.braces, source⟩ text = .ok (.template template, rest) →
      HoldsPlaceholder text := by
    intro h
    unfold readWord at h
    split at h
    · cases h
    · rename_i run hrun
      split at h
      · cases h
      · split at h
        · exact .of_run hrun ‹_›
        · injection h with h
          injection h with h _
          exact absurd h (word_ne_template run.text template)
  unfold readValue at h
  split at h
  · obtain ⟨_, _, he, _⟩ := Literal.read_regex_cases h
    cases he
  · split at h
    · split at h <;> cases h
    · exact hword h
  · exact hword h

theorem Literal.Readable.template_names {text : String} (h : (Literal.template text).Readable) :
    Marker.braces.names text ≠ [] :=
  (template_holds_placeholder (h.read.alone [])).names_ne_nil

/-- A limit is a whole number of 64 bits or holds a placeholder. -/
theorem LimitText.int64 {limit : String} (h : LimitText limit)
    (hn : Marker.braces.names limit = []) : (Number.readInt64? limit.toList).isSome = true := by
  have hread := h.alone []
  obtain ⟨sign, ht, hsign⟩ := exists_sign limit.toList
  generalize (Number.splitSign limit.toList).2 = body at ht
  rw [ht] at hsign
  rw [ht, read_limit_sign hsign] at hread
  obtain ⟨run, hrun, hread⟩ := bind_eq_ok hread
  have hplain : run.templated = false := by
    refine Bool.eq_false_iff.mpr fun htemplated => ?_
    have hholds := (HoldsPlaceholder.of_run hrun htemplated).append sign
    rw [← ht] at hholds
    exact hholds.names_ne_nil hn
  split at hread
  · cases hread
  · rename_i hvalid
    injection hread with hread
    injection hread with hlimit _
    rw [← hlimit, String.toList_ofList]
    simpa [hplain, ← Option.isSome_iff_ne_none] using hvalid

theorem Text.trim_of_not_blank {text : List Char} (h : ∀ c ∈ text, isBlank c = false) :
    trim text = text := by
  have hskip : ∀ {text : List Char}, (∀ c ∈ text, isBlank c = false) → skipBlanks text = text := by
    intro text h
    cases text with
    | nil => rfl
    | cons c rest => exact skip_blanks_cons (h c List.mem_cons_self) rest
  rw [trim, hskip h, hskip (by simpa using h), List.reverse_reverse]

theorem int64_not_blank {text : List Char} (h : (Number.readInt64? text).isSome = true) :
    ∀ c ∈ text, Text.isBlank c = false := by
  obtain ⟨_, hall⟩ := int64_digits h
  have hdigit : ∀ c ∈ (Number.splitSign text).2, Text.isBlank c = false := by
    intro c hc
    by_contra hb
    have hd := blank_not_digit (Bool.not_eq_false _ ▸ hb)
    rw [List.all_eq_true.mp hall c hc] at hd
    cases hd
  clear h hall
  unfold Number.splitSign at hdigit
  split at hdigit
  · exact List.forall_mem_cons.mpr ⟨by decide, hdigit⟩
  · exact List.forall_mem_cons.mpr ⟨by decide, hdigit⟩
  · exact hdigit

theorem parse_limit_int64 {limit : String} (h : (Number.readInt64? limit.toList).isSome = true) :
    ∃ n, parseLimit limit = .ok n := by
  obtain ⟨n, hn⟩ := Option.isSome_iff_exists.mp h
  refine ⟨n, ?_⟩
  rw [parseLimit, Text.trim_of_not_blank (int64_not_blank h), hn]

section Bound

variable {α β : Type} {marker : Marker} {lower : α → Except Error β}

/-- What was made without a context, as if it had waited for one. -/
def atOnce (value : Option β) : Option (Context → Except Error β) :=
  value.map fun value _ => .ok value

@[simp]
theorem resolve_at_once (context : Context) (value : Option β) :
    resolve context (atOnce value) = .ok value := by
  cases value <;> rfl

theorem bind_constant [Clause α] {clause : α} (h : marker.hasPlaceholders clause = false) :
    marker.bind clause lower = (lower clause).map fun value _ => .ok value := by
  unfold Marker.bind
  rw [h]
  cases lower clause <;> rfl

theorem bind_option_constant [Clause α] {clause : Option α}
    (h : ∀ part, clause = some part → marker.hasPlaceholders part = false) :
    bindOption marker lower clause = (clause.mapM lower).map atOnce := by
  cases clause with
  | none => rfl
  | some part =>
    rw [bindOption, bind_constant (h part rfl), Option.mapM_some]
    cases lower part <;> rfl

theorem bind_list_constant [Clause (List α)] {parts : List α} {make : List α → β}
    (h : marker.hasPlaceholders parts = false) :
    bindOption marker (fun parts => .ok (make parts)) (nonempty? parts) =
      .ok (atOnce ((nonempty? parts).map make)) := by
  cases parts with
  | nil => rfl
  | cons part more =>
    change (marker.bind (part :: more) fun parts => .ok (make parts)).map some = _
    rw [bind_constant h]
    rfl

/-- The shape of the filters is checked before they are bound. What is made of them fails in the
same way if they are malformed, so that the check does not show. -/
theorem bind_filters_constant {lower : List FilterToken → Except Error β}
    {filters : List FilterToken} (h : marker.hasPlaceholders filters = false)
    (hcheck : ∀ e, FilterStream.check filters = .error e → lower filters = .error e) :
    bindFilters marker lower filters = ((nonempty? filters).mapM lower).map atOnce := by
  cases filters with
  | nil => rfl
  | cons token more =>
    change ((FilterStream.check (token :: more)).bind fun _ =>
      (marker.bind (token :: more) lower).map some) =
      ((lower (token :: more)).map some).map atOnce
    rw [bind_constant h]
    cases hc : FilterStream.check (token :: more) with
    | error e =>
      rw [hcheck e hc]
      rfl
    | ok depth => cases lower (token :: more) <;> rfl

end Bound

theorem mapM_nonempty {α β : Type} {parts : List α} (h : parts ≠ [])
    (lower : List α → Except Error β) : (nonempty? parts).mapM lower = (lower parts).map some := by
  cases parts with
  | nil => exact absurd rfl h
  | cons part more => rfl

/-- The stages of a query, made of its clauses as they stand. -/
def Query.stages (query : Query) : Except Error Pipeline := do
  let predicate ← (nonempty? query.filters).mapM compilePredicate
  let limit ← query.limit.mapM parseLimit
  return { sort := (nonempty? query.sort).map SortKeys.ofTerms
           predicate := predicate
           projector := (nonempty? query.fields).map Records.projector
           limit := limit }

namespace Query

variable {query : Query} {e : Error}

theorem leaf_constant (h : query.isConstant = true) :
    ∀ leaf ∈ query.leaves, Marker.braces.names leaf = [] := by
  intro leaf hm
  refine List.eq_nil_iff_forall_not_mem.mpr fun name hn => ?_
  have hin : name ∈ query.placeholders .braces := mem_names_in.mpr ⟨leaf, hm, hn⟩
  rw [List.isEmpty_iff.mp h] at hin
  cases hin

/-- No clause of a constant query holds placeholders. -/
structure ClausesConstant (query : Query) : Prop where
  fields : Marker.braces.hasPlaceholders query.fields = false
  filters : Marker.braces.hasPlaceholders query.filters = false
  sort : Marker.braces.hasPlaceholders query.sort = false
  limit : ∀ limit, query.limit = some limit → Marker.braces.hasPlaceholders limit = false

theorem clauses_constant (h : query.isConstant = true) : query.ClausesConstant := by
  have hleaf := leaf_constant h
  simp only [Query.leaves, List.mem_append] at hleaf
  refine ⟨has_placeholders_eq_false.mpr fun leaf hm => hleaf leaf (.inl (.inl (.inl hm))),
    has_placeholders_eq_false.mpr fun leaf hm => hleaf leaf (.inl (.inl (.inr hm))),
    has_placeholders_eq_false.mpr fun leaf hm => hleaf leaf (.inl (.inr hm)), ?_⟩
  intro limit hl
  refine has_placeholders_eq_false.mpr fun leaf hm => hleaf leaf (.inr ?_)
  rw [List.mem_singleton.mp hm, hl]
  exact List.mem_singleton_self limit

theorem predicate_malformed {filters : List FilterToken}
    (h : FilterStream.check filters = .error e) : compilePredicate filters = .error e := by
  rw [compilePredicate, h]
  rfl

/-- A constant query is compiled to its stages, whatever the context. -/
theorem compile_constant (h : query.isConstant = true) :
    Records.compile query .braces = query.stages.map fun pipeline _ => .ok (.records pipeline) := by
  obtain ⟨hfields, hfilters, hsort, hlimit⟩ := clauses_constant h
  rw [Records.compile, bind_list_constant hsort,
    bind_filters_constant hfilters fun _ => predicate_malformed, bind_list_constant hfields,
    bind_option_constant hlimit, stages]
  cases (nonempty? query.filters).mapM compilePredicate with
  | error e => rfl
  | ok predicate =>
    cases query.limit.mapM parseLimit with
    | error e => rfl
    | ok limit =>
      simp [bind, Except.bind, Except.map, pure, Except.pure]

/-- The conditions of a constant query that was read can be tested if their patterns can be used. -/
theorem Readable.settled (h : query.Readable) (hc : query.isConstant = true) {condition : Condition}
    (hm : .condition condition ∈ query.filters) : condition.Settled where
  value text hv := by
    have hvalue := (h.conditions condition hm).value
    rw [hv] at hvalue
    refine hvalue.template_names (leaf_constant hc text ?_)
    have hleaf : text ∈ Clause.leaves query.filters := by
      refine List.mem_flatMap.mpr ⟨_, hm, ?_⟩
      simp [FilterToken.leaves, Condition.leaves, hv]
    simp [leaves, hleaf]
  admits := (h.conditions condition hm).admits

theorem Readable.limit_number (h : query.Readable) (hc : query.isConstant = true) {text : String}
    (hl : query.limit = some text) : ∃ n, parseLimit text = .ok n :=
  parse_limit_int64 ((h.clauses.limit text hl).int64 (leaf_constant hc text (by simp [leaves, hl])))

theorem Readable.limit (h : query.Readable) (hc : query.isConstant = true) :
    ∃ limit, query.limit.mapM parseLimit = .ok limit := by
  cases hl : query.limit with
  | none => exact ⟨none, rfl⟩
  | some text =>
    obtain ⟨n, hn⟩ := h.limit_number hc hl
    exact ⟨some n, by rw [Option.mapM_some, hn]; rfl⟩

/-- Only a pattern can keep a constant query that was read from having stages. -/
theorem Readable.stages_error (h : query.Readable) (hc : query.isConstant = true)
    (he : query.stages = .error e) :
    ∃ condition, .condition condition ∈ query.filters ∧ condition.BadPattern e := by
  obtain ⟨limit, hlimit⟩ := h.limit hc
  rcases bind_eq_error_iff.mp he with he | ⟨_, _, he⟩
  · by_cases hf : query.filters = []
    · rw [hf] at he
      cases he
    · obtain ⟨depth, hcheck⟩ := h.sound.resolve_left hf
      rw [mapM_nonempty hf] at he
      exact predicate_error hcheck (fun _ hm => h.settled hc hm) (map_eq_error_iff.mp he)
  · rw [hlimit] at he
    cases he

/-- A query with stages has no pattern that cannot be used. -/
theorem Readable.not_bad_pattern (h : query.Readable) (hc : query.isConstant = true)
    {pipeline : Pipeline}
    (hs : query.stages = .ok pipeline) {condition : Condition}
    (hm : .condition condition ∈ query.filters) : ¬ condition.BadPattern e := by
  obtain ⟨_, hpredicate, _⟩ := bind_eq_ok hs
  rw [mapM_nonempty (List.ne_nil_of_mem hm)] at hpredicate
  obtain ⟨predicate, hp, _⟩ := map_eq_ok hpredicate
  exact not_bad_of_predicate hp hm (h.settled hc hm)

end Query

/-- A new session runs what the records adapter compiles its query to. -/
theorem execute_stages {query : Query} {pipeline : Pipeline} {registry : Registry Id}
    {name : Option String}
    (hc : Records.compile query .braces = .ok fun _ => .ok (.records pipeline))
    (hr : registry.resolve name = .ok Records.adapter) (data : Json) (context : Context) :
    (Id.run (Session.execute { query := query } registry name data context)).2 =
      pipeline.run data := by
  have ha : Session.adapter { query := query } registry name = .ok Records.adapter := hr
  rw [Session.execute_fresh ha rfl rfl]
  change (Records.compile query .braces).bind _ = _
  rw [hc]
  rfl

/-- A constant query that can be read also runs. It is compiled to stages over records unless the
text of a `~` condition is no pattern under its flags, and that is the error then. The stages are
those of its clauses as they stand, for every context, and they give an answer for every array. -/
theorem constant_query_runs (text : String) (query : Query) (h : Query.parse text = .ok query)
    (hc : query.isConstant = true) :
    ((∃ e, Records.compile query .braces = .error e) ↔
      ∃ condition e, .condition condition ∈ query.filters ∧ condition.BadPattern e) ∧
    (∀ e, Records.compile query .braces = .error e →
      ∃ pattern fault, e = .invalidRegex pattern fault) ∧
    ∀ plan, Records.compile query .braces = .ok plan → ∃ pipeline, query.stages = .ok pipeline ∧
      (∀ context, plan context = .ok (.records pipeline)) ∧
      ∀ (registry : Registry Id) (name : Option String),
        registry.resolve name = .ok Records.adapter →
        ∀ context rows,
          (Id.run (Session.execute { query := query } registry name (.array rows) context)).2 =
          .ok (.array (pipeline.rows rows)) := by
  obtain ⟨hread, _⟩ := readable_of_parse h
  have hcompile := Query.compile_constant hc
  have herror : ∀ e, Records.compile query .braces = .error e →
      ∃ condition, .condition condition ∈ query.filters ∧ condition.BadPattern e := by
    intro e he
    rw [hcompile] at he
    exact hread.stages_error hc (map_eq_error_iff.mp he)
  refine ⟨⟨?_, ?_⟩, ?_, ?_⟩
  · rintro ⟨e, he⟩
    obtain ⟨condition, hm, hb⟩ := herror e he
    exact ⟨condition, e, hm, hb⟩
  · rintro ⟨condition, e, hm, hb⟩
    cases hs : query.stages with
    | error e =>
      rw [hcompile, hs]
      exact ⟨e, rfl⟩
    | ok pipeline =>
      -- a query that has stages could use all its patterns
      exact absurd hb (hread.not_bad_pattern hc hs hm)
  · intro e he
    obtain ⟨condition, _, hb⟩ := herror e he
    exact hb.invalid_regex
  · intro plan hp
    rw [hcompile] at hp
    obtain ⟨pipeline, hs, rfl⟩ := map_eq_ok hp
    refine ⟨pipeline, hs, fun _ => rfl, fun registry name hr context rows => ?_⟩
    rw [hs] at hcompile
    exact execute_stages hcompile hr (.array rows) context

/-- A pattern that can be used, and one that cannot. -/
theorem constant_patterns_decide : ∃ (query refused : Query) (plan : Plan) (pipeline : Pipeline),
    Query.parse "/r\x7bb\x7d[limit=-1]?(n='a'|k~/^x/m)" = .ok query ∧ query.isConstant = true ∧
    Records.compile query .braces = .ok plan ∧ query.stages = .ok pipeline ∧
    (∀ context, plan context = .ok (.records pipeline)) ∧
    (∀ context rows,
      (Id.run (Session.execute { query := query } .builtin none (.array rows) context)).2 =
      .ok (.array (pipeline.rows rows))) ∧
    Query.parse "/r?k~'('" = .ok refused ∧ refused.isConstant = true ∧
    ∃ e, Records.compile refused .braces = .error e := by
  have hquery : Query.parse "/r\x7bb\x7d[limit=-1]?(n='a'|k~/^x/m)" =
      .ok ⟨none, "/r", ["b"],
        [.condition ⟨"n", .eq, .string "a"⟩, .condition ⟨"k", .matches, .regex "^x" "m"⟩,
          .connective .or], [], some "-1"⟩ := by
    decide +kernel
  have hrefused : Query.parse "/r?k~'('" =
      .ok ⟨none, "/r", [], [.condition ⟨"k", .matches, .string "("⟩], [], none⟩ := by
    decide +kernel
  have hbad : ∃ e, Condition.BadPattern ⟨"k", .matches, .string "("⟩ e := ⟨_, "(", "", rfl, rfl⟩
  obtain ⟨plan, hplan⟩ : ∃ plan, Records.compile ⟨none, "/r", ["b"],
      [.condition ⟨"n", .eq, .string "a"⟩, .condition ⟨"k", .matches, .regex "^x" "m"⟩,
        .connective .or], [], some "-1"⟩ .braces = .ok plan := ⟨_, rfl⟩
  obtain ⟨pipeline, hstages, hpipeline, hrun⟩ :=
    (constant_query_runs _ _ hquery (by decide)).2.2 plan hplan
  obtain ⟨e, he⟩ := hbad
  have hfails :=
    (constant_query_runs _ _ hrefused (by decide)).1.mpr ⟨_, e, List.mem_singleton_self _, he⟩
  exact ⟨_, _, plan, pipeline, hquery, by decide, hplan, hstages, hpipeline, hrun .builtin none rfl,
    hrefused, by decide, hfails⟩

end PathQuery
