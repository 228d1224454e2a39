import PathQuery.Adapter.Records
import PathQuery.Adapter.Sql
import PathQuery.Proofs.Streams
import PathQuery.Proofs.Substitution

namespace PathQuery

/-- How a clause can fail that waits for a context: it cannot be filled, or nothing can be made of
what comes out. -/
def Marker.Fails {α β : Type} [Clause α] (marker : Marker) (context : Context) (clause : α)
    (lower : α → Except Error β) (e : Error) : Prop :=
  Clause.substitute (marker.fill context) clause = .error e ∨
    ∃ filled, Clause.substitute (marker.fill context) clause = .ok filled ∧ lower filled = .error e

section Clauses

variable {α β : Type} {marker : Marker} {context : Context} {e : Error}

/-- A clause without placeholders has been dealt with before there is a context. -/
theorem bind_fails [Clause α] {clause : α} {lower : α → Except Error β}
    {bound : Context → Except Error β}
    (hb : marker.bind clause lower = .ok bound) (he : bound context = .error e) :
    marker.Fails context clause lower e := by
  unfold Marker.bind at hb
  split at hb
  · cases hb
    exact bind_eq_error_iff.mp he
  · obtain ⟨value, _, hb⟩ := bind_eq_ok hb
    cases hb
    cases he

theorem bind_option_fails [Clause α] {clause : Option α} {lower : α → Except Error β}
    {bound : Option (Context → Except Error β)} (hb : bindOption marker lower clause = .ok bound)
    (he : resolve context bound = .error e) :
    ∃ part, clause = some part ∧ marker.Fails context part lower e := by
  cases clause with
  | none =>
    cases hb
    cases he
  | some part =>
    obtain ⟨run, hrun, rfl⟩ := map_eq_ok hb
    exact ⟨part, rfl, bind_fails hrun (map_eq_error_iff.mp he)⟩

/-- Fields and sort terms can only fail to be filled: something can be made of all that are. -/
theorem bind_list_fails [Clause (List α)] {parts : List α} {make : List α → β}
    {bound : Option (Context → Except Error β)}
    (hb : bindOption marker (fun parts => .ok (make parts)) (nonempty? parts) = .ok bound)
    (he : resolve context bound = .error e) :
    Clause.substitute (marker.fill context) parts = .error e := by
  obtain ⟨clause, hc, hf⟩ := bind_option_fails hb he
  have hparts : clause = parts := by
    cases parts with
    | nil => cases hc
    | cons => exact (Option.some.inj hc).symm
  rcases hf with hf | ⟨_, _, hf⟩
  · rwa [hparts] at hf
  · cases hf

theorem bind_filters_fails {filters : List FilterToken} {lower : List FilterToken → Except Error β}
    {bound : Option (Context → Except Error β)} (hb : bindFilters marker lower filters = .ok bound)
    (he : resolve context bound = .error e) :
    (∃ depth, FilterStream.check filters = .ok depth) ∧ marker.Fails context filters lower e := by
  cases filters with
  | nil =>
    cases hb
    cases he
  | cons token more =>
    obtain ⟨depth, hcheck, hb⟩ := bind_eq_ok hb
    obtain ⟨run, hrun, hb⟩ := bind_eq_ok hb
    cases hb
    exact ⟨⟨depth, hcheck⟩, bind_fails hrun (map_eq_error_iff.mp he)⟩

/-- A clause that is a list has been resolved once something was made of it, or of its absence. -/
theorem bind_list_resolves [Clause (List α)] {parts : List α} {lower : List α → Except Error β}
    {bound : Option (Context → Except Error β)} {value : Option β}
    (hnil : marker.hasPlaceholders ([] : List α) = false)
    (hb : bindOption marker lower (nonempty? parts) = .ok bound)
    (hv : resolve context bound = .ok value) :
    ∃ resolved, marker.resolve context parts = .ok resolved := by
  rcases bind_option_resolve hb hv with ⟨rfl, _⟩ | ⟨_, resolved, _, hr, _⟩
  · exact ⟨[], by simp [Marker.resolve, hnil]⟩
  · exact ⟨resolved, hr⟩

theorem bind_filters_resolves {filters : List FilterToken}
    {lower : List FilterToken → Except Error β}
    {bound : Option (Context → Except Error β)} {value : Option β}
    (hb : bindFilters marker lower filters = .ok bound)
    (hv : resolve context bound = .ok value) :
    ∃ resolved, marker.resolve context filters = .ok resolved := by
  rcases bind_filters_resolve hb hv with ⟨rfl, _⟩ | ⟨_, resolved, _, hr, _⟩
  · exact ⟨[], rfl⟩
  · exact ⟨resolved, hr⟩

end Clauses

/-- How a compiled query can fail for a context, if its filters and its limit are lowered in these
ways. -/
inductive Query.Fails {β γ : Type} (query : Query) (marker : Marker) (context : Context)
    (lowerFilters : List FilterToken → Except Error β) (lowerLimit : String → Except Error γ)
    (e : Error) : Prop where
  | fields (h : Clause.substitute (marker.fill context) query.fields = .error e)
  | sort (h : Clause.substitute (marker.fill context) query.sort = .error e)
  | filters {depth : Nat} (hc : FilterStream.check query.filters = .ok depth)
    (h : marker.Fails context query.filters lowerFilters e)
  | limit {text : String} (hl : query.limit = some text)
      (h : marker.Fails context text lowerLimit e)

section Plans

variable {query : Query} {marker : Marker} {plan : Plan} {context : Context} {e : Error}

theorem Records.plan_fails (hc : Records.compile query marker = .ok plan)
    (he : plan context = .error e) : query.Fails marker context compilePredicate parseLimit e := by
  obtain ⟨sort, hsort, hc⟩ := bind_eq_ok hc
  obtain ⟨predicate, hpredicate, hc⟩ := bind_eq_ok hc
  obtain ⟨projection, hprojection, hc⟩ := bind_eq_ok hc
  obtain ⟨limit, hlimit, hc⟩ := bind_eq_ok hc
  cases hc
  rcases bind_eq_error_iff.mp he with he | ⟨_, _, he⟩
  · exact .sort (bind_list_fails hsort he)
  rcases bind_eq_error_iff.mp he with he | ⟨_, _, he⟩
  · obtain ⟨⟨_, hcheck⟩, hf⟩ := bind_filters_fails hpredicate he
    exact .filters hcheck hf
  rcases bind_eq_error_iff.mp he with he | ⟨_, _, he⟩
  · exact .fields (bind_list_fails hprojection he)
  rcases bind_eq_error_iff.mp he with he | ⟨_, _, he⟩
  · obtain ⟨_, hl, hf⟩ := bind_option_fails hlimit he
    exact .limit hl hf
  · cases he

theorem Sql.plan_fails (hc : Sql.compile query marker = .ok plan) (he : plan context = .error e) :
    query.Fails marker context whereText Sql.limit e := by
  obtain ⟨table, _, hc⟩ := bind_eq_ok hc
  obtain ⟨columns, hcolumns, hc⟩ := bind_eq_ok hc
  obtain ⟨filter, hfilter, hc⟩ := bind_eq_ok hc
  obtain ⟨order, horder, hc⟩ := bind_eq_ok hc
  obtain ⟨limit, hlimit, hc⟩ := bind_eq_ok hc
  cases hc
  rcases bind_eq_error_iff.mp he with he | ⟨_, _, he⟩
  · exact .fields (bind_list_fails hcolumns he)
  rcases bind_eq_error_iff.mp he with he | ⟨_, _, he⟩
  · obtain ⟨⟨_, hcheck⟩, hf⟩ := bind_filters_fails hfilter he
    exact .filters hcheck hf
  rcases bind_eq_error_iff.mp he with he | ⟨_, _, he⟩
  · exact .sort (bind_list_fails horder he)
  rcases bind_eq_error_iff.mp he with he | ⟨_, _, he⟩
  · obtain ⟨_, hl, hf⟩ := bind_option_fails hlimit he
    exact .limit hl hf
  · cases he

theorem resolve_of_clauses {fields : List String} {filters : List FilterToken}
    {sort : List SortTerm}
    {limit : Option String} (hfields : marker.resolve context query.fields = .ok fields)
    (hfilters : marker.resolve context query.filters = .ok filters)
    (hsort : marker.resolve context query.sort = .ok sort)
    (hlimit : query.limit.mapM (marker.resolve context) = .ok limit) :
    query.resolve marker context =
      .ok { query with fields := fields, filters := filters, sort := sort, limit := limit } := by
  simp [Query.resolve, hfields, hfilters, hsort, hlimit, bind, Except.bind, pure, Except.pure]

/-- A plan that gives something has resolved every clause. -/
theorem Records.plan_resolves {backend : BackendQuery}
    (hc : Records.compile query marker = .ok plan)
    (ht : plan context = .ok backend) :
    ∃ resolved, query.resolve marker context = .ok resolved := by
  obtain ⟨sortBound, hsortBound, hc⟩ := bind_eq_ok hc
  obtain ⟨predicateBound, hpredicateBound, hc⟩ := bind_eq_ok hc
  obtain ⟨projectionBound, hprojectionBound, hc⟩ := bind_eq_ok hc
  obtain ⟨limitBound, hlimitBound, hc⟩ := bind_eq_ok hc
  cases hc
  obtain ⟨_, hsort, ht⟩ := bind_eq_ok ht
  obtain ⟨_, hpredicate, ht⟩ := bind_eq_ok ht
  obtain ⟨_, hprojection, ht⟩ := bind_eq_ok ht
  obtain ⟨_, hlimit, ht⟩ := bind_eq_ok ht
  obtain ⟨sort, hsort⟩ := bind_list_resolves rfl hsortBound hsort
  obtain ⟨filters, hfilters⟩ := bind_filters_resolves hpredicateBound hpredicate
  obtain ⟨fields, hfields⟩ := bind_list_resolves rfl hprojectionBound hprojection
  obtain ⟨limit, hlimit, _⟩ := bind_limit_resolve hlimitBound hlimit
  exact ⟨_, resolve_of_clauses hfields hfilters hsort hlimit⟩

theorem Sql.plan_resolves {backend : BackendQuery} (hc : Sql.compile query marker = .ok plan)
    (ht : plan context = .ok backend) :
    ∃ resolved, query.resolve marker context = .ok resolved := by
  obtain ⟨_, _, hc⟩ := bind_eq_ok hc
  obtain ⟨columnsBound, hcolumnsBound, hc⟩ := bind_eq_ok hc
  obtain ⟨filterBound, hfilterBound, hc⟩ := bind_eq_ok hc
  obtain ⟨orderBound, horderBound, hc⟩ := bind_eq_ok hc
  obtain ⟨limitBound, hlimitBound, hc⟩ := bind_eq_ok hc
  cases hc
  obtain ⟨_, hcolumns, ht⟩ := bind_eq_ok ht
  obtain ⟨_, hfilter, ht⟩ := bind_eq_ok ht
  obtain ⟨_, horder, ht⟩ := bind_eq_ok ht
  obtain ⟨_, hlimit, ht⟩ := bind_eq_ok ht
  obtain ⟨fields, hfields⟩ := bind_list_resolves rfl hcolumnsBound hcolumns
  obtain ⟨filters, hfilters⟩ := bind_filters_resolves hfilterBound hfilter
  obtain ⟨sort, hsort⟩ := bind_list_resolves rfl horderBound horder
  obtain ⟨limit, hlimit, _⟩ := bind_limit_resolve hlimitBound hlimit
  exact ⟨_, resolve_of_clauses hfields hfilters hsort hlimit⟩

end Plans

theorem parse_limit_error {text : String} {e : Error} (h : parseLimit text = .error e) :
    e = .invalidLimit text := by
  unfold parseLimit at h
  split at h
  · cases h
  · cases h
    rfl

theorem Sql.limit_error {text : String} {e : Error} (h : Sql.limit text = .error e) :
    e = .invalidLimit text ∨ ∃ feature, e = .unsupported adapterName feature := by
  rcases bind_eq_error_iff.mp h with h | ⟨n, _, h⟩
  · exact .inl (parse_limit_error h)
  · split at h
    · cases h
      exact .inr ⟨_, rfl⟩
    · cases h

/-- The pattern and the flags a condition matches with. A string has no flags. -/
def Condition.pattern? (condition : Condition) : Option (String × String) :=
  match condition.comparator, condition.value with
  | .matches, .regex pattern flags => some (pattern, flags)
  | .matches, .string pattern => some (pattern, "")
  | _, _ => none

/-- A condition that can be tested if its pattern can be used: its value is no template and goes
with its comparator. -/
structure Condition.Settled (condition : Condition) : Prop where
  value : ∀ text, condition.value ≠ .template text
  admits : condition.comparator.admits condition.value = true

theorem Condition.Filled.is_settled {fill : String → Except Error String}
    {condition filled : Condition} (h : condition.Filled fill filled) : filled.Settled :=
  ⟨h.settled, h.admits⟩

theorem value_test_eq {condition : Condition} (h : condition.Settled) (index : Nat) :
    ValueTest.ofCondition index condition = match condition.pattern? with
      | some (pattern, flags) => (compilePattern pattern flags).map .matches
      | none => .ok (.compare condition.comparator condition.value) := by
  obtain ⟨key, comparator, value⟩ := condition
  obtain ⟨hs, ha⟩ := h
  cases value with
  | template text => exact absurd rfl (hs text)
  | regex pattern flags =>
    cases comparator with
    | «matches» => rfl
    | _ => cases ha
  | string text => cases comparator <;> rfl
  | null | bool | number =>
    cases comparator with
    | «matches» => cases ha
    | _ => rfl

/-- A condition whose pattern cannot be used with its flags, and the error it gives. -/
def Condition.BadPattern (condition : Condition) (e : Error) : Prop :=
  ∃ pattern flags, condition.pattern? = some (pattern, flags) ∧
    compilePattern pattern flags = .error e

theorem Condition.BadPattern.invalid_regex {condition : Condition} {e : Error}
    (h : condition.BadPattern e) : ∃ pattern fault, e = .invalidRegex pattern fault := by
  obtain ⟨pattern, _, _, he⟩ := h
  obtain ⟨fault, _, rfl⟩ := map_error_eq_error he
  exact ⟨pattern, fault, rfl⟩

theorem value_test_error_iff {condition : Condition} (h : condition.Settled) {index : Nat}
    {e : Error} : ValueTest.ofCondition index condition = .error e ↔ condition.BadPattern e := by
  rw [value_test_eq h, Condition.BadPattern]
  cases hp : condition.pattern? with
  | none => simp
  | some pair =>
    obtain ⟨pattern, flags⟩ := pair
    cases hc : compilePattern pattern flags <;> simp [hc, Except.map]

/-- If some tokens cannot be prepared, a condition among them cannot. -/
theorem steps_error {tokens : List FilterToken} {index : Nat} {e : Error}
    (h : FilterStep.ofTokens index tokens = .error e) :
    ∃ index condition, .condition condition ∈ tokens ∧
      ValueTest.ofCondition index condition = .error e := by
  induction tokens generalizing index with
  | nil => cases h
  | cons token tokens ih =>
    rcases bind_eq_error_iff.mp h with h | ⟨_, _, h⟩
    · cases token with
      | condition c => exact ⟨index, c, List.mem_cons_self, map_eq_error_iff.mp h⟩
      | connective op => cases h
    · rcases bind_eq_error_iff.mp h with h | ⟨_, _, h⟩
      · obtain ⟨later, condition, hm, hc⟩ := ih h
        exact ⟨later, condition, List.mem_cons_of_mem _ hm, hc⟩
      · cases h

/-- A sound stream of settled conditions gives a test, unless a pattern cannot be used. -/
theorem predicate_error {tokens : List FilterToken} {depth : Nat} {e : Error}
    (hc : FilterStream.check tokens = .ok depth)
    (hs : ∀ condition, .condition condition ∈ tokens → condition.Settled)
    (h : compilePredicate tokens = .error e) :
    ∃ condition, .condition condition ∈ tokens ∧ condition.BadPattern e := by
  rcases bind_eq_error_iff.mp h with h | ⟨_, _, h⟩
  · rw [hc] at h
    cases h
  · rcases bind_eq_error_iff.mp h with h | ⟨_, _, h⟩
    · obtain ⟨index, condition, hm, ht⟩ := steps_error h
      exact ⟨condition, hm, (value_test_error_iff (hs condition hm)).mp ht⟩
    · cases h

theorem test_of_steps {tokens : List FilterToken} {index : Nat} {steps : List FilterStep}
    {condition : Condition}
    (h : FilterStep.ofTokens index tokens = .ok steps) (hm : .condition condition ∈ tokens) :
    ∃ index test, ValueTest.ofCondition index condition = .ok test := by
  induction tokens generalizing index steps with
  | nil => cases hm
  | cons token tokens ih =>
    obtain ⟨step, hstep, h⟩ := bind_eq_ok h
    obtain ⟨later, hlater, _⟩ := bind_eq_ok h
    rcases List.mem_cons.mp hm with rfl | hm
    · obtain ⟨test, ht, _⟩ := map_eq_ok hstep
      exact ⟨index, test, ht⟩
    · exact ih hlater hm

/-- Filters that gave a test have no pattern that cannot be used. -/
theorem not_bad_of_predicate {tokens : List FilterToken} {predicate : Json → Bool}
    {condition : Condition} {e : Error}
    (h : compilePredicate tokens = .ok predicate) (hm : .condition condition ∈ tokens)
    (hs : condition.Settled) : ¬ condition.BadPattern e := by
  obtain ⟨_, _, h⟩ := bind_eq_ok h
  obtain ⟨steps, hsteps, _⟩ := bind_eq_ok h
  obtain ⟨index, test, ht⟩ := test_of_steps hsteps hm
  intro hb
  rw [(value_test_error_iff hs).mpr hb] at ht
  cases ht

section Filled

variable {fill : String → Except Error String} {tokens filled : List FilterToken} {depth : Nat}
  {e : Error}

theorem filled_predicate_error (hf : List.Forall₂ (FilterToken.Filled fill) tokens filled)
    (hc : FilterStream.check tokens = .ok depth) (h : compilePredicate filled = .error e) :
    ∃ pattern fault, e = .invalidRegex pattern fault := by
  rw [← FilterStream.check_filled hf] at hc
  have hs : ∀ condition, .condition condition ∈ filled → condition.Settled := by
    intro condition hm
    obtain ⟨_, hb⟩ := condition_filled hf hm
    exact hb.is_settled
  obtain ⟨condition, _, hb⟩ := predicate_error hc hs h
  exact hb.invalid_regex

namespace Sql

theorem condition_error {condition : Condition} (hs : ∀ text, condition.value ≠ .template text)
    (h : Sql.condition condition = .error e) : ∃ feature, e = .unsupported adapterName feature := by
  unfold Sql.condition at h
  dsimp only at h
  split at h
  · exact absurd ‹_› (hs _)
  · cases h
  · cases h
  · cases h
    exact ⟨_, rfl⟩
  · cases h
  · cases h
  · cases h
    exact ⟨_, rfl⟩
  · cases h
    exact ⟨_, rfl⟩
  · cases h

theorem where_error (hf : List.Forall₂ (FilterToken.Filled fill) tokens filled)
    (hc : FilterStream.check tokens = .ok depth) (h : whereText filled = .error e) :
    ∃ feature, e = .unsupported adapterName feature := by
  rw [← FilterStream.check_filled hf] at hc
  obtain ⟨condition, hm, h⟩ := FilterStream.fold_error hc h
  obtain ⟨before, hb⟩ := condition_filled hf hm
  exact condition_error hb.settled h

end Sql
end Filled

/-- What can go wrong with a compiled query for any backend: a placeholder has no value, what is
filled in is no good in its place, or the limit is no number. -/
inductive Error.IsLate : Error → Prop where
  | missingValue (name : String) : IsLate (.missingValue name)
  | invalidSubstitution (position : Position) (text : String) :
      IsLate (.invalidSubstitution position text)
  | invalidLimit (text : String) : IsLate (.invalidLimit text)

section

variable {query : Query} {marker : Marker} {plan : Plan} {context : Context} {e : Error}

theorem late_of_substitute {α : Type} [Clause α] [LawfulClause α] {clause : α}
    (h : Clause.substitute (marker.fill context) clause = .error e) : e.IsLate := by
  rcases (LawfulClause.fills_all (marker.fill context) clause).error h with
    ⟨leaf, _, hl⟩ | ⟨position, text, rfl⟩
  · obtain ⟨name, _, _, rfl⟩ := Marker.fill_error hl
    exact .missingValue name
  · exact .invalidSubstitution position text

theorem Records.late_error (hc : Records.compile query marker = .ok plan)
    (he : plan context = .error e) :
    e.IsLate ∨ ∃ pattern fault, e = .invalidRegex pattern fault := by
  cases Records.plan_fails hc he with
  | fields h => exact .inl (late_of_substitute h)
  | sort h => exact .inl (late_of_substitute h)
  | filters hcheck h =>
    rcases h with h | ⟨filled, hf, h⟩
    · exact .inl (late_of_substitute h)
    · exact .inr (filled_predicate_error (filters_filled hf) hcheck h)
  | limit _ h =>
    rcases h with h | ⟨filled, _, h⟩
    · exact .inl (late_of_substitute h)
    · rw [parse_limit_error h]
      exact .inl (.invalidLimit filled)

theorem Sql.late_error (hc : Sql.compile query marker = .ok plan) (he : plan context = .error e) :
    e.IsLate ∨ ∃ feature, e = .unsupported Sql.adapterName feature := by
  cases Sql.plan_fails hc he with
  | fields h => exact .inl (late_of_substitute h)
  | sort h => exact .inl (late_of_substitute h)
  | filters hcheck h =>
    rcases h with h | ⟨filled, hf, h⟩
    · exact .inl (late_of_substitute h)
    · exact .inr (Sql.where_error (filters_filled hf) hcheck h)
  | limit _ h =>
    rcases h with h | ⟨filled, _, h⟩
    · exact .inl (late_of_substitute h)
    · rcases Sql.limit_error h with rfl | h
      · exact .inl (.invalidLimit filled)
      · exact .inr h

end

/-- A context does not change the structure of a query. Once a query is compiled, what a context
brings can be missing, no good in its place, no number for the limit, no pattern, or beyond what SQL
is used for; it never makes the filters malformed. A clause that is filled has the parts it had, in
the same order: each field, key and value is its own text filled in, and the directions,
connectives, comparators and flags are the same. All its paths are valid, no value is a template any
more, and each value goes with its comparator. -/
theorem filling_keeps_structure (query : Query) (marker : Marker) (context : Context) :
    (∀ plan e, Records.compile query marker = .ok plan → plan context = .error e →
      e.IsLate ∨ ∃ pattern fault, e = .invalidRegex pattern fault) ∧
    (∀ plan e, Sql.compile query marker = .ok plan → plan context = .error e →
      e.IsLate ∨ ∃ feature, e = .unsupported Sql.adapterName feature) ∧
    (∀ fields, Clause.substitute (marker.fill context) query.fields = .ok fields →
      List.Forall₂ (PathFilled (marker.fill context) .fieldPath) query.fields fields ∧
      fields.length = query.fields.length ∧ ∀ field ∈ fields, isValidPath field.toList = true) ∧
    (∀ sort, Clause.substitute (marker.fill context) query.sort = .ok sort →
      List.Forall₂ (SortTerm.Filled (marker.fill context)) query.sort sort) ∧
    ∀ filters, Clause.substitute (marker.fill context) query.filters = .ok filters →
      List.Forall₂ (FilterToken.Filled (marker.fill context)) query.filters filters := by
  refine ⟨fun _ _ => Records.late_error, fun _ _ => Sql.late_error, fun fields h => ?_,
    fun _ => sort_filled, fun _ => filters_filled⟩
  obtain ⟨hlength, hparts⟩ := map_ok_parts h
  refine ⟨fields_filled h, hlength, fun field hm => ?_⟩
  obtain ⟨_, _, hf⟩ := hparts field hm
  exact (path_filled_of_fill hf).valid

/-- A query whose field, pattern and limit wait for their values. -/
def waitingQuery : Query :=
  { path := "/r"
    fields := ["a.\x7b\x7bf\x7d\x7d"]
    filters := [.condition ⟨"k", .matches, .regex "^\x7b\x7bp\x7d\x7d" "i"⟩]
    limit := some "\x7b\x7bf\x7d\x7d" }

theorem waiting_query_filled : ∃ (plan : Plan) (context : Context) (fields : List String)
    (filters : List FilterToken) (e : Error),
    context = [("f", .string "x"), ("p", .string "/")] ∧ fields = ["a.x"] ∧
    filters = [.condition ⟨"k", .matches, .regex "^/" "i"⟩] ∧
    Clause.substitute (Marker.braces.fill context) waitingQuery.fields = .ok fields ∧
    List.Forall₂ (PathFilled (Marker.braces.fill context) .fieldPath) waitingQuery.fields fields ∧
    Clause.substitute (Marker.braces.fill context) waitingQuery.filters = .ok filters ∧
    List.Forall₂ (FilterToken.Filled (Marker.braces.fill context)) waitingQuery.filters filters ∧
    Sql.compile waitingQuery .braces = .ok plan ∧ plan context = .error e ∧ e = .invalidLimit "x" ∧
    (e.IsLate ∨ ∃ feature, e = .unsupported Sql.adapterName feature) := by
  obtain ⟨plan, hc, he⟩ : ∃ plan, Sql.compile waitingQuery .braces = .ok plan ∧
      plan [("f", .string "x"), ("p", .string "/")] = .error (.invalidLimit "x") := ⟨_, rfl, rfl⟩
  obtain ⟨_, hsql, hfields, _, hfilters⟩ :=
    filling_keeps_structure waitingQuery .braces [("f", .string "x"), ("p", .string "/")]
  exact ⟨plan, _, _, _, _, rfl, rfl, rfl, rfl, (hfields _ rfl).1, rfl, hfilters _ rfl, hc, he, rfl,
    hsql plan _ hc he⟩

end PathQuery
