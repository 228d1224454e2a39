import PathQuery.Proofs.Placeholders

namespace PathQuery

/-- Contexts that give the same for some names: the same value, or none. -/
def Context.AgreeOn (names : List String) (first second : Context) : Prop :=
  ∀ name ∈ names, first.find? name = second.find? name

/-- Parts made in two ways come out the same if each of them does. -/
theorem mapM_congr {α β : Type} {f g : α → Except Error β} {xs : List α} (h : ∀ x ∈ xs, f x = g x) :
    xs.mapM f = xs.mapM g := by
  induction xs with
  | nil => rfl
  | cons x xs ih =>
    have hx := h x List.mem_cons_self
    have hxs := ih fun y hy => h y (List.mem_cons_of_mem x hy)
    simp [List.mapM_cons, hx, hxs]

theorem Marker.fill_congr {marker : Marker} {first second : Context} {text : String}
    (h : Context.AgreeOn (marker.names text) first second) :
    marker.fill first text = marker.fill second text := by
  unfold Marker.fill
  rw [mapM_congr]
  intro piece hm
  cases piece with
  | plain c => rfl
  | placeholder written =>
    have hname := h (String.ofList written) (Marker.mem_names.mpr ⟨written, hm, rfl⟩)
    simp only [hname]

section Leaves

variable {f g : String → Except Error String}

theorem fill_path_congr {position : Position} {path : String} (h : f path = g path) :
    fillPath f position path = fillPath g position path := by
  simp [fillPath, h]

theorem Literal.fill_congr {value : Literal} (h : ∀ leaf ∈ value.leaves, f leaf = g leaf) :
    value.fill f = value.fill g := by
  cases value with
  | string text => simp [Literal.fill, h text (by simp [Literal.leaves])]
  | regex pattern flags => simp [Literal.fill, h pattern (by simp [Literal.leaves])]
  | template text => simp [Literal.fill, h text (by simp [Literal.leaves])]
  | null | bool | number => rfl

theorem Condition.fill_congr {condition : Condition}
    (h : ∀ leaf ∈ condition.leaves, f leaf = g leaf) : condition.fill f = condition.fill g := by
  rw [Condition.leaves_eq] at h
  have hkey := @fill_path_congr f g .filterKey condition.key (h _ (by simp))
  have hvalue := @Literal.fill_congr f g condition.value (fun leaf hm => h leaf (by simp [hm]))
  simp only [Condition.fill, hkey, hvalue]

theorem FilterToken.fill_congr {token : FilterToken} (h : ∀ leaf ∈ token.leaves, f leaf = g leaf) :
    token.fill f = token.fill g := by
  cases token with
  | condition c => simp only [FilterToken.fill, Condition.fill_congr h]
  | connective op => rfl

theorem SortTerm.fill_congr {term : SortTerm} (h : f term.key = g term.key) :
    term.fill f = term.fill g := by
  simp only [SortTerm.fill, fill_path_congr h]

end Leaves

/-- A clause that is filled by its leaves: two ways to fill a text that agree on them give the
same. -/
class LeafwiseClause (α : Type) [Clause α] : Prop where
  substitute_congr : ∀ {f g : String → Except Error String} {clause : α},
    (∀ leaf ∈ Clause.leaves clause, f leaf = g leaf) →
      Clause.substitute f clause = Clause.substitute g clause

instance : LeafwiseClause (List String) where
  substitute_congr h := mapM_congr fun field hm => fill_path_congr (h field hm)

instance : LeafwiseClause (List SortTerm) where
  substitute_congr h := mapM_congr fun _ hm => SortTerm.fill_congr (h _ (List.mem_map_of_mem hm))

instance : LeafwiseClause (List FilterToken) where
  substitute_congr h := mapM_congr fun token hm =>
    FilterToken.fill_congr fun leaf hleaf => h leaf (List.mem_flatMap.mpr ⟨token, hm, hleaf⟩)

instance : LeafwiseClause String where
  substitute_congr h := h _ (List.mem_singleton_self _)

section Bound

variable {α β : Type} {marker : Marker} {first second : Context}

/-- What is bound to a clause looks up the names of the clause. -/
theorem bind_congr [Clause α] [LeafwiseClause α] {clause : α} {lower : α → Except Error β}
    {bound : Context → Except Error β} (hb : marker.bind clause lower = .ok bound)
    (h : ∀ leaf ∈ Clause.leaves clause, Context.AgreeOn (marker.names leaf) first second) :
    bound first = bound second := by
  unfold Marker.bind at hb
  split at hb
  · cases hb
    have hfill : Clause.substitute (marker.fill first) clause =
        Clause.substitute (marker.fill second) clause := by
      apply LeafwiseClause.substitute_congr
      intro leaf hm
      exact Marker.fill_congr (h leaf hm)
    simp only [hfill]
  · obtain ⟨value, _, hb⟩ := bind_eq_ok hb
    cases hb
    rfl

theorem bind_option_congr [Clause α] [LeafwiseClause α] {clause : Option α}
    {lower : α → Except Error β}
    {bound : Option (Context → Except Error β)} (hb : bindOption marker lower clause = .ok bound)
    (h : ∀ part, clause = some part →
      ∀ leaf ∈ Clause.leaves part, Context.AgreeOn (marker.names leaf) first second) :
    resolve first bound = resolve second bound := by
  cases clause with
  | none =>
    cases hb
    rfl
  | some part =>
    obtain ⟨run, hrun, rfl⟩ := map_eq_ok hb
    simp only [resolve, bind_congr hrun (h part rfl)]

theorem bind_list_congr [Clause (List α)] [LeafwiseClause (List α)] {parts : List α}
    {lower : List α → Except Error β}
    {bound : Option (Context → Except Error β)}
    (hb : bindOption marker lower (nonempty? parts) = .ok bound)
    (h : ∀ leaf ∈ Clause.leaves parts, Context.AgreeOn (marker.names leaf) first second) :
    resolve first bound = resolve second bound := by
  apply bind_option_congr hb
  intro part hp
  cases parts with
  | nil => cases hp
  | cons =>
    cases hp
    exact h

theorem bind_filters_congr {filters : List FilterToken} {lower : List FilterToken → Except Error β}
    {bound : Option (Context → Except Error β)} (hb : bindFilters marker lower filters = .ok bound)
    (h : ∀ leaf ∈ Clause.leaves filters, Context.AgreeOn (marker.names leaf) first second) :
    resolve first bound = resolve second bound := by
  cases filters with
  | nil =>
    cases hb
    rfl
  | cons token more =>
    obtain ⟨_, _, hb⟩ := bind_eq_ok hb
    obtain ⟨run, hrun, hb⟩ := bind_eq_ok hb
    cases hb
    simp only [resolve, bind_congr hrun h]

end Bound

section Plans

variable {query : Query} {marker : Marker} {first second : Context} {plan : Plan}

/-- Contexts that agree on the names of a query agree on those of its clauses. -/
structure Query.ClausesAgree (query : Query) (marker : Marker) (first second : Context) : Prop where
  fields : ∀ leaf ∈ Clause.leaves query.fields, Context.AgreeOn (marker.names leaf) first second
  filters : ∀ leaf ∈ Clause.leaves query.filters, Context.AgreeOn (marker.names leaf) first second
  sort : ∀ leaf ∈ Clause.leaves query.sort, Context.AgreeOn (marker.names leaf) first second
  limit : ∀ limit, query.limit = some limit →
    ∀ leaf ∈ Clause.leaves limit, Context.AgreeOn (marker.names leaf) first second

theorem clauses_agree (h : Context.AgreeOn (query.placeholders marker) first second) :
    query.ClausesAgree marker first second where
  fields leaf hm name hn := h name (mem_placeholders.mpr (.inl ⟨leaf, hm, hn⟩))
  filters leaf hm name hn := h name (mem_placeholders.mpr (.inr (.inl ⟨leaf, hm, hn⟩)))
  sort leaf hm name hn := h name (mem_placeholders.mpr (.inr (.inr (.inl ⟨leaf, hm, hn⟩))))
  limit limit hl leaf hm name hn := by
    apply h name
    rw [List.mem_singleton.mp hm] at hn
    exact mem_placeholders.mpr (.inr (.inr (.inr ⟨limit, hl, hn⟩)))

theorem Records.plan_congr (hc : Records.compile query marker = .ok plan)
    (h : query.ClausesAgree marker first second) : plan first = plan second := by
  obtain ⟨sort, hsort, hc⟩ := bind_eq_ok hc
  obtain ⟨predicate, hpredicate, hc⟩ := bind_eq_ok hc
  obtain ⟨projection, hprojection, hc⟩ := bind_eq_ok hc
  obtain ⟨limit, hlimit, hc⟩ := bind_eq_ok hc
  cases hc
  simp only [bind_list_congr hsort h.sort, bind_filters_congr hpredicate h.filters,
    bind_list_congr hprojection h.fields, bind_option_congr hlimit h.limit]

theorem Sql.plan_congr (hc : Sql.compile query marker = .ok plan)
    (h : query.ClausesAgree marker first second) : plan first = plan second := by
  obtain ⟨table, _, hc⟩ := bind_eq_ok hc
  obtain ⟨columns, hcolumns, hc⟩ := bind_eq_ok hc
  obtain ⟨filter, hfilter, hc⟩ := bind_eq_ok hc
  obtain ⟨order, horder, hc⟩ := bind_eq_ok hc
  obtain ⟨limit, hlimit, hc⟩ := bind_eq_ok hc
  cases hc
  simp only [bind_list_congr hcolumns h.fields, bind_filters_congr hfilter h.filters,
    bind_list_congr horder h.sort, bind_option_congr hlimit h.limit]

end Plans

/-- A compiled query looks at nothing in its context but the placeholders the query announces: for
two contexts with the same values for these, the usual adapters give the same statement, the same
stages or the same error. -/
theorem plan_reads_announced_placeholders (query : Query) (marker : Marker) (adapter : Adapter Id)
    (ha : adapter ∈ (Registry.builtin : Registry Id).adapters) (plan : Plan)
    (hc : Id.run (adapter.compile query marker) = .ok plan) (first second : Context)
    (h : ∀ name ∈ query.placeholders marker, first.find? name = second.find? name) :
    plan first = plan second := by
  have hagree := clauses_agree h
  rcases List.mem_pair.mp ha with rfl | rfl
  · exact Records.plan_congr hc hagree
  · exact Sql.plan_congr hc hagree

theorem waiting_query_reads_its_placeholders : ∃ (plan : Plan) (first second : Context),
    first = [("f", .string "7"), ("p", .string "x")] ∧
    second = [("f", .string "7"), ("other", .bool true), ("p", .string "x")] ∧
    waitingQuery.placeholders .braces = ["f", "p"] ∧
    Id.run ((Sql.adapter : Adapter Id).compile waitingQuery .braces) = .ok plan ∧
    plan first = .ok (.text "SELECT \"a\".\"7\" FROM \"r\" WHERE \"k\" ~* '^x' LIMIT 7") ∧
      plan second = plan first := by
  have hm : (Sql.adapter : Adapter Id) ∈ (Registry.builtin : Registry Id).adapters := by
    simp [Registry.builtin]
  obtain ⟨plan, hc, ht⟩ :
    ∃ plan, Id.run ((Sql.adapter : Adapter Id).compile waitingQuery .braces) = .ok plan ∧
      plan [("f", .string "7"), ("p", .string "x")] =
        .ok (.text "SELECT \"a\".\"7\" FROM \"r\" WHERE \"k\" ~* '^x' LIMIT 7") := ⟨_, rfl, rfl⟩
  have hnames : waitingQuery.placeholders .braces = ["f", "p"] := by decide
  refine ⟨plan, _, [("f", .string "7"), ("other", .bool true), ("p", .string "x")], rfl, rfl,
    hnames, hc, ht, ?_⟩
  apply plan_reads_announced_placeholders waitingQuery .braces Sql.adapter hm plan hc
  intro name hn
  rw [hnames] at hn
  rcases List.mem_pair.mp hn with rfl | rfl <;> rfl

end PathQuery
