import PathQuery.Proofs.ConstantQueries

namespace PathQuery

/-- A condition that asks whether something comes before or after null. -/
def Condition.OrdersNull (condition : Condition) : Prop :=
  condition.value = .null ∧ condition.comparator ∈ [.gt, .ge, .lt, .le]

/-- What is beyond SQL: a path of slashes only, a condition that orders null, and a limit that
counts from the end. -/
inductive Query.BeyondSql (query : Query) : Prop where
  | table (h : ∀ c ∈ query.path.toList, c = '/')
  | null {condition : Condition} (hm : .condition condition ∈ query.filters)
      (h : condition.OrdersNull)
  | limit {text : String} {n : Int} (hl : query.limit = some text)
      (hn : parseLimit text = .ok n) (h : n < 0)

/-- A piece between separators holds characters of the text, but no separator. -/
theorem Text.mem_piece {separator c : Char} {text piece : List Char}
    (hp : piece ∈ splitOn separator text) (hc : c ∈ piece) : c ∈ text ∧ c ≠ separator := by
  induction text generalizing piece with
  | nil =>
    rw [List.mem_singleton.mp hp] at hc
    cases hc
  | cons d rest ih =>
    rw [splitOn] at hp
    split at hp
    · rcases List.mem_cons.mp hp with rfl | hp
      · cases hc
      · exact ⟨List.mem_cons_of_mem d (ih hp hc).1, (ih hp hc).2⟩
    · rename_i hd
      obtain ⟨first, pieces, he⟩ := List.exists_cons_of_ne_nil (split_on_ne_nil separator rest)
      rw [he] at hp ih
      rcases List.mem_cons.mp hp with rfl | hp
      · rcases List.mem_cons.mp hc with rfl | hc
        · exact ⟨List.mem_cons_self, hd⟩
        · have := ih List.mem_cons_self hc
          exact ⟨List.mem_cons_of_mem d this.1, this.2⟩
      · have := ih (List.mem_cons_of_mem first hp) hc
        exact ⟨List.mem_cons_of_mem d this.1, this.2⟩

theorem Text.pieces_empty_iff {separator : Char} {text : List Char} :
    (splitOn separator text).filter (· ≠ []) = [] ↔ ∀ c ∈ text, c = separator := by
  constructor
  · intro h c hc
    rcases mem_split_on separator hc with hs | ⟨piece, hp, hm⟩
    · exact hs
    · have := List.filter_eq_nil_iff.mp h piece hp
      simp only [decide_not, Bool.not_eq_true', decide_eq_false_iff_not, not_not] at this
      rw [this] at hm
      cases hm
  · intro h
    refine List.filter_eq_nil_iff.mpr fun piece hp => ?_
    simp only [decide_not, Bool.not_eq_true', decide_eq_false_iff_not, not_not]
    refine List.eq_nil_iff_forall_not_mem.mpr fun c hc => ?_
    obtain ⟨hm, hne⟩ := mem_piece hp hc
    exact hne (h c hm)

namespace Sql

theorem table_error_iff {query : Query} {e : Error} : table query = .error e ↔
    (∀ c ∈ query.path.toList, c = '/') ∧ e = unsupported "a query path without a table name" := by
  rw [← Text.pieces_empty_iff, ← List.getLast?_eq_none_iff]
  unfold table
  generalize ((Text.splitOn '/' query.path.toList).filter (· ≠ [])).getLast? = name
  cases name with
  | none => simp [eq_comm]
  | some name => simp

/-- A condition that is settled has a text unless it orders null. -/
theorem condition_error_iff {c : Condition} (h : c.Settled) {e : Error} : condition c = .error e ↔
    c.OrdersNull ∧ e = unsupported "ordering comparisons against null" := by
  obtain ⟨key, comparator, value⟩ := c
  obtain ⟨hs, ha⟩ := h
  cases value with
  | template text => exact absurd rfl (hs text)
  | null =>
    cases comparator with
    | «matches» => cases ha
    | _ => simp [condition, Condition.OrdersNull, eq_comm]
  | regex pattern flags =>
    cases comparator with
    | «matches» => simp [condition, Condition.OrdersNull]
    | _ => cases ha
  | string text => cases comparator <;> simp [condition, Condition.OrdersNull]
  | bool | number =>
    cases comparator with
    | «matches» => cases ha
    | _ => simp [condition, Condition.OrdersNull]

theorem limit_error_iff {text : String} {n : Int} (h : parseLimit text = .ok n) {e : Error} :
    limit text = .error e ↔ n < 0 ∧ e = unsupported "negative limits" := by
  unfold limit
  rw [h]
  by_cases hn : n < 0
  · simp [bind, Except.bind, hn, eq_comm]
  · simp [bind, Except.bind, pure, Except.pure, hn]

theorem where_malformed {filters : List FilterToken} {e : Error}
    (h : FilterStream.check filters = .error e) : whereText filters = .error e := by
  rw [whereText, FilterStream.fold, h]

end Sql

/-- The statement of a query, made of its clauses as they stand. -/
def Query.statement (query : Query) : Except Error Sql.Statement := do
  let table ← Sql.table query
  let filter ← (nonempty? query.filters).mapM Sql.whereText
  let limit ← query.limit.mapM Sql.limit
  return { columns := (nonempty? query.fields).map Sql.columnsText
           table := table
           filter := filter
           order := (nonempty? query.sort).map Sql.orderText
           limit := limit }

/-- A constant query is compiled to the text of its statement, whatever the context. -/
theorem Sql.compile_statement {query : Query} (h : query.isConstant = true) :
    Sql.compile query .braces = query.statement.map fun statement _ =>
      .ok (.text statement.text) := by
  obtain ⟨hfields, hfilters, hsort, hlimit⟩ := Query.clauses_constant h
  rw [Sql.compile, bind_list_constant hfields,
    bind_filters_constant hfilters fun _ => Sql.where_malformed, bind_list_constant hsort,
    bind_option_constant hlimit, Query.statement]
  cases Sql.table query with
  | error e => rfl
  | ok table =>
    cases (nonempty? query.filters).mapM Sql.whereText with
    | error e => rfl
    | ok filter =>
      cases query.limit.mapM Sql.limit with
      | error e => rfl
      | ok limit => simp [bind, Except.bind, Except.map, pure, Except.pure]

namespace Query.Readable

variable {query : Query}

/-- If a constant query that was read has no statement, it is beyond SQL. -/
theorem statement_error (h : query.Readable) (hc : query.isConstant = true) {e : Error}
    (he : query.statement = .error e) :
    query.BeyondSql ∧ ∃ feature, e = .unsupported Sql.adapterName feature := by
  rcases bind_eq_error_iff.mp he with he | ⟨_, _, he⟩
  · obtain ⟨hslash, rfl⟩ := Sql.table_error_iff.mp he
    exact ⟨.table hslash, _, rfl⟩
  rcases bind_eq_error_iff.mp he with he | ⟨_, _, he⟩
  · by_cases hf : query.filters = []
    · rw [hf] at he
      cases he
    · obtain ⟨depth, hcheck⟩ := h.sound.resolve_left hf
      rw [mapM_nonempty hf] at he
      obtain ⟨condition, hm, he⟩ := FilterStream.fold_error hcheck (map_eq_error_iff.mp he)
      obtain ⟨hnull, rfl⟩ := (Sql.condition_error_iff (h.settled hc hm)).mp he
      exact ⟨.null hm hnull, _, rfl⟩
  rcases bind_eq_error_iff.mp he with he | ⟨_, _, he⟩
  · cases hl : query.limit with
    | none =>
      rw [hl] at he
      cases he
    | some text =>
      rw [hl, Option.mapM_some] at he
      obtain ⟨n, hn⟩ := h.limit_number hc hl
      obtain ⟨hneg, rfl⟩ := (Sql.limit_error_iff hn).mp (map_eq_error_iff.mp he)
      exact ⟨.limit hl hn hneg, _, rfl⟩
  · cases he

/-- A constant query that was read and has a statement is not beyond SQL. -/
theorem not_beyond_sql (h : query.Readable) (hc : query.isConstant = true)
    {statement : Sql.Statement} (hs : query.statement = .ok statement) : ¬ query.BeyondSql := by
  obtain ⟨table, htable, hs⟩ := bind_eq_ok hs
  obtain ⟨filter, hfilter, hs⟩ := bind_eq_ok hs
  obtain ⟨limit, hlimit, _⟩ := bind_eq_ok hs
  intro hb
  cases hb with
  | table hslash =>
    rw [Sql.table_error_iff.mpr ⟨hslash, rfl⟩] at htable
    cases htable
  | null hm hnull =>
    have hne := List.ne_nil_of_mem hm
    obtain ⟨depth, hcheck⟩ := h.sound.resolve_left hne
    rw [mapM_nonempty hne] at hfilter
    obtain ⟨text, htext, _⟩ := map_eq_ok hfilter
    obtain ⟨part, hpart⟩ := FilterStream.leaf_of_fold hcheck htext hm
    rw [(Sql.condition_error_iff (h.settled hc hm)).mpr ⟨hnull, rfl⟩] at hpart
    cases hpart
  | limit hl hn hneg =>
    rw [hl, Option.mapM_some, (Sql.limit_error_iff hn).mpr ⟨hneg, rfl⟩] at hlimit
    cases hlimit

end Query.Readable

/-- A constant query that was read fails to become SQL exactly if it is beyond SQL: its path names
no table, a condition orders null, or its limit is negative. Compiling says so, with no context at
hand. Any other query is compiled to one text, which is the same for every context. -/
theorem constant_sql_fails_iff (text : String) (query : Query) (h : Query.parse text = .ok query)
    (hc : query.isConstant = true) :
    (∀ context, (∃ e, (Sql.compile query .braces).bind (· context) = .error e) ↔ query.BeyondSql) ∧
    (query.BeyondSql → ∃ feature, Sql.compile query .braces =
      .error (.unsupported Sql.adapterName feature)) ∧
    (¬ query.BeyondSql → ∃ statement, query.statement = .ok statement ∧
      Sql.compile query .braces = .ok fun _ => .ok (.text statement.text)) := by
  obtain ⟨hread, _⟩ := readable_of_parse h
  have hcompile := Sql.compile_statement hc
  cases hs : query.statement with
  | error e =>
    obtain ⟨hbeyond, feature, rfl⟩ := hread.statement_error hc hs
    rw [hs] at hcompile
    refine ⟨fun context => ⟨fun _ => hbeyond, fun _ => ⟨.unsupported Sql.adapterName feature, ?_⟩⟩,
      fun _ => ⟨feature, hcompile⟩, fun hno => absurd hbeyond hno⟩
    rw [hcompile]
    rfl
  | ok statement =>
    have hno := hread.not_beyond_sql hc hs
    rw [hs] at hcompile
    refine ⟨fun context => ⟨?_, fun hb => absurd hb hno⟩, fun hb => absurd hb hno,
      fun _ => ⟨statement, rfl, hcompile⟩⟩
    rintro ⟨e, he⟩
    rw [hcompile] at he
    cases he

/-- Null in an order deep inside the filters, and a query that SQL has a text for. -/
theorem constant_sql_decides : ∃ refused query : Query,
    Query.parse "/r?(a='y'&(b='x'|c<=null))" = .ok refused ∧ refused.isConstant = true ∧
    (∃ feature, Sql.compile refused .braces = .error (.unsupported Sql.adapterName feature)) ∧
    Query.parse "s:/r/t\x7ba.b\x7d[limit=0]?c=null|k~/x/i" = .ok query ∧ query.isConstant = true ∧
    ∃ statement, query.statement = .ok statement ∧
      Sql.compile query .braces = .ok fun _ => .ok (.text statement.text) := by
  have hrefused : Query.parse "/r?(a='y'&(b='x'|c<=null))" =
      .ok ⟨none, "/r", [], [.condition ⟨"a", .eq, .string "y"⟩, .condition ⟨"b", .eq, .string "x"⟩,
        .condition ⟨"c", .le, .null⟩, .connective .or, .connective .and], [], none⟩ := by
    decide +kernel
  have hquery : Query.parse "s:/r/t\x7ba.b\x7d[limit=0]?c=null|k~/x/i" =
      .ok ⟨some "s", "/r/t", ["a.b"],
        [.condition ⟨"c", .eq, .null⟩, .condition ⟨"k", .matches, .regex "x" "i"⟩, .connective .or],
        [], some "0"⟩ := by
    decide +kernel
  have hbeyond := (constant_sql_fails_iff _ _ hrefused (by decide)).2.1
  have hwithin := (constant_sql_fails_iff _ _ hquery (by decide)).2.2
  have hnull : Condition.OrdersNull ⟨"c", .le, .null⟩ := ⟨rfl, by decide⟩
  refine ⟨_, _, hrefused, by decide, hbeyond (.null (by decide) hnull),
    hquery, by decide, hwithin ?_⟩
  intro hb
  cases hb with
  | table h => exact absurd (h 'r' (by decide)) (by decide)
  | null hm h =>
    simp only [List.mem_cons, List.not_mem_nil, reduceCtorEq, or_false,
      FilterToken.condition.injEq] at hm
    rcases hm with rfl | rfl
    · exact absurd h.2 (by decide)
    · exact absurd h.1 (by decide)
  | limit hl hn h =>
    cases hl
    cases hn
    cases h

end PathQuery
