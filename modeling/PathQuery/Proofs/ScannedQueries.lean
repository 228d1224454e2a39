import PathQuery.Proofs.ScannedFilters

namespace PathQuery

section Readers

variable (source : Source) (text : List Char)

/-- A whole query that starts at a rest of the source. -/
def readQueryAt : Except Failure (Query × List Char) :=
  let start := readCollection (Text.skipBlanks text)
  if start.2.head? = some '/' then
    (readFieldClause source
        { collection := start.1, path := String.ofList (start.2.takeWhile isLocationChar) }
        (start.2.dropWhile isLocationChar)).bind fun fields =>
      (readOptionClause source fields.1 fields.2).bind fun options =>
        (readFilterClause source options.1 (Text.skipBlanks options.2)).bind fun filters =>
          (expectEnd filters.2).map fun _ => (filters.1, Text.skipBlanks filters.2)
  else .error ⟨.slash, start.2⟩

/-- A single value that starts at a rest of the source. -/
def readLoneValueAt : Except Failure (Literal × List Char) :=
  (readValue source (Text.skipBlanks text)).bind fun found =>
    (expectEnd found.2).map fun _ => (found.1, Text.skipBlanks found.2)

theorem read_query_at_source :
    (readQueryAt source source.text).map Prod.fst = readQuery source := by
  rcases hc : readCollection (Text.skipBlanks source.text) with ⟨collection, start⟩
  simp only [readQueryAt, hc]
  by_cases hs : start.head? = some '/'
  · rw [if_pos hs, read_query_eq hc hs]
    simp only [map_bind_eq, map_map_eq]
  · rw [if_neg hs, readQuery]
    simp only [hc, ne_eq, hs, not_false_eq_true, if_true]
    rfl

theorem read_lone_value_at_source :
    (readLoneValueAt source source.text).map Prod.fst = readLoneValue source := by
  simp only [readLoneValueAt, map_bind_eq, map_map_eq]
  rfl

end Readers

namespace Scanner

section Clauses

variable {scanner : Scanner} {position : Nat} {rest : List Char}

/-- What is passed over is the slice from the start to the end. -/
theorem skipped_slice {allowed : Char → Bool} {next : Nat} (h : StandsAt scanner.text position rest)
    (hn : StandsAt scanner.text next (rest.dropWhile allowed)) :
    Text.slice? scanner.text position next = some (String.ofList (rest.takeWhile allowed)) := by
  rw [← List.takeWhile_append_dropWhile (p := allowed) (l := rest)] at h
  exact h.slice hn

/-- The position goes back to the start where there is no collection. Where there is one, its name
ends one byte before the position, since the colon is one byte long. -/
theorem collection_follows (h : StandsAt scanner.text position rest) :
    Follows scanner.text position (scanner.collection.result position)
      (.ok ((readCollection rest).1, (readCollection rest).2)) := by
  obtain ⟨next, hskip, hnext, hle⟩ := (skip_while_follows isCollectionChar h).eq_ok
  have hslice := skipped_slice h hnext
  have hsplit := h
  rw [← List.takeWhile_append_dropWhile (p := isCollectionChar) (l := rest)] at hsplit
  rw [collection, Scan.get_bind, Scan.bind_ok hskip, Scan.get_bind]
  by_cases hname : rest.takeWhile isCollectionChar = []
  · have hsame : ¬ position < next := by
      have := hsplit.next_eq hnext
      rw [hname] at this
      simp at this
      omega
    have hnone : readCollection rest = (none, rest) := by
      simp only [readCollection, hname, if_true]
      split <;> rfl
    rw [if_neg hsame, hnone]
    exact .ok h le_rfl
  · have hlt : position < next := by
      have := hsplit.next_eq hnext
      have := Text.byte_length_pos hname
      omega
    rw [if_pos hlt]
    by_cases hcolon : ∃ after, rest.dropWhile isCollectionChar = ':' :: after
    · obtain ⟨after, hcolon⟩ := hcolon
      rw [hcolon] at hnext
      obtain ⟨stop, heat, hstop, hlater⟩ := (eat_head hnext).eq_ok
      have hback : stop - 1 = next := by
        have hbyte : stop = next + 1 := @StandsAt.next_eq _ _ _ after [':'] hnext hstop
        omega
      have hsome : readCollection rest =
          (some (String.ofList (rest.takeWhile isCollectionChar)), after) := by
        simp only [readCollection, hcolon, hname, if_false]
      rw [Scan.bind_ok heat, hsome]
      simp only [if_true]
      rw [Scan.get_bind, hback, slice, Scan.lift_bind hslice]
      exact .ok hstop (hle.trans hlater)
    · have hnone : readCollection rest = (none, rest) := by
        simp only [readCollection]
        split
        · rename_i after hafter
          exact absurd ⟨after, hafter⟩ hcolon
        · rfl
      obtain ⟨stop, heat, _, _⟩ := (eat_other hnext (head_ne (not_exists.mp hcolon))).eq_ok
      rw [Scan.bind_ok heat, hnone]
      exact .ok h le_rfl

theorem location_follows (h : StandsAt scanner.text position rest) :
    Follows scanner.text position (scanner.location.result position)
      (.ok (String.ofList (rest.takeWhile isLocationChar), rest.dropWhile isLocationChar)) := by
  rw [location, Scan.get_bind]
  refine (skip_while_follows isLocationChar h).bind_ok ?_
  intro next hnext
  rw [Scan.get_bind, slice, skipped_slice h hnext]
  exact .ok hnext le_rfl

theorem ending_follows (h : StandsAt scanner.text position rest) :
    Follows scanner.text position (scanner.ending.result position)
      ((expectEnd rest).map fun _ => ((), Text.skipBlanks rest)) := by
  refine (skip_blanks_follows h).bind_ok ?_
  intro next hnext
  rw [Scan.get_bind, expectEnd]
  cases hs : Text.skipBlanks rest with
  | nil =>
    rw [hs] at hnext
    rw [if_pos (hnext.eq_size_iff.mpr rfl)]
    exact .ok hnext le_rfl
  | cons c tail =>
    rw [hs] at hnext
    rw [if_neg (mt hnext.eq_size_iff.mp (List.cons_ne_nil c tail))]
    exact fail_follows hnext .queryEnd

/-- A clause is read behind its opening sign; without the sign there is none. -/
theorem clause_follows {c : Char} {scan : Scan Query} {query : Query}
    (clause : List Char → Except Failure (Query × List Char))
    (hscan : ∀ next after, StandsAt scanner.text next after →
      Follows scanner.text next (scan.result next) (clause (c :: after)))
    (hnone : rest.head? ≠ some c → clause rest = .ok (query, rest))
    (h : StandsAt scanner.text position rest) :
    Follows scanner.text position
      ((scanner.eat c >>= fun opened => if opened then scan else pure query).result position)
      (clause rest) := by
  by_cases hc : rest.head? = some c
  · obtain ⟨after, rfl⟩ := List.head?_eq_some_iff.mp hc
    refine (eat_head h).bind_ok ?_
    intro next hnext
    exact hscan next after hnext
  · rw [hnone hc]
    refine (eat_other h hc).bind_ok ?_
    intro next hnext
    exact .ok hnext le_rfl

theorem field_clause_follows (query : Query) (h : StandsAt scanner.text position rest) :
    Follows scanner.text position ((scanner.fieldClause query).result position)
      (readFieldClause scanner.source query rest) := by
  refine clause_follows (readFieldClause scanner.source query) ?_ ?_ h
  · intro next after hnext
    have hfields := (fields_follows [] hnext).map (g := fun fields => { query with fields })
    rw [map_map_eq] at hfields
    exact hfields
  · intro hc
    unfold readFieldClause
    split
    · exact absurd rfl hc
    · rfl

theorem option_clause_follows (query : Query) (h : StandsAt scanner.text position rest) :
    Follows scanner.text position ((scanner.optionClause query).result position)
      (readOptionClause scanner.source query rest) := by
  refine clause_follows (readOptionClause scanner.source query) ?_ ?_ h
  · intro next after hnext
    exact options_follows query hnext
  · intro hc
    unfold readOptionClause
    split
    · exact absurd rfl hc
    · rfl

theorem filter_clause_follows (query : Query) (h : StandsAt scanner.text position rest) :
    Follows scanner.text position ((scanner.filterClause query).result position)
      (readFilterClause scanner.source query rest) := by
  refine clause_follows (readFilterClause scanner.source query) ?_ ?_ h
  · intro next after hnext
    have hfilters := (filters_follows hnext).map (g := fun filters => { query with filters })
    rw [emitted, map_map_eq] at hfilters
    exact hfilters
  · intro hc
    unfold readFilterClause
    split
    · exact absurd rfl hc
    · rfl

/-- A result stands if nothing but white space is left. -/
theorem finished_follows {α : Type} (result : α) (h : StandsAt scanner.text position rest) :
    Follows scanner.text position ((scanner.ending >>= fun _ => pure result).result position)
      ((expectEnd rest).map fun _ => (result, Text.skipBlanks rest)) := by
  have hending := (ending_follows h).map (g := fun _ => result)
  rw [map_map_eq] at hending
  exact hending

theorem query_follows (h : StandsAt scanner.text position rest) :
    Follows scanner.text position (scanner.query.result position)
      (readQueryAt scanner.source rest) := by
  refine (skip_blanks_follows h).bind_ok ?_
  intro next hnext
  refine (collection_follows hnext).bind_ok ?_
  intro next hnext
  rw [Scan.bind_ok (looks_at_result hnext "/"), readQueryAt]
  by_cases hs : (readCollection (Text.skipBlanks rest)).2.head? = some '/'
  · obtain ⟨tail, htail⟩ := List.head?_eq_some_iff.mp hs
    have hslash : "/".toList.isPrefixOf (readCollection (Text.skipBlanks rest)).2 = true := by
      rw [htail]
      exact List.isPrefixOf_iff_prefix.mpr (List.prefix_append "/".toList tail)
    rw [if_pos hslash, if_pos hs]
    refine (location_follows hnext).bind_ok ?_
    intro next hnext
    refine (field_clause_follows _ hnext).bind ?_
    intro fields next after hnext _
    refine (option_clause_follows _ hnext).bind ?_
    intro options next after hnext _
    refine (skip_blanks_follows hnext).bind_ok ?_
    intro next hnext
    refine (filter_clause_follows _ hnext).bind ?_
    intro filters next after hnext _
    exact finished_follows filters hnext
  · have hslash : ¬ "/".toList.isPrefixOf (readCollection (Text.skipBlanks rest)).2 = true := by
      intro hprefix
      obtain ⟨tail, htail⟩ := List.isPrefixOf_iff_prefix.mp hprefix
      rw [← htail] at hs
      exact hs rfl
    rw [if_neg hslash, if_neg hs]
    exact fail_follows hnext .slash

theorem lone_value_follows (h : StandsAt scanner.text position rest) :
    Follows scanner.text position (scanner.loneValue.result position)
      (readLoneValueAt scanner.source rest) := by
  refine (skip_blanks_follows h).bind_ok ?_
  intro next hnext
  refine (value_follows hnext).bind ?_
  intro value next after hnext _
  exact finished_follows value hnext

end Clauses
end Scanner

/-- Reading by positions and reading by rests agree on every query. -/
theorem Query.scan_eq_parse (marker : Marker) (text : String) :
    Query.scan? marker text = some (Query.parseWith marker text) := by
  have hquery := @Scanner.query_follows ⟨marker, text⟩ 0 text.toList (.start text)
  rw [Query.scan?, hquery.outcome_eq, Query.parseWith]
  exact congrArg (some <| Except.mapError _ ·) (read_query_at_source ⟨marker, text.toList⟩)

theorem Literal.scan_eq_parse (text : String) :
    Literal.scan? text = some (Literal.parse text) := by
  have hvalue := @Scanner.lone_value_follows ⟨.braces, text⟩ 0 text.toList (.start text)
  rw [Literal.scan?, hvalue.outcome_eq, Literal.parse]
  exact congrArg (some <| Except.mapError _ ·) (read_lone_value_at_source ⟨.braces, text.toList⟩)

end PathQuery
