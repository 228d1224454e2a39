import PathQuery.Proofs.Grammar
import PathQuery.Proofs.Streams
import PathQuery.Proofs.Substitution

namespace PathQuery

section OneCondition

variable {source : Source} {text rest : List Char} {condition : Condition}

/-- Further filters are joined to those before them. -/
theorem more_filters_cases {before tree : FilterTree}
    (h : readMoreFilters source before text = .ok (tree, rest)) :
    (tree = before ∧ rest = Text.skipBlanks text) ∨
      ∃ connective left right, tree = .join connective left right := by
  induction hn : text.length using Nat.strongRecOn generalizing text before with
  | ind n ih =>
    subst hn
    cases hc : readConnective? (Text.skipBlanks text) with
    | none =>
      rw [more_filters_end hc] at h
      cases h
      exact .inl ⟨rfl, rfl⟩
    | some found =>
      obtain ⟨connective, after⟩ := found
      have hlen : after.length < text.length :=
        Nat.lt_of_lt_of_le (read_connective_length_lt hc) (Text.skip_blanks_length_le text)
      rw [more_filters_join hc] at h
      obtain ⟨⟨next, tail⟩, hnext, h⟩ := bind_eq_ok h
      rcases ih tail.length (Nat.lt_trans (operand_length_lt hnext) hlen) h rfl with
        ⟨rfl, _⟩ | hjoin
      · exact .inr ⟨connective, before, next, rfl⟩
      · exact .inr hjoin

/-- Without parentheses, filters are one condition if a condition is all there is. -/
theorem filters_leaf_iff (hopen : ∀ inner, Text.skipBlanks text ≠ '(' :: inner) :
    (∃ rest, readFilters source text = .ok (.leaf condition, rest) ∧ Text.Blank rest) ↔
      ∃ rest, readCondition source (Text.skipBlanks text) = .ok (condition, rest) ∧
        Text.Blank rest := by
  rw [filters_eq, operand_condition hopen]
  constructor
  · rintro ⟨rest, h, hblank⟩
    obtain ⟨⟨tree, tail⟩, hfirst, h⟩ := bind_eq_ok h
    obtain ⟨⟨read, after⟩, hread, he⟩ := map_eq_ok hfirst
    cases he
    rcases more_filters_cases h with ⟨he, rfl⟩ | ⟨_, _, _, he⟩
    · cases he
      exact ⟨after, hread, Text.blank_of_skip_blanks hblank⟩
    · cases he
  · rintro ⟨rest, hread, hblank⟩
    refine ⟨[], ?_, Text.blank_nil⟩
    have hskip := Text.skip_blanks_blank hblank
    simp only [hread, Except.map, Except.bind]
    rw [more_filters_end (by rw [hskip]; rfl), hskip]

/-- A query has one condition and nothing else in its filters if the condition is all that is
written there. -/
theorem parse_condition_iff {marker : Marker} {query : String}
    (hquery : query.toList = '/' :: 'r' :: '?' :: text)
    (hopen : ∀ inner, Text.skipBlanks text ≠ '(' :: inner) :
    (∃ q, Query.parseWith marker query = .ok q ∧ q.filters = [.condition condition]) ↔
      ∃ rest, readCondition ⟨marker, query.toList⟩ (Text.skipBlanks text) = .ok (condition, rest) ∧
        Text.Blank rest := by
  rw [← filters_leaf_iff hopen]
  unfold Query.parseWith
  rw [hquery, read_query_filters]
  constructor
  · rintro ⟨q, h, hfilters⟩
    obtain ⟨⟨tree, rest⟩, hread, h⟩ := bind_eq_ok (map_error_eq_ok h)
    obtain ⟨_, hend, h⟩ := bind_eq_ok h
    cases h
    have htree : tree = .leaf condition := FilterStream.tokens_injective hfilters
    subst htree
    exact ⟨rest, hread, blank_of_expect_end hend⟩
  · rintro ⟨rest, hread, hblank⟩
    refine ⟨{ path := "/r", filters := [.condition condition] }, ?_, rfl⟩
    rw [hread]
    simp [Except.bind, expect_end_blank hblank, Except.mapError, FilterTree.tokens]

/-- A condition with a blank on each side of its comparator, if its key is read as it stands. -/
theorem spaced_condition_iff {key : String} {comparator : Comparator} {value : List Char}
    (hkey : ∃ rest, readPath source .filterKey
      (key.toList ++ ' ' :: (comparator.symbol.toList ++ ' ' :: value)) = .ok (key, rest)) :
    readCondition source (key.toList ++ ' ' :: (comparator.symbol.toList ++ ' ' :: value)) =
      .ok (condition, rest) ↔
      condition.key = key ∧ condition.comparator = comparator ∧
        readValue source (Text.skipBlanks value) = .ok (condition.value, rest) ∧
        comparator.admits condition.value = true := by
  obtain ⟨afterKey, hkey⟩ := hkey
  obtain rfl : afterKey = ' ' :: (comparator.symbol.toList ++ ' ' :: value) :=
    List.append_cancel_left (read_path_parts hkey).1
  have hcomparator :
      readComparator (Text.skipBlanks (' ' :: (comparator.symbol.toList ++ ' ' :: value))) =
      .ok (comparator, ' ' :: value) := by
    obtain ⟨c, symbol, hsymbol, _, _, hblank⟩ :=
      comparator_symbol_head (Condition.symbol_mem comparator)
    have hskip : Text.skipBlanks (' ' :: (comparator.symbol.toList ++ ' ' :: value)) =
        comparator.symbol.toList ++ ' ' :: value := by
      rw [hsymbol]
      exact Text.skip_blanks_cons hblank _
    rw [hskip]
    apply read_comparator_symbol
    cases comparator <;> rfl
  rw [read_condition_iff]
  constructor
  · rintro ⟨afterKey, afterComparator, hk, hc, hv, ha⟩
    rw [hkey] at hk
    cases hk
    rw [hcomparator] at hc
    cases hc
    exact ⟨rfl, rfl, hv, ha⟩
  · rintro ⟨rfl, rfl, hv, ha⟩
    exact ⟨_, _, hkey, hcomparator, hv, ha⟩

end OneCondition

theorem parse_literal_iff {text : String} {value : Literal} :
    Literal.parse text = .ok value ↔
      ∃ rest, readValue ⟨.braces, text.toList⟩ (Text.skipBlanks text.toList) = .ok (value, rest) ∧
        Text.Blank rest := by
  unfold Literal.parse
  constructor
  · intro h
    obtain ⟨⟨read, rest⟩, hread, h⟩ := bind_eq_ok (map_error_eq_ok h)
    obtain ⟨_, hend, h⟩ := bind_eq_ok h
    cases h
    exact ⟨rest, hread, blank_of_expect_end hend⟩
  · rintro ⟨rest, hread, hblank⟩
    simp [readLoneValue, hread, expect_end_blank hblank, bind, Except.bind, pure, Except.pure,
      Except.mapError]

/-- With nothing but white space behind it, a value is read alike in every source. -/
theorem read_value_anywhere {source text rest : List Char} {value : Literal}
    (h : readValue ⟨.braces, source⟩ text = .ok (value, rest)) (hblank : Text.Blank rest)
    (other : List Char) : readValue ⟨.braces, other⟩ text = .ok (value, rest) := by
  obtain ⟨taken, rfl, hread⟩ := read_value_append h
  apply hread other rest
  have hend := ends_of_blank hblank (ends_nil isWordChar)
  rwa [List.append_nil] at hend

section Waiting

variable {fill : String → Except Error String} {key template text : String}
  {comparator : Comparator}

theorem fill_waiting_eq (hkey : fill key = .ok key) (hvalid : isValidPath key.toList = true) :
    Condition.fill fill ⟨key, comparator, .template template⟩ =
      ((Literal.template template).fill fill).bind fun value =>
        if comparator.admits value then .ok ⟨key, comparator, value⟩
        else .error
          (.invalidSubstitution .filterValue (comparator.symbol ++ " " ++ value.render)) := by
  have hpath : fillPath fill .filterKey key = .ok key := by
    simp [fillPath, hkey, hvalid, bind, Except.bind, pure, Except.pure]
  unfold Condition.fill
  rw [hpath]
  rfl

/-- A template becomes what the text filled in is read as, which must not be a template again. -/
theorem fill_template_iff {value : Literal} (ht : fill template = .ok text) :
    (Literal.template template).fill fill = .ok value ↔
      Literal.parse text = .ok value ∧ ∀ other, value ≠ .template other := by
  rw [Literal.fill, ht]
  cases hp : Literal.parse text with
  | error e => simp [bind, Except.bind, hp]
  | ok read =>
    cases read with
    | template other =>
      simp only [bind, Except.bind, hp, reduceCtorEq, Except.ok.injEq, false_iff, not_and]
      rintro rfl hother
      exact hother other rfl
    | null | bool | number | string | regex =>
      simp only [bind, Except.bind, hp, pure, Except.pure, Except.ok.injEq]
      constructor
      · rintro rfl
        exact ⟨rfl, nofun⟩
      · exact And.left

theorem fill_waiting_iff {condition : Condition} (hkey : fill key = .ok key)
    (hvalid : isValidPath key.toList = true) (ht : fill template = .ok text) :
    Condition.fill fill ⟨key, comparator, .template template⟩ = .ok condition ↔
      condition.key = key ∧ condition.comparator = comparator ∧
        Literal.parse text = .ok condition.value ∧
        (∀ other, condition.value ≠ .template other) ∧
          comparator.admits condition.value = true := by
  rw [fill_waiting_eq hkey hvalid]
  constructor
  · intro h
    obtain ⟨value, hv, h⟩ := bind_eq_ok h
    obtain ⟨hp, hsettled⟩ := (fill_template_iff ht).mp hv
    split at h
    · cases h
      exact ⟨rfl, rfl, hp, hsettled, ‹_›⟩
    · cases h
  · rintro ⟨rfl, rfl, hp, hsettled, ha⟩
    rw [(fill_template_iff ht).mpr ⟨hp, hsettled⟩]
    simp [Except.bind, ha]

theorem fill_template_error {e : Error} (ht : fill template = .ok text)
    (h : (Literal.template template).fill fill = .error e) :
    e = .invalidSubstitution .filterValue text := by
  rw [Literal.fill, ht] at h
  rcases bind_eq_error_iff.mp h with h | ⟨filled, hfilled, h⟩
  · cases h
  · cases hfilled
    split at h
    · cases h
      rfl
    · cases h
    · cases h
      rfl

/-- A text that is no value, or one that waits again, is refused. -/
theorem fill_template_refused (ht : fill template = .ok text)
    (h : ∀ value, Literal.parse text = .ok value → ∃ other, value = .template other) :
    (Literal.template template).fill fill = .error (.invalidSubstitution .filterValue text) := by
  cases hf : (Literal.template template).fill fill with
  | error e => rw [fill_template_error ht hf]
  | ok value =>
    obtain ⟨hp, hsettled⟩ := (fill_template_iff ht).mp hf
    obtain ⟨other, he⟩ := h value hp
    exact absurd he (hsettled other)

/-- All that can go wrong with a value that is there is that it is no good in its place. -/
theorem fill_waiting_error {e : Error} (hkey : fill key = .ok key)
    (hvalid : isValidPath key.toList = true)
    (ht : fill template = .ok text)
    (h : Condition.fill fill ⟨key, comparator, .template template⟩ = .error e) :
    ∃ shown, e = .invalidSubstitution .filterValue shown := by
  rw [fill_waiting_eq hkey hvalid] at h
  rcases bind_eq_error_iff.mp h with h | ⟨value, _, h⟩
  · exact ⟨text, fill_template_error ht h⟩
  · split at h
    · cases h
    · cases h
      exact ⟨_, rfl⟩

end Waiting

/-- A query with a condition on `a` and a text in the place of its value. -/
def writtenQuery (comparator : Comparator) (text : String) : String :=
  "/r?a " ++ comparator.symbol ++ " " ++ text

/-- A condition on `a` that waits for its value. -/
def waitingCondition (comparator : Comparator) (template : String) : Condition :=
  ⟨"a", comparator, .template template⟩

section Binding

variable {marker : Marker} {comparator : Comparator} {text template : String}

theorem written_query_reads {condition : Condition} :
    (∃ q, Query.parseWith marker (writtenQuery comparator text) = .ok q ∧
      q.filters = [.condition condition]) ↔
      ∃ rest, readCondition ⟨marker, (writtenQuery comparator text).toList⟩
        ("a".toList ++ ' ' :: (comparator.symbol.toList ++ ' ' :: text.toList)) =
          .ok (condition, rest) ∧
        Text.Blank rest := by
  have htext : (writtenQuery comparator text).toList =
      '/' :: 'r' :: '?' ::
        ("a".toList ++ ' ' :: (comparator.symbol.toList ++ ' ' :: text.toList)) := by
    simp [writtenQuery]
  have hskip :
      Text.skipBlanks ("a".toList ++ ' ' :: (comparator.symbol.toList ++ ' ' :: text.toList)) =
      "a".toList ++ ' ' :: (comparator.symbol.toList ++ ' ' :: text.toList) :=
    Text.skip_blanks_cons (by decide) _
  rw [parse_condition_iff htext (by rw [hskip]; simp), hskip]

/-- If its key is read as it stands, such a query has one condition if its text is a value that goes
with the comparator. -/
theorem written_query_iff {condition : Condition}
    (hkey : ∃ rest, readPath ⟨marker, (writtenQuery comparator text).toList⟩ .filterKey
      ("a".toList ++ ' ' :: (comparator.symbol.toList ++ ' ' :: text.toList)) = .ok ("a", rest)) :
    (∃ q, Query.parseWith marker (writtenQuery comparator text) = .ok q ∧
      q.filters = [.condition condition]) ↔
      condition.key = "a" ∧ condition.comparator = comparator ∧
        (∃ rest, readValue ⟨marker, (writtenQuery comparator text).toList⟩
          (Text.skipBlanks text.toList) =
          .ok (condition.value, rest) ∧ Text.Blank rest) ∧
        comparator.admits condition.value = true := by
  simp only [written_query_reads, spaced_condition_iff hkey]
  constructor
  · rintro ⟨rest, ⟨hk, hc, hread, ha⟩, hblank⟩
    exact ⟨hk, hc, ⟨rest, hread, hblank⟩, ha⟩
  · rintro ⟨hk, hc, ⟨rest, hread, hblank⟩, ha⟩
    exact ⟨rest, ⟨hk, hc, hread, ha⟩, hblank⟩

/-- A template that is one placeholder is filled with the text of its value. -/
theorem fill_one_placeholder {name : List Char} {context : Context} {value : Json}
    (h : marker.pieces template = [.placeholder name])
    (hvalue : context.find? (String.ofList name) = some value) :
    marker.fill context template = .ok value.plainText := by
  unfold Marker.fill
  rw [h]
  simp [hvalue, bind, Except.bind, pure, Except.pure]

/-- A string is filled in as it is. -/
theorem fill_lone_placeholder {name : List Char}
    (h : marker.pieces template = [.placeholder name]) :
    marker.fill [(String.ofList name, .string text)] template = .ok text := by
  have hvalue : Json.Fields.find? (String.ofList name) [(String.ofList name, .string text)] =
      some (.string text) :=
    if_pos rfl
  exact fill_one_placeholder h hvalue

end Binding

/-- A value that a context brings is read as if it were written. The condition that comes out is the
one a query with the text in that place has, if it has that condition only, with a value that waits
for nothing more. Otherwise the text is refused as a value. So whatever the text is, it brings no
further condition, no connective and no parentheses. -/
theorem value_bound_late_iff_written (comparator : Comparator) (text : String) :
    (∀ condition, (waitingCondition comparator "\x7b\x7bx\x7d\x7d").fill
      (Marker.braces.fill [("x", .string text)]) =
        .ok condition ↔
      (∃ query, Query.parse (writtenQuery comparator text) = .ok query ∧
        query.filters = [.condition condition]) ∧
        ∀ other, condition.value ≠ .template other) ∧
    (∀ e, (waitingCondition comparator "\x7b\x7bx\x7d\x7d").fill
      (Marker.braces.fill [("x", .string text)]) =
        .error e → ∃ shown, e = .invalidSubstitution .filterValue shown) ∧
    ∀ filters, Clause.substitute (Marker.braces.fill [("x", .string text)])
        [FilterToken.condition (waitingCondition comparator "\x7b\x7bx\x7d\x7d")] = .ok filters →
      ∃ condition, filters = [.condition condition] := by
  have hkey : Marker.braces.fill [("x", .string text)] "a" = .ok "a" := rfl
  have hvalid : isValidPath "a".toList = true := by decide
  have hpieces : Marker.braces.pieces "\x7b\x7bx\x7d\x7d" = [.placeholder ['x']] := by decide
  have hvalue : Marker.braces.fill [("x", .string text)] "\x7b\x7bx\x7d\x7d" = .ok text :=
    fill_lone_placeholder hpieces
  refine ⟨?_, ?_, ?_⟩
  · intro condition
    unfold waitingCondition Query.parse
    have hread := valid_path_reads_as hvalid .filterKey (writtenQuery comparator text).toList
      (' ' :: (comparator.symbol.toList ++ ' ' :: text.toList))
        (ends_cons.mpr ⟨by decide, by decide⟩)
    rw [fill_waiting_iff hkey hvalid hvalue, written_query_iff ⟨_, hread⟩, parse_literal_iff]
    constructor
    · rintro ⟨hk, hc, ⟨rest, hv, hblank⟩, hsettled, ha⟩
      exact ⟨⟨hk, hc, ⟨rest, read_value_anywhere hv hblank _, hblank⟩, ha⟩, hsettled⟩
    · rintro ⟨⟨hk, hc, ⟨rest, hv, hblank⟩, ha⟩, hsettled⟩
      exact ⟨hk, hc, ⟨rest, read_value_anywhere hv hblank _, hblank⟩, hsettled, ha⟩
  · intro e h
    exact fill_waiting_error hkey hvalid hvalue h
  · intro filters h
    cases forall₂_of_mapM h with
    | cons hfill hnone =>
      cases hnone
      obtain ⟨condition, _, he⟩ := bind_eq_ok hfill
      cases he
      exact ⟨condition, rfl⟩

end PathQuery
