import PathQuery.Proofs.ConstantQueries
import PathQuery.Proofs.CustomMarkers
import PathQuery.Proofs.Remainders

namespace PathQuery

def FilterToken.isCondition : FilterToken → Bool
  | .condition _ => true
  | .connective _ => false

namespace FilterStream

/-- The height of the stack after a token. A connective that finds a single value leaves it as it
is. -/
def heightAfter (height : Nat) : FilterToken → Nat
  | .condition _ => height + 1
  | .connective _ => if height ≤ 1 then height else height - 1

/-- From a height of the stack on, every connective finds two values at least. -/
def FindsTwo (height : Nat) (tokens : List FilterToken) : Prop :=
  ∀ before connective after, tokens = before ++ .connective connective :: after →
    2 ≤ before.foldl heightAfter height

/-- A sound stream in which no connective passes a single value on. -/
structure Proper (tokens : List FilterToken) : Prop where
  sound : ∃ depth, check tokens = .ok depth
  operands : FindsTwo 0 tokens
  count : tokens.countP FilterToken.isCondition =
    tokens.countP (fun token => !token.isCondition) + 1

namespace FindsTwo

variable {height : Nat} {rest : List FilterToken}

theorem nil (height : Nat) : FindsTwo height [] := by
  intro before connective after h
  simp at h

theorem condition (h : FindsTwo (height + 1) rest) (condition : Condition) :
    FindsTwo height (.condition condition :: rest) := by
  intro before connective after he
  cases before with
  | nil => cases he
  | cons token before =>
    cases he
    exact h before connective after rfl

theorem connective (h : FindsTwo (height + 1) rest) (connective : Connective) :
    FindsTwo (height + 2) (.connective connective :: rest) := by
  intro before found after he
  cases before with
  | nil => simp
  | cons token before =>
    cases he
    exact h before found after rfl

/-- The stream of a tree leaves one value more. -/
theorem tree (h : FindsTwo (height + 1) rest) (tree : FilterTree) :
    FindsTwo height (tree.tokens ++ rest) := by
  induction tree generalizing height rest with
  | leaf condition => exact h.condition condition
  | join connective left right ihl ihr =>
    rw [FilterTree.tokens, List.append_assoc, List.append_assoc]
    exact ihl (ihr (h.connective connective))

end FindsTwo

theorem count_tree (tree : FilterTree) : tree.tokens.countP FilterToken.isCondition =
    tree.tokens.countP (fun token => !token.isCondition) + 1 := by
  induction tree with
  | leaf condition => rfl
  | join connective left right ihl ihr =>
    simp only [FilterTree.tokens, List.countP_append, ihl, ihr, List.countP_singleton,
      FilterToken.isCondition, Bool.not_false, Bool.false_eq_true, if_true, if_false]
    omega

theorem proper_tree (tree : FilterTree) : Proper tree.tokens where
  sound := check_tree tree
  operands := by
    have h := (FindsTwo.nil 1).tree tree
    rwa [List.append_nil] at h
  count := count_tree tree

end FilterStream

section Runs

variable {source text : List Char} {allowed : Char → Bool} {run : Run}

/-- A run that took no placeholder has none in its text. -/
theorem pieces_of_untemplated (h : takeRun ⟨.braces, source⟩ allowed 0 text = .ok run)
    (hu : run.templated = false) (before : Option Char) (ended : Bool) :
    Marker.braces.piecesFrom before ended 0 run.text = run.text.map .plain := by
  induction text generalizing run before ended with
  | nil =>
    cases h
    rfl
  | cons c rest ih =>
    obtain ⟨hp, ⟨_, later, hlater, hu, rfl⟩ | ⟨_, rfl⟩⟩ := run_untemplated_cases h hu
    · have hnone : Marker.bracesAt? (c :: later.text) = none := by
        cases hb : Marker.bracesAt? (c :: later.text) with
        | none => rfl
        | some occurrence =>
          -- braces in the run would stand in the text as well, where none were found
          obtain ⟨d, tail, name, he, _, _⟩ := Marker.braces_at_eq hb
          refine absurd ?_ (Source.placeholder_zero hp (d :: tail ++ later.rest))
          rw [← take_run_parts hlater, ← List.cons_append, he]
          rfl
      simp [Run.push, Marker.piecesFrom, Marker.at?, hnone, ih hlater hu]
    · rfl

/-- A run counts as a template exactly if its text holds a placeholder. -/
theorem templated_iff (h : takeRun ⟨.braces, source⟩ allowed 0 text = .ok run) :
    run.templated = true ↔ Marker.braces.names (String.ofList run.text) ≠ [] := by
  constructor
  · intro ht
    have halone := (take_run_append h (Nat.zero_le _)).2 [] [] (ends_nil allowed)
    rw [List.append_nil] at halone
    apply HoldsPlaceholder.names_ne_nil
    rw [String.toList_ofList]
    exact HoldsPlaceholder.of_run halone ht
  · intro hn
    by_contra hu
    apply hn
    have hpieces := pieces_of_untemplated h (Bool.eq_false_iff.mpr hu) none false
    refine List.eq_nil_iff_forall_not_mem.mpr fun name hm => ?_
    obtain ⟨written, hw, _⟩ := Marker.mem_names.mp hm
    rw [Marker.pieces, String.toList_ofList, hpieces] at hw
    simp at hw

end Runs

/-- A text with a placeholder in it. -/
def IsTemplated (text : String) : Prop :=
  Marker.braces.names text ≠ []

theorem PathText.valid {what : Expectation} {path : String} (h : PathText what path)
    (hn : ¬ IsTemplated path) : isValidPath path.toList = true := by
  have hread := h.alone []
  unfold readPath at hread
  split at hread
  · cases hread
  · rename_i run hrun
    split at hread
    · cases hread
    · rename_i hok
      simp only [Except.ok.injEq, Prod.mk.injEq] at hread
      rw [← hread.1] at hn ⊢
      have hplain : run.templated = false :=
        Bool.eq_false_iff.mpr fun ht => hn ((templated_iff hrun).mp ht)
      rw [String.toList_ofList]
      simp only [hplain, true_and, not_or, Bool.not_eq_false] at hok
      exact hok.2

/-- A path is valid or waits for placeholders. -/
theorem PathText.valid_or_templated {what : Expectation} {path : String} (h : PathText what path) :
    IsTemplated path ∨ isValidPath path.toList = true := by
  by_cases ht : IsTemplated path
  · exact .inl ht
  · exact .inr (h.valid ht)

theorem LimitText.number_or_templated {limit : String} (h : LimitText limit) :
    IsTemplated limit ∨ ∃ n, parseLimit limit = .ok n := by
  by_cases ht : IsTemplated limit
  · exact .inl ht
  · exact .inr (parse_limit_int64 (h.int64 (not_not.mp ht)))

/-- A word is a template exactly if it holds a placeholder. -/
theorem word_template_iff {source written : List Char} {value : Literal}
    (h : readWord ⟨.braces, source⟩ written = .ok (value, [])) (template : String) :
    value = .template template ↔ template.toList = written ∧ IsTemplated template := by
  unfold readWord at h
  split at h
  · cases h
  · rename_i run hrun
    have hwhole := take_run_parts hrun
    split at h
    · cases h
    · split at h
      · rename_i ht
        simp only [Except.ok.injEq, Prod.mk.injEq] at h
        rw [h.2, List.append_nil] at hwhole
        rw [← h.1, ← hwhole, Literal.template.injEq]
        constructor
        · rintro rfl
          exact ⟨String.toList_ofList, (templated_iff hrun).mp ht⟩
        · rintro ⟨he, _⟩
          rw [← he, String.ofList_toList]
      · rename_i hu
        simp only [Except.ok.injEq, Prod.mk.injEq] at h
        rw [h.2, List.append_nil] at hwhole
        rw [← h.1, ← hwhole]
        constructor
        · intro he
          exact absurd he (word_ne_template run.text template)
        · rintro ⟨he, ht⟩
          rw [← String.ofList_toList (s := template), he] at ht
          exact absurd ((templated_iff hrun).mpr ht) hu

/-- A value between quotes or slashes never waits. -/
theorem delimited_ne_template {source : Source} {text rest : List Char} {value : Literal}
    (h : readValue source (Text.skipBlanks text) = .ok (value, rest)) (hb : ¬ Bare text)
    (template : String) : value ≠ .template template := by
  rintro rfl
  unfold readValue at h
  split at h
  · obtain ⟨_, _, he, _⟩ := Literal.read_regex_cases h
    cases he
  · rename_i c tail hslash he
    split at h
    · split at h <;> cases h
    · rename_i hquote
      refine absurd ?_ hb
      rw [Bare, he]
      rintro d ⟨⟩
      exact ⟨hslash, not_or.mp hquote⟩
  · rename_i he
    refine absurd ?_ hb
    rw [Bare, he]
    rintro d ⟨⟩

/-- A value waits exactly if it is written without delimiters and with a placeholder in it. -/
theorem template_iff_bare {written : List Char} {value : Literal}
    (h : ReadsAs readValue isWordChar written value)
    (hs : Text.skipBlanks written = written) (template : String) :
    value = .template template ↔ template.toList = written ∧ Bare written ∧
      IsTemplated template := by
  have hread : readValue ⟨.braces, []⟩ (Text.skipBlanks written) = .ok (value, []) := by
    rw [hs]
    exact h.alone []
  by_cases hb : Bare written
  · rw [read_value_bare hb, hs] at hread
    rw [word_template_iff hread template]
    simp only [hb, true_and]
  · simp only [hb, false_and, and_false, iff_false]
    exact delimited_ne_template hread hb template

/-- How a condition is written: key, comparator and value, with white space between them. The value
waits for placeholders exactly if it is written without delimiters and with a placeholder in it. -/
def Condition.WrittenAs (condition : Condition) (term : List Char) : Prop :=
  ∃ gap symbol gap' written, Text.Blank gap ∧ Text.Blank gap' ∧
    term = condition.key.toList ++ (gap ++ (symbol ++ (gap' ++ written))) ∧
    readComparator (symbol ++ (gap' ++ written)) = .ok (condition.comparator, gap' ++ written) ∧
    ReadsAs readValue isWordChar written condition.value ∧
    ∀ template, condition.value = .template template ↔
      template.toList = written ∧ Bare written ∧ IsTemplated template

/-- What holds of every condition that is read. -/
structure Condition.Proper (condition : Condition) : Prop where
  key : IsTemplated condition.key ∨ isValidPath condition.key.toList = true
  finite : condition.value.IsFinite
  flags : ∀ pattern flags, condition.value = .regex pattern flags →
    ∀ c ∈ flags.toList, c ∈ "gimsuy".toList
  template : ∀ text, condition.value = .template text → IsTemplated text
  admits : condition.comparator.admits condition.value = true

theorem read_value_flags {source : Source} {text rest : List Char} {pattern flags : String}
    (h : readValue source text = .ok (.regex pattern flags, rest)) :
    ∀ c ∈ flags.toList, isRegexFlag c = true := by
  have hword : ∀ {text}, readWord source text ≠ .ok (.regex pattern flags, rest) := by
    intro text hw
    rcases Literal.read_word_cases hw with ⟨word, he⟩ | ⟨template, he, _⟩
    · unfold Literal.ofWord at he
      split_ifs at he
      split at he <;> cases he
    · cases he
  unfold readValue at h
  split at h
  · obtain ⟨_, _, he, _, hflags⟩ := Literal.read_regex_cases h
    cases he
    exact hflags
  · split at h
    · split at h <;> cases h
    · exact absurd h hword
  · exact absurd h hword

section Conditions

variable {source text rest : List Char} {condition : Condition}

theorem Condition.proper_of_read
    (h : readCondition ⟨.braces, source⟩ text = .ok (condition, rest)) : condition.Proper := by
  obtain ⟨afterKey, afterComparator, hk, _, hv, hadmits⟩ := read_condition_iff.mp h
  have hkey : PathText .filterKey condition.key := read_path_reads_as hk .filterKey
  refine ⟨hkey.valid_or_templated, ?_, ?_, ?_, hadmits⟩
  · intro n hn
    rw [hn] at hv
    exact read_value_finite hv
  · intro pattern flags hr c hc
    rw [hr] at hv
    simpa [isRegexFlag] using read_value_flags hv c hc
  · intro template ht
    have hvalue := (Condition.readable_of_read h).value
    rw [ht] at hvalue
    exact hvalue.template_names

theorem Condition.written_of_read (h : readCondition ⟨.braces, source⟩ text = .ok (condition, [])) :
    condition.WrittenAs text := by
  obtain ⟨afterKey, afterComparator, hk, hc, hv, _⟩ := read_condition_iff.mp h
  obtain ⟨gap, hgap, hafterKey⟩ := Text.exists_blanks afterKey
  obtain ⟨symbol, _, hcomparator, _⟩ := read_comparator_append hc
  obtain ⟨gap', hgap', hafterComparator⟩ := Text.exists_blanks afterComparator
  obtain ⟨written, hwritten, hvalue⟩ := read_value_append hv
  rw [List.append_nil] at hwritten
  rw [hcomparator, hafterComparator, hwritten] at hc
  refine ⟨gap, symbol.toList, gap', written, hgap, hgap', ?_, hc, hvalue,
    template_iff_bare hvalue ?_⟩
  · rw [← (read_path_parts hk).1, hafterKey, hcomparator, hafterComparator, hwritten]
  · rw [← hwritten]
    exact Text.skip_blanks_again afterComparator

end Conditions

def FilterToken.condition? : FilterToken → Option Condition
  | .condition found => some found
  | .connective _ => none

/-- The conditions of a stream, in order. -/
def FilterStream.conditions (tokens : List FilterToken) : List Condition :=
  tokens.filterMap FilterToken.condition?

@[simp]
theorem FilterStream.conditions_join (connective : Connective) (left right : FilterTree) :
    conditions (FilterTree.join connective left right).tokens =
      conditions left.tokens ++ conditions right.tokens := by
  simp [conditions, FilterTree.tokens, FilterToken.condition?]

/-- Characters between terms: white space, parentheses and connectives. -/
def IsGap (text : List Char) : Prop :=
  ∀ c ∈ text, isWordChar c = false

theorem IsGap.append {text rest : List Char} (h : IsGap text) (hr : IsGap rest) :
    IsGap (text ++ rest) := by
  intro c hc
  rcases List.mem_append.mp hc with hc | hc
  · exact h c hc
  · exact hr c hc

theorem is_gap_of_blank {text : List Char} (h : Text.Blank text) : IsGap text := by
  intro c hc
  simp [isWordChar, h c hc]

theorem IsGap.cons {c : Char} {text : List Char} (hc : isWordChar c = false) (h : IsGap text) :
    IsGap (c :: text) :=
  List.forall_mem_cons.mpr ⟨hc, h⟩

theorem JoinText.is_gap {connective : Connective} {join : List Char}
    (h : JoinText connective join) : IsGap join := by
  have hsymbol : isWordChar connective.symbol = false := by cases connective <;> decide
  obtain ⟨before, after, hb, ha, rfl | rfl⟩ := h
  · exact (is_gap_of_blank hb).append ((is_gap_of_blank ha).cons hsymbol)
  · exact (is_gap_of_blank hb).append (((is_gap_of_blank ha).cons hsymbol).cons hsymbol)

/-- A text that consists of terms, with gaps around them. -/
inductive ConsistsOf : List Char → List (List Char) → Prop where
  | gap {text : List Char} (h : IsGap text) : ConsistsOf text []
  | term {before term rest : List Char} {terms : List (List Char)} (h : IsGap before)
      (later : ConsistsOf rest terms) :
      ConsistsOf (before ++ (term ++ rest)) (term :: terms)

namespace ConsistsOf

variable {text rest : List Char} {terms more : List (List Char)}

theorem after_gap {before : List Char} (hb : IsGap before) (h : ConsistsOf text terms) :
    ConsistsOf (before ++ text) terms := by
  cases h with
  | gap h => exact .gap (hb.append h)
  | term h later =>
    rw [← List.append_assoc]
    exact .term (hb.append h) later

theorem append (h : ConsistsOf text terms) (hr : ConsistsOf rest more) :
    ConsistsOf (text ++ rest) (terms ++ more) := by
  induction h with
  | gap h => exact hr.after_gap h
  | term h _ ih =>
    rw [List.append_assoc, List.append_assoc]
    exact .term h ih

theorem joined {left join right : List Char} (h : ConsistsOf left terms) (hj : IsGap join)
    (hr : ConsistsOf right more) : ConsistsOf (left ++ join ++ right) (terms ++ more) := by
  rw [List.append_assoc]
  exact h.append (hr.after_gap hj)

end ConsistsOf

/-- A text consists of the terms of a stream: the conditions stand in it one after the other, each
as it was written. -/
def FilterStream.WrittenIn (tokens : List FilterToken) (text : List Char) : Prop :=
  ∃ terms, ConsistsOf text terms ∧ List.Forall₂ Condition.WrittenAs (conditions tokens) terms

namespace FilterStream.WrittenIn

variable {text : List Char} {tokens : List FilterToken}

theorem padded {before after : List Char} (hb : IsGap before) (h : WrittenIn tokens text)
    (ha : IsGap after) : WrittenIn tokens (before ++ text ++ after) := by
  obtain ⟨terms, ht, hw⟩ := h
  refine ⟨terms, ?_, hw⟩
  have := (ht.after_gap hb).append (.gap ha)
  rwa [List.append_nil] at this

theorem joined {left join right : List Char} {connective : Connective} {a b : FilterTree}
    (ha : WrittenIn a.tokens left) (hj : JoinText connective join) (hb : WrittenIn b.tokens right) :
    WrittenIn (FilterTree.join connective a b).tokens (left ++ join ++ right) := by
  obtain ⟨terms, ht, hw⟩ := ha
  obtain ⟨more, hm, hv⟩ := hb
  refine ⟨terms ++ more, ht.joined hj.is_gap hm, ?_⟩
  rw [conditions_join]
  exact List.rel_append hw hv

end FilterStream.WrittenIn

theorem Spells.written_in {phrase : Phrase} {text : List Char} {tree : FilterTree}
    (h : Spells phrase text tree) : FilterStream.WrittenIn tree.tokens text := by
  induction h with
  | @term text condition read =>
    refine ⟨[text], ?_, .cons (Condition.written_of_read read) .nil⟩
    have : ConsistsOf ([] ++ (text ++ [])) [text] := .term (by nofun) (.gap (by nofun))
    rwa [List.nil_append, List.append_nil] at this
  | @group before text after tree opening _ closing ih =>
    have hopen : IsGap ('(' :: before) := (is_gap_of_blank opening).cons (by decide)
    have hclose : IsGap (after ++ [')']) :=
      (is_gap_of_blank closing).append (IsGap.cons (by decide) (by nofun))
    simpa using ih.padded hopen hclose
  | operand _ ih => exact ih
  | both _ joined _ ihl ihr => exact ihl.joined joined ihr
  | alternative _ ih => exact ih
  | either _ joined _ ihl ihr => exact ihl.joined joined ihr
  | first _ ih => exact ih
  | next _ joined _ ihl ihr => exact ihl.joined joined ihr

theorem filter_clause_spelled {source text rest : List Char} {query result : Query}
    (h : readFilterClause ⟨.braces, source⟩ query text = .ok (result, rest))
    (hr : Text.Blank rest) :
    result = query ∨ ∃ body tree, text = '?' :: body ∧ SpellsFilters body tree ∧
      result = { query with filters := tree.tokens } := by
  unfold readFilterClause at h
  split at h
  · obtain ⟨⟨tree, left⟩, hread, h⟩ := map_eq_ok h
    cases h
    obtain ⟨before, inner, after, rfl, hb, ha, hspells⟩ := filters_spelled hread
    refine .inr ⟨_, tree, rfl, ⟨before, inner, after ++ rest, hb, ?_, by simp, hspells⟩, rfl⟩
    intro c hm
    rcases List.mem_append.mp hm with hm | hm
    · exact ha c hm
    · exact hr c hm
  · cases h
    exact .inl rfl

/-- The filters of a query stand behind a question mark, and nothing but white space stands behind
them. -/
theorem read_query_filter_text {source : List Char} {query : Query}
    (h : readQuery ⟨.braces, source⟩ = .ok query) :
    query.filters = [] ∨ ∃ front body tree, source = front ++ '?' :: body ∧
      SpellsFilters body tree ∧
      query.filters = tree.tokens := by
  cases hc : readCollection (Text.skipBlanks source) with
  | mk collection start =>
    by_cases hs : start.head? = some '/'
    · rw [@read_query_eq ⟨.braces, source⟩ _ _ hc hs] at h
      obtain ⟨⟨withFields, afterFields⟩, hfields, h⟩ := bind_eq_ok h
      obtain ⟨⟨withOptions, afterOptions⟩, hoptions, h⟩ := bind_eq_ok h
      obtain ⟨⟨withFilters, afterFilters⟩, hfilters, h⟩ := bind_eq_ok h
      obtain ⟨_, hend, rfl⟩ := map_eq_ok h
      obtain ⟨fields, rfl, _⟩ := read_field_clause_paths hfields rfl
      obtain ⟨_, sort, limit, rfl⟩ :=
        read_option_clause_texts hoptions ⟨by rintro _ ⟨⟩, by rintro _ ⟨⟩⟩
      have hsuffix : Text.skipBlanks afterOptions <:+ source :=
        calc Text.skipBlanks afterOptions <:+ afterOptions := List.dropWhile_suffix _
          _ <:+ afterFields := option_clause_suffix hoptions
          _ <:+ start.dropWhile isLocationChar := field_clause_suffix hfields
          _ <:+ start := List.dropWhile_suffix _
          _ <:+ Text.skipBlanks source := collection_suffix hc
          _ <:+ source := List.dropWhile_suffix _
      rcases filter_clause_spelled hfilters (blank_of_expect_end hend) with
        rfl | ⟨body, tree, hbody, hspells, rfl⟩
      · exact .inl rfl
      · rw [hbody] at hsuffix
        obtain ⟨front, hfront⟩ := hsuffix
        exact .inr ⟨front, body, tree, hfront.symm, hspells, rfl⟩
    · unfold readQuery at h
      simp only [hc, ne_eq, hs, not_false_eq_true, if_true] at h
      cases h

/-- What holds of every query that is read. -/
structure Query.Proper (query : Query) : Prop where
  path : query.path.toList.head? = some '/'
  fields : ∀ field ∈ query.fields, IsTemplated field ∨ isValidPath field.toList = true
  sort : ∀ term ∈ query.sort, IsTemplated term.key ∨ isValidPath term.key.toList = true
  limit : ∀ limit ∈ query.limit, IsTemplated limit ∨ ∃ n, parseLimit limit = .ok n
  filters : query.filters = [] ∨ FilterStream.Proper query.filters
  conditions : ∀ condition, .condition condition ∈ query.filters → condition.Proper

theorem SpellsFilters.written_in {text : List Char} {tree : FilterTree}
    (h : SpellsFilters text tree) : FilterStream.WrittenIn tree.tokens text := by
  obtain ⟨before, inner, after, hb, ha, rfl, hspells⟩ := h
  exact hspells.written_in.padded (is_gap_of_blank hb) (is_gap_of_blank ha)

theorem proper_of_read {source : List Char} {query : Query}
    (h : readQuery ⟨.braces, source⟩ = .ok query) : query.Proper := by
  obtain ⟨hclauses, _⟩ := read_query_texts h
  have hpaths := fun field hm => (hclauses.fields field hm).valid_or_templated
  have hsort := fun term hm => (hclauses.sort term hm).valid_or_templated
  have hlimit := fun limit hm => (hclauses.limit limit hm).number_or_templated
  rcases read_query_filter_text h with hf | ⟨front, body, tree, _, hspells, hf⟩
  · refine ⟨hclauses.path.1, hpaths, hsort, hlimit, .inl hf, ?_⟩
    rw [hf]
    intro condition hm
    exact absurd hm List.not_mem_nil
  · obtain ⟨_, _, _, _, _, _, hspells⟩ := hspells
    refine ⟨hclauses.path.1, hpaths, hsort, hlimit, .inr ?_, ?_⟩
    · rw [hf]
      exact FilterStream.proper_tree tree
    · rw [hf]
      exact FilterTree.all_iff.mp (hspells.conditions Condition.proper_of_read)

theorem proper_of_parse {text : String} {query : Query} (h : Query.parse text = .ok query) :
    query.Proper :=
  proper_of_read (map_error_eq_ok h)

/-- Whatever text is accepted, the query is proper. Its filters stand behind a question mark as the
terms of its conditions, and a value waits for placeholders exactly if its term has it without
delimiters and with a placeholder. -/
theorem parsed_query_proper (text : String) (query : Query) (h : Query.parse text = .ok query) :
    query.Proper ∧ (query.filters = [] ∨ ∃ front body, text.toList = front ++ '?' :: body ∧
      FilterStream.WrittenIn query.filters body) := by
  refine ⟨proper_of_parse h, ?_⟩
  rcases read_query_filter_text (map_error_eq_ok h) with
    hf | ⟨front, body, tree, htext, hspells, hf⟩
  · exact .inl hf
  · refine .inr ⟨front, body, htext, ?_⟩
    rw [hf]
    exact hspells.written_in

theorem parsed_query_proper_group : ∃ (text : String) (query : Query),
    text = "c:/r\x7ba.b,\x7b\x7bf\x7d\x7d\x7d[sort=-k,limit=10]?" ++
      "m > x\x7b\x7by\x7d\x7d|(k~/e/i && s='\x7b\x7bq\x7d\x7d')" ∧
    Query.parse text = .ok query ∧ query.Proper ∧
    (query.filters = [] ∨ ∃ front body, text.toList = front ++ '?' :: body ∧
      FilterStream.WrittenIn query.filters body) := by
  have h : Query.parse ("c:/r\x7ba.b,\x7b\x7bf\x7d\x7d\x7d[sort=-k,limit=10]?" ++
      "m > x\x7b\x7by\x7d\x7d|(k~/e/i && s='\x7b\x7bq\x7d\x7d')") =
      .ok ⟨some "c", "/r", ["a.b", "\x7b\x7bf\x7d\x7d"],
        [.condition ⟨"m", .gt, .template "x\x7b\x7by\x7d\x7d"⟩,
          .condition ⟨"k", .matches, .regex "e" "i"⟩,
          .condition ⟨"s", .eq, .string "\x7b\x7bq\x7d\x7d"⟩, .connective .and, .connective .or],
        [⟨"k", .descending⟩], some "10"⟩ := by
    decide +kernel
  exact ⟨_, _, rfl, h, parsed_query_proper _ _ h⟩

end PathQuery
