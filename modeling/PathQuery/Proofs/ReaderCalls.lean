import Mathlib.Logic.Relation
import PathQuery.Proofs.Remainders

namespace PathQuery

/-- The parts of a query in which placeholders may stand. -/
inductive Part where
  | field
  | sortKey
  | filterKey
  | limit
  | value
deriving DecidableEq, Repr

/-- The characters of a part outside its placeholders. -/
def Part.allows : Part → Char → Bool
  | .field => isPathChar
  | .sortKey => isPathChar
  | .filterKey => isPathChar
  | .limit => Char.isDigit
  | .value => isWordChar

/-- A reader at work on a text. -/
inductive Reading where
  | whole
  | fields (text : List Char)
  | options (query : Query) (text : List Char)
  | option (sorted limited : Bool) (text : List Char)
  | terms (text : List Char)
  | moreTerms (text : List Char)
  | moreFilters (tree : FilterTree) (text : List Char)
  | operand (text : List Char)
  | group (alternatives : Option FilterTree) (current : FilterTree) (text : List Char)
  | condition (text : List Char)
  | run (part : Part) (skip : Nat) (text : List Char)
  | placeholder (text : List Char)
deriving DecidableEq, Repr

namespace Reading

/-- What is started with a result, if there is one. -/
def after {α : Type} (result : Except Failure α) (next : α → List Reading) : List Reading :=
  match result with
  | .ok found => next found
  | .error _ => []

/-- A list goes on after a comma. -/
def afterComma (rest : List Char) (next : List Char → Reading) : List Reading :=
  match Text.skipBlanks rest with
  | ',' :: later => [next later]
  | _ => []

/-- A path is a run of characters. -/
def pathThen (source : Source) (part : Part) (what : Expectation) (text : List Char)
    (next : List Char → List Reading) : List Reading :=
  .run part 0 text :: after (readPath source what text) fun found => next found.2

def operandThen (source : Source) (text : List Char) (next : FilterTree → List Char → Reading) :
    List Reading :=
  .operand text :: after (PathQuery.operand source text) fun found => [next found.1 found.2]

/-- A value without delimiters is a run of characters. -/
def valueCalls : List Char → List Reading
  | '/' :: _ => []
  | c :: rest => if c = '"' ∨ c = '\'' then [] else [.run .value 0 (c :: rest)]
  | [] => [.run .value 0 []]

/-- A sort has terms, and a limit is a run of digits behind its sign. -/
def sortOrLimitCalls (sorted limited : Bool) : List Char → List Reading
  | 's' :: 'o' :: 'r' :: 't' :: rest =>
    if sorted then [] else after (readEquals rest) fun start => [.terms start]
  | 'l' :: 'i' :: 'm' :: 'i' :: 't' :: rest =>
    if limited then []
    else after (readEquals rest) fun start => [.run .limit 0 (start.drop (signLength start))]
  | _ => []

/-- The readings that the clauses of a query start. -/
def fieldCalls : List Char → List Reading
  | '\x7b' :: rest => [.fields rest]
  | _ => []

def optionCalls (query : Query) : List Char → List Reading
  | '[' :: rest => [.options query rest]
  | _ => []

def filterCalls (source : Source) : List Char → List Reading
  | '?' :: rest => operandThen source rest .moreFilters
  | _ => []

/-- The readings that a reading starts, one after the other. -/
def calls (source : Source) : Reading → List Reading
  | .whole =>
    let (collection, start) := readCollection (Text.skipBlanks source.text)
    if start.head? = some '/' then
      let query : Query := { collection, path := String.ofList (start.takeWhile isLocationChar) }
      let clauses := start.dropWhile isLocationChar
      fieldCalls clauses ++ after (readFieldClause source query clauses) fun found =>
        optionCalls found.1 found.2 ++ after (readOptionClause source found.1 found.2) fun found =>
          filterCalls source (Text.skipBlanks found.2)
    else []
  | .fields text => pathThen source .field .fieldName (Text.skipBlanks text) fun rest =>
    afterComma rest .fields
  | .options query text =>
    let sorted := !query.sort.isEmpty
    let start := Text.skipBlanks text
    .option sorted query.limit.isSome start ::
      after (readOption source sorted query.limit.isSome start) fun found =>
        afterComma found.2 (.options (found.1.apply query))
  | .option sorted limited text => sortOrLimitCalls sorted limited text
  | .terms text =>
    match SortOrder.ofSign? text.head? with
    | some _ => [.moreTerms text]
    | none => pathThen source .sortKey .sortField text fun rest => [.moreTerms rest]
  | .moreTerms text =>
    match SortOrder.ofSign? text.head? with
    | some _ => pathThen source .sortKey .sortField (text.drop 1) fun rest => [.moreTerms rest]
    | none => []
  | .moreFilters tree text =>
    match readConnective? (Text.skipBlanks text) with
    | some (connective, rest) => operandThen source rest fun next =>
      .moreFilters (.join connective tree next)
    | none => []
  | .operand text =>
    match Text.skipBlanks text with
    | '(' :: inner => operandThen source inner (.group none)
    | body => [.condition body]
  | .group alternatives current text =>
    match readConnective? (Text.skipBlanks text) with
    | some (connective, rest) =>
      operandThen source rest fun next =>
        let extended := extendGroup alternatives current next connective
        .group extended.1 extended.2
    | none => []
  | .condition text =>
    pathThen source .filterKey .filterKey text fun rest =>
      after (readComparator (Text.skipBlanks rest)) fun found =>
        valueCalls (Text.skipBlanks found.2)
  | .run _ _ [] => []
  | .run part (skip + 1) (_ :: rest) => [.run part skip rest]
  | .run part 0 (c :: rest) =>
    .placeholder (c :: rest) :: after (source.placeholder (c :: rest)) fun
      | 0 => if part.allows c then [.run part 0 rest] else []
      | length + 1 => [.run part length rest]
  | .placeholder _ => []

/-- A reading ends with a failure. -/
def Fails (source : Source) (failure : Failure) : Reading → Prop
  | .whole => readQuery source = .error failure
  | .fields text => readFields source text = .error failure
  | .options query text => readOptions source query text = .error failure
  | .option sorted limited text => readOption source sorted limited text = .error failure
  | .terms text => readTerms source text = .error failure
  | .moreTerms text => readMoreTerms source text = .error failure
  | .moreFilters tree text => readMoreFilters source tree text = .error failure
  | .operand text => PathQuery.operand source text = .error failure
  | .group alternatives current text =>
    PathQuery.group source alternatives current text = .error failure
  | .condition text => readCondition source text = .error failure
  | .run part skip text => takeRun source part.allows skip text = .error failure
  | .placeholder text => source.placeholder text = .error failure

/-- Some reading of a list ends with a failure. -/
def SomeFails (source : Source) (failure : Failure) (readings : List Reading) : Prop :=
  ∃ reading ∈ readings, reading.Fails source failure

section Failures

variable {source : Source} {failure : Failure} {readings more : List Reading}

@[simp]
theorem some_fails_nil : ¬ SomeFails source failure [] := by
  rintro ⟨_, hm, _⟩
  cases hm

@[simp]
theorem some_fails_cons {reading : Reading} :
    SomeFails source failure (reading :: readings) ↔
      reading.Fails source failure ∨ SomeFails source failure readings := by
  simp [SomeFails]

@[simp]
theorem some_fails_append :
    SomeFails source failure (readings ++ more) ↔
      SomeFails source failure readings ∨ SomeFails source failure more := by
  simp [SomeFails, or_and_right, exists_or]

@[simp]
theorem some_fails_after {α : Type} {result : Except Failure α} {next : α → List Reading} :
    SomeFails source failure (after result next) ↔
      ∃ found, result = .ok found ∧ SomeFails source failure (next found) := by
  cases result <;> simp [after]

@[simp]
theorem some_fails_operand_then {text : List Char} {next : FilterTree → List Char → Reading} :
    SomeFails source failure (operandThen source text next) ↔
      PathQuery.operand source text = .error failure ∨
      ∃ found, PathQuery.operand source text = .ok found ∧
        (next found.1 found.2).Fails source failure := by
  simp [operandThen, Fails]

theorem some_fails_after_comma {rest : List Char} {next : List Char → Reading} :
    SomeFails source failure (afterComma rest next) ↔
      ∃ later, Text.skipBlanks rest = ',' :: later ∧ (next later).Fails source failure := by
  unfold afterComma
  split
  · simp_all
  · simp_all

end Failures

end Reading

/-- What is missing is a part of a placeholder. -/
@[simp]
def Expectation.IsOfPlaceholder : Expectation → Prop
  | .placeholderName => True
  | .placeholderEnd _ => True
  | _ => False

namespace Reading

section Steps

variable {source : Source} {failure : Failure}

theorem operand_fails_iff (text : List Char) :
    (Reading.operand text).Fails source failure ↔
      SomeFails source failure ((Reading.operand text).calls source) := by
  simp only [calls, Fails]
  split
  · rename_i inner hs
    rw [operand_open hs, bind_eq_error_iff, some_fails_operand_then]
    rfl
  · rename_i hno
    rw [operand_condition hno, map_eq_error_iff]
    simp [Fails]

theorem more_filters_fails_iff (tree : FilterTree) (text : List Char) :
    (Reading.moreFilters tree text).Fails source failure ↔
      SomeFails source failure ((Reading.moreFilters tree text).calls source) := by
  simp only [calls, Fails]
  split
  · rename_i connective rest hs
    rw [more_filters_join hs, bind_eq_error_iff, some_fails_operand_then]
    rfl
  · rename_i hs
    rw [more_filters_end hs]
    simp

theorem run_fails_iff (part : Part) (skip : Nat) (text : List Char) :
    (Reading.run part skip text).Fails source failure ↔
      SomeFails source failure ((Reading.run part skip text).calls source) := by
  match skip, text with
  | _, [] => simp [calls, takeRun, Fails]
  | skip + 1, c :: rest => simp [calls, takeRun, map_eq_error_iff, Fails]
  | 0, c :: rest =>
    simp only [calls, takeRun, some_fails_cons, some_fails_after, Fails]
    split
    · rename_i hp
      simp [hp]
    · rename_i length hp
      simp [hp, map_eq_error_iff, Fails]
    · rename_i hp
      simp only [hp, reduceCtorEq, false_or, Except.ok.injEq, exists_eq_left']
      split
      · simp [map_eq_error_iff, Fails]
      · simp

theorem field_clause_fails_iff (query : Query) (text : List Char) :
    readFieldClause source query text = .error failure ↔
      SomeFails source failure (fieldCalls text) := by
  unfold readFieldClause
  split
  · simp [fieldCalls, map_eq_error_iff, Fails]
  · rename_i hno
    rw [fieldCalls.eq_2 text hno]
    simp

theorem option_clause_fails_iff (query : Query) (text : List Char) :
    readOptionClause source query text = .error failure ↔
      SomeFails source failure (optionCalls query text) := by
  unfold readOptionClause
  split
  · simp [optionCalls, Fails]
  · rename_i hno
    rw [optionCalls.eq_2 query text hno]
    simp

theorem filter_clause_fails_iff (query : Query) (text : List Char) :
    readFilterClause source query text = .error failure ↔
      SomeFails source failure (filterCalls source text) := by
  unfold readFilterClause
  split
  · rw [map_eq_error_iff, filters_eq, bind_eq_error_iff, filterCalls, some_fails_operand_then]
    rfl
  · rename_i hno
    rw [filterCalls.eq_2 source text hno]
    simp

variable (hf : failure.expected.IsOfPlaceholder)
include hf

/-- A reader that misses something else fails in another way. -/
theorem error_ne {α : Type} {what : Expectation} (hw : ¬ what.IsOfPlaceholder) (rest : List Char) :
    (.error ⟨what, rest⟩ : Except Failure α) ≠ .error failure := by
  rintro ⟨⟩
  exact hw hf

theorem path_fails_iff (what : Expectation) (hw : ¬ what.IsOfPlaceholder) (text : List Char) :
    readPath source what text = .error failure ↔
      takeRun source isPathChar 0 text = .error failure := by
  unfold readPath
  split
  · rename_i hrun
    simp [hrun]
  · rename_i run hrun
    simp only [hrun, reduceCtorEq, iff_false]
    split
    · exact error_ne hf hw text
    · simp

theorem path_then_fails_iff {part : Part} {what : Expectation} (hpart : part.allows = isPathChar)
    (hw : ¬ what.IsOfPlaceholder) {text : List Char} {next : List Char → List Reading} :
    SomeFails source failure (pathThen source part what text next) ↔
      readPath source what text = .error failure ∨
      ∃ found, readPath source what text = .ok found ∧ SomeFails source failure (next found.2) := by
  rw [pathThen, some_fails_cons, some_fails_after, Fails, hpart, path_fails_iff hf what hw]

theorem fields_fails_iff (text : List Char) :
    (Reading.fields text).Fails source failure ↔
      SomeFails source failure ((Reading.fields text).calls source) := by
  rw [calls, path_then_fails_iff hf rfl (by simp), Fails, readFields]
  simp only [some_fails_after_comma, Fails]
  split
  · rename_i hp
    simp [hp]
  · rename_i field rest hp
    simp only [hp, reduceCtorEq, false_or, Except.ok.injEq, exists_eq_left']
    split
    · rename_i later hs
      simp only [hs, List.cons.injEq, true_and, exists_eq_left']
      split <;> rename_i hread <;> simp [hread]
    · rename_i hs
      simp [hs]
    · rename_i hno _
      refine iff_of_false (error_ne hf (by simp) _) ?_
      rintro ⟨later, hs, _⟩
      exact hno later hs

theorem equals_not_fails (text : List Char) : readEquals text ≠ .error failure := by
  unfold readEquals
  split
  · simp
  · exact error_ne hf (by simp) _

theorem limit_fails_iff (text : List Char) :
    readLimit source text = .error failure ↔
      takeRun source Char.isDigit 0 (text.drop (signLength text)) = .error failure := by
  unfold readLimit
  dsimp only
  change _ ↔ takeRun source Char.isDigit 0
    (text.drop (if (SortOrder.ofSign? text.head?).isSome then 1 else 0)) = _
  generalize (if (SortOrder.ofSign? text.head?).isSome then 1 else 0) = signLength
  split
  · rename_i hrun
    simp [hrun]
  · rename_i run hrun
    simp only [hrun, reduceCtorEq, iff_false]
    split
    · exact error_ne hf (by simp) text
    · simp

theorem option_fails_iff (sorted limited : Bool) (text : List Char) :
    (Reading.option sorted limited text).Fails source failure ↔
      SomeFails source failure ((Reading.option sorted limited text).calls source) := by
  simp only [calls, Fails]
  unfold readOption
  split
  · cases sorted with
    | true => exact iff_of_false (error_ne hf (by simp) _) some_fails_nil
    | false =>
      simp only [sortOrLimitCalls, Bool.false_eq_true, if_false, some_fails_after, some_fails_cons,
        some_fails_nil, or_false, Fails]
      refine bind_eq_error_iff.trans ?_
      simp only [equals_not_fails hf, false_or]
      refine exists_congr fun start => and_congr_right fun _ => bind_eq_error_iff.trans ?_
      simp [pure, Except.pure]
  · cases limited with
    | true => exact iff_of_false (error_ne hf (by simp) _) some_fails_nil
    | false =>
      simp only [sortOrLimitCalls, Bool.false_eq_true, if_false, some_fails_after, some_fails_cons,
        some_fails_nil, or_false, Fails]
      refine bind_eq_error_iff.trans ?_
      simp only [equals_not_fails hf, false_or]
      refine exists_congr fun start => and_congr_right fun _ => bind_eq_error_iff.trans ?_
      simp [pure, Except.pure, limit_fails_iff hf, Part.allows]
  · rename_i hsort hlimit
    rw [sortOrLimitCalls.eq_3 sorted limited text hsort hlimit]
    exact iff_of_false (error_ne hf (by simp) text) some_fails_nil

theorem options_fails_iff (query : Query) (text : List Char) :
    (Reading.options query text).Fails source failure ↔
      SomeFails source failure ((Reading.options query text).calls source) := by
  simp only [calls, some_fails_cons, some_fails_after, some_fails_after_comma, Fails]
  rw [readOptions]
  split
  · rename_i ho
    simp [ho]
  · rename_i option rest ho
    simp only [ho, reduceCtorEq, false_or, Except.ok.injEq, exists_eq_left']
    split
    · rename_i later hs
      simp [hs]
    · rename_i hs
      simp [hs]
    · rename_i hno _
      refine iff_of_false (error_ne hf (by simp) _) ?_
      rintro ⟨later, hs, _⟩
      exact hno later hs

theorem more_terms_fails_iff (text : List Char) :
    (Reading.moreTerms text).Fails source failure ↔
      SomeFails source failure ((Reading.moreTerms text).calls source) := by
  simp only [calls, Fails]
  rw [readMoreTerms]
  cases SortOrder.ofSign? text.head? with
  | none => simp
  | some order =>
    rw [path_then_fails_iff hf rfl (by simp)]
    simp only [some_fails_cons, Fails]
    split
    · rename_i hp
      simp only [hp, Except.error.injEq, reduceCtorEq, false_and, exists_false, or_false]
    · rename_i key rest hp
      simp only [hp, reduceCtorEq, false_or, Except.ok.injEq, exists_eq_left',
        some_fails_nil, or_false]
      split <;> rename_i hread <;> simp [hread]

theorem terms_fails_iff (text : List Char) :
    (Reading.terms text).Fails source failure ↔
      SomeFails source failure ((Reading.terms text).calls source) := by
  simp only [calls, Fails]
  unfold readTerms
  cases SortOrder.ofSign? text.head? with
  | some order => simp [Fails]
  | none =>
    rw [path_then_fails_iff hf rfl (by simp)]
    simp only [some_fails_cons, Fails]
    split
    · rename_i hp
      simp only [hp, Except.error.injEq, reduceCtorEq, false_and, exists_false, or_false]
    · rename_i key rest hp
      simp only [hp, reduceCtorEq, false_or, Except.ok.injEq, exists_eq_left',
        some_fails_nil, or_false]
      split <;> rename_i hread <;> simp [hread]

theorem group_fails_iff (alternatives : Option FilterTree) (current : FilterTree)
    (text : List Char) :
    (Reading.group alternatives current text).Fails source failure ↔
      SomeFails source failure ((Reading.group alternatives current text).calls source) := by
  simp only [calls, Fails]
  split
  · rename_i connective rest hs
    rw [group_join hs, bind_eq_error_iff, some_fails_operand_then]
    rfl
  · rename_i hs
    rw [iff_false_right some_fails_nil, PathQuery.group, map_eq_error_iff, readGroup]
    split
    · rename_i hs'
      rw [hs] at hs'
      cases hs'
    · split
      · simp
      · exact error_ne hf (by simp) _

theorem regex_not_fails (text : List Char) : readRegex text ≠ .error failure := by
  unfold readRegex
  split
  · exact error_ne hf (by simp) _
  · dsimp only
    split
    · simp
    · exact error_ne hf (by simp) _

theorem word_fails_iff (text : List Char) :
    readWord source text = .error failure ↔ takeRun source isWordChar 0 text = .error failure := by
  unfold readWord
  split
  · rename_i hrun
    simp [hrun]
  · rename_i run hrun
    simp only [hrun, reduceCtorEq, iff_false]
    split
    · exact error_ne hf (by simp) text
    · split <;> simp

theorem value_fails_iff (text : List Char) :
    readValue source text = .error failure ↔ SomeFails source failure (valueCalls text) := by
  unfold readValue
  split
  · exact iff_of_false (regex_not_fails hf _) some_fails_nil
  · rename_i c rest hslash
    rw [valueCalls.eq_2 c rest hslash]
    split
    · rw [iff_false_right some_fails_nil]
      split
      · simp
      · exact error_ne hf (by simp) _
    · rw [word_fails_iff hf]
      simp [Fails, Part.allows]
  · rw [word_fails_iff hf]
    simp [valueCalls, Fails, Part.allows]

theorem comparator_not_fails (text : List Char) : readComparator text ≠ .error failure := by
  unfold readComparator
  split
  · simp
  · simp
  · simp
  · simp
  · simp
  · simp
  · simp
  · simp
  · exact error_ne hf (by simp) _

theorem condition_fails_iff (text : List Char) :
    (Reading.condition text).Fails source failure ↔
      SomeFails source failure ((Reading.condition text).calls source) := by
  rw [calls, path_then_fails_iff hf rfl (by simp), Fails, readCondition]
  simp only [some_fails_after, ← value_fails_iff hf]
  split
  · rename_i hp
    simp [hp]
  · rename_i key rest hp
    simp only [hp, reduceCtorEq, false_or, Except.ok.injEq, exists_eq_left']
    split
    · rename_i hc
      simp only [hc, reduceCtorEq, false_and, exists_false, iff_false]
      rintro ⟨⟩
      exact comparator_not_fails hf _ hc
    · rename_i comparator rest hc
      simp only [hc, Except.ok.injEq, exists_eq_left']
      split
      · rename_i hv
        simp [hv]
      · rename_i value rest hv
        simp only [hv, reduceCtorEq, iff_false]
        split
        · simp
        · split
          · exact error_ne hf (by simp) _
          · exact error_ne hf (by simp) _

theorem end_not_fails (text : List Char) : expectEnd text ≠ .error failure := by
  unfold expectEnd
  split
  · simp
  · exact error_ne hf (by simp) _

theorem whole_fails_iff :
    Reading.whole.Fails source failure ↔ SomeFails source failure (Reading.whole.calls source) := by
  simp only [Fails, calls]
  rcases hc : readCollection (Text.skipBlanks source.text) with ⟨collection, start⟩
  by_cases hs : start.head? = some '/'
  · rw [read_query_eq hc hs, if_pos hs]
    simp only [bind_eq_error_iff, map_eq_error_iff, end_not_fails hf, some_fails_append,
      some_fails_after, field_clause_fails_iff, option_clause_fails_iff, filter_clause_fails_iff]
    simp
  · rw [if_neg hs, iff_false_right some_fails_nil, readQuery]
    simp only [hc, ne_eq, hs, not_false_eq_true, if_true]
    exact error_ne hf (by simp) start

end Steps

/-- A failure that speaks of a placeholder is the failure of a reading that was started, except
where the placeholder itself is looked for. -/
theorem fails_iff {source : Source} {failure : Failure} (hf : failure.expected.IsOfPlaceholder)
    {reading : Reading} (h : ∀ text, reading ≠ .placeholder text) :
    reading.Fails source failure ↔ SomeFails source failure (reading.calls source) := by
  cases reading with
  | whole => exact whole_fails_iff hf
  | fields text => exact fields_fails_iff hf text
  | options query text => exact options_fails_iff hf query text
  | option sorted limited text => exact option_fails_iff hf sorted limited text
  | terms text => exact terms_fails_iff hf text
  | moreTerms text => exact more_terms_fails_iff hf text
  | moreFilters tree text => exact more_filters_fails_iff tree text
  | operand text => exact operand_fails_iff text
  | group alternatives current text => exact group_fails_iff hf alternatives current text
  | condition text => exact condition_fails_iff hf text
  | run part skip text => exact run_fails_iff part skip text
  | placeholder text => exact absurd rfl (h text)

/-- The text a reading is given. -/
def text (source : Source) : Reading → List Char
  | .whole => source.text
  | .fields text => text
  | .options _ text => text
  | .option _ _ text => text
  | .terms text => text
  | .moreTerms text => text
  | .moreFilters _ text => text
  | .operand text => text
  | .group _ _ text => text
  | .condition text => text
  | .run _ _ text => text
  | .placeholder text => text

/-- Readings that may be given the same text, those that are started by others below them. -/
def rank : Reading → Nat
  | .placeholder _ => 0
  | .run _ _ _ => 1
  | .fields _ => 2
  | .option _ _ _ => 2
  | .moreTerms _ => 2
  | .condition _ => 2
  | _ => 3

/-- How much a reading has before it. -/
def size (source : Source) (reading : Reading) : Nat :=
  4 * (reading.text source).length + reading.rank

/-- A reading is given an end of the text of another one, and has less before it. -/
def Below (source : Source) (reading other : Reading) : Prop :=
  reading.text source <:+ other.text source ∧ reading.size source < other.size source

theorem rank_le (reading : Reading) : reading.rank ≤ 3 := by
  cases reading <;> simp [rank]

section Ends

variable {source : Source} {reading other : Reading} {given : List Char}

theorem below_of_rank (h : reading.text source <:+ other.text source)
    (hr : reading.rank < other.rank) : reading.Below source other := by
  have := h.length_le
  refine ⟨h, ?_⟩
  unfold size
  omega

theorem below_of_proper (h : ProperSuffix (reading.text source) (other.text source)) :
    reading.Below source other := by
  have := rank_le reading
  have := h.2
  refine ⟨h.1, ?_⟩
  unfold size
  omega

theorem mem_after {α : Type} {result : Except Failure α} {next : α → List Reading} :
    reading ∈ after result next ↔ ∃ found, result = .ok found ∧ reading ∈ next found := by
  cases result <;> simp [after]

theorem mem_after_comma {rest : List Char} {next : List Char → Reading} :
    reading ∈ afterComma rest next ↔ ∃ later, Text.skipBlanks rest = ',' :: later ∧
      reading = next later := by
  unfold afterComma
  split
  · simp_all
  · simp_all

theorem operand_then_proper {start : List Char} {next : FilterTree → List Char → Reading}
    (hnext : ∀ tree rest, (next tree rest).text source = rest) (hstart : ProperSuffix start given)
    (h : reading ∈ operandThen source start next) : ProperSuffix (reading.text source) given := by
  simp only [operandThen, List.mem_cons, mem_after, List.not_mem_nil, or_false] at h
  rcases h with rfl | ⟨found, ho, rfl⟩
  · exact hstart
  · rw [hnext]
    exact (operand_proper ho).trans hstart

theorem mem_path_then {part : Part} {what : Expectation} {start : List Char}
    {next : List Char → List Reading} :
    reading ∈ pathThen source part what start next ↔
      reading = .run part 0 start ∨ ∃ found, readPath source what start = .ok found ∧
        reading ∈ next found.2 := by
  rw [pathThen, List.mem_cons, mem_after]

theorem value_calls_run (h : reading ∈ valueCalls given) : reading = .run .value 0 given := by
  unfold valueCalls at h
  split at h
  · cases h
  · split at h
    · cases h
    · exact List.mem_singleton.mp h
  · exact List.mem_singleton.mp h

theorem fields_below (h : reading ∈ (Reading.fields given).calls source) :
    reading.Below source (.fields given) := by
  simp only [calls, mem_path_then, mem_after_comma] at h
  rcases h with rfl | ⟨found, hp, later, hs, rfl⟩
  · exact below_of_rank (skip_blanks_suffix given) (by simp [rank])
  · apply below_of_proper
    exact ((separated_proper hs).trans (path_proper hp)).trans_suffix (skip_blanks_suffix given)

theorem options_below {query : Query} (h : reading ∈ (Reading.options query given).calls source) :
    reading.Below source (.options query given) := by
  simp only [calls, List.mem_cons, mem_after, mem_after_comma] at h
  rcases h with rfl | ⟨found, ho, later, hs, rfl⟩
  · exact below_of_rank (skip_blanks_suffix given) (by simp [rank])
  · apply below_of_proper
    exact ((separated_proper hs).trans (option_proper ho)).trans_suffix (skip_blanks_suffix given)

theorem option_below {sorted limited : Bool}
    (h : reading ∈ (Reading.option sorted limited given).calls source) :
    reading.Below source (.option sorted limited given) := by
  apply below_of_proper
  simp only [calls] at h
  unfold sortOrLimitCalls at h
  split at h
  · rename_i rest
    split at h
    · cases h
    · simp only [mem_after, List.mem_singleton] at h
      obtain ⟨start, he, rfl⟩ := h
      exact ProperSuffix.of_suffix (equals_suffix he)
        (proper_suffix_append (List.cons_ne_nil 's' ['o', 'r', 't']) rest)
  · rename_i rest
    split at h
    · cases h
    · simp only [mem_after, List.mem_singleton] at h
      obtain ⟨start, he, rfl⟩ := h
      exact ProperSuffix.of_suffix ((List.drop_suffix _ start).trans (equals_suffix he))
        (proper_suffix_append (List.cons_ne_nil 'l' ['i', 'm', 'i', 't']) rest)
  · cases h

theorem terms_below (h : reading ∈ (Reading.terms given).calls source) :
    reading.Below source (.terms given) := by
  simp only [calls] at h
  split at h
  · cases List.mem_singleton.mp h
    exact below_of_rank List.suffix_rfl (by simp [rank])
  · simp only [mem_path_then, List.mem_singleton] at h
    rcases h with rfl | ⟨found, hp, rfl⟩
    · exact below_of_rank List.suffix_rfl (by simp [rank])
    · exact below_of_proper (path_proper hp)

theorem more_terms_below (h : reading ∈ (Reading.moreTerms given).calls source) :
    reading.Below source (.moreTerms given) := by
  simp only [calls] at h
  split at h
  · simp only [mem_path_then, List.mem_singleton] at h
    rcases h with rfl | ⟨found, hp, rfl⟩
    · exact below_of_rank (List.drop_suffix 1 given) (by simp [rank])
    · exact below_of_proper ((path_proper hp).trans_suffix (List.drop_suffix 1 given))
  · cases h

theorem more_filters_below {tree : FilterTree}
    (h : reading ∈ (Reading.moreFilters tree given).calls source) :
    reading.Below source (.moreFilters tree given) := by
  apply below_of_proper
  simp only [calls] at h
  split at h
  · rename_i connective rest hc
    exact operand_then_proper (fun _ _ => rfl) (connective_proper hc) h
  · cases h

theorem operand_below (h : reading ∈ (Reading.operand given).calls source) :
    reading.Below source (.operand given) := by
  simp only [calls] at h
  split at h
  · rename_i inner hp
    exact below_of_proper (operand_then_proper (fun _ _ => rfl) (separated_proper hp) h)
  · cases List.mem_singleton.mp h
    exact below_of_rank (skip_blanks_suffix given) (by simp [rank])

theorem group_below {alternatives : Option FilterTree} {current : FilterTree}
    (h : reading ∈ (Reading.group alternatives current given).calls source) :
    reading.Below source (.group alternatives current given) := by
  apply below_of_proper
  simp only [calls] at h
  split at h
  · rename_i connective rest hc
    exact operand_then_proper (fun _ _ => rfl) (connective_proper hc) h
  · cases h

theorem condition_below (h : reading ∈ (Reading.condition given).calls source) :
    reading.Below source (.condition given) := by
  simp only [calls, mem_path_then, mem_after] at h
  rcases h with rfl | ⟨key, hp, comparator, hc, hv⟩
  · exact below_of_rank List.suffix_rfl (by simp [rank])
  · rw [value_calls_run hv]
    apply below_of_proper
    refine ProperSuffix.of_suffix ?_ (path_proper hp)
    calc Text.skipBlanks comparator.2 <:+ comparator.2 := skip_blanks_suffix _
      _ <:+ Text.skipBlanks key.2 := comparator_suffix hc
      _ <:+ key.2 := skip_blanks_suffix _

theorem run_below {part : Part} {skip : Nat}
    (h : reading ∈ (Reading.run part skip given).calls source) :
    reading.Below source (.run part skip given) := by
  match skip, given with
  | _, [] => simp [calls] at h
  | skip + 1, c :: rest =>
    cases List.mem_singleton.mp h
    exact below_of_proper (proper_suffix_cons c rest)
  | 0, c :: rest =>
    simp only [calls, List.mem_cons, mem_after] at h
    rcases h with rfl | ⟨length, hp, h⟩
    · exact below_of_rank List.suffix_rfl (by simp [rank])
    · have hrest : ∃ skip, reading = .run part skip rest := by
        split at h
        · split at h
          · exact ⟨_, List.mem_singleton.mp h⟩
          · cases h
        · exact ⟨_, List.mem_singleton.mp h⟩
      obtain ⟨skip, rfl⟩ := hrest
      exact below_of_proper (proper_suffix_cons c rest)

theorem field_calls_proper (h : reading ∈ fieldCalls given) :
    ProperSuffix (reading.text source) given := by
  unfold fieldCalls at h
  split at h
  · cases List.mem_singleton.mp h
    exact proper_suffix_cons _ _
  · cases h

theorem option_calls_proper {query : Query} (h : reading ∈ optionCalls query given) :
    ProperSuffix (reading.text source) given := by
  unfold optionCalls at h
  split at h
  · cases List.mem_singleton.mp h
    exact proper_suffix_cons _ _
  · cases h

theorem filter_calls_proper (h : reading ∈ filterCalls source given) :
    ProperSuffix (reading.text source) given := by
  unfold filterCalls at h
  split at h
  · exact operand_then_proper (fun _ _ => rfl) (proper_suffix_cons _ _) h
  · cases h

theorem whole_below (h : reading ∈ Reading.whole.calls source) : reading.Below source .whole := by
  apply below_of_proper
  simp only [calls] at h
  rcases hc : readCollection (Text.skipBlanks source.text) with ⟨collection, start⟩
  rw [hc] at h
  split at h
  · have hclauses : start.dropWhile isLocationChar <:+ source.text :=
      (List.dropWhile_suffix _).trans ((collection_suffix hc).trans (skip_blanks_suffix _))
    simp only [List.mem_append, mem_after] at h
    rcases h with h | ⟨fields, hf, h | ⟨options, ho, h⟩⟩
    · exact (field_calls_proper h).trans_suffix hclauses
    · exact (option_calls_proper h).trans_suffix ((field_clause_suffix hf).trans hclauses)
    · refine (filter_calls_proper h).trans_suffix ?_
      calc Text.skipBlanks options.2 <:+ options.2 := skip_blanks_suffix _
        _ <:+ fields.2 := option_clause_suffix ho
        _ <:+ start.dropWhile isLocationChar := field_clause_suffix hf
        _ <:+ source.text := hclauses
  · cases h

/-- Every reading that is started has less before it than the one that starts it. -/
theorem calls_below (h : reading ∈ other.calls source) : reading.Below source other := by
  cases other with
  | whole => exact whole_below h
  | fields text => exact fields_below h
  | options query text => exact options_below h
  | option sorted limited text => exact option_below h
  | terms text => exact terms_below h
  | moreTerms text => exact more_terms_below h
  | moreFilters tree text => exact more_filters_below h
  | operand text => exact operand_below h
  | group alternatives current text => exact group_below h
  | condition text => exact condition_below h
  | run part skip text => exact run_below h
  | placeholder text => cases h

end Ends

/-- One reading leads to another by starting readings, step after step. -/
def LeadsTo (source : Source) : Reading → Reading → Prop :=
  Relation.ReflTransGen fun starting started => started ∈ starting.calls source

section LeadsTo

variable {source : Source} {reading other : Reading} {failure : Failure}

theorem LeadsTo.suffix (h : reading.LeadsTo source other) :
    other.text source <:+ reading.text source := by
  induction h with
  | refl => exact List.suffix_rfl
  | tail _ hstarted ih => exact (calls_below hstarted).1.trans ih

/-- A run goes on behind the characters it skips. -/
theorem run_leads_to_rest (part : Part) (skipped rest : List Char) :
    (Reading.run part skipped.length (skipped ++ rest)).LeadsTo source (.run part 0 rest) := by
  induction skipped with
  | nil => exact .refl
  | cons c skipped ih => exact .head (List.mem_singleton.mpr rfl) ih

/-- A failure that speaks of a placeholder passes through every reading that led to it. -/
theorem LeadsTo.fails (h : reading.LeadsTo source other) (hf : failure.expected.IsOfPlaceholder)
    (hfails : other.Fails source failure) : reading.Fails source failure := by
  induction h using Relation.ReflTransGen.head_induction_on with
  | refl => exact hfails
  | head hstarted _ ih =>
    refine (fails_iff hf ?_).mpr ⟨_, hstarted, ih⟩
    rintro text rfl
    cases hstarted

/-- A failure that speaks of a placeholder arises where a placeholder is looked for. -/
theorem exists_place (hf : failure.expected.IsOfPlaceholder)
    (hfails : reading.Fails source failure) :
    ∃ rest, reading.LeadsTo source (.placeholder rest) ∧
      source.placeholder rest = .error failure := by
  induction hn : reading.size source using Nat.strongRecOn generalizing reading with
  | ind n ih =>
    by_cases hp : ∃ rest, reading = .placeholder rest
    · obtain ⟨rest, rfl⟩ := hp
      exact ⟨rest, .refl, hfails⟩
    · obtain ⟨started, hstarted, hlater⟩ := (fails_iff hf (not_exists.mp hp)).mp hfails
      have hless : started.size source < n := hn ▸ (calls_below hstarted).2
      obtain ⟨rest, hleads, hplace⟩ := ih _ hless hlater rfl
      exact ⟨rest, .head hstarted hleads, hplace⟩

end LeadsTo

end Reading
end PathQuery
