import PathQuery.Proofs.Plans

namespace PathQuery

/-- What a condition says of a record, if it can be tested. -/
def Condition.verdict (record : Json) (condition : Condition) : Except Error Bool :=
  (ValueTest.ofCondition 0 condition).map fun test =>
    RecordTest.holds ⟨segments condition.key, test⟩ record

/-- Where a condition stands in a stream is told in errors only. -/
theorem value_test_place {condition : Condition} {index : Nat} {test : ValueTest}
    (h : ValueTest.ofCondition index condition = .ok test) (place : Nat) :
    ValueTest.ofCondition place condition = .ok test := by
  obtain ⟨key, comparator, value⟩ := condition
  cases value with
  | template text => cases h
  | regex pattern flags =>
    cases comparator with
    | «matches» => exact h
    | _ => cases h
  | string text => cases comparator <;> exact h
  | null | bool | number =>
    cases comparator with
    | «matches» => cases h
    | _ => exact h

theorem verdict_of_test {condition : Condition} {index : Nat} {test : ValueTest}
    (h : ValueTest.ofCondition index condition = .ok test) (record : Json) :
    condition.verdict record = .ok (RecordTest.holds ⟨segments condition.key, test⟩ record) := by
  simp [Condition.verdict, value_test_place h 0, Except.map]

/-- The two machines take the same steps: with the same truth values on the stack, they end with the
same one. -/
theorem run_steps_eq {record : Json} {tokens : List FilterToken} {steps : List FilterStep}
    {first index place deepest depth : Nat} {stack : List Bool}
    (hs : FilterStep.ofTokens first tokens = .ok steps)
    (hc : FilterStream.checkFrom place stack.length deepest tokens = .ok depth) :
    FilterStream.foldFrom (Condition.verdict record) Connective.apply index stack tokens =
      .ok (runSteps record stack steps) := by
  induction tokens generalizing steps first index place deepest stack with
  | nil =>
    cases hs
    cases stack with
    | nil => cases hc
    | cons top below => rfl
  | cons token tokens ih =>
    obtain ⟨step, hstep, hs⟩ := bind_eq_ok hs
    obtain ⟨later, hlater, hs⟩ := bind_eq_ok hs
    cases hs
    cases token with
    | condition c =>
      obtain ⟨test, htest, rfl⟩ := map_eq_ok hstep
      simp only [FilterStream.foldFrom, runSteps, verdict_of_test htest record]
      exact ih hlater hc
    | connective connective =>
      cases hstep
      -- the check has followed the height of the stack, so there is a value at least
      cases stack with
      | nil => cases hc
      | cons right below =>
        cases below with
        | nil =>
          simp only [FilterStream.foldFrom, runSteps]
          exact @ih _ _ _ _ _ [right] hlater hc
        | cons left below =>
          simp only [FilterStream.foldFrom, runSteps]
          exact @ih _ _ _ _ _ (connective.apply left right :: below) hlater hc

/-- A test made of filters says of a record what the fold of their conditions says of it. -/
theorem predicate_eq_fold {tokens : List FilterToken} {predicate : Json → Bool}
    (h : compilePredicate tokens = .ok predicate) (record : Json) :
    FilterStream.fold (Condition.verdict record) Connective.apply tokens =
      .ok (predicate record) := by
  obtain ⟨depth, hcheck, h⟩ := bind_eq_ok h
  obtain ⟨steps, hsteps, h⟩ := bind_eq_ok h
  cases h
  unfold FilterStream.fold
  rw [hcheck]
  exact @run_steps_eq record tokens steps 0 0 0 0 depth [] hsteps
    (FilterStream.check_from_of_check hcheck)

/-- A sound stream stands for one tree: that tree's stream is what is left of the given one without
the connectives that find a single value, and it is no other tree's. The fold of the stream is the
fold of the tree, for values of any type; the first condition without a value decides the error. A
test made of the stream says of every record what the tree says of it, and the stream is written as
SQL and printed as the tree is. -/
theorem sound_stream_groups_as_tree (tokens : List FilterToken) (depth : Nat)
    (h : FilterStream.check tokens = .ok depth) : ∃ tree : FilterTree,
    (∀ other : FilterTree, other.tokens = FilterStream.strict tokens ↔ other = tree) ∧
    (∀ (α : Type) (leaf : Condition → Except Error α) (combine : Connective → α → α → α),
      FilterStream.fold leaf combine tokens = tree.tryFold leaf combine ∧
      (∀ value : Condition → α, (∀ c, .condition c ∈ tokens → leaf c = .ok (value c)) →
        FilterStream.fold leaf combine tokens = .ok (tree.fold value combine)) ∧
      ∀ earlier condition later e, tokens = earlier ++ .condition condition :: later →
        (∀ c, .condition c ∈ earlier → ∃ value, leaf c = .ok value) → leaf condition = .error e →
          FilterStream.fold leaf combine tokens = .error e) ∧
    (∀ predicate, compilePredicate tokens = .ok predicate → ∀ record,
      FilterStream.fold (Condition.verdict record) Connective.apply tokens =
        .ok (predicate record) ∧
      tree.tryFold (Condition.verdict record) Connective.apply = .ok (predicate record)) ∧
    Sql.whereText tokens = tree.tryFold Sql.condition Sql.joinConditions ∧
    filterChars? tokens = some (tree.fold FilterText.ofCondition FilterText.join).grouped := by
  obtain ⟨tree, hstream, hfold⟩ := FilterStream.exists_tree h
  refine ⟨tree, ?_, ?_, ?_, ?_, ?_⟩
  · intro other
    constructor
    · intro ho
      exact FilterStream.tokens_injective (ho.trans hstream.symm)
    · rintro rfl
      exact hstream
  · intro α leaf combine
    refine ⟨hfold leaf combine, ?_, ?_⟩
    · intro value hvalue
      rw [hfold]
      apply FilterTree.try_fold_values
      intro c hm
      rw [hstream, FilterStream.condition_mem_strict] at hm
      exact hvalue c hm
    · intro earlier condition later e ht hearlier hl
      have hcheck := FilterStream.check_from_of_check h
      unfold FilterStream.fold
      rw [h]
      rw [ht] at hcheck ⊢
      exact FilterStream.fold_from_first_error hearlier hl hcheck
  · intro predicate hp record
    have hrecord := predicate_eq_fold hp record
    exact ⟨hrecord, (hfold _ _).symm.trans hrecord⟩
  · exact hfold Sql.condition Sql.joinConditions
  · unfold filterChars?
    rw [hfold, FilterTree.try_fold_ok]

/-- A stream whose first connective finds a single value. -/
def passedOver : List FilterToken :=
  [.condition ⟨"a", .eq, .bool true⟩, .connective .or,
    .condition ⟨"b.c", .matches, .regex "^x" "m"⟩, .condition ⟨"d", .ne, .null⟩, .connective .or,
    .connective .and]

theorem passed_over_groups_as_tree : ∃ (tree : FilterTree) (predicate : Json → Bool),
    tree = .join .and (.leaf ⟨"a", .eq, .bool true⟩)
      (.join .or (.leaf ⟨"b.c", .matches, .regex "^x" "m"⟩) (.leaf ⟨"d", .ne, .null⟩)) ∧
    FilterStream.check passedOver = .ok 3 ∧ tree.tokens = FilterStream.strict passedOver ∧
    compilePredicate passedOver = .ok predicate ∧
    (∀ record, tree.tryFold (Condition.verdict record) Connective.apply = .ok (predicate record)) ∧
    Sql.whereText passedOver = tree.tryFold Sql.condition Sql.joinConditions ∧
    filterChars? passedOver = some "(a=true&(b.c~/^x/m|d!=null))".toList := by
  obtain ⟨predicate, hp⟩ : ∃ predicate, compilePredicate passedOver = .ok predicate := ⟨_, rfl⟩
  obtain ⟨tree, hunique, _, hpredicate, hsql, hprinted⟩ :=
    sound_stream_groups_as_tree passedOver 3 rfl
  have htree := (hunique (.join .and (.leaf ⟨"a", .eq, .bool true⟩)
    (.join .or (.leaf ⟨"b.c", .matches, .regex "^x" "m"⟩) (.leaf ⟨"d", .ne, .null⟩)))).mp rfl
  refine ⟨tree, predicate, htree.symm, rfl, (hunique tree).mpr rfl, hp, ?_, hsql, ?_⟩
  · intro record
    exact (hpredicate predicate hp record).2
  · rw [hprinted, ← htree]
    rfl

end PathQuery
