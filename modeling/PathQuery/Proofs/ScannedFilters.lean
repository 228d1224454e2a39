import PathQuery.Proofs.ScannedParts

namespace PathQuery

section Connectives

variable {text after : List Char} {connective : Connective}

theorem connective_cases (h : readConnective? text = some (connective, after)) :
    text = connective.symbol :: connective.symbol :: after ∨
      (text = connective.symbol :: after ∧ after.head? ≠ some connective.symbol) := by
  unfold readConnective? at h
  split at h
  · cases h
    exact .inl rfl
  · rename_i hdouble
    cases h
    exact .inr ⟨rfl, Scanner.head_ne hdouble⟩
  · cases h
    exact .inl rfl
  · rename_i hdouble
    cases h
    exact .inr ⟨rfl, Scanner.head_ne hdouble⟩
  · cases h

theorem connective_of_symbol (connective : Connective) (text : List Char) :
    ∃ after, readConnective? (connective.symbol :: text) = some (connective, after) := by
  by_cases hdouble : ∃ after, text = connective.symbol :: after
  · obtain ⟨after, rfl⟩ := hdouble
    cases connective <;> exact ⟨after, rfl⟩
  · refine ⟨text, ?_⟩
    cases connective <;> simp_all [readConnective?, Connective.symbol]

/-- A group that neither goes on nor ends is refused where it should. -/
theorem group_refused {source : Source} {alternatives : Option FilterTree} {current : FilterTree}
    (hc : readConnective? (Text.skipBlanks text) = none)
    (hp : ∀ after, Text.skipBlanks text ≠ ')' :: after) :
    group source alternatives current text = .error ⟨.groupGoesOn, Text.skipBlanks text⟩ := by
  unfold group
  rw [readGroup]
  split
  · rename_i hs
    rw [hc] at hs
    cases hs
  · split
    · rename_i after hs
      exact absurd hs (hp after)
    · rfl

end Connectives

/-- The tokens of the alternatives of a group that are complete. -/
def alternativeTokens : Option FilterTree → List FilterToken
  | none => []
  | some tree => tree.tokens

/-- Filters that are read as a tree, written as tokens behind others. -/
def emitted (sofar : List FilterToken) (outcome : Except Failure (FilterTree × List Char)) :
    Except Failure (List FilterToken × List Char) :=
  outcome.map fun found => (sofar ++ found.1.tokens, found.2)

/-- Tokens that are written behind those of a tree. -/
theorem Follows.emitted_bind {text : String} {position : Nat} {scan : Scan (List FilterToken)}
    {k : List FilterToken → Scan (List FilterToken)} {sofar base : List FilterToken}
    {outcome : Except Failure (FilterTree × List Char)}
    {f : FilterTree × List Char → Except Failure (FilterTree × List Char)}
    (h : Follows text position (scan.result position) (emitted sofar outcome))
    (hk : ∀ found next, outcome = .ok found → StandsAt text next found.2 →
      Follows text next ((k (sofar ++ found.1.tokens)).result next) (emitted base (f found))) :
    Follows text position ((scan >>= k).result position) (emitted base (outcome.bind f)) := by
  cases outcome with
  | error failure => exact h.bind_error
  | ok found =>
    refine h.bind_ok ?_
    intro next hnext
    exact hk found next rfl hnext

namespace Scanner

section Filters

variable {scanner : Scanner} {position : Nat} {rest after : List Char}

theorem eat_connective {connective : Connective}
    (hc : readConnective? rest = some (connective, after))
    (h : StandsAt scanner.text position rest) :
    Follows scanner.text position ((scanner.eatDoubled connective.symbol).result position)
      (.ok (true, after)) := by
  obtain rfl | ⟨rfl, hsingle⟩ := connective_cases hc
  · have hdouble : StandsAt scanner.text position
        ((String.ofList [connective.symbol, connective.symbol]).toList ++ after) := by
      rw [String.toList_ofList]
      exact h
    refine (eat_text_head hdouble).bind_ok ?_
    intro next hnext
    exact .ok hnext le_rfl
  · have hdouble : ¬ (String.ofList [connective.symbol, connective.symbol]).toList <+:
        connective.symbol :: after := by
      rw [String.toList_ofList]
      rintro ⟨rest, he⟩
      cases he
      exact hsingle rfl
    refine (eat_text_other h hdouble).bind_ok ?_
    intro next hnext
    exact eat_head hnext

theorem eat_no_connective {connective : Connective}
    (hc : ∀ after, readConnective? rest ≠ some (connective, after))
    (h : StandsAt scanner.text position rest) :
    Follows scanner.text position ((scanner.eatDoubled connective.symbol).result position)
      (.ok (false, rest)) := by
  have hhead : rest.head? ≠ some connective.symbol := by
    intro he
    obtain ⟨tail, rfl⟩ := List.head?_eq_some_iff.mp he
    obtain ⟨after, hafter⟩ := connective_of_symbol connective tail
    exact hc after hafter
  have hdouble : ¬ (String.ofList [connective.symbol, connective.symbol]).toList <+: rest := by
    rw [String.toList_ofList]
    rintro ⟨tail, rfl⟩
    exact hhead rfl
  refine (eat_text_other h hdouble).bind_ok ?_
  intro next hnext
  exact eat_other hnext hhead

/-- An alternative behind others is joined to them. -/
def closeAlternative (opened : Bool) (tokens : List FilterToken) : List FilterToken :=
  if opened then tokens ++ [.connective .or] else tokens

theorem close_alternative_tokens (alternatives : Option FilterTree) (current : FilterTree)
    (base : List FilterToken) :
    closeAlternative alternatives.isSome
        (base ++ (alternativeTokens alternatives ++ current.tokens)) =
      base ++ (joinAlternatives alternatives current).tokens := by
  cases alternatives with
  | none => rfl
  | some tree => simp [closeAlternative, alternativeTokens, joinAlternatives, FilterTree.tokens]

/-- What there is to do in a group behind an operand. There are alternatives before that operand's
if the group is `opened`. -/
def groupRest (scanner : Scanner) (opened : Bool) (sofar : List FilterToken) :
    Scan (List FilterToken) := do
  let tokens ← scanner.moreOperands sofar
  let tokens ← scanner.moreAlternatives (closeAlternative opened tokens)
  scanner.closeGroup tokens

/-- An operand behind an opening parenthesis starts a group. -/
theorem operand_opened (sofar : List FilterToken)
    {outcome : Except Failure (List FilterToken × List Char)}
    (hs : Text.skipBlanks rest = '(' :: after)
    (hk : ∀ next, StandsAt scanner.text next after → Follows scanner.text next
      ((scanner.operand sofar >>= scanner.groupRest false).result next) outcome)
    (h : StandsAt scanner.text position rest) :
    Follows scanner.text position ((scanner.operand sofar).result position) outcome := by
  rw [operand]
  refine (skip_blanks_follows h).bind_ok ?_
  intro next hnext
  rw [hs] at hnext
  refine (eat_head hnext).bind_ok ?_
  intro next hnext
  simp only [if_true, alternatives, alternative, bind_assoc]
  exact hk next hnext

theorem operand_of_condition (sofar : List FilterToken)
    (hs : ∀ inner, Text.skipBlanks rest ≠ '(' :: inner) (h : StandsAt scanner.text position rest) :
    Follows scanner.text position ((scanner.operand sofar).result position)
      (emitted sofar (PathQuery.operand scanner.source rest)) := by
  rw [operand_condition hs, operand]
  refine (skip_blanks_follows h).bind_ok ?_
  intro next hnext
  refine (eat_other hnext (head_ne hs)).bind_ok ?_
  intro next hnext
  have hcondition := condition_follows sofar hnext
  cases hc : readCondition scanner.source (Text.skipBlanks rest) with
  | error failure =>
    rw [hc] at hcondition
    exact hcondition
  | ok found =>
    rw [hc] at hcondition
    exact hcondition

section Groups

variable {opened : Bool} {sofar : List FilterToken}
  {outcome : Except Failure (List FilterToken × List Char)}

theorem group_rest_and (hc : readConnective? (Text.skipBlanks rest) = some (.and, after))
    (hk : ∀ next, StandsAt scanner.text next after → Follows scanner.text next
      ((scanner.operand sofar >>= fun tokens =>
        scanner.groupRest opened (tokens ++ [.connective .and])).result next) outcome)
    (h : StandsAt scanner.text position rest) :
    Follows scanner.text position ((scanner.groupRest opened sofar).result position) outcome := by
  rw [groupRest, moreOperands]
  simp only [bind_assoc]
  refine (skip_blanks_follows h).bind_ok ?_
  intro next hnext
  refine (eat_connective hc hnext).bind_ok ?_
  intro next hnext
  simp only [if_true, bind_assoc]
  exact hk next hnext

/-- Where no operand joins the alternative, the alternative is complete. -/
theorem group_rest_alternative
    (hc : ∀ after, readConnective? (Text.skipBlanks rest) ≠ some (.and, after))
    (hk : ∀ next, StandsAt scanner.text next (Text.skipBlanks rest) → Follows scanner.text next
      ((scanner.moreAlternatives (closeAlternative opened sofar) >>=
        scanner.closeGroup).result next) outcome)
    (h : StandsAt scanner.text position rest) :
    Follows scanner.text position ((scanner.groupRest opened sofar).result position) outcome := by
  rw [groupRest, moreOperands]
  simp only [bind_assoc]
  refine (skip_blanks_follows h).bind_ok ?_
  intro next hnext
  refine (eat_no_connective hc hnext).bind_ok ?_
  intro next hnext
  simp only [Bool.false_eq_true, if_false, pure_bind]
  exact hk next hnext

theorem group_rest_or (hc : readConnective? (Text.skipBlanks rest) = some (.or, after))
    (hk : ∀ next, StandsAt scanner.text next after → Follows scanner.text next
      ((scanner.operand (closeAlternative opened sofar) >>=
        scanner.groupRest true).result next) outcome)
    (h : StandsAt scanner.text position rest) :
    Follows scanner.text position ((scanner.groupRest opened sofar).result position) outcome := by
  refine group_rest_alternative (by simp [hc]) ?_ h
  intro next hnext
  rw [moreAlternatives]
  simp only [bind_assoc]
  refine (skip_blanks_follows hnext).bind_ok ?_
  intro next hnext
  rw [Text.skip_blanks_again] at hnext
  refine (eat_connective hc hnext).bind_ok ?_
  intro next hnext
  simp only [if_true, alternative, bind_assoc]
  exact hk next hnext

/-- Where no connective follows, all alternatives are complete. -/
theorem group_rest_end (hc : readConnective? (Text.skipBlanks rest) = none)
    (hk : ∀ next, StandsAt scanner.text next (Text.skipBlanks rest) → Follows scanner.text next
      ((scanner.closeGroup (closeAlternative opened sofar)).result next) outcome)
    (h : StandsAt scanner.text position rest) :
    Follows scanner.text position ((scanner.groupRest opened sofar).result position) outcome := by
  have hnone (connective : Connective) (after : List Char) :
      readConnective? (Text.skipBlanks rest) ≠ some (connective, after) := by simp [hc]
  refine group_rest_alternative (hnone .and) ?_ h
  intro next hnext
  rw [moreAlternatives]
  simp only [bind_assoc]
  refine (skip_blanks_follows hnext).bind_ok ?_
  intro next hnext
  rw [Text.skip_blanks_again] at hnext
  refine (eat_no_connective (hnone .or) hnext).bind_ok ?_
  intro next hnext
  simp only [Bool.false_eq_true, if_false, pure_bind]
  exact hk next hnext

end Groups

theorem close_group_closed (tokens : List FilterToken) (hs : Text.skipBlanks rest = ')' :: after)
    (h : StandsAt scanner.text position rest) :
    Follows scanner.text position ((scanner.closeGroup tokens).result position)
      (.ok (tokens, after)) := by
  refine (skip_blanks_follows h).bind_ok ?_
  intro next hnext
  rw [hs] at hnext
  refine (eat_head hnext).bind_ok ?_
  intro next hnext
  exact .ok hnext le_rfl

theorem close_group_refused (tokens : List FilterToken)
    (hs : ∀ after, Text.skipBlanks rest ≠ ')' :: after) (h : StandsAt scanner.text position rest) :
    Follows scanner.text position ((scanner.closeGroup tokens).result position)
      (.error ⟨.groupGoesOn, Text.skipBlanks rest⟩) := by
  refine (skip_blanks_follows h).bind_ok ?_
  intro next hnext
  refine (eat_other hnext (head_ne hs)).bind_ok ?_
  intro next hnext
  exact fail_follows hnext .groupGoesOn

/-- The tokens of an operand are those of its tree, and the tokens that are written until a group is
complete are those of the tree of the group. Operands and groups start one another on shorter texts,
so both are settled by one induction. -/
theorem operand_group_follows (scanner : Scanner) (rest : List Char) :
    (∀ position sofar, StandsAt scanner.text position rest →
      Follows scanner.text position ((scanner.operand sofar).result position)
        (emitted sofar (PathQuery.operand scanner.source rest))) ∧
    ∀ alternatives current base position, StandsAt scanner.text position rest →
      Follows scanner.text position
        ((scanner.groupRest alternatives.isSome
          (base ++ (alternativeTokens alternatives ++ current.tokens))).result position)
        (emitted base (group scanner.source alternatives current rest)) := by
  induction hn : rest.length using Nat.strongRecOn generalizing rest with
  | ind n ih =>
    subst hn
    refine ⟨?_, ?_⟩
    · intro position sofar h
      by_cases hp : ∃ inner, Text.skipBlanks rest = '(' :: inner
      · obtain ⟨inner, hp⟩ := hp
        have hinner := separated_proper hp
        rw [operand_open hp]
        refine operand_opened sofar hp ?_ h
        intro next hnext
        refine ((ih _ hinner.2 inner rfl).1 next sofar hnext).emitted_bind ?_
        intro first stop hfirst hstop
        have hrest : ProperSuffix first.2 rest := (operand_proper hfirst).trans hinner
        exact (ih _ hrest.2 first.2 rfl).2 none first.1 sofar stop hstop
      · exact operand_of_condition sofar (not_exists.mp hp) h
    · intro alternatives current base position h
      cases hc : readConnective? (Text.skipBlanks rest) with
      | some found =>
        obtain ⟨connective, after⟩ := found
        have hafter := connective_proper hc
        rw [group_join hc]
        cases connective with
        | and =>
          refine group_rest_and hc ?_ h
          intro next hnext
          refine ((ih _ hafter.2 after rfl).1 next _ hnext).emitted_bind ?_
          intro operand stop hoperand hstop
          have hrest : ProperSuffix operand.2 rest := (operand_proper hoperand).trans hafter
          have hgroup := (ih _ hrest.2 operand.2 rfl).2 alternatives
            (.join .and current operand.1) base stop hstop
          simpa [FilterTree.tokens, extendGroup] using hgroup
        | or =>
          refine group_rest_or hc ?_ h
          intro next hnext
          rw [close_alternative_tokens]
          refine ((ih _ hafter.2 after rfl).1 next _ hnext).emitted_bind ?_
          intro operand stop hoperand hstop
          have hrest : ProperSuffix operand.2 rest := (operand_proper hoperand).trans hafter
          have hgroup := (ih _ hrest.2 operand.2 rfl).2
            (some (joinAlternatives alternatives current)) operand.1 base stop hstop
          rw [← List.append_assoc] at hgroup
          exact hgroup
      | none =>
        refine group_rest_end hc ?_ h
        intro next hnext
        rw [close_alternative_tokens]
        by_cases hp : ∃ after, Text.skipBlanks rest = ')' :: after
        · obtain ⟨after, hp⟩ := hp
          rw [group_close hp]
          exact close_group_closed _ (by rw [Text.skip_blanks_again, hp]) hnext
        · have hclose := close_group_refused
            (base ++ (joinAlternatives alternatives current).tokens)
            (by rw [Text.skip_blanks_again]; exact not_exists.mp hp) hnext
          rw [Text.skip_blanks_again] at hclose
          rw [group_refused hc (not_exists.mp hp)]
          exact hclose

theorem operand_follows (sofar : List FilterToken) (h : StandsAt scanner.text position rest) :
    Follows scanner.text position ((scanner.operand sofar).result position)
      (emitted sofar (PathQuery.operand scanner.source rest)) :=
  (operand_group_follows scanner rest).1 position sofar h

theorem connective_some {connective : Connective}
    (hc : readConnective? rest = some (connective, after))
    (h : StandsAt scanner.text position rest) :
    Follows scanner.text position (scanner.connective.result position)
      (.ok (some connective, after)) := by
  cases connective with
  | and =>
    refine (eat_connective hc h).bind_ok ?_
    intro next hnext
    exact .ok hnext le_rfl
  | or =>
    have hand (after : List Char) : readConnective? rest ≠ some (.and, after) := by simp [hc]
    refine (eat_no_connective hand h).bind_ok ?_
    intro next hnext
    refine (eat_connective hc hnext).bind_ok ?_
    intro next hnext
    exact .ok hnext le_rfl

theorem connective_none (hc : readConnective? rest = none)
    (h : StandsAt scanner.text position rest) :
    Follows scanner.text position (scanner.connective.result position) (.ok (none, rest)) := by
  have hnone (connective : Connective) (after : List Char) :
      readConnective? rest ≠ some (connective, after) := by simp [hc]
  refine (eat_no_connective (hnone .and) h).bind_ok ?_
  intro next hnext
  refine (eat_no_connective (hnone .or) hnext).bind_ok ?_
  intro next hnext
  exact .ok hnext le_rfl

theorem more_filters_follows (base : List FilterToken) (tree : FilterTree)
    (h : StandsAt scanner.text position rest) :
    Follows scanner.text position ((scanner.moreFilters (base ++ tree.tokens)).result position)
      (emitted base (readMoreFilters scanner.source tree rest)) := by
  induction hn : rest.length using Nat.strongRecOn generalizing rest tree position with
  | ind n ih =>
    subst hn
    rw [moreFilters]
    refine (skip_blanks_follows h).bind_ok ?_
    intro next hnext
    cases hc : readConnective? (Text.skipBlanks rest) with
    | none =>
      rw [more_filters_end hc]
      refine (connective_none hc hnext).bind_ok ?_
      intro next hnext
      exact .ok hnext le_rfl
    | some found =>
      obtain ⟨connective, after⟩ := found
      rw [more_filters_join hc]
      refine (connective_some hc hnext).bind_ok ?_
      intro next hnext
      refine (operand_follows _ hnext).emitted_bind ?_
      intro operand stop hoperand hstop
      have hrest : ProperSuffix operand.2 rest :=
        (operand_proper hoperand).trans (connective_proper hc)
      have hmore := ih _ hrest.2 (.join connective tree operand.1) hstop rfl
      simpa [FilterTree.tokens] using hmore

/-- The tokens that are written while filters are read are those of the tree they are read as. -/
theorem filters_follows (h : StandsAt scanner.text position rest) :
    Follows scanner.text position (scanner.filters.result position)
      (emitted [] (readFilters scanner.source rest)) := by
  rw [filters_eq]
  refine (operand_follows [] h).emitted_bind ?_
  intro first next hfirst hnext
  exact more_filters_follows [] first.1 hnext

end Filters
end Scanner
end PathQuery
