import Mathlib.Data.List.Infix
import PathQuery.Proofs.Clauses

namespace PathQuery

/-- A shorter end of a text. -/
def ProperSuffix (rest text : List Char) : Prop :=
  rest <:+ text ∧ rest.length < text.length

namespace ProperSuffix

variable {first middle last : List Char}

theorem trans_suffix (h : ProperSuffix first middle) (hs : middle <:+ last) :
    ProperSuffix first last :=
  ⟨h.1.trans hs, Nat.lt_of_lt_of_le h.2 hs.length_le⟩

theorem of_suffix (hs : first <:+ middle) (h : ProperSuffix middle last) :
    ProperSuffix first last :=
  ⟨hs.trans h.1, Nat.lt_of_le_of_lt hs.length_le h.2⟩

theorem trans (h : ProperSuffix first middle) (h' : ProperSuffix middle last) :
    ProperSuffix first last :=
  h.trans_suffix h'.1

end ProperSuffix

theorem proper_suffix_append {front : List Char} (h : front ≠ []) (rest : List Char) :
    ProperSuffix rest (front ++ rest) := by
  have := List.length_pos_iff.mpr h
  refine ⟨List.suffix_append front rest, ?_⟩
  rw [List.length_append]
  omega

theorem proper_suffix_cons (c : Char) (text : List Char) : ProperSuffix text (c :: text) :=
  proper_suffix_append (List.cons_ne_nil c []) text

theorem skip_blanks_suffix (text : List Char) : Text.skipBlanks text <:+ text :=
  List.dropWhile_suffix _

section Suffixes

variable {source : Source} {text rest : List Char}

/-- What is left behind a separator. -/
theorem separated_suffix {c : Char} {after : List Char} (h : Text.skipBlanks text = c :: after) :
    after <:+ text := by
  refine List.IsSuffix.trans ?_ (List.dropWhile_suffix Text.isBlank)
  rw [show text.dropWhile Text.isBlank = c :: after from h]
  exact List.suffix_cons c after

theorem run_suffix {allowed : Char → Bool} {skip : Nat} {run : Run}
    (h : takeRun source allowed skip text = .ok run) : run.rest <:+ text :=
  ⟨run.text, take_run_parts h⟩

theorem path_suffix {what : Expectation} {path : String}
    (h : readPath source what text = .ok (path, rest)) : rest <:+ text :=
  ⟨path.toList, (read_path_parts h).1⟩

theorem fields_suffix {fields : List String} (h : readFields source text = .ok (fields, rest)) :
    rest <:+ text := by
  fun_induction readFields source text generalizing fields rest with
  | case1 => cases h
  | case2 => cases h
  | case3 text field middle hp after hs hlt more left hm ih =>
    cases h
    exact (ih hm).trans
      ((separated_suffix hs).trans ((path_suffix hp).trans (List.dropWhile_suffix _)))
  | case4 text field middle hp after hs =>
    cases h
    exact (separated_suffix hs).trans ((path_suffix hp).trans (List.dropWhile_suffix _))
  | case5 => cases h

theorem more_terms_suffix {terms : List SortTerm}
    (h : readMoreTerms source text = .ok (terms, rest)) : rest <:+ text := by
  fun_induction readMoreTerms source text generalizing terms rest with
  | case1 =>
    cases h
    exact List.suffix_rfl
  | case2 => cases h
  | case3 => cases h
  | case4 text order ho key middle hp hlt more after hm ih =>
    cases h
    exact (ih hm).trans ((path_suffix hp).trans (List.drop_suffix 1 text))

theorem terms_suffix {terms : List SortTerm} (h : readTerms source text = .ok (terms, rest)) :
    rest <:+ text := by
  unfold readTerms at h
  split at h
  · exact more_terms_suffix h
  · split at h
    · cases h
    · rename_i key middle hp
      split at h
      · cases h
      · rename_i more after hm
        cases h
        exact (more_terms_suffix hm).trans (path_suffix hp)

theorem limit_suffix {limit : String} (h : readLimit source text = .ok (limit, rest)) :
    rest <:+ text := by
  unfold readLimit at h
  dsimp only at h
  generalize (if (SortOrder.ofSign? text.head?).isSome then 1 else 0) = signLength at h
  split at h
  · cases h
  · rename_i run hrun
    split at h
    · cases h
    · cases h
      exact (run_suffix hrun).trans (List.drop_suffix _ text)

theorem equals_suffix (h : readEquals text = .ok rest) : rest <:+ text := by
  unfold readEquals at h
  split at h
  · rename_i after hs
    cases h
    exact (List.dropWhile_suffix _).trans (separated_suffix hs)
  · cases h

theorem option_suffix {sorted limited : Bool} {option : QueryOption}
    (h : readOption source sorted limited text = .ok (option, rest)) : rest <:+ text := by
  unfold readOption at h
  split at h
  · rename_i after
    split at h
    · cases h
    · obtain ⟨start, he, h⟩ := bind_eq_ok h
      obtain ⟨⟨terms, left⟩, ht, h⟩ := bind_eq_ok h
      cases h
      exact (terms_suffix ht).trans
        ((equals_suffix he).trans (List.suffix_append "sort".toList after))
  · rename_i after
    split at h
    · cases h
    · obtain ⟨start, he, h⟩ := bind_eq_ok h
      obtain ⟨⟨limit, left⟩, hl, h⟩ := bind_eq_ok h
      cases h
      exact (limit_suffix hl).trans
        ((equals_suffix he).trans (List.suffix_append "limit".toList after))
  · cases h

theorem options_suffix {query result : Query}
    (h : readOptions source query text = .ok (result, rest)) : rest <:+ text := by
  fun_induction readOptions source query text generalizing result rest with
  | case1 => cases h
  | case2 query text option middle ho after hs hlt ih =>
    exact (ih h).trans
      ((separated_suffix hs).trans ((option_suffix ho).trans (List.dropWhile_suffix _)))
  | case3 query text option middle ho after hs =>
    cases h
    exact (separated_suffix hs).trans ((option_suffix ho).trans (List.dropWhile_suffix _))
  | case4 => cases h

theorem collection_suffix {collection : Option String}
    (h : readCollection text = (collection, rest)) : rest <:+ text := by
  unfold readCollection at h
  dsimp only at h
  split at h
  · rename_i after hd
    split at h
    · cases h
      exact List.suffix_rfl
    · cases h
      exact (hd ▸ List.suffix_cons ':' rest : rest <:+ text.dropWhile isCollectionChar).trans
        (List.dropWhile_suffix _)
  · cases h
    exact List.suffix_rfl

theorem field_clause_suffix {query result : Query}
    (h : readFieldClause source query text = .ok (result, rest)) : rest <:+ text := by
  unfold readFieldClause at h
  split at h
  · obtain ⟨⟨fields, left⟩, hf, h⟩ := map_eq_ok h
    cases h
    exact (fields_suffix hf).trans (List.suffix_cons _ _)
  · cases h
    exact List.suffix_rfl

theorem option_clause_suffix {query result : Query}
    (h : readOptionClause source query text = .ok (result, rest)) : rest <:+ text := by
  unfold readOptionClause at h
  split at h
  · exact (options_suffix h).trans (List.suffix_cons _ _)
  · cases h
    exact List.suffix_rfl

theorem separated_proper {c : Char} {after : List Char} (h : Text.skipBlanks text = c :: after) :
    ProperSuffix after text := by
  have hskipped : ProperSuffix after (Text.skipBlanks text) := by
    rw [h]
    exact proper_suffix_cons c after
  exact hskipped.trans_suffix (skip_blanks_suffix text)

theorem path_proper {what : Expectation} {path : String}
    (h : readPath source what text = .ok (path, rest)) : ProperSuffix rest text :=
  ⟨path_suffix h, read_path_length_lt h⟩

theorem option_proper {sorted limited : Bool} {option : QueryOption}
    (h : readOption source sorted limited text = .ok (option, rest)) : ProperSuffix rest text :=
  ⟨option_suffix h, read_option_length_lt h⟩

theorem regex_suffix {value : Literal} (h : readRegex text = .ok (value, rest)) :
    rest <:+ text := by
  obtain ⟨taken, rfl, _⟩ := read_regex_append h
  exact List.suffix_append taken rest

theorem word_suffix {value : Literal} (h : readWord source text = .ok (value, rest)) :
    rest <:+ text := by
  unfold readWord at h
  split at h
  · cases h
  · rename_i run hrun
    split at h
    · cases h
    · split at h <;> cases h <;> exact run_suffix hrun

theorem quoted_suffix {quote : Char} {characters : List Char}
    (h : readQuoted quote text = some (characters, rest)) : rest <:+ text := by
  obtain ⟨taken, rfl, _⟩ := read_quoted_append h
  exact List.suffix_append taken rest

theorem value_suffix {value : Literal} (h : readValue source text = .ok (value, rest)) :
    rest <:+ text := by
  unfold readValue at h
  split at h
  · exact (regex_suffix h).trans (List.suffix_cons _ _)
  · split at h
    · split at h
      · rename_i characters after hq
        cases h
        exact (quoted_suffix hq).trans (List.suffix_cons _ _)
      · cases h
    · exact word_suffix h
  · exact word_suffix h

theorem comparator_suffix {comparator : Comparator}
    (h : readComparator text = .ok (comparator, rest)) : rest <:+ text := by
  obtain ⟨symbol, _, rfl, _⟩ := read_comparator_append h
  exact List.suffix_append _ rest

theorem condition_suffix {condition : Condition}
    (h : readCondition source text = .ok (condition, rest)) : rest <:+ text := by
  obtain ⟨afterKey, afterComparator, hk, hc, hv, _⟩ := read_condition_iff.mp h
  calc rest <:+ Text.skipBlanks afterComparator := value_suffix hv
    _ <:+ afterComparator := skip_blanks_suffix _
    _ <:+ Text.skipBlanks afterKey := comparator_suffix hc
    _ <:+ afterKey := skip_blanks_suffix _
    _ <:+ text := path_suffix hk

theorem connective_suffix {connective : Connective}
    (h : readConnective? text = some (connective, rest)) : rest <:+ text := by
  unfold readConnective? at h
  split at h <;> cases h
  · exact List.suffix_append ['&', '&'] rest
  · exact List.suffix_append ['&'] rest
  · exact List.suffix_append ['|', '|'] rest
  · exact List.suffix_append ['|'] rest

theorem connective_proper {connective : Connective}
    (h : readConnective? (Text.skipBlanks text) = some (connective, rest)) :
    ProperSuffix rest text :=
  ProperSuffix.trans_suffix ⟨connective_suffix h, read_connective_length_lt h⟩
    (skip_blanks_suffix text)

/-- Operands and groups start one another on shorter texts, so both are settled by one induction. -/
theorem operand_group_suffix (source : Source) (text : List Char) :
    (∀ tree rest, operand source text = .ok (tree, rest) → rest <:+ text) ∧
    (∀ alternatives current tree rest, group source alternatives current text = .ok (tree, rest) →
      rest <:+ text) := by
  induction hn : text.length using Nat.strongRecOn generalizing text with
  | ind n ih =>
    subst hn
    refine ⟨fun tree rest h => ?_, fun alternatives current tree rest h => ?_⟩
    · by_cases hp : ∃ inner, Text.skipBlanks text = '(' :: inner
      · obtain ⟨inner, hp⟩ := hp
        have hinner := separated_proper hp
        rw [operand_open hp] at h
        obtain ⟨⟨first, tail⟩, hf, hg⟩ := bind_eq_ok h
        have htail : ProperSuffix tail text :=
          ProperSuffix.of_suffix ((ih _ hinner.2 inner rfl).1 first tail hf) hinner
        exact ((ih _ htail.2 tail rfl).2 none first tree rest hg).trans htail.1
      · rw [operand_condition (not_exists.mp hp)] at h
        obtain ⟨⟨condition, tail⟩, hc, h⟩ := map_eq_ok h
        cases h
        exact (condition_suffix hc).trans (skip_blanks_suffix text)
    · rcases group_cases h with ⟨connective, after, hc⟩ | ⟨after, hp⟩
      · have hafter := connective_proper hc
        rw [group_join hc] at h
        obtain ⟨⟨next, tail⟩, hnext, hg⟩ := bind_eq_ok h
        have htail : ProperSuffix tail text :=
          ProperSuffix.of_suffix ((ih _ hafter.2 after rfl).1 next tail hnext) hafter
        exact ((ih _ htail.2 tail rfl).2 _ _ tree rest hg).trans htail.1
      · rw [group_close hp] at h
        cases h
        exact separated_suffix hp

theorem operand_proper {tree : FilterTree} (h : operand source text = .ok (tree, rest)) :
    ProperSuffix rest text :=
  ⟨(operand_group_suffix source text).1 tree rest h, operand_length_lt h⟩

theorem more_filters_suffix {before tree : FilterTree}
    (h : readMoreFilters source before text = .ok (tree, rest)) : rest <:+ text := by
  induction hn : text.length using Nat.strongRecOn generalizing text before with
  | ind n ih =>
    subst hn
    cases hc : readConnective? (Text.skipBlanks text) with
    | none =>
      rw [more_filters_end hc] at h
      cases h
      exact skip_blanks_suffix text
    | some found =>
      obtain ⟨connective, after⟩ := found
      rw [more_filters_join hc] at h
      obtain ⟨⟨next, tail⟩, hnext, h⟩ := bind_eq_ok h
      have htail : ProperSuffix tail text := (operand_proper hnext).trans (connective_proper hc)
      exact (ih _ htail.2 h rfl).trans htail.1

theorem filters_proper {tree : FilterTree} (h : readFilters source text = .ok (tree, rest)) :
    ProperSuffix rest text := by
  rw [filters_eq] at h
  obtain ⟨first, hfirst, h⟩ := bind_eq_ok h
  exact .of_suffix (more_filters_suffix h) (operand_proper hfirst)

end Suffixes
end PathQuery
