import Mathlib.Data.List.Forall2
import PathQuery.Proofs.Clauses
import PathQuery.Proofs.Streams
import PathQuery.Proofs.Values

namespace PathQuery

/-- Streams that are equal with numbers compared as numbers. -/
def SameTokens (xs ys : List FilterToken) : Prop :=
  List.Forall₂ (fun x y => x.same y = true) xs ys

theorem same_tokens_iff {xs ys : List FilterToken} :
    (xs.length == ys.length && (xs.zip ys).all fun (x, y) => x.same y) = true ↔
      SameTokens xs ys := by
  unfold SameTokens
  induction xs generalizing ys with
  | nil => cases ys <;> simp
  | cons x xs ih =>
    cases ys with
    | nil => simp
    | cons y ys =>
      rw [List.forall₂_cons, ← ih]
      simp
      tauto

theorem Query.same_iff {query : Query} {filters filters' : List FilterToken} :
    { query with filters := filters }.same { query with filters := filters' } = true ↔
      SameTokens filters filters' := by
  rw [← same_tokens_iff]
  simp [Query.same]

namespace FilterTree

/-- The text of a tree, and whether it is compound. -/
def text (tree : FilterTree) : FilterText :=
  tree.fold .ofCondition .join

theorem grouped_leaf (condition : Condition) :
    (leaf condition).text.grouped = condition.chars := rfl

theorem grouped_join (connective : Connective) (left right : FilterTree) :
    (join connective left right).text.grouped =
      '(' :: (left.text.grouped ++ [connective.symbol] ++ right.text.grouped ++ [')']) := rfl

/-- The tree that is read back. -/
def plain : FilterTree → FilterTree
  | .leaf condition => .leaf condition.plain
  | .join connective left right => .join connective left.plain right.plain

theorem plain_same {tree : FilterTree} (h : tree.All Condition.Readable) :
    SameTokens tree.plain.tokens tree.tokens := by
  induction tree with
  | leaf condition =>
    refine .cons ?_ .nil
    simp [FilterToken.same, Condition.plain, h.value.same]
  | join connective left right ihl ihr =>
    refine List.rel_append (List.rel_append (ihl h.1) (ihr h.2)) (.cons ?_ .nil)
    simp [FilterToken.same]

theorem join_text (connective : Connective) : JoinText connective [connective.symbol] :=
  ⟨[], [], Text.blank_nil, Text.blank_nil, .inl rfl⟩

/-- The text of a tree spells the tree, unless a comparator runs into its value. -/
theorem spells_text {tree : FilterTree} (h : tree.All Condition.Readable)
    (hg : tree.All fun condition => condition.isGlued = false) :
    Spells .item tree.text.grouped tree.plain := by
  induction tree with
  | leaf condition => exact .term ((h.read hg).alone _)
  | join connective left right ihl ihr =>
    have hl := ihl h.1 hg.1
    have hr := ihr h.2 hg.2
    have hd : Spells .disjunction (left.text.grouped ++ [connective.symbol] ++ right.text.grouped)
        (.join connective left.plain right.plain) := by
      cases connective with
      | and => exact .alternative (.both (.operand hl) (join_text .and) hr)
      | or => exact .either (.alternative (.operand hl)) (join_text .or) (.operand hr)
    have hgroup := Spells.group Text.blank_nil hd Text.blank_nil
    rwa [List.nil_append, List.append_nil] at hgroup

theorem text_opens {tree : FilterTree} (h : tree.All Condition.Readable) :
    Opens tree.text.grouped := by
  cases tree with
  | leaf condition =>
    obtain ⟨c, after, hc, hhead⟩ := read_path_head (h.key.alone [])
    refine ⟨c, after ++ condition.comparator.symbol.toList ++ condition.value.chars, ?_, ?_⟩
    · rw [grouped_leaf, Condition.chars, hc]
      rfl
    · rcases hhead with hhead | rfl
      · refine ⟨path_char_not_blank hhead, ?_, ?_⟩ <;> rintro rfl <;> cases hhead
      · decide
  | join connective left right => exact ⟨'(', _, rfl, by decide⟩

/-- The comparators of a tree from left to right. -/
def comparators : FilterTree → List Comparator
  | .leaf condition => [condition.comparator]
  | .join _ left right => left.comparators ++ right.comparators

theorem plain_comparators (tree : FilterTree) : tree.plain.comparators = tree.comparators := by
  induction tree with
  | leaf condition => rfl
  | join connective left right ihl ihr => rw [plain, comparators, comparators, ihl, ihr]

end FilterTree

/-- The comparator of a condition in a stream. -/
def FilterToken.comparator? : FilterToken → Option Comparator
  | .condition c => some c.comparator
  | .connective _ => none

theorem FilterTree.tokens_comparators (tree : FilterTree) :
    tree.tokens.filterMap FilterToken.comparator? = tree.comparators := by
  induction tree with
  | leaf condition => rfl
  | join connective left right ihl ihr =>
    simp [tokens, comparators, ihl, ihr, FilterToken.comparator?]

theorem SameTokens.comparators {xs ys : List FilterToken} (h : SameTokens xs ys) :
    xs.filterMap FilterToken.comparator? = ys.filterMap FilterToken.comparator? := by
  induction h with
  | nil => rfl
  | @cons x y xs ys hxy _ ih =>
    have hc : x.comparator? = y.comparator? := by
      cases x <;> cases y <;> simp_all [FilterToken.same, FilterToken.comparator?]
    rw [List.filterMap_cons, List.filterMap_cons, hc, ih]

/-- Two lists of comparators differ at one place. -/
def Diverge (xs ys : List Comparator) : Prop :=
  ∃ (i : Nat) (x y : Comparator), xs[i]? = some x ∧ ys[i]? = some y ∧ x ≠ y

namespace Diverge

variable {xs ys more more' : List Comparator}

theorem ne (h : Diverge xs ys) : xs ≠ ys := by
  rintro rfl
  obtain ⟨i, x, y, hx, hy, hne⟩ := h
  exact hne (Option.some.inj (hx.symm.trans hy))

theorem append (h : Diverge xs ys) : Diverge (xs ++ more) (ys ++ more') := by
  obtain ⟨i, x, y, hx, hy, hne⟩ := h
  refine ⟨i, x, y, ?_, ?_, hne⟩
  · rw [List.getElem?_append_left (List.getElem?_eq_some_iff.mp hx).1, hx]
  · rw [List.getElem?_append_left (List.getElem?_eq_some_iff.mp hy).1, hy]

theorem append_left (h : Diverge xs ys) : Diverge (more ++ xs) (more ++ ys) := by
  obtain ⟨i, x, y, hx, hy, hne⟩ := h
  refine ⟨more.length + i, x, y, ?_, ?_, hne⟩
  · rw [List.getElem?_append_right (by omega), Nat.add_sub_cancel_left, hx]
  · rw [List.getElem?_append_right (by omega), Nat.add_sub_cancel_left, hy]

end Diverge

theorem extend_group_comparators (alternatives : Option FilterTree) (current next : FilterTree)
    (connective : Connective) :
    (joinAlternatives (extendGroup alternatives current next connective).1
        (extendGroup alternatives current next connective).2).comparators =
      (joinAlternatives alternatives current).comparators ++ next.comparators := by
  cases connective <;> cases alternatives <;>
    simp [extendGroup, joinAlternatives, FilterTree.comparators]

/-- A group keeps the comparators read so far. -/
theorem group_comparators {source : Source} {alternatives : Option FilterTree}
    {current result : FilterTree}
    {text rest : List Char} (h : group source alternatives current text = .ok (result, rest)) :
    ∃ more, result.comparators = (joinAlternatives alternatives current).comparators ++ more := by
  induction hn : text.length using Nat.strongRecOn generalizing text alternatives current with
  | ind n ih =>
    subst hn
    rcases group_cases h with ⟨connective, after, hc⟩ | ⟨after, hp⟩
    · have hlen : after.length < text.length :=
        Nat.lt_of_lt_of_le (read_connective_length_lt hc) (Text.skip_blanks_length_le text)
      rw [group_join hc] at h
      obtain ⟨⟨next, tail⟩, hn, hrest⟩ := bind_eq_ok h
      obtain ⟨more, hmore⟩ := ih tail.length (Nat.lt_trans (operand_length_lt hn) hlen) hrest rfl
      refine ⟨next.comparators ++ more, ?_⟩
      rw [hmore, extend_group_comparators, List.append_assoc]
    · rw [group_close hp] at h
      cases h
      exact ⟨[], (List.append_nil _).symm⟩

/-- Further filters keep the comparators read so far. -/
theorem more_filters_comparators {source : Source} {before result : FilterTree}
    {text rest : List Char} (h : readMoreFilters source before text = .ok (result, rest)) :
    ∃ more, result.comparators = before.comparators ++ more := by
  induction hn : text.length using Nat.strongRecOn generalizing text before with
  | ind n ih =>
    subst hn
    cases hc : readConnective? (Text.skipBlanks text) with
    | none =>
      rw [more_filters_end hc] at h
      cases h
      exact ⟨[], (List.append_nil _).symm⟩
    | some found =>
      obtain ⟨connective, after⟩ := found
      have hlen : after.length < text.length :=
        Nat.lt_of_lt_of_le (read_connective_length_lt hc) (Text.skip_blanks_length_le text)
      rw [more_filters_join hc] at h
      obtain ⟨⟨next, tail⟩, hn, hrest⟩ := bind_eq_ok h
      obtain ⟨more, hmore⟩ := ih tail.length (Nat.lt_trans (operand_length_lt hn) hlen) hrest rfl
      refine ⟨next.comparators ++ more, ?_⟩
      rw [hmore, FilterTree.comparators, List.append_assoc]

/-- A tree in whose text a comparator runs into its value is never read back. -/
theorem operand_diverges {tree result : FilterTree} {source before rest after : List Char}
    (h : tree.All Condition.Readable) (hg : ¬tree.All fun condition => condition.isGlued = false)
    (hb : Text.Blank before)
    (hr : operand ⟨.braces, source⟩ (before ++ (tree.text.grouped ++ rest)) = .ok (result, after)) :
    Diverge result.comparators tree.comparators := by
  induction tree generalizing result before rest after with
  | leaf condition =>
    have hskip := skip_blanks_opens hb ((FilterTree.text_opens h).append rest)
    have hparen :
        ∀ inner, Text.skipBlanks (before ++ ((FilterTree.leaf condition).text.grouped ++ rest)) ≠
        '(' :: inner := by
      intro inner hi
      obtain ⟨c, tail, hc, hhead⟩ := read_path_head (h.key.alone [])
      rw [hskip] at hi
      rw [FilterTree.grouped_leaf, Condition.chars, hc] at hi
      cases hi
      rcases hhead with hhead | hhead <;> cases hhead
    rw [operand_condition hparen, hskip] at hr
    obtain ⟨⟨read, tail⟩, hread, he⟩ := map_eq_ok hr
    cases he
    have hglued : condition.isGlued = true := by
      rw [← Bool.not_eq_false]
      exact hg
    exact ⟨0, read.comparator, condition.comparator, rfl, rfl, h.read_glued hglued hread⟩
  | join connective left right ihl ihr =>
    have hopen :
        Text.skipBlanks (before ++ ((FilterTree.join connective left right).text.grouped ++ rest)) =
        '(' ::
          (left.text.grouped ++ ([connective.symbol] ++ (right.text.grouped ++ ')' :: rest))) := by
      rw [skip_blanks_opens hb ((FilterTree.text_opens h).append rest), FilterTree.grouped_join]
      simp
    rw [operand_open hopen] at hr
    obtain ⟨⟨first, tail⟩, hfirst, hgroup⟩ := bind_eq_ok hr
    by_cases hl : left.All fun condition => condition.isGlued = false
    · have hright : ¬right.All fun condition => condition.isGlued = false := fun hr => hg ⟨hl, hr⟩
      have hjoin := FilterTree.join_text connective
      have hread := (FilterTree.spells_text h.1 hl).reads source [] _ Text.blank_nil
        (hjoin.ends (right.text.grouped ++ ')' :: rest))
      rw [List.nil_append, hfirst] at hread
      cases hread
      obtain ⟨gap, hgap, hc⟩ := hjoin.read ((FilterTree.text_opens h.2).append (')' :: rest))
      rw [group_join hc] at hgroup
      obtain ⟨⟨next, tail⟩, hnext, hgroup⟩ := bind_eq_ok hgroup
      obtain ⟨more, hmore⟩ := group_comparators hgroup
      have hd : Diverge (left.comparators ++ next.comparators ++ more)
          (left.comparators ++ right.comparators ++ []) :=
        (ihr h.2 hright hgap hnext).append_left.append
      rw [List.append_nil] at hd
      rw [hmore, extend_group_comparators, joinAlternatives, FilterTree.plain_comparators]
      exact hd
    · obtain ⟨more, hmore⟩ := group_comparators hgroup
      rw [hmore]
      exact (ihl h.1 hl Text.blank_nil hfirst).append

/-- A query whose parts are read back from their own texts. -/
structure Query.Readable (query : Query) : Prop where
  clauses : query.ClauseTexts
  sound : query.filters = [] ∨ ∃ depth, FilterStream.check query.filters = .ok depth
  conditions : ∀ condition, .condition condition ∈ query.filters → condition.Readable

/-- The filters of a sound stream are printed as its tree. -/
theorem filter_chars_tree {tokens : List FilterToken} {depth : Nat}
    (h : FilterStream.check tokens = .ok depth) :
    ∃ tree : FilterTree, tree.tokens = FilterStream.strict tokens ∧
      filterChars? tokens = some tree.text.grouped := by
  obtain ⟨tree, ht, hfold⟩ := FilterStream.exists_tree h
  refine ⟨tree, ht, ?_⟩
  unfold filterChars?
  rw [hfold, FilterTree.try_fold_ok]
  rfl

theorem parse_render_eq (query : Query) :
    Query.parse query.render =
      (readQuery ⟨.braces, query.chars⟩).mapError (Failure.locate query.chars) := by
  unfold Query.parse Query.parseWith Query.render
  rw [String.toList_ofList]

namespace Query.Readable

variable {query : Query}

/-- Without filters nothing is left to read after the clauses. -/
theorem parse_nil (h : query.Readable) (hf : query.filters = []) :
    Query.parse query.render = .ok query := by
  have ht : query.filterClauseChars = [] := by
    unfold Query.filterClauseChars
    rw [hf]
    rfl
  rw [parse_render_eq, h.clauses.read, ht]
  show Except.ok { query with filters := [] } = Except.ok query
  rw [← hf]

/-- The tree of the filters, and how the text of the query is read from it. -/
theorem exists_tree (h : query.Readable) (hf : query.filters ≠ []) :
    ∃ tree : FilterTree, tree.tokens = FilterStream.strict query.filters ∧
      tree.All Condition.Readable ∧
      readQuery ⟨.braces, query.chars⟩ =
        (readFilters ⟨.braces, query.chars⟩ tree.text.grouped).bind fun result =>
          (expectEnd result.2).map fun _ => { query with filters := result.1.tokens } := by
  obtain ⟨depth, hc⟩ := h.sound.resolve_left hf
  obtain ⟨tree, ht, hchars⟩ := filter_chars_tree hc
  refine ⟨tree, ht, ?_, ?_⟩
  · refine FilterTree.all_iff.mpr fun condition hm => h.conditions condition ?_
    rw [ht] at hm
    exact FilterStream.condition_mem_strict.mp hm
  · have hclause : query.filterClauseChars = '?' :: tree.text.grouped := by
      unfold Query.filterClauseChars
      rw [hchars]
    rw [h.clauses.read, hclause]
    show ((readFilters ⟨.braces, query.chars⟩ tree.text.grouped).map _).bind _ = _
    cases readFilters ⟨.braces, query.chars⟩ tree.text.grouped with
    | error failure => rfl
    | ok result => rfl

/-- A readable query in which no comparator runs into its value is read back without the connectives
that find a single value. -/
theorem parse (h : query.Readable)
    (hg : ∀ condition, .condition condition ∈ query.filters → condition.isGlued = false) :
    ∃ result, Query.parse query.render = .ok result ∧
      result.same { query with filters := FilterStream.strict query.filters } = true := by
  by_cases hf : query.filters = []
  · refine ⟨query, h.parse_nil hf, ?_⟩
    have he : query = { query with filters := [] } := by rw [← hf]
    rw [hf]
    nth_rewrite 1 [he]
    rw [Query.same_iff]
    exact .nil
  · obtain ⟨tree, ht, hreadable, hread⟩ := h.exists_tree hf
    have hglued : tree.All fun condition => condition.isGlued = false := by
      refine FilterTree.all_iff.mpr fun condition hm => hg condition ?_
      rw [ht] at hm
      exact FilterStream.condition_mem_strict.mp hm
    have hspells : SpellsFilters tree.text.grouped tree.plain :=
      ⟨[], _, [], Text.blank_nil, Text.blank_nil, by simp,
        .first (FilterTree.spells_text hreadable hglued)⟩
    refine ⟨{ query with filters := tree.plain.tokens }, ?_, ?_⟩
    · rw [parse_render_eq, hread, hspells.read]
      rfl
    · rw [Query.same_iff, ← ht]
      exact FilterTree.plain_same hreadable

/-- A readable query in which a comparator runs into its value is not read back. -/
theorem not_same (h : query.Readable) {condition : Condition}
    (hm : .condition condition ∈ query.filters)
    (hg : condition.isGlued = true) {result : Query} (hr : Query.parse query.render = .ok result) :
    result.same { query with filters := FilterStream.strict query.filters } = false := by
  have hf : query.filters ≠ [] := List.ne_nil_of_mem hm
  obtain ⟨tree, ht, hreadable, hread⟩ := h.exists_tree hf
  have hglued : ¬tree.All fun condition => condition.isGlued = false := by
    intro hall
    have := FilterTree.all_iff.mp hall condition
      (by rw [ht]; exact FilterStream.condition_mem_strict.mpr hm)
    rw [hg] at this
    cases this
  have hq := map_error_eq_ok ((parse_render_eq query).symm.trans hr)
  rw [hread] at hq
  obtain ⟨⟨found, rest⟩, hfilters, hq⟩ := bind_eq_ok hq
  obtain ⟨_, _, rfl⟩ := map_eq_ok hq
  rw [filters_eq] at hfilters
  obtain ⟨⟨first, tail⟩, hfirst, hmore⟩ := bind_eq_ok hfilters
  obtain ⟨more, hmore⟩ := more_filters_comparators hmore
  have hdiverge : Diverge found.comparators tree.comparators := by
    have hd := @operand_diverges tree first query.chars [] [] tail hreadable hglued Text.blank_nil
      (by rw [List.append_nil]; exact hfirst)
    have hd' : Diverge (first.comparators ++ more) (tree.comparators ++ []) := hd.append
    rw [List.append_nil] at hd'
    rw [hmore]
    exact hd'
  rw [← Bool.not_eq_true, Query.same_iff, ← ht]
  intro hsame
  have hcomparators := hsame.comparators
  rw [FilterTree.tokens_comparators, FilterTree.tokens_comparators] at hcomparators
  exact hdiverge.ne hcomparators

end Query.Readable

/-- What holds of every condition that is read holds of the conditions of filters that are
spelled. -/
theorem Spells.conditions {p : Condition → Prop}
    (hp : ∀ {text condition}, readCondition ⟨.braces, text⟩ text = .ok (condition, []) →
      p condition) {phrase : Phrase}
    {text : List Char} {tree : FilterTree} (h : Spells phrase text tree) : tree.All p := by
  induction h with
  | term read => exact hp read
  | group _ _ _ ih => exact ih
  | operand _ ih => exact ih
  | both _ _ _ iha ihb => exact ⟨iha, ihb⟩
  | alternative _ ih => exact ih
  | either _ _ _ iha ihb => exact ⟨iha, ihb⟩
  | first _ ih => exact ih
  | next _ _ _ iha ihb => exact ⟨iha, ihb⟩

/-- A query that was read is readable, and each of its connectives finds two values. -/
theorem readable_of_parse {text : String} {query : Query} (h : Query.parse text = .ok query) :
    query.Readable ∧ FilterStream.strict query.filters = query.filters := by
  obtain ⟨hclauses, hfilters⟩ := read_query_texts (map_error_eq_ok h)
  rcases hfilters with hf | ⟨inner, tree, rest, hread, hf⟩
  · refine ⟨⟨hclauses, .inl hf, ?_⟩, by rw [hf]; rfl⟩
    rw [hf]
    rintro condition ⟨⟩
  · obtain ⟨_, spelled, _, _, _, _, hspells⟩ := filters_spelled hread
    refine ⟨⟨hclauses, .inr ?_, ?_⟩, ?_⟩
    · rw [hf]
      exact FilterStream.check_tree tree
    · rw [hf]
      exact FilterTree.all_iff.mp (hspells.conditions Condition.readable_of_read)
    · rw [hf, FilterStream.strict_tree]

/-- A query that was read is read back from its canonical text exactly if no comparator is printed
against a template that it runs into, as `>` before a template that starts with `=`. -/
theorem parse_render_iff_not_glued (text : String) (query : Query)
    (h : Query.parse text = .ok query) :
    (∃ result, Query.parse query.render = .ok result ∧ result.same query = true) ↔
      ∀ condition, .condition condition ∈ query.filters → condition.isGlued = false := by
  obtain ⟨hreadable, hstrict⟩ := readable_of_parse h
  have hquery : { query with filters := FilterStream.strict query.filters } = query := by
    rw [hstrict]
  constructor
  · rintro ⟨result, hresult, hsame⟩ condition hm
    by_contra hg
    have hno := hreadable.not_same hm (Bool.not_eq_false _ ▸ hg) hresult
    rw [hquery, hsame] at hno
    cases hno
  · intro hg
    have := hreadable.parse hg
    rwa [hquery] at this

theorem parse_render_group : ∃ query,
    Query.parse "c:/r\x7ba\x7d? n > \x7b\x7bx\x7d\x7d || (k~/d\\/e/i && s='q')" = .ok query ∧
      ∃ result, Query.parse query.render = .ok result ∧ result.same query = true := by
  have h : Query.parse "c:/r\x7ba\x7d? n > \x7b\x7bx\x7d\x7d || (k~/d\\/e/i && s='q')" =
      .ok ⟨some "c", "/r", ["a"], [.condition ⟨"n", .gt, .template "\x7b\x7bx\x7d\x7d"⟩,
        .condition ⟨"k", .matches, .regex "d/e" "i"⟩, .condition ⟨"s", .eq, .string "q"⟩,
        .connective .and, .connective .or], [], none⟩ := by
    decide +kernel
  refine ⟨_, h, (parse_render_iff_not_glued _ _ h).mpr ?_⟩
  intro condition hm
  simp only [List.mem_cons, List.not_mem_nil, reduceCtorEq, or_false,
    FilterToken.condition.injEq] at hm
  rcases hm with rfl | rfl | rfl <;> decide

/-- A template behind `>` that starts with `=` is printed as the value of `>=`. -/
theorem greater_template_not_read_back : ∃ query result,
    Query.parse "/r?a> =\x7b\x7bx\x7d\x7d" = .ok query ∧ Query.parse query.render = .ok result ∧
      result.same query = false :=
  ⟨⟨none, "/r", [], [.condition ⟨"a", .gt, .template "=\x7b\x7bx\x7d\x7d"⟩], [], none⟩,
    ⟨none, "/r", [], [.condition ⟨"a", .ge, .template "\x7b\x7bx\x7d\x7d"⟩], [], none⟩,
    by decide +kernel, by decide +kernel, by decide⟩

/-- What the value of a well-formed condition may be: no template, numbers among the finite doubles,
and patterns whose text can stand between slashes. -/
def Literal.WellFormed : Literal → Prop
  | .number n => n.isFinite = true
  | .regex pattern flags =>
    isWellEscaped pattern.toList = true ∧ ∀ c ∈ flags.toList, isRegexFlag c = true
  | .template _ => False
  | _ => True

structure Condition.WellFormed (condition : Condition) : Prop where
  key : isValidPath condition.key.toList = true
  value : condition.value.WellFormed
  admits : condition.comparator.admits condition.value = true

/-- A query without placeholders, read or built by hand. -/
structure Query.WellFormed (query : Query) : Prop where
  collection : ∀ name, query.collection = some name →
    name.toList ≠ [] ∧ ∀ c ∈ name.toList, isCollectionChar c = true
  path : query.path.toList.head? = some '/' ∧ ∀ c ∈ query.path.toList, isLocationChar c = true
  fields : ∀ field ∈ query.fields, isValidPath field.toList = true
  sort : ∀ term ∈ query.sort, isValidPath term.key.toList = true
  limit : ∀ limit, query.limit = some limit → (Number.readInt64? limit.toList).isSome = true
  filters : query.filters = [] ∨ ∃ depth, FilterStream.check query.filters = .ok depth
  conditions : ∀ condition, .condition condition ∈ query.filters → condition.WellFormed

theorem Literal.WellFormed.readable {value : Literal} (h : value.WellFormed) : value.Readable := by
  cases value with
  | null => exact readable_null
  | bool value => exact readable_bool value
  | number n =>
    exact readable_number h
  | string text => exact readable_string text
  | regex pattern flags => exact readable_regex h.1 h.2
  | template text => exact h.elim

theorem Condition.WellFormed.readable {condition : Condition} (h : condition.WellFormed) :
    condition.Readable :=
  ⟨valid_path_reads_as h.key .filterKey, h.value.readable, h.admits⟩

theorem Query.WellFormed.readable {query : Query} (h : query.WellFormed) : query.Readable where
  clauses := {
    collection := h.collection
    path := h.path
    fields := fun field hm => valid_path_reads_as (h.fields field hm) .fieldName
    sort := fun term hm => valid_path_reads_as (h.sort term hm) .sortField
    limit := fun limit hl => int64_limit (h.limit limit hl) }
  sound := h.filters
  conditions := fun condition hm => (h.conditions condition hm).readable

theorem Comparator.absorbs_eq {comparator : Comparator} {c : Char}
    (h : comparator.absorbs c = true) : c = '=' ∨ c = '>' := by
  cases comparator with
  | gt => exact .inl (of_decide_eq_true h)
  | lt =>
    simp only [absorbs, Bool.or_eq_true, decide_eq_true_eq] at h
    exact h
  | _ => cases h

/-- The text of a value that is no template starts with no character that a comparator could
take. -/
theorem Literal.WellFormed.head {value : Literal} (h : value.WellFormed) :
    ∃ c after, value.chars = c :: after ∧ c ≠ '=' ∧ c ≠ '>' := by
  cases value with
  | null => exact ⟨'n', _, rfl, by decide⟩
  | bool value =>
    cases value with
    | true => exact ⟨'t', _, rfl, by decide⟩
    | false => exact ⟨'f', _, rfl, by decide⟩
  | number n =>
    obtain ⟨c, tail, ht, hc⟩ := number_word_head (read_number_text h)
    refine ⟨c, tail, ht, ?_, ?_⟩
    all_goals
      intro he
      subst he
      cases hc
  | string text => exact ⟨'"', _, rfl, by decide⟩
  | regex pattern flags => exact ⟨'/', _, rfl, by decide⟩
  | template text => exact h.elim

theorem Condition.WellFormed.not_glued {condition : Condition} (h : condition.WellFormed) :
    condition.isGlued = false := by
  obtain ⟨c, after, hc, heq, hgt⟩ := h.value.head
  rw [← Bool.not_eq_true]
  intro hg
  unfold isGlued at hg
  rw [hc] at hg
  rcases Comparator.absorbs_eq hg with rfl | rfl
  · exact heq rfl
  · exact hgt rfl

/-- A well-formed query is read back from its canonical text, without the connectives that find a
single value. -/
theorem parse_render_of_wellFormed (query : Query) (h : query.WellFormed) :
    ∃ result, Query.parse query.render = .ok result ∧
      result.same { query with filters := FilterStream.strict query.filters } = true :=
  h.readable.parse fun condition hm => (h.conditions condition hm).not_glued

theorem parse_render_hand_built : ∃ query : Query,
    query = ⟨some "c-1", "/r", ["a.b"],
      [.condition ⟨"n", .lt, .number (.finite true 0 Binary64.fits_zero)⟩, .connective .and,
      .condition ⟨"k", .matches, .regex "a/\\d" "i"⟩, .connective .or], [⟨"b", .descending⟩],
        some "-5"⟩ ∧
    query.WellFormed ∧ ∃ result, Query.parse query.render = .ok result ∧
      result.same
        { query with filters := [.condition ⟨"n", .lt, .number (.finite true 0 Binary64.fits_zero)⟩,
        .condition ⟨"k", .matches, .regex "a/\\d" "i"⟩, .connective .or] } = true := by
  refine ⟨_, rfl, ?wellFormed, parse_render_of_wellFormed _ ?wellFormed⟩
  refine ⟨?_, ⟨rfl, List.all_eq_true.mp (by decide)⟩, by decide, by decide, ?_,
    .inr ⟨2, by decide⟩, ?_⟩
  · rintro name ⟨⟩
    exact ⟨by decide, List.all_eq_true.mp (by decide)⟩
  · rintro limit ⟨⟩
    decide
  · intro condition hm
    simp only [List.mem_cons, List.not_mem_nil, reduceCtorEq, or_false, FilterToken.condition.injEq,
      false_or] at hm
    rcases hm with rfl | rfl
    · exact ⟨by decide, rfl, rfl⟩
    · exact ⟨by decide, ⟨by decide, List.all_eq_true.mp (by decide)⟩, rfl⟩

end PathQuery
