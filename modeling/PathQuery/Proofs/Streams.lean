import PathQuery.Filter.Stream

namespace PathQuery

namespace FilterTree

/-- The value of a tree whose conditions may have none; the first of them from the left decides the
error. -/
def tryFold {α : Type} (leaf : Condition → Except Error α) (combine : Connective → α → α → α) :
    FilterTree → Except Error α
  | .leaf condition => leaf condition
  | .join connective left right => do
    let a ← left.tryFold leaf combine
    let b ← right.tryFold leaf combine
    return combine connective a b

/-- If all conditions of a tree have values, so has the tree. -/
theorem try_fold_values {α : Type} {leaf : Condition → Except Error α} {value : Condition → α}
    {combine : Connective → α → α → α} {tree : FilterTree}
    (h : ∀ condition, .condition condition ∈ tree.tokens → leaf condition = .ok (value condition)) :
    tree.tryFold leaf combine = .ok (tree.fold value combine) := by
  induction tree with
  | leaf condition => exact h condition (List.mem_singleton_self _)
  | join connective left right ihl ihr =>
    have hl := ihl fun condition hm => h condition (by simp [tokens, hm])
    have hr := ihr fun condition hm => h condition (by simp [tokens, hm])
    rw [tryFold, hl, hr]
    rfl

theorem try_fold_ok {α : Type} (leaf : Condition → α) (combine : Connective → α → α → α)
    (tree : FilterTree) :
    tree.tryFold (fun condition => .ok (leaf condition)) combine = .ok (tree.fold leaf combine) :=
  try_fold_values fun _ _ => rfl

/-- If a tree has no value, one of its conditions has none. -/
theorem try_fold_error {α : Type} {leaf : Condition → Except Error α}
    {combine : Connective → α → α → α} {e : Error}
    {tree : FilterTree} (h : tree.tryFold leaf combine = .error e) :
    ∃ condition, .condition condition ∈ tree.tokens ∧ leaf condition = .error e := by
  induction tree with
  | leaf condition => exact ⟨condition, List.mem_singleton_self _, h⟩
  | join connective left right ihl ihr =>
    rw [tryFold] at h
    cases hl : left.tryFold leaf combine with
    | error el =>
      rw [hl] at h
      cases h
      obtain ⟨condition, hm, hc⟩ := ihl hl
      exact ⟨condition, by simp [tokens, hm], hc⟩
    | ok a =>
      cases hr : right.tryFold leaf combine with
      | error er =>
        rw [hl, hr] at h
        cases h
        obtain ⟨condition, hm, hc⟩ := ihr hr
        exact ⟨condition, by simp [tokens, hm], hc⟩
      | ok b =>
        rw [hl, hr] at h
        cases h

/-- A tree with a value has one for each condition. -/
theorem leaf_of_try_fold {α : Type} {leaf : Condition → Except Error α}
    {combine : Connective → α → α → α} {value : α}
    {tree : FilterTree} (h : tree.tryFold leaf combine = .ok value) {condition : Condition}
    (hm : .condition condition ∈ tree.tokens) : ∃ part, leaf condition = .ok part := by
  induction tree generalizing value with
  | leaf c =>
    cases List.mem_singleton.mp hm
    exact ⟨value, h⟩
  | join connective left right ihl ihr =>
    rw [tryFold] at h
    simp only [tokens, List.mem_append, List.mem_singleton, reduceCtorEq, or_false] at hm
    cases hl : left.tryFold leaf combine with
    | error e =>
      rw [hl] at h
      cases h
    | ok a =>
      cases hr : right.tryFold leaf combine with
      | error e =>
        rw [hl, hr] at h
        cases h
      | ok b =>
        rcases hm with hm | hm
        · exact ihl hl hm
        · exact ihr hr hm

/-- Folding a tree by its own parts gives the tree. -/
theorem fold_join (tree : FilterTree) : tree.fold .leaf .join = tree := by
  induction tree with
  | leaf condition => rfl
  | join connective left right ihl ihr => simp [fold, ihl, ihr]

theorem tokens_ne_nil (tree : FilterTree) : tree.tokens ≠ [] := by
  cases tree <;> simp [tokens]

/-- Every condition of a tree has a property. -/
def All (p : Condition → Prop) : FilterTree → Prop
  | .leaf condition => p condition
  | .join _ left right => left.All p ∧ right.All p

theorem all_iff {p : Condition → Prop} {tree : FilterTree} :
    tree.All p ↔ ∀ condition, .condition condition ∈ tree.tokens → p condition := by
  induction tree with
  | leaf condition => simp [All, tokens]
  | join connective left right ihl ihr =>
    simp only [All, ihl, ihr, tokens, List.mem_append, List.mem_singleton, reduceCtorEq, or_false]
    constructor
    · rintro ⟨hl, hr⟩ condition (hm | hm)
      · exact hl condition hm
      · exact hr condition hm
    · intro h
      exact ⟨fun condition hm => h condition (.inl hm), fun condition hm => h condition (.inr hm)⟩

end FilterTree

namespace FilterStream

/-- A stream, from a height of the stack on, without the connectives that find a single value. -/
def strictFrom : Nat → List FilterToken → List FilterToken
  | _, [] => []
  | height, .condition condition :: rest => .condition condition :: strictFrom (height + 1) rest
  | height, .connective connective :: rest =>
    if height = 1 then strictFrom 1 rest else .connective connective :: strictFrom (height - 1) rest

/-- A stream without the connectives that find a single value. -/
def strict (tokens : List FilterToken) : List FilterToken :=
  strictFrom 0 tokens

/-- The streams of trees on a stack, the lowest first. -/
def stackTokens : List FilterTree → List FilterToken
  | [] => []
  | top :: stack => stackTokens stack ++ top.tokens

/-- The values of trees on a stack, the lowest first. -/
def stackValues {α : Type} (leaf : Condition → Except Error α) (combine : Connective → α → α → α) :
    List FilterTree → Except Error (List α)
  | [] => .ok []
  | top :: stack => do
    let values ← stackValues leaf combine stack
    let value ← top.tryFold leaf combine
    return value :: values

/-- A tree that a stream, run on a stack of trees, leaves as its only value. -/
structure Leaves (index : Nat) (stack : List FilterTree) (tokens : List FilterToken)
    (tree : FilterTree) : Prop where
  stream : tree.tokens = stackTokens stack ++ strictFrom stack.length tokens
  value : ∀ {α : Type} (leaf : Condition → Except Error α) (combine : Connective → α → α → α),
    (stackValues leaf combine stack).bind (foldFrom leaf combine index · tokens) =
      tree.tryFold leaf combine

namespace Leaves

variable {index : Nat} {stack : List FilterTree} {rest : List FilterToken} {tree : FilterTree}

theorem push {condition : Condition} (h : Leaves (index + 1) (.leaf condition :: stack) rest tree) :
    Leaves index stack (.condition condition :: rest) tree where
  stream := by
    rw [h.stream]
    simp [stackTokens, strictFrom, FilterTree.tokens]
  value := by
    intro α leaf combine
    rw [← h.value leaf combine, stackValues]
    cases stackValues leaf combine stack with
    | error e => rfl
    | ok values =>
      simp only [FilterTree.tryFold]
      cases hl : leaf condition <;> simp [hl, foldFrom, bind, Except.bind, pure, Except.pure]

theorem skip {only : FilterTree} {connective : Connective}
    (h : Leaves (index + 1) [only] rest tree) :
    Leaves index [only] (.connective connective :: rest) tree where
  stream := by
    rw [h.stream]
    rfl
  value := by
    intro α leaf combine
    rw [← h.value leaf combine, stackValues]
    cases only.tryFold leaf combine <;>
      simp [stackValues, foldFrom, bind, Except.bind, pure, Except.pure]

theorem join {left right : FilterTree} {connective : Connective}
    (h : Leaves (index + 1) (.join connective left right :: stack) rest tree) :
    Leaves index (right :: left :: stack) (.connective connective :: rest) tree where
  stream := by
    rw [h.stream]
    simp [stackTokens, strictFrom, FilterTree.tokens]
  value := by
    intro α leaf combine
    rw [← h.value leaf combine, stackValues, stackValues, stackValues, FilterTree.tryFold]
    cases stackValues leaf combine stack with
    | error e => rfl
    | ok values =>
      cases left.tryFold leaf combine with
      | error e => rfl
      | ok a => cases right.tryFold leaf combine <;> rfl

end Leaves

/-- A sound stream leaves one tree. -/
theorem exists_leaves {tokens : List FilterToken} {index deepest depth : Nat}
    {stack : List FilterTree}
    (h : checkFrom index stack.length deepest tokens = .ok depth) :
    ∃ tree, Leaves index stack tokens tree := by
  induction tokens generalizing index deepest stack with
  | nil =>
    match stack, h with
    | [tree], _ =>
      refine ⟨tree, ?_, ?_⟩
      · simp [stackTokens, strictFrom]
      · intro α leaf combine
        cases hv : tree.tryFold leaf combine <;>
          simp [hv, stackValues, foldFrom, bind, Except.bind, pure, Except.pure]
    | [], h => cases h
    | _ :: _ :: _, h => simp [checkFrom] at h
  | cons token rest ih =>
    cases token with
    | condition condition =>
      obtain ⟨tree, ht⟩ := @ih _ _ (.leaf condition :: stack) h
      exact ⟨tree, ht.push⟩
    | connective connective =>
      match stack, h with
      | [], h => cases h
      | [only], h =>
        obtain ⟨tree, ht⟩ := @ih _ _ [only] h
        exact ⟨tree, ht.skip⟩
      | right :: left :: stack, h =>
        obtain ⟨tree, ht⟩ := @ih _ _ (.join connective left right :: stack) h
        exact ⟨tree, ht.join⟩

theorem check_from_of_check {tokens : List FilterToken} {depth : Nat}
    (h : check tokens = .ok depth) : checkFrom 0 0 0 tokens = .ok depth := by
  unfold check at h
  split at h
  · cases h
  · exact h

/-- A sound stream stands for a tree. -/
theorem exists_tree {tokens : List FilterToken} {depth : Nat} (h : check tokens = .ok depth) :
    ∃ tree : FilterTree, tree.tokens = strict tokens ∧
      ∀ {α : Type} (leaf : Condition → Except Error α) (combine : Connective → α → α → α),
        fold leaf combine tokens = tree.tryFold leaf combine := by
  obtain ⟨tree, ht⟩ := @exists_leaves tokens 0 0 depth [] (check_from_of_check h)
  refine ⟨tree, ht.stream, ?_⟩
  intro α leaf combine
  rw [← ht.value leaf combine]
  unfold fold
  rw [h]
  rfl

theorem check_from_tree (tree : FilterTree) (index height deepest : Nat) (rest : List FilterToken) :
    ∃ index' deepest', checkFrom index height deepest (tree.tokens ++ rest) =
      checkFrom index' (height + 1) deepest' rest := by
  induction tree generalizing index height deepest rest with
  | leaf condition => exact ⟨_, _, rfl⟩
  | join connective left right ihl ihr =>
    rw [FilterTree.tokens, List.append_assoc, List.append_assoc]
    obtain ⟨index', deepest', hl⟩ :=
      ihl index height deepest (right.tokens ++ ([.connective connective] ++ rest))
    obtain ⟨index'', deepest'', hr⟩ :=
      ihr index' (height + 1) deepest' ([.connective connective] ++ rest)
    rw [hl, hr]
    exact ⟨_, _, rfl⟩

/-- The stream of a tree is sound. -/
theorem check_tree (tree : FilterTree) : ∃ depth, check tree.tokens = .ok depth := by
  obtain ⟨index, deepest, h⟩ := check_from_tree tree 0 0 0 []
  rw [List.append_nil] at h
  refine ⟨deepest, ?_⟩
  unfold check
  rw [if_neg tree.tokens_ne_nil, h]
  rfl

/-- Running the stream of a tree adds the value of the tree to the stack, whatever is on it and
whatever comes later. -/
theorem fold_from_tree {α : Type} (leaf : Condition → Except Error α)
    (combine : Connective → α → α → α)
    (tree : FilterTree) (index : Nat) (stack : List α) (rest : List FilterToken) :
    foldFrom leaf combine index stack (tree.tokens ++ rest) =
      (tree.tryFold leaf combine).bind fun value =>
      foldFrom leaf combine (index + tree.tokens.length) (value :: stack) rest := by
  induction tree generalizing index stack rest with
  | leaf condition =>
    simp only [FilterTree.tokens, FilterTree.tryFold, List.singleton_append,
      List.length_singleton, foldFrom]
    cases leaf condition <;> rfl
  | join connective left right ihl ihr =>
    simp only [FilterTree.tokens, FilterTree.tryFold, List.append_assoc, ihl, ihr]
    cases left.tryFold leaf combine with
    | error e => rfl
    | ok a =>
      cases right.tryFold leaf combine with
      | error e => rfl
      | ok b => simp [foldFrom, bind, Except.bind, pure, Except.pure, Nat.add_assoc]

/-- Two trees with the same stream are the same: each is what its stream folds to by its own
parts. -/
theorem tokens_injective {tree other : FilterTree} (h : tree.tokens = other.tokens) :
    tree = other := by
  have hfold : ∀ t : FilterTree,
      foldFrom (fun condition => .ok (.leaf condition)) FilterTree.join 0 [] t.tokens = .ok t := by
    intro t
    have := fold_from_tree (fun condition => .ok (.leaf condition)) FilterTree.join t 0 [] []
    rw [List.append_nil, FilterTree.try_fold_ok, FilterTree.fold_join] at this
    exact this
  have ht := hfold tree
  rw [h, hfold other] at ht
  injection ht with ht
  exact ht.symm

theorem strict_from_tree (tree : FilterTree) (height : Nat) (rest : List FilterToken) :
    strictFrom height (tree.tokens ++ rest) = tree.tokens ++ strictFrom (height + 1) rest := by
  induction tree generalizing height rest with
  | leaf condition => rfl
  | join connective left right ihl ihr =>
    rw [FilterTree.tokens, List.append_assoc, List.append_assoc, ihl, ihr]
    simp [strictFrom]

/-- In the stream of a tree every connective finds two values. -/
theorem strict_tree (tree : FilterTree) : strict tree.tokens = tree.tokens := by
  have := strict_from_tree tree 0 []
  rwa [List.append_nil, strictFrom, List.append_nil] at this

theorem condition_mem_strict_from {condition : Condition} {tokens : List FilterToken}
    {height : Nat} :
    .condition condition ∈ strictFrom height tokens ↔ .condition condition ∈ tokens := by
  fun_induction strictFrom height tokens with
  | case1 => rfl
  | case2 height c rest ih => simp [ih]
  | case3 connective rest ih => simp [ih]
  | case4 height connective rest hh ih => simp [ih]

/-- No condition is deleted. -/
theorem condition_mem_strict {condition : Condition} {tokens : List FilterToken} :
    .condition condition ∈ strict tokens ↔ .condition condition ∈ tokens :=
  condition_mem_strict_from

/-- The first condition without a value ends the run with its error. The height of the stack is what
the check follows, so no connective before it is without operands. -/
theorem fold_from_first_error {α : Type} {leaf : Condition → Except Error α}
    {combine : Connective → α → α → α}
    {earlier later : List FilterToken} {condition : Condition} {e : Error}
    (hearlier : ∀ c, .condition c ∈ earlier → ∃ value, leaf c = .ok value)
    (hl : leaf condition = .error e) {place index deepest depth : Nat} {stack : List α}
    (hc : checkFrom place stack.length deepest (earlier ++ .condition condition :: later) =
      .ok depth) :
    foldFrom leaf combine index stack (earlier ++ .condition condition :: later) = .error e := by
  induction earlier generalizing place index deepest stack with
  | nil => simp [foldFrom, hl]
  | cons token earlier ih =>
    have hrest : ∀ c, .condition c ∈ earlier → ∃ value, leaf c = .ok value := by
      intro c hm
      exact hearlier c (List.mem_cons_of_mem token hm)
    cases token with
    | condition c =>
      obtain ⟨value, hv⟩ := hearlier c List.mem_cons_self
      simp only [List.cons_append, foldFrom, hv]
      exact @ih hrest _ _ _ (value :: stack) hc
    | connective connective =>
      match stack, hc with
      | [], hc => cases hc
      | [only], hc => exact @ih hrest _ _ _ [only] hc
      | right :: left :: stack, hc =>
        exact @ih hrest _ _ _ (combine connective left right :: stack) hc

/-- If a sound stream has no value, one of its conditions has none. -/
theorem fold_error {α : Type} {leaf : Condition → Except Error α} {combine : Connective → α → α → α}
    {tokens : List FilterToken} {depth : Nat} {e : Error} (hc : check tokens = .ok depth)
    (h : fold leaf combine tokens = .error e) :
    ∃ condition, .condition condition ∈ tokens ∧ leaf condition = .error e := by
  obtain ⟨tree, ht, hfold⟩ := exists_tree hc
  rw [hfold] at h
  obtain ⟨condition, hm, hl⟩ := FilterTree.try_fold_error h
  rw [ht] at hm
  exact ⟨condition, condition_mem_strict.mp hm, hl⟩

/-- A sound stream with a value has one for each condition. -/
theorem leaf_of_fold {α : Type} {leaf : Condition → Except Error α}
    {combine : Connective → α → α → α}
    {tokens : List FilterToken} {depth : Nat} {value : α} (hc : check tokens = .ok depth)
    (h : fold leaf combine tokens = .ok value) {condition : Condition}
    (hm : .condition condition ∈ tokens) : ∃ part, leaf condition = .ok part := by
  obtain ⟨tree, ht, hfold⟩ := exists_tree hc
  rw [hfold] at h
  refine FilterTree.leaf_of_try_fold h ?_
  rw [ht]
  exact condition_mem_strict.mpr hm

end FilterStream
end PathQuery
