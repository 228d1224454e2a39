import PathQuery.Proofs.ParsedQueries

namespace PathQuery

section Elements

variable {context : Context}

/-- A path that waits for nothing is a valid path, and stays. -/
theorem fill_path_constant {position : Position} {path : String}
    (h : IsTemplated path ∨ isValidPath path.toList = true) (hn : Marker.braces.names path = []) :
    fillPath (Marker.braces.fill context) position path = .ok path := by
  have hvalid : isValidPath path.toList = true := h.resolve_left fun ht => ht hn
  unfold fillPath
  rw [Marker.fill_without_names hn]
  simp [bind, Except.bind, pure, Except.pure, hvalid]

theorem Literal.fill_constant {value : Literal}
    (ht : ∀ text, value = .template text → IsTemplated text)
    (hn : ∀ leaf ∈ value.leaves, Marker.braces.names leaf = []) :
    value.fill (Marker.braces.fill context) = .ok value := by
  cases value with
  | string text =>
    simp only [Literal.fill, Marker.fill_without_names (hn text List.mem_cons_self)]
    rfl
  | regex pattern flags =>
    simp only [Literal.fill, Marker.fill_without_names (hn pattern List.mem_cons_self)]
    rfl
  | template text => exact absurd (hn text List.mem_cons_self) (ht text rfl)
  | _ => rfl

/-- The comparator goes with the value when the condition is read, and so it does when the condition
is filled in. -/
theorem Condition.Proper.fill_constant {condition : Condition} (h : condition.Proper)
    (hn : ∀ leaf ∈ condition.leaves, Marker.braces.names leaf = []) :
    condition.fill (Marker.braces.fill context) = .ok condition := by
  rw [Condition.leaves_eq, List.forall_mem_append, List.forall_mem_singleton] at hn
  unfold Condition.fill
  rw [fill_path_constant h.key hn.1, Literal.fill_constant h.template hn.2]
  simp [bind, Except.bind, pure, Except.pure, h.admits]

theorem FilterToken.fill_constant {token : FilterToken}
    (h : ∀ condition, token = .condition condition → condition.Proper)
    (hn : ∀ leaf ∈ token.leaves, Marker.braces.names leaf = []) :
    token.fill (Marker.braces.fill context) = .ok token := by
  cases token with
  | condition c =>
    simp only [FilterToken.fill, (h c rfl).fill_constant hn]
    rfl
  | connective => rfl

theorem SortTerm.fill_constant {term : SortTerm}
    (h : IsTemplated term.key ∨ isValidPath term.key.toList = true)
    (hn : Marker.braces.names term.key = []) :
    term.fill (Marker.braces.fill context) = .ok term := by
  unfold SortTerm.fill
  rw [fill_path_constant h hn]
  rfl

end Elements

section Clauses

variable {α β : Type}

theorem mapM_eq_self {f : α → Except Error α} {xs : List α} (h : ∀ x ∈ xs, f x = .ok x) :
    xs.mapM f = .ok xs := by
  induction xs with
  | nil => rfl
  | cons x xs ih =>
    rw [List.mapM_cons, h x List.mem_cons_self, ih fun y hy => h y (List.mem_cons_of_mem x hy)]
    rfl

/-- Each part that is made stands where the part it is made of stood. -/
theorem getElem_of_mapM {f : α → Except Error β} {xs : List α} {ys : List β}
    (h : xs.mapM f = .ok ys) {i : Nat} {x : α}
    {y : β} (hi : xs[i]? = some x) (hx : f x = .ok y) : ys[i]? = some y := by
  have hall := forall₂_of_mapM h
  clear h
  induction hall generalizing i with
  | nil => cases hi
  | cons hy _ ih =>
    cases i with
    | zero =>
      cases hi
      rw [hx] at hy
      cases hy
      rfl
    | succ i => exact ih hi

/-- A clause is filled in element by element, and each element brings its own leaves. -/
class ElementwiseClause (α : Type) [Clause (List α)] where
  fillOne : (String → Except Error String) → α → Except Error α
  substitute_eq : ∀ fill (elements : List α),
    Clause.substitute fill elements = elements.mapM (fillOne fill)
  leaves_subset : ∀ {element : α} {elements : List α}, element ∈ elements →
    Clause.leaves [element] ⊆ Clause.leaves elements

instance : ElementwiseClause String where
  fillOne fill field := fillPath fill .fieldPath field
  substitute_eq _ _ := rfl
  leaves_subset hm := by
    intro leaf hl
    rw [List.mem_singleton.mp hl]
    exact hm

instance : ElementwiseClause SortTerm where
  fillOne := SortTerm.fill
  substitute_eq _ _ := rfl
  leaves_subset hm := by
    intro leaf hl
    rw [List.mem_singleton.mp hl]
    exact List.mem_map_of_mem hm

instance : ElementwiseClause FilterToken where
  fillOne := FilterToken.fill
  substitute_eq _ _ := rfl
  leaves_subset hm := by
    intro leaf hl
    obtain ⟨token, ht, hl⟩ := List.mem_flatMap.mp hl
    rw [List.mem_singleton.mp ht] at hl
    exact List.mem_flatMap.mpr ⟨_, hm, hl⟩

/-- A clause without placeholders is kept when a context is filled in. Whether it holds placeholders
or not, what is bound gives for the context what comes of filling it in first. -/
structure BindsAsFilled [Clause α] (context : Context) (clause : α) : Prop where
  kept : Marker.braces.hasPlaceholders clause = false →
    Clause.substitute (Marker.braces.fill context) clause = .ok clause
  bound : ∀ {β : Type} (lower : α → Except Error β),
    (Marker.braces.bind clause lower).bind (· context) =
    (Clause.substitute (Marker.braces.fill context) clause).bind lower

/-- Elements without placeholders can always be filled in, keep their values, and stay in their
places. -/
def KeepsElements [Clause (List α)] (context : Context) (elements : List α) : Prop :=
  ∀ (i : Nat) (element : α), elements[i]? = some element →
    Marker.braces.hasPlaceholders [element] = false →
    Clause.substitute (Marker.braces.fill context) [element] = .ok [element] ∧
    ∀ filled, Clause.substitute (Marker.braces.fill context) elements = .ok filled →
      filled[i]? = some element

variable {context : Context}

theorem BindsAsFilled.of_kept [Clause α] {clause : α}
    (h : Marker.braces.hasPlaceholders clause = false →
      Clause.substitute (Marker.braces.fill context) clause = .ok clause) :
    BindsAsFilled context clause where
  kept := h
  bound lower := by
    by_cases hp : Marker.braces.hasPlaceholders clause = true
    · unfold Marker.bind
      rw [if_pos hp]
      rfl
    · have hconstant := Bool.eq_false_iff.mpr hp
      rw [bind_constant hconstant, h hconstant]
      show _ = lower clause
      cases lower clause <;> rfl

variable [Clause (List α)] [ElementwiseClause α] {elements : List α}

/-- What is to be known of each element. -/
def ElementsConstant (context : Context) (elements : List α) : Prop :=
  ∀ element ∈ elements, (∀ leaf ∈ Clause.leaves [element], Marker.braces.names leaf = []) →
    ElementwiseClause.fillOne (Marker.braces.fill context) element = .ok element

theorem ElementsConstant.binds (h : ElementsConstant context elements) :
    BindsAsFilled context elements := by
  refine .of_kept fun hp => ?_
  rw [ElementwiseClause.substitute_eq]
  refine mapM_eq_self fun element hm => h element hm fun leaf hl => ?_
  exact has_placeholders_eq_false.mp hp leaf (ElementwiseClause.leaves_subset hm hl)

theorem ElementsConstant.keeps (h : ElementsConstant context elements) :
    KeepsElements context elements := by
  intro i element hi hp
  have hone := h element (List.mem_of_getElem? hi) (has_placeholders_eq_false.mp hp)
  constructor
  · rw [ElementwiseClause.substitute_eq]
    refine mapM_eq_self fun x hx => ?_
    rw [List.mem_singleton.mp hx]
    exact hone
  · intro filled hf
    rw [ElementwiseClause.substitute_eq] at hf
    exact getElem_of_mapM hf hi hone

end Clauses

namespace Query.Proper

variable {query : Query} (h : query.Proper) (context : Context)
include h

theorem fields_constant : ElementsConstant context query.fields := by
  intro field hm hn
  exact fill_path_constant (h.fields field hm) (hn field List.mem_cons_self)

theorem sort_constant : ElementsConstant context query.sort := by
  intro term hm hn
  exact SortTerm.fill_constant (h.sort term hm) (hn term.key List.mem_cons_self)

theorem filters_constant : ElementsConstant context query.filters := by
  intro token hm hn
  refine FilterToken.fill_constant ?_ fun leaf hl => hn leaf ?_
  · rintro condition rfl
    exact h.conditions condition hm
  · exact List.mem_flatMap.mpr ⟨token, List.mem_cons_self, hl⟩

end Query.Proper

/-- A context changes only what holds placeholders. -/
structure Query.KeepsConstants (query : Query) (context : Context) : Prop where
  fields : BindsAsFilled context query.fields ∧ KeepsElements context query.fields
  filters : BindsAsFilled context query.filters ∧ KeepsElements context query.filters
  sort : BindsAsFilled context query.sort ∧ KeepsElements context query.sort
  limit : ∀ limit, query.limit = some limit → BindsAsFilled context limit

/-- In a query that was read, binding a clause once gives for every context what comes of filling
the clause in, because a clause without placeholders is filled in as it stands. So is each element
without placeholders, whatever the elements beside it hold. -/
theorem constant_parts_kept (text : String) (query : Query) (h : Query.parse text = .ok query)
    (context : Context) : query.KeepsConstants context := by
  have hproper := proper_of_parse h
  have hfields := hproper.fields_constant context
  have hfilters := hproper.filters_constant context
  have hsort := hproper.sort_constant context
  refine ⟨⟨hfields.binds, hfields.keeps⟩, ⟨hfilters.binds, hfilters.keeps⟩,
    ⟨hsort.binds, hsort.keeps⟩, ?_⟩
  intro limit _
  refine .of_kept fun hp => ?_
  exact Marker.fill_without_names (has_placeholders_eq_false.mp hp limit List.mem_cons_self)

/-- A condition beside one that waits stays the first condition. -/
theorem constant_parts_kept_beside_template : ∃ query filled,
    Query.parse "/r\x7ba.b\x7d?s='q'|n>\x7b\x7bx\x7d\x7d" = .ok query ∧
    query.KeepsConstants [("x", .string "c")] ∧
    Clause.substitute (Marker.braces.fill [("x", .string "c")]) query.filters = .ok filled ∧
    filled[0]? = some (.condition ⟨"s", .eq, .string "q"⟩) ∧ filled ≠ query.filters := by
  have h : Query.parse "/r\x7ba.b\x7d?s='q'|n>\x7b\x7bx\x7d\x7d" =
      .ok ⟨none, "/r", ["a.b"], [.condition ⟨"s", .eq, .string "q"⟩,
        .condition ⟨"n", .gt, .template "\x7b\x7bx\x7d\x7d"⟩, .connective .or], [], none⟩ := by
    decide +kernel
  have hkeeps := constant_parts_kept _ _ h [("x", .string "c")]
  have hfilled : Clause.substitute (Marker.braces.fill [("x", .string "c")])
      ([.condition ⟨"s", .eq, .string "q"⟩, .condition ⟨"n", .gt, .template "\x7b\x7bx\x7d\x7d"⟩,
        .connective .or] : List FilterToken) =
      .ok [.condition ⟨"s", .eq, .string "q"⟩, .condition ⟨"n", .gt, .string "c"⟩,
        .connective .or] := by
    decide +kernel
  exact ⟨_, _, h, hkeeps, hfilled, (hkeeps.filters.2 0 _ rfl (by decide)).2 _ hfilled, by decide⟩

end PathQuery
