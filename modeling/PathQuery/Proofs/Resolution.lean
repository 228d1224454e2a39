import PathQuery.Adapter.Basic
import PathQuery.Proofs.Values

namespace PathQuery

/-- A clause with the values of a context in the place of its placeholders, if it has any. -/
def Marker.resolve {α : Type} [Clause α] (marker : Marker) (context : Context) (clause : α) :
    Except Error α :=
  if marker.hasPlaceholders clause then Clause.substitute (marker.fill context) clause
  else .ok clause

/-- A query with every clause resolved. -/
def Query.resolve (marker : Marker) (context : Context) (query : Query) : Except Error Query := do
  let fields ← marker.resolve context query.fields
  let filters ← marker.resolve context query.filters
  let sort ← marker.resolve context query.sort
  let limit ← query.limit.mapM (marker.resolve context)
  return { query with fields := fields, filters := filters, sort := sort, limit := limit }

/-- A bound clause makes of the resolved clause what it is bound to make. -/
theorem bind_resolve {α β : Type} [Clause α] {marker : Marker} {clause : α}
    {lower : α → Except Error β}
    {bound : Context → Except Error β} {context : Context} {value : β}
    (hb : marker.bind clause lower = .ok bound) (hv : bound context = .ok value) :
    ∃ resolved, marker.resolve context clause = .ok resolved ∧ lower resolved = .ok value := by
  unfold Marker.bind at hb
  unfold Marker.resolve
  split at hb
  · rename_i hp
    cases hb
    rw [if_pos hp]
    exact bind_eq_ok hv
  · rename_i hp
    rw [if_neg hp]
    obtain ⟨made, hm, hb⟩ := bind_eq_ok hb
    cases hb
    cases hv
    exact ⟨clause, rfl, hm⟩

/-- A clause that is there gives what is made of it. -/
theorem bind_some_resolve {α β : Type} [Clause α] {marker : Marker} {clause : α}
    {lower : α → Except Error β}
    {run : Context → Except Error β} {context : Context} {value : Option β}
    (hb : marker.bind clause lower = .ok run)
    (hv : resolve context (some run) = .ok value) : ∃ resolved made,
      marker.resolve context clause = .ok resolved ∧ lower resolved = .ok made ∧
        value = some made := by
  obtain ⟨made, hmade, rfl⟩ := map_eq_ok hv
  obtain ⟨resolved, hr, hl⟩ := bind_resolve hb hmade
  exact ⟨resolved, made, hr, hl, rfl⟩

/-- Parts filled one by one: as many as before, each of them one of the parts filled. -/
theorem map_ok_parts {α β : Type} {f : α → Except Error β} {xs : List α} {ys : List β}
    (h : xs.mapM f = .ok ys) : ys.length = xs.length ∧ ∀ y ∈ ys, ∃ x ∈ xs, f x = .ok y := by
  induction xs generalizing ys with
  | nil =>
    cases h
    simp
  | cons x xs ih =>
    rw [List.mapM_cons] at h
    obtain ⟨y, hy, h⟩ := bind_eq_ok h
    obtain ⟨rest, hrest, h⟩ := bind_eq_ok h
    cases h
    obtain ⟨hlen, hparts⟩ := ih hrest
    refine ⟨by simp [hlen], ?_⟩
    intro z hz
    rcases List.mem_cons.mp hz with rfl | hz
    · exact ⟨x, List.mem_cons_self, hy⟩
    · obtain ⟨w, hw, hf⟩ := hparts z hz
      exact ⟨w, List.mem_cons_of_mem x hw, hf⟩

section Lists

variable {α β : Type} [Clause (List α)] {marker : Marker} {context : Context}
  {parts resolved : List α}
  {lower : List α → Except Error β} {bound : Option (Context → Except Error β)} {value : Option β}

/-- A list of parts, each filled on its own, keeps its length, so it does not become empty. -/
theorem resolve_ne_nil {each : (String → Except Error String) → α → Except Error α}
    (he : ∀ fill (parts : List α), Clause.substitute fill parts = parts.mapM (each fill))
    (h : marker.resolve context parts = .ok resolved) (hne : parts ≠ []) : resolved ≠ [] := by
  unfold Marker.resolve at h
  split at h
  · rw [he] at h
    rw [← List.length_pos_iff, (map_ok_parts h).1]
    exact List.length_pos_iff.mpr hne
  · cases h
    exact hne

/-- What is made of a clause that is a list: nothing of an empty one. -/
theorem bind_option_resolve (hb : bindOption marker lower (nonempty? parts) = .ok bound)
    (hv : resolve context bound = .ok value) :
    (parts = [] ∧ value = none) ∨ (parts ≠ [] ∧ ∃ resolved made,
      marker.resolve context parts = .ok resolved ∧ lower resolved = .ok made ∧
        value = some made) := by
  cases parts with
  | nil =>
    cases hb
    cases hv
    exact .inl ⟨rfl, rfl⟩
  | cons part more =>
    obtain ⟨run, hrun, rfl⟩ := map_eq_ok hb
    exact .inr ⟨List.cons_ne_nil _ _, bind_some_resolve hrun hv⟩

end Lists

theorem bind_filters_resolve {β : Type} {marker : Marker} {context : Context}
    {filters : List FilterToken}
    {lower : List FilterToken → Except Error β} {bound : Option (Context → Except Error β)}
    {value : Option β}
    (hb : bindFilters marker lower filters = .ok bound) (hv : resolve context bound = .ok value) :
    (filters = [] ∧ value = none) ∨ (filters ≠ [] ∧ ∃ resolved made,
      marker.resolve context filters = .ok resolved ∧ lower resolved = .ok made ∧
        value = some made) := by
  cases filters with
  | nil =>
    cases hb
    cases hv
    exact .inl ⟨rfl, rfl⟩
  | cons token more =>
    obtain ⟨_, _, hchecked⟩ := bind_eq_ok hb
    obtain ⟨run, hrun, he⟩ := bind_eq_ok hchecked
    cases he
    exact .inr ⟨List.cons_ne_nil _ _, bind_some_resolve hrun hv⟩

theorem bind_limit_resolve {β : Type} {marker : Marker} {context : Context} {limit : Option String}
    {lower : String → Except Error β} {bound : Option (Context → Except Error β)} {value : Option β}
    (hb : bindOption marker lower limit = .ok bound) (hv : resolve context bound = .ok value) :
    ∃ resolved, limit.mapM (marker.resolve context) = .ok resolved ∧
      ((resolved = none ∧ value = none) ∨
      ∃ text made, resolved = some text ∧ lower text = .ok made ∧ value = some made) := by
  cases limit with
  | none =>
    cases hb
    cases hv
    exact ⟨none, rfl, .inl ⟨rfl, rfl⟩⟩
  | some limit =>
    obtain ⟨run, hrun, rfl⟩ := map_eq_ok hb
    obtain ⟨resolved, made, hr, hl, hm⟩ := bind_some_resolve hrun hv
    refine ⟨some resolved, ?_, .inr ⟨resolved, made, rfl, hl, hm⟩⟩
    rw [Option.mapM_some, hr]
    rfl

/-- A value without infinities, and without what is no number. -/
def Literal.IsFinite (value : Literal) : Prop :=
  ∀ n, value = .number n → n.isFinite = true

/-- A number that is read is finite. -/
theorem read_value_finite {source : Source} {text rest : List Char} {n : Binary64}
    (h : readValue source text = .ok (.number n, rest)) : n.isFinite = true := by
  have hword : ∀ {text}, readWord source text = .ok (.number n, rest) → n.isFinite = true := by
    intro text hw
    rcases Literal.read_word_cases hw with ⟨word, he⟩ | ⟨template, he, _⟩
    · unfold Literal.ofWord at he
      split at he
      · cases he
      · split at he
        · cases he
        · split at he
          · cases he
          · split at he
            · rename_i hn
              cases he
              exact read_word_finite hn
            · cases he
    · cases he
  unfold readValue at h
  split at h
  · obtain ⟨_, _, he, _⟩ := Literal.read_regex_cases h
    cases he
  · split at h
    · split at h <;> cases h
    · exact hword h
  · exact hword h

theorem fill_finite {fill : String → Except Error String} {value filled : Literal}
    (hf : value.IsFinite) (h : value.fill fill = .ok filled) : filled.IsFinite := by
  rintro n rfl
  cases value with
  | string text =>
    obtain ⟨_, _, he⟩ := bind_eq_ok h
    cases he
  | regex pattern flags =>
    obtain ⟨_, _, he⟩ := bind_eq_ok h
    cases he
  | template text =>
    obtain ⟨written, _, he⟩ := bind_eq_ok h
    split at he
    · cases he
    · rename_i hp
      cases he
      obtain ⟨⟨read, rest⟩, hread, hend⟩ := bind_eq_ok (map_error_eq_ok hp)
      obtain ⟨_, _, he⟩ := bind_eq_ok hend
      cases he
      exact read_value_finite hread
    · cases he
  | null => cases h
  | bool b => cases h
  | number m =>
    cases h
    exact hf n rfl

theorem fill_condition_finite {fill : String → Except Error String} {token : FilterToken}
    {condition : Condition}
    (hf : ∀ c, token = .condition c → c.value.IsFinite)
    (h : token.fill fill = .ok (.condition condition)) : condition.value.IsFinite := by
  cases token with
  | connective connective => cases h
  | condition c =>
    obtain ⟨filled, hc, he⟩ := bind_eq_ok h
    cases he
    obtain ⟨key, _, hc⟩ := bind_eq_ok hc
    obtain ⟨value, hv, hc⟩ := bind_eq_ok hc
    split at hc
    · cases hc
      exact fill_finite (hf c rfl) hv
    · cases hc

/-- Filling placeholders brings no infinities. -/
theorem resolve_filters_finite {marker : Marker} {context : Context}
    {filters resolved : List FilterToken}
    (hf : ∀ c, .condition c ∈ filters → c.value.IsFinite)
    (h : marker.resolve context filters = .ok resolved) :
    ∀ c, .condition c ∈ resolved → c.value.IsFinite := by
  unfold Marker.resolve at h
  split at h
  · intro c hc
    obtain ⟨token, hm, ht⟩ := (map_ok_parts h).2 _ hc
    refine fill_condition_finite ?_ ht
    rintro d rfl
    exact hf d hm
  · cases h
    exact hf

end PathQuery
