import Mathlib.Data.List.Forall2
import PathQuery.Filter.Stream
import PathQuery.Proofs.Resolution

namespace PathQuery

/-- Parts made one by one correspond to what they were made of. -/
theorem forall₂_of_mapM {α β : Type} {f : α → Except Error β} {xs : List α} {ys : List β}
    (h : xs.mapM f = .ok ys) : List.Forall₂ (fun x y => f x = .ok y) xs ys := by
  induction xs generalizing ys with
  | nil =>
    cases h
    exact .nil
  | cons x xs ih =>
    rw [List.mapM_cons] at h
    obtain ⟨y, hy, h⟩ := bind_eq_ok h
    obtain ⟨rest, hrest, h⟩ := bind_eq_ok h
    cases h
    exact .cons hy (ih hrest)

theorem exists_of_mapM {α β : Type} {f : α → Except Error β} {xs : List α} {ys : List β}
    (h : xs.mapM f = .ok ys) {x : α} (hm : x ∈ xs) : ∃ y, f x = .ok y := by
  have hall := forall₂_of_mapM h
  clear h
  induction hall with
  | nil => cases hm
  | cons hy _ ih =>
    rcases List.mem_cons.mp hm with rfl | hm
    · exact ⟨_, hy⟩
    · exact ih hm

theorem mapM_eq_error {α β : Type} {f : α → Except Error β} {xs : List α} {e : Error}
    (h : xs.mapM f = .error e) : ∃ x ∈ xs, f x = .error e := by
  induction xs with
  | nil => cases h
  | cons x xs ih =>
    rw [List.mapM_cons] at h
    rcases bind_eq_error_iff.mp h with h | ⟨_, _, h⟩
    · exact ⟨x, List.mem_cons_self, h⟩
    · rcases bind_eq_error_iff.mp h with h | ⟨_, _, h⟩
      · obtain ⟨y, hm, hy⟩ := ih h
        exact ⟨y, List.mem_cons_of_mem x hm, hy⟩
      · cases h

namespace Marker

variable {marker : Marker} {context : Context} {text : String}

theorem mem_names {name : String} :
    name ∈ marker.names text ↔ ∃ written, .placeholder written ∈ marker.pieces text ∧
      name = String.ofList written := by
  unfold names
  rw [List.mem_filterMap]
  constructor
  · rintro ⟨_ | written, hm, h⟩
    · cases h
    · cases h
      exact ⟨written, hm, rfl⟩
  · rintro ⟨written, hm, rfl⟩
    exact ⟨.placeholder written, hm, rfl⟩

/-- A text that is filled has no placeholder without a value. -/
theorem find_of_fill {filled : String} (h : marker.fill context text = .ok filled) :
    ∀ name ∈ marker.names text, (context.find? name).isSome = true := by
  intro name hm
  obtain ⟨written, hp, rfl⟩ := mem_names.mp hm
  obtain ⟨parts, hparts, _⟩ := bind_eq_ok h
  obtain ⟨part, hpart⟩ := exists_of_mapM hparts hp
  dsimp only at hpart
  split at hpart
  · simp [*]
  · cases hpart

/-- A text that cannot be filled has a placeholder without a value, and the error names it. -/
theorem fill_error {e : Error} (h : marker.fill context text = .error e) :
    ∃ name ∈ marker.names text, context.find? name = none ∧ e = .missingValue name := by
  rcases bind_eq_error_iff.mp h with h | ⟨_, _, h⟩
  · obtain ⟨piece, hm, hp⟩ := mapM_eq_error h
    cases piece with
    | plain c => cases hp
    | placeholder written =>
      dsimp only at hp
      split at hp
      · cases hp
      · cases hp
        exact ⟨_, mem_names.mpr ⟨written, hm, rfl⟩, ‹_›, rfl⟩
  · cases h

end Marker

/-- Work that fills leaves. It succeeds only if all of them can be filled; it fails only as the
filling of a leaf does, or because it refuses what comes out. -/
structure FillsAll {α : Type} (fill : String → Except Error String) (leaves : List String)
    (work : Except Error α) :
    Prop where
  ok : ∀ {value}, work = .ok value → ∀ leaf ∈ leaves, ∃ text, fill leaf = .ok text
  error : ∀ {e}, work = .error e →
    (∃ leaf ∈ leaves, fill leaf = .error e) ∨
      ∃ position text, e = .invalidSubstitution position text

namespace FillsAll

variable {α β : Type} {fill : String → Except Error String} {leaves more : List String}

theorem leaf (text : String) : FillsAll fill [text] (fill text) where
  ok h := by
    intro leaf hm
    rw [List.mem_singleton.mp hm]
    exact ⟨_, h⟩
  error h := .inl ⟨text, List.mem_singleton_self text, h⟩

theorem done (value : α) : FillsAll fill [] (.ok value) where
  ok _ := by simp
  error h := by cases h

theorem refused (position : Position) (text : String) :
    FillsAll fill [] (.error (.invalidSubstitution position text) : Except Error α) where
  ok h := by cases h
  error h := by
    cases h
    exact .inr ⟨position, text, rfl⟩

theorem bind {work : Except Error α} {next : α → Except Error β} (h : FillsAll fill leaves work)
    (hn : ∀ value, FillsAll fill more (next value)) :
    FillsAll fill (leaves ++ more) (work.bind next) where
  ok hb := by
    obtain ⟨value, hw, hv⟩ := bind_eq_ok hb
    intro leaf hm
    rcases List.mem_append.mp hm with hm | hm
    · exact h.ok hw leaf hm
    · exact (hn value).ok hv leaf hm
  error hb := by
    rcases bind_eq_error_iff.mp hb with hw | ⟨value, _, hv⟩
    · rcases h.error hw with ⟨leaf, hm, hl⟩ | hr
      · exact .inl ⟨leaf, List.mem_append_left _ hm, hl⟩
      · exact .inr hr
    · rcases (hn value).error hv with ⟨leaf, hm, hl⟩ | hr
      · exact .inl ⟨leaf, List.mem_append_right _ hm, hl⟩
      · exact .inr hr

/-- A last step that fills no more leaves. -/
theorem last {work : Except Error α} {next : α → Except Error β} (h : FillsAll fill leaves work)
    (hn : ∀ value, FillsAll fill [] (next value)) : FillsAll fill leaves (work.bind next) := by
  simpa using h.bind hn

theorem mapM {leavesOf : α → List String} {f : α → Except Error β}
    (h : ∀ x, FillsAll fill (leavesOf x) (f x))
    (xs : List α) : FillsAll fill (xs.flatMap leavesOf) (xs.mapM f) := by
  induction xs with
  | nil => exact done []
  | cons x xs ih =>
    rw [List.mapM_cons, List.flatMap_cons]
    exact (h x).bind fun y => ih.last fun ys => done (y :: ys)

theorem path (position : Position) (path : String) :
    FillsAll fill [path] (fillPath fill position path) := by
  refine (leaf path).last fun filled => ?_
  split
  · exact done filled
  · exact refused position filled

end FillsAll

/-- The texts of a value. -/
def Literal.leaves : Literal → List String
  | .string text => [text]
  | .regex pattern _ => [pattern]
  | .template text => [text]
  | _ => []

theorem Condition.leaves_eq (condition : Condition) :
    condition.leaves = [condition.key] ++ condition.value.leaves := by
  cases hv : condition.value <;> simp [Condition.leaves, Literal.leaves, hv]

section

variable (fill : String → Except Error String)

theorem Literal.fills_all (value : Literal) : FillsAll fill value.leaves (value.fill fill) := by
  cases value with
  | string text => exact (FillsAll.leaf text).last fun _ => .done _
  | regex pattern flags => exact (FillsAll.leaf pattern).last fun _ => .done _
  | template text =>
    refine (FillsAll.leaf text).last fun filled => ?_
    split
    · exact .refused .filterValue filled
    · exact .done _
    · exact .refused .filterValue filled
  | null | bool | number => exact .done _

theorem Condition.fills_all (condition : Condition) :
    FillsAll fill condition.leaves (condition.fill fill) := by
  rw [condition.leaves_eq]
  refine (FillsAll.path .filterKey condition.key).bind fun key => ?_
  refine (condition.value.fills_all fill).last fun value => ?_
  split
  · exact .done _
  · exact .refused .filterValue _

theorem FilterToken.fills_all (token : FilterToken) :
    FillsAll fill token.leaves (token.fill fill) := by
  cases token with
  | condition c => exact (c.fills_all fill).last fun _ => .done _
  | connective op => exact .done _

theorem SortTerm.fills_all (term : SortTerm) : FillsAll fill [term.key] (term.fill fill) :=
  (FillsAll.path .sortField term.key).last fun _ => .done _

end

/-- A clause whose leaves are all filled when it is. -/
class LawfulClause (α : Type) [Clause α] : Prop where
  fills_all : ∀ (fill : String → Except Error String) (clause : α),
    FillsAll fill (Clause.leaves clause) (Clause.substitute fill clause)

instance : LawfulClause (List String) where
  fills_all fill fields := by
    have h := FillsAll.mapM (fun field => @FillsAll.path fill .fieldPath field) fields
    rwa [List.flatMap_singleton'] at h

instance : LawfulClause (List SortTerm) where
  fills_all fill terms := by
    have h := FillsAll.mapM (SortTerm.fills_all fill) terms
    rwa [← List.map_eq_flatMap] at h

instance : LawfulClause (List FilterToken) where
  fills_all fill tokens := FillsAll.mapM (FilterToken.fills_all fill) tokens

instance : LawfulClause String where
  fills_all _ limit := .leaf limit

section

variable (fill : String → Except Error String)

/-- A path and what it becomes: its own text filled in, and a path again. -/
structure PathFilled (position : Position) (path filled : String) : Prop where
  text : fillPath fill position path = .ok filled
  valid : isValidPath filled.toList = true

/-- A value and what it becomes: text stays text, a pattern keeps its flags, a template becomes the
value its filled text reads as, and what holds no text stays as it is. -/
inductive Literal.Filled : Literal → Literal → Prop where
  | null : Filled .null .null
  | bool (value : Bool) : Filled (.bool value) (.bool value)
  | number (value : Binary64) : Filled (.number value) (.number value)
  | string {text filled : String} (h : fill text = .ok filled) :
      Filled (.string text) (.string filled)
  | regex {pattern filled : String} (flags : String) (h : fill pattern = .ok filled) :
      Filled (.regex pattern flags) (.regex filled flags)
  | template {text filled : String} {value : Literal} (h : fill text = .ok filled)
      (hread : Literal.parse filled = .ok value) : Filled (.template text) value

/-- A condition and what it becomes when its placeholders are filled. -/
structure Condition.Filled (condition filled : Condition) : Prop where
  key : PathFilled fill .filterKey condition.key filled.key
  comparator : filled.comparator = condition.comparator
  value : condition.value.Filled fill filled.value
  settled : ∀ text, filled.value ≠ .template text
  admits : filled.comparator.admits filled.value = true

inductive FilterToken.Filled : FilterToken → FilterToken → Prop where
  | condition {before after : Condition} (h : before.Filled fill after) :
      Filled (.condition before) (.condition after)
  | connective (op : Connective) : Filled (.connective op) (.connective op)

structure SortTerm.Filled (term filled : SortTerm) : Prop where
  key : PathFilled fill .sortField term.key filled.key
  order : filled.order = term.order

end

section

variable {fill : String → Except Error String}

theorem path_filled_of_fill {position : Position} {path filled : String}
    (h : fillPath fill position path = .ok filled) : PathFilled fill position path filled := by
  refine ⟨h, ?_⟩
  obtain ⟨text, _, h⟩ := bind_eq_ok h
  split at h
  · cases h
    assumption
  · cases h

theorem Literal.filled_of_fill {value filled : Literal} (h : value.fill fill = .ok filled) :
    value.Filled fill filled ∧ ∀ text, filled ≠ .template text := by
  cases value with
  | string text =>
    obtain ⟨written, hwritten, h⟩ := bind_eq_ok h
    cases h
    exact ⟨.string hwritten, nofun⟩
  | regex pattern flags =>
    obtain ⟨written, hwritten, h⟩ := bind_eq_ok h
    cases h
    exact ⟨.regex flags hwritten, nofun⟩
  | template text =>
    obtain ⟨written, hwritten, h⟩ := bind_eq_ok h
    split at h
    · cases h
    · rename_i hnot hread
      cases h
      exact ⟨.template hwritten hread, fun text he => hnot text (he ▸ rfl)⟩
    · cases h
  | null =>
    cases h
    exact ⟨.null, nofun⟩
  | bool value =>
    cases h
    exact ⟨.bool value, nofun⟩
  | number value =>
    cases h
    exact ⟨.number value, nofun⟩

theorem Condition.filled_of_fill {condition filled : Condition}
    (h : condition.fill fill = .ok filled) : condition.Filled fill filled := by
  obtain ⟨key, hk, h⟩ := bind_eq_ok h
  obtain ⟨value, hv, h⟩ := bind_eq_ok h
  obtain ⟨hvalue, hsettled⟩ := Literal.filled_of_fill hv
  split at h
  · rename_i ha
    cases h
    exact ⟨path_filled_of_fill hk, rfl, hvalue, hsettled, ha⟩
  · cases h

theorem FilterToken.filled_of_fill {token filled : FilterToken}
    (h : token.fill fill = .ok filled) : token.Filled fill filled := by
  cases token with
  | condition c =>
    obtain ⟨after, hc, h⟩ := bind_eq_ok h
    cases h
    exact .condition (Condition.filled_of_fill hc)
  | connective op =>
    cases h
    exact .connective op

theorem SortTerm.filled_of_fill {term filled : SortTerm} (h : term.fill fill = .ok filled) :
    term.Filled fill filled := by
  obtain ⟨key, hk, h⟩ := bind_eq_ok h
  cases h
  exact ⟨path_filled_of_fill hk, rfl⟩

theorem fields_filled {fields filled : List String}
    (h : Clause.substitute fill fields = .ok filled) :
    List.Forall₂ (PathFilled fill .fieldPath) fields filled :=
  (forall₂_of_mapM h).imp fun _ _ => path_filled_of_fill

theorem sort_filled {terms filled : List SortTerm} (h : Clause.substitute fill terms = .ok filled) :
    List.Forall₂ (SortTerm.Filled fill) terms filled :=
  (forall₂_of_mapM h).imp fun _ _ => SortTerm.filled_of_fill

theorem filters_filled {tokens filled : List FilterToken}
    (h : Clause.substitute fill tokens = .ok filled) :
    List.Forall₂ (FilterToken.Filled fill) tokens filled :=
  (forall₂_of_mapM h).imp fun _ _ => FilterToken.filled_of_fill

/-- Every condition of filled filters comes from one of theirs. -/
theorem condition_filled {tokens filled : List FilterToken}
    (h : List.Forall₂ (FilterToken.Filled fill) tokens filled)
    {condition : Condition} (hm : .condition condition ∈ filled) :
    ∃ before : Condition, before.Filled fill condition := by
  induction h with
  | nil => cases hm
  | cons hh _ ih =>
    rcases List.mem_cons.mp hm with rfl | hm
    · cases hh with
      | condition hc => exact ⟨_, hc⟩
    · exact ih hm

/-- Whether a stream is sound does not depend on what stands in its conditions. -/
theorem FilterStream.check_filled {tokens filled : List FilterToken}
    (h : List.Forall₂ (FilterToken.Filled fill) tokens filled) : check filled = check tokens := by
  have hfrom : ∀ index height deepest,
      checkFrom index height deepest filled = checkFrom index height deepest tokens := by
    induction h with
    | nil => intros; rfl
    | cons hh _ ih =>
      intro index height deepest
      -- the check asks whether a token is a condition, and nothing about the condition
      cases hh with
      | condition _ => exact ih _ _ _
      | connective op =>
        match height with
        | 0 => rfl
        | 1 => exact ih _ _ _
        | height + 2 => exact ih _ _ _
  cases h with
  | nil => rfl
  | cons => simp [check, hfrom]

end

end PathQuery
