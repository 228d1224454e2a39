import PathQuery.Proofs.Rounding
import PathQuery.Records.Predicate

namespace PathQuery

namespace Binary64

theorem position_none_iff {x : Binary64} : x.position? = none ↔ x.isNaN = true := by
  cases x with
  | finite negative units => exact ⟨nofun, nofun⟩
  | infinite negative => exact ⟨nofun, nofun⟩
  | notANumber negative fraction => exact ⟨fun _ => rfl, fun _ => rfl⟩

theorem compare_none_iff {a b : Binary64} :
    a.compare? b = none ↔ a.isNaN = true ∨ b.isNaN = true := by
  rw [← position_none_iff, ← position_none_iff]
  cases ha : a.position? <;> cases hb : b.position? <;> simp [compare?, ha, hb]

section TruthValues

attribute [local irreducible] unit

/-- The numbers that stand for the two truth values are apart. -/
theorem compare_ofBool_eq_iff (a b : Bool) : (ofBool a).compare? (ofBool b) = some .eq ↔ a = b := by
  have hposition : ∀ c, (ofBool c).position? = some (if c then (unit : Int) else 0) := by
    intro c
    cases c <;> rfl
  simp only [compare?, hposition, Option.bind_eq_bind, Option.bind_some, pure, Option.some.injEq,
    compare_eq_iff_eq]
  have hunit := unit_pos
  cases a <;> cases b <;> simp <;> omega

end TruthValues

end Binary64

/-- How two values compare as numbers, if both can be read as one. -/
def compareNumbers? (a b : Option Binary64) : Option Ordering := do
  (← a).compare? (← b)

theorem compare_numbers_isSome_iff {a b : Option Binary64} : (compareNumbers? a b).isSome = true ↔
    ∃ x y, a = some x ∧ b = some y ∧ x.isNaN = false ∧ y.isNaN = false := by
  cases a with
  | none => simp [compareNumbers?]
  | some x =>
    cases b with
    | none => simp [compareNumbers?]
    | some y =>
      rw [← Option.ne_none_iff_isSome, ne_eq]
      simp [compareNumbers?, Binary64.compare_none_iff]

theorem same_numbers_eq (a b : Option Binary64) : (match a, b with
      | some x, some y => x.sameNumber y
      | _, _ => false) = (compareNumbers? a b == some .eq) := by
  cases a <;> cases b <;> rfl

/-- A record's value and the value of a condition can be put in order: both are strings, or both are
numbers when read as such. -/
def Comparable (value : Json) (literal : Literal) : Prop :=
  (∃ a b, value = .string a ∧ literal = .string b) ∨
    ∃ x y, value.toNumber? = some x ∧ literal.toNumber? = some y ∧ x.isNaN = false ∧ y.isNaN = false

section Tables

variable {value : Json} {literal : Literal}

/-- All but two strings compare as numbers. -/
theorem loose_compare_numbers (h : ∀ a b, ¬ (value = .string a ∧ literal = .string b)) :
    looseCompare? (some value) literal = compareNumbers? value.toNumber? literal.toNumber? := by
  cases value <;> cases literal
  case string.string a b => exact absurd ⟨rfl, rfl⟩ (h a b)
  all_goals rfl

/-- All but two strings and two truth values are equal if they are so as numbers. -/
theorem loose_eq_numbers (hv : value ≠ .null) (hl : literal ≠ .null)
    (hstrings : ∀ a b, ¬ (value = .string a ∧ literal = .string b))
    (hbools : ∀ a b, ¬ (value = .bool a ∧ literal = .bool b)) :
    looseEq (some value) literal =
      (compareNumbers? value.toNumber? literal.toNumber? == some .eq) := by
  unfold looseEq
  split
  · rename_i heq
    cases heq
  · exact absurd rfl hl
  · rename_i heq _
    cases heq
  · rename_i heq _
    exact absurd (Option.some.inj heq) hv
  · exact absurd rfl hl
  · rename_i a b heq
    exact absurd ⟨Option.some.inj heq, rfl⟩ (hstrings a b)
  · rename_i a b heq
    exact absurd ⟨Option.some.inj heq, rfl⟩ (hbools a b)
  · rename_i heq _ _ _ _
    cases heq
    exact same_numbers_eq _ _

/-- Values are equal exactly if neither comes before the other. -/
theorem loose_eq_iff (hv : value ≠ .null) (hl : literal ≠ .null) :
    looseEq (some value) literal = true ↔ looseCompare? (some value) literal = some .eq := by
  by_cases hstrings : ∃ a b, value = .string a ∧ literal = .string b
  · obtain ⟨a, b, rfl, rfl⟩ := hstrings
    simp [looseEq, looseCompare?]
  · simp only [not_exists] at hstrings
    rw [loose_compare_numbers hstrings]
    by_cases hbools : ∃ a b, value = .bool a ∧ literal = .bool b
    · obtain ⟨a, b, rfl, rfl⟩ := hbools
      rw [looseEq, beq_iff_eq]
      exact (Binary64.compare_ofBool_eq_iff a b).symm
    · simp only [not_exists] at hbools
      rw [loose_eq_numbers hv hl hstrings hbools, beq_iff_eq]

theorem loose_compare_isSome_iff : (looseCompare? (some value) literal).isSome = true ↔
    Comparable value literal := by
  by_cases hstrings : ∃ a b, value = .string a ∧ literal = .string b
  · obtain ⟨a, b, rfl, rfl⟩ := hstrings
    simp [looseCompare?, Comparable]
  · rw [Comparable, or_iff_right hstrings, ← compare_numbers_isSome_iff]
    simp only [not_exists] at hstrings
    rw [loose_compare_numbers hstrings]

end Tables

/-- The comparator that asks for one outcome of a comparison. -/
def Comparator.ofOrdering : Ordering → Comparator
  | .lt => .lt
  | .eq => .eq
  | .gt => .gt

/-- The answers of the comparators fit together: at most one of `<`, `=` and `>` holds, `>=` and
`<=` hold if `=` or the one without it does, and `!=` holds if `=` does not. -/
structure Consistent (holds : Comparator → Bool) : Prop where
  single : ∀ o o', holds (.ofOrdering o) = true → holds (.ofOrdering o') = true → o = o'
  ge : holds .ge = true ↔ holds .gt = true ∨ holds .eq = true
  le : holds .le = true ↔ holds .lt = true ∨ holds .eq = true
  ne : holds .ne = true ↔ ¬ holds .eq = true

/-- The answers of the comparators where there is no value: `=` holds for null, `!=` for everything
else, and no other comparator ever does. -/
structure NothingFound (holds : Comparator → Bool) (literal : Literal) : Prop where
  eq : holds .eq = true ↔ literal = .null
  ne : holds .ne = true ↔ literal ≠ .null
  others : ∀ comparator, holds comparator = true → comparator = .eq ∨ comparator = .ne

section Comparators

variable {found : Option Json} {literal : Literal}

theorem holds_of_ordering_iff
    (h : looseEq found literal = true ↔ looseCompare? found literal = some .eq) (o : Ordering) :
    (Comparator.ofOrdering o).holds found literal = true ↔
      looseCompare? found literal = some o := by
  cases o <;> simp [Comparator.ofOrdering, Comparator.holds, h]

theorem consistent_of_eq_iff
    (h : looseEq found literal = true ↔ looseCompare? found literal = some .eq) :
    Consistent fun comparator => comparator.holds found literal where
  single o o' ho ho' := by
    rw [holds_of_ordering_iff h] at ho ho'
    exact Option.some.inj (ho.symm.trans ho')
  ge := by simp [Comparator.holds, h]
  le := by simp [Comparator.holds, h]
  ne := by simp [Comparator.holds]

theorem loose_eq_missing_iff : looseEq none literal = true ↔ literal = .null := by
  cases literal <;> simp [looseEq]

theorem nothing_found_of_missing (literal : Literal) :
    NothingFound (fun comparator => comparator.holds none literal) literal where
  eq := loose_eq_missing_iff
  ne := by
    rw [Comparator.holds, Bool.not_eq_true', ← Bool.not_eq_true, loose_eq_missing_iff]
  others comparator h := by
    cases comparator <;> simp [Comparator.holds, looseCompare?] at h ⊢

end Comparators

/-- For a value that is there, and neither it nor the value of the condition being null, equality is
the comparison that finds no difference, the comparators fit together, and one of `<`, `=` and `>`
holds exactly if the two can be compared. Where a path leads nowhere, only `= null` and `!=` with
anything else hold, and no pattern matches. -/
theorem comparators_consistent (record : Json) (path : List String) (literal : Literal) :
    (∀ value, record.get? path = some value → value ≠ .null → literal ≠ .null →
      (looseEq (some value) literal = true ↔ looseCompare? (some value) literal = some .eq) ∧
      Consistent (fun comparator => RecordTest.holds ⟨path, .compare comparator literal⟩ record) ∧
      ((∃ o, RecordTest.holds ⟨path, .compare (.ofOrdering o) literal⟩ record = true) ↔
        Comparable value literal)) ∧
    (record.get? path = none →
      NothingFound (fun comparator => RecordTest.holds ⟨path, .compare comparator literal⟩ record)
        literal ∧
      ∀ regex, RecordTest.holds ⟨path, .matches regex⟩ record = false) := by
  constructor
  · intro value hfound hv hl
    have heq := loose_eq_iff hv hl
    simp only [RecordTest.holds, hfound]
    refine ⟨heq, consistent_of_eq_iff heq, ?_⟩
    simp only [holds_of_ordering_iff heq]
    rw [← loose_compare_isSome_iff, Option.isSome_iff_exists]
  · intro hmissing
    simp only [RecordTest.holds, hmissing]
    exact ⟨nothing_found_of_missing literal, fun _ => rfl⟩

/-- Text and a truth value, compared as numbers, and a path that leads nowhere. -/
theorem text_compared_with_truth : ∃ (record value : Json) (literal : Literal),
    record = .object [("a", value)] ∧ value = .string "1" ∧ literal = .bool true ∧
    record.get? ["a"] = some value ∧ value ≠ .null ∧ literal ≠ .null ∧
    (looseEq (some value) literal = true ↔ looseCompare? (some value) literal = some .eq) ∧
    Consistent (fun comparator => RecordTest.holds ⟨["a"], .compare comparator literal⟩ record) ∧
    ((∃ o, RecordTest.holds ⟨["a"], .compare (.ofOrdering o) literal⟩ record = true) ↔
      Comparable value literal) ∧
    record.get? ["b"] = none ∧
    NothingFound (fun comparator => RecordTest.holds ⟨["b"], .compare comparator literal⟩ record)
      literal := by
  let record : Json := .object [("a", .string "1")]
  obtain ⟨heq, hconsistent, hone⟩ :=
    (comparators_consistent record ["a"] (.bool true)).1 (.string "1") rfl nofun nofun
  obtain ⟨hnothing, _⟩ := (comparators_consistent record ["b"] (.bool true)).2 rfl
  exact ⟨record, _, _, rfl, rfl, rfl, rfl, nofun, nofun, heq, hconsistent, hone, rfl, hnothing⟩

end PathQuery
