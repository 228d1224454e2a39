import Mathlib.Data.Nat.Log
import PathQuery.Proofs.Rounding
import PathQuery.Proofs.StableSort

namespace PathQuery

namespace Binary64

attribute [local irreducible] beyond unit

theorem quotient_le_nearest (num den : Nat) : num / den ≤ nearestQuotient num den := by
  unfold nearestQuotient
  dsimp only
  split_ifs <;> omega

theorem nearest_quotient_mono {num num' : Nat} (den : Nat) (h : num ≤ num') :
    nearestQuotient num den ≤ nearestQuotient num' den := by
  rcases Nat.lt_or_eq_of_le (Nat.div_le_div_right (c := den) h) with hlt | heq
  · calc nearestQuotient num den ≤ num / den + 1 := nearest_quotient_le num den
      _ ≤ num' / den := hlt
      _ ≤ nearestQuotient num' den := quotient_le_nearest num' den
  · -- both lie between the same two multiples of `den`, and their remainders decide
    have hnum := Nat.div_add_mod num den
    have hnum' := Nat.div_add_mod num' den
    rw [heq] at hnum
    unfold nearestQuotient
    dsimp only
    rw [heq]
    split_ifs <;> omega

theorem nearest_quotient_multiple {den : Nat} (hden : 0 < den) (k : Nat) :
    nearestQuotient (den * k) den = k :=
  nearest_quotient_eq (by omega) (by omega) (fun _ => by omega) hden

section Powers

variable {num den bound : Nat}

/-- A multiple of the spacing that is not below a quotient is not below the quotient rounded. -/
theorem round_le_of_le (hden : 0 < den) (hd : spacing (num / den) ∣ bound) (h : num ≤ bound * den) :
    roundUnits num den ≤ bound := by
  obtain ⟨k, rfl⟩ := hd
  have hstep := Nat.mul_pos hden (spacing_pos (num / den))
  have hle : nearestQuotient num (den * spacing (num / den)) ≤ k := by
    calc nearestQuotient num (den * spacing (num / den))
        ≤ nearestQuotient (den * spacing (num / den) * k) (den * spacing (num / den)) :=
          nearest_quotient_mono _ (by rwa [Nat.mul_assoc, Nat.mul_comm])
      _ = k := nearest_quotient_multiple hstep k
  calc roundUnits num den ≤ k * spacing (num / den) := Nat.mul_le_mul_right _ hle
    _ = spacing (num / den) * k := Nat.mul_comm _ _

/-- A multiple of the spacing that is not above a quotient is not above the quotient rounded. -/
theorem le_round_of_le (hden : 0 < den) (hd : spacing (num / den) ∣ bound) (h : bound * den ≤ num) :
    bound ≤ roundUnits num den := by
  obtain ⟨k, rfl⟩ := hd
  have hstep := Nat.mul_pos hden (spacing_pos (num / den))
  have hle : k ≤ nearestQuotient num (den * spacing (num / den)) := by
    calc k = nearestQuotient (den * spacing (num / den) * k) (den * spacing (num / den)) :=
          (nearest_quotient_multiple hstep k).symm
      _ ≤ nearestQuotient num (den * spacing (num / den)) :=
          nearest_quotient_mono _ (by rwa [Nat.mul_assoc, Nat.mul_comm])
  calc spacing (num / den) * k = k * spacing (num / den) := Nat.mul_comm _ _
    _ ≤ roundUnits num den := Nat.mul_le_mul_right _ hle

end Powers

/-- Of two quotients the greater one is not rounded to the lesser double. -/
theorem round_units_mono {num num' den : Nat} (hden : 0 < den) (h : num ≤ num') :
    roundUnits num den ≤ roundUnits num' den := by
  have hlog : (num / den).log2 ≤ (num' / den).log2 := by
    rw [Nat.log2_eq_log_two, Nat.log2_eq_log_two]
    exact Nat.log_mono_right (Nat.div_le_div_right h)
  rcases Nat.lt_or_eq_of_le hlog with hlt | heq
  · -- a power of two stands between them, and it is a multiple of both spacings
    have hpos : num' / den ≠ 0 := by
      intro hzero
      simp [hzero] at hlt
    have habove : num ≤ 2 ^ (num' / den).log2 * den := by
      have hfloor : num / den + 1 ≤ 2 ^ (num' / den).log2 :=
        Nat.le_trans Nat.lt_log2_self (Nat.pow_le_pow_right (by decide) hlt)
      calc num ≤ (num / den + 1) * den := by
            have := Nat.lt_div_mul_add (a := num) hden
            rw [Nat.add_mul, Nat.one_mul]
            omega
        _ ≤ 2 ^ (num' / den).log2 * den := Nat.mul_le_mul_right den hfloor
    have hbelow : 2 ^ (num' / den).log2 * den ≤ num' :=
      Nat.le_trans (Nat.mul_le_mul_right den (Nat.log2_self_le hpos)) (Nat.div_mul_le_self num' den)
    calc roundUnits num den ≤ 2 ^ (num' / den).log2 :=
          round_le_of_le hden (Nat.pow_dvd_pow 2 (by omega)) habove
      _ ≤ roundUnits num' den := le_round_of_le hden (Nat.pow_dvd_pow 2 (by omega)) hbelow
  · have hspacing : spacing (num' / den) = spacing (num / den) := by
      rw [spacing_eq, spacing_eq, heq]
    unfold roundUnits
    dsimp only
    rw [hspacing]
    exact Nat.mul_le_mul_right _ (nearest_quotient_mono _ h)

/-- The units of the double nearest to a natural number; what is too large counts as the first power
of two beyond. -/
def nearestUnits (n : Nat) : Nat :=
  min (roundUnits (n * unit) 1) beyond

theorem nearest_units_mono {n n' : Nat} (h : n ≤ n') : nearestUnits n ≤ nearestUnits n' := by
  have hround := round_units_mono Nat.one_pos (Nat.mul_le_mul_right unit h)
  unfold nearestUnits
  omega

/-- Up to 2⁵³ a natural number is a double itself. -/
theorem nearest_units_exact {n : Nat} (h : n ≤ 2 ^ 53) : nearestUnits n = n * unit := by
  have hshort : spacing (n * unit) ∣ n * unit := by
    rw [unit_eq]
    exact spacing_dvd_of_short h 1074
  have hround : roundUnits (n * unit) 1 = n * unit := by
    simpa using round_units_exact Nat.one_pos hshort
  have hsmall : n * unit ≤ beyond := by
    rw [unit_eq]
    refine Nat.le_trans (Nat.mul_le_mul_right _ h) ?_
    rw [← pow_add]
    exact two_pow_le_beyond (by decide)
  rw [nearestUnits, hround, Nat.min_eq_left hsmall]

theorem of_int_position (i : Int) :
    (ofInt i).position? =
      some (if i < 0 then -(nearestUnits i.natAbs : Int) else nearestUnits i.natAbs) := by
  unfold ofInt ofQuotient nearestUnits
  rcases Nat.lt_or_ge (roundUnits (i.natAbs * unit) 1) beyond with h | h
  · rw [dif_pos h, Nat.min_eq_left h.le]
    simp [position?]
  · rw [dif_neg (Nat.not_lt.mpr h), Nat.min_eq_right h]
    simp [position?]

end Binary64

section Integers

open Binary64 (nearestUnits nearest_units_mono nearest_units_exact of_int_position)

attribute [local irreducible] Binary64.beyond Binary64.unit

theorem integer_place (i : Json.Integer) : (Json.Number.integer i).place =
    if i.val < 0 then -(nearestUnits i.val.natAbs : Int) else nearestUnits i.val.natAbs := by
  have hposition : (Json.Number.integer i).toDouble.position? =
      some (Json.Number.integer i).place :=
    (Option.some_get _).symm
  exact Option.some.inj (hposition.symm.trans (of_int_position i.val))

theorem integer_place_mono {x y : Json.Integer} (h : x.val ≤ y.val) :
    (Json.Number.integer x).place ≤ (Json.Number.integer y).place := by
  rw [integer_place, integer_place]
  by_cases hx : x.val < 0
  · by_cases hy : y.val < 0
    · have := nearest_units_mono (show y.val.natAbs ≤ x.val.natAbs by omega)
      rw [if_pos hx, if_pos hy]
      omega
    · rw [if_pos hx, if_neg hy]
      omega
  · have := nearest_units_mono (show x.val.natAbs ≤ y.val.natAbs by omega)
    rw [if_neg hx, if_neg (by omega)]
    omega

/-- The integers that are doubles without exception. -/
def IsSafe (i : Int) : Prop :=
  -(2 ^ 53) ≤ i ∧ i ≤ 2 ^ 53

theorem integer_place_safe {i : Json.Integer} (h : IsSafe i.val) :
    (Json.Number.integer i).place = i.val * Binary64.unit := by
  obtain ⟨hlow, hhigh⟩ := h
  rw [integer_place, nearest_units_exact (by omega), Nat.cast_mul]
  by_cases hi : i.val < 0
  · rw [if_pos hi, ← Int.neg_mul, Int.ofNat_natAbs_of_nonpos hi.le, Int.neg_neg]
  · rw [if_neg hi, Int.natAbs_of_nonneg (by omega)]

theorem compare_integers (x y : Json.Integer) :
    compareValues (some (.ofInteger x)) (some (.ofInteger y)) =
    compare (Json.Number.integer x).place (Json.Number.integer y).place := by
  change ((Json.Number.integer x).toDouble.compare? (Json.Number.integer y).toDouble).getD .eq = _
  rw [Json.Number.compare_eq, Option.getD_some]

theorem lt_of_compare_integers {x y : Json.Integer}
    (h : compareValues (some (.ofInteger x)) (some (.ofInteger y)) = .lt) : x.val < y.val := by
  rw [compare_integers, Int.compare_eq_lt] at h
  by_contra hle
  exact Int.not_lt.mpr (integer_place_mono (Int.not_lt.mp hle)) h

theorem eq_of_compare_integers {x y : Json.Integer} (hx : IsSafe x.val) (hy : IsSafe y.val)
    (h : compareValues (some (.ofInteger x)) (some (.ofInteger y)) = .eq) : x.val = y.val := by
  rw [compare_integers, Int.compare_eq_eq, integer_place_safe hx, integer_place_safe hy] at h
  exact Int.eq_of_mul_eq_mul_right (by have := Binary64.unit_pos; omega) h

theorem gt_of_compare_integers {x y : Json.Integer}
    (h : compareValues (some (.ofInteger x)) (some (.ofInteger y)) = .gt) : y.val < x.val := by
  apply lt_of_compare_integers
  exact Std.OrientedCmp.lt_of_gt h

/-- Integers that are doubles compare as integers. -/
theorem compare_safe_integers {x y : Json.Integer} (hx : IsSafe x.val) (hy : IsSafe y.val) :
    compareValues (some (.ofInteger x)) (some (.ofInteger y)) = compare x.val y.val := by
  cases h : compareValues (some (.ofInteger x)) (some (.ofInteger y)) with
  | lt => exact (Int.compare_eq_lt.mpr (lt_of_compare_integers h)).symm
  | eq => exact (Int.compare_eq_eq.mpr (eq_of_compare_integers hx hy h)).symm
  | gt => exact (Int.compare_eq_gt.mpr (gt_of_compare_integers h)).symm

end Integers

section Columns

variable {sort : SortKeys} {key : String} {more : List String}

theorem row_keys_first (hkeys : sort.keys = key :: more)
    (horder : sort.orders.head?.getD .ascending = .ascending) :
    ∃ rest, sort.rowKeys = (segments key, .ascending) :: rest := by
  obtain ⟨keys, orders⟩ := sort
  subst hkeys
  cases orders with
  | nil => exact ⟨_, rfl⟩
  | cons order orders =>
    simp only [List.head?_cons, Option.getD_some] at horder
    subst horder
    exact ⟨_, rfl⟩

/-- Rows that a sort leaves in this order do not descend by the first key. -/
theorem first_key_not_gt (hkeys : sort.keys = key :: more)
    (horder : sort.orders.head?.getD .ascending = .ascending) {a b : Json}
    (h : (compareRows a b sort.rowKeys).isLE = true) :
    compareValues (a.get? (segments key)) (b.get? (segments key)) ≠ .gt := by
  intro hgt
  obtain ⟨rest, hrest⟩ := row_keys_first hkeys horder
  rw [hrest, compareRows, SortOrder.apply, hgt] at h
  cases h

/-- The integer at a path of a record, if there is one. -/
def integerAt (path : List String) (record : Json) : Json.Integer :=
  match record.get? path with
  | some (.number (.integer x)) => x
  | _ => ⟨0, by decide⟩

theorem integer_at_eq {path : List String} {record : Json} {x : Json.Integer}
    (h : record.get? path = some (.ofInteger x)) : integerAt path record = x := by
  rw [integerAt, h]
  rfl

/-- Integers are never put in the wrong order: of any two integers the one that compares as less is
less. Up to 2⁵³ in size they compare exactly. So if the first key of a sort is ascending and holds
such integers, the rows come out in the order of these integers. -/
theorem integer_order_kept :
    (∀ x y : Json.Integer,
      (compareValues (some (.ofInteger x)) (some (.ofInteger y)) = .lt → x.val < y.val) ∧
      (compareValues (some (.ofInteger x)) (some (.ofInteger y)) = .gt → y.val < x.val) ∧
      (IsSafe x.val → IsSafe y.val →
        compareValues (some (.ofInteger x)) (some (.ofInteger y)) = compare x.val y.val)) ∧
    ∀ (sort : SortKeys) (key : String) (more : List String) (records : List Json),
      sort.keys = key :: more →
      sort.orders.head?.getD .ascending = .ascending →
      (∀ record ∈ records, ∃ x : Json.Integer,
        IsSafe x.val ∧ record.get? (segments key) = some (.ofInteger x)) →
      ∃ (rows : List Json) (column : List Json.Integer),
        Pipeline.run { sort := some sort } (.array records) = .ok (.array rows) ∧
          rows.Perm records ∧
        rows.map (·.get? (segments key)) = column.map (fun x => some (.ofInteger x)) ∧
        column.Pairwise (·.val ≤ ·.val) := by
  refine ⟨?_, ?_⟩
  · intro x y
    exact ⟨lt_of_compare_integers, gt_of_compare_integers, compare_safe_integers⟩
  · intro sort key more records hkeys horder hrecords
    have hperm : (sortRows sort.rowKeys records).Perm records := List.mergeSort_perm ..
    have hrows : ∀ row ∈ sortRows sort.rowKeys records, ∃ x : Json.Integer,
        IsSafe x.val ∧ row.get? (segments key) = some (.ofInteger x) := by
      intro row hrow
      exact hrecords row (hperm.mem_iff.mp hrow)
    have hsorted :
        Ascends (fun a b => compareRows a b sort.rowKeys) (sortRows sort.rowKeys records) :=
      sort_by_ascends records
    refine ⟨_, (sortRows sort.rowKeys records).map (integerAt (segments key)), rfl, hperm, ?_, ?_⟩
    · rw [List.map_map]
      apply List.map_congr_left
      intro row hrow
      obtain ⟨x, _, hx⟩ := hrows row hrow
      rw [Function.comp_apply, integer_at_eq hx, hx]
    · rw [List.pairwise_map]
      apply List.Pairwise.imp_of_mem _ hsorted
      intro a b ha hb hle
      obtain ⟨x, hxsafe, hx⟩ := hrows a ha
      obtain ⟨y, hysafe, hy⟩ := hrows b hb
      have hnot := first_key_not_gt hkeys horder hle
      rw [hx, hy, compare_safe_integers hxsafe hysafe, Ne, Int.compare_eq_gt] at hnot
      rw [integer_at_eq hx, integer_at_eq hy]
      exact Int.not_lt.mp hnot

/-- Rows out of order, by a nested key with another behind it. -/
theorem nested_rows_sorted : ∃ (more less : Json.Integer) (sort : SortKeys) (records : List Json),
    more.val = 3 ∧ less.val = -1 ∧ IsSafe more.val ∧ IsSafe less.val ∧
    compareValues (some (.ofInteger more)) (some (.ofInteger less)) = .gt ∧ less.val < more.val ∧
    sort = ⟨["a.b", "c"], []⟩ ∧ sort.orders.head?.getD .ascending = .ascending ∧
    records = [more, less, more].map (fun x => .object [("a", .object [("b", .ofInteger x)])]) ∧
    (∀ record ∈ records, ∃ x : Json.Integer,
      IsSafe x.val ∧ record.get? (segments "a.b") = some (.ofInteger x)) ∧
    ∃ (rows : List Json) (column : List Json.Integer),
      Pipeline.run { sort := some sort } (.array records) = .ok (.array rows) ∧ rows.Perm records ∧
      rows.map (·.get? (segments "a.b")) = column.map (fun x => some (.ofInteger x)) ∧
      column.Pairwise (·.val ≤ ·.val) := by
  have hmore : IsSafe 3 := ⟨by decide, by decide⟩
  have hless : IsSafe (-1) := ⟨by decide, by decide⟩
  have hgt : compareValues (some (.ofInteger ⟨3, by decide⟩))
      (some (.ofInteger ⟨-1, by decide⟩)) = .gt :=
    (integer_order_kept.1 ⟨3, by decide⟩ ⟨-1, by decide⟩).2.2 hmore hless
  have hall : ∀ record ∈ [(⟨3, by decide⟩ : Json.Integer), ⟨-1, by decide⟩, ⟨3, by decide⟩].map
      (fun x => Json.object [("a", .object [("b", .ofInteger x)])]), ∃ x : Json.Integer,
      IsSafe x.val ∧ record.get? (segments "a.b") = some (.ofInteger x) := by
    simp only [List.map_cons, List.map_nil, List.forall_mem_cons]
    exact ⟨⟨_, hmore, rfl⟩, ⟨_, hless, rfl⟩, ⟨_, hmore, rfl⟩, nofun⟩
  exact ⟨_, _, _, _, rfl, rfl, hmore, hless, hgt, (integer_order_kept.1 _ _).2.1 hgt, rfl, rfl, rfl,
    hall, integer_order_kept.2 ⟨["a.b", "c"], []⟩ "a.b" ["c"] _ rfl rfl hall⟩

/-- One more than 2⁵³ is no double, and compares as its neighbour does. -/
example : compareValues (some (.ofNat (2 ^ 53 + 1))) (some (.ofNat (2 ^ 53))) = .eq := by
  decide +kernel

end Columns
end PathQuery
