import Mathlib.Algebra.Order.Ring.Nat
import Mathlib.Tactic.Linarith
import Mathlib.Tactic.Ring
import PathQuery.Number.Decimal

namespace PathQuery.Binary64

theorem unit_eq : unit = 2 ^ 1074 := by
  unfold unit
  generalize 1074 = n
  rfl

theorem beyond_eq : beyond = 2 ^ 2098 := by
  unfold beyond
  generalize 2098 = n
  rfl

theorem spacing_eq (units : Nat) : spacing units = 2 ^ (units.log2 - 52) := rfl

theorem unit_pos : 0 < unit := by
  rw [unit_eq]
  exact pow_pos (by decide) 1074

-- powers this large are never to be computed by unfolding
attribute [local irreducible] beyond unit

theorem spacing_pos (units : Nat) : 0 < spacing units :=
  Nat.two_pow_pos _

/-- The quotient is `k` if the number lies within half a step of it; both ends count when `k` is
even. -/
theorem nearest_quotient_eq {num den k : Nat} (hlow : 2 * (den * k) ≤ 2 * num + den)
    (hhigh : 2 * num ≤ 2 * (den * k) + den) (hends : k % 2 = 1 → 2 * (den * k) < 2 * num + den ∧
      2 * num < 2 * (den * k) + den) (hden : 0 < den) : nearestQuotient num den = k := by
  have hdiv := Nat.div_add_mod num den
  have hmod := Nat.mod_lt num hden
  have hle : num / den ≤ k := by
    by_contra hlt
    have := Nat.mul_le_mul_left den (Nat.succ_le_of_lt (Nat.lt_of_not_le hlt))
    rw [Nat.mul_succ] at this
    omega
  have hge : k ≤ num / den + 1 := by
    by_contra hlt
    have := Nat.mul_le_mul_left den (Nat.succ_le_of_lt (Nat.lt_of_not_le hlt))
    rw [Nat.mul_succ, Nat.mul_succ] at this
    omega
  unfold nearestQuotient
  rcases Nat.lt_or_eq_of_le hle with hlt | heq
  · -- the number lies below `k`, in the upper half of the step that ends there
    have hk : k = num / den + 1 := by omega
    have hprod : den * k = den * (num / den) + den := by rw [hk, Nat.mul_succ]
    dsimp only
    split_ifs <;> omega
  · have hprod : den * k = den * (num / den) := by rw [heq]
    dsimp only
    split_ifs <;> omega

/-- A double is a spacing at least away from the next power of two. -/
theorem add_spacing_le {units : Nat} (hd : spacing units ∣ units) :
    units + spacing units ≤ 2 ^ (units.log2 + 1) := by
  have hp : spacing units ∣ 2 ^ (units.log2 + 1) := Nat.pow_dvd_pow 2 (by omega)
  exact Nat.add_le_of_le_sub' (Nat.le_of_lt Nat.lt_log2_self)
    (Nat.le_of_dvd (Nat.sub_pos_of_lt Nat.lt_log2_self) (Nat.dvd_sub hp hd))

/-- A double that is no power of two is a spacing at least away from the one below. -/
theorem two_pow_add_spacing_le {units : Nat} (hu : 0 < units) (hd : spacing units ∣ units)
    (hne : units ≠ 2 ^ units.log2) : 2 ^ units.log2 + spacing units ≤ units := by
  have hle := Nat.log2_self_le hu.ne'
  have hp : spacing units ∣ 2 ^ units.log2 := Nat.pow_dvd_pow 2 (by omega)
  have :=
    Nat.le_of_dvd (Nat.sub_pos_of_lt (Nat.lt_of_le_of_ne hle (Ne.symm hne))) (Nat.dvd_sub hd hp)
  omega

/-- Rounding gives `units` if the quotient lies within half a step of it, for a step that divides
it. -/
theorem round_units_eq {units num den step : Nat} (hden : 0 < den) (hpos : 0 < step)
    (hstep : spacing (num / den) = step) (hd : step ∣ units)
    (hlow : 4 * (units * den) ≤ 4 * num + 2 * (step * den))
    (hhigh : 4 * num ≤ 4 * (units * den) + 2 * (step * den))
    (hends : units / step % 2 = 1 → 4 * (units * den) < 4 * num + 2 * (step * den) ∧
      4 * num < 4 * (units * den) + 2 * (step * den)) : roundUnits num den = units := by
  obtain ⟨m, rfl⟩ := hd
  rw [Nat.mul_div_cancel_left m hpos] at hends
  have hprod : den * step * m = step * m * den := by ring
  have hcomm : den * step = step * den := Nat.mul_comm den step
  have hnear : nearestQuotient num (den * step) = m :=
    nearest_quotient_eq (by omega) (by omega) (fun h => by have := hends h; omega)
      (Nat.mul_pos hden hpos)
  simp only [roundUnits, hstep, hnear, Nat.mul_comm]

/-- A double divided by one stays what it is. -/
theorem round_units_exact {units den : Nat} (hden : 0 < den) (hd : spacing units ∣ units) :
    roundUnits (units * den) den = units := by
  have hq : spacing (units * den / den) = spacing units := by rw [Nat.mul_div_cancel units hden]
  have hpos := Nat.mul_pos (spacing_pos units) hden
  exact round_units_eq hden (spacing_pos units) hq hd (by omega) (by omega) (fun _ => by omega)

end PathQuery.Binary64

namespace PathQuery.Decimal
open Binary64

theorem grid_num_eq (exponent : Int) : gridNum exponent = 4 * unit * 10 ^ exponent.toNat := rfl

theorem grid_den_eq (exponent : Int) : gridDen exponent = 10 ^ (-exponent).toNat := rfl

/-- A power of two whose neighbours below are closer: the interval is shorter on that side. -/
def IsEdge (units : Nat) : Prop :=
  1 < spacing units ∧ units = 2 ^ units.log2

theorem lower_end_of_edge {units : Nat} (h : IsEdge units) :
    lowerEnd units = 4 * units - spacing units := by
  simp only [lowerEnd, if_pos (show 1 < spacing units ∧ units = Nat.pow 2 units.log2 from h)]

theorem lower_end_of_not_edge {units : Nat} (h : ¬ IsEdge units) :
    lowerEnd units = 4 * units - 2 * spacing units := by
  simp only [lowerEnd, if_neg (show ¬ (1 < spacing units ∧ units = Nat.pow 2 units.log2) from h)]

theorem log_of_wide {units : Nat} (h : 1 < spacing units) : 53 ≤ units.log2 := by
  by_contra hsmall
  rw [spacing_eq, Nat.sub_eq_zero_of_le (by omega), Nat.pow_zero] at h
  omega

theorem spacing_half {units : Nat} (h : 53 ≤ units.log2) :
    spacing units = 2 * 2 ^ (units.log2 - 53) := by
  rw [spacing_eq, ← Nat.pow_succ']
  congr 1
  omega

theorem spacing_le {units : Nat} (hu : 0 < units) (hd : spacing units ∣ units) :
    spacing units ≤ units :=
  Nat.le_of_dvd hu hd

/-- A quotient in the interval of a double stays below the next power of two. -/
theorem quotient_lt_of_high {units num den : Nat} (hden : 0 < den) (hd : spacing units ∣ units)
    (hhigh : 4 * num ≤ upperEnd units * den) : num / den < 2 ^ (units.log2 + 1) := by
  have hq : 4 * (num / den) * den ≤ upperEnd units * den := by
    have := Nat.div_mul_le_self num den
    calc 4 * (num / den) * den = 4 * (num / den * den) := by ring
      _ ≤ 4 * num := by omega
      _ ≤ upperEnd units * den := hhigh
  have hle : 4 * (num / den) ≤ 4 * units + 2 * spacing units := Nat.le_of_mul_le_mul_right hq hden
  have := add_spacing_le hd
  have := spacing_pos units
  omega

/-- Away from an edge the quotient is spaced like the double whose interval it lies in. -/
theorem spacing_quotient_of_not_edge {units num den : Nat} (hden : 0 < den) (hu : 0 < units)
    (hd : spacing units ∣ units) (hne : ¬ IsEdge units) (hlow : lowerEnd units * den ≤ 4 * num)
    (hlt : num / den < 2 ^ (units.log2 + 1)) : spacing (num / den) = spacing units := by
  rcases Nat.lt_or_ge units.log2 53 with hsmall | hlarge
  · have hone : spacing units = 1 := by
      rw [spacing_eq, Nat.sub_eq_zero_of_le (by omega), Nat.pow_zero]
    have hq : (num / den).log2 < 53 := by
      rcases Nat.eq_zero_or_pos (num / den) with h0 | hpos
      · rw [h0, Nat.log2_zero]
        decide
      · exact (Nat.log2_lt hpos.ne').mpr
          (Nat.lt_of_lt_of_le hlt (Nat.pow_le_pow_right (by decide) (by omega)))
    rw [hone, spacing_eq, Nat.sub_eq_zero_of_le (by omega), Nat.pow_zero]
  · have hhalf := spacing_half hlarge
    have hpos := spacing_pos units
    have hpow : units ≠ 2 ^ units.log2 := fun h => hne ⟨by omega, h⟩
    have hbelow := two_pow_add_spacing_le hu hd hpow
    rw [lower_end_of_not_edge hne] at hlow
    have hq : (4 * units - 2 * spacing units) * den < 4 * (num / den + 1) * den := by
      have := Nat.lt_div_mul_add (a := num) hden
      calc (4 * units - 2 * spacing units) * den ≤ 4 * num := hlow
        _ < 4 * (num / den * den + den) := by omega
        _ = 4 * (num / den + 1) * den := by ring
    have := Nat.lt_of_mul_lt_mul_right hq
    have hlog : (num / den).log2 = units.log2 :=
      (Nat.log2_eq_iff (by have := Nat.two_pow_pos units.log2; omega)).mpr ⟨by omega, hlt⟩
    rw [spacing_eq, hlog, spacing_eq]

/-- Below an edge the quotient is spaced half as wide as the double. -/
theorem spacing_quotient_of_edge {units num den : Nat} (hden : 0 < den) (he : IsEdge units)
    (hlow : lowerEnd units * den ≤ 4 * num) (hlt : num < units * den) :
    spacing (num / den) = 2 ^ (units.log2 - 53) := by
  obtain ⟨hwide, hpow⟩ := he
  have hL := log_of_wide hwide
  have hhalf := spacing_half hL
  have hunits : units = 2 * 2 ^ (units.log2 - 1) := by
    rw [← Nat.pow_succ', Nat.succ_eq_add_one, Nat.sub_add_cancel (by omega)]
    exact hpow
  have hsmall : 2 ^ (units.log2 - 53) ≤ 2 ^ (units.log2 - 1) :=
    Nat.pow_le_pow_right (by decide) (by omega)
  rw [lower_end_of_edge ⟨hwide, hpow⟩] at hlow
  have hq : (4 * units - spacing units) * den < 4 * (num / den + 1) * den := by
    have := Nat.lt_div_mul_add (a := num) hden
    calc (4 * units - spacing units) * den ≤ 4 * num := hlow
      _ < 4 * (num / den * den + den) := by omega
      _ = 4 * (num / den + 1) * den := by ring
  have hge := Nat.lt_of_mul_lt_mul_right hq
  have hup : num / den < units := Nat.div_lt_of_lt_mul (by rwa [Nat.mul_comm])
  have hpos := Nat.two_pow_pos (units.log2 - 53)
  have hlog : (num / den).log2 = units.log2 - 1 := by
    rw [Nat.log2_eq_iff (by omega), Nat.sub_add_cancel (by omega), ← hpow]
    exact ⟨by omega, hup⟩
  rw [spacing_eq, hlog, Nat.sub_sub]

/-- Every quotient in the interval of a double is rounded to it. -/
theorem round_of_interval {units num den : Nat} (hden : 0 < den) (hu : 0 < units)
    (hd : spacing units ∣ units)
    (hlow : lowerEnd units * den ≤ 4 * num) (hhigh : 4 * num ≤ upperEnd units * den)
    (hends : units / spacing units % 2 = 1 →
      lowerEnd units * den < 4 * num ∧ 4 * num < upperEnd units * den) :
    roundUnits num den = units := by
  have hupper : upperEnd units * den = 4 * (units * den) + 2 * (spacing units * den) := by
    rw [upperEnd]
    ring
  have hlt := quotient_lt_of_high hden hd hhigh
  by_cases he : IsEdge units
  · have hlower : lowerEnd units * den = 4 * (units * den) - spacing units * den := by
      rw [lower_end_of_edge he, Nat.sub_mul]
      ring_nf
    have hle := Nat.mul_le_mul_right den (spacing_le hu hd)
    rcases Nat.lt_or_ge num (units * den) with hbelow | habove
    · have hhalf := spacing_half (log_of_wide he.1)
      have hwidth : spacing units * den = 2 * (2 ^ (units.log2 - 53) * den) := by rw [hhalf]; ring
      refine round_units_eq hden (Nat.two_pow_pos _) (spacing_quotient_of_edge hden he hlow hbelow)
        (Dvd.dvd.trans ⟨2, by rw [hhalf]; ring⟩ hd) (by omega) (by omega) ?_
      intro hodd
      obtain ⟨m, hm⟩ := hd
      have heven : units = 2 ^ (units.log2 - 53) * (2 * m) := by
        calc units = spacing units * m := hm
          _ = 2 ^ (units.log2 - 53) * (2 * m) := by rw [hhalf]; ring
      have : units / 2 ^ (units.log2 - 53) = 2 * m :=
        Nat.div_eq_of_eq_mul_right (Nat.two_pow_pos _) heven
      omega
    · have hlog : (num / den).log2 = units.log2 := by
        have hq : units ≤ num / den := (Nat.le_div_iff_mul_le hden).mpr habove
        have := Nat.log2_self_le hu.ne'
        exact (Nat.log2_eq_iff (by omega)).mpr ⟨by omega, hlt⟩
      have hpos := Nat.mul_pos (spacing_pos units) hden
      refine round_units_eq hden (spacing_pos units) (by rw [spacing_eq, hlog, spacing_eq]) hd
        (by omega) (by omega) ?_
      intro hodd
      have := hends hodd
      omega
  · have hlower : lowerEnd units * den = 4 * (units * den) - 2 * (spacing units * den) := by
      rw [lower_end_of_not_edge he, Nat.sub_mul]
      ring_nf
    have hle := Nat.mul_le_mul_right den (spacing_le hu hd)
    refine round_units_eq hden (spacing_pos units)
      (spacing_quotient_of_not_edge hden hu hd he hlow hlt) hd
      (by omega) (by omega) ?_
    intro hodd
    have := hends hodd
    omega

end PathQuery.Decimal
