namespace PathQuery

namespace Binary64

/-- The units of the number one. -/
def unit : Nat := Nat.pow 2 1074

/-- The units of the first power of two beyond all finite doubles. -/
def beyond : Nat := Nat.pow 2 2098

/-- The distance between neighbouring doubles around a size: 53 binary digits are kept. -/
def spacing (units : Nat) : Nat :=
  Nat.pow 2 (units.log2 - 52)

/-- The sizes of finite doubles: 53 binary digits at most, and below the first power of two
beyond. -/
def Fits (units : Nat) : Prop :=
  units < beyond ∧ spacing units ∣ units

instance (units : Nat) : Decidable (Fits units) :=
  inferInstanceAs (Decidable (_ ∧ _))

end Binary64

/-- A double: a sign with a number of units of 2⁻¹⁰⁷⁴, an infinity, or no number at all. What is no
number keeps the sign and the fraction of its pattern, which mean nothing. -/
inductive Binary64 where
  | finite (negative : Bool) (units : Nat) (fits : Binary64.Fits units)
  | infinite (negative : Bool)
  | notANumber (negative : Bool) (fraction : Nat) (pattern : 0 < fraction ∧ fraction < Nat.pow 2 52)
deriving DecidableEq, Repr

namespace Binary64

theorem two_pow_le_beyond {n : Nat} (h : n ≤ 2098) : Nat.pow 2 n ≤ beyond := by
  unfold beyond
  generalize 2098 = m at h
  exact Nat.pow_le_pow_right (by decide) h

/-- A multiple of a power of two by at most 2⁵³ keeps all its digits. -/
theorem spacing_dvd_of_short {k : Nat} (hk : k ≤ Nat.pow 2 53) (e : Nat) :
    spacing (k * Nat.pow 2 e) ∣ k * Nat.pow 2 e := by
  unfold spacing
  simp only [Nat.pow_eq] at hk ⊢
  rcases Nat.eq_zero_or_pos k with rfl | hpos
  · simp
  rcases Nat.lt_or_eq_of_le hk with hlt | rfl
  · have hne : k * 2 ^ e ≠ 0 := Nat.ne_of_gt (Nat.mul_pos hpos (Nat.two_pow_pos e))
    have hlog : (k * 2 ^ e).log2 < 53 + e := by
      rw [Nat.log2_lt hne, Nat.pow_add]
      exact Nat.mul_lt_mul_of_pos_right hlt (Nat.two_pow_pos e)
    exact Nat.dvd_mul_left_of_dvd (Nat.pow_dvd_pow 2 (by omega)) k
  · rw [← Nat.pow_add, Nat.log2_two_pow]
    exact Nat.pow_dvd_pow 2 (Nat.sub_le _ _)

theorem fits_zero : Fits 0 :=
  ⟨Nat.lt_of_lt_of_le Nat.one_pos (two_pow_le_beyond (Nat.zero_le 2098)), Nat.dvd_zero _⟩

theorem fits_two_pow {n : Nat} (h : n < 2098) : Fits (Nat.pow 2 n) := by
  refine ⟨Nat.lt_of_lt_of_le (Nat.pow_lt_pow_succ (by decide)) (two_pow_le_beyond h), ?_⟩
  have hdvd := spacing_dvd_of_short (k := 1) (by decide) n
  rwa [Nat.one_mul] at hdvd

theorem fits_unit : Fits unit :=
  fits_two_pow (n := 1074) (by decide)

-- powers this large are never to be computed by unfolding
attribute [local irreducible] beyond unit

def zero : Binary64 := .finite false 0 fits_zero

def one : Binary64 := .finite false unit fits_unit

instance : Inhabited Binary64 :=
  ⟨zero⟩

/-- The usual pattern of what is no number. -/
def nan : Binary64 := .notANumber false (Nat.pow 2 51) (by decide)

def ofBool (b : Bool) : Binary64 :=
  if b then one else zero

/-- The quotient rounded to the nearest whole number, a half going to the even neighbour. -/
def nearestQuotient (num den : Nat) : Nat :=
  let quotient := num / den
  let rest := num % den
  if 2 * rest < den then quotient
  else if den < 2 * rest then quotient + 1
  else quotient + quotient % 2

/-- The quotient of two numbers of units, rounded to 53 binary digits. -/
def roundUnits (num den : Nat) : Nat :=
  let step := spacing (num / den)
  nearestQuotient num (den * step) * step

theorem nearest_quotient_le (num den : Nat) : nearestQuotient num den ≤ num / den + 1 := by
  unfold nearestQuotient
  dsimp only
  split
  · exact Nat.le_succ _
  · split
    · exact Nat.le_refl _
    · omega

/-- What rounding gives has no more digits than a double. -/
theorem spacing_dvd_round (num den : Nat) : spacing (roundUnits num den) ∣ roundUnits num den := by
  unfold roundUnits
  refine spacing_dvd_of_short ?_ _
  refine Nat.le_trans (nearest_quotient_le _ _) ?_
  rw [← Nat.div_div_eq_div_mul]
  refine Nat.succ_le_of_lt ?_
  simp only [spacing, Nat.pow_eq]
  rw [Nat.div_lt_iff_lt_mul (Nat.two_pow_pos _), ← Nat.pow_add]
  exact Nat.lt_of_lt_of_le Nat.lt_log2_self (Nat.pow_le_pow_right (by decide) (by omega))

/-- The double nearest to a quotient of numbers of units. -/
def ofQuotient (negative : Bool) (num den : Nat) : Binary64 :=
  if h : roundUnits num den < beyond then
    .finite negative (roundUnits num den) ⟨h, spacing_dvd_round num den⟩
  else .infinite negative

/-- The double nearest to an integer. -/
def ofInt (i : Int) : Binary64 :=
  ofQuotient (i < 0) (i.natAbs * unit) 1

/-- The double nearest to `digits · 10 ^ exponent`. Sizes far outside the range are settled without
computing the power. -/
def ofDecimal (negative : Bool) (digits : Nat) (exponent : Int) : Binary64 :=
  if digits = 0 then .finite negative 0 fits_zero
  else if 400 < exponent then .infinite negative
  else if exponent + digits.log2 + 1 < -400 then .finite negative 0 fits_zero
  else ofQuotient negative (digits * unit * Nat.pow 10 exponent.toNat)
    (Nat.pow 10 (-exponent).toNat)

/-- Where a double stands on the line of all numbers, in units; an infinity stands beyond all finite
ones. -/
def position? : Binary64 → Option Int
  | .finite negative units _ => some (if negative then -(units : Int) else units)
  | .infinite negative => some (if negative then -(beyond : Int) else beyond)
  | .notANumber .. => none

/-- How two doubles compare as numbers, if both are numbers. The two zeros are equal. -/
def compare? (a b : Binary64) : Option Ordering := do
  return compare (← a.position?) (← b.position?)

/-- Equality as numbers. -/
def sameNumber (a b : Binary64) : Bool :=
  a.compare? b == some .eq

def isFinite : Binary64 → Bool
  | .finite .. => true
  | _ => false

def isNaN : Binary64 → Bool
  | .notANumber .. => true
  | _ => false

/-- The whole number a double is, if it is one. -/
def toInt? : Binary64 → Option Int
  | .finite negative units _ =>
    if units % unit = 0 then
      some (if negative then -((units / unit : Nat) : Int) else (units / unit : Nat))
    else none
  | _ => none

/-- A fraction of 52 binary digits is the size of a double. -/
theorem fits_fraction {fraction : Nat} (h : fraction < Nat.pow 2 52) : Fits fraction := by
  refine ⟨Nat.lt_of_lt_of_le h (two_pow_le_beyond (by decide)), ?_⟩
  have hshort : fraction ≤ Nat.pow 2 53 := Nat.le_of_lt (Nat.lt_trans h (by decide))
  have hdvd := spacing_dvd_of_short hshort 0
  rwa [Nat.pow_eq, Nat.pow_zero, Nat.mul_one] at hdvd

/-- A fraction behind a leading one, moved up by an exponent of the range, is the size of a
double. -/
theorem fits_shifted {fraction exponent : Nat} (h : fraction < Nat.pow 2 52)
    (he : exponent ≤ 2045) : Fits ((Nat.pow 2 52 + fraction) * Nat.pow 2 exponent) := by
  have hshort : Nat.pow 2 52 + fraction < Nat.pow 2 53 := Nat.add_lt_add_left h (Nat.pow 2 52)
  refine ⟨?_, spacing_dvd_of_short (Nat.le_of_lt hshort) exponent⟩
  calc (Nat.pow 2 52 + fraction) * Nat.pow 2 exponent < Nat.pow 2 53 * Nat.pow 2 exponent :=
        Nat.mul_lt_mul_of_pos_right hshort (Nat.two_pow_pos _)
    _ = Nat.pow 2 (53 + exponent) := (Nat.pow_add 2 53 exponent).symm
    _ ≤ beyond := two_pow_le_beyond (by omega)

/-- The double a 64-bit pattern stands for. -/
def ofBits (bits : UInt64) : Binary64 :=
  let word := bits.toNat
  let negative := Nat.pow 2 63 ≤ word
  let exponent := word / Nat.pow 2 52 % Nat.pow 2 11
  let fraction := word % Nat.pow 2 52
  have hfraction : fraction < Nat.pow 2 52 := Nat.mod_lt _ (by decide)
  have hexponent : exponent < 2048 := Nat.mod_lt _ (by decide)
  if hlast : exponent = 2047 then
    if hzero : fraction = 0 then .infinite negative
    else .notANumber negative fraction ⟨Nat.pos_of_ne_zero hzero, hfraction⟩
  else if exponent = 0 then .finite negative fraction (fits_fraction hfraction)
  else
    .finite negative ((Nat.pow 2 52 + fraction) * Nat.pow 2 (exponent - 1))
      (fits_shifted hfraction (by omega))

/-- The 64-bit pattern of a double. -/
def toBits (x : Binary64) : UInt64 :=
  let signed := fun (negative : Bool) (word : Nat) =>
    UInt64.ofNat ((if negative then Nat.pow 2 63 else 0) + word)
  match x with
  | .finite negative units _ =>
    if units < Nat.pow 2 52 then signed negative units
    else
      let shift := units.log2 - 52
      signed negative ((shift + 1) * Nat.pow 2 52 + (units / Nat.pow 2 shift - Nat.pow 2 52))
  | .infinite negative => signed negative (2047 * Nat.pow 2 52)
  | .notANumber negative fraction _ => signed negative (2047 * Nat.pow 2 52 + fraction)

end Binary64
end PathQuery
