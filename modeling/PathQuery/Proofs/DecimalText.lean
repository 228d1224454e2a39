import PathQuery.Proofs.Rounding
import PathQuery.Query.Lexer
import PathQuery.Query.Printer

namespace PathQuery

namespace Number

theorem digits_value_eq (digits : List Char) :
    digitsValue digits = Nat.ofDigitChars 10 digits 0 := rfl

theorem digits_value_text (n : Nat) : digitsValue (Decimal.digitText n) = n :=
  Nat.ofDigitChars_ten_toDigits

theorem digits_value_zeros (digits : List Char) (n : Nat) :
    digitsValue (digits ++ List.replicate n '0') = digitsValue digits * 10 ^ n := by
  rw [digits_value_eq, Nat.ofDigitChars_append, Nat.ofDigitChars_replicate_zero, Nat.mul_comm]
  rfl

theorem digits_value_leading_zeros (n : Nat) (digits : List Char) :
    digitsValue (List.replicate n '0' ++ digits) = digitsValue digits := by
  rw [digits_value_eq, Nat.ofDigitChars_append, Nat.ofDigitChars_replicate_zero, Nat.mul_zero]
  rfl

theorem digit_text_digits (n : Nat) : ∀ c ∈ Decimal.digitText n, c.isDigit = true :=
  fun _ hc => Nat.isDigit_of_mem_toDigits (by decide) (by decide) hc

theorem split_digits_append {digits : List Char} (h : ∀ c ∈ digits, c.isDigit = true)
    (rest : List Char) :
    splitDigits (digits ++ rest) = (digits ++ (splitDigits rest).1, (splitDigits rest).2) := by
  simp only [splitDigits, List.takeWhile_append_of_pos h, List.dropWhile_append_of_pos h]

theorem split_digits_all {digits : List Char} (h : ∀ c ∈ digits, c.isDigit = true) :
    splitDigits digits = (digits, []) := by
  have := split_digits_append h []
  simpa [splitDigits] using this

/-- Digits alone are a decimal without places. -/
theorem read_decimal_whole {negative : Bool} {digits : List Char} (hne : digits ≠ [])
    (h : ∀ c ∈ digits, c.isDigit = true) :
    readDecimal? negative digits = some (.ofDecimal negative (digitsValue digits) 0) := by
  simp [readDecimal?, split_digits_all h, hne, readExponent?]

/-- Digits on both sides of a point are one number, scaled by the digits after the point. -/
theorem read_decimal_places {negative : Bool} {whole places : List Char} (hne : whole ≠ [])
    (hw : ∀ c ∈ whole, c.isDigit = true) (hp : ∀ c ∈ places, c.isDigit = true) :
    readDecimal? negative (whole ++ '.' :: places) =
      some (.ofDecimal negative (digitsValue (whole ++ places)) (-(places.length : Int))) := by
  have hpoint : splitDigits ('.' :: places) = ([], '.' :: places) := by
    simp [splitDigits, show Char.isDigit '.' = false from rfl]
  simp [readDecimal?, split_digits_append hw, hpoint, split_digits_all hp, hne, readExponent?]

end Number

namespace Decimal

theorem digit_text_ne_nil (n : Nat) : digitText n ≠ [] :=
  Nat.toDigits_ne_nil

/-- Digits, perhaps with a point and further digits after them. -/
def IsUnsigned (text : List Char) : Prop :=
  ∃ whole places : List Char, whole ≠ [] ∧ (∀ c ∈ whole, c.isDigit = true) ∧
    (∀ c ∈ places, c.isDigit = true) ∧
    (text = whole ∨ places ≠ [] ∧ text = whole ++ '.' :: places)

theorem IsUnsigned.head {text : List Char} (h : IsUnsigned text) :
    ∃ c rest, text = c :: rest ∧ c.isDigit = true := by
  obtain ⟨whole, places, hne, hw, _, ht⟩ := h
  obtain ⟨c, rest, rfl⟩ := List.exists_cons_of_ne_nil hne
  have hc := hw c List.mem_cons_self
  rcases ht with rfl | ⟨_, rfl⟩
  · exact ⟨c, rest, rfl, hc⟩
  · exact ⟨c, _, rfl, hc⟩

theorem digits_unsigned (n : Nat) : IsUnsigned (digitText n) :=
  ⟨digitText n, [], digit_text_ne_nil n, Number.digit_text_digits n, by simp, .inl rfl⟩

theorem zeros_digits {digits : List Char} (h : ∀ c ∈ digits, c.isDigit = true) (n : Nat) :
    ∀ c, c ∈ digits ∨ c ∈ List.replicate n '0' → c.isDigit = true := by
  rintro c (hd | hr)
  · exact h c hd
  · rw [List.eq_of_mem_replicate hr]
    rfl

theorem positional_unsigned (d : Decimal) : IsUnsigned d.positional := by
  have hdig := Number.digit_text_digits d.digits
  have hpos := List.length_pos_iff.mpr (digit_text_ne_nil d.digits)
  unfold positional
  dsimp only
  split
  · refine ⟨_, [], ?_, fun c hc => zeros_digits hdig _ c (List.mem_append.mp hc), by simp, .inl rfl⟩
    simp [digit_text_ne_nil]
  · split
    · refine ⟨(digitText d.digits).take _, (digitText d.digits).drop _, ?_,
        fun c hc => hdig c (List.mem_of_mem_take hc), fun c hc => hdig c (List.mem_of_mem_drop hc),
        .inr ⟨?_, by rw [List.append_assoc, List.singleton_append]⟩⟩
      · rw [Ne, List.take_eq_nil_iff, or_iff_left (digit_text_ne_nil d.digits)]
        omega
      · rw [Ne, List.drop_eq_nil_iff]
        omega
    · refine ⟨['0'],
        List.replicate ((-d.exponent).toNat - (digitText d.digits).length) '0'
          ++ digitText d.digits,
        by simp, by simp, fun c hc => zeros_digits hdig _ c (List.mem_append.mp hc).symm,
        .inr ⟨?_, ?_⟩⟩
      · simp [digit_text_ne_nil]
      · simp

/-- A decimal text is read as its number: the zeros of a positive exponent count as digits. -/
theorem read_positional (negative : Bool) (d : Decimal) :
    Number.readDecimal? negative d.positional =
      some (.ofDecimal negative (d.digits * 10 ^ d.exponent.toNat)
        (-((-d.exponent).toNat : Int))) := by
  have hdig := Number.digit_text_digits d.digits
  unfold positional
  dsimp only
  split
  · rename_i hpos
    have hzero : (-d.exponent).toNat = 0 := by omega
    rw [Number.read_decimal_whole]
    · rw [Number.digits_value_zeros, Number.digits_value_text, hzero, Int.natCast_zero,
        Int.neg_zero]
    · simp [digit_text_ne_nil]
    · exact fun c hc => zeros_digits hdig _ c (List.mem_append.mp hc)
  · rename_i hneg
    have hzero : d.exponent.toNat = 0 := by omega
    rw [hzero, Nat.pow_zero, Nat.mul_one]
    split
    · rename_i hlt
      rw [List.append_assoc, List.singleton_append, Number.read_decimal_places]
      · rw [List.take_append_drop, Number.digits_value_text, List.length_drop,
          Nat.sub_sub_self hlt.le]
      · rw [Ne, List.take_eq_nil_iff, or_iff_left (digit_text_ne_nil d.digits)]
        omega
      · exact fun c hc => hdig c (List.mem_of_mem_take hc)
      · exact fun c hc => hdig c (List.mem_of_mem_drop hc)
    · rename_i hge
      rw [show ['0', '.'] ++ List.replicate ((-d.exponent).toNat - (digitText d.digits).length) '0'
          ++ digitText d.digits = ['0'] ++ '.' :: (List.replicate
            ((-d.exponent).toNat - (digitText d.digits).length) '0' ++ digitText d.digits) by simp,
        Number.read_decimal_places]
      · rw [← List.append_assoc, show ['0'] = List.replicate 1 '0' from rfl,
          List.replicate_append_replicate, Number.digits_value_leading_zeros,
          Number.digits_value_text, List.length_append, List.length_replicate,
          Nat.sub_add_cancel (Nat.not_lt.mp hge)]
      · simp
      · simp
      · exact fun c hc => zeros_digits hdig _ c (List.mem_append.mp hc).symm

end Decimal

namespace Decimal
open Binary64

attribute [local irreducible] beyond unit

theorem grid_den_pos (exponent : Int) : 0 < gridDen exponent :=
  Nat.pow_pos (by decide)

/-- What rounds to a double by its interval is rounded to it. -/
theorem round_of_rounds_to {units digits : Nat} {exponent : Int} (hu : 0 < units)
    (hd : spacing units ∣ units) (h : roundsTo units digits exponent = true) :
    roundUnits (digits * unit * 10 ^ exponent.toNat) (gridDen exponent) = units := by
  have hvalue : digits * gridNum exponent = 4 * (digits * unit * 10 ^ exponent.toNat) := by
    rw [grid_num_eq]
    ring
  unfold roundsTo at h
  dsimp only at h
  rw [hvalue] at h
  refine round_of_interval (grid_den_pos exponent) hu hd ?_ ?_ ?_
  · split at h <;> simp only [decide_eq_true_eq] at h <;> omega
  · split at h <;> simp only [decide_eq_true_eq] at h <;> omega
  · intro hodd
    rw [if_neg (by omega)] at h
    simpa using h

theorem rounds_to_of_on_grid {tie : TieRule} {units : Nat} {exponent : Int} {d : Decimal}
    (h : onGrid? tie units exponent = some d) :
    d.exponent = exponent ∧ roundsTo units d.digits exponent = true := by
  unfold onGrid? at h
  grind

/-- The shortest decimal is rounded to the double it is made for. -/
theorem round_shortest {tie : TieRule} {units : Nat} (hu : 0 < units) (hd : spacing units ∣ units) :
    roundUnits ((shortest tie units).digits * unit * 10 ^ (shortest tie units).exponent.toNat)
      (gridDen (shortest tie units).exponent) = units := by
  unfold shortest
  cases hf : (List.range 24).findSome? fun (i : Nat) =>
    onGrid? tie units (topExponent units - i) with
  | some d =>
    obtain ⟨i, _, hi⟩ := List.exists_of_findSome?_eq_some hf
    obtain ⟨he, hr⟩ := rounds_to_of_on_grid hi
    rw [Option.getD_some, he]
    exact round_of_rounds_to hu hd hr
  | none =>
    have hten : unit * 5 ^ 1074 = gridDen (-1074) := by
      rw [unit_eq, grid_den_eq, ← mul_pow, show (-(-1074 : Int)).toNat = 1074 from rfl,
        show 2 * 5 = 10 from rfl]
    rw [Option.getD_none]
    dsimp only
    rw [show (-1074 : Int).toNat = 0 from rfl, Nat.pow_zero, Nat.mul_one, Nat.mul_assoc,
      Nat.pow_eq, Nat.mul_comm (5 ^ 1074), hten]
    exact round_units_exact (grid_den_pos _) hd

end Decimal

namespace Binary64

attribute [local irreducible] beyond unit

/-- Less than half a unit is rounded to nothing. -/
theorem half_le_of_round {units num den : Nat} (hu : 0 < units) (h : roundUnits num den = units) :
    den ≤ 2 * num := by
  by_contra hlt
  have hq : num / den = 0 := Nat.div_eq_of_lt (by omega)
  have hone : spacing (num / den) = 1 := by rw [hq]; rfl
  have hzero : roundUnits num den = 0 := by
    simp only [roundUnits, hone, Nat.mul_one, nearestQuotient,
      Nat.mod_eq_of_lt (show num < den by omega)]
    rw [if_pos (by omega), hq]
  omega

/-- Decimals that round to a positive double are not among those that are settled as zero. -/
theorem small_exponent_absurd {units digits : Nat} {exponent : Int} (hu : 0 < units)
    (h : roundUnits (digits * unit * 10 ^ exponent.toNat) (10 ^ (-exponent).toNat) = units) :
    ¬ exponent + digits.log2 + 1 < -400 := by
  intro hsmall
  have hle := half_le_of_round hu h
  have hexp : exponent.toNat = 0 := by omega
  have hdig : digits < 2 ^ (digits.log2 + 1) := Nat.lt_log2_self
  have hten : 2 ^ (3 * (-exponent).toNat) ≤ 10 ^ (-exponent).toNat := by
    rw [Nat.pow_mul]
    exact Nat.pow_le_pow_left (by decide) _
  have : 2 ^ (3 * (-exponent).toNat) < 2 ^ (digits.log2 + 1 + 1075) := by
    calc 2 ^ (3 * (-exponent).toNat) ≤ 10 ^ (-exponent).toNat := hten
      _ ≤ 2 * (digits * unit * 10 ^ exponent.toNat) := hle
      _ = digits * (2 * unit) := by rw [hexp]; ring
      _ = digits * 2 ^ 1075 := by rw [unit_eq, ← Nat.pow_succ']
      _ < 2 ^ (digits.log2 + 1) * 2 ^ 1075 := Nat.mul_lt_mul_of_pos_right hdig (Nat.two_pow_pos _)
      _ = 2 ^ (digits.log2 + 1 + 1075) := (Nat.pow_add _ _ _).symm
  have := (Nat.pow_lt_pow_iff_right (by decide)).mp this
  omega

theorem of_quotient_of_round {negative : Bool} {units num den : Nat} (hd : Fits units)
    (h : roundUnits num den = units) : ofQuotient negative num den = .finite negative units hd := by
  subst h
  rw [ofQuotient, dif_pos hd.1]

/-- A decimal whose exponent is not too large is read as the double it is rounded to. -/
theorem of_decimal_of_round {negative : Bool} {units digits : Nat} {exponent : Int} (hu : 0 < units)
    (hd : Fits units) (hexp : exponent ≤ 400)
    (h : roundUnits (digits * unit * 10 ^ exponent.toNat) (10 ^ (-exponent).toNat) = units) :
    ofDecimal negative digits exponent = .finite negative units hd := by
  have hdig : digits ≠ 0 := by
    rintro rfl
    have := half_le_of_round hu h
    have := Nat.pow_pos (n := (-exponent).toNat) (show 0 < 10 by decide)
    omega
  rw [ofDecimal, if_neg hdig, if_neg (by omega), if_neg (small_exponent_absurd hu h)]
  exact of_quotient_of_round hd h

/-- The same number without the sign of a zero. -/
def plainZero : Binary64 → Binary64
  | .finite _ 0 _ => .finite false 0 fits_zero
  | n => n

theorem plain_zero_of_pos {negative : Bool} {units : Nat} (hu : 0 < units) (hd : Fits units) :
    plainZero (.finite negative units hd) = .finite negative units hd := by
  cases units with
  | zero => omega
  | succ n => rfl

/-- Leaving out the sign of a zero keeps the number. -/
theorem plain_zero_same {n : Binary64} (hf : n.isFinite = true) :
    n.plainZero.sameNumber n = true := by
  cases n with
  | finite negative units fits =>
    cases units with
    | zero => cases negative <;> rfl
    | succ n => simp [plainZero, sameNumber, compare?, position?]
  | infinite negative => cases hf
  | notANumber negative fraction pattern => cases hf

end Binary64

attribute [local irreducible] Binary64.unit Binary64.beyond

theorem split_sign_digit {c : Char} {rest : List Char} (hc : c.isDigit = true) :
    Number.splitSign (c :: rest) = (false, c :: rest) := by
  unfold Number.splitSign
  split
  · rename_i h
    cases h
    cases hc
  · rename_i h
    cases h
    cases hc
  · rfl

/-- A sign before a decimal is read as the sign of the decimal. -/
theorem read_word_sign {negative : Bool} {body : List Char} {n : Binary64}
    (hhead : ∃ c rest, body = c :: rest ∧ c.isDigit = true)
    (hread : Number.readDecimal? negative body = some n)
    (hf : n.isFinite = true) : readNumberWord? (Binary64.signText negative ++ body) = some n := by
  obtain ⟨c, rest, rfl, hc⟩ := hhead
  cases negative with
  | true =>
    simp [readNumberWord?, Binary64.signText, Number.splitSign, hc, hread, hf]
  | false =>
    simp [readNumberWord?, Binary64.signText, split_sign_digit hc, hc, hread, hf]

/-- A positive double in full is read as itself. -/
theorem read_full_text {negative : Bool} {units : Nat} (hu : 0 < units) (hd : Binary64.Fits units) :
    readNumberWord? (Binary64.fullText (.finite negative units hd)) =
      some (.finite negative units hd) := by
  rw [Binary64.fullText, if_neg (by omega)]
  refine read_word_sign (Decimal.positional_unsigned _).head ?_ rfl
  rw [Decimal.read_positional, Option.some.injEq]
  refine Binary64.of_decimal_of_round hu hd (by omega) ?_
  have := @Decimal.round_shortest .up units hu hd.2
  rw [Decimal.grid_den_eq] at this
  rw [Int.neg_neg, Int.toNat_natCast, Int.toNat_neg_natCast, Nat.pow_zero, Nat.mul_one,
    Nat.mul_right_comm]
  exact this

/-- A whole number in digits is read as the double it is. -/
theorem read_whole_text {negative : Bool} {whole : Nat} (hpos : 0 < whole)
    (hd : Binary64.Fits (whole * Binary64.unit)) :
    readNumberWord? (Binary64.signText negative ++ Decimal.digitText whole) =
      some (.finite negative (whole * Binary64.unit) hd) := by
  refine read_word_sign (Decimal.digits_unsigned whole).head ?_ rfl
  rw [Number.read_decimal_whole (Decimal.digit_text_ne_nil whole) (Number.digit_text_digits whole),
    Number.digits_value_text, Option.some.injEq]
  refine Binary64.of_decimal_of_round (Nat.mul_pos hpos Binary64.unit_pos) hd (by decide) ?_
  simpa using Binary64.round_units_exact Nat.one_pos hd.2

theorem number_text_whole {negative : Bool} {whole : Nat} (hlt : whole < 10 ^ 15)
    (hd : Binary64.Fits (whole * Binary64.unit)) :
    numberText (.finite negative (whole * Binary64.unit) hd) =
      Binary64.signText (negative && decide (0 < whole)) ++ Decimal.digitText whole := by
  have hbound : whole < Nat.pow 10 15 := hlt
  rw [numberText, Binary64.toInt?, if_pos (Nat.mul_mod_left _ _),
    Nat.mul_div_cancel _ Binary64.unit_pos]
  cases negative with
  | true =>
    simp only [if_true, Int.natAbs_neg, Int.natAbs_natCast, if_pos hbound, Bool.true_and]
    congr 2
    exact decide_eq_decide.mpr (by omega)
  | false =>
    simp only [Bool.false_eq_true, if_false, Int.natAbs_natCast, if_pos hbound, Bool.false_and]
    rw [decide_eq_false (by omega)]

/-- What is no whole number below 10¹⁵ is written in full. -/
theorem number_text_full {negative : Bool} {units : Nat} (hd : Binary64.Fits units)
    (h : ∀ whole, units = whole * Binary64.unit → 10 ^ 15 ≤ whole) :
    numberText (.finite negative units hd) = Binary64.fullText (.finite negative units hd) := by
  rw [numberText, Binary64.toInt?]
  by_cases hw : units % Binary64.unit = 0
  · have hbound : Nat.pow 10 15 ≤ units / Binary64.unit :=
      h _ (Nat.div_mul_cancel (Nat.dvd_of_mod_eq_zero hw)).symm
    rw [if_pos hw]
    cases negative with
    | true =>
      simp only [if_true, Int.natAbs_neg, Int.natAbs_natCast, if_neg (Nat.not_lt.mpr hbound)]
    | false =>
      simp only [Bool.false_eq_true, if_false, Int.natAbs_natCast, if_neg (Nat.not_lt.mpr hbound)]
  · rw [if_neg hw]

/-- A double is a whole number below 10¹⁵, or else it is written in full and is not zero. -/
theorem whole_or_full (negative : Bool) {units : Nat} (hd : Binary64.Fits units) :
    (∃ whole, units = whole * Binary64.unit ∧ whole < 10 ^ 15) ∨
      0 < units ∧
        numberText (.finite negative units hd) = Binary64.fullText (.finite negative units hd) := by
  by_cases hw : ∃ whole, units = whole * Binary64.unit ∧ whole < 10 ^ 15
  · exact .inl hw
  · refine .inr ⟨?_, number_text_full hd fun whole he => Nat.not_lt.mp fun hlt =>
      hw ⟨whole, he, hlt⟩⟩
    rcases Nat.eq_zero_or_pos units with rfl | hpos
    · exact absurd ⟨0, (Nat.zero_mul _).symm, by decide⟩ hw
    · exact hpos

/-- A number in a query is read back, up to the sign of a zero. -/
theorem read_number_text {n : Binary64} (hf : n.isFinite = true) :
    readNumberWord? (numberText n) = some n.plainZero := by
  cases n with
  | infinite negative => cases hf
  | notANumber negative fraction pattern => cases hf
  | finite negative units fits =>
    rcases whole_or_full negative fits with ⟨whole, rfl, hlt⟩ | ⟨hu, hfull⟩
    · rw [number_text_whole hlt]
      rcases Nat.eq_zero_or_pos whole with rfl | hpos
      · simp only [Nat.zero_mul, decide_eq_false (Nat.lt_irrefl 0), Bool.and_false]
        rfl
      · rw [decide_eq_true hpos, Bool.and_true, read_whole_text hpos fits,
          Binary64.plain_zero_of_pos (Nat.mul_pos hpos Binary64.unit_pos)]
    · rw [hfull, read_full_text hu fits, Binary64.plain_zero_of_pos hu]

theorem read_word_finite {word : List Char} {n : Binary64} (h : readNumberWord? word = some n) :
    n.isFinite = true := by
  unfold readNumberWord? at h
  dsimp only at h
  split at h
  · exact (Option.filter_eq_some_iff.mp h).2
  · cases h

/-- The text of a finite number is a decimal with a sign or none. -/
theorem number_text_form {n : Binary64} (hf : n.isFinite = true) :
    ∃ negative body, Decimal.IsUnsigned body ∧
      numberText n = Binary64.signText negative ++ body := by
  cases n with
  | infinite negative => cases hf
  | notANumber negative fraction pattern => cases hf
  | finite negative units fits =>
    rcases whole_or_full negative fits with ⟨whole, rfl, hlt⟩ | ⟨hu, hfull⟩
    · exact ⟨_, _, Decimal.digits_unsigned whole, number_text_whole hlt fits⟩
    · refine ⟨negative, (Decimal.shortest .up units).positional, Decimal.positional_unsigned _, ?_⟩
      rw [hfull, Binary64.fullText, if_neg (by omega)]

end PathQuery
