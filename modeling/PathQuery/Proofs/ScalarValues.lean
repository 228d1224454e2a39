import PathQuery.Proofs.IntegerOrder
import PathQuery.Proofs.ParsedQueries

namespace PathQuery

namespace Number

theorem split_digits_exponent (power : List Char) :
    splitDigits ('e' :: power) = ([], 'e' :: power) := by
  simp [splitDigits, show Char.isDigit 'e' = false from rfl]

section Exponent

variable {negative : Bool} {whole places power : List Char} {exponent : Int}

theorem read_whole_exponent (hne : whole ≠ []) (hw : ∀ c ∈ whole, c.isDigit = true)
    (hread : readExponent? ('e' :: power) = some exponent) :
    readDecimal? negative (whole ++ 'e' :: power) =
      some (.ofDecimal negative (digitsValue whole) exponent) := by
  simp [readDecimal?, split_digits_append hw, split_digits_exponent, hne, hread]

theorem read_places_exponent (hne : whole ≠ []) (hw : ∀ c ∈ whole, c.isDigit = true)
    (hp : ∀ c ∈ places, c.isDigit = true) (hread : readExponent? ('e' :: power) = some exponent) :
    readDecimal? negative (whole ++ '.' :: (places ++ 'e' :: power)) =
      some (.ofDecimal negative (digitsValue (whole ++ places)) (exponent - places.length)) := by
  have hpoint : ∀ rest, splitDigits ('.' :: rest) = ([], '.' :: rest) := by
    intro rest
    simp [splitDigits, show Char.isDigit '.' = false from rfl]
  simp [readDecimal?, split_digits_append hw, split_digits_append hp, hpoint,
    split_digits_exponent, hne, hread]

end Exponent

theorem read_natural_text (n : Nat) : readNatural? (Decimal.digitText n) = some n := by
  have hall : (Decimal.digitText n).all Char.isDigit = true :=
    List.all_eq_true.mpr (digit_text_digits n)
  rw [readNatural?, if_pos ⟨Decimal.digit_text_ne_nil n, hall⟩, digits_value_text]

/-- A signed exponent is read as itself. -/
theorem read_exponent_text (exponent : Int) :
    readExponent?
      ('e' :: ((if exponent < 0 then ['-'] else ['+']) ++ Decimal.digitText exponent.natAbs)) =
      some exponent := by
  by_cases hneg : exponent < 0
  · rw [if_pos hneg]
    simp [readExponent?, splitSign, read_natural_text, abs_of_neg hneg]
  · rw [if_neg hneg]
    simp [readExponent?, splitSign, read_natural_text]
    omega

end Number

namespace Decimal

/-- A decimal with one digit before the point is read as its number. -/
theorem read_scientific (negative : Bool) (d : Decimal) :
    Number.readDecimal? negative d.scientific = some (.ofDecimal negative d.digits d.exponent) := by
  have hpower := Number.read_exponent_text d.leadingExponent
  have hdigits := Number.digit_text_digits d.digits
  have hvalue := Number.digits_value_text d.digits
  unfold leadingExponent at hpower
  unfold scientific leadingExponent
  dsimp only
  cases htext : digitText d.digits with
  | nil => exact absurd htext (digit_text_ne_nil d.digits)
  | cons c rest =>
    rw [htext] at hpower hdigits hvalue
    cases rest with
    | nil =>
      refine (Number.read_whole_exponent (List.cons_ne_nil c []) hdigits hpower).trans ?_
      rw [hvalue, List.length_singleton]
      congr 2
      omega
    | cons c' rest =>
      refine (Number.read_places_exponent (List.cons_ne_nil c []) ?_ ?_ hpower).trans ?_
      · intro x hx
        exact hdigits x (by simp_all)
      · intro x hx
        exact hdigits x (List.mem_cons_of_mem c hx)
      · rw [List.singleton_append, hvalue, List.length_cons, List.length_cons]
        congr 2
        omega

/-- A whole decimal with a zero after the point. -/
theorem read_positional_point {d : Decimal} (negative : Bool) (h : 0 ≤ d.exponent) :
    Number.readDecimal? negative (d.positional ++ ['.', '0']) =
      some (.ofDecimal negative (d.digits * 10 ^ d.exponent.toNat * 10) (-1)) := by
  have hdigits := Number.digit_text_digits d.digits
  unfold positional
  dsimp only
  rw [if_pos h, Number.read_decimal_places]
  · have hzero :=
      Number.digits_value_zeros (digitText d.digits ++ List.replicate d.exponent.toNat '0') 1
    rw [List.replicate_one] at hzero
    rw [hzero, Number.digits_value_zeros, Number.digits_value_text]
    rfl
  · simp [digit_text_ne_nil]
  · intro c hc
    exact zeros_digits hdigits _ c (List.mem_append.mp hc)
  · intro c hc
    rw [List.mem_singleton.mp hc]
    rfl

end Decimal

namespace Binary64

attribute [local irreducible] beyond unit

section Scale

variable {k : Nat}

theorem nearest_quotient_scale (hk : 0 < k) (num den : Nat) :
    nearestQuotient (num * k) (den * k) = nearestQuotient num den := by
  unfold nearestQuotient
  dsimp only
  rw [Nat.mul_div_mul_right _ _ hk, Nat.mul_mod_mul_right, ← Nat.mul_assoc]
  simp only [Nat.mul_lt_mul_right hk]

theorem round_units_scale (hk : 0 < k) (num den : Nat) :
    roundUnits (num * k) (den * k) = roundUnits num den := by
  unfold roundUnits
  dsimp only
  rw [Nat.mul_div_mul_right _ _ hk, Nat.mul_right_comm den k, nearest_quotient_scale hk]

end Scale

/-- Digits alone are read as the double nearest to their number. -/
theorem of_decimal_integer (negative : Bool) (n : Nat) :
    ofDecimal negative n 0 = ofQuotient negative (n * unit) 1 := by
  by_cases hn : n = 0
  · have hround : roundUnits (n * unit) 1 = 0 := by
      rw [hn, Nat.zero_mul]
      exact round_units_exact Nat.one_pos (Nat.dvd_zero _)
    rw [ofDecimal, if_pos hn, of_quotient_of_round fits_zero hround]
  · rw [ofDecimal, if_neg hn, if_neg (by decide), if_neg (by omega)]
    simp

theorem finite_of_round_lt {num den : Nat} (negative : Bool) (h : roundUnits num den < beyond) :
    (ofQuotient negative num den).isFinite = true := by
  simp only [ofQuotient, dif_pos h, isFinite]

theorem fits_one : Fits 1 :=
  fits_two_pow (show 0 < 2098 by decide)

/-- The first number beyond those of 64 bits is a double. -/
theorem fits_word_limit : Fits (2 ^ 64 * unit) := by
  rw [unit_eq, ← Nat.pow_add]
  exact fits_two_pow (by decide)

/-- No JSON integer is as large as an infinity. -/
theorem round_integer_lt {n : Nat} (h : n ≤ 2 ^ 64) : roundUnits (n * unit) 1 < beyond := by
  have hexact : roundUnits (2 ^ 64 * unit) 1 = 2 ^ 64 * unit := by
    simpa using round_units_exact Nat.one_pos fits_word_limit.2
  calc roundUnits (n * unit) 1 ≤ roundUnits (2 ^ 64 * unit) 1 :=
        round_units_mono Nat.one_pos (Nat.mul_le_mul_right unit h)
    _ = 2 ^ 64 * unit := hexact
    _ < beyond := fits_word_limit.1

end Binary64

attribute [local irreducible] Binary64.beyond Binary64.unit

/-- A double has no decimal whose exponent is beyond all doubles. -/
theorem Decimal.shortest_exponent_le {tie : TieRule} {units : Nat} (hlt : units < Binary64.beyond) :
    (shortest tie units).exponent ≤ 400 := by
  have hlog : units.log2 ≤ 2097 := by
    by_cases hu : units = 0
    · simp [hu]
    · rw [Binary64.beyond_eq, ← Nat.log2_lt hu] at hlt
      omega
  unfold shortest
  cases hf : (List.range 24).findSome? fun (i : Nat) =>
    onGrid? tie units (topExponent units - i) with
  | some d =>
    obtain ⟨i, _, hi⟩ := List.exists_of_findSome?_eq_some hf
    have hexponent := (rounds_to_of_on_grid hi).1
    unfold topExponent at hexponent
    rw [Option.getD_some]
    omega
  | none =>
    rw [Option.getD_none]
    exact show (-1074 : Int) ≤ 400 by decide

namespace Json

/-- However JSON lays out a decimal, it is read as the double the decimal is rounded to. -/
theorem read_decimal_text {negative : Bool} {units : Nat} {d : Decimal} (hu : 0 < units)
    (hd : Binary64.Fits units) (hexp : d.exponent ≤ 400)
    (hround : Binary64.roundUnits (d.digits * Binary64.unit * 10 ^ d.exponent.toNat)
      (10 ^ (-d.exponent).toNat) = units) :
    Number.readDecimal? negative (decimalText d) = some (.finite negative units hd) := by
  have hread : Binary64.ofDecimal negative d.digits d.exponent = .finite negative units hd :=
    Binary64.of_decimal_of_round hu hd hexp hround
  unfold decimalText
  by_cases hplain : -5 ≤ d.leadingExponent ∧ d.leadingExponent ≤ 15
  · rw [if_pos hplain]
    by_cases hwhole : 0 ≤ d.exponent
    · rw [if_pos hwhole, Decimal.read_positional_point negative hwhole, Option.some.injEq]
      apply Binary64.of_decimal_of_round hu hd (by decide)
      -- the zero after the point makes both sides of the quotient ten times as large
      have hscale := Binary64.round_units_scale (show 0 < 10 by decide)
        (d.digits * Binary64.unit * 10 ^ d.exponent.toNat) 1
      have hone : (-d.exponent).toNat = 0 := by omega
      rw [hone, Nat.pow_zero] at hround
      rw [← hround, ← hscale]
      congr 1
      rw [show (-1 : Int).toNat = 0 from rfl]
      ring
    · have hnum : d.exponent.toNat = 0 := by omega
      have hden : -((-d.exponent).toNat : Int) = d.exponent := by omega
      rw [if_neg hwhole, Decimal.read_positional, hnum, Nat.pow_zero, Nat.mul_one, hden, hread]
  · rw [if_neg hplain, Decimal.read_scientific, hread]

theorem decimal_text_head (d : Decimal) :
    ∃ c rest, decimalText d = c :: rest ∧ c.isDigit = true := by
  unfold decimalText
  split
  · obtain ⟨c, rest, htext, hc⟩ := (Decimal.positional_unsigned d).head
    split
    · exact ⟨c, rest ++ ['.', '0'], by rw [htext, List.cons_append], hc⟩
    · exact ⟨c, rest, htext, hc⟩
  · have hdigits := Number.digit_text_digits d.digits
    unfold Decimal.scientific
    dsimp only
    split
    · rename_i htext
      exact absurd htext (Decimal.digit_text_ne_nil d.digits)
    · rename_i c htext
      exact ⟨c, _, rfl, hdigits c (by simp [htext])⟩
    · rename_i c rest _ htext
      exact ⟨c, _, rfl, hdigits c (by simp [htext])⟩

/-- A double is read back from its JSON text, with the sign of a zero. -/
theorem read_double_text {value : Binary64} (hf : value.isFinite = true) :
    readNumberWord? (doubleText value) = some value := by
  cases value with
  | infinite negative => cases hf
  | notANumber negative fraction pattern => cases hf
  | finite negative units fits =>
    rw [doubleText]
    by_cases hu : units = 0
    · subst hu
      rw [if_pos rfl]
      exact read_word_sign ⟨'0', ['.', '0'], rfl, rfl⟩ rfl rfl
    · rw [if_neg hu]
      refine read_word_sign (decimal_text_head _) ?_ rfl
      have hpos := Nat.pos_of_ne_zero hu
      exact read_decimal_text hpos fits (Decimal.shortest_exponent_le fits.1)
        (Decimal.round_shortest hpos fits.2)

/-- An integer is read as the double nearest to it. -/
theorem read_integer_text {i : Int} (h : i.natAbs ≤ 2 ^ 64) :
    readNumberWord? (integerText i) = some (.ofInt i) := by
  have hfinite := Binary64.finite_of_round_lt (decide (i < 0)) (Binary64.round_integer_lt h)
  rw [integerText, Binary64.ofInt]
  refine read_word_sign (Decimal.digits_unsigned i.natAbs).head ?_ hfinite
  rw [Number.read_decimal_whole (Decimal.digit_text_ne_nil _) (Number.digit_text_digits _),
    Number.digits_value_text, Binary64.of_decimal_integer]

theorem read_number_text (n : Number) : readNumberWord? n.text = some n.toDouble := by
  cases n with
  | integer value =>
    have hrange := value.property
    simp only [Nat.pow_eq] at hrange
    exact read_integer_text (by omega)
  | double value finite => exact read_double_text finite

/-- The value of a query that a scalar stands for. -/
inductive Denotes : Json → Literal → Prop
  | null : Denotes .null .null
  | bool (b : Bool) : Denotes (.bool b) (.bool b)
  | number (n : Number) : Denotes (.number n) (.number n.toDouble)

end Json

theorem parse_of_reads {chars : List Char} {value : Literal}
    (hread : ReadsAs readValue isWordChar chars value)
    (hhead : ∃ c after, chars = c :: after ∧ Text.isBlank c = false) :
    Literal.parse (String.ofList chars) = .ok value := by
  obtain ⟨c, after, rfl, hc⟩ := hhead
  apply parse_literal_iff.mpr
  refine ⟨[], ?_, Text.blank_nil⟩
  rw [String.toList_ofList, Text.skip_blanks_cons hc]
  exact hread.alone _

section Scalars

variable {value : Json} {literal : Literal}

/-- The text of a scalar is read as the value it stands for. -/
theorem parse_scalar (h : value.Denotes literal) : Literal.parse value.plainText = .ok literal := by
  cases h with
  | null => exact parse_of_reads Literal.readable_null.read Literal.readable_null.head
  | bool b =>
    have hreadable := Literal.readable_bool b
    cases b with
    | true => exact parse_of_reads hreadable.read hreadable.head
    | false => exact parse_of_reads hreadable.read hreadable.head
  | number n =>
    have hread := Json.read_number_text n
    exact parse_of_reads (Literal.reads_number_word hread) (Literal.number_word_not_blank hread)

theorem Json.Denotes.not_template (h : value.Denotes literal) (text : String) :
    literal ≠ .template text := by
  intro he
  cases h <;> cases he

theorem Json.Denotes.admitted {comparator : Comparator} (h : value.Denotes literal)
    (hc : comparator ≠ .matches) : comparator.admits literal = true := by
  cases comparator with
  | «matches» => exact absurd rfl hc
  | _ => cases h <;> rfl

end Scalars

/-- A path of names holds no placeholder. -/
theorem valid_path_names {path : String} (h : isValidPath path.toList = true) :
    Marker.braces.names path = [] := by
  have hrun : takeRun ⟨.braces, []⟩ isPathChar 0 path.toList = .ok ⟨path.toList, false, []⟩ := by
    have := @take_run_plain isPathChar [] path.toList [] (valid_path_chars h) (ends_nil isPathChar)
    rwa [List.append_nil] at this
  by_contra hnames
  rw [← String.ofList_toList (s := path)] at hnames
  cases (templated_iff hrun).mpr hnames

/-- A scalar that a context brings keeps its kind and its value: a condition that waits for it
becomes the condition on the number, truth value or null that it is. -/
theorem scalar_value_kept (key : String) (comparator : Comparator) (context : Context)
    (value : Json) (literal : Literal)
    (hkey : isValidPath key.toList = true) (hcomparator : comparator ≠ .matches)
    (hvalue : context.find? "x" = some value) (hscalar : value.Denotes literal) :
    Condition.fill (Marker.braces.fill context) ⟨key, comparator, .template "\x7b\x7bx\x7d\x7d"⟩ =
      .ok ⟨key, comparator, literal⟩ := by
  have hpieces : Marker.braces.pieces "\x7b\x7bx\x7d\x7d" = [.placeholder ['x']] := by decide
  apply (fill_waiting_iff (Marker.fill_without_names (valid_path_names hkey)) hkey
    (fill_one_placeholder hpieces hvalue)).mpr
  exact ⟨rfl, rfl, parse_scalar hscalar, hscalar.not_template, hscalar.admitted hcomparator⟩

/-- The greatest integer is rounded up to 2⁶⁴, and the least negative double, which is written with
an exponent, is kept. -/
theorem extreme_numbers_kept :
    isValidPath "a.b".toList = true ∧
    (Json.ofNat (2 ^ 64 - 1)).Denotes
      (.number (.finite false (2 ^ 64 * Binary64.unit) Binary64.fits_word_limit)) ∧
    Condition.fill (Marker.braces.fill [("x", .ofNat (2 ^ 64 - 1))])
        ⟨"a.b", .ge, .template "\x7b\x7bx\x7d\x7d"⟩ =
      .ok ⟨"a.b", .ge, .number (.finite false (2 ^ 64 * Binary64.unit) Binary64.fits_word_limit)⟩ ∧
    (Json.number (.double (.finite true 1 Binary64.fits_one) rfl)).Denotes
      (.number (.finite true 1 Binary64.fits_one)) ∧
    Condition.fill
      (Marker.braces.fill [("x", .number (.double (.finite true 1 Binary64.fits_one) rfl))])
        ⟨"a.b", .ge, .template "\x7b\x7bx\x7d\x7d"⟩ =
      .ok ⟨"a.b", .ge, .number (.finite true 1 Binary64.fits_one)⟩ := by
  have hkey : isValidPath "a.b".toList = true := by decide
  have hcomparator : Comparator.ge ≠ .matches := by decide
  have hgreatest : (Json.ofNat (2 ^ 64 - 1)).Denotes
      (.number (.finite false (2 ^ 64 * Binary64.unit) Binary64.fits_word_limit)) := by
    have hround : Binary64.ofInt ((2 ^ 64 - 1 : Nat) : Int) =
        .finite false (2 ^ 64 * Binary64.unit) Binary64.fits_word_limit := by decide +kernel
    rw [← hround]
    exact .number _
  have hleast : (Json.number (.double (.finite true 1 Binary64.fits_one) rfl)).Denotes
      (.number (.finite true 1 Binary64.fits_one)) := .number _
  exact ⟨hkey, hgreatest, scalar_value_kept _ _ _ _ _ hkey hcomparator rfl hgreatest, hleast,
    scalar_value_kept _ _ _ _ _ hkey hcomparator rfl hleast⟩

end PathQuery
