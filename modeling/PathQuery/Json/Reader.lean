import PathQuery.Json.Basic
import PathQuery.Number.Reading
import PathQuery.Text.Basic
import PathQuery.Text.Taken

namespace PathQuery.Json

/-- The four characters of JSON white space. -/
def isSpace (c : Char) : Bool :=
  c = ' ' || c = '\t' || c = '\n' || c = '\r'

def skipSpace (text : List Char) : List Char :=
  text.dropWhile isSpace

theorem skip_space_length_le (text : List Char) : (skipSpace text).length ≤ text.length :=
  (List.dropWhile_suffix _).length_le

/-- The number that four hexadecimal digits stand for. -/
def hex4? (a b c d : Char) : Option Nat :=
  Text.basedValue? 16 [a, b, c, d]

/-- The character a short escape stands for. -/
def shortEscape? : Char → Option Char
  | '"' => some '"'
  | '\\' => some '\\'
  | '/' => some '/'
  | 'b' => some '\x08'
  | 'f' => some '\x0c'
  | 'n' => some '\n'
  | 'r' => some '\r'
  | 't' => some '\t'
  | _ => none

/-- The character of a pair of surrogates. -/
def surrogatePair? (high low : Nat) : Option Char :=
  if 0xD800 ≤ high ∧ high < 0xDC00 ∧ 0xDC00 ≤ low ∧ low < 0xE000 then
    some (Char.ofNat (0x10000 + (high - 0xD800) * 0x400 + (low - 0xDC00)))
  else none

/-- A character in front of what is read after it. -/
def prepend (c : Char) (result : Option (List Char × List Char)) : Option (List Char × List Char) :=
  result.map fun (text, rest) => (c :: text, rest)

theorem eq_some_of_prepend {c : Char} {result : Option (List Char × List Char)}
    {text rest : List Char}
    (h : prepend c result = some (text, rest)) : ∃ inner, result = some (inner, rest) := by
  cases result with
  | none => simp [prepend] at h
  | some pair =>
    simp only [prepend, Option.map_some, Option.some.injEq, Prod.mk.injEq] at h
    exact ⟨pair.1, by rw [← h.2]⟩

/-- Reads a string after its opening quote, up to and with the closing one. A surrogate counts only
in a pair, and control characters must be escaped. -/
def readString : List Char → Option (List Char × List Char)
  | [] => none
  | '"' :: rest => some ([], rest)
  | '\\' :: 'u' :: a :: b :: c :: d :: rest =>
    match hex4? a b c d with
    | none => none
    | some code =>
      if code < 0xD800 ∨ 0xE000 ≤ code then
        prepend (Char.ofNat code) (readString rest)
      else match rest with
        | '\\' :: 'u' :: e :: f :: g :: h :: rest =>
          match (hex4? e f g h).bind (surrogatePair? code) with
          | none => none
          | some character => prepend character (readString rest)
        | _ => none
  | '\\' :: c :: rest =>
    match shortEscape? c with
    | none => none
    | some character => prepend character (readString rest)
  | c :: rest =>
    if c.toNat < 0x20 ∨ c = '\\' then none
    else prepend c (readString rest)

theorem read_string_length_lt {text characters rest : List Char}
    (h : readString text = some (characters, rest)) : rest.length < text.length := by
  fun_induction readString text generalizing characters rest with
  | case1 => simp at h
  | case2 => simp_all
  | case3 => simp at h
  | case4 a b c d rest' code hc hr ih =>
    obtain ⟨inner, hi⟩ := eq_some_of_prepend h
    have := ih hi
    simp only [List.length_cons]
    omega
  | case5 => simp at h
  | case6 a b c d code hc hr e f g i rest' character hp ih =>
    obtain ⟨inner, hi⟩ := eq_some_of_prepend h
    have := ih hi
    simp only [List.length_cons]
    omega
  | case7 => simp at h
  | case8 => simp at h
  | case9 c rest' hu character hs ih =>
    obtain ⟨inner, hi⟩ := eq_some_of_prepend h
    have := ih hi
    simp only [List.length_cons]
    omega
  | case10 => simp at h
  | case11 c rest' hq hb hc hs ih =>
    obtain ⟨inner, hi⟩ := eq_some_of_prepend h
    have := ih hi
    simp only [List.length_cons]
    omega

/-- A JSON number between its parts. `none` for what is too large for a double. -/
def Number.ofParts? (negative : Bool) (whole places : List Char) (exponent? : Option Int) :
    Option Number :=
  let value := PathQuery.Number.digitsValue whole
  let double := fun (d : Binary64) => if h : d.isFinite then some (Number.double d h) else none
  match places, exponent? with
  | [], none =>
    if negative then
      if value = 0 then some (.double (.finite true 0 Binary64.fits_zero) rfl)
      else if h : value ≤ Nat.pow 2 63 then
        some (.integer ⟨-(value : Int), by simp only [Nat.pow_eq] at h ⊢; omega⟩)
      else double (.ofDecimal true value 0)
    else if h : value < Nat.pow 2 64 then
      some (.integer ⟨value, by simp only [Nat.pow_eq] at h ⊢; omega⟩)
    else double (.ofDecimal false value 0)
  | _, _ =>
    double (.ofDecimal negative (PathQuery.Number.digitsValue (whole ++ places))
      (exponent?.getD 0 - places.length))

/-- The exponent of a number, if one follows; `e` asks for digits. -/
def readExponent : List Char → Option (Option Int × List Char)
  | c :: rest =>
    if c = 'e' ∨ c = 'E' then
      let (negative, rest) := PathQuery.Number.splitSign rest
      let (digits, rest) := PathQuery.Number.splitDigits rest
      if digits = [] then none
      else
        let value : Int := PathQuery.Number.digitsValue digits
        some (some (if negative then -value else value), rest)
    else some (none, c :: rest)
  | [] => some (none, [])

/-- The digits after a point, if one follows; the point asks for digits. -/
def readPlaces : List Char → Option (List Char × List Char)
  | '.' :: rest =>
    let (digits, rest) := PathQuery.Number.splitDigits rest
    if digits = [] then none else some (digits, rest)
  | text => some ([], text)

/-- A minus sign at the head of a text, if there is one, and the rest. -/
def splitMinus : List Char → Bool × List Char
  | '-' :: rest => (true, rest)
  | text => (false, text)

/-- A number: no plus sign, no leading zero, digits on both sides of a point. -/
def readNumber (text : List Char) : Option (Number × List Char) :=
  let (negative, body) := splitMinus text
  let (whole, rest) := PathQuery.Number.splitDigits body
  if whole = [] ∨ (whole.head? = some '0' ∧ 1 < whole.length) then none
  else do
    let (places, rest) ← readPlaces rest
    let (exponent?, rest) ← readExponent rest
    return (← Number.ofParts? negative whole places exponent?, rest)

theorem split_minus_length_le (text : List Char) : (splitMinus text).2.length ≤ text.length := by
  unfold splitMinus
  split <;> simp

theorem split_sign_length_le (text : List Char) :
    (PathQuery.Number.splitSign text).2.length ≤ text.length := by
  unfold PathQuery.Number.splitSign
  split <;> simp

theorem split_digits_length_le (text : List Char) :
    (PathQuery.Number.splitDigits text).2.length ≤ text.length :=
  (List.dropWhile_suffix _).length_le

theorem split_digits_length_lt {text : List Char} (h : (PathQuery.Number.splitDigits text).1 ≠ []) :
    (PathQuery.Number.splitDigits text).2.length < text.length := by
  cases text with
  | nil => simp [PathQuery.Number.splitDigits] at h
  | cons c rest =>
    by_cases hc : c.isDigit
    · have := (List.dropWhile_suffix Char.isDigit (l := rest)).length_le
      simp only [PathQuery.Number.splitDigits, List.dropWhile_cons, hc, if_true, List.length_cons]
      omega
    · simp [PathQuery.Number.splitDigits, hc] at h

theorem read_exponent_length_le {text rest : List Char} {exponent : Option Int}
    (h : readExponent text = some (exponent, rest)) : rest.length ≤ text.length := by
  unfold readExponent at h
  split at h
  · next c after =>
    have h₁ := split_sign_length_le after
    have h₂ := split_digits_length_le (PathQuery.Number.splitSign after).2
    split at h
    · simp only at h
      split at h
      · simp at h
      · simp only [Option.some.injEq, Prod.mk.injEq] at h
        simp only [← h.2, List.length_cons]
        omega
    · simp_all
  · simp_all

theorem read_places_length_le {text places rest : List Char}
    (h : readPlaces text = some (places, rest)) : rest.length ≤ text.length := by
  unfold readPlaces at h
  split at h
  · next after =>
    have := split_digits_length_le after
    simp only at h
    split at h
    · simp at h
    · simp only [Option.some.injEq, Prod.mk.injEq] at h
      simp only [← h.2, List.length_cons]
      omega
  · simp_all

theorem read_number_length_lt {text rest : List Char} {value : Number}
    (h : readNumber text = some (value, rest)) : rest.length < text.length := by
  simp only [readNumber] at h
  split at h
  · simp at h
  · next hw =>
    simp only [Option.bind_eq_bind, Option.bind_eq_some_iff, Prod.exists, Option.pure_def,
      Option.some.injEq, Prod.mk.injEq] at h
    obtain ⟨places, afterPlaces, hp, exponent, afterExponent, he, number, -, -, rfl⟩ := h
    have h₁ := split_minus_length_le text
    have h₂ : (PathQuery.Number.splitDigits (splitMinus text).2).2.length <
        (splitMinus text).2.length :=
      split_digits_length_lt fun h => hw (.inl h)
    have h₃ := read_places_length_le hp
    have h₄ := read_exponent_length_le he
    omega

/-- Passes over white space. -/
def skipper : Skipper :=
  fun text => some ⟨skipSpace text, skip_space_length_le text⟩

/-- A value that holds no other ones. -/
def readScalar : (text : List Char) → Option (Taken Json text)
  | 'n' :: 'u' :: 'l' :: 'l' :: rest => some ⟨(.null, rest), by simp only [List.length_cons]; omega⟩
  | 't' :: 'r' :: 'u' :: 'e' :: rest =>
    some ⟨(.bool true, rest), by simp only [List.length_cons]; omega⟩
  | 'f' :: 'a' :: 'l' :: 's' :: 'e' :: rest =>
    some ⟨(.bool false, rest), by simp only [List.length_cons]; omega⟩
  | '"' :: rest =>
    match h : readString rest with
    | none => none
    | some (characters, after) =>
      some ⟨(.string (String.ofList characters), after),
        Nat.lt_succ_of_lt (read_string_length_lt h)⟩
  | text =>
    match h : readNumber text with
    | none => none
    | some (value, rest) => some ⟨(.number value, rest), read_number_length_lt h⟩

/-- One field of an object: a key, a colon and a value. -/
def readField (item : Taker Json) (text : List Char) : Option (Taken (String × Json) text) :=
  match text with
  | '"' :: rest =>
    match h : readString rest with
    | none => none
    | some (key, after) =>
      match hs : skipSpace after with
      | ':' :: body =>
        have hb : body.length ≤ ('"' :: rest).length := by
          have h₁ := read_string_length_lt h
          have h₂ := skip_space_length_le after
          simp only [hs, List.length_cons] at h₂ ⊢
          omega
        (item body).map fun taken => (taken.map fun value => (String.ofList key, value)).widen hb
      | _ => none
  | _ => none

/-- Reads one value, with at most `depth` arrays and objects around each other. Of two fields with
one key the later one counts. -/
def readValue (depth : Nat) (text : List Char) : Option (Taken Json text) :=
  match h : skipSpace text with
  | [] => none
  | c :: rest =>
    have hc : (c :: rest).length ≤ text.length := h ▸ skip_space_length_le text
    have hr : rest.length ≤ text.length := Nat.le_of_succ_le hc
    match depth with
    | 0 => (readScalar (c :: rest)).map (Taken.widen hc)
    | depth + 1 =>
      if c = '[' then
        (takeItems skipper ']' false (readValue depth) rest).map fun taken =>
          (taken.map Json.array).widen hr
      else if c = '\x7b' then
        (takeItems skipper '\x7d' false (readField (readValue depth)) rest).map fun taken =>
          (taken.map fun fields => Json.object (Fields.ofList fields)).widen hr
      else (readScalar (c :: rest)).map (Taken.widen hc)

/-- How many arrays and objects may stand around each other. -/
def depthLimit : Nat := 127

/-- The value a text holds, if the text is one JSON value with white space around it. -/
def parse? (text : String) : Option Json := do
  let ⟨(value, rest), _⟩ ← readValue depthLimit text.toList
  if skipSpace rest = [] then some value else none

end PathQuery.Json
