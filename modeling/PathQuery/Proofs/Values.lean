import PathQuery.Proofs.Reading

namespace PathQuery

/-- Whether every backslash of a pattern starts a pair whose second character is not a slash. -/
def isWellEscaped : List Char → Bool
  | [] => true
  | ['\\'] => false
  | '\\' :: c :: rest => c ≠ '/' && isWellEscaped rest
  | _ :: rest => isWellEscaped rest

theorem read_quoted_text (text rest : List Char) :
    readQuoted '"' (text.flatMap (fun c => if c = '"' || c = '\\' then ['\\', c] else [c]) ++
      '"' :: rest) =
      some (text, rest) := by
  induction text with
  | nil => rfl
  | cons c text ih =>
    rw [List.flatMap_cons, List.append_assoc]
    by_cases hc : (c = '"' || c = '\\') = true
    · rw [if_pos hc, List.cons_append, List.cons_append, List.nil_append, readQuoted, ih]
      rfl
    · rw [if_neg hc, List.cons_append, List.nil_append]
      simp only [Bool.or_eq_true, decide_eq_true_eq, not_or] at hc
      rw [read_quoted_cons hc.2, if_neg hc.1, ih]
      rfl

theorem well_escaped_cons {c : Char} (hc : c ≠ '\\') (rest : List Char) :
    isWellEscaped (c :: rest) = isWellEscaped rest := by
  rw [isWellEscaped]
  · intro h
    exact absurd h hc
  · intro d rest' h
    exact absurd h hc

theorem read_pattern_text {pattern : List Char} (h : isWellEscaped pattern = true)
    (rest : List Char) :
    readPatternBody (Text.replaceChar '/' ['\\', '/'] pattern ++ '/' :: rest) =
      some (pattern, rest) := by
  fun_induction isWellEscaped pattern with
  | case1 => rfl
  | case2 => cases h
  | case3 c tail ih =>
    simp only [Bool.and_eq_true, decide_eq_true_eq] at h
    have ih := ih h.2
    simp only [Text.replaceChar] at ih
    simp [Text.replaceChar, h.1, readPatternBody, ih]
  | case4 c tail hend hpair ih =>
    have hc := ne_backslash hend hpair
    have ih := ih h
    simp only [Text.replaceChar] at ih
    by_cases hslash : c = '/'
    · simp [Text.replaceChar, hslash, readPatternBody, ih]
    · simp [Text.replaceChar, hslash, read_pattern_body_cons hc, ih]

theorem read_pattern_well_escaped {text pattern rest : List Char}
    (h : readPatternBody text = some (pattern, rest)) : isWellEscaped pattern = true := by
  fun_induction readPatternBody text generalizing pattern with
  | case1 => cases h
  | case2 => cases h
  | case3 c tail ih =>
    obtain ⟨⟨inner, after⟩, hr, he⟩ := Option.map_eq_some_iff.mp h
    cases he
    split
    · rw [well_escaped_cons (by decide)]
      exact ih hr
    · rename_i hc
      simp [isWellEscaped, hc, ih hr]
  | case4 tail =>
    cases h
    rfl
  | case5 c tail hend hpair hslash ih =>
    obtain ⟨⟨inner, after⟩, hr, he⟩ := Option.map_eq_some_iff.mp h
    cases he
    rw [well_escaped_cons (ne_backslash hend hpair)]
    exact ih hr

/-- The characters of a number in a query: digits, a point, signs and the mark of an exponent. -/
def isNumberChar (c : Char) : Bool :=
  c.isDigit || ['.', '+', '-', 'e', 'E'].contains c

section NumberWords

variable {text : List Char}

theorem number_chars_of_digits (h : text.all Char.isDigit = true) :
    text.all isNumberChar = true := by
  apply List.all_eq_true.mpr
  intro c hc
  simp [isNumberChar, List.all_eq_true.mp h c hc]

/-- A sign is one character of a number, or there is none. -/
theorem split_sign_chars (h : (Number.splitSign text).2.all isNumberChar = true) :
    text.all isNumberChar = true := by
  unfold Number.splitSign at h
  split at h
  · simpa [isNumberChar] using h
  · simpa [isNumberChar] using h
  · exact h

theorem read_natural_chars {n : Nat} (h : Number.readNatural? text = some n) :
    text.all isNumberChar = true := by
  unfold Number.readNatural? at h
  split at h
  · rename_i hdigits
    exact number_chars_of_digits hdigits.2
  · cases h

theorem read_exponent_chars {exponent : Int} (h : Number.readExponent? text = some exponent) :
    text.all isNumberChar = true := by
  cases text with
  | nil => rfl
  | cons c rest =>
    rw [Number.readExponent?] at h
    split at h
    · rename_i hmark
      obtain ⟨_, hread, _⟩ := Option.map_eq_some_iff.mp h
      obtain ⟨n, hn, _⟩ := Option.bind_eq_some_iff.mp hread
      have hrest := split_sign_chars (read_natural_chars hn)
      rcases hmark with rfl | rfl
      · simpa [isNumberChar] using hrest
      · simpa [isNumberChar] using hrest
    · cases h

theorem split_digits_chars (h : (Number.splitDigits text).2.all isNumberChar = true) :
    text.all isNumberChar = true := by
  rw [← List.takeWhile_append_dropWhile (p := Char.isDigit) (l := text), List.all_append,
    Bool.and_eq_true]
  exact ⟨number_chars_of_digits List.all_takeWhile, h⟩

theorem read_decimal_chars {negative : Bool} {n : Binary64}
    (h : Number.readDecimal? negative text = some n) : text.all isNumberChar = true := by
  unfold Number.readDecimal? at h
  dsimp only at h
  apply split_digits_chars
  split at h
  · rename_i rest hpoint
    split at h
    · cases h
    · obtain ⟨exponent, he, _⟩ := Option.map_eq_some_iff.mp h
      have hrest := split_digits_chars (read_exponent_chars he)
      rw [hpoint]
      simpa [isNumberChar] using hrest
  · split at h
    · cases h
    · obtain ⟨exponent, he, _⟩ := Option.map_eq_some_iff.mp h
      exact read_exponent_chars he

variable {word : List Char} {n : Binary64}

/-- What is read as a number is made of the characters of a number. -/
theorem number_word_chars (h : readNumberWord? word = some n) : word.all isNumberChar = true := by
  unfold readNumberWord? at h
  dsimp only at h
  split at h
  · obtain ⟨hread, _⟩ := Option.filter_eq_some_iff.mp h
    exact split_sign_chars (read_decimal_chars hread)
  · cases h

/-- It begins with a sign, a point or a digit. -/
theorem number_word_head (h : readNumberWord? word = some n) :
    ∃ c tail, word = c :: tail ∧ (c.isDigit || ['.', '+', '-'].contains c) = true := by
  cases word with
  | nil => cases h
  | cons c tail =>
    refine ⟨c, tail, rfl, ?_⟩
    unfold readNumberWord? Number.splitSign at h
    dsimp only at h
    split at h
    · rename_i he
      cases he
      rfl
    · rename_i he
      cases he
      rfl
    · split at h
      · rename_i hc
        simp only [List.head?_cons, Option.any_some, Bool.or_eq_true, decide_eq_true_eq] at hc
        rcases hc with hc | rfl
        · rw [hc, Bool.true_or]
        · rfl
      · cases h

end NumberWords

namespace Literal

/-- The value that is read back: a zero without its sign. -/
def plain : Literal → Literal
  | .number n => .number n.plainZero
  | value => value

theorem admits_plain (comparator : Comparator) (value : Literal) :
    comparator.admits value.plain = comparator.admits value := by
  cases value with
  | number n => cases comparator <;> rfl
  | _ => rfl

/-- A value that is read back from its own text. -/
structure Readable (value : Literal) : Prop where
  read : ReadsAs readValue isWordChar value.chars value.plain
  head : ∃ c after, value.chars = c :: after ∧ Text.isBlank c = false
  same : value.plain.same value = true

theorem same_of_not_number {value : Literal} (h : ∀ n, value ≠ .number n) :
    value.plain.same value = true := by
  cases value with
  | number n => exact absurd rfl (h n)
  | _ => simp [plain, same]

/-- Words are read as what they stand for. -/
theorem read_word_text {c : Char} {tail : List Char}
    (hw : ∀ d ∈ c :: tail, isWordChar d = true ∧ d ≠ '\x7b')
    (hc : c ≠ '/' ∧ c ≠ '"' ∧ c ≠ '\'') :
    ReadsAs readValue isWordChar (c :: tail) (ofWord (c :: tail)) := by
  intro source rest hr
  obtain ⟨hslash, hdouble, hsingle⟩ := hc
  rw [List.cons_append, readValue]
  · rw [if_neg (by simp [hdouble, hsingle]), readWord, ← List.cons_append, take_run_plain hw hr]
    rfl
  · exact hslash

theorem read_keyword {c : Char} {tail : List Char}
    (hw : (c :: tail).all (fun d => isWordChar d && d != '\x7b') = true)
    (hc : c ≠ '/' ∧ c ≠ '"' ∧ c ≠ '\'') :
    ReadsAs readValue isWordChar (c :: tail) (ofWord (c :: tail)) := by
  refine read_word_text ?_ hc
  intro d hd
  simpa using List.all_eq_true.mp hw d hd

theorem readable_null : Readable .null where
  read := @read_keyword 'n' ['u', 'l', 'l'] (by decide) (by decide)
  head := ⟨'n', _, rfl, by decide⟩
  same := rfl

theorem readable_bool (value : Bool) : Readable (.bool value) where
  read := by
    cases value with
    | true => exact @read_keyword 't' ['r', 'u', 'e'] (by decide) (by decide)
    | false => exact @read_keyword 'f' ['a', 'l', 's', 'e'] (by decide) (by decide)
  head := by
    cases value with
    | true => exact ⟨'t', _, rfl, by decide⟩
    | false => exact ⟨'f', _, rfl, by decide⟩
  same := by cases value <;> rfl

theorem readable_string (text : String) : Readable (.string text) where
  read := by
    intro source rest hr
    have ht : (Literal.string text).chars ++ rest = '"' :: (text.toList.flatMap
        (fun c => if c = '"' || c = '\\' then ['\\', c] else [c]) ++ '"' :: rest) := by
      simp [chars, quotedText]
    rw [ht, readValue, if_pos (.inl rfl), read_quoted_text]
    · simp only [String.ofList_toList, plain]
    · decide
  head := ⟨'"', _, rfl, by decide⟩
  same := same_of_not_number (by rintro n ⟨⟩)

theorem readable_regex {pattern flags : String} (hp : isWellEscaped pattern.toList = true)
    (hf : ∀ c ∈ flags.toList, isRegexFlag c = true) : Readable (.regex pattern flags) where
  read := by
    intro source rest hr
    have ht : (Literal.regex pattern flags).chars ++ rest =
        '/' ::
          (Text.replaceChar '/' ['\\', '/'] pattern.toList ++ '/' :: (flags.toList ++ rest)) := by
      simp [chars]
    have halpha : ∀ c ∈ flags.toList, c.isAlpha = true := by
      intro c hc
      have hflag := hf c hc
      simp only [isRegexFlag, List.contains_iff_mem, List.mem_cons, List.not_mem_nil,
        or_false] at hflag
      rcases hflag with rfl | rfl | rfl | rfl | rfl | rfl <;> rfl
    obtain ⟨htake, hdrop⟩ := drop_alpha_of_ends hr
    rw [ht, readValue, readRegex, read_pattern_text hp]
    simp only [List.takeWhile_append_of_pos halpha, List.dropWhile_append_of_pos halpha,
      htake, hdrop, List.append_nil, List.all_eq_true.mpr hf, if_true, String.ofList_toList]
    rfl
  head := ⟨'/', _, rfl, by decide⟩
  same := same_of_not_number (by rintro n ⟨⟩)

theorem digit_word_char {c : Char} (h : c.isDigit = true) : isWordChar c = true :=
  alphanum_word_char (by simp [Char.isAlphanum, h])

theorem number_char_word {c : Char} (h : isNumberChar c = true) :
    isWordChar c = true ∧ c ≠ '\x7b' := by
  simp only [isNumberChar, Bool.or_eq_true, List.contains_iff_mem, List.mem_cons, List.not_mem_nil,
    or_false] at h
  rcases h with h | rfl | rfl | rfl | rfl | rfl
  · refine ⟨digit_word_char h, ?_⟩
    intro hc
    subst hc
    cases h
  all_goals decide

section NumberWords

variable {word : List Char} {n : Binary64}

/-- A word that is read as a number is the value that number is. -/
theorem of_number_word (h : readNumberWord? word = some n) : ofWord word = .number n := by
  obtain ⟨c, tail, rfl, hc⟩ := number_word_head h
  have hne : ∀ keyword :
      List Char, keyword.head?.any (fun d => d.isDigit || ['.', '+', '-'].contains d) = false →
      c :: tail ≠ keyword := by
    intro keyword hkeyword he
    subst he
    rw [List.head?_cons, Option.any_some, hc] at hkeyword
    cases hkeyword
  rw [ofWord, if_neg (hne _ rfl), if_neg (hne _ rfl), if_neg (hne _ rfl), h]

/-- A word that is read as a number is that number wherever a value may stand. -/
theorem reads_number_word (h : readNumberWord? word = some n) :
    ReadsAs readValue isWordChar word (.number n) := by
  have hchars := List.all_eq_true.mp (number_word_chars h)
  rw [← of_number_word h]
  obtain ⟨c, tail, rfl, hc⟩ := number_word_head h
  apply read_word_text
  · intro d hd
    exact number_char_word (hchars d hd)
  · refine ⟨?_, ?_, ?_⟩
    all_goals
      intro he
      subst he
      cases hc

theorem number_word_not_blank (h : readNumberWord? word = some n) :
    ∃ c tail, word = c :: tail ∧ Text.isBlank c = false := by
  obtain ⟨c, tail, rfl, _⟩ := number_word_head h
  have hword :=
    (number_char_word (List.all_eq_true.mp (number_word_chars h) c List.mem_cons_self)).1
  refine ⟨c, tail, rfl, ?_⟩
  simp only [isWordChar, Bool.not_eq_true', Bool.or_eq_false_iff] at hword
  exact hword.2

end NumberWords

theorem readable_number {n : Binary64} (hf : n.isFinite = true) : Readable (.number n) := by
  have hread := read_number_text hf
  exact ⟨reads_number_word hread, number_word_not_blank hread, Binary64.plain_zero_same hf⟩

theorem readable_word (word : List Char) : Readable (ofWord word) := by
  unfold ofWord
  split
  · exact readable_bool true
  · split
    · exact readable_bool false
    · split
      · exact readable_null
      · split
        · rename_i n hn
          exact readable_number (read_word_finite hn)
        · exact readable_string _

theorem read_word_cases {source : Source} {text rest : List Char} {value : Literal}
    (h : readWord source text = .ok (value, rest)) :
    (∃ word, value = ofWord word) ∨ ∃ template, value = .template template ∧
      text = template.toList ++ rest := by
  unfold readWord at h
  split at h
  · cases h
  · rename_i run hrun
    split at h
    · cases h
    · split at h
      · cases h
        refine .inr ⟨_, rfl, ?_⟩
        rw [String.toList_ofList]
        exact (take_run_parts hrun).symm
      · cases h
        exact .inl ⟨_, rfl⟩

theorem read_regex_cases {text rest : List Char} {value : Literal}
    (h : readRegex text = .ok (value, rest)) :
    ∃ pattern flags, value = .regex pattern flags ∧ isWellEscaped pattern.toList = true ∧
      ∀ c ∈ flags.toList, isRegexFlag c = true := by
  unfold readRegex at h
  split at h
  · cases h
  · rename_i pattern after hp
    dsimp only at h
    split at h
    · rename_i hflags
      cases h
      refine ⟨_, _, rfl, ?_, ?_⟩
      · rw [String.toList_ofList]
        exact read_pattern_well_escaped hp
      · rw [String.toList_ofList]
        exact List.all_eq_true.mp hflags
    · cases h

/-- Every value that is read is read back from its text. -/
theorem readable_of_read {source text rest : List Char} {value : Literal}
    (h : readValue ⟨.braces, source⟩ text = .ok (value, rest))
    (hb : ∀ c, text.head? = some c → Text.isBlank c = false) : value.Readable := by
  have hword : readWord ⟨.braces, source⟩ text = .ok (value, rest) → value.Readable := by
    intro hw
    rcases read_word_cases hw with ⟨word, rfl⟩ | ⟨template, rfl, rfl⟩
    · exact readable_word word
    · obtain ⟨taken, htaken, hread⟩ := read_value_append h
      have hlen := read_value_length_lt h
      cases List.append_cancel_right htaken
      refine ⟨hread, ?_, same_of_not_number (by rintro n ⟨⟩)⟩
      cases ht : template.toList with
      | nil => simp [ht] at hlen
      | cons c after =>
        refine ⟨c, after, ht, hb c ?_⟩
        rw [ht]
        rfl
  have hvalue := h
  unfold readValue at hvalue
  split at hvalue
  · obtain ⟨pattern, flags, rfl, hp, hf⟩ := read_regex_cases hvalue
    exact readable_regex hp hf
  · split at hvalue
    · split at hvalue
      · cases hvalue
        exact readable_string _
      · cases hvalue
    · exact hword hvalue
  · exact hword hvalue

end Literal

/-- Whether a comparator, followed by a character, is read as another one. -/
def Comparator.absorbs : Comparator → Char → Bool
  | .gt, c => c = '='
  | .lt, c => c = '=' || c = '>'
  | _, _ => false

theorem read_comparator_symbol {comparator : Comparator} {rest : List Char}
    (h : rest.head?.any comparator.absorbs = false) :
    readComparator (comparator.symbol.toList ++ rest) = .ok (comparator, rest) := by
  cases comparator with
  | gt =>
    refine (read_comparator_gt rest).trans (if_neg ?_)
    intro he
    rw [he] at h
    cases h
  | lt =>
    refine (read_comparator_lt rest).trans ?_
    rw [if_neg, if_neg]
    · intro he
      rw [he] at h
      cases h
    · intro he
      rw [he] at h
      cases h
  | _ => rfl

theorem read_comparator_absorbed {comparator : Comparator} {rest : List Char}
    (h : rest.head?.any comparator.absorbs = true) :
    ∃ other, readComparator (comparator.symbol.toList ++ rest) = .ok (other, rest.tail) ∧
      other ≠ comparator := by
  cases rest with
  | nil => cases h
  | cons c rest =>
    have ha : comparator.absorbs c = true := h
    cases comparator with
    | gt =>
      cases of_decide_eq_true ha
      exact ⟨.ge, rfl, by decide⟩
    | lt =>
      simp only [Comparator.absorbs, Bool.or_eq_true, decide_eq_true_eq] at ha
      rcases ha with rfl | rfl
      · exact ⟨.le, rfl, by decide⟩
      · exact ⟨.ne, rfl, by decide⟩
    | _ => cases ha

namespace Condition

/-- Whether the text of a condition runs its comparator into its value. -/
def isGlued (condition : Condition) : Bool :=
  condition.value.chars.head?.any condition.comparator.absorbs

/-- A condition whose key and value are read back from their own texts. -/
structure Readable (condition : Condition) : Prop where
  key : ReadsAs (readPath · .filterKey) isPathChar condition.key.toList condition.key
  value : condition.value.Readable
  admits : condition.comparator.admits condition.value = true

/-- The condition that is read back. -/
def plain (condition : Condition) : Condition :=
  { condition with value := condition.value.plain }

theorem symbol_mem (comparator : Comparator) : comparator.symbol ∈ comparatorSymbols := by
  cases comparator <;> decide

/-- A condition is read back from its text if its comparator does not run into its value. -/
theorem Readable.read {condition : Condition} (h : condition.Readable)
    (hg : condition.isGlued = false) :
    ReadsAs readCondition isWordChar condition.chars condition.plain := by
  have hread : ∀ rest, rest.head? = ([] ++ condition.value.chars).head? →
      readComparator (condition.comparator.symbol.toList ++ rest) =
        .ok (condition.comparator, rest) := by
    intro rest hr
    refine read_comparator_symbol ?_
    rw [hr]
    exact hg
  have hparts := parts_read_as h.key Text.blank_nil (symbol_mem condition.comparator) hread
    Text.blank_nil h.value.head
    h.value.read (by rw [Literal.admits_plain]; exact h.admits)
  simpa [chars, plain] using hparts

/-- If its comparator runs into its value, a condition is not read back. -/
theorem Readable.read_glued {condition result : Condition} {source rest after : List Char}
    (h : condition.Readable) (hg : condition.isGlued = true)
    (hr : readCondition ⟨.braces, source⟩ (condition.chars ++ rest) = .ok (result, after)) :
    result.comparator ≠ condition.comparator := by
  obtain ⟨afterKey, afterComparator, hk, hc, _, _⟩ := read_condition_iff.mp hr
  obtain ⟨c, symbol, hsymbol, hpath, hbrace, hblank⟩ :=
    comparator_symbol_head (symbol_mem condition.comparator)
  obtain ⟨d, tail, hvalue, _⟩ := h.value.head
  have hend :
      Ends isPathChar (condition.comparator.symbol.toList ++ (condition.value.chars ++ rest)) := by
    rw [hsymbol]
    exact ends_cons.mpr ⟨hpath, hbrace⟩
  have hskip :
      Text.skipBlanks (condition.comparator.symbol.toList ++ (condition.value.chars ++ rest)) =
      condition.comparator.symbol.toList ++ (condition.value.chars ++ rest) := by
    rw [hsymbol]
    exact Text.skip_blanks_cons hblank _
  have hglued : (condition.value.chars ++ rest).head?.any condition.comparator.absorbs = true := by
    unfold isGlued at hg
    rw [hvalue] at hg ⊢
    exact hg
  rw [chars, List.append_assoc, List.append_assoc] at hk
  have hkey := hk.symm.trans (h.key source _ hend)
  injection hkey with hkey
  injection hkey with _ hafter
  obtain ⟨other, hother, hne⟩ := read_comparator_absorbed hglued
  rw [hafter, hskip, hother] at hc
  injection hc with hc
  injection hc with hc _
  rwa [← hc]

theorem readable_of_read {source text rest : List Char} {condition : Condition}
    (h : readCondition ⟨.braces, source⟩ text = .ok (condition, rest)) : condition.Readable := by
  obtain ⟨afterKey, afterComparator, hk, _, hv, hadmits⟩ := read_condition_iff.mp h
  exact ⟨read_path_reads_as hk _,
    Literal.readable_of_read hv (Text.skip_blanks_head afterComparator), hadmits⟩

end Condition

end PathQuery
