import PathQuery.Adapter.Sql
import PathQuery.Proofs.DecimalText

namespace PathQuery.Sql

inductive Token where
  | identifier (name : String)
  | string (text : String)
  | word (text : String)
  | operator (text : String)
  | number (text : String)
  | comma
  | dot
  | opening
  | closing
deriving DecidableEq, Repr

/-- The part of a token that has been read. -/
inductive Pending where
  | nothing
  | word (text : List Char)
  | operator (text : List Char)
  | sign
  | whole (text : List Char)
  | point (text : List Char)
  | places (text : List Char)
  | quoted (mark : Char) (text : List Char)
  | closed (mark : Char) (text : List Char)

def isOperatorChar (c : Char) : Bool :=
  ['=', '<', '>', '!', '~', '*'].contains c

namespace Pending

/-- One more character of the same token. -/
def extend : Pending → Char → Option Pending
  | .nothing, _ => none
  | .word text, c => if c.isAlpha then some (.word (text ++ [c])) else none
  | .operator text, c => if isOperatorChar c then some (.operator (text ++ [c])) else none
  | .sign, c => if c.isDigit then some (.whole ['-', c]) else none
  | .whole text, c =>
    if c.isDigit then some (.whole (text ++ [c]))
    else if c = '.' then some (.point (text ++ [c])) else none
  | .point text, c => if c.isDigit then some (.places (text ++ [c])) else none
  | .places text, c => if c.isDigit then some (.places (text ++ [c])) else none
  | .quoted mark text, c =>
    if c = mark then some (.closed mark text) else some (.quoted mark (text ++ [c]))
  | .closed mark text, c => if c = mark then some (.quoted mark (text ++ [c])) else none

/-- The token that ends here, if one can. -/
def tokens? : Pending → Option (List Token)
  | .nothing => some []
  | .word text => some [.word (String.ofList text)]
  | .operator text => some [.operator (String.ofList text)]
  | .whole text => some [.number (String.ofList text)]
  | .places text => some [.number (String.ofList text)]
  | .closed mark text =>
    some [if mark = '"' then .identifier (String.ofList text) else .string (String.ofList text)]
  | .sign => none
  | .point _ => none
  | .quoted .. => none

end Pending

/-- What a character starts: a separator is a token at once, a space is none. -/
def start (c : Char) : Option (List Token × Pending) :=
  if c.isAlpha then some ([], .word [c])
  else if c.isDigit then some ([], .whole [c])
  else if isOperatorChar c then some ([], .operator [c])
  else match c with
    | ' ' => some ([], .nothing)
    | ',' => some ([.comma], .nothing)
    | '.' => some ([.dot], .nothing)
    | '(' => some ([.opening], .nothing)
    | ')' => some ([.closing], .nothing)
    | '-' => some ([], .sign)
    | '"' => some ([], .quoted '"' [])
    | '\'' => some ([], .quoted '\'' [])
    | _ => none

/-- The tokens of a text, with a part of the first one already read. -/
def scan : Pending → List Char → Option (List Token)
  | pending, [] => pending.tokens?
  | pending, c :: rest =>
    match pending.extend c with
    | some longer => scan longer rest
    | none =>
      pending.tokens?.bind fun done =>
        (start c).bind fun (tokens, next) => (scan next rest).map fun more =>
          done ++ (tokens ++ more)

/-- The tokens of a text. -/
def lex (text : String) : Option (List Token) :=
  scan .nothing text.toList

theorem scan_extend {pending longer : Pending} {c : Char} (h : pending.extend c = some longer)
    (rest : List Char) : scan pending (c :: rest) = scan longer rest := by
  rw [scan, h]

theorem scan_start {pending : Pending} {done : List Token} {c : Char}
    (hd : pending.tokens? = some done) (he : pending.extend c = none) (rest : List Char) :
    scan pending (c :: rest) = (start c).bind fun (tokens, next) =>
      (scan next rest).map fun more => done ++ (tokens ++ more) := by
  rw [scan, he, hd]
  rfl

/-- A token ends at a character that does not extend it. -/
theorem scan_end {pending : Pending} {done : List Token} {rest : List Char}
    (hd : pending.tokens? = some done) (hr : ∀ c, rest.head? = some c → pending.extend c = none) :
    scan pending rest = (scan .nothing rest).map fun more => done ++ more := by
  cases rest with
  | nil =>
    rw [scan, scan, hd]
    simp [Pending.tokens?]
  | cons c rest =>
    rw [scan_start hd (hr c rfl), @scan_start .nothing [] c rfl rfl]
    cases start c with
    | none => rfl
    | some started =>
      obtain ⟨tokens, next⟩ := started
      show (scan next rest).map _ = ((scan next rest).map _).map _
      rw [Option.map_map]
      rfl

/-- What may follow any token: a space, a comma or a closing parenthesis. -/
def Stops (rest : List Char) : Prop :=
  ∀ c, rest.head? = some c → c = ' ' ∨ c = ',' ∨ c = ')'

theorem stops_nil : Stops [] := by
  intro c h
  cases h

/-- A text is cut into tokens, whatever stands behind it. -/
def Lexes (text : String) (tokens : List Token) : Prop :=
  ∀ rest, Stops rest → scan .nothing (text.toList ++ rest) =
    (scan .nothing rest).map fun more => tokens ++ more

theorem Lexes.lex {text : String} {tokens : List Token} (h : Lexes text tokens) :
    lex text = some tokens := by
  have hscan := h [] stops_nil
  rw [List.append_nil] at hscan
  rw [Sql.lex, hscan]
  simp [scan, Pending.tokens?]

/-- Characters that go on with a token one after the other. -/
theorem scan_run {make : List Char → Pending} {allowed : Char → Bool}
    (h : ∀ text c, allowed c = true → (make text).extend c = some (make (text ++ [c])))
    {more : List Char} (hm : ∀ c ∈ more, allowed c = true) (text rest : List Char) :
    scan (make text) (more ++ rest) = scan (make (text ++ more)) rest := by
  induction more generalizing text with
  | nil => rw [List.append_nil, List.nil_append]
  | cons c more ih =>
    rw [List.cons_append, scan_extend (h text c (hm c List.mem_cons_self)),
      ih (fun d hd => hm d (List.mem_cons_of_mem c hd)), List.append_assoc, List.singleton_append]

theorem word_extend (text : List Char) (c : Char) (h : c.isAlpha = true) :
    (Pending.word text).extend c = some (.word (text ++ [c])) := if_pos h

theorem operator_extend (text : List Char) (c : Char) (h : isOperatorChar c = true) :
    (Pending.operator text).extend c = some (.operator (text ++ [c])) := if_pos h

theorem whole_extend (text : List Char) (c : Char) (h : c.isDigit = true) :
    (Pending.whole text).extend c = some (.whole (text ++ [c])) := if_pos h

theorem places_extend (text : List Char) (c : Char) (h : c.isDigit = true) :
    (Pending.places text).extend c = some (.places (text ++ [c])) := if_pos h

theorem quoted_extend {mark c : Char} (h : c ≠ mark) (text : List Char) :
    (Pending.quoted mark text).extend c = some (.quoted mark (text ++ [c])) := if_neg h

theorem quoted_close (mark : Char) (text : List Char) :
    (Pending.quoted mark text).extend mark = some (.closed mark text) := if_pos rfl

theorem closed_extend (mark : Char) (text : List Char) :
    (Pending.closed mark text).extend mark = some (.quoted mark (text ++ [mark])) := if_pos rfl

/-- Text between quotes is read up to the closing one, and doubled quotes become single. -/
theorem scan_quoted (mark : Char) (text more rest : List Char) :
    scan (.quoted mark text) (Text.replaceChar mark [mark, mark] more ++ mark :: rest) =
      scan (.closed mark (text ++ more)) rest := by
  induction more generalizing text with
  | nil =>
    rw [List.append_nil]
    exact scan_extend (quoted_close mark text) rest
  | cons c more ih =>
    have ht : Text.replaceChar mark [mark, mark] (c :: more) ++ mark :: rest =
        (if c = mark then [mark, mark] else [c]) ++
          (Text.replaceChar mark [mark, mark] more ++ mark :: rest) := by
      simp [Text.replaceChar]
    rw [ht]
    by_cases hc : c = mark
    · subst hc
      rw [if_pos rfl, List.cons_append, List.singleton_append, scan_extend (quoted_close c text),
        scan_extend (closed_extend c text), ih, List.append_assoc, List.singleton_append]
    · rw [if_neg hc, List.singleton_append, scan_extend (quoted_extend hc text), ih,
        List.append_assoc, List.singleton_append]

/-- A quoted text is one token, unless another quote follows. -/
theorem scan_quote {mark : Char} {text rest : List Char} (hm : mark = '"' ∨ mark = '\'')
    (hr : rest.head? ≠ some mark) :
    scan .nothing (quote mark text ++ rest) = (scan .nothing rest).map fun more =>
      [if mark = '"' then .identifier (String.ofList text) else .string (String.ofList text)] ++
        more := by
  have hs : start mark = some ([], .quoted mark []) := by rcases hm with rfl | rfl <;> rfl
  have ht : quote mark text ++ rest = mark ::
      (Text.replaceChar mark [mark, mark] text ++ mark :: rest) := by
    simp [quote]
  rw [ht, @scan_start .nothing [] mark rfl rfl, hs]
  show (scan (.quoted mark []) _).map _ = _
  rw [scan_quoted, List.nil_append, @scan_end (.closed mark text) _ rest rfl]
  · rw [Option.map_map]
    rfl
  · intro c hc
    refine if_neg ?_
    rintro rfl
    exact hr hc

theorem stop_not_extending {pending : Pending} {rest : List Char} (hr : Stops rest)
    (h : pending.extend ' ' = none ∧ pending.extend ',' = none ∧ pending.extend ')' = none) :
    ∀ c, rest.head? = some c → pending.extend c = none := by
  intro c hc
  rcases hr c hc with rfl | rfl | rfl
  · exact h.1
  · exact h.2.1
  · exact h.2.2

/-- A run of characters of one kind is a token. -/
theorem lexes_run {make : List Char → Pending} {allowed : Char → Bool} {token : String → Token}
    (hs : ∀ c, allowed c = true → start c = some ([], make [c]))
    (he : ∀ text c, allowed c = true → (make text).extend c = some (make (text ++ [c])))
    (hd : ∀ text, (make text).tokens? = some [token (String.ofList text)])
    (hstop : ∀ text, (make text).extend ' ' = none ∧ (make text).extend ',' = none ∧
      (make text).extend ')' = none)
    {text : String} (hne : text.toList ≠ []) (h : ∀ c ∈ text.toList, allowed c = true) :
    Lexes text [token text] := by
  intro rest hr
  obtain ⟨c, more, ht⟩ := List.exists_cons_of_ne_nil hne
  rw [ht] at h ⊢
  rw [List.cons_append, @scan_start .nothing [] c rfl rfl, hs c (h c List.mem_cons_self)]
  show (scan (make [c]) _).map _ = _
  rw [scan_run he (fun d hd => h d (List.mem_cons_of_mem c hd)),
    scan_end (hd _) (stop_not_extending hr (hstop _)), Option.map_map, List.singleton_append, ← ht,
    String.ofList_toList]
  rfl

theorem lexes_word {text : String} (h : text.toList ≠ [] ∧ text.toList.all Char.isAlpha = true) :
    Lexes text [.word text] :=
  lexes_run (fun _ hc => if_pos hc) word_extend (fun _ => rfl) (fun _ => ⟨rfl, rfl, rfl⟩) h.1
    (List.all_eq_true.mp h.2)

theorem start_operator (c : Char) (h : isOperatorChar c = true) :
    start c = some ([], .operator [c]) := by
  simp only [isOperatorChar, List.contains_iff_mem, List.mem_cons, List.not_mem_nil, or_false] at h
  rcases h with rfl | rfl | rfl | rfl | rfl | rfl <;> rfl

theorem lexes_operator {text : String}
    (h : text.toList ≠ [] ∧ text.toList.all isOperatorChar = true) : Lexes text [.operator text] :=
  lexes_run start_operator operator_extend (fun _ => rfl) (fun _ => ⟨rfl, rfl, rfl⟩) h.1
    (List.all_eq_true.mp h.2)

theorem start_digit {c : Char} (h : c.isDigit = true) : start c = some ([], .whole [c]) := by
  have ha : c.isAlpha = false := by
    simp only [Char.isDigit, Bool.and_eq_true, decide_eq_true_eq, ge_iff_le,
      UInt32.le_iff_toNat_le] at h
    delta Char.isAlpha Char.isUpper Char.isLower
    simp only [Bool.or_eq_false_iff, Bool.and_eq_false_iff, decide_eq_false_iff_not, ge_iff_le,
      UInt32.le_iff_toNat_le]
    have hbounds : '9'.val.toNat = 57 ∧ 'A'.val.toNat = 65 ∧ 'a'.val.toNat = 97 := by decide
    omega
  simp [start, ha, h]

/-- The rest of a number whose first digit is read: further digits, then a point with digits, if
there is one. -/
theorem scan_unsigned {c : Char} {more rest : List Char} (hb : Decimal.IsUnsigned (c :: more))
    (hr : Stops rest) (before : List Char) : scan (.whole (before ++ [c])) (more ++ rest) =
      (scan .nothing rest).map fun tokens =>
        [.number (String.ofList (before ++ c :: more))] ++ tokens := by
  obtain ⟨whole, places, hne, hw, hp, ht⟩ := hb
  obtain ⟨d, digits, rfl⟩ := List.exists_cons_of_ne_nil hne
  have hdigits : ∀ e ∈ digits, e.isDigit = true := fun e he => hw e (List.mem_cons_of_mem d he)
  rcases ht with ht | ⟨hplaces, ht⟩
  · cases ht
    rw [scan_run whole_extend hdigits, scan_end rfl (stop_not_extending hr ⟨rfl, rfl, rfl⟩)]
    simp
  · rw [List.cons_append] at ht
    obtain ⟨rfl, rfl⟩ := List.cons.inj ht
    obtain ⟨p, places, rfl⟩ := List.exists_cons_of_ne_nil hplaces
    have hpoint : ∀ text, (Pending.whole text).extend '.' = some (.point (text ++ ['.'])) :=
      fun _ => rfl
    have hfirst : ∀ text, (Pending.point text).extend p = some (.places (text ++ [p])) :=
      fun _ => if_pos (hp p List.mem_cons_self)
    rw [List.append_assoc, scan_run whole_extend hdigits, List.cons_append, scan_extend (hpoint _),
      List.cons_append, scan_extend (hfirst _),
      scan_run places_extend (fun e he => hp e (List.mem_cons_of_mem p he)),
      scan_end rfl (stop_not_extending hr ⟨rfl, rfl, rfl⟩)]
    simp

theorem lexes_number {body : List Char} (hb : Decimal.IsUnsigned body) (negative : Bool) :
    Lexes (String.ofList (Binary64.signText negative ++ body))
      [.number (String.ofList (Binary64.signText negative ++ body))] := by
  intro rest hr
  rw [String.toList_ofList]
  obtain ⟨c, more, rfl, hc⟩ := hb.head
  cases negative with
  | false =>
    show scan .nothing (c :: (more ++ rest)) = _
    rw [@scan_start .nothing [] c rfl rfl, start_digit hc]
    show (scan (.whole ([] ++ [c])) _).map _ = _
    rw [scan_unsigned hb hr, Option.map_map]
    rfl
  | true =>
    have hsign : Pending.sign.extend c = some (.whole (['-'] ++ [c])) := if_pos hc
    show scan .nothing ('-' :: c :: (more ++ rest)) = _
    rw [@scan_start .nothing [] '-' rfl rfl]
    show (scan .sign _).map _ = _
    rw [scan_extend hsign, scan_unsigned hb hr, Option.map_map]
    rfl

theorem scan_separator {c : Char} {tokens : List Token} (h : start c = some (tokens, .nothing))
    (rest : List Char) :
    scan .nothing (c :: rest) = (scan .nothing rest).map fun more => tokens ++ more := by
  rw [@scan_start .nothing [] c rfl rfl, h]
  rfl

namespace Lexes

variable {a b : String} {ts us : List Token}

theorem nil : Lexes "" [] := by
  intro rest _
  show scan .nothing rest = _
  simp

/-- Texts on both sides of a separator that may follow any token. -/
theorem separated (ha : Lexes a ts) (hb : Lexes b us) {c : Char} {tokens : List Token}
    (hc : c = ' ' ∨ c = ',' ∨ c = ')') (hs : start c = some (tokens, .nothing)) {text : String}
    (ht : text.toList = a.toList ++ c :: b.toList) : Lexes text (ts ++ (tokens ++ us)) := by
  intro rest hr
  have hstop : Stops (c :: (b.toList ++ rest)) := by
    rintro d ⟨⟩
    exact hc
  rw [ht, List.append_assoc, List.cons_append, ha _ hstop, scan_separator hs, hb rest hr,
    Option.map_map, Option.map_map]
  simp [Function.comp_def]

theorem space (ha : Lexes a ts) (hb : Lexes b us) : Lexes (a ++ " " ++ b) (ts ++ us) :=
  ha.separated hb (.inl rfl) rfl (by simp)

theorem comma (ha : Lexes a ts) (hb : Lexes b us) :
    Lexes (a ++ ", " ++ b) (ts ++ .comma :: us) := by
  have hspace : Lexes ("" ++ " " ++ b) ([] ++ us) := nil.space hb
  exact ha.separated hspace (.inr (.inl rfl)) rfl (by simp)

theorem parentheses (ha : Lexes a ts) : Lexes ("(" ++ a ++ ")")
    (.opening :: (ts ++ [.closing])) := by
  have hclose : Lexes (a ++ ")") (ts ++ ([.closing] ++ [])) :=
    ha.separated nil (.inr (.inr rfl)) rfl (by simp)
  intro rest hr
  have ht : ("(" ++ a ++ ")").toList ++ rest = '(' :: ((a ++ ")").toList ++ rest) := by simp
  rw [ht, @scan_separator '(' [.opening] rfl, hclose rest hr, Option.map_map]
  rfl

/-- Texts with commas between them. -/
theorem commas {α : Type} {parts : List α} {text : α → String} {tokens : α → List Token}
    (h : ∀ part ∈ parts, Lexes (text part) (tokens part)) :
    Lexes (", ".intercalate (parts.map text)) ([Token.comma].intercalate (parts.map tokens)) := by
  induction parts with
  | nil => exact nil
  | cons part more ih =>
    have hpart := h part List.mem_cons_self
    cases more with
    | nil => simpa using hpart
    | cons next more =>
      have hmore := ih fun other hm => h other (List.mem_cons_of_mem part hm)
      simp only [List.map_cons, String.intercalate_cons_cons, List.intercalate_cons_cons] at hmore ⊢
      rw [List.append_assoc]
      exact hpart.comma hmore

end Lexes

end PathQuery.Sql
