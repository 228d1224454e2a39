import Mathlib.Data.List.DropRight
import PathQuery.Proofs.DecimalText

namespace PathQuery

/-- A text that no run goes on with: it is over, or it starts with a character that is neither
allowed nor a brace. -/
def Ends (allowed : Char → Bool) (rest : List Char) : Prop :=
  ∀ c, rest.head? = some c → allowed c = false ∧ c ≠ '\x7b'

@[simp]
theorem ends_nil (allowed : Char → Bool) : Ends allowed [] := by
  intro c h
  cases h

@[simp]
theorem ends_cons {allowed : Char → Bool} {c : Char} {rest : List Char} :
    Ends allowed (c :: rest) ↔ allowed c = false ∧ c ≠ '\x7b' := by
  constructor
  · intro h
    exact h c rfl
  · rintro h d hd
    cases hd
    exact h

namespace Marker

theorem before_closing_length {text name : List Char} (h : beforeClosing? text = some name) :
    name.length + 2 ≤ text.length := by
  fun_induction beforeClosing? text generalizing name with
  | case1 => cases h
  | case2 c rest hc =>
    cases h
    cases rest with
    | nil => simp at hc
    | cons d rest => simp
  | case3 c rest hc ih =>
    obtain ⟨inner, hi, rfl⟩ := Option.map_eq_some_iff.mp h
    have := ih hi
    simp only [List.length_cons]
    omega

/-- Where a name ends is decided by the text up to its closing braces. -/
theorem before_closing_append {a b name : List Char} (h : beforeClosing? (a ++ b) = some name)
    (hl : name.length + 2 ≤ a.length) (b' : List Char) : beforeClosing? (a ++ b') = some name := by
  induction a generalizing name with
  | nil => simp at hl
  | cons c a ih =>
    have hhead : (a ++ b).head? = (a ++ b').head? := by
      cases a with
      | nil => simp at hl
      | cons d a => rfl
    rw [List.cons_append, beforeClosing?] at h ⊢
    by_cases hc : c = '\x7d' ∧ (a ++ b).head? = some '\x7d'
    · rw [if_pos hc] at h
      rw [if_pos (hhead ▸ hc)]
      exact h
    · rw [if_neg hc] at h
      rw [if_neg (hhead ▸ hc)]
      obtain ⟨inner, hi, rfl⟩ := Option.map_eq_some_iff.mp h
      rw [ih hi (by simp only [List.length_cons] at hl; omega)]
      rfl

theorem braces_at_eq {text : List Char} {occurrence : Occurrence}
    (h : bracesAt? text = some occurrence) :
    ∃ c rest name, text = '\x7b' :: '\x7b' :: c :: rest ∧ beforeClosing? rest = some name ∧
      occurrence = ⟨name.length + 5, c :: name⟩ := by
  unfold bracesAt? at h
  split at h
  · rename_i c rest
    obtain ⟨name, hn, rfl⟩ := Option.map_eq_some_iff.mp h
    exact ⟨c, rest, name, rfl, hn, rfl⟩
  · cases h

theorem braces_at_length {text : List Char} {occurrence : Occurrence}
    (h : bracesAt? text = some occurrence) :
    0 < occurrence.length ∧ occurrence.length ≤ text.length := by
  obtain ⟨c, rest, name, rfl, hn, rfl⟩ := braces_at_eq h
  have := before_closing_length hn
  simp only [List.length_cons]
  omega

/-- A placeholder is decided by the text it takes. -/
theorem braces_at_append {a b : List Char} {occurrence : Occurrence}
    (h : bracesAt? (a ++ b) = some occurrence) (hl : occurrence.length ≤ a.length)
    (b' : List Char) : bracesAt? (a ++ b') = some occurrence := by
  obtain ⟨c, rest, name, ht, hn, rfl⟩ := braces_at_eq h
  match a, hl with
  | x :: y :: z :: a, hl =>
    simp only [List.cons_append, List.cons.injEq] at ht
    obtain ⟨rfl, rfl, rfl, rfl⟩ := ht
    simp only [List.length_cons] at hl
    simp [bracesAt?, before_closing_append hn (by omega) b']

end Marker

namespace Source

/-- Where nothing opens a placeholder there is none. -/
theorem placeholder_none {text rest : List Char} (h : ∀ after, rest ≠ '\x7b' :: '\x7b' :: after) :
    placeholder ⟨.braces, text⟩ rest = .ok 0 := by
  have hb : Marker.bracesAt? rest = none := by
    cases ho : Marker.bracesAt? rest with
    | none => rfl
    | some occurrence =>
      obtain ⟨c, after, name, rfl, _, _⟩ := Marker.braces_at_eq ho
      exact absurd rfl (h (c :: after))
  unfold placeholder
  dsimp only
  rw [hb]
  dsimp only
  split
  · exact absurd rfl (h _)
  · exact absurd rfl (h _)
  · rfl

theorem placeholder_zero {text rest : List Char} (h : placeholder ⟨.braces, text⟩ rest = .ok 0)
    (after : List Char) : rest ≠ '\x7b' :: '\x7b' :: after := by
  rintro rfl
  unfold placeholder at h
  dsimp only at h
  split at h
  · rename_i occurrence ho
    have := (Marker.braces_at_length ho).1
    simp only [Except.ok.injEq] at h
    omega
  · split at h
    · cases h
    · cases h
    · rename_i hno
      exact absurd rfl (hno after)

theorem placeholder_succ {text rest : List Char} {length : Nat}
    (h : placeholder ⟨.braces, text⟩ rest = .ok (length + 1)) :
    ∃ occurrence, Marker.bracesAt? rest = some occurrence ∧ occurrence.length = length + 1 := by
  unfold placeholder at h
  dsimp only at h
  split at h
  · rename_i occurrence ho
    simp only [Except.ok.injEq] at h
    exact ⟨occurrence, ho, h⟩
  · split at h <;> cases h

theorem placeholder_of_braces {text rest : List Char} {occurrence : Occurrence}
    (h : Marker.bracesAt? rest = some occurrence) :
    placeholder ⟨.braces, text⟩ rest = .ok occurrence.length := by
  unfold placeholder
  dsimp only
  rw [h]

end Source

theorem map_eq_ok {ε α β : Type} {f : α → β} {x : Except ε α} {b : β} (h : x.map f = .ok b) :
    ∃ a, x = .ok a ∧ f a = b := by
  cases x with
  | error failure => cases h
  | ok a =>
    cases h
    exact ⟨a, rfl, rfl⟩

theorem map_error_eq_ok {ε ε' α : Type} {f : ε → ε'} {x : Except ε α} {a : α}
    (h : x.mapError f = .ok a) : x = .ok a := by
  cases x with
  | error failure => cases h
  | ok a =>
    cases h
    rfl

theorem map_error_eq_error {ε ε' α : Type} {f : ε → ε'} {x : Except ε α} {e : ε'}
    (h : x.mapError f = .error e) : ∃ cause, x = .error cause ∧ e = f cause := by
  cases x with
  | error cause =>
    cases h
    exact ⟨cause, rfl, rfl⟩
  | ok a => cases h

theorem map_eq_error_iff {ε α β : Type} {f : α → β} {x : Except ε α} {e : ε} :
    x.map f = .error e ↔ x = .error e := by
  cases x <;> simp [Except.map]

theorem bind_eq_error_iff {ε α β : Type} {f : α → Except ε β} {x : Except ε α} {e : ε} :
    x.bind f = .error e ↔ x = .error e ∨ ∃ a, x = .ok a ∧ f a = .error e := by
  cases x <;> simp [Except.bind]

theorem bind_eq_ok {ε α β : Type} {f : α → Except ε β} {x : Except ε α} {b : β}
    (h : x.bind f = .ok b) : ∃ a, x = .ok a ∧ f a = .ok b := by
  cases x with
  | error failure => cases h
  | ok a => exact ⟨a, rfl, h⟩

/-- A run that cannot go on is empty. -/
theorem take_run_ends {allowed : Char → Bool} {source rest : List Char} (h : Ends allowed rest) :
    takeRun ⟨.braces, source⟩ allowed 0 rest = .ok ⟨[], false, rest⟩ := by
  cases rest with
  | nil => rfl
  | cons c rest =>
    obtain ⟨hc, hb⟩ := ends_cons.mp h
    have hp : Source.placeholder ⟨.braces, source⟩ (c :: rest) = .ok 0 := by
      apply Source.placeholder_none
      rintro after he
      exact hb (List.cons.inj he).1
    rw [takeRun, hp]
    simp [hc]

/-- A run is the same wherever it cannot go on. The characters to be skipped are all there, so that
a placeholder is never cut off. -/
theorem take_run_append {text : List Char} {allowed : Char → Bool} {skip : Nat}
    {source : List Char} {run : Run}
    (h : takeRun ⟨.braces, source⟩ allowed skip text = .ok run) (hskip : skip ≤ text.length) :
    skip ≤ run.text.length ∧ ∀ source' rest, Ends allowed rest →
      takeRun ⟨.braces, source'⟩ allowed skip (run.text ++ rest) =
        .ok ⟨run.text, run.templated, rest⟩ := by
  fun_induction takeRun ⟨.braces, source⟩ allowed skip text generalizing run with
  | case1 skip =>
    cases h
    refine ⟨hskip, fun source' rest hr => ?_⟩
    obtain rfl : skip = 0 := Nat.le_zero.mp hskip
    exact take_run_ends hr
  | case2 skip c text ih =>
    obtain ⟨inner, hi, rfl⟩ := map_eq_ok h
    obtain ⟨hle, happ⟩ := ih hi (Nat.le_of_succ_le_succ hskip)
    refine ⟨Nat.succ_le_succ hle, fun source' rest hr => ?_⟩
    rw [Run.push, List.cons_append, takeRun, happ source' rest hr]
    rfl
  | case3 => cases h
  | case4 c text length hp ih =>
    obtain ⟨occurrence, ho, hl⟩ := Source.placeholder_succ hp
    have hlen := (Marker.braces_at_length ho).2
    rw [hl, List.length_cons] at hlen
    obtain ⟨inner, hi, rfl⟩ := map_eq_ok h
    obtain ⟨hle, happ⟩ := ih hi (by omega)
    refine ⟨Nat.zero_le _, fun source' rest hr => ?_⟩
    rw [← take_run_parts hi, ← List.cons_append] at ho
    have ho' := Marker.braces_at_append ho (by rw [List.length_cons]; omega) rest
    have hp' : Source.placeholder ⟨.braces, source'⟩ (c :: (inner.text ++ rest)) =
        .ok (length + 1) := by
      rw [← hl]
      exact Source.placeholder_of_braces ho'
    simp only [Run.push, List.cons_append, takeRun, hp', happ source' rest hr]
    rfl
  | case5 c text hp hc ih =>
    obtain ⟨inner, hi, rfl⟩ := map_eq_ok h
    obtain ⟨_, happ⟩ := ih hi (Nat.zero_le _)
    refine ⟨Nat.zero_le _, fun source' rest hr => ?_⟩
    have hp' : Source.placeholder ⟨.braces, source'⟩ (c :: (inner.text ++ rest)) = .ok 0 := by
      apply Source.placeholder_none
      intro after he
      -- a second brace would come from the run itself, or from what follows it
      have htext := take_run_parts hi
      cases htaken : inner.text with
      | nil =>
        rw [htaken, List.nil_append] at he
        cases he
        exact (hr _ rfl).2 rfl
      | cons d taken =>
        rw [htaken] at he htext
        cases he
        subst htext
        exact Source.placeholder_zero hp _ rfl
    simp only [Run.push, List.cons_append, takeRun, hp', hc, happ source' rest hr]
    rfl
  | case6 c text hp hc =>
    cases h
    exact ⟨Nat.zero_le _, fun source' rest hr => take_run_ends hr⟩

/-- Characters that are all allowed, with no brace among them, are a run without placeholders. -/
theorem take_run_plain {allowed : Char → Bool} {source text rest : List Char}
    (h : ∀ c ∈ text, allowed c = true ∧ c ≠ '\x7b') (hr : Ends allowed rest) :
    takeRun ⟨.braces, source⟩ allowed 0 (text ++ rest) = .ok ⟨text, false, rest⟩ := by
  induction text with
  | nil => exact take_run_ends hr
  | cons c text ih =>
    obtain ⟨hc, hb⟩ := h c List.mem_cons_self
    have hp : Source.placeholder ⟨.braces, source⟩ (c :: (text ++ rest)) = .ok 0 := by
      apply Source.placeholder_none
      rintro after he
      exact hb (List.cons.inj he).1
    simp only [List.cons_append, takeRun, hp, hc, ih fun d hd => h d (List.mem_cons_of_mem c hd)]
    rfl

/-- A run starts with a character that is allowed, or with the brace of a placeholder. -/
theorem take_run_head {allowed : Char → Bool} {source text : List Char} {run : Run}
    (h : takeRun ⟨.braces, source⟩ allowed 0 text = .ok run) (hne : run.text ≠ []) :
    ∃ c rest, text = c :: rest ∧ (allowed c = true ∨ c = '\x7b') := by
  cases text with
  | nil =>
    cases h
    exact absurd rfl hne
  | cons c rest =>
    refine ⟨c, rest, rfl, ?_⟩
    rw [takeRun] at h
    split at h
    · cases h
    · rename_i length hp
      obtain ⟨occurrence, ho, _⟩ := Source.placeholder_succ hp
      obtain ⟨d, after, name, he, _, _⟩ := Marker.braces_at_eq ho
      cases he
      exact .inr rfl
    · split at h
      · rename_i hc
        exact .inl hc
      · cases h
        exact absurd rfl hne

/-- Without text there is no placeholder. -/
theorem take_run_empty {allowed : Char → Bool} {source : Source} {text : List Char} {run : Run}
    (h : takeRun source allowed 0 text = .ok run) (he : run.text = []) : run.templated = false := by
  cases text with
  | nil =>
    cases h
    rfl
  | cons c rest =>
    rw [takeRun] at h
    split at h
    · cases h
    · obtain ⟨inner, _, rfl⟩ := map_eq_ok h
      cases he
    · split at h
      · obtain ⟨inner, _, rfl⟩ := map_eq_ok h
        cases he
      · cases h
        rfl

namespace Text

/-- Nothing but white space. -/
def Blank (text : List Char) : Prop :=
  ∀ c ∈ text, isBlank c = true

theorem blank_nil : Blank [] := by
  intro c hc
  cases hc

theorem skip_blanks_append {blanks : List Char} (h : Blank blanks) (text : List Char) :
    skipBlanks (blanks ++ text) = skipBlanks text :=
  List.dropWhile_append_of_pos h

theorem skip_blanks_blank {text : List Char} (h : Blank text) : skipBlanks text = [] := by
  have := skip_blanks_append h []
  rwa [List.append_nil] at this

theorem skip_blanks_again (text : List Char) : skipBlanks (skipBlanks text) = skipBlanks text :=
  List.dropWhile_idempotent _ _

theorem skip_blanks_cons {c : Char} (h : isBlank c = false) (text : List Char) :
    skipBlanks (c :: text) = c :: text := by
  simp [skipBlanks, h]

/-- The white space that is skipped stands in front of the rest. -/
theorem exists_blanks (text : List Char) :
    ∃ blanks, Blank blanks ∧ text = blanks ++ skipBlanks text :=
  ⟨text.takeWhile isBlank, fun _ hc => List.mem_takeWhile_imp hc,
    List.takeWhile_append_dropWhile.symm⟩

theorem blank_of_skip_blanks {text : List Char} (h : Blank (skipBlanks text)) : Blank text := by
  obtain ⟨blanks, hb, ht⟩ := exists_blanks text
  rw [ht]
  intro c hc
  rcases List.mem_append.mp hc with hc | hc
  · exact hb c hc
  · exact h c hc

theorem skip_blanks_head (text : List Char) :
    ∀ c, (skipBlanks text).head? = some c → isBlank c = false := by
  intro c hc
  have := List.head?_dropWhile_not isBlank text
  unfold skipBlanks at hc
  rw [hc] at this
  simpa using this

end Text

theorem path_char_not_blank {c : Char} (h : isPathChar c = true) : Text.isBlank c = false := by
  have hascii : ∀ n < 128, (Char.ofNat n).isAlphanum = true →
      Text.isBlank (Char.ofNat n) = false := by decide
  simp only [isPathChar, isNameChar, Bool.or_eq_true, decide_eq_true_eq] at h
  rcases h with ((h | rfl) | rfl) | rfl
  · unfold Text.isAlphanumeric at h
    split at h
    · rename_i hlt
      have := hascii c.toNat hlt
      rw [Char.ofNat_toNat] at this
      exact this h
    · simp only [Bool.and_eq_true, Bool.not_eq_true'] at h
      exact h.1
  · rfl
  · rfl
  · rfl

/-- White space ends a path. -/
theorem blank_not_path_char {c : Char} (h : Text.isBlank c = true) : isPathChar c = false := by
  by_contra hp
  rw [Bool.not_eq_false] at hp
  rw [path_char_not_blank hp] at h
  cases h

/-- A reader takes a text as a whole for a value, wherever the text cannot go on. -/
def ReadsAs {α : Type} (read : Source → List Char → Except Failure (α × List Char))
    (allowed : Char → Bool) (taken : List Char) (value : α) : Prop :=
  ∀ source rest, Ends allowed rest → read ⟨.braces, source⟩ (taken ++ rest) = .ok (value, rest)

theorem ReadsAs.alone {α : Type} {read : Source → List Char → Except Failure (α × List Char)}
    {allowed : Char → Bool} {taken : List Char} {value : α} (h : ReadsAs read allowed taken value)
    (source : List Char) : read ⟨.braces, source⟩ taken = .ok (value, []) := by
  have := h source [] (ends_nil allowed)
  rwa [List.append_nil] at this

/-- A path that is read somewhere is read everywhere. -/
theorem read_path_reads_as {source text rest : List Char} {what : Expectation} {path : String}
    (h : readPath ⟨.braces, source⟩ what text = .ok (path, rest)) (what' : Expectation) :
    ReadsAs (readPath · what') isPathChar path.toList path := by
  intro source' rest' hr
  unfold readPath at h ⊢
  split at h
  · cases h
  · rename_i run hrun
    split at h
    · cases h
    · rename_i hok
      cases h
      have := (take_run_append hrun (Nat.zero_le _)).2 source' rest' hr
      simp only [String.toList_ofList, this, if_neg hok]

/-- Every character of a text is the separator or belongs to a piece between separators. -/
theorem Text.mem_split_on (separator : Char) {c : Char} {text : List Char} (h : c ∈ text) :
    c = separator ∨ ∃ piece ∈ splitOn separator text, c ∈ piece := by
  induction text with
  | nil => cases h
  | cons d rest ih =>
    rw [splitOn]
    split
    · rename_i hd
      rcases List.mem_cons.mp h with rfl | hr
      · exact .inl hd
      · rcases ih hr with hc | ⟨piece, hp, hm⟩
        · exact .inl hc
        · exact .inr ⟨piece, List.mem_cons_of_mem _ hp, hm⟩
    · obtain ⟨piece, pieces, he⟩ := List.exists_cons_of_ne_nil (split_on_ne_nil separator rest)
      rw [he] at ih ⊢
      rcases List.mem_cons.mp h with rfl | hr
      · exact .inr ⟨c :: piece, List.mem_cons_self, List.mem_cons_self⟩
      · rcases ih hr with hc | ⟨found, hp, hm⟩
        · exact .inl hc
        · rcases List.mem_cons.mp hp with rfl | hp
          · exact .inr ⟨d :: found, List.mem_cons_self, List.mem_cons_of_mem d hm⟩
          · exact .inr ⟨found, List.mem_cons_of_mem _ hp, hm⟩

theorem valid_path_chars {text : List Char} (h : isValidPath text = true) :
    ∀ c ∈ text, isPathChar c = true ∧ c ≠ '\x7b' := by
  intro c hc
  have hpath : isPathChar c = true := by
    rcases Text.mem_split_on '.' hc with rfl | ⟨piece, hp, hm⟩
    · rfl
    · have := List.all_eq_true.mp h piece hp
      rw [Bool.and_eq_true, List.all_eq_true] at this
      rw [isPathChar, this.2 c hm]
      rfl
  refine ⟨hpath, ?_⟩
  rintro rfl
  cases hpath

/-- A path of names is read as it stands. -/
theorem valid_path_reads_as {path : String} (h : isValidPath path.toList = true)
    (what : Expectation) : ReadsAs (readPath · what) isPathChar path.toList path := by
  intro source rest hr
  have hne : path.toList ≠ [] := by
    intro he
    rw [he] at h
    cases h
  simp [readPath, take_run_plain (valid_path_chars h) hr, hne, h]

theorem read_path_head {source text rest : List Char} {what : Expectation} {path : String}
    (h : readPath ⟨.braces, source⟩ what text = .ok (path, rest)) :
    ∃ c after, text = c :: after ∧ (isPathChar c = true ∨ c = '\x7b') := by
  unfold readPath at h
  split at h
  · cases h
  · rename_i run hrun
    split at h
    · cases h
    · rename_i hok
      exact take_run_head hrun fun he => hok (.inl he)

theorem ne_backslash {c : Char} {tail : List Char} (hend : c = '\\' → tail = [] → False)
    (hpair : ∀ d rest, c = '\\' → tail = d :: rest → False) : c ≠ '\\' := by
  intro hc
  cases tail with
  | nil => exact hend hc rfl
  | cons d rest => exact hpair d rest hc rfl

theorem read_quoted_cons {quote c : Char} (hc : c ≠ '\\') (rest : List Char) :
    readQuoted quote (c :: rest) =
      if c = quote then some ([], rest)
      else (readQuoted quote rest).map fun (text, rest) => (c :: text, rest) := by
  rw [readQuoted]
  · intro h
    exact absurd h hc
  · intro _ _ h
    exact absurd h hc

theorem read_pattern_body_cons {c : Char} (hc : c ≠ '\\') (rest : List Char) :
    readPatternBody (c :: rest) =
      if c = '/' then some ([], rest)
      else (readPatternBody rest).map fun (text, rest) => (c :: text, rest) := by
  rw [readPatternBody]
  · intro h
    exact absurd h hc
  · intro _ _ h
    exact absurd h hc

/-- What is read up to the closing quote does not depend on what comes after it. -/
theorem read_quoted_append {quote : Char} {text characters rest : List Char}
    (h : readQuoted quote text = some (characters, rest)) :
    ∃ taken, text = taken ++ rest ∧ ∀ rest',
      readQuoted quote (taken ++ rest') = some (characters, rest') := by
  fun_induction readQuoted quote text generalizing characters with
  | case1 => cases h
  | case2 => cases h
  | case3 c tail ih =>
    obtain ⟨⟨inner, after⟩, hr, he⟩ := Option.map_eq_some_iff.mp h
    cases he
    obtain ⟨taken, rfl, happ⟩ := ih hr
    refine ⟨'\\' :: c :: taken, rfl, fun rest' => ?_⟩
    simp [readQuoted, happ]
  | case4 tail hend hpair =>
    cases h
    refine ⟨[quote], rfl, fun rest' => ?_⟩
    rw [List.singleton_append, read_quoted_cons (ne_backslash hend hpair), if_pos rfl]
  | case5 c tail hend hpair hc ih =>
    obtain ⟨⟨inner, after⟩, hr, he⟩ := Option.map_eq_some_iff.mp h
    cases he
    obtain ⟨taken, rfl, happ⟩ := ih hr
    refine ⟨c :: taken, rfl, fun rest' => ?_⟩
    rw [List.cons_append, read_quoted_cons (ne_backslash hend hpair), if_neg hc, happ]
    rfl

/-- What is read up to the closing slash does not depend on what comes after it. -/
theorem read_pattern_body_append {text pattern rest : List Char}
    (h : readPatternBody text = some (pattern, rest)) :
    ∃ taken, text = taken ++ rest ∧ ∀ rest',
      readPatternBody (taken ++ rest') = some (pattern, rest') := by
  fun_induction readPatternBody text generalizing pattern with
  | case1 => cases h
  | case2 => cases h
  | case3 c tail ih =>
    obtain ⟨⟨inner, after⟩, hr, he⟩ := Option.map_eq_some_iff.mp h
    cases he
    obtain ⟨taken, rfl, happ⟩ := ih hr
    refine ⟨'\\' :: c :: taken, rfl, fun rest' => ?_⟩
    simp [readPatternBody, happ]
  | case4 tail hend hpair =>
    cases h
    refine ⟨['/'], rfl, fun rest' => ?_⟩
    rw [List.singleton_append, read_pattern_body_cons (by decide), if_pos rfl]
  | case5 c tail hend hpair hc ih =>
    obtain ⟨⟨inner, after⟩, hr, he⟩ := Option.map_eq_some_iff.mp h
    cases he
    obtain ⟨taken, rfl, happ⟩ := ih hr
    refine ⟨c :: taken, rfl, fun rest' => ?_⟩
    rw [List.cons_append, read_pattern_body_cons (ne_backslash hend hpair), if_neg hc, happ]
    rfl

theorem alphanum_ascii {c : Char} (h : c.isAlphanum = true) : c.toNat < 128 := by
  delta Char.isAlphanum Char.isAlpha Char.isUpper Char.isLower Char.isDigit at h
  simp only [Bool.or_eq_true, Bool.and_eq_true, decide_eq_true_eq, ge_iff_le,
    UInt32.le_iff_toNat_le] at h
  have hz : 'Z'.val.toNat = 90 ∧ 'z'.val.toNat = 122 ∧ '9'.val.toNat = 57 := by decide
  have : c.toNat = c.val.toNat := rfl
  omega

/-- A word goes on with letters and digits, so they cannot follow where a word ends. -/
theorem alphanum_word_char {c : Char} (h : c.isAlphanum = true) : isWordChar c = true := by
  have hascii : ∀ n < 128, (Char.ofNat n).isAlphanum = true →
      isWordChar (Char.ofNat n) = true := by decide
  have := hascii c.toNat (alphanum_ascii h)
  rw [Char.ofNat_toNat] at this
  exact this h

theorem drop_alpha_of_ends {rest : List Char} (h : Ends isWordChar rest) :
    rest.takeWhile Char.isAlpha = [] ∧ rest.dropWhile Char.isAlpha = rest := by
  cases rest with
  | nil => exact ⟨rfl, rfl⟩
  | cons c rest =>
    have hc : c.isAlpha = false := by
      by_contra hne
      rw [Bool.not_eq_false] at hne
      have := (ends_cons.mp h).1
      rw [alphanum_word_char (by rw [Char.isAlphanum, hne]; rfl)] at this
      cases this
    simp [hc]

/-- A pattern with its flags ends where no letter follows. -/
theorem read_regex_append {text rest : List Char} {value : Literal}
    (h : readRegex text = .ok (value, rest)) :
    ∃ taken, text = taken ++ rest ∧ ∀ rest', Ends isWordChar rest' →
      readRegex (taken ++ rest') = .ok (value, rest') := by
  unfold readRegex at h
  split at h
  · cases h
  · rename_i pattern after hp
    dsimp only at h
    split at h
    · rename_i hflags
      cases h
      obtain ⟨taken, rfl, happ⟩ := read_pattern_body_append hp
      refine ⟨taken ++ after.takeWhile Char.isAlpha, ?_, fun rest' hr => ?_⟩
      · rw [List.append_assoc, List.takeWhile_append_dropWhile]
      · have halpha : ∀ c ∈ after.takeWhile Char.isAlpha, c.isAlpha = true :=
          fun _ hc => List.mem_takeWhile_imp hc
        obtain ⟨htake, hdrop⟩ := drop_alpha_of_ends hr
        unfold readRegex
        rw [List.append_assoc, happ]
        simp only [List.takeWhile_append_of_pos halpha, List.dropWhile_append_of_pos halpha,
          htake, hdrop, List.append_nil, hflags, if_true]
    · cases h

theorem read_word_append {source text rest : List Char} {value : Literal}
    (h : readWord ⟨.braces, source⟩ text = .ok (value, rest)) :
    ∃ taken, text = taken ++ rest ∧ ReadsAs readWord isWordChar taken value := by
  unfold readWord at h
  split at h
  · cases h
  · rename_i run hrun
    have htext := take_run_parts hrun
    have happ := (take_run_append hrun (Nat.zero_le _)).2
    split at h
    · cases h
    · rename_i hne
      refine ⟨run.text, ?_, fun source' rest' hr => ?_⟩
      · split at h <;> cases h <;> exact htext.symm
      · unfold readWord
        simp only [happ source' rest' hr, if_neg hne]
        split at h
        · rename_i ht
          cases h
          rw [if_pos ht]
        · rename_i ht
          cases h
          rw [if_neg ht]

/-- A value that is read somewhere is read wherever no word goes on. -/
theorem read_value_append {source text rest : List Char} {value : Literal}
    (h : readValue ⟨.braces, source⟩ text = .ok (value, rest)) :
    ∃ taken, text = taken ++ rest ∧ ReadsAs readValue isWordChar taken value := by
  have hlen := read_value_length_lt h
  unfold readValue at h
  split at h
  · rename_i text
    obtain ⟨taken, rfl, happ⟩ := read_regex_append h
    exact ⟨'/' :: taken, rfl, fun source' rest' hr => happ rest' hr⟩
  · rename_i c text hslash
    split at h
    · rename_i hquote
      split at h
      · rename_i characters after hq
        cases h
        obtain ⟨taken, rfl, happ⟩ := read_quoted_append hq
        refine ⟨c :: taken, rfl, fun source' rest' hr => ?_⟩
        rw [List.cons_append, readValue]
        · rw [if_pos hquote, happ]
        · exact hslash
      · cases h
    · rename_i hquote
      obtain ⟨taken, htext, happ⟩ := read_word_append h
      cases taken with
      | nil =>
        rw [List.nil_append] at htext
        rw [← htext] at hlen
        omega
      | cons d taken =>
        cases htext
        refine ⟨c :: taken, rfl, fun source' rest' hr => ?_⟩
        rw [List.cons_append, readValue]
        · rw [if_neg hquote]
          exact happ source' rest' hr
        · exact hslash
  · simp at hlen

theorem read_comparator_gt (rest : List Char) :
    readComparator ('>' :: rest) =
      if rest.head? = some '=' then .ok (.ge, rest.tail) else .ok (.gt, rest) := by
  cases rest with
  | nil => rfl
  | cons c rest =>
    by_cases hc : c = '='
    · subst hc
      rfl
    · simp [readComparator, hc]

theorem read_comparator_lt (rest : List Char) :
    readComparator ('<' :: rest) =
      if rest.head? = some '>' then .ok (.ne, rest.tail)
      else if rest.head? = some '=' then .ok (.le, rest.tail) else .ok (.lt, rest) := by
  cases rest with
  | nil => rfl
  | cons c rest =>
    by_cases hne : c = '>'
    · subst hne
      rfl
    · by_cases hle : c = '='
      · subst hle
        rfl
      · simp [readComparator, hne, hle]

/-- The symbols a comparator is read from. -/
def comparatorSymbols : List String := ["!=", "<>", ">=", "<=", "=", ">", "<", "~"]

/-- Which comparator is read is decided by its symbol and the character after it. -/
theorem read_comparator_append {text rest : List Char} {comparator : Comparator}
    (h : readComparator text = .ok (comparator, rest)) :
    ∃ symbol ∈ comparatorSymbols, text = symbol.toList ++ rest ∧
      ∀ rest', rest'.head? = rest.head? →
        readComparator (symbol.toList ++ rest') = .ok (comparator, rest') := by
  unfold readComparator at h
  split at h
  · cases h
    exact ⟨"!=", by decide, rfl, fun _ _ => rfl⟩
  · cases h
    exact ⟨"<>", by decide, rfl, fun _ _ => rfl⟩
  · cases h
    exact ⟨">=", by decide, rfl, fun _ _ => rfl⟩
  · cases h
    exact ⟨"<=", by decide, rfl, fun _ _ => rfl⟩
  · cases h
    exact ⟨"=", by decide, rfl, fun _ _ => rfl⟩
  · rename_i tail hge
    cases h
    refine ⟨">", by decide, rfl, fun rest' he => ?_⟩
    have hne : rest'.head? ≠ some '=' := by
      rw [he]
      intro hh
      obtain ⟨tail, rfl⟩ := List.head?_eq_some_iff.mp hh
      exact hge tail rfl
    exact (read_comparator_gt rest').trans (if_neg hne)
  · rename_i tail hne hle
    cases h
    refine ⟨"<", by decide, rfl, fun rest' he => ?_⟩
    have hne₁ : rest'.head? ≠ some '>' := by
      rw [he]
      intro hh
      obtain ⟨tail, rfl⟩ := List.head?_eq_some_iff.mp hh
      exact hne tail rfl
    have hne₂ : rest'.head? ≠ some '=' := by
      rw [he]
      intro hh
      obtain ⟨tail, rfl⟩ := List.head?_eq_some_iff.mp hh
      exact hle tail rfl
    exact (read_comparator_lt rest').trans ((if_neg hne₁).trans (if_neg hne₂))
  · cases h
    exact ⟨"~", by decide, rfl, fun _ _ => rfl⟩
  · cases h

/-- A comparator starts with a character that ends paths and is no white space. -/
theorem comparator_symbol_head {symbol : String} (h : symbol ∈ comparatorSymbols) :
    ∃ c rest, symbol.toList = c :: rest ∧ isPathChar c = false ∧ c ≠ '\x7b' ∧
      Text.isBlank c = false := by
  simp only [comparatorSymbols, List.mem_cons, List.not_mem_nil, or_false] at h
  rcases h with rfl | rfl | rfl | rfl | rfl | rfl | rfl | rfl <;>
    exact ⟨_, _, rfl, rfl, by decide, rfl⟩

/-- A condition is a path, a comparator and a value that goes with it. -/
theorem read_condition_iff {source : Source} {text rest : List Char} {condition : Condition} :
    readCondition source text = .ok (condition, rest) ↔
      ∃ afterKey afterComparator, readPath source .filterKey text = .ok (condition.key, afterKey) ∧
        readComparator (Text.skipBlanks afterKey) = .ok (condition.comparator, afterComparator) ∧
        readValue source (Text.skipBlanks afterComparator) = .ok (condition.value, rest) ∧
        condition.comparator.admits condition.value = true := by
  constructor
  · intro h
    unfold readCondition at h
    split at h
    · cases h
    · rename_i key afterKey hk
      split at h
      · cases h
      · rename_i comparator afterComparator hc
        dsimp only at h
        split at h
        · cases h
        · rename_i value after hv
          split at h
          · rename_i hadmits
            cases h
            exact ⟨afterKey, afterComparator, hk, hc, hv, hadmits⟩
          · cases h
  · rintro ⟨afterKey, afterComparator, hk, hc, hv, hadmits⟩
    simp [readCondition, hk, hc, hv, hadmits]

/-- The parts of a condition, with white space around its comparator, are read as the condition. -/
theorem parts_read_as {key : String} {gap gap' taken : List Char} {symbol : String}
    {comparator : Comparator}
    {value : Literal} (hkey : ReadsAs (readPath · .filterKey) isPathChar key.toList key)
    (hgap : Text.Blank gap) (hsymbol : symbol ∈ comparatorSymbols)
    (hread : ∀ rest, rest.head? = (gap' ++ taken).head? →
      readComparator (symbol.toList ++ rest) = .ok (comparator, rest))
    (hgap' : Text.Blank gap') (hhead : ∃ c after, taken = c :: after ∧ Text.isBlank c = false)
    (hvalue : ReadsAs readValue isWordChar taken value) (hadmits : comparator.admits value = true) :
    ReadsAs readCondition isWordChar (key.toList ++ (gap ++ (symbol.toList ++ (gap' ++ taken))))
      ⟨key, comparator, value⟩ := by
  intro source rest hr
  obtain ⟨c, after, hc, hpath, hbrace, hblank⟩ := comparator_symbol_head hsymbol
  obtain ⟨d, afterValue, rfl, hd⟩ := hhead
  simp only [List.append_assoc]
  refine read_condition_iff.mpr ⟨gap ++ (symbol.toList ++ (gap' ++ (d :: afterValue ++ rest))),
    gap' ++ (d :: afterValue ++ rest), ?_, ?_, ?_, hadmits⟩
  · refine hkey source _ ?_
    cases gap with
    | nil =>
      rw [hc]
      exact ends_cons.mpr ⟨hpath, hbrace⟩
    | cons b gap =>
      have hb := hgap b List.mem_cons_self
      refine ends_cons.mpr ⟨blank_not_path_char hb, ?_⟩
      rintro rfl
      cases hb
  · rw [Text.skip_blanks_append hgap, hc, List.cons_append, Text.skip_blanks_cons hblank,
      ← List.cons_append, ← hc]
    refine hread _ ?_
    cases gap' <;> rfl
  · rw [Text.skip_blanks_append hgap', List.cons_append, Text.skip_blanks_cons hd]
    exact hvalue source rest hr

/-- A condition that is read somewhere is read wherever no word goes on. -/
theorem read_condition_append {source text rest : List Char} {condition : Condition}
    (h : readCondition ⟨.braces, source⟩ text = .ok (condition, rest)) :
    ∃ taken, text = taken ++ rest ∧ ReadsAs readCondition isWordChar taken condition := by
  obtain ⟨afterKey, afterComparator, hk, hc, hv, hadmits⟩ := read_condition_iff.mp h
  obtain ⟨gap, hgap, hafterKey⟩ := Text.exists_blanks afterKey
  obtain ⟨symbol, hsymbol, hcomparator, hread⟩ := read_comparator_append hc
  obtain ⟨gap', hgap', hafterComparator⟩ := Text.exists_blanks afterComparator
  obtain ⟨taken, htaken, hvalue⟩ := read_value_append hv
  have hhead : ∃ c after, taken = c :: after ∧ Text.isBlank c = false := by
    cases taken with
    | nil =>
      have hlen := read_value_length_lt hv
      rw [htaken, List.nil_append] at hlen
      omega
    | cons c after =>
      refine ⟨c, after, rfl, Text.skip_blanks_head afterComparator c ?_⟩
      rw [htaken]
      rfl
  refine ⟨condition.key.toList ++ (gap ++ (symbol.toList ++ (gap' ++ taken))), ?_, ?_⟩
  · rw [← (read_path_parts hk).1, hafterKey, hcomparator, hafterComparator, htaken]
    simp only [List.append_assoc]
  · refine parts_read_as (read_path_reads_as hk .filterKey) hgap hsymbol ?_ hgap' hhead
      hvalue hadmits
    intro rest' he
    refine hread rest' (he.trans ?_)
    obtain ⟨c, after, rfl, _⟩ := hhead
    rw [hafterComparator, htaken]
    cases gap' <;> rfl

/-- A condition starts like a path. -/
theorem read_condition_head {source text rest : List Char} {condition : Condition}
    (h : readCondition ⟨.braces, source⟩ text = .ok (condition, rest)) :
    ∃ c after, text = c :: after ∧ (isPathChar c = true ∨ c = '\x7b') := by
  obtain ⟨afterKey, _, hk, _⟩ := read_condition_iff.mp h
  exact read_path_head hk

end PathQuery
