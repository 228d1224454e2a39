import PathQuery.Proofs.Grammar
import PathQuery.Query.Printer

namespace PathQuery

/-- A path that is read back from its own text. -/
def PathText (what : Expectation) (path : String) : Prop :=
  ReadsAs (readPath · what) isPathChar path.toList path

theorem PathText.head {what : Expectation} {path : String} (h : PathText what path) :
    ∃ c after, path.toList = c :: after ∧ (isPathChar c = true ∨ c = '\x7b') :=
  read_path_head (h.alone [])

theorem PathText.skip_blanks {what : Expectation} {path : String} (h : PathText what path)
    (rest : List Char) : Text.skipBlanks (path.toList ++ rest) = path.toList ++ rest := by
  obtain ⟨c, after, hp, hc⟩ := h.head
  rw [hp]
  refine Text.skip_blanks_cons ?_ _
  rcases hc with hc | rfl
  · exact path_char_not_blank hc
  · decide

theorem PathText.read {what : Expectation} {path : String} (h : PathText what path)
    {rest : List Char} (hr : Ends isPathChar rest) (source : List Char) :
    readPath ⟨.braces, source⟩ what (Text.skipBlanks (path.toList ++ rest)) = .ok (path, rest) := by
  rw [h.skip_blanks]
  exact h source rest hr

section Fields

variable {source : Source} {text rest after : List Char} {field : String}

theorem read_fields_last
    (hp : readPath source .fieldName (Text.skipBlanks text) = .ok (field, rest))
    (hs : Text.skipBlanks rest = '\x7d' :: after) :
    readFields source text = .ok ([field], after) := by
  rw [readFields]
  split
  · rename_i failure hp'
    rw [hp] at hp'
    cases hp'
  · rename_i field' rest' hp'
    rw [hp] at hp'
    cases hp'
    split
    · rename_i hs'
      rw [hs] at hs'
      cases hs'
    · rename_i hs'
      rw [hs] at hs'
      cases hs'
      rfl
    · rename_i hno
      exact absurd hs (hno after)

theorem read_fields_more
    (hp : readPath source .fieldName (Text.skipBlanks text) = .ok (field, rest))
    (hs : Text.skipBlanks rest = ',' :: after) :
    readFields source text = (readFields source after).map fun more =>
      (field :: more.1, more.2) := by
  rw [readFields]
  split
  · rename_i failure hp'
    rw [hp] at hp'
    cases hp'
  · rename_i field' rest' hp'
    rw [hp] at hp'
    cases hp'
    split
    · rename_i hs'
      rw [hs] at hs'
      cases hs'
      cases readFields source after with
      | error failure => rfl
      | ok more => rfl
    · rename_i hs'
      rw [hs] at hs'
      cases hs'
    · rename_i hno _
      exact absurd hs (hno after)

/-- Fields are read back from their text. -/
theorem read_fields_text {fields : List String} (hne : fields ≠ [])
    (h : ∀ field ∈ fields, PathText .fieldName field) (source rest : List Char) :
    readFields ⟨.braces, source⟩ ([','].intercalate (fields.map String.toList) ++ '\x7d' :: rest) =
      .ok (fields, rest) := by
  induction fields with
  | nil => exact absurd rfl hne
  | cons field more ih =>
    have hf := h field List.mem_cons_self
    cases more with
    | nil =>
      have ht : [','].intercalate ([field].map String.toList) = field.toList := by simp
      rw [ht]
      exact read_fields_last (hf.read (ends_cons.mpr (by decide)) source)
        (Text.skip_blanks_cons (by decide) rest)
    | cons next more =>
      have ht : [','].intercalate ((field :: next :: more).map String.toList) ++ '\x7d' :: rest =
          field.toList ++ ',' ::
            ([','].intercalate ((next :: more).map String.toList) ++ '\x7d' :: rest) := by
        simp
      rw [ht]
      rw [read_fields_more (hf.read (ends_cons.mpr (by decide)) source)
        (Text.skip_blanks_cons (by decide) _),
        ih (by simp) (fun f hm => h f (List.mem_cons_of_mem _ hm))]
      rfl

theorem read_fields_paths {source text rest : List Char} {fields : List String}
    (h : readFields ⟨.braces, source⟩ text = .ok (fields, rest)) :
    ∀ field ∈ fields, PathText .fieldName field := by
  fun_induction readFields ⟨.braces, source⟩ text generalizing fields with
  | case1 => cases h
  | case2 => cases h
  | case3 text field rest hp after hs _ more rest' hr ih =>
    cases h
    intro f hf
    rcases List.mem_cons.mp hf with rfl | hf
    · exact read_path_reads_as hp _
    · exact ih hr f hf
  | case4 text field rest hp after hs =>
    cases h
    intro f hf
    rw [List.mem_singleton.mp hf]
    exact read_path_reads_as hp _
  | case5 => cases h

end Fields

/-- The text of a sort, each key with its sign. -/
def sortText (terms : List SortTerm) : List Char :=
  terms.flatMap fun term => term.order.sign :: term.key.toList

theorem order_of_sign (order : SortOrder) : SortOrder.ofSign? (some order.sign) = some order := by
  cases order <;> rfl

theorem read_more_terms_end {source : Source} {text : List Char}
    (h : SortOrder.ofSign? text.head? = none) : readMoreTerms source text = .ok ([], text) := by
  rw [readMoreTerms]
  split
  · rfl
  · rename_i order ho
    rw [h] at ho
    cases ho

theorem read_more_terms_cons {source : Source} {text rest : List Char} {order : SortOrder}
    {key : String} (hp : readPath source .sortField text = .ok (key, rest)) :
    readMoreTerms source (order.sign :: text) =
      (readMoreTerms source rest).map fun more => (⟨key, order⟩ :: more.1, more.2) := by
  rw [readMoreTerms]
  split
  · rename_i ho
    rw [List.head?_cons, order_of_sign] at ho
    cases ho
  · rename_i order' ho
    rw [List.head?_cons, order_of_sign] at ho
    cases ho
    split
    · rename_i failure hp'
      rw [List.drop_one, List.tail_cons, hp] at hp'
      cases hp'
    · rename_i key' rest' hp'
      rw [List.drop_one, List.tail_cons, hp] at hp'
      cases hp'
      cases readMoreTerms source rest with
      | error failure => rfl
      | ok more => rfl

theorem read_more_terms_text {terms : List SortTerm}
    (h : ∀ term ∈ terms, PathText .sortField term.key)
    {rest : List Char} (hr : Ends isPathChar rest) (hs : SortOrder.ofSign? rest.head? = none)
    (source : List Char) :
    readMoreTerms ⟨.braces, source⟩ (sortText terms ++ rest) = .ok (terms, rest) := by
  induction terms with
  | nil => exact read_more_terms_end hs
  | cons term more ih =>
    have hk := h term List.mem_cons_self
    have hend : Ends isPathChar (sortText more ++ rest) := by
      cases more with
      | nil => exact hr
      | cons next more =>
        refine ends_cons.mpr ?_
        cases next.order <;> decide
    have ht : sortText (term :: more) ++ rest =
        term.order.sign :: (term.key.toList ++ (sortText more ++ rest)) := by
      simp [sortText]
    rw [ht, read_more_terms_cons (hk source _ hend), ih fun t hm => h t (List.mem_cons_of_mem _ hm)]
    rfl

/-- A sort is read back from its text. -/
theorem read_terms_text {terms : List SortTerm} (hne : terms ≠ [])
    (h : ∀ term ∈ terms, PathText .sortField term.key)
    {rest : List Char} (hr : Ends isPathChar rest) (hs : SortOrder.ofSign? rest.head? = none)
    (source : List Char) :
    readTerms ⟨.braces, source⟩ (sortText terms ++ rest) = .ok (terms, rest) := by
  rw [← read_more_terms_text h hr hs source]
  cases terms with
  | nil => exact absurd rfl hne
  | cons term more =>
    have hhead : (sortText (term :: more) ++ rest).head? = some term.order.sign := rfl
    unfold readTerms
    rw [hhead, order_of_sign]

theorem read_more_terms_paths {source text rest : List Char} {terms : List SortTerm}
    (h : readMoreTerms ⟨.braces, source⟩ text = .ok (terms, rest)) :
    ∀ term ∈ terms, PathText .sortField term.key := by
  fun_induction readMoreTerms ⟨.braces, source⟩ text generalizing terms rest with
  | case1 =>
    cases h
    intro term hm
    cases hm
  | case2 => cases h
  | case3 => cases h
  | case4 text order ho key middle hp hlt more after hm ih =>
    cases h
    intro term ht
    rcases List.mem_cons.mp ht with rfl | ht
    · exact read_path_reads_as hp _
    · exact ih hm term ht

theorem read_terms_paths {source text rest : List Char} {terms : List SortTerm}
    (h : readTerms ⟨.braces, source⟩ text = .ok (terms, rest)) :
    ∀ term ∈ terms, PathText .sortField term.key := by
  unfold readTerms at h
  split at h
  · exact read_more_terms_paths h
  · split at h
    · cases h
    · rename_i hp
      split at h
      · cases h
      · rename_i hm
        cases h
        intro term ht
        rcases List.mem_cons.mp ht with rfl | ht
        · exact read_path_reads_as hp _
        · exact read_more_terms_paths hm term ht

/-- A limit that is read back from its own text. -/
def LimitText (limit : String) : Prop :=
  ReadsAs readLimit Char.isDigit limit.toList limit

/-- How long the sign at the start of a limit is. -/
def signLength (text : List Char) : Nat :=
  if (SortOrder.ofSign? text.head?).isSome then 1 else 0

theorem read_limit_sign {source : Source} {sign body : List Char}
    (h : signLength (sign ++ body) = sign.length) :
    readLimit source (sign ++ body) = (takeRun source Char.isDigit 0 body).bind fun run =>
      if run.templated = false ∧ (Number.readInt64? (sign ++ run.text)).isNone then
        .error ⟨.limit, sign ++ body⟩
      else .ok (String.ofList (sign ++ run.text), run.rest) := by
  unfold signLength at h
  unfold readLimit
  simp only [h, List.drop_left, List.take_left]
  cases takeRun source Char.isDigit 0 body <;> rfl

theorem exists_sign (text : List Char) :
    ∃ sign, text = sign ++ (Number.splitSign text).2 ∧ signLength text = sign.length := by
  unfold Number.splitSign
  split
  · exact ⟨['-'], rfl, rfl⟩
  · exact ⟨['+'], rfl, rfl⟩
  · rename_i hminus hplus
    refine ⟨[], rfl, ?_⟩
    cases text with
    | nil => rfl
    | cons c text =>
      have hc : SortOrder.ofSign? (some c) = none := by
        unfold SortOrder.ofSign?
        split
        · rename_i h
          cases h
          exact absurd rfl (hplus text)
        · rename_i h
          cases h
          exact absurd rfl (hminus text)
        · rfl
      simp [signLength, hc]

theorem sign_length_append {sign body body' : List Char}
    (h : signLength (sign ++ body) = sign.length)
    (hb : sign = [] → body'.head? = body.head?) : signLength (sign ++ body') = sign.length := by
  cases sign with
  | nil =>
    unfold signLength at h ⊢
    rw [List.nil_append] at h ⊢
    rwa [hb rfl]
  | cons c sign => exact h

/-- A limit that is read somewhere is read wherever no digit goes on. -/
theorem read_limit_reads_as {source text rest : List Char} {limit : String}
    (h : readLimit ⟨.braces, source⟩ text = .ok (limit, rest)) : LimitText limit := by
  obtain ⟨sign, ht, hsign⟩ := exists_sign text
  generalize (Number.splitSign text).2 = body at ht
  subst ht
  rw [read_limit_sign hsign] at h
  obtain ⟨run, hrun, h⟩ := bind_eq_ok h
  split at h
  · cases h
  · rename_i hvalid
    cases h
    intro source' rest' hr
    have hhead : sign = [] → (run.text ++ rest').head? = body.head? := by
      rintro rfl
      have hne : run.text ≠ [] := by
        intro he
        refine hvalid ⟨?_, by rw [he]; rfl⟩
        exact take_run_empty hrun he
      obtain ⟨c, tail, hc⟩ := List.exists_cons_of_ne_nil hne
      rw [← take_run_parts hrun, hc]
      rfl
    rw [String.toList_ofList, List.append_assoc, read_limit_sign (sign_length_append hsign hhead),
      (take_run_append hrun (Nat.zero_le _)).2 source' rest' hr]
    exact if_neg hvalid

/-- A whole number of 64 bits has digits behind its sign, and nothing else. -/
theorem int64_digits {text : List Char} (h : (Number.readInt64? text).isSome = true) :
    (Number.splitSign text).2 ≠ [] ∧ (Number.splitSign text).2.all Char.isDigit := by
  unfold Number.readInt64? Number.readNatural? at h
  dsimp only at h
  split at h
  · assumption
  · cases h

/-- A whole number of 64 bits is read as a limit. -/
theorem int64_limit {limit : String} (h : (Number.readInt64? limit.toList).isSome = true) :
    LimitText limit := by
  obtain ⟨sign, ht, hsign⟩ := exists_sign limit.toList
  have hdigits := int64_digits h
  generalize (Number.splitSign limit.toList).2 = digits at ht hdigits
  intro source rest hr
  have hrun : takeRun ⟨.braces, source⟩ Char.isDigit 0 (digits ++ rest) =
      .ok ⟨digits, false, rest⟩ := by
    refine take_run_plain (fun c hc => ?_) hr
    have hd := List.all_eq_true.mp hdigits.2 c hc
    refine ⟨hd, ?_⟩
    rintro rfl
    cases hd
  have hhead : sign = [] → (digits ++ rest).head? = digits.head? := by
    obtain ⟨c, tail, hc⟩ := List.exists_cons_of_ne_nil hdigits.1
    rw [hc]
    exact fun _ => rfl
  rw [ht] at hsign
  rw [ht, List.append_assoc, read_limit_sign (sign_length_append hsign hhead), hrun]
  dsimp only [Except.bind]
  rw [← ht, String.ofList_toList, if_neg]
  rintro ⟨_, hnone⟩
  rw [Option.isNone_iff_eq_none.mp hnone] at h
  cases h

theorem blank_not_digit {c : Char} (h : Text.isBlank c = true) : c.isDigit = false := by
  by_contra hd
  have hw := alphanum_word_char (by simp [Char.isAlphanum, hd] : c.isAlphanum = true)
  simp [isWordChar, h] at hw

theorem LimitText.skip_blanks {limit : String} (h : LimitText limit) (rest : List Char) :
    Text.skipBlanks (limit.toList ++ rest) = limit.toList ++ rest := by
  have hread := h.alone []
  cases ht : limit.toList with
  | nil =>
    rw [ht] at hread
    cases hread
  | cons c after =>
    refine Text.skip_blanks_cons ?_ _
    by_contra hc
    rw [Bool.not_eq_false] at hc
    have hsign : signLength ([] ++ (c :: after)) = 0 := by
      unfold signLength SortOrder.ofSign?
      split
      · rename_i ho
        cases ho
        cases hc
      · rename_i ho
        cases ho
        cases hc
      · rfl
    have hend : Ends Char.isDigit (c :: after) := by
      refine ends_cons.mpr ⟨blank_not_digit hc, ?_⟩
      rintro rfl
      cases hc
    rw [ht, ← List.nil_append (c :: after), read_limit_sign hsign, take_run_ends hend] at hread
    cases hread

section Options

variable {source : Source} {query query' : Query} {text rest after : List Char}
  {option : QueryOption}

theorem read_options_last
    (ho : readOption source (!query.sort.isEmpty) query.limit.isSome (Text.skipBlanks text) =
      .ok (option, rest))
    (hs : Text.skipBlanks rest = ']' :: after) :
    readOptions source query text = .ok (option.apply query, after) := by
  rw [readOptions]
  split
  · rename_i failure ho'
    rw [ho] at ho'
    cases ho'
  · rename_i option' rest' ho'
    rw [ho] at ho'
    cases ho'
    split
    · rename_i hs'
      rw [hs] at hs'
      cases hs'
    · rename_i hs'
      rw [hs] at hs'
      cases hs'
      rfl
    · rename_i hno
      exact absurd hs (hno after)

theorem read_options_more
    (ho : readOption source (!query.sort.isEmpty) query.limit.isSome (Text.skipBlanks text) =
      .ok (option, rest))
    (hs : Text.skipBlanks rest = ',' :: after) :
    readOptions source query text = readOptions source (option.apply query) after := by
  rw [readOptions]
  split
  · rename_i failure ho'
    rw [ho] at ho'
    cases ho'
  · rename_i option' rest' ho'
    rw [ho] at ho'
    cases ho'
    split
    · rename_i hs'
      rw [hs] at hs'
      cases hs'
      rfl
    · rename_i hs'
      rw [hs] at hs'
      cases hs'
    · rename_i hno _
      exact absurd hs (hno after)

theorem read_option_sort {terms : List SortTerm} (hne : terms ≠ [])
    (h : ∀ term ∈ terms, PathText .sortField term.key)
    {rest : List Char} (hr : Ends isPathChar rest) (hs : SortOrder.ofSign? rest.head? = none)
    (source : List Char) (limited : Bool) :
    readOption ⟨.braces, source⟩ false limited
      (Text.skipBlanks ("sort=".toList ++ (sortText terms ++ rest))) =
      .ok (.sort terms, rest) := by
  obtain ⟨term, more, rfl⟩ := List.exists_cons_of_ne_nil hne
  have heq : readEquals ('=' :: (sortText (term :: more) ++ rest)) =
      .ok (sortText (term :: more) ++ rest) := by
    have hskip : Text.skipBlanks (sortText (term :: more) ++ rest) =
        sortText (term :: more) ++ rest := by
      refine Text.skip_blanks_cons ?_ _
      cases term.order <;> decide
    show Except.ok (Text.skipBlanks (sortText (term :: more) ++ rest)) = _
    rw [hskip]
  have ht : Text.skipBlanks ("sort=".toList ++ (sortText (term :: more) ++ rest)) =
      's' :: 'o' :: 'r' :: 't' :: '=' :: (sortText (term :: more) ++ rest) :=
        Text.skip_blanks_cons (by decide) _
  rw [ht, readOption, heq]
  show (readTerms _ _).bind _ = _
  rw [read_terms_text hne h hr hs source]
  rfl

theorem read_option_limit {limit : String} (h : LimitText limit) {rest : List Char}
    (hr : Ends Char.isDigit rest) (source : List Char) (sorted : Bool) :
    readOption ⟨.braces, source⟩ sorted false
      (Text.skipBlanks ("limit=".toList ++ (limit.toList ++ rest))) =
      .ok (.limit limit, rest) := by
  have heq : readEquals ('=' :: (limit.toList ++ rest)) = .ok (limit.toList ++ rest) := by
    show Except.ok (Text.skipBlanks (limit.toList ++ rest)) = _
    rw [h.skip_blanks]
  have ht : Text.skipBlanks ("limit=".toList ++ (limit.toList ++ rest)) =
      'l' :: 'i' :: 'm' :: 'i' :: 't' :: '=' :: (limit.toList ++ rest) :=
        Text.skip_blanks_cons (by decide) _
  rw [ht, readOption, heq]
  show (readLimit _ _).bind _ = _
  rw [h source rest hr]
  rfl

end Options

/-- Sort and limit that are read back from their own texts. -/
structure Query.OptionTexts (query : Query) : Prop where
  sort : ∀ term ∈ query.sort, PathText .sortField term.key
  limit : ∀ limit, query.limit = some limit → LimitText limit

/-- The options of a query are read back from their text. -/
theorem Query.OptionTexts.read {query base : Query} (h : query.OptionTexts) (hs : base.sort = [])
    (hl : base.limit = none) {rest : List Char} (hr : rest.head? ≠ some '[') (source : List Char) :
    readOptionClause ⟨.braces, source⟩ base (query.optionChars ++ rest) =
      .ok ({ base with sort := query.sort, limit := query.limit }, rest) := by
  have hclose : Ends isPathChar (']' :: rest) ∧ SortOrder.ofSign? (']' :: rest).head? = none ∧
      Ends Char.isDigit (']' :: rest) := ⟨ends_cons.mpr (by decide), rfl, ends_cons.mpr (by decide)⟩
  by_cases hsort : query.sort = []
  · cases hlimit : query.limit with
    | none =>
      have ht : query.optionChars = [] := by simp [Query.optionChars, Query.options, hsort, hlimit]
      have hbase : base = { base with sort := [], limit := none } := by rw [← hs, ← hl]
      rw [ht, hsort, ← hbase, List.nil_append]
      unfold readOptionClause
      split
      · exact absurd rfl hr
      · rfl
    | some limit =>
      have ht : query.optionChars ++ rest =
          '[' :: ("limit=".toList ++ (limit.toList ++ ']' :: rest)) := by
        simp [Query.optionChars, Query.options, hsort, hlimit]
      rw [ht, hsort, ← hs]
      show readOptions _ base _ = .ok (QueryOption.apply base (.limit limit), rest)
      refine read_options_last ?_ (Text.skip_blanks_cons (by decide) rest)
      rw [hl]
      exact read_option_limit (h.limit limit hlimit) hclose.2.2 source _
  · cases hlimit : query.limit with
    | none =>
      have ht : query.optionChars ++ rest =
          '[' :: ("sort=".toList ++ (sortText query.sort ++ ']' :: rest)) := by
        simp [Query.optionChars, Query.options, hsort, hlimit, Query.sortChars, sortText]
      rw [ht, ← hl]
      show readOptions _ base _ = .ok (QueryOption.apply base (.sort query.sort), rest)
      refine read_options_last ?_ (Text.skip_blanks_cons (by decide) rest)
      rw [hs]
      exact read_option_sort hsort h.sort hclose.1 hclose.2.1 source _
    | some limit =>
      have ht : query.optionChars ++ rest = '[' :: ("sort=".toList ++ (sortText query.sort ++
          ',' :: ("limit=".toList ++ (limit.toList ++ ']' :: rest)))) := by
        simp [Query.optionChars, Query.options, hsort, hlimit, Query.sortChars, sortText]
      rw [ht]
      show readOptions _ base _ =
        .ok (QueryOption.apply (QueryOption.apply base (.sort query.sort)) (.limit limit), rest)
      rw [read_options_more (by
        rw [hs]
        exact read_option_sort hsort h.sort (ends_cons.mpr (by decide)) rfl source _)
        (Text.skip_blanks_cons (by decide) _)]
      refine read_options_last ?_ (Text.skip_blanks_cons (by decide) rest)
      show readOption _ _ base.limit.isSome _ = _
      rw [hl]
      exact read_option_limit (h.limit limit hlimit) hclose.2.2 source _

theorem read_option_texts {source text rest : List Char} {sorted limited : Bool}
    {option : QueryOption} {query : Query}
    (h : readOption ⟨.braces, source⟩ sorted limited text = .ok (option, rest))
    (hq : query.OptionTexts) : (option.apply query).OptionTexts := by
  unfold readOption at h
  split at h
  · split at h
    · cases h
    · obtain ⟨start, _, h⟩ := bind_eq_ok h
      obtain ⟨⟨terms, after⟩, ht, h⟩ := bind_eq_ok h
      cases h
      exact ⟨read_terms_paths ht, hq.limit⟩
  · split at h
    · cases h
    · obtain ⟨start, _, h⟩ := bind_eq_ok h
      obtain ⟨⟨limit, after⟩, hl, h⟩ := bind_eq_ok h
      cases h
      refine ⟨hq.sort, ?_⟩
      rintro _ ⟨⟩
      exact read_limit_reads_as hl
  · cases h

/-- What options are read into a query. -/
theorem read_options_texts {source text rest : List Char} {query result : Query}
    (h : readOptions ⟨.braces, source⟩ query text = .ok (result, rest)) (hq : query.OptionTexts) :
    result.OptionTexts ∧ ∃ sort limit, result = { query with sort := sort, limit := limit } := by
  fun_induction readOptions ⟨.braces, source⟩ query text with
  | case1 => cases h
  | case2 query text option rest' ho after hs _ ih =>
    obtain ⟨hr, sort, limit, he⟩ := ih h (read_option_texts ho hq)
    refine ⟨hr, sort, limit, ?_⟩
    cases option <;> exact he
  | case3 query text option rest' ho after hs =>
    cases h
    refine ⟨read_option_texts ho hq, ?_⟩
    cases option <;> exact ⟨_, _, rfl⟩
  | case4 => cases h

/-- Clauses in front of the filters that are read back from their own texts. -/
structure Query.ClauseTexts (query : Query) : Prop extends query.OptionTexts where
  collection : ∀ name, query.collection = some name →
    name.toList ≠ [] ∧ ∀ c ∈ name.toList, isCollectionChar c = true
  path : query.path.toList.head? = some '/' ∧ ∀ c ∈ query.path.toList, isLocationChar c = true
  fields : ∀ field ∈ query.fields, PathText .fieldName field

theorem collection_char_not_blank {c : Char} (h : isCollectionChar c = true) :
    Text.isBlank c = false := by
  simp only [isCollectionChar, Bool.or_eq_true, decide_eq_true_eq] at h
  rcases h with (h | rfl) | rfl
  · exact path_char_not_blank (by simp [isPathChar, h])
  · decide
  · decide

theorem read_collection_text {query : Query} (h : query.ClauseTexts) (rest : List Char) :
    readCollection (Text.skipBlanks (query.collectionChars ++ (query.path.toList ++ rest))) =
      (query.collection, query.path.toList ++ rest) := by
  obtain ⟨c, path, hp⟩ : ∃ c path, query.path.toList = c :: path := by
    cases hp : query.path.toList with
    | nil =>
      have := h.path.1
      rw [hp] at this
      cases this
    | cons c path => exact ⟨c, path, rfl⟩
  cases hc : query.collection with
  | none =>
    have hslash := h.path.1
    rw [hp] at hslash
    cases hslash
    have ht : query.collectionChars = [] := by rw [Query.collectionChars, hc]
    rw [ht, List.nil_append, hp, List.cons_append, Text.skip_blanks_cons (by decide)]
    rfl
  | some name =>
    obtain ⟨hne, hname⟩ := h.collection name hc
    obtain ⟨d, tail, hd⟩ := List.exists_cons_of_ne_nil hne
    have hskip : Text.skipBlanks (name.toList ++ ':' :: (query.path.toList ++ rest)) =
        name.toList ++ ':' :: (query.path.toList ++ rest) := by
      rw [hd]
      refine Text.skip_blanks_cons (collection_char_not_blank (hname d ?_)) _
      rw [hd]
      exact List.mem_cons_self
    have ht : query.collectionChars = name.toList ++ [':'] := by rw [Query.collectionChars, hc]
    rw [ht, List.append_assoc, List.singleton_append, hskip]
    unfold readCollection
    rw [List.takeWhile_append_of_pos hname, List.dropWhile_append_of_pos hname]
    have htake : (':' :: (query.path.toList ++ rest)).takeWhile isCollectionChar = [] := rfl
    have hdrop : (':' :: (query.path.toList ++ rest)).dropWhile isCollectionChar =
      ':' :: (query.path.toList ++ rest) := rfl
    rw [htake, hdrop, List.append_nil]
    simp [hne]

theorem read_field_clause {query base : Query}
    (h : ∀ field ∈ query.fields, PathText .fieldName field)
    (hf : base.fields = []) {rest : List Char} (hr : rest.head? ≠ some '\x7b')
    (source : List Char) :
    readFieldClause ⟨.braces, source⟩ base (query.fieldChars ++ rest) =
      .ok ({ base with fields := query.fields }, rest) := by
  by_cases hne : query.fields = []
  · have ht : query.fieldChars = [] := by simp [Query.fieldChars, hne]
    have hbase : base = { base with fields := [] } := by rw [← hf]
    rw [ht, hne, ← hbase, List.nil_append]
    unfold readFieldClause
    split
    · exact absurd rfl hr
    · rfl
  · have ht : query.fieldChars ++ rest =
        '\x7b' :: ([','].intercalate (query.fields.map String.toList) ++ '\x7d' :: rest) := by
      simp [Query.fieldChars, hne]
    rw [ht]
    show (readFields _ _).map _ = _
    rw [read_fields_text hne h]
    rfl

/-- Each clause is empty or starts with its own character. -/
theorem Query.clause_heads (query : Query) :
    (query.fieldChars = [] ∨ ∃ text, query.fieldChars = '\x7b' :: text) ∧
      (query.optionChars = [] ∨ ∃ text, query.optionChars = '[' :: text) ∧
      (query.filterClauseChars = [] ∨ ∃ text, query.filterClauseChars = '?' :: text) := by
  refine ⟨?_, ?_, ?_⟩
  · unfold Query.fieldChars
    split
    · exact .inl rfl
    · exact .inr ⟨_, rfl⟩
  · unfold Query.optionChars
    split
    · exact .inl rfl
    · exact .inr ⟨_, rfl⟩
  · unfold Query.filterClauseChars
    split
    · exact .inr ⟨_, rfl⟩
    · exact .inl rfl

theorem read_query_eq {source : Source} {collection : Option String} {rest : List Char}
    (hc : readCollection (Text.skipBlanks source.text) = (collection, rest))
    (hs : rest.head? = some '/') :
    readQuery source =
      (readFieldClause source
        ⟨collection, String.ofList (rest.takeWhile isLocationChar), [], [], [], none⟩
          (rest.dropWhile isLocationChar)).bind fun fields =>
        (readOptionClause source fields.1 fields.2).bind fun options =>
          (readFilterClause source options.1 (Text.skipBlanks options.2)).bind fun filters =>
            (expectEnd filters.2).map fun _ => filters.1 := by
  unfold readQuery
  simp only [hc, hs, ne_eq, not_true_eq_false, if_false]
  rfl

/-- The text of a query is read back up to its filters. -/
theorem Query.ClauseTexts.read {query : Query} (h : query.ClauseTexts) :
    readQuery ⟨.braces, query.chars⟩ =
      (readFilterClause ⟨.braces, query.chars⟩ { query with filters := [] }
        query.filterClauseChars).bind
        fun result => (expectEnd result.2).map fun _ => result.1 := by
  obtain ⟨hfields, hoptions, hfilters⟩ := query.clause_heads
  have hfiltersHead : ∀ c, query.filterClauseChars.head? = some c → c = '?' := by
    rcases hfilters with ht | ⟨text, ht⟩ <;> rw [ht] <;> rintro c ⟨⟩
    rfl
  have hoptionsHead : ∀ c, (query.optionChars ++ query.filterClauseChars).head? = some c →
      c = '[' ∨ c = '?' := by
    rcases hoptions with ht | ⟨text, ht⟩ <;> rw [ht]
    · exact fun c hc => .inr (hfiltersHead c hc)
    · rintro c ⟨⟩
      exact .inl rfl
  have hfieldsHead :
      ∀ c, (query.fieldChars ++ (query.optionChars ++ query.filterClauseChars)).head? = some c →
      isLocationChar c = false := by
    rcases hfields with ht | ⟨text, ht⟩ <;> rw [ht]
    · intro c hc
      rcases hoptionsHead c hc with rfl | rfl <;> decide
    · rintro c ⟨⟩
      decide
  have hskip : Text.skipBlanks query.filterClauseChars = query.filterClauseChars := by
    rcases hfilters with ht | ⟨text, ht⟩ <;> rw [ht]
    · rfl
    · exact Text.skip_blanks_cons (by decide) text
  generalize hafter : query.fieldChars ++ (query.optionChars ++ query.filterClauseChars) =
    after at hfieldsHead
  have hc : readCollection (Text.skipBlanks query.chars) =
      (query.collection, query.path.toList ++ after) := by
    rw [← read_collection_text h after, ← hafter]
    simp [Query.chars]
  have hstop : after.takeWhile isLocationChar = [] ∧ after.dropWhile isLocationChar = after := by
    cases after with
    | nil => exact ⟨rfl, rfl⟩
    | cons c after => simp [hfieldsHead c rfl]
  have htake : (query.path.toList ++ after).takeWhile isLocationChar = query.path.toList := by
    rw [List.takeWhile_append_of_pos h.path.2, hstop.1, List.append_nil]
  have hdrop : (query.path.toList ++ after).dropWhile isLocationChar = after := by
    rw [List.dropWhile_append_of_pos h.path.2, hstop.2]
  have hslash : (query.path.toList ++ after).head? = some '/' := by
    rw [List.head?_append, h.path.1]
    rfl
  rw [@read_query_eq ⟨.braces, query.chars⟩ _ _ hc hslash, htake, hdrop, ← hafter,
    String.ofList_toList, read_field_clause h.fields rfl]
  · dsimp only [Except.bind]
    rw [h.toOptionTexts.read rfl rfl]
    · dsimp only [Except.bind]
      rw [hskip]
    · intro hc
      cases hfiltersHead _ hc
  · intro hc
    rcases hoptionsHead _ hc with h | h <;> cases h

theorem read_collection_name {text rest : List Char} {name : String}
    (h : readCollection text = (some name, rest)) :
    name.toList ≠ [] ∧ ∀ c ∈ name.toList, isCollectionChar c = true := by
  unfold readCollection at h
  dsimp only at h
  split at h
  · split at h
    · cases h
    · rename_i hne
      cases h
      rw [String.toList_ofList]
      exact ⟨hne, fun c hc => List.mem_takeWhile_imp hc⟩
  · cases h

theorem read_field_clause_paths {source text rest : List Char} {base result : Query}
    (h : readFieldClause ⟨.braces, source⟩ base text = .ok (result, rest)) (hb : base.fields = []) :
    ∃ fields, result = { base with fields := fields } ∧
      ∀ field ∈ fields, PathText .fieldName field := by
  unfold readFieldClause at h
  split at h
  · obtain ⟨⟨fields, after⟩, hf, h⟩ := map_eq_ok h
    cases h
    exact ⟨fields, rfl, read_fields_paths hf⟩
  · cases h
    refine ⟨[], by rw [← hb], ?_⟩
    intro field hm
    cases hm

theorem read_option_clause_texts {source text rest : List Char} {base result : Query}
    (h : readOptionClause ⟨.braces, source⟩ base text = .ok (result, rest))
    (hb : base.OptionTexts) :
    result.OptionTexts ∧ ∃ sort limit, result = { base with sort := sort, limit := limit } := by
  unfold readOptionClause at h
  split at h
  · exact read_options_texts h hb
  · cases h
    exact ⟨hb, _, _, rfl⟩

theorem read_filter_clause_tree {source : Source} {text rest : List Char} {base result : Query}
    (h : readFilterClause source base text = .ok (result, rest)) :
    result = base ∨ ∃ inner tree after, readFilters source inner = .ok (tree, after) ∧
      result = { base with filters := tree.tokens } := by
  unfold readFilterClause at h
  split at h
  · obtain ⟨⟨tree, after⟩, hf, h⟩ := map_eq_ok h
    cases h
    exact .inr ⟨_, tree, _, hf, rfl⟩
  · cases h
    exact .inl rfl

/-- What is read from a text has clauses that are read back, and filters that are read. -/
theorem read_query_texts {source : List Char} {query : Query}
    (h : readQuery ⟨.braces, source⟩ = .ok query) :
    query.ClauseTexts ∧ (query.filters = [] ∨ ∃ text tree rest,
      readFilters ⟨.braces, source⟩ text = .ok (tree, rest) ∧ query.filters = tree.tokens) := by
  cases hc : readCollection (Text.skipBlanks source) with
  | mk collection start =>
    by_cases hs : start.head? = some '/'
    · rw [@read_query_eq ⟨.braces, source⟩ _ _ hc hs] at h
      obtain ⟨⟨withFields, afterFields⟩, hfields, h⟩ := bind_eq_ok h
      obtain ⟨⟨withOptions, afterOptions⟩, hoptions, h⟩ := bind_eq_ok h
      obtain ⟨⟨withFilters, afterFilters⟩, hfilters, h⟩ := bind_eq_ok h
      obtain ⟨_, _, rfl⟩ := map_eq_ok h
      obtain ⟨fields, rfl, hpaths⟩ := read_field_clause_paths hfields rfl
      obtain ⟨htexts, sort, limit, rfl⟩ :=
        read_option_clause_texts hoptions ⟨by rintro _ ⟨⟩, by rintro _ ⟨⟩⟩
      have hpath : (start.takeWhile isLocationChar).head? = some '/' := by
        cases start with
        | nil => cases hs
        | cons c start =>
          cases hs
          rfl
      have hclauses : ∀ filters, Query.ClauseTexts
          ⟨collection, String.ofList (start.takeWhile isLocationChar), fields, filters, sort,
            limit⟩ := by
        intro filters
        refine ⟨⟨htexts.sort, htexts.limit⟩, ?_, ⟨?_, ?_⟩, hpaths⟩
        · rintro name rfl
          exact read_collection_name hc
        · rw [String.toList_ofList]
          exact hpath
        · rw [String.toList_ofList]
          exact fun c hm => List.mem_takeWhile_imp hm
      rcases read_filter_clause_tree hfilters with rfl | ⟨text, tree, rest, hread, rfl⟩
      · exact ⟨hclauses _, .inl rfl⟩
      · exact ⟨hclauses _, .inr ⟨text, tree, rest, hread, rfl⟩⟩
    · unfold readQuery at h
      simp only [hc, ne_eq, hs, not_false_eq_true, if_true] at h
      cases h

end PathQuery
