import PathQuery.Proofs.Scanning

namespace PathQuery

section Runs

variable {source : Source} {allowed : Char → Bool}

/-- The characters of a placeholder are taken without a look at them. -/
theorem take_run_skip (skip : Nat) (text : List Char) :
    takeRun source allowed skip text =
      (takeRun source allowed 0 (text.drop skip)).map fun run =>
        { run with text := text.take skip ++ run.text } := by
  induction text generalizing skip with
  | nil =>
    rw [List.drop_nil, takeRun, takeRun]
    simp [Except.map]
  | cons c text ih =>
    cases skip with
    | zero =>
      rw [List.drop_zero]
      cases takeRun source allowed 0 (c :: text) with
      | error failure => rfl
      | ok run => rfl
    | succ skip =>
      rw [takeRun, ih, List.drop_succ_cons]
      cases takeRun source allowed 0 (text.drop skip) with
      | error failure => rfl
      | ok run => rfl

end Runs

section Terms

variable {source : Source}

theorem read_more_terms_sign (order : SortOrder) (text : List Char) :
    readMoreTerms source (order.sign :: text) =
      (readPath source .sortField text).bind fun found =>
        (readMoreTerms source found.2).map fun more => (⟨found.1, order⟩ :: more.1, more.2) := by
  cases hp : readPath source .sortField text with
  | ok found => exact read_more_terms_cons hp
  | error failure =>
    rw [readMoreTerms]
    split
    · rename_i ho
      rw [List.head?_cons, order_of_sign] at ho
      cases ho
    · split
      · rename_i failure' hp'
        rw [List.drop_one, List.tail_cons, hp] at hp'
        cases hp'
        rfl
      · rename_i hp'
        rw [List.drop_one, List.tail_cons, hp] at hp'
        cases hp'

theorem read_terms_sign (order : SortOrder) (text : List Char) :
    readTerms source (order.sign :: text) =
      (readPath source .sortField text).bind fun found =>
        (readMoreTerms source found.2).map fun more => (⟨found.1, order⟩ :: more.1, more.2) := by
  rw [readTerms, List.head?_cons, order_of_sign]
  exact read_more_terms_sign order text

theorem read_terms_unsigned {text : List Char} (h : SortOrder.ofSign? text.head? = none) :
    readTerms source text =
      (readPath source .sortField text).bind fun found =>
        (readMoreTerms source found.2).map fun more =>
          (⟨found.1, .ascending⟩ :: more.1, more.2) := by
  rw [readTerms, h]
  dsimp only
  cases readPath source .sortField text with
  | error failure => rfl
  | ok found =>
    dsimp only [Except.bind]
    cases readMoreTerms source found.2 with
    | error failure => rfl
    | ok more => rfl

end Terms

theorem map_bind_eq {ε α β γ : Type} {x : Except ε α} {f : α → Except ε β} {g : β → γ} :
    (x.bind f).map g = x.bind fun a => (f a).map g := by
  cases x with
  | error e => rfl
  | ok a => rfl

theorem map_map_eq {ε α β γ : Type} {x : Except ε α} {f : α → β} {g : β → γ} :
    (x.map f).map g = x.map fun a => g (f a) := by
  cases x with
  | error e => rfl
  | ok a => rfl

section Options

variable {source : Source} {sorted limited : Bool}

theorem read_option_sorts (rest : List Char) :
    readOption source sorted limited ("sort".toList ++ rest) =
      if sorted then .error ⟨.singleSort, "sort".toList ++ rest⟩
      else (readEquals rest).bind fun after =>
        (readTerms source after).map fun found => (.sort found.1, found.2) := rfl

theorem read_option_limits (rest : List Char) :
    readOption source sorted limited ("limit".toList ++ rest) =
      if limited then .error ⟨.singleLimit, "limit".toList ++ rest⟩
      else (readEquals rest).bind fun after =>
        (readLimit source after).map fun found => (.limit found.1, found.2) := rfl

theorem read_option_other {text : List Char} (hsort : ¬ "sort".toList <+: text)
    (hlimit : ¬ "limit".toList <+: text) :
    readOption source sorted limited text = .error ⟨.option, text⟩ := by
  unfold readOption
  split
  · rename_i rest
    exact absurd (List.prefix_append _ rest) hsort
  · rename_i rest
    exact absurd (List.prefix_append _ rest) hlimit
  · rfl

end Options

namespace Scanner

section Parts

variable {scanner : Scanner} {position : Nat} {rest : List Char}

theorem placeholder_nil (scanner : Scanner) : scanner.source.placeholder [] = .ok 0 := by
  cases hat : scanner.marker.at? (scanner.source.before []) [] with
  | some occurrence =>
    have hzero : occurrence.length = 0 := by simpa using Marker.at_length_le hat
    rw [placeholder_of_at hat, hzero]
  | none =>
    cases hm : scanner.marker with
    | pattern regex => exact placeholder_of_pattern hm hat
    | braces =>
      rw [source, hm]
      exact Source.placeholder_none (by simp)

theorem run_follows (allowed : Char → Bool) (templated : Bool)
    (h : StandsAt scanner.text position rest) :
    Follows scanner.text position ((scanner.run allowed templated).result position)
      ((takeRun scanner.source allowed 0 rest).map fun run =>
        (templated || run.templated, run.rest)) := by
  induction hn : rest.length using Nat.strongRecOn generalizing position rest templated with
  | ind n ih =>
    subst hn
    have hplaceholder := placeholder_follows h
    rw [run]
    cases rest with
    | nil =>
      rw [placeholder_nil] at hplaceholder
      refine hplaceholder.bind_ok ?_
      intro next hnext
      simp only [Nat.lt_irrefl, decide_false, Bool.false_eq_true, if_false]
      rw [Scan.bind_ok (peek_result hnext), takeRun]
      simp only [List.drop_nil, List.head?_nil, Except.map, Bool.or_false]
      exact .ok hnext le_rfl
    | cons c rest =>
      rw [takeRun]
      cases hp : scanner.source.placeholder (c :: rest) with
      | error failure =>
        rw [hp] at hplaceholder
        exact hplaceholder.bind_error
      | ok length =>
        rw [hp] at hplaceholder
        refine hplaceholder.bind_ok ?_
        intro next hnext
        cases length with
        | zero =>
          simp only [Nat.lt_irrefl, decide_false, Bool.false_eq_true, if_false]
          rw [Scan.bind_ok (peek_result hnext)]
          by_cases hc : allowed c = true
          · simp only [List.drop_zero, List.head?_cons, hc, if_true]
            refine (bump_cons hnext).bind_ok ?_
            intro later hlater
            have hrest := ih rest.length (by simp) templated hlater rfl
            cases hr : takeRun scanner.source allowed 0 rest with
            | error failure =>
              rw [hr] at hrest
              exact hrest
            | ok run =>
              rw [hr] at hrest
              exact hrest
          · simp only [List.drop_zero, List.head?_cons, hc, Bool.false_eq_true,
              if_false, Except.map, Bool.or_false]
            exact .ok hnext le_rfl
        | succ length =>
          simp only [Nat.zero_lt_succ, decide_true, if_true]
          rw [List.drop_succ_cons] at hnext
          have hshorter : (rest.drop length).length < (c :: rest).length := by
            rw [List.length_drop, List.length_cons]
            omega
          have hrest := ih _ hshorter true hnext rfl
          rw [take_run_skip]
          cases hr : takeRun scanner.source allowed 0 (rest.drop length) with
          | error failure =>
            rw [hr] at hrest
            exact hrest
          | ok run =>
            rw [hr] at hrest
            simpa [Except.map, Run.push] using hrest

/-- What a run takes is the slice from its start to its end. -/
theorem run_slice {allowed : Char → Bool} {run : Run} {next : Nat}
    (hr : takeRun scanner.source allowed 0 rest = .ok run)
    (h : StandsAt scanner.text position rest) (hn : StandsAt scanner.text next run.rest) :
    Text.slice? scanner.text position next = some (String.ofList run.text) := by
  rw [← take_run_parts hr] at h
  exact h.slice hn

theorem head_ne {c : Char} {text : List Char} (h : ∀ after, text = c :: after → False) :
    text.head? ≠ some c := by
  intro he
  obtain ⟨after, rfl⟩ := List.head?_eq_some_iff.mp he
  exact h after rfl

theorem path_follows (what : Expectation) (h : StandsAt scanner.text position rest) :
    Follows scanner.text position ((scanner.path what).result position)
      (readPath scanner.source what rest) := by
  have hrun := run_follows isPathChar false h
  rw [path, Scan.get_bind, readPath]
  cases hr : takeRun scanner.source isPathChar 0 rest with
  | error failure =>
    rw [hr] at hrun
    exact hrun.bind_error
  | ok run =>
    rw [hr] at hrun
    refine hrun.bind_ok ?_
    intro next hnext
    rw [Scan.get_bind, slice, Scan.lift_bind (run_slice hr h hnext), String.toList_ofList]
    simp only [Bool.false_or]
    split
    · exact fail_at_follows h what hnext
    · exact .ok hnext le_rfl

/-- A part with white space on both sides. -/
theorem padded_ok {α β : Type} {scan : Scan α} {k : α → Scan β} {result : α} {after : List Char}
    {outcome : Except Failure (β × List Char)}
    (hscan : ∀ next, StandsAt scanner.text next (Text.skipBlanks rest) →
      Follows scanner.text next (scan.result next) (.ok (result, after)))
    (hk : ∀ next, StandsAt scanner.text next (Text.skipBlanks after) →
      Follows scanner.text next ((k result).result next) outcome)
    (h : StandsAt scanner.text position rest) :
    Follows scanner.text position
      ((do scanner.skipBlanks; let found ← scan; scanner.skipBlanks; k found).result position)
      outcome := by
  refine (skip_blanks_follows h).bind_ok ?_
  intro start hstart
  refine (hscan start hstart).bind_ok ?_
  intro stop hstop
  refine (skip_blanks_follows hstop).bind_ok ?_
  intro next hnext
  exact hk next hnext

theorem padded_error {α β : Type} {scan : Scan α} {k : α → Scan β} {failure : Failure}
    (hscan : ∀ next, StandsAt scanner.text next (Text.skipBlanks rest) →
      Follows scanner.text next (scan.result next) (.error failure))
    (h : StandsAt scanner.text position rest) :
    Follows scanner.text position
      ((do scanner.skipBlanks; let found ← scan; k found).result position) (.error failure) := by
  refine (skip_blanks_follows h).bind_ok ?_
  intro start hstart
  exact (hscan start hstart).bind_error

/-- What there is to do behind an item of a list: a comma asks for more, and a closing sign ends the
list. -/
def afterItem (scanner : Scanner) {α : Type} (closing : Char) (expected : Expectation)
    (more : Scan α) (result : α) : Scan α := do
  if ← scanner.eat ',' then more
  else if ← scanner.eat closing then return result
  else scanner.fail expected

section Items

variable {α : Type} {closing : Char} {expected : Expectation} {more : Scan α} {result : α}
  {after : List Char}

theorem after_item_comma {outcome : Except Failure (α × List Char)} (hs : rest = ',' :: after)
    (hmore : ∀ next, StandsAt scanner.text next after →
      Follows scanner.text next (more.result next) outcome)
    (h : StandsAt scanner.text position rest) :
    Follows scanner.text position
      ((scanner.afterItem closing expected more result).result position) outcome := by
  rw [hs] at h
  exact (eat_head h).bind_ok hmore

theorem after_item_closed (hs : rest = closing :: after) (hc : closing ≠ ',')
    (h : StandsAt scanner.text position rest) :
    Follows scanner.text position
      ((scanner.afterItem closing expected more result).result position)
      (.ok (result, after)) := by
  rw [hs] at h
  refine (eat_other h (by simpa using hc)).bind_ok ?_
  intro next hnext
  refine (eat_head hnext).bind_ok ?_
  intro next hnext
  exact .ok hnext le_rfl

theorem after_item_refused (hcomma : ∀ after, rest = ',' :: after → False)
    (hclosing : ∀ after, rest = closing :: after → False)
    (h : StandsAt scanner.text position rest) :
    Follows scanner.text position
      ((scanner.afterItem closing expected more result).result position)
      (.error ⟨expected, rest⟩) := by
  refine (eat_other h (head_ne hcomma)).bind_ok ?_
  intro next hnext
  refine (eat_other hnext (head_ne hclosing)).bind_ok ?_
  intro next hnext
  exact fail_follows hnext expected

end Items

theorem fields_follows (sofar : List String) (h : StandsAt scanner.text position rest) :
    Follows scanner.text position ((scanner.fields sofar).result position)
      ((readFields scanner.source rest).map fun found => (sofar ++ found.1, found.2)) := by
  have hpath {text : List Char} {outcome : Except Failure (String × List Char)}
      (hp : readPath scanner.source .fieldName (Text.skipBlanks text) = outcome) :
      ∀ next, StandsAt scanner.text next (Text.skipBlanks text) →
        Follows scanner.text next ((scanner.path .fieldName).result next) outcome := by
    intro next hnext
    rw [← hp]
    exact path_follows .fieldName hnext
  fun_induction readFields scanner.source rest generalizing position sofar with
  | case1 text failure hp =>
    rw [fields]
    exact padded_error (hpath hp) h
  | case2 text field rest hp after hs hlt failure hr ih =>
    rw [fields]
    refine padded_ok (hpath hp) (fun next => after_item_comma hs ?_) h
    intro later hlater
    have hmore := ih (sofar ++ [field]) hlater
    rw [hr] at hmore
    exact hmore
  | case3 text field rest hp after hs hlt more left hr ih =>
    rw [fields]
    refine padded_ok (hpath hp) (fun next => after_item_comma hs ?_) h
    intro later hlater
    have hmore := ih (sofar ++ [field]) hlater
    rw [hr] at hmore
    simpa [Except.map] using hmore
  | case4 text field rest hp after hs =>
    rw [fields]
    exact padded_ok (hpath hp) (fun next => after_item_closed hs (by decide)) h
  | case5 text field rest hp hcomma hclose =>
    rw [fields]
    exact padded_ok (hpath hp) (fun next => after_item_refused hcomma hclose) h

theorem exists_order_sign {order : SortOrder} (h : SortOrder.ofSign? rest.head? = some order) :
    ∃ after, rest = order.sign :: after := by
  unfold SortOrder.ofSign? at h
  split at h
  · rename_i hhead
    cases h
    exact List.head?_eq_some_iff.mp hhead
  · rename_i hhead
    cases h
    exact List.head?_eq_some_iff.mp hhead
  · cases h

theorem order_signed {order : SortOrder} (first : Bool)
    (ho : SortOrder.ofSign? rest.head? = some order) (h : StandsAt scanner.text position rest) :
    Follows scanner.text position ((scanner.order first).result position)
      (.ok (some order, rest.drop 1)) := by
  obtain ⟨after, rfl⟩ := exists_order_sign ho
  cases order with
  | ascending =>
    refine (eat_head h).bind_ok ?_
    intro next hnext
    exact .ok hnext le_rfl
  | descending =>
    refine (eat_other h (by simp [SortOrder.sign])).bind_ok ?_
    intro next hnext
    refine (eat_head hnext).bind_ok ?_
    intro next hnext
    exact .ok hnext le_rfl

theorem order_unsigned (first : Bool) (ho : SortOrder.ofSign? rest.head? = none)
    (h : StandsAt scanner.text position rest) :
    Follows scanner.text position ((scanner.order first).result position)
      (.ok (if first then some .ascending else none, rest)) := by
  have hne (order : SortOrder) : rest.head? ≠ some order.sign := by
    intro hhead
    rw [hhead, order_of_sign] at ho
    cases ho
  refine (eat_other h (hne .ascending)).bind_ok ?_
  intro next hnext
  refine (eat_other hnext (hne .descending)).bind_ok ?_
  intro next hnext
  exact .ok hnext le_rfl

section Terms

variable {sofar : List SortTerm} {order : SortOrder} {middle : List Char}
  (ho : Follows scanner.text position ((scanner.order sofar.isEmpty).result position)
    (.ok (some order, middle)))

include ho

/-- One more term, behind its order. -/
theorem terms_step {key : String} {after : List Char}
    {outcome : Except Failure (List SortTerm × List Char)}
    (hp : readPath scanner.source .sortField middle = .ok (key, after))
    (hk : ∀ next, StandsAt scanner.text next after → Follows scanner.text next
      ((scanner.terms (sofar ++ [⟨key, order⟩])).result next) outcome) :
    Follows scanner.text position ((scanner.terms sofar).result position) outcome := by
  rw [terms]
  refine ho.bind_ok ?_
  intro next hnext
  have hpath := path_follows .sortField hnext
  rw [hp] at hpath
  exact hpath.bind_ok hk

theorem terms_refused {failure : Failure}
    (hp : readPath scanner.source .sortField middle = .error failure) :
    Follows scanner.text position ((scanner.terms sofar).result position) (.error failure) := by
  rw [terms]
  refine ho.bind_ok ?_
  intro next hnext
  have hpath := path_follows .sortField hnext
  rw [hp] at hpath
  exact hpath.bind_error

end Terms

theorem more_terms_follows (sofar : List SortTerm) (hsofar : sofar.isEmpty = false)
    (h : StandsAt scanner.text position rest) :
    Follows scanner.text position ((scanner.terms sofar).result position)
      ((readMoreTerms scanner.source rest).map fun found => (sofar ++ found.1, found.2)) := by
  fun_induction readMoreTerms scanner.source rest generalizing position sofar with
  | case1 text ho =>
    rw [terms, hsofar]
    refine (order_unsigned false ho h).bind_ok ?_
    intro next hnext
    simp only [Except.map, List.append_nil]
    exact .ok hnext le_rfl
  | case2 text order ho failure hp => exact terms_refused (order_signed _ ho h) hp
  | case3 text order ho key rest hp hlt failure hr ih =>
    refine terms_step (order_signed _ ho h) hp ?_
    intro next hnext
    have hmore := ih (sofar ++ [⟨key, order⟩]) (by simp) hnext
    rw [hr] at hmore
    exact hmore
  | case4 text order ho key rest hp hlt more left hr ih =>
    refine terms_step (order_signed _ ho h) hp ?_
    intro next hnext
    have hmore := ih (sofar ++ [⟨key, order⟩]) (by simp) hnext
    rw [hr] at hmore
    simpa [Except.map] using hmore

/-- The first term has an order in any case; behind it there are further terms. -/
theorem first_term_follows {order : SortOrder} {middle : List Char}
    (ho : Follows scanner.text position
      ((scanner.order ([] : List SortTerm).isEmpty).result position) (.ok (some order, middle))) :
    Follows scanner.text position ((scanner.terms []).result position)
      ((readPath scanner.source .sortField middle).bind fun found =>
        (readMoreTerms scanner.source found.2).map fun more =>
          (⟨found.1, order⟩ :: more.1, more.2)) := by
  cases hp : readPath scanner.source .sortField middle with
  | error failure => exact terms_refused ho hp
  | ok found =>
    refine terms_step ho hp ?_
    intro next hnext
    exact more_terms_follows _ rfl hnext

theorem terms_follows (h : StandsAt scanner.text position rest) :
    Follows scanner.text position ((scanner.terms []).result position)
      (readTerms scanner.source rest) := by
  cases ho : SortOrder.ofSign? rest.head? with
  | some order =>
    have hterms := first_term_follows (order_signed _ ho h)
    obtain ⟨after, rfl⟩ := exists_order_sign ho
    rw [read_terms_sign]
    exact hterms
  | none =>
    rw [read_terms_unsigned ho]
    exact first_term_follows (order_unsigned _ ho h)

theorem sign_follows (h : StandsAt scanner.text position rest) :
    Follows scanner.text position (scanner.sign.result position)
      (.ok ((), rest.drop (signLength rest))) := by
  rw [sign, Scan.bind_ok (peek_result h)]
  unfold signLength
  cases ho : SortOrder.ofSign? rest.head? with
  | some order =>
    obtain ⟨after, rfl⟩ := exists_order_sign ho
    refine (bump_cons h).bind_ok ?_
    intro next hnext
    exact .ok hnext le_rfl
  | none => exact .ok h le_rfl

theorem limit_follows (h : StandsAt scanner.text position rest) :
    Follows scanner.text position (scanner.limit.result position)
      (readLimit scanner.source rest) := by
  rw [limit, Scan.get_bind, readLimit]
  dsimp only
  rw [← signLength]
  refine (sign_follows h).bind_ok ?_
  intro middle hmiddle
  have hrun := run_follows Char.isDigit false hmiddle
  cases hr : takeRun scanner.source Char.isDigit 0 (rest.drop (signLength rest)) with
  | error failure =>
    rw [hr] at hrun
    exact hrun.bind_error
  | ok run =>
    rw [hr] at hrun
    refine hrun.bind_ok ?_
    intro next hnext
    have hstart := h
    rw [← List.take_append_drop (signLength rest) rest, ← take_run_parts hr, ← List.append_assoc]
      at hstart
    rw [Scan.get_bind, slice, Scan.lift_bind (hstart.slice hnext), String.toList_ofList]
    simp only [Bool.false_or]
    split
    · exact fail_at_follows h .limit hnext
    · exact .ok hnext le_rfl

theorem equals_follows (h : StandsAt scanner.text position rest) :
    Follows scanner.text position (scanner.equals.result position)
      ((readEquals rest).map fun after => ((), after)) := by
  rw [equals, readEquals]
  refine (skip_blanks_follows h).bind_ok ?_
  intro next hnext
  split
  · rename_i after hs
    rw [hs] at hnext
    refine (eat_head hnext).bind_ok ?_
    intro next hnext
    exact skip_blanks_follows hnext
  · rename_i hs
    refine (eat_other hnext (head_ne hs)).bind_ok ?_
    intro next hnext
    exact fail_follows hnext .equals

/-- What stands behind the name of an option and its equals sign. -/
theorem equals_then {α β : Type} {scan : Scan α} {g : α → β}
    {read : List Char → Except Failure (α × List Char)}
    (hscan : ∀ next after, StandsAt scanner.text next after →
      Follows scanner.text next (scan.result next) (read after))
    (h : StandsAt scanner.text position rest) :
    Follows scanner.text position
      ((do scanner.equals; let found ← scan; pure (g found)).result position)
      ((readEquals rest).bind fun after => (read after).map fun found => (g found.1, found.2)) := by
  have hequals := equals_follows h
  cases he : readEquals rest with
  | error failure =>
    rw [he] at hequals
    exact hequals.bind_error
  | ok after =>
    rw [he] at hequals
    refine hequals.bind_ok ?_
    intro next hnext
    exact (hscan next after hnext).map

theorem option_follows (query : Query) (h : StandsAt scanner.text position rest) :
    Follows scanner.text position ((scanner.option query).result position)
      ((readOption scanner.source (!query.sort.isEmpty) query.limit.isSome rest).map fun found =>
        (found.1.apply query, found.2)) := by
  rw [option, Scan.get_bind]
  by_cases hsort : "sort".toList <+: rest
  · obtain ⟨after, rfl⟩ := hsort
    refine (eat_text_head h).bind_ok ?_
    intro next hnext
    rw [read_option_sorts]
    cases query.sort.isEmpty with
    | true =>
      rw [Bool.not_true, if_neg Bool.false_ne_true]
      simp only [map_bind_eq, map_map_eq]
      exact equals_then (fun _ _ => terms_follows) hnext
    | false => exact fail_at_follows h .singleSort hnext
  · refine (eat_text_other h hsort).bind_ok ?_
    intro next hnext
    by_cases hlimit : "limit".toList <+: rest
    · obtain ⟨after, rfl⟩ := hlimit
      refine (eat_text_head hnext).bind_ok ?_
      intro stop hstop
      rw [read_option_limits]
      cases query.limit with
      | none =>
        rw [Option.isSome_none, if_neg Bool.false_ne_true]
        simp only [map_bind_eq, map_map_eq]
        exact equals_then (fun _ _ => limit_follows) hstop
      | some limit => exact fail_at_follows h .singleLimit hstop
    · refine (eat_text_other hnext hlimit).bind_ok ?_
      intro next hnext
      rw [read_option_other hsort hlimit]
      exact fail_follows hnext .option

theorem options_follows (query : Query) (h : StandsAt scanner.text position rest) :
    Follows scanner.text position ((scanner.options query).result position)
      (readOptions scanner.source query rest) := by
  have hoption {query : Query} {text : List Char}
      {outcome : Except Failure (QueryOption × List Char)}
      (ho : readOption scanner.source (!query.sort.isEmpty) query.limit.isSome
        (Text.skipBlanks text) = outcome) :
      ∀ next, StandsAt scanner.text next (Text.skipBlanks text) →
        Follows scanner.text next ((scanner.option query).result next)
          (outcome.map fun found => (found.1.apply query, found.2)) := by
    intro next hnext
    rw [← ho]
    exact option_follows query hnext
  fun_induction readOptions scanner.source query rest generalizing position with
  | case1 query text failure ho =>
    rw [options]
    exact padded_error (hoption ho) h
  | case2 query text option rest ho after hs hlt ih =>
    rw [options]
    exact padded_ok (hoption ho) (fun next => after_item_comma hs fun later hlater => ih hlater) h
  | case3 query text option rest ho after hs =>
    rw [options]
    exact padded_ok (hoption ho) (fun next => after_item_closed hs (by decide)) h
  | case4 query text option rest ho hcomma hclose =>
    rw [options]
    exact padded_ok (hoption ho) (fun next => after_item_refused hcomma hclose) h

/-- The comparator of the first spelling that a text starts with. -/
def firstComparator : List (String × Comparator) → List Char →
    Except Failure (Comparator × List Char)
  | [], text => .error ⟨.comparator, text⟩
  | (symbol, comparator) :: others, text =>
    if symbol.toList <+: text then .ok (comparator, text.drop symbol.toList.length)
    else firstComparator others text

theorem among_follows (table : List (String × Comparator))
    (h : StandsAt scanner.text position rest) :
    Follows scanner.text position ((scanner.comparatorAmong table).result position)
      (firstComparator table rest) := by
  induction table generalizing position with
  | nil => exact fail_follows h .comparator
  | cons entry others ih =>
    obtain ⟨symbol, comparator⟩ := entry
    rw [firstComparator]
    by_cases hs : symbol.toList <+: rest
    · obtain ⟨after, rfl⟩ := hs
      rw [if_pos (List.prefix_append _ _), List.drop_left]
      refine (eat_text_head h).bind_ok ?_
      intro next hnext
      exact .ok hnext le_rfl
    · rw [if_neg hs]
      refine (eat_text_other h hs).bind_ok ?_
      intro next hnext
      exact ih hnext

theorem read_comparator_eq (text : List Char) :
    readComparator text = firstComparator comparators text := by
  unfold readComparator
  split <;> simp_all [firstComparator, comparators, List.cons_prefix_iff]

theorem comparator_follows (h : StandsAt scanner.text position rest) :
    Follows scanner.text position (scanner.comparator.result position) (readComparator rest) := by
  rw [read_comparator_eq]
  exact among_follows comparators h

/-- Reads up to a closing sign, with what an escaped character stands for. -/
def readUpTo (closing : Char) (escaped : Char → List Char) :
    List Char → Option (List Char × List Char)
  | [] => none
  | ['\\'] => none
  | '\\' :: c :: rest =>
    (readUpTo closing escaped rest).map fun found => (escaped c ++ found.1, found.2)
  | c :: rest =>
    if c = closing then some ([], rest)
    else (readUpTo closing escaped rest).map fun found => (c :: found.1, found.2)

theorem read_quoted_eq (quote : Char) (text : List Char) :
    readQuoted quote text = readUpTo quote (fun c => [c]) text := by
  fun_induction readQuoted quote text <;> simp_all [readUpTo]

theorem read_pattern_body_eq (text : List Char) :
    readPatternBody text =
      readUpTo '/' (fun c => if c = '/' then ['/'] else ['\\', c]) text := by
  fun_induction readPatternBody text with
  | case3 c rest ih =>
    rw [ih, readUpTo]
    by_cases hc : c = '/' <;> simp [hc]
  | _ => simp_all [readUpTo]

/-- What is read up to a closing sign, behind what was read before. Without a closing sign the text
has come to its end. -/
def closedBy (missing : Expectation) (sofar : List Char) :
    Option (List Char × List Char) → Except Failure (List Char × List Char)
  | some found => .ok (sofar ++ found.1, found.2)
  | none => .error ⟨missing, []⟩

theorem closed_by_map (missing : Expectation) (sofar taken : List Char)
    (found : Option (List Char × List Char)) :
    closedBy missing sofar (found.map fun found => (taken ++ found.1, found.2)) =
      closedBy missing (sofar ++ taken) found := by
  cases found with
  | none => rfl
  | some found => simp [closedBy]

/-- A character that neither ends the text as a backslash nor escapes the next one is no
backslash. -/
theorem backslash_ne {c : Char} {text : List Char} (hend : c = '\\' → text = [] → False)
    (hescape : ∀ next after, c = '\\' → text = next :: after → False) : c ≠ '\\' := by
  intro hc
  cases text with
  | nil => exact hend hc rfl
  | cons next after => exact hescape next after hc rfl

theorem up_to_follows (closing : Char) (missing : Expectation) (escaped : Char → List Char)
    (sofar : List Char) (h : StandsAt scanner.text position rest) :
    Follows scanner.text position
      ((scanner.upTo closing missing escaped sofar).result position)
      (closedBy missing sofar (readUpTo closing escaped rest)) := by
  fun_induction readUpTo closing escaped rest generalizing position sofar with
  | case1 =>
    rw [upTo]
    refine (bump_nil h).bind_ok ?_
    intro next hnext
    exact fail_follows hnext missing
  | case2 =>
    rw [upTo]
    refine (bump_cons h).bind_ok ?_
    intro next hnext
    refine (bump_nil hnext).bind_ok ?_
    intro next hnext
    exact fail_follows hnext missing
  | case3 c rest ih =>
    rw [upTo, closed_by_map]
    refine (bump_cons h).bind_ok ?_
    intro next hnext
    refine (bump_cons hnext).bind_ok ?_
    intro next hnext
    exact ih (sofar ++ escaped c) hnext
  | case4 rest hend hescape =>
    rw [upTo]
    refine (bump_cons h).bind_ok ?_
    intro next hnext
    simp only [backslash_ne hend hescape, if_false, if_true, closedBy, List.append_nil]
    exact .ok hnext le_rfl
  | case5 c rest hend hescape hc ih =>
    rw [upTo]
    change Follows _ _ _ (closedBy missing sofar
      ((readUpTo closing escaped rest).map fun found => ([c] ++ found.1, found.2)))
    rw [closed_by_map]
    refine (bump_cons h).bind_ok ?_
    intro next hnext
    simp only [backslash_ne hend hescape, if_false, hc]
    exact ih (sofar ++ [c]) hnext

theorem quoted_follows (quote : Char) (h : StandsAt scanner.text position rest) :
    Follows scanner.text position ((scanner.quoted quote).result position)
      (closedBy (.closingQuote quote) [] (readQuoted quote rest)) := by
  rw [read_quoted_eq]
  exact up_to_follows quote (.closingQuote quote) _ [] h

theorem pattern_body_follows (h : StandsAt scanner.text position rest) :
    Follows scanner.text position (scanner.patternBody.result position)
      (closedBy .regexEnd [] (readPatternBody rest)) := by
  rw [read_pattern_body_eq]
  exact up_to_follows '/' .regexEnd _ [] h

theorem flag_is_letter {c : Char} (h : isRegexFlag c = true) : c.isAlpha = true := by
  simp only [isRegexFlag, List.contains_iff_mem, List.mem_cons, List.not_mem_nil, or_false] at h
  rcases h with rfl | rfl | rfl | rfl | rfl | rfl <;> rfl

/-- Flags are letters, so they end within the letters behind a pattern. -/
theorem flags_of_letters (text : List Char) :
    (text.takeWhile Char.isAlpha).takeWhile isRegexFlag = text.takeWhile isRegexFlag := by
  induction text with
  | nil => rfl
  | cons c text ih =>
    by_cases hc : isRegexFlag c = true
    · rw [List.takeWhile_cons_of_pos (flag_is_letter hc), List.takeWhile_cons_of_pos hc,
        List.takeWhile_cons_of_pos hc, ih]
    · rw [List.takeWhile_cons_of_neg hc]
      by_cases ha : c.isAlpha = true
      · rw [List.takeWhile_cons_of_pos ha, List.takeWhile_cons_of_neg hc]
      · rw [List.takeWhile_cons_of_neg ha, List.takeWhile_nil]

theorem bump_follows (h : StandsAt scanner.text position rest) :
    Follows scanner.text position (scanner.bump.result position)
    (.ok (rest.head?, rest.drop 1)) := by
  cases rest with
  | nil => exact bump_nil h
  | cons c rest => exact bump_cons h

theorem regex_follows (h : StandsAt scanner.text position rest) :
    Follows scanner.text position (scanner.regex.result position) (readRegex (rest.drop 1)) := by
  rw [regex, readRegex]
  refine (bump_follows h).bind_ok ?_
  intro start hstart
  have hbody := pattern_body_follows hstart
  cases hp : readPatternBody (rest.drop 1) with
  | none =>
    rw [hp] at hbody
    exact hbody.bind_error
  | some found =>
    obtain ⟨pattern, after⟩ := found
    rw [hp] at hbody
    refine hbody.bind_ok ?_
    intro flags hflags
    rw [Scan.get_bind]
    refine (skip_while_follows Char.isAlpha hflags).bind_ok ?_
    intro stop hstop
    have hletters := hflags
    rw [← List.takeWhile_append_dropWhile (p := Char.isAlpha) (l := after)] at hletters
    have hwrong := hflags
    rw [← List.takeWhile_append_dropWhile (p := isRegexFlag) (l := after)] at hwrong
    rw [Scan.get_bind, slice, Scan.lift_bind (hletters.slice hstop), String.toList_ofList,
      flags_of_letters]
    dsimp only
    split
    · exact .ok hstop le_rfl
    · exact fail_at_follows hwrong.forward .regexFlag hstop

theorem word_follows (h : StandsAt scanner.text position rest) :
    Follows scanner.text position (scanner.word.result position)
      (readWord scanner.source rest) := by
  have hrun := run_follows isWordChar false h
  rw [word, Scan.get_bind, readWord]
  cases hr : takeRun scanner.source isWordChar 0 rest with
  | error failure =>
    rw [hr] at hrun
    exact hrun.bind_error
  | ok run =>
    rw [hr] at hrun
    refine hrun.bind_ok ?_
    intro next hnext
    rw [Scan.get_bind, slice, Scan.lift_bind (run_slice hr h hnext), String.toList_ofList]
    by_cases hempty : run.text = []
    · have hrest : run.rest = rest := by simpa [hempty] using take_run_parts hr
      rw [hrest] at hnext
      simp only [hempty, if_true]
      exact fail_follows hnext .value
    · simp only [hempty, if_false, Bool.false_or]
      cases run.templated with
      | true => exact .ok hnext le_rfl
      | false => exact .ok hnext le_rfl

theorem read_value_cons {source : Source} {c : Char} (hc : c ≠ '/') :
    readValue source (c :: rest) =
      if c = '"' ∨ c = '\'' then
        match readQuoted c rest with
        | some (characters, rest) => .ok (.string (String.ofList characters), rest)
        | none => .error ⟨.closingQuote c, []⟩
      else readWord source (c :: rest) := by
  unfold readValue
  split
  · rename_i heq
    cases heq
    exact absurd rfl hc
  · rename_i heq
    cases heq
    rfl
  · rename_i heq
    cases heq

theorem value_follows (h : StandsAt scanner.text position rest) :
    Follows scanner.text position (scanner.value.result position)
      (readValue scanner.source rest) := by
  rw [value, Scan.bind_ok (peek_result h)]
  cases rest with
  | nil => exact word_follows h
  | cons c rest =>
    by_cases hslash : c = '/'
    · subst hslash
      exact regex_follows h
    · rw [read_value_cons hslash]
      simp only [List.head?_cons, hslash, if_false]
      split
      · refine (bump_cons h).bind_ok ?_
        intro next hnext
        have hquoted := quoted_follows c hnext
        cases hq : readQuoted c rest with
        | none =>
          rw [hq] at hquoted
          exact hquoted.bind_error
        | some found =>
          rw [hq] at hquoted
          exact hquoted.map
      · exact word_follows h

theorem condition_follows (sofar : List FilterToken) (h : StandsAt scanner.text position rest) :
    Follows scanner.text position ((scanner.condition sofar).result position)
      ((readCondition scanner.source rest).map fun found =>
        (sofar ++ [.condition found.1], found.2)) := by
  have hpath := path_follows .filterKey h
  rw [condition, readCondition]
  cases hk : readPath scanner.source .filterKey rest with
  | error failure =>
    rw [hk] at hpath
    exact hpath.bind_error
  | ok key =>
    rw [hk] at hpath
    refine hpath.bind_ok ?_
    intro next hnext
    refine (skip_blanks_follows hnext).bind_ok ?_
    intro next hnext
    have hcomparator := comparator_follows hnext
    dsimp only
    cases hc : readComparator (Text.skipBlanks key.2) with
    | error failure =>
      rw [hc] at hcomparator
      exact hcomparator.bind_error
    | ok comparator =>
      rw [hc] at hcomparator
      refine hcomparator.bind_ok ?_
      intro next hnext
      refine (skip_blanks_follows hnext).bind_ok ?_
      intro start hstart
      have hvalue := value_follows hstart
      rw [Scan.get_bind]
      dsimp only
      cases hv : readValue scanner.source (Text.skipBlanks comparator.2) with
      | error failure =>
        rw [hv] at hvalue
        exact hvalue.bind_error
      | ok value =>
        rw [hv] at hvalue
        refine hvalue.bind_ok ?_
        intro next hnext
        dsimp only
        by_cases ha : comparator.1.admits value.1 = true
        · rw [if_pos ha, if_pos ha]
          exact .ok hnext le_rfl
        · rw [if_neg ha, if_neg ha]
          exact fail_at_follows hstart _ hnext

end Parts
end Scanner
end PathQuery
