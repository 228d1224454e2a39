import PathQuery.Proofs.Positions

namespace PathQuery

namespace Scan

variable {α β : Type} {scan : Scan α} {next : α → Scan β} {position stop : Nat}

theorem bind_ok {result : α} (h : scan.result position = some (.ok result, stop)) :
    (scan >>= next).result position = (next result).result stop := by
  simp only [Scan.result, ExceptT.run_bind, StateT.run_bind, Option.bind_eq_bind] at h ⊢
  rw [h]
  rfl

theorem bind_error {e : SyntaxError} (h : scan.result position = some (.error e, stop)) :
    (scan >>= next).result position = some (.error e, stop) := by
  simp only [Scan.result, ExceptT.run_bind, StateT.run_bind, Option.bind_eq_bind] at h ⊢
  rw [h]
  rfl

theorem get_bind (next : Nat → Scan β) (position : Nat) :
    ((get : Scan Nat) >>= next).result position = (next position).result position := rfl

theorem lift_bind {found : Option α} {result : α} (h : found = some result) :
    ((liftM found : Scan α) >>= next).result position = (next result).result position := by
  subst h
  rfl

end Scan

/-- A reading by positions ends as a reading of rests does: with the same result, in front of what
the other one leaves and not before where it started, or with the error that tells the other one's
failure. It does not break off. -/
inductive Follows {α : Type} (text : String) (position : Nat) :
    Option (Except SyntaxError α × Nat) → Except Failure (α × List Char) → Prop
  | ok {result : α} {next : Nat} {after : List Char} (stands : StandsAt text next after)
      (le : position ≤ next) : Follows text position (some (.ok result, next)) (.ok (result, after))
  | error {failure : Failure} {next : Nat} {left : List Char} (stands : StandsAt text next left)
      (inside : failure.rest <:+ text.toList) :
      Follows text position (some (.error (failure.locate text.toList), next)) (.error failure)

namespace Follows

variable {α β : Type} {text : String} {position next : Nat} {rest after : List Char}

theorem from_later {found : Option (Except SyntaxError α × Nat)}
    {outcome : Except Failure (α × List Char)}
    (h : Follows text next found outcome) (hle : position ≤ next) :
    Follows text position found outcome := by
  cases h with
  | ok stands le => exact .ok stands (hle.trans le)
  | error stands inside => exact .error stands inside

theorem eq_ok {found : Option (Except SyntaxError α × Nat)} {result : α}
    (h : Follows text position found (.ok (result, after))) :
    ∃ next, found = some (.ok result, next) ∧ StandsAt text next after ∧ position ≤ next := by
  cases h with
  | ok stands le => exact ⟨_, rfl, stands, le⟩

/-- The outcomes are the same, with the failure told by its place in the text. -/
theorem outcome_eq {found : Option (Except SyntaxError α × Nat)}
    {outcome : Except Failure (α × List Char)} (h : Follows text position found outcome) :
    found.map Prod.fst = some ((outcome.map Prod.fst).mapError (Failure.locate text.toList)) := by
  cases h with
  | ok stands le => rfl
  | error stands inside => rfl

/-- A reading that starts where another one stopped. -/
theorem bind {scan : Scan α} {outcome : Except Failure (α × List Char)} {k : α → Scan β}
    {f : α × List Char → Except Failure (β × List Char)}
    (h : Follows text position (scan.result position) outcome)
    (hk : ∀ result next after, StandsAt text next after → outcome = .ok (result, after) →
      Follows text next ((k result).result next) (f (result, after))) :
    Follows text position ((scan >>= k).result position) (outcome.bind f) := by
  generalize hfound : scan.result position = found at h
  cases h with
  | ok stands le =>
    rw [Scan.bind_ok hfound]
    exact (hk _ _ _ stands rfl).from_later le
  | error stands inside =>
    rw [Scan.bind_error hfound]
    exact .error stands inside

/-- A reading behind one that is known to succeed. -/
theorem bind_ok {scan : Scan α} {result : α} {k : α → Scan β}
    {outcome : Except Failure (β × List Char)}
    (h : Follows text position (scan.result position) (.ok (result, after)))
    (hk : ∀ next, StandsAt text next after → Follows text next ((k result).result next) outcome) :
    Follows text position ((scan >>= k).result position) outcome := by
  refine h.bind (f := fun _ => outcome) ?_
  intro result' next after' stands he
  cases he
  exact hk next stands

/-- A failure is passed on. -/
theorem bind_error {scan : Scan α} {failure : Failure} {k : α → Scan β}
    (h : Follows text position (scan.result position) (.error failure)) :
    Follows text position ((scan >>= k).result position) (.error failure) := by
  refine h.bind (f := fun _ => .error failure) ?_
  intro result next after _ he
  cases he

theorem map {scan : Scan α} {outcome : Except Failure (α × List Char)} {g : α → β}
    (h : Follows text position (scan.result position) outcome) :
    Follows text position ((scan >>= fun result => pure (g result)).result position)
      (outcome.map fun found => (g found.1, found.2)) := by
  refine h.bind (f := fun found => .ok (g found.1, found.2)) ?_
  intro result next after stands _
  exact .ok stands le_rfl

end Follows

namespace Scanner

/-- The text of a scanner as a list of characters. -/
def source (scanner : Scanner) : Source :=
  ⟨scanner.marker, scanner.text.toList⟩

section Steps

variable {scanner : Scanner} {position : Nat} {rest : List Char}
  (h : StandsAt scanner.text position rest)

include h

theorem rest_result : scanner.rest.result position = some (.ok (String.ofList rest), position) := by
  rw [Scanner.rest, Scan.get_bind, slice, h.slice_rest]
  rfl

theorem peek_result : scanner.peek.result position = some (.ok rest.head?, position) := by
  rw [peek, Scan.bind_ok (rest_result h), String.toList_ofList]
  rfl

theorem looks_at_result (expected : String) : (scanner.looksAt expected).result position =
    some (.ok (expected.toList.isPrefixOf rest), position) := by
  rw [looksAt, Scan.bind_ok (rest_result h), String.toList_ofList]
  rfl

theorem eat_other {c : Char} (hne : rest.head? ≠ some c) :
    Follows scanner.text position ((scanner.eat c).result position) (.ok (false, rest)) := by
  rw [eat, Scan.bind_ok (peek_result h), if_neg hne]
  exact .ok h le_rfl

theorem eat_text_other {expected : String} (hne : ¬ expected.toList <+: rest) :
    Follows scanner.text position ((scanner.eatText expected).result position)
      (.ok (false, rest)) := by
  have hfalse : expected.toList.isPrefixOf rest = false := by
    rw [← Bool.not_eq_true, List.isPrefixOf_iff_prefix]
    exact hne
  rw [eatText, Scan.bind_ok (looks_at_result h expected), hfalse]
  exact .ok h le_rfl

/-- An error at a place of the text, wherever the scanner stands. -/
theorem fail_at_follows {α : Type} {start stop : Nat} {left : List Char} (expected : Expectation)
    (hstop : StandsAt scanner.text stop left) :
    Follows scanner.text start ((scanner.failAt position expected : Scan α).result stop)
      (.error ⟨expected, rest⟩) := by
  have hresult : (scanner.failAt position expected : Scan α).result stop =
      some (.error (Failure.locate scanner.text.toList ⟨expected, rest⟩), stop) := by
    rw [failAt, slice, Scan.lift_bind h.slice_rest, String.toList_ofList, Failure.locate, h.offset]
    rfl
  rw [hresult]
  exact .error hstop h.suffix

theorem fail_follows {α : Type} {start : Nat} (expected : Expectation) :
    Follows scanner.text start ((scanner.fail expected : Scan α).result position)
      (.error ⟨expected, rest⟩) :=
  fail_at_follows h expected h

omit h

theorem bump_cons {c : Char} (h : StandsAt scanner.text position (c :: rest)) :
    Follows scanner.text position (scanner.bump.result position) (.ok (some c, rest)) := by
  rw [bump, Scan.bind_ok (peek_result h)]
  exact .ok h.step (Nat.le_add_right _ _)

theorem bump_nil (h : StandsAt scanner.text position []) :
    Follows scanner.text position (scanner.bump.result position) (.ok (none, [])) := by
  rw [bump, Scan.bind_ok (peek_result h)]
  exact .ok h le_rfl

theorem eat_head {c : Char} (h : StandsAt scanner.text position (c :: rest)) :
    Follows scanner.text position ((scanner.eat c).result position) (.ok (true, rest)) := by
  rw [eat, Scan.bind_ok (peek_result h), if_pos List.head?_cons]
  exact .ok h.step (Nat.le_add_right _ _)

theorem eat_text_head {expected : String}
    (h : StandsAt scanner.text position (expected.toList ++ rest)) :
    Follows scanner.text position ((scanner.eatText expected).result position)
    (.ok (true, rest)) := by
  have htrue : expected.toList.isPrefixOf (expected.toList ++ rest) = true :=
    List.isPrefixOf_iff_prefix.mpr (List.prefix_append _ _)
  have hnext := h.forward
  rw [Text.byte_length_toList] at hnext
  rw [eatText, Scan.bind_ok (looks_at_result h expected), htrue]
  exact .ok hnext (Nat.le_add_right _ _)

theorem skip_while_follows (allowed : Char → Bool) (h : StandsAt scanner.text position rest) :
    Follows scanner.text position ((scanner.skipWhile allowed).result position)
      (.ok ((), rest.dropWhile allowed)) := by
  induction rest generalizing position with
  | nil =>
    rw [skipWhile, Scan.bind_ok (peek_result h)]
    exact .ok h le_rfl
  | cons c rest ih =>
    rw [skipWhile, Scan.bind_ok (peek_result h)]
    by_cases hc : allowed c = true
    · rw [List.dropWhile_cons_of_pos hc]
      simp only [List.head?_cons, hc, if_true]
      refine (bump_cons h).bind_ok ?_
      intro next hnext
      exact ih hnext
    · rw [List.dropWhile_cons_of_neg hc]
      simp only [List.head?_cons, hc]
      exact .ok h le_rfl

theorem skip_blanks_follows (h : StandsAt scanner.text position rest) :
    Follows scanner.text position (scanner.skipBlanks.result position)
      (.ok ((), Text.skipBlanks rest)) :=
  skip_while_follows Text.isBlank h

end Steps
end Scanner

namespace Regex

/-- A match that is found at a place ends there. -/
theorem accepted_cases {accepting : Option Thread} {place : Nat}
    {best : Option (Nat × List (Nat × Nat))} {found : Nat × List (Nat × Nat)}
    (h : (accepting.map fun thread => (place, thread.saved)).or best = some found) :
    best = some found ∨ found.1 = place := by
  rcases Option.or_eq_some_iff.mp h with h | ⟨_, h⟩
  · obtain ⟨thread, _, he⟩ := Option.map_eq_some_iff.mp h
    subst he
    exact .inr rfl
  · exact .inl h

/-- Following threads through a text gives what was best before, or a match that ends in the
text. -/
theorem follow_cases {code : Code} {threads : List Thread} {place : Nat} {before : Option Char}
    {best : Option (Nat × List (Nat × Nat))} {text : List Char} {found : Nat × List (Nat × Nat)}
    (h : follow code threads place before best text = some found) :
    best = some found ∨ found.1 ≤ place + text.length := by
  fun_induction follow code threads place before best text with
  | case1 text threads place before best settled live now hlive =>
    rcases accepted_cases h with hbest | hplace
    · exact .inl hbest
    · exact .inr (by omega)
  | case2 threads place before best settled live now hlive =>
    rcases accepted_cases h with hbest | hplace
    · exact .inl hbest
    · exact .inr (by omega)
  | case3 threads place before best c rest settled live now hlive ih =>
    rw [List.length_cons]
    rcases ih h with hnow | hlater
    · rcases accepted_cases hnow with hbest | hplace
      · exact .inl hbest
      · exact .inr (by omega)
    · exact .inr (by omega)

theorem match_length_le {regex : Regex} {before : Option Char} {text : List Char} {found : Match}
    (h : regex.matchAt? before text = some found) : found.length ≤ text.length := by
  obtain ⟨result, hresult, he⟩ := Option.map_eq_some_iff.mp h
  subst he
  rcases follow_cases hresult with hnone | hle
  · cases hnone
  · simpa using hle

end Regex

namespace Marker

variable {marker : Marker} {before : Option Char} {text : String} {position start stop : Nat}
  {rest : List Char}

/-- What is found as a placeholder is no longer than the text. -/
theorem at_length_le {occurrence : Occurrence} (h : marker.at? before rest = some occurrence) :
    occurrence.length ≤ rest.length := by
  unfold at? at h
  split at h
  · exact (braces_at_length h).2
  · obtain ⟨found, hfound, rfl⟩ := Option.map_eq_some_iff.mp h
    exact Regex.match_length_le hfound

/-- A search starts where it is told to, ends not before it starts, and does both between
characters. -/
theorem find_from_inside (hp : StandsAt text position rest)
    (h : marker.findFrom before position rest = some (start, stop)) :
    position ≤ start ∧ start ≤ stop ∧ (∃ here, StandsAt text start here) ∧
      ∃ after, StandsAt text stop after := by
  induction rest generalizing before position with
  | nil =>
    obtain ⟨_, _, he⟩ := Option.map_eq_some_iff.mp h
    cases he
    exact ⟨le_rfl, le_rfl, ⟨_, hp⟩, _, hp⟩
  | cons c rest ih =>
    rw [findFrom] at h
    split at h
    · rename_i occurrence _
      cases h
      have hstop := hp
      rw [← List.take_append_drop occurrence.length (c :: rest)] at hstop
      exact ⟨le_rfl, Nat.le_add_right _ _, ⟨_, hp⟩, _, hstop.forward⟩
    · obtain ⟨hle, hrest⟩ := ih hp.step h
      exact ⟨(Nat.le_add_right _ _).trans hle, hrest⟩

/-- Of a search only a match at its start that is not empty counts. -/
theorem find_from_here (hp : StandsAt text position rest) :
    (marker.findFrom before position rest).filter
        (fun found => found.1 = position ∧ position < found.2) =
      ((marker.at? before rest).filter fun occurrence => 0 < occurrence.length).map
        fun occurrence => (position, position + Text.byteLength (rest.take occurrence.length)) := by
  cases rest with
  | nil =>
    cases hat : marker.at? before [] with
    | none => simp [findFrom, hat]
    | some occurrence =>
      have hlength := at_length_le hat
      have hzero : occurrence.length = 0 := by simpa using hlength
      simp [findFrom, hat, Option.filter, hzero]
  | cons c rest =>
    rw [findFrom]
    cases hat : marker.at? before (c :: rest) with
    | some occurrence =>
      have hpos : 0 < Text.byteLength ((c :: rest).take occurrence.length) ↔
          0 < occurrence.length := by
        constructor
        · intro h
          apply Nat.pos_of_ne_zero
          intro hzero
          simp [hzero] at h
        · intro h
          apply Text.byte_length_pos
          simp
          omega
      by_cases h : 0 < occurrence.length
      · simp [Option.filter, h, hpos.mpr h]
      · simp [Option.filter, h, mt hpos.mp h]
    | none =>
      have hc := c.utf8Size_pos
      cases hfound : marker.findFrom (some c) (position + c.utf8Size) rest with
      | none => rfl
      | some found =>
        have hle := (find_from_inside hp.step hfound).1
        have hne : found.1 ≠ position := by omega
        simp [Option.filter, hne]

end Marker

namespace Scanner

section Placeholders

variable {scanner : Scanner} {position : Nat} {rest : List Char}

theorem before_eq {front : List Char} (h : scanner.text.toList = front ++ rest) :
    scanner.source.before rest = front.getLast? := by
  unfold Source.before
  simp only [source, h, List.length_append]
  cases front with
  | nil => simp
  | cons c front =>
    have hlt : rest.length < (c :: front).length + rest.length := by simp
    rw [if_pos hlt, List.getLast?_eq_getElem?, Nat.add_sub_cancel,
      List.getElem?_append_left (by simp)]

theorem find_at_result (h : StandsAt scanner.text position rest) :
    scanner.marker.findAt? scanner.text position =
      some (scanner.marker.findFrom (scanner.source.before rest) position rest) := by
  obtain ⟨front, hfront, htext⟩ := h.slice_front
  rw [Marker.findAt?, hfront, h.slice_rest, before_eq htext]
  simp

theorem placeholder_of_at {occurrence : Occurrence}
    (h : scanner.marker.at? (scanner.source.before rest) rest = some occurrence) :
    scanner.source.placeholder rest = .ok occurrence.length := by
  obtain ⟨marker, text⟩ := scanner
  unfold Source.placeholder source
  cases marker with
  | braces =>
    have hbraces : Marker.bracesAt? rest = some occurrence := h
    simp only [hbraces]
  | pattern regex =>
    obtain ⟨found, hfound, rfl⟩ := Option.map_eq_some_iff.mp h
    have hmatch : regex.matchAt? (Source.before ⟨.pattern regex, text.toList⟩ rest) rest =
        some found := hfound
    simp only [hmatch]

theorem placeholder_of_pattern {regex : Regex} (hm : scanner.marker = .pattern regex)
    (h : scanner.marker.at? (scanner.source.before rest) rest = none) :
    scanner.source.placeholder rest = .ok 0 := by
  obtain ⟨marker, text⟩ := scanner
  cases hm
  have hmatch : regex.matchAt? (Source.before ⟨.pattern regex, text.toList⟩ rest) rest = none :=
    Option.map_eq_none_iff.mp h
  simp only [source, Source.placeholder, hmatch]

/-- Double braces that open no placeholder are refused behind them, or at the end of the text. -/
theorem refuse_braces_follows (hm : scanner.marker = .braces) (hb : Marker.bracesAt? rest = none)
    (h : StandsAt scanner.text position rest) :
    Follows scanner.text position (scanner.refuseBraces.result position)
      ((scanner.source.placeholder rest).map fun length =>
        (decide (0 < length), rest.drop length)) := by
  have hsource : scanner.source = ⟨.braces, scanner.text.toList⟩ := by rw [source, hm]
  rw [refuseBraces, Scan.bind_ok (looks_at_result h _), hsource]
  by_cases hopen : "\x7b\x7b".toList <+: rest
  · obtain ⟨inner, rfl⟩ := hopen
    have hinner : StandsAt scanner.text (position + 2) inner := h.forward
    have hslice : StandsAt (String.ofList ("\x7b\x7b".toList ++ inner)) 2 inner :=
      ⟨"\x7b\x7b".toList, String.toList_ofList, rfl⟩
    rw [if_pos (List.isPrefixOf_iff_prefix.mpr (List.prefix_append _ _)), Scan.get_bind,
      Scan.bind_ok (rest_result h), Scan.lift_bind hslice.slice_rest, @String.toList_ofList inner]
    by_cases hempty : "\x7d\x7d".toList <+: inner
    · obtain ⟨after, rfl⟩ := hempty
      have hfails : Source.placeholder ⟨.braces, scanner.text.toList⟩
          ("\x7b\x7b".toList ++ ("\x7d\x7d".toList ++ after)) =
            .error ⟨.placeholderName, "\x7d\x7d".toList ++ after⟩ := by
        unfold Source.placeholder
        simp only [hb]
        rfl
      rw [if_pos (List.isPrefixOf_iff_prefix.mpr (List.prefix_append _ _)), hfails]
      exact fail_at_follows hinner .placeholderName h
    · have hfails : Source.placeholder ⟨.braces, scanner.text.toList⟩ ("\x7b\x7b".toList ++ inner) =
          .error ⟨.placeholderEnd ("\x7b\x7b".toList ++ inner), []⟩ := by
        unfold Source.placeholder
        simp only [hb]
        split
        · rename_i after he
          cases he
          exact absurd (List.prefix_append _ after) hempty
        · rfl
        · rename_i hno
          exact absurd rfl (hno inner)
      have hlocated :
          Failure.locate scanner.text.toList ⟨.placeholderEnd ("\x7b\x7b".toList ++ inner), []⟩ =
          ⟨scanner.text.utf8ByteSize,
            "'\x7d\x7d' closing the placeholder opened at " ++ toString position, none⟩ := by
        rw [Failure.locate, (StandsAt.finish scanner.text).offset]
        unfold Expectation.text
        dsimp only
        rw [h.offset]
        rfl
      rw [if_neg (mt List.isPrefixOf_iff_prefix.mp hempty), hfails, ← hlocated]
      exact .error h List.nil_suffix
  · have hzero : Source.placeholder ⟨.braces, scanner.text.toList⟩ rest = .ok 0 :=
      Source.placeholder_none fun after he => hopen (he ▸ List.prefix_append _ after)
    rw [hzero, if_neg (mt List.isPrefixOf_iff_prefix.mp hopen)]
    exact .ok h le_rfl

theorem placeholder_follows (h : StandsAt scanner.text position rest) :
    Follows scanner.text position (scanner.placeholder.result position)
      ((scanner.source.placeholder rest).map fun length =>
        (decide (0 < length), rest.drop length)) := by
  rw [placeholder, Scan.get_bind, Scan.lift_bind (find_at_result h), Marker.find_from_here h]
  cases hat : scanner.marker.at? (scanner.source.before rest) rest with
  | some occurrence =>
    rw [placeholder_of_at hat]
    by_cases hlength : 0 < occurrence.length
    · have hstop := h
      rw [← List.take_append_drop occurrence.length rest] at hstop
      simp only [Option.filter, hlength, decide_true, if_true, Option.map_some, Except.map]
      exact .ok hstop.forward (Nat.le_add_right _ _)
    · have hzero : occurrence.length = 0 := by omega
      simp only [Option.filter, hlength, decide_false, Except.map]
      cases hm : scanner.marker with
      | pattern regex =>
        rw [hzero]
        exact .ok h le_rfl
      | braces =>
        rw [hm] at hat
        exact absurd (Marker.braces_at_length hat).1 (by omega)
  | none =>
    cases hm : scanner.marker with
    | pattern regex =>
      rw [placeholder_of_pattern hm hat]
      exact .ok h le_rfl
    | braces =>
      rw [hm] at hat
      exact refuse_braces_follows hm hat h

end Placeholders
end Scanner
end PathQuery
