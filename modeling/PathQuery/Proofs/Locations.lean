import PathQuery.Proofs.ScannedQueries

namespace PathQuery

/-- An error stands at a boundary between characters of the text, and what it says was found is the
character there. -/
structure SyntaxError.LocatedIn (e : SyntaxError) (text : String) : Prop where
  boundary : String.Pos.Raw.IsValid text ⟨e.position⟩
  inside : e.position ≤ text.utf8ByteSize
  found : e.found = String.Pos.Raw.get? text ⟨e.position⟩
  at_end : e.found = none ↔ e.position = text.utf8ByteSize

theorem Failure.located {text : String} {failure : Failure} (h : failure.rest <:+ text.toList) :
    (failure.locate text.toList).LocatedIn text := by
  obtain ⟨front, hfront⟩ := h
  have hstands : StandsAt text (Text.byteLength front) failure.rest := ⟨front, hfront.symm, rfl⟩
  have hposition : (failure.locate text.toList).position = Text.byteLength front := hstands.offset
  refine ⟨?_, ?_, ?_, ?_⟩
  · rw [hposition]
    exact hstands.valid
  · rw [hposition]
    exact hstands.le_size
  · rw [hposition, hstands.get]
    rfl
  · rw [hposition, hstands.eq_size_iff]
    exact List.head?_eq_none_iff

/-- Where a reading stops: between two characters and not beyond the end, after a success not before
where it started. Its error is located in the text. -/
structure StopsInside {α : Type} (text : String) (position : Nat) (outcome : Except SyntaxError α)
    (next : Nat) : Prop where
  boundary : String.Pos.Raw.IsValid text ⟨next⟩
  inside : next ≤ text.utf8ByteSize
  forward : ∀ result, outcome = .ok result → position ≤ next
  located : ∀ e, outcome = .error e → e.LocatedIn text

/-- A reading comes to an end in the text: it does not break off, and it stops inside. -/
def Stops {α : Type} (text : String) (position : Nat)
    (found : Option (Except SyntaxError α × Nat)) : Prop :=
  ∃ outcome next, found = some (outcome, next) ∧ StopsInside text position outcome next

/-- A reading that succeeds has taken something. -/
def Advances {α : Type} (position : Nat) (found : Option (Except SyntaxError α × Nat)) : Prop :=
  ∀ result next, found = some (.ok result, next) → position < next

section Stops

variable {α β : Type} {text : String} {position : Nat} {rest : List Char} {scan : Scan α}
  {k : α → Scan β} {found : Option (Except SyntaxError α × Nat)}
  {outcome : Except Failure (α × List Char)}

theorem Follows.stops (h : Follows text position found outcome) : Stops text position found := by
  cases h with
  | ok stands le =>
    refine ⟨_, _, rfl, stands.valid, stands.le_size, fun _ _ => le, ?_⟩
    intro e he
    cases he
  | error stands inside =>
    refine ⟨_, _, rfl, stands.valid, stands.le_size, ?_, ?_⟩
    · intro result he
      cases he
    · intro e he
      cases he
      exact Failure.located inside

theorem Follows.advances (h : Follows text position found outcome)
    (hlt : ∀ result after, outcome = .ok (result, after) → after.length < rest.length)
    (hp : StandsAt text position rest) : Advances position found := by
  intro result next he
  cases h with
  | ok stands le =>
    cases he
    exact hp.lt_of_shorter stands (hlt _ _ rfl)
  | error stands inside => cases he

theorem Stops.bind (h : Stops text position (scan.result position))
    (hk : ∀ result next after, scan.result position = some (.ok result, next) → position ≤ next →
      StandsAt text next after → Stops text next ((k result).result next)) :
    Stops text position ((scan >>= k).result position) := by
  obtain ⟨outcome, next, hfound, hstop⟩ := h
  cases outcome with
  | error e =>
    rw [Scan.bind_error hfound]
    refine ⟨_, _, rfl, hstop.boundary, hstop.inside, ?_, ?_⟩
    · intro result he
      cases he
    · intro e' he
      cases he
      exact hstop.located e rfl
  | ok result =>
    have hle := hstop.forward result rfl
    obtain ⟨after, hnext⟩ := StandsAt.of_valid hstop.boundary
    obtain ⟨outcome, last, hlast, hend⟩ := hk result next after hfound hle hnext
    rw [Scan.bind_ok hfound, hlast]
    exact ⟨outcome, last, rfl, hend.boundary, hend.inside,
      fun result he => hle.trans (hend.forward result he), hend.located⟩

theorem Advances.bind (h : Stops text position (scan.result position))
    (ha : Advances position (scan.result position))
    (hk : ∀ result next after, StandsAt text next after →
      Stops text next ((k result).result next)) :
    Advances position ((scan >>= k).result position) := by
  intro result last he
  obtain ⟨outcome, next, hfound, hstop⟩ := h
  cases outcome with
  | error e =>
    rw [Scan.bind_error hfound] at he
    cases he
  | ok first =>
    obtain ⟨after, hnext⟩ := StandsAt.of_valid hstop.boundary
    obtain ⟨outcome, stop, hlast, hend⟩ := hk first next after hnext
    rw [Scan.bind_ok hfound, hlast] at he
    cases he
    exact Nat.lt_of_lt_of_le (ha first next hfound) (hend.forward result rfl)

/-- A reading that goes on with itself only behind something that it has taken. The bytes that are
left get fewer with every turn. -/
theorem Stops.loop {loop : β → Scan α}
    (hstep : ∀ sofar position rest, StandsAt text position rest →
      (∀ more next after, position < next → StandsAt text next after →
        Stops text next ((loop more).result next)) →
      Stops text position ((loop sofar).result position))
    (sofar : β) (h : StandsAt text position rest) :
    Stops text position ((loop sofar).result position) := by
  induction hn : text.utf8ByteSize - position using Nat.strongRecOn
    generalizing position rest sofar with
  | ind n ih =>
    refine hstep sofar position rest h ?_
    intro more next after hlt hnext
    have hle := hnext.le_size
    exact ih _ (by omega) more hnext rfl

end Stops

namespace Scanner

variable {scanner : Scanner} {position : Nat} {rest : List Char}

theorem eat_stops (c : Char) (h : StandsAt scanner.text position rest) :
    Stops scanner.text position ((scanner.eat c).result position) := by
  by_cases hc : rest.head? = some c
  · obtain ⟨after, rfl⟩ := List.head?_eq_some_iff.mp hc
    exact (eat_head h).stops
  · exact (eat_other h hc).stops

theorem eat_text_stops (expected : String) (h : StandsAt scanner.text position rest) :
    Stops scanner.text position ((scanner.eatText expected).result position) := by
  by_cases hs : expected.toList <+: rest
  · obtain ⟨after, rfl⟩ := hs
    exact (eat_text_head h).stops
  · exact (eat_text_other h hs).stops

/-- A result that is at hand leaves the position where it is. -/
theorem pure_stops {α : Type} (result : α) (h : StandsAt scanner.text position rest) :
    Stops scanner.text position ((pure result : Scan α).result position) :=
  Follows.stops (.ok h le_rfl)

theorem eat_doubled_stops (c : Char) (h : StandsAt scanner.text position rest) :
    Stops scanner.text position ((scanner.eatDoubled c).result position) := by
  refine (eat_text_stops _ h).bind ?_
  intro doubled next after _ _ hnext
  cases doubled with
  | true => exact pure_stops true hnext
  | false => exact eat_stops c hnext

/-- Parts of a group that are joined by a doubled sign. Each part takes something, so the loop over
them comes to an end. -/
theorem joined_stops {part loop : List FilterToken → Scan (List FilterToken)} {c : Char}
    {connective : Connective}
    (hloop : ∀ sofar, loop sofar = do
      scanner.skipBlanks
      if ← scanner.eatDoubled c then
        let tokens ← part sofar
        loop (tokens ++ [.connective connective])
      else return sofar)
    (hpart : ∀ sofar position rest, StandsAt scanner.text position rest →
      Stops scanner.text position ((part sofar).result position) ∧
        Advances position ((part sofar).result position))
    (sofar : List FilterToken) (h : StandsAt scanner.text position rest) :
    Stops scanner.text position ((loop sofar).result position) := by
  refine Stops.loop ?_ sofar h
  intro sofar position rest h ih
  rw [hloop]
  refine (skip_blanks_follows h).stops.bind ?_
  intro _ start _ _ hstart hstands
  refine (eat_doubled_stops c hstands).bind ?_
  intro joined next _ _ hnext hstands
  cases joined with
  | false => exact pure_stops sofar hstands
  | true =>
    obtain ⟨hstops, hadvances⟩ := hpart sofar next _ hstands
    refine hstops.bind ?_
    intro tokens stop after hresult _ hstop
    have hlt := hadvances tokens stop hresult
    exact ih _ stop after (by omega) hstop

theorem operand_stops (sofar : List FilterToken) (h : StandsAt scanner.text position rest) :
    Stops scanner.text position ((scanner.operand sofar).result position) :=
  (operand_follows sofar h).stops

theorem operand_advances (sofar : List FilterToken) (h : StandsAt scanner.text position rest) :
    Advances position ((scanner.operand sofar).result position) := by
  refine (operand_follows sofar h).advances ?_ h
  intro tokens after he
  obtain ⟨found, hfound, he⟩ := map_eq_ok he
  cases he
  exact operand_length_lt hfound

theorem more_operands_stops (sofar : List FilterToken) (h : StandsAt scanner.text position rest) :
    Stops scanner.text position ((scanner.moreOperands sofar).result position) := by
  refine joined_stops (fun sofar => by rw [moreOperands]) ?_ sofar h
  intro sofar position rest h
  exact ⟨operand_stops sofar h, operand_advances sofar h⟩

theorem alternative_stops (sofar : List FilterToken) (h : StandsAt scanner.text position rest) :
    Stops scanner.text position ((scanner.alternative sofar).result position) := by
  rw [alternative]
  refine (operand_stops sofar h).bind ?_
  intro tokens next after _ _ hnext
  exact more_operands_stops tokens hnext

theorem alternative_advances (sofar : List FilterToken) (h : StandsAt scanner.text position rest) :
    Advances position ((scanner.alternative sofar).result position) := by
  rw [alternative]
  refine Advances.bind (operand_stops sofar h) (operand_advances sofar h) ?_
  intro tokens next after hnext
  exact more_operands_stops tokens hnext

theorem more_alternatives_stops (sofar : List FilterToken)
    (h : StandsAt scanner.text position rest) :
    Stops scanner.text position ((scanner.moreAlternatives sofar).result position) := by
  refine joined_stops (fun sofar => by rw [moreAlternatives]) ?_ sofar h
  intro sofar position rest h
  exact ⟨alternative_stops sofar h, alternative_advances sofar h⟩

theorem alternatives_stops (sofar : List FilterToken) (h : StandsAt scanner.text position rest) :
    Stops scanner.text position ((scanner.alternatives sofar).result position) := by
  rw [alternatives]
  refine (alternative_stops sofar h).bind ?_
  intro tokens next after _ _ hnext
  exact more_alternatives_stops tokens hnext

theorem alternatives_advances (sofar : List FilterToken) (h : StandsAt scanner.text position rest) :
    Advances position ((scanner.alternatives sofar).result position) := by
  rw [alternatives]
  refine Advances.bind (alternative_stops sofar h) (alternative_advances sofar h) ?_
  intro tokens next after hnext
  exact more_alternatives_stops tokens hnext

theorem close_group_stops (tokens : List FilterToken) (h : StandsAt scanner.text position rest) :
    Stops scanner.text position ((scanner.closeGroup tokens).result position) := by
  by_cases hs : ∃ after, Text.skipBlanks rest = ')' :: after
  · obtain ⟨after, hs⟩ := hs
    exact (close_group_closed tokens hs h).stops
  · exact (close_group_refused tokens (not_exists.mp hs) h).stops

theorem connective_stops (h : StandsAt scanner.text position rest) :
    Stops scanner.text position (scanner.connective.result position) := by
  cases hc : readConnective? rest with
  | none => exact (connective_none hc h).stops
  | some found => exact (connective_some hc h).stops

theorem more_filters_stops (sofar : List FilterToken) (h : StandsAt scanner.text position rest) :
    Stops scanner.text position ((scanner.moreFilters sofar).result position) := by
  refine Stops.loop ?_ sofar h
  intro sofar position rest h ih
  rw [moreFilters]
  refine (skip_blanks_follows h).stops.bind ?_
  intro _ start _ _ hstart hstands
  refine (connective_stops hstands).bind ?_
  intro joined next _ _ hnext hstands
  cases joined with
  | none => exact pure_stops sofar hstands
  | some connective =>
    refine (operand_stops sofar hstands).bind ?_
    intro tokens stop after hoperand _ hstop
    have hlt := operand_advances sofar hstands tokens stop hoperand
    exact ih _ stop after (by omega) hstop

theorem order_stops (first : Bool) (h : StandsAt scanner.text position rest) :
    Stops scanner.text position ((scanner.order first).result position) := by
  cases ho : SortOrder.ofSign? rest.head? with
  | none => exact (order_unsigned first ho h).stops
  | some order => exact (order_signed first ho h).stops

theorem terms_stops (sofar : List SortTerm) (h : StandsAt scanner.text position rest) :
    Stops scanner.text position ((scanner.terms sofar).result position) := by
  cases sofar with
  | nil => exact (terms_follows h).stops
  | cons term sofar => exact (more_terms_follows (term :: sofar) rfl h).stops

end Scanner

/-- The procedures that read a query and its parts, each with what it is told besides the text, by
the results they give. -/
inductive Procedure : Type → Type where
  | rest : Procedure String
  | peek : Procedure (Option Char)
  | looksAt (expected : String) : Procedure Bool
  | bump : Procedure (Option Char)
  | eat (c : Char) : Procedure Bool
  | eatText (expected : String) : Procedure Bool
  | eatDoubled (c : Char) : Procedure Bool
  | skipWhile (allowed : Char → Bool) : Procedure Unit
  | skipBlanks : Procedure Unit
  | fail (expected : Expectation) : Procedure Unit
  | placeholder : Procedure Bool
  | run (allowed : Char → Bool) (templated : Bool) : Procedure Bool
  | path (what : Expectation) : Procedure String
  | fields (sofar : List String) : Procedure (List String)
  | order (first : Bool) : Procedure (Option SortOrder)
  | terms (sofar : List SortTerm) : Procedure (List SortTerm)
  | sign : Procedure Unit
  | limit : Procedure String
  | equals : Procedure Unit
  | option (base : Query) : Procedure Query
  | options (base : Query) : Procedure Query
  | comparator : Procedure Comparator
  | quoted (quote : Char) : Procedure (List Char)
  | patternBody : Procedure (List Char)
  | regex : Procedure Literal
  | word : Procedure Literal
  | value : Procedure Literal
  | condition (sofar : List FilterToken) : Procedure (List FilterToken)
  | closeGroup (sofar : List FilterToken) : Procedure (List FilterToken)
  | operand (sofar : List FilterToken) : Procedure (List FilterToken)
  | alternatives (sofar : List FilterToken) : Procedure (List FilterToken)
  | moreAlternatives (sofar : List FilterToken) : Procedure (List FilterToken)
  | alternative (sofar : List FilterToken) : Procedure (List FilterToken)
  | moreOperands (sofar : List FilterToken) : Procedure (List FilterToken)
  | connective : Procedure (Option Connective)
  | moreFilters (sofar : List FilterToken) : Procedure (List FilterToken)
  | filters : Procedure (List FilterToken)
  | collection : Procedure (Option String)
  | location : Procedure String
  | ending : Procedure Unit
  | fieldClause (base : Query) : Procedure Query
  | optionClause (base : Query) : Procedure Query
  | filterClause (base : Query) : Procedure Query
  | query : Procedure Query
  | loneValue : Procedure Literal

namespace Procedure

def scan (scanner : Scanner) : {α : Type} → Procedure α → Scan α
  | _, .rest => scanner.rest
  | _, .peek => scanner.peek
  | _, .looksAt expected => scanner.looksAt expected
  | _, .bump => scanner.bump
  | _, .eat c => scanner.eat c
  | _, .eatText expected => scanner.eatText expected
  | _, .eatDoubled c => scanner.eatDoubled c
  | _, .skipWhile allowed => scanner.skipWhile allowed
  | _, .skipBlanks => scanner.skipBlanks
  | _, .fail expected => scanner.fail expected
  | _, .placeholder => scanner.placeholder
  | _, .run allowed templated => scanner.run allowed templated
  | _, .path what => scanner.path what
  | _, .fields sofar => scanner.fields sofar
  | _, .order first => scanner.order first
  | _, .terms sofar => scanner.terms sofar
  | _, .sign => scanner.sign
  | _, .limit => scanner.limit
  | _, .equals => scanner.equals
  | _, .option base => scanner.option base
  | _, .options base => scanner.options base
  | _, .comparator => scanner.comparator
  | _, .quoted quote => scanner.quoted quote
  | _, .patternBody => scanner.patternBody
  | _, .regex => scanner.regex
  | _, .word => scanner.word
  | _, .value => scanner.value
  | _, .condition sofar => scanner.condition sofar
  | _, .closeGroup sofar => scanner.closeGroup sofar
  | _, .operand sofar => scanner.operand sofar
  | _, .alternatives sofar => scanner.alternatives sofar
  | _, .moreAlternatives sofar => scanner.moreAlternatives sofar
  | _, .alternative sofar => scanner.alternative sofar
  | _, .moreOperands sofar => scanner.moreOperands sofar
  | _, .connective => scanner.connective
  | _, .moreFilters sofar => scanner.moreFilters sofar
  | _, .filters => scanner.filters
  | _, .collection => scanner.collection
  | _, .location => scanner.location
  | _, .ending => scanner.ending
  | _, .fieldClause base => scanner.fieldClause base
  | _, .optionClause base => scanner.optionClause base
  | _, .filterClause base => scanner.filterClause base
  | _, .query => scanner.query
  | _, .loneValue => scanner.loneValue

/-- The procedures that do not succeed without taking something. -/
def Takes : {α : Type} → Procedure α → Prop
  | _, .path _ | _, .option _ | _, .comparator => True
  | _, .quoted _ | _, .patternBody | _, .regex | _, .word | _, .value | _, .condition _ => True
  | _, .operand _ | _, .alternatives _ | _, .alternative _ | _, .filters => True
  | _, _ => False

variable {α : Type} {scanner : Scanner} {position : Nat} {rest : List Char}

theorem scan_stops (procedure : Procedure α) (h : StandsAt scanner.text position rest) :
    Stops scanner.text position ((procedure.scan scanner).result position) := by
  cases procedure with
  | rest =>
    rw [scan, Scanner.rest_result h]
    exact Follows.stops (.ok h le_rfl)
  | peek =>
    rw [scan, Scanner.peek_result h]
    exact Follows.stops (.ok h le_rfl)
  | looksAt expected =>
    rw [scan, Scanner.looks_at_result h]
    exact Follows.stops (.ok h le_rfl)
  | bump => exact (Scanner.bump_follows h).stops
  | eat c => exact Scanner.eat_stops c h
  | eatText expected => exact Scanner.eat_text_stops expected h
  | eatDoubled c => exact Scanner.eat_doubled_stops c h
  | skipWhile allowed => exact (Scanner.skip_while_follows allowed h).stops
  | skipBlanks => exact (Scanner.skip_blanks_follows h).stops
  | fail expected => exact (Scanner.fail_follows h expected).stops
  | placeholder => exact (Scanner.placeholder_follows h).stops
  | run allowed templated => exact (Scanner.run_follows allowed templated h).stops
  | path what => exact (Scanner.path_follows what h).stops
  | fields sofar => exact (Scanner.fields_follows sofar h).stops
  | order first => exact Scanner.order_stops first h
  | terms sofar => exact Scanner.terms_stops sofar h
  | sign => exact (Scanner.sign_follows h).stops
  | limit => exact (Scanner.limit_follows h).stops
  | equals => exact (Scanner.equals_follows h).stops
  | option base => exact (Scanner.option_follows base h).stops
  | options base => exact (Scanner.options_follows base h).stops
  | comparator => exact (Scanner.comparator_follows h).stops
  | quoted quote => exact (Scanner.quoted_follows quote h).stops
  | patternBody => exact (Scanner.pattern_body_follows h).stops
  | regex => exact (Scanner.regex_follows h).stops
  | word => exact (Scanner.word_follows h).stops
  | value => exact (Scanner.value_follows h).stops
  | condition sofar => exact (Scanner.condition_follows sofar h).stops
  | closeGroup sofar => exact Scanner.close_group_stops sofar h
  | operand sofar => exact Scanner.operand_stops sofar h
  | alternatives sofar => exact Scanner.alternatives_stops sofar h
  | moreAlternatives sofar => exact Scanner.more_alternatives_stops sofar h
  | alternative sofar => exact Scanner.alternative_stops sofar h
  | moreOperands sofar => exact Scanner.more_operands_stops sofar h
  | connective => exact Scanner.connective_stops h
  | moreFilters sofar => exact Scanner.more_filters_stops sofar h
  | filters => exact (Scanner.filters_follows h).stops
  | collection => exact (Scanner.collection_follows h).stops
  | location => exact (Scanner.location_follows h).stops
  | ending => exact (Scanner.ending_follows h).stops
  | fieldClause base => exact (Scanner.field_clause_follows base h).stops
  | optionClause base => exact (Scanner.option_clause_follows base h).stops
  | filterClause base => exact (Scanner.filter_clause_follows base h).stops
  | query => exact (Scanner.query_follows h).stops
  | loneValue => exact (Scanner.lone_value_follows h).stops

theorem closed_shorter {missing : Expectation} {found : Option (List Char × List Char)}
    {characters after : List Char} (hlt : ∀ result, found = some result →
      result.2.length < rest.length)
    (h : Scanner.closedBy missing [] found = .ok (characters, after)) :
    after.length < rest.length := by
  cases found with
  | none => cases h
  | some result =>
    cases h
    exact hlt result rfl

theorem scan_advances (procedure : Procedure α) (ht : procedure.Takes)
    (h : StandsAt scanner.text position rest) :
    Advances position ((procedure.scan scanner).result position) := by
  cases procedure with
  | path what =>
    exact (Scanner.path_follows what h).advances (fun _ _ => read_path_length_lt) h
  | option base =>
    refine (Scanner.option_follows base h).advances ?_ h
    intro query after he
    obtain ⟨found, hfound, he⟩ := map_eq_ok he
    cases he
    exact read_option_length_lt hfound
  | comparator =>
    exact (Scanner.comparator_follows h).advances (fun _ _ => read_comparator_length_lt) h
  | quoted quote =>
    exact (Scanner.quoted_follows quote h).advances
      (fun _ _ => closed_shorter fun _ => read_quoted_length_lt) h
  | patternBody =>
    exact (Scanner.pattern_body_follows h).advances
      (fun _ _ => closed_shorter fun _ => read_pattern_body_length_lt) h
  | regex =>
    refine (Scanner.regex_follows h).advances ?_ h
    intro literal after he
    have hlt := read_regex_length_lt he
    rw [List.length_drop] at hlt
    omega
  | word => exact (Scanner.word_follows h).advances (fun _ _ => read_word_length_lt) h
  | value => exact (Scanner.value_follows h).advances (fun _ _ => read_value_length_lt) h
  | condition sofar =>
    refine (Scanner.condition_follows sofar h).advances ?_ h
    intro tokens after he
    obtain ⟨found, hfound, he⟩ := map_eq_ok he
    cases he
    exact read_condition_length_lt hfound
  | operand sofar => exact Scanner.operand_advances sofar h
  | alternatives sofar => exact Scanner.alternatives_advances sofar h
  | alternative sofar => exact Scanner.alternative_advances sofar h
  | filters =>
    refine (Scanner.filters_follows h).advances ?_ h
    intro tokens after he
    obtain ⟨found, hfound, he⟩ := map_eq_ok he
    cases he
    exact (filters_proper hfound).2
  | _ => exact False.elim ht

end Procedure

/-- A search for a placeholder from a boundary between characters comes to an end, and what it finds
stands between boundaries, not before where the search started. -/
theorem Marker.find_at_inside (marker : Marker) {text : String} {position : Nat}
    (h : String.Pos.Raw.IsValid text ⟨position⟩) :
    ∃ found, marker.findAt? text position = some found ∧
      ∀ start stop, found = some (start, stop) → position ≤ start ∧ start ≤ stop ∧
        String.Pos.Raw.IsValid text ⟨start⟩ ∧ String.Pos.Raw.IsValid text ⟨stop⟩ := by
  obtain ⟨rest, hstands⟩ := StandsAt.of_valid h
  refine ⟨_, @Scanner.find_at_result ⟨marker, text⟩ position rest hstands, ?_⟩
  intro start stop hfound
  obtain ⟨hstart, hstop, ⟨_, hfirst⟩, _, hlast⟩ := find_from_inside hstands hfound
  exact ⟨hstart, hstop, hfirst.valid, hlast.valid⟩

/-- An outcome that a procedure gives from the start of a text locates its error there. -/
theorem located_of_scan {α : Type} {text : String} {found : Option (Except SyntaxError α × Nat)}
    {outcome : Except SyntaxError α} {e : SyntaxError} (hs : Stops text 0 found)
    (h : found.map Prod.fst = some outcome) (he : outcome = .error e) : e.LocatedIn text := by
  obtain ⟨outcome', next, rfl, hstop⟩ := hs
  cases h
  exact hstop.located e he

/-- Reading by byte positions never leaves the text and locates its errors truthfully. Whatever
procedure starts at a boundary between characters comes to an end: it takes no slice that there is
not, and it stops at a boundary, not beyond the end of the text and after a success not before its
start; some procedures always go on when they succeed. Whatever is refused, a query under any marker
or a value, the error stands at a boundary and has found the character there, or nothing at the end.
What a marker finds stands between boundaries, not before where its search started. And reading by
positions gives what reading by rests gives. -/
theorem scanner_stays_inside (marker : Marker) (text : String) :
    (∀ {α : Type} (procedure : Procedure α) (position : Nat),
      String.Pos.Raw.IsValid text ⟨position⟩ →
        Stops text position ((procedure.scan ⟨marker, text⟩).result position) ∧
        (procedure.Takes →
          Advances position ((procedure.scan ⟨marker, text⟩).result position))) ∧
    (∀ position, String.Pos.Raw.IsValid text ⟨position⟩ →
      ∃ found, marker.findAt? text position = some found ∧
        ∀ start stop, found = some (start, stop) → position ≤ start ∧ start ≤ stop ∧
          String.Pos.Raw.IsValid text ⟨start⟩ ∧ String.Pos.Raw.IsValid text ⟨stop⟩) ∧
    Query.scan? marker text = some (Query.parseWith marker text) ∧
    Literal.scan? text = some (Literal.parse text) ∧
    (∀ e, Query.parseWith marker text = .error e → e.LocatedIn text) ∧
    ∀ e, Literal.parse text = .error e → e.LocatedIn text := by
  refine ⟨?_, ?_, ?_, ?_, ?_, ?_⟩
  · intro α procedure position hvalid
    obtain ⟨rest, h⟩ := StandsAt.of_valid hvalid
    exact ⟨@Procedure.scan_stops α ⟨marker, text⟩ position rest procedure h,
      fun ht => @Procedure.scan_advances α ⟨marker, text⟩ position rest procedure ht h⟩
  · intro position hvalid
    exact marker.find_at_inside hvalid
  · exact Query.scan_eq_parse marker text
  · exact Literal.scan_eq_parse text
  · intro e he
    have hquery := @Scanner.query_follows ⟨marker, text⟩ 0 text.toList (.start text)
    exact located_of_scan hquery.stops (Query.scan_eq_parse marker text) he
  · intro e he
    have hvalue := @Scanner.lone_value_follows ⟨.braces, text⟩ 0 text.toList (.start text)
    exact located_of_scan hvalue.stops (Literal.scan_eq_parse text) he

/-- A quoted value behind a character of two bytes, a placeholder behind one, and two refusals. -/
theorem scanner_stays_inside_two_bytes :
    String.Pos.Raw.IsValid "é='ß'" ⟨3⟩ ∧ Procedure.value.Takes ∧
      (∃ next, (Procedure.value.scan ⟨.braces, "é='ß'"⟩).result 3 = some (.ok (.string "ß"), next) ∧
        3 < next ∧ next ≤ "é='ß'".utf8ByteSize) ∧
    Marker.braces.findAt? "é\x7b\x7bü\x7d\x7d" 2 = some (some (2, 8)) ∧
      String.Pos.Raw.IsValid "é\x7b\x7bü\x7d\x7d" ⟨8⟩ ∧
    Query.parseWith .braces "/ü[é" = .error ⟨4, "'sort=' or 'limit='", some 'é'⟩ ∧
      SyntaxError.LocatedIn ⟨4, "'sort=' or 'limit='", some 'é'⟩ "/ü[é" ∧
    Literal.parse "ü é" = .error ⟨3, "end of query", some 'é'⟩ ∧
      SyntaxError.LocatedIn ⟨3, "end of query", some 'é'⟩ "ü é" := by
  have hvalid : String.Pos.Raw.IsValid "é='ß'" ⟨3⟩ := by decide
  have hread : readValue ⟨.braces, "é='ß'".toList⟩ "'ß'".toList = .ok (.string "ß", []) := by
    decide +kernel
  have hvalue := @Scanner.value_follows ⟨.braces, "é='ß'"⟩ 3 "'ß'".toList ⟨"é=".toList, rfl, rfl⟩
  have hfind : Marker.braces.findAt? "é\x7b\x7bü\x7d\x7d" 2 = some (some (2, 8)) := by
    decide +kernel
  have hquery : Query.parseWith .braces "/ü[é" = .error ⟨4, "'sort=' or 'limit='", some 'é'⟩ := by
    decide +kernel
  have hliteral : Literal.parse "ü é" = .error ⟨3, "end of query", some 'é'⟩ := by decide +kernel
  obtain ⟨hprocedures, _⟩ := scanner_stays_inside .braces "é='ß'"
  obtain ⟨⟨_, _, hresult, hstop⟩, hadvances⟩ := hprocedures .value 3 hvalid
  obtain ⟨_, hsearch, _⟩ := scanner_stays_inside .braces "é\x7b\x7bü\x7d\x7d"
  obtain ⟨_, _, _, _, hlocated, _⟩ := scanner_stays_inside .braces "/ü[é"
  obtain ⟨_, _, _, _, _, hliterals⟩ := scanner_stays_inside .braces "ü é"
  obtain ⟨found, hfound, hinside⟩ := hsearch 2 (by decide)
  rw [Scanner.source, hread] at hvalue
  obtain ⟨next, hnext, _, _⟩ := hvalue.eq_ok
  have hstops : StopsInside "é='ß'" 3 (.ok (.string "ß") : Except SyntaxError Literal) next := by
    cases hresult.symm.trans hnext
    exact hstop
  cases hfound.symm.trans hfind
  exact ⟨hvalid, trivial, ⟨next, hnext, hadvances trivial _ next hnext, hstops.inside⟩, hfind,
    (hinside 2 8 rfl).2.2.2, hquery, hlocated _ hquery, hliteral, hliterals _ hliteral⟩

end PathQuery
