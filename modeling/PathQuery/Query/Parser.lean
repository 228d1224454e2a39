import PathQuery.Filter.Tree
import PathQuery.Query.Lexer

namespace PathQuery

/-- The fields after an opening brace. -/
def readFields (source : Source) (text : List Char) : Except Failure (List String × List Char) :=
  match hp : readPath source .fieldName (Text.skipBlanks text) with
  | .error failure => .error failure
  | .ok (field, rest) =>
    match hs : Text.skipBlanks rest with
    | ',' :: after =>
      have : after.length < text.length := by
        have h₁ := Text.skip_blanks_length_le text
        have h₂ := read_path_length_lt hp
        have h₃ := Text.skip_blanks_length_le rest
        simp [hs] at h₃
        omega
      match readFields source after with
      | .error failure => .error failure
      | .ok (fields, rest) => .ok (field :: fields, rest)
    | '\x7d' :: after => .ok ([field], after)
    | other => .error ⟨.fieldsGoOn, other⟩
termination_by text.length

/-- The order a sign stands for. -/
def SortOrder.ofSign? : Option Char → Option SortOrder
  | some '+' => some .ascending
  | some '-' => some .descending
  | _ => none

/-- Further terms of a sort, each with its sign. -/
def readMoreTerms (source : Source) (text : List Char) :
    Except Failure (List SortTerm × List Char) :=
  match SortOrder.ofSign? text.head? with
  | none => .ok ([], text)
  | some order =>
    match hp : readPath source .sortField (text.drop 1) with
    | .error failure => .error failure
    | .ok (key, rest) =>
      have : rest.length < text.length := by
        have := read_path_length_lt hp
        simp at this
        omega
      match readMoreTerms source rest with
      | .error failure => .error failure
      | .ok (terms, rest) => .ok (⟨key, order⟩ :: terms, rest)
termination_by text.length

/-- The terms of a sort; the first one may do without a sign. -/
def readTerms (source : Source) (text : List Char) : Except Failure (List SortTerm × List Char) :=
  match SortOrder.ofSign? text.head? with
  | some _ => readMoreTerms source text
  | none =>
    match readPath source .sortField text with
    | .error failure => .error failure
    | .ok (key, rest) =>
      match readMoreTerms source rest with
      | .error failure => .error failure
      | .ok (terms, rest) => .ok (⟨key, .ascending⟩ :: terms, rest)

/-- A limit: a whole number of 64 bits with an optional sign, or digits with placeholders among
them. -/
def readLimit (source : Source) (text : List Char) : Except Failure (String × List Char) :=
  let signLength := if (SortOrder.ofSign? text.head?).isSome then 1 else 0
  match takeRun source Char.isDigit 0 (text.drop signLength) with
  | .error failure => .error failure
  | .ok run =>
    let written := text.take signLength ++ run.text
    if run.templated = false ∧ (Number.readInt64? written).isNone then .error ⟨.limit, text⟩
    else .ok (String.ofList written, run.rest)

/-- The equals sign of an option and the white space around it. -/
def readEquals (text : List Char) : Except Failure (List Char) :=
  match Text.skipBlanks text with
  | '=' :: rest => .ok (Text.skipBlanks rest)
  | other => .error ⟨.equals, other⟩

/-- A sort or a limit read between brackets. -/
inductive QueryOption where
  | sort (terms : List SortTerm)
  | limit (text : String)

/-- One option, if it has not been given before. -/
def readOption (source : Source) (sorted limited : Bool) (text : List Char) :
    Except Failure (QueryOption × List Char) :=
  match text with
  | 's' :: 'o' :: 'r' :: 't' :: rest =>
    if sorted then .error ⟨.singleSort, text⟩
    else do
      let (terms, rest) ← readTerms source (← readEquals rest)
      return (.sort terms, rest)
  | 'l' :: 'i' :: 'm' :: 'i' :: 't' :: rest =>
    if limited then .error ⟨.singleLimit, text⟩
    else do
      let (limit, rest) ← readLimit source (← readEquals rest)
      return (.limit limit, rest)
  | _ => .error ⟨.option, text⟩

/-- Writes an option into a query. -/
def QueryOption.apply (query : Query) : QueryOption → Query
  | .sort terms => { query with sort := terms }
  | .limit text => { query with limit := some text }

theorem read_more_terms_length_le {source : Source} {text rest : List Char} {terms : List SortTerm}
    (h : readMoreTerms source text = .ok (terms, rest)) : rest.length ≤ text.length := by
  fun_induction readMoreTerms source text generalizing terms rest with
  | case1 => simp only [Except.ok.injEq, Prod.mk.injEq] at h; simp [h.2]
  | case2 => simp at h
  | case3 => simp at h
  | case4 text order ho key middle hp hlt more after hm ih =>
    simp only [Except.ok.injEq, Prod.mk.injEq] at h
    obtain ⟨_, rfl⟩ := h
    have h₁ := read_path_length_lt hp
    have h₂ := ih hm
    simp at h₁
    omega

theorem read_terms_length_le {source : Source} {text rest : List Char} {terms : List SortTerm}
    (h : readTerms source text = .ok (terms, rest)) : rest.length ≤ text.length := by
  unfold readTerms at h
  split at h
  · exact read_more_terms_length_le h
  · split at h
    · simp at h
    · next hp =>
      split at h
      · simp at h
      · next hm =>
        simp only [Except.ok.injEq, Prod.mk.injEq] at h
        obtain ⟨_, rfl⟩ := h
        exact Nat.le_of_lt
          (Nat.lt_of_le_of_lt (read_more_terms_length_le hm) (read_path_length_lt hp))

theorem read_limit_length_le {source : Source} {text rest : List Char} {limit : String}
    (h : readLimit source text = .ok (limit, rest)) : rest.length ≤ text.length := by
  unfold readLimit at h
  dsimp only at h
  cases hr : takeRun source Char.isDigit 0
      (text.drop (if (SortOrder.ofSign? text.head?).isSome then 1 else 0)) with
  | error e => simp [hr] at h
  | ok run =>
    rw [hr] at h
    dsimp only at h
    have hlen := congrArg List.length (take_run_parts hr)
    rw [List.length_append, List.length_drop] at hlen
    by_cases hc : run.templated = false ∧
        (Number.readInt64?
          (text.take (if (SortOrder.ofSign? text.head?).isSome then 1 else 0) ++ run.text)).isNone
    · rw [if_pos hc] at h; simp at h
    · rw [if_neg hc] at h
      simp only [Except.ok.injEq, Prod.mk.injEq] at h
      rw [← h.2]
      omega

theorem read_equals_length_le {text rest : List Char} (h : readEquals text = .ok rest) :
    rest.length ≤ text.length := by
  unfold readEquals at h
  split at h
  · next after hs =>
    simp only [Except.ok.injEq] at h
    subst h
    have h₁ := Text.skip_blanks_length_le text
    have h₂ := Text.skip_blanks_length_le after
    rw [hs] at h₁
    simp at h₁
    omega
  · simp at h

theorem read_option_length_lt {source : Source} {sorted limited : Bool} {text rest : List Char}
    {option : QueryOption} (h : readOption source sorted limited text = .ok (option, rest)) :
    rest.length < text.length := by
  unfold readOption at h
  split at h
  · next after =>
    split at h
    · simp at h
    · cases he : readEquals after with
      | error e => simp [he, bind, Except.bind] at h
      | ok start =>
        cases ht : readTerms source start with
        | error e => simp [he, ht, bind, Except.bind] at h
        | ok result =>
          obtain ⟨terms, rest'⟩ := result
          simp only [he, ht, bind, Except.bind, pure, Except.pure, Except.ok.injEq,
            Prod.mk.injEq] at h
          have h₁ := read_equals_length_le he
          have h₂ := read_terms_length_le ht
          simp [← h.2]
          omega
  · next after =>
    split at h
    · simp at h
    · cases he : readEquals after with
      | error e => simp [he, bind, Except.bind] at h
      | ok start =>
        cases ht : readLimit source start with
        | error e => simp [he, ht, bind, Except.bind] at h
        | ok result =>
          obtain ⟨limit, rest'⟩ := result
          simp only [he, ht, bind, Except.bind, pure, Except.pure, Except.ok.injEq,
            Prod.mk.injEq] at h
          have h₁ := read_equals_length_le he
          have h₂ := read_limit_length_le ht
          simp [← h.2]
          omega
  · simp at h

/-- The options after an opening bracket, written into the query. -/
def readOptions (source : Source) (query : Query) (text : List Char) :
    Except Failure (Query × List Char) :=
  match ho : readOption source (!query.sort.isEmpty) query.limit.isSome (Text.skipBlanks text) with
  | .error failure => .error failure
  | .ok (option, rest) =>
    match hs : Text.skipBlanks rest with
    | ',' :: after =>
      have : after.length < text.length := by
        have h₁ := Text.skip_blanks_length_le text
        have h₂ := read_option_length_lt ho
        have h₃ := Text.skip_blanks_length_le rest
        simp [hs] at h₃
        omega
      readOptions source (option.apply query) after
    | ']' :: after => .ok (option.apply query, after)
    | other => .error ⟨.optionsGoOn, other⟩
termination_by text.length

/-- A connective, written once or twice. -/
def readConnective? : List Char → Option (Connective × List Char)
  | '&' :: '&' :: rest => some (.and, rest)
  | '&' :: rest => some (.and, rest)
  | '|' :: '|' :: rest => some (.or, rest)
  | '|' :: rest => some (.or, rest)
  | _ => none

theorem read_connective_length_lt {text rest : List Char} {connective : Connective}
    (h : readConnective? text = some (connective, rest)) : rest.length < text.length := by
  unfold readConnective? at h
  split at h <;> simp at h <;> simp only [← h.2, List.length_cons] <;> omega

/-- A result with a rest that is shorter than the text. -/
abbrev Taking (α : Type) (text : List Char) : Type :=
  Except Failure { result : α × List Char // result.2.length < text.length }

/-- The alternatives of a group read so far, with the last one. -/
def joinAlternatives : Option FilterTree → FilterTree → FilterTree
  | none, last => last
  | some earlier, last => .join .or earlier last

/-- A group after one more operand: `&` extends its current alternative, `|` starts another one. -/
def extendGroup (alternatives : Option FilterTree) (current : FilterTree) (operand : FilterTree) :
    Connective → Option FilterTree × FilterTree
  | .and => (alternatives, .join .and current operand)
  | .or => (some (joinAlternatives alternatives current), operand)

mutual

/-- An operand of a connective: a condition, or a group between parentheses. -/
def readOperand (source : Source) (text : List Char) : Taking FilterTree text :=
  have hb := Text.skip_blanks_length_le text
  match hs : Text.skipBlanks text with
  | '(' :: inner =>
    have hi : inner.length < text.length := by simp [hs] at hb; omega
    match readOperand source inner with
    | .error failure => .error failure
    | .ok ⟨(first, rest), h⟩ =>
      have hr : rest.length < inner.length := h
      match readGroup source none first rest with
      | .error failure => .error failure
      | .ok ⟨result, hg⟩ => .ok ⟨result, by omega⟩
  | body =>
    match hc : readCondition source body with
    | .error failure => .error failure
    | .ok (condition, rest) =>
      .ok ⟨(.leaf condition, rest), by
        have := read_condition_length_lt hc
        rw [hs] at hb
        exact Nat.lt_of_lt_of_le this hb⟩
termination_by text.length

/-- The rest of a group up to its closing parenthesis: `alternatives` are complete, `current` may
still be extended by `&`. -/
def readGroup (source : Source) (alternatives : Option FilterTree) (current : FilterTree)
    (text : List Char) : Taking FilterTree text :=
  have hb := Text.skip_blanks_length_le text
  match hs : readConnective? (Text.skipBlanks text) with
  | some (connective, after) =>
    have ha : after.length < text.length := Nat.lt_of_lt_of_le (read_connective_length_lt hs) hb
    match readOperand source after with
    | .error failure => .error failure
    | .ok ⟨(operand, rest), h⟩ =>
      have hr : rest.length < after.length := h
      let group := extendGroup alternatives current operand connective
      match readGroup source group.1 group.2 rest with
      | .error failure => .error failure
      | .ok ⟨result, hg⟩ => .ok ⟨result, by omega⟩
  | none =>
    match hp : Text.skipBlanks text with
    | ')' :: after =>
      .ok ⟨(joinAlternatives alternatives current, after), by simp [hp] at hb ⊢; omega⟩
    | other => .error ⟨.groupGoesOn, other⟩
termination_by text.length

end

/-- Further filters at the outer level, joined from left to right. -/
def readMoreFilters (source : Source) (tree : FilterTree) (text : List Char) :
    Except Failure (FilterTree × List Char) :=
  match hs : readConnective? (Text.skipBlanks text) with
  | some (connective, after) =>
    have : after.length < text.length :=
      Nat.lt_of_lt_of_le (read_connective_length_lt hs) (Text.skip_blanks_length_le text)
    match readOperand source after with
    | .error failure => .error failure
    | .ok ⟨(operand, rest), h⟩ =>
      have : rest.length < after.length := h
      readMoreFilters source (.join connective tree operand) rest
  | none => .ok (tree, Text.skipBlanks text)
termination_by text.length

/-- The filters after a question mark. -/
def readFilters (source : Source) (text : List Char) : Except Failure (FilterTree × List Char) :=
  match readOperand source text with
  | .error failure => .error failure
  | .ok ⟨(tree, rest), _⟩ => readMoreFilters source tree rest

/-- The characters of a collection's name. -/
def isCollectionChar (c : Char) : Bool :=
  isNameChar c || c = '-' || c = '.'

/-- A collection with its colon, if there is one. -/
def readCollection (text : List Char) : Option String × List Char :=
  let name := text.takeWhile isCollectionChar
  match text.dropWhile isCollectionChar with
  | ':' :: rest => if name = [] then (none, text) else (some (String.ofList name), rest)
  | _ => (none, text)

/-- A path goes on until fields, options or filters start, or to the next white space. -/
def isLocationChar (c : Char) : Bool :=
  !(c = '\x7b' || c = '[' || c = '?' || Text.isBlank c)

/-- Nothing but white space may be left. -/
def expectEnd (text : List Char) : Except Failure Unit :=
  match Text.skipBlanks text with
  | [] => .ok ()
  | rest => .error ⟨.queryEnd, rest⟩

/-- The fields of a query, if a brace opens here. -/
def readFieldClause (source : Source) (query : Query) :
    List Char → Except Failure (Query × List Char)
  | '\x7b' :: rest => (readFields source rest).map fun (fields, rest) =>
    ({ query with fields := fields }, rest)
  | text => .ok (query, text)

/-- The options of a query, if a bracket opens here. -/
def readOptionClause (source : Source) (query : Query) :
    List Char → Except Failure (Query × List Char)
  | '[' :: rest => readOptions source query rest
  | text => .ok (query, text)

/-- The filters of a query, if a question mark stands here. -/
def readFilterClause (source : Source) (query : Query) :
    List Char → Except Failure (Query × List Char)
  | '?' :: rest =>
    (readFilters source rest).map fun (tree, rest) => ({ query with filters := tree.tokens }, rest)
  | text => .ok (query, text)

/-- A whole query. -/
def readQuery (source : Source) : Except Failure Query := do
  let (collection, rest) := readCollection (Text.skipBlanks source.text)
  if rest.head? ≠ some '/' then .error ⟨.slash, rest⟩
  let path := String.ofList (rest.takeWhile isLocationChar)
  let query : Query := { collection := collection, path := path }
  let (query, rest) ← readFieldClause source query (rest.dropWhile isLocationChar)
  let (query, rest) ← readOptionClause source query rest
  let (query, rest) ← readFilterClause source query (Text.skipBlanks rest)
  expectEnd rest
  return query

/-- Reads a query whose placeholders are told by a marker. -/
def Query.parseWith (marker : Marker) (text : String) : Except SyntaxError Query :=
  (readQuery ⟨marker, text.toList⟩).mapError (Failure.locate text.toList)

/-- Reads a query whose placeholders stand between double braces. -/
def Query.parse (text : String) : Except SyntaxError Query :=
  Query.parseWith .braces text

/-- A single value with white space around it. -/
def readLoneValue (source : Source) : Except Failure Literal := do
  let (value, rest) ← readValue source (Text.skipBlanks source.text)
  expectEnd rest
  return value

/-- Reads a value on its own. -/
def Literal.parse (text : String) : Except SyntaxError Literal :=
  (readLoneValue ⟨.braces, text.toList⟩).mapError (Failure.locate text.toList)

end PathQuery
