import PathQuery.Number.Reading
import PathQuery.Placeholder.Marker
import PathQuery.Query.Basic
import PathQuery.Query.Name
import PathQuery.Query.SyntaxError

namespace PathQuery

/-- A text being read, with the marker that tells its placeholders. -/
structure Source where
  marker : Marker
  text : List Char

namespace Source

/-- The character in front of a rest of the source. -/
def before (source : Source) (rest : List Char) : Option Char :=
  if rest.length < source.text.length then source.text[source.text.length - rest.length - 1]?
  else none

/-- How many characters the placeholder at the head of a rest takes; zero if there is none. Double
braces that open no placeholder are a failure where braces are the marker. -/
def placeholder (source : Source) (rest : List Char) : Except Failure Nat :=
  match source.marker with
  | .pattern regex =>
    match regex.matchAt? (source.before rest) rest with
    | some found => .ok found.length
    | none => .ok 0
  | .braces =>
    match Marker.bracesAt? rest with
    | some occurrence => .ok occurrence.length
    | none =>
      match rest with
      | '\x7b' :: '\x7b' :: '\x7d' :: '\x7d' :: after =>
        .error ⟨.placeholderName, '\x7d' :: '\x7d' :: after⟩
      | '\x7b' :: '\x7b' :: _ => .error ⟨.placeholderEnd rest, []⟩
      | _ => .ok 0

end Source

/-- A run of characters: the text taken, whether a placeholder is in it, and the rest. -/
structure Run where
  text : List Char
  templated : Bool
  rest : List Char
deriving DecidableEq, Repr

/-- Adds a character in front of a run. -/
def Run.push (c : Char) (run : Run) : Run :=
  { run with text := c :: run.text }

/-- Takes placeholders and allowed characters as long as there are any. The first `skip` characters
belong to a placeholder. -/
def takeRun (source : Source) (allowed : Char → Bool) :
    (skip : Nat) → List Char → Except Failure Run
  | _, [] => .ok ⟨[], false, []⟩
  | skip + 1, c :: rest => (takeRun source allowed skip rest).map (Run.push c)
  | 0, c :: rest =>
    match source.placeholder (c :: rest) with
    | .error failure => .error failure
    | .ok (length + 1) =>
      (takeRun source allowed length rest).map fun run => { run.push c with templated := true }
    | .ok 0 =>
      if allowed c then (takeRun source allowed 0 rest).map (Run.push c)
      else .ok ⟨[], false, c :: rest⟩

/-- A path of names with dots and placeholders. Without a placeholder it must be valid as it
stands. -/
def readPath (source : Source) (what : Expectation) (text : List Char) :
    Except Failure (String × List Char) :=
  match takeRun source isPathChar 0 text with
  | .error failure => .error failure
  | .ok run =>
    if run.text = [] ∨ (run.templated = false ∧ isValidPath run.text = false) then
      .error ⟨what, text⟩
    else .ok (String.ofList run.text, run.rest)

/-- A comparator; the longer spelling is preferred, and `<>` is another one for `!=`. -/
def readComparator : List Char → Except Failure (Comparator × List Char)
  | '!' :: '=' :: rest => .ok (.ne, rest)
  | '<' :: '>' :: rest => .ok (.ne, rest)
  | '>' :: '=' :: rest => .ok (.ge, rest)
  | '<' :: '=' :: rest => .ok (.le, rest)
  | '=' :: rest => .ok (.eq, rest)
  | '>' :: rest => .ok (.gt, rest)
  | '<' :: rest => .ok (.lt, rest)
  | '~' :: rest => .ok (.matches, rest)
  | text => .error ⟨.comparator, text⟩

/-- Reads up to the closing quote; a backslash makes the next character stand for itself. -/
def readQuoted (quote : Char) : List Char → Option (List Char × List Char)
  | [] => none
  | ['\\'] => none
  | '\\' :: c :: rest => (readQuoted quote rest).map fun (text, rest) => (c :: text, rest)
  | c :: rest =>
    if c = quote then some ([], rest)
    else (readQuoted quote rest).map fun (text, rest) => (c :: text, rest)

/-- Reads a pattern up to the closing slash. An escaped slash is a slash; other escapes belong to
the pattern. -/
def readPatternBody : List Char → Option (List Char × List Char)
  | [] => none
  | ['\\'] => none
  | '\\' :: c :: rest =>
    (readPatternBody rest).map fun (text, rest) =>
      (if c = '/' then '/' :: text else '\\' :: c :: text, rest)
  | c :: rest =>
    if c = '/' then some ([], rest)
    else (readPatternBody rest).map fun (text, rest) => (c :: text, rest)

/-- The letters a pattern may have as flags. -/
def isRegexFlag (c : Char) : Bool :=
  ['g', 'i', 'm', 's', 'u', 'y'].contains c

/-- A pattern after its opening slash, with its flags. -/
def readRegex (text : List Char) : Except Failure (Literal × List Char) :=
  match readPatternBody text with
  | none => .error ⟨.regexEnd, []⟩
  | some (pattern, rest) =>
    let flags := rest.takeWhile Char.isAlpha
    let after := rest.dropWhile Char.isAlpha
    if flags.all isRegexFlag then .ok (.regex (String.ofList pattern) (String.ofList flags), after)
    else .error ⟨.regexFlag, rest.dropWhile isRegexFlag⟩

/-- The number a word stands for, if it is a decimal with a digit or a point after its sign. -/
def readNumberWord? (word : List Char) : Option Binary64 :=
  let (negative, body) := Number.splitSign word
  if body.head?.any fun c => c.isDigit || c = '.' then
    (Number.readDecimal? negative body).filter Binary64.isFinite
  else none

/-- What a word without quotes stands for. -/
def Literal.ofWord (word : List Char) : Literal :=
  if word = "true".toList then .bool true
  else if word = "false".toList then .bool false
  else if word = "null".toList then .null
  else match readNumberWord? word with
    | some n => .number n
    | none => .string (String.ofList word)

/-- The characters of a word: all but white space, connectives and parentheses. -/
def isWordChar (c : Char) : Bool :=
  !(c = '&' || c = '|' || c = '(' || c = ')' || Text.isBlank c)

/-- A value without quotes. With a placeholder in it, it stays text. -/
def readWord (source : Source) (text : List Char) : Except Failure (Literal × List Char) :=
  match takeRun source isWordChar 0 text with
  | .error failure => .error failure
  | .ok run =>
    if run.text = [] then .error ⟨.value, text⟩
    else if run.templated then .ok (.template (String.ofList run.text), run.rest)
    else .ok (Literal.ofWord run.text, run.rest)

/-- A value: quoted, a pattern between slashes, or a word. -/
def readValue (source : Source) (text : List Char) : Except Failure (Literal × List Char) :=
  match text with
  | '/' :: rest => readRegex rest
  | c :: rest =>
    if c = '"' ∨ c = '\'' then
      match readQuoted c rest with
      | some (characters, rest) => .ok (.string (String.ofList characters), rest)
      | none => .error ⟨.closingQuote c, []⟩
    else readWord source text
  | [] => readWord source text

/-- A condition: a path, a comparator and a value that goes with it. -/
def readCondition (source : Source) (text : List Char) : Except Failure (Condition × List Char) :=
  match readPath source .filterKey text with
  | .error failure => .error failure
  | .ok (key, rest) =>
    match readComparator (Text.skipBlanks rest) with
    | .error failure => .error failure
    | .ok (comparator, rest) =>
      let start := Text.skipBlanks rest
      match readValue source start with
      | .error failure => .error failure
      | .ok (value, rest) =>
        if comparator.admits value then .ok (⟨key, comparator, value⟩, rest)
        else .error ⟨if comparator = .matches then .patternValue else .matchComparator, start⟩

theorem take_run_parts {source : Source} {allowed : Char → Bool} {skip : Nat}
    {text : List Char} {run : Run}
    (h : takeRun source allowed skip text = .ok run) : run.text ++ run.rest = text := by
  fun_induction takeRun source allowed skip text generalizing run with
  | case1 => simp only [Except.ok.injEq] at h; subst h; rfl
  | case2 skip c rest ih =>
    cases hr : takeRun source allowed skip rest with
    | error e => simp [hr, Except.map] at h
    | ok r => simp only [hr, Except.map, Except.ok.injEq] at h; subst h; simp [Run.push, ih hr]
  | case3 => simp at h
  | case4 c rest length hp ih =>
    cases hr : takeRun source allowed length rest with
    | error e => simp [hr, Except.map] at h
    | ok r => simp only [hr, Except.map, Except.ok.injEq] at h; subst h; simp [Run.push, ih hr]
  | case5 c rest hp hc ih =>
    cases hr : takeRun source allowed 0 rest with
    | error e => simp [hr, Except.map] at h
    | ok r => simp only [hr, Except.map, Except.ok.injEq] at h; subst h; simp [Run.push, ih hr]
  | case6 => simp only [Except.ok.injEq] at h; subst h; rfl

theorem read_path_parts {source : Source} {what : Expectation} {text rest : List Char}
    {path : String}
    (h : readPath source what text = .ok (path, rest)) :
    path.toList ++ rest = text ∧ path.toList ≠ [] := by
  unfold readPath at h
  split at h
  · simp at h
  · next run hr =>
    split at h
    · simp at h
    · next hne =>
      simp only [Except.ok.injEq, Prod.mk.injEq] at h
      obtain ⟨rfl, rfl⟩ := h
      have := take_run_parts hr
      simp_all

theorem read_path_length_lt {source : Source} {what : Expectation} {text rest : List Char}
    {path : String}
    (h : readPath source what text = .ok (path, rest)) : rest.length < text.length := by
  obtain ⟨happ, hne⟩ := read_path_parts h
  have hpos := List.length_pos_iff.mpr hne
  have hlen := congrArg List.length happ
  rw [List.length_append] at hlen
  omega

theorem read_comparator_length_lt {text rest : List Char} {comparator : Comparator}
    (h : readComparator text = .ok (comparator, rest)) : rest.length < text.length := by
  unfold readComparator at h
  split at h <;> simp at h <;> simp only [← h.2, List.length_cons] <;> omega

theorem read_quoted_length_lt {quote : Char} {text characters rest : List Char}
    (h : readQuoted quote text = some (characters, rest)) : rest.length < text.length := by
  fun_induction readQuoted quote text generalizing characters with
  | case1 => simp at h
  | case2 => simp at h
  | case3 c tail ih =>
    simp only [Option.map_eq_some_iff, Prod.mk.injEq] at h
    obtain ⟨⟨inner, after⟩, hr, _, rfl⟩ := h
    have : after.length < tail.length := ih hr
    simp
    omega
  | case4 => simp at h; simp [h.2]
  | case5 c tail _ _ hc ih =>
    simp only [Option.map_eq_some_iff, Prod.mk.injEq] at h
    obtain ⟨⟨inner, after⟩, hr, _, rfl⟩ := h
    have : after.length < tail.length := ih hr
    simp
    omega

theorem read_pattern_body_length_lt {text pattern rest : List Char}
    (h : readPatternBody text = some (pattern, rest)) : rest.length < text.length := by
  fun_induction readPatternBody text generalizing pattern with
  | case1 => simp at h
  | case2 => simp at h
  | case3 c tail ih =>
    simp only [Option.map_eq_some_iff, Prod.mk.injEq] at h
    obtain ⟨⟨inner, after⟩, hr, _, rfl⟩ := h
    have : after.length < tail.length := ih hr
    simp
    omega
  | case4 => simp at h; simp [h.2]
  | case5 c tail _ _ hc ih =>
    simp only [Option.map_eq_some_iff, Prod.mk.injEq] at h
    obtain ⟨⟨inner, after⟩, hr, _, rfl⟩ := h
    have : after.length < tail.length := ih hr
    simp
    omega

theorem read_regex_length_lt {text rest : List Char} {value : Literal}
    (h : readRegex text = .ok (value, rest)) : rest.length < text.length := by
  unfold readRegex at h
  split at h
  · simp at h
  · next pattern after hp =>
    dsimp only at h
    split at h
    · simp only [Except.ok.injEq, Prod.mk.injEq] at h
      have h₁ := read_pattern_body_length_lt hp
      have h₂ := (List.dropWhile_suffix (l := after) Char.isAlpha).length_le
      rw [← h.2]
      omega
    · simp at h

theorem read_word_length_lt {source : Source} {text rest : List Char} {value : Literal}
    (h : readWord source text = .ok (value, rest)) : rest.length < text.length := by
  unfold readWord at h
  split at h
  · simp at h
  · next run hr =>
    have hlen := congrArg List.length (take_run_parts hr)
    rw [List.length_append] at hlen
    split at h
    · simp at h
    · next hne =>
      have hpos := List.length_pos_iff.mpr hne
      split at h <;> simp only [Except.ok.injEq, Prod.mk.injEq] at h <;> rw [← h.2] <;> omega

theorem read_value_length_lt {source : Source} {text rest : List Char} {value : Literal}
    (h : readValue source text = .ok (value, rest)) : rest.length < text.length := by
  unfold readValue at h
  split at h
  · have := read_regex_length_lt h
    simp
    omega
  · split at h
    · split at h
      · next hq =>
        simp only [Except.ok.injEq, Prod.mk.injEq] at h
        have := read_quoted_length_lt hq
        simp [← h.2]
        omega
      · simp at h
    · exact read_word_length_lt h
  · exact read_word_length_lt h

theorem read_condition_length_lt {source : Source} {text rest : List Char} {condition : Condition}
    (h : readCondition source text = .ok (condition, rest)) : rest.length < text.length := by
  unfold readCondition at h
  split at h
  · simp at h
  · next key afterKey hk =>
    split at h
    · simp at h
    · next comparator afterComparator hc =>
      dsimp only at h
      split at h
      · simp at h
      · next value afterValue hv =>
        split at h
        · simp only [Except.ok.injEq, Prod.mk.injEq] at h
          have h₁ := read_path_length_lt hk
          have h₂ := Text.skip_blanks_length_le afterKey
          have h₃ := read_comparator_length_lt hc
          have h₄ := Text.skip_blanks_length_le afterComparator
          have h₅ := read_value_length_lt hv
          rw [← h.2]
          omega
        · simp at h

end PathQuery
