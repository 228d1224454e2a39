import PathQuery.Proofs.LateBinding

namespace PathQuery

namespace Marker

variable {marker : Marker}

/-- The rest of a placeholder has no pieces of its own. -/
theorem pieces_from_skipped (before : Option Char) (text : List Char) :
    marker.piecesFrom before true text.length text = [] := by
  induction text generalizing before with
  | nil =>
    rw [List.length_nil, piecesFrom]
    split <;> rfl
  | cons c rest ih =>
    rw [List.length_cons, piecesFrom]
    exact ih (some c)

theorem pieces_whole {template : String} {name : List Char}
    (h : marker.at? none template.toList = some ⟨template.toList.length, name⟩) :
    marker.pieces template = [.placeholder (Text.trim name)] := by
  unfold pieces
  cases ht : template.toList with
  | nil =>
    rw [ht, List.length_nil] at h
    simp [piecesFrom, h]
  | cons c rest =>
    rw [ht, List.length_cons] at h
    simp [piecesFrom, h, pieces_from_skipped]

theorem pieces_from_plain {before : Option Char} {text : List Char}
    (h : ∀ name, .placeholder name ∉ marker.piecesFrom before false 0 text) :
    marker.piecesFrom before false 0 text = text.map .plain := by
  induction text generalizing before with
  | nil =>
    rw [piecesFrom] at h ⊢
    split
    · rename_i occurrence ho
      simp [ho] at h
    · rfl
  | cons c rest ih =>
    rw [piecesFrom] at h ⊢
    split
    · rename_i ho
      simp only [ho, List.mem_cons, reduceCtorEq, false_or] at h
      rw [ih h, List.map_cons]
    · rename_i name ho
      refine absurd ?_ (h (Text.trim name))
      simp [ho]
    · rename_i length name ho
      refine absurd ?_ (h (Text.trim name))
      simp [ho]

theorem mapM_plain {f : Piece → Except Error (List Char)} (hf : ∀ c, f (.plain c) = .ok [c])
    (text : List Char) : (text.map Piece.plain).mapM f = .ok (text.map fun c => [c]) := by
  have hplain : f ∘ Piece.plain = fun c => pure [c] := funext hf
  rw [List.mapM_map, hplain, List.mapM_pure]
  rfl

/-- A text without placeholders stays as it is. -/
theorem fill_without_names {context : Context} {text : String} (h : marker.names text = []) :
    marker.fill context text = .ok text := by
  have hplain : ∀ name, .placeholder name ∉ marker.piecesFrom none false 0 text.toList := by
    intro name hm
    have := mem_names.mpr ⟨name, hm, rfl⟩
    rw [h] at this
    cases this
  unfold fill pieces
  rw [pieces_from_plain hplain, mapM_plain fun _ => rfl]
  simp [Bind.bind, Except.bind, pure, Except.pure, ← List.flatMap_def]

end Marker

section Words

variable {source : Source} {allowed : Char → Bool} {text : List Char} {run : Run}

/-- A run without a placeholder takes a character that is allowed, or is over. -/
theorem run_untemplated_cases {c : Char} {rest : List Char}
    (h : takeRun source allowed 0 (c :: rest) = .ok run)
    (hu : run.templated = false) : source.placeholder (c :: rest) = .ok 0 ∧
      ((allowed c = true ∧ ∃ later, takeRun source allowed 0 rest = .ok later ∧
        later.templated = false ∧
          run = later.push c) ∨
        (allowed c = false ∧ run = ⟨[], false, c :: rest⟩)) := by
  rw [takeRun] at h
  split at h
  · cases h
  · obtain ⟨later, _, rfl⟩ := map_eq_ok h
    cases hu
  · rename_i hp
    refine ⟨hp, ?_⟩
    split at h
    · rename_i hc
      obtain ⟨later, hlater, rfl⟩ := map_eq_ok h
      exact .inl ⟨hc, later, hlater, hu, rfl⟩
    · rename_i hc
      cases h
      exact .inr ⟨Bool.eq_false_iff.mpr hc, rfl⟩

/-- It goes as far as characters are allowed. -/
theorem run_untemplated (h : takeRun source allowed 0 text = .ok run) (hu : run.templated = false) :
    run = ⟨text.takeWhile allowed, false, text.dropWhile allowed⟩ := by
  induction text generalizing run with
  | nil =>
    cases h
    rfl
  | cons c rest ih =>
    rcases (run_untemplated_cases h hu).2 with ⟨hc, later, hlater, hu, rfl⟩ | ⟨hc, rfl⟩
    · rw [ih hlater hu]
      simp [Run.push, hc]
    · simp [hc]

/-- Where braces are the marker and no double braces stand, no placeholder is found. -/
theorem run_without_braces {whole : List Char} (h : ¬ ['\x7b', '\x7b'] <:+: text) :
    takeRun ⟨.braces, whole⟩ allowed 0 text =
      .ok ⟨text.takeWhile allowed, false, text.dropWhile allowed⟩ := by
  induction text with
  | nil => rfl
  | cons c rest ih =>
    rw [List.infix_cons_iff, not_or] at h
    have hp : Source.placeholder ⟨.braces, whole⟩ (c :: rest) = .ok 0 := by
      apply Source.placeholder_none
      intro after he
      exact h.1 ⟨after, he.symm⟩
    rw [takeRun, hp]
    by_cases hc : allowed c = true
    · simp [hc, ih h.2, Except.map, Run.push]
    · simp [hc]

/-- Where braces are the marker, a run without a placeholder stops in front of double braces. -/
theorem braces_left {whole : List Char} (h : takeRun ⟨.braces, whole⟩ allowed 0 text = .ok run)
    (hu : run.templated = false) (hb : ['\x7b', '\x7b'] <:+: text) :
    ['\x7b', '\x7b'] <:+: run.rest := by
  induction text generalizing run with
  | nil => simp at hb
  | cons c rest ih =>
    obtain ⟨hp, ⟨_, later, hlater, hu, rfl⟩ | ⟨_, rfl⟩⟩ := run_untemplated_cases h hu
    · apply ih hlater hu
      rcases List.infix_cons_iff.mp hb with ⟨after, he⟩ | hb
      · exact absurd he.symm (Source.placeholder_zero hp after)
      · exact hb
    · exact hb

end Words

/-- A text whose value is neither quoted nor a pattern. -/
def Bare (text : List Char) : Prop :=
  ∀ c ∈ (Text.skipBlanks text).head?, c ≠ '/' ∧ c ≠ '"' ∧ c ≠ '\''

/-- A text that brings double braces without quotes. -/
def HoldsBareBraces (text : List Char) : Prop :=
  Bare text ∧ ['\x7b', '\x7b'] <:+: text

section Values

variable {source : Source} {text rest : List Char} {value : Literal}

theorem read_value_bare (h : Bare text) :
    readValue source (Text.skipBlanks text) = readWord source (Text.skipBlanks text) := by
  unfold readValue
  split
  · rename_i rest he
    rw [Bare, he] at h
    exact absurd rfl (h '/' rfl).1
  · rename_i c rest _ he
    rw [Bare, he] at h
    rw [if_neg (not_or.mpr (h c rfl).2)]
  · rfl

/-- Quotes and slashes do not depend on the marker. -/
theorem read_value_delimited (h : ¬ Bare text) (other : Source) :
    readValue source (Text.skipBlanks text) = readValue other (Text.skipBlanks text) := by
  unfold readValue
  split
  · rfl
  · rename_i c rest hslash he
    by_cases hq : c = '"' ∨ c = '\''
    · rw [if_pos hq, if_pos hq]
    · refine absurd ?_ h
      rw [Bare, he]
      intro d hd
      cases hd
      exact ⟨hslash, not_or.mp hq⟩
  · rename_i he
    refine absurd ?_ h
    rw [Bare, he]
    nofun

theorem read_word_plain {run : Run} (h : takeRun source isWordChar 0 text = .ok run)
    (hu : run.templated = false)
    (hne : run.text ≠ []) : readWord source text = .ok (Literal.ofWord run.text, run.rest) := by
  unfold readWord
  rw [h]
  simp [hne, hu]

/-- A word that waits for nothing was taken without a placeholder. -/
theorem read_word_settled (h : readWord source text = .ok (value, rest))
    (hs : ∀ other, value ≠ .template other) :
    ∃ run, takeRun source isWordChar 0 text = .ok run ∧ run.templated = false ∧ run.text ≠ [] ∧
      value = Literal.ofWord run.text ∧ rest = run.rest := by
  unfold readWord at h
  split at h
  · cases h
  · rename_i run hrun
    split at h
    · cases h
    · rename_i hne
      split at h
      · cases h
        exact absurd rfl (hs _)
      · rename_i ht
        cases h
        exact ⟨run, hrun, Bool.eq_false_iff.mpr ht, hne, rfl, rfl⟩

theorem braces_after_blanks (h : ['\x7b', '\x7b'] <:+: text) :
    ['\x7b', '\x7b'] <:+: Text.skipBlanks text := by
  induction text with
  | nil => simp at h
  | cons c rest ih =>
    unfold Text.skipBlanks at ih ⊢
    by_cases hc : Text.isBlank c = true
    · rw [List.dropWhile_cons_of_pos hc]
      rcases List.infix_cons_iff.mp h with ⟨after, he⟩ | h
      · cases he
        cases hc
      · exact ih h
    · rwa [List.dropWhile_cons_of_neg hc]

/-- Bare double braces are no value, or one that waits. -/
theorem parse_bare_braces {text : String} (hb : HoldsBareBraces text.toList)
    (h : Literal.parse text = .ok value) : ∃ other, value = .template other := by
  by_contra hs
  rw [not_exists] at hs
  obtain ⟨rest, hread, hblank⟩ := parse_literal_iff.mp h
  rw [read_value_bare hb.1] at hread
  obtain ⟨run, hrun, hu, _, _, rfl⟩ := read_word_settled hread hs
  have hleft := braces_left hrun hu (braces_after_blanks hb.2)
  cases hblank '\x7b' (hleft.subset List.mem_cons_self)

/-- Any other value is read on its own as it is in a query, whatever the query's marker is. -/
theorem parse_as_written {text : String}
    (hread : readValue source (Text.skipBlanks text.toList) = .ok (value, rest))
    (hblank : Text.Blank rest) (hs : ∀ other, value ≠ .template other)
    (hb : ¬ HoldsBareBraces text.toList) : Literal.parse text = .ok value := by
  apply parse_literal_iff.mpr
  refine ⟨rest, ?_, hblank⟩
  by_cases hbare : Bare text.toList
  · have hno : ¬ ['\x7b', '\x7b'] <:+: Text.skipBlanks text.toList := by
      intro hi
      exact hb ⟨hbare, hi.trans (List.dropWhile_suffix _).isInfix⟩
    rw [read_value_bare hbare] at hread ⊢
    obtain ⟨run, hrun, hu, hne, rfl, rfl⟩ := read_word_settled hread hs
    rw [run_untemplated hrun hu] at hne ⊢
    exact read_word_plain (run_without_braces hno) rfl hne
  · rwa [read_value_delimited hbare ⟨.braces, text.toList⟩] at hread

end Values

section Conditions

variable {marker : Marker} {comparator : Comparator} {text : String} {condition : Condition}

/-- The key of the one condition is `a`, unless a placeholder takes the blank after it too. -/
theorem written_key_cases
    (h : ∃ q, Query.parseWith marker (writtenQuery comparator text) = .ok q ∧
      q.filters = [.condition condition]) :
    (∃ rest, readPath ⟨marker, (writtenQuery comparator text).toList⟩ .filterKey
      ("a".toList ++ ' ' :: (comparator.symbol.toList ++ ' ' :: text.toList)) = .ok ("a", rest)) ∨
    "a ".toList <+: condition.key.toList := by
  obtain ⟨_, hread, _⟩ := written_query_reads.mp h
  obtain ⟨afterKey, _, hkey, _⟩ := read_condition_iff.mp hread
  obtain ⟨happ, hne⟩ := read_path_parts hkey
  match hk : condition.key.toList with
  | [] => exact absurd hk hne
  | [c] =>
    rw [hk] at happ
    cases (List.cons.inj happ).1
    have ha : condition.key = "a" := String.toList_inj.mp hk
    rw [ha] at hkey
    exact .inl ⟨afterKey, hkey⟩
  | c :: d :: more =>
    rw [hk] at happ
    cases (List.cons.inj happ).1
    cases (List.cons.inj (List.cons.inj happ).2).1
    exact .inr ⟨more, rfl⟩

end Conditions

/-- A value that a context brings is read as if it were written, whatever the marker is, unless it
holds double braces without quotes: those are refused, also under a marker that they are plain text
to. A query in which a placeholder takes more than the key is left out: its condition is another
one. -/
theorem value_bound_late_under_marker (marker : Marker) (comparator : Comparator)
    (text template : String)
    (name : List Char) (query : Query) (condition : Condition) (hkey : marker.names "a" = [])
    (hwhole : marker.at? none template.toList = some ⟨template.toList.length, name⟩)
    (hq : Query.parseWith marker (writtenQuery comparator text) = .ok query)
    (hone : query.filters = [.condition condition])
    (hs : ∀ other, condition.value ≠ .template other) :
    (HoldsBareBraces text.toList →
      (waitingCondition comparator template).fill
        (marker.fill [(String.ofList (Text.trim name), .string text)]) =
        .error (.invalidSubstitution .filterValue text)) ∧
    (¬ HoldsBareBraces text.toList → ¬ "a ".toList <+: condition.key.toList →
      (waitingCondition comparator template).fill
        (marker.fill [(String.ofList (Text.trim name), .string text)]) =
        .ok ⟨"a", comparator, condition.value⟩) := by
  have hvalid : isValidPath "a".toList = true := by decide
  have hfill : marker.fill [(String.ofList (Text.trim name), .string text)] template = .ok text :=
    fill_lone_placeholder (Marker.pieces_whole hwhole)
  constructor
  · intro hb
    unfold waitingCondition
    rw [fill_waiting_eq (Marker.fill_without_names hkey) hvalid,
      fill_template_refused hfill fun value h => parse_bare_braces hb h]
    rfl
  · intro hb hlong
    have hreads := (written_key_cases ⟨query, hq, hone⟩).resolve_right hlong
    obtain ⟨_, _, ⟨rest, hread, hblank⟩, ha⟩ := (written_query_iff hreads).mp ⟨query, hq, hone⟩
    apply (fill_waiting_iff (Marker.fill_without_names hkey) hvalid hfill).mpr
    exact ⟨rfl, rfl, parse_as_written hread hblank hs hb, hs, ha⟩

/-- A marker with one placeholder, written as a lead and a name. -/
def wordMarker (lead name : String) : Marker :=
  let codes (text : String) := Regex.Pattern.ofText (text.toList.map Char.toNat)
  .pattern ⟨.ofPattern (.seq (codes lead) (.capture 1 (codes name))), 1⟩

/-- Between quotes, double braces are kept. -/
theorem quoted_braces_bound_late :
    Marker.ofPattern "@(x)" = .ok (wordMarker "@" "x") ∧
    (∃ query, Query.parseWith (wordMarker "@" "x") (writtenQuery .eq "'\x7b\x7by\x7d\x7d'") =
      .ok query ∧
      query.filters = [.condition ⟨"a", .eq, .string "\x7b\x7by\x7d\x7d"⟩]) ∧
    (waitingCondition .eq "@x").fill
      ((wordMarker "@" "x").fill [("x", .string "'\x7b\x7by\x7d\x7d'")]) =
      .ok ⟨"a", .eq, .string "\x7b\x7by\x7d\x7d"⟩ := by
  have hwritten : ∃ query,
      Query.parseWith (wordMarker "@" "x") (writtenQuery .eq "'\x7b\x7by\x7d\x7d'") = .ok query ∧
      query.filters = [.condition ⟨"a", .eq, .string "\x7b\x7by\x7d\x7d"⟩] := by
    exact ⟨⟨none, "/r", [], [.condition ⟨"a", .eq, .string "\x7b\x7by\x7d\x7d"⟩], [], none⟩,
      by decide +kernel, rfl⟩
  refine ⟨by decide +kernel, hwritten, ?_⟩
  obtain ⟨query, hq, hone⟩ := hwritten
  have hsettled : ∀ other, Literal.string "\x7b\x7by\x7d\x7d" ≠ .template other := by
    intro other he
    cases he
  have hlate := value_bound_late_under_marker (wordMarker "@" "x") .eq _ "@x" ['x'] query _
    (by decide +kernel) (by decide +kernel) hq hone hsettled
  refine hlate.2 ?_ (by decide)
  intro hb
  exact (hb.1 '\'' rfl).2.2 rfl

/-- Without quotes they are refused late, though the query itself has them as a value. And where a
placeholder takes more than the key of the query, the value there is another one. -/
theorem late_values_differ_from_written :
    (Marker.ofPattern "@(x)" = .ok (wordMarker "@" "x") ∧
      (wordMarker "@" "x").names "a" = [] ∧ (wordMarker "@" "x").names "\x7b\x7by\x7d\x7d" = [] ∧
      (wordMarker "@" "x").at? none "@x".toList = some ⟨2, ['x']⟩ ∧
      (∃ query, Query.parseWith (wordMarker "@" "x") (writtenQuery .eq "\x7b\x7by\x7d\x7d") =
        .ok query ∧
        query.filters = [.condition ⟨"a", .eq, .string "\x7b\x7by\x7d\x7d"⟩]) ∧
      (waitingCondition .eq "@x").fill
        ((wordMarker "@" "x").fill [("x", .string "\x7b\x7by\x7d\x7d")]) =
        .error (.invalidSubstitution .filterValue "\x7b\x7by\x7d\x7d")) ∧
    (Marker.ofPattern "a( =)" = .ok (wordMarker "a" " =") ∧
      (wordMarker "a" " =").names "a" = [] ∧ (wordMarker "a" " =").names "=true" = [] ∧
      (wordMarker "a" " =").at? none "a =".toList = some ⟨3, [' ', '=']⟩ ∧
      (∃ query, Query.parseWith (wordMarker "a" " =") (writtenQuery .eq "=true") = .ok query ∧
        query.filters = [.condition ⟨"a =", .eq, .bool true⟩]) ∧
      (waitingCondition .eq "a =").fill ((wordMarker "a" " =").fill [("=", .string "=true")]) =
        .ok ⟨"a", .eq, .string "=true"⟩) := by
  refine ⟨⟨?_, ?_, ?_, ?_, ⟨⟨none, "/r", [], [.condition ⟨"a", .eq, .string "\x7b\x7by\x7d\x7d"⟩],
      [], none⟩, ?_, rfl⟩, ?_⟩,
    ?_, ?_, ?_, ?_,
    ⟨⟨none, "/r", [], [.condition ⟨"a =", .eq, .bool true⟩], [], none⟩, ?_, rfl⟩, ?_⟩
  all_goals decide +kernel

end PathQuery
