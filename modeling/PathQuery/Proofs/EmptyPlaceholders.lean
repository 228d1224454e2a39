import PathQuery.Proofs.ReaderCalls

namespace PathQuery

namespace Marker

/-- The end of a placeholder. -/
def closing : List Char := ['\x7d', '\x7d']

/-- Braces with nothing in between. -/
def emptyBraces : List Char := ['\x7b', '\x7b', '\x7d', '\x7d']

theorem closing_prefix_iff {c : Char} {rest : List Char} :
    closing <+: c :: rest ↔ c = '\x7d' ∧ rest.head? = some '\x7d' := by
  cases rest with
  | nil => simp [closing, List.cons_prefix_cons]
  | cons d rest => simp [closing, List.cons_prefix_cons, eq_comm]

theorem before_closing_eq_none_iff {text : List Char} :
    beforeClosing? text = none ↔ ¬ closing <:+: text := by
  induction text with
  | nil => simp [beforeClosing?, closing]
  | cons c rest ih =>
    rw [beforeClosing?, List.infix_cons_iff, closing_prefix_iff, not_or, ← ih]
    split
    · rename_i hc
      simp [hc]
    · rename_i hc
      simp [hc]

/-- A name goes up to the first closing braces. -/
theorem before_closing_eq {text name : List Char} (h : beforeClosing? text = some name) :
    (∃ rest, text = name ++ closing ++ rest) ∧ ¬ closing <:+: name ++ ['\x7d'] := by
  fun_induction beforeClosing? text generalizing name with
  | case1 => cases h
  | case2 c rest hc =>
    cases h
    obtain ⟨rest, hr⟩ := closing_prefix_iff.mpr hc
    exact ⟨⟨rest, hr.symm⟩, by decide⟩
  | case3 c rest hc ih =>
    obtain ⟨inner, hi, rfl⟩ := Option.map_eq_some_iff.mp h
    obtain ⟨⟨left, rfl⟩, hfirst⟩ := ih hi
    refine ⟨⟨left, rfl⟩, ?_⟩
    rw [List.cons_append, List.infix_cons_iff, not_or, closing_prefix_iff]
    refine ⟨?_, hfirst⟩
    -- the character behind `c` is the same in the text and in the name with a brace behind it
    cases inner with
    | nil => exact hc
    | cons d inner => exact hc

end Marker

namespace Source

open Marker (closing emptyBraces)

variable {source after : List Char}

/-- A name is missing exactly where empty braces stand and are never closed again. -/
theorem name_missing_iff {rest left : List Char} :
    placeholder ⟨.braces, source⟩ rest = .error ⟨.placeholderName, left⟩ ↔
      ∃ after, rest = emptyBraces ++ after ∧ left = closing ++ after ∧
        ¬ closing <:+: '\x7d' :: after := by
  constructor
  · intro h
    unfold placeholder at h
    dsimp only at h
    split at h
    · cases h
    · rename_i hb
      split at h
      · rename_i after
        cases h
        rw [Marker.bracesAt?, Option.map_eq_none_iff, Marker.before_closing_eq_none_iff] at hb
        exact ⟨after, rfl, rfl, hb⟩
      · cases h
      · cases h
  · rintro ⟨after, rfl, rfl, hopen⟩
    rw [← Marker.before_closing_eq_none_iff] at hopen
    simp [placeholder, emptyBraces, closing, Marker.bracesAt?, hopen]

/-- Otherwise the name of the placeholder starts with a closing brace. -/
theorem braces_at_empty (h : closing <:+: '\x7d' :: after) :
    ∃ inner rest, '\x7d' :: after = inner ++ closing ++ rest ∧ ¬ closing <:+: inner ++ ['\x7d'] ∧
      Marker.bracesAt? (emptyBraces ++ after) = some ⟨inner.length + 5, '\x7d' :: inner⟩ := by
  cases hc : Marker.beforeClosing? ('\x7d' :: after) with
  | none => exact absurd h (Marker.before_closing_eq_none_iff.mp hc)
  | some inner =>
    obtain ⟨⟨rest, hrest⟩, hfirst⟩ := Marker.before_closing_eq hc
    refine ⟨inner, rest, hrest, hfirst, ?_⟩
    simp [emptyBraces, Marker.bracesAt?, hc]

end Source

namespace Text

@[simp]
theorem byte_length_nil : byteLength [] = 0 := rfl

@[simp]
theorem byte_length_cons (c : Char) (text : List Char) :
    byteLength (c :: text) = c.utf8Size + byteLength text := rfl

theorem byte_length_append (a b : List Char) :
    byteLength (a ++ b) = byteLength a + byteLength b := by
  induction a with
  | nil => simp
  | cons c a ih => simp [ih, Nat.add_assoc]

/-- A place in a text is given by the number of bytes before it. -/
theorem append_inj_of_byte_length {a b rest rest' : List Char} (h : a ++ rest = b ++ rest')
    (hl : byteLength a = byteLength b) : rest = rest' := by
  induction a generalizing b with
  | nil =>
    cases b with
    | nil => exact h
    | cons c b =>
      have := c.utf8Size_pos
      rw [byte_length_nil, byte_length_cons] at hl
      omega
  | cons c a ih =>
    cases b with
    | nil =>
      have := c.utf8Size_pos
      rw [byte_length_nil, byte_length_cons] at hl
      omega
    | cons d b =>
      rw [List.cons_append, List.cons_append, List.cons.injEq] at h
      obtain ⟨rfl, h⟩ := h
      rw [byte_length_cons, byte_length_cons] at hl
      exact ih h (Nat.add_left_cancel hl)

end Text

theorem offset_of_append (front rest : List Char) :
    offsetOf (front ++ rest) rest = Text.byteLength front := by
  rw [offsetOf, Text.byte_length_append]
  omega

theorem expectation_of_placeholder_name {source : List Char} {expected : Expectation}
    (h : expected.text source = "placeholder name") : expected = .placeholderName := by
  unfold Expectation.text at h
  cases expected with
  | placeholderName => rfl
  | placeholderEnd opening =>
    dsimp only at h
    rw [← String.toList_inj, String.toList_append] at h
    cases h
  | closingQuote quote =>
    dsimp only at h
    rw [← String.toList_inj, String.toList_append] at h
    cases h
  | _ => simp at h

open Marker (closing emptyBraces)

/-- Reading a query comes, in a part of it, to a rest of the text where a placeholder is looked
for. -/
def Looks (text : String) (part : Part) (rest : List Char) : Prop :=
  Reading.whole.LeadsTo ⟨.braces, text.toList⟩ (.run part 0 rest)

section Queries

variable {text : String} {part : Part} {after : List Char}

theorem locate_empty_braces (front after : List Char) :
    Failure.locate (front ++ emptyBraces ++ after) ⟨.placeholderName, closing ++ after⟩ =
      ⟨Text.byteLength front + 2, "placeholder name", some '\x7d'⟩ := by
  have hsplit : front ++ emptyBraces ++ after =
      (front ++ ['\x7b', '\x7b']) ++ (closing ++ after) := by
    simp [emptyBraces, closing]
  have hopening : Text.byteLength ['\x7b', '\x7b'] = 2 := by decide
  rw [hsplit, Failure.locate, offset_of_append, Text.byte_length_append, hopening]
  unfold Expectation.text
  rfl

/-- Empty braces that are never closed again are refused. -/
theorem Looks.refused (h : Looks text part (emptyBraces ++ after))
    (hopen : ¬ closing <:+: '\x7d' :: after) :
    readQuery ⟨.braces, text.toList⟩ = .error ⟨.placeholderName, closing ++ after⟩ := by
  have hplace :
      Reading.whole.LeadsTo ⟨.braces, text.toList⟩ (.placeholder (emptyBraces ++ after)) :=
    h.tail List.mem_cons_self
  exact hplace.fails trivial (Source.name_missing_iff.mpr ⟨after, rfl, rfl, hopen⟩)

/-- A query is refused for a missing name only where empty braces stand that are never closed
again. -/
theorem refused_for_name {left : List Char}
    (h : readQuery ⟨.braces, text.toList⟩ = .error ⟨.placeholderName, left⟩) :
    ∃ front after, text.toList = front ++ emptyBraces ++ after ∧ left = closing ++ after ∧
      ¬ closing <:+: '\x7d' :: after := by
  have hname : Expectation.placeholderName.IsOfPlaceholder := trivial
  have hfails : Reading.whole.Fails ⟨.braces, text.toList⟩ ⟨.placeholderName, left⟩ := h
  obtain ⟨rest, hleads, hplace⟩ := Reading.exists_place hname hfails
  obtain ⟨after, rfl, hleft, hopen⟩ := Source.name_missing_iff.mp hplace
  obtain ⟨front, hfront⟩ := hleads.suffix
  exact ⟨front, after, by rw [List.append_assoc]; exact hfront.symm, hleft, hopen⟩

/-- Behind a placeholder the same part of the query goes on. -/
theorem Looks.behind {inner rest name : List Char} (h : Looks text part (emptyBraces ++ after))
    (hrest : '\x7d' :: after = inner ++ closing ++ rest)
    (hb : Marker.bracesAt? (emptyBraces ++ after) = some ⟨inner.length + 5, name⟩) :
    Looks text part rest := by
  have hskip : Reading.run part (inner.length + 4) ('\x7b' :: '\x7d' :: '\x7d' :: after) ∈
      (Reading.run part 0 (emptyBraces ++ after)).calls ⟨.braces, text.toList⟩ :=
    List.mem_cons_of_mem _
      (Reading.mem_after.mpr ⟨inner.length + 5, Source.placeholder_of_braces hb,
        List.mem_singleton.mpr rfl⟩)
  have hon : (Reading.run part (inner.length + 4) ('\x7b' :: '\x7d' :: '\x7d' :: after)).LeadsTo
      ⟨.braces, text.toList⟩
      (.run part 0 rest) := by
    have hlength : inner.length + 4 = ('\x7b' :: '\x7d' :: inner ++ closing).length := by
      simp [closing]
    have hskipped : '\x7b' :: '\x7d' :: '\x7d' :: after =
        ('\x7b' :: '\x7d' :: inner ++ closing) ++ rest := by simp [hrest]
    rw [hlength, hskipped]
    exact Reading.run_leads_to_rest part _ rest
  exact (Relation.ReflTransGen.tail h hskip).trans hon

end Queries

/-- Where a placeholder is looked for and empty braces stand, the query is refused behind the
opening braces exactly if no closing braces stand from the second closing brace on. Otherwise a
placeholder is taken whose name starts with a closing brace and goes up to the first closing braces
there, and behind them the same part of the query goes on. -/
theorem empty_braces_refused_iff (text : String) (part : Part) (front after : List Char)
    (htext : text.toList = front ++ emptyBraces ++ after)
    (h : Looks text part (emptyBraces ++ after)) :
    (Query.parse text = .error ⟨Text.byteLength front + 2, "placeholder name", some '\x7d'⟩ ↔
      ¬ closing <:+: '\x7d' :: after) ∧
    (closing <:+: '\x7d' :: after → ∃ inner rest,
      '\x7d' :: after = inner ++ closing ++ rest ∧ ¬ closing <:+: inner ++ ['\x7d'] ∧
      Marker.bracesAt? (emptyBraces ++ after) = some ⟨inner.length + 5, '\x7d' :: inner⟩ ∧
        Looks text part rest) := by
  refine ⟨⟨fun hparse => ?_, fun hopen => ?_⟩, fun hclosed => ?_⟩
  · obtain ⟨⟨expected, left⟩, hread, he⟩ := map_error_eq_error hparse
    obtain rfl := expectation_of_placeholder_name (congrArg SyntaxError.expected he).symm
    obtain ⟨front', after', htext', rfl, hopen⟩ := refused_for_name hread
    rw [htext', locate_empty_braces, SyntaxError.mk.injEq] at he
    have hposition : Text.byteLength front = Text.byteLength front' := Nat.add_right_cancel he.1
    rw [htext, List.append_assoc, List.append_assoc] at htext'
    have hafter : after = after' :=
      List.append_cancel_left (Text.append_inj_of_byte_length htext' hposition)
    rwa [hafter]
  · rw [Query.parse, Query.parseWith, h.refused hopen, Except.mapError, htext, locate_empty_braces]
  · obtain ⟨inner, rest, hrest, hfirst, hb⟩ := Source.braces_at_empty hclosed
    exact ⟨inner, rest, hrest, hfirst, hb, h.behind hrest hb⟩

theorem empty_limit_refused :
    Looks "/users[limit=\x7b\x7b\x7d\x7d]" .limit (emptyBraces ++ [']']) ∧
    Query.parse "/users[limit=\x7b\x7b\x7d\x7d]" =
      .error ⟨15, "placeholder name", some '\x7d'⟩ := by
  have hlooks : Looks "/users[limit=\x7b\x7b\x7d\x7d]" .limit (emptyBraces ++ [']']) := by
    refine .head (b := .options { path := "/users" } "limit=\x7b\x7b\x7d\x7d]".toList)
      (by decide +kernel) ?_
    refine .head (b := .option false false "limit=\x7b\x7b\x7d\x7d]".toList) (by decide +kernel) ?_
    exact .single (by decide +kernel)
  exact ⟨hlooks, (empty_braces_refused_iff _ _ "/users[limit=".toList _ (by decide) hlooks).1.mpr
    (by decide)⟩

/-- A later placeholder closes empty braces: what stands in between becomes part of a name, a whole
condition with it. -/
theorem empty_braces_take_condition :
    Looks "/r?a=\x7b\x7b\x7d\x7d&b=\x7b\x7bx\x7d\x7d" .value
      (emptyBraces ++ "&b=\x7b\x7bx\x7d\x7d".toList) ∧
    Query.parse "/r?a=\x7b\x7b\x7d\x7d&b=\x7b\x7bx\x7d\x7d" =
      .ok { path := "/r",
            filters := [.condition ⟨"a", .eq, .template "\x7b\x7b\x7d\x7d&b=\x7b\x7bx\x7d\x7d"⟩] } ∧
    Marker.braces.names "\x7b\x7b\x7d\x7d&b=\x7b\x7bx\x7d\x7d" = ["\x7d\x7d&b=\x7b\x7bx"] := by
  refine ⟨?_, by decide +kernel, by decide +kernel⟩
  refine .head (b := .operand "a=\x7b\x7b\x7d\x7d&b=\x7b\x7bx\x7d\x7d".toList)
    (by decide +kernel) ?_
  refine .head (b := .condition "a=\x7b\x7b\x7d\x7d&b=\x7b\x7bx\x7d\x7d".toList)
    (by decide +kernel) ?_
  exact .single (by decide +kernel)

end PathQuery
