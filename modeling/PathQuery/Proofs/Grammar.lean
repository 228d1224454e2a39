import PathQuery.Proofs.Reading
import PathQuery.Query.Parser

namespace PathQuery

section Readers

variable {source : Source} {text inner after : List Char}

/-- What an operand is read as. -/
def operand (source : Source) (text : List Char) : Except Failure (FilterTree × List Char) :=
  (readOperand source text).map Subtype.val

/-- What the rest of a group is read as. -/
def group (source : Source) (alternatives : Option FilterTree) (current : FilterTree)
    (text : List Char) : Except Failure (FilterTree × List Char) :=
  (readGroup source alternatives current text).map Subtype.val

theorem operand_open (h : Text.skipBlanks text = '(' :: inner) :
    operand source text = (operand source inner).bind fun first =>
      group source none first.1 first.2 := by
  unfold operand
  rw [readOperand]
  split
  · rename_i inner' h'
    rw [h] at h'
    cases h'
    cases ho : readOperand source inner with
    | error failure => rfl
    | ok first =>
      obtain ⟨⟨first, rest⟩, hr⟩ := first
      dsimp only [Except.map, Except.bind, group]
      cases hg : readGroup source none first rest with
      | error failure => rfl
      | ok result => rfl
  · rename_i hno
    exact absurd h (hno inner)

theorem operand_condition (h : ∀ inner, Text.skipBlanks text ≠ '(' :: inner) :
    operand source text =
      (readCondition source (Text.skipBlanks text)).map fun result =>
        (.leaf result.1, result.2) := by
  unfold operand
  rw [readOperand]
  split
  · rename_i inner h'
    exact absurd h' (h inner)
  · split
    · rename_i failure hc
      simp only [hc, Except.map]
    · rename_i condition rest hc
      simp only [hc, Except.map]

theorem group_join {alternatives : Option FilterTree} {current : FilterTree}
    {connective : Connective}
    (h : readConnective? (Text.skipBlanks text) = some (connective, after)) :
    group source alternatives current text = (operand source after).bind fun next =>
      group source (extendGroup alternatives current next.1 connective).1
        (extendGroup alternatives current next.1 connective).2 next.2 := by
  unfold group
  rw [readGroup]
  split
  · rename_i connective' after' h'
    rw [h] at h'
    cases h'
    unfold operand
    cases ho : readOperand source after with
    | error failure => rfl
    | ok next =>
      obtain ⟨⟨next, rest⟩, hr⟩ := next
      dsimp only [Except.map, Except.bind]
      cases hg : readGroup source (extendGroup alternatives current next connective).1
        (extendGroup alternatives current next connective).2 rest with
      | error failure => rfl
      | ok result => rfl
  · rename_i h'
    rw [h] at h'
    cases h'

theorem group_close {alternatives : Option FilterTree} {current : FilterTree}
    (h : Text.skipBlanks text = ')' :: after) :
    group source alternatives current text =
      .ok (joinAlternatives alternatives current, after) := by
  unfold group
  rw [readGroup]
  split
  · rename_i connective after' h'
    rw [h] at h'
    cases h'
  · split
    · rename_i after' h'
      rw [h] at h'
      cases h'
      rfl
    · rename_i hno
      exact absurd h (hno after)

/-- A group goes on with a connective or ends with a parenthesis. -/
theorem group_cases {alternatives : Option FilterTree} {current : FilterTree}
    {result : FilterTree × List Char} (h : group source alternatives current text = .ok result) :
    (∃ connective after, readConnective? (Text.skipBlanks text) = some (connective, after)) ∨
      ∃ after, Text.skipBlanks text = ')' :: after := by
  unfold group at h
  rw [readGroup] at h
  split at h
  · rename_i connective after hs
    exact .inl ⟨connective, after, hs⟩
  · split at h
    · rename_i after hp
      exact .inr ⟨after, hp⟩
    · cases h

theorem more_filters_join {tree : FilterTree} {connective : Connective}
    (h : readConnective? (Text.skipBlanks text) = some (connective, after)) :
    readMoreFilters source tree text = (operand source after).bind fun next =>
      readMoreFilters source (.join connective tree next.1) next.2 := by
  rw [readMoreFilters]
  split
  · rename_i connective' after' h'
    rw [h] at h'
    cases h'
    unfold operand
    cases ho : readOperand source after with
    | error failure => rfl
    | ok next => rfl
  · rename_i h'
    rw [h] at h'
    cases h'

theorem more_filters_end {tree : FilterTree} (h : readConnective? (Text.skipBlanks text) = none) :
    readMoreFilters source tree text = .ok (tree, Text.skipBlanks text) := by
  rw [readMoreFilters]
  split
  · rename_i h'
    rw [h] at h'
    cases h'
  · rfl

theorem filters_eq : readFilters source text =
    (operand source text).bind fun first => readMoreFilters source first.1 first.2 := by
  unfold readFilters operand
  cases ho : readOperand source text with
  | error failure => rfl
  | ok first => rfl

theorem operand_length_lt {tree : FilterTree} {rest : List Char}
    (h : operand source text = .ok (tree, rest)) : rest.length < text.length := by
  obtain ⟨result, _, he⟩ := map_eq_ok h
  have := result.property
  rw [he] at this
  exact this

end Readers

/-- A connective, written once or twice, with white space around it. -/
def JoinText (connective : Connective) (text : List Char) : Prop :=
  ∃ before after, Text.Blank before ∧ Text.Blank after ∧
    (text = before ++ connective.symbol :: after ∨
      text = before ++ connective.symbol :: connective.symbol :: after)

/-- The parts filters are made of. -/
inductive Phrase where
  | item
  | conjunction
  | disjunction
  | filters

/-- The texts of each phrase, with the tree they stand for. A term is a text that is read as one
condition from its start to its end. -/
inductive Spells : Phrase → List Char → FilterTree → Prop where
  | term {text : List Char} {condition : Condition}
      (read : readCondition ⟨.braces, text⟩ text = .ok (condition, [])) :
        Spells .item text (.leaf condition)
  | group {before text after : List Char} {tree : FilterTree} (opening : Text.Blank before)
      (inside : Spells .disjunction text tree) (closing : Text.Blank after) :
      Spells .item ('(' :: (before ++ text ++ after ++ [')'])) tree
  | operand {text : List Char} {tree : FilterTree} (item : Spells .item text tree) :
      Spells .conjunction text tree
  | both {left join right : List Char} {a b : FilterTree} (first : Spells .conjunction left a)
      (joined : JoinText .and join) (second : Spells .item right b) :
      Spells .conjunction (left ++ join ++ right) (.join .and a b)
  | alternative {text : List Char} {tree : FilterTree} (only : Spells .conjunction text tree) :
      Spells .disjunction text tree
  | either {left join right : List Char} {a b : FilterTree} (first : Spells .disjunction left a)
      (joined : JoinText .or join) (second : Spells .conjunction right b) :
      Spells .disjunction (left ++ join ++ right) (.join .or a b)
  | first {text : List Char} {tree : FilterTree} (item : Spells .item text tree) :
      Spells .filters text tree
  | next {left join right : List Char} {a b : FilterTree} {connective : Connective}
      (before : Spells .filters left a) (joined : JoinText connective join)
        (last : Spells .item right b) :
      Spells .filters (left ++ join ++ right) (.join connective a b)

/-- Filters with white space around them. -/
def SpellsFilters (text : List Char) (tree : FilterTree) : Prop :=
  ∃ before inner after, Text.Blank before ∧ Text.Blank after ∧ text = before ++ inner ++ after ∧
    Spells .filters inner tree

/-- How every phrase starts. -/
def Opens (text : List Char) : Prop :=
  ∃ c rest, text = c :: rest ∧ Text.isBlank c = false ∧ c ≠ '&' ∧ c ≠ '|'

theorem Opens.append {text : List Char} (h : Opens text) (rest : List Char) :
    Opens (text ++ rest) := by
  obtain ⟨c, after, rfl, hc⟩ := h
  exact ⟨c, after ++ rest, rfl, hc⟩

theorem Spells.opens {phrase : Phrase} {text : List Char} {tree : FilterTree}
    (h : Spells phrase text tree) : Opens text := by
  induction h with
  | term read =>
    obtain ⟨c, rest, rfl, hc⟩ := read_condition_head read
    refine ⟨c, rest, rfl, ?_⟩
    rcases hc with hc | rfl
    · refine ⟨path_char_not_blank hc, ?_, ?_⟩ <;> rintro rfl <;> cases hc
    · decide
  | group => exact ⟨'(', _, rfl, by decide⟩
  | operand _ ih => exact ih
  | both _ _ _ ih => exact (ih.append _).append _
  | alternative _ ih => exact ih
  | either _ _ _ ih => exact (ih.append _).append _
  | first _ ih => exact ih
  | next _ _ _ ih => exact (ih.append _).append _

theorem skip_blanks_opens {before text : List Char} (hb : Text.Blank before) (h : Opens text) :
    Text.skipBlanks (before ++ text) = text := by
  obtain ⟨c, rest, rfl, hc, _⟩ := h
  rw [Text.skip_blanks_append hb, Text.skip_blanks_cons hc]

theorem ends_of_blank {blanks rest : List Char} (h : Text.Blank blanks)
    (hr : Ends isWordChar rest) : Ends isWordChar (blanks ++ rest) := by
  cases blanks with
  | nil => exact hr
  | cons c blanks =>
    have hc := h c List.mem_cons_self
    refine ends_cons.mpr ⟨by simp [isWordChar, hc], ?_⟩
    rintro rfl
    cases hc

/-- A connective ends a word. -/
theorem JoinText.ends {connective : Connective} {join : List Char} (h : JoinText connective join)
    (rest : List Char) : Ends isWordChar (join ++ rest) := by
  have hsymbol : ∀ tail, Ends isWordChar (connective.symbol :: tail) := by
    intro tail
    cases connective <;> exact ends_cons.mpr (by decide)
  obtain ⟨before, after, hb, _, rfl | rfl⟩ := h
  · rw [List.append_assoc]
    exact ends_of_blank hb (hsymbol _)
  · rw [List.append_assoc]
    exact ends_of_blank hb (hsymbol _)

/-- A connective is read from its text, and the white space after it is left. -/
theorem JoinText.read {connective : Connective} {join right : List Char}
    (h : JoinText connective join) (hr : Opens right) : ∃ after, Text.Blank after ∧
      readConnective? (Text.skipBlanks (join ++ right)) = some (connective, after ++ right) := by
  obtain ⟨before, after, hb, ha, hj⟩ := h
  refine ⟨after, ha, ?_⟩
  have hhead : ∀ c, (after ++ right).head? = some c → c ≠ '&' ∧ c ≠ '|' := by
    intro c hc
    cases after with
    | nil =>
      obtain ⟨d, rest, rfl, _, hd⟩ := hr
      cases hc
      exact hd
    | cons d after =>
      cases hc
      have := ha c List.mem_cons_self
      constructor <;> rintro rfl <;> cases this
  have hsingle : readConnective? (connective.symbol :: (after ++ right)) =
      some (connective, after ++ right) := by
    cases hs : after ++ right with
    | nil => cases connective <;> rfl
    | cons c tail =>
      obtain ⟨hand, hor⟩ := hhead c (by rw [hs]; rfl)
      cases connective <;> simp [readConnective?, Connective.symbol, hand, hor]
  rcases hj with rfl | rfl
  · rw [List.append_assoc, Text.skip_blanks_append hb, List.cons_append, Text.skip_blanks_cons]
    · exact hsingle
    · cases connective <;> rfl
  · rw [List.append_assoc, Text.skip_blanks_append hb, List.cons_append, Text.skip_blanks_cons]
    · cases connective <;> rfl
    · cases connective <;> rfl

/-- What it means for a reader to read a phrase: its text, after white space and before anything
that ends a word, has the same effect as its tree. -/
def Reads : Phrase → List Char → FilterTree → Prop
  | .item, text, tree => ∀ source before rest, Text.Blank before → Ends isWordChar rest →
      operand ⟨.braces, source⟩ (before ++ (text ++ rest)) = .ok (tree, rest)
  | .conjunction, text, tree =>
    ∀ source alternatives before rest, Text.Blank before → Ends isWordChar rest →
      ((operand ⟨.braces, source⟩ (before ++ (text ++ rest))).bind fun first =>
          group ⟨.braces, source⟩ alternatives first.1 first.2) =
        group ⟨.braces, source⟩ alternatives tree rest
  | .disjunction, text, tree =>
    ∃ alternatives current, joinAlternatives alternatives current = tree ∧
      ∀ source before rest, Text.Blank before → Ends isWordChar rest →
        ((operand ⟨.braces, source⟩ (before ++ (text ++ rest))).bind fun first =>
            group ⟨.braces, source⟩ none first.1 first.2) =
          group ⟨.braces, source⟩ alternatives current rest
  | .filters, text, tree => ∀ source before rest, Text.Blank before → Ends isWordChar rest →
      readFilters ⟨.braces, source⟩ (before ++ (text ++ rest)) =
        readMoreFilters ⟨.braces, source⟩ tree rest

theorem reads_term {text : List Char} {condition : Condition}
    (h : readCondition ⟨.braces, text⟩ text = .ok (condition, [])) :
    Reads .item text (.leaf condition) := by
  intro source before rest hb hr
  have ho := (Spells.term h).opens
  obtain ⟨taken, ht, hread⟩ := read_condition_append h
  rw [List.append_nil] at ht
  subst ht
  have hskip := skip_blanks_opens hb (ho.append rest)
  have hparen : ∀ inner, Text.skipBlanks (before ++ (text ++ rest)) ≠ '(' :: inner := by
    intro inner hi
    rw [hskip] at hi
    obtain ⟨c, tail, rfl, hc⟩ := read_condition_head h
    cases hi
    rcases hc with hc | hc <;> cases hc
  rw [operand_condition hparen, hskip, hread source rest hr]
  rfl

theorem reads_group {before text after : List Char} {tree : FilterTree} (hb : Text.Blank before)
    (h : Reads .disjunction text tree) (ha : Text.Blank after) :
    Reads .item ('(' :: (before ++ text ++ after ++ [')'])) tree := by
  obtain ⟨alternatives, current, rfl, h⟩ := h
  intro source outer rest ho hr
  have hopen : Text.skipBlanks (outer ++ ('(' :: (before ++ text ++ after ++ [')']) ++ rest)) =
      '(' :: (before ++ (text ++ (after ++ ')' :: rest))) := by
    rw [List.cons_append, skip_blanks_opens ho ⟨'(', _, rfl, by decide⟩]
    simp
  have hclose : Text.skipBlanks (after ++ ')' :: rest) = ')' :: rest := by
    rw [Text.skip_blanks_append ha, Text.skip_blanks_cons (by decide)]
  have hend : Ends isWordChar (after ++ ')' :: rest) := ends_of_blank ha (ends_cons.mpr (by decide))
  rw [operand_open hopen, h source before _ hb hend, group_close hclose]

/-- One more item of a conjunction. -/
theorem reads_both {left join right : List Char} {a b : FilterTree} (ha : Reads .conjunction left a)
    (hj : JoinText .and join) (ho : Opens right) (hb : Reads .item right b) :
    Reads .conjunction (left ++ join ++ right) (.join .and a b) := by
  intro source alternatives before rest hbl hr
  obtain ⟨gap, hg, hc⟩ := hj.read (ho.append rest)
  rw [List.append_assoc, List.append_assoc, ha source alternatives before _ hbl (hj.ends _),
    group_join hc, hb source gap rest hg hr]
  rfl

/-- One more alternative of a disjunction. -/
theorem reads_either {left join right : List Char} {a b : FilterTree}
    (ha : Reads .disjunction left a)
    (hj : JoinText .or join) (ho : Opens right) (hb : Reads .conjunction right b) :
    Reads .disjunction (left ++ join ++ right) (.join .or a b) := by
  obtain ⟨alternatives, current, rfl, ha⟩ := ha
  refine ⟨some (joinAlternatives alternatives current), b, rfl, ?_⟩
  intro source before rest hbl hr
  obtain ⟨gap, hg, hc⟩ := hj.read (ho.append rest)
  rw [List.append_assoc, List.append_assoc, ha source before _ hbl (hj.ends _), group_join hc]
  exact hb source _ gap rest hg hr

/-- One more item at the outer level. -/
theorem reads_next {left join right : List Char} {a b : FilterTree} {connective : Connective}
    (ha : Reads .filters left a) (hj : JoinText connective join) (ho : Opens right)
    (hb : Reads .item right b) : Reads .filters (left ++ join ++ right) (.join connective a b) := by
  intro source before rest hbl hr
  obtain ⟨gap, hg, hc⟩ := hj.read (ho.append rest)
  rw [List.append_assoc, List.append_assoc, ha source before _ hbl (hj.ends _),
    more_filters_join hc, hb source gap rest hg hr]
  rfl

theorem Spells.reads {phrase : Phrase} {text : List Char} {tree : FilterTree}
    (h : Spells phrase text tree) : Reads phrase text tree := by
  induction h with
  | term read => exact reads_term read
  | group opening _ closing ih => exact reads_group opening ih closing
  | operand _ ih =>
    intro source alternatives before rest hb hr
    rw [ih source before rest hb hr]
    rfl
  | both _ joined second iha ihb => exact reads_both iha joined second.opens ihb
  | alternative _ ih => exact ⟨none, _, rfl, fun source before rest => ih source none before rest⟩
  | either _ joined second iha ihb => exact reads_either iha joined second.opens ihb
  | first _ ih =>
    intro source before rest hb hr
    rw [filters_eq, ih source before rest hb hr]
    rfl
  | next _ joined last iha ihb => exact reads_next iha joined last.opens ihb

theorem connective_join {text after : List Char} {connective : Connective}
    (h : readConnective? (Text.skipBlanks text) = some (connective, after)) {gap next : List Char}
    (ha : after = gap ++ next) (hg : Text.Blank gap) :
    ∃ join, text = join ++ next ∧ JoinText connective join := by
  obtain ⟨before, hb, hs⟩ := Text.exists_blanks text
  have hsymbol : Text.skipBlanks text = connective.symbol :: after ∨
      Text.skipBlanks text = connective.symbol :: connective.symbol :: after := by
    unfold readConnective? at h
    split at h <;> cases h <;> rename_i hs' <;> simp [hs', Connective.symbol]
  rcases hsymbol with hsymbol | hsymbol
  · refine ⟨before ++ connective.symbol :: gap, ?_, before, gap, hb, hg, .inl rfl⟩
    rw [hs, hsymbol, ha]
    simp
  · refine ⟨before ++ connective.symbol :: connective.symbol :: gap, ?_, before, gap, hb,
      hg, .inr rfl⟩
    rw [hs, hsymbol, ha]
    simp

/-- A group read so far: its complete alternatives and the one that may still be extended. -/
inductive Partway : Option FilterTree → FilterTree → List Char → Prop where
  | one {text : List Char} {current : FilterTree} (only : Spells .conjunction text current) :
      Partway none current text
  | more {left join right : List Char} {earlier current : FilterTree}
      (before : Spells .disjunction left earlier)
      (joined : JoinText .or join) (last : Spells .conjunction right current) :
      Partway (some earlier) current (left ++ join ++ right)

namespace Partway

variable {alternatives : Option FilterTree} {current tree : FilterTree} {text join next : List Char}

theorem disjunction (h : Partway alternatives current text) :
    Spells .disjunction text (joinAlternatives alternatives current) := by
  cases h with
  | one only => exact .alternative only
  | more before joined last => exact .either before joined last

theorem extend (h : Partway alternatives current text) {connective : Connective}
    (hj : JoinText connective join) (hn : Spells .item next tree) :
    Partway (extendGroup alternatives current tree connective).1
      (extendGroup alternatives current tree connective).2
      (text ++ join ++ next) := by
  cases connective with
  | or => exact .more h.disjunction hj (.operand hn)
  | and =>
    cases h with
    | one only => exact .one (.both only hj hn)
    | more before joined last =>
      rw [List.append_assoc, List.append_assoc, ← List.append_assoc _ join next]
      exact .more before joined (.both last hj hn)

end Partway

/-- What an operand takes: white space, then an item. -/
def OperandSpelled (source : Source) (text : List Char) : Prop :=
  ∀ tree rest, operand source text = .ok (tree, rest) →
    ∃ before taken, text = before ++ (taken ++ rest) ∧ Text.Blank before ∧ Spells .item taken tree

/-- What a group takes, from any point inside it: the rest of a disjunction, white space and a
parenthesis. -/
def GroupSpelled (source : Source) (text : List Char) : Prop :=
  ∀ alternatives current tree rest, group source alternatives current text = .ok (tree, rest) →
    ∀ said, Partway alternatives current said →
      ∃ body after, text = body ++ (after ++ ')' :: rest) ∧
      Text.Blank after ∧ Spells .disjunction (said ++ body) tree

theorem operand_spelled {text source : List Char}
    (ho : ∀ inner : List Char, inner.length < text.length → OperandSpelled ⟨.braces, source⟩ inner)
    (hg : ∀ inner : List Char, inner.length < text.length → GroupSpelled ⟨.braces, source⟩ inner) :
    OperandSpelled ⟨.braces, source⟩ text := by
  intro tree rest h
  obtain ⟨before, hb, hs⟩ := Text.exists_blanks text
  have hlen := Text.skip_blanks_length_le text
  by_cases hp : ∃ inner, Text.skipBlanks text = '(' :: inner
  · obtain ⟨inner, hp⟩ := hp
    rw [hp, List.length_cons] at hlen
    rw [operand_open hp] at h
    obtain ⟨⟨first, tail⟩, hf, hrest⟩ := bind_eq_ok h
    have htail := operand_length_lt hf
    obtain ⟨opening, taken, rfl, hopening, hitem⟩ := ho inner (by omega) first tail hf
    obtain ⟨body, after, rfl, hafter, hd⟩ :=
      hg tail (by omega) none first tree rest hrest taken (.one (.operand hitem))
    refine ⟨before, '(' :: (opening ++ (taken ++ body) ++ after ++ [')']), ?_, hb,
      .group hopening hd hafter⟩
    rw [hs, hp]
    simp
  · have hp : ∀ inner, Text.skipBlanks text ≠ '(' :: inner := fun inner hi => hp ⟨inner, hi⟩
    rw [operand_condition hp] at h
    obtain ⟨⟨condition, tail⟩, hc, h⟩ := map_eq_ok h
    cases h
    obtain ⟨taken, ht, hread⟩ := read_condition_append hc
    exact ⟨before, taken, by rw [← ht]; exact hs, hb, .term (hread.alone taken)⟩

theorem group_spelled {text source : List Char}
    (ho : ∀ inner : List Char, inner.length < text.length → OperandSpelled ⟨.braces, source⟩ inner)
    (hg : ∀ inner : List Char, inner.length < text.length → GroupSpelled ⟨.braces, source⟩ inner) :
    GroupSpelled ⟨.braces, source⟩ text := by
  intro alternatives current tree rest h said hsaid
  rcases group_cases h with ⟨connective, after, hc⟩ | ⟨after, hp⟩
  · have hlen : after.length < text.length :=
      Nat.lt_of_lt_of_le (read_connective_length_lt hc) (Text.skip_blanks_length_le text)
    rw [group_join hc] at h
    obtain ⟨⟨next, tail⟩, hn, h⟩ := bind_eq_ok h
    have htail := operand_length_lt hn
    obtain ⟨gap, taken, hafter, hgap, hitem⟩ := ho after hlen next tail hn
    obtain ⟨join, rfl, hjoin⟩ := connective_join hc hafter hgap
    obtain ⟨body, closing, rfl, hclosing, hd⟩ :=
      hg tail (by omega) _ _ tree rest h _ (hsaid.extend hjoin hitem)
    refine ⟨join ++ (taken ++ body), closing, by simp, hclosing, ?_⟩
    simpa using hd
  · rw [group_close hp] at h
    cases h
    obtain ⟨blanks, hb, hs⟩ := Text.exists_blanks text
    refine ⟨[], blanks, by rw [hs, hp]; rfl, hb, ?_⟩
    rw [List.append_nil]
    exact hsaid.disjunction

theorem all_spelled (source : List Char) (text : List Char) :
    OperandSpelled ⟨.braces, source⟩ text ∧ GroupSpelled ⟨.braces, source⟩ text := by
  induction hn : text.length using Nat.strongRecOn generalizing text with
  | ind n ih =>
    subst hn
    have ho := fun inner h => (ih _ h inner rfl).1
    have hg := fun inner h => (ih _ h inner rfl).2
    exact ⟨operand_spelled ho hg, group_spelled ho hg⟩

/-- The filters read so far, and then the rest. -/
theorem more_filters_spelled {source text rest said : List Char} {before tree : FilterTree}
    (h : readMoreFilters ⟨.braces, source⟩ before text = .ok (tree, rest))
    (hsaid : Spells .filters said before) :
    ∃ body after, text = body ++ (after ++ rest) ∧ Text.Blank after ∧
      Spells .filters (said ++ body) tree := by
  induction hn : text.length using Nat.strongRecOn generalizing text before said with
  | ind n ih =>
    subst hn
    cases hc : readConnective? (Text.skipBlanks text) with
    | none =>
      rw [more_filters_end hc] at h
      cases h
      obtain ⟨blanks, hb, hs⟩ := Text.exists_blanks text
      exact ⟨[], blanks, hs, hb, by rwa [List.append_nil]⟩
    | some found =>
      obtain ⟨connective, after⟩ := found
      have hlen : after.length < text.length :=
        Nat.lt_of_lt_of_le (read_connective_length_lt hc) (Text.skip_blanks_length_le text)
      rw [more_filters_join hc] at h
      obtain ⟨⟨next, tail⟩, hnext, h⟩ := bind_eq_ok h
      have htail := operand_length_lt hnext
      obtain ⟨gap, taken, hafter, hgap, hitem⟩ := (all_spelled source after).1 next tail hnext
      obtain ⟨join, rfl, hjoin⟩ := connective_join hc hafter hgap
      obtain ⟨body, ending, rfl, hending, hd⟩ :=
        ih tail.length (Nat.lt_trans htail hlen) h (.next hsaid hjoin hitem) rfl
      refine ⟨join ++ (taken ++ body), ending, by simp, hending, ?_⟩
      simpa using hd

theorem filters_spelled {source text rest : List Char} {tree : FilterTree}
    (h : readFilters ⟨.braces, source⟩ text = .ok (tree, rest)) :
    ∃ before inner after, text = before ++ (inner ++ (after ++ rest)) ∧ Text.Blank before ∧
      Text.Blank after ∧
      Spells .filters inner tree := by
  rw [filters_eq] at h
  obtain ⟨⟨first, tail⟩, hf, hrest⟩ := bind_eq_ok h
  obtain ⟨before, taken, rfl, hb, hitem⟩ := (all_spelled source text).1 first tail hf
  obtain ⟨body, after, rfl, ha, hs⟩ := more_filters_spelled hrest (.first hitem)
  exact ⟨before, taken ++ body, after, by simp, hb, ha, hs⟩

theorem blank_of_expect_end {text : List Char} {u : Unit} (h : expectEnd text = .ok u) :
    Text.Blank text := by
  apply Text.blank_of_skip_blanks
  unfold expectEnd at h
  split at h
  · rename_i hskip
    rw [hskip]
    exact Text.blank_nil
  · cases h

theorem expect_end_blank {text : List Char} (h : Text.Blank text) : expectEnd text = .ok () := by
  simp [expectEnd, Text.skip_blanks_blank h]

/-- Filters with white space around them are read whole. -/
theorem SpellsFilters.read {text : List Char} {tree : FilterTree} (h : SpellsFilters text tree)
    (source : List Char) : readFilters ⟨.braces, source⟩ text = .ok (tree, []) := by
  obtain ⟨before, inner, after, hb, ha, rfl, h⟩ := h
  have hskip := Text.skip_blanks_blank ha
  have hend : Ends isWordChar after := by
    have := ends_of_blank ha (ends_nil isWordChar)
    rwa [List.append_nil] at this
  rw [List.append_assoc, h.reads source before after hb hend,
    more_filters_end (by rw [hskip]; rfl), hskip]

theorem read_query_filters {marker : Marker} (text : List Char) :
    readQuery ⟨marker, '/' :: 'r' :: '?' :: text⟩ =
      (readFilters ⟨marker, '/' :: 'r' :: '?' :: text⟩ text).bind fun (tree, rest) =>
        (expectEnd rest).bind fun _ => .ok { path := "/r", filters := tree.tokens } := by
  show ((readFilters ⟨marker, '/' :: 'r' :: '?' :: text⟩ text).map _).bind _ = _
  cases readFilters ⟨marker, '/' :: 'r' :: '?' :: text⟩ text with
  | error failure => rfl
  | ok result => rfl

end PathQuery
