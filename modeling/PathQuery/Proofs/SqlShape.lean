import Mathlib.Data.List.Forall2
import PathQuery.Proofs.Resolution
import PathQuery.Proofs.SqlTokens
import PathQuery.Proofs.Streams

namespace PathQuery.Sql

/-- The segments of a path as identifiers with dots between them. -/
def columnTokens (path : String) : List Token :=
  [Token.dot].intercalate ((segments path).map fun segment => [.identifier segment])

/-- The columns of a query; all of them if it names none. -/
def fieldTokens (fields : List String) : List Token :=
  if fields = [] then [.operator "*"] else [Token.comma].intercalate (fields.map columnTokens)

/-- The name of a table: the last part of a path that is not empty. -/
def tableName? (path : String) : Option String :=
  (((Text.splitOn '/' path.toList).filter (· ≠ [])).getLast?).map String.ofList

/-- A table, in a schema if the query has a collection. -/
def tableTokens (collection : Option String) (name : String) : List Token :=
  match collection with
  | some schema => [.identifier schema, .dot, .identifier name]
  | none => [.identifier name]

def valueToken : Literal → Token
  | .null => .word "NULL"
  | .bool value => .word (if value then "TRUE" else "FALSE")
  | .number n => .number (String.ofList (numberText n))
  | .string text => .string text
  | .template text => .string text
  | .regex pattern _ => .string pattern

/-- The token of a number is decimal text that reads back as the number; only a zero loses its
sign. -/
def NumberKept (literal : Literal) : Prop :=
  ∀ n, literal = .number n → ∃ text, valueToken literal = .number text ∧
    readNumberWord? text.toList = some n.plainZero ∧ n.plainZero.sameNumber n = true

def operatorToken : Comparator → Token
  | .eq => .operator "="
  | .ne => .operator "<>"
  | .gt => .operator ">"
  | .ge => .operator ">="
  | .lt => .operator "<"
  | .le => .operator "<="
  | .matches => .operator "~"

/-- A comparison behind its column. -/
def comparisonTokens : Comparator → Literal → List Token
  | .eq, .null => [.word "IS", .word "NULL"]
  | .ne, .null => [.word "IS", .word "NOT", .word "NULL"]
  | .matches, .regex pattern flags =>
    [.operator (if flags.toList.contains 'i' then "~*" else "~"), .string pattern]
  | comparator, value => [operatorToken comparator, valueToken value]

def conditionTokens (c : Condition) : List Token :=
  columnTokens c.key ++ comparisonTokens c.comparator c.value

def connectiveToken : Connective → Token
  | .and => .word "AND"
  | .or => .word "OR"

/-- A tree of filters, every join between parentheses. -/
def treeTokens : FilterTree → List Token
  | .leaf c => conditionTokens c
  | .join connective left right =>
    .opening :: (treeTokens left ++ connectiveToken connective :: treeTokens right ++ [.closing])

def orderTokens (sort : List SortTerm) : List Token :=
  if sort = [] then []
  else .word "ORDER" :: .word "BY" :: [Token.comma].intercalate (sort.map fun term =>
    columnTokens term.key ++
      [.word (match term.order with | .ascending => "ASC" | .descending => "DESC")])

/-- Identifiers with dots between them, with anything but a quote behind them. -/
theorem scan_dotted {names : List String} (hne : names ≠ []) {rest : List Char}
    (hr : rest.head? ≠ some '"') :
    scan .nothing ((".".intercalate (names.map identifier)).toList ++ rest) =
      (scan .nothing rest).map fun more =>
        [Token.dot].intercalate (names.map fun name => [.identifier name]) ++ more := by
  have hone : ∀ (name : String) {rest : List Char}, rest.head? ≠ some '"' →
      scan .nothing ((identifier name).toList ++ rest) =
        (scan .nothing rest).map fun more => [.identifier name] ++ more := by
    intro name rest hr
    rw [identifier, String.toList_ofList, scan_quote (.inl rfl) hr, if_pos rfl,
      String.ofList_toList]
  induction names with
  | nil => exact absurd rfl hne
  | cons name more ih =>
    cases more with
    | nil => simpa using hone name hr
    | cons next more =>
      have ht : (".".intercalate ((name :: next :: more).map identifier)).toList ++ rest =
          (identifier name).toList ++ '.' ::
            ((".".intercalate ((next :: more).map identifier)).toList ++ rest) := by
        simp
      rw [ht, hone name (by simp), @scan_separator '.' [.dot] rfl, ih (by simp), Option.map_map,
        Option.map_map]
      simp [Function.comp_def]

theorem stops_not_quote {rest : List Char} (h : Stops rest) {mark : Char}
    (hm : mark = '"' ∨ mark = '\'') : rest.head? ≠ some mark := by
  intro hc
  rcases h mark hc with rfl | rfl | rfl <;> rcases hm with hm | hm <;> cases hm

theorem lexes_column (path : String) : Lexes (column path) (columnTokens path) := by
  intro rest hr
  exact scan_dotted (segments_ne_nil path) (stops_not_quote hr (.inl rfl))

theorem lexes_string (text : String) : Lexes (stringLiteral text) [.string text] := by
  intro rest hr
  rw [stringLiteral, String.toList_ofList, scan_quote (.inr rfl) (stops_not_quote hr (.inr rfl)),
    String.ofList_toList]
  rfl

theorem lexes_value {literal : Literal} (h : literal.IsFinite) :
    Lexes (value literal) [valueToken literal] := by
  cases literal with
  | null => exact lexes_word (by decide)
  | bool b =>
    cases b with
    | true => exact lexes_word (by decide)
    | false => exact lexes_word (by decide)
  | number n =>
    obtain ⟨negative, body, hb, ht⟩ := number_text_form (h n rfl)
    have hn := lexes_number hb negative
    rw [← ht] at hn
    exact hn
  | string text => exact lexes_string text
  | template text => exact lexes_string text
  | regex pattern flags => exact lexes_string pattern

theorem number_kept {literal : Literal} (h : literal.IsFinite) : NumberKept literal := by
  rintro n rfl
  have hn : n.isFinite = true := h n rfl
  refine ⟨_, rfl, ?_, Binary64.plain_zero_same hn⟩
  rw [String.toList_ofList]
  exact read_number_text hn

theorem lexes_comparator (comparator : Comparator) :
    Lexes (comparatorSymbol comparator) [operatorToken comparator] := by
  cases comparator <;> exact lexes_operator (by decide)

/-- What is compared with null, in both ways. -/
theorem lexes_null {left : String} {tokens : List Token} (h : Lexes left tokens) :
    Lexes (left ++ " IS NULL") (tokens ++ [.word "IS", .word "NULL"]) ∧
      Lexes (left ++ " IS NOT NULL") (tokens ++ [.word "IS", .word "NOT", .word "NULL"]) := by
  have his : Lexes "IS" [.word "IS"] := lexes_word (by decide)
  have hnot : Lexes "NOT" [.word "NOT"] := lexes_word (by decide)
  have hnull : Lexes "NULL" [.word "NULL"] := lexes_word (by decide)
  exact ⟨h.separated (his.space hnull) (.inl rfl) rfl (by simp),
    h.separated ((his.space hnot).space hnull) (.inl rfl) rfl (by simp)⟩

theorem comparison_tokens_plain {comparator : Comparator} {literal : Literal}
    (hc : comparator ≠ .matches) (hv : literal ≠ .null) :
    comparisonTokens comparator literal = [operatorToken comparator, valueToken literal] := by
  unfold comparisonTokens
  split
  · exact absurd rfl hv
  · exact absurd rfl hv
  · exact absurd rfl hc
  · rfl

theorem lexes_condition {c : Condition} {text : String} (h : condition c = .ok text)
    (hf : c.value.IsFinite) : Lexes text (conditionTokens c) := by
  have hcolumn := lexes_column c.key
  unfold condition at h
  unfold conditionTokens
  dsimp only at h
  split at h
  · cases h
  · rename_i hc hv
    cases h
    rw [hc, hv]
    exact (lexes_null hcolumn).1
  · rename_i hc hv
    cases h
    rw [hc, hv]
    exact (lexes_null hcolumn).2
  · cases h
  · rename_i pattern flags hc hv
    cases h
    rw [hc, hv]
    have hoperator : Lexes (if flags.toList.contains 'i' then "~*" else "~")
        [.operator (if flags.toList.contains 'i' then "~*" else "~")] := by
      split <;> exact lexes_operator (by decide)
    have hall := (hcolumn.space hoperator).space (lexes_string pattern)
    rw [List.append_assoc] at hall
    exact hall
  · rename_i pattern hc hv
    cases h
    rw [hc, hv]
    have hmatch : Lexes ("~" ++ " " ++ stringLiteral pattern) [.operator "~", .string pattern] :=
      (lexes_operator (by decide)).space (lexes_string pattern)
    exact hcolumn.separated hmatch (.inl rfl) rfl (by simp)
  · cases h
  · cases h
  · rename_i hmatches _ hnull _ _ _ _ _
    cases h
    have hall := (hcolumn.space (lexes_comparator c.comparator)).space (lexes_value hf)
    rw [List.append_assoc] at hall
    rw [comparison_tokens_plain hmatches hnull]
    exact hall

theorem lexes_connective (connective : Connective) :
    Lexes (connectiveKeyword connective) [connectiveToken connective] := by
  cases connective <;> exact lexes_word (by decide)

theorem lexes_tree {tree : FilterTree} {text : String}
    (h : tree.tryFold condition joinConditions = .ok text)
    (hf : tree.All fun c => c.value.IsFinite) : Lexes text (treeTokens tree) := by
  induction tree generalizing text with
  | leaf c => exact lexes_condition h hf
  | join connective left right ihl ihr =>
    obtain ⟨a, ha, h⟩ := bind_eq_ok h
    obtain ⟨b, hb, h⟩ := bind_eq_ok h
    cases h
    have hl := ihl ha hf.1
    have hr := ihr hb hf.2
    have hinner := ((hl.space (lexes_connective connective)).space hr).parentheses
    rw [List.append_assoc (treeTokens left)] at hinner
    have ht : joinConditions connective a b =
        "(" ++ (a ++ " " ++ connectiveKeyword connective ++ " " ++ b) ++ ")" := by
      simp [joinConditions, String.append_assoc]
    rw [ht]
    simpa [treeTokens] using hinner

/-- What parentheses enclose: tokens without structure, or two parts and what joins them. -/
inductive Nested where
  | plain (tokens : List Token)
  | join (connective : Connective) (left right : Nested)
deriving DecidableEq, Repr

/-- The parts a reader is in: those opened, with the left side and the connective once they are
read, and the part it has just read. -/
structure Reading where
  around : List (Option (Nested × Connective))
  current : Option Nested

def connective? : Token → Option Connective
  | .word "AND" => some .and
  | .word "OR" => some .or
  | _ => none

/-- One more token. -/
def Reading.step (reading : Reading) (token : Token) : Option Reading :=
  match token, reading with
  | .opening, ⟨around, none⟩ => some ⟨none :: around, none⟩
  | .opening, _ => none
  | .closing, ⟨some (left, connective) :: around, some right⟩ =>
    some ⟨around, some (.join connective left right)⟩
  | .closing, _ => none
  | token, ⟨around, current⟩ =>
    match connective? token, around, current with
    | some connective, none :: around, some left => some ⟨some (left, connective) :: around, none⟩
    | some _, _, _ => none
    | none, around, none => some ⟨around, some (.plain [token])⟩
    | none, around, some (.plain tokens) => some ⟨around, some (.plain (tokens ++ [token]))⟩
    | none, _, some (.join ..) => none

/-- Tokens read by their parentheses. -/
def readNested (tokens : List Token) : Option Nested :=
  match tokens.foldlM Reading.step ⟨[], none⟩ with
  | some ⟨[], some nested⟩ => some nested
  | _ => none

/-- A tree of filters with the tokens of its conditions. -/
def nestedTree : FilterTree → Nested
  | .leaf c => .plain (conditionTokens c)
  | .join connective left right => .join connective (nestedTree left) (nestedTree right)

/-- Whether a token is neither a parenthesis nor a connective. -/
def Token.IsPlain (token : Token) : Prop :=
  token ≠ .opening ∧ token ≠ .closing ∧ connective? token = none

theorem step_plain {token : Token} (h : token.IsPlain)
    (around : List (Option (Nested × Connective))) :
    Reading.step ⟨around, none⟩ token = some ⟨around, some (.plain [token])⟩ ∧
      ∀ tokens, Reading.step ⟨around, some (.plain tokens)⟩ token =
        some ⟨around, some (.plain (tokens ++ [token]))⟩ := by
  obtain ⟨ho, hc, hn⟩ := h
  cases token <;> simp_all [Reading.step]

theorem step_connective (connective : Connective) (around : List (Option (Nested × Connective)))
    (left : Nested) :
    Reading.step ⟨none :: around, some left⟩ (connectiveToken connective) =
      some ⟨some (left, connective) :: around, none⟩ := by
  cases connective <;> rfl

theorem read_plain {tokens : List Token} (hne : tokens ≠ []) (h : ∀ token ∈ tokens, token.IsPlain)
    (around : List (Option (Nested × Connective))) :
    tokens.foldlM Reading.step ⟨around, none⟩ = some ⟨around, some (.plain tokens)⟩ := by
  have hmore : ∀ (before more : List Token), (∀ token ∈ more, token.IsPlain) →
      more.foldlM Reading.step ⟨around, some (.plain before)⟩ =
        some ⟨around, some (.plain (before ++ more))⟩ := by
    intro before more hm
    induction more generalizing before with
    | nil => simp
    | cons token more ih =>
      rw [List.foldlM_cons, (step_plain (hm token List.mem_cons_self) around).2]
      show more.foldlM _ _ = _
      rw [ih _ fun other ho => hm other (List.mem_cons_of_mem token ho), List.append_assoc,
        List.singleton_append]
  obtain ⟨token, more, rfl⟩ := List.exists_cons_of_ne_nil hne
  rw [List.foldlM_cons, (step_plain (h token List.mem_cons_self) around).1]
  exact hmore [token] more fun other ho => h other (List.mem_cons_of_mem token ho)

theorem plain_column (path : String) :
    columnTokens path ≠ [] ∧ ∀ token ∈ columnTokens path, token.IsPlain := by
  have hdotted : ∀ names : List String, names ≠ [] →
      [Token.dot].intercalate (names.map fun name => [.identifier name]) ≠ [] ∧
        ∀ token ∈ [Token.dot].intercalate (names.map fun name => [.identifier name]),
        token.IsPlain := by
    intro names hne
    induction names with
    | nil => exact absurd rfl hne
    | cons name more ih =>
      cases more with
      | nil => simp [Token.IsPlain, connective?]
      | cons next more =>
        obtain ⟨_, hmore⟩ := ih (by simp)
        refine ⟨by simp, ?_⟩
        intro token ht
        simp only [List.map_cons, List.intercalate_cons_cons, List.mem_append,
          List.mem_singleton] at ht
        rcases ht with (rfl | rfl) | ht
        · exact ⟨by simp, by simp, rfl⟩
        · exact ⟨by simp, by simp, rfl⟩
        · exact hmore token ht
  exact hdotted (segments path) (segments_ne_nil path)

theorem plain_value (value : Literal) : (valueToken value).IsPlain := by
  cases value with
  | bool b => cases b <;> exact ⟨by simp [valueToken], by simp [valueToken], rfl⟩
  | _ => exact ⟨by simp [valueToken], by simp [valueToken], rfl⟩

theorem plain_comparison (comparator : Comparator) (value : Literal) :
    ∀ token ∈ comparisonTokens comparator value, token.IsPlain := by
  intro token ht
  unfold comparisonTokens at ht
  split at ht
  · simp only [List.mem_cons, List.not_mem_nil, or_false] at ht
    rcases ht with rfl | rfl <;> exact ⟨by simp, by simp, rfl⟩
  · simp only [List.mem_cons, List.not_mem_nil, or_false] at ht
    rcases ht with rfl | rfl | rfl <;> exact ⟨by simp, by simp, rfl⟩
  · simp only [List.mem_cons, List.not_mem_nil, or_false] at ht
    rcases ht with rfl | rfl <;> exact ⟨by simp, by simp, rfl⟩
  · simp only [List.mem_cons, List.not_mem_nil, or_false] at ht
    rcases ht with rfl | rfl
    · cases comparator <;> exact ⟨by simp [operatorToken], by simp [operatorToken], rfl⟩
    · exact plain_value value

theorem plain_condition (c : Condition) :
    conditionTokens c ≠ [] ∧ ∀ token ∈ conditionTokens c, token.IsPlain := by
  obtain ⟨hne, hcolumn⟩ := plain_column c.key
  refine ⟨by simp [conditionTokens, hne], ?_⟩
  intro token ht
  rcases List.mem_append.mp ht with ht | ht
  · exact hcolumn token ht
  · exact plain_comparison c.comparator c.value token ht

theorem read_tree (tree : FilterTree) (around : List (Option (Nested × Connective))) :
    (treeTokens tree).foldlM Reading.step ⟨around, none⟩ =
      some ⟨around, some (nestedTree tree)⟩ := by
  induction tree generalizing around with
  | leaf c => exact read_plain (plain_condition c).1 (plain_condition c).2 around
  | join connective left right ihl ihr =>
    have hl := ihl (none :: around)
    have hr := ihr (some (nestedTree left, connective) :: around)
    rw [treeTokens, List.foldlM_cons]
    show (treeTokens left ++ connectiveToken connective :: treeTokens right ++
      [Token.closing]).foldlM Reading.step
      ⟨none :: around, none⟩ = _
    rw [List.foldlM_append, List.foldlM_append, hl]
    show ((connectiveToken connective :: treeTokens right).foldlM Reading.step
      ⟨none :: around, some (nestedTree left)⟩ >>= _) = _
    rw [List.foldlM_cons, step_connective]
    show ((treeTokens right).foldlM Reading.step
      ⟨some (nestedTree left, connective) :: around, none⟩ >>= _) = _
    rw [hr]
    rfl

/-- The tokens of a tree, read by their parentheses, are the tree. -/
theorem read_nested_tree (tree : FilterTree) :
    readNested (treeTokens tree) = some (nestedTree tree) := by
  rw [readNested, read_tree]

/-- The filters of a query behind `WHERE`: the tree their stream stands for, which is also what the
parentheses say, with numbers that read back. -/
def FilterTokens (filters : List FilterToken) (tokens : List Token) : Prop :=
  (filters = [] ∧ tokens = []) ∨ (filters ≠ [] ∧ ∃ tree : FilterTree, ∃ body,
    tree.tokens = FilterStream.strict filters ∧ body = treeTokens tree ∧
      (tree.All fun c => NumberKept c.value) ∧ readNested body = some (nestedTree tree) ∧
      tokens = .word "WHERE" :: body)

/-- The limit of a query, a count from the start. -/
def LimitTokens (limit : Option String) (tokens : List Token) : Prop :=
  (limit = none ∧ tokens = []) ∨ ∃ (text : String) (n : Nat), limit = some text ∧
    parseLimit text = .ok n ∧
    tokens = [.word "LIMIT", .number (toString n)]

/-- The tokens that a query without placeholders dictates. -/
def Dictates (query : Query) (tokens : List Token) : Prop :=
  ∃ name filter limit, tableName? query.path = some name ∧ FilterTokens query.filters filter ∧
    LimitTokens query.limit limit ∧
    tokens = .word "SELECT" :: fieldTokens query.fields ++ .word "FROM" ::
      tableTokens query.collection name
      ++ filter ++ orderTokens query.sort ++ limit

/-- A clause with its keyword, or no clause. -/
def ClauseLexes (keyword : List Token) (part : Option String) (tokens : List Token) : Prop :=
  (part = none ∧ tokens = []) ∨ ∃ text body, part = some text ∧ Lexes text body ∧
    tokens = keyword ++ body

theorem lexes_spaces {texts : List String} {groups : List (List Token)}
    (h : List.Forall₂ Lexes texts groups) : Lexes (" ".intercalate texts) groups.flatten := by
  induction h with
  | nil => exact .nil
  | @cons text tokens texts groups ht hrest ih =>
    cases hrest with
    | nil => simpa using ht
    | cons _ _ =>
      rw [String.intercalate_cons_cons, List.flatten_cons]
      exact ht.space ih

theorem ClauseLexes.groups {keyword : String} {words : List Token} (hk : Lexes keyword words)
    {part : Option String} {tokens : List Token} (h : ClauseLexes words part tokens) :
    ∃ groups, groups.flatten = tokens ∧
      List.Forall₂ Lexes (part.toList.map fun text => keyword ++ " " ++ text) groups := by
  rcases h with ⟨rfl, rfl⟩ | ⟨text, body, rfl, hb, rfl⟩
  · exact ⟨[], rfl, .nil⟩
  · exact ⟨[words ++ body], by simp, .cons (hk.space hb) .nil⟩

theorem lexes_statement {statement : Statement} {columns table filter order limit : List Token}
    (hc : Lexes (statement.columns.getD "*") columns) (ht : Lexes statement.table table)
    (hf : ClauseLexes [.word "WHERE"] statement.filter filter)
    (ho : ClauseLexes [.word "ORDER", .word "BY"] statement.order order)
    (hl : ClauseLexes [.word "LIMIT"] (statement.limit.map toString) limit) :
    Lexes statement.text
      (.word "SELECT" :: columns ++ .word "FROM" :: table ++ filter ++ order ++ limit) := by
  have hselect : Lexes "SELECT" [.word "SELECT"] := lexes_word (by decide)
  have hfrom : Lexes "FROM" [.word "FROM"] := lexes_word (by decide)
  have hwhere : Lexes "WHERE" [.word "WHERE"] := lexes_word (by decide)
  have horder : Lexes ("ORDER" ++ " " ++ "BY") [.word "ORDER", .word "BY"] :=
    (lexes_word (by decide)).space (lexes_word (by decide))
  have hlimit : Lexes "LIMIT" [.word "LIMIT"] := lexes_word (by decide)
  obtain ⟨filters, rfl, hfilters⟩ := hf.groups hwhere
  obtain ⟨orders, rfl, horders⟩ := ho.groups horder
  obtain ⟨limits, rfl, hlimits⟩ := hl.groups hlimit
  have hhead :
      List.Forall₂ Lexes ["SELECT" ++ " " ++ statement.columns.getD "*",
      "FROM" ++ " " ++ statement.table]
      [[.word "SELECT"] ++ columns, [.word "FROM"] ++ table] :=
    .cons (hselect.space hc) (.cons (hfrom.space ht) .nil)
  have hall :=
    lexes_spaces
    (List.rel_append (List.rel_append (List.rel_append hhead hfilters) horders) hlimits)
  have hwords : "SELECT" ++ " " = "SELECT " ∧ "FROM" ++ " " = "FROM " ∧
      "ORDER" ++ " " ++ "BY" = "ORDER BY" := by
    decide
  rw [hwords.1, hwords.2.1, hwords.2.2] at hall
  rw [Statement.text]
  simpa using hall

theorem table_lexes {query : Query} {text : String} (h : table query = .ok text) :
    ∃ name, tableName? query.path = some name ∧ Lexes text (tableTokens query.collection name) := by
  unfold table at h
  split at h
  · cases h
  · rename_i name hn
    have hname : tableName? query.path = some (String.ofList name) := by
      rw [tableName?, hn]
      rfl
    refine ⟨String.ofList name, hname, ?_⟩
    cases hc : query.collection with
    | none =>
      rw [hc] at h
      cases h
      intro rest hr
      have hscan := @scan_dotted [String.ofList name] (by simp) rest (stops_not_quote hr (.inl rfl))
      simpa [tableTokens] using hscan
    | some schema =>
      rw [hc] at h
      cases h
      intro rest hr
      have hscan :=
        @scan_dotted [schema, String.ofList name] (by simp) rest (stops_not_quote hr (.inl rfl))
      simpa [tableTokens, String.append_assoc] using hscan

section Clauses

variable {marker : Marker} {context : Context}

theorem columns_lex {fields : List String} {bound : Option (Context → Except Error String)}
    {columns : Option String}
    (hb : bindOption marker (fun fields => .ok (columnsText fields)) (nonempty? fields) = .ok bound)
    (hv : resolve context bound = .ok columns) :
    ∃ resolved, marker.resolve context fields = .ok resolved ∧
      Lexes (columns.getD "*") (fieldTokens resolved) := by
  rcases bind_option_resolve hb hv with ⟨rfl, rfl⟩ | ⟨hne, resolved, made, hr, hm, rfl⟩
  · exact ⟨[], rfl, lexes_operator (by decide)⟩
  · cases hm
    refine ⟨resolved, hr, ?_⟩
    have hresolved : resolved ≠ [] := resolve_ne_nil (fun _ _ => rfl) hr hne
    rw [fieldTokens, if_neg hresolved]
    exact .commas fun field _ => lexes_column field

theorem order_lex {sort : List SortTerm} {bound : Option (Context → Except Error String)}
    {order : Option String}
    (hb : bindOption marker (fun terms => .ok (orderText terms)) (nonempty? sort) = .ok bound)
    (hv : resolve context bound = .ok order) :
    ∃ resolved, marker.resolve context sort = .ok resolved ∧
      ClauseLexes [.word "ORDER", .word "BY"] order (orderTokens resolved) := by
  rcases bind_option_resolve hb hv with ⟨rfl, rfl⟩ | ⟨hne, resolved, made, hr, hm, rfl⟩
  · exact ⟨[], rfl, .inl ⟨rfl, rfl⟩⟩
  · cases hm
    have hresolved : resolved ≠ [] := resolve_ne_nil (fun _ _ => rfl) hr hne
    refine ⟨resolved, hr, .inr ⟨_, _, rfl, .commas ?_, by rw [orderTokens, if_neg hresolved]; rfl⟩⟩
    intro term _
    refine (lexes_column term.key).space ?_
    cases term.order <;> exact lexes_word (by decide)

theorem filter_lex {filters : List FilterToken} {bound : Option (Context → Except Error String)}
    {filter : Option String} (hf : ∀ c, .condition c ∈ filters → c.value.IsFinite)
    (hb : bindFilters marker whereText filters = .ok bound)
    (hv : resolve context bound = .ok filter) :
    ∃ resolved tokens, marker.resolve context filters = .ok resolved ∧
      FilterTokens resolved tokens ∧
      ClauseLexes [.word "WHERE"] filter tokens := by
  rcases bind_filters_resolve hb hv with ⟨rfl, rfl⟩ | ⟨hne, resolved, made, hr, hm, rfl⟩
  · exact ⟨[], [], rfl, .inl ⟨rfl, rfl⟩, .inl ⟨rfl, rfl⟩⟩
  · have hresolved : resolved ≠ [] := resolve_ne_nil (fun _ _ => rfl) hr hne
    obtain ⟨depth, hcheck⟩ : ∃ depth, FilterStream.check resolved = .ok depth := by
      unfold whereText FilterStream.fold at hm
      split at hm
      · cases hm
      · exact ⟨_, ‹_›⟩
    obtain ⟨tree, ht, hfold⟩ := FilterStream.exists_tree hcheck
    rw [whereText, hfold] at hm
    have hfinite : tree.All fun c => c.value.IsFinite := by
      refine FilterTree.all_iff.mpr fun c hc => resolve_filters_finite hf hr c ?_
      rw [ht] at hc
      exact FilterStream.condition_mem_strict.mp hc
    have hkept : tree.All fun c => NumberKept c.value :=
      FilterTree.all_iff.mpr fun c hc => number_kept (FilterTree.all_iff.mp hfinite c hc)
    exact ⟨resolved, .word "WHERE" :: treeTokens tree, hr,
      .inr ⟨hresolved, tree, _, ht, rfl, hkept, read_nested_tree tree, rfl⟩,
      .inr ⟨made, _, rfl, lexes_tree hm hfinite, rfl⟩⟩

theorem lexes_natural (n : Nat) : Lexes (toString n) [.number (toString n)] :=
  lexes_number (Decimal.digits_unsigned n) false

theorem limit_lex {limit : Option String} {bound : Option (Context → Except Error Int)}
    {count : Option Int}
    (hb : bindOption marker Sql.limit limit = .ok bound) (hv : resolve context bound = .ok count) :
    ∃ resolved tokens, limit.mapM (marker.resolve context) = .ok resolved ∧
      LimitTokens resolved tokens ∧
      ClauseLexes [.word "LIMIT"] (count.map toString) tokens := by
  obtain ⟨resolved, hr, h⟩ := bind_limit_resolve hb hv
  rcases h with ⟨rfl, rfl⟩ | ⟨text, made, rfl, hm, rfl⟩
  · exact ⟨none, [], hr, .inl ⟨rfl, rfl⟩, .inl ⟨rfl, rfl⟩⟩
  · obtain ⟨n, hn, hm⟩ := bind_eq_ok hm
    split at hm
    · cases hm
    · rename_i hpos
      cases hm
      obtain ⟨k, rfl⟩ := Int.eq_ofNat_of_zero_le (Int.not_lt.mp hpos)
      exact ⟨some text, [.word "LIMIT", .number (toString k)], hr, .inr ⟨text, k, rfl, hn, rfl⟩,
        .inr ⟨toString k, _, rfl, lexes_natural k, rfl⟩⟩

end Clauses

/-- A compiled query, translated for a context, is a statement that is cut into exactly the tokens
its resolved query dictates. -/
theorem lex_translated (query : Query) (marker : Marker) (context : Context) (plan : Plan)
    (backend : BackendQuery) (hf : ∀ c, .condition c ∈ query.filters → c.value.IsFinite)
    (hc : compile query marker = .ok plan) (ht : plan context = .ok backend) :
    ∃ text resolved tokens, backend = .text text ∧ query.resolve marker context = .ok resolved ∧
      lex text = some tokens ∧ Dictates resolved tokens := by
  obtain ⟨table, htable, hc⟩ := bind_eq_ok hc
  obtain ⟨columnsBound, hcolumnsBound, hc⟩ := bind_eq_ok hc
  obtain ⟨filterBound, hfilterBound, hc⟩ := bind_eq_ok hc
  obtain ⟨orderBound, horderBound, hc⟩ := bind_eq_ok hc
  obtain ⟨limitBound, hlimitBound, hc⟩ := bind_eq_ok hc
  cases hc
  obtain ⟨columns, hcolumns, ht⟩ := bind_eq_ok ht
  obtain ⟨filter, hfilter, ht⟩ := bind_eq_ok ht
  obtain ⟨order, horder, ht⟩ := bind_eq_ok ht
  obtain ⟨limit, hlimit, ht⟩ := bind_eq_ok ht
  cases ht
  obtain ⟨name, hname, htableLex⟩ := table_lexes htable
  obtain ⟨fields, hfields, hcolumnsLex⟩ := columns_lex hcolumnsBound hcolumns
  obtain ⟨filters, filterTokens, hfilters, hfilterTokens, hfilterLex⟩ :=
    filter_lex hf hfilterBound hfilter
  obtain ⟨sort, hsort, horderLex⟩ := order_lex horderBound horder
  obtain ⟨limits, limitTokens, hlimits, hlimitTokens, hlimitLex⟩ := limit_lex hlimitBound hlimit
  have hstatement := @lexes_statement ⟨columns, table, filter, order, limit⟩ _ _ _ _ _ hcolumnsLex
    htableLex hfilterLex
    horderLex hlimitLex
  refine ⟨_, { query with fields := fields, filters := filters, sort := sort, limit := limits }, _,
    rfl, ?_, hstatement.lex, name, filterTokens, limitTokens, hname, hfilterTokens,
    hlimitTokens, rfl⟩
  simp [Query.resolve, hfields, hfilters, hsort, hlimits, bind, Except.bind, pure, Except.pure]

theorem text_minus_one :
    numberText (.finite true Binary64.unit Binary64.fits_unit) = ['-', '1'] := by
  decide +kernel

/-- Quotes, comments and parentheses in names, in strings and in what a placeholder stands for, with
a number among them. -/
theorem lex_translated_quotes : ∃ (query : Query) (context : Context) (plan : Plan)
    (backend : BackendQuery),
    query = ⟨some "a\"b", "/x/t\";--", ["k\".n", "m"],
      [.condition ⟨"a.c", .eq, .template "\x7b\x7bv\x7d\x7d"⟩,
        .condition ⟨"b", .ne, .string "') OR (\\"⟩, .connective .or,
        .condition ⟨"d", .ge, .number (.finite true Binary64.unit Binary64.fits_unit)⟩,
        .connective .and],
      [⟨"s'", .descending⟩], some "\x7b\x7bn\x7d\x7d"⟩ ∧
    context = [("v", .string "\"' -- \""), ("n", .ofNat 5)] ∧
    compile query .braces = .ok plan ∧ plan context = .ok backend ∧
    backend = .text ("SELECT \"k\"\"\".\"n\", \"m\" FROM \"a\"\"b\".\"t\"\";--\" " ++
      "WHERE ((\"a\".\"c\" = ''' -- ' OR \"b\" <> ''') OR (\\') AND \"d\" >= -1) " ++
      "ORDER BY \"s'\" DESC LIMIT 5") ∧
    ∃ text resolved tokens, backend = .text text ∧ query.resolve .braces context = .ok resolved ∧
      lex text = some tokens ∧ Dictates resolved tokens := by
  refine ⟨_, _, _, _, rfl, rfl, rfl, ?translated, rfl,
    lex_translated _ _ _ _ _ ?finite rfl ?translated⟩
  case translated =>
    -- the number is printed by a lemma: its units are too many to be counted here
    refine (rfl : _ = Except.ok (BackendQuery.text _)).trans ?_
    simp only [value, text_minus_one]
    rfl
  case finite =>
    intro c hm n hn
    simp only [List.mem_cons, List.not_mem_nil, reduceCtorEq, or_false, false_or,
      FilterToken.condition.injEq] at hm
    rcases hm with rfl | rfl | rfl <;> cases hn
    rfl

end PathQuery.Sql
