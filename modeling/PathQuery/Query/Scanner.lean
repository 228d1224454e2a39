import PathQuery.Query.Parser

namespace PathQuery

/-- The part of a text between two byte positions. There is none if the positions are out of order,
if one of them is beyond the end, or if one of them is inside a character. -/
def Text.slice? (text : String) (start stop : Nat) : Option String :=
  if start ≤ stop ∧ String.Pos.Raw.IsValid text ⟨start⟩ ∧ String.Pos.Raw.IsValid text ⟨stop⟩ then
    some (String.Pos.Raw.extract text ⟨start⟩ ⟨stop⟩)
  else none

/-- The first placeholder in a text, by the bytes where it starts and ends. The text stands at a
position, after the character `before`. -/
def Marker.findFrom (marker : Marker) (before : Option Char) (position : Nat) :
    List Char → Option (Nat × Nat)
  | [] => (marker.at? before []).map fun _ => (position, position)
  | c :: rest =>
    match marker.at? before (c :: rest) with
    | some occurrence =>
      some (position, position + Text.byteLength ((c :: rest).take occurrence.length))
    | none => marker.findFrom (some c) (position + c.utf8Size) rest

/-- The first placeholder at a byte position of a text or behind it. The position must be one
between characters. -/
def Marker.findAt? (marker : Marker) (text : String) (position : Nat) :
    Option (Option (Nat × Nat)) := do
  let front ← Text.slice? text 0 position
  let rest ← Text.slice? text position text.utf8ByteSize
  return marker.findFrom front.toList.getLast? position rest.toList

/-- A reading by byte positions: it moves the position where it stands, and ends with a result or an
error. It breaks off without either where it takes a slice that there is not. -/
abbrev Scan := ExceptT SyntaxError (StateT Nat Option)

/-- A text read by byte positions, with the marker that tells its placeholders. -/
structure Scanner where
  marker : Marker
  text : String

namespace Scanner

def slice (scanner : Scanner) (start stop : Nat) : Scan String :=
  liftM (Text.slice? scanner.text start stop)

def rest (scanner : Scanner) : Scan String := do
  scanner.slice (← get) scanner.text.utf8ByteSize

def peek (scanner : Scanner) : Scan (Option Char) := do
  return (← scanner.rest).toList.head?

def looksAt (scanner : Scanner) (expected : String) : Scan Bool := do
  return expected.toList.isPrefixOf (← scanner.rest).toList

def bump (scanner : Scanner) : Scan (Option Char) := do
  match ← scanner.peek with
  | some c =>
    modify (· + c.utf8Size)
    return some c
  | none => return none

def eat (scanner : Scanner) (c : Char) : Scan Bool := do
  if (← scanner.peek) = some c then
    modify (· + c.utf8Size)
    return true
  else return false

def eatText (scanner : Scanner) (expected : String) : Scan Bool := do
  if ← scanner.looksAt expected then
    modify (· + expected.utf8ByteSize)
    return true
  else return false

/-- A sign written twice or once. -/
def eatDoubled (scanner : Scanner) (c : Char) : Scan Bool := do
  if ← scanner.eatText (String.ofList [c, c]) then return true
  else scanner.eat c

def skipWhile (scanner : Scanner) (allowed : Char → Bool) : Scan Unit := do
  match ← scanner.peek with
  | some c =>
    if allowed c then
      let _ ← scanner.bump
      scanner |>.skipWhile allowed
    else return ()
  | none => return ()
partial_fixpoint

def skipBlanks (scanner : Scanner) : Scan Unit :=
  scanner.skipWhile Text.isBlank

/-- Fails at a position. What is found there is told by the slice from there on. -/
def failAt (scanner : Scanner) {α : Type} (position : Nat) (expected : Expectation) : Scan α := do
  let rest ← scanner.slice position scanner.text.utf8ByteSize
  throw ⟨position, expected.text scanner.text.toList, rest.toList.head?⟩

def fail (scanner : Scanner) {α : Type} (expected : Expectation) : Scan α := do
  scanner.failAt (← get) expected

/-- Refuses double braces that open no placeholder: they have no name or no end. -/
def refuseBraces (scanner : Scanner) : Scan Bool := do
  if ← scanner.looksAt "\x7b\x7b" then
    let position ← get
    let rest ← scanner.rest
    let inner ← liftM (Text.slice? rest 2 rest.utf8ByteSize)
    if "\x7d\x7d".toList.isPrefixOf inner.toList then
      scanner.failAt (position + 2) .placeholderName
    else
      throw ⟨scanner.text.utf8ByteSize,
        "'\x7d\x7d' closing the placeholder opened at " ++ toString position, none⟩
  else return false

/-- Takes the placeholder at the position, if there is one. -/
def placeholder (scanner : Scanner) : Scan Bool := do
  let position ← get
  let found ← liftM (scanner.marker.findAt? scanner.text position)
  match found.filter fun span => span.1 = position ∧ position < span.2 with
  | some span =>
    set span.2
    return true
  | none =>
    match scanner.marker with
    | .pattern _ => return false
    | .braces => scanner.refuseBraces

/-- Takes placeholders and allowed characters as long as there are any, and tells whether a
placeholder was among them. -/
def run (scanner : Scanner) (allowed : Char → Bool) (templated : Bool) : Scan Bool := do
  if ← scanner.placeholder then scanner |>.run allowed true
  else
    match ← scanner.peek with
    | some c =>
      if allowed c then
        let _ ← scanner.bump
        scanner |>.run allowed templated
      else return templated
    | none => return templated
partial_fixpoint

def path (scanner : Scanner) (what : Expectation) : Scan String := do
  let start ← get
  let templated ← scanner.run isPathChar false
  let written ← scanner.slice start (← get)
  if written.toList = [] ∨ (templated = false ∧ isValidPath written.toList = false) then
    scanner.failAt start what
  else return written

def fields (scanner : Scanner) (sofar : List String) : Scan (List String) := do
  scanner.skipBlanks
  let field ← scanner.path .fieldName
  scanner.skipBlanks
  if ← scanner.eat ',' then scanner |>.fields (sofar ++ [field])
  else if ← scanner.eat '\x7d' then return sofar ++ [field]
  else scanner.fail .fieldsGoOn
partial_fixpoint

/-- The order of the next sort term. Only the first term may do without a sign. -/
def order (scanner : Scanner) (first : Bool) : Scan (Option SortOrder) := do
  if ← scanner.eat '+' then return some .ascending
  else if ← scanner.eat '-' then return some .descending
  else return if first then some .ascending else none

def terms (scanner : Scanner) (sofar : List SortTerm) : Scan (List SortTerm) := do
  match ← scanner.order sofar.isEmpty with
  | some order =>
    let key ← scanner.path .sortField
    scanner |>.terms (sofar ++ [⟨key, order⟩])
  | none => return sofar
partial_fixpoint

/-- The sign of a number, if there is one. -/
def sign (scanner : Scanner) : Scan Unit := do
  if (SortOrder.ofSign? (← scanner.peek)).isSome then
    let _ ← scanner.bump
  else return ()

def limit (scanner : Scanner) : Scan String := do
  let start ← get
  scanner.sign
  let templated ← scanner.run Char.isDigit false
  let written ← scanner.slice start (← get)
  if templated = false ∧ (Number.readInt64? written.toList).isNone then
    scanner.failAt start .limit
  else return written

def equals (scanner : Scanner) : Scan Unit := do
  scanner.skipBlanks
  if ← scanner.eat '=' then scanner.skipBlanks
  else scanner.fail .equals

def option (scanner : Scanner) (query : Query) : Scan Query := do
  let start ← get
  if ← scanner.eatText "sort" then
    if query.sort.isEmpty then
      scanner.equals
      let terms ← scanner.terms []
      return { query with sort := terms }
    else scanner.failAt start .singleSort
  else if ← scanner.eatText "limit" then
    if query.limit.isNone then
      scanner.equals
      let limit ← scanner.limit
      return { query with limit := some limit }
    else scanner.failAt start .singleLimit
  else scanner.fail .option

def options (scanner : Scanner) (query : Query) : Scan Query := do
  scanner.skipBlanks
  let query ← scanner.option query
  scanner.skipBlanks
  if ← scanner.eat ',' then scanner |>.options query
  else if ← scanner.eat ']' then return query
  else scanner.fail .optionsGoOn
partial_fixpoint

/-- The spellings of comparators, each before those that it starts with. -/
def comparators : List (String × Comparator) :=
  [("!=", .ne), ("<>", .ne), (">=", .ge), ("<=", .le), ("=", .eq), (">", .gt), ("<", .lt),
    ("~", .matches)]

def comparatorAmong (scanner : Scanner) : List (String × Comparator) → Scan Comparator
  | [] => scanner.fail .comparator
  | (symbol, comparator) :: others => do
    if ← scanner.eatText symbol then return comparator
    else scanner.comparatorAmong others

def comparator (scanner : Scanner) : Scan Comparator :=
  scanner.comparatorAmong comparators

/-- Reads up to a closing sign. A backslash takes the character behind it along, and `escaped` tells
what the two stand for. -/
def upTo (scanner : Scanner) (closing : Char) (missing : Expectation) (escaped : Char → List Char)
    (sofar : List Char) : Scan (List Char) := do
  match ← scanner.bump with
  | none => scanner.fail missing
  | some c =>
    if c = '\\' then
      match ← scanner.bump with
      | none => scanner.fail missing
      | some c => scanner |>.upTo closing missing escaped (sofar ++ escaped c)
    else if c = closing then return sofar
    else scanner |>.upTo closing missing escaped (sofar ++ [c])
partial_fixpoint

/-- A quoted text after its opening quote. -/
def quoted (scanner : Scanner) (quote : Char) : Scan (List Char) :=
  scanner.upTo quote (.closingQuote quote) (fun c => [c]) []

/-- A pattern after its opening slash. -/
def patternBody (scanner : Scanner) : Scan (List Char) :=
  scanner.upTo '/' .regexEnd (fun c => if c = '/' then ['/'] else ['\\', c]) []

/-- A pattern with its slashes and flags. An error of a flag stands at the flag. -/
def regex (scanner : Scanner) : Scan Literal := do
  let _ ← scanner.bump
  let pattern ← scanner.patternBody
  let start ← get
  scanner.skipWhile Char.isAlpha
  let flags ← scanner.slice start (← get)
  if flags.toList.all isRegexFlag then return .regex (String.ofList pattern) flags
  else scanner.failAt (start + Text.byteLength (flags.toList.takeWhile isRegexFlag)) .regexFlag

def word (scanner : Scanner) : Scan Literal := do
  let start ← get
  let templated ← scanner.run isWordChar false
  let written ← scanner.slice start (← get)
  if written.toList = [] then scanner.fail .value
  else if templated then return .template written
  else return Literal.ofWord written.toList

def value (scanner : Scanner) : Scan Literal := do
  match ← scanner.peek with
  | some c =>
    if c = '/' then scanner.regex
    else if c = '"' ∨ c = '\'' then
      let _ ← scanner.bump
      let characters ← scanner.quoted c
      return .string (String.ofList characters)
    else scanner.word
  | none => scanner.word

def condition (scanner : Scanner) (sofar : List FilterToken) : Scan (List FilterToken) := do
  let key ← scanner.path .filterKey
  scanner.skipBlanks
  let comparator ← scanner.comparator
  scanner.skipBlanks
  let start ← get
  let value ← scanner.value
  if comparator.admits value then return sofar ++ [.condition ⟨key, comparator, value⟩]
  else scanner.failAt start (if comparator = .matches then .patternValue else .matchComparator)

/-- The parenthesis behind a group. -/
def closeGroup (scanner : Scanner) (tokens : List FilterToken) : Scan (List FilterToken) := do
  scanner.skipBlanks
  if ← scanner.eat ')' then return tokens
  else scanner.fail .groupGoesOn

mutual

/-- An operand: a condition, or alternatives between parentheses. Its tokens are written behind
those `sofar`. -/
def operand (scanner : Scanner) (sofar : List FilterToken) : Scan (List FilterToken) := do
  scanner.skipBlanks
  if ← scanner.eat '(' then
    let tokens ← scanner |>.alternatives sofar
    scanner.closeGroup tokens
  else scanner.condition sofar
partial_fixpoint

/-- The alternatives of a group. -/
def alternatives (scanner : Scanner) (sofar : List FilterToken) : Scan (List FilterToken) := do
  let tokens ← scanner |>.alternative sofar
  scanner |>.moreAlternatives tokens
partial_fixpoint

/-- Further alternatives, each with its connective behind it. -/
def moreAlternatives (scanner : Scanner) (sofar : List FilterToken) : Scan (List FilterToken) := do
  scanner.skipBlanks
  if ← scanner.eatDoubled '|' then
    let tokens ← scanner |>.alternative sofar
    scanner |>.moreAlternatives (tokens ++ [.connective .or])
  else return sofar
partial_fixpoint

/-- An alternative: operands that hold together. -/
def alternative (scanner : Scanner) (sofar : List FilterToken) : Scan (List FilterToken) := do
  let tokens ← scanner |>.operand sofar
  scanner |>.moreOperands tokens
partial_fixpoint

/-- Further operands of an alternative, each with its connective behind it. -/
def moreOperands (scanner : Scanner) (sofar : List FilterToken) : Scan (List FilterToken) := do
  scanner.skipBlanks
  if ← scanner.eatDoubled '&' then
    let tokens ← scanner |>.operand sofar
    scanner |>.moreOperands (tokens ++ [.connective .and])
  else return sofar
partial_fixpoint

end

/-- The connective at the position, if there is one. -/
def connective (scanner : Scanner) : Scan (Option Connective) := do
  if ← scanner.eatDoubled '&' then return some .and
  else if ← scanner.eatDoubled '|' then return some .or
  else return none

/-- Further filters at the outer level, where connectives are written in the order of the text. -/
def moreFilters (scanner : Scanner) (sofar : List FilterToken) : Scan (List FilterToken) := do
  scanner.skipBlanks
  match ← scanner.connective with
  | some connective =>
    let tokens ← scanner.operand sofar
    scanner |>.moreFilters (tokens ++ [.connective connective])
  | none => return sofar
partial_fixpoint

def filters (scanner : Scanner) : Scan (List FilterToken) := do
  let tokens ← scanner.operand []
  scanner.moreFilters tokens

/-- A collection with its colon. Where there is none, the position goes back to where it was. -/
def collection (scanner : Scanner) : Scan (Option String) := do
  let start ← get
  scanner.skipWhile isCollectionChar
  if start < (← get) then
    if ← scanner.eat ':' then
      let stop ← get
      let name ← scanner.slice start (stop - 1)
      return some name
    else
      set start
      return none
  else
    set start
    return none

def location (scanner : Scanner) : Scan String := do
  let start ← get
  scanner.skipWhile isLocationChar
  scanner.slice start (← get)

def ending (scanner : Scanner) : Scan Unit := do
  scanner.skipBlanks
  if (← get) = scanner.text.utf8ByteSize then return ()
  else scanner.fail .queryEnd

def fieldClause (scanner : Scanner) (query : Query) : Scan Query := do
  if ← scanner.eat '\x7b' then
    let fields ← scanner.fields []
    return { query with fields := fields }
  else return query

def optionClause (scanner : Scanner) (query : Query) : Scan Query := do
  if ← scanner.eat '[' then scanner.options query
  else return query

def filterClause (scanner : Scanner) (query : Query) : Scan Query := do
  if ← scanner.eat '?' then
    let filters ← scanner.filters
    return { query with filters := filters }
  else return query

def query (scanner : Scanner) : Scan Query := do
  scanner.skipBlanks
  let collection ← scanner.collection
  if ← scanner.looksAt "/" then
    let path ← scanner.location
    let query ← scanner.fieldClause { collection := collection, path := path }
    let query ← scanner.optionClause query
    scanner.skipBlanks
    let query ← scanner.filterClause query
    scanner.ending
    return query
  else scanner.fail .slash

def loneValue (scanner : Scanner) : Scan Literal := do
  scanner.skipBlanks
  let value ← scanner.value
  scanner.ending
  return value

end Scanner

/-- What a reading gives from a position on, with the position where it stops; nothing if it breaks
off. -/
def Scan.result {α : Type} (scan : Scan α) (position : Nat) : Option (Except SyntaxError α × Nat) :=
  scan.run.run position

/-- Reads a query by byte positions. -/
def Query.scan? (marker : Marker) (text : String) : Option (Except SyntaxError Query) :=
  ((Scanner.query ⟨marker, text⟩).result 0).map Prod.fst

/-- Reads a value by byte positions. -/
def Literal.scan? (text : String) : Option (Except SyntaxError Literal) :=
  ((Scanner.loneValue ⟨.braces, text⟩).result 0).map Prod.fst

end PathQuery
