import PathQuery.Regex.Bracket
import PathQuery.Text.Alphanumeric

namespace PathQuery.Regex

/-- The digits at the head of a text, without filler between and after them, and what follows. -/
def readDigits (flags : Flags) : (inComment : Bool) → List Char → List Char × List Char
  | _, [] => ([], [])
  | true, c :: rest => readDigits flags (c ≠ '\n') rest
  | false, c :: rest =>
    if c.isDigit then
      let (digits, after) := readDigits flags false rest
      (c :: digits, after)
    else if flags.freeSpacing && Text.isBlank c then readDigits flags false rest
    else if flags.freeSpacing && c = '#' then readDigits flags true rest
    else ([], c :: rest)

/-- A count of a repetition, with white space around it. -/
def readCount (flags : Flags) (text : List Char) : Except Fault (Nat × List Char) :=
  let (digits, rest) := readDigits flags false (Text.skipBlanks text)
  let value := digits.foldl (fun value c => value * 10 + (c.toNat - '0'.toNat)) 0
  if digits = [] ∨ Nat.pow 2 32 ≤ value then .error .malformed
  else .ok (value, Text.skipBlanks rest)

/-- A counted repetition after its opening brace. -/
def readCounts (flags : Flags) (text : List Char) :
    Except Fault (Nat × Option Nat × List Char) := do
  let (least, rest) ← readCount flags (flags.skip text)
  let (most, rest) ← match rest with
    | ',' :: rest =>
      match flags.skip rest with
      | '\x7d' :: rest => .ok (none, '\x7d' :: rest)
      | rest => do
        let (most, rest) ← readCount flags rest
        .ok (some most, rest)
    | _ => .ok (some least, rest)
  match rest with
  | '\x7d' :: rest =>
    if most.all (least ≤ ·) then .ok (least, most, flags.skip rest) else .error .malformed
  | _ => .error .malformed

/-- What has been read since a group was opened. Items and alternatives are kept last first, each
with the depth of nesting; an item that only sets flags cannot be repeated. -/
structure Branch where
  items : List (Option Pattern × Nat) := []
  alternatives : List (Pattern × Nat) := []

/-- The finished sequence of a branch. -/
def Branch.sequence (branch : Branch) : Pattern × Nat :=
  let height := (branch.items.map (·.2)).foldl max 0
  (.sequence (branch.items.reverse.filterMap (·.1)),
    if branch.items.length < 2 then height else height + 1)

/-- The finished choice of a group. -/
def Branch.choice (branch : Branch) : Pattern × Nat :=
  match branch.alternatives with
  | [] => branch.sequence
  | alternatives =>
    let all := (branch.sequence :: alternatives).reverse
    (.choice (all.map (·.1)), (all.map (·.2)).foldl max 0 + 1)

def Branch.push (branch : Branch) (pattern : Pattern) (height : Nat) : Branch :=
  { branch with items := (some pattern, height) :: branch.items }

/-- An open group: what was read before it, the flags to return to, and its number if it
captures. -/
structure OpenGroup where
  before : Branch
  flags : Flags
  index : Option Nat

/-- What is known in the middle of an expression. -/
structure Progress where
  flags : Flags
  branch : Branch := {}
  outer : List OpenGroup := []
  groups : Nat := 0
  names : List (List Char) := []

/-- Adds flags after `(?` up to a colon or a closing parenthesis: each at most once, with at most
one hyphen, which is not the last. The delimiter is left. -/
def readFlags (flags : Flags) (seen : List Char) :
    List Char → Except Fault (Flags × List Char × List Char)
  | [] => .error .malformed
  | c :: rest =>
    if c = ':' ∨ c = ')' then
      if seen.head? = some '-' then .error .malformed else .ok (flags, seen, c :: rest)
    else if seen.contains c then .error .malformed
    else if c = '-' then readFlags flags ('-' :: seen) rest
    else match flags.set (!seen.contains '-') c with
      | some flags => readFlags flags (c :: seen) rest
      | none => .error .malformed

/-- A group's name up to `>`: it starts with a letter or an underscore. -/
def readGroupName (names : List (List Char)) (text : List Char) :
    Except Fault (List Char × List Char) :=
  let (name, rest) := (text.takeWhile (· ≠ '>'), text.dropWhile (· ≠ '>'))
  let isNameChar := fun (c : Char) =>
    c = '_' || c = '.' || c = '[' || c = ']' || Text.isAlphanumeric c
  match name, rest with
  | first :: _, _ :: rest =>
    if (first = '_' || Text.isAlphabetic first) && name.all isNameChar && !names.contains name then
      .ok (name, rest)
    else .error .malformed
  | _, _ => .error .malformed

/-- Reads the opening of a group after `(`. -/
def openGroup (progress : Progress) (text : List Char) : Except Fault (Progress × List Char) :=
  let enter := fun (flags : Flags) (index : Option Nat) =>
    { progress with
      flags := flags
      branch := {}
      outer := ⟨progress.branch, progress.flags, index⟩ :: progress.outer }
  let named := fun (rest : List Char) => do
    let (name, rest) ← readGroupName progress.names rest
    return ({ enter progress.flags (some (progress.groups + 1)) with
      groups := progress.groups + 1
      names := name :: progress.names }, rest)
  match progress.flags.skip text with
  | '?' :: '=' :: _ => .error .malformed
  | '?' :: '!' :: _ => .error .malformed
  | '?' :: '<' :: '=' :: _ => .error .malformed
  | '?' :: '<' :: '!' :: _ => .error .malformed
  | '?' :: 'P' :: '<' :: rest => named rest
  | '?' :: '<' :: rest => named rest
  | '?' :: rest => do
    let (flags, seen, rest) ← readFlags progress.flags [] rest
    match rest with
    | ':' :: rest => .ok (enter flags none, rest)
    | _ :: rest =>
      if seen = [] then .error .malformed
      else .ok ({ progress with
        flags := flags
        branch := { progress.branch with items := (none, 0) :: progress.branch.items } }, rest)
    | [] => .error .malformed
  | rest =>
    .ok ({ enter progress.flags (some (progress.groups + 1)) with groups := progress.groups + 1 },
      rest)

/-- Closes the innermost group. -/
def closeGroup (progress : Progress) : Except Fault Progress :=
  match progress.outer with
  | [] => .error .malformed
  | group :: outer =>
    let (pattern, height) := progress.branch.choice
    let pattern := match group.index with
      | some index => .capture index pattern
      | none => pattern
    .ok { progress with
      flags := group.flags
      branch := group.before.push pattern (height + 1)
      outer := outer }

/-- Repeats the last item of a branch. -/
def Branch.repeatLast (branch : Branch) (least : Nat) (most : Option Nat) (greedy : Bool) :
    Except Fault Branch :=
  match branch.items with
  | (some pattern, height) :: items =>
    .ok { branch with items := (some (.times least most greedy pattern), height + 1) :: items }
  | _ => .error .malformed

/-- A question mark after a repetition turns its preference around. -/
def readGreed (flags : Flags) : List Char → Bool × List Char
  | '?' :: rest => (flags.swapGreed, rest)
  | text => (!flags.swapGreed, text)

/-- The pattern of a dot. -/
def Flags.dot (flags : Flags) : Except Fault Pattern :=
  if !flags.unicode then .error .malformed
  else if flags.dotAll then .ok (.ofSet .unicode .all)
  else if flags.carriageReturns then .ok (.ofSet .unicode (CodeSet.ofCodes [0x0A, 0x0D]).compl)
  else .ok (.ofSet .unicode (CodeSet.single 0x0A).compl)

def Flags.caret (flags : Flags) : Look :=
  if flags.multiLine then (if flags.carriageReturns then .lineStartReturn else .lineStart)
  else .textStart

def Flags.dollar (flags : Flags) : Look :=
  if flags.multiLine then (if flags.carriageReturns then .lineEndReturn else .lineEnd) else .textEnd

/-- Reads one piece of an expression: a group's border, an alternative, a repetition or an item. -/
def readPiece (progress : Progress) (text : List Char) : Except Fault (Progress × List Char) :=
  let flags := progress.flags
  let item := fun (pattern : Pattern) (height : Nat) (rest : List Char) =>
    Except.ok ({ progress with branch := progress.branch.push pattern height }, rest)
  let repeated := fun (least : Nat) (most : Option Nat) (rest : List Char) => do
    let (greedy, rest) := readGreed flags rest
    return ({ progress with branch := ← progress.branch.repeatLast least most greedy }, rest)
  match text with
  | [] => .error .malformed
  | '(' :: rest => openGroup progress rest
  | ')' :: rest => do return (← closeGroup progress, rest)
  | '|' :: rest =>
    let branch := progress.branch
    .ok ({ progress with branch := ⟨[], branch.sequence :: branch.alternatives⟩ }, rest)
  | '[' :: rest => do
    let (set, height, rest) ← readClass flags rest
    item (.ofSet flags.alphabet set) (height + 1) rest
  | '?' :: rest => repeated 0 (some 1) rest
  | '*' :: rest => repeated 0 none rest
  | '+' :: rest => repeated 1 none rest
  | '\x7b' :: rest => do
    let (least, most, rest) ← readCounts flags rest
    repeated least most rest
  | '\\' :: rest => do
    let (atom, rest) ← readEscape flags rest
    item (← flags.atomPattern atom) 0 rest
  | '.' :: rest => do item (← flags.dot) 0 rest
  | '^' :: rest => item (.look flags.caret) 0 rest
  | '$' :: rest => item (.look flags.dollar) 0 rest
  | c :: rest => do item (← flags.atomPattern (.char c false)) 0 rest

/-- How deep groups, repetitions, sequences and choices may nest. -/
def nestLimit : Nat := 250

/-- Reads pieces to the end of the text, each of them a character at least. -/
def readPieces : (fuel : Nat) → Progress → List Char → Except Fault Pattern
  | 0, _, _ => .error .malformed
  | fuel + 1, progress, text =>
    match progress.flags.skip text with
    | [] =>
      if progress.outer ≠ [] then .error .malformed
      else
        let (pattern, height) := progress.branch.choice
        if nestLimit < height then .error .malformed else .ok pattern
    | body =>
      match readPiece progress body with
      | .error fault => .error fault
      | .ok (progress, rest) => readPieces fuel progress rest

/-- Reads an expression, from its start with the given flags. -/
def readPattern (flags : Flags) (text : List Char) : Except Fault Pattern :=
  readPieces (text.length + 1) { flags := flags } text

end PathQuery.Regex
