import PathQuery.Regex.Escape

namespace PathQuery.Regex

inductive SetOperator where
  | intersection
  | difference
  | symmetricDifference

/-- An operator between two sets; both are closed under case first if the flags ask for it. -/
def SetOperator.apply (flags : Flags) (operator : SetOperator) (a b : CodeSet) : CodeSet :=
  let a := flags.fold a
  let b := flags.fold b
  match operator with
  | .intersection => a.inter b
  | .difference => (a.diff b).trim
  | .symmetricDifference => (a.symmDiff b).trim

/-- An open bracket: the items read so far, how many they are and how deep the deepest one nests,
and the operator they stand right of, with the set left of it and how deep that nests. -/
structure Bracket where
  negated : Bool
  items : CodeSet := .empty
  count : Nat := 0
  depth : Nat := 0
  pending : Option (SetOperator × CodeSet × Nat) := none

namespace Bracket

def push (bracket : Bracket) (set : CodeSet) (height : Nat) : Bracket :=
  { bracket with
    items := bracket.items.union set
    count := bracket.count + 1
    depth := max bracket.depth height }

/-- The set that stands left of the next operator or of the closing bracket, and how deep it nests:
two items or more are one level, and so is an operator. -/
def settle (flags : Flags) (bracket : Bracket) : CodeSet × Nat :=
  let height := if bracket.count < 2 then bracket.depth else bracket.depth + 1
  match bracket.pending with
  | none => (bracket.items, height)
  | some (operator, left, leftHeight) =>
    (operator.apply flags left bracket.items, max leftHeight height + 1)

/-- What is read so far becomes the left side of an operator. -/
def await (flags : Flags) (bracket : Bracket) (operator : SetOperator) : Bracket :=
  { negated := bracket.negated, pending := some (operator, bracket.settle flags) }

end Bracket

/-- Hyphens at the head of a bracket are items. -/
def readHyphens (flags : Flags) (bracket : Bracket) :
    (inComment : Bool) → List Char → Bracket × List Char
  | _, [] => (bracket, [])
  | true, c :: rest => readHyphens flags bracket (c ≠ '\n') rest
  | false, c :: rest =>
    if c = '-' then readHyphens flags (bracket.push (.single '-'.toNat) 0) false rest
    else if flags.freeSpacing && Text.isBlank c then readHyphens flags bracket false rest
    else if flags.freeSpacing && c = '#' then readHyphens flags bracket true rest
    else (bracket, c :: rest)

/-- Opens a bracket after `[`: a caret negates, and hyphens or a closing bracket at the head are
items. -/
def openBracket (flags : Flags) (text : List Char) : Except Fault (Bracket × List Char) :=
  let (negated, text) := match flags.skip text with
    | '^' :: rest => (true, rest)
    | text => (false, text)
  match readHyphens flags { negated := negated } false text with
  | (_, []) => .error .malformed
  | (bracket, c :: rest) =>
    if c = ']' ∧ bracket.count = 0 then .ok (bracket.push (.single ']'.toNat) 0, flags.skip rest)
    else .ok (bracket, c :: rest)

/-- A named set between `[:` and `:]`, if one stands here. -/
def readPosix? : List Char → Option (CodeSet × Bool × List Char)
  | '[' :: ':' :: rest =>
    let (negated, rest) := match rest with
      | '^' :: rest => (true, rest)
      | _ => (false, rest)
    let (name, rest) := (rest.takeWhile (· ≠ ':'), rest.dropWhile (· ≠ ':'))
    match rest with
    | ':' :: ']' :: rest => (posixClass? (String.ofList name)).map fun set => (set, negated, rest)
    | _ => none
  | _ => none

def readSetAtom (flags : Flags) : List Char → Except Fault (Atom × List Char)
  | [] => .error .malformed
  | '\\' :: rest => readEscape flags rest
  | c :: rest => .ok (.char c false, rest)

/-- An end of a range or a single character. Without Unicode it must be ASCII. -/
def Flags.setCode (flags : Flags) : Atom → Except Fault Nat
  | .char c _ => if flags.unicode || c.toNat < 128 then .ok c.toNat else .error .malformed
  | _ => .error .malformed

/-- The character that tells what a hyphen means: the next one that is no white space. Where spacing
is free, one `#` before it is passed over as if it were white space, so a comment counts from its
first character. -/
def Flags.afterHyphen (flags : Flags) (text : List Char) : Option Char :=
  if flags.freeSpacing then
    match Text.skipBlanks text with
    | '#' :: rest => (Text.skipBlanks rest).head?
    | rest => rest.head?
  else text.head?

/-- Whether a range starts here: a hyphen before the closing bracket or before another hyphen makes
none. -/
def Flags.opensRange (flags : Flags) : List Char → Bool
  | '-' :: rest => flags.afterHyphen rest ≠ some ']' && flags.afterHyphen rest ≠ some '-'
  | _ => false

/-- One item of a bracket: a character, a range of characters or a set. -/
def readSetItem (flags : Flags) (text : List Char) : Except Fault (CodeSet × List Char) := do
  let (first, rest) ← readSetAtom flags text
  match flags.skip rest with
  | [] => .error .malformed
  | rest =>
    if flags.opensRange rest then
      let (last, rest) ← readSetAtom flags (flags.skip (rest.drop 1))
      let low ← flags.setCode first
      let high ← flags.setCode last
      if low ≤ high then .ok (.range low high, rest) else .error .malformed
    else
      match first with
      | .set codes => .ok (codes, rest)
      | .char .. => do return (.single (← flags.setCode first), rest)
      | .look _ => .error .malformed

/-- Reads a bracket up to its end, with `outer` the brackets around it, innermost first. Returned is
the set, how deep its items nest, and what follows. Each step takes a character at least. -/
def readBrackets (flags : Flags) : (fuel : Nat) → (outer : List Bracket) → Bracket → List Char →
    Except Fault (CodeSet × Nat × List Char)
  | 0, _, _, _ => .error .malformed
  | fuel + 1, outer, bracket, text =>
    match flags.skip text with
    | [] => .error .malformed
    | ']' :: rest => do
      let (set, height) := bracket.settle flags
      let set ← flags.finish bracket.negated set
      match outer with
      | [] => return (set, height, rest)
      | parent :: outer => readBrackets flags fuel outer (parent.push set (height + 1)) rest
    | '&' :: '&' :: rest => readBrackets flags fuel outer (bracket.await flags .intersection) rest
    | '-' :: '-' :: rest => readBrackets flags fuel outer (bracket.await flags .difference) rest
    | '~' :: '~' :: rest =>
      readBrackets flags fuel outer (bracket.await flags .symmetricDifference) rest
    | '[' :: rest => do
      match readPosix? ('[' :: rest) with
      | some (set, negated, rest) =>
        readBrackets flags fuel outer (bracket.push (← flags.finish negated set) 0) rest
      | none =>
        let (inner, rest) ← openBracket flags rest
        readBrackets flags fuel (bracket :: outer) inner rest
    | body => do
      let (set, rest) ← readSetItem flags body
      readBrackets flags fuel outer (bracket.push set 0) rest

/-- Reads a bracketed set after its opening bracket, with how deep its items nest. -/
def readClass (flags : Flags) (text : List Char) : Except Fault (CodeSet × Nat × List Char) := do
  let (bracket, rest) ← openBracket flags text
  readBrackets flags (rest.length + 1) [] bracket rest

end PathQuery.Regex
