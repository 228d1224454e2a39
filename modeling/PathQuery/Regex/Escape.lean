import PathQuery.Regex.CharacterSet
import PathQuery.Regex.Normal

namespace PathQuery.Regex

/-- What one escape or one plain character stands for. `byte` marks a character given by two
hexadecimal digits. -/
inductive Atom where
  | char (c : Char) (byte : Bool)
  | set (codes : CodeSet)
  | look (condition : Look)

/-- Reads exactly `count` hexadecimal digits. -/
def readHexDigits (flags : Flags) : (count value : Nat) → List Char → Except Fault (Nat × List Char)
  | 0, value, text => .ok (value, text)
  | count + 1, value, c :: rest =>
    match Text.hexDigit? c with
    | some digit => readHexDigits flags count (value * 16 + digit) (flags.skip rest)
    | none => .error .malformed
  | _ + 1, _, [] => .error .malformed

/-- The characters up to a closing brace, without filler, and what follows the brace. -/
def readBraced (flags : Flags) : (inComment : Bool) → List Char →
    Except Fault (List Char × List Char)
  | _, [] => .error .malformed
  | true, c :: rest => readBraced flags (c ≠ '\n') rest
  | false, c :: rest =>
    if flags.freeSpacing && Text.isBlank c then readBraced flags false rest
    else if flags.freeSpacing && c = '#' then readBraced flags true rest
    else if c = '\x7d' then .ok ([], rest)
    else do
      let (inner, after) ← readBraced flags false rest
      return (c :: inner, after)

/-- A character given by its number: a fixed count of digits, or any digits between braces. -/
def readHexEscape (flags : Flags) (count : Nat) (text : List Char) :
    Except Fault (Atom × List Char) :=
  match flags.skip text with
  | '\x7b' :: rest => do
    let (digits, rest) ← readBraced flags false rest
    if digits = [] then .error .malformed
    else match (Text.basedValue? 16 digits).bind Text.charOfCode? with
      | some c => .ok (.char c false, flags.skip rest)
      | none => .error .malformed
  | body => do
    let (value, rest) ← readHexDigits flags count 0 body
    match Text.charOfCode? value with
    | some c => .ok (.char c (count = 2), rest)
    | none => .error .malformed

/-- The set of `\p` or `\P`, with one letter or a name between braces. -/
def readUnicodeClass (flags : Flags) (negated : Bool) (text : List Char) :
    Except Fault (Atom × List Char) := do
  if !flags.unicode then .error .malformed
  let (name, rest) ← match flags.skip text with
    | '\x7b' :: rest => readBraced flags false rest
    | '\\' :: _ => .error .malformed
    | c :: rest => .ok ([c], flags.skip rest)
    | [] => .error .malformed
  match unicodeSet? name with
  | some (set, inverted) => .ok (.set (flags.foldAndNegate (negated ^^ inverted) set), rest)
  | none => .error .malformed

def Flags.alphabet (flags : Flags) : Alphabet :=
  if flags.unicode then .unicode else .ascii

/-- A word boundary of a named kind, after `\b`; what is no name is left for a repetition to
read. -/
def readBoundary (flags : Flags) (text : List Char) : Except Fault (Atom × List Char) :=
  let plain := Atom.look (.wordBoundary flags.alphabet)
  match text with
  | '\x7b' :: rest =>
    let isNameChar := fun (c : Char) => c.isAlpha || c = '-'
    match flags.skip rest with
    | [] => .error .malformed
    | body =>
      if body.head?.any isNameChar then do
        let (name, rest) ← readBraced flags false body
        match String.ofList name with
        | "start" => .ok (.look (.wordStart flags.alphabet), rest)
        | "end" => .ok (.look (.wordEnd flags.alphabet), rest)
        | "start-half" => .ok (.look (.wordStartHalf flags.alphabet), rest)
        | "end-half" => .ok (.look (.wordEndHalf flags.alphabet), rest)
        | _ => .error .malformed
      else .ok (plain, text)
  | _ => .ok (plain, text)

/-- Punctuation and control characters of ASCII stand for themselves after a backslash. -/
def standsForItself (c : Char) : Bool :=
  c.toNat < 128 && !c.isAlphanum && c ≠ '<' && c ≠ '>'

/-- Reads what follows a backslash. -/
def readEscape (flags : Flags) : List Char → Except Fault (Atom × List Char)
  | [] => .error .malformed
  | c :: rest =>
    if c = 'x' then readHexEscape flags 2 rest
    else if c = 'u' then readHexEscape flags 4 rest
    else if c = 'U' then readHexEscape flags 8 rest
    else if c = 'p' ∨ c = 'P' then readUnicodeClass flags (c = 'P') rest
    else if c = 'd' ∨ c = 's' ∨ c = 'w' ∨ c = 'D' ∨ c = 'S' ∨ c = 'W' then do
      return (.set (← flags.letterClass c), rest)
    else if standsForItself c then .ok (.char c false, rest)
    else match c with
      | 'a' => .ok (.char '\x07' false, rest)
      | 'f' => .ok (.char '\x0c' false, rest)
      | 't' => .ok (.char '\t' false, rest)
      | 'n' => .ok (.char '\n' false, rest)
      | 'r' => .ok (.char '\r' false, rest)
      | 'v' => .ok (.char '\x0b' false, rest)
      | 'A' => .ok (.look .textStart, rest)
      | 'z' => .ok (.look .textEnd, rest)
      | 'b' => readBoundary flags rest
      | 'B' => .ok (.look (.notWordBoundary flags.alphabet), rest)
      | '<' => .ok (.look (.wordStart flags.alphabet), rest)
      | '>' => .ok (.look (.wordEnd flags.alphabet), rest)
      | _ => .error .malformed

/-- The pattern of one atom outside of brackets. Without Unicode, a byte beyond ASCII is refused. -/
def Flags.atomPattern (flags : Flags) : Atom → Except Fault Pattern
  | .char c byte =>
    if !flags.unicode && byte && 128 ≤ c.toNat then .error .malformed
    else if !flags.unicode && 128 ≤ c.toNat then .ok (.ofSet .unicode (.single c.toNat))
    else .ok (.ofSet flags.alphabet (flags.fold (.single c.toNat)))
  | .set codes => .ok (.ofSet flags.alphabet codes)
  | .look condition => .ok (.look condition)

end PathQuery.Regex
