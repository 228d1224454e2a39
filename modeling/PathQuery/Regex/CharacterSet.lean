import PathQuery.Regex.Flags
import PathQuery.Text.Basic
import PathQuery.Unicode.Age
import PathQuery.Unicode.Break
import PathQuery.Unicode.Category
import PathQuery.Unicode.Folding
import PathQuery.Unicode.Property
import PathQuery.Unicode.Script

namespace PathQuery.Regex

def asciiUpper : CodeSet := .range 0x41 0x5A
def asciiLower : CodeSet := .range 0x61 0x7A
def asciiDigit : CodeSet := .range 0x30 0x39
def asciiAlpha : CodeSet := asciiUpper.union asciiLower
def asciiAlnum : CodeSet := asciiAlpha.union asciiDigit
def asciiWord : CodeSet := asciiAlnum.union (.single 0x5F)
def asciiSpace : CodeSet := (CodeSet.range 9 13).union (.single 0x20)

/-- The sets with names between `[:` and `:]`. -/
def posixClass? : String → Option CodeSet
  | "alnum" => some asciiAlnum
  | "alpha" => some asciiAlpha
  | "ascii" => some (.range 0 127)
  | "blank" => some (.ofCodes [9, 0x20])
  | "cntrl" => some ((CodeSet.range 0 0x1F).union (.single 0x7F))
  | "digit" => some asciiDigit
  | "graph" => some (.range 0x21 0x7E)
  | "lower" => some asciiLower
  | "print" => some (.range 0x20 0x7E)
  | "punct" => some ((CodeSet.range 0x21 0x7E).diff asciiAlnum)
  | "space" => some asciiSpace
  | "upper" => some asciiUpper
  | "word" => some asciiWord
  | "xdigit" => some (.unionAll [asciiDigit, .range 0x41 0x46, .range 0x61 0x66])
  | _ => none

def unicodeDigit : CodeSet := Unicode.categoryCodes "nd"

def unicodeSpace : CodeSet := Unicode.propertyCodes "whitespace"

/-- Letters, marks, decimal digits, connecting punctuation and the two joiners. -/
def unicodeWord : CodeSet :=
  .unionAll [Unicode.propertyCodes "alphabetic", Unicode.categoryCodes "m", unicodeDigit,
    Unicode.categoryCodes "pc", Unicode.propertyCodes "joincontrol"]

/-- A set of bytes without regard to the case of ASCII letters. -/
def asciiCaseClosure (set : CodeSet) : CodeSet :=
  let letters := (List.range 26).filter fun i => set.contains (0x41 + i) || set.contains (0x61 + i)
  set.union (.ofCodes (letters.map (0x41 + ·) ++ letters.map (0x61 + ·)))

/-- Closes a set under case if the flags ask for it. -/
def Flags.fold (flags : Flags) (set : CodeSet) : CodeSet :=
  if flags.ignoreCase then
    if flags.unicode then Unicode.caseClosure set else asciiCaseClosure set
  else set

/-- All characters that are not in a set: those in the gaps between its ranges. A gap of nothing but
surrogates stands for the two characters around it. -/
def negateCharacters (set : CodeSet) : CodeSet :=
  .ofRanges (set.trim.compl.ranges.filterMap fun gap =>
    if gap = (0xD800, 0xDFFF) then some (0xD7FF, 0xE000) else CodeSet.trimRange? gap)

/-- All that is not in a set: of all characters, or of all bytes. -/
def Flags.negate (flags : Flags) (set : CodeSet) : CodeSet :=
  if flags.unicode then negateCharacters set else (CodeSet.range 0 255).diff set

def Flags.foldAndNegate (flags : Flags) (negated : Bool) (set : CodeSet) : CodeSet :=
  let folded := flags.fold set
  if negated then flags.negate folded else folded

/-- Bytes beyond ASCII are no characters on their own, so no set of bytes may hold one. -/
def Flags.checkBytes (flags : Flags) (set : CodeSet) : Except Fault CodeSet :=
  if flags.unicode || set.bounds.back?.all (· ≤ 128) then .ok set else .error .malformed

/-- A set as it is meant after `^` or without it. -/
def Flags.finish (flags : Flags) (negated : Bool) (set : CodeSet) : Except Fault CodeSet :=
  flags.checkBytes (flags.foldAndNegate negated set)

/-- The set of `\d`, `\s`, `\w` or, with a capital letter, what is left out of it. -/
def Flags.letterClass (flags : Flags) (c : Char) : Except Fault CodeSet :=
  let set := match c.toLower with
    | 'd' => if flags.unicode then unicodeDigit else asciiDigit
    | 's' => if flags.unicode then unicodeSpace else asciiSpace
    | _ => if flags.unicode then unicodeWord else asciiWord
  flags.checkBytes (if c.isUpper then flags.negate set else set)

/-- The set a name without a value stands for: a property, a category or a script. -/
def namedSet? (name : String) : Option CodeSet :=
  (Unicode.property? name).or ((Unicode.category? name).or (Unicode.script? name))

/-- The set a property has a value for. -/
def valuedSet? (property value : String) : Option CodeSet :=
  match property with
  | "gc" | "generalcategory" => Unicode.category? value
  | "sc" | "script" => Unicode.script? value
  | "scx" | "scriptextensions" => Unicode.scriptExtension? value
  | "age" => Unicode.age? value
  | "gcb" | "graphemeclusterbreak" => Unicode.find? value Unicode.graphemeBreaks
  | "wb" | "wordbreak" => Unicode.find? value Unicode.wordBreaks
  | "sb" | "sentencebreak" => Unicode.find? value Unicode.sentenceBreaks
  | _ => none

/-- The set of `\p` with the name found between its braces, and whether `!=` turns it around. -/
def unicodeSet? (name : List Char) : Option (CodeSet × Bool) :=
  let valued := fun (key value : List Char) =>
    valuedSet? (Unicode.foldName key) (Unicode.foldName value)
  let plain := fun (set? : Option CodeSet) => set?.map (·.trim, false)
  match (List.range name.length).find? fun i => (name.drop i).take 2 = ['!', '='] with
  | some i => (valued (name.take i) (name.drop (i + 2))).map (·.trim, true)
  | none =>
    match Text.cutAt ':' name with
    | some (key, value) => plain (valued key value)
    | none =>
      match Text.cutAt '=' name with
      | some (key, value) => plain (valued key value)
      | none => plain (namedSet? (Unicode.foldName name))

end PathQuery.Regex
