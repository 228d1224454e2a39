import PathQuery.Json.Reader
import PathQuery.Text.Basic

namespace PathQuery.Toml

/-- The characters that may stand in a string or a comment as they are. -/
def isTextChar (c : Char) : Bool :=
  c = '\t' || (0x20 ≤ c.toNat && c.toNat ≠ 0x7F)

/-- The end of a line at the head of a text. -/
def lineEnd? : List Char → Option (List Char)
  | '\n' :: rest => some rest
  | '\r' :: '\n' :: rest => some rest
  | _ => none

def skipBlanks (text : List Char) : List Char :=
  text.dropWhile fun c => c = ' ' || c = '\t'

theorem skip_blanks_length_le (text : List Char) : (skipBlanks text).length ≤ text.length :=
  (List.dropWhile_suffix _).length_le

/-- The character with a number in hexadecimal digits, of which there must be `count`. -/
def hexChar? (count : Nat) (digits : List Char) : Option Char :=
  if digits.length = count then (Text.basedValue? 16 digits).bind Text.charOfCode? else none

/-- The character of an escape after its backslash, with how many characters the escape takes. -/
def escape? : List Char → Option (Char × Nat)
  | 'b' :: _ => some ('\x08', 1)
  | 't' :: _ => some ('\t', 1)
  | 'n' :: _ => some ('\n', 1)
  | 'f' :: _ => some ('\x0c', 1)
  | 'r' :: _ => some ('\r', 1)
  | '"' :: _ => some ('"', 1)
  | '\\' :: _ => some ('\\', 1)
  | 'u' :: rest => (hexChar? 4 (rest.take 4)).map (·, 5)
  | 'U' :: rest => (hexChar? 8 (rest.take 8)).map (·, 9)
  | _ => none

/-- A string on one line, after its opening quote. With `escapes`, a backslash starts an escape. The
first `skip` characters have been read already. -/
def readLine (quote : Char) (escapes : Bool) :
    (skip : Nat) → List Char → Option (List Char × List Char)
  | _, [] => none
  | skip + 1, _ :: rest => readLine quote escapes skip rest
  | 0, c :: rest =>
    if c = quote then some ([], rest)
    else if escapes && c = '\\' then do
      let (character, length) ← escape? rest
      let (text, rest) ← readLine quote escapes length rest
      return (character :: text, rest)
    else if isTextChar c then do
      let (text, rest) ← readLine quote escapes 0 rest
      return (c :: text, rest)
    else none

/-- How many quotes stand at the head of a text. -/
def countQuotes (quote : Char) (text : List Char) : Nat :=
  (text.takeWhile (· = quote)).length

/-- How many blanks and ends of lines stand at the head of a text. -/
def countFiller : List Char → Nat
  | '\r' :: '\n' :: rest => countFiller rest + 2
  | c :: rest => if c = ' ' || c = '\t' || c = '\n' then countFiller rest + 1 else 0
  | [] => 0

/-- A backslash at the end of a line: how many blanks and ends of lines it passes over. -/
def continuation? (text : List Char) : Option Nat :=
  (lineEnd? (skipBlanks text)).map fun _ => countFiller text

/-- A string over several lines, after its opening quotes. Three quotes end it, and up to two more
in front of them belong to it. -/
def readLines (quote : Char) (escapes : Bool) :
    (skip : Nat) → List Char → Option (List Char × List Char)
  | _, [] => none
  | skip + 1, _ :: rest => readLines quote escapes skip rest
  | 0, c :: rest =>
    if c = quote && 3 ≤ countQuotes quote (c :: rest) then
      let extra := min 2 (countQuotes quote (c :: rest) - 3)
      some (List.replicate extra quote, rest.drop (extra + 2))
    else if escapes && c = '\\' then
      match continuation? rest with
      | some length => readLines quote escapes length rest
      | none => do
        let (character, length) ← escape? rest
        let (text, rest) ← readLines quote escapes length rest
        return (character :: text, rest)
    else if c = '\r' then
      if rest.head? = some '\n' then readLines quote escapes 0 rest else none
    else if isTextChar c || c = '\n' then do
      let (text, rest) ← readLines quote escapes 0 rest
      return (c :: text, rest)
    else none

/-- A string in any of its spellings. The first line of a string over several lines may be empty. -/
def readString? (text : List Char) : Option (List Char × List Char) :=
  match text with
  | [] => none
  | quote :: rest =>
    let escapes := quote = '"'
    if quote = '"' || quote = '\'' then
      if 3 ≤ countQuotes quote text then
        let body := text.drop 3
        readLines quote escapes 0 ((lineEnd? body).getD body)
      else readLine quote escapes 0 rest
    else none

/-- Digits of a base, with single underscores between them. -/
def digits? (isDigit : Char → Bool) (text : List Char) : Option (List Char) :=
  let groups := Text.splitOn '_' text
  if groups.all fun group => !group.isEmpty && group.all isDigit then some groups.flatten else none

/-- Decimal digits without a zero in front. -/
def wholeDigits? (text : List Char) : Option (List Char) :=
  (digits? Char.isDigit text).filter fun digits => digits.head? ≠ some '0' || digits.length = 1

def int64? (negative : Bool) (n : Nat) : Option Json :=
  let value : Int := if negative then -(n : Int) else n
  if h : -(Nat.pow 2 63 : Int) ≤ value ∧ value < (Nat.pow 2 63 : Int) then
    some (.ofInteger ⟨value, h.1, Int.lt_trans h.2 (by decide)⟩)
  else none

/-- A whole number in a base other than ten. -/
def basedInteger? (base : Nat) (text : List Char) : Option Json := do
  let digits ← digits? (fun c => (Text.hexDigit? c).any (· < base)) text
  int64? false (← Text.basedValue? base digits)

def integer? (text : List Char) : Option Json :=
  match text with
  | '0' :: 'x' :: rest => basedInteger? 16 rest
  | '0' :: 'o' :: rest => basedInteger? 8 rest
  | '0' :: 'b' :: rest => basedInteger? 2 rest
  | _ =>
    let (negative, body) := Number.splitSign text
    (wholeDigits? body).bind fun digits => int64? negative (Number.digitsValue digits)

/-- The exponent of a double, with zeros in front allowed. -/
def exponent? (text : List Char) : Option Int :=
  let (negative, body) := Number.splitSign text
  (digits? Char.isDigit body).map fun digits =>
    let value : Int := Number.digitsValue digits
    if negative then -value else value

/-- A double: a whole number with a fraction, an exponent or both. Too large a positive one is
refused. -/
def decimal? (text : List Char) : Option Json := do
  let (negative, body) := Number.splitSign text
  let isMark := fun (c : Char) => c = 'e' || c = 'E'
  let mantissa := body.takeWhile (!isMark ·)
  let power := body.dropWhile (!isMark ·)
  let exponent ← match power with
    | [] => some 0
    | _ :: power => exponent? power
  let (whole, places) ← match Text.cutAt '.' mantissa with
    | none => if power = [] then none else some (mantissa, [])
    | some (whole, places) => (digits? Char.isDigit places).map fun places => (whole, places)
  let whole ← wholeDigits? whole
  let x :=
    Binary64.ofDecimal negative (Number.digitsValue (whole ++ places)) (exponent - places.length)
  if x = .infinite false then none else some (.ofDouble x)

/-- Infinities and the absence of a number, with an optional sign. -/
def special? (text : List Char) : Option Json :=
  match (Number.splitSign text).2 with
  | ['i', 'n', 'f'] => some .null
  | ['n', 'a', 'n'] => some .null
  | _ => none

/-- The number that a fixed count of digits stands for. -/
def fixed? (count : Nat) (text : List Char) : Option (Nat × List Char) :=
  let digits := text.take count
  if digits.length = count ∧ digits.all Char.isDigit then
    some (Number.digitsValue digits, text.drop count)
  else none

/-- A character that must stand here. -/
def mark? (mark : Char) : List Char → Option (List Char)
  | [] => none
  | c :: rest => if c = mark then some rest else none

def isLeapYear (year : Nat) : Bool :=
  (year % 4 = 0 && year % 100 ≠ 0) || year % 400 = 0

def daysInMonth (year month : Nat) : Nat :=
  if month = 2 then (if isLeapYear year then 29 else 28)
  else if month = 4 || month = 6 || month = 9 || month = 11 then 30
  else 31

/-- A number with zeros in front up to a width. -/
def padded (width n : Nat) : List Char :=
  let digits := Nat.toDigits 10 n
  List.replicate (width - digits.length) '0' ++ digits

/-- A date that exists, in its normal text. -/
def date? (text : List Char) : Option (List Char × List Char) := do
  let (year, rest) ← fixed? 4 text
  let (month, rest) ← fixed? 2 (← mark? '-' rest)
  let (day, rest) ← fixed? 2 (← mark? '-' rest)
  if 1 ≤ month ∧ month ≤ 12 ∧ 1 ≤ day ∧ day ≤ daysInMonth year month then
    some (padded 4 year ++ '-' :: padded 2 month ++ '-' :: padded 2 day, rest)
  else none

/-- The digits of a fraction of a second: nine count, and zeros at their end are dropped. -/
def fractionText (digits : List Char) : List Char :=
  let kept := ((digits.take 9).reverse.dropWhile (· = '0')).reverse
  if kept = [] then [] else '.' :: kept

/-- A time of day, in its normal text. -/
def time? (text : List Char) : Option (List Char × List Char) := do
  let (hour, rest) ← fixed? 2 text
  let (minute, rest) ← fixed? 2 (← mark? ':' rest)
  let (second, rest) ← fixed? 2 (← mark? ':' rest)
  if 23 < hour ∨ 59 < minute ∨ 60 < second then none
  else
    let base := padded 2 hour ++ ':' :: padded 2 minute ++ ':' :: padded 2 second
    match rest with
    | '.' :: rest =>
      let digits := rest.takeWhile Char.isDigit
      if digits = [] then none else some (base ++ fractionText digits, rest.dropWhile Char.isDigit)
    | _ => some (base, rest)

/-- An offset from universal time, in its normal text; nothing is an offset too. -/
def offset? (text : List Char) : Option (List Char) :=
  match text with
  | [] => some []
  | [c] => if c = 'Z' || c = 'z' then some ['Z'] else none
  | sign :: rest => do
    if sign ≠ '+' ∧ sign ≠ '-' then none
    let (hours, rest) ← fixed? 2 rest
    let (minutes, rest) ← fixed? 2 (← mark? ':' rest)
    if rest ≠ [] ∨ 23 < hours ∨ 59 < minutes then none
    else
      let sign := if hours = 0 ∧ minutes = 0 then '+' else sign
      some (sign :: padded 2 hours ++ ':' :: padded 2 minutes)

/-- A date, a time, or a date with a time and perhaps an offset, as a whole text. -/
def moment? (text : List Char) : Option (List Char) :=
  match date? text with
  | some (date, []) => some date
  | some (date, mark :: rest) => do
    if mark ≠ 'T' ∧ mark ≠ 't' ∧ mark ≠ ' ' then none
    let (time, rest) ← time? rest
    let offset ← offset? rest
    some (date ++ 'T' :: time ++ offset)
  | none =>
    match time? text with
    | some (time, []) => some time
    | _ => none

/-- The key under which a date or time is kept. -/
def momentKey : String := "$__toml_private_datetime"

def ofMoment (text : List Char) : Json :=
  .object [(momentKey, .string (String.ofList text))]

/-- The characters of numbers, dates and truth values. -/
def isWordChar (c : Char) : Bool :=
  c.isAlphanum || c = '+' || c = '-' || c = '_' || c = '.' || c = ':'

/-- A word, and after a date also a blank with the time that follows it. -/
def splitWord (text : List Char) : List Char × List Char :=
  let word := text.takeWhile isWordChar
  let rest := text.dropWhile isWordChar
  match date? word, rest with
  | some (_, []), ' ' :: c :: after =>
    if c.isDigit then
      (word ++ ' ' :: (c :: after).takeWhile isWordChar, (c :: after).dropWhile isWordChar)
    else (word, rest)
  | _, _ => (word, rest)

/-- What a word stands for. -/
def ofWord? (word : List Char) : Option Json :=
  if word = "true".toList then some (.bool true)
  else if word = "false".toList then some (.bool false)
  else ((moment? word).map ofMoment).or ((special? word).or ((integer? word).or (decimal? word)))

end PathQuery.Toml
