import PathQuery.Text.Blank

namespace PathQuery.Regex

/-- Why a text is no usable regular expression. -/
inductive Fault where
  | malformed
  | tooLarge
deriving DecidableEq, Repr

/-- The flags in force at a place of the expression. -/
structure Flags where
  ignoreCase : Bool := false
  multiLine : Bool := false
  dotAll : Bool := false
  swapGreed : Bool := false
  unicode : Bool := true
  carriageReturns : Bool := false
  freeSpacing : Bool := false
deriving Repr

namespace Flags

def set (flags : Flags) (value : Bool) : Char → Option Flags
  | 'i' => some { flags with ignoreCase := value }
  | 'm' => some { flags with multiLine := value }
  | 's' => some { flags with dotAll := value }
  | 'U' => some { flags with swapGreed := value }
  | 'u' => some { flags with unicode := value }
  | 'R' => some { flags with carriageReturns := value }
  | 'x' => some { flags with freeSpacing := value }
  | _ => none

end Flags

/-- Skips white space and comments; a comment reaches from `#` to the end of its line. -/
def skipFiller : (inComment : Bool) → List Char → List Char
  | _, [] => []
  | true, c :: rest => skipFiller (c ≠ '\n') rest
  | false, c :: rest =>
    if Text.isBlank c then skipFiller false rest
    else if c = '#' then skipFiller true rest
    else c :: rest

/-- Where the next character of meaning stands: white space counts unless spacing is free. -/
def Flags.skip (flags : Flags) (text : List Char) : List Char :=
  if flags.freeSpacing then skipFiller false text else text

end PathQuery.Regex
