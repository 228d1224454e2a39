import PathQuery.Unicode.Category
import PathQuery.Unicode.Property
import PathQuery.Unicode.Recent

namespace PathQuery.Text

/-- Characters without a shape of their own: controls, format characters, separators, private use,
unassigned code points, and fillers that are ignored where they are not known. -/
def unseenCodes : CodeSet :=
  (CodeSet.unionAll [Unicode.categoryCodes "c", Unicode.categoryCodes "z",
    Unicode.propertyCodes "defaultignorablecodepoint"]).diff
      (Unicode.Recent.assigned.union (.single 0x20))

/-- Characters that attach to the one before them. -/
def extendingCodes : CodeSet :=
  (Unicode.propertyCodes "graphemeextend").union Unicode.Recent.extending

/-- Whether a character stands for itself between quotes. -/
def isVisible (c : Char) : Bool :=
  if c.toNat < 128 then 0x20 ≤ c.toNat && c.toNat < 0x7F
  else !(unseenCodes.has c || extendingCodes.has c)

/-- A character by its number: `\u`, then the number in hexadecimal between braces. -/
def codeEscape (c : Char) : List Char :=
  ['\\', 'u', '\x7b'] ++ Nat.toDigits 16 c.toNat ++ ['\x7d']

/-- One character of a text between two `quote`s. -/
def quotedChar (quote c : Char) : List Char :=
  if c = quote || c = '\\' then ['\\', c]
  else if c = '\x00' then ['\\', '0']
  else if c = '\t' then ['\\', 't']
  else if c = '\r' then ['\\', 'r']
  else if c = '\n' then ['\\', 'n']
  else if isVisible c then [c]
  else codeEscape c

/-- A text between double quotes. -/
def quoted (text : String) : String :=
  String.ofList (['"'] ++ text.toList.flatMap (quotedChar '"') ++ ['"'])

/-- A single character between single quotes. -/
def quotedSingle (c : Char) : String :=
  String.ofList (['\''] ++ quotedChar '\'' c ++ ['\''])

end PathQuery.Text
