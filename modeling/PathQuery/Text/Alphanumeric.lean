import PathQuery.Text.Blank
import PathQuery.Unicode.Category
import PathQuery.Unicode.Property
import PathQuery.Unicode.Recent

namespace PathQuery.Text

def alphabeticCodes : CodeSet :=
  (Unicode.propertyCodes "alphabetic").union Unicode.Recent.alphabetic

def numericCodes : CodeSet :=
  (Unicode.categoryCodes "n").union Unicode.Recent.numeric

/-- Letters and what counts as one. The table is asked only beyond ASCII. -/
def isAlphabetic (c : Char) : Bool :=
  if c.toNat < 128 then c.isAlpha else alphabeticCodes.has c

/-- Letters, decimal digits and other numbers. White space is none of them, so that the tables are
not asked for it either. -/
def isAlphanumeric (c : Char) : Bool :=
  if c.toNat < 128 then c.isAlphanum
  else !isBlank c && (alphabeticCodes.has c || numericCodes.has c)

end PathQuery.Text
