import PathQuery.Text.Alphanumeric
import PathQuery.Text.Basic

namespace PathQuery

def isNameChar (c : Char) : Bool :=
  Text.isAlphanumeric c || c = '_' || c = '$'

def isPathChar (c : Char) : Bool :=
  isNameChar c || c = '.'

/-- Whether a text is a path of one or more segments, none of them empty. -/
def isValidPath (text : List Char) : Bool :=
  (Text.splitOn '.' text).all fun segment => !segment.isEmpty && segment.all isNameChar

end PathQuery
