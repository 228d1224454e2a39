import PathQuery.Query.Basic
import PathQuery.Query.SyntaxError
import PathQuery.Regex.Flags
import PathQuery.Regex.Space.Basic

namespace PathQuery

/-- Why an adapter cannot be registered. -/
inductive AdapterFault where
  | unnamed
  | nameTaken (name : String)
deriving DecidableEq, Repr

/-- Why a stream of filters has no meaning. -/
inductive StreamFault where
  | empty
  | noOperands (connective : Connective)
  | operatorAlone
  | leftover (values : Nat)
  | needsPattern (key : String)
  | needsMatch (key : String)
deriving DecidableEq, Repr

/-- Where a filled placeholder may turn out wrong. -/
inductive Position where
  | fieldPath
  | sortField
  | filterKey
  | filterValue
deriving DecidableEq, Repr

/-- Why a text is no marker. -/
inductive MarkerFault where
  | unreadable (fault : Regex.Fault)
  | noGroup
deriving DecidableEq, Repr

inductive Error where
  | badQuery (cause : SyntaxError)
  | malformedAdapter (fault : AdapterFault)
  | unknownAdapter (name : String)
  | noAdapter
  | defaultInUse (name : String)
  | malformedFilter (index : Nat) (fault : StreamFault)
  | notRecords (kind : String)
  | missingValue (name : String)
  | invalidSubstitution (position : Position) (value : String)
  | invalidLimit (text : String)
  | invalidRegex (pattern : String) (fault : Regex.Fault)
  | invalidMarker (fault : MarkerFault)
  | runNotSupported (adapter : String)
  | incompatibleQuery (adapter : String)
  | unsupported (adapter feature : String)
deriving DecidableEq, Repr

def AdapterFault.message : AdapterFault → String
  | .unnamed => "adapter has no name"
  | .nameTaken name => "an adapter named " ++ Text.quoted name ++ " is already registered"

def StreamFault.message : StreamFault → String
  | .empty => "empty filter expression"
  | .noOperands connective => "'" ++ String.singleton connective.symbol ++ "' has no operands"
  | .operatorAlone => "operator with no operands"
  | .leftover values => "expression leaves " ++ toString values ++ " values on the stack"
  | .needsPattern key => "'~' on " ++ Text.quoted key ++ " needs a regex or string pattern"
  | .needsMatch key => "regex value on " ++ Text.quoted key ++ " needs '~'"

def Position.name : Position → String
  | .fieldPath => "field path"
  | .sortField => "sort field"
  | .filterKey => "filter key"
  | .filterValue => "filter value"

/-- The first line of what is said about a pattern that cannot be used. -/
def Regex.Fault.message : Regex.Fault → String
  | .malformed => "regex parse error:"
  | .tooLarge => "Compiled regex exceeds size limit of " ++ toString Regex.Space.limit ++ " bytes."

namespace Error

/-- The error without what is said about an unusable pattern. -/
def headline : Error → String
  | .badQuery cause => cause.message
  | .malformedAdapter fault => "malformed adapter: " ++ fault.message
  | .unknownAdapter name => "adapter " ++ Text.quoted name ++ " hasn't been registered"
  | .noAdapter => "no adapter specified and no default adapter is set"
  | .defaultInUse name =>
    Text.quoted name ++ " is the default adapter; set another default before removing it"
  | .malformedFilter index fault =>
    "malformed filter expression at token " ++ toString index ++ ": " ++ fault.message
  | .notRecords kind => "data must be an array of records, got " ++ kind
  | .missingValue name => "no value for placeholder " ++ Text.quoted name ++ " in the context"
  | .invalidSubstitution position value =>
    "placeholder substitution produced an invalid " ++ position.name ++ ": " ++ Text.quoted value
  | .invalidLimit text => "limit must be an integer, got " ++ Text.quoted text
  | .invalidRegex pattern _ => "invalid regular expression /" ++ pattern ++ "/"
  | .invalidMarker (.unreadable _) => "invalid template marker pattern"
  | .invalidMarker .noGroup =>
    "invalid template marker pattern: the placeholder name must be captured by group 1"
  | .runNotSupported adapter =>
    "adapter " ++ Text.quoted adapter ++ " is compile-only and cannot run queries"
  | .incompatibleQuery adapter =>
    "adapter " ++ Text.quoted adapter ++ " cannot execute this kind of backend query"
  | .unsupported adapter feature =>
    "adapter " ++ Text.quoted adapter ++ " does not support " ++ feature

/-- The error as it is shown. -/
def message (e : Error) : String :=
  match e with
  | .invalidRegex _ fault => e.headline ++ ": " ++ fault.message
  | .invalidMarker (.unreadable fault) => e.headline ++ ": " ++ fault.message
  | _ => e.headline

end Error
end PathQuery
