import PathQuery.Text.Basic

namespace PathQuery.Command

/-- Options that take a value. -/
inductive ValueOption where
  | data
  | adapter
  | set
  | config
deriving DecidableEq, Repr

/-- Options that stand alone. -/
inductive Flag where
  | translate
  | format
deriving DecidableEq, Repr

/-- One argument with its value. -/
inductive Part where
  | query (text : String)
  | value (option : ValueOption) (text : String)
  | flag (flag : Flag)
deriving DecidableEq, Repr

structure Arguments where
  query : String
  data : Option String := none
  adapter : Option String := none
  sets : List String := []
  config : Option String := none
  translate : Bool := false
  format : Bool := false
deriving DecidableEq, Repr

def ValueOption.ofLong? (name : List Char) : Option ValueOption :=
  if name = "data".toList then some .data
  else if name = "adapter".toList then some .adapter
  else if name = "set".toList then some .set
  else if name = "config".toList then some .config
  else none

def ValueOption.ofShort? : Char → Option ValueOption
  | 'd' => some .data
  | 'a' => some .adapter
  | 's' => some .set
  | _ => none

def Flag.ofLong? (name : List Char) : Option Flag :=
  if name = "translate".toList then some .translate
  else if name = "format".toList then some .format
  else none

/-- Whether an argument may be the value of the option before it. A single dash may. -/
def isValue (argument : String) : Bool :=
  argument = "-" || argument.toList.head? ≠ some '-'

/-- What an argument is by itself. -/
inductive Shape where
  | plain
  | ending
  | flag (flag : Flag)
  | withValue (option : ValueOption) (value : String)
  | awaiting (option : ValueOption)
  | unknown
deriving DecidableEq, Repr

def longShape (body : List Char) : Shape :=
  match Text.cutAt '=' body with
  | some (name, value) =>
    match ValueOption.ofLong? name with
    | some option => .withValue option (String.ofList value)
    | none => .unknown
  | none =>
    match ValueOption.ofLong? body, Flag.ofLong? body with
    | some option, _ => .awaiting option
    | none, some flag => .flag flag
    | none, none => .unknown

def shortShape (letter : Char) (rest : List Char) : Shape :=
  match ValueOption.ofShort? letter, rest with
  | none, _ => .unknown
  | some option, [] => .awaiting option
  | some option, '=' :: value => .withValue option (String.ofList value)
  | some option, value => .withValue option (String.ofList value)

def shape (argument : String) : Shape :=
  match argument.toList with
  | ['-', '-'] => .ending
  | '-' :: '-' :: body => longShape body
  | '-' :: letter :: rest => shortShape letter rest
  | _ => .plain

/-- The parts of a command line, if every argument can be understood. -/
def readParts : List String → Option (List Part)
  | [] => some []
  | argument :: rest =>
    match shape argument with
    | .plain => (readParts rest).map (.query argument :: ·)
    | .ending => some (rest.map .query)
    | .flag flag => (readParts rest).map (.flag flag :: ·)
    | .withValue option value => (readParts rest).map (.value option value :: ·)
    | .awaiting option =>
      match rest with
      | [] => none
      | value :: rest =>
        if isValue value then (readParts rest).map (.value option value :: ·) else none
    | .unknown => none

/-- The values an option is given, in order. -/
def valuesOf (option : ValueOption) (parts : List Part) : List String :=
  parts.filterMap fun
    | .value other text => if other = option then some text else none
    | _ => none

/-- The value of an option that may be given once. -/
def single? : List String → Option (Option String)
  | [] => some none
  | [value] => some (some value)
  | _ => none

/-- The value of an option that names a file; an empty name is refused. -/
def singlePath? (values : List String) : Option (Option String) :=
  if values.contains "" then none else single? values

/-- Whether a flag is given. Twice is refused. -/
def given? (flag : Flag) (parts : List Part) : Option Bool :=
  match parts.count (.flag flag) with
  | 0 => some false
  | 1 => some true
  | _ => none

/-- The arguments of a command line. There is one query, and only values for placeholders may be
given more than once. -/
def Arguments.ofParts? (parts : List Part) : Option Arguments := do
  let queries := parts.filterMap fun
    | .query text => some text
    | _ => none
  let query ← (← single? queries)
  return {
    query := query
    data := ← singlePath? (valuesOf .data parts)
    adapter := ← single? (valuesOf .adapter parts)
    sets := valuesOf .set parts
    config := ← singlePath? (valuesOf .config parts)
    translate := ← given? .translate parts
    format := ← given? .format parts }

def Arguments.read? (arguments : List String) : Option Arguments :=
  (readParts arguments).bind Arguments.ofParts?

end PathQuery.Command
