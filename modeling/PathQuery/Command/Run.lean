import PathQuery.Command.Arguments
import PathQuery.Records.Description
import PathQuery.Session
import PathQuery.Settings

namespace PathQuery.Command

/-- What is found under the name of a file. -/
inductive FileContent where
  | missing
  | unreadable
  | text (content : String)

/-- Where a command finds its files and its standard input. -/
structure Surroundings (m : Type → Type) where
  contentOf : String → m FileContent
  input : m (Option String)
  /-- The file with the settings, if no other is named. -/
  settingsFile : String

/-- Why a command fails. -/
inductive Failure where
  | usage
  | unreadableFile (path : String)
  | unreadableInput
  | badSettings (path : String)
  | badAssignment (fault : AssignmentFault)
  | badData (path : String)
  | dataNeeded
  | query (e : Error)

namespace Failure

def message : Failure → String
  | .usage => "usage"
  | .unreadableFile path => "Failed to read " ++ path
  | .unreadableInput => "Failed to read stdin"
  | .badSettings path => "Invalid config file " ++ path
  | .badAssignment fault => fault.message
  | .badData path => "Invalid JSON in " ++ path
  | .dataNeeded => "--data is required unless --translate or --format is given"
  | .query e => e.message

/-- The first line of the message. -/
def headline (failure : Failure) : String :=
  String.ofList (Text.firstLine failure.message.toList)

def exitCode : Failure → UInt8
  | .usage => 2
  | _ => 1

end Failure

variable {m : Type → Type} [Monad m]

/-- The settings of a file; a missing file leaves everything as usual. -/
def loadSettings (surroundings : Surroundings m) (path : String) : ExceptT Failure m Settings := do
  match ← surroundings.contentOf path with
  | .missing => return {}
  | .unreadable => throw (.unreadableFile path)
  | .text content =>
    match Settings.ofToml? content with
    | some settings => return settings
    | none => throw (.badSettings path)

/-- The data in a file; a dash stands for the standard input. -/
def loadData (surroundings : Surroundings m) (path : String) : ExceptT Failure m Json := do
  let content ←
    if path = "-" then
      match ← surroundings.input with
      | some content => pure content
      | none => throw .unreadableInput
    else
      match ← surroundings.contentOf path with
      | .text content => pure content
      | _ => throw (.unreadableFile path)
  match Json.parse? content with
  | some data => return data
  | none => throw (.badData path)

/-- A backend's query as it is shown. -/
def backendText : BackendQuery → String
  | .text text => text
  | .records pipeline => pipeline.outline.lines

def ofExcept {ε α : Type} (wrap : ε → Failure) : Except ε α → ExceptT Failure m α
  | .ok value => pure value
  | .error e => throw (wrap e)

/-- What the command prints: the query in its usual form, the backend's query, or the answer from
the data. Settings come first, then the query, then the data. -/
def run (surroundings : Surroundings m) (arguments : Arguments) : ExceptT Failure m String := do
  let settings ← loadSettings surroundings (arguments.config.getD surroundings.settingsFile)
  let settings ← ofExcept .badAssignment (arguments.sets.foldlM Settings.assign settings)
  let session ← ofExcept .query (Session.start .braces arguments.query)
  let name := arguments.adapter.or settings.defaultAdapter
  if arguments.format then
    return session.query.render ++ "\n"
  else if arguments.translate then
    let (_, result) ← session.translate Registry.builtin name settings.context
    return backendText (← ofExcept .query result) ++ "\n"
  else
    match arguments.data with
    | none => throw .dataNeeded
    | some path =>
      let data ← loadData surroundings path
      let (_, result) ← session.execute Registry.builtin name data settings.context
      return (← ofExcept .query result).pretty ++ "\n"

/-- The command from its command line on. -/
def runLine (surroundings : Surroundings m) (line : List String) : m (Except Failure String) :=
  match Arguments.read? line with
  | none => pure (.error .usage)
  | some arguments => (run surroundings arguments).run

end PathQuery.Command
