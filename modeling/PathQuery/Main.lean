import PathQuery.Command.Run

namespace PathQuery.Command

/-- What the file system holds under a name. -/
def readFile (path : String) : IO FileContent := do
  try
    return .text (← IO.FS.readFile path)
  catch
    | .noFileOrDirectory .. => return .missing
    | _ => return .unreadable

/-- All of the standard input, if it is text. -/
partial def readInput : IO (Option String) := do
  let input ← IO.getStdin
  let rec collect (bytes : ByteArray) : IO ByteArray := do
    let chunk ← input.read 65536
    if chunk.isEmpty then return bytes else collect (bytes ++ chunk)
  return String.fromUTF8? (← collect .empty)

/-- The directory for the settings of programs. -/
def settingsDirectory : IO String := do
  match ← IO.getEnv "XDG_CONFIG_HOME" with
  | some directory => if directory.startsWith "/" then return directory else fallback
  | none => fallback
where
  fallback : IO String := do
    match ← IO.getEnv "HOME" with
    | some home => return home ++ "/.config"
    | none => return "."

end PathQuery.Command

open PathQuery.Command in
def main (arguments : List String) : IO UInt32 := do
  let surroundings : Surroundings IO :=
    { contentOf := readFile
      input := readInput
      settingsFile := (← settingsDirectory) ++ "/universql/config.toml" }
  match ← runLine surroundings arguments with
  | .ok output =>
    IO.print output
    return 0
  | .error failure =>
    IO.eprintln ("Error: " ++ failure.message)
    return failure.exitCode.toUInt32
