import PageSearch.Program

/-!
# The command

Runs the program on the files of this machine and prints what it gives.
-/

open PageSearch

namespace PageSearch.Main

/-- How the program is called. -/
def usage : String :=
  "Usage: sitesearch [OPTIONS] <COMMAND>\n\n" ++
  "Commands:\n" ++
  "  search <QUERY> [-n <LIMIT>]  Ranked full-text results\n" ++
  "  suggest <QUERY>              The typeahead dropdown for a query\n" ++
  "  open <QUERY> [-p <PICK>]     Select a suggestion and print its navigation target\n" ++
  "  lookup <URL>                 Print the page stored under a url\n" ++
  "  check                        Validate the document file and report index statistics\n\n" ++
  "Options:\n" ++
  "  -c, --config <CONFIG>        Configuration file\n" ++
  "  -d, --documents <DOCUMENTS>  JSON document array to search\n" ++
  "      --no-cache               Always rebuild the index\n" ++
  "  -v, --verbose\n" ++
  "  -h, --help                   Print help\n" ++
  "  -V, --version                Print version\n"

/-- The result of an action, unless it fails. -/
def attempt? {α : Type} (action : IO α) : IO (Option α) := do
  try
    return some (← action)
  catch _ =>
    return none

/-- Performs a task on the files of a folder. -/
def perform {α : Type} (folder : String) : FileTask IO.FS.Handle α → IO α
  | .done a => pure a
  | .read name next => do
    let bytes ← attempt? (IO.FS.readBinFile (folder ++ "/" ++ name))
    perform folder (next (bytes.map fun b => b.data.toList))
  | .remove name next => do
    let _ ← attempt? (IO.FS.removeFile (folder ++ "/" ++ name))
    perform folder next
  | .makeFolder next => do
    let made ← attempt? (IO.FS.createDirAll folder)
    perform folder (next made.isSome)
  | .create name next => do
    let file ← attempt? (IO.FS.Handle.mk (folder ++ "/" ++ name) .write)
    perform folder (next file)
  | .write file bytes next => do
    let written ← attempt? do
      file.write ⟨bytes.toArray⟩
      file.flush
    perform folder (next written.isSome)
  | .rename source target next => do
    let renamed ← attempt? (IO.FS.rename (folder ++ "/" ++ source) (folder ++ "/" ++ target))
    perform folder (next renamed.isSome)

/-- A folder of the user: the one that an environment variable names, or one in the home folder. -/
def userFolder (name fallback : String) : IO (Option String) := do
  match ← IO.getEnv name with
  | some folder => if folder.startsWith "/" then return some (folder ++ "/sitesearch")
  | none => pure ()
  return (← IO.getEnv "HOME").map fun home => home ++ "/" ++ fallback ++ "/sitesearch"

/-- The number of this process, which is the first word of what the system tells about it. Where it
tells nothing, the time stands in for it. -/
def processNumber : IO Nat := do
  let told ← attempt? (IO.FS.readFile "/proc/self/stat")
  match told.bind fun line => (line.splitOn " ").head?.bind String.toNat? with
  | some number => return number
  | none => IO.monoNanosNow

/-- The environment of the program on this machine. -/
def environment : IO (Environment IO.FS.Handle IO) := do
  let config ← userFolder "XDG_CONFIG_HOME" ".config"
  let cache ← userFolder "XDG_CACHE_HOME" ".cache"
  return {
    defaultConfig := config.map (· ++ "/config.toml")
    defaultCache := cache
    writer := ← processNumber
    isThere := fun path => return (← attempt? (IO.FS.realPath path)).isSome
    read := fun path => attempt? (IO.FS.readBinFile path)
    perform := perform }

/-- The message for an error. -/
def messageFor (e : ProgramError) : String :=
  e.message?.getD "the search broke down"

/-- Runs the program and prints what it gives. -/
def run (args : List String) : IO UInt32 := do
  match ← Program.run (← environment) args with
  | .ok text =>
    IO.print text
    return 0
  | .error (.refused .helpWanted) =>
    IO.print usage
    return 0
  | .error (.refused r) =>
    IO.eprint usage
    return (ProgramError.exitCode (.refused r)).toUInt32
  | .error e =>
    IO.eprintln ("Error: " ++ messageFor e)
    return e.exitCode.toUInt32

end PageSearch.Main

def main (args : List String) : IO UInt32 :=
  PageSearch.Main.run args
