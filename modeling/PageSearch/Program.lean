import PageSearch.Cache.Basic
import PageSearch.CommandLine.Reader
import PageSearch.Config.Decode
import PageSearch.Store.Load

/-!
# The program

The program reads its command line, its configuration and the document file, loads or builds the
index, and carries out one command. What it does with files is left to an environment, in a monad of
the caller's choice.
-/

namespace PageSearch

/-- What surrounds the program: where files are by default, and what can be done with them. -/
structure Environment (Handle : Type) (m : Type → Type) where
  /-- The configuration file that is read if it is there and no other is named. -/
  defaultConfig : Option String
  /-- The folder for cached indexes if the configuration names none. -/
  defaultCache : Option String
  /-- A number that tells this writer of cached indexes from others. -/
  writer : Nat
  isThere : String → m Bool
  /-- The contents of a file, if it can be read. -/
  read : String → m (Option ByteArray)
  /-- Performs a task on the files of a folder. -/
  perform : String → FileTask Handle Index → m Index

/-- A document file that gives no store. -/
structure OpenError where
  path : String
  cause : LoadError
  deriving DecidableEq

def OpenError.message (e : OpenError) : String :=
  "Failed to open document store " ++ e.path

/-- Why the program prints nothing. -/
inductive ProgramError where
  | refused (r : Refusal)
  | config (e : ConfigFileError)
  | noDocuments
  | store (e : OpenError)
  | command (e : CommandError)
  deriving DecidableEq

/-- The text of the error, where its wording is fixed. -/
def ProgramError.message? : ProgramError → Option String
  | .refused _ => none
  | .config e => some e.message
  | .noDocuments => some
      "No document file given: pass --documents or set `documents` in the configuration"
  | .store e => some e.message
  | .command e => e.message?

namespace Program

variable {Handle : Type} {m : Type → Type} [Monad m]

/-- The name and version of the program. -/
def versionText : String :=
  "sitesearch 0.1.0\n"

/-- The configuration: that of the file that is named, else that of the default file if it is there,
else the one that an empty text gives. -/
def loadConfig (env : Environment Handle m) (named : Option String) :
    m (Except ConfigFileError Config) := do
  match named with
  | some path => return Config.ofFile path (← env.read path)
  | none =>
    match env.defaultConfig with
    | none => return .ok .default
    | some path =>
      if ← env.isThere path then return Config.ofFile path (← env.read path)
      else return .ok .default

/-- The folder for cached indexes. -/
def cacheFolder? (env : Environment Handle m) (c : Config) : Option String :=
  c.cacheFolder.or env.defaultCache

/-- The adapter for a document file, with its index from the cache or built anew. -/
def openAdapter (env : Environment Handle m) (c : Config) (useCache : Bool) (documents : String) :
    m (Except OpenError Adapter) := do
  match Store.load (← env.read documents) with
  | .error cause => return .error ⟨documents, cause⟩
  | .ok store =>
    let index ←
      match if useCache then cacheFolder? env c else none with
      | some folder => env.perform folder (Cache.loadOrBuild Handle env.writer store c.boosts)
      | none => pure (Index.build c.boosts store.records)
    return .ok (((Adapter.new store index).withPolicy c.policy).withCapacity c.capacity)

/-- Does what a command line asks, and gives the text to print. -/
def runLine (env : Environment Handle m) (line : CommandLine) : m (Except ProgramError String) := do
  match ← loadConfig env line.config with
  | .error e => return .error (.config e)
  | .ok c =>
    match line.documents.or c.documents with
    | none => return .error .noDocuments
    | some documents =>
      match ← openAdapter env c (!line.noCache) documents with
      | .error e => return .error (.store e)
      | .ok adapter =>
        match (line.command.run c adapter).1 with
        | .error e => return .error (.command e)
        | .ok text => return .ok text

/-- Runs the program with its arguments, and gives the text to print. -/
def run (env : Environment Handle m) (args : List String) : m (Except ProgramError String) := do
  match CommandLine.ofArguments args with
  | .error .versionWanted => return .ok versionText
  | .error r => return .error (.refused r)
  | .ok line => runLine env line

end Program

/-- The exit code of the program for an error. -/
def ProgramError.exitCode : ProgramError → Nat
  | .refused .helpWanted => 0
  | .refused _ => 2
  | .config _ | .noDocuments | .store _ | .command _ => 1

end PageSearch
