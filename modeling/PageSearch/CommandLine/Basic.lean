import PageSearch.Command

/-!
# Command lines

A command line names a command, its query or url, and options. Some options may stand before the
command or after it; where an option with a value stands in both places, the later one counts.
-/

namespace PageSearch

/-- What is asked of the program. -/
structure CommandLine where
  config : Option String
  documents : Option String
  noCache : Bool
  verbose : Bool
  command : Command
  deriving DecidableEq

/-- Why nothing is asked of the program. -/
inductive Refusal where
  /-- The program was called without any argument. -/
  | nothingGiven
  | helpWanted
  | versionWanted
  /-- An option lacks its value, or has an empty one where that makes no sense. -/
  | missingValue
  /-- A value is no number, or out of range. -/
  | invalidValue
  /-- An option has a value but takes none. -/
  | needlessValue
  /-- An option is given twice in one place. -/
  | repeated
  | unknownArgument
  | unknownCommand
  | missingCommand
  /-- The query or url is missing. -/
  | missingArgument
  deriving DecidableEq

namespace CommandLine

inductive CommandName where
  | search
  | suggest
  | visit
  | lookup
  | check
  deriving DecidableEq

/-- The command with a name. -/
def commandName? : String → Option CommandName
  | "search" => some .search
  | "suggest" => some .suggest
  | "open" => some .visit
  | "lookup" => some .lookup
  | "check" => some .check
  | _ => none

inductive OptionName where
  | config
  | documents
  | noCache
  | verbose
  | limit
  | pick
  | help
  | version
  deriving DecidableEq

/-- Whether an option has a value. -/
def OptionName.takesValue : OptionName → Bool
  | config | documents | limit | pick => true
  | noCache | verbose | help | version => false

/-- Where arguments stand: before the command, or after it. -/
inductive Level where
  | top
  | below (command : CommandName)
  deriving DecidableEq

/-- Whether an option may be given at a level. -/
def Level.allows : Level → OptionName → Bool
  | _, .config | _, .documents | _, .noCache | _, .verbose | _, .help => true
  | .top, .version => true
  | .below .search, .limit => true
  | .below .visit, .pick => true
  | _, _ => false

/-- Whether a query or url is given at a level. -/
def Level.takesArgument : Level → Bool
  | .top | .below .check => false
  | .below _ => true

/-- The option with a letter. -/
def shortOption? : Char → Option OptionName
  | 'c' => some .config
  | 'd' => some .documents
  | 'v' => some .verbose
  | 'n' => some .limit
  | 'p' => some .pick
  | 'h' => some .help
  | 'V' => some .version
  | _ => none

/-- The option with a name. -/
def longOption? : String → Option OptionName
  | "config" => some .config
  | "documents" => some .documents
  | "no-cache" => some .noCache
  | "verbose" => some .verbose
  | "limit" => some .limit
  | "pick" => some .pick
  | "help" => some .help
  | "version" => some .version
  | _ => none

/-- What has been given at a level. -/
structure Given where
  config : Option String
  documents : Option String
  noCache : Bool
  verbose : Bool
  limit : Option Nat
  pick : Option Nat
  argument : Option String
  deriving DecidableEq

def Given.nothing : Given :=
  ⟨none, none, false, false, none, none, none⟩

end CommandLine

end PageSearch
