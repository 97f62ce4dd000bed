import PageSearch.CommandLine.Basic

/-!
# Reading command lines

Arguments are read from left to right at one level at a time. An option with a value waits for the
next argument, unless the value is attached to it; letters may be put together after one dash. A
waiting option takes any argument that does not look like an option itself, also a command's name.
Two dashes make what follows a query or url, whatever it looks like.

A value is taken in only when the next option, query or url comes, or when the level ends, and it is
then that it is found missing, repeated or invalid. The level below the command is read to its end
before the last value above is taken in, so that its faults come first.
-/

namespace PageSearch

namespace CommandLine

/-- A whole number of at most 64 bits, which a plus sign may precede. -/
def number? (text : String) : Option Nat :=
  let digits :=
    match text.toList with
    | '+' :: rest => rest
    | s => s
  let n := digits.foldl (fun n c => n * 10 + (c.toNat - '0'.toNat)) 0
  if digits.isEmpty || !digits.all Char.isDigit || 1 <<< 64 ≤ n then none else some n

/-- Takes in a path under an option that has none yet. -/
def givePath (old : Option String) (text : String) : Except Refusal (Option String) :=
  if old.isSome then .error .repeated
  else if text = "" then .error .missingValue
  else .ok (some text)

/-- Takes in a number under an option that has none yet. -/
def giveNumber (least : Nat) (old : Option Nat) (text : String) :
    Except Refusal (Option Nat) :=
  if old.isSome then .error .repeated
  else
    match number? text with
    | some n => if least ≤ n then .ok (some n) else .error .invalidValue
    | none => .error .invalidValue

/-- Takes in an option that has no value. -/
def giveFlag (old : Bool) : Except Refusal Bool :=
  if old then .error .repeated else .ok true

/-- Takes in an option, with its value if it has come. -/
def give (g : Given) (option : OptionName) (value : Option String) : Except Refusal Given :=
  match option, value with
  | .config, some text => do return { g with config := ← givePath g.config text }
  | .documents, some text => do return { g with documents := ← givePath g.documents text }
  | .limit, some text => do return { g with limit := ← giveNumber 1 g.limit text }
  | .pick, some text => do return { g with pick := ← giveNumber 0 g.pick text }
  | .noCache, _ => do return { g with noCache := ← giveFlag g.noCache }
  | .verbose, _ => do return { g with verbose := ← giveFlag g.verbose }
  | .help, _ => .error .helpWanted
  | .version, _ => .error .versionWanted
  | .config, none | .documents, none | .limit, none | .pick, none => .error .missingValue

/-- How far a level has been read: what has been taken in, the option whose value comes next or has
come last, and whether two dashes have come. -/
structure Progress where
  given : Given
  pending : Option (OptionName × Option String)
  literal : Bool

namespace Progress

def start : Progress :=
  ⟨.nothing, none, false⟩

/-- Takes in the pending option. -/
def settle (p : Progress) : Except Refusal Progress :=
  match p.pending with
  | none => .ok p
  | some (option, value) => do
    return { p with given := ← give p.given option value, pending := none }

/-- The option that waits for a value. -/
def waiting? (p : Progress) : Option OptionName :=
  match p.pending with
  | some (option, none) => some option
  | _ => none

/-- Reads an option with the value attached to it, if there is one. -/
def readOption (p : Progress) (option : OptionName) (attached : Option String) :
    Except Refusal Progress := do
  let p ← p.settle
  if option.takesValue && attached.isNone then return { p with pending := some (option, none) }
  else return { p with given := ← give p.given option attached }

end Progress

/-- An option of the form `--name` or `--name=value`, without the dashes. -/
def readLong (level : Level) (p : Progress) (body : List Char) : Except Refusal Progress :=
  let name := body.takeWhile (· != '=')
  let attached :=
    match body.drop name.length with
    | '=' :: value => some (String.ofList value)
    | _ => none
  match longOption? (String.ofList name) with
  | none => .error .unknownArgument
  | some option =>
    if !level.allows option then .error .unknownArgument
    else if !option.takesValue && attached.isSome then .error .needlessValue
    else p.readOption option attached

/-- Options given by letters after one dash. The letters after that of an option with a value are
the value, which an equals sign may precede. -/
def readShort (level : Level) (p : Progress) : List Char → Except Refusal Progress
  | [] => .ok p
  | c :: rest =>
    match shortOption? c with
    | none => .error .unknownArgument
    | some option =>
      if !level.allows option then .error .unknownArgument
      else if option.takesValue then
        match rest with
        | [] => p.readOption option none
        | '=' :: value => p.readOption option (some (String.ofList value))
        | value => p.readOption option (some (String.ofList value))
      else do readShort level (← p.readOption option none) rest

/-- Reads an argument that is no option. -/
def readWord (level : Level) (p : Progress) (word : String) : Except Refusal Progress :=
  match level with
  | .top =>
    if p.literal && (word = "help" || (commandName? word).isSome) then .error .unknownArgument
    else .error .unknownCommand
  | .below _ =>
    if level.takesArgument && p.given.argument.isNone then do
      let p ← p.settle
      return { p with given := { p.given with argument := some word } }
    else .error .unknownArgument

/-- Reads an argument that neither names a command nor follows two dashes. -/
def readArgument (level : Level) (p : Progress) (arg : String) : Except Refusal Progress :=
  match arg.toList with
  | ['-', '-'] => .ok { p with literal := true }
  | '-' :: '-' :: body => readLong level p body
  | '-' :: c :: body => readShort level p (c :: body)
  | _ =>
    match p.waiting? with
    | some option => .ok { p with pending := some (option, some arg) }
    | none => readWord level p arg

/-- Reads the arguments after a command. -/
def readBelow (command : CommandName) : Progress → List String → Except Refusal Progress
  | p, [] => .ok p
  | p, arg :: rest => do
    let p ←
      if p.literal then readWord (.below command) p arg else readArgument (.below command) p arg
    readBelow command p rest

/-- A command with what is given for it. -/
def command? (name : CommandName) (g : Given) : Except Refusal Command :=
  match name, g.argument with
  | .check, _ => .ok .check
  | .search, some query => .ok (.search query (g.limit.getD 10))
  | .suggest, some query => .ok (.suggest query)
  | .visit, some query => .ok (.visit query (g.pick.getD 1))
  | .lookup, some url => .ok (.lookup url)
  | _, none => .error .missingArgument

/-- Why help for these words is no command line: help is shown for the program or one command. -/
def helpFor : List String → Refusal
  | [] => .helpWanted
  | [word] => if word = "help" || (commandName? word).isSome then .helpWanted else .unknownCommand
  | _ => .unknownCommand

/-- The command line of a command, given what stands before it and after it. -/
def assemble (above below : Given) (command : Command) : CommandLine where
  config := below.config.or above.config
  documents := below.documents.or above.documents
  noCache := below.noCache || above.noCache
  verbose := below.verbose || above.verbose
  command := command

/-- Reads the arguments before the command, and then those after it. -/
def readTop : Progress → List String → Except Refusal CommandLine
  | p, [] => do
    let p ← p.settle
    if p.given = .nothing then .error .nothingGiven else .error .missingCommand
  | p, arg :: rest =>
    if p.literal then do readTop (← readWord .top p arg) rest
    else if p.waiting?.isSome then do readTop (← readArgument .top p arg) rest
    else if arg = "help" then .error (helpFor rest)
    else
      match commandName? arg with
      | none => do readTop (← readArgument .top p arg) rest
      | some name => do
        let below ← (← readBelow name .start rest).settle
        let command ← command? name below.given
        let above ← p.settle
        return assemble above.given below.given command

/-- What the arguments of the program ask of it. -/
def ofArguments (args : List String) : Except Refusal CommandLine :=
  readTop .start args

end CommandLine

end PageSearch
