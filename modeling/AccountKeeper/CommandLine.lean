import AccountKeeper.LogFormat
import AccountKeeper.Text.Pieces
import AccountKeeper.Text.Resemblance

/-!
# The command line

Arguments name one command, with options before and after it.  `CommandLine.read`
says what the arguments ask for; `CommandLineFault.message` and `HelpPage.text`
are what the user gets to see if it is not a command.
-/

set_option autoImplicit false

namespace AccountKeeper

inductive Command where
  | status
  | migrate
  | list
  deriving DecidableEq, Repr

namespace Command

def all : List Command := [status, migrate, list]

def name : Command → String
  | status => "status"
  | migrate => "migrate"
  | list => "list"

def purpose : Command → String
  | status => "Show whether a legacy single-account login is waiting to be migrated"
  | migrate => "Move the legacy login into the account list"
  | list => "List registered accounts"

def named? (name : String) : Option Command :=
  all.find? (·.name = name)

end Command

inductive OptionName where
  | verbose
  | logFormat
  | help
  | version
  deriving DecidableEq, Repr

namespace OptionName

def word : OptionName → String
  | verbose => "verbose"
  | logFormat => "log-format"
  | help => "help"
  | version => "version"

def shown : OptionName → String
  | logFormat => "--log-format <LOG_FORMAT>"
  | option => "--" ++ option.word

def withLetter : OptionName → String
  | verbose => "-v, --verbose"
  | logFormat => "    " ++ shown logFormat
  | help => "-h, --help"
  | version => "-V, --version"

def purpose : OptionName → String
  | verbose => "Enable verbose logging"
  | logFormat => "Log format: text, json or pretty"
  | help => "Print help"
  | version => "Print version"

def ofLetter? (letter : Char) : Option OptionName :=
  match letter with
  | 'v' => some verbose
  | 'h' => some help
  | 'V' => some version
  | _ => none

end OptionName

inductive HelpPage where
  | program
  | command (topic : Command)
  | help
  deriving DecidableEq, Repr

namespace HelpPage

def programName : String := "gh-accounts"

/-- The options that may be given at a place: all of them in front of a command. -/
def options : HelpPage → List OptionName
  | program => [.verbose, .logFormat, .help, .version]
  | command _ => [.verbose, .logFormat, .help]
  | help => []

def usageWith (page : HelpPage) (options : String) : String :=
  "Usage: " ++ programName ++ " " ++
    match page with
    | program => options ++ " <COMMAND>"
    | command topic => topic.name ++ " " ++ options
    | help => "help [COMMAND]..."

/-- The arguments in general terms; options that were given are named. -/
def usage (page : HelpPage) (given : List OptionName) : String :=
  page.usageWith (if given = [] then "[OPTIONS]" else " ".intercalate (given.map OptionName.shown))

def logOptions : List OptionName := [.verbose, .logFormat]

/-- The arguments in general terms after `given` and then `last`.  In front of a command, the options
for the log stand together as soon as one of them was given. -/
def usageAfter (page : HelpPage) (given : List OptionName) (last : OptionName) : String :=
  if page = program ∧ given ≠ [] then
    let joined := "<" ++ "|".intercalate (logOptions.map OptionName.shown) ++ ">"
    page.usageWith (if last ∈ logOptions then joined else last.shown ++ " " ++ joined)
  else
    page.usage (if last ∈ given then given else given ++ [last])

def columns (entries : List (String × String)) : String :=
  let width := entries.foldl (fun widest entry => max widest entry.1.length) 0
  String.join (entries.map fun (entry, explanation) =>
    let gap := String.ofList (List.replicate (width - entry.length + 2) ' ')
    "  " ++ entry ++ gap ++ explanation ++ "\n")

def helpPurpose : String := "Print this message or the help of the given subcommand(s)"

def purpose : HelpPage → String
  | program => "Manage GitHub accounts and migrate legacy credentials"
  | command topic => topic.purpose
  | help => helpPurpose

def commandList : String :=
  "Commands:\n" ++
    columns (Command.all.map (fun topic => (topic.name, topic.purpose)) ++ [("help", helpPurpose)])

def optionList (page : HelpPage) : String :=
  "Options:\n" ++ columns (page.options.map fun option => (option.withLetter, option.purpose))

def text (page : HelpPage) : String :=
  page.purpose ++ "\n\n" ++ page.usage [] ++ "\n\n" ++
    match page with
    | program => commandList ++ "\n" ++ page.optionList
    | command _ => page.optionList
    | help => "Arguments:\n" ++ columns [("[COMMAND]...", "Print help for the subcommand(s)")]

end HelpPage

inductive CommandLineFault where
  | unknownArgument (argument : String) (similar : Option OptionName) (place : HelpPage)
      (given : List OptionName)
  | unknownCommand (name : String) (similar : List String) (place : HelpPage)
  /-- A command behind two dashes is not taken as a command. -/
  | commandAfterDashes (name : String)
  | missingCommand
  | missingValue (option : OptionName)
  | invalidFormat (value : String)
  | repeatedOption (option : OptionName) (place : HelpPage)
  | surplusValue (value : String) (option : OptionName) (place : HelpPage)
      (given : List OptionName)
  deriving DecidableEq, Repr

namespace CommandLineFault

def quotedWords (words : List String) : String :=
  ", ".intercalate (words.map fun word => "'" ++ word ++ "'")

def sentence : CommandLineFault → String
  | unknownArgument argument _ _ _ => "unexpected argument '" ++ argument ++ "' found"
  | unknownCommand name _ _ => "unrecognized subcommand '" ++ name ++ "'"
  | commandAfterDashes name => "unexpected argument '" ++ name ++ "' found"
  | missingCommand =>
    "'" ++ HelpPage.programName ++ "' requires a subcommand but one was not provided\n" ++
      "  [subcommands: " ++ ", ".intercalate (Command.all.map Command.name ++ ["help"]) ++ "]"
  | missingValue option =>
    "a value is required for '" ++ option.shown ++ "' but none was supplied"
  | invalidFormat value =>
    "invalid value '" ++ value ++ "' for '" ++ OptionName.logFormat.shown ++ "': " ++
      LogFormat.refusal value
  | repeatedOption option _ =>
    "the argument '" ++ option.shown ++ "' cannot be used multiple times"
  | surplusValue value option _ _ =>
    "unexpected value '" ++ value ++ "' for '" ++ option.shown ++ "' found; no more were expected"

def tip? : CommandLineFault → Option String
  | unknownArgument _ (some option) _ _ =>
    some ("a similar argument exists: '--" ++ option.word ++ "'")
  | unknownCommand _ [] _ => none
  | unknownCommand _ [one] _ => some ("a similar subcommand exists: '" ++ one ++ "'")
  | unknownCommand _ several _ =>
    some ("some similar subcommands exist: " ++ quotedWords several)
  | commandAfterDashes name =>
    some ("subcommand '" ++ name ++ "' exists; to use it, remove the '--' before it")
  | _ => none

def usage? : CommandLineFault → Option String
  | unknownArgument _ _ place given => some (place.usage given)
  | unknownCommand _ _ place => some (place.usage [])
  | commandAfterDashes _ => some (HelpPage.program.usage [])
  | missingCommand => some (HelpPage.program.usage [])
  | repeatedOption _ place => some (place.usage [])
  | surplusValue _ option place given => some (place.usageAfter given option)
  | _ => none

/-- Where the user can read on: on every page but the help on help, which has no options. -/
def advice? : CommandLineFault → Option String
  | unknownCommand _ _ .help => none
  | _ => some "For more information, try '--help'."

def message (fault : CommandLineFault) : String :=
  let part (text : Option String) (lead : String) : String := (text.map (lead ++ ·)).getD ""
  "error: " ++ fault.sentence ++ part fault.tip? "\n\n  tip: " ++ part fault.usage? "\n\n" ++
    part fault.advice? "\n\n" ++ "\n"

end CommandLineFault

structure Arguments where
  command : Command
  verbose : Bool
  format : Option LogFormat
  deriving DecidableEq, Repr

namespace CommandLine

inductive Reading where
  | run (arguments : Arguments)
  | help (page : HelpPage)
  | version
  | nothing
  | fault (cause : CommandLineFault)
  deriving DecidableEq, Repr

structure Options where
  place : HelpPage
  given : List OptionName := []
  format : Option LogFormat := none
  /-- A format that was named but not looked at yet; `some none` while its name is awaited. -/
  pending : Option (Option String) := none
  ended : Bool := false

/-- Reading goes on with the options, or ends. -/
abbrev Step := Except Reading Options

namespace Options

def refuse {α : Type} (cause : CommandLineFault) : Except Reading α :=
  .error (.fault cause)

def settle (options : Options) : Step :=
  match options.pending with
  | none => .ok options
  | some none => refuse (.missingValue .logFormat)
  | some (some value) =>
    if .logFormat ∈ options.given then refuse (.repeatedOption .logFormat options.place)
    else
      match LogFormat.parse? value with
      | none => refuse (.invalidFormat value)
      | some format =>
        .ok { options with
          given := options.given ++ [.logFormat], format := some format, pending := none }

def mentioned (options : Options) : List OptionName :=
  match options.pending with
  | some (some _) =>
    if .logFormat ∈ options.given then options.given.erase .logFormat
    else options.given ++ [.logFormat]
  | _ => options.given

def adding (option : OptionName) (given : List OptionName) : List OptionName :=
  if option ∈ given then given else given ++ [option]

def take (options : Options) (option : OptionName) : Step := do
  let options ← options.settle
  match option with
  | .help => .error (.help options.place)
  | .version => .error .version
  | option =>
    if option ∈ options.given then refuse (.repeatedOption option options.place)
    else return { options with given := options.given ++ [option] }

def takeFormat (options : Options) (value : Option String) : Step := do
  let options ← options.settle
  let awaiting := { options with pending := some value }
  if value.isSome then awaiting.settle else return awaiting

/-- The option whose name resembles a word best. -/
def similar? (options : Options) (name : String) : Option OptionName :=
  let known := options.place.options
  (Text.similarWords name (known.map OptionName.word)).getLast?.bind fun word =>
    known.find? (·.word = word)

def takeNamed (options : Options) (text : List Char) : Step :=
  let (name, value) :=
    match Text.splitFirst '=' text with
    | none => (String.ofList text, none)
    | some (name, value) => (String.ofList name, some (String.ofList value))
  match options.place.options.find? (·.word = name), value with
  | none, _ =>
    let similar := options.similar? name
    let given := (similar.map (adding · options.mentioned)).getD options.mentioned
    refuse (.unknownArgument ("--" ++ name) similar options.place given)
  | some .logFormat, value => options.takeFormat value
  | some option, none => options.take option
  | some option, some value =>
    refuse (.surplusValue value option options.place options.given)

def takeLetters (options : Options) : List Char → Step
  | [] => .ok options
  | letter :: rest =>
    match (OptionName.ofLetter? letter).filter (· ∈ options.place.options) with
    | none =>
      refuse (.unknownArgument (String.ofList ['-', letter]) none options.place [])
    | some option => do
      let options ← options.take option
      takeLetters options rest

def isAwaiting (options : Options) : Bool :=
  options.pending = some none && !options.ended

def takeOther (options : Options) (argument : String) : Step :=
  match options.place with
  | .program =>
    let known := Command.all.map Command.name ++ ["help"]
    if options.ended ∧ argument ∈ known then refuse (.commandAfterDashes argument)
    else refuse (.unknownCommand argument (Text.similarWords argument known) .program)
  | place => refuse (.unknownArgument argument none place [])

def takeArgument (options : Options) (argument : String) : Step :=
  if options.ended then options.takeOther argument
  else
    match argument.toList with
    | ['-', '-'] => .ok { options with ended := true }
    | '-' :: '-' :: name => options.takeNamed name
    | '-' :: letter :: letters => options.takeLetters (letter :: letters)
    | _ =>
      if options.isAwaiting then .ok { options with pending := some (some argument) }
      else options.takeOther argument

end Options

def readHelp : List String → Reading
  | [] => .help .program
  | name :: rest =>
    let page :=
      if name = "help" then some HelpPage.help
      else (Command.named? name).map HelpPage.command
    match page, rest with
    | none, _ => .fault (.unknownCommand name [] .program)
    | some page, [] => .help page
    | some page, other :: _ => .fault (.unknownCommand other [] page)

/-- Reads the arguments after a command, and joins their options with those in front of it. -/
def readAfter (command : Command) (before : Options) (arguments : List String) : Reading :=
  let result : Except Reading Reading := do
    let read ← arguments.foldlM Options.takeArgument { place := .command command }
    let after ← read.settle
    let before ← before.settle
    return .run
      { command
        verbose := .verbose ∈ before.given ∨ .verbose ∈ after.given
        format := after.format.or before.format }
  match result with
  | .ok reading => reading
  | .error reading => reading

def readEnd (options : Options) : Reading :=
  match options.settle with
  | .error reading => reading
  | .ok options => if options.given = [] then .nothing else .fault .missingCommand

def readBefore (options : Options) : List String → Reading
  | [] => readEnd options
  | argument :: rest =>
    let isCommand := !options.ended && !options.isAwaiting
    if isCommand ∧ argument = "help" then readHelp rest
    else
      match (Command.named? argument).filter (fun _ => isCommand) with
      | some command => readAfter command options rest
      | none =>
        match options.takeArgument argument with
        | .error reading => reading
        | .ok options => readBefore options rest

def read (arguments : List String) : Reading :=
  readBefore { place := .program } arguments

end CommandLine

end AccountKeeper
