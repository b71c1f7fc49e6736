import DisclosureRelay.Text.Terminal

/-!
# Arguments

What the program is told on its command line and in its environment. `Name` lists the options,
`Arguments` are their values, and `Arguments.parse` reads them: an option on the command line wins
over its variable in the environment. A `Stop` is the reason why the program does not run, and
`Stop.message` its wording, in which arguments are shown without what would steer a terminal.

An option whose value is an argument of its own is only set when the next option comes, or at the
end (`Progress.settle`), so that an argument that nothing can be made of is complained about first.
-/

namespace DisclosureRelay.CommandLine

/-- The options, in the order in which they are described. -/
inductive Name where
  | server
  | assertUrl
  | errorAssertUrl
  | sessionData
  | assertParameters
  | errorUrl
  | language
  | error
  | config
  | formOutput
  | verbose
  deriving DecidableEq

/-- What kind of value an option has. -/
inductive ValueKind where
  | text
  /-- A path, which is never empty. -/
  | path
  /-- No value on the command line, and `true` or `false` in the environment. -/
  | switch
  deriving DecidableEq

namespace Name

/-- All options. -/
def all : List Name :=
  [.server, .assertUrl, .errorAssertUrl, .sessionData, .assertParameters, .errorUrl, .language,
    .error, .config, .formOutput, .verbose]

/-- How an option is written, without the two dashes. -/
def long : Name → String
  | .server => "server"
  | .assertUrl => "assert-url"
  | .errorAssertUrl => "error-assert-url"
  | .sessionData => "session-data"
  | .assertParameters => "assert-parameters"
  | .errorUrl => "error-url"
  | .language => "language"
  | .error => "error"
  | .config => "config"
  | .formOutput => "form-output"
  | .verbose => "verbose"

/-- The variable of an option in the environment. -/
def environmentName : Name → String
  | .server => "IRMA_SERVER"
  | .assertUrl => "ASSERT_URL"
  | .errorAssertUrl => "ERROR_ASSERT_URL"
  | .sessionData => "SESSION_DATA"
  | .assertParameters => "ASSERT_PARAMETERS"
  | .errorUrl => "ERROR_URL"
  | .language => "LANGUAGE"
  | .error => "ERROR"
  | .config => "RELAY_CONFIG"
  | .formOutput => "FORM_OUTPUT"
  | .verbose => "RELAY_VERBOSE"

/-- The kind of value of an option. -/
def kind : Name → ValueKind
  | .config | .formOutput => .path
  | .verbose => .switch
  | _ => .text

/-- Whether the program needs an option. -/
def isRequired : Name → Bool
  | .server | .assertUrl | .errorAssertUrl | .assertParameters | .errorUrl => true
  | _ => false

/-- The option of a name. -/
def ofLong? (name : String) : Option Name :=
  all.find? fun option => option.long = name

/-- The option of a letter. -/
def ofLetter? (letter : Char) : Option Name :=
  if letter = 'v' then some .verbose else none

/-- What stands for the value of an option in messages. -/
def placeholder (option : Name) : String :=
  String.ofList ((option.long.toList.map fun c => if c = '-' then '_' else c.toUpper))

/-- An option in messages. -/
def shown (option : Name) : String :=
  match option.kind with
  | .switch => "--" ++ option.long
  | _ => "--" ++ option.long ++ " <" ++ option.placeholder ++ ">"

end Name

/-- Why the program does not run. -/
inductive Stop where
  | help
  | unexpected (argument : String)
  | noValue (option : Name)
  | needlessValue (switch : String) (value : String)
  | notTruthValue (option : Name) (value : String)
  | repeated (option : Name)
  | missing (options : List Name)
  deriving DecidableEq

/-- A text in messages. -/
def inQuotes (text : String) : String :=
  "'" ++ Text.Terminal.plain text ++ "'"

/-- What a switch may be set to in the environment. -/
def possibleValues (option : Name) : String :=
  match option.kind with
  | .switch => "\n  [possible values: true, false]"
  | _ => ""

/-- The wording of the reason. -/
def Stop.message : Stop → String
  | .help => ""
  | .unexpected argument => "unexpected argument " ++ inQuotes argument ++ " found"
  | .noValue option =>
    "a value is required for " ++ inQuotes option.shown ++ " but none was supplied"
      ++ possibleValues option
  | .needlessValue switch value =>
    "unexpected value " ++ inQuotes value ++ " for " ++ inQuotes switch
      ++ " found; no more were expected"
  | .notTruthValue option value =>
    "invalid value " ++ inQuotes value ++ " for " ++ inQuotes option.shown ++ possibleValues option
  | .repeated option =>
    "the argument " ++ inQuotes option.shown ++ " cannot be used multiple times"
  | .missing options =>
    "the following required arguments were not provided:"
      ++ String.join (options.map fun option => "\n  " ++ option.shown)

/-- The values of options, the later ones first. -/
abbrev Values := List (Name × String)

namespace Values

/-- Sets an option that was not set before. -/
def set (values : Values) (option : Name) (value : String) : Except Stop Values :=
  if (values.lookup option).isSome then .error (.repeated option)
  else
    match option.kind with
    | .text => .ok ((option, value) :: values)
    | .path => if value.isEmpty then .error (.noValue option) else .ok ((option, value) :: values)
    | .switch =>
      if value = "true" ∨ value = "false" then .ok ((option, value) :: values)
      else if value.isEmpty then .error (.noValue option)
      else .error (.notTruthValue option value)

end Values

/-- What was read of the command line so far. -/
structure Progress where
  values : Values := []
  /-- The last option, if its value is an argument of its own, and that value once it came. -/
  held : Option (Name × Option String) := none

namespace Progress

/-- The values with that of the option that is held. -/
def settle (p : Progress) : Except Stop Values :=
  match p.held with
  | none => .ok p.values
  | some (option, none) => .error (.noValue option)
  | some (option, some value) => p.values.set option value

/-- Sets an option whose value came with it. -/
def set (p : Progress) (option : Name) (value : String) : Except Stop Progress := do
  .ok { values := ← (← p.settle).set option value }

/-- Asks for help. -/
def help (p : Progress) : Except Stop Progress := do
  let _ ← p.settle
  .error .help

/-- Reads a switch without its two dashes, behind which a value may stand that it does not take. -/
def readSwitch (p : Progress) (name : String) (attached : Option String)
    (act : Progress → Except Stop Progress) : Except Stop Progress :=
  match attached with
  | none => act p
  | some value => .error (.needlessValue ("--" ++ name) value)

/-- Reads an option without its two dashes; an option may have its value behind `=`, and otherwise
waits for it. -/
def readLong (p : Progress) (written : List Char) : Except Stop Progress :=
  let name := String.ofList (written.takeWhile (· ≠ '='))
  let attached := match written.dropWhile (· ≠ '=') with
    | [] => none
    | _ :: value => some (String.ofList value)
  match Name.ofLong? name with
  | none =>
    if name = "help" then p.readSwitch name attached help
    else .error (.unexpected ("--" ++ name))
  | some option =>
    match option.kind, attached with
    | .switch, _ => p.readSwitch name attached (·.set option "true")
    | _, some value => p.set option value
    | _, none => do .ok { values := ← p.settle, held := some (option, none) }

/-- Reads the switches of a row of letters. -/
def readLetters (p : Progress) : List Char → Except Stop Progress
  | [] => .ok p
  | letter :: rest =>
    if letter = 'h' then p.help
    else
      match Name.ofLetter? letter with
      | some option => do (← p.set option "true").readLetters rest
      | none => .error (.unexpected (String.ofList ['-', letter]))

/-- Reads an argument that is no option: the value of the option that waits for one. -/
def readValue (p : Progress) (argument : String) : Except Stop Progress :=
  match p.held with
  | some (option, none) => .ok { p with held := some (option, some argument) }
  | _ => .error (.unexpected argument)

/-- Reads the arguments to the end. Behind two dashes there are no options any more. -/
def read (p : Progress) : List String → Except Stop Values
  | [] => p.settle
  | argument :: rest =>
    match argument.toList with
    | ['-', '-'] =>
      match rest with
      | [] => p.settle
      | other :: _ => .error (.unexpected other)
    | '-' :: '-' :: written => do (← p.readLong written).read rest
    | '-' :: letter :: letters => do (← p.readLetters (letter :: letters)).read rest
    | _ => do (← p.readValue argument).read rest

end Progress

/-- Adds the options that are only set in the environment. -/
def readEnvironment (values : Values) (environment : String → Option String) :
    List Name → Except Stop Values
  | [] => .ok values
  | option :: rest =>
    match values.lookup option, environment option.environmentName with
    | none, some value => do readEnvironment (← values.set option value) environment rest
    | _, _ => readEnvironment values environment rest

/-- What the program is told. -/
structure Arguments where
  server : String
  assertUrl : String
  errorAssertUrl : String
  sessionData : Option String
  assertParameters : String
  errorUrl : String
  language : String
  error : Option String
  config : Option String
  formOutput : Option String
  verbose : Bool
  deriving DecidableEq

/-- The arguments that values give, unless one that is needed is missing. -/
def Arguments.ofValues (values : Values) : Except Stop Arguments :=
  let missing := Name.all.filter fun option =>
    option.isRequired && (values.lookup option).isNone
  let text (option : Name) : String := (values.lookup option).getD ""
  if missing.isEmpty then
    .ok
      { server := text .server
        assertUrl := text .assertUrl
        errorAssertUrl := text .errorAssertUrl
        sessionData := values.lookup .sessionData
        assertParameters := text .assertParameters
        errorUrl := text .errorUrl
        language := (values.lookup .language).getD "en"
        error := values.lookup .error
        config := values.lookup .config
        formOutput := values.lookup .formOutput
        verbose := values.lookup .verbose = some "true" }
  else .error (.missing missing)

/-- Reads the command line and the environment. -/
def Arguments.parse (arguments : List String) (environment : String → Option String) :
    Except Stop Arguments := do
  let values ← ({} : Progress).read arguments
  Arguments.ofValues (← readEnvironment values environment Name.all)

end DisclosureRelay.CommandLine
