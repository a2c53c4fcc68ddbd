import Workbench.Config
import Workbench.LogLevel

/-!
The command line of the server: options with a value, of which one may be given again and again.
-/

namespace Workbench

/-- The options of the command line. -/
inductive CliOption where
  | host
  | port
  | config
  | commit
  | appRoot
  | extensionsDir
  | logLevel
deriving DecidableEq, Repr

namespace CliOption

def all : List CliOption := [host, port, config, commit, appRoot, extensionsDir, logLevel]

def name : CliOption → String
  | host => "--host"
  | port => "--port"
  | config => "--config"
  | commit => "--commit"
  | appRoot => "--app-root"
  | extensionsDir => "--extra-extensions-dir"
  | logLevel => "--log-level"

/-- How the value of an option is called. -/
def valueName : CliOption → String
  | host => "HOST"
  | port => "PORT"
  | config => "CONFIG"
  | commit => "COMMIT"
  | appRoot => "APP_ROOT"
  | extensionsDir => "EXTRA_EXTENSIONS_DIRS"
  | logLevel => "LOG_LEVEL"

/-- An option with its value, as errors call it. -/
def shown (o : CliOption) : String := s!"{o.name} <{o.valueName}>"

def about : CliOption → String
  | host => "Listen address"
  | port => "Listen port"
  | config => "Config file path [default: ~/.fxcode/config.toml]"
  | commit => "Build identifier clients are expected to present"
  | appRoot => "Root of the static client content"
  | extensionsDir => "Additional installed-extension directory (repeatable)"
  | logLevel => "Initial log level (trace, debug, info, warning, error, critical, off). " ++
      "Clients can change it later through the \x60logger\x60 channel [default: info]"

end CliOption

/-- What a command line asks for. -/
structure CommandLine where
  overrides : Overrides := {}
  configPath : String := "~/.fxcode/config.toml"
  logLevel : String := "info"
deriving DecidableEq, Repr

/-- Why a command line is not carried out. -/
inductive CommandLineStop where
  | help
  | version
  | unexpected (word : String)
  | missingValue (o : CliOption)
  | repeated (o : CliOption)
  | notNumber (word : String)
  | outOfRange (word : String)
deriving DecidableEq, Repr

namespace CommandLine

/-- The name of the program. -/
def program : String := "fxcode-server"

def usage : String := s!"Usage: {program} [OPTIONS]"

/-- A text that is made as long as others by blanks. -/
def padded (width : Nat) (text : String) : String :=
  text ++ String.ofList (List.replicate (width - text.length) ' ')

def helpText : String :=
  let rows := (CliOption.all.map fun o =>
      ((if o = .port then "-p, " else "    ") ++ o.shown, o.about))
    ++ [("-h, --help", "Print help"), ("-V, --version", "Print version")]
  let width := (rows.map (·.1.length)).foldl max 0
  "fxcode remote session server\n\n" ++ usage ++ "\n\nOptions:\n" ++
    String.join (rows.map fun (left, right) => "  " ++ padded width left ++ "  " ++ right ++ "\n")

/-- The text of a stop. -/
def stopText (version : String) : CommandLineStop → String
  | .help => helpText
  | .version => s!"{program} {version}\n"
  | .unexpected word => s!"error: unexpected argument '{word}' found\n\n{usage}" ++ tail
  | .missingValue o => s!"error: a value is required for '{o.shown}' but none was supplied" ++ tail
  | .repeated o => s!"error: the argument '{o.shown}' cannot be used multiple times\n\n{usage}" ++ tail
  | .notNumber word =>
    s!"error: invalid value '{word}' for '{CliOption.port.shown}': invalid digit found in string" ++ tail
  | .outOfRange word =>
    s!"error: invalid value '{word}' for '{CliOption.port.shown}': {word} is not in 0..=65535" ++ tail
where
  tail : String := "\n\nFor more information, try '--help'.\n"

/-- Whether a stop is what was asked for, and not an error. -/
def isAnswer : CommandLineStop → Bool
  | .help | .version => true
  | _ => false

/-- The port that a word names. -/
def readPort (word : String) : Except CommandLineStop Nat :=
  if word.isEmpty || !word.toList.all Char.isDigit then .error (.notNumber word)
  else
    let port := word.toList.foldl (fun n c => n * 10 + (c.toNat - 48)) 0
    if port < 0x10000 then .ok port else .error (.outOfRange word)

/-- Takes the value of an option. -/
def take (c : CommandLine) (o : CliOption) (value : String) : Except CommandLineStop CommandLine := do
  let x := c.overrides
  match o with
  | .host => return { c with overrides := { x with host := some value } }
  | .port => return { c with overrides := { x with port := some (← readPort value) } }
  | .config => return { c with configPath := value }
  | .commit => return { c with overrides := { x with commit := some value } }
  | .appRoot => return { c with overrides := { x with appRoot := some value } }
  | .extensionsDir =>
    return { c with overrides := { x with moreExtensions := x.moreExtensions ++ [value] } }
  | .logLevel => return { c with logLevel := value }

/-- The option that a word begins with, and its value if it holds one. -/
def split (word : String) : Option (CliOption × Option String) :=
  let (name, value) := match word.toList.span (· != '=') with
    | (name, _ :: value) => (String.ofList name, some (String.ofList value))
    | (name, []) => (String.ofList name, none)
  if word == "-p" then some (.port, none)
  else (CliOption.all.find? (·.name == name)).map fun o => (o, value)

/-- Reads words one after the other.  `seen` holds the options that cannot come again. -/
def readWords (c : CommandLine) (seen : List CliOption) : List String → Except CommandLineStop CommandLine
  | [] => .ok c
  | word :: rest =>
    if word == "-h" || word == "--help" then .error .help
    else if word == "-V" || word == "--version" then .error .version
    else
      match split word with
      | none => .error (.unexpected word)
      | some (o, value) =>
        if seen.contains o then .error (.repeated o)
        else
          let seen := if o = .extensionsDir then seen else o :: seen
          match value, rest with
          | some value, rest => do readWords (← c.take o value) seen rest
          | none, value :: rest => do readWords (← c.take o value) seen rest
          | none, [] => .error (.missingValue o)

/-- Reads a command line. -/
def parse (words : List String) : Except CommandLineStop CommandLine := readWords {} [] words

end CommandLine
end Workbench
