import Workbench.Terminal.Variables
import Workbench.Text.Case

/-!
The working directory and the environment of a terminal.  The environment is made of layers, each of
which speaks for some variables; the last layer that speaks for a variable decides it.  Extensions come
last, and change what they find.
-/

namespace Workbench

/-- What a layer says of some variables: a value, or that there is to be none. -/
abbrev VarChanges := List (String × Option String)

namespace Vars

/-- Puts a layer on top. -/
def overlay (vars : Vars) (changes : VarChanges) : Vars :=
  changes.foldl (fun vars (name, value) =>
    match value with
    | some v => vars.set name v
    | none => vars.unset name) vars

end Vars

/-- A layer out of settings: texts as they are, null for no value, all else as it stands in JSON. -/
def changesOf (fields : Json.Fields) : VarChanges :=
  fields.map fun
    | (name, .null) => (name, none)
    | (name, .str s) => (name, some s)
    | (name, v) => (name, some v.compact)

namespace EnvMutator

/-- The value of a variable after a change. -/
def apply (m : EnvMutator) (value : String) : String :=
  match m.kind with
  | .replace => m.value
  | .append => value ++ m.value
  | .prepend => m.value ++ value

end EnvMutator

/-- Changes by variable, the variables in the order in which they are first declared.  Of the changes to
one the last declared comes first, and so they are made from the front. -/
abbrev MutatorTable := List (String × List EnvMutator)

namespace MutatorTable

/-- Puts a change in front of the others to its variable.  Once one that replaces is there, all that are
declared behind it are left out. -/
def stack (m : EnvMutator) : List EnvMutator → List EnvMutator
  | [] => [m]
  | top :: rest => if top.kind = .replace then top :: rest else m :: top :: rest

/-- Notes a change to a variable. -/
def add (table : MutatorTable) (name : String) (m : EnvMutator) : MutatorTable :=
  match table with
  | [] => [(name, stack m [])]
  | (n, ms) :: rest => if n = name then (n, stack m ms) :: rest else (n, ms) :: add rest name m

/-- The changes of some extensions, noted in the order of their declaration. -/
def ofCollections (collections : List EnvCollection) : MutatorTable :=
  collections.foldl (fun table c => c.mutators.foldl (fun table (name, m) => table.add name m) table) []

end MutatorTable

namespace Vars

/-- Makes changes to a variable one after the other; one that is not there counts as empty. -/
def mutate (vars : Vars) (name : String) (ms : List EnvMutator) : Vars :=
  ms.foldl (fun vars m => vars.set name (m.apply ((vars.get? name).getD ""))) vars

end Vars

/-- Lets extensions change an environment. -/
def EnvCollection.applyAll (collections : List EnvCollection) (vars : Vars) : Vars :=
  (MutatorTable.ofCollections collections).foldl (fun vars (name, ms) => vars.mutate name ms) vars

/-- What the server knows of itself when it opens terminals. -/
structure TerminalSettings where
  /-- Told to programs as the version of the terminal. -/
  version : String
  /-- The language of the client's interface. -/
  locale : String
  home : Option String

/-- The country that speaks a language first. -/
def countryOf? : (language : String) → Option String
  | "cs" => some "CZ"
  | "de" => some "DE"
  | "en" => some "US"
  | "es" => some "ES"
  | "fi" => some "FI"
  | "fr" => some "FR"
  | "hu" => some "HU"
  | "it" => some "IT"
  | "ja" => some "JP"
  | "ko" => some "KR"
  | "pl" => some "PL"
  | "pt" => some "BR"
  | "ru" => some "RU"
  | "sv" => some "SE"
  | "tr" => some "TR"
  | "zh" => some "CN"
  | _ => none

/-- The value of `LANG` for a locale such as `en` or `pt-br`: language and country, in UTF-8. -/
def langOf (locale : String) : String :=
  let parts := (Text.split '-' locale.toList).map String.ofList
  let region := match parts.filter (· ≠ "") with
    | [] => "en_US"
    | [language] =>
      match countryOf? language with
      | some country => s!"{language}_{country}"
      | none => language
    | language :: country :: _ => s!"{language}_{Text.upper country}"
  s!"{region}.UTF-8"

/-- A value of `LANG` that names a UTF-8 or a Japanese or Korean character set. -/
def isWideLang (lang : String) : Bool :=
  ".UTF-8".toList.isSuffixOf lang.toList || ".utf8".toList.isSuffixOf lang.toList
    || Text.isInfix ".euc".toList lang.toList

/-- Whether `LANG` is to be set: always, or if it has no value that will do, or never. -/
def wantsLang (detect : String) (lang : Option String) : Bool :=
  match detect with
  | "on" => true
  | "auto" => !(lang.map isWideLang).getD false
  | _ => false

/-- What the server says of the terminal itself. -/
def terminalChanges (settings : TerminalSettings) (detect : String) (lang : Option String) :
    VarChanges :=
  [("TERM_PROGRAM", some "vscode")]
    ++ (if settings.version = "" then [] else [("TERM_PROGRAM_VERSION", some settings.version)])
    ++ (if wantsLang detect lang then [("LANG", some (langOf settings.locale))] else [])
    ++ [("COLORTERM", some "truecolor")]

namespace TerminalRequest

/-- A text of the configuration. -/
def setting? (r : TerminalRequest) (name : String) : Option String :=
  (Json.Fields.get? r.configuration name).bind Json.str?

/-- Variables that the configuration sets. -/
def configuredEnv (r : TerminalRequest) : Json.Fields :=
  ((Json.Fields.get? r.configuration "terminal.integrated.env.linux").bind Json.obj?).getD []

/-- When `LANG` is to be set. -/
def detectLocale (r : TerminalRequest) : String :=
  (r.setting? "terminal.integrated.detectLocale").getD "auto"

/-- The directory that the launch itself asks for. -/
def requestedDir? (a : Addressing) (launch : Launch) : Option String :=
  (match launch.cwd with
    | some (.str s) => some s
    | some (.obj fields) =>
      match Resource.ofJson (.obj fields) with
      | .ok r => some (a.resolve r).fsPath
      | .error _ => none
    | _ => none).filter (· ≠ "")

/-- The directory of the active folder. -/
def rootDir? (a : Addressing) (r : TerminalRequest) : Option String :=
  r.activeFolder.map fun f => (a.resolve f.resource).fsPath

/-- The directory that the configuration asks for; a relative one needs a root. -/
def configuredDir? (v : Variables) (root : Option String) (r : TerminalRequest) : Option String := do
  let dir ← ((r.setting? "terminal.integrated.cwd").map v.resolve).filter (· ≠ "")
  if Path.isAbsolute dir then return dir
  return Path.join (← root) dir

/-- The directory of the launch, or of the configuration, or the root, or the home directory. -/
def workingDir (a : Addressing) (v : Variables) (home : Option String) (r : TerminalRequest) : String :=
  match requestedDir? a r.launch with
  | some dir => if v.resolve dir = "" then dir else v.resolve dir
  | none =>
    let root := rootDir? a r
    (((configuredDir? v root r).or root).or home).getD ""

/-- Variables of a launch that wants no others: those whose value is a text. -/
def strictEnv (launch : Launch) : Vars :=
  Vars.ofList ((launch.env.getD []).filterMap fun
    | (name, .str s) => some (name, s)
    | _ => none)

/-- The launch as it is carried out: where, and with the values of its variables resolved unless it is
strict. -/
def resolvedLaunch (v : Variables) (cwd : String) (launch : Launch) : Launch :=
  { launch with
    cwd := some (.str cwd)
    env := if launch.strict then launch.env else launch.env.map v.resolveFields }

/-- The environment before extensions change it, over the host's own. -/
def layeredEnv (v : Variables) (settings : TerminalSettings) (r : TerminalRequest) (base : Vars) : Vars :=
  let merged := (base.overlay (changesOf (v.resolveFields r.configuredEnv))).overlay
    (changesOf (v.resolveFields (r.launch.env.getD [])))
  merged.overlay (terminalChanges settings r.detectLocale (merged.get? "LANG"))

/-- The environment of a terminal, given what the host starts from. -/
def environment (v : Variables) (settings : TerminalSettings) (r : TerminalRequest) (base : Vars) : Vars :=
  if r.launch.strict then strictEnv r.launch
  else EnvCollection.applyAll r.collections (r.layeredEnv v settings base)

end TerminalRequest
end Workbench
