import Workbench.ExtensionHost
import Workbench.Disk.Calls
import Workbench.HostAddress
import Workbench.Installation
import Workbench.Toml.Reader

/-!
The configuration of a server: what its file says, under what the command line says.  Directories that
nobody names lie among the local data of the user.
-/

namespace Workbench

/-- What a file says of the server itself. -/
structure ServerSection where
  host : String := "127.0.0.1"
  port : Nat := 35419
  commit : String := ""
  authority : Option String := none
  maxOffline : Nat := 0
  graceSeconds : Nat := 3 * 60 * 60
  handshakeSeconds : Nat := 30

/-- What a file says of directories. -/
structure PathsSection where
  appRoot : Option String := none
  homeDir : Option String := none
  contentRoot : Option String := none
  userData : Option String := none
  extensions : Option String := none
  builtinExtensions : Option String := none
  moreBuiltinExtensions : Option (List String) := none
  moreExtensions : List String := []
  logs : Option String := none

structure ConfigFile where
  server : ServerSection := {}
  paths : PathsSection := {}
  extensionHost : ExtensionHostConfig := {}

namespace ServerSection

def host? : Field String := .default "host" Shape.text "127.0.0.1"
def port? : Field Nat := .default "port" Shape.u16 35419
def commit? : Field String := .default "commit" Shape.text ""
def authority? : Field (Option String) := .default "remote_authority" (Shape.nullable Shape.text) none
def maxOffline? : Field Nat := .default "max_extra_offline_connections" Shape.size 0
def grace? : Field UInt64 := .default "reconnection_grace_secs" Shape.u64 10800
def handshake? : Field UInt64 := .default "handshake_timeout_secs" Shape.u64 30

def shape : Shape ServerSection :=
  Shape.record "the server section"
    [host?.check, port?.check, commit?.check, authority?.check, maxOffline?.check, grace?.check,
      handshake?.check]
    fun r => do
      return {
        host := ← r.get host?
        port := ← r.get port?
        commit := ← r.get commit?
        authority := ← r.get authority?
        maxOffline := ← r.get maxOffline?
        graceSeconds := (← r.get grace?).toNat
        handshakeSeconds := (← r.get handshake?).toNat }

end ServerSection

namespace PathsSection

def appRoot? : Field (Option String) := .nullable "app_root" Shape.text
def homeDir? : Field (Option String) := .nullable "home_dir" Shape.text
def contentRoot? : Field (Option String) := .nullable "content_root" Shape.text
def userData? : Field (Option String) := .nullable "user_data_dir" Shape.text
def extensions? : Field (Option String) := .nullable "extensions_dir" Shape.text
def builtin? : Field (Option String) := .nullable "builtin_extensions_dir" Shape.text
def moreBuiltin? : Field (Option (List String)) :=
  .nullable "extra_builtin_extensions_dirs" (Shape.list Shape.text)
def more? : Field (List String) := .default "extra_extensions_dirs" (Shape.list Shape.text) []
def logs? : Field (Option String) := .nullable "logs_dir" Shape.text

def shape : Shape PathsSection :=
  Shape.record "the paths section"
    [appRoot?.check, homeDir?.check, contentRoot?.check, userData?.check, extensions?.check,
      builtin?.check, moreBuiltin?.check, more?.check, logs?.check]
    fun r => do
      return {
        appRoot := ← r.get appRoot?
        homeDir := ← r.get homeDir?
        contentRoot := ← r.get contentRoot?
        userData := ← r.get userData?
        extensions := ← r.get extensions?
        builtinExtensions := ← r.get builtin?
        moreBuiltinExtensions := ← r.get moreBuiltin?
        moreExtensions := ← r.get more?
        logs := ← r.get logs? }

end PathsSection

namespace ExtensionHostConfig

def command? : Field String := .default "command" Shape.text ""
def args? : Field (List String) := .default "args" (Shape.list Shape.text) []
def language? : Field String := .default "language" Shape.text "en"

def shape : Shape ExtensionHostConfig :=
  Shape.record "the extension host section" [command?.check, args?.check, language?.check]
    fun r => return ⟨← r.get command?, ← r.get args?, ← r.get language?⟩

end ExtensionHostConfig

namespace ConfigFile

def server? : Field ServerSection := .default "server" ServerSection.shape {}
def paths? : Field PathsSection := .default "paths" PathsSection.shape {}
def extensionHost? : Field ExtensionHostConfig := .default "extension_host" ExtensionHostConfig.shape {}

def shape : Shape ConfigFile :=
  Shape.record "a configuration" [server?.check, paths?.check, extensionHost?.check]
    fun r => return ⟨← r.get server?, ← r.get paths?, ← r.get extensionHost?⟩

/-- What cannot be read as a configuration. -/
def malformed : Fault := .other "config parse error"

/-- What a document says. -/
def parse (document : String) : Outcome ConfigFile :=
  match Toml.parse? document with
  | none => .error malformed
  | some entries => (shape .direct (.map (Toml.toEntries entries))).mapError fun _ => malformed

end ConfigFile

/-- What the command line says. -/
structure Overrides where
  host : Option String := none
  port : Option Nat := none
  commit : Option String := none
  appRoot : Option String := none
  moreExtensions : List String := []
deriving DecidableEq, Repr

/-- A configuration in which nothing is left open. -/
structure ServerConfig where
  host : String := "127.0.0.1"
  port : Nat := 35419
  commit : String := ""
  authority : String := "localhost:35419"
  /-- How many offline sessions of a kind stay after a new connection. -/
  maxOffline : Nat := 0
  graceSeconds : Nat := 10800
  handshakeSeconds : Nat := 30
  installation : Installation := {}
  extensionHost : ExtensionHostConfig := {}
deriving DecidableEq, Repr

/-- Where the user's files lie. -/
structure UserDirs where
  home : String
  localData : String
deriving DecidableEq, Repr

namespace UserDirs

/-- The directory of the user when the environment does not name it. -/
def rootHome : String := "/root"

/-- The directories that an environment names.  A relative one for data is not looked at. -/
def ofVars (env : Vars) : UserDirs :=
  let home := (env.nonempty? "HOME").getD rootHome
  let data := match env.get? "XDG_DATA_HOME" with
    | some path => if Path.isAbsolute path then path else Path.join home ".local/share"
    | none => Path.join home ".local/share"
  ⟨home, data⟩

/-- A path with the home directory for its first part, if that is a tilde. -/
def expand (d : UserDirs) (path : String) : String :=
  match path.toList with
  | '~' :: '/' :: rest => Path.join d.home (String.ofList rest)
  | _ => path

end UserDirs

namespace ServerConfig

/-- The directory among local data that belongs to the server. -/
def personality : String := "citizenfx/sdk-personality-fxcode"

/-- The directories that are meant; names that are empty say nothing. -/
def resolvePaths (d : UserDirs) (p : PathsSection) (cliAppRoot : Option String) : Installation :=
  let own := Path.join d.localData personality
  let pathOr (given : Option String) (otherwise : String) : String :=
    ((given.filter (· ≠ "")).map d.expand).getD otherwise
  let appRoot := pathOr (cliAppRoot <|> p.appRoot) "."
  let userData := pathOr p.userData (Path.join own "user")
  { appRoot
    userHome := pathOr p.homeDir (Path.join own "home")
    contentRoot := pathOr p.contentRoot ""
    userData
    extensions := pathOr p.extensions (Path.join own "user-extensions")
    builtinExtensions := pathOr p.builtinExtensions (Path.join appRoot "extensions")
    moreBuiltinExtensions := match p.moreBuiltinExtensions with
      | some dirs => dirs.map d.expand
      | none => [Path.join own "builtin-extensions"]
    moreExtensions := p.moreExtensions.map d.expand
    logs := pathOr p.logs (Path.join userData "logs") }

/-- A file under the command line. -/
def ofFile (d : UserDirs) (file : ConfigFile) (cli : Overrides) : ServerConfig :=
  let port := cli.port.getD file.server.port
  let paths := resolvePaths d file.paths cli.appRoot
  { host := cli.host.getD file.server.host
    port
    commit := cli.commit.getD file.server.commit
    authority := file.server.authority.getD s!"localhost:{port}"
    maxOffline := file.server.maxOffline
    graceSeconds := file.server.graceSeconds
    handshakeSeconds := file.server.handshakeSeconds
    installation := { paths with
      moreExtensions := paths.moreExtensions ++ cli.moreExtensions.map d.expand }
    extensionHost := file.extensionHost }

/-- A file that is not text. -/
def notText : Fault := .io .other "stream did not contain valid UTF-8"

/-- Loads a configuration.  A file that is not there says nothing. -/
def load (disk : Disk) (env : Vars) (path : Option String) (cli : Overrides) : Outcome ServerConfig := do
  let d := UserDirs.ofVars env
  let file ← match path.map d.expand with
    | none => pure {}
    | some path =>
      match (Disk.stat path).run disk with
      | (.error _, _) => pure {}
      | (.ok _, _) => do
        let content ← ((Disk.readAll path).run disk).1.mapError Errno.toFault
        match Utf8.decode? (Blob.toBytes content) with
        | some document => ConfigFile.parse document
        | none => .error notText
  return ofFile d file cli

/-- What is not the address of a host. -/
def notAddress : Fault := .other "invalid listen address: invalid socket address syntax"

/-- The address that connections are waited for at. -/
def listenAddress (c : ServerConfig) : Outcome HostAddress :=
  match HostAddress.ofText? c.host with
  | some a => .ok a
  | none => .error notAddress

/-- The configuration as an object. -/
def toJson (c : ServerConfig) : Json :=
  let i := c.installation
  let texts (items : List String) : Json := .arr (items.map .str)
  Json.ofPairs [
    ("host", .str c.host), ("port", Json.nat c.port), ("commit", .str c.commit),
    ("remote_authority", .str c.authority), ("max_extra_offline_connections", Json.nat c.maxOffline),
    ("reconnection_grace", Json.nat c.graceSeconds), ("handshake_timeout", Json.nat c.handshakeSeconds),
    ("app_root", .str i.appRoot), ("home_dir", .str i.userHome), ("content_root", .str i.contentRoot),
    ("user_data_dir", .str i.userData), ("extensions_dir", .str i.extensions),
    ("builtin_extensions_dir", .str i.builtinExtensions),
    ("extra_builtin_extensions_dirs", texts i.moreBuiltinExtensions),
    ("extra_extensions_dirs", texts i.moreExtensions), ("logs_dir", .str i.logs),
    ("exthost_command", .str c.extensionHost.command), ("exthost_args", texts c.extensionHost.args),
    ("exthost_language", .str c.extensionHost.language)]

end ServerConfig
end Workbench
