import Workbench.CommandLine
import Workbench.Disk.Plant
import Workbench.Server.Line

/-!
The server as a program.  It serves the client at the other end of its standard input and output, until
either of them has nothing more to say.
-/

open Workbench

/-- The environment of this process, as far as the server looks at it. -/
def processVars : IO Vars := do
  let names := ["HOME", "PATH", "SHELL", "XDG_DATA_HOME"]
  let pairs ← names.filterMapM fun name => return (← IO.getEnv name).map (name, ·)
  return Vars.ofList pairs

/-- A disk that holds the file of a path, if this machine has one. -/
def diskWithFile (path : String) : IO Disk := do
  try
    let content ← IO.FS.readBinFile path
    return Disk.ofEntries [(path, .file 0 content)]
  catch _ => return {}

/-- Serves what arrives, until the line is over. -/
def serveLine (p : ServerPlace) (facilities : Facilities) : IO Unit := do
  let input ← IO.getStdin
  let output ← IO.getStdout
  let start ← IO.monoMsNow
  let mut line : ServerLine := { facilities }
  repeat
    let octets ← input.read 4096
    let now := (← IO.monoMsNow) - start
    let (answer, next) := line.receive p now (Blob.toBytes octets) octets.isEmpty
    line := next
    output.write (Blob.ofBytes answer)
    output.flush
    if line.closed then break

def main (words : List String) : IO UInt32 := do
  match CommandLine.parse words with
  | .error stop =>
    let text := CommandLine.stopText Facilities.version stop
    if CommandLine.isAnswer stop then
      IO.print text
      return 0
    else
      IO.eprint text
      return 2
  | .ok cli =>
    match LogLevel.ofName? cli.logLevel with
    | none =>
      IO.eprintln s!"{CommandLine.program}: unknown log level '{cli.logLevel}'"
      return 1
    | some level =>
      let env ← processVars
      let path := (UserDirs.ofVars env).expand cli.configPath
      match ServerConfig.load (← diskWithFile path) env (some cli.configPath) cli.overrides with
      | .error e =>
        IO.eprintln s!"{CommandLine.program}: failed to load config: {e.message}"
        return 1
      | .ok config =>
        let workingDir ← IO.currentDir
        let disk := config.installation.ensureDirs {}
        serveLine ⟨config, env, workingDir.toString⟩ { disk := { disk }, log := .reloading level }
        return 0
