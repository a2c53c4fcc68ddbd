import Workbench.Channel.File

/-!
A file provider that answers from a script and keeps a record of what it was asked, for trying out the
file channel.
-/

namespace Workbench

/-- A script with what has become of it. -/
structure FileRehearsal where
  /-- Answers to come. -/
  script : List (Outcome Json) := []
  /-- Calls since they were last looked at, each a name and its arguments. -/
  calls : List Json := []
  watches : Nat := 0
  /-- Watches that have not been released. -/
  live : List Nat := []
  /-- For each streamed read, whether it has been cancelled. -/
  cancelled : List Bool := []

namespace FileRehearsal

/-- Notes a call and takes its answer. -/
def ask (call : List Json) (default : Json) : StateM FileRehearsal (Outcome Json) := fun r =>
  let r := { r with calls := r.calls ++ [Json.arr call] }
  match r.script with
  | [] => (.ok default, r)
  | answer :: rest => (answer, { r with script := rest })

/-- A number in an answer. -/
def number (v : Json) : Nat := v.nat?.getD 0

def statOf : Json → FileStat
  | .arr [type, ctime, mtime, size] =>
    ⟨.ofNat (number type), .ofNat (number ctime), .ofNat (number mtime), .ofNat (number size)⟩
  | _ => ⟨0, 0, 0, 0⟩

def entryOf : Json → String × UInt32
  | .arr [.str name, type] => (name, .ofNat (number type))
  | _ => ("", 0)

/-- What a streamed read sends.  `hold` sends nothing; the end of the script keeps it open. -/
def eventOf? (blob : Json → ByteArray) : Json → Option StreamEvent
  | .str "end" => some .finished
  | .str "hold" => none
  | .str message => some (.failed message)
  | v => some (.data (blob v))

def word (n : UInt64) : Json := .int (.ofUInt64 n)

def optional (f : α → Json) : Option α → Json
  | some v => f v
  | none => .null

/-- An answer as a provider gives it. -/
def reply (call : List Json) (default : Json) (f : Json → α) : StateM FileRehearsal (Outcome α) :=
  return (← ask call default).map f

/-- An answer that tells only whether it worked. -/
def done (call : List Json) : StateM FileRehearsal (Outcome Unit) := reply call .null fun _ => ()

/-- Contents when the script gives none. -/
def defaultContents : Json := Json.ofPairs [("text", .str "data")]

/-- The provider; `blob` reads the contents that a script describes. -/
def provider (blob : Json → ByteArray) : FileProvider (StateM FileRehearsal) where
  stat path := reply [.str "stat", .str path]
    (.arr [Json.nat 1, Json.nat 11, Json.nat 22, Json.nat 3]) statOf
  openFile path create := reply [.str "open", .str path, .bool create] (Json.nat 5)
    fun v => UInt64.ofNat (number v)
  close fd := done [.str "close", word fd]
  read fd pos length := reply [.str "read", word fd, word pos, Json.nat length] defaultContents blob
  write fd pos data := reply [.str "write", word fd, word pos, .str (Bytes.hex (Blob.toBytes data))]
    (Json.nat data.size) number
  readFile path := reply [.str "read_file", .str path] defaultContents blob
  writeFile path data options := done [.str "write_file", .str path,
    .str (Bytes.hex (Blob.toBytes data)), .bool options.create, .bool options.overwrite]
  delete path options := done
    [.str "delete", .str path, .bool options.recursive, .bool options.useTrash]
  makeDir path := done [.str "mkdir", .str path]
  readDir path := reply [.str "readdir", .str path]
    (.arr [.arr [.str "b", Json.nat 1], .arr [.str "a", Json.nat 2]])
    fun v => (v.arr?.getD []).map entryOf
  rename source target overwrite := done [.str "rename", .str source, .str target, .bool overwrite]
  copy source target overwrite := done [.str "copy", .str source, .str target, .bool overwrite]
  watch path options := do
    let answer ← ask [.str "watch", .str path, .bool options.recursive,
      .arr (options.excludes.map .str)] .null
    match answer with
    | .error e => return .error e
    | .ok _ => modifyGet fun r =>
      (.ok r.watches, { r with watches := r.watches + 1, live := r.watches :: r.live })
  release watch := modify fun r => { r with live := r.live.filter (· != watch) }
  readStream path options := do
    let answer ← ask [.str "read_file_stream", .str path, optional word options.position,
      optional word options.length, optional Json.nat options.bufferSize]
      (.arr [Json.ofPairs [("text", .str "abc")], .str "end"])
    let items := match answer with
      | .ok v => v.arr?.getD []
      | .error _ => []
    modifyGet fun r => (
      { id := r.cancelled.length
        events := items.filterMap (eventOf? blob)
        held := items.getLast? == some (.str "hold") },
      { r with cancelled := r.cancelled ++ [false] })
  cancel run := modify fun r => { r with cancelled := r.cancelled.set run true }

end FileRehearsal
end Workbench
