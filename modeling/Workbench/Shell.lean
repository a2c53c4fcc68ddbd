import Workbench.Process
import Workbench.Shell.Format
import Workbench.Shell.Reader
import Workbench.Text.Utf8
import Workbench.Path
import Workbench.Vars

/-!
A shell: the program that a script means.
-/

namespace Workbench.Shell

/-- Arguments with a blank between any two. -/
def joined (args : List Bytes) : Bytes := [32].intercalate args

/-- The number of the process that a shell is. -/
def ownNumber : String := "4000"

/-- What a shell knows while it runs a script. -/
structure State where
  /-- Variables. -/
  vars : List (String × Bytes)
  /-- The name of the shell and its arguments. -/
  params : List Bytes
  dir : String
  /-- The status of the last command. -/
  status : Nat := 0

namespace State

def get (s : State) (name : String) : Bytes :=
  match s.vars.find? (·.1 == name) with
  | some (_, value) => value
  | none => []

def set (s : State) (name : String) (value : Bytes) : State :=
  { s with vars := s.vars.filter (·.1 != name) ++ [(name, value)] }

/-- The value of a parameter. -/
def param (s : State) (name : String) : Bytes :=
  match name with
  | "?" => Bytes.ofText (toString s.status)
  | "$" => Bytes.ofText ownNumber
  | "#" => Bytes.ofText (toString (s.params.length - 1))
  | "@" | "*" => joined (s.params.drop 1)
  | name =>
    match name.toNat? with
    | some n => s.params.getD n []
    | none => s.get name

/-- Whether a parameter has a value, and perhaps one that is not empty. -/
def has (s : State) (name : String) (notEmpty : Bool) : Bool :=
  let value := s.param name
  if value.isEmpty then !notEmpty && s.vars.any (·.1 == name) else true

/-- A word as one value. -/
def value (s : State) (w : Word) : Bytes :=
  w.pieces.flatMap fun
    | .text octets => octets
    | .param name _ => s.param name
    | .choice name notEmpty instead octets =>
      if s.has name notEmpty then (if instead then octets else s.param name)
      else if instead then [] else octets
    | .size name => Bytes.ofText (toString (Utf8.decodeLossy (s.param name)).length)

def isSpace (b : UInt8) : Bool := b == 32 || b == 9 || b == 10

/-- Octets between blanks. -/
def fields (octets : Bytes) : List Bytes :=
  ((octets.splitBy fun a b => isSpace a == isSpace b).filter fun f => !f.any isSpace)

/-- The arguments that a word stands for. -/
def expand (s : State) (w : Word) : List Bytes :=
  match w.pieces with
  | [.param "@" true] => s.params.drop 1
  | [.param name false] => fields (s.param name)
  | _ =>
    let value := s.value w
    if value.isEmpty && !w.quoted then [] else [value]

end State

/-- Where output and errors go. -/
structure Sinks where
  out : Sink := .output
  err : Sink := .errors

namespace Sinks

def redirect (s : Sinks) (r : Redirect) : Sinks :=
  let target := match r.target with
    | .output => s.out
    | .errors => s.err
    | .nowhere => .nowhere
  if r.ofErrors then { s with err := target } else { s with out := target }

/-- Says something where it is to go. -/
def say (sink : Sink) (octets : Bytes) (next : Program) : Program :=
  match sink with
  | .output => .print octets next
  | .errors => .complain octets next
  | .nowhere => next

/-- A program whose output and errors go where they are to go. -/
def route (s : Sinks) : Program → Program
  | .exit status => .exit status
  | .print octets p => say s.out octets (s.route p)
  | .complain octets p => say s.err octets (s.route p)
  | .readLine k => .readLine fun line whole => s.route (k line whole)
  | .takeInput count k => .takeInput count fun octets => s.route (k octets)
  | .copyInput p => .copyInput (s.route p)
  | .askSize k => .askSize fun size => s.route (k size)
  | .setEcho on p => .setEcho on (s.route p)
  | .enter dir k => .enter dir fun there => s.route (k there)
  | .sleep seconds p => .sleep seconds (s.route p)

end Sinks

def textOf (octets : Bytes) : String := Utf8.decodeLossy octets

def lineOf (text : String) : Bytes := Bytes.ofText (text ++ "\n")

/-- A program that says something and ends well. -/
def saying (octets : Bytes) : Program := .print octets (.exit 0)

/-- Seconds that a text means, without parts of them. -/
def secondsOf (text : String) : Nat := (text.takeWhile Char.isDigit).toString.toNat?.getD 0

/-- Passes on so many lines of what comes in. -/
def copyLines : (count : Nat) → Program
  | 0 => .exit 0
  | count + 1 => .readLine fun line whole =>
    if whole then .print (line ++ [10]) (copyLines count) else .print line (.exit 0)

/-- A number of lines or of octets that is asked for in an option. -/
def headOf : (args : List String) → Program
  | ["-c", n] => .takeInput (numberOf (Bytes.ofText n)).toNat fun octets => saying octets
  | ["-n", n] => copyLines (numberOf (Bytes.ofText n)).toNat
  | [option] =>
    match option.toList with
    | '-' :: 'c' :: n => .takeInput (numberOf (Bytes.ofText (String.ofList n))).toNat fun octets => saying octets
    | '-' :: 'n' :: n | '-' :: n => copyLines (numberOf (Bytes.ofText (String.ofList n))).toNat
    | _ => .exit 1
  | _ => copyLines 10

/-- Commands that are programs of their own, by the last part of their path. -/
def tool? (name : String) (args : List Bytes) (s : State) : Option Program :=
  match name with
  | "true" => some (.exit 0)
  | "false" => some (.exit 1)
  | "echo" => some (saying (joined args ++ [10]))
  | "printf" => some (saying (formatted (args.headD []) (args.drop 1)))
  | "pwd" => some (saying (lineOf s.dir))
  | "cat" => some (.copyInput (.exit 0))
  | "sleep" => some (.sleep (secondsOf (textOf (args.headD []))) (.exit 0))
  | "env" | "printenv" =>
    some (saying (s.vars.flatMap fun (n, v) => Bytes.ofText (n ++ "=") ++ v ++ [10]))
  | "head" => some (headOf (args.map textOf))
  | "stty" => some (.askSize fun
      | some (rows, cols) => match args.map textOf with
        | ["size"] => saying (lineOf s!"{rows} {cols}")
        | words =>
          if words.contains "-echo" then .setEcho false (.exit 0)
          else if words.any fun w => w == "echo" || w == "sane" then .setEcho true (.exit 0)
          else .exit 0
      | none => .complain (lineOf "stty: 'standard input': Inappropriate ioctl for device") (.exit 1))
  | _ => none

/-- The names of those commands. -/
def tools : List String :=
  ["true", "false", "echo", "printf", "pwd", "cat", "head", "sleep", "env", "printenv", "stty"]

/-- The arguments of the echo that the shell has itself: an end of line may be kept back, and backslashes
mean something. -/
def echoed (args : List Bytes) : Bytes :=
  let (keep, args) := match args with
    | first :: rest => if first = Bytes.ofText "-n" then (true, rest) else (false, args)
    | [] => (false, [])
  let text := joined args
  let (octets, ended) := unescape (text.length + 1) text
  if keep || ended then octets else octets ++ [10]

/-- The truth of a test. -/
def test : List Bytes → Bool
  | [] => false
  | [a] => !a.isEmpty
  | [op, a] =>
    if op = Bytes.ofText "-z" then a.isEmpty
    else if op = Bytes.ofText "-n" then !a.isEmpty
    else if op = Bytes.ofText "!" then a.isEmpty else false
  | [a, op, b] =>
    let compare (f : Int → Int → Bool) : Bool := f (numberOf a) (numberOf b)
    match textOf op with
    | "=" => a = b
    | "!=" => a ≠ b
    | "-eq" => compare (· == ·)
    | "-ne" => compare (· != ·)
    | "-lt" => compare (· < ·)
    | "-le" => compare (· ≤ ·)
    | "-gt" => compare (· > ·)
    | "-ge" => compare (· ≥ ·)
    | _ => false
  | _ => false

/-- Takes a backslash away from what it protects. -/
def withoutEscapes : Bytes → Bytes
  | 92 :: b :: rest => b :: withoutEscapes rest
  | b :: rest => b :: withoutEscapes rest
  | [] => []

/-- Gives the words of a line to variables; the last variable takes all that is left. -/
def assignLine (s : State) (line : Bytes) : List String → State
  | [] => s
  | [name] => s.set name ((line.dropWhile State.isSpace).reverse.dropWhile State.isSpace).reverse
  | name :: rest =>
    let line := line.dropWhile State.isSpace
    assignLine (s.set name (line.takeWhile fun b => !State.isSpace b))
      (line.dropWhile fun b => !State.isSpace b) rest

/-- A name of a variable and perhaps its value. -/
def assignText (s : State) (octets : Bytes) : State :=
  match octets.span (· != 61) with
  | (name, _ :: value) => s.set (textOf name) value
  | _ => s

/-- Runs one command; `next` goes on with what is known afterwards. -/
def command (sinks : Sinks) (s : State) (args : List Bytes) (next : State → Program) : Program :=
  let done (status : Nat) : Program := next { s with status }
  match args with
  | [] => next { s with status := 0 }
  | name :: args =>
    match textOf name with
    | ":" | "trap" | "set" | "umask" => done 0
    | "kill" =>
      let words := args.map textOf
      if words.contains "-0" || !words.contains ownNumber then done (if words.contains ownNumber then 0 else 1)
      else .exit Process.killedStatus
    | "exit" => .exit (match args with
        | n :: _ => (numberOf n).toNat % 256
        | [] => s.status)
    | "echo" => Sinks.say sinks.out (echoed args) (done 0)
    | "cd" =>
      let target := textOf (args.headD (s.get "HOME"))
      let dir := Path.slashJoin (Path.components (Path.join s.dir target))
      .enter dir fun there =>
        if there then next { s.set "PWD" (Bytes.ofText dir) with dir, status := 0 }
        else Sinks.say sinks.err (textOf (s.params.headD []) ++ s!": 1: cd: can't cd to {target}" |> lineOf)
          (done 2)
    | "read" =>
      let raw := args.head? = some (Bytes.ofText "-r")
      let names := (args.drop (if raw then 1 else 0)).map textOf
      .readLine fun line whole =>
        next { assignLine s (if raw then line else withoutEscapes line) names with
          status := if whole then 0 else 1 }
    | "export" => next { args.foldl assignText s with status := 0 }
    | "unset" => next { s with vars := s.vars.filter fun v => !(args.map textOf).contains v.1, status := 0 }
    | "shift" => next { s with params := s.params.take 1 ++ s.params.drop 2, status := 0 }
    | "test" => done (if test args then 0 else 1)
    | "[" => done (if test args.dropLast then 0 else 1)
    | "exec" =>
      match args with
      | [] => done 0
      | name :: args =>
        match tool? ((Path.fileName? (textOf name)).getD "") args s with
        | some p => sinks.route p
        | none => Sinks.say sinks.err
            (lineOf (textOf (s.params.headD []) ++ ": 1: exec: " ++ textOf name ++ ": not found")) (.exit 127)
    | text =>
      match tool? ((Path.fileName? text).getD "") args s with
      | some p => (sinks.route p).andThen done
      | none => Sinks.say sinks.err
          (lineOf (textOf (s.params.headD []) ++ ": 1: " ++ text ++ ": not found")) (done 127)

/-- Runs the commands of a script in order. -/
def runScript (next : State → Program) : Script → State → Program
  | [], s => next s
  | (joint, c) :: rest, s =>
    let wanted := match joint with
      | .always => true
      | .onSuccess => s.status == 0
      | .onFailure => s.status != 0
    if wanted then
      let sinks := c.redirects.foldl Sinks.redirect {}
      let assigned := c.assignments.foldl (fun s (n, w) => s.set n (s.value w)) s
      command sinks assigned (c.words.flatMap assigned.expand) fun s => runScript next rest s
    else runScript next rest s

/-- What a shell on a terminal says when it is ready for a line. -/
def prompt : Bytes := Bytes.ofText "# "

/-- Runs what is typed in, a line at a time.  `lines` bounds the lines. -/
def typed (onTerminal : Bool) : (lines : Nat) → State → Program
  | 0, s => .exit s.status
  | lines + 1, s =>
    let read : Program := .readLine fun line whole =>
      if line.isEmpty && !whole then .exit s.status
      else
        match read? (textOf line) with
        | some script => runScript (typed onTerminal lines) script s
        | none => typed onTerminal lines { s with status := 2 }
    if onTerminal then .complain prompt read else read

/-- More lines than anybody types. -/
def maxLines : Nat := 100000

/-- The shell with its arguments: a script behind `-c`, or one that is typed in.  The arguments behind a
script are its name and its parameters. -/
def program (name : String) (args : List String) (vars : Vars) (dir : String) : Program :=
  let known (params : List String) : State := {
    vars := vars.map fun (n, v) => (n, Bytes.ofText v)
    params := params.map Bytes.ofText
    dir }
  match args with
  | "-c" :: script :: rest =>
    match read? script with
    | some commands =>
      runScript (fun s => .exit s.status) commands (known (if rest.isEmpty then [name] else rest))
    | none => .complain (lineOf (name ++ ": 1: Syntax error")) (.exit 2)
  | _ => .askSize fun size => typed size.isSome maxLines (known [name])

end Workbench.Shell
