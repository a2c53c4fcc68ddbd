import Workbench.Fault

/-!
Failures of the operating system's calls, with their numbers and sentences.
-/

namespace Workbench

/-- Why a call failed. -/
inductive Errno where
  | noEntry
  | badDescriptor
  | accessDenied
  | exists
  | notDirectory
  | isDirectory
  | invalid
  | tooLarge
  | nameTooLong
  | notEmpty
  | loop
  | busy
  | networkUnreachable
  | connectionRefused
  /-- The path holds a NUL, and is refused before it is looked at. -/
  | innerNul
deriving DecidableEq, Repr

namespace Errno

def number : Errno → Nat
  | noEntry => 2
  | badDescriptor => 9
  | accessDenied => 13
  | busy => 16
  | «exists» => 17
  | notDirectory => 20
  | isDirectory => 21
  | invalid | innerNul => 22
  | tooLarge => 27
  | nameTooLong => 36
  | notEmpty => 39
  | loop => 40
  | networkUnreachable => 101
  | connectionRefused => 111

def sentence : Errno → String
  | noEntry => "No such file or directory"
  | badDescriptor => "Bad file descriptor"
  | accessDenied => "Permission denied"
  | busy => "Device or resource busy"
  | «exists» => "File exists"
  | notDirectory => "Not a directory"
  | isDirectory => "Is a directory"
  | invalid => "Invalid argument"
  | tooLarge => "File too large"
  | nameTooLong => "File name too long"
  | notEmpty => "Directory not empty"
  | loop => "Too many levels of symbolic links"
  | networkUnreachable => "Network is unreachable"
  | connectionRefused => "Connection refused"
  | innerNul => "file name contained an unexpected NUL byte"

/-- What the peer is told apart. -/
def kind : Errno → IoKind
  | noEntry => .notFound
  | «exists» => .alreadyExists
  | invalid | innerNul => .invalidInput
  | accessDenied => .permissionDenied
  | _ => .other

def message : Errno → String
  | innerNul => innerNul.sentence
  | e => s!"{e.sentence} (os error {e.number})"

/-- What is left of a failure that was remembered by its kind alone. -/
def kindSentence : Errno → String
  | noEntry => "entity not found"
  | «exists» => "entity already exists"
  | notDirectory => "not a directory"
  | isDirectory => "is a directory"
  | invalid | innerNul => "invalid input parameter"
  | tooLarge => "file too large"
  | nameTooLong => "invalid filename"
  | notEmpty => "directory not empty"
  | busy => "resource busy"
  | accessDenied => "permission denied"
  | networkUnreachable => "network unreachable"
  | connectionRefused => "connection refused"
  | badDescriptor | loop => "uncategorized error"

def toFault (e : Errno) : Fault := .io e.kind e.message

end Errno
end Workbench
