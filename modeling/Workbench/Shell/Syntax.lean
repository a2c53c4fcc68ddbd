import Workbench.Bytes

/-!
Command lines: simple commands that are joined so that the status of one decides on the next.
-/

namespace Workbench.Shell

/-- A piece of a word. -/
inductive Piece where
  | text (octets : Bytes)
  /-- The value of a parameter; one that is not in quotes is split at blanks. -/
  | param (name : String) (quoted : Bool)
  /-- The value of a parameter if it has one, perhaps not an empty one, and otherwise a text; or the text
  instead of a value, and otherwise nothing. -/
  | choice (name : String) (notEmpty instead : Bool) (octets : Bytes)
  /-- How long the value of a parameter is. -/
  | size (name : String)
deriving DecidableEq, Repr

/-- A word.  A word with quotes stands for something even if nothing is in it. -/
structure Word where
  pieces : List Piece := []
  quoted : Bool := false
deriving DecidableEq, Repr

/-- Where something goes that is said. -/
inductive Sink where
  | output
  | errors
  | nowhere
deriving DecidableEq, Repr

/-- Something else is to be done with what is said. -/
structure Redirect where
  /-- Errors are meant, and not output. -/
  ofErrors : Bool
  target : Sink
deriving DecidableEq, Repr

/-- When a command is run. -/
inductive Joint where
  | always
  | onSuccess
  | onFailure
deriving DecidableEq, Repr

/-- A command: values that it gives to variables, and what is to be run. -/
structure Command where
  assignments : List (String × Word) := []
  words : List Word := []
  redirects : List Redirect := []
deriving DecidableEq, Repr

/-- Commands in order, each with what it is run on. -/
abbrev Script := List (Joint × Command)

/-- What a line is made of. -/
inductive Token where
  | word (w : Word)
  | redirect (r : Redirect)
  | joint (j : Joint)
deriving DecidableEq, Repr

end Workbench.Shell
