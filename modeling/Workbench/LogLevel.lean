import Workbench.Emitter
import Workbench.Fault
import Workbench.Text.Blank

/-!
The level of the server's log, which clients read and change.
-/

namespace Workbench

/-- How much is logged. -/
inductive LogLevel where
  | trace
  | debug
  | info
  | warning
  | error
  | critical
  | off
deriving DecidableEq, Repr

namespace LogLevel

def code : LogLevel → UInt8
  | trace => 0
  | debug => 1
  | info => 2
  | warning => 3
  | error => 4
  | critical => 5
  | off => 6

/-- The level of a code; unknown codes mean `info`. -/
def ofCode (n : UInt8) : LogLevel :=
  match n.toNat with
  | 0 => trace
  | 1 => debug
  | 3 => warning
  | 4 => error
  | 5 => critical
  | 6 => off
  | _ => info

theorem ofCode_code (l : LogLevel) : ofCode l.code = l := by cases l <;> rfl

def shape : Shape LogLevel := fun o d => (Shape.u8 o d).map ofCode

def toJson (l : LogLevel) : Json := Json.nat l.code.toNat

/-- What the log's filter is told.  The filter has nothing above `error`. -/
def directive : LogLevel → String
  | trace => "trace"
  | debug => "debug"
  | info => "info"
  | warning => "warn"
  | error | critical => "error"
  | off => "off"

/-- The level that a name on the command line means, blanks around it and the case of its letters
apart. -/
def ofName? (name : String) : Option LogLevel :=
  match (Text.trim name).map Char.toLower with
  | "trace" => some trace
  | "debug" => some debug
  | "info" => some info
  | "warn" | "warning" => some warning
  | "error" => some error
  | "critical" => some critical
  | "off" => some off
  | _ => none

end LogLevel

/-- The filter behind a log. -/
inductive LogFilter where
  /-- Levels are only recorded. -/
  | unbound
  | live (directive : String)
  /-- The log has gone; a change of its filter fails. -/
  | gone
deriving DecidableEq, Repr

/-- A log's level, its filter and those who follow its changes. -/
structure LogControl where
  level : LogLevel := .info
  filter : LogFilter := .unbound
  changes : Emitter Json := {}

namespace LogControl

/-- A control that swaps the filter of a log. -/
def reloading (level : LogLevel) : LogControl := { level, filter := .live level.directive }

/-- The log goes; a control that is not bound to one does not mind. -/
def dropFilter (c : LogControl) : LogControl :=
  match c.filter with
  | .live _ => { c with filter := .gone }
  | _ => c

def reloadFailed : Fault := .other "log filter reload failed: subscriber no longer exists"

/-- Changes the level.  Listeners hear of it if it differs. -/
def setLevel (c : LogControl) (level : LogLevel) : Outcome LogControl :=
  let announced := if c.level = level then c.changes else c.changes.fire level.toJson
  match c.filter with
  | .gone => .error reloadFailed
  | .unbound => .ok { c with level, changes := announced }
  | .live _ => .ok { level, filter := .live level.directive, changes := announced }

end LogControl
end Workbench
