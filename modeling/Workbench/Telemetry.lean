import Workbench.Fault

/-!
How much a client lets the server report of its use.  Reports go to the log; nothing leaves the host.
-/

namespace Workbench

/-- What may be reported. -/
inductive TelemetryLevel where
  | none
  | crash
  | error
  | usage
deriving DecidableEq, Repr

namespace TelemetryLevel

def code : TelemetryLevel → UInt8
  | none => 0
  | crash => 1
  | error => 2
  | usage => 3

/-- The level of a code; unknown codes allow nothing. -/
def ofCode (n : UInt8) : TelemetryLevel :=
  match n.toNat with
  | 1 => crash
  | 2 => error
  | 3 => usage
  | _ => none

theorem ofCode_code (l : TelemetryLevel) : ofCode l.code = l := by cases l <;> rfl

def shape : Shape TelemetryLevel := fun o d => (Shape.u8 o d).map ofCode

def toJson (l : TelemetryLevel) : Json := Json.nat l.code.toNat

end TelemetryLevel

/-- What takes reports of use, working in `m`. -/
structure TelemetrySink (m : Type → Type) where
  publicLog : (event : String) → (data : Json) → m Unit
  setLevel : TelemetryLevel → m Unit
  level : m TelemetryLevel

/-- The sink of a server that keeps nothing but the level. -/
def TelemetrySink.tracing : TelemetrySink (StateM TelemetryLevel) where
  publicLog _ _ := pure ()
  setLevel level := set level
  level := get

end Workbench
