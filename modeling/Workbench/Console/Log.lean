import Workbench.Console.History
import Workbench.Shape

/-!
Lines of the console: each names the channel that wrote it.
-/

namespace Workbench.Console

/-- A line of a named channel. -/
structure Line where
  channel : String
  message : String
deriving DecidableEq, Repr

namespace Line

def channelField : Field String := .required "channel" Shape.text
def messageField : Field String := .required "message" Shape.text

def shape : Shape Line :=
  Shape.record "struct StructuredMessage" [channelField.check, messageField.check] fun r => do
    return { channel := ← r.get channelField, message := ← r.get messageField }

def toJson (l : Line) : Json := .obj [("channel", .str l.channel), ("message", .str l.message)]

/-- The line as it is shown. -/
def render (l : Line) : String := s!"[{l.channel}] {l.message}"

end Line

/-- How many lines are kept unless told otherwise. -/
def defaultScrollback : Nat := 200

/-- The lines of a scrollback as they are shown, oldest first. -/
def renderLog (log : History Line) : String :=
  String.intercalate "\n" (log.items.map Line.render)

end Workbench.Console
