import Workbench.Base64
import Workbench.Fault

/-!
Binary content inside JSON arguments and results: written as base64, read from base64 or from an array
of octets.
-/

namespace Workbench.Buffer

/-- What a reader of binary content asks for. -/
def wanted : String := "a base64 string or a byte array"

def shape : Shape ByteArray := fun o d =>
  match d with
  | .text s =>
    match Base64.decodeText s with
    | .ok b => .ok (Blob.ofBytes b)
    | .error e => .error (.refused e.message)
  | .bytes b => .ok (Blob.ofBytes b)
  | .seq items => (items.mapM (Shape.u8 o)).map Blob.ofBytes
  | d => .error (.wrongType d.found wanted)

def toJson (blob : ByteArray) : Json := .str (Base64.encode (Blob.toBytes blob))

end Workbench.Buffer
