import Workbench.Json

/-!
Texts of a manifest in the user's language.  A text that is a key between percent signs stands for the
message of that key, where there is one.
-/

namespace Workbench.Extension

/-- The key that a text names. -/
def messageKey? (text : String) : Option String :=
  match text.toList with
  | '%' :: rest =>
    match rest.reverse with
    | '%' :: c :: inner => some (String.ofList (c :: inner).reverse)
    | _ => none
  | _ => none

/-- The message of a key: a text, or an object that has one. -/
def message? (messages : Json.Fields) (key : String) : Option String :=
  match Json.Fields.get? messages key with
  | some (.str text) => some text
  | some v => (v.get? "message").bind Json.str?
  | none => none

/-- A text with its message in its place. -/
def localizeText (messages : Json.Fields) (text : String) : String :=
  ((messageKey? text).bind (message? messages)).getD text

mutual
/-- Puts messages in the place of their keys throughout a value; keys of objects stay. -/
def localize (messages : Json.Fields) : Json → Json
  | .str text => .str (localizeText messages text)
  | .arr items => .arr (localizeItems messages items)
  | .obj fields => .obj (localizeFields messages fields)
  | v => v

def localizeItems (messages : Json.Fields) : List Json → List Json
  | [] => []
  | v :: rest => localize messages v :: localizeItems messages rest

def localizeFields (messages : Json.Fields) : List (String × Json) → List (String × Json)
  | [] => []
  | (key, v) :: rest => (key, localize messages v) :: localizeFields messages rest
end

end Workbench.Extension
