import Workbench.Number.Binary64

/-!
JSON values.  A number is an integer that fits a signed or an unsigned 64-bit word, or a double.  The
fields of an object are kept sorted by key, in the order of code points, one field a key.
-/

namespace Workbench

/-- An integer of a signed or an unsigned 64-bit word. -/
structure WordInt where
  val : Int
  lower : -0x8000000000000000 ≤ val := by omega
  upper : val < 0x10000000000000000 := by omega
deriving DecidableEq

namespace WordInt

instance : Repr WordInt := ⟨fun n p => reprPrec n.val p⟩
instance : Inhabited WordInt := ⟨⟨0, by decide, by decide⟩⟩

def ofInt? (n : Int) : Option WordInt :=
  if h : -0x8000000000000000 ≤ n ∧ n < 0x10000000000000000 then some ⟨n, h.1, h.2⟩ else none

def ofUInt64 (n : UInt64) : WordInt :=
  ⟨n.toNat, by omega, by have := n.toNat_lt; omega⟩

def ofUInt32 (n : UInt32) : WordInt := ofUInt64 n.toUInt64

/-- Naturals beyond the range give the largest word; counts kept in memory never reach it. -/
def ofNat (n : Nat) : WordInt := (ofInt? n).getD ⟨0xFFFFFFFFFFFFFFFF, by decide, by decide⟩

theorem ofInt?_val (n : WordInt) : ofInt? n.val = some n := by
  have h := And.intro n.lower n.upper
  simp only [ofInt?, h]
  simp

end WordInt

/-- A JSON value. -/
inductive Json where
  | null
  | bool (b : Bool)
  | int (n : WordInt)
  | double (x : Binary64)
  | str (s : String)
  | arr (items : List Json)
  | obj (fields : List (String × Json))
deriving Inhabited

namespace Json

mutual
/-- Values are equal when they have the same form throughout; doubles compare by bits. -/
def decEq : (a b : Json) → Decidable (a = b)
  | .null, .null => isTrue rfl
  | .bool a, .bool b => if h : a = b then isTrue (h ▸ rfl) else isFalse (by simpa using h)
  | .int a, .int b => if h : a = b then isTrue (h ▸ rfl) else isFalse (by simpa using h)
  | .double a, .double b => if h : a = b then isTrue (h ▸ rfl) else isFalse (by simpa using h)
  | .str a, .str b => if h : a = b then isTrue (h ▸ rfl) else isFalse (by simpa using h)
  | .arr a, .arr b => match decEqItems a b with
    | isTrue h => isTrue (h ▸ rfl)
    | isFalse h => isFalse (by simpa using h)
  | .obj a, .obj b => match decEqFields a b with
    | isTrue h => isTrue (h ▸ rfl)
    | isFalse h => isFalse (by simpa using h)
  | .null, .bool _ | .null, .int _ | .null, .double _ | .null, .str _ | .null, .arr _
  | .null, .obj _ => isFalse nofun
  | .bool _, .null | .bool _, .int _ | .bool _, .double _ | .bool _, .str _ | .bool _, .arr _
  | .bool _, .obj _ => isFalse nofun
  | .int _, .null | .int _, .bool _ | .int _, .double _ | .int _, .str _ | .int _, .arr _
  | .int _, .obj _ => isFalse nofun
  | .double _, .null | .double _, .bool _ | .double _, .int _ | .double _, .str _
  | .double _, .arr _ | .double _, .obj _ => isFalse nofun
  | .str _, .null | .str _, .bool _ | .str _, .int _ | .str _, .double _ | .str _, .arr _
  | .str _, .obj _ => isFalse nofun
  | .arr _, .null | .arr _, .bool _ | .arr _, .int _ | .arr _, .double _ | .arr _, .str _
  | .arr _, .obj _ => isFalse nofun
  | .obj _, .null | .obj _, .bool _ | .obj _, .int _ | .obj _, .double _ | .obj _, .str _
  | .obj _, .arr _ => isFalse nofun

def decEqItems : (a b : List Json) → Decidable (a = b)
  | [], [] => isTrue rfl
  | a :: as, b :: bs => match decEq a b, decEqItems as bs with
    | isTrue h, isTrue h' => isTrue (by rw [h, h'])
    | isFalse h, _ => isFalse (by simp [h])
    | _, isFalse h => isFalse (by simp [h])
  | [], _ :: _ | _ :: _, [] => isFalse nofun

def decEqFields : (a b : List (String × Json)) → Decidable (a = b)
  | [], [] => isTrue rfl
  | (k, a) :: as, (l, b) :: bs =>
    match (inferInstance : Decidable (k = l)), decEq a b, decEqFields as bs with
    | isTrue h, isTrue h', isTrue h'' => isTrue (by rw [h, h', h''])
    | isFalse h, _, _ => isFalse (by simp [h])
    | _, isFalse h, _ => isFalse (by simp [h])
    | _, _, isFalse h => isFalse (by simp [h])
  | [], _ :: _ | _ :: _, [] => isFalse nofun
end

instance : DecidableEq Json := decEq

/-- The fields of an object under construction or inspection. -/
abbrev Fields := List (String × Json)

namespace Fields

/-- The value of a key. -/
def get? (fields : Fields) (key : String) : Option Json :=
  (fields.find? fun field => field.1 == key).map (·.2)

/-- Sets a key, in its place by order of code points. -/
def insert (fields : Fields) (key : String) (value : Json) : Fields :=
  match fields with
  | [] => [(key, value)]
  | (k, v) :: rest =>
    if key = k then (key, value) :: rest
    else if key < k then (key, value) :: (k, v) :: rest
    else (k, v) :: insert rest key value

/-- Drops a key. -/
def erase (fields : Fields) (key : String) : Fields :=
  fields.filter fun field => field.1 != key

/-- Sorted fields of a list of pairs; of a key given twice the last value stays. -/
def ofList (pairs : List (String × Json)) : Fields :=
  pairs.foldl (fun fields (key, value) => insert fields key value) []

end Fields

/-- An object from pairs in any order. -/
def ofPairs (pairs : List (String × Json)) : Json := .obj (Fields.ofList pairs)

/-- A number for a count. -/
def nat (n : Nat) : Json := .int (WordInt.ofNat n)

/-- The value of an object's key; nothing for other values. -/
def get? : Json → String → Option Json
  | .obj fields, key => Fields.get? fields key
  | _, _ => none

def str? : Json → Option String
  | .str s => some s
  | _ => none

def bool? : Json → Option Bool
  | .bool b => some b
  | _ => none

def nat? : Json → Option Nat
  | .int n => if 0 ≤ n.val then some n.val.toNat else none
  | _ => none

def arr? : Json → Option (List Json)
  | .arr items => some items
  | _ => none

def obj? : Json → Option Fields
  | .obj fields => some fields
  | _ => none

/-- A text, or null. -/
def ofText? : Option String → Json
  | some s => .str s
  | none => .null

end Json
end Workbench
