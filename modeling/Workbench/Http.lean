import Workbench.Text.Utf8

/-!
Requests and responses of HTTP/1.

The head of a request is a request line and header lines, up to a blank line.  Looked at from its front a byte string
is a whole head, or cannot become one, or needs more.

The target of a request is a path with a query, or a whole resource identifier.  Of what it names only the query is
wanted, but all of it has to be well-formed.
-/

namespace Workbench.Http

/-- Why octets cannot become a head. -/
inductive HeadFault where
  | token
  | version
  | newLine
  | headerName
  | headerValue
  | tooManyHeaders
deriving DecidableEq, Repr

def HeadFault.message : HeadFault → String
  | token => "invalid token"
  | version => "invalid HTTP version"
  | newLine => "invalid new line"
  | headerName => "invalid header name"
  | headerValue => "invalid header value"
  | tooManyHeaders => "too many headers"

/-- What a look at the front of some octets finds. -/
inductive Scan (α : Type) where
  | more
  | bad (fault : HeadFault)
  | got (value : α) (rest : Bytes)

/-- Goes on with what follows. -/
def Scan.bind (s : Scan α) (f : α → Bytes → Scan β) : Scan β :=
  match s with
  | more => .more
  | bad e => .bad e
  | got a rest => f a rest

/-- A header line. -/
structure Header where
  name : Bytes
  value : Bytes
deriving DecidableEq, Repr

/-- The head of a request. -/
structure Head where
  method : Bytes
  target : Bytes
  /-- The digit after `HTTP/1.`. -/
  minor : Nat
  headers : List Header
deriving DecidableEq, Repr

/-- Header lines beyond this number are refused. -/
def maxHeaders : Nat := 64

def cr : UInt8 := 13
def lf : UInt8 := 10
def space : UInt8 := 32
def tab : UInt8 := 9
def colon : UInt8 := 58

/-- Marks that a token may hold besides letters and digits. -/
def tokenMarks : Bytes := Bytes.ofText "!#$%&'*+-.^_\x60|~"

/-- An octet of a method or of a header's name. -/
def isToken (b : UInt8) : Bool :=
  let n := b.toNat
  (48 ≤ n && n ≤ 57) || (65 ≤ n && n ≤ 90) || (97 ≤ n && n ≤ 122) || tokenMarks.contains b

/-- An octet of a request's target. -/
def isTarget (b : UInt8) : Bool := 0x21 ≤ b.toNat && b.toNat ≠ 0x7F

/-- An octet of a header's value. -/
def isValue (b : UInt8) : Bool := b == tab || (0x20 ≤ b.toNat && b.toNat ≠ 0x7F)

def isBlank (b : UInt8) : Bool := b == space || b == tab

namespace Head

/-- Passes over blank lines. -/
def skipBlankLines : Bytes → Scan Unit
  | [] => .more
  | a :: rest =>
    if a = cr then
      match rest with
      | [] => .more
      | b :: rest => if b = lf then skipBlankLines rest else .bad .newLine
    else if a = lf then skipBlankLines rest
    else .got () (a :: rest)

/-- One or more octets of a class, and the mark behind them. -/
def word (isIn : UInt8 → Bool) (mark : UInt8) (fault : HeadFault) (octets : Bytes) : Scan Bytes :=
  match octets.dropWhile isIn with
  | [] => .more
  | b :: rest =>
    if b = mark ∧ octets.takeWhile isIn ≠ [] then .got (octets.takeWhile isIn) rest else .bad fault

/-- What the version begins with. -/
def versionName : Bytes := Bytes.ofText "HTTP/1."

/-- The digit behind what a version begins with. -/
def digit (front : Bytes) : Bytes → Scan Nat
  | [] => .more
  | d :: rest =>
    if front = versionName ∧ d.toNat = 48 then .got 0 rest
    else if front = versionName ∧ d.toNat = 49 then .got 1 rest
    else .bad .version

/-- The version, as the digit after `HTTP/1.`. -/
def version (octets : Bytes) : Scan Nat :=
  match octets.drop 7 with
  | [] => if octets.isPrefixOf versionName then .more else .bad .version
  | d :: rest => digit (octets.take 7) (d :: rest)

/-- The end of a line. -/
def lineEnd (fault : HeadFault) : Bytes → Scan Unit
  | [] => .more
  | a :: rest =>
    if a = cr then
      match rest with
      | [] => .more
      | b :: rest => if b = lf then .got () rest else .bad fault
    else if a = lf then .got () rest
    else .bad fault

/-- The request line, as a head without header lines. -/
def requestLine (octets : Bytes) : Scan Head :=
  (skipBlankLines octets).bind fun _ rest =>
    (word isToken space .token rest).bind fun method rest =>
      (word isTarget space .token rest).bind fun target rest =>
        (version rest).bind fun minor rest =>
          (lineEnd .newLine rest).bind fun _ rest => .got ⟨method, target, minor, []⟩ rest

/-- A value, up to the end of its line; blanks around it do not count. -/
def headerValue (octets : Bytes) : Scan Bytes :=
  let line := octets.takeWhile isValue
  (lineEnd .headerValue (octets.dropWhile isValue)).bind fun _ rest =>
    .got ((line.dropWhile isBlank).reverse.dropWhile isBlank).reverse rest

/-- A header line; nothing stands for the blank line. -/
def headerLine : Bytes → Scan (Option Header)
  | [] => .more
  | a :: rest =>
    if a = cr ∨ a = lf then (lineEnd .newLine (a :: rest)).bind fun _ rest => .got none rest
    else
      (word isToken colon .headerName (a :: rest)).bind fun name rest =>
        (headerValue rest).bind fun value rest => .got (some ⟨name, value⟩) rest

/-- Header lines up to a blank line, of which `room` may still come. -/
def headerLines : (room : Nat) → Bytes → Scan (List Header)
  | 0, octets => (headerLine octets).bind fun
      | none, rest => .got [] rest
      | some _, _ => .bad .tooManyHeaders
  | room + 1, octets => (headerLine octets).bind fun
      | none, rest => .got [] rest
      | some h, rest => (headerLines room rest).bind fun hs rest => .got (h :: hs) rest

/-- A whole head. -/
def scan (octets : Bytes) : Scan Head :=
  (requestLine octets).bind fun line rest =>
    (headerLines maxHeaders rest).bind fun headers rest => .got { line with headers } rest

end Head

/-- Why a target is not well-formed. -/
inductive TargetFault where
  | character
  | authority
  | format
  | tooLong
  | schemeTooLong
deriving DecidableEq, Repr

def TargetFault.message : TargetFault → String
  | character => "invalid uri character"
  | authority => "invalid authority"
  | format => "invalid format"
  | tooLong => "uri too long"
  | schemeTooLong => "scheme too long"

namespace Target

def maxLength : Nat := 65534
def maxSchemeLength : Nat := 64

def isAlnum (n : Nat) : Bool :=
  (48 ≤ n && n ≤ 57) || (65 ≤ n && n ≤ 90) || (97 ≤ n && n ≤ 122)

/-- An octet among some characters. -/
def isAmong (marks : String) (n : Nat) : Bool := marks.toList.any (·.toNat == n)

/-- An octet that a path may hold. -/
def isPathOctet (b : UInt8) : Bool :=
  let n := b.toNat
  n == 0x21 || (0x24 ≤ n && n ≤ 0x3B) || n == 0x3D || (0x40 ≤ n && n ≤ 0x5F) || (0x61 ≤ n && n ≤ 0x7A)
    || n == 0x7C || n == 0x7E || 0x7F ≤ n || isAmong "\"\x7b\x7d" n

/-- An octet that a query may hold. -/
def isQueryOctet (b : UInt8) : Bool :=
  let n := b.toNat
  n == 0x21 || (0x24 ≤ n && n ≤ 0x3B) || n == 0x3D || 0x3F ≤ n

def question : UInt8 := 63
def hash : UInt8 := 35
def slash : UInt8 := 47
def star : UInt8 := 42

/-- The query of a path with one.  A fragment does not count. -/
def queryOfPath (octets : Bytes) : Except TargetFault (Option Bytes) :=
  let path := octets.takeWhile fun b => b ≠ question && b ≠ hash
  let shown := octets.takeWhile (· ≠ hash)
  let query := match shown.drop path.length with
    | _ :: query => some query
    | [] => none
  if path.all isPathOctet && (query.getD []).all isQueryOctet && (Utf8.decode? shown).isSome
  then .ok query else .error .character

/-- What the part of an authority that has been read holds. -/
structure AuthorityState where
  colons : Nat := 0
  opened : Bool := false
  closed : Bool := false
  percent : Bool := false
  /-- The last octet was the end of the user's part. -/
  atEnd : Bool := false

/-- One more octet of an authority. -/
def authorityStep (s : AuthorityState) (b : UInt8) : Except TargetFault AuthorityState :=
  let n := b.toNat
  let s := { s with atEnd := false }
  if n = 58 then
    if 8 ≤ s.colons then .error .authority else .ok { s with colons := s.colons + 1 }
  else if n = 91 then
    if s.percent || s.opened then .error .authority else .ok { s with opened := true }
  else if n = 93 then
    if !s.opened || s.closed then .error .authority
    else .ok { s with closed := true, colons := 0, percent := false }
  else if n = 64 then .ok { s with atEnd := true, colons := 0, percent := false }
  else if n = 37 then .ok { s with percent := true }
  else if isAlnum n || isAmong "!$&'()*+,-.;=_~" n then .ok s
  else .error .character

/-- The octets of the authority in front. -/
def authority (octets : Bytes) : Except TargetFault Bytes := do
  let part := octets.takeWhile fun b => b ≠ slash && b ≠ question && b ≠ hash
  let s ← part.foldlM authorityStep {}
  if s.opened != s.closed || 1 < s.colons || s.atEnd || s.percent then .error .authority
  else return part

def isSchemeOctet (b : UInt8) : Bool := isAlnum b.toNat || isAmong "+-.~" b.toNat

/-- What follows a scheme and its `://`, if there is one in front. -/
def afterScheme? (octets : Bytes) : Except TargetFault (Option Bytes) :=
  let scheme := octets.takeWhile isSchemeOctet
  match octets.drop scheme.length with
  | a :: b :: c :: rest =>
    if a.toNat = 58 ∧ b = slash ∧ c = slash then
      if maxSchemeLength < scheme.length then .error .schemeTooLong else .ok (some rest)
    else .ok none
  | _ => .ok none

/-- The query of a target, if it has one. -/
def query (octets : Bytes) : Except TargetFault (Option Bytes) := do
  if maxLength < octets.length then .error .tooLong
  else if octets.head? = some slash then queryOfPath octets
  else if octets = [star] then return none
  else
    match ← afterScheme? octets with
    | none =>
      let part ← authority octets
      if octets.length = 1 && part ≠ octets then .error .character
      else if part ≠ octets then .error .format
      else return none
    | some rest =>
      let part ← authority rest
      if part.isEmpty then .error .format else queryOfPath (rest.drop part.length)

end Target

/-- The response to a request. -/
structure Response where
  status : Nat
  reason : String
  headers : List (String × String)
  body : Bytes := []
deriving DecidableEq, Repr

namespace Response

def statusLine (r : Response) : String := s!"HTTP/1.1 {r.status} {r.reason}"

def encode (r : Response) : Bytes :=
  let lines := r.statusLine :: r.headers.map fun (name, value) => s!"{name}: {value}"
  Bytes.ofText (String.join (lines.map (· ++ "\r\n")) ++ "\r\n") ++ r.body

/-- The refusal of a request, with the reason as text. -/
def badRequest (reason : String) : Response where
  status := 400
  reason := "Bad Request"
  headers := [("content-type", "text/plain"), ("content-length", toString reason.utf8ByteSize),
    ("connection", "close")]
  body := Bytes.ofText reason

end Response

end Workbench.Http
