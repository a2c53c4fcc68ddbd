import Workbench.Bytes

/-!
Text made from a format and arguments, the way that commands print it.
-/

namespace Workbench.Shell

/-- The value of an octal digit. -/
def octal? (b : UInt8) : Option Nat :=
  if 48 ≤ b.toNat ∧ b.toNat < 56 then some (b.toNat - 48) else none

/-- The number of at most so many octal digits, and what stands behind them. -/
def takeOctal : (most : Nat) → (value : Nat) → Bytes → Nat × Bytes
  | most + 1, value, b :: rest =>
    match octal? b with
    | some d => takeOctal most (8 * value + d) rest
    | none => (value, b :: rest)
  | _, value, octets => (value, octets)

/-- The octet that a letter behind a backslash means. -/
def escape? (b : UInt8) : Option UInt8 :=
  match Char.ofNat b.toNat with
  | 'a' => some 7
  | 'b' => some 8
  | 't' => some 9
  | 'n' => some 10
  | 'v' => some 11
  | 'f' => some 12
  | 'r' => some 13
  | '\\' => some 92
  | '"' => some 34
  | '\'' => some 39
  | _ => none

/-- What a backslash and the octet behind it mean, with what follows them. -/
def escapeAt (b : UInt8) (rest : Bytes) : Bytes × Bytes :=
  if (octal? b).isSome then
    let (n, rest) := takeOctal 3 0 (b :: rest)
    ([UInt8.ofNat n], rest)
  else
    match escape? b with
    | some e => ([e], rest)
    | none => ([92, b], rest)

/-- An argument with what its backslashes mean.  Octal numbers have a zero in front, and a backslash with
the letter c ends everything.  `fuel` bounds the octets. -/
def unescape : (fuel : Nat) → Bytes → Bytes × Bool
  | 0, _ => ([], false)
  | fuel + 1, octets =>
    let goOn (head rest : Bytes) : Bytes × Bool :=
      let (tail, ended) := unescape fuel rest
      (head ++ tail, ended)
    match octets with
    | [] => ([], false)
    | 92 :: 99 :: _ => ([], true)
    | 92 :: 48 :: rest =>
      let (n, rest) := takeOctal 3 0 rest
      goOn [UInt8.ofNat n] rest
    | 92 :: b :: rest =>
      match escape? b with
      | some e => goOn [e] rest
      | none => goOn [92, b] rest
    | b :: rest => goOn [b] rest

/-- How a value is set. -/
structure Setting where
  left : Bool := false
  zero : Bool := false
  width : Nat := 0
  precision : Option Nat := none

/-- The value of decimal digits, and what stands behind them. -/
def takeNat (octets : Bytes) : Nat × Bytes :=
  let (digits, rest) := octets.span fun b => 48 ≤ b.toNat && b.toNat < 58
  (digits.foldl (fun n b => 10 * n + (b.toNat - 48)) 0, rest)

/-- Reads how a value is set, up to the letter that says what it is. -/
def takeSetting (octets : Bytes) : Setting × Bytes :=
  let (flags, rest) := octets.span fun b => [45, 48, 43, 32, 35].contains b
  let (width, rest) := takeNat rest
  let (precision, rest) := match rest with
    | 46 :: rest =>
      let (n, rest) := takeNat rest
      (some n, rest)
    | rest => (none, rest)
  (⟨flags.contains 45, flags.contains 48, width, precision⟩, rest)

/-- Fills a value up to its width. -/
def Setting.set (s : Setting) (number : Bool) (octets : Bytes) : Bytes :=
  let missing := s.width - octets.length
  if s.left then octets ++ List.replicate missing 32
  else if s.zero && number then
    match octets with
    | 45 :: digits => 45 :: (List.replicate missing 48 ++ digits)
    | digits => List.replicate missing 48 ++ digits
  else List.replicate missing 32 ++ octets

/-- The number that an argument means: decimal digits, perhaps below zero, or the code of the character
behind a quote. -/
def numberOf (argument : Bytes) : Int :=
  match argument with
  | 45 :: rest => - (Int.ofNat (takeNat rest).1)
  | 39 :: b :: _ | 34 :: b :: _ => Int.ofNat b.toNat
  | octets => Int.ofNat (takeNat octets).1

/-- A value by the letter that says what it is; true if nothing may follow. -/
def valueOf (s : Setting) (letter : Char) (argument : Bytes) : Option (Bytes × Bool) :=
  let digits (base : Nat) : Bytes := Bytes.ofText (String.ofList (Nat.toDigits base (numberOf argument).toNat))
  match letter with
  | 's' => some (s.set false (match s.precision with
      | some n => argument.take n
      | none => argument), false)
  | 'b' =>
    let (octets, ended) := unescape (argument.length + 1) argument
    some (s.set false octets, ended)
  | 'c' => some (s.set false (argument.take 1), false)
  | 'd' | 'i' => some (s.set true (Bytes.ofText (toString (numberOf argument))), false)
  | 'u' => some (s.set true (digits 10), false)
  | 'o' => some (s.set true (digits 8), false)
  | 'x' => some (s.set true (digits 16), false)
  | 'X' => some (s.set true (Bytes.ofText (String.ofList ((Nat.toDigits 16 (numberOf argument).toNat).map Char.toUpper))),
      false)
  | _ => none

/-- What becomes of a format that has been gone through once. -/
structure Pass where
  out : Bytes
  /-- Arguments that have not been used. -/
  rest : List Bytes
  /-- Nothing may follow. -/
  ended : Bool := false

/-- Goes through a format once.  Arguments that are missing are empty.  `fuel` bounds the octets. -/
def pass : (fuel : Nat) → (format : Bytes) → List Bytes → Pass
  | 0, _, arguments => ⟨[], arguments, false⟩
  | fuel + 1, format, arguments =>
    let goOn (head : Bytes) (format : Bytes) (arguments : List Bytes) : Pass :=
      let p := pass fuel format arguments
      { p with out := head ++ p.out }
    match format with
    | [] => ⟨[], arguments, false⟩
    | 37 :: 37 :: rest => goOn [37] rest arguments
    | 37 :: rest =>
      let (s, rest) := takeSetting rest
      match rest with
      | [] => ⟨[], arguments, true⟩
      | letter :: rest =>
        match valueOf s (Char.ofNat letter.toNat) (arguments.headD []) with
        | some (octets, true) => ⟨octets, arguments.drop 1, true⟩
        | some (octets, false) => goOn octets rest (arguments.drop 1)
        | none => ⟨[], arguments, true⟩
    | 92 :: b :: rest =>
      let (octets, rest) := escapeAt b rest
      goOn octets rest arguments
    | b :: rest => goOn [b] rest arguments

/-- Goes through a format as long as there are arguments and it uses some.  `fuel` bounds the times. -/
def passes : (fuel : Nat) → (format : Bytes) → List Bytes → Bytes
  | 0, _, _ => []
  | fuel + 1, format, arguments =>
    let p := pass (format.length + 1) format arguments
    if p.ended || p.rest.isEmpty || p.rest.length = arguments.length then p.out
    else p.out ++ passes fuel format p.rest

/-- The text that a format and its arguments make. -/
def formatted (format : Bytes) (arguments : List Bytes) : Bytes :=
  passes (arguments.length + 1) format arguments

end Workbench.Shell
