import Workbench.Bytes

/-!
Numeric addresses of hosts: four octets between points, or eight groups between colons, of which one run
of zeros may be left out.
-/

namespace Workbench

inductive HostAddress where
  | octets (values : List Nat)
  | groups (values : List Nat) (scope : Nat)
deriving DecidableEq, Repr

namespace HostAddress

/-- The form of a number inside an address. -/
structure Numeral where
  base : Nat
  maxDigits : Option Nat
  /-- Whether more digits may follow a zero. -/
  leadingZeros : Bool
  bound : Nat

namespace Numeral

def octet : Numeral := ⟨10, some 3, false, 0x100⟩
def group : Numeral := ⟨16, some 4, true, 0x10000⟩
def scope : Numeral := ⟨10, none, true, 0x100000000⟩

def digit? (n : Numeral) (c : Char) : Option Nat := (Bytes.hexValue? c).filter (· < n.base)

/-- Reads a number, and gives what stands behind its last digit. -/
def read? (n : Numeral) (cs : List Char) : Option (Nat × List Char) :=
  let digits := cs.takeWhile fun c => (n.digit? c).isSome
  let value := (digits.filterMap n.digit?).foldl (fun v d => v * n.base + d) 0
  if digits.isEmpty || n.maxDigits.any (· < digits.length) || n.bound ≤ value then none
  else if !n.leadingZeros && digits.head? == some '0' && 1 < digits.length then none
  else some (value, cs.drop digits.length)

end Numeral

/-- What follows a character. -/
def after? (c : Char) : List Char → Option (List Char)
  | [] => none
  | d :: rest => if d = c then some rest else none

def readOctets? (cs : List Char) : Option (List Nat × List Char) := do
  let (a, cs) ← Numeral.octet.read? cs
  let (b, cs) ← Numeral.octet.read? (← after? '.' cs)
  let (c, cs) ← Numeral.octet.read? (← after? '.' cs)
  let (d, cs) ← Numeral.octet.read? (← after? '.' cs)
  return ([a, b, c, d], cs)

/-- Reads up to `limit` groups.  The last two may be written as four octets, which ends them; true if
they are. -/
def readGroups : (limit : Nat) → (first : Bool) → List Char → List Nat × Bool × List Char
  | 0, _, cs => ([], false, cs)
  | limit + 1, first, cs =>
    match (if first then some cs else after? ':' cs) with
    | none => ([], false, cs)
    | some next =>
      match (if limit = 0 then none else readOctets? next), Numeral.group.read? next with
      | some ([a, b, c, d], rest), _ => ([a * 256 + b, c * 256 + d], true, rest)
      | _, some (g, rest) =>
        let (more, mixed, rest) := readGroups limit false rest
        (g :: more, mixed, rest)
      | _, none => ([], false, cs)

/-- Reads eight groups; two colons stand for a run of zeros. -/
def readAllGroups? (cs : List Char) : Option (List Nat × List Char) := do
  let (head, mixed, rest) := readGroups 8 true cs
  if head.length = 8 then return (head, rest)
  if mixed then none
  let rest ← after? ':' (← after? ':' rest)
  let (tail, _, rest) := readGroups (7 - head.length) true rest
  return (head ++ List.replicate (8 - head.length - tail.length) 0 ++ tail, rest)

/-- Reads an address as it stands before a port: groups are bracketed, and may have a scope. -/
def ofText? (text : String) : Option HostAddress :=
  match after? '[' text.toList with
  | none => do
    let (values, rest) ← readOctets? text.toList
    if rest.isEmpty then some (.octets values) else none
  | some cs => do
    let (values, rest) ← readAllGroups? cs
    let (scope, rest) ← match after? '%' rest with
      | some rest => Numeral.scope.read? rest
      | none => some (0, rest)
    if rest = [']'] then some (.groups values scope) else none

end HostAddress
end Workbench
