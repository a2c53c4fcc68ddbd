import Workbench.Number.Decimal

/-!
The cells of the resource monitor: durations, shares of a frame, sizes and tints.
-/

namespace Workbench.Console.Cells

open Workbench (Binary64)

/-- Shown for values too small to be worth printing. -/
def negligible : String := "—"

/-- A double given by a decimal; every one used here is read exactly as it is written. -/
def literal (coefficient : Nat) (exponent : Nat) : Binary64 :=
  Binary64.nearest false coefficient (Decimal.tenTo exponent)

/-- The threshold below which values are negligible. -/
def threshold : Binary64 := literal 5 3

def kib : Binary64 := Binary64.ofNat 1024
def mib : Binary64 := Binary64.ofNat (1024 * 1024)
def gib : Binary64 := Binary64.ofNat (1024 * 1024 * 1024)

/-- A duration. -/
def milliseconds (x : Binary64) : String :=
  if x.le threshold then negligible else Decimal.fixedText 2 x ++ " ms"

/-- A share of a frame. -/
def percentage (share : Binary64) : String :=
  if share.lt threshold then negligible
  else Decimal.fixedText 2 (share.mul (Binary64.ofNat 100)) ++ "%"

/-- A size with a binary unit and a given ending; sizes that are not positive are unknown. -/
def memory (ending : String) (size : Binary64) : String :=
  if size.le (Binary64.zero false) then "?"
  else
    let (value, unit) :=
      if gib.le size then (size.div gib, "GiB")
      else if mib.le size then (size.div mib, "MiB")
      else if kib.le size then (size.div kib, "KiB")
      else (size, "B")
    s!"{Decimal.fixedText 2 value} {unit}{ending}"

/-- The tint of a share's cell. -/
def tint (share : Binary64) : String :=
  let alpha := if share.lt threshold then Binary64.zero false else share
  s!"rgba(244, 5, 82, {Decimal.plainText alpha})"

end Workbench.Console.Cells
