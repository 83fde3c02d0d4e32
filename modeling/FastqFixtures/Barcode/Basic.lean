import FastqFixtures.Fault
import FastqFixtures.Text.UpperCase

/-!
# Barcodes

An index barcode is a byte string over the bases `A`, `C`, `G`, `T` and the wildcard `N`,
in either case. Validation upper-cases the barcode as text and then checks every byte.

* `isBase` — the five letters of a valid barcode.
* `validate` — the upper-cased barcode, or the first byte outside `ACGTN` with its 1-based
  position in the upper-cased text.
* `undetermined` — whether a barcode is all `N`, the catch-all row of a sample sheet.
-/

namespace FastqFixtures.Barcode

open FastqFixtures.Text

set_option autoImplicit false

/-- The letters of a valid upper-cased barcode: `A C G T N`. -/
def isBase (b : UInt8) : Bool := b == 65 || b == 67 || b == 71 || b == 84 || b == 78

/-- The first byte of `bs` that is not a base, with its position counted from `pos`. -/
def firstOutside : Bytes → Nat → Option (UInt8 × Nat)
  | [], _ => none
  | b :: bs, pos => if isBase b then firstOutside bs (pos + 1) else some (b, pos)

/-- The upper-cased barcode, or why it is refused. -/
def validate (bc : Bytes) : Except Fault Bytes :=
  if bc.isEmpty then .error .emptyBarcode
  else
    let up := upper bc
    match firstOutside up 1 with
    | some (b, pos) => .error (.badBase up b pos)
    | none => .ok up

/-- Whether a barcode is non-empty and, upper-cased, all `N`. -/
def undetermined (bc : Bytes) : Bool := !bc.isEmpty && (upper bc).all (· == 78)

end FastqFixtures.Barcode
