import FastqFixtures.Barcode.Neighbors
import Std.Data.HashMap

/-!
# Mismatch sets

The mismatch set of a list of barcodes at bound `m` is every sequence within `m`
substitutions of one of them. Barcodes are validated in order, and the first refused one
ends the expansion at once. Each barcode then produces its neighbours at distances 0 to
`m`, in generation order; a sequence already produced by an earlier barcode (or earlier by
the same barcode listed twice) is a conflict naming its first producer. A set with
conflicts is ambiguous.

The distances are walked by a 64-bit step that goes on while it is at most `m`. At the
largest bound, `2^63 − 1`, the step wraps to `−2^63` before it passes the bound, so the walk
of the first barcode that validates never ends and the expansion never returns.

* `BarcodeSet` — the members of a mismatch set, sorted byte-wise.
* `ball`, `levels` — the sequences one barcode produces, and the walk that produces them.
* `expand` — the mismatch set of a list of barcodes, or why there is none; `none` when the
  expansion never returns.
-/

namespace FastqFixtures.Barcode

set_option autoImplicit false

/-- A set of sequences, sorted byte-wise. -/
structure BarcodeSet where
  members : List Bytes

/-- Whether a sequence belongs to the set. -/
def BarcodeSet.has (s : BarcodeSet) (v : Bytes) : Bool := s.members.contains v

/-- The number of members. -/
def BarcodeSet.size (s : BarcodeSet) : Nat := s.members.length

/-- The largest bound a 64-bit integer holds. -/
def intMax : Nat := Nat.pow 2 63 - 1

/-- The sequences a validated barcode produces at bound `m`: distance 0, then 1, … up to
`m` (distances beyond the length produce nothing). -/
def ball (bc : Bytes) (m : Nat) : List Bytes :=
  (List.range (min m bc.length + 1)).flatMap fun (k : Nat) => neighbors bc k

/-- The walk over the distances of a validated barcode at bound `m`: its `ball` once the step
passes the bound, `none` at the largest bound and above, where the step wraps first and the
walk never ends. -/
def levels (bc : Bytes) (m : Nat) : Option (List Bytes) :=
  if m < intMax then some (ball bc m) else none

/-- The producer of each sequence so far, and the conflicts found so far (reversed). -/
structure Expansion where
  origin : Std.HashMap Bytes Bytes
  conflicts : List Conflict

/-- Records the sequences of barcode `bc`: a sequence already known is a conflict. -/
def Expansion.record (e : Expansion) (bc : Bytes) (vs : List Bytes) : Expansion :=
  vs.foldl (fun e v =>
    match e.origin.get? v with
    | some first => { e with conflicts := ⟨v, first, bc⟩ :: e.conflicts }
    | none => { e with origin := e.origin.insert v bc }) e

/-- Validates and records each barcode in turn; the first refusal ends the expansion, and
a walk that never ends is an expansion that never returns. -/
def Expansion.absorb (m : Nat) (e : Expansion) : List Bytes → Option (Except Fault Expansion)
  | [] => some (.ok e)
  | raw :: rest =>
    match validate raw with
    | .error f => some (.error f)
    | .ok bc =>
      match levels bc m with
      | none => none
      | some vs => (e.record bc vs).absorb m rest

/-- The mismatch set of an expansion that recorded every barcode, or its conflicts. -/
def Expansion.finish (m : Int) (e : Expansion) : Except Fault BarcodeSet :=
  if e.conflicts.isEmpty then .ok ⟨Bytes.sort (e.origin.toList.map (·.1))⟩
  else .error (.ambiguous m e.conflicts.reverse)

/-- The mismatch set of `barcodes` at bound `m`, or `none` when the expansion never
returns. -/
def expand (barcodes : List Bytes) (m : Int) : Option (Except Fault BarcodeSet) :=
  if m < 0 then some (.error (.negativeBound m))
  else (Expansion.absorb m.toNat ⟨∅, []⟩ barcodes).map fun r => r.bind (Expansion.finish m)

end FastqFixtures.Barcode
