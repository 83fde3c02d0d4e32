import FastqFixtures.Barcode.Basic

/-!
# Neighbouring barcodes

The neighbours of a barcode at distance `k` are the strings of its length that differ from
it at exactly `k` positions, each changed position holding one of `A`, `C`, `G`, `T` other
than the byte it replaces (a byte that is no base, such as `N`, may become any of the
four). They come in a fixed order: position sets in lexicographic order, and for each set
the substitutions nested with the first position varying slowest, each position trying
`A`, `C`, `G`, `T` in turn.

The same neighbours can be enumerated in place, with one buffer that two nested recursions
change and put back: `choose` picks the positions one depth at a time, each after the one
before, and `assign` tries the replacements at each chosen position, writing the buffer out
once every position holds one and restoring the byte it replaced when it is done.

* `positionSets` — the `k`-element subsets of a list, in lexicographic order.
* `substitutions` — all ways to change the given positions.
* `neighbors` — the neighbours at distance `k`; distance 0 gives the barcode itself, and a
  negative distance or one beyond the length gives none.
* `Search`, `Search.assign`, `Search.choose`, `neighborsInPlace` — the enumeration in place.
-/

namespace FastqFixtures.Barcode

set_option autoImplicit false

/-- The bases a changed position may take, in order. -/
def bases : List UInt8 := [65, 67, 71, 84]

/-- The bases that may replace byte `b`. -/
def replacements (b : UInt8) : List UInt8 := bases.filter (· != b)

/-- The `k`-element sublists of `ps`, in lexicographic order. -/
def positionSets : Nat → List Nat → List (List Nat)
  | 0, _ => [[]]
  | _ + 1, [] => []
  | k + 1, p :: ps => (positionSets k ps).map (p :: ·) ++ positionSets (k + 1) ps

/-- Every way to change `bc` at the positions `ps`, the first position varying slowest. -/
def substitutions (bc : Bytes) : List Nat → List Bytes
  | [] => [bc]
  | p :: ps => (replacements (bc.getD p 0)).flatMap fun r => substitutions (bc.set p r) ps

/-- The neighbours of `bc` at distance `k`, in generation order. -/
def neighbors (bc : Bytes) (k : Int) : List Bytes :=
  if k = 0 then [bc]
  else if k < 0 ∨ k > bc.length then []
  else (positionSets k.toNat (List.range bc.length)).flatMap (substitutions bc)

/-- The working state of the enumeration in place: the buffer being changed, the position
chosen at each depth, and the neighbours written so far. -/
structure Search where
  buf : Bytes
  positions : List Nat
  out : List Bytes

namespace Search

/-- Tries each replacement at the position chosen at `depth`, with the deeper positions below
it, and writes the buffer out once all `k` positions hold one; the byte of `bc` at the position
is put back at the end. -/
def assign (bc : Bytes) (k depth : Nat) (s : Search) : Search :=
  if depth < k then
    let p := s.positions.getD depth 0
    let orig := bc.getD p 0
    let s := bases.foldl (fun s r =>
      if r = orig then s else assign bc k (depth + 1) { s with buf := s.buf.set p r }) s
    { s with buf := s.buf.set p orig }
  else { s with out := s.out ++ [s.buf] }
termination_by k - depth

/-- Chooses the position at `depth` and, below it, the deeper ones, each position from `start`
on while enough positions remain after it for the depths still to fill; once all `k` are
chosen, assigns them. -/
def choose (bc : Bytes) (k start depth : Nat) (s : Search) : Search :=
  if depth < k then
    (List.range' start ((bc.length : Int) - ((k : Int) - depth) + 1 - start).toNat).foldl
      (fun s p =>
        choose bc k (p + 1) (depth + 1) { s with positions := s.positions.set depth p }) s
  else assign bc k 0 s
termination_by k - depth

end Search

/-- The neighbours of `bc` at distance `k`, enumerated in place. -/
def neighborsInPlace (bc : Bytes) (k : Int) : List Bytes :=
  if k = 0 then [bc]
  else if k < 0 ∨ k > bc.length then []
  else (Search.choose bc k.toNat 0 0 ⟨bc, List.replicate k.toNat 0, []⟩).out

end FastqFixtures.Barcode
