import FastqFixtures.Fault

/-!
# Size of a mismatch set

For a barcode of `L` bases the mismatch set at bound `m` has
`1 + Σ_{k=1}^{min(m, L)} C(L, k) · 3^k` members. `count` computes this sum the way a
64-bit machine does: binomials by the running product `choose · (L − k + 1) / k`, powers
of three by repeated multiplication, every product and sum wrapping modulo 2^64 and every
quotient truncated toward zero. The loop runs `k = 1, 2, …` while `k ≤ m` and `k ≤ L`; when
both bounds are the largest 64-bit integer, `k` wraps after step `2^63 − 1`, the condition
stays true, and the loop only stops when `k` comes round to `0` and the body divides by it,
which `count` reports as `none`: no size is ever returned.

* `countFrom` — the loop from a given state, for a given number of steps.
* `count` — the size, or `none` for the loop that never returns one.
* `CountState`, `CountState.continues`, `CountState.next` — the loop pass by pass: its state,
  its condition, and one pass through the body, which fails on a division by zero.
-/

namespace FastqFixtures.Barcode

set_option autoImplicit false

/-- Runs `steps` iterations of the counting loop from step `k` with the running binomial
`choose`, power `pow` and sum `total`. -/
def countFrom (length : Int64) : Nat → Int64 → Int64 → Int64 → Int64 → Int64
  | 0, _, _, _, total => total
  | steps + 1, k, choose, pow, total =>
    let choose' := choose * (length - k + 1) / k
    let pow' := pow * 3
    countFrom length steps (k + 1) choose' pow' (total + choose' * pow')

/-- The size of the mismatch set of an `ACGT` barcode of `length` bases at bound `m`, in
wrapping 64-bit arithmetic; `none` when the loop never ends. -/
def count (length m : Int64) : Option Int64 :=
  let top := if m < length then m else length
  if top == Int64.maxValue then none
  else if top < 1 then some 1
  else some (countFrom length top.toInt.toNat 1 1 1 1)

/-- The state of the counting loop before a pass: the step `k`, the running binomial `choose`,
the power `pow` and the sum `total`. -/
structure CountState where
  k : Int64
  choose : Int64
  pow : Int64
  total : Int64
  deriving DecidableEq, Repr

namespace CountState

/-- The state before the first pass: `total = 1`, `choose = pow = 1`, `k = 1`. -/
def start : CountState := ⟨1, 1, 1, 1⟩

/-- The loop condition `k ≤ m && k ≤ length`, both compared as signed 64-bit integers. -/
def continues (length m : Int64) (s : CountState) : Bool :=
  decide (s.k ≤ m) && decide (s.k ≤ length)

/-- One pass through the loop body, then `k++`; `none` when the body divides by `k = 0`, which
stops the program with a runtime panic. -/
def next (length : Int64) (s : CountState) : Option CountState :=
  if s.k = 0 then none
  else
    let choose := s.choose * (length - s.k + 1) / s.k
    let pow := s.pow * 3
    some ⟨s.k + 1, choose, pow, s.total + choose * pow⟩

end CountState

end FastqFixtures.Barcode
