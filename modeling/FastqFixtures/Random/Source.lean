import FastqFixtures.Bytes

/-!
# Sources of draws

Synthesis draws every random choice from a source: given a bound `n ≥ 1` the source answers
a number that should lie below `n`, and moves to its next state. A source is a state type and
a step function, so that runs can be replayed and compared draw by draw.

* `Source` — a step function on states.
* `Source.pick`, `Source.symbols` — a choice from a list and a run of symbols of an alphabet.
* `Source.scripted` — a source that answers listed numbers in turn.
-/

namespace FastqFixtures.Random

set_option autoImplicit false

/-- A source of draws with states `σ`: `draw s n` is an answer meant to lie below `n ≥ 1`
and the state after it. -/
structure Source (σ : Type) where
  draw : σ → Nat → Nat × σ

variable {σ : Type}

/-- The element of `xs` at a drawn index (the first one if the answer is out of range). -/
def Source.pick {α : Type} [Inhabited α] (src : Source σ) (s : σ) (xs : List α) : α × σ :=
  let (i, s') := src.draw s xs.length
  (xs.getD i default, s')

/-- `count` symbols of `alphabet`, each drawn in turn, with the state after them. -/
def Source.symbols (src : Source σ) (s : σ) (alphabet : Bytes) : Nat → Bytes × σ
  | 0 => ([], s)
  | n + 1 =>
    let (b, s1) := src.pick s alphabet
    let (rest, s2) := src.symbols s1 alphabet n
    (b :: rest, s2)

/-- A source that answers the numbers of `script` in turn, starting over at its end, each
reduced below the bound; its state counts the draws made. -/
def Source.scripted (script : List Nat) : Source Nat where
  draw k n := ((script.getD (k % script.length) 0) % n, k + 1)

end FastqFixtures.Random
