import FastqFixtures.Random.Cooked
import FastqFixtures.Random.Source

/-!
# The additive generator

A lagged Fibonacci generator on 64-bit words: 607 words of state, and each step adds the
word 273 places behind the feed into the feed (modulo 2^64) and answers the sum. Seeding
reduces the seed modulo 2^31 − 1, runs a multiplicative congruential generator from it
(20 steps to warm up, then three steps a word), and mixes each word with the table of
`cookedWords`.

Bounded draws take 31 bits (the top bits of the 63-bit answer). For a bound that is a power
of two they are masked; otherwise draws above the largest multiple of the bound are
rejected and drawn again, so every answer below the bound is equally likely.

* `Additive` — the generator's state; `Additive.seeded` — the state for a seed.
* `Additive.next63`, `Additive.below` — a 63-bit word and a bounded draw.
* `Additive.source` — the generator as a `Source`.
-/

namespace FastqFixtures.Random

set_option autoImplicit false

/-- The number of words of state. -/
def stateWords : Nat := 607

/-- How far behind the feed the tap word lies. -/
def tapLag : Nat := 273

/-- The modulus of the seeding generator, 2^31 − 1. -/
def seedModulus : Int := 2147483647

/-- The state of the additive generator. -/
structure Additive where
  words : Array UInt64
  tap : Nat
  feed : Nat

/-- One step of the seeding generator `x ↦ 48271 · x mod (2^31 − 1)`, by Schrage's method. -/
def seedStep (x : Int) : Int :=
  let hi := x.tdiv 44488
  let lo := x.tmod 44488
  let y := 48271 * lo - 3399 * hi
  if y < 0 then y + seedModulus else y

/-- Fills the state words from position `i` on, the seeding generator at `x`. -/
def fillWords (words : Array UInt64) (x : Int) : Nat → Nat → Array UInt64
  | 0, _ => words
  | left + 1, i =>
    let x1 := seedStep x
    let x2 := seedStep x1
    let x3 := seedStep x2
    let u := ((Int.toNat x1).toUInt64 <<< 40) ^^^ ((Int.toNat x2).toUInt64 <<< 20) ^^^
      (Int.toNat x3).toUInt64 ^^^ cookedWords.getD i 0
    fillWords (words.set! i u) x3 left (i + 1)

/-- Runs the seeding generator `n` steps. -/
def seedSteps : Nat → Int → Int
  | 0, x => x
  | n + 1, x => seedSteps n (seedStep x)

/-- The generator seeded with `seed`. -/
def Additive.seeded (seed : Int) : Additive :=
  let r := seed.tmod seedModulus
  let r := if r < 0 then r + seedModulus else r
  let r := if r == 0 then 89482311 else r
  let start := seedSteps 20 r
  { words := fillWords (Array.replicate stateWords 0) start stateWords 0,
    tap := 0, feed := stateWords - tapLag }

/-- One step: the next 64-bit word and the state after it. -/
def Additive.next64 (g : Additive) : UInt64 × Additive :=
  let tap := if g.tap == 0 then stateWords - 1 else g.tap - 1
  let feed := if g.feed == 0 then stateWords - 1 else g.feed - 1
  let x := g.words.getD feed 0 + g.words.getD tap 0
  (x, { words := g.words.set! feed x, tap := tap, feed := feed })

/-- A 63-bit word: the low 63 bits of the next step. -/
def Additive.next63 (g : Additive) : Nat × Additive :=
  let (x, g') := g.next64
  ((x &&& 0x7FFFFFFFFFFFFFFF).toNat, g')

/-- A 31-bit word: the top 31 bits of a 63-bit word. -/
def Additive.next31 (g : Additive) : Nat × Additive :=
  let (x, g') := g.next63
  (x / Nat.pow 2 32, g')

/-- Draws `width`-bit words until one is at most `top`, at most `tries` times. -/
def Additive.drawAtMost (next : Additive → Nat × Additive) (top : Nat) :
    Nat → Additive → Nat × Additive
  | 0, g => next g
  | tries + 1, g =>
    let (v, g') := next g
    if v ≤ top then (v, g') else drawAtMost next top tries g'

/-- How often a draw is repeated at most: each repetition happens with probability below
one half, so this bound is never reached in practice. -/
def retryBound : Nat := 200

/-- A draw below `n`, for `1 ≤ n`. -/
def Additive.below (g : Additive) (n : Nat) : Nat × Additive :=
  if n < Nat.pow 2 31 then
    if n &&& (n - 1) == 0 then
      let (v, g') := g.next31
      (v &&& (n - 1), g')
    else
      let top := Nat.pow 2 31 - 1 - Nat.pow 2 31 % n
      let (v, g') := g.drawAtMost Additive.next31 top retryBound
      (v % n, g')
  else
    if n &&& (n - 1) == 0 then
      let (v, g') := g.next63
      (v &&& (n - 1), g')
    else
      let top := Nat.pow 2 63 - 1 - Nat.pow 2 63 % n
      let (v, g') := g.drawAtMost Additive.next63 top retryBound
      (v % n, g')

/-- The additive generator as a source of draws. -/
def Additive.source : Source Additive where
  draw g n := g.below n

end FastqFixtures.Random
