import Mathlib
import FastqFixtures.Barcode.Count

/-! # The counting loop, pass by pass

`count` sizes a mismatch set by a loop whose step `k` is a 64-bit integer: the loop goes on
while `k ≤ m` and `k ≤ length`, and each pass divides by `k`. Only `k` decides whether the loop
goes on and whether a pass fails, so its control is the walk `k = 1, 2, …` in wrapping
arithmetic. Unless both bounds are the largest 64-bit integer, the walk leaves the condition
after `min(m, length)` passes (none when that is below 1), and the loop returns the sum that
`count` computes. When both are the largest integer every step satisfies the condition: `k`
wraps from `2^63 − 1` to `−2^63` and climbs back to `0`, and that pass divides by zero, after
`2^64 − 1` passes. The loop never runs forever.

* `CountState.Runs` — exactly `n` passes from one state to another.
* `CountState.Returns`, `CountState.Panics` — the two ways a loop stops.
* `runs_of_steps` — the walk of `k`, while the condition holds and `k ≠ 0`.
* `count_of_returns`, `count_eq_none_iff` — `count` is the sum the loop returns with.
* `count_loop_stops` — how the loop stops, for every pair of bounds.
-/

namespace FastqFixtures.Barcode

set_option autoImplicit false

namespace CountState

/-- `Runs length m n s t`: from `s` the loop makes exactly `n` passes and reaches `t`, its
condition holding before each of them. -/
def Runs (length m : Int64) : Nat → CountState → CountState → Prop
  | 0, s, t => s = t
  | n + 1, s, t =>
    s.continues length m = true ∧ ∃ s', s.next length = some s' ∧ Runs length m n s' t

/-- The loop from `s` returns with `t` after `n` passes. -/
def Returns (length m : Int64) (n : Nat) (s t : CountState) : Prop :=
  Runs length m n s t ∧ t.continues length m = false

/-- The loop from `s` makes `n` passes, and the next one divides by zero. -/
def Panics (length m : Int64) (n : Nat) (s : CountState) : Prop :=
  ∃ t, Runs length m n s t ∧ t.continues length m = true ∧ t.next length = none

variable {length m : Int64}

/-! ## One pass -/

theorem continues_iff {s : CountState} :
    s.continues length m = true ↔ s.k ≤ m ∧ s.k ≤ length := by
  simp [continues]

theorem next_eq_none_iff {s : CountState} : s.next length = none ↔ s.k = 0 := by
  unfold next
  split <;> simp_all

theorem k_of_next {s s' : CountState} (h : s.next length = some s') : s'.k = s.k + 1 := by
  unfold next at h
  split at h
  · cases h
  · cases h
    rfl

theorem next_of_ne_zero {s : CountState} (h : s.k ≠ 0) :
    s.next length = some ⟨s.k + 1, s.choose * (length - s.k + 1) / s.k, s.pow * 3,
      s.total + s.choose * (length - s.k + 1) / s.k * (s.pow * 3)⟩ := by
  simp [next, h]

/-- Every step is at most the largest integer, so with both bounds there the condition never
fails. -/
theorem continues_maxValue (s : CountState) :
    s.continues Int64.maxValue Int64.maxValue = true :=
  continues_iff.2 ⟨Int64.le_maxValue _, Int64.le_maxValue _⟩

/-! ## Runs -/

theorem Runs.trans : ∀ {a b : Nat} {s t u : CountState},
    Runs length m a s t → Runs length m b t u → Runs length m (a + b) s u
  | 0, b, s, t, u, h1, h2 => by
    have hst : s = t := h1
    subst hst
    simpa using h2
  | a + 1, b, s, t, u, h1, h2 => by
    obtain ⟨hc, s', hs, hr⟩ := h1
    rw [Nat.add_right_comm]
    exact ⟨hc, s', hs, Runs.trans hr h2⟩

theorem Runs.det : ∀ {n : Nat} {s t t' : CountState},
    Runs length m n s t → Runs length m n s t' → t = t'
  | 0, _, _, _, h, h' => h.symm.trans h'
  | _ + 1, _, _, _, ⟨_, _, hs, hr⟩, ⟨_, _, hs', hr'⟩ => by
    rw [hs] at hs'
    cases hs'
    exact Runs.det hr hr'

theorem Returns.unique : ∀ {n n' : Nat} {s t t' : CountState},
    Returns length m n s t → Returns length m n' s t' → n = n' ∧ t = t'
  | 0, 0, _, _, _, ⟨h, _⟩, ⟨h', _⟩ => ⟨rfl, h.symm.trans h'⟩
  | 0, _ + 1, _, _, _, ⟨h, hc⟩, ⟨⟨hc', _⟩, _⟩ => by
    subst h
    rw [hc] at hc'
    cases hc'
  | _ + 1, 0, _, _, _, ⟨⟨hc, _⟩, _⟩, ⟨h', hc'⟩ => by
    subst h'
    rw [hc] at hc'
    cases hc'
  | _ + 1, _ + 1, _, _, _, ⟨⟨_, _, hs, hr⟩, hc⟩, ⟨⟨_, _, hs', hr'⟩, hc'⟩ => by
    rw [hs] at hs'
    cases hs'
    obtain ⟨rfl, rfl⟩ := Returns.unique ⟨hr, hc⟩ ⟨hr', hc'⟩
    exact ⟨rfl, rfl⟩

theorem Runs.split_last : ∀ {a : Nat} {s u : CountState},
    Runs length m (a + 1) s u → ∃ t, Runs length m a s t ∧ Runs length m 1 t u
  | 0, s, _, h => ⟨s, rfl, h⟩
  | _ + 1, _, _, ⟨hc, s', hs, hr⟩ => by
    obtain ⟨t, hr1, hr2⟩ := Runs.split_last hr
    exact ⟨t, ⟨hc, s', hs, hr1⟩, hr2⟩

/-! ## The walk of the step -/

/-- While every step the walk reaches satisfies the condition and is not `0`, the loop makes
its passes, and after `n` of them the step has moved on by `n` in wrapping arithmetic. -/
theorem runs_of_steps : ∀ (n : Nat) (s : CountState),
    (∀ i < n, s.k + Int64.ofNat i ≠ 0 ∧ s.k + Int64.ofNat i ≤ m ∧
      s.k + Int64.ofNat i ≤ length) →
    ∃ t, Runs length m n s t ∧ t.k = s.k + Int64.ofNat n
  | 0, s, _ => ⟨s, rfl, by simp⟩
  | n + 1, s, h => by
    obtain ⟨hne, hm, hl⟩ := h 0 (Nat.zero_lt_succ n)
    rw [show Int64.ofNat 0 = 0 from rfl, Int64.add_zero] at hne hm hl
    obtain ⟨s', hs⟩ : ∃ s', s.next length = some s' := ⟨_, next_of_ne_zero hne⟩
    have hk := k_of_next hs
    -- the walk from the next state is the rest of the walk from this one
    have hshift : ∀ i, s'.k + Int64.ofNat i = s.k + Int64.ofNat (i + 1) := fun i => by
      rw [hk, Int64.ofNat_add, show Int64.ofNat 1 = 1 from rfl, Int64.add_assoc, Int64.add_comm 1]
    obtain ⟨t, hr, ht⟩ := runs_of_steps n s' fun i hi => by
      rw [hshift]
      exact h (i + 1) (by omega)
    exact ⟨t, ⟨continues_iff.2 ⟨hm, hl⟩, s', hs, hr⟩, by rw [ht, hshift]⟩

theorem runs_from_start (n : Nat)
    (h : ∀ i < n, Int64.ofNat (i + 1) ≠ 0 ∧ Int64.ofNat (i + 1) ≤ m ∧
      Int64.ofNat (i + 1) ≤ length) :
    ∃ t, Runs length m n start t ∧ t.k = Int64.ofNat (n + 1) := by
  have hstart : ∀ i, start.k + Int64.ofNat i = Int64.ofNat (i + 1) := fun i => by
    rw [Int64.ofNat_add, show Int64.ofNat 1 = 1 from rfl, Int64.add_comm]
    rfl
  obtain ⟨t, hr, ht⟩ := @runs_of_steps length m n start fun i hi => by
    rw [hstart]
    exact h i hi
  exact ⟨t, hr, by rw [ht, hstart]⟩

theorem ofNat_ne_zero {n : Nat} (h0 : 0 < n) (h : n < 2 ^ 64) : Int64.ofNat n ≠ 0 := by
  intro hz
  have := congrArg (fun x : Int64 => x.toBitVec.toNat) hz
  simp only [Int64.toBitVec_ofNat', BitVec.toNat_ofNat, Int64.toBitVec_ofNat,
    BitVec.ofNat_eq_ofNat, Nat.zero_mod] at this
  omega

/-! ## Returning -/

theorem toInt_lastStep :
    (if m < length then m else length).toInt = min m.toInt length.toInt := by
  by_cases h : m < length
  · rw [if_pos h]
    rw [Int64.lt_iff_toInt_lt] at h
    omega
  · rw [if_neg h]
    rw [Int64.lt_iff_toInt_lt] at h
    omega

theorem lastStep_eq_maxValue_iff :
    (if m < length then m else length) = Int64.maxValue ↔
      length = Int64.maxValue ∧ m = Int64.maxValue := by
  have hm := Int64.toInt_le m
  have hl := Int64.toInt_le length
  simp only [← Int64.toInt_inj, toInt_lastStep]
  omega

/-- Unless both bounds are the largest integer, the loop returns after `min(m, length)`
passes, or none when that is below 1. -/
theorem returns_of_not_maxValue (h : ¬ (length = Int64.maxValue ∧ m = Int64.maxValue)) :
    ∃ t, Returns length m (if m < length then m else length).toInt.toNat start t := by
  have hne := mt lastStep_eq_maxValue_iff.1 h
  set top := if m < length then m else length with htop_def
  have hmin : top.toInt = min m.toInt length.toInt := toInt_lastStep
  have hlt : top.toInt < 2 ^ 63 - 1 := by
    have hle := Int64.toInt_le top
    have hne' : top.toInt ≠ Int64.maxValue.toInt := fun h' => hne (Int64.toInt_inj.1 h')
    rw [Int64.toInt_maxValue] at hle hne'
    omega
  have hcast : ∀ j : Nat, j < 2 ^ 63 → (Int64.ofNat j).toInt = j :=
    fun j hj => Int64.toInt_ofNat_of_lt hj
  obtain ⟨t, hr, hk⟩ := @runs_from_start length m top.toInt.toNat
    fun i hi => by
      have hi' : ((i + 1 : Nat) : Int) ≤ min m.toInt length.toInt := by omega
      have hki : (Int64.ofNat (i + 1)).toInt = ((i + 1 : Nat) : Int) := hcast (i + 1) (by omega)
      refine ⟨ofNat_ne_zero (by omega) (by omega), ?_, ?_⟩
      · rw [Int64.le_iff_toInt_le, hki]
        omega
      · rw [Int64.le_iff_toInt_le, hki]
        omega
  refine ⟨t, hr, ?_⟩
  have hkt : t.k.toInt = top.toInt.toNat + 1 := by
    rw [hk, hcast _ (by omega)]
    push_cast
    rfl
  cases hc : t.continues length m
  · rfl
  · obtain ⟨hkm, hkl⟩ := continues_iff.1 hc
    rw [Int64.le_iff_toInt_le, hkt] at hkm hkl
    omega

/-- With both bounds the largest integer the condition never fails, so the loop returns
never. -/
theorem not_returns_maxValue {n : Nat} {s t : CountState} :
    ¬ Returns Int64.maxValue Int64.maxValue n s t := fun ⟨_, hc⟩ => by
  rw [continues_maxValue] at hc
  cases hc

/-- With both bounds the largest integer, the step makes every value but `0` before the
pass that divides by it. -/
theorem runs_maxValue (n : Nat) (h : n < 2 ^ 64) :
    ∃ t, Runs Int64.maxValue Int64.maxValue n start t ∧ t.k = Int64.ofNat (n + 1) :=
  runs_from_start n fun i hi =>
    ⟨ofNat_ne_zero (by omega) (by omega), Int64.le_maxValue _, Int64.le_maxValue _⟩

theorem panics_maxValue : Panics Int64.maxValue Int64.maxValue (2 ^ 64 - 1) start := by
  obtain ⟨t, hr, hk⟩ := runs_maxValue (2 ^ 64 - 1) (by omega)
  have hz : t.k = 0 := by rw [hk]; decide
  exact ⟨t, hr, continues_maxValue t, next_eq_none_iff.2 hz⟩

theorem not_runs_maxValue_past :
    ¬ ∃ t, Runs Int64.maxValue Int64.maxValue (2 ^ 64) start t := by
  rintro ⟨u, hu⟩
  obtain ⟨t, hr, _, hnone⟩ := panics_maxValue
  -- split the long run after `2^64 - 1` passes; its last pass would start where `t` does
  have hsplit : 2 ^ 64 = (2 ^ 64 - 1) + 1 := by omega
  rw [hsplit] at hu
  obtain ⟨t', hr', ⟨_, s', hs, _⟩⟩ := Runs.split_last hu
  rw [Runs.det hr' hr, hnone] at hs
  cases hs

/-! ## What `count` returns -/

theorem countFrom_of_runs : ∀ {n : Nat} {s t : CountState}, Runs length m n s t →
    countFrom length n s.k s.choose s.pow s.total = t.total
  | 0, _, _, h => by subst h; rfl
  | _ + 1, s, _, ⟨_, s', hs, hr⟩ => by
    have hne : s.k ≠ 0 := fun h0 => by simp [next_eq_none_iff.2 h0] at hs
    rw [next] at hs
    simp only [hne, if_false, Option.some.injEq] at hs
    subst hs
    rw [countFrom]
    exact countFrom_of_runs hr

/-- When the loop returns, `count` is the sum it returns with. -/
theorem count_of_returns {n : Nat} {t : CountState} (h : Returns length m n start t) :
    count length m = some t.total := by
  have hnot : ¬ (length = Int64.maxValue ∧ m = Int64.maxValue) := fun ⟨hl, hm⟩ => by
    subst hl hm
    exact not_returns_maxValue h
  obtain ⟨t', ht'⟩ := returns_of_not_maxValue hnot
  obtain ⟨rfl, rfl⟩ := Returns.unique ht' h
  have htop := mt lastStep_eq_maxValue_iff.1 hnot
  simp only [count, beq_iff_eq]
  generalize (if m < length then m else length) = top at htop ht' ⊢
  rw [if_neg htop]
  split
  · -- no pass: the loop returns with the start
    next hlt =>
    have hzero : top.toInt.toNat = 0 := by
      rw [Int64.lt_iff_toInt_lt] at hlt
      simp only [Int64.toInt_one] at hlt
      omega
    rw [hzero] at ht'
    rw [← ht'.1]
    rfl
  · rw [← countFrom_of_runs ht'.1]
    rfl

/-- `count` gives no size exactly when both bounds are the largest 64-bit integer. -/
theorem count_eq_none_iff :
    count length m = none ↔ length = Int64.maxValue ∧ m = Int64.maxValue := by
  rw [← lastStep_eq_maxValue_iff]
  simp only [count, beq_iff_eq]
  generalize (if m < length then m else length) = top
  split
  · simp_all
  · split <;> simp_all

/-- The counting loop returns, with the sum `count` gives, exactly unless both bounds are the
largest 64-bit integer. Then the condition holds at every step, so the loop never returns:
`k` reaches the largest integer after `2^63 − 2` passes and wraps to the smallest after one
more. What ends such a run is `k` coming round to `0`: after `2^64 − 1` passes the next one
divides by zero, and no run gets further. -/
theorem count_loop_stops (length m : Int64) :
    ((∃ n t, Returns length m n start t) ↔
      ¬ (length = Int64.maxValue ∧ m = Int64.maxValue)) ∧
    (∀ n t, Returns length m n start t → count length m = some t.total) ∧
    (count length m = none ↔ length = Int64.maxValue ∧ m = Int64.maxValue) ∧
    ((∀ n t, Runs Int64.maxValue Int64.maxValue n start t →
        t.continues Int64.maxValue Int64.maxValue = true) ∧
      (∃ t, Runs Int64.maxValue Int64.maxValue (2 ^ 63 - 2) start t ∧
        t.k = Int64.maxValue) ∧
      (∃ t, Runs Int64.maxValue Int64.maxValue (2 ^ 63 - 1) start t ∧
        t.k = Int64.minValue) ∧
      Panics Int64.maxValue Int64.maxValue (2 ^ 64 - 1) start ∧
      ¬ ∃ t, Runs Int64.maxValue Int64.maxValue (2 ^ 64) start t) := by
  refine ⟨⟨?_, fun h => ?_⟩, fun _ _ h => count_of_returns h, count_eq_none_iff,
    fun _ t _ => continues_maxValue t, ?_, ?_, panics_maxValue, not_runs_maxValue_past⟩
  · rintro ⟨n, t, h⟩ ⟨hl, hm⟩
    subst hl hm
    exact not_returns_maxValue h
  · obtain ⟨t, ht⟩ := returns_of_not_maxValue h
    exact ⟨_, t, ht⟩
  · obtain ⟨t, hr, hk⟩ := runs_maxValue (2 ^ 63 - 2) (by omega)
    exact ⟨t, hr, by rw [hk]; decide⟩
  · obtain ⟨t, hr, hk⟩ := runs_maxValue (2 ^ 63 - 1) (by omega)
    exact ⟨t, hr, by rw [hk]; decide⟩

/-- With both bounds the largest 64-bit integer the loop does end: after `2^64 − 1` passes the
next one divides by zero, and no run makes `2^64` passes. -/
theorem count_loop_ends_at_maxValue :
    Panics Int64.maxValue Int64.maxValue (2 ^ 64 - 1) start ∧
      ¬ ∃ t, Runs Int64.maxValue Int64.maxValue (2 ^ 64) start t :=
  ⟨panics_maxValue, not_runs_maxValue_past⟩

end CountState

end FastqFixtures.Barcode
