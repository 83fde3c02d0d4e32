import FastqFixtures.Proofs.MismatchBall

/-! # How many neighbours a barcode has

A position holding one of `A C G T` can take the three other bases; any other byte, such as
`N`, can take all four. The neighbours at distance `k` are generated once per `k`-element
set of positions, once per way of changing those positions, so their number is a sum over
position sets of a product over positions.

* `length_substitutions` — the ways to change a list of distinct positions.
* `sum_positionSets` — a sum over the generated position sets is one over `powersetCard`.
* `neighbors_spec` — the neighbours at every distance: what they are, and how many.
-/

namespace FastqFixtures.Barcode

set_option autoImplicit false

theorem length_replacements (b : UInt8) :
    (replacements b).length = if b ∈ bases then 3 else 4 := by
  by_cases hb : b ∈ bases
  · simp only [bases, List.mem_cons, List.not_mem_nil, or_false] at hb
    rcases hb with rfl | rfl | rfl | rfl <;> rfl
  · rw [if_neg hb, replacements, List.filter_eq_self.2]
    · rfl
    · intro a ha
      simpa using fun h : a = b => hb (h ▸ ha)

theorem length_substitutions (bc : Bytes) {ps : List Nat} (hps : ps.Nodup) :
    (substitutions bc ps).length =
      (ps.map fun p => (replacements (bc.getD p 0)).length).prod := by
  induction ps generalizing bc with
  | nil => simp [substitutions]
  | cons p ps ih =>
    obtain ⟨hp, hps⟩ := List.nodup_cons.1 hps
    -- a replacement at `p` leaves the positions still to change as they were
    have hrest : ∀ r : UInt8,
        (ps.map fun q => (replacements ((bc.set p r).getD q 0)).length) =
          ps.map fun q => (replacements (bc.getD q 0)).length :=
      fun r => List.map_congr_left fun q hq => by
        rw [getD_set_of_ne fun h : q = p => hp (h ▸ hq)]
    simp only [substitutions, List.length_flatMap, ih _ hps, hrest, List.map_const',
      List.sum_replicate, smul_eq_mul, List.map_cons, List.prod_cons]

/-! ## Position sets as finite sets -/

theorem toFinset_injOn_sublists {n : Nat} {ps qs : List Nat}
    (hps : List.Sublist ps (List.range n)) (hqs : List.Sublist qs (List.range n))
    (h : ps.toFinset = qs.toFinset) : ps = qs := by
  rw [← filter_mem_of_sublist List.nodup_range hps,
    ← filter_mem_of_sublist List.nodup_range hqs]
  refine List.filter_congr fun i _ => ?_
  rw [decide_eq_decide, ← List.mem_toFinset, h, List.mem_toFinset]

theorem toFinset_positionSets (n k : Nat) :
    ((positionSets k (List.range n)).map List.toFinset).toFinset =
      (Finset.range n).powersetCard k := by
  ext S
  simp only [List.mem_toFinset, List.mem_map, mem_positionSets, Finset.mem_powersetCard]
  constructor
  · rintro ⟨ps, ⟨hsub, rfl⟩, rfl⟩
    refine ⟨fun i hi => ?_, List.toFinset_card_of_nodup (List.nodup_range.sublist hsub)⟩
    simpa using sublist_range_lt hsub i (List.mem_toFinset.1 hi)
  · rintro ⟨hS, rfl⟩
    have hset : ((List.range n).filter fun i => decide (i ∈ S)).toFinset = S := by
      ext i
      simp only [List.mem_toFinset, List.mem_filter, List.mem_range, decide_eq_true_eq]
      exact ⟨And.right, fun hi => ⟨Finset.mem_range.1 (hS hi), hi⟩⟩
    refine ⟨_, ⟨List.filter_sublist, ?_⟩, hset⟩
    conv_rhs => rw [← hset]
    exact (List.toFinset_card_of_nodup (List.nodup_range.filter _)).symm

/-- A sum over the generated position sets is a sum over all `k`-element sets of positions. -/
theorem sum_positionSets (n k : Nat) (f : Nat → Nat) :
    ((positionSets k (List.range n)).map fun ps => (ps.map f).prod).sum =
      ∑ S ∈ (Finset.range n).powersetCard k, ∏ p ∈ S, f p := by
  have hnd : ((positionSets k (List.range n)).map List.toFinset).Nodup :=
    (positionSets_nodup k List.nodup_range).map_on fun ps hps qs hqs =>
      toFinset_injOn_sublists (mem_positionSets.1 hps).1 (mem_positionSets.1 hqs).1
  rw [← toFinset_positionSets, List.sum_toFinset _ hnd, List.map_map]
  congr 1
  refine List.map_congr_left fun ps hps => ?_
  exact (List.prod_toFinset f (List.nodup_range.sublist (mem_positionSets.1 hps).1)).symm

/-! ## Neighbours -/

theorem length_neighbors (bc : Bytes) (k : Nat) :
    (neighbors bc k).length =
      ∑ S ∈ (Finset.range bc.length).powersetCard k, ∏ p ∈ S,
        if bc.getD p 0 ∈ bases then 3 else 4 := by
  rw [neighbors_eq_flatMap, List.length_flatMap, ← sum_positionSets]
  congr 1
  refine List.map_congr_left fun ps hps => ?_
  rw [length_substitutions bc (List.nodup_range.sublist (mem_positionSets.1 hps).1)]
  simp only [length_replacements]

/-- The neighbours of any byte string at distance `k`: the string itself at distance `0`, none
at a negative distance or one beyond the length, and otherwise, each once, the strings of its
length that differ from it at exactly `k` positions, each of them holding one of `A C G T`;
there are as many as the sum over `k`-element position sets of the product of the choices at
each position, three at a base and four elsewhere. -/
theorem neighbors_spec (bc : Bytes) (k : Int) :
    (k = 0 → neighbors bc k = [bc]) ∧
    (k < 0 ∨ bc.length < k → neighbors bc k = []) ∧
    (1 ≤ k → k ≤ bc.length →
      (neighbors bc k).Nodup ∧
      (∀ s, s ∈ neighbors bc k ↔ s.length = bc.length ∧
        (mismatchPositions bc s).length = k.toNat ∧
        ∀ i ∈ mismatchPositions bc s, s.getD i 0 ∈ bases) ∧
      (neighbors bc k).length =
        ∑ S ∈ (Finset.range bc.length).powersetCard k.toNat, ∏ p ∈ S,
          if bc.getD p 0 ∈ bases then 3 else 4) := by
  refine ⟨fun hk => by rw [neighbors, if_pos hk], fun hk => ?_, fun hk _ => ?_⟩
  · rw [neighbors, if_neg (by omega), if_pos (by omega)]
  · obtain ⟨n, rfl⟩ : ∃ n : Nat, k = n :=
      ⟨k.toNat, (Int.toNat_of_nonneg (by omega)).symm⟩
    simp only [Int.toNat_natCast]
    exact ⟨neighbors_nodup bc n, fun s => mem_neighbors, length_neighbors bc n⟩

-- `N` takes four bases and `A` three, at either of the two positions
example : (neighbors [78, 65] 1).length = 7 := by decide

end FastqFixtures.Barcode
