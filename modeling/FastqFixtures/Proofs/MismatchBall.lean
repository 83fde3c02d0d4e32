import Mathlib
import FastqFixtures.Barcode.Expand

/-! # Mismatch balls

What the neighbours of a barcode are, stated without the order in which they are generated:
the strings of its length that differ from it at exactly `k` positions, each of them holding
one of the bases `A C G T`. Every neighbour is generated once, and the ball of radius `m` is
the union of the neighbours at distances `0` to `m`, again without repetition.

* `mismatchPositions`, `InBall` — the Hamming-style ball a barcode's variants fill.
* `mem_neighbors`, `neighbors_nodup` — the neighbours at one distance.
* `mem_ball`, `ball_nodup` — all variants up to a bound.
-/

namespace FastqFixtures.Barcode

set_option autoImplicit false

/-- The positions at which `s` differs from `c`, in increasing order. -/
def mismatchPositions (c s : Bytes) : List Nat :=
  (List.range c.length).filter fun i => s.getD i 0 != c.getD i 0

/-- `s` is reached from `c` by at most `m` substitutions, each putting one of the bases
`A C G T` in place of the byte it replaces. -/
def InBall (c : Bytes) (m : Nat) (s : Bytes) : Prop :=
  s.length = c.length ∧ (mismatchPositions c s).length ≤ m ∧
    ∀ i ∈ mismatchPositions c s, s.getD i 0 ∈ bases

instance (c : Bytes) (m : Nat) (s : Bytes) : Decidable (InBall c m s) :=
  inferInstanceAs (Decidable (_ ∧ _ ∧ _))

theorem mem_mismatchPositions {c s : Bytes} {i : Nat} :
    i ∈ mismatchPositions c s ↔ i < c.length ∧ s.getD i 0 ≠ c.getD i 0 := by
  simp [mismatchPositions]

theorem mismatchPositions_sublist (c s : Bytes) :
    List.Sublist (mismatchPositions c s) (List.range c.length) :=
  List.filter_sublist

theorem length_mismatchPositions_le (c s : Bytes) :
    (mismatchPositions c s).length ≤ c.length := by
  simpa using (mismatchPositions_sublist c s).length_le

/-! ## Position sets -/

theorem mem_positionSets {k : Nat} {l ps : List Nat} :
    ps ∈ positionSets k l ↔ List.Sublist ps l ∧ ps.length = k := by
  induction l generalizing k ps with
  | nil =>
    cases k with
    | zero => simp [positionSets]
    | succ k =>
      simp only [positionSets, List.not_mem_nil, false_iff, not_and, List.sublist_nil]
      rintro rfl
      simp
  | cons p l ih =>
    cases k with
    | zero =>
      simp only [positionSets, List.mem_singleton, List.length_eq_zero_iff]
      exact ⟨fun h => ⟨h ▸ List.nil_sublist _, h⟩, And.right⟩
    | succ k =>
      simp only [positionSets, List.mem_append, List.mem_map, ih, List.sublist_cons_iff]
      constructor
      · rintro (⟨qs, ⟨hsub, hlen⟩, rfl⟩ | ⟨hsub, hlen⟩)
        · exact ⟨.inr ⟨qs, rfl, hsub⟩, by simp [hlen]⟩
        · exact ⟨.inl hsub, hlen⟩
      · rintro ⟨hsub | ⟨qs, rfl, hsub⟩, hlen⟩
        · exact .inr ⟨hsub, hlen⟩
        · exact .inl ⟨qs, ⟨hsub, by simpa using hlen⟩, rfl⟩

theorem positionSets_nodup (k : Nat) {l : List Nat} (hl : l.Nodup) :
    (positionSets k l).Nodup := by
  induction l generalizing k with
  | nil => cases k <;> simp [positionSets]
  | cons p l ih =>
    cases k with
    | zero => simp [positionSets]
    | succ k =>
      obtain ⟨hp, hl⟩ := List.nodup_cons.1 hl
      refine List.nodup_append.2
        ⟨(ih k hl).map (fun _ _ h => List.cons_injective h), ih (k + 1) hl, ?_⟩
      -- the sets that take `p` and those that skip it differ in `p`
      intro a ha b hb hab
      obtain ⟨qs, -, rfl⟩ := List.mem_map.1 ha
      obtain ⟨hsub, -⟩ := mem_positionSets.1 hb
      subst hab
      exact hp (hsub.subset List.mem_cons_self)

theorem positionSets_eq_nil {k : Nat} {l : List Nat} (hk : l.length < k) :
    positionSets k l = [] :=
  List.eq_nil_iff_forall_not_mem.2 fun _ hps =>
    have ⟨hsub, hlen⟩ := mem_positionSets.1 hps
    absurd (hlen ▸ hsub.length_le) (Nat.not_le_of_lt hk)

theorem filter_mem_of_sublist {ps l : List Nat} (hl : l.Nodup) (h : List.Sublist ps l) :
    l.filter (fun i => decide (i ∈ ps)) = ps := by
  induction h with
  | slnil => rfl
  | cons a h ih =>
    obtain ⟨ha, hl⟩ := List.nodup_cons.1 hl
    have hna : a ∉ _ := fun hm => ha (h.subset hm)
    simp [hna, ih hl]
  | cons_cons a h ih =>
    obtain ⟨ha, hl⟩ := List.nodup_cons.1 hl
    rw [List.filter_cons_of_pos (by simp)]
    refine congrArg (a :: ·) ((List.filter_congr fun x hx => ?_).trans (ih hl))
    have hxa : x ≠ a := fun e => ha (e ▸ hx)
    simp only [List.mem_cons, hxa, false_or]

/-! ## Substitutions at given positions -/

theorem mem_replacements {b r : UInt8} : r ∈ replacements b ↔ r ∈ bases ∧ r ≠ b := by
  simp [replacements]

theorem replacements_nodup (b : UInt8) : (replacements b).Nodup :=
  (show bases.Nodup by decide).filter _

theorem getD_set_self {bc : Bytes} {p : Nat} {r : UInt8} (hp : p < bc.length) :
    (bc.set p r).getD p 0 = r := by
  simp [List.getD_eq_getElem?_getD, hp]

theorem getD_set_of_ne {bc : Bytes} {p i : Nat} {r : UInt8} (h : i ≠ p) :
    (bc.set p r).getD i 0 = bc.getD i 0 := by
  simp [List.getD_eq_getElem?_getD, Ne.symm h]

theorem eq_of_getD_eq {bc s : Bytes} (hlen : s.length = bc.length)
    (h : ∀ i < bc.length, s.getD i 0 = bc.getD i 0) : s = bc := by
  apply List.ext_getElem hlen
  intro i hs hb
  simpa [List.getD_eq_getElem?_getD, hs, hb] using h i hb

/-- `s` has the length of `bc`, differs from it exactly at the positions `ps`, and holds a
base at each of them. -/
def ChangedAt (bc s : Bytes) (ps : List Nat) : Prop :=
  s.length = bc.length ∧ ∀ i < bc.length,
    (i ∈ ps → s.getD i 0 ≠ bc.getD i 0 ∧ s.getD i 0 ∈ bases) ∧
      (i ∉ ps → s.getD i 0 = bc.getD i 0)

theorem mem_substitutions {bc s : Bytes} {ps : List Nat} (hps : ps.Nodup)
    (hlt : ∀ p ∈ ps, p < bc.length) : s ∈ substitutions bc ps ↔ ChangedAt bc s ps := by
  induction ps generalizing bc with
  | nil =>
    simp only [substitutions, List.mem_singleton, ChangedAt, List.not_mem_nil, false_imp_iff,
      true_and, not_false_eq_true, true_implies]
    constructor
    · rintro rfl
      exact ⟨rfl, fun _ _ => rfl⟩
    · rintro ⟨hlen, h⟩
      exact eq_of_getD_eq hlen h
  | cons p ps ih =>
    obtain ⟨hp, hps⟩ := List.nodup_cons.1 hps
    have hplt : p < bc.length := hlt p List.mem_cons_self
    have hlt' : ∀ r : UInt8, ∀ q ∈ ps, q < (bc.set p r).length := fun r q hq => by
      simpa using hlt q (List.mem_cons_of_mem p hq)
    simp only [substitutions, List.mem_flatMap, mem_replacements]
    constructor
    · rintro ⟨r, ⟨hr, hrp⟩, hs⟩
      obtain ⟨hlen, hat⟩ := (ih hps (hlt' r)).1 hs
      rw [List.length_set] at hlen hat
      refine ⟨hlen, fun i hi => ⟨fun hmem => ?_, fun hmem => ?_⟩⟩
      · rcases List.mem_cons.1 hmem with rfl | hmem
        · -- the later positions leave `i` alone, so it keeps the replacement `r`
          have hsi := (hat i hi).2 hp
          rw [getD_set_self hi] at hsi
          exact ⟨hsi ▸ hrp, hsi ▸ hr⟩
        · have hne : i ≠ p := fun h => hp (h ▸ hmem)
          have := (hat i hi).1 hmem
          rwa [getD_set_of_ne hne] at this
      · have hne : i ≠ p := fun h => hmem (h ▸ List.mem_cons_self)
        have := (hat i hi).2 (fun h => hmem (List.mem_cons_of_mem p h))
        rwa [getD_set_of_ne hne] at this
    · rintro ⟨hlen, hat⟩
      obtain ⟨hne, hbase⟩ := (hat p hplt).1 List.mem_cons_self
      refine ⟨s.getD p 0, ⟨hbase, hne⟩, (ih hps (hlt' _)).2 ⟨by simpa using hlen, ?_⟩⟩
      intro i hi
      rw [List.length_set] at hi
      by_cases hip : i = p
      · subst hip
        exact ⟨fun h => absurd h hp, fun _ => (getD_set_self hi).symm⟩
      · rw [getD_set_of_ne hip]
        exact ⟨(hat i hi).1 ∘ List.mem_cons_of_mem p,
          fun h => (hat i hi).2 (fun h' => (List.mem_cons.1 h').elim hip h)⟩

theorem substitutions_nodup (bc : Bytes) {ps : List Nat} (hps : ps.Nodup)
    (hlt : ∀ p ∈ ps, p < bc.length) : (substitutions bc ps).Nodup := by
  induction ps generalizing bc with
  | nil => simp [substitutions]
  | cons p ps ih =>
    obtain ⟨hp, hps⟩ := List.nodup_cons.1 hps
    have hplt : p < bc.length := hlt p List.mem_cons_self
    have hlt' : ∀ r : UInt8, ∀ q ∈ ps, q < (bc.set p r).length := fun r q hq => by
      simpa using hlt q (List.mem_cons_of_mem p hq)
    refine List.nodup_flatMap.2 ⟨fun r _ => ih _ hps (hlt' r), ?_⟩
    -- two replacements of the first position give strings that differ there
    refine (replacements_nodup _).pairwise_of_forall_ne fun r _ r' _ hne => ?_
    refine List.disjoint_left.2 fun _ hs hs' => hne ?_
    have hp' : p < (bc.set p r).length := by simpa using hplt
    have hp'' : p < (bc.set p r').length := by simpa using hplt
    have h := ((mem_substitutions hps (hlt' r)).1 hs).2 p hp' |>.2 hp
    have h' := ((mem_substitutions hps (hlt' r')).1 hs').2 p hp'' |>.2 hp
    rw [getD_set_self hplt] at h h'
    exact h.symm.trans h'

theorem mismatchPositions_eq_of_changedAt {bc s : Bytes} {ps : List Nat}
    (h : ChangedAt bc s ps) (hps : List.Sublist ps (List.range bc.length)) :
    mismatchPositions bc s = ps := by
  rw [← filter_mem_of_sublist List.nodup_range hps, mismatchPositions]
  refine List.filter_congr fun i hi => ?_
  have hi : i < bc.length := List.mem_range.1 hi
  by_cases hmem : i ∈ ps
  · rw [decide_eq_true hmem]
    exact bne_iff_ne.2 ((h.2 i hi).1 hmem).1
  · rw [decide_eq_false hmem, (h.2 i hi).2 hmem, bne_self_eq_false]

theorem changedAt_mismatchPositions {bc s : Bytes} (hlen : s.length = bc.length)
    (hbases : ∀ i ∈ mismatchPositions bc s, s.getD i 0 ∈ bases) :
    ChangedAt bc s (mismatchPositions bc s) := by
  refine ⟨hlen, fun i hi => ⟨fun hmem => ⟨(mem_mismatchPositions.1 hmem).2, hbases i hmem⟩,
    fun hmem => ?_⟩⟩
  by_contra hne
  exact hmem (mem_mismatchPositions.2 ⟨hi, hne⟩)

/-! ## Neighbours and balls -/

/-- Distance `0` and distances beyond the length need no case of their own: there is one
empty position set, and none longer than the barcode. -/
theorem neighbors_eq_flatMap (bc : Bytes) (k : Nat) :
    neighbors bc k = (positionSets k (List.range bc.length)).flatMap (substitutions bc) := by
  rw [neighbors]
  split
  · have hk : k = 0 := by omega
    subst hk
    simp [positionSets, substitutions]
  · split
    · rw [positionSets_eq_nil (by simp; omega), List.flatMap_nil]
    · rfl

theorem sublist_range_lt {n : Nat} {ps : List Nat} (hsub : List.Sublist ps (List.range n)) :
    ∀ p ∈ ps, p < n :=
  fun _ hp => List.mem_range.1 (hsub.subset hp)

/-- The neighbours at distance `k` are the strings of the barcode's length with exactly `k`
mismatches, each a base. -/
theorem mem_neighbors {bc s : Bytes} {k : Nat} :
    s ∈ neighbors bc k ↔ s.length = bc.length ∧ (mismatchPositions bc s).length = k ∧
      ∀ i ∈ mismatchPositions bc s, s.getD i 0 ∈ bases := by
  rw [neighbors_eq_flatMap, List.mem_flatMap]
  constructor
  · rintro ⟨ps, hps, hs⟩
    obtain ⟨hsub, rfl⟩ := mem_positionSets.1 hps
    have h := (mem_substitutions (List.nodup_range.sublist hsub) (sublist_range_lt hsub)).1 hs
    rw [mismatchPositions_eq_of_changedAt h hsub]
    exact ⟨h.1, rfl, fun i hi => ((h.2 i (sublist_range_lt hsub i hi)).1 hi).2⟩
  · rintro ⟨hlen, rfl, hbases⟩
    have hsub := mismatchPositions_sublist bc s
    refine ⟨_, mem_positionSets.2 ⟨hsub, rfl⟩, ?_⟩
    exact (mem_substitutions (List.nodup_range.sublist hsub) (sublist_range_lt hsub)).2
      (changedAt_mismatchPositions hlen hbases)

theorem neighbors_nodup (bc : Bytes) (k : Nat) : (neighbors bc k).Nodup := by
  rw [neighbors_eq_flatMap]
  refine List.nodup_flatMap.2 ⟨fun ps hps => ?_, ?_⟩
  · have hsub := (mem_positionSets.1 hps).1
    exact substitutions_nodup bc (List.nodup_range.sublist hsub) (sublist_range_lt hsub)
  · -- a string changed at two position sets has both as its mismatch positions
    refine (positionSets_nodup k List.nodup_range).pairwise_of_forall_ne
      fun ps hps ps' hps' hne => List.disjoint_left.2 fun _ hs hs' => hne ?_
    have hsub := (mem_positionSets.1 hps).1
    have hsub' := (mem_positionSets.1 hps').1
    have h := (mem_substitutions (List.nodup_range.sublist hsub) (sublist_range_lt hsub)).1 hs
    have h' :=
      (mem_substitutions (List.nodup_range.sublist hsub') (sublist_range_lt hsub')).1 hs'
    rw [← mismatchPositions_eq_of_changedAt h hsub, mismatchPositions_eq_of_changedAt h' hsub']

/-- The variants of a barcode at bound `m` fill its ball of radius `m`. -/
theorem mem_ball {bc s : Bytes} {m : Nat} : s ∈ ball bc m ↔ InBall bc m s := by
  have hle := length_mismatchPositions_le bc s
  simp only [ball, List.mem_flatMap, List.mem_range, mem_neighbors, InBall]
  constructor
  · rintro ⟨k, hk, hlen, rfl, hbases⟩
    exact ⟨hlen, by omega, hbases⟩
  · rintro ⟨hlen, hm, hbases⟩
    exact ⟨_, by omega, hlen, rfl, hbases⟩

-- `TC` is one substitution away from `AC`; `TN` is not a variant, as `N` is never put in
example : [84, 67] ∈ ball [65, 67] 1 ∧ [84, 78] ∉ ball [65, 67] 1 := by decide

/-- No variant of one barcode is generated twice. -/
theorem ball_nodup (bc : Bytes) (m : Nat) : (ball bc m).Nodup := by
  refine List.nodup_flatMap.2 ⟨fun k _ => neighbors_nodup bc k, ?_⟩
  refine List.nodup_range.pairwise_of_forall_ne fun k _ k' _ hne =>
    List.disjoint_left.2 fun _ hs hs' => hne ?_
  rw [← (mem_neighbors.1 hs).2.1, (mem_neighbors.1 hs').2.1]

end FastqFixtures.Barcode
