import Mathlib
import FastqFixtures.Proofs.MismatchBall

/-! # Neighbours enumerated in place

`neighborsInPlace` lists the neighbours of a barcode with one buffer that every depth of two
nested recursions writes into: `choose` fills in the positions, `assign` the bases at them, and
each depth puts back the byte it changed. This module shows that it lists exactly the position
sets in lexicographic order, each followed by its substitutions — the list `neighbors` gives.

Each recursion has a frame invariant.

* `assign`, entered with distinct positions still to fill at which the buffer holds the bytes of
  the barcode (`AssignEntry`), appends the substitutions of the buffer at those positions and
  returns with the buffer and the positions it was given (`assign_eq`).
* `choose`, entered with the buffer equal to the barcode and the positions chosen so far
  increasing and below `start` (`ChooseEntry`), returns with the buffer still the barcode and
  those positions kept (`Frame`), having appended the substitutions at every completion of them
  (`choose_eq`). `positionSets_succ_range` splits the position sets by their first position,
  which is the order `choose` walks them in.
-/

namespace FastqFixtures.Barcode

set_option autoImplicit false

/-! ### Position sets -/

/-- The position sets of `j + 1` of the positions `a, …, a + c - 1`, grouped by their first
position `p`, after which `j` positions are still to pick. -/
theorem positionSets_succ_range (j a c : Nat) :
    positionSets (j + 1) (List.range' a c) =
      (List.range' a (c - j)).flatMap fun p =>
        (positionSets j (List.range' (p + 1) (a + c - (p + 1)))).map (p :: ·) := by
  induction c generalizing a with
  | zero => simp [positionSets]
  | succ c ih =>
    rw [List.range'_succ, positionSets, ih, show a + (c + 1) = a + 1 + c by omega]
    by_cases hjc : j ≤ c
    · rw [show c + 1 - j = c - j + 1 by omega, List.range'_succ, List.flatMap_cons,
        Nat.add_sub_cancel_left]
    · rw [show c + 1 - j = 0 by omega, show c - j = 0 by omega,
        positionSets_eq_nil (by simp; omega)]
      rfl

/-- A `flatMap` over the position sets of `j + 1` positions from `a` on below `len`, taken first
position by first position, each followed by `j` positions after it. -/
theorem flatMap_positionSets_succ {β : Type} (j a len : Nat) (f : List Nat → List β) :
    (positionSets (j + 1) (List.range' a (len - a))).flatMap f =
      (List.range' a (len - a - j)).flatMap fun p =>
        (positionSets j (List.range' (p + 1) (len - (p + 1)))).flatMap fun qs => f (p :: qs) := by
  rw [positionSets_succ_range, List.flatMap_assoc]
  refine List.flatMap_congr fun p hp => ?_
  have hp' := List.mem_range'_1.mp hp
  rw [List.flatMap_map, show a + (len - a) = len by omega]

theorem mem_positionSets_range {n k : Nat} {ps : List Nat} :
    ps ∈ positionSets k (List.range n) ↔
      ps.Pairwise (· < ·) ∧ ps.length = k ∧ ∀ p ∈ ps, p < n := by
  rw [mem_positionSets]
  constructor
  · rintro ⟨hsub, hlen⟩
    exact ⟨List.pairwise_lt_range.sublist hsub, hlen, fun p hp => sublist_range_lt hsub p hp⟩
  · rintro ⟨hsorted, hlen, hlt⟩
    have hsubperm : ps.Subperm (List.range n) :=
      hsorted.nodup.subperm fun p hp => List.mem_range.mpr (hlt p hp)
    refine ⟨List.sublist_of_subperm_of_pairwise hsubperm (hsorted.imp Nat.le_of_lt)
      (List.pairwise_lt_range.imp Nat.le_of_lt), hlen⟩

theorem head_mem_of_mem_positionSets {k : Nat} {l qs : List Nat} (hqs : qs ∈ positionSets k l) :
    ∀ q ∈ qs.head?, q ∈ l := by
  intro q hq
  exact (mem_positionSets.mp hqs).1.subset (List.mem_of_mem_head? hq)

/-- The position sets of an increasing list come in strictly increasing lexicographic order:
those taking its first member come first, each after the one before. -/
theorem positionSets_lex : ∀ (k : Nat) {l : List Nat}, l.Pairwise (· < ·) →
    (positionSets k l).Pairwise (List.Lex (· < ·))
  | 0, _, _ => by rw [positionSets]; exact List.pairwise_singleton _ _
  | _ + 1, [], _ => List.Pairwise.nil
  | k + 1, p :: ps, hl => by
    rw [List.pairwise_cons] at hl
    rw [positionSets, List.pairwise_append, List.pairwise_map]
    refine ⟨(positionSets_lex k hl.2).imp List.Lex.cons, positionSets_lex (k + 1) hl.2, ?_⟩
    rintro _ hx ys hys
    obtain ⟨xs, -, rfl⟩ := List.mem_map.mp hx
    obtain ⟨q, qs, rfl⟩ : ∃ q qs, ys = q :: qs := by
      have := (mem_positionSets.mp hys).2
      exact List.exists_cons_of_length_eq_add_one this
    exact List.Lex.rel (hl.1 q (head_mem_of_mem_positionSets hys q rfl))

/-! ### Substitutions as tuples -/

/-- The tuples taking one member of each list, the first member varying slowest. -/
def tuples : List (List UInt8) → List (List UInt8)
  | [] => [[]]
  | l :: ls => l.flatMap fun r => (tuples ls).map (r :: ·)

/-- `bc` with the bytes `rs` written at the positions `ps`, in turn. -/
def writeAt (bc : Bytes) : List Nat → List UInt8 → Bytes
  | p :: ps, r :: rs => writeAt (bc.set p r) ps rs
  | _, _ => bc

/-- At distinct positions, the substitutions are the tuples of replacements for the bytes of
`bc` there, each written into `bc`: changing one position leaves the replacements of the others
as they were. -/
theorem substitutions_eq_tuples (bc : Bytes) {ps : List Nat} (hps : ps.Nodup) :
    substitutions bc ps =
      (tuples (ps.map fun p => replacements (bc.getD p 0))).map (writeAt bc ps) := by
  induction ps generalizing bc with
  | nil => rfl
  | cons p ps ih =>
    rw [List.nodup_cons] at hps
    rw [substitutions, List.map_cons, tuples, List.map_flatMap]
    refine List.flatMap_congr fun r _ => ?_
    have hrest : (ps.map fun q => replacements ((bc.set p r).getD q 0)) =
        ps.map fun q => replacements (bc.getD q 0) :=
      List.map_congr_left fun q hq => by
        rw [getD_set_of_ne fun hqp : q = p => hps.1 (hqp ▸ hq)]
    rw [ih (bc.set p r) hps.2, hrest, List.map_map]
    rfl

theorem set_getD_self (l : Bytes) (p : Nat) : l.set p (l.getD p 0) = l := by
  by_cases hp : p < l.length
  · rw [List.getD_eq_getElem _ _ hp, List.set_getElem_self]
  · exact List.set_eq_of_length_le (by omega)

namespace Search

variable {bc : Bytes} {k : Nat}

/-! ### Loops that append -/

/-- A loop each of whose passes keeps `Inv` and appends `X a` to the output appends all of
them, in order. -/
theorem foldl_appends {α : Type} {Inv : Search → Prop} {f : Search → α → Search}
    {X : α → List Bytes} :
    ∀ (as : List α), (∀ a ∈ as, ∀ s, Inv s → Inv (f s a) ∧ (f s a).out = s.out ++ X a) →
      ∀ s, Inv s → Inv (as.foldl f s) ∧ (as.foldl f s).out = s.out ++ as.flatMap X
  | [], _, s, hs => ⟨hs, by simp⟩
  | a :: as, hf, s, hs => by
    obtain ⟨ha, hout⟩ := hf a List.mem_cons_self s hs
    obtain ⟨hinv, hout'⟩ :=
      foldl_appends as (fun b hb => hf b (List.mem_cons_of_mem _ hb)) _ ha
    exact ⟨hinv, by rw [List.foldl_cons, hout', hout, List.flatMap_cons, List.append_assoc]⟩

/-! ### Assigning the bases -/

/-- Entry to `assign` at `depth`: the positions still to fill are distinct, and the buffer holds
the bytes of `bc` at them. -/
structure AssignEntry (bc : Bytes) (k depth : Nat) (s : Search) : Prop where
  length : s.positions.length = k
  nodup : (s.positions.drop depth).Nodup
  agrees : ∀ p ∈ s.positions.drop depth, s.buf.getD p 0 = bc.getD p 0

/-- The loop over the bases at one position, with the byte of `bc` there skipped, is the loop
over its replacements. -/
theorem foldl_bases_eq {β : Type} (orig : UInt8) (f : β → UInt8 → β) (s : β) :
    bases.foldl (fun s r => if r = orig then s else f s r) s = (replacements orig).foldl f s := by
  rw [replacements, List.foldl_filter]
  congr 1
  funext t r
  by_cases hr : r = orig <;> simp [hr]

theorem AssignEntry.drop_eq {depth : Nat} {s : Search} (h : AssignEntry bc k depth s)
    (hd : depth < k) :
    s.positions.drop depth = s.positions.getD depth 0 :: s.positions.drop (depth + 1) := by
  have hd' : depth < s.positions.length := by rw [h.length]; exact hd
  rw [List.drop_eq_getElem_cons hd', List.getD_eq_getElem _ _ hd']

/-- A buffer that differs from the entry one only at the position chosen at `depth`, with any
base written there, is an entry to the next depth. -/
theorem AssignEntry.next {depth : Nat} {s t : Search} (h : AssignEntry bc k depth s)
    (hd : depth < k) (r : UInt8) (htP : t.positions = s.positions)
    (htb : ∀ y, t.buf.set (s.positions.getD depth 0) y = s.buf.set (s.positions.getD depth 0) y) :
    AssignEntry bc k (depth + 1) { t with buf := t.buf.set (s.positions.getD depth 0) r } := by
  have hdrop := h.drop_eq hd
  have hnd := h.nodup
  rw [hdrop, List.nodup_cons] at hnd
  refine ⟨htP ▸ h.length, htP ▸ hnd.2, fun q hq => ?_⟩
  have hq' : q ∈ s.positions.drop (depth + 1) := by rw [← htP]; exact hq
  have hqp : q ≠ s.positions.getD depth 0 := fun hqp => hnd.1 (hqp ▸ hq')
  rw [getD_set_of_ne hqp, ← getD_set_of_ne (r := r) hqp, htb, getD_set_of_ne hqp]
  exact h.agrees q (by rw [hdrop]; exact List.mem_cons_of_mem _ hq')

/-- `assign` at `depth` appends every way to change the buffer at the positions from `depth` on,
the first varying slowest, and returns with the buffer and the positions it was given. -/
theorem assign_eq {depth : Nat} {s : Search} (h : AssignEntry bc k depth s) :
    assign bc k depth s =
      { s with out := s.out ++ substitutions s.buf (s.positions.drop depth) } := by
  -- induction on the number of depths still to fill
  obtain ⟨n, hn⟩ : ∃ n, k - depth = n := ⟨_, rfl⟩
  induction n generalizing depth s with
  | zero =>
    rw [assign, if_neg (by omega), List.drop_eq_nil_of_le (by rw [h.length]; omega)]
    rfl
  | succ n ih =>
    have hd : depth < k := by omega
    rw [assign, if_pos hd]
    dsimp only
    rw [foldl_bases_eq]
    set p := s.positions.getD depth 0
    -- between passes the buffer differs from the entry one at most at `p`
    let Inv : Search → Prop := fun t =>
      t.positions = s.positions ∧ ∀ y, t.buf.set p y = s.buf.set p y
    have hpass : ∀ r ∈ replacements (bc.getD p 0), ∀ t, Inv t →
        Inv (assign bc k (depth + 1) { t with buf := t.buf.set p r }) ∧
          (assign bc k (depth + 1) { t with buf := t.buf.set p r }).out =
            t.out ++ substitutions (s.buf.set p r) (s.positions.drop (depth + 1)) := by
      intro r _ t ⟨htP, htb⟩
      rw [ih (h.next hd r htP htb) (by omega)]
      refine ⟨⟨htP, fun y => (List.set_set _).trans (htb y)⟩, ?_⟩
      show t.out ++ substitutions (t.buf.set p r) (t.positions.drop (depth + 1)) = _
      rw [htP, htb r]
    obtain ⟨⟨hP, hb⟩, hout⟩ := foldl_appends _ hpass s ⟨rfl, fun _ => rfl⟩
    have hdrop := h.drop_eq hd
    have hpb : s.buf.getD p 0 = bc.getD p 0 :=
      h.agrees p (by rw [hdrop]; exact List.mem_cons_self)
    rw [hdrop, substitutions, hpb]
    simp only [Search.mk.injEq]
    exact ⟨by rw [hb, ← hpb, set_getD_self], hP, hout⟩

/-! ### Choosing the positions -/

/-- What `choose` keeps at `depth`: the buffer is `bc`, and the positions chosen at the depths
before are `T`. -/
structure Frame (bc : Bytes) (k depth : Nat) (T : List Nat) (s : Search) : Prop where
  buf : s.buf = bc
  length : s.positions.length = k
  chosen : s.positions.take depth = T

/-- Entry to `choose` at `depth`: the buffer is `bc`, and the positions chosen at the depths
before are increasing and all below `start`. -/
structure ChooseEntry (bc : Bytes) (k start depth : Nat) (s : Search) : Prop where
  buf : s.buf = bc
  length : s.positions.length = k
  sorted : (s.positions.take depth).Pairwise (· < ·)
  below : ∀ q ∈ s.positions.take depth, q < start

/-- Choosing position `p` at `depth`, after increasing positions below `start ≤ p`, is an entry
to the next depth from `p + 1`. -/
theorem ChooseEntry.next {start depth p : Nat} {T : List Nat} {t : Search}
    (hd : depth < k) (ht : Frame bc k depth T t) (hsorted : T.Pairwise (· < ·))
    (hbelow : ∀ q ∈ T, q < start) (hp : start ≤ p) :
    (t.positions.set depth p).take (depth + 1) = T ++ [p] ∧
      ChooseEntry bc k (p + 1) (depth + 1) { t with positions := t.positions.set depth p } := by
  have htake : (t.positions.set depth p).take (depth + 1) = T ++ [p] := by
    rw [List.take_add_one, List.take_set_of_le le_rfl, ht.chosen]
    simp [ht.length, hd]
  refine ⟨htake, ht.buf, by simp [ht.length], ?_, ?_⟩
  · rw [htake, List.pairwise_append]
    exact ⟨hsorted, List.pairwise_singleton _ _,
      fun q hq p' hp' => (List.mem_singleton.mp hp') ▸ Nat.lt_of_lt_of_le (hbelow q hq) hp⟩
  · rw [htake]
    intro q hq
    rcases List.mem_append.mp hq with hq | hq
    · exact Nat.lt_succ_of_lt (Nat.lt_of_lt_of_le (hbelow q hq) hp)
    · exact (List.mem_singleton.mp hq) ▸ Nat.lt_succ_self p

/-- `choose` at `depth` appends, for every way to complete the positions chosen so far with
positions from `start` on, in lexicographic order, the substitutions at them; it returns with the
buffer still `bc` and those positions kept. -/
theorem choose_eq {start depth : Nat} {s : Search} (h : ChooseEntry bc k start depth s) :
    Frame bc k depth (s.positions.take depth) (choose bc k start depth s) ∧
      (choose bc k start depth s).out = s.out ++
        (positionSets (k - depth) (List.range' start (bc.length - start))).flatMap
          fun qs => substitutions bc (s.positions.take depth ++ qs) := by
  -- induction on the number of depths still to fill
  obtain ⟨n, hn⟩ : ∃ n, k - depth = n := ⟨_, rfl⟩
  induction n generalizing start depth s with
  | zero =>
    have hall : s.positions.take depth = s.positions :=
      List.take_of_length_le (by rw [h.length]; omega)
    have hentry : AssignEntry bc k 0 s :=
      ⟨h.length, by rw [List.drop_zero, ← hall]; exact h.sorted.nodup,
        fun p _ => by rw [h.buf]⟩
    rw [choose, if_neg (by omega), assign_eq hentry, hn]
    refine ⟨⟨h.buf, h.length, rfl⟩, ?_⟩
    simp [positionSets, hall, h.buf]
  | succ n ih =>
    have hd : depth < k := by omega
    rw [choose, if_pos hd,
      show ((bc.length : Int) - ((k : Int) - depth) + 1 - start).toNat = bc.length - start - n by
        omega]
    set T := s.positions.take depth
    -- each pass fills `depth` with one position `p` and completes the rest after it
    have hpass : ∀ p ∈ List.range' start (bc.length - start - n), ∀ t, Frame bc k depth T t →
        Frame bc k depth T
            (choose bc k (p + 1) (depth + 1) { t with positions := t.positions.set depth p }) ∧
          (choose bc k (p + 1) (depth + 1) { t with positions := t.positions.set depth p }).out =
            t.out ++ (positionSets n (List.range' (p + 1) (bc.length - (p + 1)))).flatMap
              fun qs => substitutions bc (T ++ p :: qs) := by
      intro p hp t ht
      obtain ⟨htake, hentry⟩ :=
        ChooseEntry.next hd ht h.sorted h.below (List.mem_range'_1.mp hp).1
      obtain ⟨hfr, hout⟩ := ih hentry (by omega)
      rw [htake, show k - (depth + 1) = n by omega] at hout
      rw [htake] at hfr
      have hT : T.length = depth := by simp [T, h.length, Nat.le_of_lt hd]
      have hchosen := congrArg (List.take depth) hfr.chosen
      rw [List.take_take, Nat.min_eq_left (Nat.le_succ depth), List.take_left' hT] at hchosen
      exact ⟨⟨hfr.buf, hfr.length, hchosen⟩, by simpa using hout⟩
    obtain ⟨hfr, hout⟩ := foldl_appends _ hpass s ⟨h.buf, h.length, rfl⟩
    rw [hn, flatMap_positionSets_succ]
    exact ⟨hfr, hout⟩

end Search

theorem neighborsInPlace_eq_flatMap (bc : Bytes) (k : Nat) (hk : k ≠ 0) (hlen : k ≤ bc.length) :
    neighborsInPlace bc k = (positionSets k (List.range bc.length)).flatMap (substitutions bc) := by
  have hentry : Search.ChooseEntry bc k 0 0 ⟨bc, List.replicate k 0, []⟩ :=
    ⟨rfl, List.length_replicate, List.Pairwise.nil, fun _ h => absurd h List.not_mem_nil⟩
  rw [neighborsInPlace, if_neg (by omega), if_neg (by omega), Int.toNat_natCast,
    (Search.choose_eq hentry).2, List.range_eq_range']
  simp

theorem neighborsInPlace_eq_neighbors (bc : Bytes) (k : Int) :
    neighborsInPlace bc k = neighbors bc k := by
  by_cases hk : k = 0
  · simp [neighborsInPlace, neighbors, hk]
  by_cases hout : k < 0 ∨ k > bc.length
  · simp [neighborsInPlace, neighbors, hk, hout]
  obtain ⟨j, rfl⟩ : ∃ j : Nat, k = j := ⟨k.toNat, by omega⟩
  rw [neighborsInPlace_eq_flatMap bc j (by omega) (by omega), neighbors_eq_flatMap]

/-- Enumerated in place, the neighbours at a distance `k` from one to the length of the barcode
are, for every increasing list of `k` positions below the length, in lexicographic order, the
tuples of replacements for the bytes there, the first position varying slowest, each written into
the barcode. On the way, `assign` returns with the buffer it was entered with, and every `choose`
with the barcode in the buffer. -/
theorem neighborsInPlace_eq_tuples (bc : Bytes) :
    (∀ k : Int, 1 ≤ k → k ≤ bc.length →
      neighborsInPlace bc k = (positionSets k.toNat (List.range bc.length)).flatMap fun ps =>
        (tuples (ps.map fun p => replacements (bc.getD p 0))).map (writeAt bc ps)) ∧
    (∀ (k : Nat) (ps : List Nat), ps ∈ positionSets k (List.range bc.length) ↔
      ps.Pairwise (· < ·) ∧ ps.length = k ∧ ∀ p ∈ ps, p < bc.length) ∧
    (∀ k : Nat, (positionSets k (List.range bc.length)).Pairwise (List.Lex (· < ·))) ∧
    (∀ (k depth : Nat) (s : Search), Search.AssignEntry bc k depth s →
      Search.assign bc k depth s =
        { s with out := s.out ++ substitutions s.buf (s.positions.drop depth) }) ∧
    (∀ (k start depth : Nat) (s : Search), Search.ChooseEntry bc k start depth s →
      (Search.choose bc k start depth s).buf = bc) := by
  refine ⟨fun k hk hlen => ?_, fun k ps => mem_positionSets_range,
    fun k => positionSets_lex k List.pairwise_lt_range, fun k depth s h => Search.assign_eq h,
    fun k start depth s h => (Search.choose_eq h).1.buf⟩
  obtain ⟨j, rfl⟩ : ∃ j : Nat, k = j := ⟨k.toNat, by omega⟩
  rw [neighborsInPlace_eq_flatMap bc j (by omega) (by omega), Int.toNat_natCast]
  refine List.flatMap_congr fun ps hps => substitutions_eq_tuples bc ?_
  exact (mem_positionSets_range.mp hps).1.nodup

end FastqFixtures.Barcode
