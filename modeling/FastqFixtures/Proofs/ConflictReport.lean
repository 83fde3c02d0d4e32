import FastqFixtures.Proofs.Expansion
import FastqFixtures.Proofs.BarcodeLength

/-! # The conflicts an ambiguous expansion reports

An expansion records for each sequence the barcode that produced it first, and never changes
that record: a sequence produced again is reported as a conflict naming the recorded barcode.
Since the barcodes are recorded in order, and no barcode produces a sequence twice, the
recorded barcode of a sequence is always the first barcode in whose ball it lies. So the
conflicts are, barcode by barcode and variant by variant in generation order, the variants
that lie in the ball of an earlier barcode, each with the first such barcode.

* `overlaps` — that list, stated with balls instead of the recording.
* `expand_eq_overlaps` — a set with overlaps is refused with exactly them.
* `expand_ambiguous_conflicts` — every refusal of validated barcodes as ambiguous is that one.
-/

namespace FastqFixtures.Barcode

set_option autoImplicit false

/-- The conflicts of the barcodes `cs` listed after `earlier` at bound `m`: for each barcode in
turn, each of its variants in generation order that lies in the ball of an earlier barcode,
with the first such barcode. -/
def overlaps (m : Nat) (earlier : List Bytes) : List Bytes → List Conflict
  | [] => []
  | c :: rest =>
    (ball c m).filterMap (fun v =>
        (earlier.find? fun d => decide (InBall d m v)).map fun first => ⟨v, first, c⟩) ++
      overlaps m (earlier ++ [c]) rest

namespace Expansion

theorem get?_origin_record (e : Expansion) (bc : Bytes) (vs : List Bytes) (v : Bytes) :
    (e.record bc vs).origin.get? v = (e.origin.get? v).or (if v ∈ vs then some bc else none) := by
  induction vs generalizing e with
  | nil => simp [record]
  | cons x xs ih =>
    rw [record, List.foldl_cons, ← record, ih]
    split
    · next first hx =>
      -- `x` keeps its producer; the conflict leaves the record alone
      show (e.origin.get? v).or _ = _
      by_cases hxv : x = v
      · subst hxv
        rw [hx, Option.some_or, Option.some_or]
      · simp only [List.mem_cons, Ne.symm hxv, false_or]
    · next hx =>
      show ((e.origin.insert x bc).get? v).or _ = _
      rw [Std.HashMap.get?_insert]
      by_cases hxv : x = v
      · subst hxv
        rw [if_pos BEq.rfl, hx, Option.some_or, Option.none_or, if_pos List.mem_cons_self]
      · rw [if_neg (by simpa using hxv)]
        simp only [List.mem_cons, Ne.symm hxv, false_or]

/-- Recording variants that are distinct adds, in their order, one conflict for each that has a
producer already, naming that producer. -/
theorem conflicts_record (e : Expansion) (bc : Bytes) {vs : List Bytes} (hvs : vs.Nodup) :
    (e.record bc vs).conflicts =
      (vs.filterMap fun v => (e.origin.get? v).map fun first => ⟨v, first, bc⟩).reverse ++
        e.conflicts := by
  induction vs generalizing e with
  | nil => simp [record]
  | cons x xs ih =>
    obtain ⟨hx, hxs⟩ := List.nodup_cons.1 hvs
    rw [record, List.foldl_cons, ← record]
    split
    · next first hfirst =>
      rw [ih _ hxs, List.filterMap_cons, hfirst]
      simp
    · next hnone =>
      -- the variants after `x` differ from it, so the new record of `x` is not theirs
      have hrest : (xs.filterMap fun v => ((e.origin.insert x bc).get? v).map
          fun first => (⟨v, first, bc⟩ : Conflict)) =
            xs.filterMap fun v => (e.origin.get? v).map fun first => ⟨v, first, bc⟩ :=
        List.filterMap_congr fun v hv => by
          rw [Std.HashMap.get?_insert, if_neg (by simpa using fun h : x = v => hx (h ▸ hv))]
      rw [ih _ hxs, List.filterMap_cons, hnone]
      exact congrArg (fun l => l.reverse ++ e.conflicts) hrest

/-- After recording the balls of `cs` on top of those of `earlier`, the producer of a sequence is
the first barcode in whose ball it lies, and the conflicts are the overlaps. -/
theorem recordBalls_overlaps (m : Nat) (cs : List Bytes) :
    ∀ (earlier : List Bytes) (e : Expansion),
      (∀ v, e.origin.get? v = earlier.find? fun d => decide (InBall d m v)) →
      (∀ v, (e.recordBalls m cs).origin.get? v =
        (earlier ++ cs).find? fun d => decide (InBall d m v)) ∧
      (e.recordBalls m cs).conflicts = (overlaps m earlier cs).reverse ++ e.conflicts := by
  induction cs with
  | nil =>
    exact fun earlier e h => ⟨by simpa [recordBalls] using h, by simp [recordBalls, overlaps]⟩
  | cons c rest ih =>
    intro earlier e horigin
    have hnext : ∀ v, (e.record c (ball c m)).origin.get? v =
        (earlier ++ [c]).find? fun d => decide (InBall d m v) := by
      intro v
      rw [get?_origin_record, horigin, List.find?_append]
      by_cases hv : InBall c m v <;> simp [hv, mem_ball]
    obtain ⟨hget, hconf⟩ := ih (earlier ++ [c]) _ hnext
    have hstep : e.recordBalls m (c :: rest) = (e.record c (ball c m)).recordBalls m rest := rfl
    refine ⟨fun v => by rw [hstep, hget, List.append_assoc, List.singleton_append], ?_⟩
    rw [hstep, hconf, conflicts_record _ _ (ball_nodup c m), overlaps, List.reverse_append,
      List.append_assoc]
    simp only [horigin]

end Expansion

/-- Below the largest bound, validated barcodes with overlapping balls are refused as
ambiguous, reporting the bound and exactly the overlaps. -/
theorem expand_of_overlaps {m : Nat} (hm : m < intMax) {bs cs : List Bytes}
    (h : List.Forall₂ (fun raw c => validate raw = .ok c) bs cs) :
    expand bs m = some (if overlaps m [] cs = [] then
        .ok ⟨Bytes.sort ((Expansion.recordBalls m ⟨∅, []⟩ cs).origin.toList.map (·.1))⟩
      else .error (.ambiguous m (overlaps m [] cs))) := by
  obtain ⟨-, hconf⟩ := Expansion.recordBalls_overlaps m cs [] ⟨∅, []⟩ (by simp)
  rw [expand_of_forall₂ hm h, Expansion.finish]
  simp only [hconf, List.append_nil, List.isEmpty_reverse, List.isEmpty_iff, List.reverse_reverse]

theorem expand_eq_overlaps {m : Nat} (hm : m < intMax) {bs cs : List Bytes}
    (h : List.Forall₂ (fun raw c => validate raw = .ok c) bs cs) (hne : overlaps m [] cs ≠ []) :
    expand bs m = some (.error (.ambiguous m (overlaps m [] cs))) := by
  rw [expand_of_overlaps hm h, if_neg hne]

/-- An expansion of validated barcodes that returns a refusal was below the largest bound:
there the expansion of no barcodes is empty, and that of any other never returns. -/
theorem lt_intMax_of_expand {m : Nat} {bs cs : List Bytes}
    (h : List.Forall₂ (fun raw c => validate raw = .ok c) bs cs) {f : Fault}
    (hf : expand bs m = some (.error f)) : m < intMax := by
  cases h with
  | nil => simp [expand_of_absorb, Expansion.absorb, Except.bind, Expansion.finish] at hf
  | cons hv _ => exact lt_intMax_of_expand_cons hv hf

/-! ## Counting the conflicts -/

/-- The variants of `c` in the ball of some barcode of `ds`: a finite set, enumerated by the
variants of `c` that are. -/
theorem ncard_inBall_overlap (m : Nat) (c : Bytes) (ds : List Bytes) :
    Set.ncard {v | InBall c m v ∧ ∃ d ∈ ds, InBall d m v} =
      ((ball c m).filter fun v => ds.any fun d => decide (InBall d m v)).length := by
  have hset : {v | InBall c m v ∧ ∃ d ∈ ds, InBall d m v} =
      ↑((ball c m).filter fun v => ds.any fun d => decide (InBall d m v)).toFinset := by
    ext v
    simp [mem_ball]
  rw [hset, Set.ncard_coe_finset, List.toFinset_card_of_nodup ((ball_nodup c m).filter _)]

theorem length_overlaps (m : Nat) (cs : List Bytes) :
    ∀ earlier : List Bytes, (overlaps m earlier cs).length =
      (cs.mapIdx fun j c =>
        ((ball c m).filter fun v => (earlier ++ cs.take j).any fun d =>
          decide (InBall d m v)).length).sum := by
  induction cs with
  | nil => simp [overlaps]
  | cons c rest ih =>
    intro earlier
    rw [overlaps, List.length_append, ih, List.mapIdx_cons, List.sum_cons,
      List.length_filterMap_eq_countP, List.countP_eq_length_filter]
    congr 1
    · simp only [List.take_zero, List.append_nil, Option.isSome_map, List.isSome_find?]
    · congr 1
      refine List.ext_get (by simp) fun j _ _ => ?_
      simp [List.take_succ_cons]

/-- When validated barcodes are refused as ambiguous, the refusal carries the bound and the
conflicts in order: barcode by barcode, and for each its variants in generation order that lie
in the ball of an earlier barcode, each named with the first barcode whose ball holds it, however
many later barcodes share it. Their number is the sum over the barcodes of how many of their
variants an earlier ball holds. -/
theorem expand_ambiguous_conflicts {bs cs : List Bytes}
    (hcs : List.Forall₂ (fun raw c => validate raw = .ok c) bs cs) (m : Nat) {m' : Int}
    {conflicts : List Conflict} (h : expand bs m = some (.error (.ambiguous m' conflicts))) :
    m' = m ∧ conflicts = overlaps m [] cs ∧
      conflicts.length = (cs.mapIdx fun j c =>
        Set.ncard {v | InBall c m v ∧ ∃ d ∈ cs.take j, InBall d m v}).sum := by
  rw [expand_of_overlaps (lt_intMax_of_expand hcs h) hcs, Option.some.injEq] at h
  split at h
  · cases h
  · obtain ⟨rfl, rfl⟩ := Fault.ambiguous.inj (Except.error.inj h).symm
    refine ⟨rfl, rfl, ?_⟩
    rw [length_overlaps m cs []]
    simp only [List.nil_append, ncard_inBall_overlap]

/-- The barcodes `AC` and `AG`. -/
def acAg : List Bytes := [[65, 67], [65, 71]]

/-- At one mismatch, `AG` meets the ball of `AC` in itself, `AA`, `AC` and `AT`. -/
def acAgConflicts : List Conflict :=
  [⟨[65, 71], [65, 67], [65, 71]⟩, ⟨[65, 65], [65, 67], [65, 71]⟩,
    ⟨[65, 67], [65, 67], [65, 71]⟩, ⟨[65, 84], [65, 67], [65, 71]⟩]

theorem expand_ambiguous_conflicts_acAg :
    List.Forall₂ (fun raw c => validate raw = .ok c) acAg acAg ∧
      expand acAg 1 = some (.error (.ambiguous 1 acAgConflicts)) ∧
      ((1 : Int) = (1 : Nat) ∧ acAgConflicts = overlaps 1 [] acAg ∧
        acAgConflicts.length = (acAg.mapIdx fun j c =>
          Set.ncard {v | InBall c 1 v ∧ ∃ d ∈ acAg.take j, InBall d 1 v}).sum) := by
  have hv : List.Forall₂ (fun raw c => validate raw = .ok c) acAg acAg :=
    .cons (validate_of_isBase (by decide) (List.all_eq_true.1 (by decide)))
      (.cons (validate_of_isBase (by decide) (List.all_eq_true.1 (by decide))) .nil)
  have hover : overlaps 1 [] acAg = acAgConflicts := by decide
  have hx : expand acAg (1 : Nat) = some (.error (.ambiguous 1 acAgConflicts)) := by
    rw [expand_eq_overlaps (by decide) hv (by rw [hover]; simp [acAgConflicts]), hover]
    rfl
  exact ⟨hv, hx, expand_ambiguous_conflicts hv 1 hx⟩

end FastqFixtures.Barcode
