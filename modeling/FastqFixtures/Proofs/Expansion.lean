import FastqFixtures.Proofs.MismatchBall
import FastqFixtures.Proofs.BarcodeLength

/-! # What an expansion computes

`expand` never compares balls: it only records, variant by variant, which barcode produced a
sequence first, and calls a sequence produced twice a conflict. Since no barcode produces a
variant twice (`ball_nodup`), a conflict arises exactly when two balls meet, so the expansion
succeeds exactly when the balls are pairwise disjoint, and then its members are their union.
The first barcode that fails validation ends the expansion with its fault, whatever was found
before it.

* `Expansion.recordBalls` — the state after recording the balls of validated barcodes.
* `expand_ok_iff`, `mem_expand`, `expand_of_refused` — the three outcomes.
* `expand_of_le_intMax` — the expansion that never returns, at the largest bound.
* `expand_spec` — all of them together.
-/

namespace FastqFixtures.Barcode

set_option autoImplicit false

namespace Expansion

/-! ## Recording variants -/

theorem mem_origin_record {e : Expansion} {bc : Bytes} {vs : List Bytes} {v : Bytes} :
    v ∈ (e.record bc vs).origin ↔ v ∈ e.origin ∨ v ∈ vs := by
  induction vs generalizing e with
  | nil => simp [record]
  | cons x xs ih =>
    rw [record, List.foldl_cons, ← record, ih]
    split
    · next first h =>
      have hx : x ∈ e.origin := Std.HashMap.mem_iff_isSome_getElem?.2 (by simp_all)
      by_cases hxv : x = v
      · subst hxv; simp [hx]
      · simp [Ne.symm hxv]
    · simp only [Std.HashMap.mem_insert, beq_iff_eq, List.mem_cons]
      by_cases hxv : x = v
      · subst hxv; simp
      · simp [hxv, Ne.symm hxv]

theorem record_conflicts_eq_nil {e : Expansion} {bc : Bytes} {vs : List Bytes} :
    (e.record bc vs).conflicts = [] ↔ e.conflicts = [] ∧ vs.Nodup ∧ ∀ v ∈ vs, v ∉ e.origin := by
  induction vs generalizing e with
  | nil => simp [record]
  | cons x xs ih =>
    rw [record, List.foldl_cons, ← record, ih]
    split
    · next first h =>
      -- `x` was produced before: the new conflict makes the list non-empty for good
      have hx : x ∈ e.origin := Std.HashMap.mem_iff_isSome_getElem?.2 (by simp_all)
      simp [hx]
    · next h =>
      have hx : x ∉ e.origin := fun hx => by
        have := Std.HashMap.mem_iff_isSome_getElem?.1 hx
        simp_all
      simp only [Std.HashMap.mem_insert, beq_iff_eq, not_or, List.nodup_cons,
        List.forall_mem_cons, hx, not_false_eq_true, true_and]
      constructor
      · rintro ⟨hc, hnd, hall⟩
        exact ⟨hc, ⟨fun hmem => (hall x hmem).1 rfl, hnd⟩, fun v hv => (hall v hv).2⟩
      · rintro ⟨hc, ⟨hnot, hnd⟩, hall⟩
        exact ⟨hc, hnd, fun v hv => ⟨fun hxv => hnot (hxv ▸ hv), hall v hv⟩⟩

/-- The expansion after recording the balls of the validated barcodes `cs` in turn. -/
def recordBalls (m : Nat) (e : Expansion) (cs : List Bytes) : Expansion :=
  cs.foldl (fun e c => e.record c (ball c m)) e

theorem mem_origin_recordBalls {m : Nat} {cs : List Bytes} {e : Expansion} {v : Bytes} :
    v ∈ (e.recordBalls m cs).origin ↔ v ∈ e.origin ∨ v ∈ cs.flatMap (ball · m) := by
  induction cs generalizing e with
  | nil => simp [recordBalls]
  | cons c cs ih =>
    rw [recordBalls, List.foldl_cons, ← recordBalls, ih, mem_origin_record, List.flatMap_cons,
      List.mem_append, or_assoc]

theorem recordBalls_conflicts_eq_nil {m : Nat} {cs : List Bytes} {e : Expansion} :
    (e.recordBalls m cs).conflicts = [] ↔
      e.conflicts = [] ∧ (cs.flatMap (ball · m)).Nodup ∧
        ∀ v ∈ cs.flatMap (ball · m), v ∉ e.origin := by
  induction cs generalizing e with
  | nil => simp [recordBalls]
  | cons c cs ih =>
    rw [recordBalls, List.foldl_cons, ← recordBalls, ih, record_conflicts_eq_nil,
      List.flatMap_cons, List.nodup_append]
    simp only [mem_origin_record, not_or, List.mem_append]
    constructor
    · rintro ⟨⟨hc, hnd, hnew⟩, hnds, hrest⟩
      exact ⟨hc, ⟨hnd, hnds, fun a ha b hb hab => (hrest b hb).2 (hab ▸ ha)⟩,
        fun v hv => hv.elim (hnew v) (fun hv => (hrest v hv).1)⟩
    · rintro ⟨hc, ⟨hnd, hnds, hdisj⟩, hnew⟩
      exact ⟨⟨hc, hnd, fun v hv => hnew v (.inl hv)⟩, hnds,
        fun v hv => ⟨hnew v (.inr hv), fun hb => hdisj v hb v hv rfl⟩⟩

/-! ## Absorbing barcodes -/

theorem levels_of_lt {bc : Bytes} {m : Nat} (hm : m < intMax) : levels bc m = some (ball bc m) :=
  if_pos hm

theorem levels_of_le {bc : Bytes} {m : Nat} (hm : intMax ≤ m) : levels bc m = none :=
  if_neg (Nat.not_lt.2 hm)

/-- Below the largest bound, absorbing barcodes that all validate records their balls one
after another. -/
theorem absorb_of_forall₂ {m : Nat} (hm : m < intMax) {bs cs : List Bytes}
    (h : List.Forall₂ (fun raw c => validate raw = .ok c) bs cs) (e : Expansion) :
    e.absorb m bs = some (.ok (e.recordBalls m cs)) := by
  induction h generalizing e with
  | nil => rfl
  | cons hv _ ih => simp [absorb, hv, ih, levels_of_lt hm, recordBalls]

theorem absorb_of_refused {m : Nat} (hm : m < intMax) {pre post : List Bytes} {raw : Bytes}
    {f : Fault} (hpre : ∀ r ∈ pre, ∃ c, validate r = .ok c) (hraw : validate raw = .error f)
    (e : Expansion) : e.absorb m (pre ++ raw :: post) = some (.error f) := by
  induction pre generalizing e with
  | nil => simp [absorb, hraw]
  | cons r rest ih =>
    obtain ⟨c, hc⟩ := hpre r List.mem_cons_self
    simp only [List.cons_append, absorb, hc, levels_of_lt hm]
    exact ih (fun r hr => hpre r (List.mem_cons_of_mem _ hr)) _

theorem forall₂_of_absorb {m : Nat} {bs : List Bytes} {e e' : Expansion}
    (h : e.absorb m bs = some (.ok e')) :
    ∃ cs, List.Forall₂ (fun raw c => validate raw = .ok c) bs cs := by
  induction bs generalizing e with
  | nil => exact ⟨[], .nil⟩
  | cons raw rest ih =>
    unfold absorb at h
    cases hv : validate raw with
    | error f => simp [hv] at h
    | ok c =>
      cases hl : levels c m with
      | none => simp [hv, hl] at h
      | some vs =>
        simp only [hv, hl] at h
        obtain ⟨cs, hcs⟩ := ih h
        exact ⟨c :: cs, .cons hv hcs⟩

theorem absorb_isSome {m : Nat} (hm : m < intMax) (bs : List Bytes) (e : Expansion) :
    (e.absorb m bs).isSome := by
  induction bs generalizing e with
  | nil => rfl
  | cons raw rest ih =>
    unfold absorb
    cases validate raw with
    | error f => rfl
    | ok bc => simpa only [levels_of_lt hm] using ih _

end Expansion

/-! ## Outcomes of an expansion -/

theorem expand_of_absorb {m : Nat} {bs : List Bytes} :
    expand bs m = (Expansion.absorb m ⟨∅, []⟩ bs).map fun r => r.bind (Expansion.finish m) := by
  simp only [expand, Int.natCast_nonneg, Int.not_lt.2, if_false, Int.toNat_natCast]

/-- Below the largest bound, the expansion of validated barcodes is read off the recorded
state. -/
theorem expand_of_forall₂ {m : Nat} (hm : m < intMax) {bs cs : List Bytes}
    (h : List.Forall₂ (fun raw c => validate raw = .ok c) bs cs) :
    expand bs m = some ((Expansion.recordBalls m ⟨∅, []⟩ cs).finish m) := by
  rw [expand_of_absorb, Expansion.absorb_of_forall₂ hm h]
  rfl

theorem expand_of_refused {m : Nat} (hm : m < intMax) {pre post : List Bytes} {raw : Bytes}
    {f : Fault} (hpre : ∀ r ∈ pre, ∃ c, validate r = .ok c) (hraw : validate raw = .error f) :
    expand (pre ++ raw :: post) m = some (.error f) := by
  rw [expand_of_absorb, Expansion.absorb_of_refused hm hpre hraw]
  rfl

theorem expand_of_refused_first {m : Nat} {post : List Bytes} {raw : Bytes} {f : Fault}
    (hraw : validate raw = .error f) : expand (raw :: post) m = some (.error f) := by
  rw [expand_of_absorb]
  simp only [Expansion.absorb, hraw, Option.map_some]
  rfl

/-- At the largest bound and above, an expansion whose first barcode validates never returns:
the walk over its distances never ends. -/
theorem expand_of_le_intMax {m : Nat} (hm : intMax ≤ m) {rest : List Bytes} {raw c : Bytes}
    (hraw : validate raw = .ok c) : expand (raw :: rest) m = none := by
  rw [expand_of_absorb]
  simp [Expansion.absorb, hraw, Expansion.levels_of_le hm]

theorem expand_isSome {m : Int} (hm : m.toNat < intMax) (bs : List Bytes) :
    (expand bs m).isSome := by
  unfold expand
  split
  · rfl
  · simpa using Expansion.absorb_isSome hm bs _

theorem lt_intMax_of_expand_cons {m : Nat} {rest : List Bytes} {raw c : Bytes}
    (hraw : validate raw = .ok c) {r : Except Fault BarcodeSet}
    (h : expand (raw :: rest) m = some r) : m < intMax := by
  by_contra hm
  rw [expand_of_le_intMax (Nat.le_of_not_lt hm) hraw] at h
  cases h

/-- Validated barcodes expand to a set exactly when no sequence is a variant of two of them. -/
theorem expand_ok_iff {m : Nat} (hm : m < intMax) {bs cs : List Bytes}
    (h : List.Forall₂ (fun raw c => validate raw = .ok c) bs cs) :
    (∃ S, expand bs m = some (.ok S)) ↔ (cs.flatMap (ball · m)).Nodup := by
  rw [expand_of_forall₂ hm h]
  simp only [Option.some.injEq, Expansion.finish]
  split
  · next hc =>
    simp only [List.isEmpty_iff, Expansion.recordBalls_conflicts_eq_nil] at hc
    simpa using hc.2.1
  · next hc =>
    simp only [List.isEmpty_iff, Expansion.recordBalls_conflicts_eq_nil] at hc
    simpa using hc

/-- The members of an expansion are the sequences in the ball of one of the barcodes. -/
theorem mem_expand {m : Nat} (hm : m < intMax) {bs cs : List Bytes}
    (h : List.Forall₂ (fun raw c => validate raw = .ok c) bs cs) {S : BarcodeSet}
    (hS : expand bs m = some (.ok S)) (s : Bytes) : S.has s = true ↔ ∃ c ∈ cs, InBall c m s := by
  rw [expand_of_forall₂ hm h, Option.some.injEq, Expansion.finish] at hS
  split at hS
  · cases hS
    simp [BarcodeSet.has, Bytes.sort, List.mem_mergeSort, Expansion.mem_origin_recordBalls,
      mem_ball]
  · cases hS

/-- Since no single ball repeats a variant, the variants of all barcodes are distinct exactly
when the balls are pairwise disjoint. -/
theorem flatMap_ball_nodup_iff {m : Nat} {cs : List Bytes} :
    (cs.flatMap (ball · m)).Nodup ↔
      cs.Pairwise fun c d => ∀ s, InBall c m s → ¬ InBall d m s := by
  rw [List.nodup_flatMap]
  simp only [ball_nodup, implies_true, true_and]
  refine List.Pairwise.iff fun c d => ?_
  simp only [Function.onFun, List.disjoint_left, mem_ball]

/-- An expansion with bound `m` ends with the fault of the first refused barcode; with all
barcodes valid it succeeds exactly when their balls of radius `m` are pairwise disjoint (a
barcode listed twice meets itself), and then holds exactly the union of the balls. At the
largest bound `2^63 − 1` only a refused first barcode ends it: once one validates, the walk
over its distances never ends and the expansion never returns. -/
theorem expand_spec (bs : List Bytes) (m : Nat) :
    (∀ pre raw post f, bs = pre ++ raw :: post → (∀ r ∈ pre, ∃ c, validate r = .ok c) →
      validate raw = .error f → m < intMax ∨ pre = [] → expand bs m = some (.error f)) ∧
    (m < intMax → ∀ cs, List.Forall₂ (fun raw c => validate raw = .ok c) bs cs →
      ((∃ S, expand bs m = some (.ok S)) ↔
        cs.Pairwise fun c d => ∀ s, InBall c m s → ¬ InBall d m s) ∧
      ∀ S, expand bs m = some (.ok S) → ∀ s, S.has s = true ↔ ∃ c ∈ cs, InBall c m s) ∧
    (intMax ≤ m → ∀ raw rest c, bs = raw :: rest → validate raw = .ok c → expand bs m = none) := by
  refine ⟨fun pre raw post f hbs hpre hraw hm => ?_,
    fun hm cs hcs => ⟨?_, fun S hS => mem_expand hm hcs hS⟩,
    fun hm raw rest c hbs hraw => hbs ▸ expand_of_le_intMax hm hraw⟩
  · subst hbs
    rcases hm with hm | rfl
    · exact expand_of_refused hm hpre hraw
    · exact expand_of_refused_first hraw
  · rw [expand_ok_iff hm hcs, flatMap_ball_nodup_iff]

/-- The barcode `A` validates, yet its expansion at the largest bound never returns. -/
theorem expand_never_returns_at_intMax :
    validate [65] = .ok [65] ∧ expand [[65]] intMax = none := by
  have hv : validate [65] = .ok [65] :=
    validate_of_isBase (by decide) (List.all_eq_true.1 (by decide))
  exact ⟨hv, expand_of_le_intMax le_rfl hv⟩

end FastqFixtures.Barcode
