import FastqFixtures.Run.Pooled
import FastqFixtures.Proofs.SynthesizedFiles

/-! # What the collision check guarantees

The check expands the dual index of every row, its i7 barcode followed by its i5 barcode,
leaving out the rows whose two barcodes are both undetermined, with the run's bound `m`. An
expansion succeeds exactly when no sequence lies within `m` mismatches of two of its barcodes,
so after the check the mismatch sets of any two rows' duals are disjoint.

That is all it guarantees about reads. A read's two barcodes are drawn apart, each from its own
mismatch set, so the dual of a read may lie `m` mismatches from the row's i7 and another `m`
from its i5: up to `2 m` from the row's dual, out of its mismatch set and into another row's.

* `expand_validated` — an expansion that succeeds validated every barcode.
* `checkCollisions_separates` — the mismatch sets of two rows' duals are disjoint.
-/

namespace FastqFixtures.Barcode

set_option autoImplicit false

/-- What validation makes of a barcode, or nothing for a barcode it refuses. -/
def validated (raw : Bytes) : Bytes :=
  match validate raw with
  | .ok c => c
  | .error _ => []

theorem forall₂_validated {bs cs : List Bytes}
    (h : List.Forall₂ (fun raw c => validate raw = .ok c) bs cs) :
    cs = bs.map validated ∧ ∀ b ∈ bs, validate b = .ok (validated b) := by
  induction h with
  | nil => exact ⟨rfl, nofun⟩
  | @cons raw c _ _ hv _ ih =>
    have hb : validated raw = c := by rw [validated, hv]
    refine ⟨by rw [List.map_cons, hb, ← ih.1], fun b hmem => ?_⟩
    rcases List.mem_cons.1 hmem with rfl | hmem
    · rw [hb, hv]
    · exact ih.2 b hmem

/-- An expansion that succeeds had a bound that is not negative, and validated every barcode. -/
theorem expand_validated {bs : List Bytes} {m : Int} {S : BarcodeSet}
    (h : expand bs m = some (.ok S)) :
    0 ≤ m ∧ ∃ cs, List.Forall₂ (fun raw c => validate raw = .ok c) bs cs := by
  have hm : 0 ≤ m := by
    by_contra hm
    rw [expand, if_pos (Int.not_le.1 hm)] at h
    cases h
  refine ⟨hm, ?_⟩
  rw [← Int.toNat_of_nonneg hm, expand_of_absorb] at h
  rcases ha : Expansion.absorb m.toNat ⟨∅, []⟩ bs with _ | (f | e)
  · simp [ha] at h
  · simp [ha, Except.bind] at h
  · exact Expansion.forall₂_of_absorb ha

theorem lt_intMax_of_expand_ok {bs : List Bytes} (hbs : bs ≠ []) {m : Nat} {S : BarcodeSet}
    (h : expand bs m = some (.ok S)) : m < intMax := by
  obtain ⟨-, cs, hcs⟩ := expand_validated h
  cases hcs with
  | nil => exact absurd rfl hbs
  | cons hv _ => exact lt_intMax_of_expand_cons hv h

theorem expand_singleton_of_validate {bc c : Bytes} (hv : validate bc = .ok c) {m : Nat}
    (hm : m < intMax) : ∃ S, expand [bc] m = some (.ok S) :=
  (expand_ok_iff hm (List.Forall₂.cons hv .nil)).2 (by simpa using ball_nodup c m)

end FastqFixtures.Barcode

namespace FastqFixtures.Run

open Barcode Sheet

set_option autoImplicit false

/-- After the collision check, the mismatch sets of the duals of two different rows, neither
with both barcodes undetermined, have no sequence in common. -/
theorem checkCollisions_separates {entries : List Entry} {m : Int}
    (h : checkCollisions entries m = some (.ok ())) {e f : Entry} (he : e ∈ entries)
    (hf : f ∈ entries) (hef : e ≠ f) (hde : (undetermined e.i7 && undetermined e.i5) = false)
    (hdf : (undetermined f.i7 && undetermined f.i5) = false) :
    ∃ Se Sf : BarcodeSet, expand [e.i7 ++ e.i5] m = some (.ok Se) ∧
      expand [f.i7 ++ f.i5] m = some (.ok Sf) ∧ ∀ s, Se.has s = true → Sf.has s = false := by
  let dual : Entry → Option Bytes := fun e =>
    if undetermined e.i7 && undetermined e.i5 then none else some (e.i7 ++ e.i5)
  have hdual : ∀ {a : Entry}, (undetermined a.i7 && undetermined a.i5) = false →
      dual a = some (a.i7 ++ a.i5) := fun ha => by
    simp only [dual, ha, Bool.false_eq_true, if_false]
  have hinE := List.mem_filterMap.2 ⟨e, he, hdual hde⟩
  have hinF := List.mem_filterMap.2 ⟨f, hf, hdual hdf⟩
  obtain ⟨S, hS⟩ : ∃ S, expand (entries.filterMap dual) m = some (.ok S) := by
    change Option.map (Except.map fun _ => ()) (expand (entries.filterMap dual) m) =
      some (.ok ()) at h
    rcases hx : expand (entries.filterMap dual) m with _ | (f | S)
    · rw [hx] at h; cases h
    · rw [hx] at h; cases h
    · exact ⟨S, rfl⟩
  obtain ⟨hm, cs, hcs⟩ := expand_validated hS
  obtain ⟨rfl, hvalid⟩ := forall₂_validated hcs
  rw [← Int.toNat_of_nonneg hm] at hS ⊢
  have hlt := lt_intMax_of_expand_ok (List.ne_nil_of_mem hinE) hS
  -- the duals' balls are pairwise disjoint, so those of two different rows are
  have hpw := flatMap_ball_nodup_iff.1 ((expand_ok_iff hlt hcs).1 ⟨S, hS⟩)
  rw [List.pairwise_map, List.pairwise_filterMap] at hpw
  let Apart : Entry → Entry → Prop := fun a b => ∀ d ∈ dual a, ∀ d' ∈ dual b, ∀ s,
    InBall (validated d) m.toNat s → ¬ InBall (validated d') m.toNat s
  have : Std.Symm Apart := ⟨fun a b hab d hd d' hd' s hs hs' => hab d' hd' d hd s hs' hs⟩
  have hsep : Apart e f := List.Pairwise.forall hpw he hf hef
  have hve := hvalid _ hinE
  have hvf := hvalid _ hinF
  obtain ⟨Se, hSe⟩ := expand_singleton_of_validate hve hlt
  obtain ⟨Sf, hSf⟩ := expand_singleton_of_validate hvf hlt
  obtain ⟨ce, hce, hmemE⟩ := expand_singleton hSe
  obtain ⟨cf, hcf, hmemF⟩ := expand_singleton hSf
  rw [hve, Except.ok.injEq] at hce
  rw [hvf, Except.ok.injEq] at hcf
  refine ⟨Se, Sf, hSe, hSf, fun s hs => ?_⟩
  rw [hmemE, ← hce] at hs
  have hnot := hsep _ (hdual hde) _ (hdual hdf) s hs
  rw [hcf] at hnot
  exact Bool.eq_false_iff.2 fun hs' => hnot ((hmemF s).1 hs')

/-- Two rows, `e` with barcodes `AA` and `AA`, `f` with barcodes `CC` and `CA`: their duals
`AAAA` and `CCCA` are three mismatches apart. -/
def apartRows : List Entry := [⟨[101], [65, 65], [65, 65], 1⟩, ⟨[102], [67, 67], [67, 65], 1⟩]

/-- With one mismatch the check passes for these rows, and their duals' sets are disjoint; yet
`CA` is a variant of `e`'s i7 and of its i5, and the read dual `CACA` drawn from them lies in
`f`'s set. -/
theorem checkCollisions_separates_apartRows :
    checkCollisions apartRows 1 = some (.ok ()) ∧
      (∃ S, expand [[65, 65]] 1 = some (.ok S) ∧ S.has [67, 65] = true) ∧
      ∃ Se Sf : BarcodeSet, expand [[65, 65] ++ [65, 65]] 1 = some (.ok Se) ∧
        expand [[67, 67] ++ [67, 65]] 1 = some (.ok Sf) ∧ (∀ s, Se.has s = true → Sf.has s = false) ∧
        Sf.has ([67, 65] ++ [67, 65]) = true := by
  have hduals : List.Forall₂ (fun raw c => validate raw = .ok c)
      [[65, 65, 65, 65], [67, 67, 67, 65]] [[65, 65, 65, 65], [67, 67, 67, 65]] :=
    .cons (validate_of_isBase (by decide) (List.all_eq_true.1 (by decide)))
      (.cons (validate_of_isBase (by decide) (List.all_eq_true.1 (by decide))) .nil)
  obtain ⟨S, hS⟩ := (expand_ok_iff (m := 1) (by decide) hduals).2 (by decide +kernel)
  have hcheck : checkCollisions apartRows 1 = some (.ok ()) := by
    have hkept : (undetermined [65, 65] && undetermined [65, 65]) = false ∧
        (undetermined [67, 67] && undetermined [67, 65]) = false := by decide +kernel
    simp only [checkCollisions, apartRows, List.filterMap_cons, hkept.1, hkept.2,
      Bool.false_eq_true, if_false, List.filterMap_nil, List.cons_append, List.nil_append]
    rw [show ((1 : Nat) : Int) = 1 from rfl] at hS
    rw [hS]
    rfl
  have hAA : validate [65, 65] = .ok [65, 65] :=
    validate_of_isBase (by decide) (List.all_eq_true.1 (by decide))
  obtain ⟨S7, hS7⟩ := expand_singleton_of_validate hAA (m := 1) (by decide)
  obtain ⟨c7, hc7, hmem7⟩ := expand_singleton hS7
  rw [hAA, Except.ok.injEq] at hc7
  obtain ⟨Se, Sf, hSe, hSf, hdisj⟩ := checkCollisions_separates hcheck
    (List.mem_cons_self ..) (List.mem_cons_of_mem _ (List.mem_singleton_self _)) (by decide)
    (by decide +kernel) (by decide +kernel)
  obtain ⟨cf, hcf, hmemF⟩ := expand_singleton hSf
  rw [validate_of_isBase (by decide) (List.all_eq_true.1 (by decide)), Except.ok.injEq] at hcf
  refine ⟨hcheck, ⟨S7, hS7, (hmem7 _).2 (by rw [← hc7]; decide)⟩, Se, Sf, hSe, hSf, hdisj,
    (hmemF _).2 (by rw [← hcf]; decide)⟩

end FastqFixtures.Run
