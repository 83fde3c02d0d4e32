import Mathlib
import FastqFixtures.SampleSheet

/-! # Rows of an accepted sample sheet

A sheet is read row by row, each new id recorded with its line; an id met again, and a
negative read count, stop the reading with a fault. So every sheet that is accepted lists each
sample once, with a read count that is not negative. A row's id and barcodes are three of its
fields, and a field is never empty, so no row of an accepted sheet has an empty id or barcode.

* `fields_ne_nil` — fields are not empty.
* `RowsSoFar` — what the rows read so far satisfy.
* `readSheet_rows`, `readSheet_filled` — the rows of an accepted sheet.
-/

namespace FastqFixtures.Text

set_option autoImplicit false

theorem Glyph.toBytes_ne_nil (g : Glyph) : g.toBytes ≠ [] := by
  cases g with
  | char c => exact String.utf8EncodeChar_ne_nil
  | stray b => exact List.cons_ne_nil b []

theorem splitFields_ne_nil {cur gs fld : List Glyph} (h : fld ∈ splitFields cur gs) :
    fld ≠ [] := by
  fun_induction splitFields cur gs with
  | case1 => cases h
  | case2 cur hcur =>
    rw [List.mem_singleton.1 h]
    simpa using hcur
  | case3 cur g gs hg hcur ih => exact ih h
  | case4 cur g gs hg hcur ih =>
    rcases List.mem_cons.1 h with rfl | h
    · simpa using hcur
    · exact ih h
  | case5 cur g gs hg ih => exact ih h

theorem fields_ne_nil {bs fld : Bytes} (h : fld ∈ fields bs) : fld ≠ [] := by
  obtain ⟨gs, hgs, rfl⟩ := List.mem_map.1 h
  obtain ⟨g, hg⟩ := List.exists_mem_of_ne_nil _ (splitFields_ne_nil hgs)
  intro hnil
  rw [glyphBytes, List.flatMap_eq_nil_iff] at hnil
  exact g.toBytes_ne_nil (hnil g hg)

end FastqFixtures.Text

namespace FastqFixtures.Sheet

set_option autoImplicit false

/-- The rows read so far have distinct ids, each recorded in `seen`, and read counts that are
not negative. -/
structure RowsSoFar (seen : Std.HashMap Bytes Nat) (acc : List Entry) : Prop where
  distinct : (acc.map (·.sampleId)).Nodup
  recorded : ∀ e ∈ acc, (seen.get? e.sampleId).isSome
  nonneg : ∀ e ∈ acc, 0 ≤ e.reads

theorem RowsSoFar.empty : RowsSoFar ∅ [] := ⟨List.nodup_nil, nofun, nofun⟩

theorem RowsSoFar.cons {seen : Std.HashMap Bytes Nat} {acc : List Entry} (h : RowsSoFar seen acc)
    {e : Entry} (hnew : seen.get? e.sampleId = none) (hreads : 0 ≤ e.reads) (n : Nat) :
    RowsSoFar (seen.insert e.sampleId n) (e :: acc) := by
  have hnot : e.sampleId ∉ acc.map (·.sampleId) := by
    intro hm
    obtain ⟨e', he', hid⟩ := List.mem_map.1 hm
    have := h.recorded e' he'
    rw [hid, hnew] at this
    cases this
  refine ⟨List.nodup_cons.2 ⟨hnot, h.distinct⟩, ?_, ?_⟩
  · intro e' he'
    rw [Std.HashMap.get?_insert]
    split
    · rfl
    · rcases List.mem_cons.1 he' with rfl | he'
      · simp_all
      · exact h.recorded e' he'
  · intro e' he'
    rcases List.mem_cons.1 he' with rfl | he'
    · exact hreads
    · exact h.nonneg e' he'

theorem parseRows_rows {seen : Std.HashMap Bytes Nat} {acc : List Entry} {n : Nat}
    {lines : List Bytes} {rows : List Entry} (hacc : RowsSoFar seen acc)
    (h : parseRows seen acc n lines = .ok rows) :
    (rows.map (·.sampleId)).Nodup ∧ ∀ e ∈ rows, 0 ≤ e.reads := by
  fun_induction parseRows seen acc n lines with
  | case1 seen acc n =>
    obtain rfl := (Except.ok.inj h).symm
    refine ⟨?_, fun e he => hacc.nonneg e (List.mem_reverse.1 he)⟩
    rw [List.map_reverse]
    exact List.pairwise_reverse.2 (hacc.distinct.imp Ne.symm)
  | case2 seen acc n line rest vals hskip ih => exact ih hacc h
  | case3 | case4 | case5 | case6 => cases h
  | case7 seen acc n line rest vals hskip hlen count reads hread hneg id hnew ih =>
    exact ih (RowsSoFar.cons (e := ⟨id, vals.getD 1 [], vals.getD 2 [], reads⟩) hacc hnew
      (Int.not_lt.1 hneg) n) h

theorem parseRows_filled {seen : Std.HashMap Bytes Nat} {acc : List Entry} {n : Nat}
    {lines : List Bytes} {rows : List Entry}
    (hacc : ∀ e ∈ acc, e.sampleId ≠ [] ∧ e.i7 ≠ [] ∧ e.i5 ≠ [])
    (h : parseRows seen acc n lines = .ok rows) :
    ∀ e ∈ rows, e.sampleId ≠ [] ∧ e.i7 ≠ [] ∧ e.i5 ≠ [] := by
  fun_induction parseRows seen acc n lines with
  | case1 seen acc n =>
    obtain rfl := (Except.ok.inj h).symm
    exact fun e he => hacc e (List.mem_reverse.1 he)
  | case2 seen acc n line rest vals hskip ih => exact ih hacc h
  | case3 | case4 | case5 | case6 => cases h
  | case7 seen acc n line rest vals hskip hlen count reads hread hneg id hnew ih =>
    refine ih (fun e he => ?_) h
    rcases List.mem_cons.1 he with rfl | he
    · -- the id and the barcodes are three of at least four fields, none of them empty
      have hfield : ∀ i < vals.length, vals.getD i [] ≠ [] := fun i hi => by
        rw [List.getD_eq_getElem _ _ hi]
        exact Text.fields_ne_nil (List.getElem_mem hi)
      refine ⟨?_, hfield 1 (by omega), hfield 2 (by omega)⟩
      show vals.headD [] ≠ []
      rw [List.headD_eq_getD]
      exact hfield 0 (by omega)
    · exact hacc e he

theorem readSheet_parseRows {w : Workspace} {path : Bytes} {entries : List Entry}
    (h : readSheet w path = .ok entries) : ∃ lines, parseRows ∅ [] 1 lines = .ok entries := by
  unfold readSheet at h
  split at h
  any_goals cases h
  split at h
  · cases h
  · rename_i rows hparse
    obtain rfl := (Except.ok.inj h).symm
    unfold parseSheet at hparse
    split at hparse
    rename_i lines stop _
    split at hparse
    · cases hparse
    · rename_i rows' hrows
      split at hparse
      · cases hparse
      · obtain rfl := (Except.ok.inj hparse).symm
        exact ⟨lines, hrows⟩

/-- An accepted sheet lists each sample once, each with a read count that is not negative. -/
theorem readSheet_rows {w : Workspace} {path : Bytes} {entries : List Entry}
    (h : readSheet w path = .ok entries) :
    (entries.map (·.sampleId)).Nodup ∧ ∀ e ∈ entries, 0 ≤ e.reads := by
  obtain ⟨lines, hrows⟩ := readSheet_parseRows h
  exact parseRows_rows RowsSoFar.empty hrows

/-- No row of an accepted sheet has an empty id or barcode. -/
theorem readSheet_filled {w : Workspace} {path : Bytes} {entries : List Entry}
    (h : readSheet w path = .ok entries) :
    ∀ e ∈ entries, e.sampleId ≠ [] ∧ e.i7 ≠ [] ∧ e.i5 ≠ [] := by
  obtain ⟨lines, hrows⟩ := readSheet_parseRows h
  exact parseRows_filled (fun _ he => absurd he List.not_mem_nil) hrows

end FastqFixtures.Sheet
