import FastqFixtures.Proofs.PooledRun
import FastqFixtures.Proofs.CollisionCheck
import FastqFixtures.Proofs.AmbiguityDistance

/-! # What a refused run leaves behind

A run is refused for its input (exit status 2 or 3) by the configuration check, the sample
sheet, the collision check, a sample whose options or barcodes are refused, or a sheet with no
reads to generate; every other failure is one of the file system or of the pooled files
(status 1). The stages before generation write nothing. A synthesis checks its options and
expands its barcodes before it creates a file. So a refused run has changed no file, with one
exception: without the collision check, a sample's barcodes are first validated by its own
synthesis, after the samples before it have written their files, and those stay.

* `Fault.exitCode_file` and the lemmas after it — faults of the file system are of status 1.
* `synthesize_refused` — a synthesis refused for its input has written nothing.
* `generateSamples_refused` — generating the samples stops for the input only on an invalid
  barcode, and only without the collision check.
* `runPool_refused_for_input` — what a run refused for its input leaves.
* `runPool_refused_leaves_sample_files` — a run that leaves files behind.
-/

namespace FastqFixtures

set_option autoImplicit false

/-! ## Faults of the file system -/

theorem Fault.kind_within (c : Bytes) (f : Fault) : (Fault.within c f).kind = f.kind := rfl

theorem Fault.exitCode_within (c : Bytes) (f : Fault) :
    (Fault.within c f).exitCode = f.exitCode := rfl

theorem Fault.exitCode_file (op : FileOp) (path : Bytes) (e : Errno) :
    (Fault.file op path e).exitCode = 1 := by
  cases e <;> rfl

theorem Fault.exitCode_of_invalidBarcode {f : Fault} (h : f.kind = .invalidBarcode) :
    f.exitCode = 2 := by
  unfold Fault.exitCode
  rw [h]

namespace Workspace

variable {w : Workspace} {path : Bytes} {f : Fault}

/-! Every refusal of a file operation is `.file`; the successes are all `.ok`. -/

theorem create_fault (h : w.create path = .error f) : ∃ e, f = .file .openFile path e := by
  unfold create at h
  repeat' split at h
  all_goals simp only [Except.error.injEq, reduceCtorEq] at h
  all_goals exact ⟨_, h.symm⟩

theorem openRead_fault (h : w.openRead path = .error f) :
    ∃ e, f = .file .openFile path e := by
  unfold openRead at h
  repeat' split at h
  all_goals simp only [Except.error.injEq, reduceCtorEq] at h
  all_goals exact ⟨_, h.symm⟩

theorem stat_fault (h : w.stat path = .error f) : ∃ e, f = .file .stat path e := by
  unfold stat at h
  repeat' split at h
  all_goals simp only [Except.error.injEq, reduceCtorEq] at h
  all_goals exact ⟨_, h.symm⟩

theorem remove_fault (h : w.remove path = .error f) : ∃ e, f = .file .remove path e := by
  unfold remove at h
  repeat' split at h
  all_goals simp only [Except.error.injEq, reduceCtorEq] at h
  all_goals exact ⟨_, h.symm⟩

theorem store_fault {c : Bytes} (h : w.store path c = .error f) :
    f = .file .write path .noSpace := by
  unfold store at h
  repeat' split at h
  all_goals simp only [Except.error.injEq, reduceCtorEq] at h
  exact h.symm

theorem append_fault {c : Bytes} (h : w.append path c = .error f) :
    f = .file .write path .noSpace := by
  unfold append at h
  repeat' split at h
  all_goals simp only [Except.error.injEq, reduceCtorEq] at h
  exact h.symm

end Workspace

namespace Pool

open Workspace

variable {w : Workspace} {f : Fault}

theorem appendAll_fault {dst : Bytes} {srcs : List Bytes}
    (h : (appendAll dst w srcs).1 = .error f) :
    f.exitCode = 1 := by
  induction srcs generalizing w with
  | nil => simp [appendAll] at h
  | cons src rest ih =>
    rw [appendAll] at h
    split at h
    · next f' hopen =>
      cases h
      obtain ⟨e, rfl⟩ := openRead_fault hopen
      exact Fault.exitCode_file ..
    · cases h
      rfl
    · split at h
      · next f' happ =>
        cases h
        rw [Fault.exitCode_within, append_fault happ]
        rfl
      · cases h
        rfl
    · split at h
      · next f' happ =>
        cases h
        rw [Fault.exitCode_within, append_fault happ]
        rfl
      · exact ih h

theorem concat_fault {dst : Bytes} {srcs : List Bytes} (h : (concat w dst srcs).1 = .error f) :
    f.exitCode = 1 := by
  unfold concat at h
  split at h
  · next f' hc =>
    cases h
    obtain ⟨e, rfl⟩ := create_fault hc
    exact Fault.exitCode_file ..
  · exact appendAll_fault h

theorem removeAll_fault {ps : List Bytes} (h : (removeAll w ps).1 = some f) : f.exitCode = 1 := by
  induction ps generalizing w with
  | nil => simp [removeAll] at h
  | cons p rest ih =>
    rw [removeAll] at h
    split at h
    · next f' hrm =>
      cases h
      obtain ⟨e, rfl⟩ := remove_fault hrm
      exact Fault.exitCode_file ..
    · exact ih h

theorem checkStarts_fault {n : Nat} {lines : List Bytes} (h : checkStarts n lines = .error f) :
    f.exitCode = 1 := by
  induction lines generalizing n with
  | nil => cases h
  | cons line rest ih =>
    rw [checkStarts] at h
    split at h
    · cases h
      rfl
    · exact ih h

theorem countStream_fault {data : Bytes} {g : Option GzipFault}
    (h : countStream data g = .error f) : f.exitCode = 1 := by
  unfold countStream at h
  generalize (if byteOrderMark.isPrefixOf data then data.drop 3 else data) = d at h
  dsimp only at h
  split at h
  · next f' hs =>
    cases h
    exact checkStarts_fault hs
  · split at h
    · cases h
      rfl
    · split at h
      · cases h
        rfl
      · split at h
        · cases h
          rfl
        · cases h

theorem countStream_within_fault {data path : Bytes} {g : Option GzipFault}
    (h : (countStream data g).mapError (.within path) = .error f) : f.exitCode = 1 := by
  cases hc : countStream data g with
  | ok n =>
    rw [hc] at h
    cases h
  | error f' =>
    rw [hc] at h
    cases h
    rw [Fault.exitCode_within]
    exact countStream_fault hc

theorem specialPathFault_exitCode {p : Bytes} (h : specialPathFault? p = some f) :
    f.exitCode = 1 := by
  unfold specialPathFault? at h
  split at h
  · split at h <;> cases h <;> rfl
  · cases h
    rfl
  · cases h

theorem countRecords_fault {path : Bytes} (h : countRecords w path = .error f) :
    f.exitCode = 1 := by
  unfold countRecords at h
  split at h
  · cases h
    rfl
  dsimp only at h
  split at h
  · next f' hspecial =>
    cases h
    rw [Fault.exitCode_within]
    exact specialPathFault_exitCode hspecial
  split at h
  · next f' hstat =>
    cases h
    rw [Fault.exitCode_within]
    obtain ⟨e, rfl⟩ := stat_fault hstat
    exact Fault.exitCode_file ..
  · cases h
    rfl
  · cases h
    rfl
  · split at h
    · cases h
    split at h
    · split at h
      · cases h
        rfl
      · split at h
        · cases h
        · exact countStream_within_fault h
    · exact countStream_within_fault h

end Pool

namespace Run

theorem checkCounts_fault {w : Workspace} {want : Int} {ps : List Bytes} {f : Fault}
    (h : checkCounts w want ps = .error f) : f.exitCode = 1 := by
  induction ps with
  | nil => cases h
  | cons p rest ih =>
    rw [checkCounts] at h
    split at h
    · next f' hc =>
      cases h
      exact Pool.countRecords_fault hc
    · split at h
      · cases h
        rfl
      · exact ih h

end Run

/-! ## Refused barcodes -/

namespace Barcode

open FastqFixtures.Text

theorem validate_fault {bc : Bytes} {f : Fault} (h : validate bc = .error f) :
    f.kind = .invalidBarcode := by
  unfold validate at h
  split at h
  · cases h
    rfl
  · dsimp only at h
    split at h
    · cases h
      rfl
    · cases h

theorem validate_of_undetermined {bc : Bytes} (h : undetermined bc = true) :
    validate bc = .ok (upper bc) := by
  simp only [undetermined, Bool.and_eq_true, Bool.not_eq_true', List.all_eq_true,
    beq_iff_eq] at h
  have hbase : ∀ b ∈ upper bc, isBase b = true := fun b hb => by
    rw [h.2 b hb]
    rfl
  unfold validate
  rw [if_neg (by simp [h.1])]
  simp only [firstOutside_of_isBase hbase]

end Barcode

namespace Fastq

open FastqFixtures.Random Barcode

variable {σ : Type} {src : Source σ} {w : Workspace} {f : Fault}

/-- Under a bound that is not negative, the variants of a barcode are refused exactly when the
barcode is not empty and validation refuses it, with validation's fault. -/
theorem variants_eq_error {bc : Bytes} {m : Int} (hm : 0 ≤ m) :
    variants bc m = some (.error f) ↔ bc ≠ [] ∧ validate bc = .error f := by
  unfold variants
  split
  · next hbc =>
    simp only [List.isEmpty_iff] at hbc
    simp [hbc]
  · next hbc =>
    have hne : bc ≠ [] := by simpa using hbc
    obtain ⟨n, rfl⟩ : ∃ n : Nat, m = n := ⟨m.toNat, (Int.toNat_of_nonneg hm).symm⟩
    cases hv : validate bc with
    | ok c =>
      -- a barcode that validates expands to its ball, or never returns at the largest bound
      rcases Nat.lt_or_ge n intMax with hlt | hge
      · obtain ⟨S, hS⟩ := expand_singleton_of_validate hv hlt
        simp [hS, Except.map]
      · simp [expand_of_le_intMax hge hv]
    | error f' => simp [expand_of_refused_first hv, Except.map, hne]

/-! ## A synthesis refused for its input -/

theorem Options.check_of_bounds {o : Options} (hout : o.output ≠ []) (hreads : 1 ≤ o.reads)
    (hlen : 1 ≤ o.readLength) (hi7 : o.i7 ≠ [])
    (humi : 0 ≤ o.umiLength ∧ o.umiLength ≤ maxUmiLength)
    (hmis : 0 ≤ o.mismatches ∧ o.mismatches ≤ maxMismatches) : o.check = .ok () := by
  unfold Options.check
  rw [if_neg (by simpa using hout), if_neg (by omega), if_neg (by omega),
    if_neg (by simpa using hi7), if_neg (by simp; omega), if_neg (by simp; omega)]

theorem RecordWriter.create_fault {path : Bytes} (h : RecordWriter.create w path = .error f) :
    ∃ e, f = .file .openFile path e := by
  unfold RecordWriter.create at h
  cases hc : w.create path with
  | error f' =>
    rw [hc] at h
    cases h
    exact Workspace.create_fault hc
  | ok w' =>
    rw [hc] at h
    cases h

theorem RecordWriter.close_fault {rw : RecordWriter} (h : (rw.close w).1 = some f) :
    f = .file .write rw.path .noSpace := by
  unfold RecordWriter.close at h
  split at h
  · cases h
  · dsimp only at h
    split at h
    · cases h
    · next f' hs =>
      cases h
      exact Workspace.store_fault hs

/-- A synthesis whose options pass and whose barcodes have variants fails only on the file
system: in creating either file, or in closing either writer. -/
theorem synthesize_fault_after_variants {s : σ} {o : Options} {i7s i5s : List Bytes}
    (hc : o.check = .ok ()) (h7 : variants o.i7 o.mismatches = some (.ok i7s))
    (h5 : variants o.i5 o.mismatches = some (.ok i5s))
    (h : (synthesize src s o w).result = .error f) :
    f.exitCode = 1 := by
  unfold synthesize at h
  simp only [hc, h7, h5] at h
  split at h
  · next f' hw1 =>
    cases h
    obtain ⟨e, rfl⟩ := RecordWriter.create_fault hw1
    exact Fault.exitCode_file ..
  rename_i w1 w' _
  split at h
  · next f' hw2 =>
    cases h
    obtain ⟨e, rfl⟩ := RecordWriter.create_fault hw2
    exact Fault.exitCode_file ..
  rename_i w2 w'' _
  generalize writePairs src o i7s i5s o.reads.toNat 1 w1 w2 s = r at h
  obtain ⟨r1, r2, s'⟩ := r
  split at h
  · next f' hclose =>
    cases h
    -- the second writer is closed first; a fault of it comes before one of the first
    cases he2 : (r2.close w'').1 with
    | some f2 =>
      rw [he2] at hclose
      cases hclose
      rw [Fault.exitCode_within, RecordWriter.close_fault he2]
      rfl
    | none =>
      rw [he2, Option.map_none, Option.orElse_none] at hclose
      obtain ⟨f1, he1, rfl⟩ := Option.map_eq_some_iff.1 hclose
      rw [Fault.exitCode_within, RecordWriter.close_fault he1]
      rfl
  · cases h

/-- A synthesis refused for its input has written nothing: it was refused by the check of its
options or by the variants of one of its barcodes, before its first file was created. -/
theorem synthesize_refused {s : σ} {o : Options} (h : (synthesize src s o w).result = .error f)
    (hcode : f.exitCode ≠ 1) :
    (synthesize src s o w).workspace = w ∧
      (o.check = .error f ∨ o.check = .ok () ∧
        ((∃ f', variants o.i7 o.mismatches = some (.error f') ∧ f = .within (text "i7") f') ∨
          ∃ f', variants o.i5 o.mismatches = some (.error f') ∧ f = .within (text "i5") f')) := by
  have hrun := h
  unfold synthesize at h ⊢
  cases hc : o.check with
  | error f' =>
    simp only [hc, true_and] at h ⊢
    cases h
    exact .inl rfl
  | ok u =>
    obtain ⟨f', hv7⟩ | ⟨i7s, hv7⟩ := Options.variants_returns hc o.i7
    · simp only [hc, hv7, true_and] at h ⊢
      cases h
      exact .inr (.inl ⟨f', rfl, rfl⟩)
    obtain ⟨f', hv5⟩ | ⟨i5s, hv5⟩ := Options.variants_returns hc o.i5
    · simp only [hc, hv7, hv5, true_and] at h ⊢
      cases h
      exact .inr (.inr ⟨f', rfl, rfl⟩)
    exact absurd (synthesize_fault_after_variants hc hv7 hv5 hrun) hcode

end Fastq

/-! ## Generating the samples -/

namespace Run

open FastqFixtures.Random Fastq Sheet Barcode Workspace

/-- After the collision check, every row's barcodes validate: those of a dual that was expanded
as parts of it, those of an all-`N` row as they are. -/
theorem checkCollisions_validates {entries : List Entry} {m : Int}
    (h : checkCollisions entries m = some (.ok ())) {e : Entry} (he : e ∈ entries)
    (hi7 : e.i7 ≠ []) :
    0 ≤ m ∧ (∃ c, validate e.i7 = .ok c) ∧ (e.i5 ≠ [] → ∃ c, validate e.i5 = .ok c) := by
  unfold checkCollisions at h
  dsimp only at h
  rcases hx : expand (entries.filterMap fun e =>
      if undetermined e.i7 && undetermined e.i5 then none else some (e.i7 ++ e.i5)) m with
    _ | (f | S)
  · rw [hx] at h
    cases h
  · rw [hx] at h
    cases h
  · obtain ⟨hm, cs, hcs⟩ := expand_validated hx
    refine ⟨hm, ?_⟩
    by_cases hu : (undetermined e.i7 && undetermined e.i5) = true
    · rw [Bool.and_eq_true] at hu
      exact ⟨⟨_, validate_of_undetermined hu.1⟩, fun _ => ⟨_, validate_of_undetermined hu.2⟩⟩
    · -- the row's dual was expanded, so it validated, and so do its parts
      have hdual : e.i7 ++ e.i5 ∈ entries.filterMap fun e =>
          if undetermined e.i7 && undetermined e.i5 then none else some (e.i7 ++ e.i5) :=
        List.mem_filterMap.2 ⟨e, he, by rw [if_neg hu]⟩
      have hv := (forall₂_validated hcs).2 _ hdual
      exact ⟨⟨_, validate_left_of_append hv hi7⟩, fun hi5 => ⟨_, validate_right_of_append hv hi5⟩⟩

/-- A sample with reads, of a checked configuration and a row with an i7 barcode, passes the
check of its options: the configuration has checked the same bounds. -/
theorem sampleOptions_check {cfg : Config} {e : Entry} (hcfg : cfg.check = .ok ())
    (hreads : 0 < cfg.readsFor e) (hi7 : e.i7 ≠ []) : (sampleOptions cfg e).check = .ok () := by
  unfold Config.check at hcfg
  split at hcfg
  · cases hcfg
  split at hcfg
  · cases hcfg
  rename_i hout
  split at hcfg
  · cases hcfg
  rename_i hlen
  split at hcfg
  · cases hcfg
  rename_i humi
  split at hcfg
  · cases hcfg
  rename_i hmis
  have hname : cfg.output ++ text "-" ++ e.sampleId ≠ [] := by
    simp [show text "-" ≠ [] by decide +kernel]
  simp only [Bool.or_eq_true, decide_eq_true_eq, not_or, not_lt] at humi hmis
  exact Options.check_of_bounds hname (show 1 ≤ cfg.readsFor e by omega)
    (show 1 ≤ cfg.readLength by omega) hi7 humi hmis

variable {σ : Type} {src : Source σ} {cfg : Config} {env : RunEnv}

theorem generateSamples_samples_le (entries : List Entry) (s : σ) (g : Generated)
    (w : Workspace) : ∀ {g' : Generated} {r : Option Fault} {W : Workspace},
      generateSamples src cfg env entries s g w = (g', r, W) → g.samples ≤ g'.samples := by
  fun_induction generateSamples src cfg env entries s g w with
  | case1 | case2 | case4 =>
    intro g' r W h
    cases h
    exact le_rfl
  | case3 =>
    rename_i ih
    exact ih
  | case5 =>
    rename_i ih
    intro g' r W h
    exact Nat.le_of_succ_le (ih h)

/-- Generating that stops with no fault and no sample synthesized has skipped every sample, and
left the files alone. -/
theorem generateSamples_none (entries : List Entry) (s : σ) (g : Generated) (w : Workspace) :
    ∀ {g' : Generated} {W : Workspace}, generateSamples src cfg env entries s g w = (g', none, W) →
      g'.samples = g.samples → W = w := by
  fun_induction generateSamples src cfg env entries s g w with
  | case1 =>
    intro g' W h _
    cases h
    rfl
  | case2 | case4 =>
    intro g' W h
    cases h
  | case3 =>
    rename_i ih
    exact ih
  | case5 =>
    -- a synthesized sample is counted, and counts are never taken back
    rename_i rest _ _ _ _ _ _ _ _ _ out _ _ _ _
    intro g' W h hs
    have hle := generateSamples_samples_le rest out.state _ out.workspace h
    simp only at hle
    omega

/-- Generating stops with a fault only on cancellation, or when the synthesis of a sample with
reads is refused; the fault is then that refusal, in the sample's context. -/
theorem generateSamples_some (entries : List Entry) (s : σ) (g : Generated) (w : Workspace) :
    ∀ {g' : Generated} {f : Fault} {W : Workspace},
      generateSamples src cfg env entries s g w = (g', some f, W) →
      f = .canceled ∨ ∃ e ∈ entries, cfg.readsFor e ≠ 0 ∧ ∃ (s' : σ) (w' : Workspace) (f' : Fault),
        (synthesize src s' (sampleOptions cfg e) w').result = .error f' ∧
        f = .within (text "sample " ++ e.sampleId) f' := by
  fun_induction generateSamples src cfg env entries s g w with
  | case1 =>
    intro g' f W h
    cases h
  | case2 =>
    intro g' f W h
    cases h
    exact .inl rfl
  | case3 =>
    rename_i e _ _ _ _ _ _ _ _ _ _ ih
    intro g' f W h
    exact (ih h).imp_right fun ⟨e', he', hr⟩ => ⟨e', List.mem_cons_of_mem e he', hr⟩
  | case4 =>
    rename_i e _ s _ w _ _ _ _ hz _ _ f' hout
    intro g' f W h
    cases h
    exact .inr ⟨e, List.mem_cons_self, by simpa using hz, s, w, f', hout, rfl⟩
  | case5 =>
    rename_i e _ _ _ _ _ _ _ _ _ _ _ _ _ _ ih
    intro g' f W h
    exact (ih h).imp_right fun ⟨e', he', hr⟩ => ⟨e', List.mem_cons_of_mem e he', hr⟩

/-- A barcode of a row, refused at a bound that is not negative, is invalid; and the collision
check, which validates the barcodes of every row, was not made. -/
theorem row_barcode_refused {entries : List Entry} {m : Int} {check : Bool} {e : Entry}
    (hcheck : check = true → checkCollisions entries m = some (.ok ())) (hm : 0 ≤ m)
    (he : e ∈ entries) (hi7 : e.i7 ≠ []) {bc : Bytes} (hbc : bc = e.i7 ∨ bc = e.i5) {f : Fault}
    (hv : variants bc m = some (.error f)) : check = false ∧ f.kind = .invalidBarcode := by
  obtain ⟨hne, hval⟩ := (variants_eq_error hm).1 hv
  refine ⟨?_, validate_fault hval⟩
  cases hc : check
  · rfl
  · obtain ⟨-, ⟨c7, h7⟩, h5⟩ := checkCollisions_validates (hcheck hc) he hi7
    rcases hbc with rfl | rfl
    · rw [h7] at hval
      cases hval
    · obtain ⟨c5, h5⟩ := h5 hne
      rw [h5] at hval
      cases hval

/-- Generating the samples of a checked configuration and sheet stops for the input only on an
invalid barcode, and only when the collision check was not made. -/
theorem generateSamples_refused {entries : List Entry} {s : σ} {g g' : Generated}
    {w W : Workspace} {f : Fault} (hcfg : cfg.check = .ok ())
    (hsheet : ∀ e ∈ entries, e.i7 ≠ [] ∧ 0 ≤ cfg.readsFor e)
    (hcoll : cfg.checkCollisions = true → checkCollisions entries cfg.mismatches = some (.ok ()))
    (h : generateSamples src cfg env entries s g w = (g', some f, W)) (hcode : f.exitCode ≠ 1) :
    cfg.checkCollisions = false ∧ f.kind = .invalidBarcode := by
  rcases generateSamples_some entries s g w h with rfl | ⟨e, he, hz, s', w', f', hsyn, rfl⟩
  · exact absurd rfl hcode
  rw [Fault.exitCode_within] at hcode
  rw [Fault.kind_within]
  obtain ⟨hi7, hnn⟩ := hsheet e he
  have hm : 0 ≤ cfg.mismatches := (Config.check_eq_ok hcfg).2.2.2.1
  have hopts := sampleOptions_check hcfg (lt_of_le_of_ne hnn (Ne.symm hz)) hi7
  obtain ⟨-, hc | ⟨-, ⟨f'', hv, rfl⟩ | ⟨f'', hv, rfl⟩⟩⟩ := synthesize_refused hsyn hcode
  · rw [hopts] at hc
    cases hc
  · rw [Fault.kind_within]
    exact row_barcode_refused hcoll hm he hi7 (.inl rfl) hv
  · rw [Fault.kind_within]
    exact row_barcode_refused hcoll hm he hi7 (.inr rfl) hv

/-- A run that has generated samples fails after that only on the file system: in pooling,
counting or removing the samples' files. -/
theorem runPool_fault_after_samples {cfg : Config} {env : RunEnv} {w : Workspace}
    {entries : List Entry} (hcfg : cfg.check = .ok ())
    (hsheet : readSheet w cfg.sampleSheet = .ok entries) (hne : entries.isEmpty = false)
    (hcoll : (if cfg.checkCollisions then checkCollisions entries cfg.mismatches
      else some (.ok ())) = some (.ok ())) {g : Generated} {W : Workspace}
    (hgen : generateSamples Additive.source cfg env entries
      (Additive.seeded (if (cfg.seed == 0) = true then env.clockSeed else cfg.seed))
      ⟨[], [], 0, [], 0, []⟩ w = (g, none, W))
    (hz : g.samples ≠ 0) {f : Fault} (h : (runPool cfg env w).result = .error f) :
    f.exitCode = 1 := by
  have hz' : (g.samples == 0) = false := by simpa using hz
  unfold runPool at h
  simp only [hcfg, hsheet, hne, hcoll, hgen, hz', Bool.false_eq_true, if_false] at h
  split at h
  · next f' W' hcat =>
    cases h
    exact Pool.concat_fault (congrArg Prod.fst hcat)
  split at h
  · next f' W' hcat =>
    cases h
    exact Pool.concat_fault (congrArg Prod.fst hcat)
  split at h
  · next f' hcount =>
    cases h
    exact checkCounts_fault hcount
  split at h
  · cases h
  split at h
  · next f' W' hrm =>
    cases h
    exact Pool.removeAll_fault (congrArg Prod.fst hrm)
  · cases h

/-- A run refused for its input, with exit status 2 or 3, has left every file as it was, with
one exception: without the collision check, a sample's barcode found invalid by its own
synthesis, after the samples before it have written their files. -/
theorem runPool_refused_for_input {cfg : Config} {env : RunEnv} {w : Workspace} {f : Fault}
    (h : (runPool cfg env w).result = .error f) (hcode : f.exitCode = 2 ∨ f.exitCode = 3) :
    (runPool cfg env w).workspace = w ∨ cfg.checkCollisions = false ∧ f.kind = .invalidBarcode := by
  have hcode' : f.exitCode ≠ 1 := by omega
  have hrun := h
  unfold runPool at h ⊢
  rcases hcfg : cfg.check with f' | u
  · simp
  rcases hsheet : readSheet w cfg.sampleSheet with f' | entries
  · simp
  cases hne : entries.isEmpty
  case true => simp [hne]
  rcases hcoll : (if cfg.checkCollisions then checkCollisions entries cfg.mismatches
    else some (.ok ())) with _ | (f' | u')
  · simp [hne, hcoll]
  · simp [hne, hcoll]
  simp only [hcfg, hsheet, hne, hcoll, Bool.false_eq_true, if_false] at h ⊢
  have hrows : ∀ e ∈ entries, e.i7 ≠ [] ∧ 0 ≤ cfg.readsFor e := fun e he =>
    ⟨(readSheet_filled hsheet e he).2.1, readsFor_nonneg hcfg hsheet e he⟩
  have hcheck : cfg.checkCollisions = true →
      checkCollisions entries cfg.mismatches = some (.ok ()) := by
    intro hc
    rw [if_pos hc] at hcoll
    exact hcoll
  generalize hgen : generateSamples Additive.source cfg env entries
    (Additive.seeded (if (cfg.seed == 0) = true then env.clockSeed else cfg.seed))
    ⟨[], [], 0, [], 0, []⟩ w = res at h ⊢
  obtain ⟨g, r, W⟩ := res
  rcases r with _ | f'
  · by_cases hz : g.samples = 0
    · -- no sample synthesized, so none written
      simp only [hz, beq_self_eq_true, if_true] at h ⊢
      exact .inl (generateSamples_none entries _ _ w hgen hz)
    · exact absurd (runPool_fault_after_samples hcfg hsheet hne hcoll hgen hz hrun) hcode'
  · -- a sample refused: for its input only without the collision check
    simp only [Except.error.injEq] at h
    subst h
    exact .inr (generateSamples_refused hcfg hrows hcheck hgen hcode')

/-! ## Without the collision check -/

/-- A run whose generation stops with a sample's fault ends with that fault, and with the files
generation left. -/
theorem runPool_of_sample_fault {cfg : Config} {env : RunEnv} {w : Workspace}
    {entries : List Entry} (hcfg : cfg.check = .ok ()) (hseed : cfg.seed ≠ 0)
    (hsheet : readSheet w cfg.sampleSheet = .ok entries) (hne : entries ≠ [])
    (hcoll : cfg.checkCollisions = false) {g : Generated} {f : Fault} {W : Workspace}
    (hgen : generateSamples Additive.source cfg env entries (Additive.seeded cfg.seed)
      ⟨[], [], 0, [], 0, []⟩ w = (g, some f, W)) :
    (runPool cfg env w).result = .error f ∧ (runPool cfg env w).workspace = W := by
  unfold runPool
  simp only [hcfg, hsheet, List.isEmpty_eq_false_iff.2 hne, hcoll, Bool.false_eq_true, if_false,
    beq_iff_eq, hseed, hgen, and_self]

/-- A working directory holding only the sheet `s`, of the lines `A AC G 1` and `B AC X 1`. -/
def twoSampleSheet : Workspace :=
  ⟨[([[115]], .file [65, 32, 65, 67, 32, 71, 32, 49, 10, 66, 32, 65, 67, 32, 88, 32, 49, 10])], 0⟩

/-- The second row of that sheet: sample `B`, whose i5 barcode `X` is no barcode. -/
def badI5Sample : Entry := ⟨[66], [65, 67], [88], 1⟩

theorem readSheet_twoSampleSheet :
    readSheet twoSampleSheet [115] = .ok [oneSample, badI5Sample] := by
  have hcut : Text.cutLines lineLimit
      [65, 32, 65, 67, 32, 71, 32, 49, 10, 66, 32, 65, 67, 32, 88, 32, 49, 10] =
      ([[65, 32, 65, 67, 32, 71, 32, 49], [66, 32, 65, 67, 32, 88, 32, 49]], .complete) := by
    decide +kernel
  have hfA : Text.fields [65, 32, 65, 67, 32, 71, 32, 49] = [[65], [65, 67], [71], [49]] := by
    decide +kernel
  have hfB : Text.fields [66, 32, 65, 67, 32, 88, 32, 49] = [[66], [65, 67], [88], [49]] := by
    decide +kernel
  have hskA : skipped [65, 32, 65, 67, 32, 71, 32, 49] = false := by decide +kernel
  have hskB : skipped [66, 32, 65, 67, 32, 88, 32, 49] = false := by decide +kernel
  have hn : Text.readInteger false [49] = .ok 1 := by decide +kernel
  refine readSheet_alone ?_
  simp [parseSheet, hcut, parseRows, hfA, hfB, hskA, hskB, hn]
  exact ⟨rfl, rfl⟩

/-- The run of one-base reads over that sheet, without the collision check: sample `A` is
synthesized and writes its two files, then sample `B` is refused for its i5 barcode, and the
run with it, with the files of `A` left behind. -/
theorem twoSampleSheet_run :
    ∃ f, (runPool oneBaseRun ⟨[114], 0, false⟩ twoSampleSheet).result = .error f ∧
      f.exitCode = 2 ∧ f.kind = .invalidBarcode ∧
      (runPool oneBaseRun ⟨[114], 0, false⟩ twoSampleSheet).workspace ≠ twoSampleSheet := by
  have h7 : variants [65, 67] 0 = some (.ok [[65, 67]]) :=
    variants_zero (by decide) (validate_of_isBase (by decide) (List.all_eq_true.1 (by decide)))
  have h5 : variants [71] 0 = some (.ok [[71]]) :=
    variants_zero (by decide) (validate_of_isBase (by decide) (List.all_eq_true.1 (by decide)))
  obtain ⟨f', hf'⟩ : ∃ f', validate [88] = .error f' := by
    cases hv : validate [88] with
    | error f' => exact ⟨f', rfl⟩
    | ok c => exact absurd (letters_of_validate hv 88 List.mem_cons_self) (by decide)
  have hX : variants [88] 0 = some (.error f') := (variants_eq_error le_rfl).2 ⟨by decide, hf'⟩
  have hl1 : Lands twoSampleSheet (pairPaths (sampleOptions oneBaseRun oneSample).output).1 [] []
      (pairPaths (sampleOptions oneBaseRun oneSample).output).1 :=
    ⟨⟨by decide +kernel, by decide +kernel, by decide +kernel, by decide +kernel,
      by decide +kernel, by decide +kernel⟩, by decide +kernel, ⟨.top, rfl, rfl⟩⟩
  have hl2 : Lands twoSampleSheet (pairPaths (sampleOptions oneBaseRun oneSample).output).2 [] []
      (pairPaths (sampleOptions oneBaseRun oneSample).output).2 :=
    ⟨⟨by decide +kernel, by decide +kernel, by decide +kernel, by decide +kernel,
      by decide +kernel, by decide +kernel⟩, by decide +kernel, ⟨.top, rfl, rfl⟩⟩
  have hA : (synthesize Additive.source (Additive.seeded oneBaseRun.seed)
      (sampleOptions oneBaseRun oneSample) twoSampleSheet).result = _ :=
    synthesize_result rfl h7 h5 hl1 hl2 (by decide +kernel) (by decide +kernel)
  have hB : ∀ s w, synthesize Additive.source s (sampleOptions oneBaseRun badI5Sample) w =
      ⟨.error (.within (text "i5") f'), s, w⟩ := by
    intro s w
    have hc : (sampleOptions oneBaseRun badI5Sample).check = .ok () := rfl
    have h7' : variants (sampleOptions oneBaseRun badI5Sample).i7
        (sampleOptions oneBaseRun badI5Sample).mismatches = some (.ok [[65, 67]]) := h7
    have hX' : variants (sampleOptions oneBaseRun badI5Sample).i5
        (sampleOptions oneBaseRun badI5Sample).mismatches = some (.error f') := hX
    unfold synthesize
    simp only [hc, h7', hX']
  obtain ⟨g, hgen⟩ : ∃ g, generateSamples Additive.source oneBaseRun ⟨[114], 0, false⟩
      [oneSample, badI5Sample] (Additive.seeded oneBaseRun.seed) ⟨[], [], 0, [], 0, []⟩
      twoSampleSheet = (g, some (.within (text "sample " ++ [66]) (.within (text "i5") f')),
        (synthesize Additive.source (Additive.seeded oneBaseRun.seed)
          (sampleOptions oneBaseRun oneSample) twoSampleSheet).workspace) := by
    have hrA : oneBaseRun.readsFor oneSample = 1 := rfl
    have hrB : oneBaseRun.readsFor badI5Sample = 1 := rfl
    have h10 : ((1 : Int) == 0) = false := rfl
    rw [generateSamples]
    simp only [hrA, h10, hA, Bool.false_eq_true, if_false]
    rw [generateSamples]
    simp only [hrB, h10, hB, Bool.false_eq_true, if_false]
    exact ⟨_, rfl⟩
  obtain ⟨hres, hws⟩ := @runPool_of_sample_fault oneBaseRun ⟨[114], 0, false⟩ twoSampleSheet _ rfl
    (by decide) readSheet_twoSampleSheet (by simp) rfl _ _ _ hgen
  have hkind : (Fault.within (text "sample " ++ [66]) (.within (text "i5") f')).kind =
      .invalidBarcode := by
    rw [Fault.kind_within, Fault.kind_within]
    exact validate_fault hf'
  refine ⟨_, hres, Fault.exitCode_of_invalidBarcode hkind, hkind, ?_⟩
  obtain ⟨_, _, _, _, _, _, -, -, -, -, -, -, hc1, hc2, hs2, hs1⟩ :=
    synthesize_written additive_inRange hA
  have hr1 := (openRead_pairPaths hc1 hc2 hs2 hs1).1
  have hmiss : (twoSampleSheet.openRead
      (pairPaths (sampleOptions oneBaseRun oneSample).output).1).toBool = false := by
    decide +kernel
  intro heq
  rw [hws] at heq
  rw [heq] at hr1
  rw [hr1] at hmiss
  cases hmiss

/-- Without the collision check, a run refused for its input can leave files behind. -/
theorem runPool_refused_leaves_sample_files :
    oneBaseRun.checkCollisions = false ∧
      ∃ f, (runPool oneBaseRun ⟨[114], 0, false⟩ twoSampleSheet).result = .error f ∧
        (f.exitCode = 2 ∨ f.exitCode = 3) ∧
        (runPool oneBaseRun ⟨[114], 0, false⟩ twoSampleSheet).workspace ≠ twoSampleSheet := by
  obtain ⟨f, hres, hcode, -, hws⟩ := twoSampleSheet_run
  exact ⟨rfl, f, hres, .inl hcode, hws⟩

theorem runPool_refused_for_input_twoSampleSheet :
    ∃ f, (runPool oneBaseRun ⟨[114], 0, false⟩ twoSampleSheet).result = .error f ∧
      (f.exitCode = 2 ∨ f.exitCode = 3) ∧
      ((runPool oneBaseRun ⟨[114], 0, false⟩ twoSampleSheet).workspace = twoSampleSheet ∨
        oneBaseRun.checkCollisions = false ∧ f.kind = .invalidBarcode) := by
  obtain ⟨f, hres, hcode, -, -⟩ := twoSampleSheet_run
  exact ⟨f, hres, .inl hcode, runPool_refused_for_input hres (.inl hcode)⟩

end Run

end FastqFixtures
