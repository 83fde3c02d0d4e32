import FastqFixtures.Run.Pooled
import FastqFixtures.Proofs.PooledFiles
import FastqFixtures.Proofs.SheetRows

/-! # What a pooled run writes

A run synthesizes the samples with reads in sheet order, each from the source state the one
before left, into files named by the output prefix, a dash, the sample id and the mate. A
sheet that is accepted names each sample once, so with ids free of slashes these files are
distinct entries of the directory of the output prefix, distinct too from the two pooled
files. Each sample's synthesis changes its own two files only; concatenation changes the
pooled file only; removal removes the sample files only. So after the run each pooled file
holds, one after another, the gzip members the samples wrote, and its text is their texts in
sheet order: every line a whole line of a record, so the count of records is the sum of the
read counts, and the run's own check of that count passes.

* `sampleRuns` — the syntheses of the samples with reads, sharing one source.
* `generateSamples_eq` — what generating the samples records, when no synthesis fails.
* `SampleFiles`, `sampleRuns_files` — what each sample leaves in its two files.
* `runPool_pools` — a run that gets to its files succeeds, with what it pooled.
-/

namespace FastqFixtures.Run

open FastqFixtures.Random Fastq Sheet Workspace Pool Barcode

set_option autoImplicit false

/-! ## The source and the read total -/

theorem additive_inRange : Additive.source.InRange := by
  intro g n hn
  change (g.below n).1 < n
  unfold Additive.below
  split
  · split
    · exact Nat.lt_of_le_of_lt Nat.and_le_right (by omega)
    · exact Nat.mod_lt _ hn
  · split
    · exact Nat.lt_of_le_of_lt Nat.and_le_right (by omega)
    · exact Nat.mod_lt _ hn

theorem addReads_eq {a b : Int} (h0 : 0 ≤ a + b) (h : a + b ≤ 2 ^ 63 - 1) :
    addReads a b = a + b := by
  rw [addReads, Int64.toInt_ofInt]
  exact Int.bmod_eq_of_le (by simp [Int64.size]; omega) (by simp [Int64.size]; omega)

theorem foldl_addReads {xs : List Int} (hxs : ∀ x ∈ xs, 0 ≤ x) {a : Int} (ha : 0 ≤ a)
    (h : a + xs.sum ≤ 2 ^ 63 - 1) : xs.foldl addReads a = a + xs.sum := by
  induction xs generalizing a with
  | nil => simp
  | cons x xs ih =>
    have hx := hxs x (List.mem_cons_self ..)
    have hrest : 0 ≤ xs.sum := List.sum_nonneg fun y hy => hxs y (List.mem_cons_of_mem x hy)
    simp only [List.sum_cons] at h
    rw [List.foldl_cons, addReads_eq (by omega) (by omega),
      ih (fun y hy => hxs y (List.mem_cons_of_mem x hy)) (by omega) (by omega), List.sum_cons]
    omega

/-! ## The runs of the samples -/

section Runs

variable {σ : Type} (src : Source σ) (cfg : Config)

/-- The syntheses of the samples with reads, in sheet order: each draws from the source where
the one before stopped, and writes into the files the one before left. -/
def sampleRuns : List Entry → σ → Workspace → List (Entry × Outcome σ)
  | [], _, _ => []
  | e :: rest, s, w =>
    if cfg.readsFor e = 0 then sampleRuns rest s w
    else
      let out := synthesize src s (sampleOptions cfg e) w
      (e, out) :: sampleRuns rest out.state out.workspace

/-- The files after a series of runs started on `w`: those the last run left. -/
def afterRuns : Workspace → List (Entry × Outcome σ) → Workspace
  | w, [] => w
  | _, r :: runs => afterRuns r.2.workspace runs

variable {src cfg}

theorem mem_sampleRuns {entries : List Entry} {s : σ} {w : Workspace} {r : Entry × Outcome σ}
    (h : r ∈ sampleRuns src cfg entries s w) : r.1 ∈ entries ∧ cfg.readsFor r.1 ≠ 0 := by
  induction entries generalizing s w with
  | nil => cases h
  | cons e rest ih =>
    unfold sampleRuns at h
    split at h
    · exact (ih h).imp_left (List.mem_cons_of_mem e)
    · rcases List.mem_cons.1 h with rfl | h
      · exact ⟨List.mem_cons_self .., ‹_›⟩
      · exact (ih h).imp_left (List.mem_cons_of_mem e)

theorem sampleRuns_entries (entries : List Entry) (s : σ) (w : Workspace) :
    (sampleRuns src cfg entries s w).map (·.1) = entries.filter fun e => cfg.readsFor e ≠ 0 := by
  induction entries generalizing s w with
  | nil => rfl
  | cons e rest ih =>
    unfold sampleRuns
    by_cases hz : cfg.readsFor e = 0
    · simp [hz, ih]
    · simp [hz, ih]

/-- Generating the samples of a run that is not cancelled, when no synthesis fails: the files,
count, skipped ids and read total of the runs are added to what was generated before, and
the files are those the last run left. -/
theorem generateSamples_eq {env : RunEnv} (hcancel : env.cancelled = false) :
    ∀ (entries : List Entry) (s : σ) (g : Generated) (w : Workspace),
      (∀ r ∈ sampleRuns src cfg entries s w, ∃ st, r.2.result = .ok st) →
      ∃ logs, generateSamples src cfg env entries s g w =
        (⟨g.r1s ++ (sampleRuns src cfg entries s w).map
            (fun r => (pairPaths (sampleOptions cfg r.1).output).1),
          g.r2s ++ (sampleRuns src cfg entries s w).map
            (fun r => (pairPaths (sampleOptions cfg r.1).output).2),
          g.samples + (sampleRuns src cfg entries s w).length,
          g.skipped ++ (entries.filter fun e => cfg.readsFor e = 0).map (·.sampleId),
          ((sampleRuns src cfg entries s w).map fun r => cfg.readsFor r.1).foldl addReads g.reads,
          logs⟩, none, afterRuns w (sampleRuns src cfg entries s w)) := by
  intro entries
  induction entries with
  | nil =>
    intro s g w _
    exact ⟨g.logs, by simp [generateSamples, sampleRuns, afterRuns]⟩
  | cons e rest ih =>
    intro s g w hok
    by_cases hz : cfg.readsFor e = 0
    · -- a sample without reads is skipped, and only its id is recorded
      have hruns : sampleRuns src cfg (e :: rest) s w = sampleRuns src cfg rest s w := by
        rw [sampleRuns, if_pos hz]
      rw [hruns] at hok ⊢
      obtain ⟨logs, hgen⟩ := ih s _ w hok
      refine ⟨logs, ?_⟩
      rw [generateSamples, hcancel, if_neg Bool.false_ne_true]
      simp only [hz, beq_self_eq_true, if_true]
      rw [hgen]
      simp [hz]
    · -- a sample with reads is synthesized, and its files and count are recorded
      have hruns : sampleRuns src cfg (e :: rest) s w =
          (e, synthesize src s (sampleOptions cfg e) w) ::
            sampleRuns src cfg rest (synthesize src s (sampleOptions cfg e) w).state
              (synthesize src s (sampleOptions cfg e) w).workspace := by
        rw [sampleRuns, if_neg hz]
      rw [hruns] at hok ⊢
      obtain ⟨st, hst⟩ := hok _ (List.mem_cons_self ..)
      obtain ⟨_, _, _, _, _, -, -, -, -, -, -, -, -, -, hstats⟩ := synthesize_eq_ok hst
      obtain ⟨logs, hgen⟩ := ih _ _ _ fun r hr => hok r (List.mem_cons_of_mem _ hr)
      refine ⟨logs, ?_⟩
      rw [generateSamples, hcancel, if_neg Bool.false_ne_true]
      simp only [beq_iff_eq, hz, if_false]
      rw [hst]
      simp only
      rw [hgen]
      simp [hz, hstats, afterRuns, Nat.add_assoc, Nat.add_comm 1]

end Runs

/-! ## Bytes of the lines -/

theorem isBase_ne_newline {b : UInt8} (h : isBase b = true) : b ≠ 10 := by
  rintro rfl
  exact absurd h (by decide)

theorem isBase_of_inBall {c v : Bytes} {m : Nat} (hc : ∀ b ∈ c, isBase b = true)
    (h : InBall c m v) : ∀ b ∈ v, isBase b = true := by
  intro b hb
  obtain ⟨i, hi, rfl⟩ := List.getElem_of_mem hb
  have hgv : v.getD i 0 = v[i] := by simp [List.getD_eq_getElem?_getD, hi]
  by_cases hmis : i ∈ mismatchPositions c v
  · -- a changed position holds one of the four bases
    have hbase := h.2.2 i hmis
    rw [hgv] at hbase
    have hbases : ∀ x ∈ bases, isBase x = true := List.all_eq_true.1 (by decide)
    exact hbases _ hbase
  · -- an unchanged position holds the barcode's byte there
    have hic : i < c.length := h.1 ▸ hi
    have heq : v.getD i 0 = c.getD i 0 := by
      by_contra hne
      exact hmis (mem_mismatchPositions.2 ⟨hic, hne⟩)
    rw [hgv, List.getD_eq_getElem?_getD, List.getElem?_eq_getElem hic, Option.getD_some] at heq
    rw [heq]
    exact hc _ (List.getElem_mem hic)

theorem variants_ne_newline {bc : Bytes} {m : Int} (hm : 0 ≤ m) {vs : List Bytes}
    (h : variants bc m = some (.ok vs)) : ∀ v ∈ vs, ∀ b ∈ v, b ≠ 10 := by
  by_cases hbc : bc = []
  · rw [hbc] at h
    cases h
    simp
  · obtain ⟨S, hS, rfl⟩ := variants_of_ne_nil hbc h
    rw [← Int.toNat_of_nonneg hm] at hS
    obtain ⟨c, hc, hmem⟩ := expand_singleton hS
    intro v hv b hb
    have hball := (hmem v).1 (by simpa [BarcodeSet.has] using hv)
    exact isBase_ne_newline (isBase_of_inBall (validate_eq_ok hc).2 hball b hb)

theorem dnaBases_ne_newline : ∀ b ∈ dnaBases, b ≠ 10 :=
  fun _ hb h => absurd (h ▸ hb) (by decide +kernel)

theorem qualities_ne_newline : ∀ b ∈ qualities, b ≠ 10 :=
  fun _ hb h => absurd (h ▸ hb) (by decide)

/-! ## The files of the samples and of the pool -/

/-- The name of a sample's file of one mate in the directory of the output prefix: the last
segment of the prefix, a dash, the sample id, and the mate's suffix. -/
def sampleName (last id suffix : Bytes) : Bytes := last ++ (text "-" ++ id ++ suffix)

theorem sampleOptions_paths (cfg : Config) (e : Entry) :
    pairPaths (sampleOptions cfg e).output =
      (cfg.output ++ (text "-" ++ e.sampleId ++ text "_R1.fastq.gz"),
        cfg.output ++ (text "-" ++ e.sampleId ++ text "_R2.fastq.gz")) := by
  simp [pairPaths, sampleOptions]

theorem dash_eq : text "-" = [45] := by decide +kernel

theorem named_sample {output : Bytes} {init : List Bytes} {last : Bytes}
    (hsplit : Bytes.splitOn 47 output = init ++ [last]) {id suffix : Bytes} (hid : 47 ∉ id)
    (hsuf : ∀ b ∈ suffix, b ≠ 47) (hlen : 2 ≤ suffix.length)
    (hacc : refusal? (output ++ (text "-" ++ id ++ suffix)) = none) :
    Named (output ++ (text "-" ++ id ++ suffix)) init (sampleName last id suffix) := by
  refine named_append (fun b hb => ?_) (by simp [dash_eq]; omega) hacc hsplit
  simp only [dash_eq, List.mem_append, List.mem_singleton] at hb
  rcases hb with (rfl | hb) | hb
  · decide
  · rintro rfl
    exact hid hb
  · exact hsuf b hb

/-- The files of two samples, of either mate, have the same name only for the same id and
mate. -/
theorem sampleName_inj {last a b s t : Bytes} (hst : s.length = t.length)
    (h : sampleName last a s = sampleName last b t) : a = b ∧ s = t := by
  simp only [sampleName, List.append_cancel_left_eq, dash_eq, List.cons_append,
    List.cons.injEq, true_and] at h
  exact List.append_inj h (by have := congrArg List.length h; simp at this; omega)

theorem sampleName_ne_pooled {last a s t : Bytes} (hst : s.length = t.length) :
    sampleName last a s ≠ last ++ t := by
  intro h
  have := congrArg List.length h
  simp [sampleName, dash_eq] at this
  omega

/-- What the files of sample `e` hold in `W`: each lands in `dir` and holds one gzip member of
its mate's text, which is the records of the sample's reads. -/
structure SampleFiles (cfg : Config) (init dir : List Bytes) (last : Bytes) (W : Workspace)
    (e : Entry) (t : Bytes × Bytes) : Prop where
  lands1 : Lands W (pairPaths (sampleOptions cfg e).output).1 init dir
    (sampleName last e.sampleId (text "_R1.fastq.gz"))
  lands2 : Lands W (pairPaths (sampleOptions cfg e).output).2 init dir
    (sampleName last e.sampleId (text "_R2.fastq.gz"))
  file1 : W.lookup (dir ++ [sampleName last e.sampleId (text "_R1.fastq.gz")]) =
    some (.file (Gzip.gzipMember t.1))
  file2 : W.lookup (dir ++ [sampleName last e.sampleId (text "_R2.fastq.gz")]) =
    some (.file (Gzip.gzipMember t.2))
  records1 : ∃ recs, RecordText t.1 recs ∧ recs.length = (cfg.readsFor e).toNat
  records2 : ∃ recs, RecordText t.2 recs ∧ recs.length = (cfg.readsFor e).toNat

/-- The names of a sample's two files. -/
def sampleNames (last : Bytes) (e : Entry) : List Bytes :=
  [sampleName last e.sampleId (text "_R1.fastq.gz"),
    sampleName last e.sampleId (text "_R2.fastq.gz")]

section Files

variable {cfg : Config} {init dir : List Bytes} {last : Bytes} {W W' : Workspace} {e : Entry}
  {t : Bytes × Bytes}

theorem SampleFiles.transfer (h : SampleFiles cfg init dir last W e t) {names : List Bytes}
    (hch : ChangesIn W W' dir names) (hout : ∀ n ∈ sampleNames last e, n ∉ names) :
    SampleFiles cfg init dir last W' e t := by
  have h1 := hout _ (List.mem_cons_self ..)
  have h2 := hout _ (List.mem_cons_of_mem _ (List.mem_singleton_self _))
  exact ⟨h.lands1.of_reaches (hch.reaches h.lands1.reaches),
    h.lands2.of_reaches (hch.reaches h.lands2.reaches), by rw [hch.lookup h1]; exact h.file1,
    by rw [hch.lookup h2]; exact h.file2, h.records1, h.records2⟩

theorem SampleFiles.readText (h : SampleFiles cfg init dir last W e t) :
    readText W (pairPaths (sampleOptions cfg e).output).1 = some t.1 ∧
      readText W (pairPaths (sampleOptions cfg e).output).2 = some t.2 := by
  constructor
  · simpa using @readText_members _ _ [t.1] (by simp)
      (by simpa using openRead_of_file h.lands1 h.file1)
  · simpa using @readText_members _ _ [t.2] (by simp)
      (by simpa using openRead_of_file h.lands2 h.file2)

theorem sampleNames_disjoint {last : Bytes} {e e' : Entry} (h : e.sampleId ≠ e'.sampleId) :
    ∀ n ∈ sampleNames last e, n ∉ sampleNames last e' := by
  obtain ⟨-, -, h1len, h2len, -⟩ := pairSuffixes
  intro n hn hn'
  simp only [sampleNames, List.mem_cons, List.not_mem_nil, or_false] at hn hn'
  rcases hn with rfl | rfl <;> rcases hn' with h' | h' <;>
    exact h (sampleName_inj (by simp [h1len, h2len]) h').1

end Files

/-! ## One sample, then all of them -/

section Synthesis

variable {σ : Type} {src : Source σ} {cfg : Config} {init dir : List Bytes} {last : Bytes}

/-- The synthesis of one sample, started where the leading segments of the output prefix walk
to `dir`: it changes only the sample's two files, which then hold the records of its reads. -/
theorem synthesize_sampleFiles (hsrc : src.InRange) {e : Entry} {s : σ} {w : Workspace}
    {st : Stats} (h : (synthesize src s (sampleOptions cfg e) w).result = .ok st)
    (hsplit : Bytes.splitOn 47 cfg.output = init ++ [last]) (hw : w.Reaches init dir)
    (hid : 47 ∉ e.sampleId)
    (hline : cfg.readLength + e.i7.length + cfg.umiLength + e.i5.length < recordLineLimit) :
    ∃ t, SampleFiles cfg init dir last (synthesize src s (sampleOptions cfg e) w).workspace e t ∧
      ChangesIn w (synthesize src s (sampleOptions cfg e) w).workspace dir
        (sampleNames last e) := by
  obtain ⟨ds, i7s, i5s, w1, w2, w3, hcheck, hlen, hds, hv7, hv5, -, hc1, hc2, hs2, hs1⟩ :=
    synthesize_written hsrc h
  obtain ⟨-, -, hread, -, humi, -, hmis, -⟩ := Options.check_eq_ok hcheck
  obtain ⟨h1slash, h2slash, h1len, h2len, hsuf⟩ := pairSuffixes
  have hn1 : Named (pairPaths (sampleOptions cfg e).output).1 init
      (sampleName last e.sampleId (text "_R1.fastq.gz")) := by
    rw [sampleOptions_paths] at hc1 ⊢
    exact named_sample hsplit hid (fun b hb => (h1slash b hb).1) (by omega)
      (refusal?_eq_none_of_create hc1)
  have hn2 : Named (pairPaths (sampleOptions cfg e).output).2 init
      (sampleName last e.sampleId (text "_R2.fastq.gz")) := by
    rw [sampleOptions_paths] at hc2 ⊢
    exact named_sample hsplit hid (fun b hb => (h2slash b hb).1) (by omega)
      (refusal?_eq_none_of_create hc2)
  have hne : sampleName last e.sampleId (text "_R1.fastq.gz") ≠
      sampleName last e.sampleId (text "_R2.fastq.gz") :=
    fun h => hsuf (sampleName_inj (by rw [h1len, h2len]) h).2
  obtain ⟨hch, hl1, hl2, hshort1, hshort2⟩ := two_files_changes hw hn1 hn2 hne hc1 hc2 hs2 hs1
  have hr := hch.reaches hw
  have hrl : (cfg.readLength.toNat : Int) = cfg.readLength := Int.toNat_of_nonneg (by
    simp only [sampleOptions] at hread; omega)
  have hul : (cfg.umiLength.toNat : Int) = cfg.umiLength := Int.toNat_of_nonneg humi
  have hlt : cfg.readLength.toNat + e.i7.length + cfg.umiLength.toNat + e.i5.length <
      recordLineLimit := by omega
  have h7 := variants_ne_newline hmis hv7
  have h5 := variants_ne_newline hmis hv5
  refine ⟨(fastqText 1 1 (ds.map fun d => (d.insert, d.q1)),
    fastqText 2 1 (ds.map fun d => (d.mate, d.q2))),
    ⟨⟨hn1, hshort1, hr⟩, ⟨hn2, hshort2, hr⟩, hl1, hl2, ?_, ?_⟩, hch⟩
  · refine ⟨_, recordText_fastqText (.inl rfl) 1 fun p hp => ?_, by
      simp [length_fastqRecords, hlen, sampleOptions]⟩
    obtain ⟨d, hd, rfl⟩ := List.mem_map.1 hp
    dsimp only
    have hf := (hds d hd).1
    have hins : d.insert.length = cfg.readLength.toNat := hf.insert_length
    have hq : d.q1.length = cfg.readLength.toNat := hf.q1_length
    exact ⟨fun hm => dnaBases_ne_newline 10 (hf.insert_bases 10 hm) rfl,
      fun hm => qualities_ne_newline 10 (hf.q1_symbols 10 hm) rfl, by omega, by omega⟩
  · refine ⟨_, recordText_fastqText (.inr rfl) 1 fun p hp => ?_, by
      simp [length_fastqRecords, hlen, sampleOptions]⟩
    obtain ⟨d, hd, rfl⟩ := List.mem_map.1 hp
    dsimp only
    obtain ⟨hf, hd7, hd5⟩ := hds d hd
    have hmate : d.mate.length = cfg.readLength.toNat + e.i7.length + cfg.umiLength.toNat +
        e.i5.length := hf.mate_length
    have hnl : 10 ∉ d.mate := by
      simp only [PairDraw.mate, List.mem_append, not_or]
      exact ⟨⟨⟨fun hm => dnaBases_ne_newline 10 (hf.insert_bases 10 hm) rfl,
        fun hm => h7 _ hd7 10 hm rfl⟩, fun hm => dnaBases_ne_newline 10 (hf.umi_bases 10 hm) rfl⟩,
        fun hm => h5 _ hd5 10 hm rfl⟩
    exact ⟨hnl, fun hm => qualities_ne_newline 10 (hf.q2_symbols 10 hm) rfl, by omega,
      by rw [hf.q2_length]; omega⟩

/-- All the samples' syntheses, each started where the one before stopped: they change only
the samples' files, and each sample's files hold afterwards what its synthesis wrote. -/
theorem sampleRuns_files (hsrc : src.InRange)
    (hsplit : Bytes.splitOn 47 cfg.output = init ++ [last]) :
    ∀ (entries : List Entry) (s : σ) (w : Workspace), w.Reaches init dir →
      (∀ e ∈ entries, 47 ∉ e.sampleId ∧
        cfg.readLength + e.i7.length + cfg.umiLength + e.i5.length < recordLineLimit) →
      (entries.map (·.sampleId)).Nodup →
      (∀ r ∈ sampleRuns src cfg entries s w, ∃ st, r.2.result = .ok st) →
      ∃ ts : List (Bytes × Bytes),
        List.Forall₂ (fun r t => SampleFiles cfg init dir last r.2.workspace r.1 t ∧
          SampleFiles cfg init dir last (afterRuns w (sampleRuns src cfg entries s w)) r.1 t)
          (sampleRuns src cfg entries s w) ts ∧
        ChangesIn w (afterRuns w (sampleRuns src cfg entries s w)) dir
          ((sampleRuns src cfg entries s w).flatMap fun r => sampleNames last r.1) := by
  intro entries
  induction entries with
  | nil => exact fun s w _ _ _ _ => ⟨[], .nil, changesIn_self (by simp [sampleRuns])⟩
  | cons e rest ih =>
    intro s w hw hent hnd hok
    have hrest : ∀ e' ∈ rest, 47 ∉ e'.sampleId ∧
        cfg.readLength + e'.i7.length + cfg.umiLength + e'.i5.length < recordLineLimit :=
      fun e' he' => hent e' (List.mem_cons_of_mem e he')
    rw [List.map_cons, List.nodup_cons] at hnd
    by_cases hz : cfg.readsFor e = 0
    · have hruns : sampleRuns src cfg (e :: rest) s w = sampleRuns src cfg rest s w := by
        rw [sampleRuns, if_pos hz]
      rw [hruns] at hok ⊢
      exact ih s w hw hrest hnd.2 hok
    · let out := synthesize src s (sampleOptions cfg e) w
      have hruns : sampleRuns src cfg (e :: rest) s w =
          (e, out) :: sampleRuns src cfg rest out.state out.workspace := by
        rw [sampleRuns, if_neg hz]
      rw [hruns] at hok ⊢
      obtain ⟨st, hst⟩ := hok _ (List.mem_cons_self ..)
      have he := hent e (List.mem_cons_self ..)
      obtain ⟨t, hfiles, hch⟩ := synthesize_sampleFiles hsrc hst hsplit hw he.1 he.2
      obtain ⟨ts, hall, hch'⟩ := ih out.state out.workspace (hch.reaches hw) hrest hnd.2
        fun r hr => hok r (List.mem_cons_of_mem _ hr)
      -- the later samples have other ids, so they leave this sample's files alone
      have hout : ∀ n ∈ sampleNames last e, n ∉ (sampleRuns src cfg rest out.state
          out.workspace).flatMap fun r => sampleNames last r.1 := by
        intro n hn hmem
        obtain ⟨r, hr, hnr⟩ := List.mem_flatMap.1 hmem
        have hid : e.sampleId ≠ r.1.sampleId := fun h =>
          hnd.1 (h ▸ List.mem_map_of_mem (mem_sampleRuns hr).1)
        exact sampleNames_disjoint hid n hn hnr
      refine ⟨t :: ts, .cons ⟨hfiles, hfiles.transfer hch' hout⟩ hall, ?_⟩
      rw [List.flatMap_cons]
      exact hch.trans hch'

end Synthesis

/-! ## Pooling -/

theorem Config.check_eq_ok {c : Config} (h : c.check = .ok ()) :
    c.output ≠ [] ∧ 1 ≤ c.readLength ∧ 0 ≤ c.umiLength ∧ 0 ≤ c.mismatches ∧ 0 ≤ c.reads := by
  unfold Config.check at h
  split at h
  · cases h
  split at h
  · cases h
  rename_i hout
  split at h
  · cases h
  rename_i hlen
  split at h
  · cases h
  rename_i humi
  split at h
  · cases h
  rename_i hmis
  split at h
  · cases h
  rename_i hreads
  simp only [List.isEmpty_iff, Bool.or_eq_true, decide_eq_true_eq, not_or, Int.not_lt] at *
  exact ⟨hout, hlen, humi.1, hmis.1, hreads⟩

section Pool

variable {cfg : Config} {init dir : List Bytes} {last : Bytes}

/-- The pooled files of an output prefix that can be created and are no links to the device:
both land in one directory, where neither is a directory or such a link. -/
theorem pooled_lands (hsplit : Bytes.splitOn 47 cfg.output = init ++ [last]) {w : Workspace}
    (hpool : ∀ p ∈ [(pairPaths cfg.output).1, (pairPaths cfg.output).2],
      (∃ w', w.create p = .ok w') ∧ ∀ cs, w.find p ≠ .ok (cs, .entry .fullDevice)) :
    ∃ dir, Lands w (pairPaths cfg.output).1 init dir (last ++ text "_R1.fastq.gz") ∧
      Lands w (pairPaths cfg.output).2 init dir (last ++ text "_R2.fastq.gz") ∧
      ∀ n ∈ [last ++ text "_R1.fastq.gz", last ++ text "_R2.fastq.gz"],
        w.lookup (dir ++ [n]) ≠ some .dir ∧ w.lookup (dir ++ [n]) ≠ some .fullDevice := by
  obtain ⟨h1slash, h2slash, h1len, h2len, -⟩ := pairSuffixes
  obtain ⟨⟨w1, hc1⟩, hdev1⟩ := hpool _ (List.mem_cons_self ..)
  obtain ⟨⟨w2, hc2⟩, hdev2⟩ := hpool _ (List.mem_cons_of_mem _ (List.mem_singleton_self _))
  have hn1 := named_append (fun b hb => (h1slash b hb).1) (by omega)
    (refusal?_eq_none_of_create hc1) hsplit
  have hn2 := named_append (fun b hb => (h2slash b hb).1) (by omega)
    (refusal?_eq_none_of_create hc2) hsplit
  obtain ⟨dir, hl1⟩ := lands_of_create hn1 hc1
  obtain ⟨dir', hl2⟩ := lands_of_create hn2 hc2
  obtain rfl : dir = dir' := hl1.reaches.unique hl2.reaches
  -- a pooled file is no directory, since it can be created, and no link by assumption
  have hfile : ∀ {p n} {w' : Workspace}, Lands w p init dir n → w.create p = .ok w' →
      (∀ cs, w.find p ≠ .ok (cs, .entry .fullDevice)) →
      w.lookup (dir ++ [n]) ≠ some .dir ∧ w.lookup (dir ++ [n]) ≠ some .fullDevice :=
    fun hl hc hdev => ⟨(create_eq_ok_of_lands hl hc).1, fun hd =>
      hdev (dir ++ [_]) (by rw [find_of_lands hl, stepInto, hd])⟩
  refine ⟨dir, hl1, hl2, fun n hn => ?_⟩
  simp only [List.mem_cons, List.not_mem_nil, or_false] at hn
  rcases hn with rfl | rfl
  · exact hfile hl1 hc1 hdev1
  · exact hfile hl2 hc2 hdev2

theorem sampleNames_not_pooled {e : Entry} {suffix : Bytes} (hlen : suffix.length = 12) :
    ∀ n ∈ sampleNames last e, n ∉ [last ++ suffix] := by
  obtain ⟨-, -, h1len, h2len, -⟩ := pairSuffixes
  intro n hn hmem
  rw [List.mem_singleton] at hmem
  simp only [sampleNames, List.mem_cons, List.not_mem_nil, or_false] at hn
  rcases hn with rfl | rfl
  · exact sampleName_ne_pooled (by rw [h1len, hlen]) hmem
  · exact sampleName_ne_pooled (by rw [h2len, hlen]) hmem

variable {σ : Type} {W : Workspace} {runs : List (Entry × Outcome σ)} {ts : List (Bytes × Bytes)}

theorem pooled_not_sampleNames :
    ∀ n ∈ [last ++ text "_R1.fastq.gz", last ++ text "_R2.fastq.gz"],
      n ∉ runs.flatMap fun r => sampleNames last r.1 := by
  obtain ⟨-, -, h1len, h2len, -⟩ := pairSuffixes
  intro n hn hmem
  obtain ⟨r, -, hnr⟩ := List.mem_flatMap.1 hmem
  simp only [List.mem_cons, List.not_mem_nil, or_false] at hn
  rcases hn with rfl | rfl
  · exact sampleNames_not_pooled h1len _ hnr (List.mem_singleton_self _)
  · exact sampleNames_not_pooled h2len _ hnr (List.mem_singleton_self _)

/-- Pooling the samples' files: those of the second mates, then those of the first, each
concatenated into the pooled file of its mate. Both succeed; each pooled file holds the
samples' members of its mate in sheet order, and nothing else changes. -/
theorem pool_files
    (hfiles : List.Forall₂ (fun r t => SampleFiles cfg init dir last W r.1 t) runs ts)
    (hl1 : Lands W (pairPaths cfg.output).1 init dir (last ++ text "_R1.fastq.gz"))
    (hl2 : Lands W (pairPaths cfg.output).2 init dir (last ++ text "_R2.fastq.gz"))
    (hfree : ∀ n ∈ [last ++ text "_R1.fastq.gz", last ++ text "_R2.fastq.gz"],
      W.lookup (dir ++ [n]) ≠ some .dir ∧ W.lookup (dir ++ [n]) ≠ some .fullDevice) :
    ∃ W2 W3, concat W (pairPaths cfg.output).2
        (runs.map fun r => (pairPaths (sampleOptions cfg r.1).output).2) = (.ok (), W2) ∧
      concat W2 (pairPaths cfg.output).1
        (runs.map fun r => (pairPaths (sampleOptions cfg r.1).output).1) = (.ok (), W3) ∧
      ChangesIn W W3 dir [last ++ text "_R2.fastq.gz", last ++ text "_R1.fastq.gz"] ∧
      W3.lookup (dir ++ [last ++ text "_R1.fastq.gz"]) =
        some (.file ((ts.map (·.1)).flatMap Gzip.gzipMember)) ∧
      W3.lookup (dir ++ [last ++ text "_R2.fastq.gz"]) =
        some (.file ((ts.map (·.2)).flatMap Gzip.gzipMember)) := by
  obtain ⟨-, -, h1len, h2len, hsuf⟩ := pairSuffixes
  have hne : last ++ text "_R1.fastq.gz" ≠ last ++ text "_R2.fastq.gz" := by simpa using hsuf
  obtain ⟨hfree1, hdev1⟩ := hfree _ (List.mem_cons_self ..)
  obtain ⟨hfree2, hdev2⟩ := hfree _ (List.mem_cons_of_mem _ (List.mem_singleton_self _))
  have hsrc2 : List.Forall₂ (fun p c => ∃ n, n ≠ last ++ text "_R2.fastq.gz" ∧
      Lands W p init dir n ∧ W.lookup (dir ++ [n]) = some (.file c))
      (runs.map fun r => (pairPaths (sampleOptions cfg r.1).output).2)
      (ts.map fun t => Gzip.gzipMember t.2) := by
    rw [List.forall₂_map_left_iff, List.forall₂_map_right_iff]
    exact hfiles.imp fun r t h => ⟨_, sampleName_ne_pooled (by simp [h2len]), h.lands2, h.file2⟩
  obtain ⟨W2, hc2, hch2, hp2⟩ := concat_files hl2 hfree2 hdev2 hsrc2
  have hfiles2 := hfiles.imp fun r t h => h.transfer hch2 (sampleNames_not_pooled h2len)
  have hl1' : W2.lookup (dir ++ [last ++ text "_R1.fastq.gz"]) =
      W.lookup (dir ++ [last ++ text "_R1.fastq.gz"]) := hch2.lookup (by simpa using hne)
  have hsrc1 : List.Forall₂ (fun p c => ∃ n, n ≠ last ++ text "_R1.fastq.gz" ∧
      Lands W2 p init dir n ∧ W2.lookup (dir ++ [n]) = some (.file c))
      (runs.map fun r => (pairPaths (sampleOptions cfg r.1).output).1)
      (ts.map fun t => Gzip.gzipMember t.1) := by
    rw [List.forall₂_map_left_iff, List.forall₂_map_right_iff]
    exact hfiles2.imp fun r t h => ⟨_, sampleName_ne_pooled (by simp [h1len]), h.lands1, h.file1⟩
  obtain ⟨W3, hc1, hch3, hp1⟩ := concat_files (hl1.of_reaches (hch2.reaches hl1.reaches))
    (hl1' ▸ hfree1) (hl1' ▸ hdev1) hsrc1
  refine ⟨W2, W3, hc2, hc1, hch2.trans hch3, by rw [hp1, List.flatMap_def, List.map_map]; rfl, ?_⟩
  rw [hch3.lookup (by simpa using Ne.symm hne), hp2, List.flatMap_def, List.map_map]
  rfl

theorem SampleFiles.of_forall₂
    (hfiles : List.Forall₂ (fun r t => SampleFiles cfg init dir last W r.1 t) runs ts) :
    ∀ r ∈ runs, ∃ t, SampleFiles cfg init dir last W r.1 t := by
  induction hfiles with
  | nil => simp
  | cons h _ ih =>
    intro r hr
    rcases List.mem_cons.1 hr with rfl | hr
    · exact ⟨_, h⟩
    · exact ih r hr

/-- The check of the pooled files' counts passes: each holds as many records as the samples'
read counts add up to. -/
theorem checkCounts_pooled
    (hfiles : List.Forall₂ (fun r t => SampleFiles cfg init dir last W r.1 t) runs ts)
    (hpos : ∀ r ∈ runs, 0 < cfg.readsFor r.1) (hne : runs ≠ []) {W3 : Workspace}
    (hl1 : Lands W3 (pairPaths cfg.output).1 init dir (last ++ text "_R1.fastq.gz"))
    (hl2 : Lands W3 (pairPaths cfg.output).2 init dir (last ++ text "_R2.fastq.gz"))
    (hplain : ∀ p ∈ [(pairPaths cfg.output).1, (pairPaths cfg.output).2],
      specialPathFault? p = none)
    (hp1 : W3.lookup (dir ++ [last ++ text "_R1.fastq.gz"]) =
      some (.file ((ts.map (·.1)).flatMap Gzip.gzipMember)))
    (hp2 : W3.lookup (dir ++ [last ++ text "_R2.fastq.gz"]) =
      some (.file ((ts.map (·.2)).flatMap Gzip.gzipMember))) :
    checkCounts W3 ((runs.map fun r => (cfg.readsFor r.1).toNat).sum : Int)
      [(pairPaths cfg.output).1, (pairPaths cfg.output).2] = .ok () := by
  obtain ⟨recs1, hrt1, hlen1⟩ : ∃ recs, RecordText (ts.map (·.1)).flatten recs ∧
      recs.length = (runs.map fun r => (cfg.readsFor r.1).toNat).sum := by
    apply recordText_flatten
    rw [List.forall₂_map_left_iff, List.forall₂_map_right_iff]
    exact List.Forall₂.flip (hfiles.imp fun r t h => h.records1)
  obtain ⟨recs2, hrt2, hlen2⟩ : ∃ recs, RecordText (ts.map (·.2)).flatten recs ∧
      recs.length = (runs.map fun r => (cfg.readsFor r.1).toNat).sum := by
    apply recordText_flatten
    rw [List.forall₂_map_left_iff, List.forall₂_map_right_iff]
    exact List.Forall₂.flip (hfiles.imp fun r t h => h.records2)
  have hsum : 0 < (runs.map fun r => (cfg.readsFor r.1).toNat).sum := by
    obtain ⟨r, rest, rfl⟩ := List.exists_cons_of_ne_nil hne
    have := hpos r (List.mem_cons_self ..)
    simp only [List.map_cons, List.sum_cons]
    omega
  have hts : ts ≠ [] := fun h => hne (List.eq_nil_of_length_eq_zero (by
    rw [hfiles.length_eq, h, List.length_nil]))
  have hc1 := countRecords_members hl1 (hplain _ (List.mem_cons_self ..)) (by simpa using hts) hp1
    (List.ne_nil_of_length_pos (by omega)) hrt1
  have hc2 := countRecords_members hl2
    (hplain _ (List.mem_cons_of_mem _ (List.mem_singleton_self _)))
    (by simpa using hts) hp2 (List.ne_nil_of_length_pos (by omega)) hrt2
  simp [checkCounts, hc1, hc2, hlen1, hlen2]

/-- Removing the samples' files, the first mates' and then the second mates': all succeed,
and only those files go. -/
theorem removeAll_samples
    (hfiles : List.Forall₂ (fun r t => SampleFiles cfg init dir last W r.1 t) runs ts)
    (hids : (runs.map (·.1.sampleId)).Nodup) :
    ∃ W', removeAll W (runs.map (fun r => (pairPaths (sampleOptions cfg r.1).output).1) ++
        runs.map (fun r => (pairPaths (sampleOptions cfg r.1).output).2)) = (none, W') ∧
      ChangesIn W W' dir (runs.flatMap fun r => sampleNames last r.1) ∧
      ∀ r ∈ runs, ∀ n ∈ sampleNames last r.1, W'.lookup (dir ++ [n]) = none := by
  obtain ⟨-, -, h1len, h2len, hsuf⟩ := pairSuffixes
  have hmem := SampleFiles.of_forall₂ hfiles
  let names := runs.map (fun r => sampleName last r.1.sampleId (text "_R1.fastq.gz")) ++
    runs.map (fun r => sampleName last r.1.sampleId (text "_R2.fastq.gz"))
  have hnames : ∀ n, n ∈ names ↔ n ∈ runs.flatMap fun r => sampleNames last r.1 := fun n => by
    simp only [names, sampleNames, List.mem_append, List.mem_map, List.mem_flatMap, List.mem_cons,
      List.not_mem_nil, or_false]
    constructor
    · rintro (⟨r, hr, rfl⟩ | ⟨r, hr, rfl⟩)
      · exact ⟨r, hr, .inl rfl⟩
      · exact ⟨r, hr, .inr rfl⟩
    · rintro ⟨r, hr, rfl | rfl⟩
      · exact .inl ⟨r, hr, rfl⟩
      · exact .inr ⟨r, hr, rfl⟩
  -- distinct ids give distinct names, and the two mates' names never meet
  have hnd : names.Nodup := by
    have hinj : ∀ suffix : Bytes, Function.Injective fun id => sampleName last id suffix :=
      fun _ _ _ h => (sampleName_inj rfl h).1
    refine List.nodup_append.2 ⟨?_, ?_, ?_⟩
    · have := hids.map (hinj (text "_R1.fastq.gz"))
      rw [List.map_map] at this
      exact this
    · have := hids.map (hinj (text "_R2.fastq.gz"))
      rw [List.map_map] at this
      exact this
    · simp only [List.mem_map]
      rintro _ ⟨r, -, rfl⟩ _ ⟨r', -, rfl⟩ h
      exact hsuf (sampleName_inj (by rw [h1len, h2len]) h).2
  have hps : List.Forall₂ (fun p n => Lands W p init dir n)
      (runs.map (fun r => (pairPaths (sampleOptions cfg r.1).output).1) ++
        runs.map (fun r => (pairPaths (sampleOptions cfg r.1).output).2)) names := by
    refine List.rel_append ?_ ?_ <;>
      rw [List.forall₂_map_left_iff, List.forall₂_map_right_iff, List.forall₂_same] <;>
      intro r hr <;> obtain ⟨t, h⟩ := hmem r hr
    · exact h.lands1
    · exact h.lands2
  have hexist : ∀ n ∈ names, ∃ c, W.lookup (dir ++ [n]) = some (.file c) := by
    intro n hn
    rcases List.mem_append.1 hn with hn | hn <;> obtain ⟨r, hr, rfl⟩ := List.mem_map.1 hn <;>
      obtain ⟨t, h⟩ := hmem r hr
    · exact ⟨_, h.file1⟩
    · exact ⟨_, h.file2⟩
  obtain ⟨W', hrun, hch, hgone⟩ := removeAll_files hnd hps hexist
  refine ⟨W', hrun, hch.congr hnames, fun r hr n hn => hgone n ((hnames n).2 ?_)⟩
  exact List.mem_flatMap.2 ⟨r, hr, hn⟩

/-- Everything a run does after the samples are written: pooling, the count check and the
removal all succeed; before and after the removal both pooled files read as the samples' texts
of their mate in order; the samples' files are there before the removal and gone after it. -/
theorem pool_stage
    (hfiles : List.Forall₂ (fun r t => SampleFiles cfg init dir last W r.1 t) runs ts)
    (hids : (runs.map (·.1.sampleId)).Nodup) (hpos : ∀ r ∈ runs, 0 < cfg.readsFor r.1)
    (hne : runs ≠ [])
    (hl1 : Lands W (pairPaths cfg.output).1 init dir (last ++ text "_R1.fastq.gz"))
    (hl2 : Lands W (pairPaths cfg.output).2 init dir (last ++ text "_R2.fastq.gz"))
    (hfree : ∀ n ∈ [last ++ text "_R1.fastq.gz", last ++ text "_R2.fastq.gz"],
      W.lookup (dir ++ [n]) ≠ some .dir ∧ W.lookup (dir ++ [n]) ≠ some .fullDevice)
    (hplain : ∀ p ∈ [(pairPaths cfg.output).1, (pairPaths cfg.output).2],
      specialPathFault? p = none) :
    ∃ W2 W3 W4,
      concat W (pairPaths cfg.output).2
        (runs.map fun r => (pairPaths (sampleOptions cfg r.1).output).2) = (.ok (), W2) ∧
      concat W2 (pairPaths cfg.output).1
        (runs.map fun r => (pairPaths (sampleOptions cfg r.1).output).1) = (.ok (), W3) ∧
      checkCounts W3 ((runs.map fun r => (cfg.readsFor r.1).toNat).sum : Int)
        [(pairPaths cfg.output).1, (pairPaths cfg.output).2] = .ok () ∧
      removeAll W3 (runs.map (fun r => (pairPaths (sampleOptions cfg r.1).output).1) ++
        runs.map (fun r => (pairPaths (sampleOptions cfg r.1).output).2)) = (none, W4) ∧
      (∀ Wf ∈ [W3, W4], readText Wf (pairPaths cfg.output).1 = some (ts.map (·.1)).flatten ∧
        readText Wf (pairPaths cfg.output).2 = some (ts.map (·.2)).flatten) ∧
      ∀ r ∈ runs, ∀ p ∈ [(pairPaths (sampleOptions cfg r.1).output).1,
          (pairPaths (sampleOptions cfg r.1).output).2],
        (∃ c, W3.openRead p = .ok (.contents c)) ∧ ¬∃ c, W4.openRead p = .ok (.contents c) := by
  obtain ⟨-, -, h1len, h2len, -⟩ := pairSuffixes
  obtain ⟨W2, W3, hc2, hc1, hch3, hp1, hp2⟩ := pool_files hfiles hl1 hl2 hfree
  have hr3 := hch3.reaches hl1.reaches
  have hcounts := checkCounts_pooled hfiles hpos hne (hl1.of_reaches hr3) (hl2.of_reaches hr3)
    hplain hp1 hp2
  have hfiles3 := hfiles.imp fun r t h => h.transfer hch3 fun n hn hmem => by
    rcases List.mem_cons.1 hmem with h | h
    · exact sampleNames_not_pooled h2len n hn (List.mem_singleton.2 h)
    · exact sampleNames_not_pooled h1len n hn h
  obtain ⟨W4, hrm, hch4, hgone⟩ := removeAll_samples hfiles3 hids
  have hr4 := hch4.reaches hr3
  have hts : ts ≠ [] := fun h => hne (List.eq_nil_of_length_eq_zero (by
    rw [hfiles.length_eq, h, List.length_nil]))
  refine ⟨W2, W3, W4, hc2, hc1, hcounts, hrm, fun Wf hWf => ?_, fun r hr p hp => ?_⟩
  · -- removal changed the samples' files only, so the pooled files are as pooling left them
    obtain ⟨hrf, he1, he2⟩ : Wf.Reaches init dir ∧
        Wf.lookup (dir ++ [last ++ text "_R1.fastq.gz"]) =
          W3.lookup (dir ++ [last ++ text "_R1.fastq.gz"]) ∧
        Wf.lookup (dir ++ [last ++ text "_R2.fastq.gz"]) =
          W3.lookup (dir ++ [last ++ text "_R2.fastq.gz"]) := by
      simp only [List.mem_cons, List.not_mem_nil, or_false] at hWf
      rcases hWf with rfl | rfl
      · exact ⟨hr3, rfl, rfl⟩
      · exact ⟨hr4, hch4.lookup (pooled_not_sampleNames _ (List.mem_cons_self ..)),
          hch4.lookup
            (pooled_not_sampleNames _ (List.mem_cons_of_mem _ (List.mem_singleton_self _)))⟩
    exact ⟨readText_members (by simpa using hts)
        (openRead_of_file (hl1.of_reaches hrf) (by rw [he1, hp1])),
      readText_members (by simpa using hts)
        (openRead_of_file (hl2.of_reaches hrf) (by rw [he2, hp2]))⟩
  · obtain ⟨t, hf⟩ := SampleFiles.of_forall₂ hfiles3 r hr
    simp only [List.mem_cons, List.not_mem_nil, or_false] at hp
    rcases hp with rfl | rfl
    · refine ⟨⟨_, openRead_of_file hf.lands1 hf.file1⟩, fun ⟨c, hc⟩ => ?_⟩
      rw [openRead_of_dropped (hf.lands1.of_reaches hr4) (hgone r hr _ (List.mem_cons_self ..))]
        at hc
      cases hc
    · refine ⟨⟨_, openRead_of_file hf.lands2 hf.file2⟩, fun ⟨c, hc⟩ => ?_⟩
      rw [openRead_of_dropped (hf.lands2.of_reaches hr4)
        (hgone r hr _ (List.mem_cons_of_mem _ (List.mem_singleton_self _)))] at hc
      cases hc

end Pool

/-! ## The whole run -/

theorem specialPathFault?_append {output : Bytes} (hne : output ≠ [])
    (hplain : output.head? ≠ some 124 ∧ output.head? ≠ some 126) (suffix : Bytes) :
    specialPathFault? (output ++ suffix) = none := by
  obtain ⟨b, rest, rfl⟩ := List.exists_cons_of_ne_nil hne
  simp only [List.head?_cons, ne_eq, Option.some.injEq] at hplain
  unfold specialPathFault?
  split
  · next h => simp at h; exact absurd h.1 hplain.1
  · next h => simp at h; exact absurd h.1 hplain.2
  · rfl

theorem sum_readsFor_filter (cfg : Config) (entries : List Entry) :
    ((entries.filter fun e => cfg.readsFor e ≠ 0).map cfg.readsFor).sum =
      (entries.map cfg.readsFor).sum := by
  induction entries with
  | nil => rfl
  | cons e rest ih =>
    rw [List.filter_cons]
    by_cases hz : cfg.readsFor e = 0
    · simp only [hz, ne_eq, not_true_eq_false, decide_false, Bool.false_eq_true, if_false, ih,
        List.map_cons, List.sum_cons, zero_add]
    · simp only [hz, ne_eq, not_false_eq_true, decide_true, if_true, List.map_cons,
        List.sum_cons, ih]

theorem cast_sum_toNat {xs : List Int} (h : ∀ x ∈ xs, 0 ≤ x) :
    ((xs.map Int.toNat).sum : Int) = xs.sum := by
  induction xs with
  | nil => rfl
  | cons x xs ih =>
    have hx := h x (List.mem_cons_self ..)
    simp only [List.map_cons, List.sum_cons, Nat.cast_add,
      ih fun y hy => h y (List.mem_cons_of_mem x hy), Int.toNat_of_nonneg hx]

theorem readsFor_nonneg {cfg : Config} {w : Workspace} {entries : List Entry}
    (hcfg : cfg.check = .ok ()) (hsheet : readSheet w cfg.sampleSheet = .ok entries) :
    ∀ e ∈ entries, 0 ≤ cfg.readsFor e := by
  obtain ⟨-, hnonneg⟩ := readSheet_rows hsheet
  obtain ⟨-, -, -, -, hcreads⟩ := Config.check_eq_ok hcfg
  intro e he
  unfold Config.readsFor
  split
  · omega
  · exact hnonneg e he

section Totals

variable {σ : Type} {src : Source σ} {cfg : Config} {entries : List Entry} {s : σ} {w : Workspace}

theorem sampleRuns_positive (hnn : ∀ e ∈ entries, 0 ≤ cfg.readsFor e) :
    (sampleRuns src cfg entries s w).map (·.1) = entries.filter fun e => 0 < cfg.readsFor e := by
  rw [sampleRuns_entries]
  refine List.filter_congr fun e he => ?_
  have := hnn e he
  simp only [ne_eq, decide_eq_decide]
  omega

/-- The runs over an accepted sheet under a checked configuration: those of the samples with
reads, in sheet order, each with a positive count and an id of its own. -/
theorem sampleRuns_ne_nil (hnn : ∀ e ∈ entries, 0 ≤ cfg.readsFor e)
    (hsome : ∃ e ∈ entries, 0 < cfg.readsFor e) : sampleRuns src cfg entries s w ≠ [] := by
  obtain ⟨e, he, hpe⟩ := hsome
  intro h
  have hmem : e ∈ (sampleRuns src cfg entries s w).map (·.1) := by
    rw [sampleRuns_positive hnn]
    exact List.mem_filter.2 ⟨he, by simpa using hpe⟩
  rw [h] at hmem
  cases hmem

theorem sampleRuns_of_sheet {w' : Workspace} (hcfg : cfg.check = .ok ())
    (hsheet : readSheet w' cfg.sampleSheet = .ok entries) :
    (sampleRuns src cfg entries s w).map (·.1) = entries.filter (fun e => 0 < cfg.readsFor e) ∧
      (∀ r ∈ sampleRuns src cfg entries s w, 0 < cfg.readsFor r.1) ∧
      ((sampleRuns src cfg entries s w).map (·.1.sampleId)).Nodup := by
  have hfor := readsFor_nonneg hcfg hsheet
  have hruns := @sampleRuns_positive _ src cfg entries s w hfor
  refine ⟨hruns, fun r hr => ?_, ?_⟩
  · have hr' := mem_sampleRuns hr
    have := hfor _ hr'.1
    omega
  · have : (sampleRuns src cfg entries s w).map (·.1.sampleId) =
        ((sampleRuns src cfg entries s w).map (·.1)).map (·.sampleId) := by
      rw [List.map_map]
      rfl
    rw [this, hruns]
    exact List.Nodup.sublist ((List.filter_sublist ..).map _) (readSheet_rows hsheet).1

/-- The read total of the runs, added up as the run adds it and as the pooled files count it,
is that of the sheet: the samples left out have none, and the total stays in range. -/
theorem sampleRuns_total (hnn : ∀ e ∈ entries, 0 ≤ cfg.readsFor e)
    (hsum : (entries.map cfg.readsFor).sum ≤ 2 ^ 63 - 1) :
    ((sampleRuns src cfg entries s w).map fun r => cfg.readsFor r.1).foldl addReads 0 =
        (entries.map cfg.readsFor).sum ∧
      (((sampleRuns src cfg entries s w).map fun r => (cfg.readsFor r.1).toNat).sum : Int) =
        (entries.map cfg.readsFor).sum := by
  have hnnruns : ∀ x ∈ (sampleRuns src cfg entries s w).map fun r => cfg.readsFor r.1, 0 ≤ x := by
    intro x hx
    obtain ⟨r, hr, rfl⟩ := List.mem_map.1 hx
    exact hnn _ (mem_sampleRuns hr).1
  have hsumruns : ((sampleRuns src cfg entries s w).map fun r => cfg.readsFor r.1).sum =
      (entries.map cfg.readsFor).sum := by
    rw [← sum_readsFor_filter, ← sampleRuns_entries, List.map_map]
    rfl
  refine ⟨?_, ?_⟩
  · rw [foldl_addReads hnnruns le_rfl (by omega), zero_add, hsumruns]
  · rw [← hsumruns, ← cast_sum_toNat hnnruns, List.map_map]
    rfl

end Totals

/-- A run whose stages all succeed: the summary of what was generated, and the files as pooling
left them, or as removing the samples' files left them. -/
theorem runPool_eq_ok {cfg : Config} {env : RunEnv} {w : Workspace} {entries : List Entry}
    (hcfg : cfg.check = .ok ()) (hseed : cfg.seed ≠ 0)
    (hsheet : readSheet w cfg.sampleSheet = .ok entries) (hne : entries ≠ [])
    (hcoll : cfg.checkCollisions = true → checkCollisions entries cfg.mismatches = some (.ok ()))
    {g : Generated} {W W2 W3 W4 : Workspace}
    (hgen : generateSamples Additive.source cfg env entries (Additive.seeded cfg.seed)
      ⟨[], [], 0, [], 0, []⟩ w = (g, none, W))
    (hsamples : g.samples ≠ 0)
    (hc2 : concat W (pairPaths cfg.output).2 g.r2s = (.ok (), W2))
    (hc1 : concat W2 (pairPaths cfg.output).1 g.r1s = (.ok (), W3))
    (hcounts : checkCounts W3 g.reads [(pairPaths cfg.output).1, (pairPaths cfg.output).2] = .ok ())
    (hrm : removeAll W3 (g.r1s ++ g.r2s) = (none, W4)) :
    (runPool cfg env w).result = .ok ⟨env.runId, g.samples, g.skipped, g.reads,
        (pairPaths cfg.output).1, (pairPaths cfg.output).2⟩ ∧
      (runPool cfg env w).workspace = if cfg.keepIntermediates then W3 else W4 := by
  have hcollisions : (if cfg.checkCollisions then checkCollisions entries cfg.mismatches
      else some (.ok ())) = some (.ok ()) := by
    split
    · exact hcoll ‹_›
    · rfl
  unfold runPool
  simp only [hcfg, hsheet, List.isEmpty_eq_false_iff.2 hne, Bool.false_eq_true, if_false,
    hcollisions, beq_iff_eq, hseed, hgen, hsamples, hc2, hc1, hcounts, hrm]
  split <;> simp

/-- A run over a sheet that is accepted, with samples whose files the output prefix names in one
directory and whose syntheses succeed, pools them: it succeeds with the count, skipped ids and
read total of the sheet; each pooled file reads as the texts of its mate that the samples'
syntheses wrote, in sheet order, from the one seeded source; and the samples' files remain
exactly when they are to be kept. -/
theorem runPool_pools {cfg : Config} {env : RunEnv} {w : Workspace} {entries : List Entry}
    (hcfg : cfg.check = .ok ()) (hseed : cfg.seed ≠ 0) (hcancel : env.cancelled = false)
    (hsheet : readSheet w cfg.sampleSheet = .ok entries)
    (hcoll : cfg.checkCollisions = true → checkCollisions entries cfg.mismatches = some (.ok ()))
    (hsome : ∃ e ∈ entries, 0 < cfg.readsFor e) (hid : ∀ e ∈ entries, 47 ∉ e.sampleId)
    (hplain : cfg.output.head? ≠ some 124 ∧ cfg.output.head? ≠ some 126)
    (hsum : (entries.map cfg.readsFor).sum ≤ 2 ^ 63 - 1)
    (hline : ∀ e ∈ entries,
      cfg.readLength + e.i7.length + cfg.umiLength + e.i5.length < recordLineLimit)
    (hsynth : ∀ r ∈ sampleRuns Additive.source cfg entries (Additive.seeded cfg.seed) w,
      ∃ st, r.2.result = .ok st)
    (hpool : ∀ p ∈ [(pairPaths cfg.output).1, (pairPaths cfg.output).2],
      (∃ w', w.create p = .ok w') ∧ ∀ cs, w.find p ≠ .ok (cs, .entry .fullDevice)) :
    let runs := sampleRuns Additive.source cfg entries (Additive.seeded cfg.seed) w
    let out := runPool cfg env w
    runs.map (·.1) = entries.filter (fun e => 0 < cfg.readsFor e) ∧
    out.result = .ok ⟨env.runId, (entries.filter fun e => 0 < cfg.readsFor e).length,
      (entries.filter fun e => cfg.readsFor e = 0).map (·.sampleId),
      (entries.map cfg.readsFor).sum, (pairPaths cfg.output).1, (pairPaths cfg.output).2⟩ ∧
    (∃ t1s t2s : List Bytes,
      List.Forall₂ (fun r t =>
        readText r.2.workspace (pairPaths (sampleOptions cfg r.1).output).1 = some t) runs t1s ∧
      List.Forall₂ (fun r t =>
        readText r.2.workspace (pairPaths (sampleOptions cfg r.1).output).2 = some t) runs t2s ∧
      readText out.workspace (pairPaths cfg.output).1 = some t1s.flatten ∧
      readText out.workspace (pairPaths cfg.output).2 = some t2s.flatten) ∧
    ∀ e ∈ entries, 0 < cfg.readsFor e →
      ∀ p ∈ [(pairPaths (sampleOptions cfg e).output).1,
          (pairPaths (sampleOptions cfg e).output).2],
        (∃ c, out.workspace.openRead p = .ok (.contents c)) ↔ cfg.keepIntermediates = true := by
  intro runs out
  have hfor := readsFor_nonneg hcfg hsheet
  obtain ⟨hruns, hpos, hids⟩ : runs.map (·.1) = entries.filter (fun e => 0 < cfg.readsFor e) ∧
      (∀ r ∈ runs, 0 < cfg.readsFor r.1) ∧ (runs.map (·.1.sampleId)).Nodup :=
    sampleRuns_of_sheet hcfg hsheet
  have hne : runs ≠ [] := sampleRuns_ne_nil hfor hsome
  obtain ⟨htotal, hcast⟩ :=
    @sampleRuns_total _ Additive.source cfg entries (Additive.seeded cfg.seed) w hfor hsum
  obtain ⟨init, last, hsplit⟩ := splitOn_eq_concat cfg.output
  obtain ⟨dir, hl1, hl2, hfree⟩ := pooled_lands hsplit hpool
  obtain ⟨ts, hall, hch⟩ : ∃ ts : List (Bytes × Bytes),
      List.Forall₂ (fun r t => SampleFiles cfg init dir last r.2.workspace r.1 t ∧
        SampleFiles cfg init dir last (afterRuns w runs) r.1 t) runs ts ∧
      ChangesIn w (afterRuns w runs) dir (runs.flatMap fun r => sampleNames last r.1) :=
    sampleRuns_files additive_inRange hsplit entries _ w hl1.reaches
      (fun e he => ⟨hid e he, hline e he⟩) (readSheet_rows hsheet).1 hsynth
  have hfreeW : ∀ n ∈ [last ++ text "_R1.fastq.gz", last ++ text "_R2.fastq.gz"],
      (afterRuns w runs).lookup (dir ++ [n]) ≠ some .dir ∧
        (afterRuns w runs).lookup (dir ++ [n]) ≠ some .fullDevice := fun n hn => by
    rw [hch.lookup (pooled_not_sampleNames n hn)]
    exact hfree n hn
  have hrW := hch.reaches hl1.reaches
  have hspecial : ∀ p ∈ [(pairPaths cfg.output).1, (pairPaths cfg.output).2],
      specialPathFault? p = none := by
    obtain ⟨hout, -⟩ := Config.check_eq_ok hcfg
    intro p hp
    simp only [List.mem_cons, List.not_mem_nil, or_false] at hp
    rcases hp with rfl | rfl <;> exact specialPathFault?_append hout hplain _
  obtain ⟨W2, W3, W4, hc2, hc1, hcounts, hrm, hread, hsamples⟩ :=
    pool_stage (hall.imp fun _ _ h => h.2) hids hpos hne (hl1.of_reaches hrW) (hl2.of_reaches hrW)
      hfreeW hspecial
  obtain ⟨logs, hgen⟩ := generateSamples_eq hcancel entries (Additive.seeded cfg.seed)
    ⟨[], [], 0, [], 0, []⟩ w hsynth
  have hlen : runs.length = (entries.filter fun e => 0 < cfg.readsFor e).length := by
    rw [← hruns, List.length_map]
  obtain ⟨hres, hws⟩ := runPool_eq_ok hcfg hseed hsheet (by rintro rfl; simp at hsome) hcoll hgen
    (by simp only [Nat.zero_add]; exact fun h => hne (List.eq_nil_of_length_eq_zero h))
    hc2 hc1 (by rw [htotal, ← hcast]; exact hcounts) hrm
  refine ⟨hruns, ?_, ⟨ts.map (·.1), ts.map (·.2), ?_, ?_, ?_⟩, ?_⟩
  · rw [hres, hlen, htotal]
    simp
  · rw [List.forall₂_map_right_iff]
    exact hall.imp fun r t h => h.1.readText.1
  · rw [List.forall₂_map_right_iff]
    exact hall.imp fun r t h => h.1.readText.2
  · change readText (runPool cfg env w).workspace _ = _ ∧
      readText (runPool cfg env w).workspace _ = _
    rw [hws]
    split
    · exact hread W3 (List.mem_cons_self ..)
    · exact hread W4 (List.mem_cons_of_mem _ (List.mem_singleton_self _))
  · intro e he hpe p hp
    obtain ⟨r, hr, rfl⟩ : ∃ r ∈ runs, r.1 = e :=
      List.mem_map.1 (hruns ▸ List.mem_filter.2 ⟨he, by simpa using hpe⟩)
    change (∃ c, (runPool cfg env w).workspace.openRead p = _) ↔ _
    rw [hws]
    split
    · next hkeep =>
      simp only [hkeep, iff_true]
      exact (hsamples r hr p hp).1
    · next hkeep =>
      simp only [hkeep, Bool.false_eq_true, iff_false]
      exact (hsamples r hr p hp).2

theorem readSheet_alone {c : Bytes} {rows : List Entry} (h : parseSheet c = .ok rows) :
    readSheet ⟨[([[115]], .file c)], 0⟩ [115] = .ok rows := by
  have hl : Lands ⟨[([[115]], .file c)], 0⟩ [115] [] [] [115] :=
    ⟨⟨by decide +kernel, by decide +kernel, by decide +kernel, by decide, by decide, by decide⟩,
      by decide +kernel, ⟨.top, rfl, rfl⟩⟩
  simp only [readSheet, openRead_of_file hl rfl, h]

/-- A working directory holding only the sheet `s`, of the one line `A AC G 1`. -/
def oneSampleSheet : Workspace := ⟨[([[115]], .file [65, 32, 65, 67, 32, 71, 32, 49, 10])], 0⟩

/-- The row of that sheet: sample `A`, with i7 barcode `AC`, i5 barcode `G` and one read. -/
def oneSample : Entry := ⟨[65], [65, 67], [71], 1⟩

theorem readSheet_oneSampleSheet : readSheet oneSampleSheet [115] = .ok [oneSample] := by
  have hcut : Text.cutLines lineLimit [65, 32, 65, 67, 32, 71, 32, 49, 10] =
      ([[65, 32, 65, 67, 32, 71, 32, 49]], .complete) := by decide +kernel
  have hf : Text.fields [65, 32, 65, 67, 32, 71, 32, 49] = [[65], [65, 67], [71], [49]] := by
    decide +kernel
  have hsk : skipped [65, 32, 65, 67, 32, 71, 32, 49] = false := by decide +kernel
  have hn : Text.readInteger false [49] = .ok 1 := by decide +kernel
  refine readSheet_alone ?_
  simp [parseSheet, hcut, parseRows, hf, hsk, hn]
  rfl

/-- Reads of one base for the sheet `s`, into files prefixed `o`, with seed 1, keeping the
samples' files. -/
def oneBaseRun : Config := ⟨[115], [111], 1, 0, 0, 0, 1, true, false, false⟩

theorem runPool_pools_oneSample :
    let runs := sampleRuns Additive.source oneBaseRun [oneSample] (Additive.seeded oneBaseRun.seed)
      oneSampleSheet
    let out := runPool oneBaseRun ⟨[114], 0, false⟩ oneSampleSheet
    runs.map (·.1) = [oneSample].filter (fun e => 0 < oneBaseRun.readsFor e) ∧
    out.result = .ok ⟨[114], ([oneSample].filter fun e => 0 < oneBaseRun.readsFor e).length,
      ([oneSample].filter fun e => oneBaseRun.readsFor e = 0).map (·.sampleId),
      ([oneSample].map oneBaseRun.readsFor).sum, (pairPaths oneBaseRun.output).1,
      (pairPaths oneBaseRun.output).2⟩ ∧
    (∃ t1s t2s : List Bytes,
      List.Forall₂ (fun r t =>
        readText r.2.workspace (pairPaths (sampleOptions oneBaseRun r.1).output).1 = some t)
        runs t1s ∧
      List.Forall₂ (fun r t =>
        readText r.2.workspace (pairPaths (sampleOptions oneBaseRun r.1).output).2 = some t)
        runs t2s ∧
      readText out.workspace (pairPaths oneBaseRun.output).1 = some t1s.flatten ∧
      readText out.workspace (pairPaths oneBaseRun.output).2 = some t2s.flatten) ∧
    ∀ e ∈ [oneSample], 0 < oneBaseRun.readsFor e →
      ∀ p ∈ [(pairPaths (sampleOptions oneBaseRun e).output).1,
        (pairPaths (sampleOptions oneBaseRun e).output).2],
        (∃ c, out.workspace.openRead p = .ok (.contents c)) ↔
          oneBaseRun.keepIntermediates = true := by
  have hfresh : ∀ p : Bytes, (refusal? p = none ∧ wantsDir p = false ∧
      Bytes.splitOn 47 p = [] ++ [p] ∧ p ≠ [] ∧ p ≠ [46] ∧ p ≠ [46, 46]) ∧
      p.length ≤ nameMax ∧ oneSampleSheet.lookup [p] = none →
      Lands oneSampleSheet p [] [] p ∧ (∃ w', oneSampleSheet.create p = .ok w') ∧
        ∀ cs, oneSampleSheet.find p ≠ .ok (cs, .entry .fullDevice) := by
    rintro p ⟨⟨h1, h2, h3, h4, h5, h6⟩, hs, hl⟩
    have hland : Lands oneSampleSheet p [] [] p := ⟨⟨h1, h2, h3, h4, h5, h6⟩, hs, .top, rfl, rfl⟩
    refine ⟨hland, ⟨_, create_of_free hland (by simp [hl]) (by simp [hl])⟩, fun cs h => ?_⟩
    rw [find_of_lands hland, stepInto, List.nil_append, hl] at h
    cases h
  have hnew : ∀ p ∈ [(pairPaths (sampleOptions oneBaseRun oneSample).output).1,
      (pairPaths (sampleOptions oneBaseRun oneSample).output).2, (pairPaths oneBaseRun.output).1,
      (pairPaths oneBaseRun.output).2], (refusal? p = none ∧ wantsDir p = false ∧
        Bytes.splitOn 47 p = [] ++ [p] ∧ p ≠ [] ∧ p ≠ [46] ∧ p ≠ [46, 46]) ∧
        p.length ≤ nameMax ∧ oneSampleSheet.lookup [p] = none := by
    decide +kernel
  have hsheet := readSheet_oneSampleSheet
  have hruns : sampleRuns Additive.source oneBaseRun [oneSample] (Additive.seeded oneBaseRun.seed)
      oneSampleSheet = [(oneSample, synthesize Additive.source (Additive.seeded oneBaseRun.seed)
        (sampleOptions oneBaseRun oneSample) oneSampleSheet)] := by
    rw [sampleRuns, if_neg (by decide)]
    rfl
  have h7 : variants [65, 67] 0 = some (.ok [[65, 67]]) :=
    variants_zero (by simp) (validate_of_isBase (by simp) (List.all_eq_true.1 (by decide)))
  have h5 : variants [71] 0 = some (.ok [[71]]) :=
    variants_zero (by simp) (validate_of_isBase (by simp) (List.all_eq_true.1 (by decide)))
  obtain ⟨hs1, -, -⟩ := hfresh _ (hnew _ (List.mem_cons_self ..))
  obtain ⟨hs2, -, -⟩ := hfresh _ (hnew _ (List.mem_cons_of_mem _ (List.mem_cons_self ..)))
  have hsynth : ∀ r ∈ sampleRuns Additive.source oneBaseRun [oneSample]
      (Additive.seeded oneBaseRun.seed) oneSampleSheet, ∃ st, r.2.result = .ok st := by
    rw [hruns]
    intro r hr
    rw [List.mem_singleton] at hr
    subst hr
    exact ⟨_, synthesize_result rfl h7 h5 hs1 hs2 (by decide +kernel) (by decide +kernel)⟩
  have hpool : ∀ p ∈ [(pairPaths oneBaseRun.output).1, (pairPaths oneBaseRun.output).2],
      (∃ w', oneSampleSheet.create p = .ok w') ∧
        ∀ cs, oneSampleSheet.find p ≠ .ok (cs, .entry .fullDevice) := by
    intro p hp
    exact (hfresh p (hnew p (List.mem_cons_of_mem _ (List.mem_cons_of_mem _ hp)))).2
  exact runPool_pools rfl (by decide) rfl hsheet (fun h => absurd h Bool.false_ne_true)
    ⟨oneSample, List.mem_singleton_self _, by decide⟩
    (by decide) (by decide) (by decide) (by decide) hsynth hpool

theorem checkCounts_of_runPool {cfg : Config} {env : RunEnv} {w : Workspace} {sm : Summary}
    (h : (runPool cfg env w).result = .ok sm) :
    ∃ W want, checkCounts W want [(pairPaths cfg.output).1, (pairPaths cfg.output).2] = .ok () := by
  unfold runPool at h
  dsimp only at h
  -- every branch but the two that count both files ends in a fault
  repeat' split at h
  all_goals first | exact ⟨_, _, ‹_›⟩ | cases h

theorem checkCounts_of_special {W : Workspace} {want : Int} {p : Bytes} {rest : List Bytes}
    {f : Fault} (hp : Pool.specialPathFault? p = some f) :
    checkCounts W want (p :: rest) = .error (.within p f) := by
  cases p with
  | nil => simp [Pool.specialPathFault?] at hp
  | cons b bs => simp [checkCounts, Pool.countRecords, hp]

/-- The run of one-base reads into files prefixed `|o`. -/
def pipeRun : Config := { oneBaseRun with output := [124, 111] }

/-- A working directory holding only the sheet `s`, of the one line `A AC G 0`. -/
def readlessSheet : Workspace := ⟨[([[115]], .file [65, 32, 65, 67, 32, 71, 32, 48, 10])], 0⟩

theorem readSheet_readlessSheet :
    readSheet readlessSheet [115] = .ok [⟨[65], [65, 67], [71], 0⟩] := by
  have hcut : Text.cutLines lineLimit [65, 32, 65, 67, 32, 71, 32, 48, 10] =
      ([[65, 32, 65, 67, 32, 71, 32, 48]], .complete) := by decide +kernel
  have hf : Text.fields [65, 32, 65, 67, 32, 71, 32, 48] = [[65], [65, 67], [71], [48]] := by
    decide +kernel
  have hsk : skipped [65, 32, 65, 67, 32, 71, 32, 48] = false := by decide +kernel
  have hn : Text.readInteger false [48] = .ok 0 := by decide +kernel
  refine readSheet_alone ?_
  simp [parseSheet, hcut, parseRows, hf, hsk, hn]

/-- Two runs with a checked configuration and a seed, over a sheet of one sample, that fail: one
whose output prefix starts with `|`, since its pooled files are counted through a command, and
one whose only row asks for no read, since then no sample is synthesized. -/
theorem runPool_fails_for_pipe_or_readless_sheet :
    (pipeRun.check = .ok () ∧ pipeRun.seed ≠ 0 ∧ readSheet oneSampleSheet [115] = .ok [oneSample] ∧
      ∀ sm, (runPool pipeRun ⟨[114], 0, false⟩ oneSampleSheet).result ≠ .ok sm) ∧
    (oneBaseRun.check = .ok () ∧ oneBaseRun.seed ≠ 0 ∧
      readSheet readlessSheet [115] = .ok [⟨[65], [65, 67], [71], 0⟩] ∧
      (runPool oneBaseRun ⟨[114], 0, false⟩ readlessSheet).result =
        .error (.sheet .nothingToGenerate)) := by
  have hpipe : (Pool.specialPathFault? (pairPaths pipeRun.output).1).isSome = true := by
    decide +kernel
  refine ⟨⟨rfl, by decide, readSheet_oneSampleSheet, fun sm h => ?_⟩,
    ⟨rfl, by decide, readSheet_readlessSheet, ?_⟩⟩
  · obtain ⟨W, want, hc⟩ := checkCounts_of_runPool h
    obtain ⟨f, hf⟩ := Option.isSome_iff_exists.1 hpipe
    rw [checkCounts_of_special hf] at hc
    cases hc
  · unfold runPool
    rw [show oneBaseRun.sampleSheet = [115] from rfl, readSheet_readlessSheet]
    rfl

end FastqFixtures.Run
