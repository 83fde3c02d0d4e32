import FastqFixtures.Fastq.Synthesis
import FastqFixtures.Proofs.Expansion
import FastqFixtures.Proofs.BarcodeLength
import FastqFixtures.Proofs.GzipRoundTrip
import FastqFixtures.Proofs.DirectoryChanges

/-! # What a synthesis writes

A synthesis that succeeds has passed its checks, so the i7 barcode (and the i5 barcode when
there is one) validated and the mismatch sets were found; every variant is then as long as its
barcode. Each read pair is drawn from the source in a fixed order, and each writer gathers the
FASTQ text of its mate. Closing stores each text as one gzip member, the second file first, and
the two files of the output prefix are distinct entries of one directory, so each is found
afterwards with its own member, which reads back as the text.

* `Source.InRange` — a source whose every answer lies below its bound.
* `PairDraw`, `PairDraw.Fits`, `fastqText` — what a read pair is made of, and the text of a
  file of numbered reads.
* `readText` — what a reader gets from a file.
* `synthesize_files` — the two files and the statistics of a successful synthesis.
-/

namespace FastqFixtures

set_option autoImplicit false

namespace Random

/-! ## Sources -/

variable {σ : Type}

/-- A source that answers every bound `n ≥ 1` with a number below `n`. -/
def Source.InRange (src : Source σ) : Prop := ∀ s n, 0 < n → (src.draw s n).1 < n

variable {src : Source σ}

theorem Source.pick_mem {α : Type} [Inhabited α] (hsrc : src.InRange) (s : σ) {xs : List α}
    (hxs : xs ≠ []) : (src.pick s xs).1 ∈ xs := by
  have hlt := hsrc s xs.length (List.length_pos_iff.2 hxs)
  simp only [Source.pick, List.getD_eq_getElem?_getD, List.getElem?_eq_getElem hlt,
    Option.getD_some]
  exact List.getElem_mem hlt

theorem Source.length_symbols (src : Source σ) (s : σ) (alphabet : Bytes) (n : Nat) :
    (src.symbols s alphabet n).1.length = n := by
  induction n generalizing s with
  | zero => rfl
  | succ n ih => simp [Source.symbols, ih]

theorem Source.mem_symbols (hsrc : src.InRange) (s : σ) {alphabet : Bytes} (ha : alphabet ≠ [])
    (n : Nat) : ∀ b ∈ (src.symbols s alphabet n).1, b ∈ alphabet := by
  induction n generalizing s with
  | zero => simp [Source.symbols]
  | succ n ih =>
    simp only [Source.symbols, List.mem_cons]
    rintro b (rfl | hb)
    · exact src.pick_mem hsrc s ha
    · exact ih _ b hb

end Random

namespace Barcode

/-! ## Mismatch sets of one barcode -/

theorem inBall_self (c : Bytes) (m : Nat) : InBall c m c := by
  refine ⟨rfl, ?_, ?_⟩ <;> simp [mismatchPositions]

theorem expand_singleton {bc : Bytes} {m : Nat} {S : BarcodeSet}
    (h : expand [bc] m = some (.ok S)) :
    ∃ c, validate bc = .ok c ∧ ∀ v, S.has v = true ↔ InBall c m v := by
  cases hv : validate bc with
  | error f =>
    rw [expand_of_refused_first hv] at h
    cases h
  | ok c =>
    refine ⟨c, rfl, fun v => ?_⟩
    rw [mem_expand (lt_intMax_of_expand_cons hv h) (List.Forall₂.cons hv .nil) h v]
    simp

/-- A mismatch set of one barcode holds the validated barcode, and all its members are as
long as the barcode was. -/
theorem expand_singleton_members {bc : Bytes} {m : Nat} {S : BarcodeSet}
    (h : expand [bc] m = some (.ok S)) : S.members ≠ [] ∧ ∀ v ∈ S.members, v.length = bc.length := by
  obtain ⟨c, hc, hmem⟩ := expand_singleton h
  have hhas : ∀ v, v ∈ S.members ↔ InBall c m v := fun v => by
    rw [← hmem, BarcodeSet.has, List.contains_iff_mem]
  refine ⟨List.ne_nil_of_mem ((hhas c).2 (inBall_self c m)), fun v hv => ?_⟩
  rw [((hhas v).1 hv).1, length_validate hc]

theorem ball_zero (c : Bytes) : ball c 0 = [c] := by
  simp [ball, neighbors]

theorem expand_singleton_zero {bc c : Bytes} (h : validate bc = .ok c) :
    expand [bc] 0 = some (.ok ⟨[c]⟩) := by
  have hfa : List.Forall₂ (fun raw c => validate raw = .ok c) [bc] [c] := .cons h .nil
  have hrec : Expansion.recordBalls 0 ⟨∅, []⟩ [c] =
      ⟨(∅ : Std.HashMap Bytes Bytes).insert c c, []⟩ := by
    simp [Expansion.recordBalls, ball_zero, Expansion.record]
  have hlist : ((∅ : Std.HashMap Bytes Bytes).insert c c).toList = [(c, c)] := by
    have := (Std.HashMap.toList_insert_perm (m := (∅ : Std.HashMap Bytes Bytes)) (k := c) (v := c))
    rw [Std.HashMap.toList_empty, List.filter_nil] at this
    exact List.perm_singleton.1 this
  have := expand_of_forall₂ (m := 0) (by decide) hfa
  rw [hrec] at this
  simpa [hlist, Bytes.sort, Expansion.finish] using this

end Barcode

namespace Fastq

open FastqFixtures.Random Barcode

/-! ## Options and variants -/

theorem Options.check_eq_ok {o : Options} (h : o.check = .ok ()) :
    o.output ≠ [] ∧ 1 ≤ o.reads ∧ 1 ≤ o.readLength ∧ o.i7 ≠ [] ∧ 0 ≤ o.umiLength ∧
      o.umiLength ≤ maxUmiLength ∧ 0 ≤ o.mismatches ∧ o.mismatches ≤ maxMismatches := by
  unfold Options.check at h
  split at h
  · cases h
  rename_i hout
  split at h
  · cases h
  rename_i hreads
  split at h
  · cases h
  rename_i hlen
  split at h
  · cases h
  rename_i hi7
  split at h
  · cases h
  rename_i humi
  split at h
  · cases h
  rename_i hmis
  simp only [List.isEmpty_iff, Bool.or_eq_true, decide_eq_true_eq, not_or, Int.not_lt] at *
  exact ⟨hout, hreads, hlen, hi7, humi.1, humi.2, hmis.1, hmis.2⟩

theorem variants_of_ne_nil {bc : Bytes} {m : Int} (hbc : bc ≠ []) {vs : List Bytes}
    (h : variants bc m = some (.ok vs)) : ∃ S, expand [bc] m = some (.ok S) ∧ vs = S.members := by
  unfold variants at h
  rw [if_neg (by simpa using hbc)] at h
  cases he : expand [bc] m with
  | none => rw [he] at h; cases h
  | some r =>
    rw [he] at h
    cases r with
    | error f => cases h
    | ok S => exact ⟨S, rfl, (Except.ok.inj (Option.some.inj h)).symm⟩

theorem variants_zero {bc c : Bytes} (hne : bc ≠ []) (h : validate bc = .ok c) :
    variants bc 0 = some (.ok [c]) := by
  rw [variants, if_neg (by simpa using hne), expand_singleton_zero h]
  rfl

theorem Options.variants_isSome {o : Options} (h : o.check = .ok ()) (bc : Bytes) :
    (variants bc o.mismatches).isSome := by
  obtain ⟨-, -, -, -, -, -, h0, h2⟩ := Options.check_eq_ok h
  have hlt : o.mismatches.toNat < intMax :=
    lt_of_le_of_lt (by rw [maxMismatches] at h2; omega) (by decide : 2 < intMax)
  unfold variants
  split
  · rfl
  · rw [Option.isSome_map]
    exact expand_isSome hlt [bc]

theorem Options.variants_returns {o : Options} (h : o.check = .ok ()) (bc : Bytes) :
    (∃ f, variants bc o.mismatches = some (.error f)) ∨
      ∃ xs, variants bc o.mismatches = some (.ok xs) := by
  obtain ⟨r, hr⟩ := Option.isSome_iff_exists.1 (Options.variants_isSome h bc)
  cases r with
  | error f => exact .inl ⟨f, hr⟩
  | ok xs => exact .inr ⟨xs, hr⟩

/-! ## Read pairs -/

/-- The parts of one read pair: the insert, read on both mates; the i7 variant, UMI and i5
variant that the second mate carries after it; the qualities of each mate. -/
structure PairDraw where
  insert : Bytes
  i7 : Bytes
  umi : Bytes
  i5 : Bytes
  q1 : Bytes
  q2 : Bytes

/-- The sequence of the second mate. -/
def PairDraw.mate (d : PairDraw) : Bytes := d.insert ++ d.i7 ++ d.umi ++ d.i5

/-- FASTQ text of numbered reads of one mate: for read `i` with sequence `s` and qualities `q`,
the lines `@` and the read's name, `s`, `+`, and `q`. -/
def fastqText (mate : Int) : Nat → List (Bytes × Bytes) → Bytes
  | _, [] => []
  | i, (s, q) :: rest =>
    64 :: readName i mate ++ 10 :: s ++ [10, 43, 10] ++ q ++ [10] ++ fastqText mate (i + 1) rest

/-- What every pair of a synthesis from options `o` is like: an insert and a UMI of the asked
lengths over `ACGT`, qualities over the quality alphabet as long as each mate, and a second
mate as long as the insert, both barcodes and the UMI together. -/
structure PairDraw.Fits (o : Options) (d : PairDraw) : Prop where
  insert_length : d.insert.length = o.readLength.toNat
  insert_bases : ∀ b ∈ d.insert, b ∈ dnaBases
  umi_length : d.umi.length = o.umiLength.toNat
  umi_bases : ∀ b ∈ d.umi, b ∈ dnaBases
  q1_length : d.q1.length = o.readLength.toNat
  q1_symbols : ∀ b ∈ d.q1, b ∈ qualities
  mate_length : d.mate.length = o.readLength.toNat + o.i7.length + o.umiLength.toNat + o.i5.length
  q2_length : d.q2.length = d.mate.length
  q2_symbols : ∀ b ∈ d.q2, b ∈ qualities

variable {σ : Type} {src : Source σ}

theorem dnaBases_ne_nil : dnaBases ≠ [] := by decide +kernel

theorem qualities_ne_nil : qualities ≠ [] := by decide

/-- Every read pair is written from a pair that fits the options, with variants taken from
the lists, under the read's two names. -/
theorem readPair_fits (hsrc : src.InRange) (o : Options) {i7s i5s : List Bytes}
    (hi7 : i7s ≠ []) (hi5 : i5s ≠ []) (h7 : ∀ v ∈ i7s, v.length = o.i7.length)
    (h5 : ∀ v ∈ i5s, v.length = o.i5.length) (i : Nat) (s : σ) :
    ∃ d : PairDraw, d.Fits o ∧ d.i7 ∈ i7s ∧ d.i5 ∈ i5s ∧
      (readPair src o i7s i5s i s).1 =
        (⟨readName i 1, d.insert, d.q1⟩, ⟨readName i 2, d.mate, d.q2⟩) := by
  rcases h1 : src.symbols s dnaBases o.umiLength.toNat with ⟨umi, s1⟩
  rcases h2 : src.symbols s1 dnaBases o.readLength.toNat with ⟨insert, s2⟩
  rcases h3 : src.symbols s2 qualities insert.length with ⟨q1, s3⟩
  rcases h4 : src.pick s3 i7s with ⟨i7, s4⟩
  rcases h5' : src.pick s4 i5s with ⟨i5, s5⟩
  rcases h6 : src.symbols s5 qualities (insert ++ i7 ++ umi ++ i5).length with ⟨q2, s6⟩
  have e1 : (src.symbols s dnaBases o.umiLength.toNat).1 = umi := by rw [h1]
  have e2 : (src.symbols s1 dnaBases o.readLength.toNat).1 = insert := by rw [h2]
  have e3 : (src.symbols s2 qualities insert.length).1 = q1 := by rw [h3]
  have e4 : (src.pick s3 i7s).1 = i7 := by rw [h4]
  have e5 : (src.pick s4 i5s).1 = i5 := by rw [h5']
  have e6 : (src.symbols s5 qualities (insert ++ i7 ++ umi ++ i5).length).1 = q2 := by rw [h6]
  have hins : insert.length = o.readLength.toNat := by rw [← e2]; exact src.length_symbols _ _ _
  have humi : umi.length = o.umiLength.toNat := by rw [← e1]; exact src.length_symbols _ _ _
  have hi7m : i7 ∈ i7s := by rw [← e4]; exact Source.pick_mem hsrc s3 hi7
  have hi5m : i5 ∈ i5s := by rw [← e5]; exact Source.pick_mem hsrc s4 hi5
  refine ⟨⟨insert, i7, umi, i5, q1, q2⟩, ⟨hins, ?_, humi, ?_, ?_, ?_, ?_, ?_, ?_⟩, hi7m, hi5m, ?_⟩
  · rw [← e2]; exact Source.mem_symbols hsrc s1 dnaBases_ne_nil _
  · rw [← e1]; exact Source.mem_symbols hsrc s dnaBases_ne_nil _
  · rw [← e3, ← hins]; exact src.length_symbols _ _ _
  · rw [← e3]; exact Source.mem_symbols hsrc s2 qualities_ne_nil _
  · simp only [PairDraw.mate, List.length_append, hins, humi, h7 i7 hi7m, h5 i5 hi5m]
  · rw [← e6]; exact src.length_symbols _ _ _
  · rw [← e6]; exact Source.mem_symbols hsrc s5 qualities_ne_nil _
  · simp only [readPair, h1, h2, h3, h4, h5', h6]
    rfl

/-! ## Writers -/

theorem RecordWriter.text_write (rw : RecordWriter) (r : Record) :
    (rw.write r).text = rw.text ++ r.format := by
  simp [RecordWriter.write, RecordWriter.text]

theorem Record.format_of_ne_nil {name sequence quality : Bytes} (h : quality ≠ []) :
    (⟨name, sequence, quality⟩ : Record).format =
      64 :: name ++ 10 :: sequence ++ [10, 43, 10] ++ quality ++ [10] := by
  simp [Record.format, List.isEmpty_iff, h]

/-- Writing `left` read pairs from read `i` on appends, to each writer, the FASTQ text of its
mate of `left` pairs that fit the options, and changes nothing else about the writers. -/
theorem writePairs_fits (hsrc : src.InRange) (o : Options) (hread : 0 < o.readLength.toNat)
    {i7s i5s : List Bytes} (hi7 : i7s ≠ []) (hi5 : i5s ≠ [])
    (h7 : ∀ v ∈ i7s, v.length = o.i7.length) (h5 : ∀ v ∈ i5s, v.length = o.i5.length)
    (left i : Nat) (w1 w2 : RecordWriter) (s : σ) :
    ∃ ds : List PairDraw, ds.length = left ∧ (∀ d ∈ ds, d.Fits o ∧ d.i7 ∈ i7s ∧ d.i5 ∈ i5s) ∧
      let r := writePairs src o i7s i5s left i w1 w2 s
      r.1.text = w1.text ++ fastqText 1 i (ds.map fun d => (d.insert, d.q1)) ∧
      r.2.1.text = w2.text ++ fastqText 2 i (ds.map fun d => (d.mate, d.q2)) ∧
      r.1.path = w1.path ∧ r.1.closed = w1.closed ∧
      r.2.1.path = w2.path ∧ r.2.1.closed = w2.closed := by
  induction left generalizing i w1 w2 s with
  | zero => exact ⟨[], rfl, by simp, by simp [writePairs, fastqText]⟩
  | succ left ih =>
    obtain ⟨d, hd, hd7, hd5, hpair⟩ := readPair_fits hsrc o hi7 hi5 h7 h5 i s
    obtain ⟨ds, hlen, hds, h1, h2, hp1, hc1, hp2, hc2⟩ :=
      ih (i + 1) (w1.write ⟨readName i 1, d.insert, d.q1⟩) (w2.write ⟨readName i 2, d.mate, d.q2⟩)
        (readPair src o i7s i5s i s).2
    have hrp : readPair src o i7s i5s i s =
        ((⟨readName i 1, d.insert, d.q1⟩, ⟨readName i 2, d.mate, d.q2⟩),
          (readPair src o i7s i5s i s).2) := by
      rw [← hpair]
    have hq1 : d.q1 ≠ [] := List.ne_nil_of_length_pos (by rw [hd.q1_length]; exact hread)
    have hq2 : d.q2 ≠ [] := List.ne_nil_of_length_pos (by
      rw [hd.q2_length, hd.mate_length]
      omega)
    refine ⟨d :: ds, by simp [hlen], ?_, ?_⟩
    · intro d' hd'
      rcases List.mem_cons.1 hd' with rfl | hd'
      · exact ⟨hd, hd7, hd5⟩
      · exact hds d' hd'
    · rw [writePairs.eq_2, hrp]
      refine ⟨?_, ?_, hp1, hc1, hp2, hc2⟩
      · rw [h1, RecordWriter.text_write, Record.format_of_ne_nil hq1]
        simp [fastqText]
      · rw [h2, RecordWriter.text_write, Record.format_of_ne_nil hq2]
        simp [fastqText]

theorem synthesize_eq_ok {s : σ} {o : Options} {w : Workspace} {st : Stats}
    (h : (synthesize src s o w).result = .ok st) :
    ∃ i7s i5s w1 w2 w3,
      o.check = .ok () ∧ variants o.i7 o.mismatches = some (.ok i7s) ∧
      variants o.i5 o.mismatches = some (.ok i5s) ∧
      w.create (pairPaths o.output).1 = .ok w1 ∧ w1.create (pairPaths o.output).2 = .ok w2 ∧
      let r := writePairs src o i7s i5s o.reads.toNat 1 ⟨(pairPaths o.output).1, [], false⟩
        ⟨(pairPaths o.output).2, [], false⟩ s
      (r.2.1.close w2).1 = none ∧ (r.2.1.close w2).2.2 = w3 ∧
      (r.1.close w3).1 = none ∧ (r.1.close w3).2.2 = (synthesize src s o w).workspace ∧
      st = ⟨o.reads, (pairPaths o.output).1, (pairPaths o.output).2, i7s.length, i5s.length⟩ := by
  unfold synthesize at h ⊢
  cases hc : o.check with
  | error f => simp [hc] at h
  | ok u =>
    -- variants that fail or never return end the synthesis with a fault
    rcases hv7 : variants o.i7 o.mismatches with _ | (f | i7s)
    · simp [hc, hv7] at h
    · simp [hc, hv7] at h
    rcases hv5 : variants o.i5 o.mismatches with _ | (f | i5s)
    · simp [hc, hv7, hv5] at h
    · simp [hc, hv7, hv5] at h
    cases hw1 : w.create (pairPaths o.output).1 with
    | error f => simp [hc, hv7, hv5, RecordWriter.create, hw1, Except.map] at h
    | ok w1 =>
      cases hw2 : w1.create (pairPaths o.output).2 with
      | error f => simp [hc, hv7, hv5, RecordWriter.create, hw1, hw2, Except.map] at h
      | ok w2 =>
        refine ⟨i7s, i5s, w1, w2, ((writePairs src o i7s i5s o.reads.toNat 1
          ⟨(pairPaths o.output).1, [], false⟩ ⟨(pairPaths o.output).2, [], false⟩ s).2.1.close
            w2).2.2, rfl, rfl, rfl, rfl, hw2, ?_⟩
        simp only [hc, hv7, hv5, RecordWriter.create, hw1, hw2, Except.map] at h ⊢
        generalize writePairs src o i7s i5s o.reads.toNat 1 _ _ s = r at h ⊢
        -- the result is a success only when neither close failed
        cases he2 : (r.2.1.close w2).1 with
        | some f => simp [he2] at h
        | none =>
          cases he1 : (r.1.close (r.2.1.close w2).2.2).1 with
          | some f => simp [he1, he2] at h
          | none =>
            simp only [he1, he2, Option.map_none, Option.orElse_none] at h ⊢
            simpa using (Except.ok.inj h).symm

theorem RecordWriter.store_of_close {rw : RecordWriter} (hopen : rw.closed = false)
    {w : Workspace} (h : (rw.close w).1 = none) :
    w.store rw.path (Gzip.gzipMember rw.text) = .ok (rw.close w).2.2 := by
  unfold RecordWriter.close at h ⊢
  simp only [hopen, Bool.false_eq_true, if_false] at h ⊢
  split at h
  · next w' hs => exact hs
  · cases h

theorem RecordWriter.close_of_store {rw : RecordWriter} (hopen : rw.closed = false)
    {w w' : Workspace} (h : w.store rw.path (Gzip.gzipMember rw.text) = .ok w') :
    (rw.close w).1 = none ∧ (rw.close w).2.2 = w' := by
  unfold RecordWriter.close
  simp only [hopen, Bool.false_eq_true, if_false]
  split
  · next w'' hs => exact ⟨rfl, Except.ok.inj (hs.symm.trans h)⟩
  · next f hs => cases hs.symm.trans h

theorem writePairs_writers (o : Options) (i7s i5s : List Bytes) (left i : Nat)
    (w1 w2 : RecordWriter) (s : σ) :
    let r := writePairs src o i7s i5s left i w1 w2 s
    r.1.path = w1.path ∧ r.1.closed = w1.closed ∧ r.2.1.path = w2.path ∧
      r.2.1.closed = w2.closed := by
  induction left generalizing i w1 w2 s with
  | zero => exact ⟨rfl, rfl, rfl, rfl⟩
  | succ left ih =>
    rw [writePairs.eq_2]
    generalize readPair src o i7s i5s i s = p
    obtain ⟨⟨r1, r2⟩, s'⟩ := p
    exact ih (i + 1) (w1.write r1) (w2.write r2) s'

/-! ## The two files of an output prefix -/

theorem pairSuffixes :
    (∀ b ∈ text "_R1.fastq.gz", b ≠ 47 ∧ b ≠ 0) ∧ (∀ b ∈ text "_R2.fastq.gz", b ≠ 47 ∧ b ≠ 0) ∧
      (text "_R1.fastq.gz").length = 12 ∧ (text "_R2.fastq.gz").length = 12 ∧
      text "_R1.fastq.gz" ≠ text "_R2.fastq.gz" := by
  decide +kernel

/-- The two files of an output prefix, created in turn and then written in the other order,
read back with what was written to each. -/
theorem openRead_pairPaths {output c1 c2 : Bytes} {w w1 w2 w3 w4 : Workspace}
    (hc1 : w.create (pairPaths output).1 = .ok w1) (hc2 : w1.create (pairPaths output).2 = .ok w2)
    (hs2 : w2.store (pairPaths output).2 c2 = .ok w3)
    (hs1 : w3.store (pairPaths output).1 c1 = .ok w4) :
    w4.openRead (pairPaths output).1 = .ok (.contents c1) ∧
      w4.openRead (pairPaths output).2 = .ok (.contents c2) := by
  obtain ⟨h1slash, h2slash, h1len, h2len, hsuf⟩ := pairSuffixes
  obtain ⟨init, last, hsplit⟩ := Workspace.splitOn_eq_concat output
  have hn1 := Workspace.named_append (fun b hb => (h1slash b hb).1) (by omega)
    (Workspace.refusal?_eq_none_of_create hc1) hsplit
  have hn2 := Workspace.named_append (fun b hb => (h2slash b hb).1) (by omega)
    (Workspace.refusal?_eq_none_of_create hc2) hsplit
  obtain ⟨dir, h1⟩ := Workspace.lands_of_create hn1 hc1
  obtain ⟨hch, hl1, hl2, -, hshort2⟩ :=
    Workspace.two_files_changes h1.reaches hn1 hn2 (by simpa using hsuf) hc1 hc2 hs2 hs1
  have hr := hch.reaches h1.reaches
  exact ⟨Workspace.openRead_of_file (h1.of_reaches hr) hl1,
    Workspace.openRead_of_file ⟨hn2, hshort2, hr⟩ hl2⟩

/-- A synthesis succeeds when its options pass their check, both barcodes have variants, and
its two files land in one directory, under different names, where there is neither a directory
nor a link to the device. Whatever the source draws, nothing else can fail. -/
theorem synthesize_result {s : σ} {o : Options} {w : Workspace} {i7s i5s : List Bytes}
    {init dir : List Bytes} {n1 n2 : Bytes} (hcheck : o.check = .ok ())
    (h7 : variants o.i7 o.mismatches = some (.ok i7s)) (h5 : variants o.i5 o.mismatches = some (.ok i5s))
    (hl1 : Workspace.Lands w (pairPaths o.output).1 init dir n1)
    (hl2 : Workspace.Lands w (pairPaths o.output).2 init dir n2) (hne : n1 ≠ n2)
    (hfree : ∀ n ∈ [n1, n2],
      w.lookup (dir ++ [n]) ≠ some .dir ∧ w.lookup (dir ++ [n]) ≠ some .fullDevice) :
    (synthesize src s o w).result =
      .ok ⟨o.reads, (pairPaths o.output).1, (pairPaths o.output).2, i7s.length, i5s.length⟩ := by
  obtain ⟨hd1, hf1⟩ := hfree n1 (List.mem_cons_self ..)
  obtain ⟨hd2, hf2⟩ := hfree n2 (List.mem_cons_of_mem _ (List.mem_singleton_self _))
  have hx : dir ++ [n2] ≠ dir ++ [n1] := by simpa using Ne.symm hne
  have hlen : ∀ n : Bytes, (dir ++ [n]).length = dir.length + 1 := by simp
  have hc1 := Workspace.create_of_free hl1 hd1 hf1
  have hl2' := hl2.put hd1 (hlen n1) (.file [])
  have h12 : (w.put (dir ++ [n1]) (.file [])).lookup (dir ++ [n2]) = w.lookup (dir ++ [n2]) := by
    rw [Workspace.lookup_put, if_neg hx]
  have hc2 := Workspace.create_of_free hl2' (h12 ▸ hd2) (h12 ▸ hf2)
  generalize hw1 : w.put (dir ++ [n1]) (.file []) = w1 at hc1 hc2 hl2'
  generalize hw2 : w1.put (dir ++ [n2]) (.file []) = w2 at hc2
  have h22 : w2.lookup (dir ++ [n2]) = some (.file []) := by
    rw [← hw2, Workspace.lookup_put, if_pos rfl]
  have hd12 : w1.lookup (dir ++ [n2]) ≠ some .dir := by rw [← hw1, h12]; exact hd2
  have hl2'' : Workspace.Lands w2 (pairPaths o.output).2 init dir n2 :=
    hw2 ▸ hl2'.put hd12 (hlen n2) _
  obtain ⟨hp1, hcl1, hp2, hcl2⟩ := @writePairs_writers σ src o i7s i5s o.reads.toNat 1
    ⟨(pairPaths o.output).1, [], false⟩ ⟨(pairPaths o.output).2, [], false⟩ s
  unfold synthesize
  simp only [hcheck, h7, h5, RecordWriter.create, hc1, hc2, Except.map]
  generalize writePairs src o i7s i5s o.reads.toNat 1 _ _ s = r at hp1 hcl1 hp2 hcl2
  obtain ⟨he2, hw3⟩ := RecordWriter.close_of_store hcl2 (by
    rw [hp2]
    exact Workspace.store_of_free hl2'' _ (by rw [h22]; simp) (by rw [h22]; simp))
  have h31 : (r.2.1.close w2).2.2.lookup (dir ++ [n1]) = some (.file []) := by
    rw [hw3, Workspace.lookup_put, if_neg hx.symm, ← hw2, Workspace.lookup_put, if_neg hx.symm,
      ← hw1, Workspace.lookup_put, if_pos rfl]
  have hl13 : Workspace.Lands (r.2.1.close w2).2.2 (pairPaths o.output).1 init dir n1 := by
    rw [hw3, ← hw2, ← hw1]
    exact ((hl1.put hd1 (hlen n1) _).put (hw1 ▸ hd12) (hlen n2) _).put (by
      rw [Workspace.lookup_put, if_pos rfl]; simp) (hlen n2) _
  obtain ⟨he1, -⟩ := RecordWriter.close_of_store hcl1 (by
    rw [hp1]
    exact Workspace.store_of_free hl13 _ (by rw [h31]; simp) (by rw [h31]; simp))
  simp [he1, he2]

/-! ## What a reader gets -/

/-- The text a reader gets from the file at `path`: its bytes, or what they inflate to when
they start with the gzip magic; nothing if the file cannot be read or its stream is damaged. -/
def readText (w : Workspace) (path : Bytes) : Option Bytes :=
  match w.openRead path with
  | .ok (.contents c) =>
    if Gzip.hasMagic c then
      match Gzip.unpack c.toByteArray with
      | .ok u => if u.fault.isNone then some u.data.toList else none
      | .error _ => none
    else some c
  | _ => none

theorem readText_members {w : Workspace} {path : Bytes} {ts : List Bytes} (hts : ts ≠ [])
    (h : w.openRead path = .ok (.contents (ts.flatMap Gzip.gzipMember))) :
    readText w path = some ts.flatten := by
  obtain ⟨t, rest, rfl⟩ := List.exists_cons_of_ne_nil hts
  have hmagic : Gzip.hasMagic ((t :: rest).flatMap Gzip.gzipMember) = true := by
    simp [Gzip.hasMagic, Gzip.gzipMember, Gzip.memberHeader]
  rw [readText, h]
  simp only [hmagic, if_true, Gzip.unpack_members _ hts, Option.isNone_none,
    Gzip.byteArray_toList_eq, List.toList_data_toByteArray]

/-! ## Synthesis -/

/-- What a successful synthesis did: for read pairs that fit the options, with variants taken
from the variant lists of its barcodes, it created both files and then stored in each, the
second first, one gzip member of its mate's text. -/
theorem synthesize_written (hsrc : src.InRange) {s : σ} {o : Options} {w : Workspace}
    {st : Stats} (h : (synthesize src s o w).result = .ok st) :
    ∃ (ds : List PairDraw) (i7s i5s : List Bytes) (w1 w2 w3 : Workspace),
      o.check = .ok () ∧ ds.length = o.reads.toNat ∧
      (∀ d ∈ ds, d.Fits o ∧ d.i7 ∈ i7s ∧ d.i5 ∈ i5s) ∧
      variants o.i7 o.mismatches = some (.ok i7s) ∧ variants o.i5 o.mismatches = some (.ok i5s) ∧
      st = ⟨o.reads, (pairPaths o.output).1, (pairPaths o.output).2, i7s.length, i5s.length⟩ ∧
      w.create (pairPaths o.output).1 = .ok w1 ∧ w1.create (pairPaths o.output).2 = .ok w2 ∧
      w2.store (pairPaths o.output).2
        (Gzip.gzipMember (fastqText 2 1 (ds.map fun d => (d.mate, d.q2)))) = .ok w3 ∧
      w3.store (pairPaths o.output).1
        (Gzip.gzipMember (fastqText 1 1 (ds.map fun d => (d.insert, d.q1)))) =
          .ok (synthesize src s o w).workspace := by
  obtain ⟨i7s, i5s, w1, w2, w3, hcheck, hv7, hv5, hc1, hc2, he2, hw3, he1, hw4, rfl⟩ :=
    synthesize_eq_ok h
  obtain ⟨-, -, hread, hi7ne, -, -, hmis, -⟩ := Options.check_eq_ok hcheck
  have hm : o.mismatches = (o.mismatches.toNat : Int) := (Int.toNat_of_nonneg hmis).symm
  obtain ⟨S7, hS7, rfl⟩ := variants_of_ne_nil hi7ne hv7
  obtain ⟨h7ne, h7len⟩ := expand_singleton_members (hm ▸ hS7)
  have hi5 : i5s ≠ [] ∧ ∀ v ∈ i5s, v.length = o.i5.length := by
    by_cases h5 : o.i5 = []
    · rw [h5] at hv5 ⊢
      cases hv5
      simp
    · obtain ⟨S5, hS5, rfl⟩ := variants_of_ne_nil h5 hv5
      exact expand_singleton_members (hm ▸ hS5)
  obtain ⟨ds, hlen, hds, ht1, ht2, hp1, hcl1, hp2, hcl2⟩ :=
    writePairs_fits hsrc o (by omega) h7ne hi5.1 h7len hi5.2 o.reads.toNat 1
      ⟨(pairPaths o.output).1, [], false⟩ ⟨(pairPaths o.output).2, [], false⟩ s
  have hs2 := RecordWriter.store_of_close hcl2 he2
  rw [hp2, hw3, ht2] at hs2
  have hs1 := RecordWriter.store_of_close hcl1 he1
  rw [hp1, hw4, ht1] at hs1
  exact ⟨ds, S7.members, i5s, w1, w2, w3, hcheck, hlen, hds, hv7, hv5, rfl, hc1, hc2,
    by simpa [RecordWriter.text] using hs2, by simpa [RecordWriter.text] using hs1⟩

/-- What a successful synthesis wrote: for `o.reads` pairs that fit the options, the first file
reads as the FASTQ text of their inserts, numbered from one, and the second as that of their
second mates; each i7 variant is a member of the mismatch set of `o.i7`, each i5 variant one of
the mismatch set of `o.i5` (or empty, with no i5), and the statistics give the sizes of those
sets (1 for no i5). -/
theorem synthesize_files (hsrc : src.InRange) {s : σ} {o : Options} {w : Workspace} {st : Stats}
    (h : (synthesize src s o w).result = .ok st) :
    ∃ ds : List PairDraw, ds.length = o.reads.toNat ∧ (∀ d ∈ ds, d.Fits o) ∧
      readText (synthesize src s o w).workspace (pairPaths o.output).1 =
        some (fastqText 1 1 (ds.map fun d => (d.insert, d.q1))) ∧
      readText (synthesize src s o w).workspace (pairPaths o.output).2 =
        some (fastqText 2 1 (ds.map fun d => (d.mate, d.q2))) ∧
      (∃ S7, expand [o.i7] o.mismatches = some (.ok S7) ∧ st.i7Variants = S7.size ∧
        ∀ d ∈ ds, S7.has d.i7 = true) ∧
      (o.i5 = [] → st.i5Variants = 1 ∧ ∀ d ∈ ds, d.i5 = []) ∧
      (o.i5 ≠ [] → ∃ S5, expand [o.i5] o.mismatches = some (.ok S5) ∧ st.i5Variants = S5.size ∧
        ∀ d ∈ ds, S5.has d.i5 = true) := by
  obtain ⟨ds, i7s, i5s, w1, w2, w3, hcheck, hlen, hds, hv7, hv5, rfl, hc1, hc2, hs2, hs1⟩ :=
    synthesize_written hsrc h
  obtain ⟨-, -, -, hi7ne, -, -, -, -⟩ := Options.check_eq_ok hcheck
  obtain ⟨S7, hS7, rfl⟩ := variants_of_ne_nil hi7ne hv7
  obtain ⟨hr1, hr2⟩ := openRead_pairPaths hc1 hc2 hs2 hs1
  have hmem : ∀ d ∈ ds, S7.has d.i7 = true := fun d hd => by
    simpa [BarcodeSet.has] using (hds d hd).2.1
  refine ⟨ds, hlen, fun d hd => (hds d hd).1, ?_, ?_, ⟨S7, hS7, rfl, hmem⟩, ?_, ?_⟩
  · simpa using @readText_members _ _ [_] (by simp) (by simpa using hr1)
  · simpa using @readText_members _ _ [_] (by simp) (by simpa using hr2)
  · intro h5
    rw [h5] at hv5
    cases hv5
    exact ⟨rfl, fun d hd => by simpa using (hds d hd).2.2⟩
  · intro h5
    obtain ⟨S5, hS5, rfl⟩ := variants_of_ne_nil h5 hv5
    exact ⟨S5, hS5, rfl, fun d hd => by simpa [BarcodeSet.has] using (hds d hd).2.2⟩

/-- Three reads of four bases with a UMI of two, named by the prefix `o`, with the i7 barcode
`AC`, the i5 barcode `GT` and no mismatch allowed. -/
def threeReads : Options := ⟨[111], 3, 4, [65, 67], [71, 84], 2, 0⟩

theorem synthesize_files_threeReads :
    (Source.scripted [0, 3, 40]).InRange ∧
      (synthesize (Source.scripted [0, 3, 40]) 0 threeReads Workspace.empty).result =
        .ok ⟨3, (pairPaths threeReads.output).1, (pairPaths threeReads.output).2, 1, 1⟩ ∧
      ∃ ds : List PairDraw, ds.length = threeReads.reads.toNat ∧
        (∀ d ∈ ds, d.Fits threeReads) ∧
        readText (synthesize (Source.scripted [0, 3, 40]) 0 threeReads Workspace.empty).workspace
            (pairPaths threeReads.output).1 =
          some (fastqText 1 1 (ds.map fun d => (d.insert, d.q1))) ∧
        readText (synthesize (Source.scripted [0, 3, 40]) 0 threeReads Workspace.empty).workspace
            (pairPaths threeReads.output).2 =
          some (fastqText 2 1 (ds.map fun d => (d.mate, d.q2))) ∧
        (∃ S7, expand [threeReads.i7] threeReads.mismatches = some (.ok S7) ∧ 1 = S7.size ∧
          ∀ d ∈ ds, S7.has d.i7 = true) ∧
        (threeReads.i5 = [] → 1 = 1 ∧ ∀ d ∈ ds, d.i5 = []) ∧
        (threeReads.i5 ≠ [] → ∃ S5, expand [threeReads.i5] threeReads.mismatches = some (.ok S5) ∧
          1 = S5.size ∧ ∀ d ∈ ds, S5.has d.i5 = true) := by
  have hsrc : (Source.scripted [0, 3, 40]).InRange := fun _ n hn => Nat.mod_lt _ hn
  have h7 : variants [65, 67] 0 = some (.ok [[65, 67]]) :=
    variants_zero (by simp) (validate_of_isBase (by simp) (List.all_eq_true.1 (by decide)))
  have h5 : variants [71, 84] 0 = some (.ok [[71, 84]]) :=
    variants_zero (by simp) (validate_of_isBase (by simp) (List.all_eq_true.1 (by decide)))
  have hR1 : text "_R1.fastq.gz" = [95, 82, 49, 46, 102, 97, 115, 116, 113, 46, 103, 122] := by
    decide +kernel
  have hR2 : text "_R2.fastq.gz" = [95, 82, 50, 46, 102, 97, 115, 116, 113, 46, 103, 122] := by
    decide +kernel
  have hok : (synthesize (Source.scripted [0, 3, 40]) 0 threeReads Workspace.empty).result =
      .ok ⟨3, (pairPaths threeReads.output).1, (pairPaths threeReads.output).2, 1, 1⟩ := by
    unfold synthesize
    simp only [threeReads, h7, h5, pairPaths, hR1, hR2]
    rfl
  exact ⟨hsrc, hok, synthesize_files hsrc hok⟩

end Fastq

end FastqFixtures
