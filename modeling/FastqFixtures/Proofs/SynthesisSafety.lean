import Mathlib
import FastqFixtures.Proofs.DrawOrder

/-! # A synthesis is safe for every option

Whatever its options, a synthesis from a source that answers in range asks every draw with a
bound of at least one, draws from variant lists that are not empty, and picks each symbol and
variant inside its list. Every record it writes has as many quality symbols as bases, and its
bases are barcode letters, so a sequence library that refuses only length mismatches and bytes
outside `A C G T N` takes each of them. Options or barcodes that are refused leave every file
as it was, and in any case only the entries of the two files of the output prefix change.

* `InBall.isBase`, `variants_isBase` — variants are spelled in barcode letters.
* `Record.Valid`, `readPair_valid` — the records of a read pair.
* `synthesize_before_files` — a refusal before the files draws nothing and writes nothing.
* `RecordWriter.close_changes`, `synthesize_touches_its_files` — the frame of a synthesis.
* `synthesize_safe` — all of it, for every option.
-/

namespace FastqFixtures

set_option autoImplicit false

namespace Barcode

/-- A member of the ball around a barcode spelled in barcode letters is spelled in them too: it
keeps the barcode's byte, or puts one of `A C G T` in its place. -/
theorem InBall.isBase {c v : Bytes} {m : Nat} (h : InBall c m v)
    (hc : ∀ b ∈ c, isBase b = true) :
    ∀ b ∈ v, isBase b = true := by
  intro b hb
  obtain ⟨i, hi, rfl⟩ := List.getElem_of_mem hb
  obtain ⟨hlen, -, hsub⟩ := h
  have hic : i < c.length := hlen ▸ hi
  by_cases hm : i ∈ mismatchPositions c v
  · -- a substituted position holds one of the four bases
    have hbase := hsub i hm
    rw [List.getD_eq_getElem _ _ hi] at hbase
    simp only [bases, List.mem_cons, List.not_mem_nil, or_false] at hbase
    rcases hbase with h | h | h | h <;> rw [h] <;> rfl
  · -- any other position keeps the barcode's byte
    have hsame : v.getD i 0 = c.getD i 0 := by
      by_contra hne
      exact hm (mem_mismatchPositions.2 ⟨hic, hne⟩)
    rw [List.getD_eq_getElem _ _ hi, List.getD_eq_getElem _ _ hic] at hsame
    rw [hsame]
    exact hc _ (List.getElem_mem hic)

end Barcode

namespace Workspace

theorem ChangesIn.lookup_of_ne {w w' : Workspace} {dir names : List Bytes} {n1 n2 : Bytes}
    (h : ChangesIn w w' dir names) (hsub : ∀ n ∈ names, n = n1 ∨ n = n2) :
    ∀ y, y ≠ dir ++ [n1] → y ≠ dir ++ [n2] → w'.lookup y = w.lookup y := by
  intro y hy1 hy2
  refine h.same y fun n hn => ?_
  rcases hsub n hn with rfl | rfl
  · exact hy1
  · exact hy2

end Workspace

namespace Fastq

open FastqFixtures.Random Barcode Workspace

/-! ## Variants and records -/

/-- The variants of a barcode are spelled in barcode letters. -/
theorem variants_isBase {bc : Bytes} {m : Int} (hm : 0 ≤ m) {vs : List Bytes}
    (h : variants bc m = some (.ok vs)) : ∀ v ∈ vs, ∀ b ∈ v, isBase b = true := by
  by_cases hbc : bc = []
  · rw [variants, if_pos (by simp [hbc])] at h
    cases h
    simp
  · obtain ⟨S, hS, rfl⟩ := variants_of_ne_nil hbc h
    have hm' : m = (m.toNat : Int) := (Int.toNat_of_nonneg hm).symm
    obtain ⟨c, hc, hball⟩ := expand_singleton (hm' ▸ hS)
    intro v hv
    have hhas : S.has v = true := by rw [BarcodeSet.has, List.contains_iff_mem]; exact hv
    exact ((hball v).1 hhas).isBase (validate_eq_ok hc).2

theorem isBase_of_mem_dnaBases : ∀ b ∈ dnaBases, isBase b = true :=
  List.all_eq_true.1 (by decide +kernel)

/-- A record as a DNA sequence library takes it: as many quality symbols as bases, and every base
one of `A C G T N`. -/
structure Record.Valid (r : Record) : Prop where
  quality_length : r.quality.length = r.sequence.length
  bases : ∀ b ∈ r.sequence, isBase b = true

variable {σ : Type} {src : Source σ}

/-- Both records of a read pair are valid: the qualities are drawn as long as each mate, and the
insert, the UMI and both variants are spelled in barcode letters. -/
theorem readPair_valid (hsrc : src.InRange) {o : Options} {i7s i5s : List Bytes}
    (hv : VariantsFit o i7s i5s) (h7 : ∀ v ∈ i7s, ∀ b ∈ v, isBase b = true)
    (h5 : ∀ v ∈ i5s, ∀ b ∈ v, isBase b = true) (i : Nat) (s : σ) :
    (readPair src o i7s i5s i s).1.1.Valid ∧ (readPair src o i7s i5s i s).1.2.Valid := by
  obtain ⟨d, hd, hd7, hd5, hpair⟩ :=
    readPair_fits hsrc o hv.i7_ne_nil hv.i5_ne_nil hv.i7_length hv.i5_length i s
  rw [hpair]
  refine ⟨⟨by rw [hd.q1_length, hd.insert_length], fun b hb => ?_⟩,
    ⟨hd.q2_length, fun b hb => ?_⟩⟩
  · exact isBase_of_mem_dnaBases b (hd.insert_bases b hb)
  · simp only [PairDraw.mate, List.mem_append] at hb
    rcases hb with ((hb | hb) | hb) | hb
    · exact isBase_of_mem_dnaBases b (hd.insert_bases b hb)
    · exact h7 _ hd7 b hb
    · exact isBase_of_mem_dnaBases b (hd.umi_bases b hb)
    · exact h5 _ hd5 b hb

/-! ## Draws -/

theorem readBounds_pos {o : Options} {i7s i5s : List Bytes} (hv : VariantsFit o i7s i5s) :
    ∀ n ∈ readBounds o i7s.length i5s.length, 0 < n := by
  have h7 := List.length_pos_iff.2 hv.i7_ne_nil
  have h5 := List.length_pos_iff.2 hv.i5_ne_nil
  intro n hn
  simp only [readBounds, List.mem_append, List.mem_replicate, List.mem_cons,
    List.not_mem_nil, or_false] at hn
  omega

theorem readsBounds_pos {o : Options} {i7s i5s : List Bytes} (hv : VariantsFit o i7s i5s)
    (k : Nat) : ∀ n ∈ readsBounds o i7s.length i5s.length k, 0 < n := by
  intro n hn
  obtain ⟨bs, hbs, hn⟩ := List.mem_flatten.1 hn
  rw [(List.mem_replicate.1 hbs).2] at hn
  exact readBounds_pos hv n hn

/-- Until both variant lists are found, a synthesis draws nothing and touches no file. -/
theorem synthesize_before_files (src : Source σ) (o : Options) (s : σ) (w : Workspace) :
    (∀ f, o.check = .error f →
      (synthesize src s o w).state = s ∧ (synthesize src s o w).workspace = w) ∧
    (∀ f, variants o.i7 o.mismatches = some (.error f) →
      (synthesize src s o w).state = s ∧ (synthesize src s o w).workspace = w) ∧
    (∀ f, variants o.i5 o.mismatches = some (.error f) →
      (synthesize src s o w).state = s ∧ (synthesize src s o w).workspace = w) := by
  unfold synthesize
  refine ⟨fun f hf => by simp [hf], fun f hf => ?_, fun f hf => ?_⟩
  · cases hc : o.check <;> simp [hf]
  · cases hc : o.check with
    | error f' => simp
    | ok u => rcases h7 : variants o.i7 o.mismatches with _ | (_ | _) <;> simp [hf]

theorem synthesize_bounds_pos (hsrc : src.InRange) (o : Options) (s : σ) (w : Workspace) :
    ∀ n ∈ (synthesize src.recording (s, []) o w).state.2, 0 < n := by
  obtain ⟨hc, hv7, hv5⟩ := synthesize_before_files src.recording o (s, []) w
  cases hcheck : o.check with
  | error f => simp [(hc f hcheck).1]
  | ok u =>
    obtain ⟨f, h7⟩ | ⟨i7s, h7⟩ := Options.variants_returns hcheck o.i7
    · simp [(hv7 f h7).1]
    obtain ⟨f, h5⟩ | ⟨i5s, h5⟩ := Options.variants_returns hcheck o.i5
    · simp [(hv5 f h5).1]
    have hstate := synthesize_state hsrc.recording hcheck h7 h5 (s, []) w
    by_cases hcr : Creates w o.output
    · rw [hstate.1 hcr, Source.recording_answers, List.nil_append]
      exact readsBounds_pos (variantsFit hcheck h7 h5) _
    · simp [hstate.2 hcr]

/-! ## The files a synthesis touches -/

/-- Closing a writer whose file lands in a directory changes at most that file. -/
theorem RecordWriter.close_changes {rw : RecordWriter} {w : Workspace} {init dir : List Bytes}
    {name : Bytes} (h : Lands w rw.path init dir name)
    (hx : w.lookup (dir ++ [name]) ≠ some .dir) :
    ChangesIn w (rw.close w).2.2 dir [name] := by
  have hself : ChangesIn w w dir [name] := changesIn_self (by simpa using hx)
  unfold RecordWriter.close
  split
  · exact hself
  · dsimp only
    split
    · next w' hs => exact (store_changes h hs hx).1
    · exact hself

/-- Closing the second writer and then the first, both of files of one directory, changes at
most those two files. -/
theorem close_pair_changes {r1 r2 : RecordWriter} {w : Workspace} {init dir : List Bytes}
    {n1 n2 : Bytes} (hl1 : Lands w r1.path init dir n1) (hl2 : Lands w r2.path init dir n2)
    (hd1 : w.lookup (dir ++ [n1]) ≠ some .dir) (hd2 : w.lookup (dir ++ [n2]) ≠ some .dir) :
    ChangesIn w (r1.close (r2.close w).2.2).2.2 dir [n2, n1] := by
  have ch2 := RecordWriter.close_changes hl2 hd2
  have hd1' : (r2.close w).2.2.lookup (dir ++ [n1]) ≠ some .dir := by
    by_cases hn : n1 = n2
    · subst hn
      exact ch2.after n1 (List.mem_singleton_self n1)
    · rw [ch2.lookup (by simpa using hn)]
      exact hd1
  exact ch2.trans (RecordWriter.close_changes (hl1.of_reaches (ch2.reaches hl1.reaches)) hd1')

/-- The two files of an output prefix are equally long, so one is refused for its length or
bytes exactly when the other is. -/
theorem refusal?_pairPaths (output : Bytes) :
    refusal? (pairPaths output).2 = refusal? (pairPaths output).1 := by
  obtain ⟨h1, h2, hl1, hl2, -⟩ := pairSuffixes
  have hz1 : 0 ∉ text "_R1.fastq.gz" := fun h => (h1 0 h).2 rfl
  have hz2 : 0 ∉ text "_R2.fastq.gz" := fun h => (h2 0 h).2 rfl
  simp [refusal?, pairPaths, hz1, hz2, hl1, hl2]

/-- Once the first file of an output prefix is created, both files are named, after the same
segments, in the directory of the prefix's last segment. -/
theorem named_pairPaths {w w1 : Workspace} {output : Bytes}
    (hc1 : w.create (pairPaths output).1 = .ok w1) :
    ∃ init last, Named (pairPaths output).1 init (last ++ text "_R1.fastq.gz") ∧
      Named (pairPaths output).2 init (last ++ text "_R2.fastq.gz") := by
  obtain ⟨h1slash, h2slash, h1len, h2len, -⟩ := pairSuffixes
  obtain ⟨init, last, hsplit⟩ := splitOn_eq_concat output
  have hacc := refusal?_eq_none_of_create hc1
  exact ⟨init, last, named_append (fun b hb => (h1slash b hb).1) (by omega) hacc hsplit,
    named_append (fun b hb => (h2slash b hb).1) (by omega)
      ((refusal?_pairPaths output).trans hacc) hsplit⟩

/-- A synthesis changes no entry but the two its output files resolve to before it starts. -/
theorem synthesize_touches_its_files (o : Options) (s : σ) (w : Workspace) :
    (synthesize src s o w).workspace = w ∨
      ∃ init dir n1 n2, Lands w (pairPaths o.output).1 init dir n1 ∧
        Lands w (pairPaths o.output).2 init dir n2 ∧ ∀ y, y ≠ dir ++ [n1] → y ≠ dir ++ [n2] →
          (synthesize src s o w).workspace.lookup y = w.lookup y := by
  obtain ⟨hc, hv7, hv5⟩ := synthesize_before_files src o s w
  cases hcheck : o.check with
  | error f => exact .inl (hc f hcheck).2
  | ok u =>
  obtain ⟨f, h7⟩ | ⟨i7s, h7⟩ := Options.variants_returns hcheck o.i7
  · exact .inl (hv7 f h7).2
  obtain ⟨f, h5⟩ | ⟨i5s, h5⟩ := Options.variants_returns hcheck o.i5
  · exact .inl (hv5 f h5).2
  cases hc1 : w.create (pairPaths o.output).1 with
  | error f =>
    left
    simp [synthesize, hcheck, h7, h5, RecordWriter.create, hc1, Except.map]
  | ok w1 =>
  right
  obtain ⟨init, last, hn1, hn2⟩ := named_pairPaths hc1
  obtain ⟨dir, hl1⟩ := lands_of_create hn1 hc1
  obtain ⟨-, -, h1len, h2len, -⟩ := pairSuffixes
  have hshort : (last ++ text "_R2.fastq.gz").length ≤ nameMax := by
    have := hl1.short
    rw [List.length_append, h1len] at this
    rw [List.length_append, h2len]
    exact this
  have hl2w : Lands w (pairPaths o.output).2 init dir _ := ⟨hn2, hshort, hl1.walks⟩
  have ch1 := (create_changes hl1 hc1).1
  have hl1' : Lands w1 (pairPaths o.output).1 init dir _ := hl1.of_reaches (ch1.reaches hl1.reaches)
  have hd1 : w1.lookup (dir ++ [last ++ text "_R1.fastq.gz"]) ≠ some .dir :=
    ch1.after _ (List.mem_singleton_self _)
  refine ⟨init, dir, _, _, hl1, hl2w, ?_⟩
  cases hc2 : w1.create (pairPaths o.output).2 with
  | error f =>
    -- the second file cannot be created: only the first writer is closed
    have ch : ChangesIn w1 (RecordWriter.close ⟨(pairPaths o.output).1, [], false⟩ w1).2.2 dir
        [last ++ text "_R1.fastq.gz"] := RecordWriter.close_changes hl1' hd1
    simp only [synthesize, hcheck, h7, h5, RecordWriter.create, hc1, hc2, Except.map]
    exact (ch1.trans ch).lookup_of_ne (by simp)
  | ok w2 =>
    obtain ⟨d2, hl2⟩ := lands_of_create hn2 hc2
    obtain rfl : dir = d2 := (ch1.reaches hl1.reaches).unique hl2.reaches
    have ch12 := ch1.trans (create_changes hl2 hc2).1
    have hr := ch12.reaches hl1.reaches
    obtain ⟨hp1, -, hp2, -⟩ := @writePairs_writers σ src o i7s i5s o.reads.toNat 1
      ⟨(pairPaths o.output).1, [], false⟩ ⟨(pairPaths o.output).2, [], false⟩ s
    simp only [synthesize, hcheck, h7, h5, RecordWriter.create, hc1, hc2, Except.map]
    generalize writePairs src o i7s i5s o.reads.toNat 1 _ _ s = r at hp1 hp2
    obtain ⟨r1, r2, s'⟩ := r
    dsimp only at hp1 hp2 ⊢
    -- the writers are closed in turn, each changing at most its own file
    have hl1r : Lands w2 r1.path init dir (last ++ text "_R1.fastq.gz") := by
      rw [hp1]
      exact hl1.of_reaches hr
    have hl2r : Lands w2 r2.path init dir (last ++ text "_R2.fastq.gz") := by
      rw [hp2]
      exact hl2.of_reaches hr
    have ch34 := close_pair_changes hl1r hl2r
      (ch12.after _ (List.mem_append_left _ (List.mem_singleton_self _)))
      (ch12.after _ (List.mem_append_right _ (List.mem_singleton_self _)))
    split <;> exact (ch12.trans ch34).lookup_of_ne (by simp)

/-! ## Safety for every option -/

/-- The options pass their check and both barcodes expand, to `i7s` and `i5s`. -/
def Accepted (o : Options) (i7s i5s : List Bytes) : Prop :=
  o.check = .ok () ∧ variants o.i7 o.mismatches = some (.ok i7s) ∧
    variants o.i5 o.mismatches = some (.ok i5s)

/-- What a synthesis guarantees whatever its options. The draws are those a recording source
logs; `readBounds` lists the sizes of the alphabets and variant lists one read pair picks
from, in the order it draws. -/
structure SynthesisSafe (src : Source σ) (s : σ) (o : Options) (w : Workspace) : Prop where
  /-- Every draw is asked with a bound of at least one. -/
  boundsPositive : ∀ n ∈ (synthesize src.recording (s, []) o w).state.2, 0 < n
  variantsNonEmpty : ∀ i7s i5s, Accepted o i7s i5s → i7s ≠ [] ∧ i5s ≠ []
  /-- Every read pair is made of answers that each index inside the alphabet or list they
  pick from. -/
  answersInRange : ∀ i7s i5s, Accepted o i7s i5s → ∀ (i : Nat) (s' : σ),
    ∃ as, List.Forall₂ (· < ·) as (readBounds o i7s.length i5s.length) ∧
      (readPair src o i7s i5s i s').1 = pairOfAnswers o i7s i5s i as
  /-- No record of any read pair can be refused by the sequence library. -/
  recordsValid : ∀ i7s i5s, Accepted o i7s i5s → ∀ (i : Nat) (s' : σ),
    (readPair src o i7s i5s i s').1.1.Valid ∧ (readPair src o i7s i5s i s').1.2.Valid
  /-- Refused options or barcodes leave every file as it was. -/
  refusedUntouched : (∀ f, o.check = .error f → (synthesize src s o w).workspace = w) ∧
    (∀ f, variants o.i7 o.mismatches = some (.error f) → (synthesize src s o w).workspace = w) ∧
    (∀ f, variants o.i5 o.mismatches = some (.error f) → (synthesize src s o w).workspace = w)
  /-- Only the entries the two output files resolve to, in the workspace the synthesis starts
  from, can change. -/
  onlyItsFiles : (synthesize src s o w).workspace = w ∨
    ∃ init dir n1 n2, Lands w (pairPaths o.output).1 init dir n1 ∧
      Lands w (pairPaths o.output).2 init dir n2 ∧ ∀ y, y ≠ dir ++ [n1] → y ≠ dir ++ [n2] →
        (synthesize src s o w).workspace.lookup y = w.lookup y

/-- A synthesis from a source that answers in range is safe, whatever its options. -/
theorem synthesize_safe (hsrc : src.InRange) (o : Options) (s : σ) (w : Workspace) :
    SynthesisSafe src s o w := by
  obtain ⟨hc, hv7, hv5⟩ := synthesize_before_files src o s w
  refine ⟨synthesize_bounds_pos hsrc o s w, fun i7s i5s ⟨hcheck, h7, h5⟩ => ?_,
    fun i7s i5s ⟨hcheck, h7, h5⟩ i s' => ?_, fun i7s i5s ⟨hcheck, h7, h5⟩ i s' => ?_,
    ⟨fun f hf => (hc f hf).2, fun f hf => (hv7 f hf).2, fun f hf => (hv5 f hf).2⟩,
    synthesize_touches_its_files o s w⟩
  · have hv := variantsFit hcheck h7 h5
    exact ⟨hv.i7_ne_nil, hv.i5_ne_nil⟩
  · have hv := variantsFit hcheck h7 h5
    exact ⟨_, Source.answers_lt hsrc s' (readBounds_pos hv),
      congrArg Prod.fst (readPair_eq_answers hsrc hv i s')⟩
  · obtain ⟨-, -, -, -, -, -, hmis, -⟩ := Options.check_eq_ok hcheck
    exact readPair_valid hsrc (variantsFit hcheck h7 h5) (variants_isBase hmis h7)
      (variants_isBase hmis h5) i s'

/-- The safety of a synthesis of two reads with a UMI, into an empty workspace. -/
theorem synthesize_safe_twoReadsWithUmi :
    (Source.scripted [0, 3, 40]).InRange ∧
      SynthesisSafe (Source.scripted [0, 3, 40]) 0 twoReadsWithUmi Workspace.empty := by
  have hsrc : (Source.scripted [0, 3, 40]).InRange := fun _ n hn => Nat.mod_lt _ hn
  exact ⟨hsrc, synthesize_safe hsrc twoReadsWithUmi 0 Workspace.empty⟩

end Fastq

end FastqFixtures
