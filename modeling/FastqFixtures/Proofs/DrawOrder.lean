import Mathlib
import FastqFixtures.Proofs.RefusedRuns

/-! # The order of a synthesis's draws

A source answers bounds one at a time. `Source.answers` answers a whole list of bounds in turn,
and `Source.recording` is a source that answers as another one does while it keeps the bounds it
was asked for. A synthesis asks, for every read, the same list of bounds (`readBounds`): one per
UMI base and per insert base over `ACGT`, one per quality symbol of the first mate, one for each
variant, then one per quality symbol of the second mate, whose length is fixed by the options.

Main statements:

* `readPair_eq_answers` — one read pair is the answers to `readBounds`, each answer picking the
  symbol or variant at its index (`pairOfAnswers`).
* `synthesize_same_answers` — two sources that give the same answers to the bounds of a whole
  synthesis make it end alike, in its result and in its files.
* `synthesize_draw_order` — with both files created, a synthesis asks exactly the bounds of its
  reads, in order, and leaves its source where answering them does; a run's next sample draws
  from there.
-/

namespace FastqFixtures

set_option autoImplicit false

namespace Random

variable {σ : Type}

/-! ## Answers to a list of bounds -/

/-- The answers of a source to the bounds `bs` in turn, with its state after them. -/
def Source.answers (src : Source σ) (s : σ) : List Nat → List Nat × σ
  | [] => ([], s)
  | n :: bs =>
    let (a, s1) := src.draw s n
    let (as, s2) := src.answers s1 bs
    (a :: as, s2)

/-- The source that answers as `src` does and keeps, in order, the bounds it was asked for. -/
def Source.recording (src : Source σ) : Source (σ × List Nat) where
  draw p n := ((src.draw p.1 n).1, (src.draw p.1 n).2, p.2 ++ [n])

variable {src : Source σ}

@[simp] theorem Source.answers_nil (s : σ) : src.answers s [] = ([], s) := rfl

theorem Source.answers_cons (s : σ) (n : Nat) (bs : List Nat) :
    src.answers s (n :: bs) =
      ((src.draw s n).1 :: (src.answers (src.draw s n).2 bs).1,
        (src.answers (src.draw s n).2 bs).2) := rfl

theorem Source.answers_append (s : σ) (bs cs : List Nat) :
    src.answers s (bs ++ cs) =
      ((src.answers s bs).1 ++ (src.answers (src.answers s bs).2 cs).1,
        (src.answers (src.answers s bs).2 cs).2) := by
  induction bs generalizing s with
  | nil => rfl
  | cons n bs ih => simp [answers_cons, ih]

@[simp] theorem Source.length_answers (s : σ) (bs : List Nat) :
    (src.answers s bs).1.length = bs.length := by
  induction bs generalizing s with
  | nil => rfl
  | cons n bs ih => simp [answers_cons, ih]

theorem Source.answers_lt (hsrc : src.InRange) (s : σ) {bs : List Nat} (hpos : ∀ n ∈ bs, 0 < n) :
    List.Forall₂ (· < ·) (src.answers s bs).1 bs := by
  induction bs generalizing s with
  | nil => exact .nil
  | cons n bs ih =>
    rw [answers_cons]
    exact .cons (hsrc s n (hpos n List.mem_cons_self))
      (ih _ fun m hm => hpos m (List.mem_cons_of_mem n hm))

theorem Source.recording_answers (s : σ) (log bs : List Nat) :
    src.recording.answers (s, log) bs = ((src.answers s bs).1, (src.answers s bs).2, log ++ bs) := by
  induction bs generalizing s log with
  | nil => simp
  | cons n bs ih =>
    have hdraw : src.recording.draw (s, log) n = ((src.draw s n).1, (src.draw s n).2, log ++ [n]) :=
      rfl
    rw [answers_cons, hdraw, ih, answers_cons]
    simp

theorem Source.InRange.recording (hsrc : src.InRange) : src.recording.InRange :=
  fun p n hn => hsrc p.1 n hn

/-- The symbols of an alphabet that answers pick, each at its index. -/
def symbolsOf (alphabet : Bytes) (as : List Nat) : Bytes := as.map (alphabet.getD · default)

/-- A run of symbols is the alphabet's symbols at the answers to as many bounds, each the
alphabet's size. -/
theorem Source.symbols_eq_answers (s : σ) (alphabet : Bytes) (k : Nat) :
    src.symbols s alphabet k =
      (symbolsOf alphabet (src.answers s (List.replicate k alphabet.length)).1,
        (src.answers s (List.replicate k alphabet.length)).2) := by
  induction k generalizing s with
  | zero => rfl
  | succ k ih => simp [Source.symbols, Source.pick, List.replicate_succ, answers_cons, ih, symbolsOf]

end Random

namespace Fastq

open FastqFixtures.Random

/-! ## The draws of one read -/

theorem length_dnaBases : dnaBases.length = 4 := by decide +kernel

theorem length_qualities : qualities.length = 41 := by decide

/-- The bounds of the draws of one read, in order: the UMI bases and the insert bases, among the
four of `ACGT`; the first mate's quality symbols, among the 41 qualities; the i7 and i5
variants, among `n7` and `n5` of them; then the second mate's quality symbols, one for each base
of the insert, both barcodes and the UMI. -/
def readBounds (o : Options) (n7 n5 : Nat) : List Nat :=
  List.replicate o.umiLength.toNat 4 ++ List.replicate o.readLength.toNat 4 ++
    List.replicate o.readLength.toNat 41 ++ [n7, n5] ++
    List.replicate (o.readLength.toNat + o.i7.length + o.umiLength.toNat + o.i5.length) 41

/-- The read pair that the answers `as` to `readBounds` give: each answer picks the symbol of its
alphabet, or the variant of its list, at its index. -/
def pairOfAnswers (o : Options) (i7s i5s : List Bytes) (i : Nat) (as : List Nat) :
    Record × Record :=
  let u := o.umiLength.toNat
  let r := o.readLength.toNat
  let afterUmi := as.drop u
  let afterInsert := afterUmi.drop r
  let afterQ1 := afterInsert.drop r
  let umi := symbolsOf dnaBases (as.take u)
  let insert := symbolsOf dnaBases (afterUmi.take r)
  let q1 := symbolsOf qualities (afterInsert.take r)
  let i7 := i7s.getD (afterQ1.getD 0 0) default
  let i5 := i5s.getD (afterQ1.getD 1 0) default
  let q2 := symbolsOf qualities (afterQ1.drop 2)
  (⟨readName i 1, insert, q1⟩, ⟨readName i 2, insert ++ i7 ++ umi ++ i5, q2⟩)

theorem pairOfAnswers_segments (o : Options) (i7s i5s : List Bytes) (i : Nat)
    {umi insert q1 q2 : List Nat} (a7 a5 : Nat) (humi : umi.length = o.umiLength.toNat)
    (hins : insert.length = o.readLength.toNat) (hq1 : q1.length = o.readLength.toNat) :
    pairOfAnswers o i7s i5s i (umi ++ insert ++ q1 ++ [a7, a5] ++ q2) =
      (⟨readName i 1, symbolsOf dnaBases insert, symbolsOf qualities q1⟩,
        ⟨readName i 2, symbolsOf dnaBases insert ++ i7s.getD a7 default ++ symbolsOf dnaBases umi ++
          i5s.getD a5 default, symbolsOf qualities q2⟩) := by
  simp only [pairOfAnswers, List.append_assoc, List.take_left' humi, List.drop_left' humi,
    List.take_left' hins, List.drop_left' hins, List.take_left' hq1, List.drop_left' hq1,
    List.cons_append, List.nil_append, List.getD_cons_zero, List.getD_cons_succ,
    List.drop_succ_cons, List.drop_zero]

/-- Variant lists as a synthesis draws from: neither is empty, and every variant is as long as
its barcode. -/
structure VariantsFit (o : Options) (i7s i5s : List Bytes) : Prop where
  i7_ne_nil : i7s ≠ []
  i5_ne_nil : i5s ≠ []
  i7_length : ∀ v ∈ i7s, v.length = o.i7.length
  i5_length : ∀ v ∈ i5s, v.length = o.i5.length

/-- The variants of options that pass their check fit them: a non-empty barcode's variants
are its mismatch set, and an empty i5 has the one empty variant. -/
theorem variantsFit {o : Options} (hcheck : o.check = .ok ()) {i7s i5s : List Bytes}
    (h7 : variants o.i7 o.mismatches = some (.ok i7s))
    (h5 : variants o.i5 o.mismatches = some (.ok i5s)) :
    VariantsFit o i7s i5s := by
  obtain ⟨-, -, -, hi7, -, -, hmis, -⟩ := Options.check_eq_ok hcheck
  have hm : o.mismatches = (o.mismatches.toNat : Int) := (Int.toNat_of_nonneg hmis).symm
  obtain ⟨S7, hS7, rfl⟩ := variants_of_ne_nil hi7 h7
  obtain ⟨hne7, hlen7⟩ := Barcode.expand_singleton_members (hm ▸ hS7)
  by_cases hi5 : o.i5 = []
  · rw [variants, if_pos (by simp [hi5])] at h5
    cases h5
    exact ⟨hne7, List.cons_ne_nil _ _, hlen7, by simp [hi5]⟩
  · obtain ⟨S5, hS5, rfl⟩ := variants_of_ne_nil hi5 h5
    obtain ⟨hne5, hlen5⟩ := Barcode.expand_singleton_members (hm ▸ hS5)
    exact ⟨hne7, hne5, hlen7, hlen5⟩

variable {σ : Type} {src : Source σ}

/-- One read pair is the answers to `readBounds`, in that order, each picking the symbol or the
variant at its index; the source is left where answering them leaves it. The second mate's
qualities are counted from the options, since the variants drawn are as long as the barcodes. -/
theorem readPair_eq_answers (hsrc : src.InRange) {o : Options} {i7s i5s : List Bytes}
    (hv : VariantsFit o i7s i5s) (i : Nat) (s : σ) :
    readPair src o i7s i5s i s =
      (pairOfAnswers o i7s i5s i (src.answers s (readBounds o i7s.length i5s.length)).1,
        (src.answers s (readBounds o i7s.length i5s.length)).2) := by
  rcases h1 : src.answers s (List.replicate o.umiLength.toNat 4) with ⟨aU, s1⟩
  rcases h2 : src.answers s1 (List.replicate o.readLength.toNat 4) with ⟨aR, s2⟩
  rcases h3 : src.answers s2 (List.replicate o.readLength.toNat 41) with ⟨aQ, s3⟩
  rcases h4 : src.draw s3 i7s.length with ⟨a7, s4⟩
  rcases h5' : src.draw s4 i5s.length with ⟨a5, s5⟩
  rcases h6 : src.answers s5 (List.replicate
    (o.readLength.toNat + o.i7.length + o.umiLength.toNat + o.i5.length) 41) with ⟨aQ2, s6⟩
  have hlen : ∀ {t : σ} {bs as : List Nat} {t' : σ}, src.answers t bs = (as, t') →
      as.length = bs.length := fun {t bs _ _} h => by
    have := src.length_answers t bs
    rwa [h] at this
  have hU := hlen h1
  have hR := hlen h2
  have hQ := hlen h3
  simp only [List.length_replicate] at hU hR hQ
  have hv7 : i7s.getD a7 default ∈ i7s := by
    have := src.pick_mem hsrc s3 hv.i7_ne_nil
    simpa [Source.pick, h4] using this
  have hv5 : i5s.getD a5 default ∈ i5s := by
    have := src.pick_mem hsrc s4 hv.i5_ne_nil
    simpa [Source.pick, h5'] using this
  have hmate : (symbolsOf dnaBases aR ++ i7s.getD a7 default ++ symbolsOf dnaBases aU ++
      i5s.getD a5 default).length =
      o.readLength.toNat + o.i7.length + o.umiLength.toNat + o.i5.length := by
    simp only [symbolsOf, List.length_append, List.length_map, hU, hR, hv.i7_length _ hv7,
      hv.i5_length _ hv5]
  have hins : (symbolsOf dnaBases aR).length = o.readLength.toNat := by simp [symbolsOf, hR]
  have hanswers : src.answers s (readBounds o i7s.length i5s.length) =
      (aU ++ aR ++ aQ ++ [a7, a5] ++ aQ2, s6) := by
    simp only [readBounds, Source.answers_append, h1, h2, h3, Source.answers_cons, h4, h5',
      Source.answers_nil, h6]
  rw [hanswers, pairOfAnswers_segments o i7s i5s i a7 a5 hU hR hQ]
  simp only [readPair, Source.symbols_eq_answers, length_dnaBases, length_qualities, h1, h2, hins,
    h3, Source.pick, h4, h5', hmate, h6]

/-! ## The draws of a whole synthesis -/

/-- The bounds of the draws of `k` reads: those of one read, `k` times over. -/
def readsBounds (o : Options) (n7 n5 k : Nat) : List Nat :=
  (List.replicate k (readBounds o n7 n5)).flatten

theorem readsBounds_succ (o : Options) (n7 n5 k : Nat) :
    readsBounds o n7 n5 (k + 1) = readBounds o n7 n5 ++ readsBounds o n7 n5 k := by
  simp [readsBounds, List.replicate_succ]

theorem length_readBounds (o : Options) (n7 n5 : Nat) :
    (readBounds o n7 n5).length =
      2 * o.umiLength.toNat + 3 * o.readLength.toNat + o.i7.length + o.i5.length + 2 := by
  simp only [readBounds, List.length_append, List.length_replicate, List.length_cons,
    List.length_nil]
  omega

theorem length_readsBounds (o : Options) (n7 n5 k : Nat) :
    (readsBounds o n7 n5 k).length =
      k * (2 * o.umiLength.toNat + 3 * o.readLength.toNat + o.i7.length + o.i5.length + 2) := by
  simp [readsBounds, List.length_flatten, length_readBounds]

theorem writePairs_state (hsrc : src.InRange) {o : Options} {i7s i5s : List Bytes}
    (hv : VariantsFit o i7s i5s) (k i : Nat) (w1 w2 : RecordWriter) (s : σ) :
    (writePairs src o i7s i5s k i w1 w2 s).2.2 =
      (src.answers s (readsBounds o i7s.length i5s.length k)).2 := by
  induction k generalizing i w1 w2 s with
  | zero => rfl
  | succ k ih =>
    rw [writePairs.eq_2, readPair_eq_answers hsrc hv, readsBounds_succ, Source.answers_append]
    exact ih ..

/-- Two sources that give the same answers to the bounds of `k` reads write the same records:
each read's pair is made of its own answers. -/
theorem writePairs_same_answers {τ : Type} {src' : Source τ} (hsrc : src.InRange)
    (hsrc' : src'.InRange) {o : Options} {i7s i5s : List Bytes} (hv : VariantsFit o i7s i5s)
    (k i : Nat) (w1 w2 : RecordWriter) (s : σ) (s' : τ)
    (h : (src.answers s (readsBounds o i7s.length i5s.length k)).1 =
      (src'.answers s' (readsBounds o i7s.length i5s.length k)).1) :
    (writePairs src o i7s i5s k i w1 w2 s).1 = (writePairs src' o i7s i5s k i w1 w2 s').1 ∧
      (writePairs src o i7s i5s k i w1 w2 s).2.1 = (writePairs src' o i7s i5s k i w1 w2 s').2.1 := by
  induction k generalizing i w1 w2 s s' with
  | zero => exact ⟨rfl, rfl⟩
  | succ k ih =>
    rw [readsBounds_succ, Source.answers_append, Source.answers_append] at h
    -- the answers of the first read have the same length on both sides, so they agree
    obtain ⟨hfirst, hrest⟩ := List.append_inj h (by simp)
    rw [writePairs.eq_2, writePairs.eq_2, readPair_eq_answers hsrc hv,
      readPair_eq_answers hsrc' hv, hfirst]
    exact ih _ _ _ _ _ hrest

/-- Both files of an output prefix can be created, the first and then the second. -/
def Creates (w : Workspace) (output : Bytes) : Prop :=
  ∃ w1 w2, w.create (pairPaths output).1 = .ok w1 ∧ w1.create (pairPaths output).2 = .ok w2

section Synthesis

variable {o : Options} {i7s i5s : List Bytes}

/-- Two sources that give the same answers to the bounds of a synthesis make it end alike:
its files are created before any draw, and what it writes is made of the answers alone. -/
theorem synthesize_same_answers {τ : Type} {src' : Source τ} (hsrc : src.InRange)
    (hsrc' : src'.InRange) (hcheck : o.check = .ok ())
    (h7 : variants o.i7 o.mismatches = some (.ok i7s))
    (h5 : variants o.i5 o.mismatches = some (.ok i5s)) (s : σ) (s' : τ) (w : Workspace)
    (h : (src.answers s (readsBounds o i7s.length i5s.length o.reads.toNat)).1 =
      (src'.answers s' (readsBounds o i7s.length i5s.length o.reads.toNat)).1) :
    (synthesize src s o w).result = (synthesize src' s' o w).result ∧
      (synthesize src s o w).workspace = (synthesize src' s' o w).workspace := by
  unfold synthesize
  cases hw1 : w.create (pairPaths o.output).1 with
  | error f => simp [hcheck, h7, h5, RecordWriter.create, hw1, Except.map]
  | ok w1 =>
    cases hw2 : w1.create (pairPaths o.output).2 with
    | error f => simp [hcheck, h7, h5, RecordWriter.create, hw1, hw2, Except.map]
    | ok w2 =>
      simp only [hcheck, h7, h5, RecordWriter.create, hw1, hw2, Except.map]
      obtain ⟨e1, e2⟩ := writePairs_same_answers hsrc hsrc' (variantsFit hcheck h7 h5)
        o.reads.toNat 1 ⟨(pairPaths o.output).1, [], false⟩ ⟨(pairPaths o.output).2, [], false⟩ s s' h
      generalize writePairs src o i7s i5s o.reads.toNat 1 _ _ s = r at e1 e2 ⊢
      generalize writePairs src' o i7s i5s o.reads.toNat 1 _ _ s' = r' at e1 e2 ⊢
      obtain ⟨a, b, c⟩ := r
      obtain ⟨a', b', c'⟩ := r'
      cases e1
      cases e2
      dsimp only
      split <;> exact ⟨rfl, rfl⟩

/-- A synthesis whose files are both created leaves its source where answering the bounds of
its reads does; one whose files cannot be created draws nothing. -/
theorem synthesize_state (hsrc : src.InRange) (hcheck : o.check = .ok ())
    (h7 : variants o.i7 o.mismatches = some (.ok i7s))
    (h5 : variants o.i5 o.mismatches = some (.ok i5s))
    (s : σ) (w : Workspace) :
    (Creates w o.output →
      (synthesize src s o w).state =
        (src.answers s (readsBounds o i7s.length i5s.length o.reads.toNat)).2) ∧
    (¬ Creates w o.output → (synthesize src s o w).state = s) := by
  unfold synthesize
  cases hw1 : w.create (pairPaths o.output).1 with
  | error f =>
    refine ⟨fun ⟨w1, w2, h1, _⟩ => ?_, fun _ => ?_⟩
    · rw [hw1] at h1
      cases h1
    · simp [hcheck, h7, h5, RecordWriter.create, hw1, Except.map]
  | ok w1 =>
    cases hw2 : w1.create (pairPaths o.output).2 with
    | error f =>
      refine ⟨fun ⟨w1', w2, h1, h2⟩ => ?_, fun _ => ?_⟩
      · rw [hw1] at h1
        cases h1
        rw [hw2] at h2
        cases h2
      · simp [hcheck, h7, h5, RecordWriter.create, hw1, hw2, Except.map]
    | ok w2 =>
      refine ⟨fun _ => ?_, fun hnot => absurd ⟨w1, w2, hw1, hw2⟩ hnot⟩
      simp only [hcheck, h7, h5, RecordWriter.create, hw1, hw2, Except.map]
      have hstate := writePairs_state hsrc (variantsFit hcheck h7 h5) o.reads.toNat 1
        ⟨(pairPaths o.output).1, [], false⟩ ⟨(pairPaths o.output).2, [], false⟩ s
      generalize writePairs src o i7s i5s o.reads.toNat 1 _ _ s = r at hstate ⊢
      obtain ⟨a, b, c⟩ := r
      dsimp only at hstate ⊢
      split <;> exact hstate

/-- A sample with reads whose synthesis succeeds hands the source on to the next sample where
that synthesis left it. -/
theorem generateSamples_next_sample {cfg : Run.Config} {env : Run.RunEnv}
    (hcancel : env.cancelled = false) {e : Sheet.Entry} (hreads : cfg.readsFor e ≠ 0)
    (rest : List Sheet.Entry) (s : σ) (g : Run.Generated) (w : Workspace) {st : Stats}
    (hok : (synthesize src s (Run.sampleOptions cfg e) w).result = .ok st) :
    ∃ g', Run.generateSamples src cfg env (e :: rest) s g w =
      Run.generateSamples src cfg env rest (synthesize src s (Run.sampleOptions cfg e) w).state g'
        (synthesize src s (Run.sampleOptions cfg e) w).workspace := by
  have hne : (cfg.readsFor e == 0) = false := by simpa using hreads
  rw [Run.generateSamples]
  simp only [hcancel, Bool.false_eq_true, if_false, hne, hok]
  exact ⟨_, rfl⟩

/-- What the draws of a synthesis are, for options that pass their check and the variant lists
of their barcodes. -/
structure DrawOrder (src : Source σ) (s : σ) (o : Options) (i7s i5s : List Bytes)
    (w : Workspace) : Prop where
  /-- The reads ask `o.reads` times `2 u + 3 r + |i7| + |i5| + 2` bounds in all. -/
  count : (readsBounds o i7s.length i5s.length o.reads.toNat).length =
    o.reads.toNat * (2 * o.umiLength.toNat + 3 * o.readLength.toNat + o.i7.length + o.i5.length + 2)
  /-- With both files created, exactly the bounds of the reads are asked, in order, and the
  source is left where answering them leaves it. -/
  asked : Creates w o.output →
    (synthesize src.recording (s, []) o w).state =
      ((src.answers s (readsBounds o i7s.length i5s.length o.reads.toNat)).2,
        readsBounds o i7s.length i5s.length o.reads.toNat)
  /-- When a file cannot be created, nothing is asked. -/
  noneAsked : ¬ Creates w o.output → (synthesize src.recording (s, []) o w).state = (s, [])
  /-- Each read's answers pick its symbols and variants, each at its index. -/
  picks : ∀ (i : Nat) (s' : σ), readPair src o i7s i5s i s' =
    (pairOfAnswers o i7s i5s i (src.answers s' (readBounds o i7s.length i5s.length)).1,
      (src.answers s' (readBounds o i7s.length i5s.length)).2)
  /-- Sources that give the same answers make the synthesis end alike. -/
  sameAnswers : ∀ {τ : Type} (src' : Source τ) (s' : τ), src'.InRange →
    (src'.answers s' (readsBounds o i7s.length i5s.length o.reads.toNat)).1 =
      (src.answers s (readsBounds o i7s.length i5s.length o.reads.toNat)).1 →
    (synthesize src' s' o w).result = (synthesize src s o w).result ∧
      (synthesize src' s' o w).workspace = (synthesize src s o w).workspace
  /-- In a run, the next sample draws from where this synthesis left the source. -/
  nextSample : ∀ (cfg : Run.Config) (env : Run.RunEnv) (e : Sheet.Entry) (rest : List Sheet.Entry)
    (g : Run.Generated) (st : Stats), Run.sampleOptions cfg e = o → env.cancelled = false →
    cfg.readsFor e ≠ 0 → (synthesize src s o w).result = .ok st →
    ∃ g', Run.generateSamples src cfg env (e :: rest) s g w =
      Run.generateSamples src cfg env rest
        (src.answers s (readsBounds o i7s.length i5s.length o.reads.toNat)).2 g'
        (synthesize src s o w).workspace

/-- A synthesis of options that pass, from a source that answers in range, draws the bounds of
its reads in order and nothing else: per read, the UMI and insert bases among four, the first
mate's qualities among 41, one variant of each barcode, then the second mate's qualities among
41; each answer picks the symbol or variant at its index; the same answers give the same files;
and a run's next sample draws after them. -/
theorem synthesize_draw_order (hsrc : src.InRange) (hcheck : o.check = .ok ())
    (h7 : variants o.i7 o.mismatches = some (.ok i7s))
    (h5 : variants o.i5 o.mismatches = some (.ok i5s))
    (s : σ) (w : Workspace) : DrawOrder src s o i7s i5s w := by
  have hv := variantsFit hcheck h7 h5
  have hrec := synthesize_state hsrc.recording hcheck h7 h5 (s, []) w
  have hstate := synthesize_state hsrc hcheck h7 h5 s w
  refine ⟨length_readsBounds .., fun hc => ?_, hrec.2, readPair_eq_answers hsrc hv,
    fun src' s' hsrc' h => synthesize_same_answers hsrc' hsrc hcheck h7 h5 s' s w h,
    fun cfg env e rest g st he hcancel hreads hok => ?_⟩
  · rw [hrec.1 hc, Source.recording_answers, List.nil_append]
  · -- a synthesis that succeeds created both its files
    obtain ⟨_, _, w1, w2, _, -, -, -, hc1, hc2, -⟩ := synthesize_eq_ok hok
    subst he
    rw [← hstate.1 ⟨w1, w2, hc1, hc2⟩]
    exact generateSamples_next_sample hcancel hreads rest s g w hok

/-- Two reads of three bases, named by the prefix `s`, with a two-base UMI, the i7 barcode `AC`
and the i5 barcode `GT`. -/
def twoReadsWithUmi : Options := ⟨[115], 2, 3, [65, 67], [71, 84], 2, 0⟩

theorem variants_twoReadsWithUmi :
    variants twoReadsWithUmi.i7 twoReadsWithUmi.mismatches = some (.ok [[65, 67]]) ∧
      variants twoReadsWithUmi.i5 twoReadsWithUmi.mismatches = some (.ok [[71, 84]]) :=
  ⟨variants_zero (List.cons_ne_nil _ _)
      (Barcode.validate_of_isBase (List.cons_ne_nil _ _) (List.all_eq_true.1 (by decide))),
    variants_zero (List.cons_ne_nil _ _)
      (Barcode.validate_of_isBase (List.cons_ne_nil _ _) (List.all_eq_true.1 (by decide)))⟩

theorem synthesize_draw_order_twoReadsWithUmi :
    (Source.scripted [0, 3, 40]).InRange ∧ twoReadsWithUmi.check = .ok () ∧
      variants twoReadsWithUmi.i7 twoReadsWithUmi.mismatches = some (.ok [[65, 67]]) ∧
      variants twoReadsWithUmi.i5 twoReadsWithUmi.mismatches = some (.ok [[71, 84]]) ∧
      DrawOrder (Source.scripted [0, 3, 40]) 0 twoReadsWithUmi [[65, 67]] [[71, 84]]
        Workspace.empty := by
  have hsrc : (Source.scripted [0, 3, 40]).InRange := fun _ n hn => Nat.mod_lt _ hn
  have hcheck : twoReadsWithUmi.check = .ok () := rfl
  obtain ⟨h7, h5⟩ := variants_twoReadsWithUmi
  exact ⟨hsrc, hcheck, h7, h5, synthesize_draw_order hsrc hcheck h7 h5 0 Workspace.empty⟩

/-- The same reads, named by the prefix `d/s`, in a working directory with no directory `d`. -/
def twoReadsInMissingDir : Options := { twoReadsWithUmi with output := [100, 47, 115] }

/-- A synthesis whose files cannot be created asks no bound at all, though its reads would
ask 38. -/
theorem synthesize_draws_nothing_without_files :
    (readsBounds twoReadsInMissingDir 1 1 twoReadsInMissingDir.reads.toNat).length = 38 ∧
      (synthesize (Source.scripted [0, 3, 40]).recording (0, []) twoReadsInMissingDir
        Workspace.empty).state = (0, []) := by
  have hsrc : (Source.scripted [0, 3, 40]).InRange := fun _ n hn => Nat.mod_lt _ hn
  obtain ⟨h7, h5⟩ := variants_twoReadsWithUmi
  have hnot : ¬ Creates Workspace.empty twoReadsInMissingDir.output := by
    rintro ⟨w1, w2, h1, -⟩
    have hmissing : (Workspace.empty.create (pairPaths twoReadsInMissingDir.output).1).toBool =
        false := by
      decide +kernel
    rw [h1] at hmissing
    cases hmissing
  refine ⟨by rw [length_readsBounds]; rfl, ?_⟩
  exact (@synthesize_state _ _ twoReadsInMissingDir [[65, 67]] [[71, 84]] hsrc.recording rfl h7 h5
    (0, []) Workspace.empty).2 hnot

end Synthesis

end Fastq

end FastqFixtures
