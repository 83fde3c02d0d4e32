import Mathlib
import FastqFixtures.Proofs.PooledFiles
import FastqFixtures.Proofs.SheetAcceptance
import FastqFixtures.Proofs.BatchedWriter

/-! # Counting the records of a file

A file is counted from its read text: its bytes, or what they inflate to when they start with
the gzip magic (`readText`). The reader drops one leading byte-order mark and cuts the rest into
lines as a line scanner does (`streamLines`), as long as no piece between newlines, carriage
return included, fills its 16 MiB buffer. Every line whose index is a multiple of four must
start a record with `@`; the count is the number of lines over four, a partial record at the end
is refused, and the first line that should start a record and does not is reported by its
number. A file of fewer than two bytes holds no record, whatever it says.

Record writers write each record as four such lines, so a file made of the outputs of writers,
one after another, holds the records of all of them.

* `StartsRecords` — every fourth line, from the first, starts with `@`.
* `checkStarts_eq_ok_iff`, `checkStarts_first_bad` — the check of record starts.
* `countStream_eq_of_short` — counting a stream whose lines fit the buffer.
* `countRecords_of_readText` — a file of two bytes or more is counted from its read text.
* `writtenFile`, `FourLines` — what a writer leaves, and records it writes as four lines.
* `countRecords_reads_records` — the count of a file, and of writers' outputs put together.
* `countRecords_of_short` — a file of fewer than two bytes counts no record.
-/

namespace FastqFixtures

set_option autoImplicit false

namespace Pool

open Text Workspace Fastq

/-! ## Lines that start records -/

/-- The text the reader cuts into lines: the read text without one leading byte-order mark. -/
def unmarked (t : Bytes) : Bytes := if byteOrderMark.isPrefixOf t then t.drop 3 else t

/-- Every line at an index divisible by four starts a record: it is not empty and starts with
`@`. -/
def StartsRecords (lines : List Bytes) : Prop :=
  ∀ k (h : k < lines.length), k % 4 = 0 → lines[k].head? = some 64

theorem checkStarts_eq_ok_iff (n : Nat) (lines : List Bytes) :
    checkStarts n lines = .ok () ↔
      ∀ k (h : k < lines.length), (n + k) % 4 = 0 → lines[k].head? = some 64 := by
  induction lines generalizing n with
  | nil => simp [checkStarts]
  | cons l lines ih =>
    rw [checkStarts]
    by_cases hbad : n % 4 = 0 ∧ l.head? ≠ some 64
    · rw [if_pos (by simpa using hbad)]
      constructor
      · intro h
        cases h
      · intro h
        exact absurd (h 0 (by simp) (by simpa using hbad.1)) hbad.2
    · rw [if_neg (by simpa using hbad), ih (n + 1)]
      constructor
      · intro h k hk hmod
        cases k with
        | zero => exact not_and_not_right.1 hbad (by simpa using hmod)
        | succ k =>
          have := h k (by simpa using hk) (by omega)
          simpa using this
      · intro h k hk hmod
        have := h (k + 1) (by simpa using hk) (by omega)
        simpa using this

/-- The check stops at the first line that should start a record and does not, and reports its
number. -/
theorem checkStarts_first_bad {n : Nat} {pre post : List Bytes} {l : Bytes}
    (hpre : ∀ k (h : k < pre.length), (n + k) % 4 = 0 → pre[k].head? = some 64)
    (hl : (n + pre.length) % 4 = 0) (hbad : l.head? ≠ some 64) :
    checkStarts n (pre ++ l :: post) = .error (.recordStart (n + pre.length + 1)) := by
  induction pre generalizing n with
  | nil =>
    rw [List.nil_append, checkStarts, if_pos (by simpa using ⟨hl, hbad⟩)]
    rfl
  | cons x pre ih =>
    have hx : ¬(n % 4 = 0 ∧ x.head? ≠ some 64) := by
      rintro ⟨hn, hxb⟩
      have := hpre 0 (by simp) (by simpa using hn)
      rw [List.getElem_cons_zero] at this
      exact hxb this
    have hrest := ih (n := n + 1) (fun k hk hmod => by
      have := hpre (k + 1) (by simpa using hk) (by omega)
      simpa using this) (by simp at hl; omega)
    rw [List.cons_append, checkStarts, if_neg (by simpa using hx), hrest, List.length_cons]
    congr 2
    omega

theorem startsRecords_of_checkStarts {lines : List Bytes} (h : checkStarts 0 lines = .ok ()) :
    StartsRecords lines := fun k hk hmod =>
  (checkStarts_eq_ok_iff 0 lines).1 h k hk (by simpa using hmod)

theorem checkStarts_of_startsRecords {lines : List Bytes} (h : StartsRecords lines) :
    checkStarts 0 lines = .ok () :=
  (checkStarts_eq_ok_iff 0 lines).2 fun k hk hmod => h k hk (by simpa using hmod)

/-! ## Counting a stream -/

/-- A clean stream whose pieces between newlines fit the buffer is counted from its lines: the
record starts are checked, then the lines must make whole records. -/
theorem countStream_eq_of_short {t : Bytes}
    (hshort : ∀ piece ∈ Bytes.splitOn 10 (unmarked t), piece.length < recordLineLimit) :
    countStream t none = (checkStarts 0 (streamLines (unmarked t))).bind fun _ =>
      if (streamLines (unmarked t)).length % 4 = 0 then
        .ok ((streamLines (unmarked t)).length / 4)
      else .error (.truncatedRecord (streamLines (unmarked t)).length) := by
  have hcut : cutLines recordLineLimit (unmarked t) = (streamLines (unmarked t), .complete) :=
    cutLines_of_short hshort
  have hdata : (if byteOrderMark.isPrefixOf t then t.drop 3 else t) = unmarked t := rfl
  unfold countStream
  simp only [hdata, hcut]
  cases checkStarts 0 (streamLines (unmarked t)) with
  | error f => rfl
  | ok u =>
    by_cases hlen : (streamLines (unmarked t)).length % 4 = 0 <;> simp [hlen, Except.bind]

theorem countStream_nil : countStream [] none = .ok 0 := rfl

section ShortLines

variable {t : Bytes}
  (hshort : ∀ piece ∈ Bytes.splitOn 10 (unmarked t), piece.length < recordLineLimit)
include hshort

theorem countStream_eq_ok_iff (n : Nat) :
    countStream t none = .ok n ↔
      (streamLines (unmarked t)).length = 4 * n ∧ StartsRecords (streamLines (unmarked t)) := by
  rw [countStream_eq_of_short hshort]
  cases hc : checkStarts 0 (streamLines (unmarked t)) with
  | error f =>
    -- a failed check is no `StartsRecords`
    simp only [Except.bind]
    constructor
    · intro h
      cases h
    · rintro ⟨-, hs⟩
      rw [checkStarts_of_startsRecords hs] at hc
      cases hc
  | ok u =>
    have hs := startsRecords_of_checkStarts hc
    by_cases hlen : (streamLines (unmarked t)).length % 4 = 0
    · simp only [Except.bind, hlen, if_true, Except.ok.injEq]
      constructor
      · rintro rfl
        exact ⟨by omega, hs⟩
      · rintro ⟨h4, -⟩
        omega
    · simp only [Except.bind, hlen, if_false]
      constructor
      · intro h
        cases h
      · rintro ⟨h4, -⟩
        omega

theorem countStream_first_bad {pre post : List Bytes} {l : Bytes}
    (hlines : streamLines (unmarked t) = pre ++ l :: post) (hmod : pre.length % 4 = 0)
    (hpre : StartsRecords pre) (hbad : l.head? ≠ some 64) :
    countStream t none = .error (.recordStart (pre.length + 1)) := by
  have hcheck := @checkStarts_first_bad 0 pre post l
    (fun k hk hk4 => hpre k hk (by simpa using hk4)) (by simpa using hmod) hbad
  rw [countStream_eq_of_short hshort, hlines, hcheck, Nat.zero_add]
  rfl

theorem countStream_truncated (hs : StartsRecords (streamLines (unmarked t)))
    (hlen : (streamLines (unmarked t)).length % 4 ≠ 0) :
    countStream t none = .error (.truncatedRecord (streamLines (unmarked t)).length) := by
  rw [countStream_eq_of_short hshort, checkStarts_of_startsRecords hs]
  simp only [Except.bind, hlen, if_false]

end ShortLines

/-! ## Counting a file -/

theorem isEmpty_of_stat {w : Workspace} {path : Bytes} {r : Readable}
    (h : w.stat path = .ok r) : path.isEmpty = false := by
  cases path with
  | nil => simp [stat, find, refusal?] at h
  | cons => rfl

theorem openRead_of_stat {w : Workspace} {path c : Bytes} (h : w.stat path = .ok (.contents c)) :
    w.openRead path = .ok (.contents c) := by
  unfold stat at h
  unfold openRead
  cases hf : w.find path with
  | error e => simp [hf] at h
  | ok r =>
    obtain ⟨cs, found⟩ := r
    simp only [hf] at h ⊢
    cases found with
    | top => cases h
    | missing => cases h
    | entry e =>
      cases e with
      | file c' => exact h
      | dir => cases h
      | fullDevice => cases h

/-- A plain path to a file of two bytes or more is counted from the file's read text; an
inflated stream that delivers nothing holds no record, as its empty text does. -/
theorem countRecords_of_readText {w : Workspace} {path c t : Bytes}
    (hplain : specialPathFault? path = none) (hstat : w.stat path = .ok (.contents c))
    (hc : 2 ≤ c.length) (hread : readText w path = some t) :
    countRecords w path = (countStream t none).mapError (.within path) := by
  rw [readText, openRead_of_stat hstat] at hread
  simp only [countRecords, isEmpty_of_stat hstat, hplain, hstat, Bool.false_eq_true, if_false,
    Nat.not_lt.2 hc]
  by_cases hmagic : Gzip.hasMagic c = true
  · simp only [hmagic, if_true] at hread ⊢
    cases hu : Gzip.unpack c.toByteArray with
    | error g => simp [hu] at hread
    | ok u =>
      simp only [hu] at hread ⊢
      by_cases hfault : u.fault = none
      · simp only [hfault, Option.isNone_none, if_true, Option.some.injEq] at hread
        subst hread
        by_cases hsize : u.data.size = 0
        · have hnil : u.data.toList = [] := by
            rw [Gzip.byteArray_toList_eq]
            exact List.eq_nil_of_length_eq_zero (by rw [Array.length_toList]; exact hsize)
          simp only [hsize, hnil, countStream_nil]
          rfl
        · simp [hsize, hfault]
      · simp [hfault, Option.isNone_iff_eq_none] at hread
  · simp only [hmagic, Bool.false_eq_true, if_false, Option.some.injEq] at hread ⊢
    rw [hread]

/-! ## Outputs of record writers -/

/-- What a record writer leaves once it has written `rs` and is closed: one gzip member of their
text. -/
def writtenFile (rs : List Record) : Bytes := Gzip.gzipMember (rs.map Record.format).flatten

theorem writtenFile_eq_text (path : Bytes) (rs : List Record) :
    Gzip.gzipMember (rs.foldl RecordWriter.write ⟨path, [], false⟩).text = writtenFile rs := by
  rw [RecordWriter.text_foldl]
  rfl

/-- A record that a writer writes as four lines the reader takes back: no newline in its name,
sequence or qualities, qualities present, and each line shorter than the reader's buffer. -/
structure FourLines (r : Record) : Prop where
  name : 10 ∉ r.name
  sequence : 10 ∉ r.sequence
  quality : 10 ∉ r.quality
  quality_ne_nil : r.quality ≠ []
  name_short : r.name.length + 1 < recordLineLimit
  sequence_short : r.sequence.length < recordLineLimit
  quality_short : r.quality.length < recordLineLimit

/-- The name, sequence and qualities of a record. -/
def recordParts (r : Record) : Bytes × Bytes × Bytes := (r.name, r.sequence, r.quality)

theorem recordText_format {r : Record} (h : FourLines r) : RecordText r.format [recordParts r] := by
  obtain ⟨name, sequence, quality⟩ := r
  refine ⟨?_, fun l hl => ?_⟩
  · rw [Record.format_of_ne_nil h.quality_ne_nil]
    simp [recordLines, recordParts]
  · simp only [List.flatMap_cons, List.flatMap_nil, List.append_nil, recordLines, recordParts,
      List.mem_cons, List.not_mem_nil, or_false] at hl
    rcases hl with rfl | rfl | rfl | rfl
    · exact ⟨by simpa using h.name, by simpa using h.name_short⟩
    · exact ⟨h.sequence, h.sequence_short⟩
    · exact ⟨by decide, by decide⟩
    · exact ⟨h.quality, h.quality_short⟩

theorem RecordText.flatMap {α : Type} {xs : List α} {f : α → Bytes}
    {g : α → List (Bytes × Bytes × Bytes)} (h : ∀ x ∈ xs, RecordText (f x) (g x)) :
    RecordText (xs.flatMap f) (xs.flatMap g) := by
  induction xs with
  | nil => exact ⟨rfl, by simp⟩
  | cons x xs ih =>
    rw [List.flatMap_cons, List.flatMap_cons]
    exact (h x List.mem_cons_self).append (ih fun y hy => h y (List.mem_cons_of_mem _ hy))

theorem recordText_records {rs : List Record} (h : ∀ r ∈ rs, FourLines r) :
    RecordText (rs.map Record.format).flatten (rs.map recordParts) := by
  have := RecordText.flatMap fun r hr => recordText_format (h r hr)
  rwa [← List.map_eq_flatMap, List.flatMap_def] at this

theorem recordText_outputs {outs : List (List Record)} (h : ∀ rs ∈ outs, ∀ r ∈ rs, FourLines r) :
    RecordText (outs.map fun rs => (rs.map Record.format).flatten).flatten
      (outs.flatMap fun rs => rs.map recordParts) :=
  RecordText.flatMap fun rs hrs => recordText_records (h rs hrs)

theorem length_writtenFile (rs : List Record) : 2 ≤ (writtenFile rs).length := by
  simp [writtenFile, Gzip.gzipMember, Gzip.memberHeader]

theorem countRecords_outputs {w : Workspace} {path : Bytes} {outs : List (List Record)}
    (hplain : specialPathFault? path = none) (h : ∀ rs ∈ outs, ∀ r ∈ rs, FourLines r)
    (hstat : w.stat path = .ok (.contents (outs.map writtenFile).flatten)) :
    countRecords w path = .ok (outs.map List.length).sum := by
  cases outs with
  | nil =>
    simp only [countRecords, isEmpty_of_stat hstat, hplain, hstat]
    rfl
  | cons rs rest =>
    let ts := (rs :: rest).map fun rs => (rs.map Record.format).flatten
    have hfile : ((rs :: rest).map writtenFile).flatten = ts.flatMap Gzip.gzipMember := by
      simp only [ts, List.flatMap, List.map_map]
      rfl
    have hlen : 2 ≤ ((rs :: rest).map writtenFile).flatten.length := by
      simpa using Nat.le_add_right_of_le (length_writtenFile rs)
    have hrecs := recordText_outputs h
    have hread : readText w path = some ts.flatten :=
      readText_members (by simp [ts]) (hfile ▸ openRead_of_stat hstat)
    rw [countRecords_of_readText hplain hstat hlen hread, hrecs.eq,
      countStream_records hrecs.lines]
    simp only [List.length_flatMap, List.length_map]
    rfl

/-! ## The count of a file -/

@[simp] theorem mapError_eq_ok {ε ε' α : Type} {x : Except ε α} {f : ε → ε'} {a : α} :
    x.mapError f = .ok a ↔ x = .ok a := by
  cases x <;> simp [Except.mapError]

/-- A plain path to a file of fewer than two bytes holds no record, whatever its byte. -/
theorem countRecords_of_short {w : Workspace} {path c : Bytes}
    (hplain : specialPathFault? path = none) (hstat : w.stat path = .ok (.contents c))
    (hc : c.length < 2) : countRecords w path = .ok 0 := by
  simp only [countRecords, isEmpty_of_stat hstat, hplain, hstat, Bool.false_eq_true, if_false,
    hc, if_true]

/-- A plain path to a file of two bytes or more is counted from its read text without a leading
byte-order mark, cut into lines when no piece between newlines fills the reader's buffer: it
holds `n` records exactly when it has `4 n` lines and every fourth line from the first starts
with `@`; otherwise the fault names the first such line that does not, or else the truncation
after the last line. The outputs of record writers put together, for records written as four
lines, hold all their records. -/
theorem countRecords_reads_records (w : Workspace) (path : Bytes)
    (hplain : specialPathFault? path = none) :
    (∀ c t, w.stat path = .ok (.contents c) → readText w path = some t → 2 ≤ c.length →
      (∀ piece ∈ Bytes.splitOn 10 (unmarked t), piece.length < recordLineLimit) →
      (∀ n, countRecords w path = .ok n ↔
        (streamLines (unmarked t)).length = 4 * n ∧ StartsRecords (streamLines (unmarked t))) ∧
      (∀ pre l post, streamLines (unmarked t) = pre ++ l :: post → pre.length % 4 = 0 →
        StartsRecords pre → l.head? ≠ some 64 →
        countRecords w path = .error (.within path (.recordStart (pre.length + 1)))) ∧
      (StartsRecords (streamLines (unmarked t)) → (streamLines (unmarked t)).length % 4 ≠ 0 →
        countRecords w path =
          .error (.within path (.truncatedRecord (streamLines (unmarked t)).length)))) ∧
    (∀ outs : List (List Record), (∀ rs ∈ outs, ∀ r ∈ rs, FourLines r) →
      w.stat path = .ok (.contents (outs.map writtenFile).flatten) →
      countRecords w path = .ok (outs.map List.length).sum) := by
  refine ⟨fun c t hstat hread hc hshort => ?_, fun _ => countRecords_outputs hplain⟩
  rw [countRecords_of_readText hplain hstat hc hread]
  refine ⟨fun n => ?_, fun pre l post hlines hmod hpre hbad => ?_, fun hs hlen => ?_⟩
  · rw [mapError_eq_ok, countStream_eq_ok_iff hshort]
  · rw [countStream_first_bad hshort hlines hmod hpre hbad]
    rfl
  · rw [countStream_truncated hshort hs hlen]
    rfl

/-- A working directory holding one file, `name`, with the bytes `c`. -/
def fileAt (name c : Bytes) : Workspace := ⟨[([name], .file c)], 0⟩

/-- One record: `@r`, `A`, `+`, `I`. -/
def oneRecord : Bytes := [64, 114, 10, 65, 10, 43, 10, 73, 10]

theorem countRecords_reads_records_oneRecord :
    specialPathFault? [102] = none ∧ countRecords (fileAt [102] oneRecord) [102] = .ok 1 := by
  have hlines : streamLines (unmarked oneRecord) = [[64, 114], [65], [43], [73]] := by decide
  have hshort : ∀ piece ∈ Bytes.splitOn 10 (unmarked oneRecord),
      piece.length < recordLineLimit := by
    decide +kernel
  have hcount := ((countRecords_reads_records (fileAt [102] oneRecord) [102] rfl).1 oneRecord
    oneRecord rfl rfl (by decide) hshort).1 1
  exact ⟨rfl, hcount.2 ⟨by rw [hlines]; rfl, startsRecords_of_checkStarts (by rw [hlines]; rfl)⟩⟩

/-- The file holding the one byte `@` reads as one line that opens a record, yet it counts no
record rather than a truncated one. -/
theorem countRecords_counts_nothing_in_atSign :
    streamLines (unmarked [64]) = [[64]] ∧ countRecords (fileAt [102] [64]) [102] = .ok 0 :=
  ⟨rfl, countRecords_of_short rfl rfl (by decide)⟩

end Pool

end FastqFixtures
