import FastqFixtures.Pool
import FastqFixtures.Proofs.DirectoryChanges
import FastqFixtures.Proofs.Concatenation
import FastqFixtures.Proofs.SynthesizedFiles
import FastqFixtures.Proofs.ReadNames

/-! # Pooled files

Pooling works on files of one directory. Concatenating some of them into another one, itself
a file or missing, gives it their bytes in order and changes nothing else; removing files that
are there removes them and nothing else.

Counting reads a pooled file back. A FASTQ record is four lines: `@` and the read's name, the
sequence, `+`, the qualities. Text made of whole records, each line ended by a newline, with
no newline inside a line and every line shorter than the reader's buffer, is cut back into
exactly its lines; every fourth line then starts with `@`, and the count is the number of
records. A file of gzip members holding such text counts the same.

* `concat_files`, `removeAll_files` — pooling on a directory's files.
* `recordLines` — the lines of one record.
* `cutLines_lines` — newline-ended short lines are cut back into themselves.
* `countStream_records`, `countRecords_members` — the count of a stream and of a file.
* `fastqRecords`, `fastqText_eq_records` — the text of numbered reads as records.
-/

namespace FastqFixtures

set_option autoImplicit false

namespace Text

/-! ## Cutting lines -/

theorem cutFrom_line (limit : Nat) (done : List Bytes) {line : Bytes} (hnl : 10 ∉ line)
    (cur : Bytes) (hlen : cur.length + line.length < limit) (rest : Bytes) :
    cutFrom limit done cur cur.length (line ++ 10 :: rest) =
      cutFrom limit (dropReturn (cur.reverse ++ line) :: done) [] 0 rest := by
  induction line generalizing cur with
  | nil => simp [cutFrom]
  | cons b line ih =>
    have hb : b ≠ 10 := fun h => hnl (h ▸ List.mem_cons_self ..)
    have hnext : ¬ cur.length + 1 ≥ limit := by simp at hlen; omega
    have := ih (fun h => hnl (List.mem_cons_of_mem b h)) (b :: cur) (by simp at hlen ⊢; omega)
    simp only [List.length_cons, List.reverse_cons, List.append_assoc, List.singleton_append]
      at this
    rw [List.cons_append, cutFrom, if_neg (by simpa using hb), if_neg hnext, this]

/-- Lines without newlines, each shorter than the limit and ended by a newline, are cut back
into themselves, less a carriage return at their end. -/
theorem cutFrom_lines (limit : Nat) {lines : List Bytes}
    (h : ∀ l ∈ lines, 10 ∉ l ∧ l.length < limit) (done : List Bytes) :
    cutFrom limit done [] 0 (lines.flatMap (· ++ [10])) =
      (done.reverse ++ lines.map dropReturn, .complete) := by
  induction lines generalizing done with
  | nil => simp [cutFrom]
  | cons l lines ih =>
    have hl := h l (List.mem_cons_self ..)
    have hcut := cutFrom_line limit done hl.1 [] (by simpa using hl.2) (lines.flatMap (· ++ [10]))
    rw [List.length_nil, List.reverse_nil, List.nil_append] at hcut
    rw [List.flatMap_cons, List.append_assoc, List.singleton_append, hcut,
      ih (fun l' hl' => h l' (List.mem_cons_of_mem l hl'))]
    simp

theorem cutLines_lines (limit : Nat) {lines : List Bytes}
    (h : ∀ l ∈ lines, 10 ∉ l ∧ l.length < limit) :
    cutLines limit (lines.flatMap (· ++ [10])) = (lines.map dropReturn, .complete) := by
  rw [cutLines, cutFrom_lines limit h []]
  simp

theorem head?_dropReturn {b : UInt8} (hb : b ≠ 13) (l : Bytes) :
    (dropReturn (b :: l)).head? = some b := by
  unfold dropReturn
  cases l with
  | nil => simp [hb]
  | cons x l => split <;> simp

end Text

namespace Pool

open Text Workspace

/-! ## Concatenation and removal -/

section Files

variable {w : Workspace} {init dir : List Bytes}

/-- Concatenating files of the directory into another of its entries, a file or missing:
the destination holds their contents in order, and nothing else changes. -/
theorem concat_files {dst nd : Bytes} (hdst : Lands w dst init dir nd)
    (hfree : w.lookup (dir ++ [nd]) ≠ some .dir) (hdev : w.lookup (dir ++ [nd]) ≠ some .fullDevice)
    {srcs cs : List Bytes}
    (hsrcs : List.Forall₂ (fun p c => ∃ n, n ≠ nd ∧ Lands w p init dir n ∧
      w.lookup (dir ++ [n]) = some (.file c)) srcs cs) :
    ∃ w', concat w dst srcs = (.ok (), w') ∧ ChangesIn w w' dir [nd] ∧
      w'.lookup (dir ++ [nd]) = some (.file cs.flatten) := by
  have hapart : List.Forall₂ (FileApart w (dir ++ [nd])) srcs cs := by
    refine hsrcs.imp fun p c hp => ?_
    obtain ⟨n, hn, hland, hl⟩ := hp
    exact ⟨dir ++ [n], by simpa using hn, by rw [find_of_lands hland, stepInto, hl]⟩
  refine ⟨_, concat_of_files hdst hfree hdev hapart, changesIn_put hfree ?_, by simp [lookup_put]⟩
  intro hnode
  cases hnode

/-- Removing files of the directory, each once, removes them and nothing else. -/
theorem removeAll_files {ps names : List Bytes} (hnd : names.Nodup)
    (hps : List.Forall₂ (fun p n => Lands w p init dir n) ps names)
    (hfiles : ∀ n ∈ names, ∃ c, w.lookup (dir ++ [n]) = some (.file c)) :
    ∃ w', removeAll w ps = (none, w') ∧ ChangesIn w w' dir names ∧
      ∀ n ∈ names, w'.lookup (dir ++ [n]) = none := by
  induction ps generalizing w names with
  | nil =>
    cases hps
    exact ⟨w, rfl, changesIn_self (by simp), by simp⟩
  | cons p ps ih =>
    obtain _ | ⟨hland, hps⟩ := hps
    rename_i n ns
    obtain ⟨hn, hnd'⟩ := List.nodup_cons.1 hnd
    obtain ⟨c, hl⟩ := hfiles n (List.mem_cons_self ..)
    let w1 := w.drop (dir ++ [n])
    have hch : ChangesIn w w1 dir [n] := changesIn_drop (by rw [hl]; nofun)
    have hr1 := hch.reaches hland.reaches
    -- the files still to be removed are untouched by this removal
    have hfiles1 : ∀ n' ∈ ns, ∃ c, w1.lookup (dir ++ [n']) = some (.file c) := fun n' hn' => by
      rw [hch.lookup (by rw [List.mem_singleton]; rintro rfl; exact hn hn')]
      exact hfiles n' (List.mem_cons_of_mem _ hn')
    obtain ⟨w', hrun, hch', hgone⟩ :=
      ih hnd' (hps.imp fun _ _ h => h.of_reaches hr1) hfiles1
    refine ⟨w', ?_, (hch.trans hch').congr (by simp), ?_⟩
    · simp only [removeAll, remove_of_file hland hl]
      exact hrun
    · intro m hm
      rcases List.mem_cons.1 hm with rfl | hm
      · rw [hch'.lookup hn]
        simp [w1, lookup_drop]
      · exact hgone m hm

end Files

/-! ## Counting records -/

/-- The four lines of a FASTQ record with the given name, sequence and qualities. -/
def recordLines (r : Bytes × Bytes × Bytes) : List Bytes := [64 :: r.1, r.2.1, [43], r.2.2]

theorem checkStarts_records (recs : List (Bytes × Bytes × Bytes)) {n : Nat} (hn : n % 4 = 0) :
    checkStarts n ((recs.flatMap recordLines).map dropReturn) = .ok () := by
  induction recs generalizing n with
  | nil => rfl
  | cons r recs ih =>
    have h0 : (n % 4 == 0) = true := beq_iff_eq.2 hn
    have h1 : ((n + 1) % 4 == 0) = false := beq_eq_false_iff_ne.2 (by omega)
    have h2 : ((n + 1 + 1) % 4 == 0) = false := beq_eq_false_iff_ne.2 (by omega)
    have h3 : ((n + 1 + 1 + 1) % 4 == 0) = false := beq_eq_false_iff_ne.2 (by omega)
    simp only [List.flatMap_cons, recordLines, List.cons_append, List.nil_append, List.map_cons,
      checkStarts, head?_dropReturn (by decide : (64 : UInt8) ≠ 13), h0, h1, h2, h3,
      bne_self_eq_false, Bool.and_false, Bool.false_and, Bool.false_eq_true, if_false]
    exact ih (by omega)

theorem length_records (recs : List (Bytes × Bytes × Bytes)) :
    (recs.flatMap recordLines).length = 4 * recs.length := by
  induction recs with
  | nil => rfl
  | cons r recs ih => simp [recordLines, ih]; omega

/-- The text of whole records, read as a stream that ends cleanly, holds as many records. -/
theorem countStream_records {recs : List (Bytes × Bytes × Bytes)}
    (h : ∀ l ∈ recs.flatMap recordLines, 10 ∉ l ∧ l.length < recordLineLimit) :
    countStream ((recs.flatMap recordLines).flatMap (· ++ [10])) none = .ok recs.length := by
  have hbom :
      byteOrderMark.isPrefixOf ((recs.flatMap recordLines).flatMap (· ++ [10])) = false := by
    cases recs with
    | nil => rfl
    | cons r recs => rfl
  have hlen := length_records recs
  simp only [countStream, hbom, Bool.false_eq_true, if_false, cutLines_lines recordLineLimit h,
    checkStarts_records recs (Nat.zero_mod 4), List.length_map, hlen]
  simp

/-- The text `t` is the records `recs`, each line ended by a newline, with no newline inside a
line and every line shorter than the reader's buffer. -/
structure RecordText (t : Bytes) (recs : List (Bytes × Bytes × Bytes)) : Prop where
  eq : t = (recs.flatMap recordLines).flatMap (· ++ [10])
  lines : ∀ l ∈ recs.flatMap recordLines, 10 ∉ l ∧ l.length < recordLineLimit

theorem RecordText.append {t t' : Bytes} {recs recs' : List (Bytes × Bytes × Bytes)}
    (h : RecordText t recs) (h' : RecordText t' recs') : RecordText (t ++ t') (recs ++ recs') := by
  refine ⟨by simp [h.eq, h'.eq], fun l hl => ?_⟩
  rw [List.flatMap_append, List.mem_append] at hl
  exact hl.elim (h.lines l) (h'.lines l)

/-- Texts of records, one after another, are the text of all their records: as many as they
hold together. -/
theorem recordText_flatten {ts : List Bytes} {ns : List Nat}
    (h : List.Forall₂ (fun t n => ∃ recs, RecordText t recs ∧ recs.length = n) ts ns) :
    ∃ recs, RecordText ts.flatten recs ∧ recs.length = ns.sum := by
  induction h with
  | nil => exact ⟨[], ⟨rfl, by simp⟩, rfl⟩
  | cons ht _ ih =>
    obtain ⟨recs, hrecs, hlen⟩ := ht
    obtain ⟨recs', hrecs', hlen'⟩ := ih
    exact ⟨recs ++ recs', hrecs.append hrecs', by simp [hlen, hlen']⟩

theorem hasMagic_members {ts : List Bytes} (hts : ts ≠ []) :
    Gzip.hasMagic (ts.flatMap Gzip.gzipMember) = true := by
  obtain ⟨t, rest, rfl⟩ := List.exists_cons_of_ne_nil hts
  simp [Gzip.hasMagic, Gzip.gzipMember, Gzip.memberHeader]

/-- A plain path to a file of gzip members whose contents are whole records holds as many
records as the contents. -/
theorem countRecords_members {w : Workspace} {path : Bytes} {init dir : List Bytes}
    {name : Bytes} (h : Workspace.Lands w path init dir name)
    (hplain : specialPathFault? path = none)
    {ts : List Bytes} (hts : ts ≠ [])
    (hl : w.lookup (dir ++ [name]) = some (.file (ts.flatMap Gzip.gzipMember)))
    {recs : List (Bytes × Bytes × Bytes)} (hne : recs ≠ []) (hrecs : RecordText ts.flatten recs) :
    countRecords w path = .ok recs.length := by
  have hmagic := hasMagic_members hts
  have hlong : ¬ (ts.flatMap Gzip.gzipMember).length < 2 := by
    obtain ⟨t, rest, rfl⟩ := List.exists_cons_of_ne_nil hts
    simp [Gzip.gzipMember, Gzip.memberHeader]
  have hdata : ts.flatten.length ≠ 0 := by
    obtain ⟨r, rest, rfl⟩ := List.exists_cons_of_ne_nil hne
    simp [hrecs.eq, recordLines]
  simp only [countRecords, h.named.isEmpty_eq_false, Bool.false_eq_true, if_false, hplain,
    Workspace.stat_of_file h hl, hlong, hmagic, if_true, Gzip.unpack_members _ hts,
    List.size_toByteArray, hdata, beq_iff_eq]
  simp only [Gzip.byteArray_toList_eq, List.toList_data_toByteArray, hrecs.eq,
    countStream_records hrecs.lines]
  rfl

end Pool

namespace Fastq

open Text Pool

/-! ## Text of numbered reads -/

/-- The records of numbered reads of one mate, from read `i` on. -/
def fastqRecords (mate : Int) : Nat → List (Bytes × Bytes) → List (Bytes × Bytes × Bytes)
  | _, [] => []
  | i, (s, q) :: rest => (readName i mate, s, q) :: fastqRecords mate (i + 1) rest

theorem fastqText_eq_records (mate : Int) (i : Nat) (pairs : List (Bytes × Bytes)) :
    fastqText mate i pairs =
      ((fastqRecords mate i pairs).flatMap recordLines).flatMap (· ++ [10]) := by
  induction pairs generalizing i with
  | nil => rfl
  | cons p pairs ih => simp [fastqText, fastqRecords, recordLines, ih]

theorem length_fastqRecords (mate : Int) (i : Nat) (pairs : List (Bytes × Bytes)) :
    (fastqRecords mate i pairs).length = pairs.length := by
  induction pairs generalizing i with
  | nil => rfl
  | cons p pairs ih => simp [fastqRecords, ih]

theorem mem_fastqRecords {mate : Int} {i : Nat} {pairs : List (Bytes × Bytes)}
    {r : Bytes × Bytes × Bytes} (h : r ∈ fastqRecords mate i pairs) :
    (∃ j : Nat, r.1 = readName j mate) ∧ (r.2.1, r.2.2) ∈ pairs := by
  induction pairs generalizing i with
  | nil => cases h
  | cons p pairs ih =>
    simp only [fastqRecords, List.mem_cons] at h
    rcases h with rfl | h
    · exact ⟨⟨i, rfl⟩, List.mem_cons_self ..⟩
    · obtain ⟨hj, hp⟩ := ih h
      exact ⟨hj, List.mem_cons_of_mem _ hp⟩

/-! ## Read names -/

theorem newline_not_mem_namePrefix : 10 ∉ namePrefix := by decide +kernel

theorem readName_bytes (i : Nat) {mate : Int} (hmate : mate = 1 ∨ mate = 2) :
    10 ∉ readName i mate ∧ (readName i mate).length = 24 := by
  have hnum : ∀ width (n : Int), 10 ∉ zeroPadded width n :=
    not_mem_zeroPadded (b := 10) (by decide) (by decide)
  refine ⟨fun hmem => ?_, length_readName (by omega) (by omega) (by omega)⟩
  simp only [readName, text_slash, decimal_eq_zeroPadded, List.mem_append,
    List.mem_singleton] at hmem
  rcases hmem with ((hp | hz) | hs) | hm
  · exact newline_not_mem_namePrefix hp
  · exact hnum _ _ hz
  · exact absurd hs (by decide)
  · exact hnum _ _ hm

/-- The text of numbered reads of either mate is the text of their records, when no sequence
or quality holds a newline and each is shorter than the reader's buffer. -/
theorem recordText_fastqText {mate : Int} (hmate : mate = 1 ∨ mate = 2) (i : Nat)
    {pairs : List (Bytes × Bytes)}
    (h : ∀ p ∈ pairs, 10 ∉ p.1 ∧ 10 ∉ p.2 ∧ p.1.length < recordLineLimit ∧
      p.2.length < recordLineLimit) :
    RecordText (fastqText mate i pairs) (fastqRecords mate i pairs) := by
  refine ⟨fastqText_eq_records mate i pairs, fun l hl => ?_⟩
  obtain ⟨r, hr, hl⟩ := List.mem_flatMap.1 hl
  obtain ⟨⟨j, hj⟩, hp⟩ := mem_fastqRecords hr
  obtain ⟨hs, hq, hslen, hqlen⟩ := h _ hp
  obtain ⟨hname, hnamelen⟩ := readName_bytes j hmate
  have hlimit : 25 < recordLineLimit := by decide
  simp only [recordLines, List.mem_cons, List.not_mem_nil, or_false] at hl
  rcases hl with rfl | rfl | rfl | rfl
  · refine ⟨?_, by simp [hj, hnamelen, hlimit]⟩
    simpa [hj] using hname
  · exact ⟨hs, hslen⟩
  · exact ⟨by decide, by decide⟩
  · exact ⟨hq, hqlen⟩

end Fastq

end FastqFixtures
