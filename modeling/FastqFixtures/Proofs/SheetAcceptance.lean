import Mathlib
import FastqFixtures.SampleSheet

/-! # Which sample sheets are accepted, and which fault a refused one reports

A sheet is read line by line. When no line reaches the reader's limit, the lines are the pieces
between newlines, each without a final carriage return (`streamLines`). The lines that hold
rows are numbered among all lines (`numberedRows`), and each row is checked against the rows
before it: at least four fields, a last field that reads as a number that is not negative, an
id that no earlier row has (`RowFits`, with `rowFault` naming the first check that fails).

Main statements:

* `cutLines_of_short` — with every piece between newlines shorter than the limit, cutting
  delivers exactly `streamLines`.
* `parseSheet_accepts_iff` — a sheet is accepted exactly when every row fits the rows before
  it, and then its entries are its rows in order; otherwise the fault is that of the first row
  that does not fit.
* `parseSheet_stops_at_long_line_before_return` — the limit counts a line's carriage return:
  a line of 65535 bytes before `\r\n` stops the reading although it is shorter than the limit.
-/

namespace FastqFixtures.Text

set_option autoImplicit false

/-- The lines delivered for the pieces between newlines: each piece without its final carriage
return, the piece after the last newline only when it is not empty. -/
def piecesLines (pieces : List Bytes) : List Bytes :=
  (if pieces.getLast? = some [] then pieces.dropLast else pieces).map dropReturn

/-- The lines of a stream: the pieces between newlines, each without a final carriage return,
and the piece after the last newline only when it is not empty. -/
def streamLines (bs : Bytes) : List Bytes := piecesLines (Bytes.splitOn 10 bs)

theorem piecesLines_cons {x : Bytes} {rest : List Bytes} (h : rest ≠ []) :
    piecesLines (x :: rest) = dropReturn x :: piecesLines rest := by
  obtain ⟨y, ys, rfl⟩ := List.exists_cons_of_ne_nil h
  simp only [piecesLines, List.getLast?_cons_cons]
  split <;> simp

theorem piecesLines_singleton (x : Bytes) :
    piecesLines [x] = if x = [] then [] else [dropReturn x] := by
  by_cases hx : x = [] <;> simp [piecesLines, hx]

theorem dropReturn_concat_return (line : Bytes) : dropReturn (line ++ [13]) = line := by
  simp only [dropReturn, List.getLast?_concat, List.dropLast_concat]

theorem exists_long_piece (p : UInt8 → Bool) (bs acc : Bytes) :
    ∃ piece ∈ bs.splitOnPPrepend p acc, acc.length ≤ piece.length := by
  rw [List.splitOnPPrepend_eq_modifyHead]
  obtain ⟨first, rest, hsplit⟩ := List.exists_cons_of_ne_nil (List.splitOnP_ne_nil p bs)
  refine ⟨acc.reverse ++ first, by simp [hsplit], by simp⟩

/-- Cutting with the current line `cur` delivers the lines of the pieces that the rest of the
stream forms with `cur` in front, when each of them is shorter than the limit. -/
theorem cutFrom_of_short {limit : Nat} (bs : Bytes) (done : List Bytes) (cur : Bytes)
    (hshort : ∀ piece ∈ bs.splitOnPPrepend (· == 10) cur, piece.length < limit) :
    cutFrom limit done cur cur.length bs =
      (done.reverse ++ piecesLines (bs.splitOnPPrepend (· == 10) cur), .complete) := by
  induction bs generalizing done cur with
  | nil =>
    by_cases hcur : cur = [] <;> simp [cutFrom, piecesLines_singleton, hcur]
  | cons b bs ih =>
    by_cases hb : b = 10
    · -- a newline ends the current line; the pieces after it start afresh
      subst hb
      rw [List.splitOnPPrepend_cons_pos (p := (· == 10)) (by rfl)] at hshort ⊢
      have hrest := ih (dropReturn cur.reverse :: done) []
        (fun piece hp => hshort piece (List.mem_cons_of_mem _ hp))
      simp only [cutFrom, beq_self_eq_true, if_true, List.length_nil] at hrest ⊢
      rw [hrest, List.splitOnPPrepend_nil_right, piecesLines_cons (List.splitOnP_ne_nil _ _)]
      simp
    · have hb' : (b == 10) = false := beq_eq_false_iff_ne.2 hb
      rw [List.splitOnPPrepend_cons_neg (p := (· == 10)) hb'] at hshort ⊢
      -- the current line is still shorter than the limit once `b` joins it
      have hfits : ¬ cur.length + 1 ≥ limit := by
        obtain ⟨piece, hp, hlen⟩ := exists_long_piece (· == 10) bs (b :: cur)
        have := hshort piece hp
        simp only [List.length_cons] at hlen
        omega
      simp only [cutFrom, hb', Bool.false_eq_true, if_false, hfits]
      exact ih done (b :: cur) hshort

/-- With every piece between newlines shorter than the limit, cutting delivers the lines of the
stream and completes. -/
theorem cutLines_of_short {limit : Nat} {bs : Bytes}
    (hshort : ∀ piece ∈ Bytes.splitOn 10 bs, piece.length < limit) :
    cutLines limit bs = (streamLines bs, .complete) :=
  cutFrom_of_short bs [] [] hshort

/-- A run of bytes without newline that brings the current line to the limit stops the
cutting, with the lines already cut. -/
theorem cutFrom_of_long (limit : Nat) (xs rest : Bytes) (done : List Bytes) (cur : Bytes)
    (hcur : cur.length < limit) (hlong : limit ≤ cur.length + xs.length)
    (hxs : ∀ b ∈ xs, b ≠ 10) :
    cutFrom limit done cur cur.length (xs ++ rest) = (done.reverse, .tooLong) := by
  induction xs generalizing cur with
  | nil => simp at hlong; omega
  | cons x xs ih =>
    have hx : (x == 10) = false := beq_eq_false_iff_ne.2 (hxs x List.mem_cons_self)
    simp only [List.cons_append, cutFrom, hx, Bool.false_eq_true, if_false]
    split
    · rfl
    · exact ih (x :: cur) (by simp; omega) (by simp at hlong ⊢; omega)
        (fun b hb => hxs b (List.mem_cons_of_mem _ hb))

end FastqFixtures.Text

namespace FastqFixtures.Sheet

open FastqFixtures.Text

set_option autoImplicit false

/-! ## Rows and their checks -/

/-- A row: the line that holds it, and its number among all lines. -/
abbrev Row := Bytes × Nat

/-- Whether a line holds a row: it is not skipped and has a field. -/
def holdsRow (line : Bytes) : Bool := !(skipped line || (fields line).isEmpty)

/-- The lines that hold rows, each with its number; the first line is numbered `n`. -/
def numberedRows (n : Nat) (lines : List Bytes) : List Row := (lines.zipIdx n).filter (holdsRow ·.1)

/-- The id of a row: its first field. -/
def rowId (row : Row) : Bytes := (fields row.1).headD []

/-- The read count of a row: its last field. -/
def countField (row : Row) : Bytes := (fields row.1).getLastD []

/-- The checks a row passes, given the rows before it: at least four fields, a read count that
reads as a number that is not negative, and an id that no earlier row has. -/
structure RowFits (earlier : List Row) (row : Row) : Prop where
  enough : 4 ≤ (fields row.1).length
  count : ∃ v, readInteger false (countField row) = .ok v ∧ 0 ≤ v
  fresh : ∀ r ∈ earlier, rowId r ≠ rowId row

/-- Every row fits the rows before it, the rows `earlier` standing before all of them. -/
def FitAfter (earlier : List Row) : List Row → Prop
  | [] => True
  | row :: rest => RowFits earlier row ∧ FitAfter (earlier ++ [row]) rest

/-- The fault of a row, given the rows before it: the checks run in the order field count,
read count, repeated id, and a repeated id names the line of the first row that has it. -/
def rowFault (earlier : List Row) (row : Row) : Option SheetFault :=
  if (fields row.1).length < 4 then some (.fieldCount row.2 (fields row.1).length)
  else
    match readInteger false (countField row) with
    | .error _ => some (.readCount row.2 (countField row))
    | .ok v =>
      if v < 0 then some (.readCount row.2 (countField row))
      else
        match earlier.find? (rowId · == rowId row) with
        | some first => some (.duplicate row.2 (rowId row) first.2)
        | none => none

/-- A row lists an entry: its first three fields are the id and the barcodes, and its read
count reads as the entry's count. -/
structure Lists (row : Row) (e : Entry) : Prop where
  sampleId : e.sampleId = rowId row
  i7 : e.i7 = (fields row.1).getD 1 []
  i5 : e.i5 = (fields row.1).getD 2 []
  reads : readInteger false (countField row) = .ok e.reads

theorem rowFault_eq_none_iff {earlier : List Row} {row : Row} :
    rowFault earlier row = none ↔ RowFits earlier row := by
  unfold rowFault
  constructor
  · intro h
    split at h
    · cases h
    · rename_i henough
      split at h
      · cases h
      · rename_i v hv
        split at h
        · cases h
        · rename_i hneg
          split at h
          · cases h
          · rename_i hfind
            refine ⟨by omega, ⟨v, hv, by omega⟩, fun r hr hid => ?_⟩
            have := List.find?_eq_none.1 hfind r hr
            simp [hid] at this
  · rintro ⟨henough, ⟨v, hv, hnonneg⟩, hfresh⟩
    have hfind : earlier.find? (rowId · == rowId row) = none :=
      List.find?_eq_none.2 fun r hr => by simpa using hfresh r hr
    simp [show ¬ (fields row.1).length < 4 by omega, hv, show ¬ v < 0 by omega, hfind]

theorem Lists.unique {row : Row} {e e' : Entry} (h : Lists row e) (h' : Lists row e') : e = e' := by
  have hreads : e.reads = e'.reads := by
    have := h.reads.symm.trans h'.reads
    exact Except.ok.inj this
  cases e
  cases e'
  simp only [Entry.mk.injEq]
  exact ⟨h.sampleId.trans h'.sampleId.symm, h.i7.trans h'.i7.symm, h.i5.trans h'.i5.symm, hreads⟩

theorem numberedRows_cons (n : Nat) (line : Bytes) (rest : List Bytes) :
    numberedRows n (line :: rest) =
      if holdsRow line then (line, n) :: numberedRows (n + 1) rest else numberedRows (n + 1) rest := by
  simp only [numberedRows, List.zipIdx_cons, List.filter_cons]

/-- The entry of a row with the read count `v`. -/
def rowEntry (row : Row) (v : Int) : Entry :=
  ⟨rowId row, (fields row.1).getD 1 [], (fields row.1).getD 2 [], v⟩

/-! ## One line read -/

/-- The map of ids holds, for each id, the line of the first of the rows `earlier` with it. -/
def Recorded (seen : Std.HashMap Bytes Nat) (earlier : List Row) : Prop :=
  ∀ id, seen.get? id = (earlier.find? (rowId · == id)).map (·.2)

theorem recorded_empty : Recorded ∅ [] := fun id => by simp

theorem Recorded.insert {seen : Std.HashMap Bytes Nat} {earlier : List Row}
    (h : Recorded seen earlier) {row : Row} (hfresh : ∀ r ∈ earlier, rowId r ≠ rowId row) :
    Recorded (seen.insert (rowId row) row.2) (earlier ++ [row]) := by
  intro id
  rw [Std.HashMap.get?_insert, List.find?_append, h id]
  by_cases hid : rowId row = id
  · subst hid
    have hnone : earlier.find? (rowId · == rowId row) = none :=
      List.find?_eq_none.2 fun r hr => by simpa using hfresh r hr
    simp [hnone]
  · simp [hid]

variable {seen : Std.HashMap Bytes Nat} {acc : List Entry} {n : Nat} {line : Bytes}
  {rest : List Bytes}

theorem parseRows_skip (hrow : holdsRow line = false) :
    parseRows seen acc n (line :: rest) = parseRows seen acc (n + 1) rest := by
  have hskip : (skipped line || (fields line).isEmpty) = true := by
    simpa only [holdsRow, Bool.not_eq_eq_eq_not, Bool.not_false] using hrow
  rw [parseRows]
  simp only [hskip, if_true]

theorem parseRows_fault {earlier : List Row} (hseen : Recorded seen earlier)
    (hrow : holdsRow line = true) {f : SheetFault} (hf : rowFault earlier (line, n) = some f) :
    parseRows seen acc n (line :: rest) = .error (.sheet f) := by
  have hkeep : (skipped line || (fields line).isEmpty) = false := by
    simpa only [holdsRow, Bool.not_eq_eq_eq_not, Bool.not_true] using hrow
  rw [parseRows]
  simp only [rowFault, countField, rowId] at hf
  simp only [hkeep, Bool.false_eq_true, if_false]
  split at hf
  · -- too few fields
    rename_i hlen
    cases hf
    simp only [hlen, if_true]
  · rename_i hlen
    simp only [hlen, if_false]
    cases hv : readInteger false ((fields line).getLastD []) with
    | error e =>
      simp only [hv, Option.some.injEq] at hf
      rw [hf]
    | ok v =>
      simp only [hv] at hf ⊢
      split at hf
      · -- the read count is negative
        rename_i hneg
        cases hf
        simp only [hneg, if_true]
      · rename_i hneg
        simp only [hneg, if_false]
        split at hf
        · -- the id was listed before
          rename_i first hfirst
          cases hf
          have hget : seen.get? ((fields line).headD []) = some first.2 := by
            rw [hseen]
            simp only [rowId]
            rw [hfirst]
            rfl
          simp only [hget]
        · cases hf

theorem parseRows_fits (acc : List Entry) (rest : List Bytes) {earlier : List Row}
    (hseen : Recorded seen earlier)
    (hrow : holdsRow line = true) (hfits : RowFits earlier (line, n)) :
    ∃ v, Lists (line, n) (rowEntry (line, n) v) ∧
      parseRows seen acc n (line :: rest) =
        parseRows (seen.insert (rowId (line, n)) n) (rowEntry (line, n) v :: acc) (n + 1) rest := by
  have hkeep : (skipped line || (fields line).isEmpty) = false := by
    simpa only [holdsRow, Bool.not_eq_eq_eq_not, Bool.not_true] using hrow
  obtain ⟨henough, ⟨v, hv, hnonneg⟩, hfresh⟩ := hfits
  have hnew : seen.get? (rowId (line, n)) = none := by
    rw [hseen, Option.map_eq_none_iff, List.find?_eq_none]
    intro r hr
    simpa using hfresh r hr
  refine ⟨v, ⟨rfl, rfl, rfl, hv⟩, ?_⟩
  rw [parseRows]
  simp only [countField, rowId] at hv hnew
  simp only [hkeep, Bool.false_eq_true, if_false, Nat.not_lt.2 henough]
  rw [hv]
  simp only [show ¬ v < 0 by omega, if_false, hnew, rowEntry, rowId]

/-! ## The lines of a sheet read in turn -/

theorem Lists.forall₂_unique {rows : List Row} {es es' : List Entry}
    (h : List.Forall₂ Lists rows es) (h' : List.Forall₂ Lists rows es') : es = es' := by
  induction h generalizing es' with
  | nil => exact (List.forall₂_nil_left_iff.1 h').symm
  | cons hre _ ih =>
    cases h' with
    | cons hre' hrest' => rw [hre.unique hre', ih hrest']

/-- Reading lines after the rows `earlier` accepts exactly when each further row fits the rows
before it, and then lists all rows, `earlier` and the new ones, in order. -/
theorem parseRows_eq_ok_iff (lines : List Bytes) {earlier : List Row}
    (hseen : Recorded seen earlier) (hacc : List.Forall₂ Lists earlier acc.reverse)
    (es : List Entry) :
    parseRows seen acc n lines = .ok es ↔
      FitAfter earlier (numberedRows n lines) ∧
        List.Forall₂ Lists (earlier ++ numberedRows n lines) es := by
  induction lines generalizing seen acc n earlier with
  | nil =>
    simp only [parseRows, numberedRows, List.zipIdx_nil, List.filter_nil, FitAfter,
      List.append_nil, true_and, Except.ok.injEq]
    exact ⟨fun h => h ▸ hacc, fun h => Lists.forall₂_unique hacc h⟩
  | cons line rest ih =>
    rw [numberedRows_cons]
    by_cases hrow : holdsRow line
    · rw [if_pos hrow]
      cases hf : rowFault earlier (line, n) with
      | some f =>
        -- the row has a fault: the reading fails, and the row does not fit
        have hnot : ¬ RowFits earlier (line, n) := by
          rw [← rowFault_eq_none_iff, hf]
          exact Option.some_ne_none f
        rw [parseRows_fault hseen hrow hf]
        simp [FitAfter, hnot]
      | none =>
        have hfits := rowFault_eq_none_iff.1 hf
        obtain ⟨v, hlists, heq⟩ := parseRows_fits acc rest hseen hrow hfits
        have hacc' : List.Forall₂ Lists (earlier ++ [(line, n)]) (rowEntry (line, n) v :: acc).reverse := by
          rw [List.reverse_cons]
          exact List.rel_append hacc (List.Forall₂.cons hlists List.Forall₂.nil)
        rw [heq, ih (hseen.insert hfits.fresh) hacc']
        simp [FitAfter, hfits]
    · rw [if_neg hrow, parseRows_skip (by simpa using hrow)]
      exact ih hseen hacc

/-- When the rows before some row all fit, and that row has a fault, reading fails with that
fault. -/
theorem parseRows_first_fault {lines : List Bytes} {earlier pre post : List Row} {row : Row}
    {f : SheetFault} (hseen : Recorded seen earlier)
    (hrows : numberedRows n lines = pre ++ row :: post) (hpre : FitAfter earlier pre)
    (hf : rowFault (earlier ++ pre) row = some f) :
    parseRows seen acc n lines = .error (.sheet f) := by
  induction lines generalizing seen acc n earlier pre with
  | nil => simp [numberedRows] at hrows
  | cons line rest ih =>
    rw [numberedRows_cons] at hrows
    by_cases hrow : holdsRow line
    · rw [if_pos hrow] at hrows
      cases pre with
      | nil =>
        obtain ⟨rfl, -⟩ := List.cons.inj hrows
        rw [List.append_nil] at hf
        exact parseRows_fault hseen hrow hf
      | cons first pre =>
        rw [List.cons_append, List.cons.injEq] at hrows
        obtain ⟨rfl, hrows⟩ := hrows
        obtain ⟨hfits, hpre⟩ := hpre
        obtain ⟨v, -, heq⟩ := parseRows_fits acc rest hseen hrow hfits
        rw [heq]
        exact ih (hseen.insert hfits.fresh) hrows hpre (by simpa using hf)
    · rw [if_neg hrow] at hrows
      rw [parseRows_skip (by simpa using hrow)]
      exact ih hseen hrows hpre hf

/-! ## Whole sheets -/

/-- The rows of a sheet: its lines that hold rows, numbered from 1 among all its lines. -/
def sheetRows (bs : Bytes) : List Row := numberedRows 1 (streamLines bs)

theorem parseSheet_of_short {bs : Bytes}
    (hshort : ∀ piece ∈ Bytes.splitOn 10 bs, piece.length < lineLimit) :
    parseSheet bs = parseRows ∅ [] 1 (streamLines bs) := by
  simp only [parseSheet, cutLines_of_short hshort]
  cases parseRows ∅ [] 1 (streamLines bs) <;> rfl

/-- When no line reaches the reader's limit, a sheet is accepted exactly when every row fits
the rows before it (at least four fields, a read count that is a number and not negative, an
id not listed before), and its entries are then its rows in order. Otherwise the first row that
does not fit gives the fault: the first of its checks that fails, in the order field count,
read count, repeated id, a repeated id naming the line of its first row. -/
theorem parseSheet_accepts_iff {bs : Bytes}
    (hshort : ∀ piece ∈ Bytes.splitOn 10 bs, piece.length < lineLimit) :
    (∀ es, parseSheet bs = .ok es ↔
      FitAfter [] (sheetRows bs) ∧ List.Forall₂ Lists (sheetRows bs) es) ∧
    ∀ pre row post f, sheetRows bs = pre ++ row :: post → FitAfter [] pre →
      rowFault pre row = some f → parseSheet bs = .error (.sheet f) := by
  rw [parseSheet_of_short hshort]
  refine ⟨fun es => ?_, fun pre row post f hrows hpre hf => ?_⟩
  · simpa [sheetRows] using parseRows_eq_ok_iff (n := 1) (streamLines bs) recorded_empty
      List.Forall₂.nil es
  · exact parseRows_first_fault recorded_empty hrows hpre (by simpa using hf)

/-- A sheet with a header, a comment, a short line, a seven-column row ended by a carriage
return, and a repeated id. -/
def repeatedIdSheet : Bytes :=
  text "sample_id\ti7\ti5\tread_cnt\n# retired\nab\nS1 AC GT x GT AC 3\r\nS1 AA CC 4\n"

theorem parseSheet_accepts_iff_repeatedIdSheet :
    (∀ piece ∈ Bytes.splitOn 10 repeatedIdSheet, piece.length < lineLimit) ∧
    (∀ es, parseSheet repeatedIdSheet = .ok es ↔
      FitAfter [] (sheetRows repeatedIdSheet) ∧ List.Forall₂ Lists (sheetRows repeatedIdSheet) es) ∧
    ∀ pre row post f, sheetRows repeatedIdSheet = pre ++ row :: post → FitAfter [] pre →
      rowFault pre row = some f → parseSheet repeatedIdSheet = .error (.sheet f) :=
  have hshort : ∀ piece ∈ Bytes.splitOn 10 repeatedIdSheet, piece.length < lineLimit := by
    decide +kernel
  ⟨hshort, parseSheet_accepts_iff hshort⟩

/-! ## The limit counts the carriage return -/

/-- A line of 65535 bytes and a carriage return, then a newline. -/
def longReturnLine : Bytes := List.replicate 65535 65 ++ [13] ++ [10]

theorem streamLines_longReturnLine : streamLines longReturnLine = [List.replicate 65535 65] := by
  have hsplit : Bytes.splitOn 10 longReturnLine = [List.replicate 65535 65 ++ [13], []] := by
    have hnone : ∀ b ∈ List.replicate 65535 (65 : UInt8) ++ [13], (b == 10) = false := by
      intro b hb
      simp only [List.mem_append, List.mem_replicate, List.mem_singleton] at hb
      rcases hb with ⟨-, rfl⟩ | rfl <;> rfl
    exact List.splitOnP_append_cons_of_forall_mem hnone 10 (by rfl) []
  rw [streamLines, hsplit, piecesLines_cons (List.cons_ne_nil _ _), piecesLines_singleton,
    if_pos rfl, dropReturn_concat_return]

/-- A reading stopped by a line that reaches the limit fails so, once the lines before it
were read without a fault. -/
theorem parseSheet_of_tooLong {bs : Bytes} {lines : List Bytes}
    (hcut : cutLines lineLimit bs = (lines, .tooLong)) {rows : List Entry}
    (hrows : parseRows ∅ [] 1 lines = .ok rows) : parseSheet bs = .error .tooLong := by
  simp only [parseSheet, hcut, hrows]
  rfl

theorem cutLines_longReturnLine : cutLines lineLimit longReturnLine = ([], .tooLong) := by
  have hcut := cutFrom_of_long lineLimit (List.replicate 65535 65 ++ [13]) [10] [] []
    (by decide)
    (by rw [List.length_nil, List.length_append, List.length_replicate]; decide)
    (fun b hb => by
      rw [List.mem_append, List.mem_replicate, List.mem_singleton] at hb
      rcases hb with ⟨-, rfl⟩ | rfl <;> decide)
  rw [List.length_nil, List.reverse_nil] at hcut
  exact hcut

/-- The reader's limit counts a line's carriage return: a line of 65535 bytes, shorter than the
limit once its carriage return is dropped, stops the reading before any row is checked. -/
theorem parseSheet_stops_at_long_line_before_return :
    (∀ line ∈ streamLines longReturnLine, line.length < lineLimit) ∧
      parseSheet longReturnLine = .error .tooLong := by
  refine ⟨?_, parseSheet_of_tooLong cutLines_longReturnLine rfl⟩
  rw [streamLines_longReturnLine]
  intro line hline
  rw [List.mem_singleton.1 hline, List.length_replicate]
  decide

end FastqFixtures.Sheet
