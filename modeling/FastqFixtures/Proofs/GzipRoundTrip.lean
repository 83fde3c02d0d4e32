import Mathlib
import FastqFixtures.Gzip.Member

/-! # Written members read back

A member written by `gzipMember` holds its content in stored blocks, and the reader takes each
block whole: three header bits from a fresh byte, then the block's length, its complement and
its bytes, after which the next block starts on a fresh byte again. So reading a run of written
members, one after another, delivers their contents in order and ends cleanly at the end of the
input: every trailer checks, and every header after a trailer is a written one.

* `byteArray_toList_eq`, `getBang_toByteArray`, `copyStored_eq` — byte arrays seen as lists.
* `inflateFrom_storedBlocks` — a run of stored blocks.
* `unpackFrom_member`, `unpack_members` — members and runs of members.
-/

namespace FastqFixtures.Gzip

set_option autoImplicit false

/-! ## Byte arrays as lists -/

theorem byteArray_getBang_eq (b : ByteArray) (i : Nat) : b.get! i = b.data.toList.getD i 0 := by
  simp only [ByteArray.get!, List.getD_eq_getElem?_getD, Array.getElem?_toList]
  by_cases h : i < b.data.size
  · rw [getElem!_pos b.data i h, Array.getElem?_eq_getElem h]
    rfl
  · rw [getElem!_neg b.data i h, Array.getElem?_eq_none (by omega)]
    rfl

theorem byteArray_toList_loop (b : ByteArray) (i : Nat) (r : List UInt8) :
    ByteArray.toList.loop b i r = r.reverse ++ b.data.toList.drop i := by
  fun_induction ByteArray.toList.loop b i r with
  | case1 i r hi ih =>
    have hi' : i < b.data.toList.length := by simpa using hi
    rw [ih, byteArray_getBang_eq, List.drop_eq_getElem_cons hi', List.getD_eq_getElem?_getD,
      List.getElem?_eq_getElem hi']
    simp
  | case2 i r hi =>
    have hi' : b.data.toList.length ≤ i := by simpa using hi
    simp [List.drop_eq_nil_of_le hi']

theorem byteArray_toList_eq (b : ByteArray) : b.toList = b.data.toList := by
  rw [ByteArray.toList, byteArray_toList_loop]
  simp

theorem byteArray_ext {a b : ByteArray} (h : a.data.toList = b.data.toList) : a = b :=
  ByteArray.ext (Array.toList_inj.1 h)

theorem push_append_toByteArray (out : ByteArray) (b : UInt8) (l : Bytes) :
    out.push b ++ l.toByteArray = out ++ (b :: l).toByteArray := by
  apply byteArray_ext
  simp [ByteArray.data_push]

theorem getBang_toByteArray (L : Bytes) (i : Nat) : L.toByteArray.get! i = L.getD i 0 := by
  rw [byteArray_getBang_eq, List.toList_data_toByteArray]

theorem size_toByteArray (L : Bytes) : L.toByteArray.size = L.length :=
  List.size_toByteArray

theorem copyStored_eq (L : Bytes) {at_ n : Nat} (h : at_ + n ≤ L.length) (out : ByteArray) :
    copyStored L.toByteArray at_ n out = out ++ ((L.drop at_).take n).toByteArray := by
  induction n generalizing at_ out with
  | zero => simp [copyStored, ByteArray.append_empty]
  | succ n ih =>
    have hlt : at_ < L.length := by omega
    have hsize : at_ < L.toByteArray.size := by rw [size_toByteArray]; exact hlt
    have hgetD : L.getD at_ 0 = L[at_] := by simp [List.getD_eq_getElem?_getD, hlt]
    rw [copyStored, if_pos hsize, ih (by omega), getBang_toByteArray, push_append_toByteArray,
      List.drop_eq_getElem_cons hlt, List.take_succ_cons, hgetD]

/-! ## Stored blocks -/

theorem low_three_bits (v : Nat) :
    (List.range 3).foldl (fun acc i => acc + (v >>> i) % 2 * 2 ^ i) 0 = v % 8 := by
  simp only [show List.range 3 = [0, 1, 2] from rfl, List.foldl_cons, List.foldl_nil,
    Nat.shiftRight_eq_div_pow]
  omega

theorem take_three_fresh (L : Bytes) (pos c : Nat) (hpos : pos < L.length) :
    (⟨L.toByteArray, pos, 0, c⟩ : BitReader).take 3 .cut =
      .ok ((L.getD pos 0).toNat % 8, ⟨L.toByteArray, pos + 1, 5, c + 1⟩) := by
  have hfill : (⟨L.toByteArray, pos, 0, c⟩ : BitReader).fill 3 =
      some ⟨L.toByteArray, pos + 1, 8, c + 1⟩ := by
    simp [BitReader.fill]
    omega
  have hpeek : (⟨L.toByteArray, pos + 1, 8, c + 1⟩ : BitReader).peekBits 3 =
      (L.getD pos 0).toNat % 8 := by
    have hidx : ∀ i < 8, (8 * (pos + 1) - 8 + i) / 8 = pos ∧ (8 * (pos + 1) - 8 + i) % 8 = i :=
      fun i hi => by omega
    have h0 : (8 * (pos + 1) - 8) / 8 = pos ∧ (8 * (pos + 1) - 8) % 8 = 0 := by omega
    rw [← low_three_bits]
    simp only [BitReader.peekBits, BitReader.peek, bitAt, getBang_toByteArray,
      show List.range 3 = [0, 1, 2] from rfl, List.foldl_cons, List.foldl_nil]
    simp [hidx, h0]
  simp only [BitReader.take, BitReader.need, hfill]
  show Except.ok (_, _) = _
  rw [hpeek]
  rfl

theorem getD_of_drop_eq {L pre rest : Bytes} {pos : Nat} (hat : L.drop pos = pre ++ rest)
    {j : Nat} (hj : j < pre.length) : L.getD (pos + j) 0 = pre.getD j 0 := by
  have h := congrArg (fun l => l.getD j 0) hat
  simp only [List.getD_eq_getElem?_getD, List.getElem?_drop] at h
  rw [List.getD_eq_getElem?_getD, List.getD_eq_getElem?_getD, h, List.getElem?_append_left hj]

theorem length_of_drop_eq {L pre rest : Bytes} {pos : Nat} (hat : L.drop pos = pre ++ rest)
    (hpre : 0 < pre.length) : pos + pre.length ≤ L.length := by
  have h := congrArg List.length hat
  simp only [List.length_drop, List.length_append] at h
  omega

theorem readStored_block {L rest piece : Bytes} {pos : Nat} {final : Bool}
    (hpiece : piece.length ≤ storedLimit) (hat : L.drop pos = storedBlock final piece ++ rest)
    (c : Nat) (out : ByteArray) :
    readStored out ⟨L.toByteArray, pos + 1, 5, c + 1⟩ =
      (out ++ piece.toByteArray,
        .ok ⟨L.toByteArray, pos + 5 + piece.length, 0, c + 5 + piece.length⟩) := by
  have hsize := length_of_drop_eq hat (by simp [storedBlock])
  simp only [storedBlock, List.length_cons, List.length_append, le16, List.length_nil] at hsize
  have hb : ∀ j < 5, L.getD (pos + j) 0 = (storedBlock final piece).getD j 0 := fun j hj =>
    getD_of_drop_eq hat (by simp [storedBlock, le16]; omega)
  have hpiece' : piece.length < 65536 := by simp [storedLimit] at hpiece; omega
  have hlen : (L.getD (pos + 1) 0).toNat + 256 * (L.getD (pos + 2) 0).toNat = piece.length := by
    rw [hb 1 (by omega), hb 2 (by omega)]
    simp [storedBlock, le16]
    omega
  have hnlen : (L.getD (pos + 3) 0).toNat + 256 * (L.getD (pos + 4) 0).toNat =
      0xFFFF - piece.length := by
    rw [hb 3 (by omega), hb 4 (by omega)]
    simp [storedBlock, le16]
    omega
  have hdrop : L.drop (pos + 5) = piece ++ rest := by
    rw [← List.drop_drop, hat]
    simp [storedBlock, le16]
  have hcopy : (L.drop (pos + 5)).take piece.length = piece := by
    rw [hdrop, List.take_left']
    rfl
  have hfits : pos + 5 + piece.length ≤ L.length := by omega
  simp only [readStored, BitReader.drop, getBang_toByteArray, size_toByteArray,
    show pos + 1 - (5 - 5 % 8) / 8 = pos + 1 by omega, show pos + 1 + 1 = pos + 2 by omega,
    show pos + 1 + 2 = pos + 3 by omega, show pos + 1 + 3 = pos + 4 by omega,
    show pos + 1 + 4 = pos + 5 by omega, hlen, hnlen]
  rw [if_neg (by omega), if_neg (by simp; omega), if_neg (by omega),
    copyStored_eq L (by omega) out, hcopy]

theorem inflateFrom_storedBlock {L rest piece : Bytes} {pos : Nat} {final : Bool}
    (hpiece : piece.length ≤ storedLimit) (hat : L.drop pos = storedBlock final piece ++ rest)
    (fuel : Nat) (lit dist : Table) (out : ByteArray) (c : Nat) :
    inflateFrom (fuel + 1) lit dist out ⟨L.toByteArray, pos, 0, c⟩ =
      let r : BitReader := ⟨L.toByteArray, pos + 5 + piece.length, 0, c + 5 + piece.length⟩
      if final then (out ++ piece.toByteArray, .ok r)
      else inflateFrom fuel lit dist (out ++ piece.toByteArray) r := by
  have hsize := length_of_drop_eq hat (by simp [storedBlock])
  have hhead : L.getD pos 0 = if final then 1 else 0 := by
    simpa [storedBlock] using getD_of_drop_eq hat (j := 0) (by simp [storedBlock])
  have hbits : (L.getD pos 0).toNat % 8 = if final then 1 else 0 := by
    rw [hhead]; cases final <;> rfl
  rw [inflateFrom, take_three_fresh L pos c (by simp [storedBlock] at hsize; omega)]
  simp only [hbits]
  cases final
  · simp [readStored_block hpiece hat]
  · simp [readStored_block hpiece hat]

/-- A run of stored blocks, the last one final, decodes to its pieces and leaves the reader
just after it. -/
theorem inflateFrom_storedBlocks {L rest : Bytes} {pos : Nat} (ps : List Bytes)
    (hps : ∀ p ∈ ps, p.length ≤ storedLimit) (hat : L.drop pos = storedBlocks ps ++ rest)
    (fuel : Nat) (hfuel : ps.length ≤ fuel) (lit dist : Table) (out : ByteArray) (c : Nat) :
    ∃ c', inflateFrom (fuel + 1) lit dist out ⟨L.toByteArray, pos, 0, c⟩ =
      (out ++ ps.flatten.toByteArray,
        .ok ⟨L.toByteArray, pos + (storedBlocks ps).length, 0, c'⟩) := by
  induction ps generalizing pos fuel out c with
  | nil =>
    have hat' : L.drop pos = storedBlock true [] ++ rest := by simpa [storedBlocks] using hat
    refine ⟨c + 5, ?_⟩
    rw [inflateFrom_storedBlock (by simp [storedLimit]) hat']
    simp [storedBlocks, storedBlock, le16]
  | cons p ps ih =>
    cases ps with
    | nil =>
      have hat' : L.drop pos = storedBlock true p ++ rest := by simpa [storedBlocks] using hat
      refine ⟨c + 5 + p.length, ?_⟩
      rw [inflateFrom_storedBlock (hps p List.mem_cons_self) hat']
      simp [storedBlocks, storedBlock, le16]
      omega
    | cons q qs =>
      have hat' : L.drop pos = storedBlock false p ++ (storedBlocks (q :: qs) ++ rest) := by
        simpa [storedBlocks] using hat
      have hnext : L.drop (pos + 5 + p.length) = storedBlocks (q :: qs) ++ rest := by
        rw [show pos + 5 + p.length = pos + (5 + p.length) by omega, ← List.drop_drop, hat',
          List.drop_left' (by simp [storedBlock, le16]; omega)]
      obtain ⟨fuel, rfl⟩ : ∃ f, fuel = f + 1 := ⟨fuel - 1, by simp at hfuel; omega⟩
      obtain ⟨c', hc'⟩ := ih (fun x hx => hps x (List.mem_cons_of_mem p hx)) hnext fuel
        (by simp at hfuel ⊢; omega) (out ++ p.toByteArray) (c + 5 + p.length)
      refine ⟨c', ?_⟩
      rw [inflateFrom_storedBlock (hps p List.mem_cons_self) hat']
      simp only [Bool.false_eq_true, if_false, hc']
      rw [List.flatten_cons, List.toByteArray_append, ByteArray.append_assoc]
      simp [storedBlocks, storedBlock, le16]
      omega

theorem flatten_storedPieces (bs : Bytes) : (storedPieces bs).flatten = bs := by
  fun_induction storedPieces bs with
  | case1 bs h => simp
  | case2 bs h ih => rw [List.flatten_cons, ih, List.take_append_drop]

theorem storedPieces_le (bs : Bytes) : ∀ p ∈ storedPieces bs, p.length ≤ storedLimit := by
  fun_induction storedPieces bs with
  | case1 bs h => simpa using h
  | case2 bs h ih =>
    intro p hp
    rcases List.mem_cons.1 hp with rfl | hp
    · simp
    · exact ih p hp

/-! ## Headers and trailers -/

theorem readHeader_end {L : Bytes} {pos : Nat} (h : L.length ≤ pos) :
    readHeader L.toByteArray pos = .error .ended := by
  simp only [readHeader, size_toByteArray, ge_iff_le, h, if_true]
  rfl

theorem readHeader_member {L rest t : Bytes} {pos : Nat}
    (hat : L.drop pos = gzipMember t ++ rest) : readHeader L.toByteArray pos = .ok (pos + 10) := by
  have hsize := length_of_drop_eq hat (by simp [gzipMember, memberHeader])
  have hb : ∀ j < 10, L.getD (pos + j) 0 = memberHeader.getD j 0 := fun j hj => by
    rw [getD_of_drop_eq hat (by simp [gzipMember, memberHeader]; omega)]
    simp only [gzipMember, List.append_assoc]
    rw [List.getD_eq_getElem?_getD, List.getElem?_append_left (by simp [memberHeader]; omega),
      ← List.getD_eq_getElem?_getD]
  have h0 := hb 0 (by omega)
  have h1 := hb 1 (by omega)
  have h2 := hb 2 (by omega)
  have h3 := hb 3 (by omega)
  simp only [Nat.add_zero] at h0
  simp [memberHeader] at h0 h1 h2 h3
  simp only [gzipMember, List.length_append, memberHeader, List.length_cons, List.length_nil]
    at hsize
  simp [readHeader, getBang_toByteArray, h0, h1, h2, h3]
  rw [if_neg (by omega), if_neg (by omega)]
  rfl

theorem byteArray_foldl_loop {β : Type} (f : β → UInt8 → β) (as : ByteArray) (i j : Nat) (b : β)
    (h : i + j = as.size) :
    @ByteArray.foldlM.loop β Id _ (fun b a => pure (f b a)) as as.size (Nat.le_refl _) i j b =
      pure (as.data.toList.drop j |>.foldl f b) := by
  induction i generalizing j b with
  | zero =>
    unfold ByteArray.foldlM.loop
    have : as.data.toList.drop j = [] := List.drop_eq_nil_of_le (by simp; omega)
    simp [this]
  | succ i ih =>
    unfold ByteArray.foldlM.loop
    have hj : j < as.size := by omega
    have hj' : j < as.data.toList.length := by simpa using hj
    rw [dif_pos hj]
    show @ByteArray.foldlM.loop β Id _ (fun b a => pure (f b a)) as as.size (Nat.le_refl _) i
      (j + 1) (f b as[j]) = _
    rw [ih (j + 1) _ (by omega), List.drop_eq_getElem_cons hj']
    rfl

theorem byteArray_foldl_eq {β : Type} (f : β → UInt8 → β) (init : β) (as : ByteArray) :
    as.foldl f init = as.data.toList.foldl f init := by
  simp only [ByteArray.foldl, ByteArray.foldlM, Nat.le_refl, dif_pos, Nat.sub_zero]
  rw [byteArray_foldl_loop f as as.size 0 init (by simp)]
  rfl

theorem crc32Array_eq (b : ByteArray) : crc32Array b = crc32 b.data.toList := by
  rw [crc32Array, crc32, byteArray_foldl_eq]

theorem readLe_le32 {L rest : Bytes} {pos v : Nat} (hat : L.drop pos = le32 v ++ rest) :
    readLe L.toByteArray pos 4 = v % 2 ^ 32 := by
  have hb : ∀ j < 4, L.getD (pos + j) 0 = (le32 v).getD j 0 := fun j hj =>
    getD_of_drop_eq hat (by simp [le32, le16]; omega)
  have h0 := hb 0 (by omega)
  have h1 := hb 1 (by omega)
  have h2 := hb 2 (by omega)
  have h3 := hb 3 (by omega)
  simp only [Nat.add_zero] at h0
  simp [le32, le16] at h0 h1 h2 h3
  simp [readLe, getBang_toByteArray, h0, h1, h2, h3]
  omega

theorem drop_after {L pre rest : Bytes} {pos : Nat} (hat : L.drop pos = pre ++ rest) :
    L.drop (pos + pre.length) = rest := by
  rw [← List.drop_drop, hat, List.drop_left]

/-- The length of the stored blocks of a member's content. -/
def blocksLength (t : Bytes) : Nat := (storedBlocks (storedPieces t)).length

theorem length_gzipMember (t : Bytes) : (gzipMember t).length = 10 + blocksLength t + 8 := by
  simp [gzipMember, memberHeader, blocksLength, le32, le16]
  omega

theorem member_parts {L rest t : Bytes} {pos : Nat} (hat : L.drop pos = gzipMember t ++ rest) :
    L.drop (pos + 10) =
        storedBlocks (storedPieces t) ++
          (le32 (crc32 t).toNat ++ le32 (t.length % 2 ^ 32) ++ rest) ∧
      L.drop (pos + 10 + blocksLength t) =
        le32 (crc32 t).toNat ++ (le32 (t.length % 2 ^ 32) ++ rest) ∧
      L.drop (pos + 10 + blocksLength t + 4) = le32 (t.length % 2 ^ 32) ++ rest ∧
      L.drop (pos + 10 + blocksLength t + 8) = rest := by
  simp only [gzipMember, List.append_assoc] at hat
  have h1 := drop_after hat
  have h2 := drop_after h1
  have h3 := drop_after h2
  have h4 := drop_after h3
  simp only [memberHeader, le32, le16, List.length_cons, List.length_nil, List.length_append,
    blocksLength] at h1 h2 h3 h4 ⊢
  refine ⟨by simpa using h1, by simpa using h2, by simpa [Nat.add_assoc] using h3,
    by simpa [Nat.add_assoc] using h4⟩

theorem length_le_storedBlocks (ps : List Bytes) : ps.length ≤ (storedBlocks ps).length := by
  induction ps with
  | nil => simp
  | cons p ps ih =>
    cases ps with
    | nil => simp [storedBlocks, storedBlock]
    | cons q qs =>
      simp only [storedBlocks, List.length_append, List.length_cons] at ih ⊢
      simp [storedBlock]
      omega

/-! ## Members -/

theorem inflate_member {L rest t : Bytes} {pos : Nat} (hat : L.drop pos = gzipMember t ++ rest) :
    ∃ c, inflate L.toByteArray (pos + 10) =
      (t.toByteArray, .ok ⟨L.toByteArray, pos + 10 + blocksLength t, 0, c⟩) := by
  have hsize := length_of_drop_eq hat (by rw [length_gzipMember]; omega)
  have hpieces := length_le_storedBlocks (storedPieces t)
  rw [length_gzipMember] at hsize
  obtain ⟨c, hc⟩ := inflateFrom_storedBlocks (storedPieces t) (storedPieces_le t)
    (member_parts hat).1 (8 * L.toByteArray.size)
    (by rw [size_toByteArray]; simp only [blocksLength] at hsize; omega)
    Table.blank Table.blank ByteArray.empty 0
  refine ⟨c, ?_⟩
  rw [inflate, hc, flatten_storedPieces, ByteArray.empty_append]
  rfl

/-- Reading one written member: its content is delivered, its trailer checks, and reading
goes on with the header after it. -/
theorem unpackFrom_member {L rest t : Bytes} {pos : Nat} (hat : L.drop pos = gzipMember t ++ rest)
    (fuel : Nat) (out : ByteArray) :
    unpackFrom L.toByteArray (fuel + 1) (pos + 10) out =
      match readHeader L.toByteArray (pos + (gzipMember t).length) with
      | .ok start => unpackFrom L.toByteArray fuel start (out ++ t.toByteArray)
      | .error .ended => ⟨out ++ t.toByteArray, none⟩
      | .error g => ⟨out ++ t.toByteArray, some g⟩ := by
  obtain ⟨c, hc⟩ := inflate_member hat
  obtain ⟨-, hcrc, hlen, -⟩ := member_parts hat
  have hsize := length_of_drop_eq hat (by rw [length_gzipMember]; omega)
  rw [length_gzipMember] at hsize ⊢
  have hcrc' := readLe_le32 hcrc
  have hlen' := readLe_le32 hlen
  have hcrc32 : (crc32 t).toNat % 2 ^ 32 = (crc32 t).toNat :=
    Nat.mod_eq_of_lt (crc32 t).toNat_lt
  rw [unpackFrom, hc]
  simp only [size_toByteArray, crc32Array_eq, List.toList_data_toByteArray, hcrc', hlen', hcrc32,
    Nat.mod_mod, Nat.pow_eq]
  rw [if_neg (by omega), if_neg (by omega),
    show pos + 10 + blocksLength t + 8 = pos + (10 + blocksLength t + 8) by omega]
  cases readHeader L.toByteArray (pos + (10 + blocksLength t + 8)) with
  | ok start => simp
  | error g => cases g <;> simp

/-- A run of written members reads back as their contents, one after another, and ends
cleanly. -/
theorem unpackFrom_members {L t : Bytes} {ts : List Bytes} {pos : Nat}
    (hat : L.drop pos = (t :: ts).flatMap gzipMember) (fuel : Nat) (hfuel : ts.length < fuel)
    (out : ByteArray) :
    unpackFrom L.toByteArray fuel (pos + 10) out =
      ⟨out ++ (t :: ts).flatten.toByteArray, none⟩ := by
  induction ts generalizing t pos fuel out with
  | nil =>
    obtain ⟨fuel, rfl⟩ : ∃ f, fuel = f + 1 := ⟨fuel - 1, by omega⟩
    have hat' : L.drop pos = gzipMember t ++ [] := by simpa using hat
    have hend : L.length ≤ pos + (gzipMember t).length := by
      have := congrArg List.length (drop_after hat')
      simp at this
      omega
    rw [unpackFrom_member hat' fuel out, readHeader_end hend]
    simp
  | cons t' ts ih =>
    obtain ⟨fuel, rfl⟩ : ∃ f, fuel = f + 1 := ⟨fuel - 1, by omega⟩
    have hat' : L.drop pos = gzipMember t ++ (t' :: ts).flatMap gzipMember := by simpa using hat
    have hnext := drop_after hat'
    have hnext' : L.drop (pos + (gzipMember t).length) =
        gzipMember t' ++ ts.flatMap gzipMember := by simpa using hnext
    rw [unpackFrom_member hat' fuel out, readHeader_member hnext']
    simp only
    rw [ih hnext fuel (by simp at hfuel; omega)]
    simp [ByteArray.append_assoc, List.toByteArray_append]

/-- Written members, concatenated, read back as the concatenation of their contents. -/
theorem unpack_members (ts : List Bytes) (hts : ts ≠ []) :
    unpack (ts.flatMap gzipMember).toByteArray = .ok ⟨ts.flatten.toByteArray, none⟩ := by
  obtain ⟨t, ts, rfl⟩ := List.exists_cons_of_ne_nil hts
  have hat : (List.flatMap gzipMember (t :: ts)).drop 0 =
      gzipMember t ++ ts.flatMap gzipMember := by
    simp
  have hcount : ∀ us : List Bytes, us.length ≤ (us.flatMap gzipMember).length := by
    intro us
    induction us with
    | nil => simp
    | cons u us ih =>
      simp only [List.flatMap_cons, List.length_append, List.length_cons, length_gzipMember]
      omega
  have hlen : ts.length < (List.flatMap gzipMember (t :: ts)).length := by
    have := hcount ts
    simp only [List.flatMap_cons, List.length_append, length_gzipMember]
    omega
  rw [unpack, readHeader_member hat]
  simp only
  have hall : (List.flatMap gzipMember (t :: ts)).drop 0 = (t :: ts).flatMap gzipMember :=
    List.drop_zero
  rw [size_toByteArray, unpackFrom_members hall _ hlen, ByteArray.empty_append]

end FastqFixtures.Gzip
