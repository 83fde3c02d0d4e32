import Mathlib
import FastqFixtures.Fastq.Name

/-! # Read names

A read's header is the fixed prefix, the read's number in a zero-padded field, a slash and the
mate. Each part can be read back: neither numeral holds a slash, a numeral's sign is its first
byte, and the value of its digits is its magnitude whatever zeros pad it. Two headers are
therefore equal exactly when their mates and written numbers are. Numbers up to the field's
largest are written as they are, so the headers of reads `1..n` are distinct exactly while `n`
stays within the field; the read just past it repeats the first.

* `digitsValue` — the number a run of decimal digits stands for.
* `zeroPadded_injective`, `decimal_injective` — numerals are read back.
* `not_mem_zeroPadded` — a numeral holds a sign and digits only.
* `readName_eq_iff` — equal headers are those of equal mates and written numbers.
* `injOn_readName_iff` — the headers of reads `1..n` are distinct while `n` fits the field.
* `length_readName` — headers of non-negative reads and one-digit mates have 24 bytes.
-/

namespace FastqFixtures

set_option autoImplicit false

namespace Text

/-! ## Decimal digits -/

theorem toNat_of_mem_toDigits {n : Nat} {c : Char} (hc : c ∈ Nat.toDigits 10 n) :
    48 ≤ c.toNat ∧ c.toNat ≤ 57 := by
  have hd := Nat.isDigit_of_mem_toDigits (by decide) (by decide) hc
  simp only [Char.isDigit, Bool.and_eq_true, decide_eq_true_eq] at hd
  exact ⟨hd.1, hd.2⟩

theorem digits_bytes (n : Nat) : ∀ b ∈ digits n, 48 ≤ b.toNat ∧ b.toNat ≤ 57 := by
  intro b hb
  obtain ⟨c, hc, rfl⟩ := List.mem_map.1 hb
  obtain ⟨h48, h57⟩ := toNat_of_mem_toDigits hc
  rw [Nat.toUInt8, UInt8.toNat_ofNat']
  omega

theorem length_digits_le {n : Nat} (h : n < 10 ^ 8) : (digits n).length ≤ 8 := by
  simpa [digits] using Nat.toDigits_length 10 n 8 (by decide) h

theorem digits_of_lt_ten {n : Nat} (h : n < 10) : digits n = [(n.digitChar.toNat).toUInt8] := by
  simp [digits, Nat.toDigits_of_lt_base h]

/-- The number a run of decimal digits stands for. -/
def digitsValue (bs : Bytes) : Nat := Nat.ofDigitChars 10 (bs.map fun b => Char.ofNat b.toNat) 0

theorem map_charOfNat_digits (n : Nat) :
    (digits n).map (fun b => Char.ofNat b.toNat) = Nat.toDigits 10 n := by
  rw [digits, List.map_map]
  conv_rhs => rw [← List.map_id (Nat.toDigits 10 n)]
  refine List.map_congr_left fun c hc => ?_
  have h57 : c.toNat ≤ 57 := (toNat_of_mem_toDigits hc).2
  have hbyte : c.toNat.toUInt8.toNat = c.toNat := by
    rw [Nat.toUInt8, UInt8.toNat_ofNat']
    omega
  simp only [Function.comp_apply, hbyte, Char.ofNat_toNat, id_eq]

@[simp] theorem digitsValue_digits (n : Nat) : digitsValue (digits n) = n := by
  rw [digitsValue, map_charOfNat_digits, Nat.ofDigitChars_ten_toDigits]

@[simp] theorem digitsValue_zeros_append (k : Nat) (bs : Bytes) :
    digitsValue (List.replicate k 48 ++ bs) = digitsValue bs := by
  have hzero : Char.ofNat (48 : UInt8).toNat = '0' := by decide
  rw [digitsValue, List.map_append, List.map_replicate, hzero, Nat.ofDigitChars_append,
    Nat.ofDigitChars_replicate_zero, Nat.mul_zero, digitsValue]

theorem eq_of_zeros_digits {k l a b : Nat}
    (h : List.replicate k 48 ++ digits a = List.replicate l 48 ++ digits b) : a = b := by
  have := congrArg digitsValue h
  simpa only [digitsValue_zeros_append, digitsValue_digits] using this

/-! ## Numerals -/

theorem decimal_eq_zeroPadded (n : Int) : decimal n = zeroPadded 0 n := by
  unfold decimal zeroPadded
  split <;> simp

theorem zeroPadded_of_nonneg (width : Nat) {n : Int} (h : 0 ≤ n) :
    zeroPadded width n =
      List.replicate (width - (digits n.natAbs).length) 48 ++ digits n.natAbs := by
  simp [zeroPadded, Int.not_lt.2 h]

theorem zeroPadded_of_neg (width : Nat) {n : Int} (h : n < 0) :
    zeroPadded width n =
      45 :: (List.replicate (width - 1 - (digits n.natAbs).length) 48 ++ digits n.natAbs) := by
  simp [zeroPadded, h]

theorem zeros_digits_bytes (k n : Nat) :
    ∀ b ∈ List.replicate k 48 ++ digits n, 48 ≤ b.toNat ∧ b.toNat ≤ 57 := by
  intro b hb
  rcases List.mem_append.1 hb with hz | hd
  · rw [(List.mem_replicate.1 hz).2]
    decide
  · exact digits_bytes n b hd

theorem zeroPadded_bytes (width : Nat) (n : Int) :
    ∀ b ∈ zeroPadded width n, b = 45 ∨ 48 ≤ b.toNat ∧ b.toNat ≤ 57 := by
  intro b hb
  rcases Int.lt_or_le n 0 with hn | hn
  · rw [zeroPadded_of_neg width hn, List.mem_cons] at hb
    exact hb.imp id (zeros_digits_bytes _ _ b)
  · rw [zeroPadded_of_nonneg width hn] at hb
    exact .inr (zeros_digits_bytes _ _ b hb)

theorem not_mem_zeroPadded {b : UInt8} (h45 : b ≠ 45) (hd : b.toNat < 48 ∨ 57 < b.toNat)
    (width : Nat) (n : Int) : b ∉ zeroPadded width n := by
  intro h
  rcases zeroPadded_bytes width n b h with h | h
  · exact h45 h
  · omega

/-- A padded numeral starts with a minus sign exactly when its number is negative, and the
value of the digits after the sign is the number's magnitude. -/
theorem zeroPadded_injective (width : Nat) : Function.Injective (zeroPadded width) := by
  intro x y h
  -- a sign on one side only cannot be: the other side holds digits alone
  have hsign : ∀ {u v : Int}, u < 0 → 0 ≤ v → zeroPadded width u ≠ zeroPadded width v := by
    intro u v hu hv huv
    have hmem : 45 ∈ zeroPadded width v := by
      rw [← huv, zeroPadded_of_neg width hu]
      exact List.mem_cons_self ..
    rw [zeroPadded_of_nonneg width hv] at hmem
    have := zeros_digits_bytes _ _ 45 hmem
    simp at this
  rcases Int.lt_or_le x 0 with hx | hx <;> rcases Int.lt_or_le y 0 with hy | hy
  · rw [zeroPadded_of_neg width hx, zeroPadded_of_neg width hy, List.cons_inj_right] at h
    have := eq_of_zeros_digits h
    omega
  · exact absurd h (hsign hx hy)
  · exact absurd h.symm (hsign hy hx)
  · rw [zeroPadded_of_nonneg width hx, zeroPadded_of_nonneg width hy] at h
    have := eq_of_zeros_digits h
    omega

theorem decimal_injective : Function.Injective decimal := by
  intro x y h
  rw [decimal_eq_zeroPadded, decimal_eq_zeroPadded] at h
  exact zeroPadded_injective 0 h

theorem length_zeroPadded {width : Nat} {n : Int} (hn : 0 ≤ n)
    (h : (digits n.natAbs).length ≤ width) : (zeroPadded width n).length = width := by
  rw [zeroPadded_of_nonneg width hn, List.length_append, List.length_replicate]
  omega

end Text

namespace Fastq

open Text

/-! ## Written numbers -/

theorem readIndex_of_le {i : Int} (h : i ≤ maxReadIndex) : readIndex i = i := by
  rw [readIndex, if_neg (Int.not_lt.2 h)]

theorem readIndex_of_lt {i : Int} (h : maxReadIndex < i) :
    readIndex i = i % maxReadIndex ∧ 0 ≤ readIndex i ∧ readIndex i ≤ 99999998 := by
  rw [readIndex, if_pos h]
  refine ⟨rfl, Int.emod_nonneg _ (by decide), ?_⟩
  have := Int.emod_lt_of_pos i (by decide : (0 : Int) < maxReadIndex)
  simp only [maxReadIndex] at this ⊢
  omega

theorem readIndex_bounds {i : Int} (h : 0 ≤ i) : 0 ≤ readIndex i ∧ readIndex i < 10 ^ 8 := by
  rcases Int.lt_or_le maxReadIndex i with hi | hi
  · obtain ⟨-, h0, h8⟩ := readIndex_of_lt hi
    exact ⟨h0, by omega⟩
  · rw [readIndex_of_le hi]
    simp only [maxReadIndex] at hi
    omega

/-! ## Headers -/

theorem text_slash : text "/" = [47] := by decide +kernel

theorem length_namePrefix : namePrefix.length = 14 := by decide +kernel

/-- Two headers are equal exactly when their mates and written numbers are: the slash after
the number field is the first in both. -/
theorem readName_eq_iff (i j a b : Int) :
    readName i a = readName j b ↔ a = b ∧ readIndex i = readIndex j := by
  simp only [readName, text_slash, List.append_assoc, List.append_cancel_left_eq,
    List.singleton_append]
  have hslash : ∀ width (n : Int), 47 ∉ zeroPadded width n :=
    not_mem_zeroPadded (b := 47) (by decide) (by decide)
  rw [List.append_cons_inj_of_notMem (hslash 8 _) (decimal_eq_zeroPadded a ▸ hslash 0 a)]
  constructor
  · rintro ⟨hi, -, ha⟩
    exact ⟨decimal_injective ha, zeroPadded_injective 8 hi⟩
  · rintro ⟨rfl, hi⟩
    exact ⟨by rw [hi], rfl, rfl⟩

/-- The headers of reads `1..n` of one mate are distinct exactly when `n` fits the field:
read `99999999 + 1` is written as read `1`. -/
theorem injOn_readName_iff (mate n : Int) :
    Set.InjOn (readName · mate) (Set.Icc 1 n) ↔ n ≤ maxReadIndex := by
  constructor
  · intro hinj
    by_contra hn
    have hmax : maxReadIndex = 99999999 := rfl
    have hwrap : readIndex (maxReadIndex + 1) = readIndex 1 := by
      rw [(readIndex_of_lt (by omega)).1, readIndex_of_le (by omega), hmax]
      decide
    have hname : readName (maxReadIndex + 1) mate = readName 1 mate :=
      (readName_eq_iff _ _ _ _).2 ⟨rfl, hwrap⟩
    have := hinj ⟨by omega, by omega⟩ ⟨le_refl 1, by omega⟩ hname
    omega
  · intro hn i hi j hj h
    obtain ⟨-, hij⟩ := (readName_eq_iff _ _ _ _).1 h
    rw [readIndex_of_le (hi.2.trans hn), readIndex_of_le (hj.2.trans hn)] at hij
    exact hij

/-- A header of a non-negative read and a one-digit mate has 24 bytes: 14 of prefix, 8 of
number, the slash and the mate. -/
theorem length_readName {i mate : Int} (hi : 0 ≤ i) (h0 : 0 ≤ mate) (h9 : mate ≤ 9) :
    (readName i mate).length = 24 := by
  obtain ⟨hidx0, hidx8⟩ := readIndex_bounds hi
  have hfield : (zeroPadded 8 (readIndex i)).length = 8 :=
    length_zeroPadded hidx0 (length_digits_le (by omega))
  have hmate : (decimal mate).length = 1 := by
    rw [decimal, if_neg (by omega), digits_of_lt_ten (by omega), List.length_singleton]
  simp only [readName, List.length_append, length_namePrefix, hfield, text_slash, hmate,
    List.length_singleton]

/-- Headers are equal exactly for equal mates and written numbers; the written number is the
read's own up to the field's largest and wraps onto `0..99999998` past it; the reads `1..n` have
distinct headers exactly while `n` fits the field; and a non-negative read of a one-digit mate
has a 24-byte header. -/
theorem readName_unique_fixed_width :
    (∀ i j a b : Int, readName i a = readName j b ↔ a = b ∧ readIndex i = readIndex j) ∧
    (∀ i : Int, i ≤ maxReadIndex → readIndex i = i) ∧
    (∀ i : Int, maxReadIndex < i →
      readIndex i = i % maxReadIndex ∧ 0 ≤ readIndex i ∧ readIndex i ≤ 99999998) ∧
    (∀ mate n : Int, Set.InjOn (readName · mate) (Set.Icc 1 n) ↔ n ≤ maxReadIndex) ∧
    (∀ i mate : Int, 0 ≤ i → 0 ≤ mate → mate ≤ 9 → (readName i mate).length = 24) :=
  ⟨readName_eq_iff, fun _ => readIndex_of_le, fun _ => readIndex_of_lt, injOn_readName_iff,
    fun _ _ => length_readName⟩

end Fastq

end FastqFixtures
