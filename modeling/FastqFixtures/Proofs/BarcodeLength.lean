import Mathlib
import FastqFixtures.Barcode.Basic

/-! # Validated barcodes keep their length

Validation upper-cases a barcode as text and keeps it only if every byte is one of `A C G T N`.
Of all characters, only `a c g t n` and `A C G T N` themselves upper-case to those letters
(checked against the whole case table), and each is one byte long; a longer sequence reads as a
character of 128 or more, and a stray byte as U+FFFD. So a barcode that validates is, byte for
byte, the upper-cased barcode, and has its length.

* `upperChar_base` — the characters that upper-case to a barcode letter.
* `lead_ascii` — a well-formed sequence that reads below 128 is one byte.
* `length_validate` — validation keeps the length.
* `validate_of_isBase` — a barcode written in `A C G T N` validates as itself.
-/

namespace FastqFixtures.Text

set_option autoImplicit false

/-! ## Characters -/

theorem toNat_charOfNat (n : Nat) : (Char.ofNat n).toNat = n ∨ (Char.ofNat n).toNat = 0 := by
  unfold Char.ofNat
  split
  · next h =>
    left
    have : n < UInt32.size := by
      rcases h with h | ⟨_, h⟩ <;> simp [UInt32.size] <;> omega
    simp [Char.ofNatAux, Char.toNat, UInt32.toNat, BitVec.toNat_ofNatLT]
  · right; rfl

theorem toNat_charOfNat_of_pos {n : Nat} (h : 0 < (Char.ofNat n).toNat) :
    (Char.ofNat n).toNat = n :=
  (toNat_charOfNat n).resolve_right (Nat.pos_iff_ne_zero.1 h)

/-! ## The case table -/

theorem findRun_sound {runs : Array CaseRun} {c lo hi : Nat} {r : CaseRun}
    (h : findRun runs c lo hi = some r) :
    (r ∈ runs.toList ∨ r = ⟨0, 0, 1, 0⟩) ∧ r.first ≤ c ∧ c ≤ r.last := by
  fun_induction findRun runs c lo hi with
  | case1 lo hi hlt mid run hc ih => exact ih h
  | case2 lo hi hlt mid run hc hc' ih => exact ih h
  | case3 lo hi hlt mid run hc hc' =>
    rw [← Option.some.inj h]
    refine ⟨?_, Nat.not_lt.1 hc, Nat.not_lt.1 hc'⟩
    show runs.getD mid _ ∈ runs.toList ∨ runs.getD mid _ = _
    by_cases hmid : mid < runs.size
    · left
      rw [Array.getD_eq_getD_getElem?, Array.getElem?_eq_getElem hmid]
      exact Array.mem_toList_iff.2 (Array.getElem_mem hmid)
    · right
      rw [Array.getD_eq_getD_getElem?, Array.getElem?_eq_none (Nat.not_lt.1 hmid)]
      rfl
  | case4 => cases h

theorem upperRuns_onto_bases :
    ∀ r ∈ upperRuns.toList ++ [⟨0, 0, 1, 0⟩], ∀ v : Nat, v ∈ [65, 67, 71, 78, 84] →
      0 ≤ (v : Int) - r.shift → r.first ≤ ((v : Int) - r.shift).toNat →
        ((v : Int) - r.shift).toNat ≤ r.last →
          ((v : Int) - r.shift).toNat ∈ [97, 99, 103, 110, 116] := by
  decide +kernel

/-- Only `a c g t n` and `A C G T N` themselves upper-case to `A C G T N`. -/
theorem upperChar_base {c : Char} (h : (upperChar c).toNat ∈ [65, 67, 71, 78, 84]) :
    c.toNat ∈ [65, 67, 71, 78, 84, 97, 99, 103, 110, 116] := by
  unfold upperChar at h
  split at h
  · next r hr =>
    split at h
    · obtain ⟨hmem, hfirst, hlast⟩ := findRun_sound hr
      rcases toNat_charOfNat ((c.toNat : Int) + r.shift).toNat with hv | hv
      · -- the run moved `c` onto a base: undo the shift and read the table
        rw [hv] at h
        have hpos : 0 < ((c.toNat : Int) + r.shift).toNat := by
          simp only [List.mem_cons, List.not_mem_nil, or_false] at h
          omega
        have hback : (((((c.toNat : Int) + r.shift).toNat : Nat) : Int) - r.shift).toNat =
            c.toNat := by omega
        have := upperRuns_onto_bases r (List.mem_append.2 (hmem.imp id (by simp)))
          ((c.toNat : Int) + r.shift).toNat h
          (by omega) (by rw [hback]; exact hfirst) (by rw [hback]; exact hlast)
        rw [hback] at this
        simp only [List.mem_cons, List.not_mem_nil, or_false] at this ⊢
        omega
      · rw [hv] at h
        simp at h
    · simp only [List.mem_cons, List.not_mem_nil, or_false] at h ⊢
      omega
  · simp only [List.mem_cons, List.not_mem_nil, or_false] at h ⊢
    omega

/-! ## Sequences of more than one byte -/

theorem toNat_and_1F (b : UInt8) : (b &&& 0x1F).toNat = b.toNat % 32 := by
  rw [UInt8.toNat_and]
  exact Nat.and_two_pow_sub_one_eq_mod _ 5

theorem toNat_and_0F (b : UInt8) : (b &&& 0x0F).toNat = b.toNat % 16 := by
  rw [UInt8.toNat_and]
  exact Nat.and_two_pow_sub_one_eq_mod _ 4

theorem toNat_and_07 (b : UInt8) : (b &&& 0x07).toNat = b.toNat % 8 := by
  rw [UInt8.toNat_and]
  exact Nat.and_two_pow_sub_one_eq_mod _ 3

theorem low6_eq (b : UInt8) : low6 b = b.toNat % 64 := by
  rw [low6, UInt8.toNat_and]
  exact Nat.and_two_pow_sub_one_eq_mod _ 6

theorem within_iff {lo hi b : UInt8} :
    within lo hi b = true ↔ lo.toNat ≤ b.toNat ∧ b.toNat ≤ hi.toNat := by
  simp [within, UInt8.le_iff_toNat_le]

theorem lt_iff_toNat_lt' {a b : UInt8} : ¬a < b ↔ b.toNat ≤ a.toNat := by
  simp [UInt8.lt_iff_toNat_lt]

theorem toNat_two_ge {b0 b1 : UInt8} (hC2 : 0xC2 ≤ b0.toNat) (hE0 : b0.toNat < 0xE0)
    (hpos : 0 < (two b0 b1).toNat) : 128 ≤ (two b0 b1).toNat := by
  unfold two at hpos ⊢
  rw [toNat_charOfNat_of_pos hpos, toNat_and_1F]
  omega

theorem toNat_three_ge {b0 b1 b2 : UInt8} (hE0 : 0xE0 ≤ b0.toNat) (hF0 : b0.toNat < 0xF0)
    (hw : within (secondOf3 b0).1 (secondOf3 b0).2 b1 = true)
    (hpos : 0 < (three b0 b1 b2).toNat) : 128 ≤ (three b0 b1 b2).toNat := by
  unfold three at hpos ⊢
  rw [toNat_charOfNat_of_pos hpos, toNat_and_0F, low6_eq, low6_eq]
  by_cases he : b0 = 0xE0
  · -- after `E0` the second byte is at least `A0`
    subst he
    simp [secondOf3, within_iff] at hw
    simp
    omega
  · have : b0.toNat ≠ 0xE0 := fun h => he (UInt8.toNat_inj.1 h)
    omega

theorem toNat_four_ge {b0 b1 b2 b3 : UInt8} (hF0 : 0xF0 ≤ b0.toNat) (hF5 : b0.toNat < 0xF5)
    (hw : within (secondOf4 b0).1 (secondOf4 b0).2 b1 = true)
    (hpos : 0 < (four b0 b1 b2 b3).toNat) : 128 ≤ (four b0 b1 b2 b3).toNat := by
  unfold four at hpos ⊢
  rw [toNat_charOfNat_of_pos hpos, toNat_and_07, low6_eq, low6_eq, low6_eq]
  by_cases he : b0 = 0xF0
  · -- after `F0` the second byte is at least `90`
    subst he
    simp [secondOf4, within_iff] at hw
    simp
    omega
  · have : b0.toNat ≠ 0xF0 := fun h => he (UInt8.toNat_inj.1 h)
    omega

/-- A well-formed sequence that reads as a character below 128 (other than the zero
character) is that one byte. -/
theorem lead_ascii {b0 : UInt8} {rest : Bytes} {c : Char} {n : Nat}
    (h : lead b0 rest = some (c, n)) (hpos : 0 < c.toNat) (hlt : c.toNat < 128) :
    n = 0 ∧ c.toNat = b0.toNat := by
  unfold lead at h
  -- one case per length of sequence; every longer one contradicts `hlt`
  split at h
  · simp only [Option.some.injEq, Prod.mk.injEq] at h
    obtain ⟨rfl, rfl⟩ := h
    exact ⟨rfl, toNat_charOfNat_of_pos hpos⟩
  · exfalso
    split at h
    · cases h
    · have hC2 := lt_iff_toNat_lt'.1 ‹¬b0 < 0xC2›
      split at h
      · next hE0 =>
        split at h
        · split at h
          · obtain ⟨rfl, rfl⟩ := Prod.mk.inj (Option.some.inj h)
            exact absurd (toNat_two_ge hC2 (UInt8.lt_iff_toNat_lt.1 hE0) hpos) (by omega)
          · cases h
        · cases h
      · have hE0 := lt_iff_toNat_lt'.1 ‹¬b0 < 0xE0›
        split at h
        · next hF0 =>
          split at h
          · split at h
            · next hw =>
              obtain ⟨rfl, rfl⟩ := Prod.mk.inj (Option.some.inj h)
              have := toNat_three_ge hE0 (UInt8.lt_iff_toNat_lt.1 hF0)
                (Bool.and_eq_true_iff.1 hw).1 hpos
              omega
            · cases h
          · cases h
        · have hF0 := lt_iff_toNat_lt'.1 ‹¬b0 < 0xF0›
          split at h
          · next hF5 =>
            split at h
            · split at h
              · next hw =>
                obtain ⟨rfl, rfl⟩ := Prod.mk.inj (Option.some.inj h)
                have := toNat_four_ge hF0 (UInt8.lt_iff_toNat_lt.1 hF5)
                  (Bool.and_eq_true_iff.1 (Bool.and_eq_true_iff.1 hw).1).1 hpos
                omega
              · cases h
            · cases h
          · cases h

/-! ## Encoding -/

theorem toNat_of_isBase {b : UInt8} (h : Barcode.isBase b = true) :
    b.toNat ∈ [65, 67, 71, 78, 84] := by
  simp only [Barcode.isBase, Bool.or_eq_true, beq_iff_eq] at h
  rcases h with (((rfl | rfl) | rfl) | rfl) | rfl <;> decide

theorem encode_of_isBase {d : Char} (h : ∀ b ∈ encode d, Barcode.isBase b = true) :
    d.toNat ∈ [65, 67, 71, 78, 84] ∧ encode d = [d.toNat.toUInt8] := by
  unfold encode String.utf8EncodeChar at h ⊢
  by_cases hv : d.val.toNat ≤ 127
  · simp only [hv, if_true] at h ⊢
    have hb := toNat_of_isBase (h _ List.mem_cons_self)
    have hlt : d.toNat < 256 := by simp only [Char.toNat]; omega
    rw [UInt8.toNat_ofNat', Nat.mod_eq_of_lt (by omega)] at hb
    exact ⟨hb, rfl⟩
  · -- a longer encoding starts with a byte of `C0` or more
    exfalso
    simp only [hv, if_false] at h
    split at h
    all_goals (try split at h)
    all_goals
      have hb := toNat_of_isBase (h _ List.mem_cons_self)
      simp only [List.mem_cons, List.not_mem_nil, or_false, UInt8.toNat_ofNat'] at hb
      omega

/-! ## Upper-casing a barcode -/

/-- Upper-cased text made only of barcode letters came from as many characters, each one byte
long: a letter, in either case. -/
theorem length_upper_of_isBase (bs : Bytes)
    (h : ∀ b ∈ upper bs, Barcode.isBase b = true) : (upper bs).length = bs.length := by
  unfold upper at h ⊢
  fun_induction decode bs with
  | case1 => rfl
  | case2 b0 rest c n hlead ih =>
    simp only [List.flatMap_cons, List.mem_append] at h ⊢
    obtain ⟨hup, henc⟩ := encode_of_isBase fun b hb => h b (.inl hb)
    have hc : c.toNat ∈ _ := upperChar_base hup
    have hascii : 0 < c.toNat ∧ c.toNat < 128 := by
      simp only [List.mem_cons, List.not_mem_nil, or_false] at hc
      omega
    obtain ⟨rfl, -⟩ := lead_ascii hlead hascii.1 hascii.2
    rw [henc, List.length_append, ih fun b hb => h b (.inr hb)]
    simp only [List.drop_zero, List.length_cons, List.length_nil]
    omega
  | case3 b0 rest hlead ih =>
    -- a stray byte reads as U+FFFD, which upper-cases to no letter
    simp only [List.flatMap_cons, List.mem_append] at h
    have := upperChar_base (encode_of_isBase fun b hb => h b (.inl hb)).1
    simp [Glyph.toChar] at this

/-! ## Barcodes already in upper case -/

theorem upperRuns_miss_caps :
    ∀ r ∈ upperRuns.toList ++ [⟨0, 0, 1, 0⟩], ∀ v : Nat, v ∈ [65, 67, 71, 78, 84] →
      ¬(r.first ≤ v ∧ v ≤ r.last) := by
  decide +kernel

theorem upperChar_caps {c : Char} (h : c.toNat ∈ [65, 67, 71, 78, 84]) : upperChar c = c := by
  unfold upperChar
  split
  · next r hr =>
    obtain ⟨hmem, hfirst, hlast⟩ := findRun_sound hr
    exact absurd ⟨hfirst, hlast⟩
      (upperRuns_miss_caps r (List.mem_append.2 (hmem.imp id (by simp))) _ h)
  · rfl

theorem encode_of_lt {d : Char} (h : d.toNat < 128) : encode d = [d.toNat.toUInt8] := by
  unfold encode String.utf8EncodeChar
  simp only [show d.val.toNat ≤ 127 by simp only [Char.toNat] at h; omega, if_true]
  rfl

theorem toNat_charOfNat_of_lt {n : Nat} (h : n < 0xD800) : (Char.ofNat n).toNat = n := by
  unfold Char.ofNat
  rw [dif_pos (Or.inl h)]
  simp [Char.ofNatAux, Char.toNat, UInt32.toNat]

theorem upper_caps {bs : Bytes} (h : ∀ b ∈ bs, Barcode.isBase b = true) :
    upper bs = bs := by
  induction bs with
  | nil => simp [upper, decode]
  | cons b bs ih =>
    have hb := toNat_of_isBase (h b List.mem_cons_self)
    have hlt : b.toNat < 0x80 := by
      simp only [List.mem_cons, List.not_mem_nil, or_false] at hb
      omega
    have hlead : lead b bs = some (Char.ofNat b.toNat, 0) := by
      simp [lead, UInt8.lt_iff_toNat_lt, hlt]
    have hc : (Char.ofNat b.toNat).toNat = b.toNat := toNat_charOfNat_of_lt (by omega)
    have hrest : upper bs = bs := ih fun b' hb' => h b' (List.mem_cons_of_mem b hb')
    unfold upper at hrest ⊢
    rw [decode.eq_2, hlead]
    simp only [List.flatMap_cons, List.drop_zero, hrest]
    show encode (upperChar (Char.ofNat b.toNat)) ++ bs = b :: bs
    rw [upperChar_caps (by rw [hc]; exact hb), encode_of_lt (by omega), hc]
    simp

end FastqFixtures.Text

namespace FastqFixtures.Barcode

open FastqFixtures.Text

theorem isBase_of_firstOutside {bs : Bytes} {pos : Nat} (h : firstOutside bs pos = none) :
    ∀ b ∈ bs, isBase b = true := by
  induction bs generalizing pos with
  | nil => simp
  | cons b bs ih =>
    unfold firstOutside at h
    split at h
    · next hb => exact List.forall_mem_cons.2 ⟨hb, ih h⟩
    · cases h

theorem validate_eq_ok {bc c : Bytes} (h : validate bc = .ok c) :
    c = upper bc ∧ ∀ b ∈ c, isBase b = true := by
  unfold validate at h
  split at h
  · cases h
  · simp only at h
    split at h
    · cases h
    · next hnone =>
      cases h
      exact ⟨rfl, isBase_of_firstOutside hnone⟩

/-- Validation keeps the length: only one-byte letters upper-case to barcode letters. -/
theorem length_validate {bc c : Bytes} (h : validate bc = .ok c) : c.length = bc.length := by
  obtain ⟨rfl, hbase⟩ := validate_eq_ok h
  exact length_upper_of_isBase bc hbase

theorem firstOutside_of_isBase {bs : Bytes} (h : ∀ b ∈ bs, isBase b = true) (pos : Nat) :
    firstOutside bs pos = none := by
  induction bs generalizing pos with
  | nil => rfl
  | cons b bs ih =>
    rw [firstOutside, if_pos (h b List.mem_cons_self)]
    exact ih (fun b' hb' => h b' (List.mem_cons_of_mem b hb')) (pos + 1)

/-- A barcode written in upper-case letters validates as itself. -/
theorem validate_of_isBase {bc : Bytes} (hne : bc ≠ []) (h : ∀ b ∈ bc, isBase b = true) :
    validate bc = .ok bc := by
  unfold validate
  rw [if_neg (by simpa using hne)]
  simp only [upper_caps h, firstOutside_of_isBase h]

end FastqFixtures.Barcode
