import Mathlib
import FastqFixtures.Proofs.AmbiguityDistance

/-! # Barcode validation

Validation upper-cases a barcode as text and checks each byte of the result against
`A C G T N`. Of all characters only the ten barcode letters upper-case to those five, each
written in one byte, and a stray byte becomes the three bytes of U+FFFD; so validation accepts
exactly the non-empty barcodes written in the ten letters, returning their capitals, and
refuses any other non-empty barcode at the first byte of its upper-cased text outside
`A C G T N`, counted from 1. An undetermined barcode is one written in `N` alone, either case.

* `firstOutside_eq_some` — the first byte outside `A C G T N`, with its position.
* `validate_eq_ok_iff` — what validation accepts, and what it returns.
* `validate_refusal` — where validation refuses.
* `undetermined_iff`, `validate_eq_replicate_of_undetermined` — barcodes written in `N` alone.
-/

namespace FastqFixtures.Barcode

open FastqFixtures.Text

set_option autoImplicit false

/-! ## The first byte outside `A C G T N` -/

/-- The byte found is the first one outside `A C G T N`; its position counts from `pos`. -/
theorem firstOutside_eq_some {bs : Bytes} {pos : Nat} {b : UInt8} {p : Nat}
    (h : firstOutside bs pos = some (b, p)) :
    ∃ pre post, bs = pre ++ b :: post ∧ (∀ x ∈ pre, isBase x = true) ∧ isBase b = false ∧
      p = pos + pre.length := by
  induction bs generalizing pos with
  | nil => cases h
  | cons x bs ih =>
    rw [firstOutside] at h
    by_cases hx : isBase x = true
    · rw [if_pos hx] at h
      obtain ⟨pre, post, rfl, hpre, hb, rfl⟩ := ih h
      refine ⟨x :: pre, post, rfl, List.forall_mem_cons.2 ⟨hx, hpre⟩, hb, ?_⟩
      simp only [List.length_cons]
      omega
    · rw [if_neg hx] at h
      obtain ⟨rfl, rfl⟩ := Prod.mk.inj (Option.some.inj h)
      exact ⟨[], bs, rfl, by simp, by simpa using hx, rfl⟩

theorem firstOutside_of_not_all {bs : Bytes} (h : ∃ x ∈ bs, isBase x = false) (pos : Nat) :
    ∃ b p, firstOutside bs pos = some (b, p) := by
  cases hf : firstOutside bs pos with
  | none =>
    obtain ⟨x, hx, hxb⟩ := h
    have := isBase_of_firstOutside hf x hx
    simp [hxb] at this
  | some r => exact ⟨r.1, r.2, rfl⟩

/-! ## Validation -/

theorem validate_nil : validate [] = .error .emptyBarcode := rfl

/-- Validation accepts exactly the non-empty barcodes written in the ten letters, and returns
their capitals. -/
theorem validate_eq_ok_iff {bc c : Bytes} :
    validate bc = .ok c ↔ bc ≠ [] ∧ (∀ b ∈ bc, b ∈ letters) ∧ c = bc.map capital := by
  constructor
  · intro h
    have hl := letters_of_validate h
    refine ⟨?_, hl, ?_⟩
    · rintro rfl
      cases h
    · obtain ⟨rfl, -⟩ := validate_eq_ok h
      exact upper_letters hl
  · rintro ⟨hne, hl, rfl⟩
    exact validate_letters hne hl

theorem validate_validated {bc c : Bytes} (h : validate bc = .ok c) :
    c.length = bc.length ∧ validate c = .ok c := by
  have hlen := length_validate h
  obtain ⟨hne, -, -⟩ := validate_eq_ok_iff.1 h
  have hcne : c ≠ [] := List.ne_nil_of_length_pos (hlen ▸ List.length_pos_of_ne_nil hne)
  exact ⟨hlen, validate_of_isBase hcne (validate_eq_ok h).2⟩

/-- A non-empty barcode with a byte outside the ten letters is refused at the first byte of its
upper-cased text outside `A C G T N`, which exists: otherwise the barcode would have been
written in the letters. -/
theorem validate_refusal {bc : Bytes} (hne : bc ≠ []) (hbad : ∃ b ∈ bc, b ∉ letters) :
    ∃ pre b post, upper bc = pre ++ b :: post ∧ (∀ x ∈ pre, isBase x = true) ∧
      isBase b = false ∧ validate bc = .error (.badBase (upper bc) b (pre.length + 1)) := by
  have hout : ∃ x ∈ upper bc, isBase x = false := by
    by_contra hall
    obtain ⟨b, hb, hnot⟩ := hbad
    refine hnot (letters_of_upper (fun x hx => ?_) b hb)
    cases hbase : isBase x
    · exact absurd ⟨x, hx, hbase⟩ hall
    · rfl
  obtain ⟨b, p, hf⟩ := firstOutside_of_not_all hout 1
  obtain ⟨pre, post, hsplit, hpre, hb, rfl⟩ := firstOutside_eq_some hf
  refine ⟨pre, b, post, hsplit, hpre, hb, ?_⟩
  rw [validate, if_neg (by simpa using hne)]
  simp only [hf, Nat.add_comm]

/-! ## Undetermined barcodes -/

theorem letters_of_undetermined {bc : Bytes} (hall : ∀ b ∈ bc, b = 78 ∨ b = 110) :
    ∀ b ∈ bc, b ∈ letters := by
  intro b hb
  rcases hall b hb with rfl | rfl <;> decide

/-- A barcode is undetermined exactly when it is written in `N` alone, in either case: the only
letter whose capital is `N` is `n`. -/
theorem undetermined_iff {bc : Bytes} :
    undetermined bc = true ↔ bc ≠ [] ∧ ∀ b ∈ bc, b = 78 ∨ b = 110 := by
  have hcap : ∀ x ∈ letters, capital x = 78 ↔ x = 78 ∨ x = 110 := by decide +kernel
  have hne : (!bc.isEmpty) = true ↔ bc ≠ [] := by simp
  rw [undetermined, Bool.and_eq_true, hne, List.all_eq_true]
  refine and_congr_right fun _ => ⟨fun hall => ?_, fun hall => ?_⟩
  · -- every upper-cased byte is `N`, so the barcode is written in letters with capital `N`
    have hl : ∀ b ∈ bc, b ∈ letters :=
      letters_of_upper fun x hx => by rw [(beq_iff_eq.1 (hall x hx))]; decide
    rw [upper_letters hl] at hall
    exact fun b hb => (hcap b (hl b hb)).1 (beq_iff_eq.1 (hall _ (List.mem_map_of_mem hb)))
  · have hl := letters_of_undetermined hall
    rw [upper_letters hl]
    intro x hx
    obtain ⟨b, hb, rfl⟩ := List.mem_map.1 hx
    exact beq_iff_eq.2 ((hcap b (hl b hb)).2 (hall b hb))

theorem validate_eq_replicate_of_undetermined {bc : Bytes} (h : undetermined bc = true) :
    validate bc = .ok (List.replicate bc.length 78) := by
  obtain ⟨hne, hall⟩ := undetermined_iff.1 h
  have hN : ∀ b ∈ bc, capital b = 78 := fun b hb => by
    rcases hall b hb with rfl | rfl <;> decide
  refine validate_eq_ok_iff.2 ⟨hne, letters_of_undetermined hall, ?_⟩
  refine (List.eq_replicate_iff.2 ⟨by simp, fun x hx => ?_⟩).symm
  obtain ⟨b, hb, rfl⟩ := List.mem_map.1 hx
  exact hN b hb

/-- Validation accepts exactly the non-empty barcodes written in `A C G T N a c g t n` and returns
them in capitals, which keeps their length and validates again as itself; it refuses the empty
barcode as such, and any other at the first byte of the upper-cased text outside `A C G T N`,
with its position counted from 1. A barcode is undetermined exactly when it is written in `N`
and `n` alone, and then validates as `N` over its whole length. -/
theorem validate_undetermined_spec (bc : Bytes) :
    (∀ c, validate bc = .ok c ↔ bc ≠ [] ∧ (∀ b ∈ bc, b ∈ letters) ∧ c = bc.map capital) ∧
    (∀ c, validate bc = .ok c → c.length = bc.length ∧ validate c = .ok c) ∧
    (bc = [] → validate bc = .error .emptyBarcode) ∧
    (bc ≠ [] → (∃ b ∈ bc, b ∉ letters) →
      ∃ pre b post, upper bc = pre ++ b :: post ∧ (∀ x ∈ pre, isBase x = true) ∧
        isBase b = false ∧ validate bc = .error (.badBase (upper bc) b (pre.length + 1))) ∧
    (undetermined bc = true ↔ bc ≠ [] ∧ ∀ b ∈ bc, b = 78 ∨ b = 110) ∧
    (undetermined bc = true → validate bc = .ok (List.replicate bc.length 78)) :=
  ⟨fun _ => validate_eq_ok_iff, fun _ => validate_validated, fun h => h ▸ validate_nil,
    validate_refusal, undetermined_iff, validate_eq_replicate_of_undetermined⟩

end FastqFixtures.Barcode
