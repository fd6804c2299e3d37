import Runbook.Text.CodePoint
import Mathlib.Tactic

set_option autoImplicit false

/-! # Wide texts

A wide text without halves is the text that it stands for. Code points are told apart by their codes,
because no character has the code of a half, and wide texts are ordered as the lists of their codes.
-/

namespace Runbook.Wide

/-- Only a wide text without halves stands for a text. -/
theorem text?_eq_some_iff {w : Wide} {t : Text} : w.text? = some t ↔ w = ofText t := by
  constructor
  · intro h
    induction w generalizing t with
    | nil =>
        cases h
        rfl
    | cons p w ih =>
        unfold text? at h
        rw [List.mapM_cons] at h
        cases p with
        | half n => cases h
        | char c =>
            have hrest : (text? w).bind (fun more => some (c :: more)) = some t := h
            obtain ⟨more, hmore, hcons⟩ := Option.bind_eq_some_iff.mp hrest
            cases hcons
            rw [ih hmore]
            rfl
  · rintro rfl
    exact text?_ofText t

/-! ## Order -/

theorem code_injective : Function.Injective CodePoint.code := by
  intro p q h
  cases p with
  | char c =>
      cases q with
      | char d =>
          rw [← Char.ofNat_toNat c, ← Char.ofNat_toNat d]
          exact congrArg (fun n => CodePoint.char (Char.ofNat n)) h
      | half n =>
          have hvalid : c.toNat < 0xd800 ∨ 0xdfff < c.toNat ∧ c.toNat < 0x110000 := c.valid
          simp only [CodePoint.code] at h
          omega
  | half m =>
      cases q with
      | char d =>
          have hvalid : d.toNat < 0xd800 ∨ 0xdfff < d.toNat ∧ d.toNat < 0x110000 := d.valid
          simp only [CodePoint.code] at h
          omega
      | half n =>
          simp only [CodePoint.code] at h
          rw [Fin.ext (show (m : Nat) = n by omega)]

/-- The dictionary order is that of the lists of codes. -/
theorem before_iff_lt {v w : Wide} :
    before v w = true ↔ v.map CodePoint.code < w.map CodePoint.code := by
  induction v generalizing w with
  | nil => cases w <;> simp [before]
  | cons p v ih =>
      cases w with
      | nil => simp [before]
      | cons q w =>
          rw [before, List.map_cons, List.map_cons, List.cons_lt_cons_iff]
          by_cases hpq : p = q
          · rw [if_pos (by simpa using hpq), ih, hpq]
            simp
          · have hcode : p.code ≠ q.code := fun h => hpq (code_injective h)
            rw [if_neg (by simpa using hpq)]
            simp [hcode]

end Runbook.Wide
