/-
# FidoKeyWrap.Lib.PrefixCode — encodings that say where they end.

An encoding of valid values is *self-delimiting* when the encoding of one value, followed by
anything, is the encoding of a value only if nothing follows. A decoder that accepts nothing but
encodings of valid values then rejects every truncation and every extension of an encoding.
-/
import Mathlib.Tactic

namespace PrefixCode

variable {α β ε : Type}

/-- **`SelfDelimiting valid encode`** — the encoding of a valid value says where it ends. -/
def SelfDelimiting (valid : β → Prop) (encode : β → List α) : Prop :=
  ∀ b b' rest, valid b → valid b' → encode b ++ rest = encode b' → b = b' ∧ rest = []

/-- The decoder accepts only encodings of valid values. -/
def AcceptsOnly (decode : List α → Except ε β) (valid : β → Prop) (encode : β → List α) : Prop :=
  ∀ input b, decode input = .ok b → valid b ∧ input = encode b

section Rejects

variable {valid : β → Prop} {encode : β → List α} {decode : List α → Except ε β}

/-- No encoding of a valid value is a proper prefix of another. -/
theorem SelfDelimiting.eq_of_prefix (hcode : SelfDelimiting valid encode) {b b' : β}
    (hb : valid b) (hb' : valid b') (h : encode b <+: encode b') : b = b' := by
  obtain ⟨rest, hrest⟩ := h
  exact (hcode b b' rest hb hb' hrest).1

/-- Every truncation is rejected. -/
theorem SelfDelimiting.rejects_prefix (hcode : SelfDelimiting valid encode)
    (hdecode : AcceptsOnly decode valid encode) {b : β} (hb : valid b) {input : List α}
    (hstart : input <+: encode b) (hne : input ≠ encode b) (b' : β) : decode input ≠ .ok b' := by
  intro hok
  obtain ⟨hb', hinput⟩ := hdecode input b' hok
  subst hinput
  have heq : b' = b := hcode.eq_of_prefix hb' hb hstart
  exact hne (congrArg encode heq)

/-- Every extension is rejected. -/
theorem SelfDelimiting.rejects_extension (hcode : SelfDelimiting valid encode)
    (hdecode : AcceptsOnly decode valid encode) {b : β} (hb : valid b) {trailing : List α}
    (hne : trailing ≠ []) (b' : β) : decode (encode b ++ trailing) ≠ .ok b' := by
  intro hok
  obtain ⟨hb', hinput⟩ := hdecode _ b' hok
  exact hne (hcode b b' trailing hb hb' hinput).2

end Rejects

end PrefixCode
