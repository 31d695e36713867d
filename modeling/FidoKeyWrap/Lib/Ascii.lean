/-
# FidoKeyWrap.Lib.Ascii — strings whose characters are single bytes.

A program that checks a string byte by byte says something about its characters only where the two
agree. They do on ASCII: the bytes of a string are all below `0x80` exactly when its characters are
(`forall_utf8_lt_iff`), and then the bytes are the characters' codes in order (`utf8_of_isAscii`), so
splitting the bytes at a separator is splitting the characters at it (`splitOn_map`).
-/
import FidoKeyWrap.Lib.Bytes

namespace ByteData

/-- A character UTF-8 writes as one byte. -/
def IsAscii (c : Char) : Prop := c.toNat < 0x80

instance : DecidablePred IsAscii := fun c => inferInstanceAs (Decidable (c.toNat < 0x80))

theorem toNat_toUInt8 {c : Char} (h : IsAscii c) : c.toUInt8.toNat = c.toNat := by
  rw [Char.toUInt8, UInt32.toNat_toUInt8]
  exact Nat.mod_eq_of_lt (Nat.lt_of_lt_of_le h (by decide))

/-- The codes are in the order of the characters. -/
theorem toUInt8_le_iff {c d : Char} (hc : IsAscii c) (hd : IsAscii d) :
    c.toUInt8 ≤ d.toUInt8 ↔ c ≤ d := by
  rw [UInt8.le_iff_toNat_le, toNat_toUInt8 hc, toNat_toUInt8 hd, Char.le_def,
    UInt32.le_iff_toNat_le]
  rfl

/-- A test that a byte lies between two codes tests the character. -/
theorem toUInt8_between {c : Char} (low high : Char) (hc : IsAscii c) (hlow : IsAscii low)
    (hhigh : IsAscii high) :
    (low.toUInt8 ≤ c.toUInt8 && c.toUInt8 ≤ high.toUInt8) = true ↔ low ≤ c ∧ c ≤ high := by
  rw [Bool.and_eq_true, decide_eq_true_eq, decide_eq_true_eq, toUInt8_le_iff hlow hc,
    toUInt8_le_iff hc hhigh]

theorem isAscii_of_le {c d : Char} (hle : c ≤ d) (hd : IsAscii d) : IsAscii c := by
  rw [Char.le_def, UInt32.le_iff_toNat_le] at hle
  exact Nat.lt_of_le_of_lt hle hd

theorem toUInt8_inj {c d : Char} (hc : IsAscii c) (hd : IsAscii d) :
    c.toUInt8 = d.toUInt8 ↔ c = d := by
  constructor
  · intro h
    have hnat := congrArg UInt8.toNat h
    rw [toNat_toUInt8 hc, toNat_toUInt8 hd] at hnat
    rw [← Char.ofNat_toNat c, hnat, Char.ofNat_toNat]
  · rintro rfl
    rfl

/-! ## One character -/

theorem utf8EncodeChar_of_isAscii {c : Char} (h : IsAscii c) :
    String.utf8EncodeChar c = [c.toUInt8] := by
  have hone : c.utf8Size = 1 := by
    rw [Char.utf8Size_eq_one_iff, UInt32.le_iff_toNat_le]
    exact Nat.le_of_lt_succ h
  exact String.utf8EncodeChar_eq_singleton hone

/-- Every byte of a longer encoding has its top bit set. -/
theorem isAscii_of_utf8EncodeChar {c : Char} (h : ∀ byte ∈ String.utf8EncodeChar c, byte < 0x80) :
    IsAscii c := by
  by_contra hwide
  have hlarge : ¬c.val.toNat ≤ 127 := by
    intro hle
    exact hwide (Nat.lt_succ_of_le hle)
  simp only [String.utf8EncodeChar, if_neg hlarge] at h
  -- The last byte is a continuation byte in each of the three longer forms.
  have hlast : UInt8.ofNat (c.val.toNat % 64 + 128) < 0x80 := by
    split at h
    · exact h _ (by simp)
    · split at h
      · exact h _ (by simp)
      · exact h _ (by simp)
  rw [UInt8.lt_iff_toNat_lt, UInt8.toNat_ofNat'] at hlast
  change _ < 128 at hlast
  omega

/-! ## Strings -/

theorem utf8_eq_flatMap (s : String) : utf8 s = s.toList.flatMap String.utf8EncodeChar := by
  rw [utf8, ← String.utf8Encode_toList, List.utf8Encode, List.toList_data_toByteArray]

theorem utf8_of_isAscii {s : String} (h : ∀ c ∈ s.toList, IsAscii c) :
    utf8 s = s.toList.map Char.toUInt8 := by
  rw [utf8_eq_flatMap]
  generalize s.toList = cs at h
  induction cs with
  | nil => rfl
  | cons c cs ih =>
      rw [List.flatMap_cons, utf8EncodeChar_of_isAscii (h c (by simp)),
        ih fun d hd => h d (by simp [hd])]
      rfl

/-- The bytes are single characters exactly when the characters are single bytes. -/
theorem forall_utf8_lt_iff {s : String} :
    (∀ byte ∈ utf8 s, byte < 0x80) ↔ ∀ c ∈ s.toList, IsAscii c := by
  constructor
  · intro h c hc
    refine isAscii_of_utf8EncodeChar fun byte hbyte => h byte ?_
    rw [utf8_eq_flatMap]
    exact List.mem_flatMap.mpr ⟨c, hc, hbyte⟩
  · intro h byte hbyte
    rw [utf8_of_isAscii h] at hbyte
    obtain ⟨c, hc, rfl⟩ := List.mem_map.mp hbyte
    rw [UInt8.lt_iff_toNat_lt, toNat_toUInt8 (h c hc)]
    exact h c hc

theorem length_utf8 (s : String) : (utf8 s).length = s.utf8ByteSize := by
  rw [utf8, Array.length_toList]
  exact String.size_toByteArray

/-- An ASCII string has as many bytes as characters. -/
theorem length_utf8_of_isAscii {s : String} (h : ∀ c ∈ s.toList, IsAscii c) :
    (utf8 s).length = s.length := by
  rw [utf8_of_isAscii h, List.length_map, String.length_toList]

/-! ## Splitting at a separator -/

variable {α β : Type} [DecidableEq α] [DecidableEq β]

/-- Splitting commutes with a map under which nothing else becomes the separator. -/
theorem splitOn_map {f : α → β} {a : α} {xs : List α} (hf : ∀ x ∈ xs, f x = f a → x = a) :
    (xs.map f).splitOn (f a) = (xs.splitOn a).map (List.map f) := by
  induction xs with
  | nil => simp
  | cons x xs ih =>
      have hrest := ih fun y hy => hf y (by simp [hy])
      rw [List.map_cons, List.splitOn_cons_eq_if_modifyHead, List.splitOn_cons_eq_if_modifyHead,
        hrest]
      by_cases hx : x = a
      · simp [hx]
      · have hfx : f x ≠ f a := fun h => hx (hf x (by simp) h)
        simp only [beq_iff_eq, hx, hfx, if_false]
        cases xs.splitOn a with
        | nil => rfl
        | cons piece pieces => rfl

/-- The pieces hold the elements that are not the separator. -/
theorem flatten_splitOn (a : α) (xs : List α) :
    (xs.splitOn a).flatten = xs.filter fun x => x ≠ a := by
  induction xs with
  | nil => simp
  | cons x xs ih =>
      rw [List.splitOn_cons_eq_if_modifyHead]
      by_cases hx : x = a
      · simp [hx, ih]
      · simp only [beq_iff_eq, hx, if_false]
        cases hsplit : xs.splitOn a with
        | nil => exact absurd hsplit (List.splitOn_ne_nil a xs)
        | cons piece pieces =>
            rw [hsplit] at ih
            simpa [hx] using ih

theorem exists_mem_splitOn {a x : α} {xs : List α} :
    (∃ piece ∈ xs.splitOn a, x ∈ piece) ↔ x ∈ xs ∧ x ≠ a := by
  rw [← List.mem_flatten, flatten_splitOn]
  simp

end ByteData
