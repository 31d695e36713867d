/-
# FidoKeyWrap.Transcript — byte transcripts for cryptographic domain separation.

`encode` is the transcript encoder of the library: at most 32 fields, each below `2 ^ 32` bytes,
framed by count and length. The source checks the bounds in a first pass that also adds up the
capacity with overflow checks; `encode_eq_ok` says what is left of those checks — a total of 32
fields of that length cannot overflow a 64-bit `usize` — and what an accepted transcript is. The
second pass writes the fields, and would panic on a length the first one let through;
`encodePasses_eq` says that there is none.
-/
import FidoKeyWrap.Lib.Framing
import FidoKeyWrap.Policy

namespace FidoKeyWrap.Transcript

open ByteData Framing Interact

def maxFields : Nat := 32

/-- One step of the first pass: the field's length is a `u32`, and the running total stays a
`usize` after each of the two additions. -/
def addCapacity (total : Nat) (field : ByteString) : Result Nat := do
  require (field.length < u32Limit) .invalidEnvelope
  require (total + 4 < usizeLimit) .invalidEnvelope
  require (total + 4 + field.length < usizeLimit) .invalidEnvelope
  return total + 4 + field.length

def encode (fields : List ByteString) : Result ByteString := do
  require (fields.length ≤ maxFields) .invalidEnvelope
  let _capacity ← fields.foldlM addCapacity 4
  require (fields.length < u32Limit) .invalidEnvelope
  return frame fields

/-- One step of the second pass, which panics when the length is not a `u32`. -/
def appendField (output field : ByteString) : Option ByteString :=
  if field.length < u32Limit then some (output ++ beBytes 4 field.length ++ field) else none

/-- What `encode` checks before it writes. -/
def checkFields (fields : List ByteString) : Result Unit := do
  require (fields.length ≤ maxFields) .invalidEnvelope
  let _capacity ← fields.foldlM addCapacity 4
  require (fields.length < u32Limit) .invalidEnvelope

/-- `encode` with its second pass written out; `none` is the panic of its `expect`. -/
def encodePasses (fields : List ByteString) : Option (Result ByteString) :=
  match checkFields fields with
  | .error error => some (.error error)
  | .ok () => do
    let output ← fields.foldlM appendField (beBytes 4 fields.length)
    return .ok output

/-! ## The first pass -/

/-- The bytes that a list of fields takes behind the count. -/
def fieldsLength (fields : List ByteString) : Nat := (fields.map fun field => 4 + field.length).sum

theorem addCapacity_eq_ok {total n : Nat} {field : ByteString} :
    addCapacity total field = .ok n ↔
      field.length < u32Limit ∧ n = total + 4 + field.length ∧ n < usizeLimit := by
  simp only [addCapacity, except_bind_eq_ok, require_eq_ok, except_pure_eq_ok]
  constructor
  · rintro ⟨-, hlen, -, -, -, hroom, rfl⟩
    exact ⟨hlen, rfl, hroom⟩
  · rintro ⟨hlen, rfl, hroom⟩
    refine ⟨(), hlen, (), ?_, (), hroom, rfl⟩
    omega

/-- The first pass accepts exactly the lists of 32-bit fields whose total is a `usize`. -/
theorem foldlM_addCapacity_eq_ok {fields : List ByteString} {total n : Nat}
    (htotal : total < usizeLimit) :
    fields.foldlM addCapacity total = .ok n ↔
      (∀ field ∈ fields, field.length < u32Limit) ∧ n = total + fieldsLength fields ∧
        n < usizeLimit := by
  induction fields generalizing total with
  | nil =>
      simp only [List.foldlM_nil, except_pure_eq_ok, fieldsLength, List.map_nil, List.sum_nil,
        List.not_mem_nil, false_implies, implies_true, true_and]
      constructor
      · rintro rfl
        exact ⟨rfl, htotal⟩
      · rintro ⟨rfl, -⟩
        rfl
  | cons f fs ih =>
      simp only [List.foldlM_cons, except_bind_eq_ok, addCapacity_eq_ok, List.mem_cons,
        forall_eq_or_imp, fieldsLength, List.map_cons, List.sum_cons]
      constructor
      · rintro ⟨m, ⟨hf, rfl, hm⟩, hrest⟩
        obtain ⟨hfs, rfl, hn⟩ := (ih hm).mp hrest
        refine ⟨⟨hf, hfs⟩, ?_, hn⟩
        simp only [fieldsLength]
        omega
      · rintro ⟨⟨hf, hfs⟩, rfl, hn⟩
        have hm : total + 4 + f.length < usizeLimit := by omega
        refine ⟨_, ⟨hf, rfl, hm⟩, (ih hm).mpr ⟨hfs, ?_, hn⟩⟩
        simp only [fieldsLength]
        omega

/-- **When the encoder returns**: the count, every length and the total fit. -/
theorem encode_eq_ok_of_total {fields : List ByteString} {out : ByteString} :
    encode fields = .ok out ↔
      (fields.length ≤ maxFields ∧ (∀ field ∈ fields, field.length < u32Limit) ∧
        4 + fieldsLength fields < usizeLimit) ∧ out = frame fields := by
  have hstart : 4 < usizeLimit := by decide
  simp only [encode, except_bind_eq_ok, require_eq_ok, except_pure_eq_ok,
    foldlM_addCapacity_eq_ok hstart]
  constructor
  · rintro ⟨-, hcount, n, ⟨hlen, rfl, htotal⟩, -, -, rfl⟩
    exact ⟨⟨hcount, hlen, htotal⟩, rfl⟩
  · rintro ⟨⟨hcount, hlen, htotal⟩, rfl⟩
    refine ⟨(), hcount, _, ⟨hlen, rfl, htotal⟩, (), ?_, rfl⟩
    simp only [maxFields] at hcount
    simp only [u32Limit]
    omega

/-- The total of fields of 32-bit lengths. -/
theorem fieldsLength_le {fields : List ByteString}
    (hlen : ∀ field ∈ fields, field.length < u32Limit) :
    fieldsLength fields ≤ fields.length * (4 + u32Limit) := by
  induction fields with
  | nil => simp [fieldsLength]
  | cons f fs ih =>
      have hf := hlen f (by simp)
      have hfs := ih fun field hmem => hlen field (by simp [hmem])
      simp only [fieldsLength, List.map_cons, List.sum_cons, List.length_cons] at hfs ⊢
      rw [Nat.add_mul, Nat.one_mul]
      omega

/-- **What the encoder accepts**: at most 32 fields of fewer than `2 ^ 32` bytes, framed. -/
theorem encode_eq_ok {fields : List ByteString} {out : ByteString} :
    encode fields = .ok out ↔
      fields.length ≤ maxFields ∧ (∀ field ∈ fields, field.length < u32Limit) ∧
        out = frame fields := by
  rw [encode_eq_ok_of_total]
  constructor
  · rintro ⟨⟨hcount, hlen, -⟩, hout⟩
    exact ⟨hcount, hlen, hout⟩
  · rintro ⟨hcount, hlen, hout⟩
    refine ⟨⟨hcount, hlen, ?_⟩, hout⟩
    have htotal := fieldsLength_le hlen
    have hfields := Nat.mul_le_mul_right (4 + u32Limit) hcount
    simp only [maxFields, u32Limit, usizeLimit] at htotal hfields ⊢
    omega

/-- An accepted list of fields is within the frame's bounds. -/
theorem framed_of_encode {fields : List ByteString} {out : ByteString}
    (h : encode fields = .ok out) : Framed fields := by
  obtain ⟨hcount, hlen, -⟩ := encode_eq_ok.mp h
  simp only [maxFields] at hcount
  refine ⟨by norm_num; omega, fun field hmem => ?_⟩
  have := hlen field hmem
  simp only [u32Limit] at this
  norm_num
  omega

/-- **Transcripts are unambiguous.** -/
theorem encode_injective {fs gs : List ByteString} {out : ByteString} (hf : encode fs = .ok out)
    (hg : encode gs = .ok out) : fs = gs := by
  obtain ⟨-, -, rfl⟩ := encode_eq_ok.mp hf
  obtain ⟨-, -, hout⟩ := encode_eq_ok.mp hg
  exact frame_injective (framed_of_encode hf) (framed_of_encode hg) hout

/-! ## The second pass -/

theorem foldlM_appendField {fields : List ByteString} {output : ByteString}
    (hlen : ∀ field ∈ fields, field.length < u32Limit) :
    fields.foldlM appendField output = some (output ++ frameFields fields) := by
  induction fields generalizing output with
  | nil => simp [frameFields]
  | cons f fs ih =>
      have hf : appendField output f = some (output ++ frameField f) := by
        rw [appendField, if_pos (hlen f (by simp)), frameField, List.append_assoc]
      rw [List.foldlM_cons, hf, Option.bind_eq_bind, Option.bind_some,
        ih fun field hmem => hlen field (by simp [hmem])]
      simp [frameFields]

theorem encode_eq_checked (fields : List ByteString) :
    encode fields = do
      checkFields fields
      return frame fields := by
  simp only [encode, checkFields, bind_assoc]

/-- **The `expect` never panics**, and the two passes return what `encode` says. -/
theorem encodePasses_eq (fields : List ByteString) : encodePasses fields = some (encode fields) := by
  rw [encodePasses, encode_eq_checked]
  cases hcheck : checkFields fields with
  | error error => rfl
  | ok checked =>
      have hencode : encode fields = .ok (frame fields) := by
        rw [encode_eq_checked, hcheck]
        rfl
      have hlen := (encode_eq_ok.mp hencode).2.1
      show (fields.foldlM appendField (beBytes 4 fields.length)).bind _ = _
      rw [foldlM_appendField hlen]
      rfl

/-- **When the encoder fails**: too many fields, a field of `2 ^ 32` bytes or more, or a total that
is not a `usize`. -/
theorem encode_fails_iff (fields : List ByteString) :
    (∃ error, encode fields = .error error) ↔
      maxFields < fields.length ∨ (∃ field ∈ fields, u32Limit ≤ field.length) ∨
        usizeLimit ≤ 4 + fieldsLength fields := by
  have hreturns : (∃ error, encode fields = .error error) ↔ ¬∃ out, encode fields = .ok out := by
    cases encode fields with
    | error error => simp
    | ok out => simp
  rw [hreturns]
  simp only [encode_eq_ok_of_total, exists_and_left, exists_eq, and_true, not_and_or, not_le,
    not_lt, not_forall, exists_prop]

/-- **No transcript is a proper prefix of another**, and equal transcripts have equal fields. -/
theorem encode_prefix {fs gs : List ByteString} {out out' : ByteString} (hf : encode fs = .ok out)
    (hg : encode gs = .ok out') (hwithin : out <+: out') : fs = gs ∧ out = out' := by
  obtain ⟨-, -, rfl⟩ := encode_eq_ok.mp hf
  obtain ⟨-, -, rfl⟩ := encode_eq_ok.mp hg
  obtain ⟨rest, hrest⟩ := hwithin
  have hcode : frame fs ++ rest = frame gs ++ [] := by rw [hrest, List.append_nil]
  obtain ⟨rfl, -⟩ := frame_append_inj (framed_of_encode hf) (framed_of_encode hg) hcode
  exact ⟨rfl, rfl⟩

end FidoKeyWrap.Transcript
