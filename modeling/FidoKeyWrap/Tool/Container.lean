/-
# FidoKeyWrap.Tool.Container — the key the command-line tool derives from a root.

The tool encrypts its payload under a key of its own, derived from the envelope root for one
application. It has its own transcript encoder: the frame is the library's, the limit of 32 fields
is not, and its errors are texts.
-/
import FidoKeyWrap.Environment
import FidoKeyWrap.Lib.Framing
import FidoKeyWrap.Tool.Storage
import FidoKeyWrap.Transcript

namespace FidoKeyWrap.Tool

open ByteData Framing Interact

variable [Primitives]

def secretKeyDomain : ByteString := utf8 "fkw-tool/format_1/secret_encryption_key"

/-- One step of the length pass of `transcript`. -/
def addLength (length : Nat) (field : ByteString) : Result Nat := do
  require (field.length < u32Limit) "transcript field is too large"
  require (length + 4 < usizeLimit ∧ length + 4 + field.length < usizeLimit)
    "transcript is too large"
  return length + 4 + field.length

def transcript (fields : List ByteString) : Result ByteString := do
  require (fields.length < u32Limit) "too many transcript fields"
  let _length ← fields.foldlM addLength 4
  return frame fields

/-- What `transcript` checks before it writes. -/
def checkFields (fields : List ByteString) : Result Unit := do
  require (fields.length < u32Limit) "too many transcript fields"
  let _length ← fields.foldlM addLength 4
  return ()

/-- `transcript` with its second pass written out; `none` is the panic of its `expect`. -/
def transcriptPasses (fields : List ByteString) : Option (Result ByteString) :=
  match checkFields fields with
  | .error error => some (.error error)
  | .ok () => do
    let output ← fields.foldlM Transcript.appendField (beBytes 4 fields.length)
    return .ok output

/-- `Hkdf::extract(None, root)` and `expand`. -/
def deriveSecretKey (root : RootKey) (applicationId : ApplicationId) : Result (Bytes 32) := do
  let info ← transcript [secretKeyDomain, applicationId.asBytes]
  okOr (Primitives.hkdfSha256 root.bytes.toList (Bytes.zero 32).toList info)
    "failed to derive the secret-encryption key"

/-! ## What the encoder accepts -/

omit [Primitives] in
/-- Every field the length pass accepts has a 32-bit length. -/
theorem length_lt_of_foldlM_addLength {fields : List ByteString} {length n : Nat}
    (h : fields.foldlM addLength length = .ok n) : ∀ field ∈ fields, field.length < u32Limit := by
  induction fields generalizing length with
  | nil => simp
  | cons f fs ih =>
      simp only [List.foldlM_cons, except_bind_eq_ok, addLength, require_eq_ok,
        except_pure_eq_ok] at h
      obtain ⟨m, ⟨-, hf, -, -, rfl⟩, hrest⟩ := h
      intro field hmem
      rcases List.mem_cons.mp hmem with rfl | hmem
      · exact hf
      · exact ih hrest field hmem

omit [Primitives] in
theorem framed_of_transcript {fields : List ByteString} {out : ByteString}
    (h : transcript fields = .ok out) : Framed fields ∧ out = frame fields := by
  simp only [transcript, except_bind_eq_ok, require_eq_ok, except_pure_eq_ok] at h
  obtain ⟨-, hcount, n, hn, rfl⟩ := h
  have hlength := length_lt_of_foldlM_addLength hn
  simp only [u32Limit] at hcount hlength
  refine ⟨⟨?_, fun field hmem => ?_⟩, rfl⟩
  · norm_num
    omega
  · have := hlength field hmem
    norm_num
    omega

/-! ## The second pass -/

omit [Primitives] in
theorem transcript_eq_checked (fields : List ByteString) :
    transcript fields = do
      checkFields fields
      return frame fields := by
  simp only [transcript, checkFields, bind_assoc, pure_bind]

omit [Primitives] in
/-- **The `expect` never panics**, and the two passes return what `transcript` says. -/
theorem transcriptPasses_eq (fields : List ByteString) :
    transcriptPasses fields = some (transcript fields) := by
  rw [transcriptPasses, transcript_eq_checked]
  cases hcheck : checkFields fields with
  | error error => rfl
  | ok checked =>
      simp only [checkFields, except_bind_eq_ok] at hcheck
      obtain ⟨-, -, n, hlength, -⟩ := hcheck
      have hlen := length_lt_of_foldlM_addLength hlength
      show (fields.foldlM Transcript.appendField (beBytes 4 fields.length)).bind _ = _
      rw [Transcript.foldlM_appendField hlen]
      rfl

/-! ## The two encoders -/

omit [Primitives] in
theorem addLength_of_addCapacity {length n : Nat} {field : ByteString}
    (h : Transcript.addCapacity length field = .ok n) : addLength length field = .ok n := by
  obtain ⟨hfield, rfl, hroom⟩ := Transcript.addCapacity_eq_ok.mp h
  have hstep : length + 4 < usizeLimit := by omega
  simp only [addLength, except_bind_eq_ok, require_eq_ok, except_pure_eq_ok]
  exact ⟨(), hfield, (), ⟨hstep, hroom⟩, trivial⟩

omit [Primitives] in
theorem foldlM_addLength_of_addCapacity {fields : List ByteString} {length n : Nat}
    (h : fields.foldlM Transcript.addCapacity length = .ok n) :
    fields.foldlM addLength length = .ok n := by
  induction fields generalizing length with
  | nil =>
      cases h
      rfl
  | cons f fs ih =>
      rw [List.foldlM_cons, except_bind_eq_ok] at h ⊢
      obtain ⟨m, hstep, hrest⟩ := h
      exact ⟨m, addLength_of_addCapacity hstep, ih hrest⟩

omit [Primitives] in
/-- What the library's encoder accepts, the tool's accepts with the same bytes. -/
theorem transcript_of_encode {fields : List ByteString} {out : ByteString}
    (h : Transcript.encode fields = .ok out) : transcript fields = .ok out := by
  simp only [Transcript.encode, except_bind_eq_ok, require_eq_ok, except_pure_eq_ok] at h
  obtain ⟨-, -, n, hlength, -, hcount, rfl⟩ := h
  simp only [transcript, except_bind_eq_ok, require_eq_ok, except_pure_eq_ok]
  exact ⟨(), hcount, n, foldlM_addLength_of_addCapacity hlength, trivial⟩

omit [Primitives] in
/-- **Transcript framing**: equal transcripts have equal fields and none is a proper prefix of
another; the encoder fails exactly outside its bounds; and the tool's encoder agrees with it. Neither
of them panics. -/
theorem transcripts_are_framed :
    (∀ fs gs out out', Transcript.encode fs = .ok out → Transcript.encode gs = .ok out' →
        (out = out' → fs = gs) ∧ (out <+: out' → out = out')) ∧
      (∀ fields, (∃ error, Transcript.encode fields = .error error) ↔
        32 < fields.length ∨ (∃ field ∈ fields, 2 ^ 32 ≤ field.length) ∨
          usizeLimit ≤ 4 + (fields.map fun field => 4 + field.length).sum) ∧
      (∀ fields, Transcript.encodePasses fields = some (Transcript.encode fields)) ∧
      (∀ fields, transcriptPasses fields = some (transcript fields)) ∧
      ∀ fields out, Transcript.encode fields = .ok out → transcript fields = .ok out := by
  refine ⟨fun fs gs out out' hf hg => ⟨?_, ?_⟩, Transcript.encode_fails_iff,
    Transcript.encodePasses_eq, transcriptPasses_eq, fun _ _ => transcript_of_encode⟩
  · rintro rfl
    exact Transcript.encode_injective hf hg
  · intro hwithin
    exact (Transcript.encode_prefix hf hg hwithin).2

end FidoKeyWrap.Tool
