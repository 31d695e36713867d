/-
# FidoKeyWrap.Tool.SecretFile — the container of a sealed secret, and its exact codec.

A container is the magic, the format, the envelope behind its length, a nonce, and the ciphertext
behind its length. The decoder walks a byte cursor with checked arithmetic and compares nothing with
a re-encoding, so its exactness is a fact about the cursor: what a read returns, followed by what is
unread after it, is what was unread before (`take_eq_ok`). A call that does not return a value
either rejects the input with a text or panics; the two are different faults, and the second one
never happens.
-/
import FidoKeyWrap.Lib.PrefixCode
import FidoKeyWrap.Tool.Container
import FidoKeyWrap.Tool.Vector

namespace FidoKeyWrap.Tool

open ByteData Framing Interact PrefixCode

/-- `FKW\0`, as in an envelope. -/
def magic : ByteString := [0x46, 0x4b, 0x57, 0x00]
/-- The only format there is. -/
def format : UInt8 := 1
/-- The length of a nonce. -/
def nonceBytes : Nat := 12
/-- The length of a tag. -/
def tagBytes : Nat := 16
/-- The most bytes of an envelope. -/
def maxEnvelopeBytes : Nat := 65536
/-- The most bytes of a plaintext. -/
def maxSecretBytes : Nat := 1024 * 1024
/-- The most bytes of a container, which is the sum of its parts. -/
def maxContainerBytes : Nat :=
  magic.length + 1 + 4 + maxEnvelopeBytes + nonceBytes + 4 + maxSecretBytes + tagBytes

/-- The domain of the associated data. -/
def secretAadDomain : ByteString := utf8 "fkw-tool/format_1/secret_aad"

/-! ## Faults -/

/-- Why a call returns no value. -/
inductive Fault where
  | bail (message : String)
  | panic (message : String)
  deriving DecidableEq

/-- A computation that may bail or panic. -/
abbrev Checked (α : Type) := Except Fault α

/-- `?` on a result that cannot panic. -/
def checked {α : Type} (result : Result α) : Checked α := result.mapError Fault.bail

/-! ## Lengths -/

/-- A length within bounds. -/
def validateLength (length least most : Nat) : Result Unit :=
  require (least ≤ length ∧ length ≤ most) "the encrypted secret is invalid"

/-- The bounds of an envelope. -/
def validateEnvelopeLen (envelope : ByteString) : Result Unit :=
  validateLength envelope.length 1 maxEnvelopeBytes

/-- The bounds of a ciphertext with its tag. -/
def validateCiphertextLen (length : Nat) : Result Unit :=
  validateLength length (tagBytes + 1) (maxSecretBytes + tagBytes)

/-- `u32::try_from` with its `expect`. -/
def lengthU32 (length : Nat) : Checked UInt32 :=
  if length < u32Limit then .ok (UInt32.ofNat length)
  else .error (.panic "validated tool lengths fit in u32")

/-! ## The cursor -/

/-- `Cursor<&[u8]>`. -/
structure ByteCursor where
  input : ByteString
  position : Nat
  deriving DecidableEq

namespace ByteCursor

/-- A cursor at the start. -/
def new (input : ByteString) : ByteCursor := ⟨input, 0⟩

/-- The next bytes. -/
def take (cursor : ByteCursor) (length : Nat) : Checked (ByteString × ByteCursor) := do
  require (cursor.position < usizeLimit) (Fault.bail "invalid cursor position")
  require (cursor.position + length < usizeLimit) (Fault.bail "invalid container length")
  let stop := cursor.position + length
  -- `input.get(position..end)`
  require (stop ≤ cursor.input.length) (Fault.bail "the encrypted secret file is truncated")
  require (stop < u64Limit) (Fault.panic "bounded container position")
  return ((cursor.input.drop cursor.position).take length, { cursor with position := stop })

/-- The next byte. -/
def takeU8 (cursor : ByteCursor) : Checked (UInt8 × ByteCursor) := do
  let (bytes, cursor) ← cursor.take 1
  let byte ← okOr bytes.head? (Fault.panic "index out of bounds")
  return (byte, cursor)

/-- The next four bytes, as a number. -/
def takeU32 (cursor : ByteCursor) : Checked (UInt32 × ByteCursor) := do
  let (bytes, cursor) ← cursor.take 4
  let bytes ← okOr (Bytes.ofList? 4 bytes) (Fault.panic "the cursor returned exactly four bytes")
  return (UInt32.ofNat (ofBe bytes.toList), cursor)

/-- Nothing is left. -/
def isEmpty (cursor : ByteCursor) : Bool :=
  cursor.position < usizeLimit && cursor.position == cursor.input.length

end ByteCursor

/-! ## The container -/

/-- **`EncryptedSecret`** — a nonce, and the ciphertext with its tag. -/
structure EncryptedSecret where
  nonce : Bytes 12
  ciphertext : ByteString
  deriving DecidableEq

/-- **`SecretFile`** — an envelope and the secret encrypted under its root. The fields are private,
so a value of the program passed `new` or `decode`; here every pair is a value. -/
structure SecretFile where
  envelope : ByteString
  secret : EncryptedSecret
  deriving DecidableEq

namespace SecretFile

/-- A container whose parts are within their bounds. -/
def new (envelope : ByteString) (secret : EncryptedSecret) : Result SecretFile := do
  validateEnvelopeLen envelope
  validateCiphertextLen secret.ciphertext.length
  return { envelope, secret }

/-- **`SecretFile::decode`** — read a container to its end. -/
def decode (input : ByteString) : Checked SecretFile := do
  require (¬ maxContainerBytes < input.length)
    (Fault.bail "the encrypted secret file is too large")
  let (found, cursor) ← (ByteCursor.new input).take magic.length
  require (found = magic) (Fault.bail "this is not a supported fkw secret file")
  let (version, cursor) ← cursor.takeU8
  require (version = format) (Fault.bail "this is not a supported fkw secret file")
  let (envelopeLen, cursor) ← cursor.takeU32
  require (envelopeLen.toNat < usizeLimit) (Fault.bail "invalid key-envelope length")
  checked (validateLength envelopeLen.toNat 1 maxEnvelopeBytes)
  let (envelope, cursor) ← cursor.take envelopeLen.toNat
  let (bytes, cursor) ← cursor.take nonceBytes
  let nonce ← okOr (Bytes.ofList? 12 bytes) (Fault.panic "the cursor returned exactly one nonce")
  let (ciphertextLen, cursor) ← cursor.takeU32
  require (ciphertextLen.toNat < usizeLimit) (Fault.bail "invalid encrypted-secret length")
  checked (validateCiphertextLen ciphertextLen.toNat)
  let (ciphertext, cursor) ← cursor.take ciphertextLen.toNat
  require (cursor.isEmpty = true) (Fault.bail "the encrypted secret has trailing data")
  return { envelope, secret := { nonce, ciphertext } }

/-- **`SecretFile::encode`** — write a container. -/
def encode (file : SecretFile) : Checked ByteString := do
  let capacity := magic.length + 1 + 4 + file.envelope.length + nonceBytes + 4
    + file.secret.ciphertext.length
  require (capacity < usizeLimit) (Fault.panic "attempt to add with overflow")
  let envelopeLen ← lengthU32 file.envelope.length
  let ciphertextLen ← lengthU32 file.secret.ciphertext.length
  return magic ++ [format] ++ beBytes 4 envelopeLen.toNat ++ file.envelope
    ++ file.secret.nonce.toList ++ beBytes 4 ciphertextLen.toNat ++ file.secret.ciphertext

/-- The lengths a container must have. -/
structure Valid (file : SecretFile) : Prop where
  envelope : 1 ≤ file.envelope.length ∧ file.envelope.length ≤ 65536
  ciphertext : 17 ≤ file.secret.ciphertext.length ∧ file.secret.ciphertext.length ≤ 1048592

end SecretFile

/-! ## Encryption -/

section Encryption

variable [Primitives]

/-- The associated data bind the ciphertext to the envelope. -/
def secretAad (envelope : ByteString) : Result ByteString := transcript [secretAadDomain, envelope]

namespace EncryptedSecret

/-- The ciphertext of the cipher interface is the encryption followed by its tag. -/
def encryptWithNonce (root : RootKey) (applicationId : ApplicationId)
    (envelope plaintext : ByteString) (nonce : Bytes 12) : Result EncryptedSecret := do
  validateEnvelopeLen envelope
  require (¬ (plaintext = [] ∨ maxSecretBytes < plaintext.length))
    "the secret must contain between 1 byte and 1 MiB"
  let key ← deriveSecretKey root applicationId
  require (Primitives.aes256Accepts key.toList = true) "failed to initialize secret encryption"
  let aad ← secretAad envelope
  let message : Bytes plaintext.length := ⟨plaintext, rfl⟩
  let (body, tag) ← okOr (Primitives.aesGcmEncrypt key nonce aad message)
    "failed to encrypt the secret"
  return { nonce, ciphertext := body.toList ++ tag.toList }

/-- Encrypt under a nonce that was drawn. -/
def encrypt (root : RootKey) (applicationId : ApplicationId) (envelope plaintext : ByteString) :
    Os EncryptedSecret := do
  require (¬ (plaintext = [] ∨ maxSecretBytes < plaintext.length))
    "the secret must contain between 1 byte and 1 MiB"
  let drawn ← call (.random 12)
  let nonce ← okOr drawn "secure randomness is unavailable"
  encryptWithNonce root applicationId envelope plaintext nonce

/-- `Aead::decrypt`: the last sixteen bytes are the tag, and a shorter message is an error. -/
def openCiphertext (key : Bytes 32) (nonce : Bytes 12) (aad ciphertext : ByteString) :
    Option ByteString := do
  let length := ciphertext.length - tagBytes
  let body ← Bytes.ofList? length (ciphertext.take length)
  let tag ← Bytes.ofList? 16 (ciphertext.drop length)
  let plaintext ← Primitives.aesGcmDecrypt key nonce aad body tag
  return plaintext.toList

/-- Decrypt, and check the plaintext as it was checked before. -/
def decrypt (secret : EncryptedSecret) (root : RootKey) (applicationId : ApplicationId)
    (envelope : ByteString) : Result ByteString := do
  validateEnvelopeLen envelope
  validateCiphertextLen secret.ciphertext.length
  let key ← deriveSecretKey root applicationId
  require (Primitives.aes256Accepts key.toList = true) "failed to initialize secret decryption"
  let aad ← secretAad envelope
  let plaintext ← okOr (openCiphertext key secret.nonce aad secret.ciphertext)
    "the encrypted secret failed authentication"
  require (¬ (plaintext = [] ∨ maxSecretBytes < plaintext.length)) "the encrypted secret is invalid"
  return plaintext

end EncryptedSecret

end Encryption

/-! ## What the cursor reads -/

section Cursor

/-- The bytes after the position. -/
def ByteCursor.unread (cursor : ByteCursor) : ByteString := cursor.input.drop cursor.position

/-- Every cursor of the decoder: on an input that is not too large, not past its end. -/
structure ByteCursor.InBounds (cursor : ByteCursor) : Prop where
  position : cursor.position ≤ cursor.input.length
  bounded : cursor.input.length ≤ maxContainerBytes

variable {cursor cursor' : ByteCursor} {length : Nat} {bytes rest : ByteString}

/-- **What is read, then what is unread.** -/
theorem take_eq_ok (h : cursor.InBounds) (hok : cursor.take length = .ok (bytes, cursor')) :
    bytes.length = length ∧ cursor.unread = bytes ++ cursor'.unread ∧ cursor'.InBounds := by
  simp only [ByteCursor.take, except_bind_eq_ok, require_eq_ok, except_pure_eq_ok,
    Prod.mk.injEq] at hok
  obtain ⟨-, -, -, -, -, hstop, -, -, rfl, rfl⟩ := hok
  refine ⟨?_, ?_, hstop, h.bounded⟩
  · rw [List.length_take, List.length_drop]
    omega
  · rw [ByteCursor.unread, ByteCursor.unread, ← List.drop_drop, List.take_append_drop]

/-- Reading exactly what stands first. -/
theorem take_append (h : cursor.InBounds) (hunread : cursor.unread = bytes ++ rest) :
    ∃ cursor', cursor.take bytes.length = .ok (bytes, cursor') ∧ cursor'.InBounds ∧
      cursor'.unread = rest := by
  have hlength := congrArg List.length hunread
  have hposition := h.position
  have hbounded := h.bounded
  simp only [ByteCursor.unread, List.length_drop, List.length_append] at hlength
  have hmax : maxContainerBytes = 1114153 := rfl
  have hread : (cursor.input.drop cursor.position).take bytes.length = bytes := by
    change cursor.unread.take bytes.length = bytes
    rw [hunread, List.take_left]
  refine ⟨{ cursor with position := cursor.position + bytes.length }, ?_, ⟨?_, hbounded⟩, ?_⟩
  · have husize : usizeLimit = 2 ^ 64 := rfl
    have hu64 : u64Limit = 2 ^ 64 := rfl
    simp only [ByteCursor.take, except_bind_eq_ok, require_eq_ok, except_pure_eq_ok, hread]
    refine ⟨(), ?_, (), ?_, (), ?_, (), ?_, trivial⟩ <;> omega
  · show cursor.position + bytes.length ≤ cursor.input.length
    omega
  · rw [ByteCursor.unread, ← List.drop_drop]
    change cursor.unread.drop bytes.length = rest
    rw [hunread, List.drop_left]

theorem takeU8_eq_ok {byte : UInt8} (h : cursor.InBounds)
    (hok : cursor.takeU8 = .ok (byte, cursor')) :
    cursor.unread = [byte] ++ cursor'.unread ∧ cursor'.InBounds := by
  simp only [ByteCursor.takeU8, except_bind_eq_ok, okOr_eq_ok, except_pure_eq_ok, Prod.exists,
    Prod.mk.injEq] at hok
  obtain ⟨bytes, _, htake, _, hhead, rfl, rfl⟩ := hok
  obtain ⟨hlength, hunread, hbounds⟩ := take_eq_ok h htake
  obtain ⟨b, rfl⟩ := List.length_eq_one_iff.mp hlength
  obtain rfl := Option.some.inj hhead
  exact ⟨hunread, hbounds⟩

theorem takeU8_append {byte : UInt8} (h : cursor.InBounds) (hunread : cursor.unread = byte :: rest) :
    ∃ cursor', cursor.takeU8 = .ok (byte, cursor') ∧ cursor'.InBounds ∧ cursor'.unread = rest := by
  have hbytes : cursor.unread = [byte] ++ rest := hunread
  obtain ⟨cursor', htake, hbounds, hrest⟩ := take_append h hbytes
  refine ⟨cursor', ?_, hbounds, hrest⟩
  simp only [ByteCursor.takeU8, except_bind_eq_ok, okOr_eq_ok, except_pure_eq_ok, Prod.exists]
  exact ⟨_, _, htake, _, rfl, rfl⟩

theorem takeU32_eq_ok {n : UInt32} (h : cursor.InBounds)
    (hok : cursor.takeU32 = .ok (n, cursor')) :
    cursor.unread = beBytes 4 n.toNat ++ cursor'.unread ∧ cursor'.InBounds := by
  simp only [ByteCursor.takeU32, except_bind_eq_ok, okOr_eq_ok, except_pure_eq_ok, Prod.exists,
    Prod.mk.injEq] at hok
  obtain ⟨bytes, _, htake, four, hfour, rfl, rfl⟩ := hok
  obtain ⟨-, hunread, hbounds⟩ := take_eq_ok h htake
  obtain rfl := Bytes.ofList?_eq_some.mp hfour
  have hlt : ofBe four.toList < 2 ^ 32 := by
    have := ofBe_lt four.toList
    rw [four.length_eq] at this
    omega
  have hback : beBytes 4 (ofBe four.toList) = four.toList := by
    have := beBytes_ofBe four.toList
    rwa [four.length_eq] at this
  rw [UInt32.toNat_ofNat_of_lt' hlt, hback]
  exact ⟨hunread, hbounds⟩

theorem takeU32_append {n : Nat} (h : cursor.InBounds) (hn : n < u32Limit)
    (hunread : cursor.unread = beBytes 4 n ++ rest) :
    ∃ cursor', cursor.takeU32 = .ok (UInt32.ofNat n, cursor') ∧ cursor'.InBounds ∧
      cursor'.unread = rest := by
  obtain ⟨cursor', htake, hbounds, hrest⟩ := take_append h hunread
  rw [length_beBytes] at htake
  refine ⟨cursor', ?_, hbounds, hrest⟩
  have hofBe : ofBe (beBytes 4 n) = n := ofBe_beBytes (by simpa [u32Limit] using hn)
  simp only [ByteCursor.takeU32, except_bind_eq_ok, okOr_eq_ok, except_pure_eq_ok, Prod.exists]
  refine ⟨_, _, htake, Bytes.ofNat 4 n, Bytes.ofList?_eq_some.mpr rfl, ?_⟩
  rw [Bytes.ofNat, hofBe]

theorem isEmpty_iff (h : cursor.InBounds) : cursor.isEmpty = true ↔ cursor.unread = [] := by
  have hbounded := h.bounded
  have hposition := h.position
  have hmax : maxContainerBytes = 1114153 := rfl
  have husize : usizeLimit = 2 ^ 64 := rfl
  simp only [ByteCursor.isEmpty, Bool.and_eq_true, decide_eq_true_eq, beq_iff_eq,
    ByteCursor.unread, List.drop_eq_nil_iff]
  constructor
  · rintro ⟨-, heq⟩
    omega
  · intro hle
    exact ⟨by omega, by omega⟩

end Cursor

/-! ## The codec is exact -/

section Codec

/-- The bytes of a container. -/
def SecretFile.layout (file : SecretFile) : ByteString :=
  magic ++ [format] ++ beBytes 4 file.envelope.length ++ file.envelope ++ file.secret.nonce.toList
    ++ beBytes 4 file.secret.ciphertext.length ++ file.secret.ciphertext

variable {file file' : SecretFile} {input bytes : ByteString}

theorem lengthU32_eq_ok {length : Nat} {n : UInt32} :
    lengthU32 length = .ok n ↔ length < u32Limit ∧ n = UInt32.ofNat length := by
  unfold lengthU32
  split
  · simp_all [eq_comm]
  · simp_all

/-- The encoder writes the layout, unless a length does not fit its field. -/
theorem encode_eq_ok :
    file.encode = .ok bytes ↔ file.envelope.length < u32Limit ∧
      file.secret.ciphertext.length < u32Limit ∧ bytes = file.layout := by
  simp only [SecretFile.encode, except_bind_eq_ok, require_eq_ok, lengthU32_eq_ok,
    except_pure_eq_ok]
  have hback : ∀ n, n < u32Limit → (UInt32.ofNat n).toNat = n :=
    fun n hn => UInt32.toNat_ofNat_of_lt' hn
  constructor
  · rintro ⟨-, -, _, ⟨henvelope, rfl⟩, _, ⟨hciphertext, rfl⟩, rfl⟩
    rw [hback _ henvelope, hback _ hciphertext]
    exact ⟨henvelope, hciphertext, rfl⟩
  · rintro ⟨henvelope, hciphertext, rfl⟩
    refine ⟨(), ?_, _, ⟨henvelope, rfl⟩, _, ⟨hciphertext, rfl⟩, ?_⟩
    · have hmagic : magic.length = 4 := rfl
      simp only [hmagic, nonceBytes, u32Limit, usizeLimit] at *
      omega
    · rw [hback _ henvelope, hback _ hciphertext]
      rfl

theorem SecretFile.Valid.encode (h : file.Valid) : file.encode = .ok file.layout := by
  have henvelope := h.envelope.2
  have hciphertext := h.ciphertext.2
  simp only [encode_eq_ok, u32Limit]
  exact ⟨by omega, by omega, trivial⟩

theorem length_layout :
    file.layout.length = 25 + file.envelope.length + file.secret.ciphertext.length := by
  have hmagic : magic.length = 4 := rfl
  simp only [SecretFile.layout, List.length_append, hmagic, List.length_singleton, length_beBytes,
    Bytes.length_eq]
  omega

theorem SecretFile.Valid.length_layout_le (h : file.Valid) :
    file.layout.length ≤ maxContainerBytes := by
  have henvelope := h.envelope.2
  have hciphertext := h.ciphertext.2
  have hmax : maxContainerBytes = 1114153 := rfl
  rw [length_layout]
  omega

theorem validateLength_eq_ok {length least most : Nat} {u : Unit} :
    validateLength length least most = .ok u ↔ least ≤ length ∧ length ≤ most := require_eq_ok

theorem new_eq_ok {envelope : ByteString} {secret : EncryptedSecret} :
    SecretFile.new envelope secret = .ok file ↔ file = ⟨envelope, secret⟩ ∧ file.Valid := by
  simp only [SecretFile.new, except_bind_eq_ok, validateEnvelopeLen, validateCiphertextLen,
    validateLength_eq_ok, except_pure_eq_ok]
  constructor
  · rintro ⟨-, henvelope, -, hciphertext, rfl⟩
    exact ⟨rfl, henvelope, hciphertext⟩
  · rintro ⟨rfl, henvelope, hciphertext⟩
    exact ⟨(), henvelope, (), hciphertext, rfl⟩

theorem inBounds_new (h : input.length ≤ maxContainerBytes) : (ByteCursor.new input).InBounds :=
  ⟨Nat.zero_le _, h⟩

/-- What the decoder accepts has the lengths it checked, and the cursor has walked its layout. -/
theorem valid_of_decode (h : SecretFile.decode input = .ok file) :
    file.Valid ∧ input = file.layout := by
  simp only [SecretFile.decode, except_bind_eq_ok, require_eq_ok, except_pure_eq_ok, Prod.exists,
    okOr_eq_ok, checked, except_mapError_eq_ok, validateCiphertextLen, validateLength_eq_ok] at h
  obtain ⟨-, hsize, _, c₁, h₁, -, rfl, _, c₂, h₂, -, rfl, n, c₃, h₃, -, -, -, henvelope, envelope, c₄,
    h₄, _, c₅, h₅, nonce, hnonce, m, c₆, h₆, -, -, -, hciphertext, ciphertext, c₇, h₇, -, hempty,
    rfl⟩ := h
  -- each read, and what is left unread after it
  have hnew := inBounds_new (not_lt.mp hsize)
  obtain ⟨-, hunread₁, hbounds₁⟩ := take_eq_ok hnew h₁
  obtain ⟨hunread₂, hbounds₂⟩ := takeU8_eq_ok hbounds₁ h₂
  obtain ⟨hunread₃, hbounds₃⟩ := takeU32_eq_ok hbounds₂ h₃
  obtain ⟨hlength₄, hunread₄, hbounds₄⟩ := take_eq_ok hbounds₃ h₄
  obtain ⟨-, hunread₅, hbounds₅⟩ := take_eq_ok hbounds₄ h₅
  obtain ⟨hunread₆, hbounds₆⟩ := takeU32_eq_ok hbounds₅ h₆
  obtain ⟨hlength₇, hunread₇, hbounds₇⟩ := take_eq_ok hbounds₆ h₇
  have hend := (isEmpty_iff hbounds₇).mp hempty
  obtain rfl := Bytes.ofList?_eq_some.mp hnonce
  refine ⟨⟨?_, ?_⟩, ?_⟩
  · rw [hlength₄]
    exact henvelope
  · rw [hlength₇]
    exact hciphertext
  · have hinput : (ByteCursor.new input).unread = input := rfl
    rw [← hinput, hunread₁, hunread₂, hunread₃, hunread₄, hunread₅, hunread₆, hunread₇, hend,
      SecretFile.layout, hlength₄, hlength₇, List.append_nil]
    simp only [List.append_assoc]

/-- The decoder reads back the layout of a valid container. -/
theorem decode_layout (h : file.Valid) : SecretFile.decode file.layout = .ok file := by
  have henvelope := h.envelope
  have hciphertext := h.ciphertext
  have hnew := inBounds_new h.length_layout_le
  have hunread : (ByteCursor.new file.layout).unread = magic ++ ([format] ++
      (beBytes 4 file.envelope.length ++ (file.envelope ++ (file.secret.nonce.toList ++
        (beBytes 4 file.secret.ciphertext.length ++ (file.secret.ciphertext ++ [])))))) := by
    change file.layout = _
    simp only [SecretFile.layout, List.append_assoc, List.append_nil]
  have hfits : file.envelope.length < u32Limit ∧ file.secret.ciphertext.length < u32Limit := by
    simp only [u32Limit]
    omega
  have hback : ∀ n, n < u32Limit → (UInt32.ofNat n).toNat = n :=
    fun n hn => UInt32.toNat_ofNat_of_lt' hn
  obtain ⟨c₁, h₁, hbounds₁, hunread₁⟩ := take_append hnew hunread
  obtain ⟨c₂, h₂, hbounds₂, hunread₂⟩ := takeU8_append hbounds₁ hunread₁
  obtain ⟨c₃, h₃, hbounds₃, hunread₃⟩ := takeU32_append hbounds₂ hfits.1 hunread₂
  obtain ⟨c₄, h₄, hbounds₄, hunread₄⟩ := take_append hbounds₃ hunread₃
  obtain ⟨c₅, h₅, hbounds₅, hunread₅⟩ := take_append hbounds₄ hunread₄
  obtain ⟨c₆, h₆, hbounds₆, hunread₆⟩ := takeU32_append hbounds₅ hfits.2 hunread₅
  obtain ⟨c₇, h₇, hbounds₇, hunread₇⟩ := take_append hbounds₆ hunread₆
  rw [file.secret.nonce.length_eq] at h₅
  have husize : u32Limit < usizeLimit := by decide
  simp only [SecretFile.decode, except_bind_eq_ok, require_eq_ok, except_pure_eq_ok, Prod.exists,
    okOr_eq_ok, checked, except_mapError_eq_ok, validateCiphertextLen, validateLength_eq_ok]
  refine ⟨(), not_lt.mpr h.length_layout_le, _, c₁, h₁, (), rfl, _, c₂, h₂, (), rfl, _, c₃, h₃, (), ?_,
    (), ?_, file.envelope, c₄, ?_, _, c₅, h₅, _, Bytes.ofList?_toList _, _, c₆, h₆, (), ?_, (), ?_,
    file.secret.ciphertext, c₇, ?_, (), (isEmpty_iff hbounds₇).mpr hunread₇, rfl⟩
  · rw [hback _ hfits.1]
    omega
  · rw [hback _ hfits.1]
    exact henvelope
  · rw [hback _ hfits.1]
    exact h₄
  · rw [hback _ hfits.2]
    omega
  · rw [hback _ hfits.2]
    exact hciphertext
  · rw [hback _ hfits.2]
    exact h₇

/-- **A container says where it ends.** -/
theorem layout_selfDelimiting :
    SelfDelimiting (fun file : SecretFile => file.envelope.length < u32Limit ∧
      file.secret.ciphertext.length < u32Limit) SecretFile.layout := by
  rintro ⟨envelope, nonce, ciphertext⟩ ⟨envelope', nonce', ciphertext'⟩ rest ⟨he, hc⟩ ⟨he', hc'⟩ h
  have hlimit : u32Limit = 256 ^ 4 := by norm_num [u32Limit]
  simp only [hlimit] at he hc he' hc'
  simp only [SecretFile.layout, List.append_assoc, List.append_cancel_left_eq] at h
  obtain ⟨henvelope, h₁⟩ := beBytes_append_inj he he' h
  obtain ⟨rfl, h₂⟩ := List.append_inj h₁ henvelope
  obtain ⟨rfl, h₃⟩ := Bytes.append_inj h₂
  obtain ⟨hciphertext, h₄⟩ := beBytes_append_inj hc hc' h₃
  rw [← List.append_nil ciphertext'] at h₄
  obtain ⟨rfl, hrest⟩ := List.append_inj h₄ hciphertext
  exact ⟨rfl, hrest⟩

end Codec

/-! ## No fault but a rejection -/

section Faults

/-- The texts the decoder rejects an input with. -/
def rejections : List String :=
  ["the encrypted secret file is too large", "the encrypted secret file is truncated",
    "this is not a supported fkw secret file", "the encrypted secret is invalid",
    "the encrypted secret has trailing data"]

/-- **`Rejects x`** — `x` fails only with a rejection: no panic and no arithmetic error. -/
def Rejects {α : Type} (x : Checked α) : Prop :=
  ∀ fault, x = .error fault → ∃ message ∈ rejections, fault = .bail message

variable {α β : Type} {cursor : ByteCursor}

theorem rejects_ok (a : α) : Rejects (.ok a : Checked α) := by
  intro fault h
  cases h

theorem rejects_require {condition : Prop} [Decidable condition] {message : String}
    (h : message ∈ rejections) : Rejects (require condition (Fault.bail message)) := by
  intro fault hfault
  unfold require at hfault
  split at hfault
  · cases hfault
  · cases hfault
    exact ⟨message, h, rfl⟩

/-- A check that always passes. -/
theorem rejects_of_eq_ok {x : Checked α} {a : α} (h : x = .ok a) : Rejects x := by
  rw [h]
  exact rejects_ok a

theorem rejects_bind {x : Checked α} {f : α → Checked β} (hx : Rejects x)
    (hf : ∀ a, x = .ok a → Rejects (f a)) : Rejects (x >>= f) := by
  cases x with
  | error fault =>
      intro fault' h
      cases h
      exact hx fault rfl
  | ok a => exact hf a rfl

theorem rejects_take (h : cursor.InBounds) {length : Nat} (hlength : length < 2 ^ 32) :
    Rejects (cursor.take length) := by
  have hposition := h.position
  have hbounded := h.bounded
  have hmax : maxContainerBytes = 1114153 := rfl
  have husize : usizeLimit = 2 ^ 64 := rfl
  have hu64 : u64Limit = 2 ^ 64 := rfl
  refine rejects_bind (rejects_of_eq_ok (require_of (by omega))) fun _ _ => ?_
  refine rejects_bind (rejects_of_eq_ok (require_of (by omega))) fun _ _ => ?_
  refine rejects_bind (rejects_require (by simp [rejections])) fun _ hstop => ?_
  rw [require_eq_ok] at hstop
  refine rejects_bind (rejects_of_eq_ok (require_of (by omega))) fun _ _ => ?_
  exact rejects_ok _

theorem rejects_takeU8 (h : cursor.InBounds) : Rejects cursor.takeU8 := by
  refine rejects_bind (rejects_take h (by norm_num)) ?_
  rintro ⟨bytes, cursor'⟩ htake
  obtain ⟨byte, rfl⟩ := List.length_eq_one_iff.mp (take_eq_ok h htake).1
  exact rejects_ok _

theorem rejects_takeU32 (h : cursor.InBounds) : Rejects cursor.takeU32 := by
  refine rejects_bind (rejects_take h (by norm_num)) ?_
  rintro ⟨bytes, cursor'⟩ htake
  have hlength := (take_eq_ok h htake).1
  refine rejects_bind (rejects_of_eq_ok (a := ⟨bytes, hlength⟩) ?_) fun _ _ => rejects_ok _
  exact okOr_eq_ok.mpr (Bytes.ofList?_eq_some.mpr rfl)

/-- A 32-bit length always fits an address. -/
theorem rejects_usize (n : UInt32) (message : String) :
    Rejects (require (n.toNat < usizeLimit) (Fault.bail message)) :=
  rejects_of_eq_ok (require_of (lt_trans n.toNat_lt (by decide)))

theorem rejects_validateLength {length least most : Nat} :
    Rejects (checked (validateLength length least most)) := by
  intro fault hfault
  unfold checked validateLength require at hfault
  split at hfault
  · cases hfault
  · cases hfault
    exact ⟨_, by simp [rejections], rfl⟩

/-- **The decoder never panics, and its arithmetic never fails.** -/
theorem rejects_decode (input : ByteString) : Rejects (SecretFile.decode input) := by
  refine rejects_bind (rejects_require (by simp [rejections])) fun _ hsize => ?_
  have hnew := inBounds_new (not_lt.mp (require_eq_ok.mp hsize))
  refine rejects_bind (rejects_take hnew (by decide)) ?_
  rintro ⟨found, c₁⟩ h₁
  have hbounds₁ := (take_eq_ok hnew h₁).2.2
  refine rejects_bind (rejects_require (by simp [rejections])) fun _ _ => ?_
  refine rejects_bind (rejects_takeU8 hbounds₁) ?_
  rintro ⟨version, c₂⟩ h₂
  have hbounds₂ := (takeU8_eq_ok hbounds₁ h₂).2
  refine rejects_bind (rejects_require (by simp [rejections])) fun _ _ => ?_
  refine rejects_bind (rejects_takeU32 hbounds₂) ?_
  rintro ⟨n, c₃⟩ h₃
  have hbounds₃ := (takeU32_eq_ok hbounds₂ h₃).2
  refine rejects_bind (rejects_usize n _) fun _ _ => ?_
  refine rejects_bind rejects_validateLength fun _ _ => ?_
  refine rejects_bind (rejects_take hbounds₃ n.toNat_lt) ?_
  rintro ⟨envelope, c₄⟩ h₄
  have hbounds₄ := (take_eq_ok hbounds₃ h₄).2.2
  refine rejects_bind (rejects_take hbounds₄ (by decide)) ?_
  rintro ⟨bytes, c₅⟩ h₅
  obtain ⟨hlength₅, -, hbounds₅⟩ := take_eq_ok hbounds₄ h₅
  -- the cursor returned as many bytes as were asked for
  refine rejects_bind (rejects_of_eq_ok (a := ⟨bytes, hlength₅⟩)
    (okOr_eq_ok.mpr (Bytes.ofList?_eq_some.mpr rfl))) fun _ _ => ?_
  refine rejects_bind (rejects_takeU32 hbounds₅) ?_
  rintro ⟨m, c₆⟩ h₆
  have hbounds₆ := (takeU32_eq_ok hbounds₅ h₆).2
  refine rejects_bind (rejects_usize m _) fun _ _ => ?_
  refine rejects_bind rejects_validateLength fun _ _ => ?_
  refine rejects_bind (rejects_take hbounds₆ m.toNat_lt) ?_
  rintro ⟨ciphertext, c₇⟩ -
  refine rejects_bind (rejects_require (by simp [rejections])) fun _ _ => ?_
  exact rejects_ok _

end Faults

/-! ## Every container the tool makes -/

section Made

variable [Primitives] {root : RootKey} {applicationId : ApplicationId}
  {envelope plaintext : ByteString} {nonce : Bytes 12} {secret : EncryptedSecret}

/-- An encryption that succeeds has a container. -/
theorem new_of_encryptWithNonce
    (h : EncryptedSecret.encryptWithNonce root applicationId envelope plaintext nonce = .ok secret) :
    ∃ file, SecretFile.new envelope secret = .ok file := by
  simp only [EncryptedSecret.encryptWithNonce, except_bind_eq_ok, require_eq_ok, okOr_eq_ok,
    except_pure_eq_ok, Prod.exists, validateEnvelopeLen, validateLength_eq_ok] at h
  obtain ⟨-, henvelope, -, hplaintext, key, -, -, -, aad, -, body, tag, -, rfl⟩ := h
  obtain ⟨hne, hle⟩ := not_or.mp hplaintext
  have hpos := List.length_pos_iff.mpr hne
  simp only [maxEnvelopeBytes] at henvelope
  simp only [maxSecretBytes] at hle
  refine ⟨_, new_eq_ok.mpr ⟨rfl, henvelope, ?_⟩⟩
  simp only [List.length_append, Bytes.length_eq]
  omega

/-- The nonce is drawn, then the encryption is a function of it. -/
theorem runs_encrypt_ok {t : Trace os} :
    (EncryptedSecret.encrypt root applicationId envelope plaintext).run.Runs t (.ok secret) →
      ∃ nonce, t = [⟨.random 12, some nonce⟩] ∧
        EncryptedSecret.encryptWithNonce root applicationId envelope plaintext nonce = .ok secret := by
  intro h
  unfold EncryptedSecret.encrypt at h
  obtain ⟨-, -, h⟩ := Fallible.runs_except_bind_ok.mp h
  obtain ⟨t₁, drawn, t₂, rfl, hcall, h⟩ := Fallible.runs_bind_ok.mp h
  obtain ⟨nonce, hdrawn, h⟩ := Fallible.runs_except_bind_ok.mp h
  obtain ⟨rfl, hsecret⟩ := Fallible.runs_except.mp h
  obtain ⟨reply, hask, hreply⟩ := Fallible.runs_lift.mp hcall
  cases hreply
  rw [Program.runs_ask] at hask
  rw [okOr_eq_ok.mp hdrawn] at hask
  exact ⟨nonce, by rw [hask, List.append_nil], hsecret.symm⟩

omit [Primitives] in
/-- Every container that `new` accepts is encoded, fits the limit, and is read back. -/
theorem encode_of_new {file : SecretFile} (h : SecretFile.new envelope secret = .ok file) :
    ∃ bytes, file.encode = .ok bytes ∧ bytes.length ≤ maxContainerBytes ∧
      ensureSize bytes = .ok () ∧ ∀ path opened,
        Fallible.Returns (Holds path opened bytes) (readPrivate path) bytes := by
  obtain ⟨-, hvalid⟩ := new_eq_ok.mp h
  have hle := hvalid.length_layout_le
  have hadmitted : file.layout.length ≤ maxFileBytes := hle.trans (by decide)
  exact ⟨_, hvalid.encode, hle, ensureSize_of_le hadmitted, fun _ _ => returns_readPrivate hadmitted⟩

/-- **The container codec is exact.** The decoder accepts the encodings of containers with the right
lengths and nothing else; no encoding is a proper prefix of another, so every truncation and all
trailing data are rejected; every container the tool makes fits the limits of the codec and of the
storage; and the decoder fails only with one of its rejections. -/
theorem secretFile_codec_exact :
    (∀ input file, SecretFile.decode input = .ok file ↔ file.Valid ∧ file.encode = .ok input) ∧
    (∀ (file : SecretFile) bytes, file.encode = .ok bytes →
      (∀ (file' : SecretFile) bytes', file'.encode = .ok bytes' → bytes <+: bytes' → bytes = bytes') ∧
      (∀ input, input <+: bytes → input ≠ bytes → ∀ file', SecretFile.decode input ≠ .ok file') ∧
      ∀ trailing, trailing ≠ [] → ∀ file', SecretFile.decode (bytes ++ trailing) ≠ .ok file') ∧
    (∀ envelope secret file, SecretFile.new envelope secret = .ok file → ∃ bytes,
      file.encode = .ok bytes ∧ bytes.length ≤ maxContainerBytes ∧ ensureSize bytes = .ok () ∧
        ∀ path opened, Fallible.Returns (Holds path opened bytes) (readPrivate path) bytes) ∧
    (∀ root applicationId envelope plaintext t secret,
      (EncryptedSecret.encrypt root applicationId envelope plaintext).run.Runs t (.ok secret) →
        ∃ file, SecretFile.new envelope secret = .ok file) ∧
    ∀ input fault, SecretFile.decode input = .error fault →
      ∃ message ∈ rejections, fault = .bail message := by
  have hdecode : AcceptsOnly SecretFile.decode (fun file : SecretFile =>
      file.envelope.length < u32Limit ∧ file.secret.ciphertext.length < u32Limit)
      SecretFile.layout := by
    intro input file h
    obtain ⟨hvalid, rfl⟩ := valid_of_decode h
    obtain ⟨henvelope, hciphertext, -⟩ := encode_eq_ok.mp hvalid.encode
    exact ⟨⟨henvelope, hciphertext⟩, rfl⟩
  refine ⟨fun input file => ⟨fun h => ?_, ?_⟩, fun file bytes h => ?_, fun _ _ _ => encode_of_new,
    fun _ _ _ _ _ _ h => ?_, rejects_decode⟩
  · obtain ⟨hvalid, rfl⟩ := valid_of_decode h
    exact ⟨hvalid, hvalid.encode⟩
  · rintro ⟨hvalid, h⟩
    obtain ⟨-, -, rfl⟩ := encode_eq_ok.mp h
    exact decode_layout hvalid
  · obtain ⟨henvelope, hciphertext, rfl⟩ := encode_eq_ok.mp h
    refine ⟨fun file' bytes' h' hstart => ?_, fun input hstart hne => ?_, fun trailing hne => ?_⟩
    · obtain ⟨henvelope', hciphertext', rfl⟩ := encode_eq_ok.mp h'
      rw [layout_selfDelimiting.eq_of_prefix ⟨henvelope, hciphertext⟩ ⟨henvelope', hciphertext'⟩
        hstart]
    · exact layout_selfDelimiting.rejects_prefix hdecode ⟨henvelope, hciphertext⟩ hstart hne
    · exact layout_selfDelimiting.rejects_extension hdecode ⟨henvelope, hciphertext⟩ hne
  · obtain ⟨nonce, -, hencrypt⟩ := runs_encrypt_ok h
    exact new_of_encryptWithNonce hencrypt

end Made

section Vectors

/-- The secret of the container vector. -/
def vectorSecret : EncryptedSecret :=
  ⟨Vector.nonce, Vector.body.toList ++ Vector.tag.toList⟩

/-- The container vector. -/
def vectorFile : SecretFile := ⟨FidoKeyWrap.Vector.passphraseEnvelope.encode, vectorSecret⟩

theorem encryptWithNonce_vector :
    @EncryptedSecret.encryptWithNonce Vector.primitives ⟨FidoKeyWrap.Vector.root⟩
      FidoKeyWrap.Vector.application FidoKeyWrap.Vector.passphraseEnvelope.encode Vector.plaintext
        Vector.nonce = .ok vectorSecret := by
  decide +kernel

/-- The container vector is encrypted, encoded, read and decoded; cut off or extended it is
rejected. -/
theorem vectorFile_exact :
    ∃ bytes, vectorFile.encode = .ok bytes ∧ SecretFile.decode bytes = .ok vectorFile ∧
      bytes.length ≤ maxContainerBytes ∧ ensureSize bytes = .ok () ∧
        (∀ file, SecretFile.decode (bytes.take 100) ≠ .ok file) ∧
          (∀ file, SecretFile.decode (bytes ++ [0]) ≠ .ok file) ∧
            ∃ message ∈ rejections, Fault.bail "the encrypted secret file is truncated" =
              .bail message := by
  let _ := Vector.primitives
  obtain ⟨hexact, hstart, hnew, hencrypt, hfaults⟩ := secretFile_codec_exact
  have hrun : (EncryptedSecret.encrypt ⟨FidoKeyWrap.Vector.root⟩ FidoKeyWrap.Vector.application
      FidoKeyWrap.Vector.passphraseEnvelope.encode Vector.plaintext).run.Runs
        [⟨.random 12, some Vector.nonce⟩] (.ok vectorSecret) :=
    ⟨some Vector.nonce, [], rfl, rfl, encryptWithNonce_vector.symm⟩
  obtain ⟨file, hfile⟩ := hencrypt _ _ _ _ _ _ hrun
  obtain ⟨rfl, hvalid⟩ := new_eq_ok.mp hfile
  obtain ⟨bytes, hencode, hlength, hsize, -⟩ := hnew _ _ _ hfile
  obtain ⟨-, htruncated, htrailing⟩ := hstart _ bytes hencode
  refine ⟨bytes, hencode, (hexact bytes _).mpr ⟨hvalid, hencode⟩, hlength, hsize,
    htruncated _ (List.take_prefix 100 bytes) ?_, htrailing [0] (by simp), ?_⟩
  · intro htake
    obtain ⟨-, -, rfl⟩ := encode_eq_ok.mp hencode
    exact absurd htake (by decide +kernel)
  · exact hfaults [] _ (by decide +kernel)

end Vectors

end FidoKeyWrap.Tool
