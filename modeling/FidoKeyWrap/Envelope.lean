/-
# FidoKeyWrap.Envelope — recipient records, the key envelope, and its canonical format.

A record is one encrypted route to the root; an envelope is a set of records sorted by recipient
id, under a whole-envelope MAC. The encoder is written as the list of CBOR items it emits, in the
order of its calls, so that its output is `encodeAll` of that list (writing into memory never
fails). The decoder reads the same items back one by one, checks each field where the source
checks it, and finally compares the re-encoding with the input.
-/
import FidoKeyWrap.Lib.BinarySearch
import FidoKeyWrap.Policy
import FidoKeyWrap.Primitives

namespace FidoKeyWrap

open ByteData Cbor Interact

variable [Primitives]

/-- `FKW\0`. -/
def magic : ByteString := [0x46, 0x4b, 0x57, 0x00]
/-- The only version there is. -/
def formatVersion : UInt8 := 1
/-- The most bytes an envelope may have. -/
def maxEnvelopeSize : Nat := 65536
/-- The most records an envelope may have. -/
def maxRecipients : Nat := 32
/-- The most bytes a credential id may have. -/
def maxCredentialId : Nat := 1024

/-- The code of a passphrase record. -/
def passphraseSuite : UInt8 := 1
/-- The code of a record whose credential stays with the application. -/
def fidoSuite : UInt8 := 2
/-- The code of a record that needs an authenticator and a passphrase. -/
def fidoAndPassphraseSuite : UInt8 := 3
/-- The code of a recovery secret. -/
def recoverySecretSuite : UInt8 := 4
/-- The code of a credential that the authenticator keeps. -/
def managedFidoSuite : UInt8 := 5
/-- The code of a record that needs an authenticator and a secret of this machine. -/
def fidoAndLocalSecretSuite : UInt8 := 6
/-- The code of Argon2id. -/
def argon2idKdf : UInt8 := 1

/-! ## Records -/

/-- The affine coordinates of a public key. The field is open: only `new` checks the point. -/
@[ext] structure PublicKey64 where
  asBytes : Bytes 64
  deriving DecidableEq

/-- Accept the coordinates of a P-256 point, in uncompressed SEC1 form. -/
def PublicKey64.new (bytes : Bytes 64) : Result PublicKey64 := do
  require (Primitives.sec1Accepts (4 :: bytes.toList) = true) .invalidEnvelope
  return ⟨bytes⟩

/-- How a passphrase becomes a key: the cost and the salt. -/
structure KdfDescriptor where
  parameters : PassphraseParameters
  salt : Bytes 16
  deriving DecidableEq

/-- The root under a passphrase. -/
structure PassphraseRecipient where
  id : RecipientId
  label : String
  kdf : KdfDescriptor
  passphraseNonce : Bytes 12
  wrappedRoot : Bytes 48
  deriving DecidableEq

/-- The root under a recovery secret. -/
structure RecoverySecretRecord where
  id : RecipientId
  label : String
  recoveryNonce : Bytes 12
  wrappedRoot : Bytes 48
  deriving DecidableEq

/-- The root under the PRF of a credential, which `storage` says where to find. -/
structure FidoRecipient where
  id : RecipientId
  label : String
  credentialId : ByteString
  publicKey : PublicKey64
  policy : FidoPolicy
  storage : FidoStorage
  prfNonce : Bytes 32
  fidoNonce : Bytes 12
  wrappedRoot : Bytes 48
  deriving DecidableEq

/-- The root under a passphrase, and that under the PRF of a credential. -/
structure FidoAndPassphraseRecipient where
  id : RecipientId
  label : String
  credentialId : ByteString
  publicKey : PublicKey64
  policy : FidoPolicy
  prfNonce : Bytes 32
  fidoNonce : Bytes 12
  kdf : KdfDescriptor
  passphraseNonce : Bytes 12
  wrappedRoot : Bytes 64
  deriving DecidableEq

/-- The root under the PRF of a credential and a secret of this machine together. -/
structure FidoAndLocalSecretRecipient where
  id : RecipientId
  label : String
  credentialId : ByteString
  publicKey : PublicKey64
  prfNonce : Bytes 32
  wrapNonce : Bytes 12
  wrappedRoot : Bytes 48
  deriving DecidableEq

/-- **`RecipientRecord`** — one route to the envelope root. -/
inductive RecipientRecord where
  | passphrase (record : PassphraseRecipient)
  | recoverySecret (record : RecoverySecretRecord)
  | fido (record : FidoRecipient)
  | fidoAndPassphrase (record : FidoAndPassphraseRecipient)
  | fidoAndLocalSecret (record : FidoAndLocalSecretRecipient)
  deriving DecidableEq

namespace RecipientRecord

/-- The id of the record, whatever its suite. -/
@[simp] def id : RecipientRecord → RecipientId
  | passphrase record => record.id
  | recoverySecret record => record.id
  | fido record => record.id
  | fidoAndPassphrase record => record.id
  | fidoAndLocalSecret record => record.id

/-- The text that the prompts show. -/
def label : RecipientRecord → String
  | passphrase record => record.label
  | recoverySecret record => record.label
  | fido record => record.label
  | fidoAndPassphrase record => record.label
  | fidoAndLocalSecret record => record.label

/-- The policy of the record, as an enrollment names it. -/
def policy : RecipientRecord → RecipientPolicy
  | passphrase _ => .passphrase
  | recoverySecret _ => .recoverySecret
  | fido record =>
    match record.storage with
    | .nonDiscoverable => .fido record.policy
    | .managed => .managedFido record.policy
  | fidoAndPassphrase record => .fidoAndPassphrase record.policy
  | fidoAndLocalSecret _ => .fidoPresenceAndLocalSecret

/-- The cost of the passphrase, if the record has one. -/
def passphraseParameters : RecipientRecord → Option PassphraseParameters
  | passphrase record => some record.kdf.parameters
  | recoverySecret _ | fido _ | fidoAndLocalSecret _ => none
  | fidoAndPassphrase record => some record.kdf.parameters

/-- The credential of the record, if it has one. -/
def credentialId : RecipientRecord → Option ByteString
  | passphrase _ | recoverySecret _ => none
  | fido record => some record.credentialId
  | fidoAndPassphrase record => some record.credentialId
  | fidoAndLocalSecret record => some record.credentialId

/-- The salt of the passphrase, if the record has one. -/
def passphraseSalt : RecipientRecord → Option (Bytes 16)
  | passphrase record => some record.kdf.salt
  | recoverySecret _ | fido _ | fidoAndLocalSecret _ => none
  | fidoAndPassphrase record => some record.kdf.salt

end RecipientRecord

/-- **`KeyEnvelope`** — encrypted routes to one application root key. -/
structure KeyEnvelope where
  applicationId : ApplicationId
  envelopeId : Bytes 32
  recipients : List RecipientRecord
  mac : Bytes 32
  deriving DecidableEq

/-! ## Encoding -/

/-- The items of a descriptor. -/
def encodeKdf (kdf : KdfDescriptor) : List Item :=
  [.array 5, .u8 argon2idKdf, .u32 kdf.parameters.memoryKib, .u32 kdf.parameters.passes,
    .u8 kdf.parameters.lanes, .bytes kdf.salt.toList]

/-- The items of a record: the length and the suite, then its fields in order. -/
def encodeRecipient : RecipientRecord → List Item
  | .passphrase record =>
    [.array 6, .u8 passphraseSuite, .bytes record.id.asBytes.toList, .str record.label]
      ++ encodeKdf record.kdf
      ++ [.bytes record.passphraseNonce.toList, .bytes record.wrappedRoot.toList]
  | .recoverySecret record =>
    [.array 5, .u8 recoverySecretSuite, .bytes record.id.asBytes.toList, .str record.label,
      .bytes record.recoveryNonce.toList, .bytes record.wrappedRoot.toList]
  | .fido record =>
    let suite := match record.storage with
      | .nonDiscoverable => fidoSuite
      | .managed => managedFidoSuite
    [.array 9, .u8 suite, .bytes record.id.asBytes.toList, .str record.label,
      .bytes record.credentialId, .bytes record.publicKey.asBytes.toList,
      .u8 record.policy.code, .bytes record.prfNonce.toList, .bytes record.fidoNonce.toList,
      .bytes record.wrappedRoot.toList]
  | .fidoAndPassphrase record =>
    [.array 11, .u8 fidoAndPassphraseSuite, .bytes record.id.asBytes.toList, .str record.label,
      .bytes record.credentialId, .bytes record.publicKey.asBytes.toList,
      .u8 record.policy.code, .bytes record.prfNonce.toList, .bytes record.fidoNonce.toList]
      ++ encodeKdf record.kdf
      ++ [.bytes record.passphraseNonce.toList, .bytes record.wrappedRoot.toList]
  | .fidoAndLocalSecret record =>
    [.array 8, .u8 fidoAndLocalSecretSuite, .bytes record.id.asBytes.toList, .str record.label,
      .bytes record.credentialId, .bytes record.publicKey.asBytes.toList,
      .bytes record.prfNonce.toList, .bytes record.wrapNonce.toList,
      .bytes record.wrappedRoot.toList]

namespace KeyEnvelope

/-- The items that the MAC covers, without the array that holds them. -/
def encodeBodyFields (envelope : KeyEnvelope) : List Item :=
  [.u8 formatVersion, .str envelope.applicationId.asStr, .bytes envelope.envelopeId.toList,
    .array envelope.recipients.length]
    ++ envelope.recipients.flatMap encodeRecipient

/-- The items of the canonical body. -/
def encodeBody (envelope : KeyEnvelope) : List Item :=
  .array 4 :: envelope.encodeBodyFields

/-- The items of the whole envelope. -/
def encodeFull (envelope : KeyEnvelope) : List Item :=
  .array 5 :: (envelope.encodeBodyFields ++ [.bytes envelope.mac.toList])

/-- `FKW\0` and the core deterministic CBOR of the envelope. -/
def encode (envelope : KeyEnvelope) : ByteString := magic ++ encodeAll envelope.encodeFull

/-- The authenticated part: the envelope without its MAC. -/
def canonicalBody (envelope : KeyEnvelope) : ByteString := encodeAll envelope.encodeBody

/-- The record with exactly the given id. -/
def find (envelope : KeyEnvelope) (id : RecipientId) : Result RecipientRecord :=
  match Search.binarySearchByKey envelope.recipients id RecipientRecord.id with
  | .ok index => .ok (envelope.recipients.get index)
  | .error _ => .error .recipientNotFound

end KeyEnvelope

/-! ## Decoding -/

/-- A computation over the unread CBOR. -/
abbrev Reader := Cbor.Reader Error

/-- A definite array length that is a `usize`. -/
def definiteArrayLen : Reader Nat := do
  match ← read Primitives.cbor.array Error.invalidEnvelope with
  | some length =>
    require (length < usizeLimit) Error.invalidEnvelope
    return length
  | none => throw .invalidEnvelope

/-- An array of exactly this length. -/
def requireArray (expected : Nat) : Reader Unit := do
  let length ← definiteArrayLen
  require (length = expected) Error.invalidEnvelope

/-- A byte string of exactly `n` bytes. -/
def exactBytes (n : Nat) : Reader (Bytes n) := do
  let bytes ← read Primitives.cbor.bytes Error.invalidEnvelope
  match Bytes.ofList? n bytes with
  | some array => return array
  | none => throw .invalidEnvelope

/-- A label that is valid as text. -/
def decodeLabel : Reader String := do
  let label ← read Primitives.cbor.str Error.invalidEnvelope
  require (validateLabel label = true) Error.invalidEnvelope
  return label

/-- A credential id within its bounds. -/
def decodeCredentialId : Reader ByteString := do
  let credentialId ← read Primitives.cbor.bytes Error.invalidEnvelope
  require (¬ (credentialId = [] ∨ maxCredentialId < credentialId.length)) Error.invalidEnvelope
  return credentialId

/-- A descriptor of Argon2id within the format limits. -/
def decodeKdf : Reader KdfDescriptor := do
  requireArray 5
  let kdf ← read Primitives.cbor.u8 Error.invalidEnvelope
  require (kdf = argon2idKdf) Error.invalidEnvelope
  let memoryKib ← read Primitives.cbor.u32 Error.invalidEnvelope
  let passes ← read Primitives.cbor.u32 Error.invalidEnvelope
  let lanes ← read Primitives.cbor.u8 Error.invalidEnvelope
  let parameters ← PassphraseParameters.decode memoryKib passes lanes
  let salt ← exactBytes 16
  return { parameters, salt }

/-- The coordinates of a point of the curve. -/
def decodePublicKey : Reader PublicKey64 := do
  let bytes ← exactBytes 64
  PublicKey64.new bytes

/-- A known policy code. -/
def decodePolicy : Reader FidoPolicy := do
  let code ← read Primitives.cbor.u8 Error.invalidEnvelope
  FidoPolicy.fromCode code

/-- The fields of a passphrase record behind its suite. -/
def decodePassphraseRecipient : Reader RecipientRecord := do
  let id ← exactBytes 32
  let label ← decodeLabel
  let kdf ← decodeKdf
  let passphraseNonce ← exactBytes 12
  let wrappedRoot ← exactBytes 48
  return .passphrase { id := ⟨id⟩, label, kdf, passphraseNonce, wrappedRoot }

/-- The fields of a recovery secret behind its suite. -/
def decodeRecoverySecretRecipient : Reader RecipientRecord := do
  let id ← exactBytes 32
  let label ← decodeLabel
  let recoveryNonce ← exactBytes 12
  let wrappedRoot ← exactBytes 48
  return .recoverySecret { id := ⟨id⟩, label, recoveryNonce, wrappedRoot }

/-- The fields of a FIDO record behind its suite, which gave the storage. -/
def decodeFidoRecipient (storage : FidoStorage) : Reader RecipientRecord := do
  let id ← exactBytes 32
  let label ← decodeLabel
  let credentialId ← decodeCredentialId
  let publicKey ← decodePublicKey
  let policy ← decodePolicy
  let prfNonce ← exactBytes 32
  let fidoNonce ← exactBytes 12
  let wrappedRoot ← exactBytes 48
  return .fido { id := ⟨id⟩, label, credentialId, publicKey, policy, storage, prfNonce, fidoNonce,
                 wrappedRoot }

/-- The fields of a combined record behind its suite. -/
def decodeFidoAndPassphraseRecipient : Reader RecipientRecord := do
  let id ← exactBytes 32
  let label ← decodeLabel
  let credentialId ← decodeCredentialId
  let publicKey ← decodePublicKey
  let policy ← decodePolicy
  let prfNonce ← exactBytes 32
  let fidoNonce ← exactBytes 12
  let kdf ← decodeKdf
  let passphraseNonce ← exactBytes 12
  let wrappedRoot ← exactBytes 64
  return .fidoAndPassphrase { id := ⟨id⟩, label, credentialId, publicKey, policy, prfNonce,
                              fidoNonce, kdf, passphraseNonce, wrappedRoot }

/-- The fields of a record with a local secret behind its suite. -/
def decodeFidoAndLocalSecretRecipient : Reader RecipientRecord := do
  let id ← exactBytes 32
  let label ← decodeLabel
  let credentialId ← decodeCredentialId
  let publicKey ← decodePublicKey
  let prfNonce ← exactBytes 32
  let wrapNonce ← exactBytes 12
  let wrappedRoot ← exactBytes 48
  return .fidoAndLocalSecret { id := ⟨id⟩, label, credentialId, publicKey, prfNonce, wrapNonce,
                               wrappedRoot }

/-- The suite code selects the record shape, and the array length must be that shape's. -/
def decodeRecipient : Reader RecipientRecord := do
  let length ← definiteArrayLen
  let suite ← read Primitives.cbor.u8 Error.invalidEnvelope
  if suite = passphraseSuite ∧ length = 6 then decodePassphraseRecipient
  else if suite = recoverySecretSuite ∧ length = 5 then decodeRecoverySecretRecipient
  else if suite = fidoSuite ∧ length = 9 then decodeFidoRecipient .nonDiscoverable
  else if suite = managedFidoSuite ∧ length = 9 then decodeFidoRecipient .managed
  else if suite = fidoAndPassphraseSuite ∧ length = 11 then decodeFidoAndPassphraseRecipient
  else if suite = fidoAndLocalSecretSuite ∧ length = 8 then decodeFidoAndLocalSecretRecipient
  else throw .invalidEnvelope

/-- `for _ in 0..recipient_count { recipients.push(decode_recipient(..)?) }`. -/
def decodeRecipients : Nat → Reader (List RecipientRecord)
  | 0 => return []
  | count + 1 => do
    let record ← decodeRecipient
    let records ← decodeRecipients count
    return record :: records

/-- Adjacent records ascend by id, and no two records share a credential id or a salt. -/
def validateRecipientSet (recipients : List RecipientRecord) : Result Unit := do
  require (recipients.IsChain fun first second => first.id < second.id) .invalidEnvelope
  require (recipients.Pairwise fun recipient other =>
    ¬ (recipient.credentialId.isSome ∧ recipient.credentialId = other.credentialId) ∧
      ¬ (recipient.passphraseSalt.isSome ∧ recipient.passphraseSalt = other.passphraseSalt))
    .invalidEnvelope

/-- The decoder's pass over the CBOR after the magic. -/
def decodeFields : Reader KeyEnvelope := do
  requireArray 5
  let version ← read Primitives.cbor.u8 Error.invalidEnvelope
  require (version = formatVersion) Error.invalidEnvelope
  let application ← read Primitives.cbor.str Error.invalidEnvelope
  let applicationId ← (ApplicationId.new application).mapError fun _ => Error.invalidEnvelope
  let envelopeId ← exactBytes 32
  let recipientCount ← definiteArrayLen
  require (1 ≤ recipientCount ∧ recipientCount ≤ maxRecipients) Error.invalidEnvelope
  let recipients ← decodeRecipients recipientCount
  let mac ← exactBytes 32
  return { applicationId, envelopeId, recipients, mac }

/-- **`KeyEnvelope::decode`** — decode one strict format-1 envelope without authenticating it. -/
def KeyEnvelope.decode (input : ByteString) : Result KeyEnvelope := do
  require (¬ (maxEnvelopeSize < input.length ∨ input.length < magic.length ∨
    input.take magic.length ≠ magic)) .invalidEnvelope
  let (envelope, unread) ← decodeFields.run (input.drop magic.length)
  require (unread = []) .invalidEnvelope
  validateRecipientSet envelope.recipients
  require (envelope.encode = input) .invalidEnvelope
  return envelope

end FidoKeyWrap
