/-
# FidoKeyWrap.Tool.Application — sealing and unsealing a secret.

The application of the command-line tool: it creates a root under one recovery route, encrypts the
secret under a key of the root, and publishes both as one container; unsealing reads the container,
unlocks its envelope and decrypts. The key protector asks its host, the storage asks the operating
system, and the application is a program over both.
-/
import FidoKeyWrap.Lib.Sum
import FidoKeyWrap.Tool.SecretFile
import FidoKeyWrap.Recovery

namespace FidoKeyWrap.Tool

open ByteData Interact

/-- `anyhow::Error` of the application: a text, a library error, or a panic. -/
inductive Failure where
  | message (text : String)
  | library (error : Error)
  | panic (text : String)
  deriving DecidableEq

/-- A fault of the container code. -/
def Failure.ofFault : Fault → Failure
  | .bail text => .message text
  | .panic text => .panic text

/-- `cli::Access`. -/
inductive Access where
  | passphrase
  | fidoPresence
  | fidoUserVerification
  | fidoPresencePlusPassphrase
  | fidoUserVerificationPlusPassphrase
  deriving DecidableEq

/-- The label of the only record. -/
def label : String := "primary"

/-- The enrollment of an access. -/
def enrollment (access : Access) : Except Failure Enrollment :=
  (match access with
    | .passphrase => Enrollment.passphrase label
    | .fidoPresence => Enrollment.fido label .presence
    | .fidoUserVerification => Enrollment.fido label .userVerification
    | .fidoPresencePlusPassphrase => Enrollment.fidoAndPassphrase label .presence
    | .fidoUserVerificationPlusPassphrase =>
      Enrollment.fidoAndPassphrase label .userVerification).mapError Failure.library

/-- A plaintext within its bounds. -/
def validatePlaintext (plaintext : ByteString) : Except Failure Unit :=
  require (¬ (plaintext = [] ∨ maxSecretBytes < plaintext.length))
    (Failure.message "the secret must contain between 1 byte and 1 MiB")

variable [Primitives]

/-! ## The application -/

/-- The signature of the application: the host of the protector, and the operating system. -/
abbrev world : Signature := host.sum os

/-- A fallible computation of the application. -/
abbrev App := Fallible world Failure

/-- A call of the library. -/
def library {α : Type} (x : Host α) : App α := Fallible.left Failure.library x

/-- A call of the storage. -/
def storage {α : Type} (x : Os α) : App α := Fallible.right Failure.message x

/-- **`Application`** — the trusted application id and the protector. -/
structure Application where
  trustedId : ApplicationId
  protector : KeyProtector
  deriving DecidableEq

/-- A container, and its envelope decoded. -/
structure LoadedSecret where
  container : SecretFile
  envelope : KeyEnvelope
  deriving DecidableEq

namespace Application

/-- The envelope is one of the tool: one record, of a route that it has. -/
def validateEnvelope (app : Application) (envelope : KeyEnvelope) : Except Failure Unit := do
  require (envelope.applicationId = app.trustedId)
    (Failure.message "the sealed file belongs to another application")
  match envelope.recipients with
  | [recipient] =>
    match recipient.policy with
    | .passphrase | .fido _ | .fidoAndPassphrase _ => return ()
    | .recoverySecret | .managedFido _ | .fidoPresenceAndLocalSecret =>
      throw (Failure.message "the sealed file uses an unsupported recovery route")
  | _ => throw (Failure.message "the sealed file must contain exactly one recovery route")

/-- Encode and decode before anything is written. -/
def canonical (app : Application) (envelope : KeyEnvelope) : Except Failure KeyEnvelope := do
  let decoded ← (KeyEnvelope.decode envelope.encode).mapError Failure.library
  app.validateEnvelope decoded
  return decoded

/-- Encrypt the plaintext next to the envelope. -/
def prepareContainer (app : Application) (root : RootKey) (envelope : KeyEnvelope)
    (plaintext : ByteString) : App ByteString := do
  let envelope ← app.canonical envelope
  let envelopeBytes := envelope.encode
  let encrypted ← storage (EncryptedSecret.encrypt root app.trustedId envelopeBytes plaintext)
  let container ← (SecretFile.new envelopeBytes encrypted).mapError Failure.message
  container.encode.mapError Failure.ofFault

/-- **`seal`** — create a root, encrypt, and publish the container. -/
def «seal» (app : Application) (path : Path) (access : Access) (plaintext : ByteString) :
    App Unit := do
  storage (ensureAbsent path)
  validatePlaintext plaintext
  let enrollment ← enrollment access
  let (root, envelope, _) ← library (app.protector.createRoot enrollment)
  let container ← app.prepareContainer root envelope plaintext
  storage (createAtomic path container)

/-- The part of `load` after the file was read. -/
def parse (app : Application) (content : ByteString) : Except Failure LoadedSecret := do
  let container ← (SecretFile.decode content).mapError Failure.ofFault
  let envelope ← (KeyEnvelope.decode container.envelope).mapError Failure.library
  app.validateEnvelope envelope
  return { container, envelope }

/-- Read a container and its envelope. -/
def load (app : Application) (path : Path) : App LoadedSecret := do
  let content ← storage (readPrivate path)
  app.parse content

/-- `envelope.recipients()[0]`, on an envelope that was validated. -/
def unlock (app : Application) (envelope : KeyEnvelope) : App RootKey := do
  let recipient ← okOr envelope.recipients.head? (Failure.panic "index out of bounds")
  library (app.protector.unlock envelope recipient.id)

/-- **`unseal`** — load, unlock, and decrypt. -/
def «unseal» (app : Application) (path : Path) : App ByteString := do
  let loaded ← app.load path
  let root ← app.unlock loaded.envelope
  (loaded.container.secret.decrypt root app.trustedId loaded.container.envelope).mapError
    Failure.message

end Application

end FidoKeyWrap.Tool
