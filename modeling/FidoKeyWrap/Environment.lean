/-
# FidoKeyWrap.Environment — what the protector asks of the world outside it.

The protector draws random bytes, reserves memory for Argon2, prompts for passphrases and calls an
authenticator backend. Each of these is a `Query`, with the reply the caller gets back; the code of
the protector is a program over them. The random source, the user and the backend are thereby
arbitrary: a reply may repeat, be hostile, or fail.

A backend call may itself prompt (touch to select, PIN, touch required). Those prompts belong to
the reply: `DeviceReply` carries the prompts the call showed and the result it returned.
-/
import FidoKeyWrap.Envelope

namespace FidoKeyWrap

open ByteData Interact

/-! ## Secrets -/

/-- The 256-bit application root key. -/
@[ext] structure RootKey where
  bytes : Bytes 32
  deriving DecidableEq

/-- The recovery secret of one recovery recipient. -/
@[ext] structure RecoverySecret where
  bytes : Bytes 32
  deriving DecidableEq

/-- The local factor of one FIDO recipient. -/
@[ext] structure LocalSecret where
  bytes : Bytes 32
  deriving DecidableEq

/-- The most bytes of a passphrase. -/
def Passphrase.maxBytes : Nat := 1024

/-- **`Passphrase`** — between one and 1,024 opaque bytes. -/
@[ext] structure Passphrase where
  asBytes : ByteString
  bounded : asBytes ≠ [] ∧ asBytes.length ≤ Passphrase.maxBytes
  deriving DecidableEq

namespace Passphrase

/-- A passphrase that is neither empty nor too long. -/
def new (bytes : ByteString) : Result Passphrase :=
  if h : bytes ≠ [] ∧ bytes.length ≤ maxBytes then .ok ⟨bytes, h⟩ else .error .invalidPassphrase

/-- A passphrase in a zeroed buffer of the maximal length. -/
def padded (passphrase : Passphrase) : ByteString :=
  passphrase.asBytes ++ List.replicate (maxBytes - passphrase.asBytes.length) 0

/-- The padded buffers and the lengths agree. -/
def confirmationMatches (passphrase other : Passphrase) : Bool :=
  decide (passphrase.padded = other.padded)
    && decide (passphrase.asBytes.length = other.asBytes.length)

/-- Comparing padded buffers and lengths compares the passphrases. -/
theorem confirmationMatches_iff {p q : Passphrase} : p.confirmationMatches q = true ↔ p = q := by
  simp only [confirmationMatches, Bool.and_eq_true, decide_eq_true_eq]
  constructor
  · rintro ⟨hpadded, hlength⟩
    exact Passphrase.ext (List.append_inj hpadded hlength).1
  · rintro rfl
    exact ⟨rfl, rfl⟩

end Passphrase

/-! ## Prompts -/

/-- The operation that a prompt belongs to. -/
inductive Operation where
  | createRoot
  | protectRoot
  | unlock
  | addRecipient
  | rewrapPassphrase
  | verifyManagedRecipient
  | retireManagedRecipient
  deriving DecidableEq

/-- Why a passphrase is asked for. -/
inductive PassphrasePurpose where
  | unlock
  | new
  | confirm
  deriving DecidableEq

/-- What a touch or a PIN is for. -/
inductive FidoCeremony where
  | enrollment
  | assertion
  deriving DecidableEq

/-- What the user is told when a passphrase is asked for. -/
structure PassphrasePrompt where
  operation : Operation
  label : String
  purpose : PassphrasePurpose
  deriving DecidableEq

/-- The interaction callbacks a backend call may make. -/
inductive DevicePrompt where
  | selectAuthenticatorByTouch (operation : Operation) (label : String) (policy : FidoPolicy)
  | requestPin (operation : Operation) (label : String) (ceremony : FidoCeremony)
  | touchRequired (operation : Operation) (label : String) (ceremony : FidoCeremony)
      (policy : FidoPolicy)
  deriving DecidableEq

/-! ## The authenticator backend -/

/-- A new credential that stays with the application. -/
structure CredentialMaterial where
  credentialId : ByteString
  publicKey : PublicKey64
  deriving DecidableEq

/-- The credential of a record, and what it was made for. -/
structure CredentialBinding where
  applicationId : ApplicationId
  recipientId : RecipientId
  credentialId : ByteString
  publicKey : PublicKey64
  policy : FidoPolicy
  label : String
  deriving DecidableEq

/-- A request about a managed credential. -/
structure ManagedRequest where
  credential : CredentialBinding
  operation : Operation
  deriving DecidableEq

/-- A request for the PRF of a credential. -/
structure PrfRequest where
  credential : CredentialBinding
  input : Bytes 32
  operation : Operation
  deriving DecidableEq

/-- What a backend call did to the user and returned. -/
structure DeviceReply (α : Type) where
  prompts : List DevicePrompt
  result : Result α

variable [Primitives]

/-- A new managed credential, and the session that can still evaluate it or clean it up. -/
structure ManagedEnrollment where
  credential : CredentialMaterial
  policy : FidoPolicy
  session : Primitives.ManagedSession

/-! ## Queries -/

/-- **`Query`** — everything the protector may ask. -/
inductive Query where
  /-- `getrandom::fill` of an array. -/
  | random (n : Nat)
  /-- `try_reserve_exact` for the blocks of one Argon2 derivation. -/
  | reserve (blocks : Nat)
  /-- `Interaction::request_passphrase`. -/
  | passphrase (prompt : PassphrasePrompt)
  | enroll (application : ApplicationId) (policy : FidoPolicy) (label : String)
      (operation : Operation)
  | enrollManaged (application : ApplicationId) (recipient : RecipientId) (policy : FidoPolicy)
      (label : String) (operation : Operation)
  | evaluate (request : PrfRequest)
  | evaluateManagedEnrollment (enrollment : ManagedEnrollment) (request : PrfRequest)
  | cleanupManagedEnrollment (enrollment : ManagedEnrollment) (request : ManagedRequest)
  | verifyManaged (request : ManagedRequest)
  | retireManaged (request : ManagedRequest)

/-- The type of a reply. -/
@[reducible] def Query.Reply : Query → Type
  | random n => Option (Bytes n)
  | reserve _ => Bool
  | passphrase _ => Except InteractionError Passphrase
  | enroll .. => DeviceReply CredentialMaterial
  | enrollManaged .. => DeviceReply ManagedEnrollment
  | evaluate _ => DeviceReply (Bytes 32)
  | evaluateManagedEnrollment .. => DeviceReply (Bytes 32)
  | cleanupManagedEnrollment .. => DeviceReply Unit
  | verifyManaged _ => DeviceReply Unit
  | retireManaged _ => DeviceReply Unit

/-- The query reaches the user or an authenticator: an interaction callback or a backend call. -/
def Query.Interacts : Query → Prop
  | random _ | reserve _ => False
  | _ => True

instance : DecidablePred Query.Interacts := fun query =>
  match query with
  | .random _ | .reserve _ => instDecidableFalse
  | .passphrase _ | .enroll .. | .enrollManaged .. | .evaluate _ | .evaluateManagedEnrollment ..
  | .cleanupManagedEnrollment .. | .verifyManaged _ | .retireManaged _ => instDecidableTrue

/-- The signature of the protector's programs. -/
abbrev host : Signature where
  Query := Query
  Reply := Query.Reply

/-- A fallible computation that may ask its host. -/
abbrev Host := Fallible host Error

/-- A fallible computation over the caller's `&mut KeyEnvelope`. -/
abbrev HostMut := Mutating host KeyEnvelope Error

/-- Ask one query. -/
def ask (query : Query) : Host query.Reply := liftM (@Program.ask host query)

@[simp] theorem runs_ask {query : Query} {t : Trace host} {r : Except Error query.Reply} :
    (ask query).run.Runs t r ↔ ∃ reply, t = [⟨query, reply⟩] ∧ r = .ok reply := by
  unfold ask
  rw [Fallible.runs_lift]
  constructor
  · rintro ⟨reply, hrun, rfl⟩
    exact ⟨reply, Program.runs_ask.mp hrun, rfl⟩
  · rintro ⟨reply, rfl, rfl⟩
    exact ⟨reply, Program.runs_ask.mpr rfl, rfl⟩

/-- A query, then the rest. -/
theorem runs_ask_bind_ok {α : Type} {query : Query} {f : query.Reply → Host α} {t : Trace host}
    {a : α} :
    (ask query >>= f).run.Runs t (.ok a) ↔
      ∃ reply u, t = ⟨query, reply⟩ :: u ∧ (f reply).run.Runs u (.ok a) := by
  rw [Fallible.runs_bind_ok]
  constructor
  · rintro ⟨t₁, reply, u, rfl, hask, h⟩
    obtain ⟨reply', rfl, hreply⟩ := runs_ask.mp hask
    cases hreply
    exact ⟨reply, u, rfl, h⟩
  · rintro ⟨reply, u, rfl, h⟩
    exact ⟨[⟨query, reply⟩], reply, u, rfl, runs_ask.mpr ⟨reply, rfl, rfl⟩, h⟩

/-- `random_array`. -/
def randomArray (n : Nat) : Host (Bytes n) := do
  let drawn ← ask (.random n)
  okOr drawn Error.randomUnavailable

theorem runs_randomArray_ok {n : Nat} {t : Trace host} {bytes : Bytes n} :
    (randomArray n).run.Runs t (.ok bytes) ↔ t = [⟨.random n, some bytes⟩] := by
  unfold randomArray
  rw [Fallible.runs_bind_ok]
  constructor
  · rintro ⟨t₁, drawn, t₂, rfl, hask, hok⟩
    obtain ⟨reply, rfl, hreply⟩ := runs_ask.mp hask
    cases hreply
    obtain ⟨rfl, hdrawn⟩ := Fallible.runs_except.mp hok
    obtain rfl := okOr_eq_ok.mp hdrawn.symm
    rfl
  · rintro rfl
    exact ⟨[⟨.random n, some bytes⟩], some bytes, [], rfl, runs_ask.mpr ⟨_, rfl, rfl⟩, rfl, rfl⟩

end FidoKeyWrap
