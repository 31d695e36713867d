/-
# FidoKeyWrap.Backend — what the two authenticator backends share.

A backend call is a program over the prompts of the application. An enrollment leaves an open
session behind, which is the adapter's authenticator or the number of a device in memory; only the
backend that made it can use it.
-/
import FidoKeyWrap.Environment
import FidoKeyWrap.Native.Credential

namespace FidoKeyWrap

open ByteData Interact

/-! ## Prompts -/

def Pin.maxBytes : Nat := 63

/-- **`Pin`** — a PIN of one to 63 bytes without a NUL. -/
structure Pin where
  asStr : String
  accepted : utf8 asStr ≠ [] ∧ (utf8 asStr).length ≤ Pin.maxBytes ∧ 0 ∉ utf8 asStr
  deriving DecidableEq

def Pin.new (value : String) : Result Pin :=
  if h : utf8 value ≠ [] ∧ (utf8 value).length ≤ maxBytes ∧ 0 ∉ utf8 value then .ok ⟨value, h⟩
  else .error .invalidPin

/-- The type of an answer to a prompt. -/
@[reducible] def DevicePrompt.Reply : DevicePrompt → Type
  | requestPin .. => Except InteractionError Pin
  | selectAuthenticatorByTouch .. | touchRequired .. => Except InteractionError Unit

/-- The signature of the prompts of a backend call. -/
abbrev interaction : Signature where
  Query := DevicePrompt
  Reply := DevicePrompt.Reply

/-- Ask the application. -/
def prompt (query : DevicePrompt) : Fallible interaction InteractionError query.Reply :=
  liftM (@Program.ask interaction query)

/-- **`Interaction`** — the callbacks of the application. -/
abbrev Interaction := Fallible interaction InteractionError

namespace Interaction

def selectAuthenticatorByTouch (operation : Operation) (label : String) (policy : FidoPolicy) :
    Interaction Unit := do
  let reply ← prompt (.selectAuthenticatorByTouch operation label policy)
  reply

def requestPin (operation : Operation) (label : String) (ceremony : FidoCeremony) :
    Interaction Pin := do
  let reply ← prompt (.requestPin operation label ceremony)
  reply

def touchRequired (operation : Operation) (label : String) (ceremony : FidoCeremony)
    (policy : FidoPolicy) : Interaction Unit := do
  let reply ← prompt (.touchRequired operation label ceremony policy)
  reply

end Interaction

/-! ## Sessions -/

/-- **`ManagedSession`** — the open session behind a managed enrollment. -/
inductive ManagedSession where
  | native (authenticator : Native.Authenticator) (pin : Native.Pin)
      (cleanup : Native.PendingManagedCredential)
  | fake (device : Nat)
  deriving DecidableEq

/-- The sessions of the primitives are those of the backends. -/
class ManagedSessions [Primitives] where
  equiv : Primitives.ManagedSession ≃ ManagedSession

variable [Primitives] [ManagedSessions]

/-- The session of an enrollment. -/
def ManagedEnrollment.managedSession (enrollment : ManagedEnrollment) : ManagedSession :=
  ManagedSessions.equiv enrollment.session

end FidoKeyWrap
