/-
# FidoKeyWrap.Native.Vector — one authenticator that behaves, as a partial environment.

A device with one slot for a managed credential. It signs every assertion with the user verified,
knows one salt, lists the credential until it was deleted, and creates it again when asked. The
polling loop gets no reply, so the environment is partial.
-/
import FidoKeyWrap.Native.Managed

namespace FidoKeyWrap.Native.Vector

open ByteData Interact

/-- The PIN 1234. -/
def pin : Pin := ⟨[0x31, 0x32, 0x33, 0x34, 0]⟩

/-- The device, as the adapter sees it. -/
def authenticator : Authenticator where
  device := ⟨1⟩
  capabilities :=
    { fido2 := true, hmacSecret := true, credentialProtection := true
      discoverableCredentials := true, credentialManagement := true, es256 := true
      clientPinSupported := true, clientPinConfigured := true, alwaysUv := false }
  affinity := 7

/-- A request for the PRF of the credential. -/
def request : PrfRequest where
  relyingPartyId := credential.relyingPartyId
  credentialId := credential.credentialId
  es256PublicKey := credential.es256PublicKey
  salt := Bytes.ofNat 32 0x5dcdd6caeec8ee10072f6f4c430ffb478fdd07ab73347fa27fe94f75cb98bc99
  policy := .userVerified

/-- The extension output for the salt of the request. -/
def secret : Bytes 32 := Bytes.ofNat 32 13

/-- The query deletes the credential. -/
def removes : Query → Bool
  | .credmanDelDevRk raw id _ => raw == authenticator.device.raw && id == credential.credentialId
  | _ => false

/-- The credential is on the device, which held it at first. -/
def stored (past : Trace libfido2) : Bool := past.all fun event => !removes event.query

/-- The salt on an assertion object after a call. -/
def trackSalt (raw : Handle) (salt : Option (Bytes 32)) : Event libfido2 → Option (Bytes 32)
  | ⟨.assertNew, some created⟩ => if created = raw then none else salt
  | ⟨.assertSet set (.setHmacSalt given), _⟩ => if set = raw then some given else salt
  | _ => salt

/-- The salt that was set on an assertion object. -/
def saltOf (past : Trace libfido2) (raw : Handle) : Option (Bytes 32) :=
  past.foldl (trackSalt raw) none

/-- The info block of a current device. -/
def info : NativeInfo where
  extensions :=
    ⟨some fun index => some (utf8 (if index = 0 then "hmac-secret" else "credProtect")), 2⟩
  versions := ⟨some fun _ => some (utf8 "FIDO_2_1"), 1⟩
  optionNames := some fun _ => some (utf8 "rk")
  optionValues := some fun _ => true
  optionsLen := 1
  algorithmCount := 1
  algorithmCose := fun _ => coseEs256

/-- The replies of the device. -/
def device (past : Trace libfido2) (query : Query) : Option query.Reply :=
  match query with
  | .ensureLoaded => some (.ok ())
  | .init _ => some ()
  | .random => some (some (Bytes.zero 32))
  | .now => some (0 : Nat)
  | .newAffinity => some authenticator.affinity
  | .unfinished => none
  | .devInfoNew _ | .devNew | .cborInfoNew | .credNew | .assertNew | .es256PkNew
  | .credmanRkNew => some (some authenticator.device.raw)
  | .devInfoManifest _ _ => some (fidoOk, 1, fun _ => some (some (utf8 "key")))
  | .devSetTimeout _ _ | .devOpen _ _ | .devGetTouchBegin _ | .devCancel _ | .credSet _ _
  | .assertSet _ _ | .es256PkFromPtr _ _ | .assertVerify _ _ _ _ | .credmanDelDevRk _ _ _ =>
    some fidoOk
  | .devGetAssert _ raw _ =>
    some (if (saltOf past raw).all (· == request.salt) then fidoOk else fidoErrNoCredentials)
  | .devIsFido2 _ | .devSupportsCredProt _ | .devSupportsCredman _ | .devSupportsPin _
  | .devHasPin _ => some true
  | .devGetCborInfo _ _ => some (fidoOk, info)
  | .devGetTouchStatus _ _ => some (fidoOk, 1)
  | .devGetRetryCount _ => some (fidoOk, 8)
  | .devMakeCred _ _ _ => some (fidoOk, nativeCredential)
  | .assertCount _ => some (1 : Nat)
  | .assertFlags _ _ => some (0x05 : UInt8)
  | .assertIdLen _ _ => some credential.credentialId.length
  | .assertIdPtr _ _ => some (some (Memory.of credential.credentialId))
  | .assertHmacSecretLen _ _ => some (32 : Nat)
  | .assertHmacSecretPtr _ _ => some (some (Memory.of secret.toList))
  | .credmanGetDevRk _ rpId _ _ =>
    some (if stored past = true ∧ rpId = utf8 credential.relyingPartyId then fidoOk
        else fidoErrNoCredentials,
      { count := 1, rk := fun _ => some nativeCredential })

end FidoKeyWrap.Native.Vector
