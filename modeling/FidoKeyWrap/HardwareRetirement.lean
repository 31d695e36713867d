/-
# FidoKeyWrap.HardwareRetirement — what a native retirement does on the credentials of a device.

On a device that behaves, the verification sees one of five things: nothing that signs for the
application, a credential with another key, one that the enumeration does not list, a mismatch, or
the expected credential. Only the last one is deleted, and what the deletion leads to depends on the
exchange that goes wrong, if one does.
-/
import FidoKeyWrap.HardwareInventory

namespace FidoKeyWrap

open ByteData Interact
open Native (fidoOk fidoErrNoCredentials NativeCredentialList)

namespace Hardware

/-! ## The native retirement -/

/-- **`Gets`** — on a device with the credentials, the native retirement may return `r` and leave the
credentials `left`. -/
def Gets (setting : Setting) (backend : NativeBackend) (rounds : Nat) (request : ManagedRequest)
    (credentials : Credentials) (r : Result Unit) (left : Credentials) : Prop :=
  ∃ s', Fallible.Reaches (ConsoleStep setting) { credentials }
    (backend.retireManaged request rounds) r s' ∧ s'.credentials = left

section Gets

variable {setting : Setting} {backend : NativeBackend} {rounds : Nat} {request : ManagedRequest}
  {credentials left left' : Credentials} {r r' : Result Unit}

theorem Gets.unique (h : Gets setting backend rounds request credentials r left)
    (h' : Gets setting backend rounds request credentials r' left') : r = r' ∧ left = left' := by
  obtain ⟨s₁, hreaches, rfl⟩ := h
  obtain ⟨s₂, hreaches', rfl⟩ := h'
  obtain ⟨hr, hs⟩ := hreaches.unique (functional_consoleStep setting) hreaches'
  exact ⟨hr, congrArg Hardware.credentials hs⟩

theorem gets_unplugged (hplugged : setting.plugged = false) :
    Gets setting backend rounds request credentials (.error .noCompatibleAuthenticator)
      credentials :=
  ⟨_, reaches_backend_error hplugged, rfl⟩

variable (hplugged : setting.plugged = true) (hid : BoundedId request.credential.credentialId)

include hplugged hid

theorem gets_fault {status : Int32} {retries : Int32 × Int32}
    (hfault : setting.fault = .assertion status retries) (hstatus : status ≠ fidoOk) :
    Gets setting backend rounds request credentials
      (.error (mapNativeError (translated retries status "verify managed credential")))
      credentials := by
  have hcapable : authenticator.capabilities.supportsManaged .management = true := rfl
  obtain ⟨s', hreaches, hleft⟩ := @reaches_retireManaged_fault _ { credentials } _
    ⟨utf8 setting.pin.asStr ++ [0]⟩ _ _ _ hfault hstatus hcapable
    (nativeManagedCredential_accepted hid)
  exact ⟨s', reaches_backend hplugged hreaches, hleft⟩

theorem gets_error {e : Native.Error} (hfault : ¬ setting.fault.AtAssertion)
    (hverified : verified setting credentials (expectation request.credential) = .error e) :
    Gets setting backend rounds request credentials (.error (mapNativeError e)) credentials := by
  have hcapable : authenticator.capabilities.supportsManaged .management = true := rfl
  obtain ⟨s', hreaches, hleft⟩ := @reaches_retireManaged_error _ { credentials } _
    ⟨utf8 setting.pin.asStr ++ [0]⟩ _ _ hfault hcapable (nativeManagedCredential_accepted hid) rfl
    hverified
  exact ⟨s', reaches_backend hplugged hreaches, hleft⟩

theorem gets_deletion (hfault : ¬ setting.fault.AtAssertion)
    (hverified : verified setting credentials (expectation request.credential) = .ok ()) :
    Gets setting backend rounds request credentials
      ((deletion setting credentials (expectation request.credential)).mapError mapNativeError)
      (remaining credentials request.credential.credentialId setting.fault) := by
  have hcapable : authenticator.capabilities.supportsManaged .management = true := rfl
  obtain ⟨s', hreaches, hleft⟩ := @reaches_retireManaged _ { credentials } _
    ⟨utf8 setting.pin.asStr ++ [0]⟩ _ _ hfault hcapable (nativeManagedCredential_accepted hid) rfl
    hverified
  exact ⟨s', reaches_backend hplugged hreaches, hleft⟩

end Gets

/-! ## Public errors -/

theorem mapNativeError_eq_unavailable {e : Native.Error} :
    mapNativeError e = .authenticator .credentialUnavailable ↔ e = .credentialNotFound := by
  cases e <;> simp [mapNativeError]

theorem ne_ite {c : Prop} [Decidable c] {a b e : Native.Error} (ha : a ≠ e) (hb : b ≠ e) :
    (if c then a else b) ≠ e := by
  by_cases h : c
  · rwa [if_pos h]
  · rwa [if_neg h]

/-- Only one status says that a credential was not found. -/
theorem status_of_credentialNotFound {retries : Int32 × Int32} {status : Int32} {operation : String}
    (h : translatedManagement retries status operation = .credentialNotFound) :
    status = fidoErrNoCredentials := by
  by_contra hne
  revert h
  have hother : Native.translateStatus status operation ≠ .credentialNotFound := by
    unfold Native.translateStatus
    rw [if_neg hne]
    iterate 12 refine ne_ite Native.Error.noConfusion ?_
    exact Native.Error.noConfusion
  refine ne_ite Native.Error.noConfusion (ne_ite Native.Error.noConfusion hother)

/-! ## What a verification sees -/

section Verified

variable {setting : Setting} {device : FakeDevice} {binding : CredentialBinding}
  {credential : FakeCredential}

theorem signerOf_eq_some {credentials : Credentials} :
    signerOf credentials binding.credentialId (utf8 binding.applicationId.asStr) =
      some credential ↔ binding.Holds credentials credential := by
  unfold signerOf
  rw [Option.filter_eq_some_iff, decide_eq_true_eq, utf8_inj]
  exact ⟨fun h => ⟨h.1, h.2⟩, fun h => ⟨h.1, h.2⟩⟩

theorem verified_absent {credentials : Credentials}
    (h : ∀ credential, ¬ binding.Holds credentials credential) :
    verified setting credentials (expectation binding) = .error .credentialNotFound := by
  have hnone : signerOf credentials binding.credentialId (utf8 binding.applicationId.asStr) =
      none := Option.eq_none_iff_forall_ne_some.mpr fun credential hsome =>
    h credential (signerOf_eq_some.mp hsome)
  have hsigned : signed credentials (expectation binding) = .error .credentialNotFound := by
    unfold signed
    rw [show signerOf credentials (expectation binding).credentialId
      (utf8 (expectation binding).relyingPartyId) = none from hnone]
    rfl
  rw [verified, hsigned]
  rfl

theorem signed_of_holds {credentials : Credentials} (h : binding.Holds credentials credential) :
    signed credentials (expectation binding) =
      require (credential.publicKey.asBytes = binding.publicKey.asBytes)
        Native.Error.verificationFailed := by
  unfold signed
  rw [show signerOf credentials (expectation binding).credentialId
    (utf8 (expectation binding).relyingPartyId) = some credential from signerOf_eq_some.mpr h]
  rfl

theorem verified_foreign {credentials : Credentials} (h : binding.Holds credentials credential)
    (hkey : credential.publicKey ≠ binding.publicKey) :
    verified setting credentials (expectation binding) = .error .verificationFailed := by
  have hbytes : credential.publicKey.asBytes ≠ binding.publicKey.asBytes :=
    fun hsame => hkey (PublicKey64.ext hsame)
  rw [verified, signed_of_holds h, require_eq_error.mpr ⟨hbytes, rfl⟩]
  rfl

/-- With the key of the request, the enumeration decides. -/
theorem verified_of_key {credentials : Credentials} (h : binding.Holds credentials credential)
    (hkey : credential.publicKey = binding.publicKey) :
    verified setting credentials (expectation binding) = (do
      let presence ← presenceOf setting.fault.retries (inventory setting.listing credentials
        (utf8 binding.applicationId.asStr)) (expectation binding)
      require (presence = .present) Native.Error.credentialNotFound) := by
  rw [verified, signed_of_holds h, require_of (congrArg PublicKey64.asBytes hkey)]
  rfl

theorem verified_hidden (hshaped : device.Shaped)
    (h : binding.Holds device.credentials credential)
    (hkey : credential.publicKey = binding.publicKey) (hunlisted : binding.Unlisted device.credentials) :
    verified setting device.credentials (expectation binding) = .error .credentialNotFound := by
  rw [verified_of_key h hkey, (presenceOf_inventory hshaped).2.1.mpr hunlisted]
  rfl

theorem verified_mismatch (hshaped : device.Shaped)
    (h : binding.Holds device.credentials credential)
    (hkey : credential.publicKey = binding.publicKey)
    (hlisted : ¬ binding.Listed device.credentials)
    (hunlisted : ¬ binding.Unlisted device.credentials) :
    verified setting device.credentials (expectation binding) = .error .credentialMismatch := by
  rw [verified_of_key h hkey, (presenceOf_inventory hshaped).2.2.mpr ⟨hlisted, hunlisted⟩]
  rfl

theorem verified_listed (hshaped : device.Shaped) (hlisted : binding.Listed device.credentials) :
    verified setting device.credentials (expectation binding) = .ok () := by
  obtain ⟨⟨credential, hholds, -, hkey⟩, -⟩ := id hlisted
  rw [verified_of_key hholds hkey, (presenceOf_inventory hshaped).1.mpr hlisted]
  rfl

/-! ## What a deletion leaves -/

theorem any_managed (hlisted : binding.Listed device.credentials) :
    ((device.credentials.lookup binding.credentialId).any fun credential =>
      credential.storage = .managed) = true := by
  obtain ⟨⟨credential, hholds, hfits, -⟩, -⟩ := hlisted
  rw [hholds.lookup, Option.any_some]
  exact decide_eq_true hfits.storage

/-- A deletion that does not go wrong removes the credential. -/
theorem deletes_of_listed (hlisted : binding.Listed device.credentials) {fault : Fault}
    (hfault : ∀ status retries, fault ≠ .deletion status retries) :
    deletionStatus device.credentials binding.credentialId fault = fidoOk ∧
      remaining device.credentials binding.credentialId fault =
        device.credentials.erase binding.credentialId := by
  have hmanaged := any_managed hlisted
  cases fault with
  | deletion status retries => exact absurd rfl (hfault status retries)
  | _ => exact ⟨if_pos hmanaged, if_pos hmanaged⟩

/-- Without the credential nothing of the application has its id or its user. -/
theorem unlisted_erase {credentials : Credentials} (hshared : ¬ binding.Shared credentials) :
    binding.Unlisted (credentials.erase binding.credentialId) := by
  constructor
  · intro credential hholds
    have hlookup := hholds.lookup
    rw [Finmap.lookup_erase] at hlookup
    cases hlookup
  · rintro ⟨id, credential, hne, hlookup, hrest⟩
    rw [Finmap.lookup_erase_ne hne] at hlookup
    exact hshared ⟨id, credential, hne, hlookup, hrest⟩

/-- A deletion of a credential that stays ends as the table of outcomes says, whether its status was
definite or not: only a status that may hide a success is "not found". -/
theorem deletion_of_present {status : Int32}
    (hstatus : deletionStatus device.credentials binding.credentialId setting.fault = status)
    (hne : status ≠ fidoOk)
    (hpresence : presenceOf setting.fault.retries
      (reported setting (remaining device.credentials binding.credentialId setting.fault)
        (utf8 binding.applicationId.asStr)) (expectation binding) = .ok .present) :
    deletion setting device.credentials (expectation binding) = Native.retirementOutcome
      (.error (translatedManagement setting.fault.retries status "delete managed credential"))
      (.ok .present) := by
  have hid : (expectation binding).credentialId = binding.credentialId := rfl
  have hrp : (expectation binding).relyingPartyId = binding.applicationId.asStr := rfl
  unfold deletion
  simp only [hid, hrp, hstatus, hpresence]
  rw [show deletionOf setting.fault.retries status = .error (translatedManagement
    setting.fault.retries status "delete managed credential") from if_neg hne]
  split
  · rename_i hdefinite
    generalize herror : translatedManagement setting.fault.retries status
      "delete managed credential" = e
    have hfound : e ≠ .credentialNotFound := by
      rintro rfl
      have hnone := status_of_credentialNotFound herror
      rw [hnone] at hdefinite
      exact absurd hdefinite.2 (by decide)
    cases e <;> first | rfl | exact absurd rfl hfound
  · rfl

/-- A deletion that succeeds ends as its enumeration says. -/
theorem deletion_of_ok {presence : Native.Result Native.ManagedPresence}
    (hstatus : deletionStatus device.credentials binding.credentialId setting.fault = fidoOk)
    (hpresence : presenceOf setting.fault.retries
      (reported setting (remaining device.credentials binding.credentialId setting.fault)
        (utf8 binding.applicationId.asStr)) (expectation binding) = presence) :
    deletion setting device.credentials (expectation binding) =
      Native.retirementOutcome (.ok ()) presence := by
  have hid : (expectation binding).credentialId = binding.credentialId := rfl
  have hrp : (expectation binding).relyingPartyId = binding.applicationId.asStr := rfl
  unfold deletion
  simp only [hid, hrp, hstatus, hpresence]
  rw [show deletionOf setting.fault.retries fidoOk = .ok () from if_pos rfl]
  exact if_neg fun hdefinite => hdefinite.1 rfl

/-- Nothing goes wrong: the credential is gone. -/
theorem deletion_none (hshaped : device.Shaped) (hlisted : binding.Listed device.credentials)
    (hfault : setting.fault = .none) :
    deletion setting device.credentials (expectation binding) = .ok () := by
  obtain ⟨hstatus, hremaining⟩ := deletes_of_listed hlisted fun status retries h =>
    Fault.noConfusion (hfault.symm.trans h)
  have hpresence : presenceOf setting.fault.retries (inventory setting.listing
      (device.credentials.erase binding.credentialId) (utf8 binding.applicationId.asStr))
      (expectation binding) = .ok .absent :=
    (presenceOf_inventory (FakeBackend.shaped_erase hshaped)).2.1.mpr (unlisted_erase hlisted.2)
  have hreported : presenceOf setting.fault.retries (reported setting
      (remaining device.credentials binding.credentialId setting.fault)
      (utf8 binding.applicationId.asStr)) (expectation binding) = .ok .absent := by
    rw [hremaining, reported, hfault]
    rw [hfault] at hpresence
    exact hpresence
  rw [deletion_of_ok hstatus hreported]
  rfl

/-- The deletion goes wrong: the credential is still there. -/
theorem deletion_fault (hshaped : device.Shaped) (hlisted : binding.Listed device.credentials)
    {status : Int32} {retries : Int32 × Int32} (hfault : setting.fault = .deletion status retries)
    (hne : status ≠ fidoOk) :
    deletion setting device.credentials (expectation binding) = Native.retirementOutcome
      (.error (translatedManagement retries status "delete managed credential"))
      (.ok .present) := by
  have hstatus : deletionStatus device.credentials binding.credentialId setting.fault = status := by
    rw [hfault]
    rfl
  have hpresence : presenceOf setting.fault.retries
      (reported setting (remaining device.credentials binding.credentialId setting.fault)
        (utf8 binding.applicationId.asStr)) (expectation binding) = .ok .present := by
    rw [hfault, reported, hfault]
    exact (presenceOf_inventory hshaped).1.mpr hlisted
  have hdeletion := deletion_of_present hstatus hne hpresence
  rw [hfault] at hdeletion
  exact hdeletion

/-- The enumeration after the deletion goes wrong. -/
theorem deletion_unchecked (hlisted : binding.Listed device.credentials)
    {reply : Int32 × NativeCredentialList} {retries : Int32 × Int32}
    (hfault : setting.fault = .enumeration reply retries) {e : Native.Error}
    (hpresence : presenceOf retries reply (expectation binding) = .error e) :
    deletion setting device.credentials (expectation binding) =
      Native.retirementOutcome (.ok ()) (.error e) := by
  obtain ⟨hstatus, -⟩ := deletes_of_listed hlisted fun status retries h =>
    Fault.noConfusion (hfault.symm.trans h)
  refine deletion_of_ok hstatus ?_
  rw [reported, hfault]
  exact hpresence

end Verified

end Hardware

end FidoKeyWrap
