/-
# FidoKeyWrap.EnvelopeMac — what the whole-envelope MAC binds.

The MAC covers the canonical body: application id, envelope id and every record with every field.
Where HMAC has no collision on the two calls at hand, two well-formed envelopes with one MAC under
one root have the same content (`computeEnvelopeMac_binds`). So a change to an authenticated
envelope is accepted only if it touches the content and the MAC at once, and the new MAC is that of
the new content. Such envelopes exist: every update of the recipient set makes one, and the two
recorded vectors are two (`two_authenticated_envelopes`).
-/
import FidoKeyWrap.Crypto
import FidoKeyWrap.EnvelopeCodec

namespace FidoKeyWrap

open ByteData Interact

/-- Two envelopes agree on everything but the MAC. -/
structure KeyEnvelope.SameContent (e e' : KeyEnvelope) : Prop where
  applicationId : e.applicationId = e'.applicationId
  envelopeId : e.envelopeId = e'.envelopeId
  recipients : e.recipients = e'.recipients

namespace Crypto

variable [Primitives]

/-! ## The calls behind a MAC -/

/-- The HKDF call that derives the MAC key: input key material, salt, info. -/
def macKeyCalls (e : KeyEnvelope) (root : RootKey) : Set (ByteString × ByteString × ByteString) :=
  {call | call.1 = root.bytes.toList ∧ call.2.1 = e.envelopeId.toList ∧
    Transcript.encode [envelopeMacKeyDomain, format, e.applicationId.asBytes] = .ok call.2.2}

/-- The HMAC call that computes the MAC: key, message. -/
def macCalls (e : KeyEnvelope) (root : RootKey) : Set (ByteString × ByteString) :=
  {call | (∃ key, envelopeMacKey e root = .ok key ∧ call.1 = key.asBytes.toList) ∧
    Transcript.encode [envelopeMacDomain, format, e.canonicalBody] = .ok call.2}

theorem computeEnvelopeMac_eq_ok {e : KeyEnvelope} {root : RootKey} {mac : Bytes 32} :
    computeEnvelopeMac e root = .ok mac ↔
      ∃ call ∈ macCalls e root, Primitives.hmacSha256 call.1 call.2 = some mac := by
  simp only [computeEnvelopeMac, except_bind_eq_ok, okOr_eq_ok]
  constructor
  · rintro ⟨key, hkey, message, hmessage, hmac⟩
    exact ⟨(key.asBytes.toList, message), ⟨⟨key, hkey, rfl⟩, hmessage⟩, hmac⟩
  · rintro ⟨⟨_, message⟩, ⟨⟨key, hkey, rfl⟩, hmessage⟩, hmac⟩
    exact ⟨key, hkey, message, hmessage, hmac⟩

/-- The key and the message of a MAC are functions of the envelope and the root. -/
theorem macCalls_subsingleton (e : KeyEnvelope) (root : RootKey) :
    (macCalls e root).Subsingleton := by
  rintro ⟨_, message⟩ ⟨⟨key, hkey, rfl⟩, hmessage⟩ ⟨_, message'⟩ ⟨⟨key', hkey', rfl⟩, hmessage'⟩
  rw [hkey] at hkey'
  cases hkey'
  have hmm : message = message' := Except.ok.inj (hmessage.symm.trans hmessage')
  rw [hmm]

omit [Primitives] in
theorem macKeyCalls_subsingleton (e : KeyEnvelope) (root : RootKey) :
    (macKeyCalls e root).Subsingleton := by
  rintro ⟨_, _, info⟩ ⟨rfl, rfl, hinfo⟩ ⟨_, _, info'⟩ ⟨rfl, rfl, hinfo'⟩
  have hii : info = info' := Except.ok.inj (hinfo.symm.trans hinfo')
  rw [hii]

/-! ## A MAC can always be computed -/

omit [Primitives] in
theorem length_canonicalBody_le (e : KeyEnvelope) : e.canonicalBody.length ≤ e.encode.length := by
  have hhead : (Cbor.Item.encode (.array 4)).length = (Cbor.Item.encode (.array 5)).length := rfl
  simp only [KeyEnvelope.canonicalBody, KeyEnvelope.encodeBody, KeyEnvelope.encode,
    KeyEnvelope.encodeFull, Cbor.encodeAll_cons, Cbor.encodeAll_append, List.length_append, hhead]
  omega

/-- The MAC of a well-formed envelope can be computed under every root. -/
theorem computeEnvelopeMac_total (total : Primitives.HashesTotal) {e : KeyEnvelope}
    (hwell : e.WellFormed) (root : RootKey) : ∃ mac, computeEnvelopeMac e root = .ok mac := by
  have hbody := length_canonicalBody_le e
  have hsize := length_encode_le hwell
  have happ := e.applicationId.length_asBytes_le
  simp only [maxEnvelopeSize] at hsize
  have hinfo : ∃ info, Transcript.encode [envelopeMacKeyDomain, format, e.applicationId.asBytes] =
      .ok info := by
    refine ⟨_, Transcript.encode_eq_ok.mpr ⟨by simp [Transcript.maxFields], ?_, rfl⟩⟩
    simp only [List.forall_mem_cons, u32Limit]
    refine ⟨by decide, by decide, by omega, by simp⟩
  have hmessage : ∃ message, Transcript.encode [envelopeMacDomain, format, e.canonicalBody] =
      .ok message := by
    refine ⟨_, Transcript.encode_eq_ok.mpr ⟨by simp [Transcript.maxFields], ?_, rfl⟩⟩
    simp only [List.forall_mem_cons, u32Limit]
    refine ⟨by decide, by decide, by omega, by simp⟩
  obtain ⟨info, hinfo⟩ := hinfo
  obtain ⟨message, hmessage⟩ := hmessage
  -- both transcripts are short enough, and the two hashes never fail
  obtain ⟨key, hkey⟩ := total.hkdf root.bytes.toList e.envelopeId.toList info
  obtain ⟨mac, hmac⟩ := total.hmac key.toList message
  refine ⟨mac, computeEnvelopeMac_eq_ok.mpr ⟨(key.toList, message), ⟨⟨⟨key⟩, ?_, rfl⟩, hmessage⟩,
    hmac⟩⟩
  simp only [envelopeMacKey, except_bind_eq_ok, deriveKey_eq_ok]
  exact ⟨info, hinfo, hkey⟩

/-! ## Binding -/

/-- One MAC, one message, one content. -/
theorem sameContent_of_mac_eq {e e' : KeyEnvelope} {root : RootKey} {mac : Bytes 32}
    (hwell : e.WellFormed) (hwell' : e'.WellFormed)
    (hmac : Set.InjOn (fun call => Primitives.hmacSha256 call.1 call.2)
      (macCalls e root ∪ macCalls e' root))
    (h : computeEnvelopeMac e root = .ok mac) (h' : computeEnvelopeMac e' root = .ok mac) :
    e.SameContent e' := by
  obtain ⟨call, hcall, hout⟩ := computeEnvelopeMac_eq_ok.mp h
  obtain ⟨call', hcall', hout'⟩ := computeEnvelopeMac_eq_ok.mp h'
  have hcc : call = call' := hmac (.inl hcall) (.inr hcall') (hout.trans hout'.symm)
  subst hcc
  -- one message has one canonical body
  have hfields := Transcript.encode_injective hcall.2 hcall'.2
  simp only [List.cons.injEq, and_true, true_and] at hfields
  obtain ⟨happ, hid, hrecipients⟩ :=
    canonicalBody_injective (length_encode_lt hwell) (length_encode_lt hwell') hfields
  exact ⟨happ, hid, hrecipients⟩

omit [Primitives] in
theorem eq_of_sameContent {e e' : KeyEnvelope} (h : e.SameContent e') (hmac : e.mac = e'.mac) :
    e = e' := by
  obtain ⟨application, envelopeId, recipients, mac⟩ := e
  obtain ⟨application', envelopeId', recipients', mac'⟩ := e'
  obtain ⟨happ, hid, hrecipients⟩ := h
  cases happ
  cases hid
  cases hrecipients
  cases hmac
  rfl

/-- The MAC does not read the MAC field. -/
theorem computeEnvelopeMac_congr {e e' : KeyEnvelope} (h : e.SameContent e') (root : RootKey) :
    computeEnvelopeMac e root = computeEnvelopeMac e' root := by
  obtain ⟨application, envelopeId, recipients, mac⟩ := e
  obtain ⟨application', envelopeId', recipients', mac'⟩ := e'
  obtain ⟨happ, hid, hrecipients⟩ := h
  cases happ
  cases hid
  cases hrecipients
  rfl

/-- **The MAC binds the whole envelope.** Equal MACs under one root mean equal content. An envelope that
differs from an authenticated one in its content alone, or in its MAC alone, is rejected; it is accepted
exactly when both differ and its MAC is the one computed of its content. -/
theorem computeEnvelopeMac_binds {e e' : KeyEnvelope} {root : RootKey} (hwell : e.WellFormed)
    (hwell' : e'.WellFormed)
    (hmac : Set.InjOn (fun call => Primitives.hmacSha256 call.1 call.2)
      (macCalls e root ∪ macCalls e' root)) :
    (∀ mac, computeEnvelopeMac e root = .ok mac → computeEnvelopeMac e' root = .ok mac →
      e.applicationId = e'.applicationId ∧ e.envelopeId = e'.envelopeId ∧
        e.recipients = e'.recipients) ∧
    (verifyEnvelopeMac e root = .ok () → e' ≠ e → e'.mac = e.mac ∨ e.SameContent e' →
      verifyEnvelopeMac e' root ≠ .ok ()) ∧
    (verifyEnvelopeMac e root = .ok () → e' ≠ e → (verifyEnvelopeMac e' root = .ok () ↔
      computeEnvelopeMac e' root = .ok e'.mac ∧ e'.mac ≠ e.mac ∧ ¬ e.SameContent e')) := by
  have hcontent (mac : Bytes 32) (h : computeEnvelopeMac e root = .ok mac)
      (h' : computeEnvelopeMac e' root = .ok mac) : e.SameContent e' :=
    sameContent_of_mac_eq hwell hwell' hmac h h'
  have hrejected (hverify : verifyEnvelopeMac e root = .ok ()) (hne : e' ≠ e)
      (hkept : e'.mac = e.mac ∨ e.SameContent e') : verifyEnvelopeMac e' root ≠ .ok () := by
    intro hverify'
    rw [verifyEnvelopeMac_eq_ok] at hverify hverify'
    apply hne
    rcases hkept with hkept | hkept
    · -- the MAC is kept: then the content is kept too
      rw [hkept] at hverify'
      exact (eq_of_sameContent (hcontent e.mac hverify hverify') hkept.symm).symm
    · -- the content is kept: then so is the MAC computed from it
      rw [computeEnvelopeMac_congr hkept, hverify'] at hverify
      exact (eq_of_sameContent hkept (Except.ok.inj hverify).symm).symm
  refine ⟨fun mac h h' => ?_, hrejected, fun hverify hne => ⟨fun hverify' => ?_, fun h => ?_⟩⟩
  · obtain ⟨happ, hid, hrecipients⟩ := hcontent mac h h'
    exact ⟨happ, hid, hrecipients⟩
  · refine ⟨verifyEnvelopeMac_eq_ok.mp hverify', fun hkept => ?_, fun hkept => ?_⟩
    · exact hrejected hverify hne (.inl hkept) hverify'
    · exact hrejected hverify hne (.inr hkept) hverify'
  · exact verifyEnvelopeMac_eq_ok.mpr h.1

omit [Primitives] in
/-- Different outputs are no collision. -/
theorem injOn_union_of_ne {α β : Type} {f : α → β} {s t : Set α} {b c : β}
    (hs : s.Subsingleton) (ht : t.Subsingleton) (hb : ∀ a ∈ s, f a = b) (hc : ∀ a ∈ t, f a = c)
    (hne : b ≠ c) : Set.InjOn f (s ∪ t) := by
  rintro a (ha | ha) a' (ha' | ha') heq
  · exact hs ha ha'
  · exact absurd ((hb a ha).symm.trans (heq.trans (hc a' ha'))) hne
  · exact absurd ((hb a' ha').symm.trans (heq.symm.trans (hc a ha))) hne
  · exact ht ha ha'

/-- Two envelopes with different MACs under one root are no collision of HMAC. -/
theorem injOn_macCalls {e e' : KeyEnvelope} {root : RootKey} {mac mac' : Bytes 32}
    (h : computeEnvelopeMac e root = .ok mac) (h' : computeEnvelopeMac e' root = .ok mac')
    (hne : mac ≠ mac') :
    Set.InjOn (fun call => Primitives.hmacSha256 call.1 call.2)
      (macCalls e root ∪ macCalls e' root) := by
  have hout : ∀ {f : KeyEnvelope} {m : Bytes 32}, computeEnvelopeMac f root = .ok m →
      ∀ call ∈ macCalls f root, Primitives.hmacSha256 call.1 call.2 = some m := by
    intro f m hm call hcall
    obtain ⟨call', hcall', hm'⟩ := computeEnvelopeMac_eq_ok.mp hm
    rw [macCalls_subsingleton f root hcall hcall']
    exact hm'
  exact injOn_union_of_ne (macCalls_subsingleton e root) (macCalls_subsingleton e' root) (hout h)
    (hout h') (by simpa using hne)

/-! ## The two recorded vectors -/

section Vectors

omit [Primitives]

theorem vectors_wellFormed :
    @KeyEnvelope.WellFormed Vector.primitives Vector.recoveryEnvelope ∧
      @KeyEnvelope.WellFormed Vector.primitives Vector.passphraseEnvelope :=
  let _ := Vector.primitives
  ⟨(decode_sound (show KeyEnvelope.decode Vector.recoveryEnvelope.encode =
      .ok Vector.recoveryEnvelope by decide +kernel)).1,
    (decode_sound (show KeyEnvelope.decode Vector.passphraseEnvelope.encode =
      .ok Vector.passphraseEnvelope by decide +kernel)).1⟩

theorem vectors_authenticated :
    @computeEnvelopeMac Vector.primitives Vector.recoveryEnvelope ⟨Vector.root⟩ =
        .ok Vector.recoveryEnvelope.mac ∧
      @computeEnvelopeMac Vector.primitives Vector.passphraseEnvelope ⟨Vector.root⟩ =
        .ok Vector.passphraseEnvelope.mac :=
  ⟨by decide +kernel, by decide +kernel⟩

/-- The two vectors, one root: the MACs differ, so the passphrase vector under the MAC of the
recovery vector is rejected. -/
theorem passphraseEnvelope_moved_mac_rejected :
    let moved := { Vector.passphraseEnvelope with mac := Vector.recoveryEnvelope.mac }
    @verifyEnvelopeMac Vector.primitives moved ⟨Vector.root⟩ ≠ .ok () := by
  let _ := Vector.primitives
  let moved := { Vector.passphraseEnvelope with mac := Vector.recoveryEnvelope.mac }
  have hmoved : moved.WellFormed :=
    (decode_sound (show KeyEnvelope.decode moved.encode = .ok moved by decide +kernel)).1
  have hmac : computeEnvelopeMac moved ⟨Vector.root⟩ = .ok Vector.passphraseEnvelope.mac :=
    vectors_authenticated.2
  exact (computeEnvelopeMac_binds vectors_wellFormed.1 hmoved
    (injOn_macCalls vectors_authenticated.1 hmac (by decide +kernel))).2.1
      (verifyEnvelopeMac_eq_ok.mpr vectors_authenticated.1) (by decide) (.inl rfl)

/-- Two different envelopes, both authenticated by one root, without a collision of HKDF or HMAC:
the recovery-secret and the passphrase vector. -/
theorem two_authenticated_envelopes :
    let _ := Vector.primitives
    ¬ ∀ (e e' : KeyEnvelope) (root : RootKey), e.WellFormed → e'.WellFormed →
      Set.InjOn (fun call => Primitives.hkdfSha256 call.1 call.2.1 call.2.2)
        (macKeyCalls e root ∪ macKeyCalls e' root) →
      Set.InjOn (fun call => Primitives.hmacSha256 call.1 call.2)
        (macCalls e root ∪ macCalls e' root) →
      verifyEnvelopeMac e root = .ok () → e' ≠ e → verifyEnvelopeMac e' root ≠ .ok () := by
  intro _ hclaim
  have hhkdf : Set.InjOn (fun call => Primitives.hkdfSha256 call.1 call.2.1 call.2.2)
      (macKeyCalls Vector.recoveryEnvelope ⟨Vector.root⟩ ∪
        macKeyCalls Vector.passphraseEnvelope ⟨Vector.root⟩) := by
    apply injOn_union_of_ne (macKeyCalls_subsingleton _ _) (macKeyCalls_subsingleton _ _)
      (b := some Vector.recoveryMacKey) (c := some Vector.passphraseMacKey)
    · rintro ⟨_, _, info⟩ ⟨rfl, rfl, hinfo⟩
      obtain rfl : Vector.macKeyInfo = info :=
        Except.ok.inj ((show _ = Except.ok Vector.macKeyInfo by decide).symm.trans hinfo)
      decide
    · rintro ⟨_, _, info⟩ ⟨rfl, rfl, hinfo⟩
      obtain rfl : Vector.macKeyInfo = info :=
        Except.ok.inj ((show _ = Except.ok Vector.macKeyInfo by decide).symm.trans hinfo)
      decide
    · decide
  exact hclaim Vector.recoveryEnvelope Vector.passphraseEnvelope ⟨Vector.root⟩
    vectors_wellFormed.1 vectors_wellFormed.2 hhkdf
    (injOn_macCalls vectors_authenticated.1 vectors_authenticated.2 (by decide))
    (verifyEnvelopeMac_eq_ok.mpr vectors_authenticated.1) (by decide)
    (verifyEnvelopeMac_eq_ok.mpr vectors_authenticated.2)

end Vectors

end Crypto

end FidoKeyWrap
