/-
# FidoKeyWrap.History — the published bytes do not depend on the history.

A record set has one encoding: the records stand in the order of their ids, and the MAC is computed
from the root and the content alone. So two sessions of one envelope identity that end with the
same records end with the same bytes, whatever they did in between. Two instances are stated of
the operations: an addition is undone by the removal of the id it returned, and two removals
commute.
-/
import FidoKeyWrap.Session

namespace FidoKeyWrap

open ByteData Interact

/-- The record an addition returned. -/
def Mutation.added : (m : Mutation) → m.Reply → Option RecipientId
  | .addRecipient _ _, id => some id
  | .addRecoverySecret _ _, reply => some reply.id
  | .addFidoAndLocalSecret _ _, reply => some reply.id
  | .removeRecipient _ _, _ | .rewrapPassphrase _ _, _
  | .rewrapPassphraseWithParameters _ _ _, _ => none

variable [Primitives]

/-- **`Reachable p root e`** — a session of the root's holder, started by `p`, reaches `e`. -/
def Reachable (p : KeyProtector) (root : RootKey) (e : KeyEnvelope) : Prop :=
  ∃ e₀, Start p root e₀ ∧ Relation.ReflTransGen (Step root) e₀ e

section History

variable {p q : KeyProtector} {root : RootKey} {e e' : KeyEnvelope} {record : RecipientRecord}

theorem Reachable.committed (h : Reachable p root e) : Committed root e := by
  obtain ⟨e₀, hstart, hsteps⟩ := h
  exact (sound_of_steps hstart hsteps).committed

theorem Reachable.update {m : Mutation} {t : Trace host} {reply : m.Reply}
    (h : Reachable p root e) (hroot : m.root = root)
    (hruns : (m.program q).Runs e t (.ok reply) e') : Reachable p root e' := by
  obtain ⟨e₀, hstart, hsteps⟩ := h
  exact ⟨e₀, hstart, hsteps.tail (.update ⟨⟨q, hruns⟩, fun _ _ => hroot⟩)⟩

/-! ## One record set, one encoding -/

omit [Primitives] in
/-- **Canonical order**: ascending lists with the same records are equal. -/
theorem eq_of_mem_iff_of_ascending {xs ys : List RecipientRecord}
    (hxs : xs.Pairwise fun r s => r.id < s.id) (hys : ys.Pairwise fun r s => r.id < s.id)
    (h : ∀ r, r ∈ xs ↔ r ∈ ys) : xs = ys := by
  have hnodup : ∀ zs : List RecipientRecord, zs.Pairwise (fun r s => r.id < s.id) → zs.Nodup :=
    fun zs hzs => hzs.imp fun hlt heq => absurd (congrArg RecipientRecord.id heq) (ne_of_lt hlt)
  exact eq_of_perm_of_ascending hxs hys
    ((List.perm_ext_iff_of_nodup (hnodup xs hxs) (hnodup ys hys)).mpr h)

/-- A committed envelope is determined by its content. -/
theorem Committed.eq_of_sameContent (h : Committed root e) (h' : Committed root e')
    (hcontent : e.SameContent e') : e = e' := by
  have hmac : Except.ok (ε := Error) e.mac = .ok e'.mac := by
    rw [← h.authenticated, ← h'.authenticated]
    exact Crypto.computeEnvelopeMac_congr hcontent root
  exact Crypto.eq_of_sameContent hcontent (Except.ok.inj hmac)

/-- Two committed envelopes of one identity with the same records are equal, their MACs included. -/
theorem Committed.eq_of_mem_iff (h : Committed root e) (h' : Committed root e')
    (happ : e.applicationId = e'.applicationId) (hid : e.envelopeId = e'.envelopeId)
    (hrecords : ∀ r, r ∈ e.recipients ↔ r ∈ e'.recipients) : e = e' :=
  h.eq_of_sameContent h' ⟨happ, hid,
    eq_of_mem_iff_of_ascending h.wellFormed.ascending h'.wellFormed.ascending hrecords⟩

/-! ## Removal as a function -/

/-- The checks of a removal, passed: what is left is staged and assigned. -/
theorem runs_removeRecipient_iff {t : Trace host} {r : Result Unit} {e₁ : KeyEnvelope}
    {before after : List RecipientRecord} {mac : Bytes 32} (hcommitted : Committed root e)
    (happ : e.applicationId = q.applicationId) (hsplit : e.recipients = before ++ record :: after)
    (hstaged : Committed root { e with recipients := before ++ after, mac }) :
    (q.removeRecipient root record.id).Runs e t r e₁ ↔
      t = [] ∧ r = .ok () ∧ e₁ = { e with recipients := before ++ after, mac } := by
  have hascending := hcommitted.wellFormed.ascending
  have hmem : record ∈ e.recipients := by
    rw [hsplit]
    exact List.mem_append_right before List.mem_cons_self
  obtain ⟨index, hindex, hget⟩ := Search.binarySearchByKey_eq hascending hmem rfl
  -- ids are distinct, so taking out the found index leaves the other records
  have herase : e.recipients.eraseIdx index = before ++ after := by
    obtain ⟨before', after', hsplit', herase⟩ := eraseIdx_split e.recipients index
    rw [hget] at hsplit'
    have hperm : (before' ++ after').Perm (before ++ after) := by
      have hcons : (record :: (before' ++ after')).Perm (record :: (before ++ after)) := by
        refine List.perm_middle.symm.trans (List.Perm.trans ?_ List.perm_middle)
        rw [← hsplit, ← hsplit']
      exact hcons.cons_inv
    have hsub : ∀ xs ys, e.recipients = xs ++ record :: ys →
        (xs ++ ys).Pairwise fun r s => r.id < s.id := by
      intro xs ys h
      rw [h] at hascending
      exact hascending.sublist ((List.sublist_cons_self record ys).append_left xs)
    rw [herase]
    exact eq_of_perm_of_ascending (hsub _ _ hsplit') (hsub _ _ hsplit) hperm
  have hmany : e.recipients.length ≠ 1 := by
    have hpos := hstaged.wellFormed.nonempty
    rw [hsplit]
    simp only [List.length_append, List.length_cons] at hpos ⊢
    omega
  have hmac : Crypto.computeEnvelopeMac { e with recipients := before ++ after } root = .ok mac :=
    (Crypto.computeEnvelopeMac_congr ⟨rfl, rfl, rfl⟩ root).trans hstaged.authenticated
  have hcanon : canonicalize { e with recipients := before ++ after, mac } =
      .ok { e with recipients := before ++ after, mac } := hstaged.decodes
  rw [KeyProtector.removeRecipient, Mutating.runs_get_bind,
    Mutating.runs_except_bind_of ((requireApplication_eq_ok (u := ())).mpr happ),
    Mutating.runs_except_bind_of (except_mapError_eq_ok.mpr hindex),
    Mutating.runs_except_bind_of (require_of hmany),
    Mutating.runs_except_bind_of
      ((Crypto.verifyEnvelopeMac_eq_ok (u := ())).mpr hcommitted.authenticated),
    herase, Mutating.runs_except_bind_of hmac, Mutating.runs_except_bind_of hcanon,
    Mutating.runs_except_bind_of
      ((Crypto.verifyEnvelopeMac_eq_ok (u := ())).mpr hstaged.authenticated),
    Mutating.runs_set]

omit [Primitives] in
theorem inserts_of_added {m : Mutation} {reply : m.Reply} {id : RecipientId}
    (hadded : m.added reply = some id) (h : m.Frame e e' reply) :
    ∃ record, record.id = id ∧ Inserts record e e' := by
  cases m with
  | addRecipient root enrollment =>
      cases hadded
      exact h
  | addRecoverySecret root label =>
      cases hadded
      exact h
  | addFidoAndLocalSecret root label =>
      cases hadded
      exact h
  | _ => cases hadded

/-- **An addition is undone by the removal of the id it returned.** -/
theorem runs_removeRecipient_added {m : Mutation} {t t' : Trace host} {reply : m.Reply}
    {id : RecipientId} {p : KeyProtector} {r : Result Unit} {e₁ : KeyEnvelope}
    (hcommitted : Committed m.root e) (hruns : (m.program p).Runs e t (.ok reply) e')
    (hadded : m.added reply = some id) (happ : e.applicationId = q.applicationId) :
    (q.removeRecipient m.root id).Runs e' t' r e₁ ↔ t' = [] ∧ r = .ok () ∧ e₁ = e := by
  obtain ⟨hcommitted', hidentity⟩ := committed_of_runs_ok hruns
  have hframe : m.Frame e e' reply := (frame_of_ok hruns).2
  obtain ⟨record, rfl, hinserts⟩ := inserts_of_added hadded hframe
  obtain ⟨before, after, hold, hnew⟩ := hinserts.placed hcommitted.wellFormed.ascending
  -- what the removal stages is the envelope before the addition
  have hrestored : { e' with recipients := before ++ after, mac := e.mac } = e := by
    rw [hidentity.application, hidentity.envelope, ← hold]
  have hstaged := hrestored.symm ▸ hcommitted
  rw [runs_removeRecipient_iff hcommitted' (hidentity.application.trans happ) hnew hstaged,
    hrestored]

/-! ## Removals commute -/

/-- Some of the records of a well-formed envelope, under any MAC. -/
theorem wellFormed_of_sublist {records : List RecipientRecord} {mac : Bytes 32}
    (hwell : e.WellFormed) (hsub : records.Sublist e.recipients) (hne : records ≠ []) :
    { e with recipients := records, mac : KeyEnvelope }.WellFormed where
  application := hwell.application
  nonempty := List.length_pos_iff.mpr hne
  bounded := hsub.length_le.trans hwell.bounded
  ascending := hwell.ascending.sublist hsub
  credentials := hwell.credentials.sublist (hsub.filterMap _)
  salts := hwell.salts.sublist (hsub.filterMap _)
  records := fun record hmem => hwell.records record (hsub.subset hmem)

/-- Every removal that leaves a record succeeds, with a CBOR reader that reads the encoder's items
and hashes that never fail. -/
theorem removeRecipient_succeeds (lawful : (Primitives.cbor : Cbor.Decoder).Lawful)
    (total : Primitives.HashesTotal) (hcommitted : Committed root e)
    (happ : e.applicationId = q.applicationId) (hmem : record ∈ e.recipients)
    (hmany : 2 ≤ e.recipients.length) :
    ∃ e₁, (q.removeRecipient root record.id).Runs e [] (.ok ()) e₁ := by
  obtain ⟨before, after, hsplit⟩ := List.append_of_mem hmem
  have hne : before ++ after ≠ [] := by
    intro hnil
    rw [hsplit] at hmany
    have hlength := congrArg List.length hnil
    simp only [List.length_append, List.length_cons, List.length_nil] at hmany hlength
    omega
  have hsub : (before ++ after).Sublist e.recipients := by
    rw [hsplit]
    exact (List.sublist_cons_self record after).append_left before
  have hwell (mac : Bytes 32) :
      { e with recipients := before ++ after, mac : KeyEnvelope }.WellFormed :=
    wellFormed_of_sublist hcommitted.wellFormed hsub hne
  obtain ⟨mac, hmac⟩ := Crypto.computeEnvelopeMac_total total (hwell e.mac) root
  have hstaged : Committed root { e with recipients := before ++ after, mac } :=
    ⟨hwell mac, decode_encode lawful (hwell mac),
      (Crypto.computeEnvelopeMac_congr ⟨rfl, rfl, rfl⟩ root).trans hmac⟩
  exact ⟨_, (runs_removeRecipient_iff hcommitted happ hsplit hstaged).mpr ⟨rfl, rfl, rfl⟩⟩

/-- A removal leaves exactly the records with another id. -/
theorem mem_of_runs_removeRecipient {t : Trace host} {u : Unit} {id : RecipientId}
    (hcommitted : Committed root e) (h : (q.removeRecipient root id).Runs e t (.ok u) e')
    (r : RecipientRecord) : r ∈ e'.recipients ↔ r ∈ e.recipients ∧ r.id ≠ id := by
  obtain ⟨-, -, record, rfl, hdeletes, -, -⟩ := runs_removeRecipient_ok h
  obtain ⟨before, after, hold, hnew⟩ := hdeletes.removed
  have hascending := hcommitted.wellFormed.ascending
  rw [hold] at hascending
  obtain ⟨-, hafter, hbetween⟩ := List.pairwise_append.mp hascending
  rw [hold, hnew]
  constructor
  · intro hr
    rcases List.mem_append.mp hr with hmem | hmem
    · exact ⟨List.mem_append_left _ hmem, ne_of_lt (hbetween r hmem record List.mem_cons_self)⟩
    · exact ⟨List.mem_append_right _ (List.mem_cons_of_mem record hmem),
        ne_of_gt ((List.pairwise_cons.mp hafter).1 r hmem)⟩
  · rintro ⟨hr, hne⟩
    rcases List.mem_append.mp hr with hmem | hmem
    · exact List.mem_append_left _ hmem
    · rcases List.mem_cons.mp hmem with rfl | hmem
      · exact absurd rfl hne
      · exact List.mem_append_right _ hmem

/-- Two removals, one after the other. -/
theorem removeRecipient_twice (lawful : (Primitives.cbor : Cbor.Decoder).Lawful)
    (total : Primitives.HashesTotal) (hcommitted : Committed root e)
    (happ : e.applicationId = q.applicationId) (hmany : 3 ≤ e.recipients.length)
    {first second : RecipientRecord} (hfirst : first ∈ e.recipients) (hsecond : second ∈ e.recipients)
    (hne : first.id ≠ second.id) :
    ∃ e₁ e₂, (q.removeRecipient root first.id).Runs e [] (.ok ()) e₁ ∧
      (q.removeRecipient root second.id).Runs e₁ [] (.ok ()) e₂ ∧ SameIdentity e e₂ ∧
        Committed root e₂ ∧
          ∀ r, r ∈ e₂.recipients ↔ r ∈ e.recipients ∧ r.id ≠ first.id ∧ r.id ≠ second.id := by
  obtain ⟨e₁, hruns₁⟩ : ∃ e₁, (q.removeRecipient root first.id).Runs e [] (.ok ()) e₁ :=
    removeRecipient_succeeds lawful total hcommitted happ hfirst (by omega)
  obtain ⟨-, -, record, -, hdeletes, hidentity₁, hcommitted₁⟩ := runs_removeRecipient_ok hruns₁
  have hmem₁ := mem_of_runs_removeRecipient hcommitted hruns₁
  have hmany₁ : 2 ≤ e₁.recipients.length := by
    obtain ⟨before, after, hold, hnew⟩ := hdeletes.removed
    rw [hold] at hmany
    rw [hnew]
    simp only [List.length_append, List.length_cons] at hmany ⊢
    omega
  have hstays : second ∈ e₁.recipients := (hmem₁ second).mpr ⟨hsecond, hne.symm⟩
  obtain ⟨e₂, hruns₂⟩ : ∃ e₂, (q.removeRecipient root second.id).Runs e₁ [] (.ok ()) e₂ :=
    removeRecipient_succeeds lawful total hcommitted₁ (hidentity₁.application.trans happ) hstays
      hmany₁
  obtain ⟨-, -, -, -, -, hidentity₂, hcommitted₂⟩ := runs_removeRecipient_ok hruns₂
  refine ⟨e₁, e₂, hruns₁, hruns₂, ?_, hcommitted₂, fun r => ?_⟩
  · exact ⟨hidentity₂.application.trans hidentity₁.application,
      hidentity₂.envelope.trans hidentity₁.envelope⟩
  · rw [mem_of_runs_removeRecipient hcommitted₁ hruns₂, hmem₁, and_assoc]

/-! ## History independence -/

/-- **The published bytes do not depend on the history.** Whatever two sessions did: with one
identity, one root and the same records they end with the same bytes. An addition and the removal of
the id it returned give back the bytes before it, and two removals may be made in either order. -/
theorem encode_history_independent (root : RootKey) :
    (∀ (p p' : KeyProtector) (e e' : KeyEnvelope), Reachable p root e → Reachable p' root e' →
      e.applicationId = e'.applicationId → e.envelopeId = e'.envelopeId →
        (∀ r, r ∈ e.recipients ↔ r ∈ e'.recipients) → e.encode = e'.encode) ∧
    (∀ (p q q' : KeyProtector) (e e₁ e₂ : KeyEnvelope) (m : Mutation) (reply : m.Reply)
      (id : RecipientId) (t t' : Trace host) (r : Result Unit), Reachable p root e →
        m.root = root → (m.program q).Runs e t (.ok reply) e₁ → m.added reply = some id →
          e.applicationId = q'.applicationId → (q'.removeRecipient root id).Runs e₁ t' r e₂ →
            r = .ok () ∧ e₂.encode = e.encode) ∧
    ((Primitives.cbor : Cbor.Decoder).Lawful → Primitives.HashesTotal →
      ∀ (p q : KeyProtector) (e : KeyEnvelope), Reachable p root e →
        e.applicationId = q.applicationId → 3 ≤ e.recipients.length →
          ∀ r ∈ e.recipients, ∀ s ∈ e.recipients, r.id ≠ s.id → ∃ e₁ e₂ f₁ f₂,
            (q.removeRecipient root r.id).Runs e [] (.ok ()) e₁ ∧
            (q.removeRecipient root s.id).Runs e₁ [] (.ok ()) e₂ ∧
            (q.removeRecipient root s.id).Runs e [] (.ok ()) f₁ ∧
            (q.removeRecipient root r.id).Runs f₁ [] (.ok ()) f₂ ∧ e₂.encode = f₂.encode) := by
  refine ⟨?_, ?_, ?_⟩
  · intro p p' e e' h h' happ hid hrecords
    rw [h.committed.eq_of_mem_iff h'.committed happ hid hrecords]
  · intro p q q' e e₁ e₂ m reply id t t' r h hroot hadd hadded happ hremove
    subst hroot
    obtain ⟨-, hr, he₂⟩ := (runs_removeRecipient_added h.committed hadd hadded happ).mp hremove
    rw [he₂]
    exact ⟨hr, rfl⟩
  · intro lawful total p q e h happ hmany r hr s hs hne
    obtain ⟨e₁, e₂, hruns₁, hruns₂, hidentity, hcommitted, hmem⟩ :=
      removeRecipient_twice lawful total h.committed happ hmany hr hs hne
    obtain ⟨f₁, f₂, hruns₁', hruns₂', hidentity', hcommitted', hmem'⟩ :=
      removeRecipient_twice lawful total h.committed happ hmany hs hr hne.symm
    refine ⟨e₁, e₂, f₁, f₂, hruns₁, hruns₂, hruns₁', hruns₂', ?_⟩
    rw [hcommitted.eq_of_mem_iff hcommitted'
      (hidentity.application.trans hidentity'.application.symm)
      (hidentity.envelope.trans hidentity'.envelope.symm) fun record => ?_]
    rw [hmem, hmem', and_comm (a := record.id ≠ r.id)]

end History

section Vectors

omit [Primitives]

/-- Three records under the MAC that the vectors' primitives compute for an envelope without a
recorded one. -/
def threeRecords : KeyEnvelope where
  applicationId := Vector.application
  envelopeId := Vector.recoveryEnvelopeId
  recipients := [.passphrase Vector.passphraseRecord, .recoverySecret Vector.addedRecord,
    .recoverySecret Vector.recoveryRecord]
  mac := Bytes.zero 32

/-- The protector of the vectors. -/
def vectorProtector : KeyProtector := ⟨Vector.application, .desktop⟩

theorem reachable_recoveryEnvelope :
    @Reachable Vector.primitives vectorProtector ⟨Vector.root⟩ Vector.recoveryEnvelope := by
  let _ := Vector.primitives
  exact ⟨_, .created created_recoveryEnvelope, .refl⟩

theorem reachable_threeRecords :
    @Reachable Vector.primitives vectorProtector ⟨Vector.root⟩ threeRecords := by
  let _ := Vector.primitives
  have hdecode : KeyEnvelope.decode threeRecords.encode = .ok threeRecords := by
    decide +kernel
  exact ⟨_, .decoded hdecode ⟨rfl, by decide +kernel⟩, .refl⟩

/-- A removal by the protector of the vectors. -/
abbrev VectorRemoves (record : RecipientRecord) (e : KeyEnvelope)
    (t : @Trace (@host Vector.primitives)) (r : Result Unit) (e' : KeyEnvelope) : Prop :=
  @Mutating.Runs (@host Vector.primitives) _ _ _
    (@KeyProtector.removeRecipient Vector.primitives vectorProtector ⟨Vector.root⟩ record.id) e t r e'

set_option maxRecDepth 3000 in
/-- The recovery-secret vector extended and restored, and two removals from three records. -/
theorem vectors_history_independent :
    (∀ t r e, VectorRemoves (.recoverySecret Vector.addedRecord) Vector.extendedEnvelope t r e →
      r = .ok () ∧ e.encode = Vector.recoveryEnvelope.encode) ∧
    ∃ e₁ e₂ f₁ f₂,
      VectorRemoves (.passphrase Vector.passphraseRecord) threeRecords [] (.ok ()) e₁ ∧
      VectorRemoves (.recoverySecret Vector.addedRecord) e₁ [] (.ok ()) e₂ ∧
      VectorRemoves (.recoverySecret Vector.addedRecord) threeRecords [] (.ok ()) f₁ ∧
      VectorRemoves (.passphrase Vector.passphraseRecord) f₁ [] (.ok ()) f₂ ∧
        e₂.encode = f₂.encode := by
  have hhistory := @encode_history_independent Vector.primitives ⟨Vector.root⟩
  constructor
  · intro t r e hruns
    exact hhistory.2.1 vectorProtector vectorProtector vectorProtector Vector.recoveryEnvelope
      Vector.extendedEnvelope e recoveryAddition ⟨Vector.addedRecord.id, ⟨Vector.addedSecret⟩⟩
      Vector.addedRecord.id recoveryAdditionTrace t r reachable_recoveryEnvelope rfl
      runs_recoveryAddition rfl rfl hruns
  · exact hhistory.2.2 Cbor.Decoder.reference_lawful Vector.recording.hashesTotal vectorProtector
      vectorProtector threeRecords reachable_threeRecords rfl (by decide) _ List.mem_cons_self _
      (List.mem_cons_of_mem _ List.mem_cons_self) (by decide)

end Vectors

end FidoKeyWrap
