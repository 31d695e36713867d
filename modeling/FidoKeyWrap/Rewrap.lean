/-
# FidoKeyWrap.Rewrap — a rewrap keeps the route and reuses nothing of its old passphrase layer.

The two record programs of a rewrap copy their record field by field and draw a new salt and new
nonces, each in a bounded search. `Rewrapped` is the copy: identity, credential and policy stay, the
parameters are the requested ones, the salt is in no record of the old envelope and every nonce
differs from its predecessor. A context binds the salt, so no context and no PRF input of the old
envelope comes back (`Unreused`), whatever the random source returned.

`Searched` is what the random source can do to a rewrap: each search ends after at most 32 draws,
and the first one that finds nothing ends the rewrap with `RandomUnavailable` on an untouched
envelope.
-/
import FidoKeyWrap.KeySeparation
import FidoKeyWrap.Transaction

namespace FidoKeyWrap

open ByteData Interact

variable [Primitives]

/-! ## Random searches -/

omit [Primitives] in
/-- One search for a random value: how many bytes are drawn, and which draws are taken. -/
structure RandomSearch where
  size : Nat
  accept : Bytes size → Bool

theorem runs_randomArray {n : Nat} {t : Trace host} {r : Result (Bytes n)} :
    (randomArray n).run.Runs t r ↔
      ∃ drawn : Option (Bytes n), t = [⟨.random n, drawn⟩] ∧ r = okOr drawn .randomUnavailable := by
  unfold randomArray
  rw [Fallible.runs_bind]
  constructor
  · rintro (⟨t₁, drawn, t₂, rfl, hask, hok⟩ | ⟨e, hask, -⟩)
    · obtain ⟨reply, rfl, hreply⟩ := runs_ask.mp hask
      cases hreply
      obtain ⟨rfl, rfl⟩ := Fallible.runs_except.mp hok
      exact ⟨drawn, rfl, rfl⟩
    · obtain ⟨reply, -, hreply⟩ := runs_ask.mp hask
      cases hreply
  · rintro ⟨drawn, rfl, rfl⟩
    exact .inl ⟨_, drawn, [], rfl, runs_ask.mpr ⟨drawn, rfl, rfl⟩, rfl, rfl⟩

namespace RandomSearch

variable (search : RandomSearch)

/-- The loop of `unique_salt` and of `fresh_array`. -/
def program : Host (Bytes search.size) :=
  attempts (randomArray search.size) search.accept Error.randomUnavailable randomAttempts

/-- A draw that returned bytes. -/
def draw (value : Bytes search.size) : Event host := ⟨.random search.size, some value⟩

/-- The draws the search may make before it ends. -/
def Rejects (values : List (Bytes search.size)) : Prop := ∀ value ∈ values, search.accept value = false

/-- The search finds a value: fewer than 32 draws are rejected, the next is taken. -/
def Found (t : Trace host) : Prop :=
  ∃ rejected value, rejected.length < randomAttempts ∧ search.Rejects rejected ∧
    search.accept value = true ∧ t = (rejected ++ [value]).map search.draw

/-- The search ends with `RandomUnavailable`: the random source fails at one of the 32 draws, or
all 32 are rejected. -/
def Fails (t : Trace host) (e : Error) : Prop :=
  e = .randomUnavailable ∧ ∃ rejected, search.Rejects rejected ∧
    ((rejected.length < randomAttempts ∧
        t = rejected.map search.draw ++ [⟨.random search.size, (none : Option (Bytes search.size))⟩]) ∨
      (rejected.length = randomAttempts ∧ t = rejected.map search.draw))

variable {search}

theorem exists_rejected {t : Trace host} {k : Nat}
    (h : Rejected (randomArray search.size) search.accept t k) :
    ∃ rejected, search.Rejects rejected ∧ rejected.length = k ∧ t = rejected.map search.draw := by
  induction h with
  | none => exact ⟨[], by simp [Rejects], rfl, rfl⟩
  | @more u v value k hdraw haccept _ ih =>
      obtain ⟨rejected, hrejects, rfl, rfl⟩ := ih
      have hu : u = [search.draw value] := runs_randomArray_ok.mp hdraw
      subst hu
      refine ⟨value :: rejected, ?_, rfl, rfl⟩
      intro other hother
      rcases List.mem_cons.mp hother with rfl | hother
      · exact haccept
      · exact hrejects other hother

theorem found_of_runs {t : Trace host} {value : Bytes search.size}
    (h : search.program.run.Runs t (.ok value)) : search.Found t := by
  obtain ⟨u, v, k, rfl, hrejected, hends⟩ := runs_attempts.mp h
  obtain ⟨rejected, hrejects, rfl, rfl⟩ := exists_rejected hrejected
  cases hends with
  | found hk hdraw haccept =>
      have hv : v = [search.draw value] := runs_randomArray_ok.mp hdraw
      subst hv
      exact ⟨rejected, value, hk, hrejects, haccept, by simp⟩

theorem fails_of_runs {t : Trace host} {e : Error}
    (h : search.program.run.Runs t (.error e)) : search.Fails t e := by
  obtain ⟨u, v, k, rfl, hrejected, hends⟩ := runs_attempts.mp h
  obtain ⟨rejected, hrejects, rfl, rfl⟩ := exists_rejected hrejected
  cases hends with
  | failed hk hdraw =>
      obtain ⟨drawn, rfl, herror⟩ := runs_randomArray.mp hdraw
      obtain ⟨rfl, rfl⟩ := okOr_eq_error.mp herror.symm
      exact ⟨rfl, rejected, hrejects, .inl ⟨hk, rfl⟩⟩
  | spent hk => exact ⟨rfl, rejected, hrejects, .inr ⟨hk, List.append_nil _⟩⟩

/-- **At most 32 draws**, whether the search finds a value or not. -/
theorem Found.length_le {t : Trace host} (h : search.Found t) : t.length ≤ randomAttempts := by
  obtain ⟨rejected, value, hlt, -, -, rfl⟩ := h
  rw [List.length_map, List.length_append, List.length_singleton]
  omega

theorem Fails.length_le {t : Trace host} {e : Error} (h : search.Fails t e) :
    t.length ≤ randomAttempts := by
  obtain ⟨-, rejected, -, ⟨hlt, rfl⟩ | ⟨heq, rfl⟩⟩ := h
  · rw [List.length_append, List.length_map, List.length_singleton]
    omega
  · rw [List.length_map]
    omega

end RandomSearch

/-! ## The searches of a rewrap -/

/-- The search of `unique_salt`. -/
def RandomSearch.salt (e : KeyEnvelope) : RandomSearch where
  size := 16
  accept salt := !e.recipients.any fun record => match record with
    | .passphrase inner => inner.kdf.salt == salt
    | .recoverySecret _ | .fido _ | .fidoAndLocalSecret _ => false
    | .fidoAndPassphrase inner => inner.kdf.salt == salt

omit [Primitives] in
/-- The search of `fresh_array`. -/
def RandomSearch.fresh {n : Nat} (old : Bytes n) : RandomSearch where
  size := n
  accept value := decide (value ≠ old)

/-- The searches that replace a record, in the order of its fields. -/
def searches (e : KeyEnvelope) : RecipientRecord → List RandomSearch
  | .passphrase old => [.salt e, .fresh old.passphraseNonce]
  | .recoverySecret _ | .fido _ | .fidoAndLocalSecret _ => []
  | .fidoAndPassphrase old =>
    [.fresh old.prfNonce, .fresh old.fidoNonce, .salt e, .fresh old.passphraseNonce]

/-- The event is not a random draw. -/
def Undrawn (event : Event host) : Prop := ∀ n drawn, event ≠ ⟨.random n, drawn⟩

/-- The program makes its searches first. -/
def StartsWith {α : Type} (is : List RandomSearch) (x : Host α) : Prop :=
  Starts RandomSearch.Found RandomSearch.Fails Undrawn is x

theorem undrawn_hostAsk {query : Query} (h : ∀ n, query ≠ .random n) :
    Program.Every Undrawn (ask query).run := by
  intro t r hrun event hmem n drawn
  obtain ⟨reply, rfl, -⟩ := runs_ask.mp hrun
  rw [List.mem_singleton] at hmem
  subst hmem
  intro heq
  exact h n (congrArg Event.query heq)

theorem undrawn_requestPassphrase (operation : Operation) (label : String)
    (purpose : PassphrasePurpose) :
    Program.Every Undrawn (requestPassphrase operation label purpose).run :=
  Fallible.every_bind (undrawn_hostAsk fun _ h => by cases h) fun _ => Fallible.every_except _

theorem undrawn_requestNewPassphrase (operation : Operation) (label : String) :
    Program.Every Undrawn (requestNewPassphrase operation label).run := by
  refine Fallible.every_bind (undrawn_requestPassphrase _ _ _) fun passphrase => ?_
  refine Fallible.every_bind (undrawn_requestPassphrase _ _ _) fun confirmation => ?_
  refine Fallible.every_except_bind fun _ _ => ?_
  exact Program.every_pure _

theorem undrawn_derivePassphraseKey (r : RecipientRecord) (a : ApplicationId) (d : Bytes 32)
    (x : Passphrase) : Program.Every Undrawn (Crypto.derivePassphraseKey r a d x).run := by
  have hargon (kdf : KdfDescriptor) :
      Program.Every Undrawn (Crypto.argon2Output x kdf).run := by
    refine Fallible.every_except_bind fun blocks _ => ?_
    refine Fallible.every_except_bind fun _ _ => ?_
    refine Fallible.every_bind (undrawn_hostAsk fun _ h => by cases h) fun reserved => ?_
    refine Fallible.every_except_bind fun _ _ => ?_
    exact Fallible.every_except _
  have hfrom (kdf : KdfDescriptor) :
      Program.Every Undrawn (Crypto.derivePassphraseKeyFrom kdf r a d x).run := by
    refine Fallible.every_except_bind fun context _ => ?_
    refine Fallible.every_bind (hargon kdf) fun out => ?_
    refine Fallible.every_except_bind fun info _ => ?_
    exact Fallible.every_except _
  cases r with
  | passphrase r => exact hfrom r.kdf
  | fidoAndPassphrase r => exact hfrom r.kdf
  | _ => exact Fallible.every_throw _

theorem undrawn_evaluate (p : KeyProtector) (r : RecipientRecord) (e : KeyEnvelope)
    (operation : Operation) : Program.Every Undrawn (p.evaluate r e operation).run := by
  refine Fallible.every_except_bind fun request _ => ?_
  exact Fallible.every_bind (undrawn_hostAsk fun _ h => by cases h) fun _ => Fallible.every_except _

/-- One search, then the rest. -/
theorem startsWith_bind {α : Type} (search : RandomSearch) {is : List RandomSearch}
    {f : Bytes search.size → Host α} (hf : ∀ value, StartsWith is (f value)) :
    StartsWith (search :: is) (search.program >>= f) :=
  starts_bind (fun _ _ => RandomSearch.found_of_runs) (fun _ _ => RandomSearch.fails_of_runs) hf

/-- **A rewrap starts with its searches**, and draws nothing after them. -/
theorem startsWith_rewrapRecord (p : KeyProtector) (e : KeyEnvelope) (root : RootKey)
    (current : RecipientRecord) (parameters : PassphraseParameters) :
    StartsWith (searches e current) (p.rewrapRecord e root current parameters) := by
  cases current with
  | passphrase old =>
      refine startsWith_bind (.salt e) fun salt => ?_
      refine startsWith_bind (.fresh old.passphraseNonce) fun nonce => ?_
      refine starts_nil ?_
      refine Fallible.every_bind (undrawn_requestNewPassphrase _ _) fun passphrase => ?_
      refine Fallible.every_bind (undrawn_derivePassphraseKey _ _ _ _) fun key => ?_
      refine Fallible.every_except_bind fun wrapped _ => ?_
      exact Program.every_pure _
  | fidoAndPassphrase old =>
      refine startsWith_bind (.fresh old.prfNonce) fun prfNonce => ?_
      refine startsWith_bind (.fresh old.fidoNonce) fun fidoNonce => ?_
      refine startsWith_bind (.salt e) fun salt => ?_
      refine startsWith_bind (.fresh old.passphraseNonce) fun nonce => ?_
      refine starts_nil ?_
      refine Fallible.every_bind (undrawn_evaluate _ _ _ _) fun prf => ?_
      refine Fallible.every_except_bind fun fidoKey _ => ?_
      refine Fallible.every_bind (undrawn_requestNewPassphrase _ _) fun passphrase => ?_
      refine Fallible.every_bind (undrawn_derivePassphraseKey _ _ _ _) fun key => ?_
      refine Fallible.every_except_bind fun wrapped _ => ?_
      exact Program.every_pure _
  | _ => exact starts_nil (Fallible.every_throw _)

/-! ## Contexts and PRF inputs -/

section Unreused

open Crypto

omit [Primitives] in
/-- A context binds the salt. -/
theorem passphraseSalt_bound (r : RecipientRecord) : r.bound.passphraseSalt = r.passphraseSalt := by
  cases r <;> rfl

/-- **`Unreused e new`** — the replacement shares no context transcript with a record of the old
envelope, and so no context and no PRF input where SHA-256 has no collision on the transcripts. -/
structure Unreused (e : KeyEnvelope) (a : ApplicationId) (d : Bytes 32) (new : RecipientRecord) :
    Prop where
  transcript : ∀ r ∈ e.recipients, ∀ t ∈ contextTranscripts r a d, t ∉ contextTranscripts new a d
  context : ∀ r ∈ e.recipients,
    Set.InjOn Primitives.sha256 (contextTranscripts r a d ∪ contextTranscripts new a d) →
      ∀ context, recipientContext r a d = .ok context → recipientContext new a d ≠ .ok context
  prfInput : ∀ r ∈ e.recipients,
    Set.InjOn Primitives.sha256 (contextTranscripts r a d ∪ contextTranscripts new a d) →
    Set.InjOn Primitives.sha256 (prfTranscripts r a d ∪ prfTranscripts new a d) →
      ∀ input, Crypto.prfInput r a d = .ok input → Crypto.prfInput new a d ≠ .ok input

/-- A new salt makes a new context. -/
theorem unreused_of_rewrapped {e : KeyEnvelope} {requested : Option PassphraseParameters}
    {old new : RecipientRecord} (h : Rewrapped e requested old new) (a : ApplicationId)
    (d : Bytes 32) : Unreused e a d new := by
  obtain ⟨salt, hnew, hfresh⟩ := h.salt
  have hbound : ∀ r ∈ e.recipients, r.bound ≠ new.bound := by
    intro r hr heq
    refine hfresh r hr ?_
    rw [← passphraseSalt_bound, heq, passphraseSalt_bound, hnew]
  refine ⟨fun r hr => ?_, fun r hr sha context hr' hnew' => ?_,
    fun r hr sha prfSha input hr' hnew' => ?_⟩
  · intro t ht ht'
    have hencode : Transcript.encode (contextFields r a d) = .ok t :=
      (recipientContextTranscript_eq r a d).symm.trans ht
    have hencode' : Transcript.encode (contextFields new a d) = .ok t :=
      (recipientContextTranscript_eq new a d).symm.trans ht'
    exact hbound r hr (contextFields_injective (Transcript.encode_injective hencode hencode')).2.2
  · exact hbound r hr (recipientContext_inj sha hr' hnew').2.2
  · exact hbound r hr (bound_eq_of_prfInput sha prfSha hr' hnew').2.2

end Unreused

/-! ## The whole operation -/

/-- **`Searched s id t r s'`** — what a rewrap asked of the random source: nothing, when it was
refused; the searches up to the first that failed; or all searches, each of which found its value
(and then nothing more). -/
inductive Searched (s : KeyEnvelope) (id : RecipientId) (t : Trace host) (r : Result Unit)
    (s' : KeyEnvelope) : Prop
  | refused (e : Error) : t = [] → r = .error e → s' = s → Searched s id t r s'
  | stopped (current : RecipientRecord) : s.find id = .ok current →
      OneFails RandomSearch.Found RandomSearch.Fails (searches s current) t .randomUnavailable →
      r = .error .randomUnavailable → s' = s → Searched s id t r s'
  | complete (current : RecipientRecord) (u v : Trace host) : s.find id = .ok current →
      t = u ++ v → AllFound RandomSearch.Found (searches s current) u →
      (∀ event ∈ v, Undrawn event) → Searched s id t r s'

theorem randomUnavailable_of_oneFails {is : List RandomSearch} {t : Trace host} {e : Error}
    (h : OneFails RandomSearch.Found RandomSearch.Fails is t e) : e = .randomUnavailable := by
  induction h with
  | here hfails => exact hfails.1
  | later _ _ ih => exact ih

section Operation

variable {p : KeyProtector} {root : RootKey} {id : RecipientId} {s s' : KeyEnvelope}
  {t : Trace host} {r : Result Unit}

theorem searched_rewrapPassphraseInner {parameters : PassphraseParameters}
    (h : (p.rewrapPassphraseInner root id parameters).Runs s t r s') : Searched s id t r s' := by
  rw [KeyProtector.rewrapPassphraseInner, Mutating.runs_get_bind] at h
  rcases Mutating.runs_except_bind.mp h with ⟨_, -, h⟩ | ⟨e, -, ht, hr, hs⟩
  swap
  · exact .refused e ht hr hs
  rcases Mutating.runs_except_bind.mp h with ⟨current, hfind, h⟩ | ⟨e, -, ht, hr, hs⟩
  swap
  · exact .refused e ht hr hs
  rcases Mutating.runs_except_bind.mp h with ⟨_, -, h⟩ | ⟨e, -, ht, hr, hs⟩
  swap
  · exact .refused e ht hr hs
  rcases Mutating.runs_except_bind.mp h with ⟨_, -, h⟩ | ⟨e, -, ht, hr, hs⟩
  swap
  · exact .refused e ht hr hs
  rcases Mutating.runs_except_bind.mp h with ⟨_, -, h⟩ | ⟨e, -, ht, hr, hs⟩
  swap
  · exact .refused e ht hr hs
  -- the searches are in the record program; what follows it asks nothing
  rcases Mutating.runs_lift_bind.mp h with ⟨t₁, rewrapped, t₂, rfl, hrewrap, h⟩ | ⟨e, hrewrap, hr, hs⟩
  · have hsilent : t₂ = [] := by
      rcases Mutating.runs_except_bind.mp h with ⟨index, -, h⟩ | ⟨e, -, ht, -, -⟩
      · rcases Mutating.runs_except_bind.mp h with ⟨staged, -, h⟩ | ⟨e, -, ht, -, -⟩
        · exact (Mutating.runs_set.mp h).1
        · exact ht
      · exact ht
    subst hsilent
    rw [List.append_nil]
    rcases startsWith_rewrapRecord p s root current parameters t₁ _ hrewrap with
      ⟨e, -, herror⟩ | ⟨u, v, rfl, hall, hundrawn⟩
    · cases herror
    · exact .complete current u v hfind rfl hall hundrawn
  · rcases startsWith_rewrapRecord p s root current parameters t _ hrewrap with
      ⟨e', hone, herror⟩ | ⟨u, v, rfl, hall, hundrawn⟩
    · cases herror
      obtain rfl := randomUnavailable_of_oneFails hone
      exact .stopped current hfind hone hr hs
    · exact .complete current u v hfind rfl hall hundrawn

theorem searched_rewrap {requested : Option PassphraseParameters}
    (h : (p.rewrap root id requested).Runs s t r s') : Searched s id t r s' := by
  cases requested with
  | some parameters => exact searched_rewrapPassphraseInner h
  | none =>
      change (p.rewrapPassphrase root id).Runs s t r s' at h
      rw [KeyProtector.rewrapPassphrase, Mutating.runs_get_bind] at h
      rcases Mutating.runs_except_bind.mp h with ⟨_, -, h⟩ | ⟨e, -, ht, hr, hs⟩
      swap
      · exact .refused e ht hr hs
      rcases Mutating.runs_except_bind.mp h with ⟨record, -, h⟩ | ⟨e, -, ht, hr, hs⟩
      swap
      · exact .refused e ht hr hs
      rcases Mutating.runs_except_bind.mp h with ⟨parameters, -, h⟩ | ⟨e, -, ht, hr, hs⟩
      swap
      · exact .refused e ht hr hs
      exact searched_rewrapPassphraseInner h

theorem transacts_rewrap (requested : Option PassphraseParameters) :
    Mutating.Transacts (p.rewrap root id requested) s := by
  cases requested with
  | none => exact transacts_rewrapPassphrase p root s id
  | some parameters => exact transacts_rewrapPassphraseInner p root s id parameters

/-- **A rewrap keeps the route and renews its passphrase layer**, for every envelope, parameters
and random source. -/
theorem rewrap_fresh {requested : Option PassphraseParameters}
    (h : (p.rewrap root id requested).Runs s t r s') :
    (r = .ok () → ∃ current replacement, s.find id = .ok current ∧
      Replaces current replacement s s' ∧ SameIdentity s s' ∧
        Rewrapped s requested current replacement ∧
          Unreused s p.applicationId s.envelopeId replacement) ∧
      Searched s id t r s' ∧ ∀ e, r = .error e → s' = s := by
  refine ⟨?_, searched_rewrap h, ?_⟩
  · rintro rfl
    obtain ⟨current, replacement, hfind, hreplaces, hidentity, hcopy⟩ := rewrapped_of_ok h
    exact ⟨current, replacement, hfind, hreplaces, hidentity, hcopy,
      unreused_of_rewrapped hcopy p.applicationId s.envelopeId⟩
  · rintro e rfl
    exact transacts_rewrap requested t e s' h

end Operation

/-! ## The combined vector, rewrapped -/

section Vectors

omit [Primitives]

set_option maxRecDepth 3000 in
/-- It keeps the credential and repeats nothing. -/
theorem combinedRewrap_fresh :
    let _ := rewrapRecording.primitives
    ∃ current replacement, combinedBefore.find Vector.combinedRecord.id = .ok current ∧
      Replaces current replacement combinedBefore combinedAfter ∧
        Rewrapped combinedBefore none current replacement := by
  let _ := rewrapRecording.primitives
  obtain ⟨hok, -, -⟩ := @rewrap_fresh rewrapRecording.primitives ⟨Vector.application, .desktop⟩
    ⟨Vector.root⟩ Vector.combinedRecord.id _ _ _ _ none runs_combinedRewrap
  obtain ⟨current, replacement, hfind, hreplaces, -, hcopy, -⟩ := hok rfl
  exact ⟨current, replacement, hfind, hreplaces, hcopy⟩

end Vectors

end FidoKeyWrap
