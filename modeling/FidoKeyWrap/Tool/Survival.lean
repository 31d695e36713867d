/-
# FidoKeyWrap.Tool.Survival — a sealing that is killed.

The tool can be killed between any two of its calls. What is then at the destination is another's,
or the whole container (`atomic_create`), and a container is of use only with the factors it was
sealed under. Here the two worlds of the tool run side by side: the file system of the atomic creation,
and devices that answer the protector with one PRF. Whatever the tool made of the destination before it
was killed, a later unsealing gives back the plaintext, unless a call of the read fails or the
authenticator does (`seal_survives`).
-/
import FidoKeyWrap.Deployment
import FidoKeyWrap.Tool.AtomicCreate
import FidoKeyWrap.Tool.Destination
import FidoKeyWrap.Tool.Sealing

namespace FidoKeyWrap.Tool

open ByteData Interact

/-! ## Reading a file system -/

/-- What the metadata of an inode say. -/
def Node.Described : Node → Metadata → Prop
  | .file content mode, metadata =>
    metadata.isFile = true ∧ metadata.mode &&& 0o7777 = mode ∧ metadata.len.toNat = content.length
  | .other _, metadata => metadata.isFile = false

/-- The replies of a file system to a read. A call that fails has no effect. -/
def Shows (s : FileSystem) : Event os → FileSystem → Prop
  | ⟨.openRead path, reply⟩, s' =>
    match (show Except IoError File from reply) with
    | .ok file => ∃ i, s.entry path = some i ∧ s' = s.setOpened file i
    | .error _ => s' = s
  | ⟨.fileMetadata file, reply⟩, s' =>
    s' = s ∧ ∀ metadata, (show Except IoError Metadata from reply) = .ok metadata →
      ∃ i, s.opened file = some i ∧ (s.node i).Described metadata
  | ⟨.readToEnd file limit, reply⟩, s' =>
    s' = s ∧ ∀ bytes, (show Except IoError ByteString from reply) = .ok bytes →
      ∃ i content mode, s.opened file = some i ∧ s.node i = .file content mode ∧
        bytes = content.take limit
  | _, s' => s' = s

/-- Others leave the entry and the open files alone. -/
def Spares (path : Path) (s s' : FileSystem) : Prop :=
  s'.at path = s.at path ∧ s'.opened = s.opened

/-- **`Reads path`** — one call of a read, and what others do before and after it. -/
def Reads (path : Path) (s : FileSystem) (event : Event os) (s' : FileSystem) : Prop :=
  ∃ s₁ s₂, Spares path s s₁ ∧ Shows s₁ event s₂ ∧ Spares path s₂ s'

/-- **`Refused path t text`** — a call of the read failed, and the text names it. -/
inductive Refused (path : Path) (t : Trace os) : String → Prop
  | opening {e} : ⟨.openRead path, Except.error e⟩ ∈ t →
      Refused path t "failed to open the secret file"
  | inspecting {file e} : ⟨.fileMetadata file, Except.error e⟩ ∈ t →
      Refused path t "failed to inspect the secret file"
  | reading {file limit e} : ⟨.readToEnd file limit, Except.error e⟩ ∈ t →
      Refused path t "failed to read the secret file"

section Reading

variable {path : Path} {s s' : FileSystem} {x : Inode × Node} {content : ByteString} {i : Inode}
  {file : File}

theorem context_eq_error {α : Type} {reply : Except IoError α} {text e : String} :
    context reply text = .error e ↔ (∃ error, reply = .error error) ∧ e = text := by
  cases reply with
  | ok a =>
      constructor
      · intro h
        cases h
      · rintro ⟨⟨error, h⟩, -⟩
        cases h
  | error error =>
      constructor
      · intro h
        cases h
        exact ⟨⟨error, rfl⟩, rfl⟩
      · rintro ⟨-, rfl⟩
        rfl

theorem FileSystem.at_eq_some :
    s.at path = some x ↔ s.entry path = some x.1 ∧ s.node x.1 = x.2 := by
  unfold FileSystem.at
  rw [Option.map_eq_some_iff]
  constructor
  · rintro ⟨i, hentry, rfl⟩
    exact ⟨hentry, rfl⟩
  · rintro ⟨hentry, hnode⟩
    exact ⟨x.1, hentry, by rw [hnode]⟩

/-- The entry is there, and the file is open. -/
def Open (path : Path) (x : Inode × Node) (file : File) (s : FileSystem) : Prop :=
  s.at path = some x ∧ s.opened file = some x.1

theorem Open.spares (h : Open path x file s) (hspares : Spares path s s') : Open path x file s' :=
  ⟨hspares.1.trans h.1, by rw [hspares.2, h.2]⟩

/-- An open file stays open over a call that changes nothing. -/
theorem Open.reads {event : Event os} (h : Open path x file s) (hreads : Reads path s event s')
    (hsame : ∀ s₁ s₂, Shows s₁ event s₂ → s₂ = s₁) : Open path x file s' := by
  obtain ⟨s₁, s₂, hbefore, hshows, hafter⟩ := hreads
  obtain rfl := hsame s₁ s₂ hshows
  exact (h.spares hbefore).spares hafter

theorem open_of_openRead (hat : s.at path = some x)
    (hreads : Reads path s ⟨.openRead path, Except.ok file⟩ s') : Open path x file s' := by
  obtain ⟨s₁, s₂, hbefore, ⟨i, hentry, rfl⟩, hafter⟩ := hreads
  have hat₁ : s₁.at path = some x := hbefore.1.trans hat
  obtain rfl : i = x.1 := Option.some.inj (hentry.symm.trans (FileSystem.at_eq_some.mp hat₁).1)
  refine Open.spares ⟨?_, ?_⟩ hafter
  · exact hat₁
  · simp [FileSystem.setOpened]

/-- A check that the precondition passes. -/
theorem triple_require_bind {σ α : Type} {step : σ → Event os → σ → Prop} {P : σ → Prop}
    {p : Prop} [Decidable p] {text : String} {f : Unit → Os α}
    {Q : Trace os → Except String α → σ → Prop} (hp : ∀ s, P s → p)
    (hf : Program.Triple step (fun _ => True) P (f ()).run Q) :
    Program.Triple step (fun _ => True) P
      ((liftM (require p text) : Os Unit) >>= f).run Q := by
  refine Fallible.triple_except_bind (fun _ _ => trivial) (fun e he s hs => ?_) fun _ _ => hf
  rw [require_of (hp s hs)] at he
  cases he

/-- **A read of a private file returns its content**, or names the call that failed. -/
theorem triple_readPrivate (hlength : content.length ≤ maxFileBytes) :
    Program.Triple (Reads path) (fun _ => True)
      (fun s => s.at path = some (i, .file content privateMode)) (readPrivate path).run
      fun t r _ => r = .ok content ∨ ∃ text, r = .error text ∧ Refused path t text := by
  refine Fallible.triple_ask_bind (fun _ _ => trivial)
    (R := fun reply s => ∀ file, reply = Except.ok file →
      Open path (i, .file content privateMode) file s) ?_ fun opened => ?_
  · rintro s opened s' hat hreads
    refine ⟨trivial, ?_⟩
    rintro file rfl
    exact open_of_openRead hat hreads
  refine Fallible.triple_except_bind (fun _ _ => trivial) ?_ fun file hfile => ?_
  · intro e he s _
    obtain ⟨⟨error, rfl⟩, rfl⟩ := context_eq_error.mp he
    exact .inr ⟨_, rfl, .opening List.mem_cons_self⟩
  obtain rfl := context_eq_ok.mp hfile
  -- the metadata of the open file
  refine Fallible.triple_ask_bind (fun _ _ => trivial)
    (R := fun reply s => Open path (i, .file content privateMode) file s ∧
      ∀ metadata, reply = Except.ok metadata →
        (Node.file content privateMode).Described metadata) ?_ fun inspected => ?_
  · rintro s inspected s' hopen hreads
    have hopened := hopen file rfl
    refine ⟨trivial, hopened.reads hreads fun _ _ h => h.1, ?_⟩
    rintro metadata rfl
    obtain ⟨s₁, s₂, hbefore, ⟨-, hshows⟩, -⟩ := hreads
    have hopen₁ := hopened.spares hbefore
    obtain ⟨j, hj, hdescribed⟩ := hshows metadata rfl
    obtain rfl : j = i := Option.some.inj (hj.symm.trans hopen₁.2)
    rwa [(FileSystem.at_eq_some.mp hopen₁.1).2] at hdescribed
  refine Fallible.triple_except_bind (fun _ _ => trivial) ?_ fun metadata hmetadata => ?_
  · intro e he s _
    obtain ⟨⟨error, rfl⟩, rfl⟩ := context_eq_error.mp he
    exact .inr ⟨_, rfl, .inspecting (List.mem_cons_of_mem _ List.mem_cons_self)⟩
  obtain rfl := context_eq_ok.mp hmetadata
  refine triple_require_bind (fun s hs => (hs.2 metadata rfl).1) ?_
  refine triple_require_bind (fun s hs => (hs.2 metadata rfl).2.1) ?_
  refine triple_require_bind (fun s hs => ?_) ?_
  · rw [(hs.2 metadata rfl).2.2]
    exact not_lt.mpr hlength
  refine Fallible.triple_ask_bind (fun _ _ => trivial)
    (R := fun reply _ => ∀ bytes, reply = Except.ok bytes → bytes = content) ?_ fun bytes => ?_
  · rintro s bytes s' ⟨hopened, -⟩ hreads
    refine ⟨trivial, ?_⟩
    rintro bytes rfl
    obtain ⟨s₁, s₂, hbefore, ⟨-, hshows⟩, -⟩ := hreads
    have hopen₁ := hopened.spares hbefore
    obtain ⟨j, content', mode, hj, hnode, rfl⟩ := hshows bytes rfl
    obtain rfl : j = i := Option.some.inj (hj.symm.trans hopen₁.2)
    have hcontent := hnode.symm.trans (FileSystem.at_eq_some.mp hopen₁.1).2
    cases hcontent
    -- the limit is one byte more than the largest file
    exact List.take_of_length_le (by omega)
  refine Fallible.triple_except_bind (fun _ _ => trivial) ?_ fun bytes hbytes => ?_
  · intro e he s _
    obtain ⟨⟨error, rfl⟩, rfl⟩ := context_eq_error.mp he
    exact .inr ⟨_, rfl, .reading (List.mem_cons_of_mem _ (List.mem_cons_of_mem _ List.mem_cons_self))⟩
  obtain rfl := context_eq_ok.mp hbytes
  refine triple_require_bind (fun s hs => ?_) ?_
  · rw [hs bytes rfl]
    exact saturatingU64_le hlength
  refine Program.triple_pure (fun _ _ => trivial) fun s hs => .inl ?_
  rw [hs bytes rfl]

end Reading

/-! ## A killed sealing -/

section Killed

variable {path : Path} {s : FileSystem} {w w' : World} {bytes : ByteString}

/-- The call has no effect. -/
def Inert (event : Event os) : Prop := ∀ path w w', Effect path w event w' → w' = w

theorem before_of_inert {t : Trace os} (hinert : ∀ event ∈ t, Inert event)
    (hpath : Interact.Path (Step path) w t w') (h : Before path s w) : Before path s w' := by
  refine hpath.invariant (I := Before path s) (fun event hmem w₁ w₂ hstep hw => ?_) h
  obtain ⟨m₁, m₂, hbefore, heffect, hafter⟩ := hstep
  obtain rfl := hinert event hmem path m₁ m₂ heffect
  exact stable_before.meanwhile hafter (stable_before.meanwhile hbefore hw)

/-- The last step may end with a look at the destination. -/
theorem looks_last {t : Trace os} {event : Event os} (hseen : w'.seen = none)
    (hpath : Interact.Path (Step path) w (t ++ [event]) w') :
    Interact.Path (Step path) w (t ++ [event]) { w' with seen := w'.fs.at path } := by
  obtain ⟨m, hfirst, hlast⟩ := path_append.mp hpath
  obtain ⟨w₁, w₂, hbefore, heffect, hafter⟩ := path_singleton.mp hlast
  refine path_append.mpr ⟨m, hfirst, path_singleton.mpr ⟨w₁, w₂, hbefore, heffect, ?_⟩⟩
  exact hafter.tail (.looks hseen)

/-- **A creation that is killed** leaves an entry that is another's, or the whole file. -/
theorem entry_of_killed {t rest : Trace os} {r : Except String Unit}
    (hrun : (createAtomic path bytes).run.Runs (t ++ rest) r) (hbefore : Before path s w)
    (hpath : Interact.Path (Step path) w t w') (hdistinct : ∀ event ∈ t, Distinct path event)
    {x : Inode × Node} (hat : w'.fs.at path = some x) : w'.others = some x ∨ New s bytes x := by
  have hgood : ∀ m, Interact.Path (Step path) w t m → Good path bytes s m := by
    intro m hm
    exact (triple_createAtomic w _ r hbefore hrun).1 t rest m rfl (hm.guarded hdistinct)
  cases hseen : w'.seen with
  | some y =>
      obtain ⟨hy, hwhole⟩ := hgood w' hpath y hseen
      obtain rfl : x = y := Option.some.inj (hat.symm.trans hy)
      exact hwhole
  | none =>
      rcases List.eq_nil_or_concat t with rfl | ⟨t', event, rfl⟩
      · cases hpath
        exact .inl (hbefore.others.symm.trans hat)
      · -- an observer who looks now sees the entry
        rw [List.concat_eq_append] at hpath hgood
        exact (hgood _ (looks_last hseen hpath) x hat).2

end Killed

variable [Primitives]

section Sealing

variable {app : Application} {path : Path} {access : Access} {plaintext content : ByteString}
  {root : RootKey} {file : SecretFile} {t : Trace world} {prf : Prf}

/-- The part of `seal` before the file is created. -/
def Application.prepare (app : Application) (path : Path) (access : Access)
    (plaintext : ByteString) : App ByteString := do
  storage (ensureAbsent path)
  validatePlaintext plaintext
  let enrollment ← enrollment access
  let (root, envelope, _) ← library (app.protector.createRoot enrollment)
  app.prepareContainer root envelope plaintext

theorem seal_eq_prepare : app.seal path access plaintext =
    app.prepare path access plaintext >>= fun container => storage (createAtomic path container) := by
  unfold Application.seal Application.prepare
  simp only [bind_assoc]

omit [Primitives] in
theorem inert_ensureAbsent : Program.Every Inert (ensureAbsent path).run := by
  refine Fallible.every_except_bind fun _ _ => ?_
  refine Fallible.every_bind (every_call fun _ _ _ _ h => h) fun _ => ?_
  refine Fallible.every_except_bind fun _ _ => Fallible.every_except_bind fun _ _ => ?_
  refine Fallible.every_bind (every_call fun _ _ _ _ h => h) fun reply => ?_
  split
  · exact Fallible.every_throw _
  · exact Program.every_pure _
  · exact Fallible.every_throw _

theorem inert_encrypt {a : ApplicationId} {envelope : ByteString} :
    Program.Every Inert (EncryptedSecret.encrypt root a envelope plaintext).run := by
  refine Fallible.every_except_bind fun _ _ => ?_
  refine Fallible.every_bind (every_call fun _ _ _ _ h => h) fun _ => ?_
  exact Fallible.every_except_bind fun _ _ => Fallible.every_except _

/-- A call of the storage without effects. -/
theorem inert_storage {α : Type} {x : Os α} (h : Program.Every Inert x.run) :
    Program.Every (fun event => ¬ OnRight (fun e => ¬ Inert e) event) (storage x).run :=
  Fallible.every_right fun t r hrun event hmem hright =>
    onRight_right.mp hright (h t r hrun event hmem)

/-- Before the file is created no call has an effect. -/
theorem inert_prepare : Program.Every (fun event => ¬ OnRight (fun e => ¬ Inert e) event)
    (app.prepare path access plaintext).run := by
  refine Fallible.every_bind (inert_storage inert_ensureAbsent) fun _ => ?_
  refine Fallible.every_except_bind fun _ _ => Fallible.every_except_bind fun _ _ => ?_
  refine Fallible.every_bind (Fallible.every_left fun _ _ _ _ _ => not_onRight_left) fun _ => ?_
  refine Fallible.every_except_bind fun _ _ => ?_
  refine Fallible.every_bind (inert_storage inert_encrypt) fun _ => ?_
  exact Fallible.every_except_bind fun _ _ => Fallible.every_except _

/-- **`Prepared app plaintext t root file`** — the run created the root and its envelope, and encrypted
the plaintext under the root with the exact bytes of that envelope. -/
structure Prepared (app : Application) (plaintext : ByteString) (t : Trace world) (root : RootKey)
    (file : SecretFile) : Prop where
  created : ∃ request envelope id,
    (app.protector.createRoot request).run.Runs (lefts t) (.ok (root, envelope, id)) ∧
      app.validateEnvelope envelope = .ok () ∧ file.envelope = envelope.encode
  encrypted : EncryptedSecret.encryptWithNonce root app.trustedId file.envelope plaintext
    file.secret.nonce = .ok file.secret
  valid : file.Valid

theorem runs_prepare_ok (h : (app.prepare path access plaintext).run.Runs t (.ok content)) :
    ∃ root file, content = file.layout ∧ Prepared app plaintext t root file := by
  obtain ⟨t₁, _, t₂, rfl, hstorage, h₁⟩ := Fallible.runs_bind_ok.mp h
  obtain ⟨v₁, rfl, -⟩ := Fallible.runs_right_ok.mp hstorage
  obtain ⟨_, -, h₂⟩ := Fallible.runs_except_bind_ok.mp h₁
  obtain ⟨request, -, h₃⟩ := Fallible.runs_except_bind_ok.mp h₂
  obtain ⟨t₃, ⟨root, envelope, id⟩, t₄, rfl, hlibrary, h₄⟩ := Fallible.runs_bind_ok.mp h₃
  obtain ⟨v₂, rfl, hcreate⟩ := Fallible.runs_left_ok.mp hlibrary
  have hdecode : KeyEnvelope.decode envelope.encode = .ok envelope :=
    (sound_of_start (.created (.createRoot hcreate))).committed.decodes
  obtain ⟨secret, hvalidate, rfl, hencrypted, hvalid, rfl⟩ := runs_prepareContainer_ok hdecode h₄
  refine ⟨root, ⟨envelope.encode, secret⟩, rfl, ⟨request, envelope, id, ?_, hvalidate, rfl⟩,
    hencrypted, hvalid⟩
  simpa only [lefts_append, lefts_map_left, lefts_map_right, List.nil_append, List.append_nil]
    using hcreate

end Sealing

/-! ## Unsealing -/

/-- **`Unsealed path plaintext u r`** — the unsealing gave back the plaintext; or a call of the read
failed, and the text names it; or the evaluation failed, with this error. -/
def Unsealed (path : Path) (plaintext : ByteString) (u : Trace world)
    (r : Except Failure ByteString) : Prop :=
  r = .ok plaintext ∨ (∃ text, r = .error (.message text) ∧ Refused path (rights u) text) ∨
    ∃ (request : PrfRequest) (reply : DeviceReply (Bytes 32)) (error : Error),
      ⟨.evaluate request, reply⟩ ∈ lefts u ∧ reply.result = .error error ∧
        r = .error (.library error)

section Unsealing

variable {app : Application} {path : Path} {plaintext : ByteString} {root : RootKey}
  {file : SecretFile} {t : Trace world} {prf : Prf} {envelope : KeyEnvelope}

/-- The one record of a created envelope is unlocked by what its creator typed, as far as the
authenticator evaluates. -/
theorem ends_unlock_created {request : Enrollment} {id : RecipientId} {u : Trace host}
    (hcreate : (app.protector.createRoot request).run.Runs u (.ok (root, envelope, id)))
    (hhonest : ∀ event ∈ u, Honest prf event)
    (hvalidate : app.validateEnvelope envelope = .ok ()) :
    ∃ record, envelope.recipients = [record] ∧
      ∀ v r, (app.protector.unlock envelope record.id).run.Runs v r →
        (∀ event ∈ v, Attends (Held.typed u) event) → (∀ event ∈ v, Honest prf event) →
          r = .ok root ∨ ∃ (request : PrfRequest) (reply : DeviceReply (Bytes 32)) (error : Error),
            ⟨.evaluate request, reply⟩ ∈ v ∧ reply.result = .error error ∧ r = .error error := by
  have hcreated := Created.createRoot hcreate
  have hsound := sound_of_start (.created hcreated)
  obtain ⟨envelopeId, record, keys, -, hadds, henrolled⟩ := founds_of_created hcreated
  obtain ⟨found, hrecipients, hrecovery, hlocal⟩ := validateEnvelope_eq_ok hvalidate
  -- the one record of the envelope is the one the creation added
  have hmem : record ∈ envelope.recipients := hadds.inserts.added.mem_iff.mpr List.mem_cons_self
  obtain rfl : record = found := by
    rw [hrecipients, List.mem_singleton] at hmem
    exact hmem
  refine ⟨record, hrecipients, ?_⟩
  have hopens := opens_congr hadds.identity (opens_of_enrolled (henrolled prf hhonest) hadds.recovers)
  have hunlock := byOwnUnlock_of_opens (P := fun x => OwnUnlock prf app.protector envelope
    (Held.typed u) root record x) (fun _ h => h) hsound.application hsound.committed hmem
    (admits_createRoot hcreate record hmem) hopens
  intro v r hrun hattends hhonest'
  have hown : OwnUnlock prf app.protector envelope (Held.typed u) root record
      (app.protector.unlock envelope record.id) := by
    cases record with
    | passphrase r => exact hunlock
    | fido r => exact hunlock
    | fidoAndPassphrase r => exact hunlock
    | recoverySecret r => exact absurd rfl hrecovery
    | fidoAndLocalSecret r => exact absurd rfl hlocal
  rcases hown.ends hrun hattends hhonest' with hok | ⟨request, reply, rest, error, -, rfl, hreply, hr⟩
  · exact .inl hok
  · exact .inr ⟨request, reply, error, List.mem_cons_self, hreply, hr⟩

/-- A load reads, and asks the library nothing. -/
theorem ends_load {content : ByteString} {loaded : LoadedSecret} {s s' : FileSystem} {i : Inode}
    (hlength : content.length ≤ maxFileBytes) (hparse : app.parse content = .ok loaded)
    (hat : s.at path = some (i, .file content privateMode)) {u : Trace world}
    {r : Except Failure LoadedSecret} (hrun : (app.load path).run.Runs u r)
    (hfiles : Interact.Path (Reads path) s (rights u) s') :
    lefts u = [] ∧ (r = .ok loaded ∨
      ∃ text, r = .error (.message text) ∧ Refused path (rights u) text) := by
  have hends {v : Trace os} {read : Except String ByteString}
      (hread : (readPrivate path).run.Runs v read) (hpath : Interact.Path (Reads path) s v s') :=
    (triple_readPrivate hlength s v read hat hread).2 s' hpath
  rcases Fallible.runs_bind.mp hrun with ⟨t₁, bytes, t₂, rfl, hstorage, hparses⟩ | ⟨e, hstorage, rfl⟩
  · obtain ⟨v, rfl, hread⟩ := Fallible.runs_right_ok.mp hstorage
    obtain ⟨rfl, rfl⟩ := Fallible.runs_except.mp hparses
    simp only [List.append_nil, rights_map_right, lefts_map_right] at hfiles ⊢
    rcases hends hread hfiles with hok | ⟨text, herror, -⟩
    · cases hok
      exact ⟨trivial, .inl hparse⟩
    · cases herror
  · obtain ⟨v, read, rfl, hread, hsame⟩ := Fallible.runs_right.mp hstorage
    simp only [rights_map_right, lefts_map_right] at hfiles ⊢
    rcases hends hread hfiles with rfl | ⟨text, rfl, hrefused⟩
    · cases hsame
    · cases hsame
      exact ⟨trivial, .inr ⟨text, rfl, hrefused⟩⟩

/-- The unlock of an envelope with one record is that of the record. -/
theorem runs_unlock {record : RecipientRecord} (hrecipients : envelope.recipients = [record])
    {u : Trace world} {r : Except Failure RootKey} (hrun : (app.unlock envelope).run.Runs u r) :
    ∃ v unlocked, u = v.map Event.left ∧
      (app.protector.unlock envelope record.id).run.Runs v unlocked ∧
        r = unlocked.mapError Failure.library := by
  unfold Application.unlock at hrun
  rw [hrecipients] at hrun
  exact Fallible.runs_left.mp hrun

/-- **A container on its path is unsealed**, as far as the reads and the authenticator go. -/
theorem unsealed_of_prepared (inverts : AeadInverts) (h : Prepared app plaintext t root file)
    (hhonest : ∀ event ∈ lefts t, Honest prf event) {s s' : FileSystem} {i : Inode}
    (hat : s.at path = some (i, .file file.layout privateMode)) {u : Trace world}
    {r : Except Failure ByteString} (hrun : (app.unseal path).run.Runs u r)
    (hfiles : Interact.Path (Reads path) s (rights u) s')
    (hattends : ∀ event ∈ lefts u, Attends (Held.typed (lefts t)) event)
    (hhonest' : ∀ event ∈ lefts u, Honest prf event) : Unsealed path plaintext u r := by
  obtain ⟨request, envelope, id, hcreate, hvalidate, henvelope⟩ := h.created
  have hdecode : KeyEnvelope.decode envelope.encode = .ok envelope :=
    (sound_of_start (.created (.createRoot hcreate))).committed.decodes
  have hlength : file.layout.length ≤ maxFileBytes :=
    h.valid.length_layout_le.trans (by decide)
  have hparse : app.parse file.layout = .ok ⟨file, envelope⟩ := by
    simp only [Application.parse, except_bind_eq_ok, except_mapError_eq_ok, except_pure_eq_ok]
    refine ⟨file, decode_layout h.valid, envelope, ?_, (), hvalidate, rfl⟩
    rw [henvelope]
    exact hdecode
  rcases Fallible.runs_bind.mp hrun with ⟨t₁, loaded, t₂, rfl, hload, hopens⟩ | ⟨e, hload, rfl⟩
  · rw [rights_append] at hfiles
    obtain ⟨mid, hreads, -⟩ := path_append.mp hfiles
    obtain ⟨hquiet, hok | ⟨text, herror, -⟩⟩ := ends_load hlength hparse hat hload hreads
    · cases hok
      obtain ⟨record, hrecipients, hunlock⟩ := ends_unlock_created hcreate hhonest hvalidate
      simp only [lefts_append, hquiet, List.nil_append] at hattends hhonest'
      rcases Fallible.runs_bind.mp hopens with ⟨t₃, found, t₄, rfl, hasks, hdecrypts⟩ | ⟨e, hasks, rfl⟩
      · obtain ⟨v, unlocked, rfl, hunlocks, hsame⟩ := runs_unlock hrecipients hasks
        obtain ⟨rfl, rfl⟩ := Fallible.runs_except.mp hdecrypts
        simp only [List.append_nil, lefts_map_left] at hattends hhonest'
        rcases hunlock v unlocked hunlocks hattends hhonest' with rfl | ⟨_, _, error, -, -, rfl⟩
        · cases hsame
          exact .inl (except_mapError_eq_ok.mpr (decrypt_of_encryptWithNonce inverts h.encrypted))
        · cases hsame
      · obtain ⟨v, unlocked, rfl, hunlocks, hsame⟩ := runs_unlock hrecipients hasks
        simp only [lefts_map_left] at hattends hhonest'
        rcases hunlock v unlocked hunlocks hattends hhonest' with
          rfl | ⟨asked, reply, error, hmem, hreply, rfl⟩
        · cases hsame
        · cases hsame
          refine .inr (.inr ⟨asked, reply, error, ?_, hreply, rfl⟩)
          simpa only [lefts_append, hquiet, lefts_map_left, List.nil_append] using hmem
    · cases herror
  · obtain ⟨-, hok | ⟨text, herror, hrefused⟩⟩ := ends_load hlength hparse hat hload hfiles
    · cases hok
    · cases herror
      exact .inr (.inl ⟨text, rfl, hrefused⟩)

end Unsealing

/-! ## Survival -/

/-- Something happens to the devices. -/
def Happens {σ : Type} (devices : DeviceWorld σ) (s s' : σ) : Prop :=
  devices.moves s s' ∨ ∃ event, devices.step s event s'

/-- **`Whole devices app path fs plaintext held s x`** — the entry is a private file new since `fs` with
a container, and from devices in state `s` on, while it is the entry of its path, an unsealing attended
by the holder gives back the plaintext as far as the reads and the authenticator go. -/
structure Whole {σ : Type} (devices : DeviceWorld σ) (app : Application) (path : Path)
    (fs : FileSystem) (plaintext : ByteString) (held : Held) (s : σ) (x : Inode × Node) : Prop where
  container : ∃ file : SecretFile, New fs file.layout x
  unseals : ∀ s₁, Relation.ReflTransGen (Happens devices) s s₁ →
    ∀ fs₁ : FileSystem, fs₁.at path = some x → ∀ u r s₂ fs₂, (app.unseal path).run.Runs u r →
      Interact.Path devices.step s₁ (lefts u) s₂ → Interact.Path (Reads path) fs₁ (rights u) fs₂ →
        (∀ event ∈ lefts u, Attends held event) → Unsealed path plaintext u r

section Survival

variable {σ : Type} {devices : DeviceWorld σ} {prf : Prf} {I : σ → Prop} {app : Application}
  {path : Path} {access : Access} {plaintext : ByteString} {s s' : σ} {fs : FileSystem} {w : World}
  {t rest : Trace world} {r : Except Failure Unit}

theorem honors_happens (honors : devices.Honors prf I) {s₁ : σ}
    (h : Relation.ReflTransGen (Happens devices) s s₁) (hI : I s) : I s₁ := by
  induction h with
  | refl => exact hI
  | tail _ hstep ih =>
      rcases hstep with hmove | ⟨event, hstep⟩
      · exact honors.move _ _ ih hmove
      · exact (honors.step _ event _ ih hstep).1

/-- A container of what was prepared is whole. -/
theorem whole_of_prepared (inverts : AeadInverts) (honors : devices.Honors prf I) {root : RootKey}
    {file : SecretFile} (hprepared : Prepared app plaintext t root file) (hI : I s)
    (hdevices : Interact.Path devices.step s (lefts t) s') {x : Inode × Node}
    (hnew : New fs file.layout x) :
    Whole devices app path fs plaintext (Held.typed (lefts t)) s' x := by
  obtain ⟨hI', hhonest⟩ := honors.path hI hdevices
  refine ⟨⟨file, hnew⟩, fun s₁ hlater fs₁ hat u r s₂ fs₂ hrun hpath hfiles hattends => ?_⟩
  obtain ⟨-, hhonest'⟩ := honors.path (honors_happens honors hlater hI') hpath
  have hat' : fs₁.at path = some (x.1, .file file.layout privateMode) := by
    rw [hat, ← hnew.1]
  exact unsealed_of_prepared inverts hprepared hhonest hat' hrun hfiles hattends hhonest'

/-- The two worlds of a sealing, once it creates the file. -/
theorem parts_of_creating {u : Trace world} {v : Trace os} {content : ByteString}
    (hprepare : (app.prepare path access plaintext).run.Runs u (.ok content))
    (hdevices : Interact.Path devices.step s (lefts (u ++ v.map Event.right)) s')
    (hfiles : Interact.Path (Step path) (.start fs path) (rights (u ++ v.map Event.right)) w) :
    Interact.Path devices.step s (lefts u) s' ∧
      ∃ w₁, Before path fs w₁ ∧ Interact.Path (Step path) w₁ v w := by
  rw [lefts_append, lefts_map_right, List.append_nil] at hdevices
  rw [rights_append, rights_map_right] at hfiles
  obtain ⟨w₁, hquiet, hcreates⟩ := path_append.mp hfiles
  refine ⟨hdevices, w₁, before_of_inert (fun e hmem => ?_) hquiet before_start, hcreates⟩
  by_contra hloud
  exact inert_prepare u _ hprepare _ (mem_rights hmem) (onRight_right.mpr hloud)

theorem distinct_right {u : Trace world} {v : Trace os}
    (hnames : ∀ event ∈ rights (u ++ (v.map Event.right : Trace world)), Distinct path event) :
    ∀ event ∈ v, Distinct path event := by
  intro event hmem
  refine hnames event ?_
  rw [rights_append, rights_map_right]
  exact List.mem_append_right _ hmem

/-- The entry that a killed sealing leaves. -/
theorem entry_survives (inverts : AeadInverts) (honors : devices.Honors prf I) (hI : I s)
    (hrun : (app.seal path access plaintext).run.Runs (t ++ rest) r)
    (hdevices : Interact.Path devices.step s (lefts t) s')
    (hfiles : Interact.Path (Step path) (.start fs path) (rights t) w)
    (hnames : ∀ event ∈ rights t, Distinct path event) {x : Inode × Node}
    (hat : w.fs.at path = some x) : w.others = some x ∨
      Whole devices app path fs plaintext (Held.typed (lefts t)) s' x := by
  rw [seal_eq_prepare] at hrun
  rcases Fallible.cut_bind hrun with ⟨more, r', hcut⟩ | ⟨u, content, v, rfl, hprepare, hcreates⟩
  · -- nothing has been created yet
    have hbefore : Before path fs w := by
      refine before_of_inert (fun e hmem => ?_) hfiles before_start
      by_contra hloud
      exact inert_prepare _ r' hcut _ (List.mem_append_left more (mem_rights hmem))
        (onRight_right.mpr hloud)
    exact .inl (hbefore.others.symm.trans hat)
  · obtain ⟨v', result, hsplit, hcreate, -⟩ := Fallible.runs_right.mp hcreates
    obtain ⟨v₁, v₂, rfl, rfl, -⟩ := List.append_eq_map_iff.mp hsplit
    obtain ⟨hprepared, w₁, hbefore, hpath⟩ := parts_of_creating hprepare hdevices hfiles
    refine (entry_of_killed hcreate hbefore hpath (distinct_right hnames) hat).imp id fun hnew => ?_
    obtain ⟨root, file, rfl, h⟩ := runs_prepare_ok hprepare
    rw [lefts_append, lefts_map_right, List.append_nil]
    exact whole_of_prepared inverts honors h hI hprepared hnew

/-- The entry that a successful sealing leaves. -/
theorem entry_of_sealed (inverts : AeadInverts) (honors : devices.Honors prf I) (hI : I s)
    (hrun : (app.seal path access plaintext).run.Runs t (.ok ()))
    (hdevices : Interact.Path devices.step s (lefts t) s')
    (hfiles : Interact.Path (Step path) (.start fs path) (rights t) w)
    (hnames : ∀ event ∈ rights t, Distinct path event) :
    ∃ x, w.fs.at path = some x ∧
      Whole devices app path fs plaintext (Held.typed (lefts t)) s' x := by
  rw [seal_eq_prepare] at hrun
  obtain ⟨u, content, v, rfl, hprepare, hcreates⟩ := Fallible.runs_bind_ok.mp hrun
  obtain ⟨v, rfl, hcreate⟩ := Fallible.runs_right_ok.mp hcreates
  obtain ⟨hprepared, w₁, hbefore, hpath⟩ := parts_of_creating hprepare hdevices hfiles
  have hdistinct := distinct_right hnames
  obtain ⟨x, hat, hnew⟩ := ((triple_createAtomic w₁ v _ hbefore hcreate).2 w
    (hpath.guarded hdistinct)).ok rfl
  obtain ⟨root, file, rfl, h⟩ := runs_prepare_ok hprepare
  rw [lefts_append, lefts_map_right, List.append_nil]
  exact ⟨x, hat, whole_of_prepared inverts honors h hI hprepared hnew⟩

/-- **`seal_survives`** — a sealing may be killed after any of its calls, whatever failed before. While
the devices answer with one PRF and no name drawn for the temporary is the destination's own, an entry of
the destination is then another's, or the whole container, which the factors of the sealing open from
there on. A sealing that succeeded leaves such an entry. -/
theorem seal_survives (inverts : AeadInverts) (honors : devices.Honors prf I) (hI : I s)
    (hrun : (app.seal path access plaintext).run.Runs (t ++ rest) r)
    (hdevices : Interact.Path devices.step s (lefts t) s')
    (hfiles : Interact.Path (Step path) (.start fs path) (rights t) w)
    (hnames : ∀ event ∈ rights t, Distinct path event) :
    (∀ x, w.fs.at path = some x → w.others = some x ∨
      Whole devices app path fs plaintext (Held.typed (lefts t)) s' x) ∧
      (rest = [] → r = .ok () → ∃ x, w.fs.at path = some x ∧
        Whole devices app path fs plaintext (Held.typed (lefts t)) s' x) := by
  constructor
  · exact fun x => entry_survives inverts honors hI hrun hdevices hfiles hnames
  · rintro rfl rfl
    rw [List.append_nil] at hrun
    exact entry_of_sealed inverts honors hI hrun hdevices hfiles hnames

end Survival

namespace Vector

omit [Primitives]

/-- The temporary of `vectorPath`, with the name that the system draws. -/
def temporary : Path :=
  Path.join ⟨true, []⟩ (temporaryName (Bytes.ofNat 12 0xe0e1e2e3e4e5e6e7e8e9eaeb))

/-- The calls of a creation up to the link, and the calls after it. -/
def linking (content : ByteString) : Trace os :=
  [⟨.random 12, some (Bytes.ofNat 12 0xe0e1e2e3e4e5e6e7e8e9eaeb)⟩,
    ⟨.createNew temporary privateMode, Except.ok (3 : Nat)⟩,
    ⟨.setPermissions 3 privateMode, Except.ok ()⟩, ⟨.writeAll 3 content, Except.ok ()⟩,
    ⟨.syncAll 3, Except.ok ()⟩, ⟨.hardLink temporary vectorPath, Except.ok ()⟩]

def linked : Trace os :=
  [⟨.removeFile temporary, Except.ok ()⟩, ⟨.openDirectory ⟨true, []⟩, Except.ok (3 : Nat)⟩,
    ⟨.syncAll 3, Except.ok ()⟩]

theorem runs_linking {content : ByteString} (h : content.length ≤ maxFileBytes) :
    (createAtomic vectorPath content).run.Runs (linking content ++ linked) (.ok ()) := by
  have hexec : (createAtomic vectorPath content).run.exec?
      (fun _ call => some (system content [] call)) [] = some (linking content ++ linked, .ok ()) := by
    unfold createAtomic createAtomicWithSync
    rw [ensureSize_of_le h]
    rfl
  exact Program.runs_of_exec? hexec

/-- The sealing is killed between the link and the removal of the temporary. -/
theorem path_linking (content : ByteString) : ∃ w,
    Interact.Path (Step vectorPath) (.start nothing vectorPath)
      ([⟨.metadata ⟨true, []⟩, Except.ok ⟨true, false, 0o700, 0⟩⟩,
        ⟨.symlinkMetadata vectorPath, Except.error IoError.notFound⟩] ++
          ([⟨.random 12, some nonce⟩] ++ linking content)) w ∧
      w.others = none ∧ w.fs.at vectorPath = some (0, .file content privateMode) := by
  let entries : Path → Option Inode := Function.update (fun _ => none) temporary (some 0)
  have hfree : entries vectorPath = none := by decide
  have hentry : entries temporary = some 0 := Function.update_self _ _ _
  have hlinked : Function.update entries vectorPath (some 0) vectorPath = some 0 :=
    Function.update_self _ _ _
  refine ⟨_, ⟨_, ⟨_, _, .refl, rfl, .refl⟩, _, ⟨_, _, .refl, rfl, .refl⟩,
    _, ⟨_, _, .refl, rfl, .refl⟩, _, ⟨_, _, .refl, rfl, .refl⟩,
    _, ⟨_, _, .refl, ⟨rfl, 0, 0, fresh_nothing, rfl⟩, .refl⟩, _, ⟨_, _, .refl, ⟨0, rfl, rfl⟩, .refl⟩,
    _, ⟨_, _, .refl, ⟨0, [content], rfl, ⟨_, .refl, rfl⟩, by simp, by simp⟩, .refl⟩,
    _, ⟨_, _, .refl, rfl, .refl⟩,
    _, ⟨_, _, .refl, ⟨?_, 0, ?_, rfl⟩, .refl⟩, rfl⟩, rfl, ?_⟩
  · exact hfree
  · exact hentry
  · exact FileSystem.at_eq_some.mpr ⟨hlinked, rfl⟩

/-- An authenticator whose PRF is zero, and that keeps no state. -/
def devices : let _ := sealing.primitives; DeviceWorld Unit :=
  let _ := sealing.primitives
  ⟨fun _ event _ => Honest (fun _ _ _ => Bytes.zero 32) event, fun _ _ => True⟩

theorem path_devices {t : let _ := sealing.primitives; Trace host}
    (h : let _ := sealing.primitives; ∀ event ∈ t, Honest (fun _ _ _ => Bytes.zero 32) event) :
    let _ := sealing.primitives; Interact.Path devices.step () t () := by
  let _ := sealing.primitives
  induction t with
  | nil => rfl
  | cons event t ih =>
      exact ⟨(), h event List.mem_cons_self, ih fun e hmem => h e (List.mem_cons_of_mem event hmem)⟩

theorem honors_devices : let _ := sealing.primitives
    devices.Honors (fun _ _ _ => Bytes.zero 32) fun _ => True := by
  let _ := sealing.primitives
  exact ⟨fun _ _ _ _ hstep => ⟨trivial, hstep⟩, fun _ _ _ _ => trivial⟩

end Vector

open FidoKeyWrap.Tool.Vector in
omit [Primitives] in
set_option maxRecDepth 3000 in
/-- The tool's own vector, killed between the link and the removal of the temporary. -/
theorem killed_sealing_survives :
    let _ := sealing.primitives
    ∃ (t rest : Trace world) (w : World) (x : Inode × Node),
      (vectorApplication.seal vectorPath .passphrase plaintext).run.Runs (t ++ rest) (.ok ()) ∧
        rest ≠ [] ∧ w.fs.at vectorPath = some x ∧
          Whole devices vectorApplication vectorPath nothing plaintext (Held.typed (lefts t)) () x := by
  let _ := sealing.primitives
  let request : Enrollment := ⟨label, .passphrase, some .desktop⟩
  have hrequest : enrollment .passphrase = .ok request := by decide +kernel
  have hcreate : ((vectorApplication.protector.createRoot request).run.exec user []).2 =
      .ok (⟨FidoKeyWrap.Vector.root⟩, primaryEnvelope, primaryRecord.id) := by decide +kernel
  have hcreated := Program.runs_of_exec hcreate
  have hprepare : ((vectorApplication.prepareContainer ⟨FidoKeyWrap.Vector.root⟩ primaryEnvelope
      plaintext).run.exec (Environment.sum user (system [])) []).2 = .ok primaryFile.layout := by
    decide +kernel
  have hprepared := Program.runs_of_exec hprepare
  have hdecode : KeyEnvelope.decode primaryEnvelope.encode = .ok primaryEnvelope :=
    (sound_of_start (.created (.createRoot hcreated))).committed.decodes
  obtain ⟨secret, -, htrace, -, hvalid, hlayout⟩ := runs_prepareContainer_ok hdecode hprepared
  have hfile : (⟨primaryEnvelope.encode, secret⟩ : SecretFile) = primaryFile := by
    have hdecoded := decode_layout hvalid
    rw [← hlayout] at hdecoded
    exact Except.ok.inj (hdecoded.symm.trans (by decide))
  obtain rfl : secret = primaryFile.secret := congrArg SecretFile.secret hfile
  rw [htrace] at hprepared
  have habsent := Lookups.runs_ensureAbsent_ok (u := ()).mpr
    ⟨(by decide : vectorPath.fileName.isSome), ⟨true, false, 0o700, 0⟩, rfl, rfl⟩
  have hlength : primaryFile.layout.length ≤ maxFileBytes := by
    rw [hlayout]
    exact hvalid.length_layout_le.trans (by decide)
  have hseal : (vectorApplication.seal vectorPath .passphrase plaintext).run.Runs _ (.ok ()) :=
    Fallible.runs_bind_ok.mpr ⟨_, (), _, rfl, Fallible.runs_right_ok.mpr ⟨_, rfl, habsent⟩,
      Fallible.runs_except_bind_ok.mpr ⟨(), by decide,
        Fallible.runs_except_bind_ok.mpr ⟨request, hrequest,
          Fallible.runs_bind_ok.mpr ⟨_, _, _, rfl, Fallible.runs_left_ok.mpr ⟨_, rfl, hcreated⟩,
            Fallible.runs_bind_ok.mpr ⟨_, _, _, rfl, hprepared,
              Fallible.runs_right_ok.mpr ⟨_, rfl, runs_linking hlength⟩⟩⟩⟩⟩⟩
  obtain ⟨w, hfiles, hothers, hat⟩ := path_linking primaryFile.layout
  rw [List.map_append, ← List.append_assoc, ← List.append_assoc, ← List.append_assoc] at hseal
  have hsurvives := fun (hdevices : Interact.Path devices.step () _ ())
      (hfiles : Interact.Path (Step vectorPath) (.start nothing vectorPath) _ w) hnames =>
    (seal_survives (aeadInverts_of_recording _ (by decide)) honors_devices trivial hseal
      hdevices hfiles hnames).1 _ hat
  simp only [lefts_append, rights_append, lefts_map_left, lefts_map_right, rights_map_left,
    rights_map_right, List.append_assoc, List.nil_append, List.append_nil] at hsurvives
  have hhonest : ∀ event ∈ ((vectorApplication.protector.createRoot request).run.exec user []).1,
      Honest (fun _ _ _ => Bytes.zero 32) event := by
    intro event hmem
    obtain ⟨past, hreply⟩ := Program.exec_reply hmem
    obtain ⟨query, reply⟩ := event
    obtain rfl : reply = user past query := hreply
    exact honest_user
  have hapart : ∀ event ∈ [(⟨.metadata ⟨true, []⟩, Except.ok ⟨true, false, 0o700, 0⟩⟩ : Event os),
      ⟨.symlinkMetadata vectorPath, Except.error IoError.notFound⟩] ++
        ([⟨.random 12, some nonce⟩] ++ linking primaryFile.layout), Distinct vectorPath event := by
    rintro event hmem random rfl
    have hdrawn : random = nonce ∨ random = nonce := by simpa [linking, nonce] using hmem
    obtain rfl : random = nonce := hdrawn.elim id id
    decide
  rcases hsurvives (path_devices hhonest) hfiles hapart with hother | hwhole
  · rw [hothers] at hother
    cases hother
  · refine ⟨_, _, w, _, hseal, by simp [linked], hat, ?_⟩
    simpa only [lefts_append, lefts_map_left, lefts_map_right, List.nil_append,
      List.append_nil] using hwhole

end FidoKeyWrap.Tool
