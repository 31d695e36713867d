/-
# FidoKeyWrap.Platform.MacosThreads — concurrent calls of the macos keychain store.

A keychain refuses a second entry for one service and account, and creations and loads delete
nothing. So what a call has read stays as it is, whatever the other calls do and whatever fails: all
calls for one key that succeed report one secret, and the keychain still holds it.

The phase of a call is the value that its last search showed, if it was one value. A call that
succeeds has just read the secret it reports, also where it added the entry itself.
-/
import FidoKeyWrap.Platform.KeychainMap
import FidoKeyWrap.Lib.Threads

namespace FidoKeyWrap.Platform.Macos

open ByteData Interact Fallible Keychain

/-! ## Calls -/

/-- A call that adds an entry or reads one. -/
inductive Call where
  | create (store : NativeLocalSecretStore) (recipient : RecipientId) (secret : LocalSecret)
  | load (store : NativeLocalSecretStore) (recipient : RecipientId)

namespace Call

abbrev Value : Call → Type
  | create .. => Unit
  | load .. => LocalSecret

def program : (call : Call) → Program securityServices (Result call.Value)
  | create store recipient secret => (Macos.create store recipient secret).run
  | load store recipient => (Macos.load store recipient).run

def key : Call → EntryKey
  | create store recipient _ | load store recipient => entryKey store recipient

/-- The secret that a call reports to be stored. -/
def reports : (call : Call) → Result call.Value → Option LocalSecret
  | create _ _ secret, .ok () => some secret
  | load .., .ok secret => some secret
  | _, .error _ => none

/-- What a call may ask: its key is the only one it adds to or searches for, and it deletes
nothing. -/
def permits (call : Call) (_ : Option ByteString) : Keychain.Call → Prop
  | .defaultKeychain | .accessControl .. => True
  | .add entry => entry.key = call.key
  | .search options => Complete call.key options ∧ options.loadData = true ∧
      options.loadRefs = false ∧ options.loadAttributes = false
  | .deleteItem _ | .delete _ => False

end Call

def soleValue : List SearchResult → Option ByteString
  | [.data bytes] => some bytes
  | _ => none

theorem soleValue_eq_some {results : List SearchResult} {bytes : ByteString} :
    soleValue results = some bytes ↔ results = [.data bytes] := by
  unfold soleValue
  split
  · simp
  · rename_i h
    simp only [reduceCtorEq, false_iff]
    exact h bytes

/-- The value that the last search showed, if it was one. -/
def shown (past : Option ByteString) : Event securityServices → Option ByteString
  | ⟨.search _, reply⟩ =>
    match (show Except Status (List SearchResult) from reply) with
    | .ok results => soleValue results
    | .error _ => none
  | _ => past

/-- A secret that is reported is the value shown last. -/
def Call.Promises (call : Call) (past : Option ByteString) (r : Result call.Value) : Prop :=
  ∀ secret, call.reports r = some secret → past = some secret.bytes.toList

/-! ## The calls report what they read -/

section Adheres

variable {store : NativeLocalSecretStore} {recipient : RecipientId} {secret : LocalSecret}
  {call : Call} {past : Option ByteString}

/-- **`Reading call x past Q`** — `x` asks what the call may ask, and ends in `Q`. -/
abbrev Reading {ε α : Type} (call : Call) (x : Security ε α) (past : Option ByteString)
    (Q : Option ByteString → Except ε α → Prop) : Prop :=
  Adheres shown call.permits past x.run Q

theorem mapM_asData_singleton {results : List SearchResult} {bytes : ByteString}
    (h : results.mapM SearchResult.asData = .ok [bytes]) : results = [.data bytes] := by
  match results with
  | [] => cases h
  | [.data bytes'] =>
    cases h
    rfl
  | [.ref _] | [.dict] | [.other] => cases h
  | first :: second :: rest =>
    rw [List.mapM_cons, except_bind_eq_ok] at h
    obtain ⟨a, -, h⟩ := h
    rw [List.mapM_cons, except_bind_eq_ok] at h
    obtain ⟨values, hvalues, h⟩ := h
    obtain ⟨b, -, h'⟩ := except_bind_eq_ok.mp hvalues
    obtain ⟨c, -, h'⟩ := except_bind_eq_ok.mp h'
    cases h'
    cases h

/-- The options of a search for the key. -/
theorem reading_query {Q : Option ByteString → Result (List ByteString) → Prop}
    {k : ItemSearchOptions → Store (List ByteString)} (hkey : call.key = entryKey store recipient)
    (herror : ∀ error, Q past (.error error))
    (hok : ∀ options, call.permits past (.search options) → Reading call (k options) past Q) :
    Reading call (query store recipient true >>= k) past Q := by
  unfold query
  cases hkind : store.kind with
  | dataProtection =>
      refine hok _ ⟨⟨?_, rfl, .inl rfl⟩, rfl, rfl, rfl⟩
      rw [hkey, entryKey, hkind]
      rfl
  | loginKeychain =>
      refine adheres_ask_bind trivial fun reply => ?_
      cases reply with
      | error status => exact herror _
      | ok _ =>
          refine hok _ ⟨⟨?_, rfl, .inr ⟨rfl, rfl⟩⟩, rfl, rfl, rfl⟩
          rw [hkey, entryKey, hkind]
          rfl

theorem reading_findValues (hkey : call.key = entryKey store recipient) :
    Reading call (findValues store recipient) past fun past r =>
      ∀ bytes, r = .ok [bytes] → past = some bytes := by
  refine reading_query hkey (fun _ _ h => by cases h) fun options hpermits => ?_
  refine adheres_ask_bind hpermits fun reply => ?_
  cases reply with
  | error status =>
      change Reading call (if status = errSecItemNotFound then _ else _) none _
      split
      · exact adheres_pure fun _ h => by cases h
      · exact adheres_throw fun _ h => by cases h
  | ok results =>
      refine adheres_except fun bytes h => ?_
      rw [mapM_asData_singleton h]
      rfl

/-- Adding the entry of a creation. -/
theorem reading_add :
    Reading (.create store recipient secret)
      (match store.kind with
        | .dataProtection => addDataProtection store recipient secret
        | .loginKeychain => addLoginKeychain store recipient secret) past fun _ _ => True := by
  cases hkind : store.kind with
  | dataProtection =>
      refine adheres_ask_bind trivial fun reply => ?_
      refine adheres_except_bind (fun _ _ => trivial) fun _ _ => ?_
      refine adheres_ask_bind ?_ fun reply => adheres_except trivial
      rw [Call.permits, Call.key, entryKey, hkind]
      rfl
  | loginKeychain =>
      refine adheres_ask_bind trivial fun reply => ?_
      refine adheres_except_bind (fun _ _ => trivial) fun _ _ => ?_
      refine adheres_ask_bind ?_ fun reply => adheres_except trivial
      rw [Call.permits, Call.key, entryKey, hkind]
      rfl

/-- A creation that fails reports no secret. -/
theorem promises_error (error : StoreError) :
    (Call.create store recipient secret).Promises past (.error error) :=
  fun _ h => by cases h

/-- A creation that compares the value shown. -/
theorem promises_compare {bytes : ByteString} (h : past = some bytes) :
    (Call.create store recipient secret).Promises past (compareStored bytes secret) := by
  intro secret' hreports
  cases hcompare : compareStored bytes secret with
  | error error =>
      rw [hcompare] at hreports
      cases hreports
  | ok _ =>
      rw [hcompare] at hreports
      cases hreports
      rw [h, compareStored_eq_ok.mp hcompare]

theorem reading_verifyCreated :
    Reading (.create store recipient secret) (verifyCreated store recipient secret) past fun past r =>
      r = .ok () → past = some secret.bytes.toList := by
  refine adheres_bind (reading_findValues rfl) (fun _ _ _ h => by cases h) fun past values h => ?_
  match values, h with
  | [], _ => exact adheres_throw fun h => by cases h
  | [bytes], h =>
    change Reading _ (if binaryMatches bytes secret = true then _ else _) past _
    split
    · rename_i hmatches
      refine adheres_pure fun _ => ?_
      rw [h bytes rfl, binaryMatches_iff.mp hmatches]
    · exact adheres_throw fun h => by cases h
  | _ :: _ :: _, _ => exact adheres_throw fun h => by cases h

theorem reading_create :
    Reading (.create store recipient secret) (create store recipient secret) past
      (Call.create store recipient secret).Promises := by
  refine adheres_run_bind reading_add ?_
  rintro past (status | _) -
  · change Reading _ (if status = errSecDuplicateItem then _ else _) past _
    split
    · refine adheres_bind (reading_findValues rfl) (fun _ error _ => promises_error error) ?_
      intro past values h
      match values, h with
      | [], _ => exact adheres_throw (promises_error _)
      | [bytes], h => exact adheres_except (promises_compare (h bytes rfl))
      | _ :: _ :: _, _ => exact adheres_throw (promises_error _)
    · refine adheres_run_bind (reading_findValues rfl) ?_
      rintro past (error | values) h
      · exact adheres_throw (promises_error _)
      · match values, h with
        | [], _ => exact adheres_throw (promises_error _)
        | [bytes], h => exact adheres_except (promises_compare (h bytes rfl))
        | _ :: _ :: _, _ => exact adheres_throw (promises_error _)
  · refine adheres_run_bind reading_verifyCreated ?_
    rintro past (error | _) h
    · exact adheres_throw (promises_error _)
    · refine adheres_pure fun secret' hreports => ?_
      cases hreports
      exact h rfl

theorem reading_load :
    Reading (.load store recipient) (load store recipient) past
      (Call.load store recipient).Promises := by
  refine adheres_bind (reading_findValues rfl) (fun _ _ _ _ h => by cases h) ?_
  intro past values h
  match values, h with
  | [], _ => exact adheres_throw fun _ h => by cases h
  | [bytes], h =>
    refine adheres_except fun secret hreports => ?_
    cases himport : importBinary bytes with
    | error error =>
        rw [himport] at hreports
        cases hreports
    | ok loaded =>
        rw [himport] at hreports
        cases hreports
        rw [h bytes rfl, importBinary_eq_ok.mp himport]
  | _ :: _ :: _, _ => exact adheres_throw fun _ h => by cases h

end Adheres

theorem Call.adheres (call : Call) (past : Option ByteString) :
    Adheres shown call.permits past call.program call.Promises := by
  cases call with
  | create store recipient secret => exact reading_create
  | load store recipient => exact reading_load

/-! ## What was read stays -/

/-- **`Stays calls before s g`** — the entries `before` the calls are there, and so is the one value
that a call has read. -/
structure Stays {ι : Type} (calls : ι → Call) (before s : Keychains)
    (g : ι → Option ByteString) : Prop where
  kept : ∀ item e, before.items item = some e → s.items item = some e
  read : ∀ i bytes, g i = some bytes →
    ∃ item e, (s.items.filter (calls i).key.selects).Sole item e ∧ e.data = bytes

section Stays

variable {ι : Type} {refused : List Status} {calls : ι → Call} {before s s' : Keychains}
  {g : ι → Option ByteString} {i : ι} {past : Option ByteString} {key : EntryKey}

/-- An addition leaves a sole entry as it is, whatever its key. -/
theorem sole_of_adds {entry e : Entry} {item : KeychainItem} (h : Adds s entry s')
    (hsole : (s.items.filter key.selects).Sole item e) :
    (s'.items.filter key.selects).Sole item e := by
  obtain ⟨hvacant, new, hfree, hitems⟩ := h
  have hother : key.selects entry = false := by
    by_contra hselects
    rw [Bool.not_eq_false, selects_iff] at hselects
    rw [hselects] at hvacant
    exact hvacant.not_sole hsole
  rw [hitems, Inventory.filter_insert_of_neg hfree hother]
  exact hsole

theorem sole_of_addEnds {entry e : Entry} {r : Except Status Unit} {item : KeychainItem}
    (h : AddEnds refused s entry r s') (hsole : (s.items.filter key.selects).Sole item e) :
    (s'.items.filter key.selects).Sole item e := by
  cases r with
  | ok _ => exact sole_of_adds h hsole
  | error status =>
      rcases h with rfl | ⟨-, hadds⟩
      · exact hsole
      · exact sole_of_adds hadds hsole

theorem kept_of_addEnds {entry e : Entry} {r : Except Status Unit} {item : KeychainItem}
    (h : AddEnds refused s entry r s') (hitem : s.items item = some e) :
    s'.items item = some e := by
  cases r with
  | ok _ => exact Adds.kept h hitem
  | error status =>
      rcases h with rfl | ⟨-, hadds⟩
      · exact hitem
      · exact hadds.kept hitem

/-- A search that shows one value shows that of the sole entry. -/
theorem sole_of_shown {call : Call} {options : ItemSearchOptions} {bytes : ByteString}
    {reply : Except Status (List SearchResult)}
    (hpermits : call.permits past (.search options))
    (hstep : Step refused s ⟨.search options, reply⟩ s')
    (hshown : shown past ⟨.search options, reply⟩ = some bytes) :
    ∃ item e, (s.items.filter call.key.selects).Sole item e ∧ e.data = bytes := by
  obtain ⟨hcomplete, hdata, hrefs, hattributes⟩ := hpermits
  cases reply with
  | error status => cases hshown
  | ok results =>
      obtain ⟨-, items, hitems, hresults⟩ := hstep
      rw [hcomplete.matches] at hitems
      rw [hcomplete.limited hitems] at hresults
      obtain rfl : results = [.data bytes] := soleValue_eq_some.mp hshown
      have hvalues := mapM_asData hdata hrefs hattributes s items
      rw [← hresults] at hvalues
      have hlist : [bytes] = items.map (dataOf s.items) := Except.ok.inj hvalues
      have hread : Shown call.key s [bytes] := ⟨items, hitems, hlist⟩
      exact hread.sole

variable [DecidableEq ι]

/-- A call that keeps the entries, and what it has read. -/
theorem Stays.step (h : Stays calls before s g)
    (hkept : ∀ item e, s.items item = some e → s'.items item = some e)
    (hsole : ∀ key item e, (s.items.filter (EntryKey.selects key)).Sole item e →
      (s'.items.filter (EntryKey.selects key)).Sole item e)
    (hpast : ∀ bytes, past = some bytes →
      ∃ item e, (s'.items.filter (calls i).key.selects).Sole item e ∧ e.data = bytes) :
    Stays calls before s' (Function.update g i past) where
  kept item e hitem := hkept item e (h.kept item e hitem)
  read j bytes hj := by
    by_cases hji : j = i
    · subst hji
      rw [Function.update_self] at hj
      exact hpast bytes hj
    · rw [Function.update_of_ne hji] at hj
      obtain ⟨item, e, hread, hdata⟩ := h.read j bytes hj
      exact ⟨item, e, hsole _ item e hread, hdata⟩

/-- **Every call of Security Services keeps what was read.** -/
theorem Stays.call (h : Stays calls before s g) {query : Keychain.Call}
    {reply : securityServices.Reply query} (hpermits : (calls i).permits (g i) query)
    (hstep : Step refused s ⟨query, reply⟩ s') :
    Stays calls before s' (Function.update g i (shown (g i) ⟨query, reply⟩)) := by
  cases query with
  | defaultKeychain | accessControl =>
      obtain rfl : s' = s := hstep
      exact h.step (fun _ _ hitem => hitem) (fun _ _ _ hsole => hsole) (h.read i)
  | add entry =>
      refine h.step (fun _ _ hitem => kept_of_addEnds hstep hitem)
        (fun _ _ _ hsole => sole_of_addEnds hstep hsole) fun bytes hpast => ?_
      obtain ⟨item, e, hsole, hdata⟩ := h.read i bytes hpast
      exact ⟨item, e, sole_of_addEnds hstep hsole, hdata⟩
  | search options =>
      obtain rfl : s' = s := hstep.1
      exact h.step (fun _ _ hitem => hitem) (fun _ _ _ hsole => hsole)
        fun bytes hpast => sole_of_shown hpermits hstep hpast
  | deleteItem item => exact hpermits.elim
  | delete options => exact hpermits.elim

end Stays

/-! ## Schedules -/

section Schedules

variable {ι : Type} [DecidableEq ι] {refused : List Status} {calls : ι → Call}
  {s s' : Keychains} {h : Schedule ι securityServices}
  {pool : Pool securityServices fun i => Result (calls i).Value}

/-- **Concurrent creations and loads of the macos store**, whatever fails: no entry is lost or
changed, and a secret that a call reports is that of the sole entry of its key ever after, so all
calls for one key report one secret. -/
theorem calls_report_one_secret
    (hrun : Interleaves (Step refused) (fun i => (calls i).program) s h pool s') :
    (∀ item e, s.items item = some e → s'.items item = some e) ∧
    (∀ i r v, pool i = .ret r → (calls i).reports r = some v →
      ∃ item e, (s'.items.filter (calls i).key.selects).Sole item e ∧
        e.data = v.bytes.toList) ∧
    ∀ i j r r' v w, pool i = .ret r → pool j = .ret r' → (calls i).key = (calls j).key →
      (calls i).reports r = some v → (calls j).reports r' = some w → v = w := by
  have hstart : Stays calls s s fun _ => none :=
    ⟨fun _ _ hitem => hitem, fun _ _ hread => by cases hread⟩
  have hadheres : ∀ i, Adheres shown (calls i).permits none (calls i).program (calls i).Promises :=
    fun i => (calls i).adheres none
  have hkeep : ∀ s₁ g i query reply s₂, Stays calls s s₁ g → (calls i).permits (g i) query →
      True → Step refused s₁ ⟨query, reply⟩ s₂ →
      Stays calls s s₂ (Function.update g i (shown (g i) ⟨query, reply⟩)) :=
    fun _ _ _ _ _ _ hstays hpermits _ hstep => hstays.call hpermits hstep
  obtain ⟨hstays, -⟩ := hrun.invariant hkeep (obeys_true _ h) hstart hadheres
  have hreads : ∀ i r v, pool i = .ret r → (calls i).reports r = some v →
      ∃ item e, (s'.items.filter (calls i).key.selects).Sole item e ∧
        e.data = v.bytes.toList := by
    intro i r v hdone hreports
    have hpromises := hrun.returned hkeep (obeys_true _ h) hstart hadheres hdone
    exact hstays.read i _ (hpromises v hreports)
  refine ⟨hstays.kept, hreads, fun i j r r' v w hi hj hkey hv hw => ?_⟩
  obtain ⟨item, e, hsole, hdata⟩ := hreads i r v hi hv
  obtain ⟨item', e', hsole', hdata'⟩ := hreads j r' w hj hw
  rw [← hkey] at hsole'
  obtain ⟨-, rfl⟩ := hsole.unique hsole'
  exact LocalSecret.ext (Bytes.ext (hdata.symm.trans hdata'))

end Schedules

/-- Two creations of different secrets for one key in the login keychain, and a load. -/
def competing (i : Fin 3) : Call :=
  let store : NativeLocalSecretStore := ⟨⟨"macos.example", by decide⟩, .loginKeychain⟩
  let recipient : RecipientId := ⟨Bytes.zero 32⟩
  if i.val = 2 then .load store recipient else .create store recipient ⟨Bytes.ofNat 32 i.val⟩

theorem competing_report_one_secret :
    let empty : Keychains := ⟨.empty, by simp⟩
    ∃ h pool s', Interleaves (Step [errSecDuplicateItem]) (fun i => (competing i).program) empty h
        pool s' ∧ (∀ i, ∃ r, pool i = .ret r) ∧
      (∀ item e, empty.items item = some e → s'.items item = some e) ∧
      (∀ i r v, pool i = .ret r → (competing i).reports r = some v →
        ∃ item e, (s'.items.filter (competing i).key.selects).Sole item e ∧
          e.data = v.bytes.toList) ∧
      ∀ i j r r' v w, pool i = .ret r → pool j = .ret r' →
        (competing i).key = (competing j).key → (competing i).reports r = some v →
        (competing j).reports r' = some w → v = w := by
  intro empty
  obtain ⟨h, pool, s', hrun, -, hdone⟩ :=
    exists_sequential (s := empty) (R := fun _ => True) (D := fun _ _ _ => True)
      exists_serves (fun _ _ _ _ => trivial) (fun _ _ _ _ => trivial) [0, 1, 2]
      (fun i => (competing i).adheres none) fun _ => trivial
  have hall : ∀ i, ∃ r, pool i = .ret r := fun i => hdone i (by fin_cases i <;> simp)
  have hsteps : Interleaves (Step [errSecDuplicateItem]) (fun i => (competing i).program) empty h
      pool s' := hrun.mono fun _ _ _ hserves => hserves.step
  exact ⟨h, pool, s', hsteps, hall, calls_report_one_secret hsteps⟩

end FidoKeyWrap.Platform.Macos
