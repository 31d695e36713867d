/-
# FidoKeyWrap.Platform.LinuxThreads — concurrent calls of the Secret Service store.

The Secret Service does not keep attributes unique, so a creation is search, `create_item`, read
back, search, and a deletion if the last search shows anything else. Any number of creations and
loads, for any applications and recipients, may take these requests in any order.

`Phase` is how far a call has come, read off its own requests, and `Turn` is one request as a step of
phases and items. The invariant over it, `Accounts`, needs no assumption about failures: no call
touches an item of another, every new item is some call's to answer for, and of the calls for one key
that created an item at most one ends with it confirmed.
-/
import FidoKeyWrap.Platform.LinuxMap
import FidoKeyWrap.Lib.Threads

namespace FidoKeyWrap.Platform.Linux

open ByteData Interact Fallible

/-! ## Calls and phases -/

/-- A call that adds an item or reads one. -/
inductive Call where
  | create (store : NativeLocalSecretStore) (recipient : RecipientId) (secret : LocalSecret)
  | load (store : NativeLocalSecretStore) (recipient : RecipientId)

namespace Call

abbrev Value : Call → Type
  | create .. => Unit
  | load .. => LocalSecret

def program : (call : Call) → Program secretService (Result call.Value)
  | create store recipient secret => (Linux.create store recipient secret).run
  | load store recipient => (Linux.load store recipient).run

def key : Call → EntryKey
  | create store recipient _ | load store recipient => entryKey store recipient

/-- The item that a call creates. -/
def item : Call → Option Item
  | create store recipient secret => some ((entryKey store recipient).item secret)
  | load .. => none

end Call

/-- How far a call has come. -/
inductive Phase where
  | looking
  /-- The first search showed no item. -/
  | absent
  /-- The first search showed one item. -/
  | found (item : ItemPath)
  | seen (item : ItemPath) (secret : ByteString)
  | made (item : ItemPath)
  /-- After the creation a search showed the new item alone. -/
  | confirmed (item : ItemPath)
  /-- The new item was to be deleted. -/
  | left (item : ItemPath)
  | gone
  /-- The creation failed, and may have had its effect. -/
  | lost

namespace Phase

/-- A search that showed the items. -/
def searched (items : List ItemPath) : Phase → Phase
  | looking =>
    match items with
    | [] => absent
    | [item] => found item
    | _ => looking
  | made item => if items = [item] then confirmed item else made item
  | left item => if item ∈ items then left item else gone
  | phase => phase

def read (secret : ByteString) : Phase → Phase
  | found item => seen item secret
  | phase => phase

/-- The phase after a request of the call. -/
def next (phase : Phase) : Event secretService → Phase
  | ⟨.searchItems _, reply⟩ =>
    match (show Except ServiceError (List ItemPath) from reply) with
    | .ok items => phase.searched items
    | .error _ => phase
  | ⟨.getSecret _, reply⟩ =>
    match (show Except ServiceError ByteString from reply) with
    | .ok secret => phase.read secret
    | .error _ => phase
  | ⟨.createItem .., reply⟩ =>
    match (show Except ServiceError ItemPath from reply) with
    | .ok item => made item
    | .error _ => lost
  | ⟨.delete item, _⟩ => left item
  | _ => phase

/-- The item is there for this call to keep or delete. -/
def Owns (phase : Phase) (item : ItemPath) : Prop := phase = made item ∨ phase = confirmed item

/-- The call reads an item that it did not create. -/
def Reads (phase : Phase) (item : ItemPath) : Prop :=
  phase = found item ∨ ∃ secret, phase = seen item secret

end Phase

/-- What a call may ask. -/
def Call.permits (call : Call) : Phase → Request → Prop
  | .looking, .connect _ | .looking, .getDefaultCollection | .looking, .isLocked
  | .looking, .unlock | .looking, .ensureUnlocked => True
  | .looking, .searchItems attributes | .made _, .searchItems attributes
  | .left _, .searchItems attributes => attributes = call.key.attributes
  | .absent, .createItem label attributes secret replace contentType =>
    replace = false ∧ call.item = some ⟨label, attributes, secret, contentType⟩
  | .found item, .getSecret item' | .made item, .delete item' => item' = item
  | .made _, .getSecret _ | .lost, .searchItems _ | .lost, .getSecret _ => True
  | _, _ => False

/-- What a result says of the phase. -/
def Call.Promises : (call : Call) → Phase → Result call.Value → Prop
  | .create _ _ secret, phase, r =>
    match phase with
    | .confirmed _ => r = .ok ()
    | .seen _ bytes => r = compareStored bytes secret
    | .left _ => r = .error .stateUncertain
    | .absent | .made _ => False
    | .lost => True
    | .looking | .found _ | .gone => ∃ error, r = .error error
  | .load .., phase, r =>
    match phase with
    | .seen _ bytes => r = importBinary bytes
    | .looking | .found _ | .absent => ∃ error, r = .error error
    | _ => False

/-! ## The calls follow their phases -/

section Adheres

variable {call : Call} {g : Phase} {α : Type}

/-- **`Keeping call x g Q`** — from phase `g` on, `x` asks what the call may ask, and ends in `Q`. -/
abbrev Keeping (call : Call) (x : Service α) (g : Phase) (Q : Phase → Result α → Prop) : Prop :=
  Adheres Phase.next call.permits g x.run Q

/-- A request that is permitted from the start and tells nothing. -/
theorem keeping_quiet {query : Request} {f : secretService.Reply query → Result α}
    (hpermits : call.permits .looking query)
    (hnext : ∀ reply, Phase.next .looking ⟨query, reply⟩ = .looking) :
    Keeping call (request query >>= fun reply => (liftM (f reply) : Service α)) .looking
      fun phase _ => phase = .looking := by
  refine adheres_ask_bind hpermits fun reply => ?_
  rw [hnext]
  exact adheres_except rfl

/-- Opening the collection. -/
theorem keeping_open {x : Service α} {Q : Phase → Result α → Prop}
    (herror : ∀ error, Q .looking (.error error)) (hx : Keeping call x .looking Q) :
    Keeping call (do connect; defaultCollection; unlockCollection; x) .looking Q := by
  have hthen : ∀ {β : Type} {y : Service β} {f : β → Service α},
      Keeping call y .looking (fun phase _ => phase = .looking) →
      (∀ b, Keeping call (f b) .looking Q) → Keeping call (y >>= f) .looking Q := by
    intro β y f hy hf
    refine adheres_bind hy (fun phase error hphase => ?_) fun phase b hphase => ?_
    · rw [hphase]
      exact herror error
    · rw [hphase]
      exact hf b
  refine hthen (keeping_quiet trivial fun _ => rfl) fun _ => ?_
  refine hthen (keeping_quiet trivial fun _ => rfl) fun _ => ?_
  refine hthen ?_ fun _ => hx
  unfold unlockCollection
  refine adheres_ask_bind trivial fun reply => ?_
  refine adheres_except_bind (fun _ _ => rfl) fun locked _ => ?_
  refine adheres_bind (R := fun phase _ => phase = .looking) ?_ (fun _ _ h => h) ?_
  · split
    · exact keeping_quiet trivial fun _ => rfl
    · exact adheres_pure rfl
  · rintro phase - rfl
    exact keeping_quiet trivial fun _ => rfl

/-- A search whose failure ends the call. -/
theorem keeping_search (call : Call) {f : ServiceError → StoreError}
    {k : List ItemPath → Service α} {Q : Phase → Result α → Prop}
    (hpermits : call.permits g (.searchItems call.key.attributes))
    (herror : ∀ error, Q g (.error (f error)))
    (hok : ∀ items, Keeping call (k items) (g.searched items) Q) :
    Keeping call (request (.searchItems call.key.attributes) >>= fun reply =>
      (liftM (Except.mapError f reply) : Service (List ItemPath)) >>= k) g Q := by
  refine adheres_ask_bind hpermits fun reply => ?_
  cases reply with
  | error error => exact adheres_throw (herror error)
  | ok items => exact hok items

/-- Reading an item that a search showed. -/
theorem keeping_read {item : ItemPath} {f : ServiceError → StoreError}
    {check : ByteString → Result α} {Q : Phase → Result α → Prop}
    (hpermits : call.permits g (.getSecret item)) (herror : ∀ error, Q g (.error (f error)))
    (hok : ∀ bytes, Q (g.read bytes) (check bytes)) :
    Keeping call (request (.getSecret item) >>= fun reply =>
      (liftM (Except.mapError f reply) : Service ByteString) >>= fun bytes =>
        liftM (check bytes)) g Q := by
  refine adheres_ask_bind hpermits fun reply => ?_
  cases reply with
  | error error => exact adheres_throw (herror error)
  | ok bytes => exact adheres_except (hok bytes)

end Adheres

/-! ### Creating -/

section Create

variable {store : NativeLocalSecretStore} {recipient : RecipientId} {secret : LocalSecret}

/-- The cleanup of an item ends without it, or in doubt. -/
theorem keeping_cleanup {item : ItemPath} (error : StoreError) :
    Keeping (.create store recipient secret)
      (cleanupAfterFailedCreate (entryKey store recipient) item error) (.made item)
      (Call.create store recipient secret).Promises := by
  refine adheres_ask_bind rfl fun _ => ?_
  change Keeping _ _ (.left item) _
  refine keeping_search (.create store recipient secret) rfl (fun _ => rfl) fun items => ?_
  by_cases hmem : item ∈ items
  · rw [if_pos (by simpa using hmem), Phase.searched, if_pos hmem]
    exact adheres_throw rfl
  · rw [if_neg (by simpa using hmem), Phase.searched, if_neg hmem]
    exact adheres_throw ⟨error, rfl⟩

theorem keeping_reconcile (error : ServiceError) :
    Keeping (.create store recipient secret)
      (reconcileAfterCreateError (entryKey store recipient) secret error) .lost
      (Call.create store recipient secret).Promises := by
  refine keeping_search (.create store recipient secret) trivial (fun _ => trivial) ?_
  intro items
  match items with
  | [] => exact adheres_throw trivial
  | [item] => exact keeping_read trivial (fun _ => trivial) fun _ => trivial
  | _ :: _ :: _ => exact adheres_throw trivial

theorem keeping_createNew :
    Keeping (.create store recipient secret) (createNew (entryKey store recipient) secret) .absent
      (Call.create store recipient secret).Promises := by
  refine adheres_ask_bind ⟨rfl, rfl⟩ fun reply => ?_
  cases reply with
  | error error => exact keeping_reconcile error
  | ok created =>
      refine adheres_ask_bind trivial fun reply => ?_
      cases reply with
      | error error => exact keeping_cleanup _
      | ok readBack =>
          change Keeping _ (if (!binaryMatches readBack secret) = true then _ else _) (.made created) _
          split
          · exact keeping_cleanup _
          · refine adheres_ask_bind rfl fun reply => ?_
            cases reply with
            | error error => exact keeping_cleanup _
            | ok inventory =>
                change Keeping _ (if (inventory.length == 1 && inventory.head? == some created) = true
                  then _ else _) (Phase.searched inventory (.made created)) _
                have hsole : (inventory.length == 1 && inventory.head? == some created) = true ↔
                    inventory = [created] := by
                  match inventory with
                  | [] => simp
                  | [_] => simp
                  | _ :: _ :: _ => simp
                by_cases h : inventory = [created]
                · rw [if_pos (hsole.mpr h), Phase.searched, if_pos h]
                  exact adheres_pure rfl
                · rw [if_neg (fun h' => h (hsole.mp h')), Phase.searched, if_neg h]
                  exact keeping_cleanup _

theorem keeping_create :
    Keeping (.create store recipient secret) (create store recipient secret) .looking
      (Call.create store recipient secret).Promises := by
  refine keeping_open (fun error => ⟨error, rfl⟩) ?_
  refine keeping_search (.create store recipient secret) rfl (fun _ => ⟨_, rfl⟩) ?_
  intro items
  match items with
  | [] => exact keeping_createNew
  | [item] => exact keeping_read rfl (fun _ => ⟨_, rfl⟩) fun _ => rfl
  | _ :: _ :: _ => exact adheres_throw ⟨_, rfl⟩

theorem keeping_load :
    Keeping (.load store recipient) (load store recipient) .looking
      (Call.load store recipient).Promises := by
  refine keeping_open (fun error => ⟨error, rfl⟩) ?_
  refine keeping_search (.load store recipient) rfl (fun _ => ⟨_, rfl⟩) ?_
  intro items
  match items with
  | [] => exact adheres_throw ⟨_, rfl⟩
  | [item] => exact keeping_read rfl (fun _ => ⟨_, rfl⟩) fun _ => rfl
  | _ :: _ :: _ => exact adheres_throw ⟨_, rfl⟩

end Create

/-- Every call asks only what its phase permits, and returns what it promises. -/
theorem Call.adheres (call : Call) :
    Adheres Phase.next call.permits .looking call.program call.Promises := by
  cases call with
  | create store recipient secret => exact keeping_create
  | load store recipient => exact keeping_load

/-! ## Turns -/

/-- **`Turn fails call s phase s' phase'`** — what one request of a call may do to the items; only
where the service `fails` is the effect of a creation or a deletion in doubt. -/
inductive Turn (fails : Prop) (call : Call) (s : Collection) :
    Phase → Collection → Phase → Prop
  | stay (phase : Phase) : Turn fails call s phase s phase
  | miss : (s.filter call.key.selects).Vacant → Turn fails call s .looking s .absent
  | find (item : ItemPath) :
      (s.filter call.key.selects).Lists [item] → Turn fails call s .looking s (.found item)
  | see (item : ItemPath) (e : Item) :
      s item = some e → Turn fails call s (.found item) s (.seen item e.secret)
  | make (item : ItemPath) (e : Item) : call.item = some e → s item = none →
      Turn fails call s .absent (s.insert item e) (.made item)
  | lose : fails → Turn fails call s .absent s .lost
  | loseMade (item : ItemPath) (e : Item) : fails → call.item = some e → s item = none →
      Turn fails call s .absent (s.insert item e) .lost
  | confirm (item : ItemPath) :
      (s.filter call.key.selects).Lists [item] → Turn fails call s (.made item) s (.confirmed item)
  | keep (item : ItemPath) : fails → Turn fails call s (.made item) s (.left item)
  | delete (item : ItemPath) : Turn fails call s (.made item) (s.erase item) (.left item)
  | clear (item : ItemPath) :
      s.filter call.key.selects item = none → Turn fails call s (.left item) s .gone

section Turns

variable {fails : Prop} {call : Call} {s s' : Collection} {phase : Phase}

/-- A search that was accurate. -/
theorem turn_of_search {items : List ItemPath}
    (hlists : (s.filter call.key.selects).Lists items) :
    Turn fails call s phase s (phase.searched items) := by
  cases phase with
  | looking =>
      match items, hlists with
      | [], hlists => exact .miss (Inventory.lists_nil_iff.mp hlists)
      | [item], hlists => exact .find item hlists
      | _ :: _ :: _, _ => exact .stay _
  | made item =>
      rw [Phase.searched]
      split
      · rename_i h
        rw [h] at hlists
        exact .confirm item hlists
      · exact .stay _
  | left item =>
      rw [Phase.searched]
      split
      · exact .stay _
      · rename_i h
        refine .clear item ?_
        by_contra hitem
        exact h ((hlists.mem item).mpr hitem)
  | absent | found | seen | confirmed | gone | lost => exact .stay _

/-- **One request is one turn.** -/
theorem turn_of_step {query : Request} {reply : secretService.Reply query}
    (hpermits : call.permits phase query) (hstep : Step s ⟨query, reply⟩ s')
    (hcertain : fails ∨ Serves s ⟨query, reply⟩ s') :
    Turn fails call s phase s' (phase.next ⟨query, reply⟩) := by
  cases query with
  | connect | getDefaultCollection | isLocked | unlock | ensureUnlocked =>
      obtain rfl : s' = s := hstep
      exact .stay phase
  | searchItems attributes =>
      obtain ⟨rfl, hlists⟩ := hstep
      cases reply with
      | error error => exact .stay phase
      | ok items =>
          have hfound := hlists items rfl
          change Turn fails call s' phase s' (phase.searched items)
          cases phase with
          | looking | made | left =>
              obtain rfl : attributes = call.key.attributes := hpermits
              exact turn_of_search hfound
          | absent | found | seen | confirmed | gone => exact absurd hpermits id
          | lost => exact .stay _
  | getSecret item =>
      obtain ⟨rfl, hread⟩ := hstep
      cases reply with
      | error error => exact .stay phase
      | ok bytes =>
          change Turn fails call s' phase s' (phase.read bytes)
          cases phase with
          | found item' =>
              obtain rfl : item = item' := hpermits
              obtain ⟨e, hitem, rfl⟩ := hread bytes rfl
              exact .see item e hitem
          | made | lost => exact .stay _
          | looking | absent | seen | confirmed | left | gone => exact absurd hpermits id
  | createItem label attributes secret replace contentType =>
      cases phase with
      | absent =>
          obtain ⟨hreplace, hitem⟩ := hpermits
          have hmade := hstep hreplace
          cases reply with
          | ok created =>
              obtain ⟨hfree, rfl⟩ := hmade
              exact .make created _ hitem hfree
          | error error =>
              have hfails : fails := by
                rcases hcertain with hfails | hserves
                · exact hfails
                · obtain ⟨item, hreply, -⟩ := hserves hreplace
                  cases hreply
              rcases hmade with rfl | ⟨created, hfree, rfl⟩
              · exact .lose hfails
              · exact .loseMade created _ hfails hitem hfree
      | looking | found | seen | made | confirmed | left | gone | lost =>
          exact absurd hpermits id
  | delete item =>
      cases phase with
      | made item' =>
          obtain rfl : item = item' := hpermits
          rcases hcertain with hfails | ⟨-, rfl⟩
          · rcases hstep with rfl | rfl
            · exact .keep item hfails
            · exact .delete item
          · exact .delete item
      | looking | absent | found | seen | confirmed | left | gone | lost =>
          exact absurd hpermits id

end Turns

/-! ## Every item is accounted for -/

/-- An item with the entry of the call may be there because of it. -/
def Phase.Claims (fails : Prop) (phase : Phase) (item : ItemPath) : Prop :=
  phase.Owns item ∨ fails ∧ (phase = .left item ∨ phase = .lost)

/-- **`Accounts fails calls before s g`** — the items `before` the calls are all there, each new one
is of one of the calls, and of the calls for one key at most one is confirmed. -/
structure Accounts {ι : Type} (fails : Prop) (calls : ι → Call) (before s : Collection)
    (g : ι → Phase) : Prop where
  kept : ∀ item e, before item = some e → s item = some e
  owned : ∀ i item, (g i).Owns item →
    before item = none ∧ ∃ e, (calls i).item = some e ∧ s item = some e
  apart : ∀ i j item, (g i).Owns item → (g j).Owns item → i = j
  traced : ∀ item e, s item = some e →
    before item = some e ∨ ∃ i, (calls i).item = some e ∧ (g i).Claims fails item
  alone : ∀ i item, g i = .confirmed item → (before.filter (calls i).key.selects).Vacant
  first : ∀ i j item item', g i = .confirmed item → g j = .confirmed item' →
    (calls i).key = (calls j).key → i = j

@[simp] theorem Phase.owns_made {item item' : ItemPath} :
    (Phase.made item).Owns item' ↔ item = item' := by
  simp [Owns]

@[simp] theorem Phase.owns_confirmed {item item' : ItemPath} :
    (Phase.confirmed item).Owns item' ↔ item = item' := by
  simp [Owns]

/-- The item of a call has its key. -/
theorem Call.selects_of_item {call : Call} {e : Item} (h : call.item = some e) :
    call.key.selects e = true := by
  cases call with
  | create store recipient secret =>
      cases h
      exact selects_item _ _
  | load store recipient => cases h

section Accounts

variable {ι : Type} [DecidableEq ι] {fails : Prop} {calls : ι → Call}
  {before s s' : Collection} {g : ι → Phase} {i : ι} {phase : Phase} {item : ItemPath} {e : Item}

/-- What a turn has to show: it leaves the items of the others, and accounts for its own. -/
theorem Accounts.step (h : Accounts fails calls before s g)
    (hkept : ∀ item e, before item = some e → s' item = some e)
    (howned : ∀ item, phase.Owns item → before item = none ∧
      (∃ e, (calls i).item = some e ∧ s' item = some e) ∧ ∀ j, j ≠ i → ¬ (g j).Owns item)
    (hothers : ∀ j item, j ≠ i → (g j).Owns item → s' item = s item)
    (htraced : ∀ item e, s' item = some e →
      (calls i).item = some e ∧ phase.Claims fails item ∨ s item = some e ∧
        ((calls i).item = some e → (g i).Claims fails item → phase.Claims fails item))
    (hconfirmed : ∀ item, phase = .confirmed item →
      g i = .confirmed item ∨ (before.filter (calls i).key.selects).Vacant ∧
        ∀ j item', j ≠ i → g j = .confirmed item' → (calls i).key ≠ (calls j).key) :
    Accounts fails calls before s' (Function.update g i phase) where
  kept := hkept
  owned j item hj := by
    by_cases hji : j = i
    · subst hji
      rw [Function.update_self] at hj
      obtain ⟨hnew, hitem, -⟩ := howned item hj
      exact ⟨hnew, hitem⟩
    · rw [Function.update_of_ne hji] at hj
      obtain ⟨hnew, e, hentry, hitem⟩ := h.owned j item hj
      refine ⟨hnew, e, hentry, ?_⟩
      rw [hothers j item hji hj]
      exact hitem
  apart j k item hj hk := by
    by_cases hji : j = i
    · by_cases hki : k = i
      · rw [hji, hki]
      · subst hji
        rw [Function.update_self] at hj
        rw [Function.update_of_ne hki] at hk
        exact absurd hk ((howned item hj).2.2 k hki)
    · rw [Function.update_of_ne hji] at hj
      by_cases hki : k = i
      · subst hki
        rw [Function.update_self] at hk
        exact absurd hj ((howned item hk).2.2 j hji)
      · rw [Function.update_of_ne hki] at hk
        exact h.apart j k item hj hk
  traced item e hitem := by
    rcases htraced item e hitem with hnow | ⟨hthere, hstill⟩
    · refine .inr ⟨i, ?_⟩
      rw [Function.update_self]
      exact hnow
    · rcases h.traced item e hthere with hbefore | ⟨j, hentry, hclaims⟩
      · exact .inl hbefore
      · refine .inr ⟨j, hentry, ?_⟩
        by_cases hji : j = i
        · subst hji
          rw [Function.update_self]
          exact hstill hentry hclaims
        · rw [Function.update_of_ne hji]
          exact hclaims
  alone j item hj := by
    by_cases hji : j = i
    · subst hji
      rw [Function.update_self] at hj
      rcases hconfirmed item hj with hwas | ⟨hvacant, -⟩
      · exact h.alone j item hwas
      · exact hvacant
    · rw [Function.update_of_ne hji] at hj
      exact h.alone j item hj
  first j k item item' hj hk hkey := by
    by_cases hji : j = i
    · by_cases hki : k = i
      · rw [hji, hki]
      · subst hji
        rw [Function.update_self] at hj
        rw [Function.update_of_ne hki] at hk
        rcases hconfirmed item hj with hwas | ⟨-, hfirst⟩
        · exact h.first j k item item' hwas hk hkey
        · exact absurd hkey (hfirst k item' hki hk)
    · rw [Function.update_of_ne hji] at hj
      by_cases hki : k = i
      · subst hki
        rw [Function.update_self] at hk
        rcases hconfirmed item' hk with hwas | ⟨-, hfirst⟩
        · exact h.first j k item item' hj hwas hkey
        · exact absurd hkey.symm (hfirst j item hji hj)
      · rw [Function.update_of_ne hki] at hk
        exact h.first j k item item' hj hk hkey

/-- A call that has nothing to account for, before and after. -/
theorem Accounts.quiet (h : Accounts fails calls before s g)
    (hnow : ∀ item, ¬ phase.Owns item)
    (hpast : ∀ item e, s item = some e → (calls i).item = some e → (g i).Claims fails item →
      phase.Claims fails item) :
    Accounts fails calls before s (Function.update g i phase) := by
  refine h.step h.kept (fun item hitem => absurd hitem (hnow item)) (fun _ _ _ _ => rfl) ?_ ?_
  · exact fun item e hitem => .inr ⟨hitem, hpast item e hitem⟩
  · rintro item rfl
    exact absurd (Phase.owns_confirmed.mpr rfl) (hnow item)

/-- A new item, which is the call's to account for. -/
theorem Accounts.insert (h : Accounts fails calls before s g) (hentry : (calls i).item = some e)
    (hfree : s item = none) (hclaims : phase.Claims fails item)
    (hpast : ∀ item, ¬ (g i).Claims fails item)
    (hnow : ∀ item', phase.Owns item' → item' = item)
    (hconfirmed : ∀ item, phase ≠ .confirmed item) :
    Accounts fails calls before (s.insert item e) (Function.update g i phase) := by
  have hnew : before item = none := by
    by_contra hbefore
    obtain ⟨e', he'⟩ := Option.ne_none_iff_exists'.mp hbefore
    rw [h.kept item e' he'] at hfree
    cases hfree
  have hunowned : ∀ j, ¬ (g j).Owns item := by
    intro j hj
    obtain ⟨-, e', -, hthere⟩ := h.owned j item hj
    rw [hthere] at hfree
    cases hfree
  refine h.step (fun item' e' he' => ?_) (fun item' howns => ?_) (fun j item' _ hj => ?_)
    (fun item' e' he' => ?_) fun item' hphase => absurd hphase (hconfirmed item')
  · exact Inventory.insert_kept hfree (h.kept item' e' he')
  · rw [hnow item' howns]
    exact ⟨hnew, ⟨e, hentry, Inventory.insert_self⟩, fun j _ => hunowned j⟩
  · refine Inventory.insert_of_ne ?_
    rintro rfl
    exact hunowned j hj
  · by_cases hsame : item' = item
    · subst hsame
      rw [Inventory.insert_self] at he'
      cases he'
      exact .inl ⟨hentry, hclaims⟩
    · rw [Inventory.insert_of_ne hsame] at he'
      exact .inr ⟨he', fun _ hwas => absurd hwas (hpast item')⟩

/-- The call gives up its item, which may stay if the service fails. -/
theorem Accounts.leave (h : Accounts fails calls before s g) (hphase : g i = .made item)
    (hs : s' = s.erase item ∨ fails ∧ s' = s) :
    Accounts fails calls before s' (Function.update g i (.left item)) := by
  have howns : (g i).Owns item := by
    rw [hphase]
    exact Phase.owns_made.mpr rfl
  have hrest : ∀ item', item' ≠ item → s' item' = s item' := by
    intro item' hne
    rcases hs with rfl | ⟨-, rfl⟩
    · exact Inventory.erase_of_ne hne
    · rfl
  refine h.step (fun item' e' he' => ?_) (fun item' howns' => ?_) (fun j item' hji hj => ?_)
    (fun item' e' he' => ?_) fun item' hleft => by cases hleft
  · rw [hrest item']
    · exact h.kept item' e' he'
    · rintro rfl
      rw [(h.owned i item' howns).1] at he'
      cases he'
  · simp [Phase.Owns] at howns'
  · refine hrest item' ?_
    rintro rfl
    exact hji (h.apart j i item' hj howns)
  · by_cases hsame : item' = item
    · subst hsame
      rcases hs with rfl | ⟨hfails, rfl⟩
      · rw [Inventory.erase_self] at he'
        cases he'
      · exact .inr ⟨he', fun _ _ => .inr ⟨hfails, .inl rfl⟩⟩
    · rw [hrest item' hsame] at he'
      refine .inr ⟨he', fun _ hclaims => ?_⟩
      rw [hphase] at hclaims
      rcases hclaims with howns' | ⟨-, hleft | hlost⟩
      · exact absurd (Phase.owns_made.mp howns').symm hsame
      · cases hleft
      · cases hlost

/-- The item is the only one of its key, so no other call has it. -/
theorem Accounts.confirm (h : Accounts fails calls before s g) (hphase : g i = .made item)
    (hlists : (s.filter (calls i).key.selects).Lists [item]) :
    Accounts fails calls before s (Function.update g i (.confirmed item)) := by
  have howns : (g i).Owns item := by
    rw [hphase]
    exact Phase.owns_made.mpr rfl
  obtain ⟨hnew, e, hentry, hitem⟩ := h.owned i item howns
  have honly : ∀ item' e', s item' = some e' → (calls i).key.selects e' = true → item' = item := by
    intro item' e' he' hselects
    refine List.mem_singleton.mp ((hlists.mem item').mpr ?_)
    rw [Inventory.filter_eq_some.mpr ⟨he', hselects⟩]
    simp
  refine h.step h.kept (fun item' howns' => ?_) (fun _ _ _ _ => rfl) (fun item' e' he' => ?_)
    fun item' _ => .inr ⟨?_, ?_⟩
  · obtain rfl := Phase.owns_confirmed.mp howns'
    exact ⟨hnew, ⟨e, hentry, hitem⟩, fun j hji hj => hji (h.apart j i item hj howns)⟩
  · refine .inr ⟨he', fun _ hclaims => .inl ?_⟩
    rw [hphase] at hclaims
    rcases hclaims with howns' | ⟨-, hleft | hlost⟩
    · exact Phase.owns_confirmed.mpr (Phase.owns_made.mp howns')
    · cases hleft
    · cases hlost
  · intro item'
    rw [Inventory.filter_eq_none]
    intro e' he'
    by_contra hselects
    rw [honly item' e' (h.kept item' e' he') (by simpa using hselects), hnew] at he'
    cases he'
  · intro j item' hji hj hkey
    have hjowns : (g j).Owns item' := by
      rw [hj]
      exact Phase.owns_confirmed.mpr rfl
    obtain ⟨-, e', hentry', hitem'⟩ := h.owned j item' hjowns
    have hselects := Call.selects_of_item hentry'
    rw [← hkey] at hselects
    obtain rfl := honly item' e' hitem' hselects
    exact hji (h.apart j i item' hjowns howns)

/-- **Every turn keeps the account.** -/
theorem Accounts.turn (h : Accounts fails calls before s g)
    (hturn : Turn fails (calls i) s (g i) s' phase) :
    Accounts fails calls before s' (Function.update g i phase) := by
  generalize hphase : g i = past at hturn
  cases hturn with
  | stay =>
      rw [← hphase, Function.update_eq_self]
      exact h
  | miss | find | see =>
      refine h.quiet (by simp [Phase.Owns]) fun item e _ _ hclaims => ?_
      rw [hphase] at hclaims
      simp [Phase.Claims, Phase.Owns] at hclaims
  | make item e hentry hfree =>
      refine h.insert hentry hfree (.inl (Phase.owns_made.mpr rfl)) (fun item' hclaims => ?_)
        (fun item' howns => (Phase.owns_made.mp howns).symm) (by simp)
      rw [hphase] at hclaims
      simp [Phase.Claims, Phase.Owns] at hclaims
  | lose hfails =>
      exact h.quiet (by simp [Phase.Owns]) fun item e _ _ _ => .inr ⟨hfails, .inr rfl⟩
  | loseMade item e hfails hentry hfree =>
      refine h.insert hentry hfree (.inr ⟨hfails, .inr rfl⟩) (fun item' hclaims => ?_)
        (by simp [Phase.Owns]) (by simp)
      rw [hphase] at hclaims
      simp [Phase.Claims, Phase.Owns] at hclaims
  | confirm item hlists => exact h.confirm hphase hlists
  | keep item hfails => exact h.leave hphase (.inr ⟨hfails, rfl⟩)
  | delete item => exact h.leave hphase (.inl rfl)
  | clear item hcleared =>
      refine h.quiet (by simp [Phase.Owns]) fun item' e he hentry hclaims => ?_
      rw [hphase] at hclaims
      -- an item of the call would have shown
      simp only [Phase.Claims, Phase.Owns, reduceCtorEq, or_self, false_or, or_false,
        Phase.left.injEq] at hclaims
      obtain ⟨-, rfl⟩ := hclaims
      rw [Inventory.filter_eq_some.mpr ⟨he, Call.selects_of_item hentry⟩] at hcleared
      cases hcleared

end Accounts

/-! ## Schedules -/

/-- `create_item` has returned an item. -/
def Phase.Acknowledged : Phase → Prop
  | made _ | confirmed _ | left _ | gone => True
  | _ => False

section Schedules

variable {ι : Type} [DecidableEq ι] {fails : Prop} {calls : ι → Call} {s s' : Collection}
  {h : Schedule ι secretService} {pool : Pool secretService fun i => Result (calls i).Value}
  {i : ι}

/-- How far each call has come. -/
def progress (h : Schedule ι secretService) : ι → Phase :=
  phases (fun _ => Phase.next) (fun _ => .looking) h

omit [DecidableEq ι] in
theorem accounts_start (fails : Prop) (calls : ι → Call) (s : Collection) :
    Accounts fails calls s s fun _ => .looking where
  kept _ _ h := h
  owned _ _ h := by simp [Phase.Owns] at h
  apart _ _ _ h := by simp [Phase.Owns] at h
  traced _ _ h := .inl h
  alone _ _ h := by cases h
  first _ _ _ _ h := by cases h

omit [DecidableEq ι] in
/-- The calls follow their phases from the start. -/
theorem adheres_all (calls : ι → Call) (i : ι) :
    Adheres Phase.next (calls i).permits .looking (calls i).program (calls i).Promises :=
  (calls i).adheres

theorem accounts_of_interleaves
    (hrun : Interleaves Step (fun i => (calls i).program) s h pool s') :
    Accounts True calls s s' (progress h) := by
  refine (hrun.invariant ?_ (obeys_true _ h) (accounts_start True calls s) (adheres_all calls)).1
  intro s g i query reply s' haccounts hpermits _ hstep
  exact haccounts.turn (turn_of_step hpermits hstep (.inl trivial))

/-- A call that has returned keeps its promise. -/
theorem promises_of_interleaves
    (hrun : Interleaves Step (fun i => (calls i).program) s h pool s')
    {r : Result (calls i).Value} (hdone : pool i = .ret r) :
    (calls i).Promises (progress h i) r := by
  refine hrun.returned (I := fun _ _ => True) ?_ (obeys_true _ h) trivial (adheres_all calls) hdone
  exact fun _ _ _ _ _ _ _ _ _ _ => trivial

omit [DecidableEq ι] in
/-- A creation that is acknowledged and succeeds is confirmed. -/
theorem confirmed_of_ok {call : Call} {phase : Phase} {v : call.Value}
    (hpromises : call.Promises phase (.ok v)) (hacknowledged : phase.Acknowledged) :
    ∃ item, phase = .confirmed item := by
  cases call with
  | create store recipient secret =>
      cases phase with
      | confirmed item => exact ⟨item, rfl⟩
      | made item => exact hpromises.elim
      | left item => cases hpromises
      | gone =>
          obtain ⟨error, herror⟩ := hpromises
          cases herror
      | looking | absent | found | seen | lost => exact hacknowledged.elim
  | load store recipient =>
      cases phase with
      | made | confirmed | left | gone => exact hpromises.elim
      | looking | absent | found | seen | lost => exact hacknowledged.elim

omit [DecidableEq ι] in
/-- A call that may still answer for an item has not failed for certain. -/
theorem uncertain_of_claims {call : Call} {phase : Phase} {item : ItemPath}
    {r : Result call.Value} (hpromises : call.Promises phase r)
    (hclaims : phase.Claims fails item) :
    (∃ v, r = .ok v) ∨ r = .error .stateUncertain ∨ phase = .lost := by
  cases call with
  | create store recipient secret =>
      rcases hclaims with (rfl | rfl) | ⟨-, rfl | rfl⟩
      · exact hpromises.elim
      · exact .inl ⟨(), hpromises⟩
      · exact .inr (.inl hpromises)
      · exact .inr (.inr rfl)
  | load store recipient =>
      rcases hclaims with (rfl | rfl) | ⟨-, rfl | rfl⟩ <;> exact hpromises.elim

/-- **Concurrent creations and loads**, whatever fails: nothing that was there is lost or changed; of
the calls for one key whose `create_item` is acknowledged at most one succeeds, there was no entry
before it, and its own item stays; and an item that was not there is of a call that has not returned,
has succeeded, or reports that the state is uncertain, but for a call whose `create_item` failed. -/
theorem creations_account
    (hrun : Interleaves Step (fun i => (calls i).program) s h pool s') :
    (∀ item e, s item = some e → s' item = some e) ∧
    (∀ i j v w, pool i = .ret (.ok v) → pool j = .ret (.ok w) →
      (progress h i).Acknowledged → (progress h j).Acknowledged →
      (calls i).key = (calls j).key → i = j) ∧
    (∀ i v, pool i = .ret (.ok v) → (progress h i).Acknowledged →
      (s.filter (calls i).key.selects).Vacant ∧
        ∃ item e, (calls i).item = some e ∧ s' item = some e) ∧
    ∀ item e, s' item = some e → s item = some e ∨
      ∃ i, (calls i).item = some e ∧ ∀ r, pool i = .ret r →
        (∃ v, r = .ok v) ∨ r = .error .stateUncertain ∨ progress h i = .lost := by
  have haccounts := accounts_of_interleaves hrun
  have hconfirmed : ∀ i v, pool i = .ret (.ok v) → (progress h i).Acknowledged →
      ∃ item, progress h i = .confirmed item :=
    fun i v hdone => confirmed_of_ok (promises_of_interleaves hrun hdone)
  refine ⟨haccounts.kept, ?_, ?_, ?_⟩
  · intro i j v w hi hj hacki hackj hkey
    obtain ⟨item, hphase⟩ := hconfirmed i v hi hacki
    obtain ⟨item', hphase'⟩ := hconfirmed j w hj hackj
    exact haccounts.first i j item item' hphase hphase' hkey
  · intro i v hi hack
    obtain ⟨item, hphase⟩ := hconfirmed i v hi hack
    have howns : (progress h i).Owns item := .inr hphase
    obtain ⟨-, e, hentry, hitem⟩ := haccounts.owned i item howns
    exact ⟨haccounts.alone i item hphase, item, e, hentry, hitem⟩
  · intro item e hitem
    refine (haccounts.traced item e hitem).imp_right ?_
    rintro ⟨i, hentry, hclaims⟩
    exact ⟨i, hentry, fun r hdone =>
      uncertain_of_claims (promises_of_interleaves hrun hdone) hclaims⟩

end Schedules

def contended : NativeLocalSecretStore := ⟨⟨"linux.example", by decide⟩⟩

/-- Two creations of different secrets for one key, and a load. -/
def competing (i : Fin 3) : Call :=
  let recipient : RecipientId := ⟨Bytes.zero 32⟩
  match i with
  | 0 => .create contended recipient ⟨Bytes.ofNat 32 1⟩
  | 1 => .create contended recipient ⟨Bytes.ofNat 32 2⟩
  | 2 => .load contended recipient

theorem creations_account_competing :
    ∃ h pool s', Interleaves Step (fun i => (competing i).program) .empty h pool s' ∧
      (∀ i, ∃ r, pool i = .ret r) ∧
      (∀ item e, Inventory.empty item = some e → s' item = some e) ∧
      (∀ i j v w, pool i = .ret (.ok v) → pool j = .ret (.ok w) →
        (progress h i).Acknowledged → (progress h j).Acknowledged →
        (competing i).key = (competing j).key → i = j) ∧
      (∀ i v, pool i = .ret (.ok v) → (progress h i).Acknowledged →
        ((.empty : Collection).filter (competing i).key.selects).Vacant ∧
          ∃ item e, (competing i).item = some e ∧ s' item = some e) ∧
      ∀ item e, s' item = some e → Inventory.empty item = some e ∨
        ∃ i, (competing i).item = some e ∧ ∀ r, pool i = .ret r →
          (∃ v, r = .ok v) ∨ r = .error .stateUncertain ∨ progress h i = .lost := by
  obtain ⟨h, pool, s', hrun, -, hdone⟩ :=
    exists_sequential (s := Inventory.empty) (R := fun _ => True) (D := fun _ _ _ => True)
      exists_serves (fun _ _ _ _ => trivial) (fun _ _ _ _ => trivial) [0, 1, 2]
      (adheres_all competing) fun _ => trivial
  have hall : ∀ i, ∃ r, pool i = .ret r := fun i => hdone i (by fin_cases i <;> simp)
  have hsteps := hrun.mono fun _ _ _ => Serves.step
  exact ⟨h, pool, s', hsteps, hall, creations_account hsteps⟩

end FidoKeyWrap.Platform.Linux
