/-
# FidoKeyWrap.Platform.LinuxAgreement — when concurrent calls agree on one secret.

A call that finds an item takes it as it is, also while the call that created it may still delete it.
`Finished` is the condition on a schedule that this does not happen: a first search shows one item
only if no call is between the creation and the confirmation of it. In a service without failures
all creations and loads for one key that succeed then agree on one secret, and once all have returned
the collection holds it in one item.
-/
import FidoKeyWrap.Platform.LinuxThreads

namespace FidoKeyWrap.Platform.Linux

open ByteData Interact Fallible

/-! ## What a call found stays -/

/-- Only items with the key of a call are selected by it. -/
theorem Call.key_eq_of_selects {call call' : Call} {e : Item} (hentry : call'.item = some e)
    (hselects : call.key.selects e = true) : call.key = call'.key := by
  cases call' with
  | create store recipient secret =>
      cases hentry
      generalize call.key = key at hselects
      simp only [EntryKey.selects, EntryKey.item, Item.matches, EntryKey.attributes, entryKey,
        List.all_cons, List.all_nil, Bool.and_true, Bool.and_eq_true, beq_iff_eq] at hselects
      obtain ⟨-, happlication, hrecipient⟩ := hselects
      obtain ⟨application, recipient'⟩ := key
      obtain rfl : store.application.asStr = application := Option.some.inj happlication
      obtain rfl : recipientName recipient = recipient' := Option.some.inj hrecipient
      rfl
  | load store recipient => cases hentry

/-- The secret that a call reports to be stored. -/
def Call.reports : (call : Call) → Result call.Value → Option LocalSecret
  | .create _ _ secret, .ok () => some secret
  | .load .., .ok secret => some secret
  | _, .error _ => none

/-- **`Anchored calls before g item e`** — the item was there before, or its creation was confirmed:
no call will delete it. -/
def Anchored {ι : Type} (calls : ι → Call) (before : Collection) (g : ι → Phase) (item : ItemPath)
    (e : Item) : Prop :=
  before item = some e ∨ ∃ i, g i = .confirmed item ∧ (calls i).item = some e

/-- **`Finding calls before g i item e`** — what a call knows of an item that it found. -/
structure Finding {ι : Type} (calls : ι → Call) (before : Collection) (g : ι → Phase) (i : ι)
    (item : ItemPath) (e : Item) : Prop where
  anchored : Anchored calls before g item e
  selected : (calls i).key.selects e = true
  seen : ∀ secret, g i = .seen item secret → secret = e.secret
  sole : ∀ item' e', before item' = some e' → (calls i).key.selects e' = true → item' = item

/-- **`Settled calls before g`** — no creation is in doubt, and what a call found stays. -/
structure Settled {ι : Type} (calls : ι → Call) (before : Collection) (g : ι → Phase) : Prop where
  acknowledged : ∀ i, g i ≠ .lost
  finds : ∀ i item, (g i).Reads item → ∃ e, Finding calls before g i item e

/-- **`Finished g i event`** — if the first search of a call shows one item, then no call is between
the creation and the confirmation of it. -/
def Finished {ι : Type} (g : ι → Phase) (i : ι) (event : Event secretService) : Prop :=
  ∀ item, g i = .looking → (g i).next event = .found item → ∀ j, g j ≠ .made item

section Settled

variable {ι : Type} {fails : Prop} {calls : ι → Call}
  {before s s' : Collection} {g : ι → Phase} {i : ι} {phase : Phase} {item : ItemPath} {e : Item}

/-- An anchored item is there. -/
theorem Accounts.holds (h : Accounts fails calls before s g)
    (hanchored : Anchored calls before g item e) : s item = some e := by
  rcases hanchored with hbefore | ⟨i, hphase, hentry⟩
  · exact h.kept item e hbefore
  · have howns : (g i).Owns item := by
      rw [hphase]
      exact Phase.owns_confirmed.mpr rfl
    obtain ⟨-, e', hentry', hitem⟩ := h.owned i item howns
    rw [hentry] at hentry'
    cases hentry'
    exact hitem

/-- A confirmed call is done. -/
theorem Turn.of_confirmed (h : Turn fails (calls i) s (.confirmed item) s' phase) :
    phase = .confirmed item := by
  cases h
  rfl

/-- Without failures an item is anchored, or in the making. -/
theorem Accounts.anchored (h : Accounts False calls before s g) (hitem : s item = some e)
    (hmade : ∀ i, g i ≠ .made item) : Anchored calls before g item e := by
  refine (h.traced item e hitem).imp_right ?_
  rintro ⟨i, hentry, (hphase | hphase) | ⟨hfalse, -⟩⟩
  · exact absurd hphase (hmade i)
  · exact ⟨i, hphase, hentry⟩
  · exact hfalse.elim

/-- Anchored items of one key are one, where one of the calls stands for it. -/
theorem Accounts.anchored_unique (h : Accounts fails calls before s g) {item' : ItemPath} {e' : Item}
    (hanchored : Anchored calls before g item e) (hselects : (calls i).key.selects e = true)
    (hsole : ∀ item' e', before item' = some e' → (calls i).key.selects e' = true → item' = item)
    (hanchored' : Anchored calls before g item' e') (hselects' : (calls i).key.selects e' = true) :
    item' = item := by
  rcases hanchored' with hbefore' | ⟨j, hj, hentry'⟩
  · exact hsole item' e' hbefore' hselects'
  · have hjkey := Call.key_eq_of_selects hentry' hselects'
    rcases hanchored with hbefore | ⟨k, hk, hentry⟩
    · -- an item that was there leaves no call confirmed
      have hnone := Inventory.filter_eq_none.mp (h.alone j item' hj item) e hbefore
      rw [← hjkey, hselects] at hnone
      cases hnone
    · have hkkey := Call.key_eq_of_selects hentry hselects
      obtain rfl := h.first j k item' item hj hk (hjkey.symm.trans hkkey)
      rw [hj] at hk
      exact Phase.confirmed.inj hk

/-- A search that shows one item, none being in the making, shows one that stays. -/
theorem Accounts.found (h : Accounts False calls before s g)
    (hlists : (s.filter (calls i).key.selects).Lists [item]) (hmade : ∀ j, g j ≠ .made item) :
    ∃ e, Anchored calls before g item e ∧ (calls i).key.selects e = true ∧
      ∀ item' e', before item' = some e' → (calls i).key.selects e' = true → item' = item := by
  obtain ⟨e, hsole⟩ := Inventory.lists_singleton_iff.mp hlists
  obtain ⟨hitem, hselects⟩ := Inventory.filter_eq_some.mp hsole.holds
  refine ⟨e, h.anchored hitem hmade, hselects, fun item' e' he' hselects' => hsole.only item' ?_⟩
  rw [Inventory.filter_eq_some.mpr ⟨h.kept item' e' he', hselects'⟩]
  simp

variable [DecidableEq ι]

theorem Anchored.turn (hturn : Turn fails (calls i) s (g i) s' phase)
    (h : Anchored calls before g item e) :
    Anchored calls before (Function.update g i phase) item e := by
  refine h.imp_right ?_
  rintro ⟨j, hphase, hentry⟩
  refine ⟨j, ?_, hentry⟩
  by_cases hji : j = i
  · subst hji
    rw [hphase] at hturn
    rw [Function.update_self]
    exact hturn.of_confirmed
  · rw [Function.update_of_ne hji]
    exact hphase

/-- What a turn has to show of an item that its call reads. -/
theorem Settled.step (h : Settled calls before g)
    (hturn : Turn fails (calls i) s (g i) s' phase) (hlost : phase ≠ .lost)
    (hreads : ∀ item, phase.Reads item → ∃ e, Anchored calls before g item e ∧
      (calls i).key.selects e = true ∧ (∀ secret, phase = .seen item secret → secret = e.secret) ∧
      ∀ item' e', before item' = some e' → (calls i).key.selects e' = true → item' = item) :
    Settled calls before (Function.update g i phase) where
  acknowledged j := by
    by_cases hji : j = i
    · subst hji
      rwa [Function.update_self]
    · rw [Function.update_of_ne hji]
      exact h.acknowledged j
  finds j item hj := by
    by_cases hji : j = i
    · subst hji
      rw [Function.update_self] at hj
      obtain ⟨e, hanchored, hselected, hseen, hsole⟩ := hreads item hj
      refine ⟨e, hanchored.turn hturn, hselected, fun secret hphase => ?_, hsole⟩
      rw [Function.update_self] at hphase
      exact hseen secret hphase
    · rw [Function.update_of_ne hji] at hj
      obtain ⟨e, hfinding⟩ := h.finds j item hj
      refine ⟨e, hfinding.anchored.turn hturn, hfinding.selected, fun secret hphase => ?_,
        hfinding.sole⟩
      rw [Function.update_of_ne hji] at hphase
      exact hfinding.seen secret hphase

/-- **Every turn keeps what is settled**, if no call finds an item in the making. -/
theorem Settled.turn (h : Settled calls before g) (haccounts : Accounts False calls before s g)
    (hturn : Turn False (calls i) s (g i) s' phase)
    (hfinished : ∀ item, g i = .looking → phase = .found item → ∀ j, g j ≠ .made item) :
    Settled calls before (Function.update g i phase) := by
  generalize hphase : g i = past at hturn hfinished
  have hstep := hturn
  rw [← hphase] at hstep
  cases hturn with
  | stay =>
      rw [← hphase, Function.update_eq_self]
      exact h
  | miss | make | confirm | delete | clear =>
      exact h.step hstep (by simp) fun item hreads => by simp [Phase.Reads] at hreads
  | lose hfalse | loseMade _ _ hfalse | keep _ hfalse => exact hfalse.elim
  | find item hlists =>
      refine h.step hstep (by simp) fun item' hreads => ?_
      obtain ⟨e, hanchored, hselects, hsole⟩ :=
        haccounts.found hlists (hfinished item rfl rfl)
      obtain rfl : item = item' := by simpa [Phase.Reads] using hreads
      exact ⟨e, hanchored, hselects, by simp, hsole⟩
  | see item e hitem =>
      refine h.step hstep (by simp) fun item' hreads => ?_
      obtain rfl : item = item' := by simpa [Phase.Reads] using hreads
      obtain ⟨e', hfinding⟩ := h.finds i item (.inl hphase)
      have hholds := haccounts.holds hfinding.anchored
      rw [hitem] at hholds
      cases hholds
      refine ⟨e, hfinding.anchored, hfinding.selected, fun secret hseen => ?_, hfinding.sole⟩
      exact (Phase.seen.inj hseen).2.symm

end Settled

/-! ## Agreement -/

section Agreement

variable {ι : Type} {calls : ι → Call} {before s s' : Collection} {g : ι → Phase} {i : ι}

/-- No call returns between the creation and the confirmation of its item. -/
theorem not_promises_made (call : Call) {item : ItemPath} {r : Result call.Value} :
    ¬ call.Promises (.made item) r := by
  intro hpromises
  cases call <;> exact hpromises

/-- What a call reports is in the one item of its key that stays. -/
theorem anchored_of_reports (haccounts : Accounts False calls before s g)
    (hsettled : Settled calls before g) {r : Result (calls i).Value} {v : LocalSecret}
    (hpromises : (calls i).Promises (g i) r) (hreports : (calls i).reports r = some v) :
    ∃ item e, Anchored calls before g item e ∧ (calls i).key.selects e = true ∧
      e.secret = v.bytes.toList ∧ ∀ item' e', Anchored calls before g item' e' →
        (calls i).key.selects e' = true → item' = item := by
  -- the call has confirmed its own item, or has seen one
  have hends : (∃ item e, g i = .confirmed item ∧ (calls i).item = some e ∧
      e.secret = v.bytes.toList) ∨ ∃ item, g i = .seen item v.bytes.toList := by
    have hlost := hsettled.acknowledged i
    generalize g i = phase at hpromises hlost
    generalize calls i = call at r hpromises hreports
    cases call with
    | create store recipient secret =>
        cases r with
        | error error => cases hreports
        | ok _ =>
            cases hreports
            cases phase with
            | confirmed item => exact .inl ⟨item, _, rfl, rfl, rfl⟩
            | seen item bytes =>
                rw [compareStored_eq_ok.mp hpromises.symm]
                exact .inr ⟨item, rfl⟩
            | left item => cases hpromises
            | absent | made => exact hpromises.elim
            | lost => exact absurd rfl hlost
            | looking | found | gone =>
                obtain ⟨error, herror⟩ := hpromises
                cases herror
    | load store recipient =>
        cases r with
        | error error => cases hreports
        | ok secret =>
            cases hreports
            cases phase with
            | seen item bytes =>
                rw [importBinary_eq_ok.mp hpromises.symm]
                exact .inr ⟨item, rfl⟩
            | looking | found | absent =>
                obtain ⟨error, herror⟩ := hpromises
                cases herror
            | made | confirmed | left | gone | lost => exact hpromises.elim
  rcases hends with ⟨item, e, hphase, hentry, hsecret⟩ | ⟨item, hphase⟩
  · have hanchored : Anchored calls before g item e := .inr ⟨i, hphase, hentry⟩
    have hselects := Call.selects_of_item hentry
    refine ⟨item, e, hanchored, hselects, hsecret, fun item' e' => ?_⟩
    refine haccounts.anchored_unique hanchored hselects fun item' e' hbefore hselects' => ?_
    have hnone := Inventory.filter_eq_none.mp (haccounts.alone i item hphase item') e' hbefore
    rw [hselects'] at hnone
    cases hnone
  · obtain ⟨e, hfinding⟩ := hsettled.finds i item (.inr ⟨_, hphase⟩)
    refine ⟨item, e, hfinding.anchored, hfinding.selected, (hfinding.seen _ hphase).symm, ?_⟩
    exact fun item' e' =>
      haccounts.anchored_unique hfinding.anchored hfinding.selected hfinding.sole

variable [DecidableEq ι] {h : Schedule ι secretService}
  {pool : Pool secretService fun i => Result (calls i).Value}

theorem settled_of_interleaves
    (hrun : Interleaves Serves (fun i => (calls i).program) s h pool s')
    (hfinished : Obeys (fun _ => Phase.next) Finished (fun _ => .looking) h) :
    Accounts False calls s s' (progress h) ∧ Settled calls s (progress h) := by
  have hstart : Settled calls s fun _ => .looking :=
    ⟨fun _ => by simp, fun i item hreads => by simp [Phase.Reads] at hreads⟩
  refine (hrun.invariant (I := fun s' g => Accounts False calls s s' g ∧ Settled calls s g) ?_
    hfinished ⟨accounts_start False calls s, hstart⟩ (adheres_all calls)).1
  rintro s₁ g i query reply s₂ ⟨haccounts, hsettled⟩ hpermits hfinds hstep
  have hturn : Turn False (calls i) s₁ (g i) s₂ ((g i).next ⟨query, reply⟩) :=
    turn_of_step hpermits hstep.step (.inr hstep)
  exact ⟨haccounts.turn hturn, hsettled.turn haccounts hturn hfinds⟩

/-- **Concurrent creations and loads agree**: in a service without failures, if no call finds an
item whose creation another call has not finished, all calls for one key that succeed report one
secret; and when all have returned, the collection holds it in one item. -/
theorem calls_agree (hrun : Interleaves Serves (fun i => (calls i).program) s h pool s')
    (hfinished : Obeys (fun _ => Phase.next) Finished (fun _ => .looking) h) :
    (∀ i j r r' v w, pool i = .ret r → pool j = .ret r' → (calls i).key = (calls j).key →
      (calls i).reports r = some v → (calls j).reports r' = some w → v = w) ∧
    ((∀ i, ∃ r, pool i = .ret r) → ∀ i r v, pool i = .ret r → (calls i).reports r = some v →
      ∃ item e, (s'.filter (calls i).key.selects).Sole item e ∧
        e.secret = v.bytes.toList) := by
  obtain ⟨haccounts, hsettled⟩ := settled_of_interleaves hrun hfinished
  have hpromises : ∀ i r, pool i = .ret r → (calls i).Promises (progress h i) r :=
    fun i r hdone => promises_of_interleaves (hrun.mono fun _ _ _ => Serves.step) hdone
  constructor
  · intro i j r r' v w hi hj hkey hv hw
    obtain ⟨item, e, hanchored, hselects, hsecret, honly⟩ :=
      anchored_of_reports haccounts hsettled (hpromises i r hi) hv
    obtain ⟨item', e', hanchored', hselects', hsecret', -⟩ :=
      anchored_of_reports haccounts hsettled (hpromises j r' hj) hw
    rw [← hkey] at hselects'
    obtain rfl := honly item' e' hanchored' hselects'
    have hitem := haccounts.holds hanchored
    rw [haccounts.holds hanchored'] at hitem
    cases hitem
    exact LocalSecret.ext (Bytes.ext (hsecret.symm.trans hsecret'))
  · intro hdone i r v hi hv
    obtain ⟨item, e, hanchored, hselects, hsecret, honly⟩ :=
      anchored_of_reports haccounts hsettled (hpromises i r hi) hv
    refine ⟨item, e, ⟨?_, fun item' hitem' => ?_⟩, hsecret⟩
    · exact Inventory.filter_eq_some.mpr ⟨haccounts.holds hanchored, hselects⟩
    · obtain ⟨e', he'⟩ := Option.ne_none_iff_exists'.mp hitem'
      obtain ⟨hthere, hselects'⟩ := Inventory.filter_eq_some.mp he'
      refine honly item' e' (haccounts.anchored hthere fun j hmade => ?_) hselects'
      obtain ⟨r', hj⟩ := hdone j
      have hends := hpromises j r' hj
      rw [hmade] at hends
      exact not_promises_made _ hends

end Agreement

/-- Calls one after another find no item in the making. -/
theorem calls_agree_competing :
    ∃ h pool s', Interleaves Serves (fun i => (competing i).program) .empty h pool s' ∧
      (∀ i, ∃ r, pool i = .ret r) ∧
      (∀ i j r r' v w, pool i = .ret r → pool j = .ret r' →
        (competing i).key = (competing j).key → (competing i).reports r = some v →
        (competing j).reports r' = some w → v = w) ∧
      ((∀ i, ∃ r, pool i = .ret r) → ∀ i r v, pool i = .ret r →
        (competing i).reports r = some v →
        ∃ item e, (s'.filter (competing i).key.selects).Sole item e ∧
          e.secret = v.bytes.toList) := by
  let Rest : Phase → Prop := fun phase => ∀ item, phase ≠ .made item
  have halone : ∀ (i : Fin 3) (g : Fin 3 → Phase) event, (∀ j, j ≠ i → Rest (g j)) →
      Finished g i event := by
    intro i g event hrest item hlooking _ j
    by_cases hji : j = i
    · rw [hji, hlooking]
      simp
    · exact hrest j hji item
  obtain ⟨h, pool, s', hrun, hobeys, hdone⟩ :=
    exists_sequential (s := Inventory.empty) exists_serves halone
      (fun i phase r hpromises item hphase =>
        not_promises_made (competing i) (hphase ▸ hpromises))
      [0, 1, 2] (adheres_all competing) fun _ _ => by simp
  have hall : ∀ i, ∃ r, pool i = .ret r := fun i => hdone i (by fin_cases i <;> simp)
  exact ⟨h, pool, s', hrun, hall, calls_agree hrun hobeys⟩

/-! ### Without the condition -/

section Race

def raceKey : EntryKey := entryKey contended ⟨Bytes.zero 32⟩

/-- Two creations of different secrets for one key, and a third that repeats the first. -/
def racing (i : Fin 3) : Call :=
  match i with
  | 0 | 2 => .create contended ⟨Bytes.zero 32⟩ ⟨Bytes.ofNat 32 1⟩
  | 1 => .create contended ⟨Bytes.zero 32⟩ ⟨Bytes.ofNat 32 2⟩

/-- The third call finds the item of the first, which then makes way for that of the second. -/
def race : Schedule (Fin 3) secretService := [
  (0, ⟨.connect .dh, Except.ok ()⟩),
  (0, ⟨.getDefaultCollection, Except.ok ()⟩),
  (0, ⟨.isLocked, Except.ok false⟩),
  (0, ⟨.ensureUnlocked, Except.ok ()⟩),
  (1, ⟨.connect .dh, Except.ok ()⟩),
  (1, ⟨.getDefaultCollection, Except.ok ()⟩),
  (1, ⟨.isLocked, Except.ok false⟩),
  (1, ⟨.ensureUnlocked, Except.ok ()⟩),
  (2, ⟨.connect .dh, Except.ok ()⟩),
  (2, ⟨.getDefaultCollection, Except.ok ()⟩),
  (2, ⟨.isLocked, Except.ok false⟩),
  (2, ⟨.ensureUnlocked, Except.ok ()⟩),
  (0, ⟨.searchItems raceKey.attributes, Except.ok []⟩),
  (1, ⟨.searchItems raceKey.attributes, Except.ok []⟩),
  (0, ⟨.createItem label raceKey.attributes (Bytes.ofNat 32 1).toList false
      "application/octet-stream", Except.ok 0⟩),
  (2, ⟨.searchItems raceKey.attributes, Except.ok [0]⟩),
  (2, ⟨.getSecret 0, Except.ok (Bytes.ofNat 32 1).toList⟩),
  (1, ⟨.createItem label raceKey.attributes (Bytes.ofNat 32 2).toList false
      "application/octet-stream", Except.ok 1⟩),
  (0, ⟨.getSecret 0, Except.ok (Bytes.ofNat 32 1).toList⟩),
  (0, ⟨.searchItems raceKey.attributes, Except.ok [0, 1]⟩),
  (0, ⟨.delete 0, Except.ok ()⟩),
  (0, ⟨.searchItems raceKey.attributes, Except.ok [1]⟩),
  (1, ⟨.getSecret 1, Except.ok (Bytes.ofNat 32 2).toList⟩),
  (1, ⟨.searchItems raceKey.attributes, Except.ok [1]⟩)]

variable {s : Collection} {a b : LocalSecret}

theorem lists_first :
    (((.empty : Collection).insert 0 (raceKey.item a)).filter raceKey.selects).Lists [0] :=
  Inventory.lists_singleton_iff.mpr ⟨_, sole_insert fun _ => rfl⟩

theorem lists_both :
    ((((.empty : Collection).insert 0 (raceKey.item a)).insert 1 (raceKey.item b)).filter
      raceKey.selects).Lists [0, 1] := by
  refine ⟨by decide, fun i => ?_⟩
  rw [Inventory.filter_insert_of_pos (selects_item raceKey b)]
  by_cases hi : i = 1
  · simp [hi]
  · rw [Inventory.insert_of_ne hi, ← lists_first.mem]
    simp [hi]

theorem lists_second :
    (((((.empty : Collection).insert 0 (raceKey.item a)).insert 1 (raceKey.item b)).erase 0).filter
      raceKey.selects).Lists [1] := by
  refine ⟨by decide, fun i => ?_⟩
  rw [Inventory.filter_erase]
  by_cases hi : i = 0
  · simp [hi]
  · rw [Inventory.erase_of_ne hi, ← lists_both.mem]
    simp [hi]

/-- **The condition is needed**: without it two creations for one key succeed with different
secrets. -/
theorem racing_calls_disagree :
    ∃ pool s', Interleaves Serves (fun i => (racing i).program) .empty race pool s' ∧
      (racing 1).key = (racing 2).key ∧ pool 1 = .ret (.ok ()) ∧ pool 2 = .ret (.ok ()) ∧
      (racing 1).reports (.ok ()) ≠ (racing 2).reports (.ok ()) := by
  apply Exists.intro
  apply Exists.intro
  constructor
  · exact
      ⟨_, _, .reply _ _ _, ⟨rfl, rfl⟩,
       _, _, .reply _ _ _, ⟨rfl, rfl⟩,
       _, _, .reply _ _ _, ⟨rfl, _, rfl⟩,
       _, _, .reply _ _ _, ⟨rfl, rfl⟩,
       _, _, .reply _ _ _, ⟨rfl, rfl⟩,
       _, _, .reply _ _ _, ⟨rfl, rfl⟩,
       _, _, .reply _ _ _, ⟨rfl, _, rfl⟩,
       _, _, .reply _ _ _, ⟨rfl, rfl⟩,
       _, _, .reply _ _ _, ⟨rfl, rfl⟩,
       _, _, .reply _ _ _, ⟨rfl, rfl⟩,
       _, _, .reply _ _ _, ⟨rfl, _, rfl⟩,
       _, _, .reply _ _ _, ⟨rfl, rfl⟩,
       _, _, .reply _ _ _, ⟨rfl, _, rfl, Inventory.lists_nil_iff.mpr fun _ => rfl⟩,
       _, _, .reply _ _ _, ⟨rfl, _, rfl, Inventory.lists_nil_iff.mpr fun _ => rfl⟩,
       _, _, .reply _ _ _, fun _ => ⟨_, rfl, rfl, rfl⟩,
       _, _, .reply _ _ _, ⟨rfl, _, rfl, lists_first⟩,
       _, _, .reply _ _ _, ⟨rfl, rfl⟩,
       _, _, .reply _ _ _, fun _ => ⟨_, rfl, rfl, rfl⟩,
       _, _, .reply _ _ _, ⟨rfl, rfl⟩,
       _, _, .reply _ _ _, ⟨rfl, _, rfl, lists_both⟩,
       _, _, .reply _ _ _, ⟨rfl, rfl⟩,
       _, _, .reply _ _ _, ⟨rfl, _, rfl, lists_second⟩,
       _, _, .reply _ _ _, ⟨rfl, rfl⟩,
       _, _, .reply _ _ _, ⟨rfl, _, rfl, lists_second⟩,
       rfl, rfl⟩
  · exact ⟨rfl, rfl, rfl, by decide⟩

end Race

end FidoKeyWrap.Platform.Linux
