/-
# FidoKeyWrap.Native.TouchSelection — what a selection by touch leaves armed.

`selectByTouch` arms the devices one after another and then polls them. Nearly every exit cancels
what it armed: a failed status, an expired deadline while polling, a touch. The exception is the
deadline while arming, where `selectionMilliseconds` returns before anything is cancelled, so the
devices armed until then stay armed. `touch_selection_cancels` says that this is the only one: a
selection meets its promise exactly when the clock is not read past the deadline with some of the
devices armed and some not.
-/
import FidoKeyWrap.Native.Vector

namespace FidoKeyWrap.Native

open ByteData Interact

namespace Touch

/-! ## The events of a selection -/

/-- A reading of the clock. -/
def reading (now : Nat) : Event libfido2 := ⟨.now, now⟩

/-- `fido_dev_get_touch_begin` armed the device. -/
def begins (raw : Handle) : Event libfido2 := ⟨.devGetTouchBegin raw, fidoOk⟩

def cancels (raw : Handle) (status : Int32) : Event libfido2 := ⟨.devCancel raw, status⟩

def polls (raw : Handle) (milliseconds status touched : Int32) : Event libfido2 :=
  ⟨.devGetTouchStatus raw milliseconds, (status, touched)⟩

def setsTimeout (raw : Handle) (milliseconds status : Int32) : Event libfido2 :=
  ⟨.devSetTimeout raw milliseconds, status⟩

def isBegin : Event libfido2 → Bool
  | ⟨.devGetTouchBegin _, status⟩ => (status : Int32) == fidoOk
  | _ => false

/-- How many devices have been armed. -/
def begun (t : Trace libfido2) : Nat := t.countP isBegin

/-- The device was cancelled, or its touch was observed. -/
def Frees (raw : Handle) (event : Event libfido2) : Prop :=
  (∃ status, event = cancels raw status) ∨ ∃ milliseconds, event = polls raw milliseconds fidoOk 1

/-- **`NothingArmed t`** — every device that was armed was cancelled afterwards, but for the one
whose touch was observed. -/
def NothingArmed (t : Trace libfido2) : Prop :=
  ∀ before raw after, t = before ++ begins raw :: after → ∃ event ∈ after, Frees raw event

/-- **`Selects devices config t authenticator`** — the authenticator is the device of the first
poll that saw a touch. The others are cancelled then, and its operation timeout is restored. -/
def Selects (devices : List (RawDevice × Capabilities)) (config : Config) (t : Trace libfido2)
    (authenticator : Authenticator) : Prop :=
  ∃ before milliseconds c,
    t = before ++ polls authenticator.device.raw milliseconds fidoOk 1 :: (c ++
      [setsTimeout authenticator.device.raw config.operationMilliseconds fidoOk,
        ⟨.newAffinity, authenticator.affinity⟩]) ∧
    (∀ raw milliseconds status, polls raw milliseconds status 1 ∉ before) ∧
    (∀ event ∈ c, ∃ raw status, event = cancels raw status) ∧
    (authenticator.device, authenticator.capabilities) ∈ devices

/-- The readings of the clock, in order. -/
def readings (t : Trace libfido2) : List Nat :=
  t.filterMap fun event => match event with
    | ⟨.now, now⟩ => some now
    | _ => none

/-- The readings of the clock do not decrease. -/
def ClockAdvances (t : Trace libfido2) : Prop := (readings t).Pairwise (· ≤ ·)

instance : DecidablePred ClockAdvances := fun t =>
  inferInstanceAs (Decidable ((readings t).Pairwise (· ≤ ·)))

/-- A reading while some of the devices are armed and some are not is within the deadline. -/
def Timely (deadline count : Nat) (past : Trace libfido2) (event : Event libfido2) : Prop :=
  ∀ n, event = reading n → 1 ≤ begun past → begun past < count → n ≤ deadline

/-- **`InTime config count t`** — no reading is past the deadline, which is the first reading plus
the selection timeout, while some but not all of `count` devices are armed. -/
def InTime (config : Config) (count : Nat) (t : Trace libfido2) : Prop :=
  ∀ start rest, t = reading start :: rest →
    Lawful (Timely (start + config.selectionTimeout) count) [] rest

theorem mem_readings {n : Nat} {t : Trace libfido2} (h : reading n ∈ t) : n ∈ readings t :=
  List.mem_filterMap.mpr ⟨reading n, h, rfl⟩

theorem isBegin_iff {event : Event libfido2} : isBegin event = true ↔ ∃ raw, event = begins raw := by
  constructor
  · intro h
    unfold isBegin at h
    split at h
    · rename_i raw status
      exact ⟨raw, by rw [begins, eq_of_beq h]⟩
    · cases h
  · rintro ⟨raw, rfl⟩
    exact beq_self_eq_true fidoOk

@[simp] theorem begun_nil : begun [] = 0 := rfl

theorem begun_append (t t' : Trace libfido2) : begun (t ++ t') = begun t + begun t' :=
  List.countP_append

theorem begun_pos_iff {t : Trace libfido2} : 1 ≤ begun t ↔ ∃ raw, begins raw ∈ t := by
  unfold begun
  rw [Nat.one_le_iff_ne_zero, ← Nat.pos_iff_ne_zero, List.countP_pos_iff]
  constructor
  · rintro ⟨event, hmem, hbegin⟩
    obtain ⟨raw, rfl⟩ := isBegin_iff.mp hbegin
    exact ⟨raw, hmem⟩
  · rintro ⟨raw, hmem⟩
    exact ⟨begins raw, hmem, isBegin_iff.mpr ⟨raw, rfl⟩⟩

/-! ## Cancelling -/

/-- The trace of `cancelAll`. -/
def Cancels (devices : List (RawDevice × Capabilities)) (c : Trace libfido2) : Prop :=
  c.map Event.query = devices.map fun device => Query.devCancel device.1.raw

theorem runs_cancelAll {devices : List (RawDevice × Capabilities)} {t : Trace libfido2}
    {r : Except Error Unit} (h : (cancelAll devices).run.Runs t r) :
    Cancels devices t ∧ r = .ok () := by
  induction devices generalizing t with
  | nil =>
      obtain ⟨rfl, rfl⟩ := Fallible.runs_pure.mp h
      exact ⟨rfl, rfl⟩
  | cons head rest ih =>
      obtain ⟨status, t', rfl, htail⟩ := runs_call_bind.mp h
      obtain ⟨hrest, rfl⟩ := ih htail
      exact ⟨congrArg (Query.devCancel head.1.raw :: ·) hrest, rfl⟩

section Cancels

variable {devices : List (RawDevice × Capabilities)} {c t : Trace libfido2}

theorem Cancels.exists_mem {device : RawDevice × Capabilities} (h : Cancels devices c)
    (hmem : device ∈ devices) : ∃ status, cancels device.1.raw status ∈ c := by
  have hquery : Query.devCancel device.1.raw ∈ c.map Event.query := by
    rw [h]
    exact List.mem_map_of_mem (f := fun device => Query.devCancel device.1.raw) hmem
  obtain ⟨⟨query, status⟩, hevent, hsame⟩ := List.mem_map.mp hquery
  cases hsame
  exact ⟨status, hevent⟩

theorem Cancels.only (h : Cancels devices c) :
    ∀ event ∈ c, ∃ raw status, event = cancels raw status := by
  intro event hmem
  have hquery : event.query ∈ c.map Event.query := List.mem_map_of_mem hmem
  rw [h] at hquery
  obtain ⟨device, -, hsame⟩ := List.mem_map.mp hquery
  cases event
  cases hsame
  exact ⟨device.1.raw, _, rfl⟩

theorem Cancels.not_begins (h : Cancels devices c) (raw : Handle) : begins raw ∉ c := by
  intro hmem
  obtain ⟨raw', status, heq⟩ := h.only _ hmem
  cases heq

/-- A failed status cancels every device. -/
theorem cancels_of_orFail {status : Int32} {error e : Error}
    (h : (orFail status do cancelAll devices; return error).run.Runs t (.error e)) :
    Cancels devices t := by
  obtain ⟨-, hfail | hfail⟩ := runs_orFail_error h
  · obtain ⟨t₁, _, t₂, rfl, hcancel, hpure⟩ := Fallible.runs_bind_ok.mp hfail
    obtain ⟨rfl, -⟩ := Fallible.runs_pure.mp hpure
    rw [List.append_nil]
    exact (runs_cancelAll hcancel).1
  · rcases Fallible.runs_bind.mp hfail with ⟨t₁, _, t₂, rfl, -, hpure⟩ | ⟨e', hcancel, -⟩
    · cases (Fallible.runs_pure.mp hpure).2
    · cases (runs_cancelAll hcancel).2

theorem runs_cancelAll_throw {α : Type} {e : Error} {r : Except Error α}
    (h : (do cancelAll devices; throw e : Adapter α).run.Runs t r) :
    Cancels devices t ∧ r = .error e := by
  rcases Fallible.runs_bind.mp h with ⟨t₁, _, t₂, rfl, hcancel, hthrow⟩ | ⟨e', hcancel, -⟩
  · obtain ⟨rfl, rfl⟩ := Fallible.runs_throw.mp hthrow
    rw [List.append_nil]
    exact ⟨(runs_cancelAll hcancel).1, rfl⟩
  · cases (runs_cancelAll hcancel).2

end Cancels

/-! ## Arming -/

section Arming

variable {devices : List (RawDevice × Capabilities)} {deadline count : Nat} {t : Trace libfido2}

/-- The events while devices are armed: readings within the deadline, no cancelling, no poll. -/
structure Arming (devices : List (RawDevice × Capabilities)) (deadline : Nat)
    (t : Trace libfido2) : Prop where
  reads : ∀ n, reading n ∈ t → n ≤ deadline
  begins : ∀ raw, begins raw ∈ t → ∃ device ∈ devices, device.1.raw = raw
  cancels : ∀ raw status, cancels raw status ∉ t
  polls : ∀ raw milliseconds status touched, polls raw milliseconds status touched ∉ t

theorem arming_nil : Arming devices deadline [] := by
  refine ⟨fun _ h => ?_, fun _ h => ?_, fun _ _ h => ?_, fun _ _ _ _ h => ?_⟩ <;> cases h

theorem Arming.mono {t' : Trace libfido2} (h : Arming devices deadline t) (hsub : t' ⊆ t) :
    Arming devices deadline t' where
  reads n hmem := h.reads n (hsub hmem)
  begins raw hmem := h.begins raw (hsub hmem)
  cancels raw status hmem := h.cancels raw status (hsub hmem)
  polls raw milliseconds status touched hmem := h.polls raw milliseconds status touched (hsub hmem)

theorem Arming.append {t' : Trace libfido2} (h : Arming devices deadline t)
    (h' : Arming devices deadline t') : Arming devices deadline (t ++ t') where
  reads n hmem := (List.mem_append.mp hmem).elim (h.reads n) (h'.reads n)
  begins raw hmem := (List.mem_append.mp hmem).elim (h.begins raw) (h'.begins raw)
  cancels raw status hmem :=
    (List.mem_append.mp hmem).elim (h.cancels raw status) (h'.cancels raw status)
  polls raw milliseconds status touched hmem :=
    (List.mem_append.mp hmem).elim (h.polls raw milliseconds status touched)
      (h'.polls raw milliseconds status touched)

/-- How arming the devices ends. -/
inductive ArmExit (devices : List (RawDevice × Capabilities)) (deadline : Nat) :
    Nat → Trace libfido2 → Except Error Unit → Prop where
  | armed {count : Nat} {a : Trace libfido2} (arming : Arming devices deadline a)
      (all : begun a = count) : ArmExit devices deadline count a (.ok ())
  /-- Nothing is cancelled. The second case of `expired` needs a clock that goes back. -/
  | late {count n : Nat} {a : Trace libfido2} {e : Error} (arming : Arming devices deadline a)
      (some : begun a < count) (expired : deadline < n ∨ i32Limit ≤ asMillis (deadline - n)) :
      ArmExit devices deadline count (a ++ [reading n]) (.error e)
  | cancelled {count : Nat} {a c : Trace libfido2} {e : Error} (arming : Arming devices deadline a)
      (cancel : Cancels devices c) : ArmExit devices deadline count (a ++ c) (.error e)

theorem ArmExit.prepend {a : Trace libfido2} {r : Except Error Unit}
    (ha : Arming devices deadline a) (hone : begun a = 1) (h : ArmExit devices deadline count t r) :
    ArmExit devices deadline (count + 1) (a ++ t) r := by
  cases h with
  | armed arming all =>
      refine .armed (ha.append arming) ?_
      rw [begun_append, hone, all, Nat.add_comm]
  | late arming some expired =>
      rw [← List.append_assoc]
      refine .late (ha.append arming) ?_ expired
      rw [begun_append, hone]
      omega
  | cancelled arming cancel =>
      rw [← List.append_assoc]
      exact .cancelled (ha.append arming) cancel

theorem runs_selectionMilliseconds {r : Except Error Int32}
    (h : (selectionMilliseconds deadline).run.Runs t r) :
    ∃ n, t = [reading n] ∧ (n ≤ deadline ∧ (∃ milliseconds, r = .ok milliseconds) ∨
      (deadline < n ∨ i32Limit ≤ asMillis (deadline - n)) ∧ ∃ e, r = .error e) := by
  obtain ⟨n, t', rfl, hrest⟩ := runs_call_bind.mp h
  by_cases hnow : (n : Nat) ≤ deadline
  · rw [require_of hnow] at hrest
    obtain ⟨rfl, rfl⟩ := Fallible.runs_except.mp hrest
    refine ⟨n, rfl, ?_⟩
    cases hfits : toI32? (max (asMillis (deadline - n)) 1) with
    | some milliseconds => exact .inl ⟨hnow, milliseconds, rfl⟩
    | none =>
        refine .inr ⟨.inr ?_, _, rfl⟩
        unfold toI32? at hfits
        split at hfits
        · cases hfits
        · rename_i hlarge
          have : 1 < i32Limit := by decide
          omega
  · rcases Fallible.runs_bind.mp hrest with ⟨t₁, _, t₂, rfl, hguard, -⟩ | ⟨e, hguard, rfl⟩
    · exact absurd (require_eq_ok.mp (Fallible.runs_except.mp hguard).2.symm) hnow
    · obtain ⟨rfl, -⟩ := Fallible.runs_except.mp hguard
      exact ⟨n, rfl, .inr ⟨.inl (Nat.lt_of_not_le hnow), e, rfl⟩⟩

/-- One device is armed, or not: its calls free nothing. -/
theorem arming_step {device : RawDevice × Capabilities} {n : Nat} (hmem : device ∈ devices)
    (hn : n ≤ deadline) (milliseconds status status' : Int32) :
    Arming devices deadline [reading n, setsTimeout device.1.raw milliseconds status,
      ⟨.devGetTouchBegin device.1.raw, status'⟩] where
  reads m h := by
    simp only [List.mem_cons, List.not_mem_nil, or_false] at h
    rcases h with h | h | h
    · cases h
      exact hn
    · cases h
    · cases h
  begins raw h := by
    simp only [List.mem_cons, List.not_mem_nil, or_false] at h
    rcases h with h | h | h
    · cases h
    · cases h
    · cases h
      exact ⟨device, hmem, rfl⟩
  cancels raw status h := by
    simp only [List.mem_cons, List.not_mem_nil, or_false] at h
    rcases h with h | h | h <;> cases h
  polls raw milliseconds status touched h := by
    simp only [List.mem_cons, List.not_mem_nil, or_false] at h
    rcases h with h | h | h <;> cases h

theorem Arming.frees (h : Arming devices deadline t) (raw : Handle) :
    ∀ event ∈ t, ¬ Frees raw event := by
  rintro event hmem (⟨status, rfl⟩ | ⟨milliseconds, rfl⟩)
  · exact h.cancels raw status hmem
  · exact h.polls raw milliseconds fidoOk 1 hmem

/-- The readings while devices are armed are within the deadline. -/
theorem Arming.timely (h : Arming devices deadline t) : Lawful (Timely deadline count) [] t := by
  refine lawful_of_forall fun event hmem past n heq _ _ => ?_
  subst heq
  exact h.reads n hmem

/-- Arming the devices, one after another. -/
theorem runs_beginTouch {rest : List (RawDevice × Capabilities)} {r : Except Error Unit}
    (hrest : rest ⊆ devices) (h : (beginTouch devices deadline rest).run.Runs t r) :
    ArmExit devices deadline rest.length t r := by
  induction rest generalizing t with
  | nil =>
      obtain ⟨rfl, rfl⟩ := Fallible.runs_pure.mp h
      exact .armed arming_nil rfl
  | cons head rest ih =>
      have hhead : head ∈ devices := hrest List.mem_cons_self
      rcases Fallible.runs_bind.mp h with ⟨t₁, milliseconds, t₂, rfl, hread, hset⟩ | ⟨e, hread, rfl⟩
      · obtain ⟨n, rfl, ⟨hn, -⟩ | ⟨-, e, he⟩⟩ := runs_selectionMilliseconds hread
        · have hstep := arming_step hhead hn milliseconds
          obtain ⟨status, t₃, rfl, hstatus⟩ := runs_call_bind.mp hset
          rcases runs_orFail_bind.mp hstatus with ⟨rfl, hbegin⟩ | ⟨e, hfail, rfl⟩
          · obtain ⟨status, t₄, rfl, hstatus'⟩ := runs_call_bind.mp hbegin
            rcases runs_orFail_bind.mp hstatus' with ⟨rfl, htail⟩ | ⟨e, hfail, rfl⟩
            · have hexit := ih (fun d hd => hrest (List.mem_cons_of_mem _ hd)) htail
              have hone : begun [reading n, setsTimeout head.1.raw milliseconds fidoOk,
                begins head.1.raw] = 1 := rfl
              have hstepped := hexit.prepend (hstep fidoOk fidoOk) hone
              exact hstepped
            · have hexit : ArmExit devices deadline (rest.length + 1) _ (.error e) :=
                .cancelled (hstep fidoOk status) (cancels_of_orFail hfail)
              exact hexit
          · have hset := (hstep status fidoOk).mono (List.subset_append_left [_, _] [_])
            have hexit : ArmExit devices deadline (rest.length + 1) _ (.error e) :=
              .cancelled hset (cancels_of_orFail hfail)
            exact hexit
        · cases he
      · obtain ⟨n, rfl, ⟨-, milliseconds, hok⟩ | ⟨hexpired, -⟩⟩ := runs_selectionMilliseconds hread
        · cases hok
        · exact .late (a := []) arming_nil (Nat.succ_pos _) hexpired

end Arming

/-! ## Polling -/

section Polling

variable {devices : List (RawDevice × Capabilities)} {config : Config} {deadline : Nat}
  {t : Trace libfido2}

/-- The last element takes the place of the removed one, so only the removed one goes. -/
theorem mem_swapRemove {α : Type} {list : List α} {index : Nat} {a removed : α}
    (h : list[index]? = some removed) (ha : a ∈ list) : a = removed ∨ a ∈ swapRemove list index := by
  obtain ⟨hindex, rfl⟩ := List.getElem?_eq_some_iff.mp h
  obtain ⟨i, hi, rfl⟩ := List.getElem_of_mem ha
  by_cases hsame : i = index
  · subst hsame
    exact .inl rfl
  · refine .inr ?_
    have hlength : list.length - 1 < list.length := by omega
    have hlast : list.getLast? = some list[list.length - 1] := by
      rw [List.getLast?_eq_getElem?, List.getElem?_eq_getElem]
    unfold swapRemove
    rw [hlast]
    by_cases hend : i = list.length - 1
    · refine List.mem_iff_getElem.mpr ⟨index, by simp; omega, ?_⟩
      simp [hend]
    · refine List.mem_iff_getElem.mpr ⟨i, by simp; omega, ?_⟩
      simp [Ne.symm hsame]

/-- Polls that failed nowhere and saw no touch, and the readings between them. -/
def Untouched (t : Trace libfido2) : Prop :=
  ∀ event ∈ t, (∃ n, event = reading n) ∨
    ∃ raw milliseconds status touched, event = polls raw milliseconds status touched ∧ touched ≠ 1

theorem untouched_nil : Untouched [] := by
  intro event hmem
  cases hmem

theorem Untouched.append {t' : Trace libfido2} (h : Untouched t) (h' : Untouched t') :
    Untouched (t ++ t') :=
  fun event hmem => (List.mem_append.mp hmem).elim (h event) (h' event)

theorem untouched_reading (n : Nat) : Untouched [reading n] := by
  intro event hmem
  exact .inl ⟨n, List.mem_singleton.mp hmem⟩

theorem untouched_poll {touched : Int32} (raw : Handle) (milliseconds status : Int32)
    (h : touched ≠ 1) : Untouched [polls raw milliseconds status touched] := by
  intro event hmem
  exact .inr ⟨raw, milliseconds, status, touched, List.mem_singleton.mp hmem, h⟩

theorem Untouched.not_begins (h : Untouched t) (raw : Handle) : begins raw ∉ t := by
  intro hmem
  rcases h _ hmem with ⟨n, heq⟩ | ⟨raw', milliseconds, status, touched, heq, -⟩ <;> cases heq

theorem Untouched.not_touched (h : Untouched t) (raw : Handle) (milliseconds status : Int32) :
    polls raw milliseconds status 1 ∉ t := by
  intro hmem
  rcases h _ hmem with ⟨n, heq⟩ | ⟨raw', milliseconds', status', touched, heq, hne⟩
  · cases heq
  · cases heq
    exact hne rfl

/-- Every device but one is cancelled. -/
def CancelsOthers (devices : List (RawDevice × Capabilities)) (device : RawDevice × Capabilities)
    (c : Trace libfido2) : Prop :=
  ∃ others, Cancels others c ∧ ∀ other ∈ devices, other = device ∨ other ∈ others

/-- How polling the devices ends. -/
inductive PollExit (devices : List (RawDevice × Capabilities)) (config : Config) :
    Trace libfido2 → Except Error Authenticator → Prop where
  | cancelled {p c : Trace libfido2} {e : Error} (quiet : ∀ raw, begins raw ∉ p)
      (cancel : Cancels devices c) : PollExit devices config (p ++ c) (.error e)
  | unrestored {p c : Trace libfido2} {device : RawDevice × Capabilities}
      {milliseconds status : Int32} {e : Error} (before : Untouched p) (mem : device ∈ devices)
      (cancel : CancelsOthers devices device c) :
      PollExit devices config (p ++ polls device.1.raw milliseconds fidoOk 1 :: (c ++
        [setsTimeout device.1.raw config.operationMilliseconds status])) (.error e)
  | selected {p c : Trace libfido2} {device : RawDevice × Capabilities} {milliseconds : Int32}
      {affinity : Nat} (before : Untouched p) (mem : device ∈ devices)
      (cancel : CancelsOthers devices device c) :
      PollExit devices config (p ++ polls device.1.raw milliseconds fidoOk 1 :: (c ++
        [setsTimeout device.1.raw config.operationMilliseconds fidoOk, ⟨.newAffinity, affinity⟩]))
        (.ok ⟨device.1, device.2, affinity⟩)

theorem PollExit.prepend {p : Trace libfido2} {r : Except Error Authenticator} (hp : Untouched p)
    (h : PollExit devices config t r) : PollExit devices config (p ++ t) r := by
  cases h with
  | cancelled quiet cancel =>
      rw [← List.append_assoc]
      refine .cancelled (fun raw hmem => ?_) cancel
      exact (List.mem_append.mp hmem).elim (hp.not_begins raw) (quiet raw)
  | unrestored before mem cancel =>
      rw [← List.append_assoc]
      exact .unrestored (hp.append before) mem cancel
  | selected before mem cancel =>
      rw [← List.append_assoc]
      exact .selected (hp.append before) mem cancel

theorem runs_new_bind {α : Type} {device : RawDevice} {capabilities : Capabilities}
    {f : Authenticator → Adapter α} {r : Except Error α} :
    (Authenticator.new device capabilities >>= f).run.Runs t r ↔
      ∃ affinity t', t = ⟨.newAffinity, affinity⟩ :: t' ∧
        (f ⟨device, capabilities, affinity⟩).run.Runs t' r := by
  unfold Authenticator.new
  rw [bind_assoc]
  simp only [pure_bind]
  exact runs_call_bind

/-- The device that was touched: the others are cancelled, its timeout is restored. -/
theorem runs_touched {device : RawDevice × Capabilities} {index : Nat} {n : Nat}
    {milliseconds : Int32} {r : Except Error (Option Authenticator)}
    (hdevice : devices[index]? = some device)
    (h : (do
      cancelAll (swapRemove devices index)
      let status ← call (.devSetTimeout device.1.raw config.operationMilliseconds)
      orFail status (return translateStatus status "restore operation timeout")
      return some (← Authenticator.new device.1 device.2) :
        Adapter (Option Authenticator)).run.Runs t r) :
    ∃ r', PollExit devices config (reading n :: polls device.1.raw milliseconds fidoOk 1 :: t) r' ∧
      r = r'.map some := by
  have hmem : device ∈ devices := List.mem_of_getElem? hdevice
  have hbefore : Untouched [reading n] := untouched_reading n
  rcases Fallible.runs_bind.mp h with ⟨c, _, t', rfl, hcancel, hrest⟩ | ⟨e, hcancel, -⟩
  · have hothers : CancelsOthers devices device c :=
      ⟨_, (runs_cancelAll hcancel).1, fun other hother => mem_swapRemove hdevice hother⟩
    obtain ⟨status, t'', rfl, hstatus⟩ := runs_call_bind.mp hrest
    rcases runs_orFail_bind.mp hstatus with ⟨rfl, hnew⟩ | ⟨e, hfail, rfl⟩
    · obtain ⟨affinity, t₃, rfl, hreturn⟩ := runs_new_bind.mp hnew
      obtain ⟨rfl, rfl⟩ := Fallible.runs_pure.mp hreturn
      exact ⟨_, .selected hbefore hmem hothers, rfl⟩
    · obtain ⟨-, hquiet⟩ := runs_orFail_error hfail
      obtain rfl : t'' = [] := hquiet.elim (fun h => (Fallible.runs_pure.mp h).1)
        fun h => (Fallible.runs_pure.mp h).1
      exact ⟨.error e, .unrestored hbefore hmem hothers, rfl⟩
  · cases (runs_cancelAll hcancel).2

/-- One round over the devices from an index on. -/
theorem runs_pollTouch {rest : List (RawDevice × Capabilities)} {index : Nat}
    {r : Except Error (Option Authenticator)} (hrest : devices.drop index = rest)
    (h : (pollTouch devices config deadline index rest).run.Runs t r) :
    Untouched t ∧ r = .ok none ∨ ∃ r', PollExit devices config t r' ∧ r = r'.map some := by
  induction rest generalizing index t with
  | nil =>
      obtain ⟨rfl, rfl⟩ := Fallible.runs_pure.mp h
      exact .inl ⟨untouched_nil, rfl⟩
  | cons head rest ih =>
      obtain ⟨hget, hnext⟩ : devices[index]? = some head ∧ devices.drop (index + 1) = rest := by
        rw [← List.head?_drop, hrest, ← List.tail_drop, hrest]
        exact ⟨rfl, rfl⟩
      have hquiet : ∀ n milliseconds status touched raw,
          begins raw ∉ [reading n, polls head.1.raw milliseconds status touched] := by
        intro n milliseconds status touched raw hmem
        simp only [List.mem_cons, List.not_mem_nil, or_false] at hmem
        rcases hmem with heq | heq <;> cases heq
      obtain ⟨now, t₁, rfl, hpoll⟩ := runs_call_bind.mp h
      split at hpoll
      · obtain ⟨hcancel, rfl⟩ := runs_cancelAll_throw hpoll
        refine .inr ⟨.error .selectionTimedOut, ?_, rfl⟩
        exact .cancelled (p := [reading now]) (untouched_reading now).not_begins hcancel
      · obtain ⟨⟨status, touched⟩, t₂, rfl, hreply⟩ := runs_call_bind.mp hpoll
        rcases runs_orFail_bind.mp hreply with ⟨hok, htouched⟩ | ⟨e, hfail, rfl⟩
        · obtain rfl : status = fidoOk := hok
          split at htouched
          · rename_i hone
            cases hone
            exact .inr (runs_touched hget htouched)
          · split at htouched
            · obtain ⟨hcancel, rfl⟩ := runs_cancelAll_throw htouched
              refine .inr ⟨.error .protocol, ?_, rfl⟩
              exact .cancelled (p := [_, _]) (hquiet now _ fidoOk touched) hcancel
            · rename_i hone _
              let wait := min config.touchPollInterval (deadline - now)
              have hseen := (untouched_reading now).append
                (untouched_poll head.1.raw (Int32.ofNat (max (asMillis wait) 1)) fidoOk hone)
              rcases ih hnext htouched with ⟨hnone, rfl⟩ | ⟨r', hexit, rfl⟩
              · exact .inl ⟨hseen.append hnone, rfl⟩
              · exact .inr ⟨r', hexit.prepend hseen, rfl⟩
        · refine .inr ⟨.error e, ?_, rfl⟩
          exact .cancelled (p := [_, _]) (hquiet now _ status touched) (cancels_of_orFail hfail)

/-- Polling the devices, round after round. -/
theorem runs_pollRounds {rounds : Nat} {r : Except Error Authenticator}
    (h : (pollRounds devices config deadline rounds).run.Runs t r) :
    PollExit devices config t r := by
  induction rounds generalizing t with
  | zero =>
      obtain ⟨reply, -⟩ := runs_call_bind.mp h
      exact reply.elim
  | succ rounds ih =>
      rcases Fallible.runs_bind.mp h with ⟨t₁, touched, t₂, rfl, hround, hrest⟩ | ⟨e, hround, rfl⟩
      · rcases runs_pollTouch rfl hround with ⟨hnone, hr⟩ | ⟨r', hexit, hr⟩
        · cases hr
          exact (ih hrest).prepend hnone
        · cases r' with
          | error e => cases hr
          | ok authenticator =>
              cases hr
              obtain ⟨rfl, rfl⟩ := Fallible.runs_pure.mp hrest
              rw [List.append_nil]
              exact hexit
      · rcases runs_pollTouch rfl hround with ⟨-, hr⟩ | ⟨r', hexit, hr⟩
        · cases hr
        · cases r' with
          | error e' =>
              cases hr
              exact hexit
          | ok authenticator => cases hr

theorem PollExit.not_begins {r : Except Error Authenticator} (h : PollExit devices config t r)
    (raw : Handle) : begins raw ∉ t := by
  intro hmem
  cases h with
  | cancelled quiet cancel =>
      exact (List.mem_append.mp hmem).elim (quiet raw) (cancel.not_begins raw)
  | unrestored before mem cancel =>
      obtain ⟨others, hcancel, -⟩ := cancel
      simp only [List.mem_append, List.mem_cons, List.not_mem_nil, or_false] at hmem
      rcases hmem with hmem | hmem | hmem | hmem
      · exact before.not_begins raw hmem
      · cases hmem
      · exact hcancel.not_begins raw hmem
      · cases hmem
  | selected before mem cancel =>
      obtain ⟨others, hcancel, -⟩ := cancel
      simp only [List.mem_append, List.mem_cons, List.not_mem_nil, or_false] at hmem
      rcases hmem with hmem | hmem | hmem | hmem | hmem
      · exact before.not_begins raw hmem
      · cases hmem
      · exact hcancel.not_begins raw hmem
      · cases hmem
      · cases hmem

/-- Polling frees every device, however it ends. -/
theorem PollExit.frees {r : Except Error Authenticator} (h : PollExit devices config t r)
    {other : RawDevice × Capabilities} (hother : other ∈ devices) :
    ∃ event ∈ t, Frees other.1.raw event := by
  have hone : ∀ (p c tail : Trace libfido2) device milliseconds,
      CancelsOthers devices device c →
        ∃ event ∈ p ++ polls device.1.raw milliseconds fidoOk 1 :: (c ++ tail),
          Frees other.1.raw event := by
    rintro p c tail device milliseconds ⟨others, hcancel, hothers⟩
    rcases hothers other hother with rfl | hmem
    · exact ⟨_, by simp, .inr ⟨milliseconds, rfl⟩⟩
    · obtain ⟨status, hevent⟩ := hcancel.exists_mem hmem
      exact ⟨_, by simp [hevent], .inl ⟨status, rfl⟩⟩
  cases h with
  | cancelled quiet cancel =>
      obtain ⟨status, hevent⟩ := cancel.exists_mem hother
      exact ⟨_, List.mem_append_right _ hevent, .inl ⟨status, rfl⟩⟩
  | unrestored before mem cancel => exact hone _ _ _ _ _ cancel
  | selected before mem cancel => exact hone _ _ _ _ _ cancel

end Polling

/-! ## What is left armed -/

section Selection

variable {devices : List (RawDevice × Capabilities)} {config : Config} {deadline count : Nat}
  {t : Trace libfido2}

/-- Once every device is armed, a reading may be as late as it likes. -/
theorem timely_of_begun {past : Trace libfido2} (h : count ≤ begun past) :
    Lawful (Timely deadline count) past t := by
  induction t generalizing past with
  | nil => trivial
  | cons event t ih =>
      refine ⟨fun n _ _ hfew => absurd hfew (Nat.not_lt.mpr h), ih ?_⟩
      rw [begun_append]
      exact Nat.le_add_right_of_le h

theorem Cancels.timely {c past : Trace libfido2} (h : Cancels devices c) :
    Lawful (Timely deadline count) past c := by
  refine lawful_of_forall fun event hmem past n heq _ _ => ?_
  obtain ⟨raw, status, rfl⟩ := h.only event hmem
  cases heq

/-- What is armed before the last part of a trace is freed in it. -/
theorem nothingArmed_append {a c : Trace libfido2} (hc : ∀ raw, begins raw ∉ c)
    (ha : ∀ raw, begins raw ∈ a → ∃ event ∈ c, Frees raw event) : NothingArmed (a ++ c) := by
  intro before raw after hsplit
  obtain ⟨mid, rfl, rfl⟩ := Program.split_left hsplit (hc raw)
  obtain ⟨event, hmem, hfree⟩ := ha raw (by simp)
  exact ⟨event, List.mem_append_right _ hmem, hfree⟩

/-- What a selection promises: nothing is left armed, and the device touched first is selected. -/
def Promised (devices : List (RawDevice × Capabilities)) (config : Config) (t : Trace libfido2)
    (r : Except Error Authenticator) : Prop :=
  NothingArmed t ∧ ∀ authenticator, r = .ok authenticator → Selects devices config t authenticator

/-- A selection that armed every device keeps its promise, however the polls end. -/
theorem promised_of_pollExit {start : Nat} {a p : Trace libfido2} {r : Except Error Authenticator}
    (ha : Arming devices deadline a) (h : PollExit devices config p r) :
    Promised devices config (reading start :: a ++ p) r := by
  refine ⟨nothingArmed_append h.not_begins fun raw hmem => ?_, fun authenticator hr => ?_⟩
  · rcases List.mem_cons.mp hmem with heq | hmem
    · cases heq
    · obtain ⟨device, hdevice, rfl⟩ := ha.begins raw hmem
      exact h.frees hdevice
  · cases h with
    | cancelled quiet cancel => cases hr
    | unrestored before mem cancel => cases hr
    | @selected p c device milliseconds affinity before mem cancel =>
        cases hr
        obtain ⟨others, hcancel, -⟩ := cancel
        refine ⟨reading start :: a ++ p, milliseconds, c, by simp, ?_, hcancel.only, mem⟩
        intro raw milliseconds status hmem
        rcases List.mem_append.mp hmem with hmem | hmem
        · rcases List.mem_cons.mp hmem with heq | hmem
          · cases heq
          · exact ha.polls raw milliseconds status 1 hmem
        · exact before.not_touched raw milliseconds status hmem

/-- A selection that failed to arm a device and cancelled them all keeps its promise. -/
theorem promised_of_cancels {start : Nat} {a c : Trace libfido2} {e : Error}
    (ha : Arming devices deadline a) (hc : Cancels devices c) :
    Promised devices config (reading start :: a ++ c) (.error e) := by
  refine ⟨nothingArmed_append hc.not_begins fun raw hmem => ?_, fun _ hr => ?_⟩
  · rcases List.mem_cons.mp hmem with heq | hmem
    · cases heq
    · obtain ⟨device, hdevice, rfl⟩ := ha.begins raw hmem
      obtain ⟨status, hevent⟩ := hc.exists_mem hdevice
      exact ⟨_, hevent, .inl ⟨status, rfl⟩⟩
  · cases hr

/-- At the deadline while arming, what was armed stays armed. -/
theorem nothingArmed_late_iff {start n : Nat} {a : Trace libfido2}
    (ha : Arming devices deadline a) :
    NothingArmed (reading start :: a ++ [reading n]) ↔ begun a = 0 := by
  constructor
  · intro h
    by_contra hbegun
    obtain ⟨raw, hmem⟩ := begun_pos_iff.mp (Nat.one_le_iff_ne_zero.mpr hbegun)
    obtain ⟨before, after, rfl⟩ := List.append_of_mem hmem
    obtain ⟨event, hevent, hfree⟩ := h (reading start :: before) raw (after ++ [reading n]) (by simp)
    rcases List.mem_append.mp hevent with hevent | hevent
    · exact ha.frees raw event (by simp [hevent]) hfree
    · rw [List.mem_singleton] at hevent
      subst hevent
      rcases hfree with ⟨status, heq⟩ | ⟨milliseconds, heq⟩ <;> cases heq
  · intro hbegun before raw after hsplit
    have hmem : begins raw ∈ reading start :: a ++ [reading n] := hsplit ▸ by simp
    simp only [List.cons_append, List.mem_cons, List.mem_append, List.not_mem_nil, or_false] at hmem
    rcases hmem with heq | hmem | heq
    · cases heq
    · have := begun_pos_iff.mpr ⟨raw, hmem⟩
      omega
    · cases heq

/-- The trace of a selection, and how it ends. -/
theorem runs_selectByTouch {rounds : Nat} {r : Except Error Authenticator}
    (h : (selectByTouch devices config rounds).run.Runs t r) :
    ∃ start rest, t = reading start :: rest ∧
      ((∃ e, r = .error e ∧
          ArmExit devices (start + config.selectionTimeout) devices.length rest (.error e)) ∨
        ∃ a p, rest = a ++ p ∧ Arming devices (start + config.selectionTimeout) a ∧
          begun a = devices.length ∧ PollExit devices config p r) := by
  obtain ⟨start, rest, rfl, hrest⟩ := runs_call_bind.mp h
  refine ⟨start, rest, rfl, ?_⟩
  rcases Fallible.runs_bind.mp hrest with ⟨a, _, p, rfl, hbegin, hpoll⟩ | ⟨e, hbegin, rfl⟩
  · cases runs_beginTouch (List.Subset.refl devices) hbegin with
    | armed arming all => exact .inr ⟨a, p, rfl, arming, all, runs_pollRounds hpoll⟩
  · exact .inl ⟨e, rfl, runs_beginTouch (List.Subset.refl devices) hbegin⟩

theorem inTime_cons_iff {start : Nat} :
    InTime config count (reading start :: t) ↔
      Lawful (Timely (start + config.selectionTimeout) count) [] t := by
  constructor
  · intro h
    exact h start t rfl
  · intro h start' rest heq
    cases heq
    exact h

/-- A later reading is not below the first. -/
theorem ClockAdvances.le {start n : Nat} {a rest : Trace libfido2}
    (h : ClockAdvances (reading start :: a ++ reading n :: rest)) : start ≤ n := by
  have hreadings : readings (reading start :: a ++ reading n :: rest) =
      start :: (readings a ++ n :: readings rest) := by
    simp [readings, reading]
  rw [ClockAdvances, hreadings, List.pairwise_cons] at h
  exact h.1 n (by simp)

/-- A clock that advances never makes the time left too long for an `i32`. -/
theorem deadline_lt_of_expired {start n : Nat} (hstart : start ≤ n)
    (h : start + config.selectionTimeout < n ∨
      i32Limit ≤ asMillis (start + config.selectionTimeout - n)) :
    start + config.selectionTimeout < n := by
  rcases h with h | h
  · exact h
  · have hle : asMillis (start + config.selectionTimeout - n) ≤ asMillis config.selectionTimeout :=
      Nat.div_le_div_right (by omega)
    exact absurd (h.trans hle) (Nat.not_le.mpr config.selection.2)

end Selection

end Touch

open Touch

/-- **`touch_selection_cancels`** — every selection by touch leaves nothing armed, and selects the
device touched first, exactly when no reading of the clock is past the deadline while some but not
all of the devices are armed. -/
theorem touch_selection_cancels (devices : List (RawDevice × Capabilities)) (config : Config)
    (rounds : Nat) (t : Trace libfido2) (r : Except Error Authenticator)
    (hrun : (selectByTouch devices config rounds).run.Runs t r) (hclock : ClockAdvances t) :
    (NothingArmed t ∧
        ∀ authenticator, r = .ok authenticator → Selects devices config t authenticator) ↔
      InTime config devices.length t := by
  obtain ⟨start, rest, rfl, hexit⟩ := runs_selectByTouch hrun
  rw [inTime_cons_iff]
  rcases hexit with ⟨e, rfl, hexit⟩ | ⟨a, p, rfl, harming, hall, hexit⟩
  · cases hexit with
    | @late n a e arming some expired =>
        -- the exit that cancels nothing
        have hlate := deadline_lt_of_expired (ClockAdvances.le (a := a) hclock) expired
        rw [lawful_append, and_iff_right arming.timely]
        constructor
        · rintro ⟨harmed, -⟩
          have hnone : begun a = 0 := (nothingArmed_late_iff arming).mp harmed
          refine ⟨fun m _ hpos _ => ?_, trivial⟩
          rw [List.nil_append, hnone] at hpos
          omega
        · rintro ⟨htimely, -⟩
          have hnone : begun a = 0 := by
            by_contra hbegun
            exact absurd (htimely n rfl (Nat.one_le_iff_ne_zero.mpr hbegun) some)
              (Nat.not_le.mpr hlate)
          refine ⟨(nothingArmed_late_iff arming).mpr hnone, fun _ hr => ?_⟩
          cases hr
    | cancelled arming cancel =>
        exact iff_of_true (promised_of_cancels arming cancel)
          (lawful_append.mpr ⟨arming.timely, cancel.timely⟩)
  · have htimely := lawful_append.mpr ⟨harming.timely, timely_of_begun (t := p) hall.ge⟩
    exact iff_of_true (promised_of_pollExit harming hexit) htimely

namespace Vector

/-- Two devices, and a selection that may take a millisecond. -/
def prepared : PreparedSelection where
  devices := [(⟨1⟩, authenticator.capabilities), (⟨2⟩, authenticator.capabilities)]
  config := { Config.default with selectionTimeout := 1000000, selection := by decide }

/-- The run on devices the first of which is touched at once. -/
def touchedTrace : Trace libfido2 :=
  [reading 0, reading 0, setsTimeout 1 1 fidoOk, begins 1, reading 0, setsTimeout 2 1 fidoOk,
    begins 2, reading 0, polls 1 1 fidoOk 1, cancels 2 fidoOk, setsTimeout 1 30000 fidoOk,
    ⟨.newAffinity, authenticator.affinity⟩]

/-- The devices behave, but the first one takes two milliseconds to arm. -/
def slow (past : Trace libfido2) (query : Query) : Option query.Reply :=
  match query with
  | .now => some (if past.length < 4 then 0 else 2000000 : Nat)
  | query => device past query

/-- The run on the slow devices. -/
def slowTrace : Trace libfido2 :=
  [reading 0, reading 0, setsTimeout 1 1 fidoOk, begins 1, reading 2000000]

end Vector

/-- The first device is touched at once: it is selected, and nothing is left armed. -/
theorem touched_device_selected :
    NothingArmed Vector.touchedTrace ∧ Selects Vector.prepared.devices Vector.prepared.config
      Vector.touchedTrace ⟨⟨1⟩, Vector.authenticator.capabilities, Vector.authenticator.affinity⟩ := by
  have hexec : (selectByTouch Vector.prepared.devices Vector.prepared.config 1).run.exec?
      Vector.device [] = some (Vector.touchedTrace, .ok ⟨⟨1⟩, Vector.authenticator.capabilities,
        Vector.authenticator.affinity⟩) := rfl
  have hzero : ∀ n ∈ readings Vector.touchedTrace, n = 0 := by decide
  have htime : InTime Vector.prepared.config Vector.prepared.devices.length
      Vector.touchedTrace := by
    refine inTime_cons_iff.mpr (lawful_of_forall fun event hmem past n heq _ _ => ?_)
    subst heq
    rw [hzero n (mem_readings (List.mem_cons_of_mem _ hmem))]
    exact Nat.zero_le _
  obtain ⟨harmed, hselects⟩ := (touch_selection_cancels _ _ _ _ _
    (Program.runs_of_exec? hexec) (by decide)).mpr htime
  exact ⟨harmed, hselects _ rfl⟩

/-- The deadline passes while the second device is to be armed: the first one stays armed. -/
theorem slow_device_left_armed :
    ¬ ∀ (devices : List (RawDevice × Capabilities)) (config : Config) (rounds : Nat)
      (t : Trace libfido2) (r : Except Error Authenticator), devices ≠ [] →
      (selectByTouch devices config rounds).run.Runs t r → ClockAdvances t →
        NothingArmed t ∧
          ∀ authenticator, r = .ok authenticator → Selects devices config t authenticator := by
  intro h
  have hexec : (selectByTouch Vector.prepared.devices Vector.prepared.config 1).run.exec?
      Vector.slow [] = some (Vector.slowTrace, .error .selectionTimedOut) := rfl
  obtain ⟨harmed, -⟩ := h _ _ _ _ _ (by decide) (Program.runs_of_exec? hexec) (by decide)
  obtain ⟨event, hmem, hfree⟩ := harmed [reading 0, reading 0, setsTimeout 1 1 fidoOk] 1
    [reading 2000000] rfl
  rw [List.mem_singleton] at hmem
  subst hmem
  rcases hfree with ⟨status, heq⟩ | ⟨milliseconds, heq⟩ <;> cases heq

end FidoKeyWrap.Native
