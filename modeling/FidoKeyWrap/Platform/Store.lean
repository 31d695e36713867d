/-
# FidoKeyWrap.Platform.Store — native factor storage, and what its outcomes mean.

A store keeps one 32-byte secret for a recipient of one application. What the native service reports
is reduced to a bounded `StoreError`; `stateUncertain` is the one error that leaves open whether the
entry changed.

The service's side is an inventory of items. `CreateTells`, `LoadTells` and `RemoveTells` say what a
caller may conclude from an outcome about the items that match its key: they compare the inventory
before a call with the one after it.
-/
import FidoKeyWrap.Environment
import FidoKeyWrap.Lib.Inventory

namespace FidoKeyWrap.Platform

open ByteData

/-! ## Results -/

/-- Bounded failure from native factor storage. -/
inductive StoreError where
  | unsupported
  | unavailable
  | locked
  | accessDenied
  | cancelled
  /-- The exact entry already contains different secret material. -/
  | alreadyExists
  | missing
  /-- More than one entry matched the exact public identity. -/
  | ambiguous
  | corrupt
  /-- A native mutation may have changed the exact entry. -/
  | stateUncertain
  | operationFailed
  deriving DecidableEq

/-- The result of a store operation. -/
abbrev Result := Except StoreError

/-- Confirmed result of an idempotent removal. -/
inductive Removal where
  | removed
  | absent
  deriving DecidableEq

/-! ## Names and secrets -/

/-- The length of every secret. -/
def secretBytes : Nat := 32

/-- The service of the local secrets of an application. -/
def serviceName (application : ApplicationId) : String :=
  "fido-key-wrap.local-secret:" ++ application.asStr

/-- The service of its recovery secrets. -/
def recoveryServiceName (application : ApplicationId) : String :=
  "fido-key-wrap.recovery-secret:" ++ application.asStr

/-- The account of a recipient. -/
def recipientName (recipient : RecipientId) : String := hex recipient.asBytes.toList

/-- A local secret of exactly the right length. -/
def importBinary (bytes : ByteString) : Result LocalSecret :=
  if exact : bytes.length = secretBytes then .ok ⟨⟨bytes, exact⟩⟩ else .error .corrupt

/-- What is stored is exactly the secret. -/
def binaryMatches (bytes : ByteString) (secret : LocalSecret) : Bool :=
  decide (bytes.length = secretBytes) && decide (secret.bytes.toList = bytes)

/-- A recovery secret of exactly the right length. -/
def importRecoverySecret (bytes : ByteString) : Result RecoverySecret :=
  if exact : bytes.length = secretBytes then .ok ⟨⟨bytes, exact⟩⟩ else .error .corrupt

/-- What is stored is exactly the recovery secret. -/
def recoverySecretMatches (bytes : ByteString) (secret : RecoverySecret) : Bool :=
  decide (bytes.length = secretBytes) && decide (secret.bytes.toList = bytes)

theorem binaryMatches_iff {bytes : ByteString} {secret : LocalSecret} :
    binaryMatches bytes secret = true ↔ bytes = secret.bytes.toList := by
  simp only [binaryMatches, secretBytes, Bool.and_eq_true, decide_eq_true_eq]
  constructor
  · rintro ⟨-, h⟩
    exact h.symm
  · rintro rfl
    exact ⟨by simp, rfl⟩

theorem recoverySecretMatches_iff {bytes : ByteString} {secret : RecoverySecret} :
    recoverySecretMatches bytes secret = true ↔ bytes = secret.bytes.toList :=
  @binaryMatches_iff bytes ⟨secret.bytes⟩

theorem importBinary_eq_ok {bytes : ByteString} {secret : LocalSecret} :
    importBinary bytes = .ok secret ↔ bytes = secret.bytes.toList := by
  unfold importBinary
  split
  · rw [Except.ok.injEq, LocalSecret.ext_iff, Bytes.ext_iff]
  · rename_i hlength
    simp only [reduceCtorEq, false_iff]
    rintro rfl
    exact hlength secret.bytes.length_eq

theorem importRecoverySecret_eq_ok {bytes : ByteString} {secret : RecoverySecret} :
    importRecoverySecret bytes = .ok secret ↔ bytes = secret.bytes.toList := by
  unfold importRecoverySecret
  split
  · rw [Except.ok.injEq, RecoverySecret.ext_iff, Bytes.ext_iff]
  · rename_i hlength
    simp only [reduceCtorEq, false_iff]
    rintro rfl
    exact hlength secret.bytes.length_eq

/-- What creating says of one entry that is there already. -/
def compareStored (bytes : ByteString) (secret : LocalSecret) : Result Unit :=
  if binaryMatches bytes secret then .ok ()
  else if bytes.length = secretBytes then .error .alreadyExists
  else .error .corrupt

theorem compareStored_eq_ok {bytes : ByteString} {secret : LocalSecret} :
    compareStored bytes secret = .ok () ↔ bytes = secret.bytes.toList := by
  rw [← binaryMatches_iff, compareStored]
  split
  · rename_i h
    simp [h]
  · rename_i h
    split <;> simp [h]

theorem compareStored_toList (stored secret : Bytes 32) :
    compareStored stored.toList ⟨secret⟩ =
      if stored = secret then .ok () else .error .alreadyExists := by
  split
  · rename_i hsame
    rw [compareStored_eq_ok, hsame]
  · rename_i hother
    have hmatches : binaryMatches stored.toList ⟨secret⟩ = false := by
      rw [Bool.eq_false_iff]
      intro h
      exact hother (Bytes.ext (binaryMatches_iff.mp h))
    simp [compareStored, hmatches, secretBytes]

theorem recipientName_inj {a b : RecipientId} : recipientName a = recipientName b ↔ a = b := by
  constructor
  · intro h
    exact RecipientId.ext (Bytes.ext (hex_injective h))
  · rintro rfl
    rfl

theorem serviceName_inj {a b : ApplicationId} : serviceName a = serviceName b ↔ a = b :=
  append_string_inj.trans ApplicationId.asStr_inj

theorem recoveryServiceName_inj {a b : ApplicationId} :
    recoveryServiceName a = recoveryServiceName b ↔ a = b :=
  append_string_inj.trans ApplicationId.asStr_inj

/-- Local and recovery entries have different services. -/
theorem serviceName_ne (a b : ApplicationId) : serviceName a ≠ recoveryServiceName b :=
  append_string_ne 14 (c := 'l') (d := 'r') (by decide) (by decide) (by decide)

/-! ## What an outcome says -/

variable {E : Type}

/-- **`CreateTells holds key before r after`** — what the outcome of a creation says about the items
in `key`; `holds` is the entry that was to be created. -/
structure CreateTells (holds : E → Prop) (key : E → Bool) (before : Inventory E)
    (r : Result Unit) (after : Inventory E) : Prop where
  created : r = .ok () → ∃ i e, (after.filter key).Sole i e ∧ holds e
  /-- No item that was there is changed or gone, whatever its key. -/
  kept : ∀ i e, before i = some e → after i = some e
  certain : ∀ error, r = .error error → error ≠ .stateUncertain → after = before

/-- **`LoadTells holds key before r after`** — what the outcome of a load says; a loaded value is
the one of the sole entry. -/
structure LoadTells {α : Type} (holds : α → E → Prop) (key : E → Bool)
    (before : Inventory E) (r : Result α) (after : Inventory E) : Prop where
  loaded : ∀ a, r = .ok a → ∃ i e, (before.filter key).Sole i e ∧ holds a e
  unchanged : after = before

/-- **`RemoveTells key before r after`** — what the outcome of a removal says. -/
structure RemoveTells (key : E → Bool) (before : Inventory E) (r : Result Removal)
    (after : Inventory E) : Prop where
  removed : r = .ok .removed → (∃ i e, (before.filter key).Sole i e) ∧ (after.filter key).Vacant
  absent : r = .ok .absent → (before.filter key).Vacant ∧ after = before
  certain : ∀ error, r = .error error → error ≠ .stateUncertain → after = before

/-! ### Outcomes without a change -/

section Unchanged

variable {holds : E → Prop} {key : E → Bool} {s : Inventory E} {e : E} {i : Nat}

theorem CreateTells.of_eq {r : Result Unit}
    (h : r = .ok () → ∃ i e, (s.filter key).Sole i e ∧ holds e) : CreateTells holds key s r s where
  created := h
  kept _ _ h := h
  certain _ _ _ := rfl

theorem CreateTells.failed (error : StoreError) : CreateTells holds key s (.error error) s :=
  .of_eq (by simp)

theorem LoadTells.failed {α : Type} {holds : α → E → Prop} (error : StoreError) :
    LoadTells holds key s (.error error) s :=
  ⟨by simp, rfl⟩

theorem RemoveTells.failed (error : StoreError) : RemoveTells key s (.error error) s :=
  ⟨by simp, by simp, fun _ _ _ => rfl⟩

theorem RemoveTells.nothing (h : (s.filter key).Vacant) : RemoveTells key s (.ok .absent) s :=
  ⟨by simp, fun _ => ⟨h, rfl⟩, by simp⟩

/-- Nothing is said where the state is uncertain. -/
theorem RemoveTells.uncertain {s' : Inventory E} :
    RemoveTells key s (.error .stateUncertain) s' := by
  refine ⟨by simp, by simp, fun error herror hne => ?_⟩
  cases herror
  exact absurd rfl hne

theorem RemoveTells.erased (h : (s.filter key).Sole i e) :
    RemoveTells key s (.ok .removed) (s.erase i) := by
  refine ⟨fun _ => ⟨⟨i, e, h⟩, ?_⟩, by simp, by simp⟩
  rw [Inventory.filter_erase]
  exact h.vacant_erase

end Unchanged

end FidoKeyWrap.Platform
