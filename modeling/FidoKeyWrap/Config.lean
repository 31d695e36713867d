/-
# FidoKeyWrap.Config — the limits an application sets for the native backend.

The core checks the timeouts to the nanosecond, the adapter to the millisecond, and each checks the
number of devices against a bound of its own. Durations are nanoseconds.
-/
import FidoKeyWrap.Native.Device
import FidoKeyWrap.Policy

namespace FidoKeyWrap

/-- A duration is counted in nanoseconds. -/
def nanosPerMillisecond : Nat := 1000000

namespace FidoConfig

/-- The most devices a configuration may ask for. -/
def hardMaxDevices : Nat := 32

/-- The check of `validate_timeout`. -/
def acceptsTimeout (timeout : Nat) : Bool :=
  !(timeout < nanosPerMillisecond
    || timeout % nanosPerMillisecond != 0
    || Native.i32Limit ≤ Native.asMillis timeout)

end FidoConfig

/-- **`FidoConfig`** — trusted, immutable limits for native security-key operations. -/
structure FidoConfig where
  operationTimeout : Nat
  selectionTimeout : Nat
  maxDevices : Nat
  operation : FidoConfig.acceptsTimeout operationTimeout = true
  selection : FidoConfig.acceptsTimeout selectionTimeout = true
  devices : 1 ≤ maxDevices ∧ maxDevices ≤ FidoConfig.hardMaxDevices

namespace FidoConfig

/-- A configuration that the adapter can use. -/
def new (operationTimeout selectionTimeout maxDevices : Nat) : Result FidoConfig :=
  if operation : acceptsTimeout operationTimeout = true then
    if selection : acceptsTimeout selectionTimeout = true then
      if devices : 1 ≤ maxDevices ∧ maxDevices ≤ hardMaxDevices then
        .ok { operationTimeout, selectionTimeout, maxDevices, operation, selection, devices }
      else .error .invalidFidoConfig
    else .error .invalidFidoConfig
  else .error .invalidFidoConfig

theorem acceptsTimeout_iff {timeout : Nat} :
    acceptsTimeout timeout = true ↔
      ∃ milliseconds, timeout = milliseconds * nanosPerMillisecond ∧
        1 ≤ milliseconds ∧ milliseconds < Native.i32Limit := by
  unfold acceptsTimeout nanosPerMillisecond Native.asMillis Native.i32Limit
  simp only [Bool.not_eq_true', Bool.or_eq_false_iff, decide_eq_false_iff_not, bne_eq_false_iff_eq]
  constructor
  · rintro ⟨⟨hone, hwhole⟩, hbound⟩
    exact ⟨timeout / 1000000, by omega, by omega, by omega⟩
  · rintro ⟨milliseconds, rfl, hone, hbound⟩
    omega

/-- A whole number of milliseconds is within the bounds of the adapter. -/
theorem asMillis_of_accepts {timeout : Nat} (h : acceptsTimeout timeout = true) :
    1 ≤ Native.asMillis timeout ∧ Native.asMillis timeout < Native.i32Limit := by
  obtain ⟨milliseconds, rfl, hone, hbound⟩ := acceptsTimeout_iff.mp h
  have hmillis : Native.asMillis (milliseconds * nanosPerMillisecond) = milliseconds :=
    Nat.mul_div_cancel milliseconds (by decide)
  rw [hmillis]
  exact ⟨hone, hbound⟩

/-- Thirty seconds. -/
def defaultOperationTimeout : Nat := 30 * 1000 * nanosPerMillisecond

/-- Twenty seconds. -/
def defaultSelectionTimeout : Nat := 20 * 1000 * nanosPerMillisecond

/-- The devices of the default configuration. -/
def defaultMaxDevices : Nat := 16

theorem accepts_defaultOperationTimeout : acceptsTimeout defaultOperationTimeout = true := by
  decide

theorem accepts_defaultSelectionTimeout : acceptsTimeout defaultSelectionTimeout = true := by
  decide

theorem accepts_defaultMaxDevices :
    1 ≤ defaultMaxDevices ∧ defaultMaxDevices ≤ hardMaxDevices := by
  decide

/-- `Default`. -/
def default : FidoConfig where
  operationTimeout := defaultOperationTimeout
  selectionTimeout := defaultSelectionTimeout
  maxDevices := defaultMaxDevices
  operation := accepts_defaultOperationTimeout
  selection := accepts_defaultSelectionTimeout
  devices := accepts_defaultMaxDevices

/-- What the core accepts, the adapter accepts. -/
theorem exists_native (config : FidoConfig) :
    ∃ native, Native.Config.new config.operationTimeout config.selectionTimeout config.maxDevices =
      .ok native := by
  have hdevices : 1 ≤ config.maxDevices ∧ config.maxDevices ≤ Native.hardMaxDevices :=
    config.devices
  unfold Native.Config.new
  rw [dif_pos (asMillis_of_accepts config.operation),
    dif_pos (asMillis_of_accepts config.selection), dif_pos hdevices]
  exact ⟨_, rfl⟩

end FidoConfig

end FidoKeyWrap
