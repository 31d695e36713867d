/-
# FidoKeyWrap.Platform.Outcomes — what a caller may conclude from the outcome of a native store.

The Secret Service and the two kinds of macos keychain settle a lost response by different means. A
caller sees one contract: `TellsTruth` is that contract for the local factors, over any world and the
operations of a store in it. A recovery secret behind user presence has the same contract with its
label in it, and its removal spares what carries another label.

The contract is about a world that nobody else changes during a call.
-/
import FidoKeyWrap.Platform.Linux
import FidoKeyWrap.Platform.Macos
import FidoKeyWrap.Platform.UserPresence

namespace FidoKeyWrap.Platform

open Interact Fallible

/-- **`TellsTruth step items key data create load remove`** — in every world of `step`, with any
items in it, an outcome of an operation says what the items of the key were and are. -/
structure TellsTruth {Sg : Signature} {σ E : Type} (step : σ → Event Sg → σ → Prop)
    (items : σ → Inventory E) (key : E → Bool) (data : E → ByteData.ByteString)
    (create : LocalSecret → Fallible Sg StoreError Unit) (load : Fallible Sg StoreError LocalSecret)
    (remove : Fallible Sg StoreError Removal) : Prop where
  create : ∀ secret s, Ends step s (create secret) fun r s' =>
    CreateTells (fun e => data e = secret.bytes.toList) key (items s) r (items s')
  load : ∀ s, Ends step s load fun r s' =>
    LoadTells (fun (secret : LocalSecret) e => data e = secret.bytes.toList) key (items s) r
      (items s')
  remove : ∀ s, Ends step s remove fun r s' => RemoveTells key (items s) r (items s')

/-- **The local stores tell the truth.** -/
theorem native_local_outcomes (application : ApplicationId) (recipient : RecipientId) :
    TellsTruth Linux.Step id (Linux.entryKey ⟨application⟩ recipient).selects Linux.Item.secret
      (Linux.create ⟨application⟩ recipient) (Linux.load ⟨application⟩ recipient)
      (Linux.remove ⟨application⟩ recipient) ∧
    ∀ kind, TellsTruth (Keychain.Step [Keychain.errSecDuplicateItem]) Keychain.Keychains.items
      (Macos.entryKey ⟨application, kind⟩ recipient).selects Keychain.Entry.data
      (Macos.create ⟨application, kind⟩ recipient) (Macos.load ⟨application, kind⟩ recipient)
      (Macos.remove ⟨application, kind⟩ recipient) := by
  constructor
  · exact {
      create := Linux.create_tells ⟨application⟩ recipient
      load := Linux.load_tells ⟨application⟩ recipient
      remove := Linux.remove_tells ⟨application⟩ recipient }
  · intro kind
    exact {
      create := Macos.create_tells ⟨application, kind⟩ recipient
      load := Macos.load_tells ⟨application, kind⟩ recipient
      remove := Macos.remove_tells ⟨application, kind⟩ recipient }

/-- **The user-presence store tells the truth**, and a removal deletes only under the fingerprint of
the expected secret. -/
theorem user_presence_outcomes [Primitives] (store : UserPresence.MacosUserPresenceStore)
    (recipient : RecipientId) (s : Keychain.Keychains) :
    (∀ secret, Ends (Keychain.Step UserPresence.refusals) s
      (UserPresence.create store recipient secret) fun r s' =>
        CreateTells
          (fun e => e.data = secret.bytes.toList ∧ e.label = UserPresence.itemLabel secret)
          (UserPresence.entryKey store recipient).selects s.items r s'.items) ∧
    (∀ expected, Ends (Keychain.Step UserPresence.refusals) s
      (UserPresence.remove store recipient expected) fun r s' =>
        RemoveTells (UserPresence.entryKey store recipient).selects s.items r s'.items ∧
          ∀ i e, s.items i = some e → e.label ≠ UserPresence.itemLabel expected →
            s'.items i = some e) ∧
    Ends (Keychain.Step UserPresence.refusals) s (UserPresence.load store recipient) fun r s' =>
      LoadTells (fun (secret : RecoverySecret) e =>
        e.data = secret.bytes.toList ∧ e.label = UserPresence.itemLabel secret)
        (UserPresence.entryKey store recipient).selects s.items r s'.items := by
  refine ⟨fun secret => ?_, fun expected => ?_, ?_⟩
  · exact UserPresence.create_tells store recipient secret s
  · exact UserPresence.remove_tells store recipient expected s
  · exact UserPresence.load_tells store recipient s

end FidoKeyWrap.Platform
