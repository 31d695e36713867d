/-
# FidoKeyWrap.Tool.AtomicCreate — a new secret appears whole or not at all.

The file system is a set of names for inodes. While the tool creates the secret, any call may fail,
a failing write may have written a part, another process may create the destination between any two
calls and between the writes of one call, and an observer may look at the destination. The world
records what the other process put there and the first entry the observer saw.

`createAtomic` never touches an entry of the destination that it did not make, and what it makes is
complete when it appears (`atomic_create`). The one exception is a destination that has the very name
drawn for the temporary: there the temporary is the destination, and is filled in place.
-/
import FidoKeyWrap.Tool.Storage
import FidoKeyWrap.Lib.Triple

namespace FidoKeyWrap.Tool

open ByteData Interact

/-! ## The file system -/

/-- The number of an inode. -/
abbrev Inode := Nat

/-- What an inode is: a regular file, or anything else. -/
inductive Node where
  | file (content : ByteString) (mode : UInt32)
  | other (kind : Nat)
  deriving DecidableEq

/-- **`FileSystem`** — the names of inodes, the inodes, and the files the tool has open to write. -/
structure FileSystem where
  entry : Path → Option Inode
  node : Inode → Node
  opened : File → Option Inode

namespace FileSystem

/-- No name and no open file is the inode. -/
def Fresh (s : FileSystem) (i : Inode) : Prop :=
  (∀ path, s.entry path ≠ some i) ∧ ∀ file, s.opened file ≠ some i

/-- The entry at a path and its inode. -/
def «at» (s : FileSystem) (path : Path) : Option (Inode × Node) :=
  (s.entry path).map fun i => (i, s.node i)

/-- Change one directory entry. -/
def setEntry (s : FileSystem) (path : Path) (i : Option Inode) : FileSystem :=
  { s with entry := Function.update s.entry path i }

/-- Change one inode. -/
def setNode (s : FileSystem) (i : Inode) (node : Node) : FileSystem :=
  { s with node := Function.update s.node i node }

/-- Open a file. -/
def setOpened (s : FileSystem) (file : File) (i : Inode) : FileSystem :=
  { s with opened := Function.update s.opened file (some i) }

/-- The content grows by what one `write` took. -/
def append (s : FileSystem) (i : Inode) (bytes : ByteString) : FileSystem :=
  match s.node i with
  | .file content mode => s.setNode i (.file (content ++ bytes) mode)
  | .other _ => s

/-- Change the mode of an inode. -/
def chmod (s : FileSystem) (i : Inode) (mode : UInt32) : FileSystem :=
  match s.node i with
  | .file content _ => s.setNode i (.file content mode)
  | .other _ => s

theorem at_eq_of {s s' : FileSystem} {path : Path} (hentry : s'.entry path = s.entry path)
    (hnode : ∀ i, s.entry path = some i → s'.node i = s.node i) : s'.at path = s.at path := by
  unfold FileSystem.at
  rw [hentry]
  cases hpath : s.entry path with
  | none => rfl
  | some i => simp [hnode i hpath]

theorem entry_ne_none_of_at {s : FileSystem} {path : Path} {x : Inode × Node}
    (h : s.at path = some x) : s.entry path ≠ none := by
  intro hnone
  rw [FileSystem.at, hnone] at h
  cases h

end FileSystem

/-! ## The world -/

/-- **`World`** — the file system, what others put at the destination, and what was seen there. -/
structure World where
  fs : FileSystem
  others : Option (Inode × Node)
  seen : Option (Inode × Node)

/-- What others do between the calls: one creates the destination, which is not the file the tool
is filling, and one looks at it. -/
inductive Interferes (path : Path) : World → World → Prop
  | creates {w : World} {i : Inode} {node : Node} (free : w.fs.entry path = none)
      (other : ∀ file, w.fs.opened file ≠ some i) :
      Interferes path w { w with
        fs := (w.fs.setNode i node).setEntry path (some i), others := some (i, node) }
  | looks {w : World} (first : w.seen = none) :
      Interferes path w { w with seen := w.fs.at path }

/-- Any number of interferences. -/
abbrev Meanwhile (path : Path) : World → World → Prop := Relation.ReflTransGen (Interferes path)

/-- The writes of one `write_all`, with the others in between. -/
def Writes (path : Path) (i : Inode) : List ByteString → World → World → Prop
  | [], w, w' => w' = w
  | chunk :: rest, w, w' =>
    ∃ m, Meanwhile path { w with fs := w.fs.append i chunk } m ∧ Writes path i rest m w'

/-- The effect of a call. A call that fails has none, but for a write. -/
def Effect (path : Path) (w : World) : Event os → World → Prop
  | ⟨.createNew created mode, reply⟩, w' =>
    match (show Except IoError File from reply) with
    | .ok file => w.fs.entry created = none ∧ ∃ i umask, w.fs.Fresh i ∧ w' = { w with
        fs := ((w.fs.setNode i (.file [] (mode &&& ~~~umask))).setEntry created (some i)).setOpened
          file i }
    | .error _ => w' = w
  | ⟨.setPermissions file mode, reply⟩, w' =>
    match (show Except IoError Unit from reply) with
    | .ok () => ∃ i, w.fs.opened file = some i ∧ w' = { w with fs := w.fs.chmod i mode }
    | .error _ => w' = w
  | ⟨.writeAll file bytes, reply⟩, w' =>
    ∃ i chunks, w.fs.opened file = some i ∧ Writes path i chunks w w' ∧ chunks.flatten <+: bytes ∧
      ((show Except IoError Unit from reply) = .ok () → chunks.flatten = bytes)
  | ⟨.removeFile removed, reply⟩, w' =>
    match (show Except IoError Unit from reply) with
    | .ok () => w' = { w with fs := w.fs.setEntry removed none }
    | .error _ => w' = w
  | ⟨.hardLink original link, reply⟩, w' =>
    match (show Except IoError Unit from reply) with
    | .ok () => w.fs.entry link = none ∧ ∃ i, w.fs.entry original = some i ∧
        w' = { w with fs := w.fs.setEntry link (some i) }
    | .error _ => w' = w
  | _, w' => w' = w

/-- **`Step path`** — one call, and what the others do before and after it. -/
def Step (path : Path) (w : World) (event : Event os) (w' : World) : Prop :=
  ∃ w₁ w₂, Meanwhile path w w₁ ∧ Effect path w₁ event w₂ ∧ Meanwhile path w₂ w'

/-- The world when the call starts. -/
def World.start (fs : FileSystem) (path : Path) : World := ⟨fs, fs.at path, none⟩

/-- A file that is new since `s`, with this content and the private mode. -/
def New (s : FileSystem) (bytes : ByteString) (x : Inode × Node) : Prop :=
  x.2 = .file bytes privateMode ∧ ∀ path, s.entry path ≠ some x.1

/-- **`Creates path bytes s t r w`** — what an atomic exclusive creation promises of its run. -/
structure Creates (path : Path) (bytes : ByteString) (s : FileSystem) (t : Trace os)
    (r : Except String Unit) (w : World) : Prop where
  /-- What was seen stays as it was, and is another's or complete. -/
  seen : ∀ t₁ t₂ m, t = t₁ ++ t₂ → Interact.Path (Step path) (.start s path) t₁ m →
    ∀ x, m.seen = some x → m.fs.at path = some x ∧ (m.others = some x ∨ New s bytes x)
  ok : r = .ok () → ∃ x, w.fs.at path = some x ∧ New s bytes x
  /-- A failure leaves what the others made of the destination, or only the sync failed. -/
  error : ∀ e, r = .error e → w.fs.at path = w.others ∨
    e = "the secret was saved, but its directory sync failed" ∧
      ∃ x, w.fs.at path = some x ∧ New s bytes x
  temporary : ∀ created mode file, ⟨.createNew created mode, Except.ok file⟩ ∈ t →
    w.fs.entry created = none ∨ ∃ e, ⟨.removeFile created, Except.error e⟩ ∈ t

/-! ## Phases -/

section Phases

variable {path : Path} {bytes content : ByteString} {mode : UInt32} {s : FileSystem}
  {w w' : World} {q : Path} {file : File} {i : Inode} {x : Inode × Node}

/-- What holds of every state that is passed through. -/
def Good (path : Path) (bytes : ByteString) (s : FileSystem) (w : World) : Prop :=
  ∀ x, w.seen = some x → w.fs.at path = some x ∧ (w.others = some x ∨ New s bytes x)

/-- The destination is what the others made of it. -/
structure Spared (path : Path) (w : World) : Prop where
  others : w.fs.at path = w.others
  seen : ∀ x, w.seen = some x → w.others = some x

/-- The temporary is still to be made. -/
structure Before (path : Path) (s : FileSystem) (w : World) : Prop extends Spared path w where
  names : ∀ q i, s.entry q = some i → w.fs.entry q = some i

/-- The temporary `q` has a content and a mode, and its inode has no other name. -/
structure Filling (path : Path) (s : FileSystem) (q : Path) (file : File) (i : Inode)
    (content : ByteString) (mode : UInt32) (w : World) : Prop extends Spared path w where
  apart : q ≠ path
  entry : w.fs.entry q = some i
  only : ∀ q', w.fs.entry q' = some i → q' = q
  opened : w.fs.opened file = some i
  node : w.fs.node i = .file content mode
  new : ∀ q, s.entry q ≠ some i

/-- The destination is the complete file. -/
structure Linked (path : Path) (bytes : ByteString) (s : FileSystem) (x : Inode × Node)
    (w : World) : Prop where
  linked : w.fs.at path = some x
  whole : New s bytes x
  others : w.others = none
  seen : ∀ y, w.seen = some y → y = x

theorem Spared.good (h : Spared path w) : Good path bytes s w :=
  fun x hx => ⟨h.others.trans (h.seen x hx), .inl (h.seen x hx)⟩

theorem Linked.good (h : Linked path bytes s x w) : Good path bytes s w := by
  intro y hy
  obtain rfl := h.seen y hy
  exact ⟨h.linked, .inr h.whole⟩

/-- What others do keeps the phase. -/
def Stable (path : Path) (P : World → Prop) : Prop := ∀ w w', Interferes path w w' → P w → P w'

theorem Stable.meanwhile {P : World → Prop} (h : Stable path P) (hw : Meanwhile path w w')
    (hP : P w) : P w' := by
  induction hw with
  | refl => exact hP
  | tail _ hstep ih => exact h _ _ hstep ih

theorem stable_spared : Stable path (Spared path) := by
  intro w w' hw h
  cases hw with
  | @creates i node free other =>
      have hnone : w.others = none := by
        rw [← h.others, FileSystem.at, free]
        rfl
      refine ⟨by simp [FileSystem.at, FileSystem.setEntry, FileSystem.setNode], fun x hx => ?_⟩
      rw [h.seen x hx] at hnone
      cases hnone
  | looks first => exact ⟨h.others, fun x hx => h.others.symm.trans hx⟩

theorem stable_before : Stable path (Before path s) := by
  intro w w' hw h
  refine { toSpared := stable_spared w w' hw h.toSpared, names := fun q i hq => ?_ }
  cases hw with
  | creates free other =>
      have hne : q ≠ path := by
        rintro rfl
        rw [h.names q i hq] at free
        cases free
      simpa [FileSystem.setEntry, FileSystem.setNode, hne] using h.names q i hq
  | looks first => exact h.names q i hq

theorem stable_filling : Stable path (Filling path s q file i content mode) := by
  intro w w' hw h
  have hspared := stable_spared w w' hw h.toSpared
  cases hw with
  | @creates j node free other =>
      have hij : i ≠ j := fun hsame => other file (hsame ▸ h.opened)
      exact {
        toSpared := hspared
        apart := h.apart
        entry := by simpa [FileSystem.setEntry, FileSystem.setNode, h.apart] using h.entry
        only := by
          intro q' hq'
          by_cases hpath : q' = path
          · subst hpath
            simp only [FileSystem.setEntry, Function.update_self, Option.some.injEq] at hq'
            exact absurd hq'.symm hij
          · simp only [FileSystem.setEntry, FileSystem.setNode, ne_eq, hpath, not_false_eq_true,
              Function.update_of_ne] at hq'
            exact h.only q' hq'
        opened := h.opened
        node := by simpa [FileSystem.setEntry, FileSystem.setNode, hij] using h.node
        new := h.new }
  | looks first => exact { h with toSpared := hspared }

theorem stable_linked : Stable path (Linked path bytes s x) := by
  intro w w' hw h
  cases hw with
  | creates free other => exact absurd free (FileSystem.entry_ne_none_of_at h.linked)
  | looks first => exact { h with seen := fun y hy => Option.some.inj (hy.symm.trans h.linked) }

/-- Changes of the temporary's inode do not show at the destination. -/
theorem Filling.change {content' : ByteString} {mode' : UInt32}
    (h : Filling path s q file i content mode w) :
    Filling path s q file i content' mode'
      { w with fs := w.fs.setNode i (.file content' mode') } where
  others := by
    rw [← h.others]
    refine FileSystem.at_eq_of rfl fun j hj => ?_
    have hji : j ≠ i := by
      rintro rfl
      exact h.apart (h.only path hj).symm
    simp [FileSystem.setNode, hji]
  seen := h.seen
  apart := h.apart
  entry := h.entry
  only := h.only
  opened := h.opened
  node := by simp [FileSystem.setNode]
  new := h.new

theorem Filling.writes {chunks : List ByteString} (h : Filling path s q file i content mode w)
    (hw : Writes path i chunks w w') :
    Filling path s q file i (content ++ chunks.flatten) mode w' := by
  induction chunks generalizing w content with
  | nil =>
      cases hw
      simpa using h
  | cons chunk rest ih =>
      obtain ⟨m, hmeanwhile, hrest⟩ := hw
      have happend : Filling path s q file i (content ++ chunk) mode
          { w with fs := w.fs.append i chunk } := by
        rw [FileSystem.append, h.node]
        exact h.change
      have := ih (stable_filling.meanwhile hmeanwhile happend) hrest
      rwa [List.append_assoc] at this

/-- A temporary is made with a fresh inode. -/
theorem Before.createNew {umask : UInt32} (h : Before path s w) (hq : q ≠ path)
    (hfresh : w.fs.Fresh i) :
    Filling path s q file i [] (mode &&& ~~~umask) { w with
      fs := ((w.fs.setNode i (.file [] (mode &&& ~~~umask))).setEntry q (some i)).setOpened
        file i } where
  others := by
    rw [← h.others]
    refine FileSystem.at_eq_of ?_ fun j hj => ?_
    · simp [FileSystem.setOpened, FileSystem.setEntry, FileSystem.setNode, Ne.symm hq]
    · have hji : j ≠ i := by
        rintro rfl
        exact hfresh.1 path hj
      simp [FileSystem.setOpened, FileSystem.setEntry, FileSystem.setNode, hji]
  seen := h.seen
  apart := hq
  entry := by simp [FileSystem.setOpened, FileSystem.setEntry]
  only := by
    intro q' hq'
    by_contra hne
    simp only [FileSystem.setOpened, FileSystem.setEntry, FileSystem.setNode, ne_eq, hne,
      not_false_eq_true, Function.update_of_ne] at hq'
    exact hfresh.1 q' hq'
  opened := by simp [FileSystem.setOpened]
  node := by simp [FileSystem.setOpened, FileSystem.setEntry, FileSystem.setNode]
  new := fun q' hq' => hfresh.1 q' (h.names q' i hq')

/-- The temporary is given up. -/
theorem Spared.setEntry (h : Spared path w) (hq : q ≠ path) :
    Spared path { w with fs := w.fs.setEntry q none } where
  others := by
    rw [← h.others]
    refine FileSystem.at_eq_of ?_ fun j _ => rfl
    simp [FileSystem.setEntry, Ne.symm hq]
  seen := h.seen

/-- The destination becomes a name of the temporary's inode. -/
theorem Filling.hardLink (h : Filling path s q file i bytes privateMode w)
    (hentry : w.fs.entry path = none) :
    Linked path bytes s (i, .file bytes privateMode)
      { w with fs := w.fs.setEntry path (some i) } := by
  have hnone : w.others = none := by
    rw [← h.others, FileSystem.at, hentry]
    rfl
  refine ⟨?_, ⟨rfl, h.new⟩, hnone, fun y hy => ?_⟩
  · simp [FileSystem.at, FileSystem.setEntry, h.node]
  · rw [h.seen y hy] at hnone
    cases hnone

theorem Linked.setEntry (h : Linked path bytes s x w) (hq : q ≠ path) :
    Linked path bytes s x { w with fs := w.fs.setEntry q none } where
  linked := by
    rw [← h.linked]
    refine FileSystem.at_eq_of ?_ fun j _ => rfl
    simp [FileSystem.setEntry, Ne.symm hq]
  whole := h.whole
  others := h.others
  seen := h.seen

end Phases

/-! ## The creation -/

/-- The name drawn for a temporary is not the destination's. -/
def Distinct (path : Path) (event : Event os) : Prop :=
  ∀ random : Bytes 12, event = ⟨.random 12, some random⟩ →
    path.directory.join (temporaryName random) ≠ path

/-- A step that draws no name of the destination. -/
def DistinctStep (path : Path) (w : World) (event : Event os) (w' : World) : Prop :=
  Distinct path event ∧ Step path w event w'

section Creation

variable {path q : Path} {bytes : ByteString} {s : FileSystem} {α : Type}

/-- A condition that others keep, and that is good. -/
structure Phase (path : Path) (bytes : ByteString) (s : FileSystem) (P : World → Prop) : Prop where
  stable : Stable path P
  good : ∀ w, P w → Good path bytes s w

theorem phase_before : Phase path bytes s (Before path s) :=
  ⟨stable_before, fun _ h => h.toSpared.good⟩

/-- The temporary is being filled, its content and mode are in `A`. -/
def Fills (path : Path) (s : FileSystem) (q : Path) (file : File)
    (A : ByteString → UInt32 → Prop) (w : World) : Prop :=
  ∃ i content mode, Filling path s q file i content mode w ∧ A content mode

theorem phase_fills {file : File} {A : ByteString → UInt32 → Prop} :
    Phase path bytes s (Fills path s q file A) where
  stable := by
    rintro w w' hw ⟨i, content, mode, h, hA⟩
    exact ⟨i, content, mode, stable_filling w w' hw h, hA⟩
  good := by
    rintro w ⟨i, content, mode, h, -⟩
    exact h.toSpared.good

/-- The temporary is gone, if its removal succeeded. -/
def GivenUp (path q : Path) (removed : Except IoError Unit) (w : World) : Prop :=
  Spared path w ∧ q ≠ path ∧ (removed = .ok () → w.fs.entry q = none)

theorem phase_givenUp {removed : Except IoError Unit} :
    Phase path bytes s (GivenUp path q removed) where
  stable := by
    rintro w w' hw ⟨hspared, hq, hgone⟩
    refine ⟨stable_spared w w' hw hspared, hq, fun hr => ?_⟩
    cases hw with
    | creates free other => simpa [FileSystem.setEntry, FileSystem.setNode, hq] using hgone hr
    | looks first => exact hgone hr
  good := fun _ h => h.1.good

/-- **The rule of a call**: its effect leads from a phase to a phase. -/
theorem triple_call_bind {c : Call} {f : c.Reply → Os α} {P : World → Prop}
    {R : c.Reply → World → Prop} {Q : Trace os → Except String α → World → Prop}
    (hP : Phase path bytes s P) (hR : ∀ reply, Phase path bytes s (R reply))
    (heffect : ∀ reply w w', Distinct path ⟨c, reply⟩ → P w → Effect path w ⟨c, reply⟩ w' →
      R reply w')
    (hf : ∀ reply, Program.Triple (DistinctStep path) (Good path bytes s) (R reply) (f reply).run
      fun t => Q (⟨c, reply⟩ :: t)) :
    Program.Triple (DistinctStep path) (Good path bytes s) P (call c >>= f).run Q := by
  refine Fallible.triple_ask_bind hP.good (fun w reply w' hw hstep => ?_) hf
  obtain ⟨hdistinct, w₁, w₂, hbefore, hcall, hafter⟩ := hstep
  have hR₂ := heffect reply w₁ w₂ hdistinct (hP.stable.meanwhile hbefore hw) hcall
  have hR' := (hR reply).stable.meanwhile hafter hR₂
  exact ⟨(hR reply).good w' hR', hR'⟩

theorem fills_setPermissions {file : File} {reply : Except IoError Unit} {w w' : World}
    (h : Fills path s q file (fun content _ => content = []) w)
    (heffect : Effect path w ⟨.setPermissions file privateMode, reply⟩ w') :
    Fills path s q file
      (fun content mode => content = [] ∧ (reply = .ok () → mode = privateMode)) w' := by
  obtain ⟨i, content, mode, hfilling, rfl⟩ := h
  cases reply with
  | ok u =>
      obtain ⟨j, hj, rfl⟩ := heffect
      obtain rfl : j = i := Option.some.inj (hj.symm.trans hfilling.opened)
      rw [FileSystem.chmod, hfilling.node]
      exact ⟨j, [], privateMode, hfilling.change, rfl, fun _ => rfl⟩
  | error e =>
      obtain rfl : w' = w := heffect
      refine ⟨i, [], mode, hfilling, rfl, fun hr => ?_⟩
      cases hr

theorem fills_writeAll {file : File} {reply : Except IoError Unit} {w w' : World}
    (h : Fills path s q file (fun content mode => content = [] ∧ mode = privateMode) w)
    (heffect : Effect path w ⟨.writeAll file bytes, reply⟩ w') :
    Fills path s q file
      (fun content mode => (reply = .ok () → content = bytes) ∧ mode = privateMode) w' := by
  obtain ⟨i, content, mode, hfilling, rfl, rfl⟩ := h
  obtain ⟨j, chunks, hj, hwrites, -, hall⟩ := heffect
  obtain rfl : j = i := Option.some.inj (hj.symm.trans hfilling.opened)
  exact ⟨j, chunks.flatten, privateMode, hfilling.writes hwrites, hall, rfl⟩

/-- The temporary is private and complete when nothing failed. -/
theorem triple_fillTemporary {file : File} :
    Program.Triple (DistinctStep path) (Good path bytes s)
      (Fills path s q file fun content _ => content = []) (fillTemporary file bytes).run
      fun _ r => Fills path s q file
        fun content mode => r = .ok () → content = bytes ∧ mode = privateMode := by
  refine triple_call_bind phase_fills (fun _ => phase_fills)
    (fun reply w w' _ => fills_setPermissions) fun reply => ?_
  refine Fallible.triple_except_bind phase_fills.good ?_ fun _ hok => ?_
  · rintro e he w ⟨i, content, mode, h, -⟩
    refine ⟨i, content, mode, h, fun hr => ?_⟩
    cases hr
  · have hreply : reply = Except.ok () := context_eq_ok.mp hok
    have hfilling : ∀ w, Fills path s q file
        (fun content mode => content = [] ∧ (reply = Except.ok () → mode = privateMode)) w →
        Fills path s q file (fun content mode => content = [] ∧ mode = privateMode) w := by
      rintro w ⟨i, content, mode, h, hempty, hmode⟩
      exact ⟨i, content, mode, h, hempty, hmode hreply⟩
    refine Program.Triple.mono ?_ hfilling fun _ _ _ h => h
    refine triple_call_bind phase_fills (fun _ => phase_fills)
      (fun reply w w' _ => fills_writeAll) fun written => ?_
    refine Fallible.triple_except_bind phase_fills.good ?_ fun _ hok' => ?_
    · rintro e he w ⟨i, content, mode, h, -⟩
      refine ⟨i, content, mode, h, fun hr => ?_⟩
      cases hr
    · have hwritten : written = Except.ok () := context_eq_ok.mp hok'
      refine triple_call_bind phase_fills (fun _ => phase_fills)
        (R := fun _ => Fills path s q file fun content mode => content = bytes ∧ mode = privateMode)
        ?_ fun synced => ?_
      · rintro _ w w' - ⟨i, content, mode, h, hbytes, hmode⟩ heffect
        obtain rfl : w' = w := heffect
        exact ⟨i, content, mode, h, hbytes hwritten, hmode⟩
      · refine Program.triple_pure phase_fills.good ?_
        rintro w ⟨i, content, mode, h, hfull⟩
        exact ⟨i, content, mode, h, fun _ => hfull⟩

/-- The call makes no file. -/
def MakesNone (event : Event os) : Prop :=
  ∀ created mode, event.query ≠ Call.createNew created mode

theorem makesNone_fillTemporary {file : File} :
    Program.Every MakesNone (fillTemporary file bytes).run := by
  refine Fallible.every_bind (every_call fun _ _ _ h => by cases h) fun _ => ?_
  refine Fallible.every_bind (Fallible.every_except _) fun _ => ?_
  refine Fallible.every_bind (every_call fun _ _ _ h => by cases h) fun _ => ?_
  refine Fallible.every_bind (Fallible.every_except _) fun _ => ?_
  refine Fallible.every_bind (every_call fun _ _ _ h => by cases h) fun _ => ?_
  exact Fallible.every_except _

theorem makesNone_syncParent : Program.Every MakesNone (syncParent path).run := by
  refine Fallible.every_bind (every_call fun _ _ _ h => by cases h) fun _ => ?_
  refine Fallible.every_bind (Fallible.every_except _) fun _ => ?_
  refine Fallible.every_bind (every_call fun _ _ _ h => by cases h) fun _ => ?_
  exact Fallible.every_except _

theorem makesNone_removeFile (q : Path) (removed : Except IoError Unit) :
    ∀ event ∈ ([⟨.removeFile q, removed⟩] : Trace os), MakesNone event := by
  intro event hmem created mode heq
  rw [List.mem_singleton.mp hmem] at heq
  cases heq

/-- Only `q` has been made. -/
def OnlyMade (q : Path) (t : Trace os) : Prop :=
  ∀ created mode file, ⟨.createNew created mode, Except.ok file⟩ ∈ t → created = q

theorem OnlyMade.append {t t' : Trace os} (h : OnlyMade q t) (h' : OnlyMade q t') :
    OnlyMade q (t ++ t') := fun created mode file hmem =>
  (List.mem_append.mp hmem).elim (h created mode file) (h' created mode file)

theorem onlyMade_of_makesNone {t : Trace os} (h : ∀ event ∈ t, MakesNone event) : OnlyMade q t :=
  fun created mode _ hmem => absurd rfl (h _ hmem created mode)

/-- Every file that was made has gone, or could not be removed. -/
def Cleared (t : Trace os) (w : World) : Prop :=
  ∀ created mode file, ⟨.createNew created mode, Except.ok file⟩ ∈ t →
    w.fs.entry created = none ∨ ∃ e, ⟨.removeFile created, Except.error e⟩ ∈ t

/-- The removal of the one file that was made clears it. -/
theorem OnlyMade.cleared {t : Trace os} {removed : Except IoError Unit} {w : World}
    (h : OnlyMade q t) (hremoved : ⟨.removeFile q, removed⟩ ∈ t)
    (hgone : removed = .ok () → w.fs.entry q = none) : Cleared t w := by
  intro created mode file hmem
  obtain rfl := h created mode file hmem
  cases removed with
  | ok u => exact .inl (hgone rfl)
  | error e => exact .inr ⟨e, hremoved⟩

/-- What `write_temporary` leaves. -/
def Written (path : Path) (bytes : ByteString) (s : FileSystem) (t : Trace os)
    (r : Except String Path) (w : World) : Prop :=
  match r with
  | .ok q => OnlyMade q t ∧ ∃ file, Fills path s q file
      (fun content mode => content = bytes ∧ mode = privateMode) w
  | .error _ => Spared path w ∧ Cleared t w

/-- An event that makes nothing may precede. -/
theorem Written.cons {event : Event os} {t : Trace os} {r : Except String Path} {w : World}
    (h : Written path bytes s t r w)
    (hmakes : ∀ created mode file, event ≠ ⟨.createNew created mode, Except.ok file⟩) :
    Written path bytes s (event :: t) r w := by
  cases r with
  | ok q =>
      refine ⟨fun created mode file hmem => ?_, h.2⟩
      rcases List.mem_cons.mp hmem with heq | hmem
      · exact absurd heq.symm (hmakes created mode file)
      · exact h.1 created mode file hmem
  | error e =>
      refine ⟨h.1, fun created mode file hmem => ?_⟩
      rcases List.mem_cons.mp hmem with heq | hmem
      · exact absurd heq.symm (hmakes created mode file)
      · exact (h.2 created mode file hmem).imp id fun ⟨e, he⟩ => ⟨e, List.mem_cons_of_mem _ he⟩

/-- A name was drawn. -/
def BeforeNamed (path : Path) (s : FileSystem) (drawn : Option (Bytes 12)) (w : World) : Prop :=
  Before path s w ∧
    ∀ random, drawn = some random → path.directory.join (temporaryName random) ≠ path

theorem phase_beforeNamed {drawn : Option (Bytes 12)} :
    Phase path bytes s (BeforeNamed path s drawn) :=
  ⟨fun w w' hw h => ⟨stable_before w w' hw h.1, h.2⟩, fun _ h => h.1.toSpared.good⟩

/-- The state after an attempt to make the temporary. -/
def AfterCreate (path : Path) (s : FileSystem) (q : Path) (reply : Except IoError File)
    (w : World) : Prop :=
  match reply with
  | .ok file => Fills path s q file (fun content _ => content = []) w
  | .error _ => Before path s w

theorem phase_afterCreate {reply : Except IoError File} :
    Phase path bytes s (AfterCreate path s q reply) := by
  cases reply with
  | ok file => exact phase_fills
  | error e => exact phase_before

theorem afterCreate_of_effect {reply : Except IoError File} {w w' : World} (hq : q ≠ path)
    (h : Before path s w) (heffect : Effect path w ⟨.createNew q privateMode, reply⟩ w') :
    AfterCreate path s q reply w' := by
  cases reply with
  | ok file =>
      obtain ⟨-, i, umask, hfresh, rfl⟩ := heffect
      exact ⟨i, [], _, h.createNew hq hfresh, rfl⟩
  | error e =>
      obtain rfl : w' = w := heffect
      exact h

theorem givenUp_of_effect {reply : Except IoError Unit} {w w' : World} (hq : q ≠ path)
    (h : Spared path w) (heffect : Effect path w ⟨.removeFile q, reply⟩ w') :
    GivenUp path q reply w' := by
  cases reply with
  | ok u =>
      obtain rfl := heffect
      exact ⟨h.setEntry hq, hq, fun _ => by simp [FileSystem.setEntry]⟩
  | error e =>
      obtain rfl : w' = w := heffect
      refine ⟨h, hq, fun hr => ?_⟩
      cases hr

/-- The temporary exists: it is filled, or removed. -/
theorem triple_filled {file : File} {before : Trace os}
    (hbefore : OnlyMade q before) :
    Program.Triple (DistinctStep path) (Good path bytes s)
      (Fills path s q file fun content _ => content = [])
      (do
        match ← Fallible.outcome (fillTemporary file bytes) with
        | .ok () => return q
        | .error error =>
          let _ ← call (.removeFile q)
          throw error : Os Path).run fun t => Written path bytes s (before ++ t) := by
  have hfill : Program.Triple (DistinctStep path) (Good path bytes s)
      (Fills path s q file fun content _ => content = []) (fillTemporary file bytes).run
      fun _ r => Fills path s q file
        fun content mode => r = .ok () → content = bytes ∧ mode = privateMode :=
    triple_fillTemporary
  refine Fallible.triple_outcome_bind hfill.run fun t₁ r => ?_
  cases r with
  | ok u =>
      refine Program.triple_pure (fun w h => phase_fills.good w h.2) ?_
      rintro w ⟨hrun, i, content, mode, hfilling, hfull⟩
      have hquiet := makesNone_fillTemporary t₁ _ hrun
      refine ⟨?_, file, i, content, mode, hfilling, hfull rfl⟩
      rw [List.append_nil]
      exact hbefore.append (onlyMade_of_makesNone hquiet)
  | error e =>
      rintro w t r ⟨hrun, hfills⟩ hremove
      have hmade : OnlyMade q (before ++ t₁) :=
        hbefore.append (onlyMade_of_makesNone (makesNone_fillTemporary t₁ _ hrun))
      have hgivenUp : Program.Triple (DistinctStep path) (Good path bytes s)
          (Fills path s q file fun content mode =>
            Except.error e = Except.ok () → content = bytes ∧ mode = privateMode)
          (do
            let _ ← call (.removeFile q)
            throw e : Os Path).run fun t₂ => Written path bytes s (before ++ (t₁ ++ t₂)) := by
        refine triple_call_bind phase_fills (R := GivenUp path q) (fun _ => phase_givenUp) ?_
          fun removed => ?_
        · rintro reply w w' - ⟨i, content, mode, hfilling, -⟩ heffect
          exact givenUp_of_effect hfilling.apart hfilling.toSpared heffect
        · refine Fallible.triple_throw phase_givenUp.good fun w h => ⟨h.1, ?_⟩
          rw [← List.append_assoc]
          have hremoved := hmade.append (onlyMade_of_makesNone (makesNone_removeFile q removed))
          exact hremoved.cleared (by simp) h.2.2
      exact hgivenUp w t r hfills hremove

/-- The loop draws names until one is free. -/
theorem triple_writeTemporaryIn (attempts : Nat) :
    Program.Triple (DistinctStep path) (Good path bytes s) (Before path s)
      (writeTemporaryIn path.directory bytes attempts).run (Written path bytes s) := by
  induction attempts with
  | zero =>
      refine Fallible.triple_throw phase_before.good fun w h => ⟨h.toSpared, ?_⟩
      intro created mode file hmem
      cases hmem
  | succ attempts ih =>
      refine triple_call_bind phase_before (R := BeforeNamed path s)
        (fun _ => phase_beforeNamed) ?_ fun drawn => ?_
      · intro drawn w w' hdistinct h heffect
        obtain rfl : w' = w := heffect
        exact ⟨h, fun random hdrawn => hdistinct random (hdrawn ▸ rfl)⟩
      · refine Fallible.triple_except_bind phase_beforeNamed.good ?_ fun random hrandom => ?_
        · intro e he w h
          refine ⟨h.1.toSpared, fun created mode file hmem => ?_⟩
          cases List.mem_singleton.mp hmem
        · rw [okOr_eq_ok] at hrandom
          subst hrandom
          refine triple_call_bind phase_beforeNamed (fun _ => phase_afterCreate)
            (fun reply w w' _ h => afterCreate_of_effect (h.2 random rfl) h.1) fun reply => ?_
          cases reply with
          | ok file =>
              have hbefore : OnlyMade (path.directory.join (temporaryName random))
                  [⟨.random 12, some random⟩, ⟨.createNew (path.directory.join
                    (temporaryName random)) privateMode, Except.ok file⟩] := by
                intro created mode file' hmem
                simp only [List.mem_cons, List.not_mem_nil, or_false] at hmem
                rcases hmem with heq | heq
                · cases heq
                · cases heq
                  rfl
              exact triple_filled hbefore
          | error e =>
              have hcons : ∀ t r w, Written path bytes s t r w →
                  Written path bytes s (⟨.random 12, some random⟩ :: ⟨.createNew
                    (path.directory.join (temporaryName random)) privateMode,
                    Except.error e⟩ :: t) r w := fun t r w h =>
                (h.cons fun _ _ _ heq => by cases heq).cons fun _ _ _ heq => by cases heq
              cases e with
              | alreadyExists => exact ih.mono (fun _ h => h) hcons
              | _ =>
                  refine Fallible.triple_throw phase_before.good fun w h => hcons [] _ w ⟨h.toSpared, ?_⟩
                  intro created mode file hmem
                  cases hmem

/-- What a creation leaves. -/
structure Left (path : Path) (bytes : ByteString) (s : FileSystem) (t : Trace os)
    (r : Except String Unit) (w : World) : Prop where
  ok : r = .ok () → ∃ x, w.fs.at path = some x ∧ New s bytes x
  error : ∀ e, r = .error e → w.fs.at path = w.others ∨
    e = "the secret was saved, but its directory sync failed" ∧
      ∃ x, w.fs.at path = some x ∧ New s bytes x
  cleared : Cleared t w

/-- The state after an attempt to link the temporary. -/
def AfterLink (path : Path) (bytes : ByteString) (s : FileSystem) (q : Path)
    (reply : Except IoError Unit) (w : World) : Prop :=
  q ≠ path ∧ match reply with
    | .ok _ => ∃ x, Linked path bytes s x w
    | .error _ => Spared path w

theorem phase_afterLink {reply : Except IoError Unit} :
    Phase path bytes s (AfterLink path bytes s q reply) := by
  cases reply with
  | ok u =>
      refine ⟨?_, ?_⟩
      · rintro w w' hw ⟨hq, x, h⟩
        exact ⟨hq, x, stable_linked w w' hw h⟩
      · rintro w ⟨-, x, h⟩
        exact h.good
  | error e => exact ⟨fun w w' hw h => ⟨h.1, stable_spared w w' hw h.2⟩, fun _ h => h.2.good⟩

theorem afterLink_of_effect {file : File} {reply : Except IoError Unit} {w w' : World}
    (h : Fills path s q file (fun content mode => content = bytes ∧ mode = privateMode) w)
    (heffect : Effect path w ⟨.hardLink q path, reply⟩ w') :
    AfterLink path bytes s q reply w' := by
  obtain ⟨i, content, mode, hfilling, rfl, rfl⟩ := h
  cases reply with
  | ok u =>
      obtain ⟨hfree, j, hj, rfl⟩ := heffect
      obtain rfl : j = i := Option.some.inj (hj.symm.trans hfilling.entry)
      exact ⟨hfilling.apart, _, hfilling.hardLink hfree⟩
  | error e =>
      obtain rfl : w' = w := heffect
      exact ⟨hfilling.apart, hfilling.toSpared⟩

/-- The destination is complete, and the temporary is gone if its removal succeeded. -/
def Saved (path : Path) (bytes : ByteString) (s : FileSystem) (q : Path)
    (removed : Except IoError Unit) (w : World) : Prop :=
  (∃ x, Linked path bytes s x w) ∧ q ≠ path ∧ (removed = .ok () → w.fs.entry q = none)

theorem phase_saved {removed : Except IoError Unit} :
    Phase path bytes s (Saved path bytes s q removed) where
  stable := by
    rintro w w' hw ⟨⟨x, h⟩, hq, hgone⟩
    refine ⟨⟨x, stable_linked w w' hw h⟩, hq, fun hr => ?_⟩
    cases hw with
    | creates free other => exact absurd free (FileSystem.entry_ne_none_of_at h.linked)
    | looks first => exact hgone hr
  good := by
    rintro w ⟨⟨x, h⟩, -⟩
    exact h.good

theorem saved_of_effect {reply : Except IoError Unit} {w w' : World} {u : Unit}
    (h : AfterLink path bytes s q (.ok u) w) (heffect : Effect path w ⟨.removeFile q, reply⟩ w') :
    Saved path bytes s q reply w' := by
  obtain ⟨hq, x, hlinked⟩ := h
  cases reply with
  | ok u =>
      obtain rfl := heffect
      exact ⟨⟨x, hlinked.setEntry hq⟩, hq, fun _ => by simp [FileSystem.setEntry]⟩
  | error e =>
      obtain rfl : w' = w := heffect
      refine ⟨⟨x, hlinked⟩, hq, fun hr => ?_⟩
      cases hr

/-- The sync changes nothing. -/
theorem keeps_syncParent {P : World → Prop} (hP : Phase path bytes s P) :
    Program.Every (Keeps (DistinctStep path) P) (syncParent path).run := by
  have hkeep : ∀ event : Event os, (∀ w w', Effect path w event w' → w' = w) →
      Keeps (DistinctStep path) P event := by
    rintro event hsame w w' ⟨-, w₁, w₂, hbefore, heffect, hafter⟩ hw
    obtain rfl := hsame w₁ w₂ heffect
    exact hP.stable.meanwhile hafter (hP.stable.meanwhile hbefore hw)
  refine Fallible.every_bind (every_call fun _ => hkeep _ fun _ _ h => h) fun _ => ?_
  refine Fallible.every_bind (Fallible.every_except _) fun _ => ?_
  refine Fallible.every_bind (every_call fun _ => hkeep _ fun _ _ h => h) fun _ => ?_
  exact Fallible.every_except _

/-- The complete temporary is linked, then removed. -/
theorem triple_linked {file : File} {before : Trace os} (hbefore : OnlyMade q before) :
    Program.Triple (DistinctStep path) (Good path bytes s)
      (Fills path s q file fun content mode => content = bytes ∧ mode = privateMode)
      (do
        match ← call (.hardLink q path) with
        | .error _ =>
          let _ ← call (.removeFile q)
          throw "failed to save the new secret"
        | .ok () =>
          let _ ← call (.removeFile q)
          match ← Fallible.outcome (syncParent path) with
          | .ok () => return ()
          | .error _ => throw "the secret was saved, but its directory sync failed" :
            Os Unit).run fun t => Left path bytes s (before ++ t) := by
  have hmade : ∀ {linked removed : Except IoError Unit} {t : Trace os},
      (∀ event ∈ t, MakesNone event) → OnlyMade q
        (before ++ ⟨.hardLink q path, linked⟩ :: ⟨.removeFile q, removed⟩ :: t) := by
    intro linked removed t hquiet
    refine hbefore.append (onlyMade_of_makesNone fun event hmem => ?_)
    rcases List.mem_cons.mp hmem with rfl | hmem
    · intro created mode heq
      cases heq
    · rcases List.mem_cons.mp hmem with rfl | hmem
      · intro created mode heq
        cases heq
      · exact hquiet event hmem
  refine triple_call_bind phase_fills (R := AfterLink path bytes s q) (fun _ => phase_afterLink)
    (fun reply w w' _ => afterLink_of_effect) fun linked => ?_
  cases linked with
  | error e =>
      refine triple_call_bind phase_afterLink (R := GivenUp path q) (fun _ => phase_givenUp)
        (fun reply w w' _ h => givenUp_of_effect h.1 h.2) fun removed => ?_
      refine Fallible.triple_throw phase_givenUp.good fun w h => ⟨fun hr => ?_, ?_, ?_⟩
      · cases hr
      · exact fun _ _ => .inl h.1.others
      · refine (hmade (t := []) fun event hmem => ?_).cleared (by simp) h.2.2
        cases hmem
  | ok u =>
      refine triple_call_bind phase_afterLink (R := Saved path bytes s q) (fun _ => phase_saved)
        (fun reply w w' _ => saved_of_effect) fun removed => ?_
      have hsaved : Phase path bytes s (Saved path bytes s q removed) := phase_saved
      have hsync := Program.triple_keeps (keeps_syncParent hsaved) hsaved.good
      refine Fallible.triple_outcome_bind hsync fun t₁ r => ?_
      have hquiet : ∀ r, (syncParent path).run.Runs t₁ r → ∀ event ∈ t₁, MakesNone event :=
        fun r hrun => makesNone_syncParent t₁ r hrun
      cases r with
      | ok u =>
          refine Program.triple_pure (fun w h => phase_saved.good w h.2) fun w h => ?_
          obtain ⟨hrun, ⟨x, hlinked⟩, -, hgone⟩ := h
          refine ⟨fun _ => ⟨x, hlinked.linked, hlinked.whole⟩, fun _ hr => ?_, ?_⟩
          · cases hr
          · rw [List.append_nil]
            exact (hmade (hquiet _ hrun)).cleared (by simp) hgone
      | error e =>
          refine Fallible.triple_throw (fun w h => phase_saved.good w h.2) fun w h => ?_
          obtain ⟨hrun, ⟨x, hlinked⟩, -, hgone⟩ := h
          refine ⟨fun hr => ?_, fun e he => ?_, ?_⟩
          · cases hr
          · cases he
            exact .inr ⟨rfl, x, hlinked.linked, hlinked.whole⟩
          · rw [List.append_nil]
            exact (hmade (hquiet _ hrun)).cleared (by simp) hgone

theorem triple_createAtomic :
    Program.Triple (DistinctStep path) (Good path bytes s) (Before path s)
      (createAtomic path bytes).run (Left path bytes s) := by
  refine Fallible.triple_except_bind phase_before.good ?_ fun _ _ => ?_
  · intro e _ w h
    refine ⟨fun hr => ?_, fun _ _ => .inl h.others, fun _ _ _ hmem => ?_⟩
    · cases hr
    · cases hmem
  · refine Fallible.triple_bind (triple_writeTemporaryIn 32) ?_ fun t₁ q => ?_
    · rintro t e w ⟨hspared, hcleared⟩
      refine ⟨hspared.good, ⟨fun hr => ?_, fun _ _ => .inl hspared.others, hcleared⟩⟩
      cases hr
    · rintro w t r ⟨hmade, file, hfills⟩ hrun
      exact triple_linked hmade w t r hfills hrun

theorem before_start : Before path s (.start s path) where
  others := rfl
  seen := by
    intro x hx
    cases hx
  names := fun _ _ h => h

end Creation

/-- **`atomic_create`** — when no name drawn for the temporary is the destination's own, a creation
is atomic and exclusive: whatever fails and whoever else creates the destination, an entry that was
seen there stays, and is another's or complete; success leaves a new complete private file, a failure
leaves the destination to the others unless only the sync failed, and a temporary stays only if its
removal failed. -/
theorem atomic_create (path : Path) (bytes : ByteString) (s : FileSystem) (t : Trace os)
    (r : Except String Unit) (w : World) (hrun : (createAtomic path bytes).run.Runs t r)
    (hworld : Interact.Path (Step path) (.start s path) t w)
    (hname : ∀ random : Bytes 12, ⟨.random 12, some random⟩ ∈ t →
      path.directory.join (temporaryName random) ≠ path) : Creates path bytes s t r w := by
  obtain ⟨hgood, hleft⟩ := triple_createAtomic (.start s path) t r before_start hrun
  have hdistinct : ∀ event ∈ t, Distinct path event := by
    rintro event hmem random rfl
    exact hname random hmem
  have hend := hleft w (hworld.guarded hdistinct)
  refine ⟨fun t₁ t₂ m hsplit hpath => ?_, hend.ok, hend.error, hend.cleared⟩
  refine hgood t₁ t₂ m hsplit (hpath.guarded fun event hmem => hdistinct event ?_)
  rw [hsplit]
  exact List.mem_append_left t₂ hmem

namespace Vector

/-- A file system without files. -/
def nothing : FileSystem := ⟨fun _ => none, fun _ => .other 0, fun _ => none⟩

theorem fresh_nothing : nothing.Fresh 0 := by
  refine ⟨fun _ h => ?_, fun _ h => ?_⟩ <;> cases h

/-- `/secret.fkw`. -/
def secretPath : Path := ⟨true, [.normal "secret.fkw"]⟩

/-- Every call succeeds. -/
def willing (c : Call) : Option c.Reply :=
  match c with
  | .random n => some (some (Bytes.zero n))
  | .createNew _ _ | .openDirectory _ => some (.ok (0 : Nat))
  | .setPermissions _ _ | .writeAll _ _ | .syncAll _ | .removeFile _ | .hardLink _ _ => some (.ok ())
  | _ => none

end Vector

/-- A secret is saved in an empty file system. -/
theorem secret_created :
    ∃ t w, Creates Vector.secretPath [1] Vector.nothing t (.ok ()) w := by
  let temporary := Path.join ⟨true, []⟩ (temporaryName (Bytes.zero 12))
  let t : Trace os :=
    [⟨.random 12, some (Bytes.zero 12)⟩, ⟨.createNew temporary privateMode, Except.ok (0 : Nat)⟩,
      ⟨.setPermissions 0 privateMode, Except.ok ()⟩, ⟨.writeAll 0 [1], Except.ok ()⟩,
      ⟨.syncAll 0, Except.ok ()⟩, ⟨.hardLink temporary Vector.secretPath, Except.ok ()⟩,
      ⟨.removeFile temporary, Except.ok ()⟩,
      ⟨.openDirectory ⟨true, []⟩, Except.ok (0 : Nat)⟩, ⟨.syncAll 0, Except.ok ()⟩]
  have hexec : (createAtomic Vector.secretPath [1]).run.exec? (fun _ => Vector.willing) [] =
      some (t, .ok ()) := rfl
  have hworld : ∃ w, Interact.Path (Step Vector.secretPath)
      (.start Vector.nothing Vector.secretPath) t w :=
    ⟨_, _, ⟨_, _, .refl, rfl, .refl⟩, _, ⟨_, _, .refl, ⟨rfl, 0, 0, Vector.fresh_nothing, rfl⟩, .refl⟩,
      _, ⟨_, _, .refl, ⟨0, rfl, rfl⟩, .refl⟩,
      _, ⟨_, _, .refl, ⟨0, [[1]], rfl, ⟨_, .refl, rfl⟩, List.prefix_rfl, fun _ => rfl⟩, .refl⟩,
      _, ⟨_, _, .refl, rfl, .refl⟩, _, ⟨_, _, .refl, ⟨by decide, 0, by decide, rfl⟩, .refl⟩,
      _, ⟨_, _, .refl, rfl, .refl⟩, _, ⟨_, _, .refl, rfl, .refl⟩, _, ⟨_, _, .refl, rfl, .refl⟩, rfl⟩
  obtain ⟨w, hpath⟩ := hworld
  refine ⟨t, w, atomic_create _ _ _ _ _ _ (Program.runs_of_exec? hexec) hpath ?_⟩
  intro random hmem
  have hzero : random = Bytes.zero 12 := by
    rcases List.mem_cons.mp hmem with heq | hmem
    · cases heq
      rfl
    · simp at hmem
  rw [hzero]
  decide

namespace Vector

/-- The name of the temporary when twelve zeros are drawn. -/
def destination : Path := Path.join ⟨true, []⟩ (temporaryName (Bytes.zero 12))

/-- Zeros are drawn, and the permissions cannot be set. -/
def unprivate (c : Call) : Option c.Reply :=
  match c with
  | .random n => some (some (Bytes.zero n))
  | .createNew _ _ => some (.ok (0 : Nat))
  | .setPermissions _ _ => some (.error .other)
  | .removeFile _ => some (.ok ())
  | _ => none

def unprivateTrace : Trace os :=
  [⟨.random 12, some (Bytes.zero 12)⟩, ⟨.createNew destination privateMode, Except.ok (0 : Nat)⟩,
    ⟨.setPermissions 0 privateMode, Except.error IoError.other⟩,
    ⟨.removeFile destination, Except.ok ()⟩]

/-- The file system once the temporary exists. -/
def made : FileSystem :=
  ((nothing.setNode 0 (.file [] (privateMode &&& ~~~0))).setEntry destination (some 0)).setOpened 0 0

/-- The temporary was seen at the destination. -/
def peeked : World := ⟨made, none, made.at destination⟩

theorem path_peeked :
    Interact.Path (Step destination) (.start nothing destination) (unprivateTrace.take 2) peeked := by
  have hmade : Effect destination (.start nothing destination)
      ⟨.createNew destination privateMode, Except.ok (0 : Nat)⟩ ⟨made, none, none⟩ :=
    ⟨rfl, 0, 0, fresh_nothing, rfl⟩
  have hlooks : Interferes destination ⟨made, none, none⟩ peeked := .looks rfl
  exact ⟨_, ⟨_, _, .refl, rfl, .refl⟩, _, ⟨_, _, .refl, hmade, .single hlooks⟩, rfl⟩

end Vector

/-- A destination that has the name drawn for the temporary is seen while it is still empty. -/
theorem temporary_seen_at_destination :
    ¬ ∀ (path : Path) (bytes : ByteString) (s : FileSystem) (t : Trace os) (r : Except String Unit)
      (w : World), (createAtomic path bytes).run.Runs t r →
        Interact.Path (Step path) (.start s path) t w → Creates path bytes s t r w := by
  intro h
  have hexec : (createAtomic Vector.destination [1]).run.exec? (fun _ => Vector.unprivate) [] =
      some (Vector.unprivateTrace,
        .error "failed to set private temporary-secret permissions") := rfl
  have hremoved : Interact.Path (Step Vector.destination) Vector.peeked (Vector.unprivateTrace.drop 2)
      { Vector.peeked with fs := Vector.made.setEntry Vector.destination none } :=
    ⟨_, ⟨_, _, .refl, rfl, .refl⟩, _, ⟨_, _, .refl, rfl, .refl⟩, rfl⟩
  have hcreates := h _ _ Vector.nothing _ _ _ (Program.runs_of_exec? hexec)
    (path_append.mpr ⟨_, Vector.path_peeked, hremoved⟩)
  obtain ⟨-, hother | ⟨hwhole, -⟩⟩ := hcreates.seen _ _ _ rfl Vector.path_peeked
    (0, .file [] privateMode) (by decide)
  · cases hother
  · cases hwhole

end FidoKeyWrap.Tool
