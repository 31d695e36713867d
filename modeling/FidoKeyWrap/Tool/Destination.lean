/-
# FidoKeyWrap.Tool.Destination — the directory a new secret is saved in.

The check before a seal, the temporary and the sync each take the parent of the destination. The
parent of a bare file name is the empty path, which stands for no directory: a name joined to it
lands in the current directory, but every lookup of it fails. So the three agree on the directory of
every destination but a bare file name (`destination_handled`), and the check refuses those.
-/
import FidoKeyWrap.Tool.Storage

namespace FidoKeyWrap.Tool

open ByteData Interact

/-! ## Directories -/

namespace Path

/-- `Path::new("")`. -/
def empty : Path := ⟨false, []⟩

/-- The directory that holds the entry of a path: its parent, or the current directory. -/
def containing (path : Path) : Path :=
  if path.directory = empty then currentDir else path.directory

@[simp] theorem directory_join (path : Path) (name : String) :
    (path.join name).directory = path := by
  simp [directory, parent, join]

theorem containing_join_directory (path : Path) (name : String) :
    (path.directory.join name).containing = path.containing := by
  simp [containing]

theorem ne_empty_of_fileName {path : Path} (h : path.fileName.isSome) : path ≠ empty := by
  rintro rfl
  cases h

theorem directory_eq_empty_iff {path : Path} :
    path.directory = empty ↔ path.parent = some empty := by
  unfold directory
  cases path.parent with
  | none => simp [currentDir, empty]
  | some parent => simp

end Path

/-! ## Lookups -/

/-- **`Lookups`** — the entries of a file system, links followed and not. -/
structure Lookups where
  metadata : Path → Option Metadata
  symlinkMetadata : Path → Option Metadata

/-- A lookup fails for a missing entry, and always for the empty path. -/
def lookup (path : Path) (entry : Option Metadata) : Except IoError Metadata :=
  if path = .empty then .error .notFound else okOr entry .notFound

namespace Lookups

/-- The replies of the file system. -/
def Answers (self : Lookups) : Event os → Prop
  | ⟨.metadata path, reply⟩ =>
    (show Except IoError Metadata from reply) = lookup path (self.metadata path)
  | ⟨.symlinkMetadata path, reply⟩ =>
    (show Except IoError Metadata from reply) = lookup path (self.symlinkMetadata path)
  | ⟨.openDirectory path, reply⟩ =>
    (∃ file, (show Except IoError File from reply) = .ok file) ↔
      ∃ metadata, lookup path (self.metadata path) = .ok metadata
  | _ => True

/-- The directory exists and is one. -/
def IsDirectory (self : Lookups) (path : Path) : Prop :=
  ∃ metadata, self.metadata path = some metadata ∧ metadata.isDir = true

/-- The check of the destination passes. -/
def Passes (self : Lookups) (path : Path) : Prop :=
  ∃ t, (ensureAbsent path).run.Runs t (.ok ()) ∧ ∀ event ∈ t, self.Answers event

/-- **`Handles fs path`** — the check passes exactly when the destination is free in an existing
directory, and a creation works in that directory, which its lookup then finds. -/
structure Handles (fs : Lookups) (path : Path) : Prop where
  check : fs.Passes path ↔
    fs.IsDirectory path.containing ∧ fs.symlinkMetadata path = none
  temporary : ∀ bytes t r, (createAtomic path bytes).run.Runs t r → ∀ created mode reply,
    ⟨.createNew created mode, reply⟩ ∈ t → created.containing = path.containing
  sync : ∀ bytes t r, (createAtomic path bytes).run.Runs t r → ∀ directory reply,
    ⟨.openDirectory directory, reply⟩ ∈ t → directory = path.containing
  found : fs.Passes path → ∀ bytes t r, (createAtomic path bytes).run.Runs t r →
    (∀ event ∈ t, fs.Answers event) → ∀ directory reply,
      ⟨.openDirectory directory, reply⟩ ∈ t →
        ∃ file, (show Except IoError File from reply) = .ok file

variable {fs : Lookups} {path : Path}

/-! ## The check -/

omit fs in
/-- The run of a check that passes. -/
theorem runs_ensureAbsent_ok {t : Trace os} {u : Unit} :
    (ensureAbsent path).run.Runs t (.ok u) ↔ path.fileName.isSome ∧ ∃ metadata : Metadata,
      metadata.isDir = true ∧ t = [⟨.metadata path.directory, Except.ok metadata⟩,
        ⟨.symlinkMetadata path, Except.error IoError.notFound⟩] := by
  constructor
  · intro hrun
    obtain ⟨name, hname, hlookup⟩ := Fallible.runs_except_bind_ok.mp hrun
    obtain ⟨parent, t', rfl, hparent⟩ := runs_call_bind_ok.mp hlookup
    obtain ⟨metadata, hmetadata, hdir⟩ := Fallible.runs_except_bind_ok.mp hparent
    obtain ⟨_, hisDir, hentry⟩ := Fallible.runs_except_bind_ok.mp hdir
    obtain ⟨entry, t'', rfl, hmatch⟩ := runs_call_bind_ok.mp hentry
    rw [okOr_eq_ok] at hname
    obtain rfl : parent = Except.ok metadata := context_eq_ok.mp hmetadata
    refine ⟨Option.isSome_iff_exists.mpr ⟨name, hname⟩, metadata, require_eq_ok.mp hisDir, ?_⟩
    split at hmatch
    · cases hmatch.2
    · obtain ⟨rfl, -⟩ := Fallible.runs_pure.mp hmatch
      rfl
    · cases hmatch.2
  · rintro ⟨hname, metadata, hisDir, rfl⟩
    obtain ⟨name, hname⟩ := Option.isSome_iff_exists.mp hname
    refine Fallible.runs_except_bind_ok.mpr ⟨name, okOr_eq_ok.mpr hname, ?_⟩
    refine runs_call_bind_ok.mpr ⟨_, _, rfl, ?_⟩
    refine Fallible.runs_except_bind_ok.mpr ⟨metadata, rfl, ?_⟩
    refine Fallible.runs_except_bind_ok.mpr ⟨(), require_of hisDir, ?_⟩
    exact runs_call_bind_ok.mpr ⟨_, _, rfl, Fallible.runs_pure.mpr ⟨rfl, rfl⟩⟩

theorem lookup_eq_ok {entry : Option Metadata} {metadata : Metadata} :
    lookup path entry = .ok metadata ↔ path ≠ .empty ∧ entry = some metadata := by
  unfold lookup
  split
  · simp_all
  · simp_all [okOr_eq_ok]

/-- The check never passes with the empty path for its directory. -/
theorem passes_iff (hname : path.fileName.isSome) :
    fs.Passes path ↔ path.directory ≠ .empty ∧ fs.IsDirectory path.directory ∧
      fs.symlinkMetadata path = none := by
  have hpath : path ≠ .empty := Path.ne_empty_of_fileName hname
  constructor
  · rintro ⟨t, hrun, hanswers⟩
    obtain ⟨-, metadata, hisDir, rfl⟩ := runs_ensureAbsent_ok.mp hrun
    rw [List.forall_mem_cons, List.forall_mem_singleton] at hanswers
    obtain ⟨hparent, hentry⟩ := hanswers
    obtain ⟨hdirectory, hfound⟩ := lookup_eq_ok.mp hparent.symm
    refine ⟨hdirectory, ⟨metadata, hfound, hisDir⟩, ?_⟩
    cases hsome : fs.symlinkMetadata path with
    | none => rfl
    | some entry =>
        have hok : lookup path (fs.symlinkMetadata path) = .ok entry :=
          lookup_eq_ok.mpr ⟨hpath, hsome⟩
        cases hentry.trans hok
  · rintro ⟨hdirectory, ⟨metadata, hfound, hisDir⟩, hnone⟩
    refine ⟨_, runs_ensureAbsent_ok.mpr ⟨hname, metadata, hisDir, rfl⟩, ?_⟩
    rw [List.forall_mem_cons, List.forall_mem_singleton]
    constructor
    · exact (lookup_eq_ok.mpr ⟨hdirectory, hfound⟩).symm
    · show Except.error IoError.notFound = lookup path (fs.symlinkMetadata path)
      rw [hnone, lookup, if_neg hpath]
      rfl

/-! ## The creation -/

/-- Temporaries are made in the parent of the destination, which is also what is synced. -/
def Stays (path : Path) (event : Event os) : Prop :=
  match event.query with
  | .createNew created _ => ∃ name, created = path.directory.join name
  | .openDirectory directory => directory = path.directory
  | _ => True

theorem every_fillTemporary (file : File) (bytes : ByteString) :
    Program.Every (Stays path) (fillTemporary file bytes).run := by
  refine Fallible.every_bind (every_call fun _ => trivial) fun _ => ?_
  refine Fallible.every_bind (Fallible.every_except _) fun _ => ?_
  refine Fallible.every_bind (every_call fun _ => trivial) fun _ => ?_
  refine Fallible.every_bind (Fallible.every_except _) fun _ => ?_
  exact Fallible.every_bind (every_call fun _ => trivial) fun _ => Fallible.every_except _

theorem every_writeTemporaryIn (bytes : ByteString) (attempts : Nat) :
    Program.Every (Stays path) (writeTemporaryIn path.directory bytes attempts).run := by
  induction attempts with
  | zero => exact Fallible.every_throw _
  | succ attempts ih =>
      refine Fallible.every_bind (every_call fun _ => trivial) fun drawn => ?_
      refine Fallible.every_bind (Fallible.every_except _) fun random => ?_
      refine Fallible.every_bind (every_call fun _ => ⟨_, rfl⟩) fun created => ?_
      split
      · refine Fallible.every_bind (Fallible.every_outcome (every_fillTemporary _ bytes)) fun _ => ?_
        split
        · exact Program.every_pure _
        · exact Fallible.every_bind (every_call fun _ => trivial) fun _ => Fallible.every_throw _
      · exact ih
      · exact Fallible.every_throw _

theorem every_syncParent : Program.Every (Stays path) (syncParent path).run := by
  refine Fallible.every_bind (every_call fun _ => rfl) fun _ => ?_
  refine Fallible.every_bind (Fallible.every_except _) fun _ => ?_
  exact Fallible.every_bind (every_call fun _ => trivial) fun _ => Fallible.every_except _

theorem every_createAtomic (bytes : ByteString) :
    Program.Every (Stays path) (createAtomic path bytes).run := by
  refine Fallible.every_bind (Fallible.every_except _) fun _ => ?_
  refine Fallible.every_bind (every_writeTemporaryIn bytes 32) fun temporary => ?_
  refine Fallible.every_bind (every_call fun _ => trivial) fun linked => ?_
  split
  · exact Fallible.every_bind (every_call fun _ => trivial) fun _ => Fallible.every_throw _
  · refine Fallible.every_bind (every_call fun _ => trivial) fun _ => ?_
    refine Fallible.every_bind (Fallible.every_outcome every_syncParent) fun _ => ?_
    split
    · exact Program.every_pure _
    · exact Fallible.every_throw _

/-- Every call succeeds. -/
def succeeds : Environment os := fun _ c => match c with
  | .random n => some (Bytes.zero n)
  | .metadata _ | .symlinkMetadata _ | .fileMetadata _ => .ok ⟨true, true, privateMode, 0⟩
  | .openRead _ | .createNew _ _ | .openDirectory _ => .ok (0 : Nat)
  | .readToEnd _ _ => .ok []
  | .setPermissions _ _ | .writeAll _ _ | .syncAll _ | .removeFile _ | .hardLink _ _ => .ok ()

/-- A creation that succeeds syncs the parent of the destination. -/
theorem syncs_parent (path : Path) :
    ⟨.openDirectory path.directory, Except.ok (0 : Nat)⟩ ∈
      ((createAtomic path []).run.exec succeeds []).1 := by
  let temporary := path.directory.join (temporaryName (Bytes.zero 12))
  have hexec : ((createAtomic path []).run.exec succeeds []).1 =
      [⟨.random 12, some (Bytes.zero 12)⟩, ⟨.createNew temporary privateMode, Except.ok (0 : Nat)⟩,
        ⟨.setPermissions 0 privateMode, Except.ok ()⟩, ⟨.writeAll 0 [], Except.ok ()⟩,
        ⟨.syncAll 0, Except.ok ()⟩, ⟨.hardLink temporary path, Except.ok ()⟩,
        ⟨.removeFile temporary, Except.ok ()⟩,
        ⟨.openDirectory path.directory, Except.ok (0 : Nat)⟩, ⟨.syncAll 0, Except.ok ()⟩] := rfl
  rw [hexec]
  simp

end Lookups

/-- **`destination_handled`** — a destination with a file name is handled in its directory exactly
when its parent is not the empty path, which is to say that it is not a bare file name. -/
theorem destination_handled (fs : Lookups) (path : Path) (hname : path.fileName.isSome) :
    fs.Handles path ↔ path.parent ≠ some .empty := by
  rw [Ne, ← Path.directory_eq_empty_iff]
  constructor
  · intro h hempty
    have hsynced : path.directory = path.containing :=
      h.sync [] _ _ (Program.exec_runs Lookups.succeeds _ []) _ _ (Lookups.syncs_parent path)
    rw [Path.containing, if_pos hempty, hempty] at hsynced
    cases hsynced
  · intro hne
    have hcontaining : path.containing = path.directory := if_neg hne
    have hstays : ∀ bytes t r, (createAtomic path bytes).run.Runs t r →
        ∀ event ∈ t, Lookups.Stays path event := Lookups.every_createAtomic
    refine ⟨?_, fun bytes t r hrun created mode reply hmem => ?_,
      fun bytes t r hrun directory reply hmem => ?_, fun hpasses bytes t r hrun hanswers directory
        reply hmem => ?_⟩
    · rw [Lookups.passes_iff hname, hcontaining]
      exact and_iff_right hne
    · obtain ⟨name, rfl⟩ := hstays bytes t r hrun _ hmem
      exact Path.containing_join_directory path name
    · exact (hstays bytes t r hrun _ hmem).trans hcontaining.symm
    · obtain rfl : directory = path.directory := hstays bytes t r hrun _ hmem
      obtain ⟨-, ⟨metadata, hfound, -⟩, -⟩ := (Lookups.passes_iff hname).mp hpasses
      exact (hanswers _ hmem).mpr ⟨metadata, Lookups.lookup_eq_ok.mpr ⟨hne, hfound⟩⟩

/-- `/home/secret.fkw` in an existing directory. -/
theorem absolute_destination_handled :
    Lookups.Handles ⟨fun _ => some ⟨true, false, 0o755, 0⟩, fun _ => none⟩
      ⟨true, [.normal "home", .normal "secret.fkw"]⟩ :=
  (destination_handled _ _ (by decide)).mpr (by decide)

/-- `secret.fkw` in an existing current directory: the check refuses it. -/
theorem bare_destination_refused :
    ¬ ∀ (fs : Lookups) (path : Path), path.fileName.isSome → fs.Handles path := by
  intro h
  let fs : Lookups := ⟨fun _ => some ⟨true, false, 0o755, 0⟩, fun _ => none⟩
  let path : Path := ⟨false, [.normal "secret.fkw"]⟩
  have hfree : fs.IsDirectory path.containing ∧ fs.symlinkMetadata path = none :=
    ⟨⟨_, rfl, rfl⟩, rfl⟩
  have hpasses : fs.Passes path := (h fs path (by decide)).check.mpr hfree
  exact ((Lookups.passes_iff (by decide)).mp hpasses).1 (by decide)

end FidoKeyWrap.Tool
