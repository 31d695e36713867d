/-
# FidoKeyWrap.Tool.Storage — the secret file of the command-line tool.

What the tool does with its one file, as programs over the system calls it makes: the check of the
destination, the atomic creation through a private temporary and a hard link, and the bounded read
of a private regular file. A path is the list of its components, as the standard library compares
and splits paths. Nothing is assumed about the file system: every call may fail and every reply is
arbitrary.
-/
import FidoKeyWrap.Lib.Order
import FidoKeyWrap.Policy

namespace FidoKeyWrap.Tool

open ByteData Interact

/-- `anyhow::Result`: an error is its outermost text. -/
abbrev Result (α : Type) := Except String α

/-- `u64::MAX + 1`. -/
def u64Limit : Nat := 2 ^ 64

/-- Only the owner reads and writes. -/
def privateMode : UInt32 := 0o600
/-- The most bytes of a file the tool reads or writes. -/
def maxFileBytes : Nat := 2 * 1024 * 1024

/-! ## Paths -/

/-- One component after the root. -/
inductive Component where
  | curDir
  | parentDir
  | normal (name : String)
  deriving DecidableEq

/-- **`Path`** — the components of a path. -/
structure Path where
  absolute : Bool
  components : List Component
  deriving DecidableEq

namespace Path

/-- `Path::new(".")`. -/
def currentDir : Path := ⟨false, [.curDir]⟩

/-- `Path::file_name`: the last component, when it is a name. -/
def fileName (path : Path) : Option String :=
  match path.components.getLast? with
  | some (.normal name) => some name
  | _ => none

/-- `Path::parent`: all but the last component. The root and the empty path have none; the parent
of a single relative component is the empty path. -/
def parent (path : Path) : Option Path :=
  if path.components = [] then none else some { path with components := path.components.dropLast }

/-- `Path::join` with a file name. -/
def join (path : Path) (name : String) : Path :=
  { path with components := path.components ++ [.normal name] }

/-- `path.parent().unwrap_or_else(|| Path::new("."))`. -/
def directory (path : Path) : Path := path.parent.getD currentDir

end Path

/-! ## System calls -/

/-- The kinds of `std::io::Error` the code tells apart. -/
inductive IoError where
  | notFound
  | alreadyExists
  | other
  deriving DecidableEq

/-- An open file. -/
abbrev File := Nat

/-- `std::fs::Metadata`. -/
structure Metadata where
  isDir : Bool
  isFile : Bool
  mode : UInt32
  len : UInt64
  deriving DecidableEq

/-- **`Call`** — what the tool asks of the operating system. -/
inductive Call where
  /-- `getrandom::fill` of an array. -/
  | random (n : Nat)
  /-- `fs::metadata`, which follows links. -/
  | metadata (path : Path)
  | symlinkMetadata (path : Path)
  /-- Open for reading with `O_NOFOLLOW | O_NONBLOCK`. -/
  | openRead (path : Path)
  | fileMetadata (file : File)
  /-- `file.take(limit).read_to_end`. -/
  | readToEnd (file : File) (limit : Nat)
  /-- Open for writing with `create_new` and a mode. -/
  | createNew (path : Path) (mode : UInt32)
  | setPermissions (file : File) (mode : UInt32)
  | writeAll (file : File) (bytes : ByteString)
  | syncAll (file : File)
  | removeFile (path : Path)
  | hardLink (original link : Path)
  /-- `File::open` of a directory. -/
  | openDirectory (path : Path)
  deriving DecidableEq

/-- The type of a reply. -/
@[reducible] def Call.Reply : Call → Type
  | random n => Option (Bytes n)
  | metadata _ | symlinkMetadata _ | fileMetadata _ => Except IoError Metadata
  | openRead _ | createNew _ _ | openDirectory _ => Except IoError File
  | readToEnd _ _ => Except IoError ByteString
  | setPermissions _ _ | writeAll _ _ | syncAll _ | removeFile _ | hardLink _ _ => Except IoError Unit

/-- The signature of the tool's system calls. -/
abbrev os : Signature where
  Query := Call
  Reply := Call.Reply

/-- A fallible computation that may call the system. -/
abbrev Os := Fallible os String

/-- One system call. -/
def call (c : Call) : Os c.Reply := liftM (@Program.ask os c)

/-- `.context(text)`. -/
def context {α : Type} (reply : Except IoError α) (text : String) : Result α :=
  reply.mapError fun _ => text

/-! ## The destination -/

/-- The destination must not be there, and its directory must. -/
def ensureAbsent (path : Path) : Os Unit := do
  let _ ← okOr path.fileName "the destination path has no file name"
  let reply ← call (.metadata path.directory)
  let parentMetadata ← context reply "failed to inspect the destination directory"
  require (parentMetadata.isDir = true) "the destination directory is not a directory"
  let reply ← call (.symlinkMetadata path)
  match reply with
  | .ok _ => throw "the destination already exists"
  | .error .notFound => return ()
  | .error _ => throw "failed to inspect the destination"

/-! ## Reading -/

/-- `u64::try_from(length).unwrap_or(u64::MAX)`. -/
def saturatingU64 (length : Nat) : Nat := if length < u64Limit then length else u64Limit - 1

/-- The bytes of a file within the bound. -/
def ensureSize (bytes : ByteString) : Result Unit :=
  require (¬ maxFileBytes < saturatingU64 bytes.length) "the encrypted secret file is too large"

/-- Read a regular file that only its owner can read. -/
def readPrivate (path : Path) : Os ByteString := do
  let reply ← call (.openRead path)
  let file ← context reply "failed to open the secret file"
  let reply ← call (.fileMetadata file)
  let metadata ← context reply "failed to inspect the secret file"
  require (metadata.isFile = true) "the secret path is not a regular file"
  require (metadata.mode &&& 0o7777 = privateMode) "the secret file must have mode 0600"
  require (¬ maxFileBytes < metadata.len.toNat) "the encrypted secret file is too large"
  let reply ← call (.readToEnd file (maxFileBytes + 1))
  let bytes ← context reply "failed to read the secret file"
  require (¬ maxFileBytes < saturatingU64 bytes.length) "the encrypted secret file is too large"
  return bytes

/-! ## Creating -/

/-- The name of a temporary file. -/
def temporaryName (random : Bytes 12) : String :=
  ".fkw-" ++ String.join (random.toList.map hexByte) ++ ".tmp"

/-- The closure of `write_temporary`: mode, content, sync. -/
def fillTemporary (file : File) (bytes : ByteString) : Os Unit := do
  let reply ← call (.setPermissions file privateMode)
  context reply "failed to set private temporary-secret permissions"
  let reply ← call (.writeAll file bytes)
  context reply "failed to write the temporary secret"
  let reply ← call (.syncAll file)
  context reply "failed to sync the temporary secret"

/-- The loop of `write_temporary`. -/
def writeTemporaryIn (parent : Path) (bytes : ByteString) : Nat → Os Path
  | 0 => throw "failed to allocate a temporary secret name"
  | attempts + 1 => do
    let drawn ← call (.random 12)
    let random ← okOr drawn "secure randomness is unavailable"
    let temporary := parent.join (temporaryName random)
    let reply ← call (.createNew temporary privateMode)
    match reply with
    | .ok file =>
      let result ← Fallible.outcome (fillTemporary file bytes)
      match result with
      | .ok () => return temporary
      | .error error =>
        let _ ← call (.removeFile temporary)
        throw error
    | .error .alreadyExists => writeTemporaryIn parent bytes attempts
    | .error _ => throw "failed to create a temporary secret"

/-- Write a private file next to the destination. -/
def writeTemporary (destination : Path) (bytes : ByteString) : Os Path :=
  writeTemporaryIn destination.directory bytes 32

/-- Make the directory entry durable. -/
def syncParent (path : Path) : Os Unit := do
  let reply ← call (.openDirectory path.directory)
  let directory ← context reply "failed to sync the secret directory"
  let reply ← call (.syncAll directory)
  context reply "failed to sync the secret directory"

/-- Publish the temporary by a link, which never replaces a file. -/
def createAtomicWithSync (path : Path) (bytes : ByteString) (sync : Path → Os Unit) : Os Unit := do
  ensureSize bytes
  let temporary ← writeTemporary path bytes
  let reply ← call (.hardLink temporary path)
  match reply with
  | .error _ =>
    let _ ← call (.removeFile temporary)
    throw "failed to save the new secret"
  | .ok () =>
    let _ ← call (.removeFile temporary)
    let result ← Fallible.outcome (sync path)
    match result with
    | .ok () => return ()
    | .error _ => throw "the secret was saved, but its directory sync failed"

/-- `create_atomic_with_sync` with the real synchronization. -/
def createAtomic (path : Path) (bytes : ByteString) : Os Unit :=
  createAtomicWithSync path bytes syncParent

/-! ## What a read returns -/

/-- The replies about a private regular file with this content, open as `file`. -/
def Holds (path : Path) (file : File) (content : ByteString) : Event os → Prop
  | ⟨.openRead opened, reply⟩ => opened = path → (show Except IoError File from reply) = .ok file
  | ⟨.fileMetadata opened, reply⟩ =>
    opened = file → ∃ metadata, (show Except IoError Metadata from reply) = .ok metadata ∧
      metadata.isFile = true ∧ metadata.mode &&& 0o7777 = privateMode ∧
        metadata.len.toNat = content.length
  | ⟨.readToEnd opened limit, reply⟩ =>
    opened = file → (show Except IoError ByteString from reply) = .ok (content.take limit)
  | _ => True

theorem saturatingU64_le {length : Nat} (h : length ≤ maxFileBytes) :
    ¬ maxFileBytes < saturatingU64 length := by
  simp only [maxFileBytes] at h ⊢
  unfold saturatingU64
  split
  · omega
  · simp only [u64Limit] at *
    omega

theorem ensureSize_of_le {bytes : ByteString} (h : bytes.length ≤ maxFileBytes) :
    ensureSize bytes = .ok () :=
  require_of (saturatingU64_le h)

/-- **A private file that is not too large is read in full.** -/
theorem returns_readPrivate {path : Path} {file : File} {content : ByteString}
    (h : content.length ≤ maxFileBytes) :
    Fallible.Returns (Holds path file content) (readPrivate path) content := by
  apply Fallible.returns_ask_bind
  intro reply hopen
  have hfile : reply = Except.ok file := hopen rfl
  subst hfile
  apply Fallible.returns_except_bind rfl
  apply Fallible.returns_ask_bind
  intro reply hmetadata
  obtain ⟨metadata, hreply, hisFile, hmode, hlen⟩ := hmetadata rfl
  have hok : reply = Except.ok metadata := hreply
  subst hok
  apply Fallible.returns_except_bind rfl
  apply Fallible.returns_except_bind (require_of hisFile)
  apply Fallible.returns_except_bind (require_of hmode)
  apply Fallible.returns_except_bind (require_of (by rw [hlen]; exact not_lt.mpr h))
  apply Fallible.returns_ask_bind
  intro reply hread
  have hbytes : reply = Except.ok (content.take (maxFileBytes + 1)) := hread rfl
  -- the limit is one byte more than the largest file
  rw [List.take_of_length_le (by omega)] at hbytes
  subst hbytes
  apply Fallible.returns_except_bind rfl
  exact Fallible.returns_except_bind (require_of (saturatingU64_le h)) (Fallible.returns_except rfl)

/-! ## What a creation writes -/

theorem runs_call {c : Call} {t : Trace os} {r : Except String c.Reply} :
    (call c).run.Runs t r ↔ ∃ reply, t = [⟨c, reply⟩] ∧ r = .ok reply := by
  unfold call
  rw [Fallible.runs_lift]
  constructor
  · rintro ⟨reply, hrun, rfl⟩
    exact ⟨reply, Program.runs_ask.mp hrun, rfl⟩
  · rintro ⟨reply, rfl, rfl⟩
    exact ⟨reply, Program.runs_ask.mpr rfl, rfl⟩

/-- A call, then the rest. -/
theorem runs_call_bind_ok {β : Type} {c : Call} {f : c.Reply → Os β} {t : Trace os} {b : β} :
    (call c >>= f).run.Runs t (.ok b) ↔
      ∃ reply u, t = ⟨c, reply⟩ :: u ∧ (f reply).run.Runs u (.ok b) := by
  rw [Fallible.runs_bind_ok]
  constructor
  · rintro ⟨t₁, reply, t₂, rfl, hcall, hf⟩
    obtain ⟨reply', rfl, hsame⟩ := runs_call.mp hcall
    cases hsame
    exact ⟨reply, t₂, rfl, hf⟩
  · rintro ⟨reply, u, rfl, hf⟩
    exact ⟨[⟨c, reply⟩], reply, u, rfl, runs_call.mpr ⟨reply, rfl, rfl⟩, hf⟩

theorem every_call {P : Event os → Prop} {c : Call} (h : ∀ reply, P ⟨c, reply⟩) :
    Program.Every P (call c).run := by
  intro t r hrun event hmem
  obtain ⟨reply, rfl, -⟩ := runs_call.mp hrun
  rw [List.mem_singleton.mp hmem]
  exact h reply

theorem context_eq_ok {α : Type} {reply : Except IoError α} {text : String} {a : α} :
    context reply text = .ok a ↔ reply = .ok a :=
  except_mapError_eq_ok

/-- The call changes a file or a name that exists. -/
def Call.Alters : Call → Prop
  | setPermissions _ _ | writeAll _ _ | removeFile _ | hardLink _ _ => True
  | _ => False

/-- **`Saves path content t`** — the trace ends in a creation of the file: a new private temporary
gets exactly this content and is synced, then it becomes the file, and the directory is synced.
Nothing is altered before. -/
def Saves (path : Path) (content : ByteString) (t : Trace os) : Prop :=
  ∃ before temporary file removed directory,
    t = before ++
      [⟨.createNew temporary privateMode, Except.ok file⟩,
        ⟨.setPermissions file privateMode, Except.ok ()⟩, ⟨.writeAll file content, Except.ok ()⟩,
        ⟨.syncAll file, Except.ok ()⟩, ⟨.hardLink temporary path, Except.ok ()⟩,
        ⟨.removeFile temporary, removed⟩, ⟨.openDirectory path.directory, Except.ok directory⟩,
        ⟨.syncAll directory, Except.ok ()⟩] ∧
      ∀ event ∈ before, ¬ event.query.Alters

theorem Saves.append_left {path : Path} {content : ByteString} {t t' : Trace os}
    (h : Saves path content t) (hquiet : ∀ event ∈ t', ¬ event.query.Alters) :
    Saves path content (t' ++ t) := by
  obtain ⟨before, temporary, file, removed, directory, rfl, hbefore⟩ := h
  refine ⟨t' ++ before, temporary, file, removed, directory, (List.append_assoc _ _ _).symm, ?_⟩
  intro event hmem
  rcases List.mem_append.mp hmem with hmem | hmem
  · exact hquiet event hmem
  · exact hbefore event hmem

theorem runs_fillTemporary_ok {file : File} {bytes : ByteString} {t : Trace os} {u : Unit}
    (h : (fillTemporary file bytes).run.Runs t (.ok u)) :
    t = [⟨.setPermissions file privateMode, Except.ok ()⟩, ⟨.writeAll file bytes, Except.ok ()⟩,
      ⟨.syncAll file, Except.ok ()⟩] := by
  obtain ⟨r₁, u₁, rfl, h₁⟩ := runs_call_bind_ok.mp h
  obtain ⟨_, hr₁, h₁⟩ := Fallible.runs_except_bind_ok.mp h₁
  obtain ⟨r₂, u₂, rfl, h₂⟩ := runs_call_bind_ok.mp h₁
  obtain ⟨_, hr₂, h₂⟩ := Fallible.runs_except_bind_ok.mp h₂
  obtain ⟨r₃, u₃, rfl, h₃⟩ := runs_call_bind_ok.mp h₂
  obtain ⟨rfl, hr₃⟩ := Fallible.runs_except.mp h₃
  rw [context_eq_ok.mp hr₁, context_eq_ok.mp hr₂, context_eq_ok.mp hr₃.symm]

/-- The loop draws names until one is free; what it fills is the file of that name. -/
theorem runs_writeTemporaryIn_ok {parent temporary : Path} {bytes : ByteString} {n : Nat}
    {t : Trace os} (h : (writeTemporaryIn parent bytes n).run.Runs t (.ok temporary)) :
    ∃ before file, t = before ++
      [⟨.createNew temporary privateMode, Except.ok file⟩,
        ⟨.setPermissions file privateMode, Except.ok ()⟩, ⟨.writeAll file bytes, Except.ok ()⟩,
        ⟨.syncAll file, Except.ok ()⟩] ∧
      ∀ event ∈ before, ¬ event.query.Alters := by
  induction n generalizing t with
  | zero => cases h.2
  | succ n ih =>
      obtain ⟨drawn, u₁, rfl, h₁⟩ := runs_call_bind_ok.mp h
      obtain ⟨random, -, h₁⟩ := Fallible.runs_except_bind_ok.mp h₁
      obtain ⟨created, u₂, rfl, h₂⟩ := runs_call_bind_ok.mp h₁
      split at h₂
      · -- the name was free: the file is filled, or the loop fails
        obtain ⟨t₃, result, u₃, rfl, houtcome, h₃⟩ := Fallible.runs_bind_ok.mp h₂
        obtain ⟨result', hfill, hsame⟩ := Fallible.runs_outcome.mp houtcome
        cases hsame
        split at h₃
        · obtain ⟨rfl, hreply⟩ := Fallible.runs_pure.mp h₃
          cases hreply
          rw [runs_fillTemporary_ok hfill]
          refine ⟨[⟨.random 12, drawn⟩], _, rfl, fun event hmem => ?_⟩
          rw [List.mem_singleton.mp hmem]
          exact id
        · obtain ⟨_, u₄, -, hthrow⟩ := runs_call_bind_ok.mp h₃
          cases hthrow.2
      · -- the name was taken: the next attempt
        obtain ⟨before, file, rfl, hbefore⟩ := ih h₂
        refine ⟨⟨.random 12, drawn⟩ :: ⟨.createNew _ privateMode, _⟩ :: before, file, rfl, ?_⟩
        intro event hmem
        rcases List.mem_cons.mp hmem with rfl | hmem
        · exact id
        · rcases List.mem_cons.mp hmem with rfl | hmem
          · exact id
          · exact hbefore event hmem
      · cases h₂.2

theorem length_le_of_ensureSize {bytes : ByteString} {u : Unit} (h : ensureSize bytes = .ok u) :
    bytes.length ≤ maxFileBytes := by
  rw [ensureSize, require_eq_ok, not_lt] at h
  simp only [maxFileBytes] at h ⊢
  unfold saturatingU64 at h
  split at h
  · exact h
  · simp only [u64Limit] at h
    omega

theorem runs_syncParent_ok {path : Path} {t : Trace os} {u : Unit}
    (h : (syncParent path).run.Runs t (.ok u)) :
    ∃ directory, t = [⟨.openDirectory path.directory, Except.ok directory⟩,
      ⟨.syncAll directory, Except.ok ()⟩] := by
  obtain ⟨r₁, u₁, rfl, h₁⟩ := runs_call_bind_ok.mp h
  obtain ⟨directory, hr₁, h₁⟩ := Fallible.runs_except_bind_ok.mp h₁
  obtain ⟨r₂, u₂, rfl, h₂⟩ := runs_call_bind_ok.mp h₁
  obtain ⟨rfl, hr₂⟩ := Fallible.runs_except.mp h₂
  rw [context_eq_ok.mp hr₁, context_eq_ok.mp hr₂.symm]
  exact ⟨directory, rfl⟩

/-- **A creation that succeeds saves the bytes**, and nothing else. -/
theorem saves_of_createAtomic {path : Path} {bytes : ByteString} {t : Trace os} {u : Unit}
    (h : (createAtomic path bytes).run.Runs t (.ok u)) :
    bytes.length ≤ maxFileBytes ∧ Saves path bytes t := by
  obtain ⟨_, hsize, h₁⟩ := Fallible.runs_except_bind_ok.mp h
  refine ⟨length_le_of_ensureSize hsize, ?_⟩
  obtain ⟨t₁, temporary, u₁, rfl, hwrite, h₂⟩ := Fallible.runs_bind_ok.mp h₁
  obtain ⟨before, file, rfl, hbefore⟩ := runs_writeTemporaryIn_ok hwrite
  obtain ⟨linked, u₂, rfl, h₃⟩ := runs_call_bind_ok.mp h₂
  split at h₃
  · obtain ⟨_, u₃, -, hthrow⟩ := runs_call_bind_ok.mp h₃
    cases hthrow.2
  · obtain ⟨removed, u₃, rfl, h₄⟩ := runs_call_bind_ok.mp h₃
    obtain ⟨t₄, result, u₄, rfl, houtcome, h₅⟩ := Fallible.runs_bind_ok.mp h₄
    obtain ⟨result', hsync, hsame⟩ := Fallible.runs_outcome.mp houtcome
    cases hsame
    split at h₅
    · obtain ⟨rfl, -⟩ := Fallible.runs_pure.mp h₅
      obtain ⟨directory, rfl⟩ := runs_syncParent_ok hsync
      exact ⟨before, temporary, file, removed, directory, by simp, hbefore⟩
    · cases h₅.2

/-- The checks of the destination alter nothing. -/
theorem quiet_ensureAbsent {path : Path} {t : Trace os} {u : Unit}
    (h : (ensureAbsent path).run.Runs t (.ok u)) : ∀ event ∈ t, ¬ event.query.Alters := by
  obtain ⟨_, -, h₁⟩ := Fallible.runs_except_bind_ok.mp h
  obtain ⟨r₁, u₁, rfl, h₂⟩ := runs_call_bind_ok.mp h₁
  obtain ⟨_, -, h₂⟩ := Fallible.runs_except_bind_ok.mp h₂
  obtain ⟨_, -, h₂⟩ := Fallible.runs_except_bind_ok.mp h₂
  obtain ⟨r₂, u₂, rfl, h₃⟩ := runs_call_bind_ok.mp h₂
  have hnil : u₂ = [] := by
    split at h₃
    · exact h₃.1
    · exact h₃.1
    · exact h₃.1
  subst hnil
  intro event hmem
  rcases List.mem_cons.mp hmem with rfl | hmem
  · exact id
  · rw [List.mem_singleton.mp hmem]
    exact id

end FidoKeyWrap.Tool
