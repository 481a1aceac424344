import TestOps.Contracts.Paths
import TestOps.Contracts.Uuids
import TestOps.Worker.Execution

/-! The archive of a run directory, from a container that nobody trusts, becomes a directory of the
    workspace: everything is unpacked beside it first.

      chunks ──▸ spooled, bounded ──▸ members, one by one ──▸ .container-import-…  ──▸  run directory
                                                                   ╰── whatever is raised: removed

    What reads an archive is a parameter: it gives its members in order, and may fail after any. -/

namespace TestOps.RunArchives

open Checked FileTree Paths

def maxRunArchiveBytes : Nat := 512 * 1024 * 1024

def maxRunArchiveFiles : Nat := 10000

def fileError : FileError → WorkerError
  | .exists => .other "File exists"
  | .notDirectory => .other "Not a directory"
  | .refused => .other "File name too long"

/-! ### Members -/

inductive MemberKind where
  | directory
  | regular
  | special
  deriving DecidableEq

/-- A member, with the bytes that can be read of it; they end early if it is cut off, and reading on
    may fail. -/
structure Member where
  name : Text
  kind : MemberKind
  size : Nat
  data : Bytes
  failure : Option WorkerError
  fits : data.length ≤ size

/-- The members that an archive yields, and what is raised after them. -/
structure TarStream where
  members : List Member
  failure : Option WorkerError

/-- What is not part of the worker: how archives are read, what the disk refuses to create, and the
    names that temporary directories get. -/
structure System where
  openTar : Bytes → Except WorkerError TarStream
  refuses : Refusals Text
  suffixes : List Text

/-- One import: where to, and what the container sends. -/
structure Import where
  workspaceRoot : Path
  runId : UUID
  chunks : List Bytes
  failure : Option WorkerError

def Import.runName (job : Import) : Text := (uuidText job.runId).toList

def Import.workspace (job : Import) : Path := resolve job.workspaceRoot

def Import.destination (job : Import) : Path := resolve (job.workspace ++ [job.runName])

def Import.temporaryPrefix (job : Import) : Text :=
  ".container-import-".toList ++ job.runName ++ ['-']

/-- `_safe_archive_path` -/
def safeArchivePath (name runName : Text) : Except WorkerError (Option Path) := do
  ensure (name.head? ≠ some '/') (isolatedError "container archive contains an absolute path")
  let parts := if (partsOf name).head? = some runName then (partsOf name).tail else partsOf name
  if parts = [] then return none
  ensure ("..".toList ∉ parts) (isolatedError "container archive escaped the Run directory")
  return some parts

/-! ### Reading -/

/-- `source.read(limit)`, and what is left -/
def readBlock (failure : Option WorkerError) (data : Bytes) (limit : Nat) :
    Except WorkerError (Bytes × Bytes) :=
  if limit ≤ data.length then .ok (data.take limit, data.drop limit)
  else match failure with
    | none => .ok (data, [])
    | some e => .error e

theorem readBlock_split {failure : Option WorkerError} {data block rest : Bytes} {limit : Nat}
    (h : readBlock failure data limit = .ok (block, rest)) :
    data = block ++ rest ∧ block.length = min limit data.length := by
  unfold readBlock at h
  split at h
  · obtain ⟨rfl, rfl⟩ := Prod.mk.inj (Except.ok.inj h)
    exact ⟨(List.take_append_drop _ _).symm, List.length_take⟩
  · rename_i hlimit
    cases failure with
    | none =>
      obtain ⟨rfl, rfl⟩ := Prod.mk.inj (Except.ok.inj h)
      exact ⟨(List.append_nil _).symm, by omega⟩
    | some e => cases h

/-- The loop that copies a member block by block: what is written, and how it ends. -/
def copyBlocks (failure : Option WorkerError) (data : Bytes) (remaining : Nat) :
    Bytes × Except WorkerError Unit :=
  if remaining = 0 then ([], .ok ())
  else match _hread : readBlock failure data (min (1024 * 1024) remaining) with
    | .error e => ([], .error e)
    | .ok (block, rest) =>
      if _hempty : block = [] then ([], .error (isolatedError "container archive member is truncated"))
      else
        let copied := copyBlocks failure rest (remaining - block.length)
        (block ++ copied.1, copied.2)
termination_by remaining
decreasing_by
  have hpos := List.length_pos_of_ne_nil _hempty
  have hlength := (readBlock_split _hread).2
  omega

/-- What a member leaves on the disk. -/
def Member.copied (m : Member) : Bytes × Except WorkerError Unit :=
  copyBlocks m.failure m.data m.size

/-- The chunks, as long as they are not too many. -/
def spool (failure : Option WorkerError) : List Bytes → Bytes → Except WorkerError Bytes
  | [], archive =>
    match failure with
    | none => .ok archive
    | some e => .error e
  | chunk :: chunks, archive => do
    ensure (archive.length + chunk.length ≤ maxRunArchiveBytes)
      (isolatedError "container Run archive exceeded its size limit")
    spool failure chunks (archive ++ chunk)

/-- The archive, as it is opened. -/
def openArchive (system : System) (job : Import) : Except WorkerError TarStream := do
  let archive ← spool job.failure job.chunks []
  system.openTar archive

/-! ### Unpacking -/

def writeMember (refuses : Refusals Text) (target : Path) (m : Member) :
    Attempt Disk WorkerError Unit := do
  (addEntry refuses target (.file m.copied.1)).mapError fileError
  Attempt.lift m.copied.2

/-- A member with a path of its own; the number of files so far. -/
def extractTarget (refuses : Refusals Text) (temporary target : Path) (count : Nat) (m : Member) :
    Attempt Disk WorkerError Nat := do
  Attempt.lift (ensure (temporary <+: target ∧ temporary ≠ target)
    (isolatedError "container archive escaped the import root"))
  match m.kind with
  | .directory =>
    (makeDirs refuses target).mapError fileError
    pure count
  | .special => Attempt.raise (isolatedError "container archive contains a special file")
  | .regular =>
    Attempt.lift (ensure (count + 1 ≤ maxRunArchiveFiles)
      (isolatedError "container Run archive has too many files"))
    (makeDirs refuses target.dropLast).mapError fileError
    writeMember refuses target m
    pure (count + 1)

/-- One round of the loop. -/
def extractMember (refuses : Refusals Text) (runName : Text) (temporary : Path) (count : Nat)
    (m : Member) : Attempt Disk WorkerError Nat := do
  match ← Attempt.lift (safeArchivePath m.name runName) with
  | none => pure count
  | some relative => extractTarget refuses temporary (resolve (temporary ++ relative)) count m

def extractMembers (refuses : Refusals Text) (runName : Text) (temporary : Path) :
    List Member → Nat → Attempt Disk WorkerError Unit
  | [], _ => pure ()
  | m :: ms, count => do
    let count ← extractMember refuses runName temporary count m
    extractMembers refuses runName temporary ms count

/-- The members of a stream, and then its failure. -/
def extractStream (refuses : Refusals Text) (runName : Text) (temporary : Path)
    (stream : TarStream) : Attempt Disk WorkerError Unit := do
  extractMembers refuses runName temporary stream.members 0
  Attempt.lift (match stream.failure with | none => .ok () | some e => .error e)

/-- `mkdtemp`: the first of the names that nothing has. -/
def makeTemporary (refuses : Refusals Text) (workspace : Path) (start : Text) :
    List Text → Attempt Disk WorkerError Path
  | [] => Attempt.raise (.other "No usable temporary directory name found")
  | suffix :: suffixes => do
    let disk ← Attempt.get
    if disk.node (workspace ++ [start ++ suffix]) = none then
      (addEntry refuses (workspace ++ [start ++ suffix]) .dir).mapError fileError
      pure (workspace ++ [start ++ suffix])
    else makeTemporary refuses workspace start suffixes

/-- Everything before the archive is read: the temporary directory. -/
def prepare (system : System) (job : Import) : Attempt Disk WorkerError Path := do
  (makeDirs system.refuses job.workspace).mapError fileError
  let disk ← Attempt.get
  Attempt.lift (ensure (job.workspace <+: job.destination ∧ job.workspace ≠ job.destination ∧
      disk.node job.destination = none)
    (isolatedError "container Run destination is not empty"))
  makeTemporary system.refuses job.workspace job.temporaryPrefix system.suffixes

def importArchive (system : System) (job : Import) (temporary : Path) :
    Attempt Disk WorkerError Unit := do
  let stream ← Attempt.lift (openArchive system job)
  extractStream system.refuses job.runName temporary stream
  (replace temporary job.destination).mapError fileError

/-- `shutil.rmtree`, if it is still there -/
def removeTemporary (temporary : Path) : Attempt Disk WorkerError Unit :=
  Attempt.modify fun disk => if disk.node temporary = none then disk else disk.removeTree temporary

/-- `extract_run_archive` -/
def extractRunArchive (system : System) (job : Import) : Attempt Disk WorkerError Unit := do
  let temporary ← prepare system job
  (importArchive system job temporary).lastly (removeTemporary temporary)

end TestOps.RunArchives
