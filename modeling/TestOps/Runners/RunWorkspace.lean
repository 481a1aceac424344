import TestOps.Contracts.Paths
import TestOps.Contracts.Uuids
import TestOps.ControlPlane.ResultRows

/-! The workspace of a run, and the artifacts that are made of its files.

      root / run id / a / b.png   ──▸   name  b.png
                                        uri   workspace://run id/a/b.png

    The path is written into the address as it is. -/

namespace TestOps.Artifacts

open Paths

/-- The digest of a file in hexadecimal digits, and identifiers made of names. -/
structure Hashing where
  sha256 : Bytes → Text
  uuid5 : UUID → Text → UUID

/-- `Path.suffix` -/
def suffix (name : Text) : Text :=
  let extension := name.rtakeWhile (· ≠ '.')
  if '.' ∈ name ∧ extension ≠ [] ∧ extension.length + 1 < name.length then '.' :: extension else []

def artifactKind (relative : Path) : ArtifactKind :=
  let ending := (suffix (relative.getLast?.getD [])).map Char.toLower
  if "/allure-results/".toList <:+: '/' :: posix relative then .allure
  else if ending = ".png".toList then .screenshot
  else if ending = ".zip".toList then .trace
  else if ending = ".webm".toList then .video
  else if ending = ".log".toList ∨ ending = ".jsonl".toList then .log
  else .other

/-- Neither the result itself, nor the project that was run. -/
def isArtifact (relative : Path) : Bool :=
  relative.getLast? ≠ some "run-result.json".toList ∧
    ¬"_runtime-project/".toList <+: posix relative

/-- An entry below the run directory, if it is a file: its path from there. -/
def fileBelow (runPath : Path) (entry : Path × FileTree.Node UInt8) : Option (Path × Bytes) :=
  match entry.2 with
  | .dir => none
  | .file content =>
    if runPath <+: entry.1 ∧ runPath ≠ entry.1 then some (entry.1.drop runPath.length, content)
    else none

/-- The files that become artifacts, in the order of their paths. -/
def listed (disk : Disk) (runPath : Path) : List (Path × Bytes) :=
  ((disk.entries.filterMap (fileBelow runPath)).insertionSort fun a b => a.1 ≤ b.1).filter
    fun file => isArtifact file.1

def artifactUri (runId : UUID) (relative : Path) : Text :=
  "workspace".toList ++ ':' :: '/' :: '/' :: ((uuidText runId).toList ++ '/' :: posix relative)

def artifactOf (hashing : Hashing) (runId : UUID) (file : Path × Bytes) :
    Except ValidationError ReportedArtifact :=
  ReportedArtifact.validate
    { artifactId := hashing.uuid5 runId (posix file.1)
      kind := artifactKind file.1
      name := String.ofList (file.1.getLast?.getD [])
      uri := String.ofList (artifactUri runId file.1)
      digest := String.ofList ("sha256:".toList ++ hashing.sha256 file.2)
      sizeBytes := file.2.length }

/-- `RunWorkspace.artifacts` -/
def artifacts (hashing : Hashing) (runId : UUID) (disk : Disk) (runPath : Path) :
    Except ValidationError (List ReportedArtifact) :=
  (listed disk runPath).mapM (artifactOf hashing runId)

end TestOps.Artifacts
