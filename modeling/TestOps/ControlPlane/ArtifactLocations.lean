import TestOps.Contracts.Paths
import TestOps.Contracts.Uuids
import TestOps.Lib.Url

/-! Where the address of an artifact points in the object store. -/

namespace TestOps.Artifacts

open Checked Paths

structure ObjectLocation where
  bucket : Text
  key : Text
  deriving DecidableEq

/-- `parse_artifact_uri`; an error is the text of `ArtifactStoreError` or of `ValueError`. -/
def parseArtifactUri (locations : Url.Locations) (uri : Text) (runId : UUID)
    (expectedBucket : Text) : Except String ObjectLocation := do
  let parsed ← found (Url.urlsplit locations uri) "Invalid IPv6 URL"
  ensure (parsed.scheme = "s3".toList ∧ parsed.query = [] ∧ parsed.fragment = [])
    "artifact does not reference managed object storage"
  ensure (parsed.netloc = expectedBucket)
    "artifact references an unexpected object-storage bucket"
  let key := Url.unquote (parsed.path.dropWhile (· = '/'))
  ensure (isSafeKey key = true) "artifact object key is unsafe"
  ensure ((key.splitOn '/').take 2 = ["runs".toList, (uuidText runId).toList])
    "artifact object key does not belong to this Run"
  return ⟨parsed.netloc, key⟩

end TestOps.Artifacts
