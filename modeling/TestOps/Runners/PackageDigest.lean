import TestOps.Contracts.Text
import TestOps.Lib.Checked
import TestOps.Lib.Framing
import TestOps.Lib.Table

/-! The digest of an automation package. Both packages are selected from a source directory by an
    allowlist, and digested together with the adapter that runs them:

      source  ──package files──▸  documents, sorted by name  ──▸  name 0 content 0 name 0 ..  ──▸  sha256

    An export copies the selected files into an empty directory and digests the copy. -/

namespace TestOps

open Checked Framing Relational

/-! ### Directories -/

inductive FileKind where
  | file (content : Bytes)
  | directory
  | symlink
  | other
  deriving DecidableEq

/-- What a directory listing has at a path, relative to the source, with `/` between its parts. -/
structure FileEntry where
  path : String
  kind : FileKind
  deriving DecidableEq

/-- Everything under a directory, in the order in which the file system lists it. -/
abbrev Listing := Table FileEntry.path

/-- A directory: no path has the character of code 0. -/
structure SourceTree where
  entries : Listing
  noNul : ∀ entry ∈ entries, '\x00' ∉ entry.path.toList

def pathParts (path : String) : List String :=
  (path.toList.splitOn '/').map String.ofList

/-- Whether a path lies below a directory. -/
def isUnder (directory path : String) : Bool :=
  (directory.toList ++ ['/']).isPrefixOf path.toList

/-- `PurePath.suffix` -/
def suffix (name : String) : String :=
  let (extension, stem) := name.toList.reverse.span (· ≠ '.')
  if 2 ≤ stem.length ∧ extension ≠ [] then String.ofList ('.' :: extension.reverse) else ""

/-! ### The two packages -/

structure PackageRules where
  root : String
  files : List String
  directories : List String
  ignoresPart : String → Bool
  ignoredSuffixes : List String

/-- `ANDROID_FILES`, `ANDROID_DIRECTORIES` and what is ignored in them -/
def androidRules : PackageRules where
  root := "android"
  files := ["conftest.py", "pyproject.toml", "test_case.xlsx", "testops-package.json"]
  directories := ["config", "scripts", "src", "tests"]
  ignoresPart part := part ∈ ["__pycache__", ".pytest_cache", ".ruff_cache", ".mypy_cache", ".tmp",
    "outputs", "reports", ".git", ".venv"] ∨ ".egg-info".toList.isSuffixOf part.toList
  ignoredSuffixes := [".pyc", ".pyo"]

/-- `LEGACY_FILES`, `LEGACY_DIRECTORIES` and what is ignored in them -/
def legacyRules : PackageRules where
  root := "legacy"
  files := ["pytest.ini", "requirements.txt", "run_parallel_tests.py", "test_cases/test_case.xlsx"]
  directories := ["pages", "tests", "utils", "test_assets"]
  ignoresPart part := part ∈ ["__pycache__", ".pytest_cache"]
  ignoredSuffixes := [".pyc"]

inductive AutomationPackage where | android | legacy

def AutomationPackage.rules : AutomationPackage → PackageRules
  | .android => androidRules
  | .legacy => legacyRules

inductive PackageExportError where
  | unavailableFile (relative : String)
  | unavailableDirectory (directory : String)
  | symlink (relative : String)
  | insideSource
  | notEmpty
  | fileExists (path : String)
  deriving DecidableEq

def PackageExportError.message : PackageExportError → String
  | .unavailableFile relative => s!"required regular file is unavailable: {relative}"
  | .unavailableDirectory directory => s!"required directory is unavailable: {directory}"
  | .symlink relative => s!"package source cannot contain symlinks: {relative}"
  | .insideSource => "export destination must be outside the source project"
  | .notEmpty => "export destination must not exist or must be empty"
  | .fileExists path => s!"file exists: {path}"

structure PackageFile where
  path : String
  content : Bytes
  deriving DecidableEq

/-! ### Selecting the files -/

def requireFile (entries : Listing) (relative : String) : Except PackageExportError PackageFile :=
  match entries.get? relative with
  | some ⟨_, .file content⟩ => return ⟨relative, content⟩
  | _ => .error (.unavailableFile relative)

def requireDirectory (entries : Listing) (directory : String) : Except PackageExportError Unit :=
  match entries.get? directory with
  | some ⟨_, .directory⟩ => return ()
  | _ => .error (.unavailableDirectory directory)

def PackageRules.ignores (rules : PackageRules) (path : String) : Bool :=
  (pathParts path).any rules.ignoresPart

/-- Whether a file of an included directory is part of the package. -/
def PackageRules.keepsSuffix (rules : PackageRules) (path : String) : Bool :=
  String.ofList ((suffix ((pathParts path).getLastD "")).toList.map Char.toLower) ∉
    rules.ignoredSuffixes

def PackageRules.selectEntry (rules : PackageRules) (entry : FileEntry) :
    Except PackageExportError (Option PackageFile) :=
  if rules.ignores entry.path = true then
    return none
  else
    match entry.kind with
    | .symlink => .error (.symlink entry.path)
    | .file content =>
      if rules.keepsSuffix entry.path = true then return some ⟨entry.path, content⟩ else return none
    | _ => return none

def PackageRules.selectDirectory (rules : PackageRules) (entries : Listing) (directory : String) :
    Except PackageExportError (List (Option PackageFile)) := do
  requireDirectory entries directory
  (entries.rows.filter fun entry => isUnder directory entry.path).mapM rules.selectEntry

/-- `package_files` of the Android package, and `_legacy_files` of the legacy one -/
def PackageRules.packageFiles (rules : PackageRules) (entries : Listing) :
    Except PackageExportError (List PackageFile) := do
  let required ← rules.files.mapM (requireFile entries)
  let found ← rules.directories.mapM (rules.selectDirectory entries)
  return (required ++ found.flatten.reduceOption).dedup.insertionSort fun a b => a.path ≤ b.path

/-! ### The digest -/

/-- The Python files of the adapter, as they are listed. -/
structure AdapterTree where
  files : Table PackageFile.path
  noNul : ∀ file ∈ files, '\x00' ∉ file.path.toList

/-- The name of the document of a file. -/
def PackageRules.documentName (rules : PackageRules) (path : String) : String :=
  rules.root ++ "/" ++ path

/-- The documents that are digested, by name. -/
def PackageRules.documents (rules : PackageRules) (adapter : AdapterTree)
    (files : List PackageFile) : List (String × Bytes) :=
  ((files.map fun file => (rules.documentName file.path, file.content)) ++
    adapter.files.rows.map fun file => ("adapter/" ++ file.path, file.content)).insertionSort
      fun a b => a.1 ≤ b.1

/-- The bytes that the digest is fed. -/
def PackageRules.digestInput (rules : PackageRules) (adapter : AdapterTree)
    (files : List PackageFile) : Bytes :=
  frame 0 ((rules.documents adapter files).map fun document => (utf8 document.1, document.2))

def PackageRules.packageSourceDigest (rules : PackageRules) (sha256 : Bytes → String)
    (adapter : AdapterTree) (entries : Listing) : Except PackageExportError String := do
  let files ← rules.packageFiles entries
  return "sha256:" ++ sha256 (rules.digestInput adapter files)

/-! ### Exporting -/

/-- The directories a path lies in. -/
def parents (path : String) : List String :=
  (path.toList.inits.filter fun directory =>
    directory ≠ [] ∧ (directory ++ ['/']).isPrefixOf path.toList).map String.ofList

/-- `mkdir` of a directory that may exist -/
def makeDirectory (entries : Listing) (path : String) :
    Except PackageExportError Listing :=
  match entries.get? path with
  | some ⟨_, .directory⟩ => return entries
  | _ => found (entries.insert? ⟨path, .directory⟩) (.fileExists path)

def copyFile (entries : Listing) (file : PackageFile) :
    Except PackageExportError Listing := do
  let entries ← (parents file.path).foldlM makeDirectory entries
  found (entries.insert? ⟨file.path, .file file.content⟩) (.fileExists file.path)

/-- The copy in an empty directory. -/
def copyFiles (files : List PackageFile) : Except PackageExportError Listing :=
  files.foldlM copyFile .empty

/-- Copy the package into a destination that does not exist or is empty; the digest is that of the
    copy. -/
def PackageRules.exportPackage (rules : PackageRules) (sha256 : Bytes → String)
    (adapter : AdapterTree) (isInsideSource : Bool) (source destination : Listing) :
    Except PackageExportError (Listing × String) := do
  ensure (isInsideSource = false) .insideSource
  ensure (destination.rows = []) .notEmpty
  let files ← rules.packageFiles source
  let exported ← copyFiles files
  let digest ← rules.packageSourceDigest sha256 adapter exported
  return (exported, digest)

end TestOps
