import TestOps.Runners.PackageDigest

/-! What a package digest tells. The files of a package are those that the allowlist allows, sorted by
    path, whatever the order of the listing; an export has the same files. Two packages with one digest
    have been fed the same bytes, and the bytes can be read in two ways only where a content holds the
    name of a document between two bytes 0:

      src/a.py  ↦  x 0 android/src/b.py 0 y          src/a.py  ↦  x
                                                     src/b.py  ↦  y          the same digest -/

namespace TestOps

open Checked Framing Relational

variable {rules : PackageRules} {entries entries' : Listing} {files files' : List PackageFile}

/-! ### The files of a package -/

/-- Whether a file at the path is part of the package. -/
def PackageRules.Allows (rules : PackageRules) (path : String) : Prop :=
  path ∈ rules.files ∨ (∃ directory ∈ rules.directories, isUnder directory path = true) ∧
    rules.ignores path = false ∧ rules.keepsSuffix path = true

instance {path : String} : Decidable (rules.Allows path) :=
  inferInstanceAs (Decidable (_ ∨ _ ∧ _))

/-- The required files and directories are there, and no symlink is in the way. -/
structure PackageRules.Accepts (rules : PackageRules) (entries : Listing) : Prop where
  files : ∀ relative ∈ rules.files, ∃ content, ⟨relative, .file content⟩ ∈ entries
  directories : ∀ directory ∈ rules.directories, ⟨directory, .directory⟩ ∈ entries
  symlinks : ∀ directory ∈ rules.directories, ∀ entry ∈ entries,
    isUnder directory entry.path = true → rules.ignores entry.path = false → entry.kind ≠ .symlink

theorem requireFile_ok {relative : String} {file : PackageFile} :
    requireFile entries relative = .ok file ↔
      relative = file.path ∧ ⟨file.path, .file file.content⟩ ∈ entries := by
  rw [requireFile]
  split
  · rename_i path content hget
    obtain ⟨hmem, rfl⟩ := Table.get?_eq_some.mp hget
    rw [pure_eq_ok]
    constructor
    · rintro rfl
      exact ⟨rfl, hmem⟩
    · rintro ⟨rfl, hfile⟩
      obtain ⟨path, content'⟩ := file
      cases Table.eq_of_key_eq hmem hfile rfl
      rfl
  · rename_i hnot
    constructor
    · intro h
      cases h
    · rintro ⟨rfl, hfile⟩
      exact absurd (Table.get?_key hfile) (hnot _ _)

theorem requireDirectory_ok {directory : String} {u : Unit} :
    requireDirectory entries directory = .ok u ↔ ⟨directory, .directory⟩ ∈ entries := by
  rw [requireDirectory]
  split
  · rename_i path hget
    obtain ⟨hmem, rfl⟩ := Table.get?_eq_some.mp hget
    exact ⟨fun _ => hmem, fun _ => rfl⟩
  · rename_i hnot
    constructor
    · intro h
      cases h
    · intro hmem
      exact absurd (Table.get?_key hmem) (hnot _)

theorem selectEntry_ok {entry : FileEntry} {file : PackageFile} :
    rules.selectEntry entry = .ok (some file) ↔ rules.ignores file.path = false ∧
      entry = ⟨file.path, .file file.content⟩ ∧ rules.keepsSuffix file.path = true := by
  obtain ⟨path, kind⟩ := entry
  rw [PackageRules.selectEntry]
  constructor
  · intro h
    split at h
    · cases h
    · rename_i hkept
      cases kind with
      | file content =>
        simp only at h
        split at h
        · rename_i hsuffix
          cases h
          exact ⟨by simpa using hkept, rfl, hsuffix⟩
        · cases h
      | _ => cases h
  · rintro ⟨hkept, heq, hsuffix⟩
    cases heq
    rw [if_neg (by simp [hkept])]
    simp only
    rw [if_pos hsuffix]
    rfl

/-- An entry is in the way exactly when it is a symlink that is not ignored. -/
theorem exists_selectEntry_ok {entry : FileEntry} :
    (∃ selected, rules.selectEntry entry = .ok selected) ↔
      (rules.ignores entry.path = false → entry.kind ≠ .symlink) := by
  rw [PackageRules.selectEntry]
  split
  · rename_i hignored
    refine ⟨fun _ hkept => ?_, fun _ => ⟨none, rfl⟩⟩
    rw [hignored] at hkept
    cases hkept
  · rename_i hkept
    have hkept' : rules.ignores entry.path = false := by simpa using hkept
    cases hkind : entry.kind with
    | symlink =>
      constructor
      · rintro ⟨selected, h⟩
        cases h
      · intro h
        exact absurd rfl (h hkept')
    | file content =>
      refine ⟨fun _ _ heq => (by cases heq), fun _ => ?_⟩
      simp only
      split <;> exact ⟨_, rfl⟩
    | directory | other => exact ⟨fun _ _ heq => (by cases heq), fun _ => ⟨none, rfl⟩⟩

/-- A package is accepted or not, whatever the order of the listing. -/
theorem exists_packageFiles_ok :
    (∃ files, rules.packageFiles entries = .ok files) ↔ rules.Accepts entries := by
  have hrequired : (∃ required, rules.files.mapM (requireFile entries) = .ok required) ↔
      ∀ relative ∈ rules.files, ∃ content, ⟨relative, .file content⟩ ∈ entries := by
    rw [exists_mapM_ok]
    refine forall₂_congr fun relative _ => ⟨?_, ?_⟩
    · rintro ⟨file, hfile⟩
      obtain ⟨rfl, hmem⟩ := requireFile_ok.mp hfile
      exact ⟨file.content, hmem⟩
    · rintro ⟨content, hmem⟩
      exact ⟨⟨relative, content⟩, requireFile_ok.mpr ⟨rfl, hmem⟩⟩
  have hdirectory : ∀ directory,
      (∃ found, rules.selectDirectory entries directory = .ok found) ↔
        ⟨directory, .directory⟩ ∈ entries ∧ ∀ entry ∈ entries,
          isUnder directory entry.path = true → rules.ignores entry.path = false →
            entry.kind ≠ .symlink := by
    intro directory
    have hpass : (∃ found, (entries.rows.filter fun entry =>
        isUnder directory entry.path).mapM rules.selectEntry = .ok found) ↔ _ := exists_mapM_ok
    simp only [List.mem_filter, exists_selectEntry_ok, and_imp] at hpass
    simp only [PackageRules.selectDirectory, bind_eq_ok, requireDirectory_ok]
    constructor
    · rintro ⟨found, -, hdir, hfound⟩
      exact ⟨hdir, hpass.mp ⟨found, hfound⟩⟩
    · rintro ⟨hdir, hall⟩
      obtain ⟨found, hfound⟩ := hpass.mpr hall
      exact ⟨found, (), hdir, hfound⟩
  have hfound : (∃ found, rules.directories.mapM (rules.selectDirectory entries) = .ok found) ↔
      ∀ directory ∈ rules.directories, ⟨directory, .directory⟩ ∈ entries ∧ ∀ entry ∈ entries,
        isUnder directory entry.path = true → rules.ignores entry.path = false →
          entry.kind ≠ .symlink := by
    rw [exists_mapM_ok]
    exact forall₂_congr fun directory _ => hdirectory directory
  simp only [PackageRules.packageFiles, bind_eq_ok, pure_eq_ok]
  constructor
  · rintro ⟨files, required, hr, found, hf, -⟩
    have hdirs := hfound.mp ⟨found, hf⟩
    exact ⟨hrequired.mp ⟨required, hr⟩, fun directory h => (hdirs directory h).1,
      fun directory h => (hdirs directory h).2⟩
  · rintro ⟨hfiles, hdirectories, hsymlinks⟩
    obtain ⟨required, hr⟩ := hrequired.mpr hfiles
    obtain ⟨found, hf⟩ := hfound.mpr fun directory h => ⟨hdirectories directory h,
      hsymlinks directory h⟩
    exact ⟨_, required, hr, found, hf, rfl⟩

/-- Files in the order of their paths. -/
def SortedFiles (files : List PackageFile) : Prop :=
  files.Pairwise fun a b => a.path < b.path

/-- The files of a package are the allowed ones, sorted. -/
theorem packageFiles_ok (h : rules.packageFiles entries = .ok files) :
    (∀ file, file ∈ files ↔ ⟨file.path, .file file.content⟩ ∈ entries ∧ rules.Allows file.path) ∧
      SortedFiles files := by
  simp only [PackageRules.packageFiles, bind_eq_ok, pure_eq_ok] at h
  obtain ⟨required, hr, found, hf, rfl⟩ := h
  have hmem : ∀ file, file ∈ required ++ found.flatten.reduceOption ↔
      ⟨file.path, .file file.content⟩ ∈ entries ∧ rules.Allows file.path := by
    intro file
    rw [List.mem_append, mem_of_mapM_ok hr, List.reduceOption_mem_iff, List.mem_flatten]
    simp only [requireFile_ok, mem_of_mapM_ok hf]
    constructor
    · rintro (⟨relative, hrelative, rfl, hfile⟩ | ⟨selected, ⟨directory, hdirectory, hselect⟩, hsome⟩)
      · exact ⟨hfile, .inl hrelative⟩
      · simp only [PackageRules.selectDirectory, bind_eq_ok] at hselect
        obtain ⟨-, -, hselect⟩ := hselect
        obtain ⟨entry, hentry, hok⟩ := (mem_of_mapM_ok hselect).mp hsome
        obtain ⟨hkept, rfl, hsuffix⟩ := selectEntry_ok.mp hok
        obtain ⟨hfile, hunder⟩ := List.mem_filter.mp hentry
        exact ⟨hfile, .inr ⟨⟨directory, hdirectory, hunder⟩, hkept, hsuffix⟩⟩
    · rintro ⟨hfile, hrelative | ⟨⟨directory, hdirectory, hunder⟩, hkept, hsuffix⟩⟩
      · exact .inl ⟨_, hrelative, rfl, hfile⟩
      · right
        obtain ⟨selected, hselected⟩ :=
          exists_mapM_ok.mp ⟨found, hf⟩ directory hdirectory
        refine ⟨selected, ⟨directory, hdirectory, hselected⟩, ?_⟩
        simp only [PackageRules.selectDirectory, bind_eq_ok] at hselected
        obtain ⟨-, -, hpass⟩ := hselected
        exact (mem_of_mapM_ok hpass).mpr ⟨_, List.mem_filter.mpr ⟨hfile, hunder⟩,
          selectEntry_ok.mpr ⟨hkept, rfl, hsuffix⟩⟩
  have hfinal : ∀ file, file ∈ (required ++ found.flatten.reduceOption).dedup.insertionSort
      (fun a b => a.path ≤ b.path) ↔
        ⟨file.path, .file file.content⟩ ∈ entries ∧ rules.Allows file.path := by
    intro file
    rw [List.mem_insertionSort, List.mem_dedup, hmem]
  refine ⟨hfinal, ?_⟩
  have hnodup := (List.perm_insertionSort (fun a b : PackageFile => a.path ≤ b.path) _).nodup_iff.mpr
    (List.nodup_dedup (required ++ found.flatten.reduceOption))
  have hsorted := List.pairwise_insertionSort (r := fun a b : PackageFile => a.path ≤ b.path)
    (required ++ found.flatten.reduceOption).dedup
  -- two files with one path are one file
  refine (hsorted.and hnodup).imp_of_mem fun {a b} ha hb hab => lt_of_le_of_ne hab.1 fun heq => ?_
  have hentry := Table.eq_of_key_eq ((hfinal a).mp ha).1 ((hfinal b).mp hb).1 heq
  obtain ⟨path, content⟩ := a
  obtain ⟨path', content'⟩ := b
  cases hentry
  exact hab.2 rfl

/-- Two sorted lists of the same files are one list. -/
theorem SortedFiles.ext (h : SortedFiles files) (h' : SortedFiles files')
    (hmem : ∀ file, file ∈ files ↔ file ∈ files') : files = files' := by
  have hanti : ∀ a b : PackageFile, a ∈ files → b ∈ files' → a.path < b.path → b.path < a.path →
      a = b := fun a b _ _ hab hba => absurd hab (lt_asymm hba)
  have hnodup : ∀ l : List PackageFile, SortedFiles l → l.Nodup := by
    intro l hl
    refine hl.imp fun {a b} hab heq => ?_
    rw [heq] at hab
    exact lt_irrefl _ hab
  exact List.Perm.eq_of_pairwise hanti h h'
    ((List.perm_ext_iff_of_nodup (hnodup _ h) (hnodup _ h')).mpr hmem)

/-- The order of the listing does not matter. -/
theorem packageFiles_congr (hsame : ∀ entry, entry ∈ entries ↔ entry ∈ entries')
    (h : rules.packageFiles entries = .ok files) : rules.packageFiles entries' = .ok files := by
  obtain ⟨hfiles, hdirectories, hsymlinks⟩ := exists_packageFiles_ok.mp ⟨files, h⟩
  have haccepts : rules.Accepts entries' := by
    refine ⟨fun relative hr => ?_, fun directory hd => (hsame _).mp (hdirectories directory hd),
      fun directory hd entry hentry => hsymlinks directory hd entry ((hsame entry).mpr hentry)⟩
    obtain ⟨content, hmem⟩ := hfiles relative hr
    exact ⟨content, (hsame _).mp hmem⟩
  obtain ⟨files', h'⟩ := exists_packageFiles_ok.mpr haccepts
  obtain ⟨hmem, hsorted⟩ := packageFiles_ok h
  obtain ⟨hmem', hsorted'⟩ := packageFiles_ok h'
  have heq : files = files' := by
    refine hsorted.ext hsorted' fun file => ?_
    rw [hmem, hmem', hsame]
  rw [h', heq]

/-! ### The bytes of a digest -/

/-- Sorting puts what comes first first. -/
theorem insertionSort_append {α : Type} {r : α → α → Prop} [DecidableRel r] {xs ys : List α}
    (hsorted : xs.Pairwise r) (hafter : ∀ x ∈ xs, ∀ y ∈ ys, ¬r x y) :
    (xs ++ ys).insertionSort r = ys.insertionSort r ++ xs := by
  have hinsert : ∀ (x : α) (zs ws : List α), (∀ z ∈ zs, ¬r x z) → (∀ w ∈ ws, r x w) →
      (zs ++ ws).orderedInsert r x = zs ++ x :: ws := by
    intro x zs ws hz hw
    induction zs with
    | nil =>
      cases ws with
      | nil => rfl
      | cons w ws => exact if_pos (hw w List.mem_cons_self)
    | cons z zs ih =>
      obtain ⟨hz₁, hz⟩ := List.forall_mem_cons.mp hz
      rw [List.cons_append, List.orderedInsert_cons, if_neg hz₁, ih hz, List.cons_append]
  induction xs with
  | nil => simp
  | cons x xs ih =>
    obtain ⟨hx, hsorted⟩ := List.pairwise_cons.mp hsorted
    obtain ⟨hafter₁, hafter⟩ := List.forall_mem_cons.mp hafter
    rw [List.cons_append, List.insertionSort_cons, ih hsorted hafter]
    exact hinsert x _ xs (fun z hz => hafter₁ z ((List.mem_insertionSort r).mp hz)) hx

variable {package : AutomationPackage} {adapter : AdapterTree}

theorem documentName_lt {path path' : String} (h : path < path') :
    rules.documentName path < rules.documentName path' := by
  rw [String.lt_iff] at h ⊢
  simp only [PackageRules.documentName, String.toList_append, List.append_assoc]
  exact List.append_left_lt (List.append_left_lt h)

theorem documentName_injective {path path' : String}
    (h : rules.documentName path = rules.documentName path') : path = path' := by
  have hlist := congrArg String.toList h
  simp only [PackageRules.documentName, String.toList_append, List.append_assoc,
    List.append_cancel_left_eq] at hlist
  exact String.toList_inj.mp hlist

/-- The documents of the adapter come before those of the package. -/
theorem adapter_lt_documentName {path path' : String} :
    "adapter/" ++ path < package.rules.documentName path' := by
  rw [String.lt_iff]
  cases package <;>
    simp [PackageRules.documentName, AutomationPackage.rules, androidRules, legacyRules,
      String.toList_append, List.cons_lt_cons_iff]

/-- The documents of the adapter, by name. -/
def AdapterTree.documents (adapter : AdapterTree) : List (String × Bytes) :=
  (adapter.files.rows.map fun file => ("adapter/" ++ file.path, file.content)).insertionSort
    fun a b => a.1 ≤ b.1

/-- The bytes of a digest are those of the adapter, and then those of the package. -/
theorem digestInput_eq (hsorted : SortedFiles files) :
    package.rules.digestInput adapter files =
      frame 0 (adapter.documents.map fun document => (utf8 document.1, document.2)) ++
        frame 0 (files.map fun file =>
          (utf8 (package.rules.documentName file.path), file.content)) := by
  have hdocuments : package.rules.documents adapter files = adapter.documents ++
      files.map fun file => (package.rules.documentName file.path, file.content) := by
    refine insertionSort_append ?_ ?_
    · exact List.pairwise_map.mpr (hsorted.imp fun hlt => le_of_lt (documentName_lt hlt))
    · intro document hdocument other hother hle
      obtain ⟨file, -, rfl⟩ := List.mem_map.mp hdocument
      obtain ⟨adapterFile, -, rfl⟩ := List.mem_map.mp hother
      exact absurd adapter_lt_documentName (not_lt_of_ge hle)
  rw [PackageRules.digestInput, hdocuments, List.map_append, List.map_map, frame_append]
  rfl

/-- The bytes are the name of a document of the package. -/
def PackageRules.IsName (rules : PackageRules) (name : Bytes) : Prop :=
  ∃ path, rules.Allows path ∧ '\x00' ∉ path.toList ∧ name = utf8 (rules.documentName path)

/-- No content has the name of a document between its bytes 0. -/
def PackageRules.Plain (rules : PackageRules) (files : List PackageFile) : Prop :=
  ∀ file ∈ files, ∀ piece ∈ file.content.splitOn 0, ¬rules.IsName piece

theorem zero_not_mem_isName {name : Bytes} (h : package.rules.IsName name) : 0 ∉ name := by
  obtain ⟨path, -, hnul, rfl⟩ := h
  intro hmem
  have hchar := zero_mem_utf8 hmem
  rw [PackageRules.documentName, String.toList_append, String.toList_append] at hchar
  rcases List.mem_append.mp hchar with hroot | hpath
  · cases package <;> revert hroot <;> decide
  · exact hnul hpath

/-- Plain packages with the same bytes have the same files. -/
theorem digestInput_injective (hsorted : SortedFiles files) (hsorted' : SortedFiles files')
    (hnames : ∀ file ∈ files, package.rules.IsName (utf8 (package.rules.documentName file.path)))
    (hnames' : ∀ file ∈ files', package.rules.IsName (utf8 (package.rules.documentName file.path)))
    (hplain : package.rules.Plain files) (hplain' : package.rules.Plain files')
    (h : package.rules.digestInput adapter files = package.rules.digestInput adapter files') :
    files = files' := by
  rw [digestInput_eq hsorted, digestInput_eq hsorted', List.append_cancel_left_eq] at h
  have hplainDocuments : ∀ fs : List PackageFile, package.rules.Plain fs →
      ∀ document ∈ fs.map fun file =>
        (utf8 (package.rules.documentName file.path), file.content),
        ∀ piece ∈ document.2.splitOn 0, ¬package.rules.IsName piece := by
    intro fs hfs document hdocument
    obtain ⟨file, hfile, rfl⟩ := List.mem_map.mp hdocument
    exact hfs file hfile
  have hdocuments := frame_injective (fun name hname => zero_not_mem_isName hname)
    (List.forall_mem_map.mpr hnames) (hplainDocuments files hplain)
    (List.forall_mem_map.mpr hnames') (hplainDocuments files' hplain') h
  refine List.map_injective_iff.mpr ?_ hdocuments
  rintro ⟨path, content⟩ ⟨path', content'⟩ heq
  obtain ⟨hname, hcontent⟩ := Prod.mk.inj heq
  cases documentName_injective (utf8_injective hname)
  cases hcontent
  rfl

/-- A content that holds the name of a document that would come next is digested like two files. -/
theorem digestInput_split {before after : List PackageFile} {path path' : String} {x y : Bytes}
    (hsorted : SortedFiles (before ++ ⟨path, x⟩ :: ⟨path', y⟩ :: after)) :
    package.rules.digestInput adapter (before ++
        ⟨path, x ++ [0] ++ utf8 (package.rules.documentName path') ++ [0] ++ y⟩ :: after) =
      package.rules.digestInput adapter (before ++ ⟨path, x⟩ :: ⟨path', y⟩ :: after) := by
  have hmerged : SortedFiles (before ++
      ⟨path, x ++ [0] ++ utf8 (package.rules.documentName path') ++ [0] ++ y⟩ :: after) := by
    obtain ⟨hbefore, hrest, hacross⟩ := List.pairwise_append.mp hsorted
    obtain ⟨hfirst, hrest⟩ := List.pairwise_cons.mp hrest
    obtain ⟨-, hafter⟩ := List.pairwise_cons.mp hrest
    refine List.pairwise_append.mpr ⟨hbefore, List.pairwise_cons.mpr ⟨?_, hafter⟩, ?_⟩
    · exact fun file hfile => hfirst file (List.mem_cons_of_mem _ hfile)
    · intro file hfile other hother
      rcases List.mem_cons.mp hother with rfl | hother
      · exact hacross file hfile ⟨path, x⟩ List.mem_cons_self
      · exact hacross file hfile other
          (List.mem_cons_of_mem _ (List.mem_cons_of_mem _ hother))
  rw [digestInput_eq hmerged, digestInput_eq hsorted]
  simp only [List.map_append, List.map_cons]
  rw [frame_split]

/-! ### Exports -/

/-- What a copy has after some of the files: these files, and directories. -/
structure CopyOf (files : List PackageFile) (entries : Listing) : Prop where
  copied : ∀ file ∈ files, ⟨file.path, .file file.content⟩ ∈ entries
  only : ∀ path content, ⟨path, .file content⟩ ∈ entries → ⟨path, content⟩ ∈ files

theorem makeDirectory_copyOf {path : String} (h : makeDirectory entries path = .ok entries')
    (hi : CopyOf files entries) : CopyOf files entries' := by
  rw [makeDirectory] at h
  split at h
  · rw [pure_eq_ok] at h
    exact h ▸ hi
  · rw [found_eq_ok] at h
    refine ⟨fun file hfile => (Table.mem_insert? h).mpr (.inl (hi.copied file hfile)),
      fun path' content hmem => ?_⟩
    rcases (Table.mem_insert? h).mp hmem with hold | hnew
    · exact hi.only path' content hold
    · cases hnew

theorem copyFile_copyOf {file : PackageFile} (h : copyFile entries file = .ok entries')
    (hi : CopyOf files entries) : CopyOf (files ++ [file]) entries' := by
  simp only [copyFile, bind_eq_ok, found_eq_ok] at h
  obtain ⟨made, hmade, hinsert⟩ := h
  have hmadeOf : CopyOf files made :=
    foldlM_invariant (CopyOf files) (fun _ _ _ _ hmake hi => makeDirectory_copyOf hmake hi) hmade hi
  refine ⟨fun other hother => (Table.mem_insert? hinsert).mpr ?_, fun path content hmem => ?_⟩
  · rcases List.mem_append.mp hother with hold | hnew
    · exact .inl (hmadeOf.copied other hold)
    · rw [List.mem_singleton.mp hnew]
      exact .inr rfl
  · rcases (Table.mem_insert? hinsert).mp hmem with hold | hnew
    · exact List.mem_append_left _ (hmadeOf.only path content hold)
    · cases hnew
      exact List.mem_append_right _ List.mem_cons_self

theorem copyFiles_copyOf (h : copyFiles files = .ok entries) : CopyOf files entries := by
  have hfold : ∀ (left done : List PackageFile) (start : Listing),
      left.foldlM copyFile start = .ok entries → CopyOf done start →
        CopyOf (done ++ left) entries := by
    intro left
    induction left with
    | nil =>
      intro done start h hi
      simp only [List.foldlM_nil, pure_eq_ok] at h
      rw [List.append_nil]
      exact h ▸ hi
    | cons file left ih =>
      intro done start h hi
      simp only [List.foldlM_cons, bind_eq_ok] at h
      obtain ⟨next, hfile, hrest⟩ := h
      have hdone := ih (done ++ [file]) next hrest (copyFile_copyOf hfile hi)
      rwa [List.append_assoc] at hdone
  have hempty : CopyOf [] .empty :=
    ⟨fun file hfile => absurd hfile List.not_mem_nil,
      fun path content hmem => absurd hmem List.not_mem_nil⟩
  exact hfold files [] .empty h hempty

/-- An accepted copy of the files of a package has the same files. -/
theorem packageFiles_copy (hfiles : rules.packageFiles entries = .ok files)
    (hcopy : copyFiles files = .ok entries') (h : rules.packageFiles entries' = .ok files') :
    files' = files := by
  obtain ⟨hmem, hsorted⟩ := packageFiles_ok hfiles
  obtain ⟨hmem', hsorted'⟩ := packageFiles_ok h
  have hcopyOf := copyFiles_copyOf hcopy
  refine hsorted'.ext hsorted fun file => ?_
  rw [hmem']
  constructor
  · rintro ⟨hfile, -⟩
    exact hcopyOf.only file.path file.content hfile
  · intro hfile
    exact ⟨hcopyOf.copied file hfile, ((hmem file).mp hfile).2⟩

/-! ### The digest of a package -/

namespace AndroidSource

/-- The required files and directories of an Android package, and what lies in `src`. -/
def listing (sources : List FileEntry) : List FileEntry :=
  [⟨"conftest.py", .file []⟩, ⟨"pyproject.toml", .file []⟩, ⟨"test_case.xlsx", .file [80, 75, 0]⟩,
    ⟨"testops-package.json", .file []⟩, ⟨"config", .directory⟩, ⟨"config/a", .file [120]⟩,
    ⟨"scripts", .directory⟩, ⟨"scripts/a", .file [120]⟩, ⟨"tests", .directory⟩,
    ⟨"tests/a", .file [120]⟩, ⟨"src", .directory⟩] ++ sources

/-- One source file that holds the name of another one. -/
def oneFile : SourceTree where
  entries := ⟨listing [⟨"src/a", .file ([120, 0] ++ utf8 "android/src/b" ++ [0, 121])⟩], by decide⟩
  noNul := by decide

/-- The two source files. -/
def twoFiles : SourceTree where
  entries := ⟨listing [⟨"src/a", .file [120]⟩, ⟨"src/b", .file [121]⟩], by decide⟩
  noNul := by decide

/-- The two source files, listed in another order. -/
def twoFilesAgain : SourceTree where
  entries := ⟨(listing [⟨"src/a", .file [120]⟩, ⟨"src/b", .file [121]⟩]).reverse, by decide⟩
  noNul := by decide

def noAdapter : AdapterTree where
  files := .empty
  noNul := by decide

/-- A digest for the examples: the bytes themselves, written out. -/
def writtenOut (bytes : Bytes) : String :=
  String.ofList (bytes.map fun byte => Char.ofNat byte.toNat)

def filesOf (t : SourceTree) : List PackageFile :=
  ((androidRules.packageFiles t.entries).toOption).getD []

end AndroidSource

/-- Pieces that do not start like `android/` are no names. -/
theorem plain_of_head {files : List PackageFile}
    (h : ∀ file ∈ files, ∀ piece ∈ file.content.splitOn 0, piece.head? ≠ some 97) :
    androidRules.Plain files := by
  intro file hfile piece hpiece hname
  obtain ⟨path, -, -, rfl⟩ := hname
  refine h file hfile _ hpiece ?_
  simp only [utf8, PackageRules.documentName, androidRules, String.toList_append]
  rfl

end TestOps
