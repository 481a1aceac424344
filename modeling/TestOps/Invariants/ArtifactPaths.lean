import TestOps.Worker.ArtifactUploads

/-! What the address of an artifact leads back to. The path is written raw, and read as an address:

      a#1.png       workspace://…/a#1.png      ──▸  a                    cut off at a mark
      a%41.png      workspace://…/a%41.png     ──▸  aA.png               unescaped
      a.png␠        workspace://…/a.png        ──▸  a.png                stripped

    It comes back for names without marks, escapes and backslashes that do not end in white space. -/

namespace TestOps.Artifacts

open Checked Paths Delimited

/-! ### Addresses -/

variable {runId : UUID} {relative : Path} {text : Text}

theorem isLocation_uuidText : Url.IsLocation (uuidText runId).toList := by
  have hdigit : ∀ d < 16, Url.isAscii (Nat.digitChar d) = true ∧
      Url.endsLocation (Nat.digitChar d) = false ∧ Url.isRemoved (Nat.digitChar d) = false ∧
      Nat.digitChar d ≠ '[' ∧ Nat.digitChar d ≠ ']' := by decide
  intro c hc
  rcases mem_uuidText hc with rfl | ⟨d, hlt, rfl⟩
  · decide
  · exact hdigit d hlt

theorem rstrip_append {p : Char → Bool} {front : Text} (hlast : ∃ c ∈ front.getLast?, p c = false) :
    rstrip p (front ++ text) = front ++ rstrip p text := by
  induction text using List.reverseRecOn with
  | nil =>
    obtain ⟨c, hc, hp⟩ := hlast
    rw [List.append_nil, rstrip, rstrip, List.rdropWhile_nil, List.append_nil,
      List.rdropWhile_eq_self_iff]
    intro hne
    rw [List.getLast?_eq_getLast_of_ne_nil hne] at hc
    rw [Option.mem_some_iff.mp hc, hp]
    exact Bool.false_ne_true
  | append_singleton text c ih =>
    rw [← List.append_assoc, rstrip, rstrip]
    by_cases hc : p c = true
    · rw [List.rdropWhile_concat_pos _ _ _ hc, List.rdropWhile_concat_pos _ _ _ hc]
      exact ih
    · rw [List.rdropWhile_concat_neg _ _ _ hc, List.rdropWhile_concat_neg _ _ _ hc,
        List.append_assoc]

theorem strip_append {p : Char → Bool} {front : Text} (h : Tight p front) :
    strip p (front ++ text) = front ++ rstrip p text := by
  obtain ⟨⟨c, hc, hfirst⟩, hlast⟩ := h
  cases front with
  | nil => cases hc
  | cons d front =>
    obtain rfl : d = c := Option.some.inj hc
    rw [strip, List.cons_append, List.dropWhile_cons_of_neg (by simp [hfirst]), ← List.cons_append,
      rstrip_append hlast]

theorem address_append (scheme netloc rest : Text) :
    scheme ++ ':' :: '/' :: '/' :: (netloc ++ '/' :: rest) =
      (scheme ++ "://".toList ++ netloc ++ ['/']) ++ rest := by
  have hmark : "://".toList = [':', '/', '/'] := by decide
  simp [hmark]

/-- The address of an artifact loses the white space at its end. -/
theorem strip_artifactUri : strip isWhiteSpace (artifactUri runId relative) =
    "workspace".toList ++ ':' :: '/' :: '/' :: ((uuidText runId).toList ++
      '/' :: rstrip isWhiteSpace (posix relative)) := by
  have huri : artifactUri runId relative = "workspace".toList ++ ':' :: '/' :: '/' ::
      ((uuidText runId).toList ++ '/' :: posix relative) := rfl
  rw [huri]
  generalize (uuidText runId).toList = netloc
  rw [address_append, address_append]
  refine strip_append ⟨⟨'w', rfl, by decide⟩, '/', ?_, by decide⟩
  rw [List.getLast?_concat]
  rfl

/-- Where the address of an artifact leads, below the run directory. -/
def shown (text : Text) : Text :=
  Url.unquote ((rstrip isWhiteSpace text).takeWhile fun c => decide (c ≠ '#' ∧ c ≠ '?'))

/-- A path whose address leads back to it: no marks, no backslashes, no escapes, and no white space
    at the end. -/
def PlainPath (relative : Path) : Prop :=
  '#' ∉ posix relative ∧ '?' ∉ posix relative ∧ '\\' ∉ posix relative ∧
    Url.hasEscape (posix relative) = false ∧
    ∀ c ∈ (posix relative).getLast?, isWhiteSpace c = false

theorem rstrip_eq_self_iff {p : Char → Bool} :
    rstrip p text = text ↔ ∀ c ∈ text.getLast?, p c = false := by
  rw [rstrip, List.rdropWhile_eq_self_iff]
  constructor
  · intro h c hc
    have hne : text ≠ [] := by
      rintro rfl
      cases hc
    rw [List.getLast?_eq_getLast_of_ne_nil hne] at hc
    rw [← Option.mem_some_iff.mp hc]
    exact Bool.eq_false_iff.mpr (h hne)
  · intro h hne
    rw [Bool.not_eq_true]
    exact h _ (List.getLast?_eq_getLast_of_ne_nil hne ▸ rfl)

theorem takeWhile_eq_self {p : Char → Bool} (h : (text.takeWhile p).length = text.length) :
    ∀ c ∈ text, p c = true := by
  have heq : text.takeWhile p = text :=
    (List.takeWhile_prefix p).eq_of_length h
  exact List.takeWhile_eq_self_iff.mp heq

/-- What an address shows of a text is the text exactly if nothing of it is lost. -/
theorem shown_eq_self_iff : shown text = text ↔ '#' ∉ text ∧ '?' ∉ text ∧
    Url.hasEscape text = false ∧ ∀ c ∈ text.getLast?, isWhiteSpace c = false := by
  constructor
  · intro h
    have hlengths := congrArg List.length h
    have hunquote := @Url.unquote_length ((rstrip isWhiteSpace text).takeWhile
      fun c => decide (c ≠ '#' ∧ c ≠ '?'))
    have htake := (List.takeWhile_prefix (fun c => decide (c ≠ '#' ∧ c ≠ '?'))
      (l := rstrip isWhiteSpace text)).length_le
    have hstrip := (List.rdropWhile_prefix isWhiteSpace text).length_le
    rw [shown] at hlengths
    have hstripped : rstrip isWhiteSpace text = text := by
      refine (List.rdropWhile_prefix isWhiteSpace text).eq_of_length ?_
      change (rstrip isWhiteSpace text).length ≤ _ at hstrip
      change (rstrip isWhiteSpace text).length = _
      omega
    rw [shown, hstripped] at h
    rw [hstripped] at hlengths hunquote htake
    have hall := @takeWhile_eq_self text (fun c => decide (c ≠ '#' ∧ c ≠ '?')) (by omega)
    rw [List.takeWhile_eq_self_iff.mpr hall] at h
    refine ⟨fun hmem => ?_, fun hmem => ?_, Url.unquote_eq_self_iff.mp h,
      rstrip_eq_self_iff.mp hstripped⟩
    · exact (of_decide_eq_true (hall _ hmem)).1 rfl
    · exact (of_decide_eq_true (hall _ hmem)).2 rfl
  · rintro ⟨hmark, hquestion, hescape, hlast⟩
    rw [shown, rstrip_eq_self_iff.mpr hlast, List.takeWhile_eq_self_iff.mpr,
      Url.unquote_eq_self_iff.mpr hescape]
    intro c hc
    rw [decide_eq_true_eq]
    constructor
    · rintro rfl
      exact hmark hc
    · rintro rfl
      exact hquestion hc

/-! ### Local paths -/

variable {hashing : Hashing} {locations : Url.Locations} {disk : Disk} {workspaceRoot : Path}
  {file : Path × Bytes} {artifact : ReportedArtifact}

/-- The model keeps an address but for the white space around it. -/
theorem artifactOf_uri (h : artifactOf hashing runId file = .ok artifact) :
    artifact.uri.toList = strip isWhiteSpace (artifactUri runId file.1) := by
  simp only [artifactOf, ReportedArtifact.validate, nonEmptyStr, bind_eq_ok, ensure_eq_ok,
    pure_eq_ok] at h
  obtain ⟨name, -, uri, ⟨_, -, rfl⟩, _, -, _, -, rfl⟩ := h
  rw [String.toList_ofList, String.toList_ofList]

theorem posix_char (hnames : ∀ name ∈ relative, IsName name) {c : Char} (hc : c ∈ posix relative) :
    32 ≤ c.toNat := by
  rcases mem_posix hc with rfl | ⟨name, hname, hc⟩
  · decide
  · exact ((hnames name hname).2.2.2 c hc).2

/-- A relative path does not begin with a slash. -/
theorem posix_head (hnames : ∀ name ∈ relative, IsName name) :
    ∀ c ∈ (posix relative).head?, c ≠ '/' := by
  intro c hc
  cases relative with
  | nil => cases hc
  | cons name rest =>
    obtain ⟨hne, -, -, hchars⟩ := hnames name List.mem_cons_self
    cases name with
    | nil => exact absurd rfl hne
    | cons d name =>
      have hhead : (posix ((d :: name) :: rest)).head? = some d := by
        cases rest with
        | nil => rw [posix, List.intercalate_singleton, List.head?_cons]
        | cons next rest =>
          rw [posix, List.intercalate_cons_cons, List.append_assoc, List.cons_append,
            List.head?_cons]
      rw [hhead, Option.mem_some_iff] at hc
      rw [← hc]
      exact (hchars d List.mem_cons_self).1

theorem posix_ne_nil (hnames : ∀ name ∈ relative, IsName name) (hne : relative ≠ []) :
    posix relative ≠ [] := by
  intro hnil
  have hparts := splitOn_posix hnames hne
  rw [hnil] at hparts
  cases relative with
  | nil => exact hne rfl
  | cons name rest =>
    refine (hnames name List.mem_cons_self).1 ?_
    exact (List.cons.inj hparts).1.symm

/-- The path of a file, unless it is not safe, is a safe key. -/
theorem isSafeKey_posix (hnames : ∀ name ∈ relative, IsName name) (hne : relative ≠ []) :
    isSafeKey (posix relative) = true ↔ '\\' ∉ posix relative := by
  rw [isSafeKey, decide_eq_true_eq, splitOn_posix hnames hne]
  constructor
  · exact fun h => h.2.1
  · intro h
    refine ⟨posix_ne_nil hnames hne, h, ?_, ?_⟩
    · rw [List.all_eq_true]
      intro name hname
      obtain ⟨hnil, hstay, hup, -⟩ := hnames name hname
      rw [decide_eq_true_eq]
      simp only [List.mem_cons, List.not_mem_nil, or_false, not_or]
      exact ⟨hnil, hstay, hup⟩
    · rw [List.all_eq_true]
      intro c hc
      exact decide_eq_true (posix_char hnames hc)

/-- A safe key has no steps that stay or go up. -/
theorem resolved_of_isSafeKey {key : Text} (h : isSafeKey key = true) :
    Resolved (key.splitOn '/') := by
  rw [isSafeKey, decide_eq_true_eq] at h
  obtain ⟨-, -, hparts, -⟩ := h
  rw [List.all_eq_true] at hparts
  constructor
  · intro hmem
    have hpart := of_decide_eq_true (hparts _ hmem)
    simp at hpart
  · intro hmem
    have hpart := of_decide_eq_true (hparts _ hmem)
    simp at hpart

theorem urlsplit_artifact (hnames : ∀ name ∈ relative, IsName name)
    (huri : artifact.uri.toList = strip isWhiteSpace (artifactUri runId relative)) :
    ∃ parsed, Url.urlsplit locations artifact.uri.toList = some parsed ∧
      parsed.scheme = "workspace".toList ∧ parsed.netloc = (uuidText runId).toList ∧
      Url.unquote (parsed.path.dropWhile (· = '/')) = shown (posix relative) := by
  have hscheme : Url.IsScheme "workspace".toList := by decide
  have hrest : ∀ c ∈ rstrip isWhiteSpace (posix relative), Url.isRemoved c = false := by
    intro c hc
    exact Url.isRemoved_of_le (posix_char hnames ((List.rdropWhile_prefix isWhiteSpace _).subset hc))
  have hhead : ∀ c ∈ ((rstrip isWhiteSpace (posix relative)).takeWhile
      fun c => decide (c ≠ '#' ∧ c ≠ '?')).head?, c ≠ '/' := by
    intro c hc
    refine posix_head hnames c ?_
    have hprefix := (List.takeWhile_prefix (fun c => decide (c ≠ '#' ∧ c ≠ '?'))
      (l := rstrip isWhiteSpace (posix relative))).trans
        (List.rdropWhile_prefix isWhiteSpace (posix relative))
    obtain ⟨back, hback⟩ := hprefix
    rw [← hback, List.head?_append, Option.mem_def.mp hc]
    rfl
  rw [huri, strip_artifactUri]
  refine ⟨_, Url.urlsplit_plain hscheme isLocation_uuidText hrest, rfl, rfl, ?_⟩
  simp only [Url.cut_cut_slash]
  rw [List.dropWhile_cons_of_pos (by simp), shown]
  congr 1
  cases htext : (rstrip isWhiteSpace (posix relative)).takeWhile
      fun c => decide (c ≠ '#' ∧ c ≠ '?') with
  | nil => rfl
  | cons c rest =>
    rw [htext] at hhead
    rw [List.dropWhile_cons_of_neg]
    rw [decide_eq_true_eq]
    exact hhead c rfl

/-- The worker finds a file by the address that was made of its path, exactly if the path is
    plain. -/
theorem localPath_eq_ok (hnames : ∀ name ∈ relative, IsName name) (hne : relative ≠ [])
    (hfile : ((disk.node (runRoot workspaceRoot runId ++ relative)).any FileTree.Node.isFile) = true)
    (huri : artifact.uri.toList = strip isWhiteSpace (artifactUri runId relative)) :
    localPath locations disk workspaceRoot runId artifact =
      .ok (runRoot workspaceRoot runId ++ relative) ↔ PlainPath relative := by
  obtain ⟨parsed, hsplit, hscheme, hnetloc, hshown⟩ :=
    @urlsplit_artifact runId relative locations artifact hnames huri
  have hroot : Resolved (runRoot workspaceRoot runId) := resolved_resolve
  have hresolve : ∀ {key : Text}, isSafeKey key = true →
      resolve (runRoot workspaceRoot runId ++ key.splitOn '/') =
        runRoot workspaceRoot runId ++ key.splitOn '/' := fun hsafe =>
    resolve_eq (resolved_append.mpr ⟨hroot, resolved_of_isSafeKey hsafe⟩)
  have hplain : PlainPath relative ↔ shown (posix relative) = posix relative ∧
      '\\' ∉ posix relative := by
    rw [shown_eq_self_iff, PlainPath]
    tauto
  rw [hplain]
  simp only [localPath, hsplit, bind_eq_ok, found_eq_ok, ensure_eq_ok, pure_eq_ok, hscheme,
    hnetloc, hshown, Option.some.injEq, exists_eq_left', exists_const, true_and, and_self]
  constructor
  · rintro ⟨hsafe, -, hpath⟩
    rw [hresolve hsafe, List.append_cancel_left_eq] at hpath
    have hjoin : ['/'].intercalate ((shown (posix relative)).splitOn '/') =
        shown (posix relative) := List.intercalate_splitOn _
    rw [hpath] at hjoin
    have hsame : shown (posix relative) = posix relative := hjoin.symm
    rw [hsame] at hsafe
    exact ⟨hsame, (isSafeKey_posix hnames hne).mp hsafe⟩
  · rintro ⟨hsame, hbackslash⟩
    have hsafe := (isSafeKey_posix hnames hne).mpr hbackslash
    rw [hsame, hresolve hsafe, splitOn_posix hnames hne]
    refine ⟨hsafe, ⟨List.prefix_append _ _, fun heq => hne ?_, hfile⟩, rfl⟩
    exact (List.append_cancel_left ((List.append_nil _).trans heq)).symm

/-! ### All artifacts of a workspace -/

theorem node_of_listed {runPath : Path} (h : file ∈ listed disk runPath) :
    file.1 ≠ [] ∧ disk.node (runPath ++ file.1) = some (.file file.2) := by
  rw [listed, List.mem_filter, List.mem_insertionSort, List.mem_filterMap] at h
  obtain ⟨⟨⟨p, n⟩, hentry, hfile⟩, -⟩ := h
  cases n with
  | dir => cases hfile
  | file content =>
    by_cases hbelow : runPath <+: p ∧ runPath ≠ p
    · have hfound : fileBelow runPath (p, .file content) =
          some (p.drop runPath.length, content) := if_pos hbelow
      obtain rfl := Option.some.inj (hfound.symm.trans hfile)
      obtain ⟨⟨rest, rfl⟩, hne⟩ := hbelow
      rw [List.drop_left]
      refine ⟨?_, (FileTree.mem_entries_iff.mp hentry).2⟩
      rintro rfl
      exact hne (List.append_nil _).symm
    · have hnone : fileBelow runPath (p, .file content) = none := if_neg hbelow
      rw [hnone] at hfile
      cases hfile

/-- Each artifact of a workspace leads back to the file it was made from, exactly if the path of
    each file is plain. -/
theorem artifacts_roundTrip_iff {made : List ReportedArtifact}
    (hnames : ∀ file ∈ listed disk (runRoot workspaceRoot runId), ∀ name ∈ file.1, IsName name)
    (hmade : artifacts hashing runId disk (runRoot workspaceRoot runId) = .ok made) :
    List.Forall₂ (fun file artifact => localPath locations disk workspaceRoot runId artifact =
        .ok (runRoot workspaceRoot runId ++ file.1))
      (listed disk (runRoot workspaceRoot runId)) made ↔
      ∀ file ∈ listed disk (runRoot workspaceRoot runId), PlainPath file.1 := by
  have hback : ∀ file ∈ listed disk (runRoot workspaceRoot runId), ∀ artifact,
      artifactOf hashing runId file = .ok artifact →
      (localPath locations disk workspaceRoot runId artifact =
        .ok (runRoot workspaceRoot runId ++ file.1) ↔ PlainPath file.1) := by
    intro file hfile artifact hartifact
    obtain ⟨hne, hnode⟩ := node_of_listed hfile
    refine localPath_eq_ok (hnames file hfile) hne ?_ (artifactOf_uri hartifact)
    rw [hnode]
    rfl
  rw [artifacts] at hmade
  clear hnames
  generalize listed disk (runRoot workspaceRoot runId) = files at hmade hback ⊢
  induction files generalizing made with
  | nil =>
    rw [List.mapM_nil, pure_eq_ok] at hmade
    rw [← hmade]
    exact iff_of_true .nil nofun
  | cons file files ih =>
    simp only [List.mapM_cons, bind_eq_ok, pure_eq_ok] at hmade
    obtain ⟨artifact, hartifact, rest, hrest, rfl⟩ := hmade
    rw [List.forall₂_cons, List.forall_mem_cons]
    exact and_congr (hback file List.mem_cons_self artifact hartifact)
      (ih hrest fun other hother => hback other (List.mem_cons_of_mem _ hother))

/-! ### A workspace with one file -/

def runsRoot : Path := ["runs".toList]

/-- The workspace of a run whose only file is this one, with three bytes. -/
def oneFile (name : Text) : Disk :=
  ((FileTree.makeDirs (fun _ => false) (runRoot runsRoot 7) >>= fun _ =>
    FileTree.addEntry (fun _ => false) (runRoot runsRoot 7 ++ [name]) (.file [1, 2, 3]) :
      Attempt Disk FileTree.FileError Unit) FileTree.empty).2

/-- The digest of the three bytes. -/
def threeBytes : Hashing where
  sha256 _ := "039058c6f2c0cb492c533b0a4d14ef77cc0f78abccced5287d84a1a2011cfb81".toList
  uuid5 _ name :=
    if name = "home page.png".toList then 62472899240907387341606545355767718053
    else 228005743517300736728027889406851584945

theorem listed_oneFile : listed (oneFile "home page.png".toList) (runRoot runsRoot 7) =
    [(["home page.png".toList], [1, 2, 3])] := by
  decide

theorem listed_marked : listed (oneFile "case#1.png".toList) (runRoot runsRoot 7) =
    [(["case#1.png".toList], [1, 2, 3])] := by
  decide

/-- A name with a space comes back. -/
theorem oneFile_roundTrip : ∃ made, artifacts threeBytes 7 (oneFile "home page.png".toList)
    (runRoot runsRoot 7) = .ok made ∧
      List.Forall₂ (fun file artifact => localPath (fun _ => false)
          (oneFile "home page.png".toList) runsRoot 7 artifact = .ok (runRoot runsRoot 7 ++ file.1))
        (listed (oneFile "home page.png".toList) (runRoot runsRoot 7)) made := by
  obtain ⟨made, hmade⟩ := ok_of_isSome (show (artifacts threeBytes 7
    (oneFile "home page.png".toList) (runRoot runsRoot 7)).toOption.isSome by decide)
  have hlast : (posix ["home page.png".toList]).getLast? = some 'g' := by decide
  refine ⟨made, hmade, (artifacts_roundTrip_iff ?_ hmade).mpr ?_⟩
  · rw [listed_oneFile]
    intro file hfile name hname
    rw [List.mem_singleton.mp hfile, List.mem_singleton] at hname
    have hall : (name.all fun c => decide (c ≠ '/' ∧ 32 ≤ c.toNat)) = true := by
      rw [hname]
      decide
    refine ⟨?_, ?_, ?_, fun c hc => of_decide_eq_true (List.all_eq_true.mp hall c hc)⟩
    all_goals
      rw [hname]
      decide
  · rw [listed_oneFile]
    intro file hfile
    rw [List.mem_singleton.mp hfile]
    refine ⟨by decide, by decide, by decide, by decide, ?_⟩
    rw [hlast]
    intro c hc
    rw [← Option.mem_some_iff.mp hc]
    decide

/-- A name with a number sign is cut off, and the artifact is missing. -/
theorem marked_missing : ∃ made, artifacts threeBytes 7 (oneFile "case#1.png".toList)
    (runRoot runsRoot 7) = .ok made ∧
      ¬List.Forall₂ (fun file artifact => localPath (fun _ => false)
          (oneFile "case#1.png".toList) runsRoot 7 artifact = .ok (runRoot runsRoot 7 ++ file.1))
        (listed (oneFile "case#1.png".toList) (runRoot runsRoot 7)) made := by
  obtain ⟨made, hmade, hmissing⟩ := exists_of_toOption (show (artifacts threeBytes 7
    (oneFile "case#1.png".toList) (runRoot runsRoot 7)).toOption.map
      (fun made => made.map fun artifact => (localPath (fun _ => false)
        (oneFile "case#1.png".toList) runsRoot 7 artifact).toOption) = some [none] by
      decide)
  refine ⟨made, hmade, fun hall => ?_⟩
  rw [listed_marked] at hall
  cases hall with
  | cons hfirst hrest =>
    cases hrest
    rw [List.map_singleton, hfirst] at hmissing
    cases hmissing

end TestOps.Artifacts
