import TestOps.ControlPlane.ArtifactLocations
import TestOps.Invariants.ArtifactPaths

/-! Published artifacts stay, and can be found by their addresses. However many uploads are under way
    and whatever fails, an object is written once, with the digest of its bytes beside it:

      upload A   head ─ missing ─ put ─────────────── head ─ matches ─▸ returned
      upload B        head ─ missing ─ put (refused) ─ head ─ matches ─▸ returned
      store      ∅ ─────────────▸ object ─────────────────────────────▸ the same object

    A key has the identifiers of run and artifact in it, and nothing that an address would read in
    another way. -/

namespace TestOps.Artifacts

open Checked Paths Remote Program Transition

/-! ### Keys -/

variable {runId runId' : UUID} {artifact artifact' : ReportedArtifact} {uploader : Uploader}

/-- Letters, digits, dots, underscores and hyphens. -/
theorem isObjectNameChar_plain {c : Char} (h : isObjectNameChar c = true) :
    c ≠ '/' ∧ c ≠ '%' ∧ c ≠ '#' ∧ c ≠ '?' ∧ c ≠ '\\' ∧ c ≠ '[' ∧ c ≠ ']' ∧ 32 ≤ c.toNat ∧
      c.toNat < 128 := by
  have hne : ∀ d : Char, isObjectNameChar d = false → c ≠ d := by
    rintro d hd rfl
    rw [h] at hd
    cases hd
  refine ⟨hne _ (by decide), hne _ (by decide), hne _ (by decide), hne _ (by decide),
    hne _ (by decide), hne _ (by decide), hne _ (by decide), ?_⟩
  simp only [isObjectNameChar, Char.isAlphanum, Char.isAlpha, Char.isUpper, Char.isLower,
    Bool.or_eq_true, Bool.and_eq_true, decide_eq_true_eq, UInt32.le_iff_toNat_le, ge_iff_le,
    Char.isDigit_iff_toNat] at h
  have hval : c.val.toNat = c.toNat := rfl
  simp only [hval] at h
  rcases h with ((((⟨hmin, hmax⟩ | ⟨hmin, hmax⟩) | ⟨hmin, hmax⟩) | rfl) | rfl) | rfl
  · exact ⟨le_trans (by decide) hmin, lt_of_le_of_lt hmax (by decide)⟩
  · exact ⟨le_trans (by decide) hmin, lt_of_le_of_lt hmax (by decide)⟩
  · exact ⟨le_trans (by decide) hmin, lt_of_le_of_lt hmax (by decide)⟩
  · decide
  · decide
  · decide

theorem isObjectNameChar_uuidText {c : Char} (h : c ∈ (uuidText runId).toList) :
    isObjectNameChar c = true := by
  have hdigit : ∀ d < 16, isObjectNameChar (Nat.digitChar d) = true := by decide
  rcases mem_uuidText h with rfl | ⟨d, hlt, rfl⟩
  · decide
  · exact hdigit d hlt

theorem isObjectNameChar_replaceRuns {inRun : Bool} {text : Text} {c : Char}
    (h : c ∈ replaceRuns inRun text) : isObjectNameChar c = true := by
  induction text generalizing inRun with
  | nil => cases h
  | cons d text ih =>
    rw [replaceRuns] at h
    split at h
    · rename_i hd
      rcases List.mem_cons.mp h with rfl | h
      · exact hd
      · exact ih h
    · split at h
      · exact ih h
      · rcases List.mem_cons.mp h with rfl | h
        · decide
        · exact ih h

theorem isObjectNameChar_safeObjectName {name : Text} {c : Char} (h : c ∈ safeObjectName name) :
    isObjectNameChar c = true := by
  have hartifact : ("artifact".toList.all isObjectNameChar) = true := by decide
  rw [safeObjectName] at h
  split at h
  · exact List.all_eq_true.mp hartifact c h
  · exact isObjectNameChar_replaceRuns (Delimited.mem_of_mem_trim h)

theorem isName_of_plain {name : Text} (hne : name ≠ []) (hstay : name ≠ ".".toList)
    (hup : name ≠ "..".toList) (h : ∀ c ∈ name, isObjectNameChar c = true) : IsName name := by
  refine ⟨hne, hstay, hup, fun c hc => ?_⟩
  have hplain := isObjectNameChar_plain (h c hc)
  exact ⟨hplain.1, hplain.2.2.2.2.2.2.2.1⟩

theorem isName_uuidText : IsName (uuidText runId).toList := by
  have hhyphen : '-' ∈ (uuidText runId).toList := by
    rw [uuidText, String.toList_ofList, hyphenate]
    exact List.mem_append_right _ List.mem_cons_self
  have hplain : ∀ c ∈ (uuidText runId).toList, isObjectNameChar c = true := fun c =>
    isObjectNameChar_uuidText
  generalize (uuidText runId).toList = name at hhyphen hplain ⊢
  refine isName_of_plain (List.ne_nil_of_mem hhyphen) ?_ ?_ hplain
  · rintro rfl
    revert hhyphen
    decide
  · rintro rfl
    revert hhyphen
    decide

theorem isName_safeObjectName {name : Text} : IsName (safeObjectName name) := by
  have hstrip : ∀ text : Text, strip (fun c => c = '.' || c = '_') text ≠ ".".toList ∧
      strip (fun c => c = '.' || c = '_') text ≠ "..".toList := by
    intro text
    have hdot : ∀ stripped : Text, strip (fun c => c = '.' || c = '_') text = stripped →
        stripped ≠ [] → stripped.head? ≠ some '.' := by
      rintro stripped rfl hne hhead
      obtain ⟨⟨c, hc, hfirst⟩, -⟩ := tight_strip hne
      rw [Option.mem_def.mp hc, Option.some.injEq] at hhead
      rw [hhead] at hfirst
      cases hfirst
    exact ⟨fun heq => hdot _ heq (by decide) (by decide),
      fun heq => hdot _ heq (by decide) (by decide)⟩
  refine isName_of_plain ?_ ?_ ?_ fun c => isObjectNameChar_safeObjectName
  all_goals
    rw [safeObjectName]
    split
  · decide
  · assumption
  · decide
  · exact (hstrip _).1
  · decide
  · exact (hstrip _).2

theorem isName_runs : IsName "runs".toList := by
  refine isName_of_plain (by decide) (by decide) (by decide) ?_
  exact fun c hc => List.all_eq_true.mp (show ("runs".toList.all isObjectNameChar) = true by
    decide) c hc

/-- The names in a key. -/
def keyNames (runId : UUID) (artifact : ReportedArtifact) : Path :=
  ["runs".toList, (uuidText runId).toList, (uuidText artifact.artifactId).toList,
    safeObjectName artifact.name.toList]

theorem isName_keyNames {name : Text} (h : name ∈ keyNames runId artifact) : IsName name := by
  simp only [keyNames, List.mem_cons, List.not_mem_nil, or_false] at h
  rcases h with rfl | rfl | rfl | rfl
  · exact isName_runs
  · exact isName_uuidText
  · exact isName_uuidText
  · exact isName_safeObjectName

theorem splitOn_objectKey : (objectKey runId artifact).splitOn '/' = keyNames runId artifact :=
  splitOn_posix (fun _ => isName_keyNames) (List.cons_ne_nil _ _)

/-- A key tells the run and the artifact. -/
theorem objectKey_inj (h : objectKey runId artifact = objectKey runId' artifact') :
    runId = runId' ∧ artifact.artifactId = artifact'.artifactId := by
  have htext : ∀ id id' : UUID, (uuidText id).toList = (uuidText id').toList → id = id' := by
    intro id id' heq
    have hparse := parseUuid_uuidText id
    rw [String.toList_inj.mp heq, parseUuid_uuidText, Option.some.injEq] at hparse
    exact hparse.symm
  have hnames := congrArg (List.splitOn '/') h
  rw [splitOn_objectKey, splitOn_objectKey] at hnames
  simp only [keyNames, List.cons.injEq, true_and, and_true] at hnames
  exact ⟨htext _ _ hnames.1, htext _ _ hnames.2.1⟩

theorem objectKey_char {c : Char} (h : c ∈ objectKey runId artifact) :
    c = '/' ∨ isObjectNameChar c = true := by
  rcases mem_posix h with rfl | ⟨name, hname, hc⟩
  · exact .inl rfl
  · refine .inr ?_
    simp only [List.mem_cons, List.not_mem_nil, or_false] at hname
    rcases hname with rfl | rfl | rfl | rfl
    · exact List.all_eq_true.mp (show ("runs".toList.all isObjectNameChar) = true by
        decide) c hc
    · exact isObjectNameChar_uuidText hc
    · exact isObjectNameChar_uuidText hc
    · exact isObjectNameChar_safeObjectName hc

theorem isSafeKey_objectKey : isSafeKey (objectKey runId artifact) = true := by
  refine (isSafeKey_posix (fun _ => isName_keyNames) (List.cons_ne_nil _ _)).mpr ?_
  intro hmem
  rcases objectKey_char hmem with h | h
  · cases h
  · exact (isObjectNameChar_plain h).2.2.2.2.1 rfl

/-! ### Addresses of objects -/

variable {locations : Url.Locations} {bucket : Text}

/-- The service finds the object by the address that the worker made. -/
theorem parse_objectUri (hbucket : Url.IsLocation bucket) :
    parseArtifactUri locations (objectUri bucket (objectKey runId artifact)) runId bucket =
      .ok ⟨bucket, objectKey runId artifact⟩ := by
  have hscheme : Url.IsScheme "s3".toList := by decide
  have hplain : ∀ c ∈ objectKey runId artifact, c ≠ '%' ∧ c ≠ '#' ∧ c ≠ '?' ∧ 32 ≤ c.toNat := by
    intro c hc
    rcases objectKey_char hc with rfl | hc
    · decide
    · have hname := isObjectNameChar_plain hc
      exact ⟨hname.2.1, hname.2.2.1, hname.2.2.2.1, hname.2.2.2.2.2.2.2.1⟩
  have hkept : ∀ c ∈ objectKey runId artifact, Url.isRemoved c = false := fun c hc =>
    Url.isRemoved_of_le (hplain c hc).2.2.2
  have hmarks : ∀ mark : Char, mark ≠ '/' → (∀ c ∈ objectKey runId artifact, c ≠ mark) →
      mark ∉ '/' :: objectKey runId artifact := by
    intro mark hslash hall hmem
    rcases List.mem_cons.mp hmem with rfl | hmem
    · exact hslash rfl
    · exact hall _ hmem rfl
  have hsplit : Url.urlsplit locations (objectUri bucket (objectKey runId artifact)) =
      some ⟨"s3".toList, bucket, '/' :: objectKey runId artifact, [], []⟩ := by
    rw [objectUri, Url.urlsplit_plain hscheme hbucket hkept,
      Url.cut_of_not_mem (hmarks '#' (by decide) fun c hc => (hplain c hc).2.1),
      Url.cut_of_not_mem (hmarks '?' (by decide) fun c hc => (hplain c hc).2.2.1)]
  have hpercent : '%' ∉ objectKey runId artifact := fun hmem => (hplain _ hmem).1 rfl
  have hkey : Url.unquote (('/' :: objectKey runId artifact).dropWhile (· = '/')) =
      objectKey runId artifact := by
    have hhead := @posix_head (keyNames runId artifact) fun _ => isName_keyNames
    have hdrop : (objectKey runId artifact).dropWhile (· = '/') = objectKey runId artifact := by
      change ∀ c ∈ (objectKey runId artifact).head?, c ≠ '/' at hhead
      generalize objectKey runId artifact = key at hhead
      cases key with
      | nil => rfl
      | cons c key =>
        rw [List.dropWhile_cons_of_neg]
        simpa using hhead c rfl
    rw [List.dropWhile_cons_of_pos (by simp), hdrop, Url.unquote, if_neg hpercent]
  have hrun : ((objectKey runId artifact).splitOn '/').take 2 =
      ["runs".toList, (uuidText runId).toList] := by
    rw [splitOn_objectKey]
    rfl
  simp only [parseArtifactUri, hsplit, bind_eq_ok, found_eq_ok, ensure_eq_ok, pure_eq_ok, hkey,
    Option.some.injEq, exists_eq_left', exists_const, and_self, isSafeKey_objectKey, hrun]

/-! ### What the store keeps -/

/-- Each object has the digest of its bytes beside it. -/
def Honest (sha256 : Bytes → Text) (store : ObjectStore) : Prop :=
  ∀ key object, store key = some object →
    object.metadata.lookup "sha256" = some (sha256 object.body)

/-- Objects stay, and those that come are honest. -/
structure Grows (sha256 : Bytes → Text) (store store' : ObjectStore) : Prop where
  kept : ∀ key object, store key = some object → store' key = some object
  honest : Honest sha256 store → Honest sha256 store'

/-- The artifact of a call is in the store as it is on the worker. -/
def Published (uploader : Uploader) (call : UploadCall) (artifact : ReportedArtifact)
    (store : ObjectStore) : Prop :=
  ∃ path body object, localPath uploader.locations call.disk call.workspaceRoot call.result.runId
      artifact = .ok path ∧
    verifyLocalFile uploader.sha256 call.disk path artifact =
      .ok (body, uploader.sha256 body) ∧
    store (objectKey call.result.runId artifact) = some object ∧
    artifact.sizeBytes = object.body.length ∧
    object.metadata.lookup "sha256" = some (uploader.sha256 body)

variable {store store' : ObjectStore} {call : UploadCall} {sha256 : Bytes → Text}

theorem isRely_grows : IsRely (Grows sha256) where
  refl _ := ⟨fun _ _ h => h, fun h => h⟩
  trans _ _ _ h h' := ⟨fun key object hobject => h'.kept key object (h.kept key object hobject),
    fun hhonest => h'.honest (h.honest hhonest)⟩

theorem grows_insert {key : Text} {object : StoredObject} (hfree : store key = none)
    (hobject : object.metadata.lookup "sha256" = some (sha256 object.body)) :
    Grows sha256 store (store.insert key object) := by
  refine ⟨fun k other hother => ?_, fun hhonest k other hother => ?_⟩
  · rw [ObjectStore.insert, if_neg, hother]
    rintro rfl
    rw [hfree] at hother
    cases hother
  · by_cases hk : k = key
    · rw [ObjectStore.insert, if_pos hk, Option.some.injEq] at hother
      rw [← hother]
      exact hobject
    · rw [ObjectStore.insert, if_neg hk] at hother
      exact hhonest k other hother

theorem Published.mono {artifact : ReportedArtifact}
    (h : Published uploader call artifact store) (hgrows : Grows sha256 store store') :
    Published uploader call artifact store' := by
  obtain ⟨path, body, object, hpath, hverify, hobject, hrest⟩ := h
  exact ⟨path, body, object, hpath, hverify, hgrows.kept _ _ hobject, hrest⟩

theorem verifyLocalFile_ok {disk : Disk} {path : Path} {verified : Bytes × Text}
    (h : verifyLocalFile sha256 disk path artifact = .ok verified) :
    verified.2 = sha256 verified.1 ∧ artifact.sizeBytes = verified.1.length ∧
      artifact.digest.toList = "sha256:".toList ++ sha256 verified.1 := by
  rw [verifyLocalFile] at h
  split at h
  · simp only [ok_bind, bind_eq_ok, ensure_eq_ok, pure_eq_ok] at h
    obtain ⟨_, ⟨hsize, hdigest⟩, rfl⟩ := h
    exact ⟨rfl, hsize, hdigest⟩
  · cases h

/-- What is published has the size and the digest of the artifact. -/
theorem Published.digest (h : Published uploader call artifact store)
    (hhonest : Honest uploader.sha256 store) :
    ∃ object, store (objectKey call.result.runId artifact) = some object ∧
      artifact.sizeBytes = object.body.length ∧
      artifact.digest.toList = "sha256:".toList ++ uploader.sha256 object.body := by
  obtain ⟨path, body, object, -, hverify, hobject, hsize, hlookup⟩ := h
  refine ⟨object, hobject, hsize, ?_⟩
  rw [hhonest _ _ hobject, Option.some.injEq] at hlookup
  rw [(verifyLocalFile_ok hverify).2.2, hlookup]

/-! ### What a call establishes -/

theorem sound_unlessCode {codes : List String} {text : String} {e : RequestError} :
    Sound Serves (Grows sha256) (fun _ _ => True) (unlessCode codes text e) store := by
  cases e with
  | client code =>
    rw [unlessCode]
    split
    · exact sound_pure fun _ _ => trivial
    · exact sound_raise
  | other text => exact sound_raise

theorem sound_createBucket :
    Sound Serves (Grows sha256) (fun _ _ => True) createBucket store := by
  refine sound_ask fun s₁ _ answer s₂ hserve => ?_
  cases hserve
  refine ⟨isRely_grows.refl _, ?_⟩
  cases answer with
  | ok _ => exact sound_pure fun _ _ => trivial
  | error e => exact sound_unlessCode

theorem sound_ensureBucket {ready : Bool} :
    Sound Serves (Grows sha256) (fun _ _ => True) (ensureBucket ready) store := by
  rw [ensureBucket]
  split
  · exact sound_pure fun _ _ => trivial
  · refine sound_ask fun s₁ _ answer s₂ hserve => ?_
    cases hserve
    refine ⟨isRely_grows.refl _, ?_⟩
    cases answer with
    | ok _ => exact sound_pure fun _ _ => trivial
    | error e => exact sound_unlessCode.bind isRely_grows fun _ _ _ _ => sound_createBucket

/-- A match is an object with the size and the digest that were asked for. -/
theorem sound_objectMatches {key sha256Hex : Text} :
    Sound Serves (Grows sha256) (fun found store => found = true → ∃ object,
        store key = some object ∧ artifact.sizeBytes = object.body.length ∧
          object.metadata.lookup "sha256" = some sha256Hex)
      (objectMatches key artifact sha256Hex) store := by
  refine sound_ask fun s₁ _ answer s₂ hserve => ?_
  cases hserve with
  | @found _ _ object hobject =>
    refine ⟨isRely_grows.refl _, sound_lift fun found hmatch s' hs' _ => ?_⟩
    rw [headMatches] at hmatch
    split at hmatch
    · rename_i hhead
      exact ⟨object, hs'.kept _ _ hobject, hhead.1.symm, hhead.2⟩
    · cases hmatch
  | headFails =>
    refine ⟨isRely_grows.refl _, sound_unlessCode.bind isRely_grows fun _ _ _ _ => ?_⟩
    exact sound_pure fun _ _ hfalse => nomatch hfalse

/-- What is in the store, as it was written or found there. -/
def Stored (uploader : Uploader) (runId : UUID) (artifact : ReportedArtifact) (body : Bytes)
    (store : ObjectStore) : Prop :=
  ∃ object, store (objectKey runId artifact) = some object ∧
    artifact.sizeBytes = object.body.length ∧
    object.metadata.lookup "sha256" = some (uploader.sha256 body)

theorem sound_writeObject {body : Bytes} :
    Sound Serves (Grows uploader.sha256) (fun _ => Stored uploader runId artifact body)
      (writeObject uploader runId artifact body (uploader.sha256 body)) store := by
  have hlook : ∀ s : ObjectStore,
      Sound Serves (Grows uploader.sha256) (fun _ => Stored uploader runId artifact body)
        (do if ← objectMatches (objectKey runId artifact) artifact (uploader.sha256 body) then pure ()
            else raise (.upload "uploaded artifact failed integrity verification")) s := by
    intro s
    refine sound_objectMatches.bind isRely_grows fun found s' _ hfound => ?_
    cases found with
    | true =>
      obtain ⟨object, hobject, hrest⟩ := hfound rfl
      exact sound_pure fun s'' hs'' => ⟨object, hs''.kept _ _ hobject, hrest⟩
    | false => exact sound_raise
  refine sound_ask fun s₁ _ answer s₂ hserve => ?_
  have hgrows : Grows uploader.sha256 s₁ s₂ := by
    cases hserve with
    | written hfree => exact grows_insert hfree rfl
    | putFails => exact isRely_grows.refl _
    | writtenFails hfree => exact grows_insert hfree rfl
  refine ⟨hgrows, ?_⟩
  cases answer with
  | ok _ => exact hlook s₂
  | error e => exact sound_unlessCode.bind isRely_grows fun _ s' _ _ => hlook s'

theorem sound_uploadArtifact :
    Sound Serves (Grows uploader.sha256) (fun uploaded store =>
        uploaded = uploadedArtifact uploader call.result.runId artifact ∧
          Published uploader call artifact store)
      (uploadArtifact uploader call artifact) store := by
  refine sound_lift_ok.bind isRely_grows fun path s₁ _ hpath => ?_
  refine sound_lift_ok.bind isRely_grows fun verified s₂ _ hverify => ?_
  obtain ⟨body, sha256Hex⟩ := verified
  obtain rfl : sha256Hex = uploader.sha256 body := (verifyLocalFile_ok hverify).1
  have hpublished : ∀ s, Stored uploader call.result.runId artifact body s →
      Published uploader call artifact s := by
    rintro s ⟨object, hobject, hrest⟩
    exact ⟨path, body, object, hpath, hverify, hobject, hrest⟩
  have hdone : ∀ s, Stored uploader call.result.runId artifact body s →
      Sound Serves (Grows uploader.sha256) (fun uploaded store =>
        uploaded = uploadedArtifact uploader call.result.runId artifact ∧
          Published uploader call artifact store)
        (pure (uploadedArtifact uploader call.result.runId artifact) : Upload ReportedArtifact) s :=
    fun s hstored =>
    sound_pure fun s' hs' => ⟨rfl, (hpublished s hstored).mono hs'⟩
  refine sound_objectMatches.bind isRely_grows fun found s₃ _ hfound => ?_
  cases found with
  | true => exact hdone s₃ (hfound rfl)
  | false => exact sound_writeObject.bind isRely_grows fun _ s₄ _ hstored => hdone s₄ hstored

theorem sound_uploadArtifacts {artifacts : List ReportedArtifact} :
    Sound Serves (Grows uploader.sha256) (fun uploaded store =>
        uploaded = artifacts.map (uploadedArtifact uploader call.result.runId) ∧
          ∀ artifact ∈ artifacts, Published uploader call artifact store)
      (uploadArtifacts uploader call artifacts) store := by
  induction artifacts generalizing store with
  | nil => exact sound_pure fun _ _ => ⟨rfl, nofun⟩
  | cons artifact artifacts ih =>
    refine sound_uploadArtifact.bind isRely_grows fun uploaded s₁ _ hfirst => ?_
    refine ih.bind isRely_grows fun rest s₂ hs₂ hrest => ?_
    obtain ⟨rfl, hpublished⟩ := hfirst
    obtain ⟨rfl, hall⟩ := hrest
    refine sound_pure fun s₃ hs₃ => ⟨rfl, ?_⟩
    rw [List.forall_mem_cons]
    exact ⟨(hpublished.mono hs₂).mono hs₃, fun other hother => (hall other hother).mono hs₃⟩

/-- The result as it is returned. -/
def uploadedResult (uploader : Uploader) (result : ReportedResult) : ReportedResult :=
  { result with artifacts := result.artifacts.map (uploadedArtifact uploader result.runId) }

theorem sound_uploadResult :
    Sound Serves (Grows uploader.sha256) (fun result store =>
        result = uploadedResult uploader call.result ∧
          ∀ artifact ∈ call.result.artifacts, Published uploader call artifact store)
      (uploadResult uploader call) store := by
  rw [uploadResult]
  split
  · rename_i hnone
    refine sound_pure fun _ _ => ⟨?_, ?_⟩
    · rw [uploadedResult, hnone, List.map_nil, ← hnone]
    · rw [hnone]
      exact nofun
  · refine sound_ensureBucket.bind isRely_grows fun _ s₁ _ _ => ?_
    refine sound_uploadArtifacts.bind isRely_grows fun uploaded s₂ _ huploaded => ?_
    obtain ⟨rfl, hpublished⟩ := huploaded
    exact sound_pure fun s₃ hs₃ => ⟨rfl, fun artifact hmem => (hpublished artifact hmem).mono hs₃⟩

/-! ### What a call asks for -/

/-- Nothing is written but the artifacts of the result. -/
def Writes (result : ReportedResult) : StoreRequest → Prop
  | .putObject put => ∃ artifact ∈ result.artifacts, put.key = objectKey result.runId artifact
  | _ => True

theorem asks_unlessCode {allowed : StoreRequest → Prop} {codes : List String} {text : String}
    {e : RequestError} : Asks allowed (unlessCode codes text e) := by
  cases e with
  | client code =>
    rw [unlessCode]
    split
    · trivial
    · trivial
  | other text => trivial

theorem asks_objectMatches {key sha256Hex : Text} {result : ReportedResult} :
    Asks (Writes result) (objectMatches key artifact sha256Hex) := by
  refine ⟨trivial, fun answer => ?_⟩
  cases answer with
  | ok head => exact asks_lift
  | error e => exact asks_unlessCode.bind fun _ => trivial

theorem asks_ensureBucket {ready : Bool} {result : ReportedResult} :
    Asks (Writes result) (ensureBucket ready) := by
  rw [ensureBucket]
  split
  · trivial
  · refine ⟨trivial, fun answer => ?_⟩
    cases answer with
    | ok _ => trivial
    | error e =>
      refine asks_unlessCode.bind fun _ => ⟨trivial, fun created => ?_⟩
      cases created with
      | ok _ => trivial
      | error e => exact asks_unlessCode

theorem asks_writeObject {result : ReportedResult} {body : Bytes} {sha256Hex : Text}
    (hmem : artifact ∈ result.artifacts) :
    Asks (Writes result) (writeObject uploader result.runId artifact body sha256Hex) := by
  have hlook : Asks (Writes result)
      (do if ← objectMatches (objectKey result.runId artifact) artifact sha256Hex then pure ()
          else raise (.upload "uploaded artifact failed integrity verification")) := by
    refine asks_objectMatches.bind fun found => ?_
    cases found with
    | true => trivial
    | false => trivial
  refine ⟨⟨artifact, hmem, rfl⟩, fun answer => ?_⟩
  cases answer with
  | ok _ => exact hlook
  | error e => exact asks_unlessCode.bind fun _ => hlook

theorem asks_uploadArtifact (hmem : artifact ∈ call.result.artifacts) :
    Asks (Writes call.result) (uploadArtifact uploader call artifact) := by
  refine asks_lift.bind fun path => asks_lift.bind fun verified => ?_
  refine asks_objectMatches.bind fun found => ?_
  cases found with
  | true => trivial
  | false => exact (asks_writeObject hmem).bind fun _ => trivial

theorem asks_uploadArtifacts {artifacts : List ReportedArtifact}
    (hall : ∀ artifact ∈ artifacts, artifact ∈ call.result.artifacts) :
    Asks (Writes call.result) (uploadArtifacts uploader call artifacts) := by
  induction artifacts with
  | nil => trivial
  | cons artifact artifacts ih =>
    rw [List.forall_mem_cons] at hall
    exact (asks_uploadArtifact hall.1).bind fun _ => (ih hall.2).bind fun _ => trivial

theorem asks_uploadResult : Asks (Writes call.result) (uploadResult uploader call) := by
  rw [uploadResult]
  split
  · trivial
  · refine asks_ensureBucket.bind fun _ => ?_
    exact (asks_uploadArtifacts fun _ h => h).bind fun _ => trivial

/-! ### Calls that are repeated -/

/-- The answers of a store in which everything is already there. -/
def answerOf (store : ObjectStore) : (request : StoreRequest) → StoreAnswer request
  | .headBucket => .ok ()
  | .createBucket => .error (.client "BucketAlreadyOwnedByYou")
  | .headObject key =>
    match store key with
    | some object => .ok ⟨some object.body.length, object.metadata⟩
    | none => .error (.client "404")
  | .putObject _ => .error (.client "412")

theorem run_objectMatches {key sha256Hex : Text} {object : StoredObject}
    (hobject : store key = some object) (hsize : artifact.sizeBytes = object.body.length)
    (hlookup : object.metadata.lookup "sha256" = some sha256Hex) :
    (objectMatches key artifact sha256Hex).run (answerOf store) = .ok true := by
  have hanswer : answerOf store (.headObject key) =
      .ok ⟨some object.body.length, object.metadata⟩ := by
    simp only [answerOf, hobject]
  have hhead : headMatches artifact sha256Hex ⟨some object.body.length, object.metadata⟩ =
      .ok true := if_pos ⟨hsize.symm, hlookup⟩
  rw [objectMatches, run_bind]
  have hrequest : (request (StoreRequest.headObject key) : Upload _).run (answerOf store) =
      .ok (answerOf store (.headObject key)) := rfl
  rw [hrequest, ok_bind, hanswer]
  exact hhead

theorem run_uploadArtifact (h : Published uploader call artifact store) :
    (uploadArtifact uploader call artifact).run (answerOf store) =
      .ok (uploadedArtifact uploader call.result.runId artifact) := by
  obtain ⟨path, body, object, hpath, hverify, hobject, hsize, hlookup⟩ := h
  have hlift : ∀ {α : Type} (x : Except UploadError α),
      (lift x : Upload α).run (answerOf store) = x := fun _ => rfl
  rw [uploadArtifact, run_bind, hlift, hpath, ok_bind, run_bind, hlift, hverify, ok_bind, run_bind,
    run_objectMatches hobject hsize hlookup, ok_bind]
  rfl

/-- Once its artifacts are published, a call comes to the same end and finds everything there. -/
theorem run_uploadResult (h : ∀ artifact ∈ call.result.artifacts,
    Published uploader call artifact store) :
    (uploadResult uploader call).run (answerOf store) =
      .ok (uploadedResult uploader call.result) := by
  have hall : ∀ artifacts : List ReportedArtifact,
      (∀ artifact ∈ artifacts, Published uploader call artifact store) →
      (uploadArtifacts uploader call artifacts).run (answerOf store) =
        .ok (artifacts.map (uploadedArtifact uploader call.result.runId)) := by
    intro artifacts hartifacts
    induction artifacts with
    | nil => rfl
    | cons artifact artifacts ih =>
      rw [List.forall_mem_cons] at hartifacts
      rw [uploadArtifacts, run_bind, run_uploadArtifact hartifacts.1, ok_bind, run_bind,
        ih hartifacts.2, ok_bind]
      rfl
  have hbucket : (ensureBucket call.bucketReady).run (answerOf store) = .ok () := by
    cases hready : call.bucketReady with
    | true => rfl
    | false => rfl
  rw [uploadResult]
  split
  · rename_i hnone
    rw [uploadedResult, hnone, List.map_nil, ← hnone]
    rfl
  · rw [run_bind, hbucket, ok_bind, run_bind, hall _ h, ok_bind]
    rfl

/-! ### Many uploads -/

/-- Any number of uploads, of any results, by any number of workers. -/
def uploads (uploader : Uploader) :
    System (Pool UploadCall ObjectStore StoreAnswer UploadError ReportedResult)
      (Remote.Action UploadCall) :=
  Remote.system Serves (uploadResult uploader) (Honest uploader.sha256)

variable {pool : Pool UploadCall ObjectStore StoreAnswer UploadError ReportedResult}

/-- In every run, the store is honest, and each call is sound where it is. -/
theorem uploads_allSound (h : (uploads uploader).Reachable pool) :
    AllSound Serves (Grows uploader.sha256) (Honest uploader.sha256) (fun call result store =>
      result = uploadedResult uploader call.result ∧
        ∀ artifact ∈ call.result.artifacts, Published uploader call artifact store) pool :=
  reachable_allSound isRely_grows (fun _ _ hgrows => hgrows.honest) (fun _ h => h)
    (fun _ _ _ => sound_uploadResult) h

theorem uploads_grows (h : (uploads uploader).Reachable pool)
    {pool' : Pool UploadCall ObjectStore StoreAnswer UploadError ReportedResult}
    (hsteps : (uploads uploader).Steps pool pool') :
    Grows uploader.sha256 pool.server pool'.server :=
  steps_rel isRely_grows (fun _ _ hgrows => hgrows.honest) (fun _ _ _ => sound_uploadResult)
    (uploads_allSound h) hsteps

def plainUploader : Uploader where
  bucket := "artifacts".toList
  sha256 := threeBytes.sha256
  guessType _ := some "image/png"
  locations _ := false

/-- The only file of a workspace, as an artifact. -/
def homePage : ReportedArtifact where
  artifactId := 11
  kind := .screenshot
  name := "home page.png"
  uri := "workspace://00000000-0000-0000-0000-000000000007/home page.png"
  digest := "sha256:039058c6f2c0cb492c533b0a4d14ef77cc0f78abccced5287d84a1a2011cfb81"
  sizeBytes := 3

def homePageCall : UploadCall where
  result := ⟨7, .passed, .naive 0, .naive 1, "1.0.0", [], [homePage], none⟩
  disk := oneFile "home page.png".toList
  workspaceRoot := runsRoot
  bucketReady := true

def homePageObject : StoredObject := newObject plainUploader 7 homePage [1, 2, 3]
  (plainUploader.sha256 [1, 2, 3])

def homePageKey : Text := objectKey 7 homePage

/-- The call, when it has found its file and asks for the object. -/
theorem uploadResult_homePage : ∃ next, uploadResult plainUploader homePageCall =
    ask (.headObject homePageKey) next ∧ ∃ next', next (.error (.client "404")) =
      ask (.putObject ⟨homePageKey, homePageObject, 3⟩) next' ∧
      ∃ next'', next' (.ok ()) = ask (.headObject homePageKey) next'' ∧
        next'' (.ok ⟨some 3, homePageObject.metadata⟩) =
          finish (.ok (uploadedResult plainUploader homePageCall.result)) := by
  have hpath : localPath plainUploader.locations homePageCall.disk homePageCall.workspaceRoot
      homePageCall.result.runId homePage = .ok (runRoot runsRoot 7 ++ ["home page.png".toList]) :=
    ok_of_toOption (by decide)
  have hverify : verifyLocalFile plainUploader.sha256 homePageCall.disk
      (runRoot runsRoot 7 ++ ["home page.png".toList]) homePage =
        .ok ([1, 2, 3], plainUploader.sha256 [1, 2, 3]) := ok_of_toOption (by decide)
  have hcall : uploadResult plainUploader homePageCall = (do
      let uploaded ← uploadArtifacts plainUploader homePageCall [homePage]
      return { homePageCall.result with artifacts := uploaded }) := rfl
  have hlift : ∀ {α β : Type} (a : α) (f : α → Upload β),
      ((lift (.ok a) : Upload α) >>= f) = f a := fun _ _ => rfl
  rw [hcall, uploadArtifacts, uploadArtifact, hpath, hlift, hverify, hlift]
  exact ⟨_, rfl, _, rfl, _, rfl, rfl⟩

end TestOps.Artifacts
