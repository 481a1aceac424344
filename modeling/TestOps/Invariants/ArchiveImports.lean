import TestOps.Worker.RunArchives

/-! An import is atomic and contained, and the run directory is what the archive holds. What it is
    not is bounded: only the bytes that the container sends are counted, and a compressed or sparse
    archive unpacks to more.

      members  m₁ ── m₂ ── m₃ ── …         reached: each of them accepted, one after another
                │
                ╰── a regular file is opened: its bytes are added to those of the files before -/

namespace TestOps.RunArchives

open Checked FileTree Paths

/-! ### Paths -/

/-- A path that is safe leads below the run directory. -/
theorem safeArchivePath_some {name runName : Text} {relative : Path}
    (h : safeArchivePath name runName = .ok (some relative)) : relative ≠ [] ∧ Resolved relative := by
  simp only [safeArchivePath, bind_eq_ok, ensure_eq_ok] at h
  obtain ⟨_, -, h⟩ := h
  have hstay : ".".toList ∉ partsOf name := by
    rw [partsOf, List.mem_filter, decide_eq_true_eq]
    exact fun hmem => hmem.2.2 rfl
  have hparts : ".".toList ∉ if (partsOf name).head? = some runName then (partsOf name).tail
      else partsOf name := by
    split
    · exact fun hmem => hstay (List.mem_of_mem_tail hmem)
    · exact hstay
  generalize (if (partsOf name).head? = some runName then (partsOf name).tail
    else partsOf name) = parts at h hparts
  by_cases hne : parts = []
  · rw [if_pos hne] at h
    cases h
  · rw [if_neg hne] at h
    simp only [bind_eq_ok, ensure_eq_ok, pure_eq_ok, Option.some.injEq] at h
    obtain ⟨_, hup, rfl⟩ := h
    exact ⟨hne, hup, hparts⟩

/-! ### Copies -/

theorem copyBlocks_prefix {failure : Option WorkerError} {data : Bytes} {remaining : Nat} :
    (copyBlocks failure data remaining).1 <+: data := by
  fun_induction copyBlocks failure data remaining with
  | case1 data => exact List.nil_prefix
  | case2 data remaining hne e hread => exact List.nil_prefix
  | case3 data remaining hne rest hread => exact List.nil_prefix
  | case4 data remaining hne block rest hread hblock copied ih =>
    rw [(readBlock_split hread).1]
    exact (List.prefix_append_right_inj _).mpr ih

/-- A member is copied as a whole exactly if all its bytes can be read. -/
theorem copyBlocks_complete {failure : Option WorkerError} {data : Bytes} {remaining : Nat}
    (hfits : data.length ≤ remaining) :
    ((copyBlocks failure data remaining).2 = .ok () ↔ data.length = remaining) ∧
      (data.length = remaining → (copyBlocks failure data remaining).1 = data) := by
  fun_induction copyBlocks failure data remaining with
  | case1 data =>
    rw [List.eq_nil_of_length_eq_zero (Nat.le_zero.mp hfits)]
    exact ⟨⟨fun _ => rfl, fun _ => rfl⟩, fun _ => rfl⟩
  | case2 data remaining hne e hread =>
    have hshort : data.length ≠ remaining := by
      intro heq
      unfold readBlock at hread
      rw [if_pos (by omega)] at hread
      cases hread
    exact ⟨⟨nofun, fun heq => absurd heq hshort⟩, fun heq => absurd heq hshort⟩
  | case3 data remaining hne rest hread =>
    have hshort : data.length ≠ remaining := by
      have hlength := (readBlock_split hread).2
      rw [List.length_nil] at hlength
      omega
    exact ⟨⟨nofun, fun heq => absurd heq hshort⟩, fun heq => absurd heq hshort⟩
  | case4 data remaining hne block rest hread hblock copied ih =>
    obtain ⟨hsplit, hlength⟩ := readBlock_split hread
    have htotal : data.length = block.length + rest.length := by
      rw [hsplit, List.length_append]
    obtain ⟨hok, hwhole⟩ := ih (by omega)
    refine ⟨hok.trans (by omega), fun heq => ?_⟩
    change block ++ copied.1 = data
    rw [hwhole (by omega), hsplit]

theorem Member.copied_complete {m : Member} :
    (m.copied.2 = .ok () ↔ m.data.length = m.size) ∧
      (m.data.length = m.size → m.copied.1 = m.data) := copyBlocks_complete m.fits

/-! ### What members stand for -/

variable {refuses : Refusals Text} {runName : Text} {temporary : Path} {ms reached : List Member}
  {m : Member} {t : Disk}

/-- Where a member belongs, below the run directory. -/
def place (runName : Text) (m : Member) : Option Path :=
  match safeArchivePath m.name runName with
  | .ok relative => relative
  | .error _ => none

theorem place_eq_some {relative : Path} :
    place runName m = some relative ↔ safeArchivePath m.name runName = .ok (some relative) := by
  unfold place
  split
  · rename_i hsafe
    rw [hsafe, Except.ok.injEq]
  · rename_i hsafe
    rw [hsafe]
    simp

def HoldsFile (runName : Text) (ms : List Member) (p : Path) (content : Bytes) : Prop :=
  ∃ m ∈ ms, m.kind = .regular ∧ place runName m = some p ∧ m.data = content

/-- The run directory, each directory of the members, and everything on the way to a member. -/
def HoldsDir (runName : Text) (ms : List Member) (p : Path) : Prop :=
  p = [] ∨ ∃ m ∈ ms, ∃ relative, place runName m = some relative ∧
    (m.kind = .directory ∧ p <+: relative ∨ m.kind = .regular ∧ p <+: relative.dropLast)

/-- The disk below the temporary directory is what the members stand for. -/
def Mirrors (runName : Text) (temporary : Path) (ms : List Member) (t : Disk) : Prop :=
  (∀ p content, t.node (temporary ++ p) = some (.file content) ↔ HoldsFile runName ms p content) ∧
    ∀ p, t.node (temporary ++ p) = some .dir ↔ HoldsDir runName ms p

/-- There is a directory, or one can be made. -/
def Passable (refuses : Refusals Text) (runName : Text) (temporary : Path) (reached : List Member)
    (p : Path) : Prop :=
  HoldsDir runName reached p ∨
    (∀ content, ¬HoldsFile runName reached p content) ∧ refuses (temporary ++ p) = false

/-- The files among the members. -/
def fileCount (runName : Text) (ms : List Member) : Nat :=
  ms.countP fun m => decide (m.kind = .regular ∧ (place runName m).isSome = true)

/-- After these members, the file of this one is opened. -/
def Opens (refuses : Refusals Text) (runName : Text) (temporary : Path) (reached : List Member)
    (m : Member) : Prop :=
  m.kind = .regular ∧ fileCount runName reached + 1 ≤ maxRunArchiveFiles ∧
    ∃ relative, place runName m = some relative ∧
      (∀ p, p <+: relative.dropLast → Passable refuses runName temporary reached p) ∧
      ¬HoldsDir runName reached relative ∧
      (∀ content, ¬HoldsFile runName reached relative content) ∧
      refuses (temporary ++ relative) = false

/-- After these members, this one is imported. -/
def Accepts (refuses : Refusals Text) (runName : Text) (temporary : Path) (reached : List Member)
    (m : Member) : Prop :=
  safeArchivePath m.name runName = .ok none ∨
    (m.kind = .directory ∧ ∃ relative, place runName m = some relative ∧
      ∀ p, p <+: relative → Passable refuses runName temporary reached p) ∨
    Opens refuses runName temporary reached m ∧ m.data.length = m.size

/-- Each of these members is imported after the ones before it. -/
def Imported (refuses : Refusals Text) (runName : Text) (temporary : Path) (ms : List Member) :
    Prop :=
  ∀ earlier m later, ms = earlier ++ m :: later → Accepts refuses runName temporary earlier m

/-- The bytes of the files among the members, as they are copied. -/
def unpackedBytes (runName : Text) (ms : List Member) : Nat :=
  (ms.map fun m => if m.kind = .regular ∧ (place runName m).isSome = true then m.copied.1.length
    else 0).sum

theorem imported_nil : Imported refuses runName temporary [] := by
  intro earlier m later h
  cases earlier <;> cases h

theorem imported_concat : Imported refuses runName temporary (ms ++ [m]) ↔
    Imported refuses runName temporary ms ∧ Accepts refuses runName temporary ms m := by
  constructor
  · intro h
    refine ⟨fun earlier m' later heq => h earlier m' (later ++ [m]) ?_, h ms m [] rfl⟩
    rw [heq, List.append_assoc, List.cons_append]
  · rintro ⟨h, hm⟩ earlier m' later heq
    cases later using List.reverseRecOn with
    | nil =>
      obtain ⟨rfl, hlast⟩ := List.append_inj' heq rfl
      obtain ⟨rfl, -⟩ := List.cons.inj hlast
      exact hm
    | append_singleton later last =>
      rw [← List.cons_append, ← List.append_assoc] at heq
      exact h earlier m' later (List.append_inj' heq rfl).1

theorem Mirrors.vacant (h : Mirrors runName temporary reached t) {p : Path} :
    t.node (temporary ++ p) = none ↔ ¬HoldsDir runName reached p ∧
      ∀ content, ¬HoldsFile runName reached p content := by
  rw [← h.2 p]
  simp only [← h.1 p]
  cases t.node (temporary ++ p) with
  | none => simp
  | some n => cases n <;> simp

theorem Mirrors.reachable (h : Mirrors runName temporary reached t) {p : Path} :
    Reachable refuses t (temporary ++ p) ↔ Passable refuses runName temporary reached p := by
  rw [Reachable, h.2 p, h.vacant, Passable]
  tauto

/-- The directories on the way are those to the temporary directory, which are there, and those
    below. -/
theorem Mirrors.reachable_all (h : Mirrors runName temporary reached t) {relative : Path} :
    (∀ q, q <+: temporary ++ relative → q ≠ [] → Reachable refuses t q) ↔
      ∀ p, p <+: relative → Passable refuses runName temporary reached p := by
  have htemporary : t.node temporary = some .dir := by
    have hroot := (h.2 []).mpr (.inl rfl)
    rwa [List.append_nil] at hroot
  constructor
  · intro hall p hp
    by_cases hnil : p = []
    · exact .inl (.inl hnil)
    · exact h.reachable.mp (hall _ ((List.prefix_append_right_inj _).mpr hp)
        (List.append_ne_nil_of_right_ne_nil _ hnil))
  · intro hall q hq hne
    rcases List.prefix_or_prefix_of_prefix hq (List.prefix_append temporary relative) with
      ⟨rest, hrest⟩ | ⟨p, rfl⟩
    · by_cases hnil : rest = []
      · rw [hnil, List.append_nil] at hrest
        exact .inl (hrest ▸ htemporary)
      · exact .inl (node_ancestor hnil (hrest ▸ htemporary))
    · exact h.reachable.mpr (hall p ((List.prefix_append_right_inj _).mp hq))

theorem holdsFile_concat {p : Path} {content : Bytes} : HoldsFile runName (ms ++ [m]) p content ↔
    HoldsFile runName ms p content ∨
      m.kind = .regular ∧ place runName m = some p ∧ m.data = content := by
  simp only [HoldsFile, List.mem_append, List.mem_singleton]
  constructor
  · rintro ⟨m', hmem | rfl, h⟩
    · exact .inl ⟨m', hmem, h⟩
    · exact .inr h
  · rintro (⟨m', hmem, h⟩ | h)
    · exact ⟨m', .inl hmem, h⟩
    · exact ⟨m, .inr rfl, h⟩

theorem holdsDir_concat {p : Path} : HoldsDir runName (ms ++ [m]) p ↔ HoldsDir runName ms p ∨
    ∃ relative, place runName m = some relative ∧
      (m.kind = .directory ∧ p <+: relative ∨ m.kind = .regular ∧ p <+: relative.dropLast) := by
  simp only [HoldsDir, List.mem_append, List.mem_singleton]
  constructor
  · rintro (hnil | ⟨m', hmem | rfl, h⟩)
    · exact .inl (.inl hnil)
    · exact .inl (.inr ⟨m', hmem, h⟩)
    · exact .inr h
  · rintro ((hnil | ⟨m', hmem, h⟩) | h)
    · exact .inl hnil
    · exact .inr ⟨m', .inl hmem, h⟩
    · exact .inr ⟨m, .inr rfl, h⟩

/-- A member without a path of its own leaves everything as it is. -/
theorem Mirrors.skip (h : Mirrors runName temporary reached t) (hplace : place runName m = none) :
    Mirrors runName temporary (reached ++ [m]) t := by
  constructor
  · intro p content
    rw [h.1, holdsFile_concat, hplace]
    simp
  · intro p
    rw [h.2, holdsDir_concat, hplace]
    simp

/-- What is passable holds no file. -/
theorem Passable.no_file {p : Path} {content : Bytes}
    (hpass : Passable refuses runName temporary reached p)
    (hmirrors : Mirrors runName temporary reached t) : ¬HoldsFile runName reached p content := by
  intro hfile
  rcases hpass with hdir | ⟨hno, -⟩
  · have hnode := (hmirrors.1 p content).mpr hfile
    rw [(hmirrors.2 p).mpr hdir] at hnode
    cases hnode
  · exact hno content hfile

/-- Directories on the way to a member. -/
theorem Mirrors.directories {relative : Path} {t' : Disk}
    (h : Mirrors runName temporary reached t)
    (hpass : ∀ p, p <+: relative → Passable refuses runName temporary reached p)
    (hnode : ∀ q, t'.node q = if q <+: temporary ++ relative then some .dir else t.node q) :
    (∀ p content, t'.node (temporary ++ p) = some (.file content) ↔
        HoldsFile runName reached p content) ∧
      ∀ p, t'.node (temporary ++ p) = some .dir ↔ HoldsDir runName reached p ∨ p <+: relative := by
  constructor
  · intro p content
    simp only [hnode, List.prefix_append_right_inj]
    split
    · rename_i hp
      simp only [Option.some.injEq, reduceCtorEq, false_iff]
      exact (hpass p hp).no_file h
    · exact h.1 p content
  · intro p
    simp only [hnode, List.prefix_append_right_inj]
    split
    · rename_i hp
      simp [hp]
    · rename_i hp
      rw [h.2, or_iff_left hp]

theorem Mirrors.directory {relative : Path} {t' : Disk} (h : Mirrors runName temporary reached t)
    (hkind : m.kind = .directory) (hplace : place runName m = some relative)
    (hpass : ∀ p, p <+: relative → Passable refuses runName temporary reached p)
    (hnode : ∀ q, t'.node q = if q <+: temporary ++ relative then some .dir else t.node q) :
    Mirrors runName temporary (reached ++ [m]) t' := by
  obtain ⟨hfile, hdir⟩ := h.directories hpass hnode
  constructor
  · intro p content
    rw [hfile, holdsFile_concat, hkind]
    simp
  · intro p
    rw [hdir, holdsDir_concat, hplace, hkind]
    simp

theorem Mirrors.regular {relative : Path} {t₁ t₂ : Disk} (h : Mirrors runName temporary reached t)
    (hkind : m.kind = .regular) (hplace : place runName m = some relative)
    (hne : relative ≠ [])
    (hpass : ∀ p, p <+: relative.dropLast → Passable refuses runName temporary reached p)
    (hdir : ¬HoldsDir runName reached relative)
    (hfile : ∀ content, ¬HoldsFile runName reached relative content)
    (hnode₁ : ∀ q, t₁.node q = if q <+: temporary ++ relative.dropLast then some .dir else t.node q)
    (hnode₂ : ∀ q, t₂.node q = if q = temporary ++ relative then some (.file m.data)
      else t₁.node q) :
    Mirrors runName temporary (reached ++ [m]) t₂ := by
  obtain ⟨hfile₁, hdir₁⟩ := h.directories hpass hnode₁
  have hshort : ¬relative <+: relative.dropLast := by
    intro hprefix
    have hlength := hprefix.length_le
    rw [List.length_dropLast] at hlength
    have hpos := List.length_pos_of_ne_nil hne
    omega
  constructor
  · intro p content
    simp only [hnode₂, List.append_cancel_left_eq]
    rw [holdsFile_concat, hplace, hkind]
    split
    · rename_i heq
      rw [heq, or_iff_right (hfile content)]
      simp
    · rename_i hother
      rw [hfile₁, or_iff_left]
      rintro ⟨-, heq, -⟩
      exact hother (Option.some.inj heq).symm
  · intro p
    simp only [hnode₂, List.append_cancel_left_eq]
    rw [holdsDir_concat, hplace, hkind]
    split
    · rename_i heq
      rw [heq, or_iff_right hdir]
      simp [hshort]
    · rw [hdir₁]
      simp

theorem fileCount_concat : fileCount runName (ms ++ [m]) = fileCount runName ms +
    if m.kind = .regular ∧ (place runName m).isSome = true then 1 else 0 := by
  simp [fileCount, List.countP_append, List.countP_singleton]

theorem unpackedBytes_concat : unpackedBytes runName (ms ++ [m]) = unpackedBytes runName ms +
    if m.kind = .regular ∧ (place runName m).isSome = true then m.copied.1.length else 0 := by
  simp [unpackedBytes]

/-! ### One round -/

/-- What a round does after these members: whether it goes on, and what it leaves on the disk. -/
structure Round (refuses : Refusals Text) (runName : Text) (temporary : Path)
    (reached : List Member) (m : Member) (t : Disk) (run : Except WorkerError Nat × Disk) :
    Prop where
  accepted : Accepts refuses runName temporary reached m →
    run.1 = .ok (fileCount runName (reached ++ [m])) ∧
      Mirrors runName temporary (reached ++ [m]) run.2
  refused : ¬Accepts refuses runName temporary reached m → ∃ e, run.1 = .error e
  opened : Opens refuses runName temporary reached m →
    run.2.bytes = t.bytes + m.copied.1.length ∧ run.2.files = t.files + 1
  unopened : ¬Opens refuses runName temporary reached m →
    run.2.bytes = t.bytes ∧ run.2.files = t.files
  frame : ∀ q, ¬temporary <+: q → run.2.node q = t.node q

/-- A round that raises before it has changed anything. -/
theorem Round.raised {e : WorkerError} (haccepts : ¬Accepts refuses runName temporary reached m)
    (hopens : ¬Opens refuses runName temporary reached m) :
    Round refuses runName temporary reached m t (.error e, t) where
  accepted h := absurd h haccepts
  refused _ := ⟨e, rfl⟩
  opened h := absurd h hopens
  unopened _ := ⟨rfl, rfl⟩
  frame _ _ := rfl

/-- Directories on the way to a member below the temporary directory appear nowhere else. -/
theorem Mirrors.frame {p : Path} {t' : Disk} (h : Mirrors runName temporary reached t)
    (hgrown : Grown t t' [] (temporary ++ p)) (q : Path) (hq : ¬temporary <+: q) :
    t'.node q = t.node q := by
  rcases hgrown.node q with heq | ⟨hnone, -, -, hprefix⟩
  · exact heq
  · have hroot := (h.2 []).mpr (.inl rfl)
    rw [List.append_nil] at hroot
    rcases List.prefix_or_prefix_of_prefix hprefix (List.prefix_append temporary p) with
      ⟨rest, hrest⟩ | hlong
    · rw [← hrest] at hroot
      by_cases hnil : rest = []
      · rw [hnil, List.append_nil, hnone] at hroot
        cases hroot
      · rw [node_ancestor hnil hroot] at hnone
        cases hnone
    · exact absurd hlong hq

theorem Opens.counted (h : Opens refuses runName temporary reached m) :
    m.kind = .regular ∧ (place runName m).isSome = true := by
  obtain ⟨hkind, -, relative, hplace, -⟩ := h
  exact ⟨hkind, by rw [hplace]; rfl⟩

variable {relative : Path} {count : Nat}

theorem accepts_directory (hkind : m.kind = .directory) (hplace : place runName m = some relative) :
    Accepts refuses runName temporary reached m ↔
      ∀ p, p <+: relative → Passable refuses runName temporary reached p := by
  rw [Accepts, place_eq_some.mp hplace, Opens, hkind, hplace]
  simp

theorem accepts_regular (hkind : m.kind = .regular) (hplace : place runName m = some relative) :
    Accepts refuses runName temporary reached m ↔
      Opens refuses runName temporary reached m ∧ m.data.length = m.size := by
  rw [Accepts, place_eq_some.mp hplace, hkind]
  simp

theorem opens_regular (hkind : m.kind = .regular) (hplace : place runName m = some relative) :
    Opens refuses runName temporary reached m ↔
      fileCount runName reached + 1 ≤ maxRunArchiveFiles ∧
      (∀ p, p <+: relative.dropLast → Passable refuses runName temporary reached p) ∧
      ¬HoldsDir runName reached relative ∧
      (∀ content, ¬HoldsFile runName reached relative content) ∧
      refuses (temporary ++ relative) = false := by
  rw [Opens, hplace]
  simp [hkind]

theorem round_directory (h : Mirrors runName temporary reached t) (hkind : m.kind = .directory)
    (hplace : place runName m = some relative) :
    Round refuses runName temporary reached m t
      (((makeDirs refuses (temporary ++ relative)).mapError fileError >>=
        fun _ => pure (fileCount runName reached) : Attempt Disk WorkerError Nat) t) := by
  have haccepts := @accepts_directory refuses runName temporary reached m relative hkind hplace
  have hopens : ¬Opens refuses runName temporary reached m := by
    intro hopens
    rw [hopens.1] at hkind
    cases hkind
  obtain ⟨hmade, hfailed, hgrown⟩ := @makeDirs_spec Text UInt8 _ t (temporary ++ relative) refuses
  rw [h.reachable_all] at hmade hfailed
  by_cases hpass : ∀ p, p <+: relative → Passable refuses runName temporary reached p
  · obtain ⟨t', hrun, hnode⟩ := hmade hpass
    rw [hrun] at hgrown
    rw [Attempt.bind_of_ok (Attempt.mapError_of_ok hrun)]
    exact
      { accepted := fun _ => ⟨by rw [fileCount_concat, hkind]; simp,
          h.directory hkind hplace hpass hnode⟩
        refused := fun hno => absurd (haccepts.mpr hpass) hno
        opened := fun ho => absurd ho hopens
        unopened := fun _ => ⟨hgrown.bytes, hgrown.files⟩
        frame := h.frame hgrown }
  · obtain ⟨e, t', hrun⟩ := hfailed hpass
    rw [hrun] at hgrown
    rw [Attempt.bind_of_error (Attempt.mapError_of_error hrun)]
    exact
      { accepted := fun ha => absurd (haccepts.mp ha) hpass
        refused := fun _ => ⟨_, rfl⟩
        opened := fun ho => absurd ho hopens
        unopened := fun _ => ⟨hgrown.bytes, hgrown.files⟩
        frame := h.frame hgrown }

/-- A path below the temporary directory is free for a file once there is a directory for it. -/
theorem Mirrors.free_iff {t₁ : Disk} (h : Mirrors runName temporary reached t)
    (hne : relative ≠ [])
    (hnode : ∀ q, t₁.node q = if q <+: temporary ++ relative.dropLast then some .dir
      else t.node q) :
    t₁.Free (temporary ++ relative) ↔ ¬HoldsDir runName reached relative ∧
      ∀ content, ¬HoldsFile runName reached relative content := by
  have hshort : ¬relative <+: relative.dropLast := by
    intro hprefix
    have hlength := hprefix.length_le
    rw [List.length_dropLast] at hlength
    have hpos := List.length_pos_of_ne_nil hne
    omega
  have hparent : t₁.node (temporary ++ relative).dropLast = some .dir := by
    rw [List.dropLast_append_of_ne_nil hne, hnode, if_pos (List.prefix_refl _)]
  rw [Free, and_iff_left hparent, hnode, if_neg]
  · exact h.vacant
  · rwa [List.prefix_append_right_inj]

theorem round_regular (h : Mirrors runName temporary reached t) (hkind : m.kind = .regular)
    (hplace : place runName m = some relative) (hne : relative ≠ [])
    (hcount : fileCount runName reached + 1 ≤ maxRunArchiveFiles) :
    Round refuses runName temporary reached m t
      (((makeDirs refuses (temporary ++ relative).dropLast).mapError fileError >>= fun _ =>
        writeMember refuses (temporary ++ relative) m >>= fun _ =>
          pure (fileCount runName reached + 1) : Attempt Disk WorkerError Nat) t) := by
  have haccepts := @accepts_regular refuses runName temporary reached m relative hkind hplace
  have hopens := @opens_regular refuses runName temporary reached m relative hkind hplace
  rw [List.dropLast_append_of_ne_nil hne]
  obtain ⟨hmade, hfailed, hgrown⟩ :=
    @makeDirs_spec Text UInt8 _ t (temporary ++ relative.dropLast) refuses
  rw [h.reachable_all] at hmade hfailed
  by_cases hpass : ∀ p, p <+: relative.dropLast → Passable refuses runName temporary reached p
  · obtain ⟨t₁, hrun, hnode₁⟩ := hmade hpass
    rw [hrun] at hgrown
    rw [Attempt.bind_of_ok (Attempt.mapError_of_ok hrun)]
    have hfree := h.free_iff hne hnode₁
    by_cases hentry : t₁.Free (temporary ++ relative) ∧ refuses (temporary ++ relative) = false
    · obtain ⟨hdir, hfile⟩ := hfree.mp hentry.1
      have hopened : Opens refuses runName temporary reached m :=
        hopens.mpr ⟨hcount, hpass, hdir, hfile, hentry.2⟩
      have hwrite : writeMember refuses (temporary ++ relative) m t₁ =
          (m.copied.2, t₁.create (temporary ++ relative) (.file m.copied.1) hentry.1) :=
        Attempt.bind_of_ok (Attempt.mapError_of_ok (addEntry_ok hentry.1 hentry.2))
      have hframe : ∀ q, ¬temporary <+: q →
          (t₁.create (temporary ++ relative) (.file m.copied.1) hentry.1).node q = t.node q := by
        intro q hq
        rw [node_create, if_neg, h.frame hgrown q hq]
        rintro rfl
        exact hq (List.prefix_append _ _)
      have hbytes : (t₁.create (temporary ++ relative) (.file m.copied.1) hentry.1).bytes =
          t.bytes + m.copied.1.length ∧
          (t₁.create (temporary ++ relative) (.file m.copied.1) hentry.1).files = t.files + 1 := by
        rw [bytes_create, files_create, hgrown.bytes, hgrown.files]
        exact ⟨rfl, rfl⟩
      cases houtcome : m.copied.2 with
      | ok done =>
        have hcomplete := Member.copied_complete.1.mp houtcome
        rw [houtcome] at hwrite
        rw [Attempt.bind_of_ok hwrite, Attempt.pure_apply]
        exact
          { accepted := fun _ => ⟨by rw [fileCount_concat, hkind, hplace]; simp,
              h.regular hkind hplace hne hpass hdir hfile hnode₁ fun q => by
                rw [node_create, Member.copied_complete.2 hcomplete]⟩
            refused := fun hno => absurd (haccepts.mpr ⟨hopened, hcomplete⟩) hno
            opened := fun _ => hbytes
            unopened := fun hno => absurd hopened hno
            frame := hframe }
      | error e =>
        have hshort : m.data.length ≠ m.size := by
          intro heq
          rw [Member.copied_complete.1.mpr heq] at houtcome
          cases houtcome
        rw [houtcome] at hwrite
        rw [Attempt.bind_of_error hwrite]
        exact
          { accepted := fun ha => absurd (haccepts.mp ha).2 hshort
            refused := fun _ => ⟨e, rfl⟩
            opened := fun _ => hbytes
            unopened := fun hno => absurd hopened hno
            frame := hframe }
    · obtain ⟨e, herror⟩ := addEntry_error (n := (.file m.copied.1 : Node UInt8)) hentry
      have hwrite : writeMember refuses (temporary ++ relative) m t₁ = (.error (fileError e), t₁) :=
        Attempt.bind_of_error (Attempt.mapError_of_error herror)
      have hunopened : ¬Opens refuses runName temporary reached m := by
        intro hopened
        obtain ⟨-, -, hdir, hfile, haccept⟩ := hopens.mp hopened
        exact hentry ⟨hfree.mpr ⟨hdir, hfile⟩, haccept⟩
      rw [Attempt.bind_of_error hwrite]
      exact
        { accepted := fun ha => absurd (haccepts.mp ha).1 hunopened
          refused := fun _ => ⟨_, rfl⟩
          opened := fun ho => absurd ho hunopened
          unopened := fun _ => ⟨hgrown.bytes, hgrown.files⟩
          frame := h.frame hgrown }
  · obtain ⟨e, t', hrun⟩ := hfailed hpass
    have hunopened : ¬Opens refuses runName temporary reached m :=
      fun hopened => hpass (hopens.mp hopened).2.1
    rw [hrun] at hgrown
    rw [Attempt.bind_of_error (Attempt.mapError_of_error hrun)]
    exact
      { accepted := fun ha => absurd (haccepts.mp ha).1 hunopened
        refused := fun _ => ⟨_, rfl⟩
        opened := fun ho => absurd ho hunopened
        unopened := fun _ => ⟨hgrown.bytes, hgrown.files⟩
        frame := h.frame hgrown }

/-- A round, whatever the member. -/
theorem extractMember_spec (hresolved : Resolved temporary)
    (h : Mirrors runName temporary reached t) :
    Round refuses runName temporary reached m t
      (extractMember refuses runName temporary (fileCount runName reached) m t) := by
  cases hsafe : safeArchivePath m.name runName with
  | error e =>
    have hplace : place runName m = none := by
      rw [place, hsafe]
    have hrun : extractMember refuses runName temporary (fileCount runName reached) m t =
        (.error e, t) := by
      rw [extractMember, hsafe]
      rfl
    rw [hrun]
    refine Round.raised ?_ ?_
    · rw [Accepts, Opens, hsafe, hplace]
      simp
    · rw [Opens, hplace]
      simp
  | ok found =>
    cases found with
    | none =>
      have hplace : place runName m = none := by
        rw [place, hsafe]
      have hrun : extractMember refuses runName temporary (fileCount runName reached) m t =
          (.ok (fileCount runName reached), t) := by
        rw [extractMember, hsafe]
        rfl
      rw [hrun]
      exact
        { accepted := fun _ => ⟨by rw [fileCount_concat, hplace]; simp, h.skip hplace⟩
          refused := fun hno => absurd (.inl hsafe) hno
          opened := by rw [Opens, hplace]; simp
          unopened := fun _ => ⟨rfl, rfl⟩
          frame := fun _ _ => rfl }
    | some relative =>
      have hplace : place runName m = some relative := place_eq_some.mpr hsafe
      obtain ⟨hne, hrelative⟩ := safeArchivePath_some hsafe
      have hinside : temporary <+: temporary ++ relative ∧ temporary ≠ temporary ++ relative := by
        refine ⟨List.prefix_append _ _, fun heq => hne ?_⟩
        exact (List.append_cancel_left ((List.append_nil _).trans heq)).symm
      have hrun : extractMember refuses runName temporary (fileCount runName reached) m t =
          extractTarget refuses temporary (temporary ++ relative) (fileCount runName reached)
            m t := by
        rw [extractMember, hsafe]
        change extractTarget refuses temporary (resolve (temporary ++ relative)) _ m t = _
        rw [resolve_eq (resolved_append.mpr ⟨hresolved, hrelative⟩)]
      rw [hrun, extractTarget, ensure_true hinside]
      cases hkind : m.kind with
      | directory => exact round_directory h hkind hplace
      | special =>
        refine Round.raised ?_ ?_
        · rw [Accepts, Opens, hsafe, hkind]
          simp
        · rw [Opens, hkind]
          simp
      | regular =>
        by_cases hcount : fileCount runName reached + 1 ≤ maxRunArchiveFiles
        · simp only [ensure_true hcount]
          exact round_regular h hkind hplace hne hcount
        · simp only [ensure_false hcount]
          have hunopened : ¬Opens refuses runName temporary reached m :=
            fun hopened => hcount ((opens_regular hkind hplace).mp hopened).1
          exact Round.raised (fun ha => hunopened ((accepts_regular hkind hplace).mp ha).1)
            hunopened

/-! ### The loop -/

/-- An accepted member whose file is not opened leaves no file. -/
theorem Accepts.uncounted (h : Accepts refuses runName temporary reached m)
    (hopens : ¬Opens refuses runName temporary reached m) :
    ¬(m.kind = .regular ∧ (place runName m).isSome = true) := by
  rintro ⟨hkind, hplace⟩
  obtain ⟨relative, hplace⟩ := Option.isSome_iff_exists.mp hplace
  exact hopens ((accepts_regular hkind hplace).mp h).1

/-- What the disk holds grows by what the members stand for. -/
theorem Round.grown {run : Except WorkerError Nat × Disk} {files bytes : Nat}
    (h : Round refuses runName temporary reached m t run)
    (hfiles : t.files = files + fileCount runName reached)
    (hbytes : t.bytes = bytes + unpackedBytes runName reached)
    (hcounted : Opens refuses runName temporary reached m ∨
      Accepts refuses runName temporary reached m) :
    run.2.files = files + fileCount runName (reached ++ [m]) ∧
      run.2.bytes = bytes + unpackedBytes runName (reached ++ [m]) := by
  rw [fileCount_concat, unpackedBytes_concat]
  by_cases hopens : Opens refuses runName temporary reached m
  · obtain ⟨hrunBytes, hrunFiles⟩ := h.opened hopens
    rw [if_pos hopens.counted, if_pos hopens.counted]
    omega
  · obtain ⟨hrunBytes, hrunFiles⟩ := h.unopened hopens
    have huncounted := (hcounted.resolve_left hopens).uncounted hopens
    rw [if_neg huncounted, if_neg huncounted]
    omega

variable {stream : TarStream}

theorem extractMembers_accepted (hresolved : Resolved temporary)
    (h : Mirrors runName temporary reached t)
    (haccepts : Accepts refuses runName temporary reached m) :
    ∃ t₁, extractMembers refuses runName temporary (m :: ms) (fileCount runName reached) t =
        extractMembers refuses runName temporary ms (fileCount runName (reached ++ [m])) t₁ ∧
      Mirrors runName temporary (reached ++ [m]) t₁ ∧
      Round refuses runName temporary reached m t (.ok (fileCount runName (reached ++ [m])), t₁) := by
  have hround := @extractMember_spec refuses runName temporary reached m t hresolved h
  obtain ⟨hok, hmirrors⟩ := hround.accepted haccepts
  cases hrun : extractMember refuses runName temporary (fileCount runName reached) m t with
  | mk outcome t₁ =>
    rw [hrun] at hround hok hmirrors
    obtain rfl : outcome = _ := hok
    exact ⟨t₁, Attempt.bind_of_ok hrun, hmirrors, hround⟩

theorem extractMembers_refused (hresolved : Resolved temporary)
    (h : Mirrors runName temporary reached t)
    (haccepts : ¬Accepts refuses runName temporary reached m) :
    ∃ e t₁, extractMembers refuses runName temporary (m :: ms) (fileCount runName reached) t =
        (.error e, t₁) ∧ Round refuses runName temporary reached m t (.error e, t₁) := by
  have hround := @extractMember_spec refuses runName temporary reached m t hresolved h
  obtain ⟨e, herror⟩ := hround.refused haccepts
  cases hrun : extractMember refuses runName temporary (fileCount runName reached) m t with
  | mk outcome t₁ =>
    rw [hrun] at hround herror
    obtain rfl : outcome = _ := herror
    exact ⟨e, t₁, Attempt.bind_of_error hrun, hround⟩

/-- The loop ends well exactly if each member is accepted, and then the disk is what they stand
    for. -/
theorem extractMembers_ok (hresolved : Resolved temporary) (h : Mirrors runName temporary reached t)
    (himported : Imported refuses runName temporary reached) :
    ((extractMembers refuses runName temporary ms (fileCount runName reached) t).1 = .ok () ↔
      Imported refuses runName temporary (reached ++ ms)) ∧
    (Imported refuses runName temporary (reached ++ ms) → Mirrors runName temporary (reached ++ ms)
      (extractMembers refuses runName temporary ms (fileCount runName reached) t).2) := by
  induction ms generalizing reached t with
  | nil =>
    rw [List.append_nil]
    exact ⟨iff_of_true rfl himported, fun _ => h⟩
  | cons m ms ih =>
    by_cases haccepts : Accepts refuses runName temporary reached m
    · obtain ⟨t₁, hrun, hmirrors, -⟩ := @extractMembers_accepted refuses runName temporary ms reached
        m t hresolved h haccepts
      rw [hrun, List.append_cons reached m ms]
      exact ih hmirrors (imported_concat.mpr ⟨himported, haccepts⟩)
    · obtain ⟨e, t₁, hrun, -⟩ := @extractMembers_refused refuses runName temporary ms reached m t
        hresolved h haccepts
      have hno : ¬Imported refuses runName temporary (reached ++ m :: ms) :=
        fun hall => haccepts (hall reached m ms rfl)
      rw [hrun]
      exact ⟨iff_of_false nofun hno, fun hall => absurd hall hno⟩

/-- The loop changes nothing outside of the temporary directory. -/
theorem extractMembers_frame (hresolved : Resolved temporary)
    (h : Mirrors runName temporary reached t) (q : Path) (hq : ¬temporary <+: q) :
    (extractMembers refuses runName temporary ms (fileCount runName reached) t).2.node q =
      t.node q := by
  induction ms generalizing reached t with
  | nil => rfl
  | cons m ms ih =>
    by_cases haccepts : Accepts refuses runName temporary reached m
    · obtain ⟨t₁, hrun, hmirrors, hround⟩ := @extractMembers_accepted refuses runName temporary ms
        reached m t hresolved h haccepts
      rw [hrun, ih hmirrors]
      exact hround.frame q hq
    · obtain ⟨e, t₁, hrun, hround⟩ := @extractMembers_refused refuses runName temporary ms reached m
        t hresolved h haccepts
      rw [hrun]
      exact hround.frame q hq

theorem Opens.fileCount_le (h : Opens refuses runName temporary reached m) :
    fileCount runName (reached ++ [m]) ≤ maxRunArchiveFiles := by
  rw [fileCount_concat, if_pos h.counted]
  exact h.2.1

theorem Accepts.fileCount_le (h : Accepts refuses runName temporary reached m)
    (hcount : fileCount runName reached ≤ maxRunArchiveFiles) :
    fileCount runName (reached ++ [m]) ≤ maxRunArchiveFiles := by
  by_cases hopens : Opens refuses runName temporary reached m
  · exact hopens.fileCount_le
  · rwa [fileCount_concat, if_neg (h.uncounted hopens)]

/-- However the loop ends, it has not written too many files. -/
theorem extractMembers_files {files bytes : Nat} (hresolved : Resolved temporary)
    (h : Mirrors runName temporary reached t)
    (hcount : fileCount runName reached ≤ maxRunArchiveFiles)
    (hfiles : t.files = files + fileCount runName reached)
    (hbytes : t.bytes = bytes + unpackedBytes runName reached) :
    (extractMembers refuses runName temporary ms (fileCount runName reached) t).2.files ≤
      files + maxRunArchiveFiles := by
  induction ms generalizing reached t with
  | nil =>
    change t.files ≤ _
    omega
  | cons m ms ih =>
    by_cases haccepts : Accepts refuses runName temporary reached m
    · obtain ⟨t₁, hrun, hmirrors, hround⟩ := @extractMembers_accepted refuses runName temporary ms
        reached m t hresolved h haccepts
      obtain ⟨hfiles₁, hbytes₁⟩ := hround.grown hfiles hbytes (.inr haccepts)
      rw [hrun]
      exact ih hmirrors (haccepts.fileCount_le hcount) hfiles₁ hbytes₁
    · obtain ⟨e, t₁, hrun, hround⟩ := @extractMembers_refused refuses runName temporary ms reached m
        t hresolved h haccepts
      rw [hrun]
      by_cases hopens : Opens refuses runName temporary reached m
      · have hfiles₁ : t₁.files = _ := (hround.grown hfiles hbytes (.inl hopens)).1
        have hle := hopens.fileCount_le
        change t₁.files ≤ _
        omega
      · have hfiles₁ : t₁.files = t.files := (hround.unopened hopens).2
        change t₁.files ≤ _
        omega

/-- Whenever the loop opens a file, what the files hold so far is within the limit. -/
def Bounded (refuses : Refusals Text) (runName : Text) (temporary : Path) (reached ms : List Member)
    (limit : Nat) : Prop :=
  ∀ more m rest, ms = more ++ m :: rest → Imported refuses runName temporary (reached ++ more) →
    Opens refuses runName temporary (reached ++ more) m →
      unpackedBytes runName (reached ++ more ++ [m]) ≤ limit

theorem bounded_cons {limit : Nat} (himported : Imported refuses runName temporary reached) :
    Bounded refuses runName temporary reached (m :: ms) limit ↔
      (Opens refuses runName temporary reached m →
        unpackedBytes runName (reached ++ [m]) ≤ limit) ∧
      (Accepts refuses runName temporary reached m →
        Bounded refuses runName temporary (reached ++ [m]) ms limit) := by
  constructor
  · intro h
    constructor
    · intro hopens
      have hfirst := h [] m ms rfl
      simp only [List.append_nil] at hfirst
      exact hfirst himported hopens
    · intro _ more m' rest heq
      have hlater := h (m :: more) m' rest (by rw [heq, List.cons_append])
      rwa [List.append_cons reached m more] at hlater
  · rintro ⟨hfirst, hlater⟩ more m' rest heq hall hopens
    cases more with
    | nil =>
      obtain ⟨rfl, -⟩ := List.cons.inj heq
      rw [List.append_nil] at hopens ⊢
      exact hfirst hopens
    | cons first more =>
      obtain ⟨rfl, htail⟩ := List.cons.inj heq
      have haccepts := hall reached m more rfl
      rw [List.append_cons reached m more] at hall hopens ⊢
      exact hlater haccepts more m' rest htail hall hopens

/-- However the loop ends, its files hold what the limit allows exactly if each of them is opened
    within the limit. -/
theorem extractMembers_bytes {files bytes limit : Nat} (hresolved : Resolved temporary)
    (h : Mirrors runName temporary reached t)
    (himported : Imported refuses runName temporary reached)
    (hfiles : t.files = files + fileCount runName reached)
    (hbytes : t.bytes = bytes + unpackedBytes runName reached) :
    (extractMembers refuses runName temporary ms (fileCount runName reached) t).2.bytes ≤
        bytes + limit ↔
      unpackedBytes runName reached ≤ limit ∧
        Bounded refuses runName temporary reached ms limit := by
  induction ms generalizing reached t with
  | nil =>
    change t.bytes ≤ _ ↔ _
    rw [hbytes, Nat.add_le_add_iff_left, and_iff_left]
    intro more m rest heq
    cases more <;> cases heq
  | cons m ms ih =>
    rw [bounded_cons himported]
    have hmono : unpackedBytes runName reached ≤ unpackedBytes runName (reached ++ [m]) := by
      rw [unpackedBytes_concat]
      exact Nat.le_add_right _ _
    by_cases haccepts : Accepts refuses runName temporary reached m
    · obtain ⟨t₁, hrun, hmirrors, hround⟩ := @extractMembers_accepted refuses runName temporary ms
        reached m t hresolved h haccepts
      obtain ⟨hfiles₁, hbytes₁⟩ := hround.grown hfiles hbytes (.inr haccepts)
      rw [hrun, ih hmirrors (imported_concat.mpr ⟨himported, haccepts⟩) hfiles₁ hbytes₁]
      constructor
      · rintro ⟨hle, hlater⟩
        exact ⟨hmono.trans hle, fun _ => hle, fun _ => hlater⟩
      · rintro ⟨hle, hopened, hlater⟩
        refine ⟨?_, hlater haccepts⟩
        by_cases hopens : Opens refuses runName temporary reached m
        · exact hopened hopens
        · rwa [unpackedBytes_concat, if_neg (haccepts.uncounted hopens)]
    · obtain ⟨e, t₁, hrun, hround⟩ := @extractMembers_refused refuses runName temporary ms reached m
        t hresolved h haccepts
      rw [hrun]
      change t₁.bytes ≤ _ ↔ _
      by_cases hopens : Opens refuses runName temporary reached m
      · have hbytes₁ : t₁.bytes = _ := (hround.grown hfiles hbytes (.inl hopens)).2
        rw [hbytes₁, Nat.add_le_add_iff_left]
        constructor
        · intro hle
          exact ⟨hmono.trans hle, fun _ => hle, fun ha => absurd ha haccepts⟩
        · rintro ⟨-, hle, -⟩
          exact hle hopens
      · have hbytes₁ : t₁.bytes = t.bytes := (hround.unopened hopens).1
        rw [hbytes₁, hbytes, Nat.add_le_add_iff_left]
        constructor
        · intro hle
          exact ⟨hle, fun ho => absurd ho hopens, fun ha => absurd ha haccepts⟩
        · rintro ⟨hle, -⟩
          exact hle

/-! ### The directories of an import -/

variable {system : System} {job : Import} {disk disk₁ : Disk}

theorem runName_plain : '.' ∉ job.runName := by
  have hdigit : ∀ d < 16, Nat.digitChar d ≠ '.' := by decide
  intro hmem
  rcases mem_uuidText hmem with h | ⟨d, hlt, h⟩
  · cases h
  · exact hdigit d hlt h.symm

theorem destination_eq : job.destination = job.workspace ++ [job.runName] := by
  refine resolve_eq (resolved_append.mpr ⟨resolved_resolve, resolved_singleton.mpr ⟨?_, ?_⟩⟩)
  · intro heq
    exact @runName_plain job (heq ▸ List.mem_cons_self)
  · intro heq
    exact @runName_plain job (heq ▸ List.mem_cons_self)

/-- A temporary directory of an import: beside the run directory, and not it. -/
structure IsTemporary (job : Import) (temporary : Path) : Prop where
  resolved : Resolved temporary
  beside : ∃ name, temporary = job.workspace ++ [name]
  apart : ¬temporary <+: job.destination
  notAbove : ¬temporary <+: job.workspace
  notBelow : ¬job.destination <+: temporary

theorem isTemporary {suffix : Text} :
    IsTemporary job (job.workspace ++ [job.temporaryPrefix ++ suffix]) := by
  have hstart : job.temporaryPrefix ++ suffix =
      '.' :: 'c' :: ("ontainer-import-".toList ++ job.runName ++ ['-'] ++ suffix) := rfl
  have hne : job.temporaryPrefix ++ suffix ≠ job.runName := by
    intro heq
    refine @runName_plain job ?_
    rw [← heq, hstart]
    exact List.mem_cons_self
  refine ⟨resolved_append.mpr ⟨resolved_resolve, resolved_singleton.mpr ⟨?_, ?_⟩⟩, ⟨_, rfl⟩,
    ?_, ?_, ?_⟩
  · rw [hstart]
    intro heq
    cases heq
  · rw [hstart]
    intro heq
    cases heq
  · rw [destination_eq, List.prefix_append_right_inj]
    intro hprefix
    exact hne (List.cons_prefix_cons.mp hprefix).1
  · intro hprefix
    have hlength := hprefix.length_le
    rw [List.length_append] at hlength
    exact absurd hlength (by simp)
  · rw [destination_eq, List.prefix_append_right_inj]
    intro hprefix
    exact hne (List.cons_prefix_cons.mp hprefix).1.symm

/-- A tree that differs from another one by directories above the workspace at most. -/
def SameOutside (job : Import) (disk disk' : Disk) (inside : Path → Prop) : Prop :=
  ∀ q, ¬q <+: job.workspace → ¬inside q → disk'.node q = disk.node q

theorem makeTemporary_spec {suffixes : List Text} (start : Text) (workspace : Path) :
    (∀ temporary disk', makeTemporary system.refuses workspace start suffixes disk =
        (.ok temporary, disk') → ∃ suffix, temporary = workspace ++ [start ++ suffix] ∧
          ∃ h : disk.Free temporary, disk' = disk.create temporary .dir h) ∧
      ∀ e disk', makeTemporary system.refuses workspace start suffixes disk = (.error e, disk') →
        disk' = disk := by
  induction suffixes with
  | nil =>
    exact ⟨fun temporary disk' h => (by cases h), fun e disk' h => (Prod.mk.inj h).2.symm⟩
  | cons suffix suffixes ih =>
    rw [makeTemporary, Attempt.get_bind]
    split
    · by_cases hentry : disk.Free (workspace ++ [start ++ suffix]) ∧
          system.refuses (workspace ++ [start ++ suffix]) = false
      · rw [Attempt.bind_of_ok (Attempt.mapError_of_ok (addEntry_ok hentry.1 hentry.2)),
          Attempt.pure_apply]
        refine ⟨fun temporary disk' h => ?_, fun e disk' h => (by cases h)⟩
        obtain ⟨htemporary, rfl⟩ := Prod.mk.inj h
        obtain rfl := Except.ok.inj htemporary
        exact ⟨suffix, rfl, hentry.1, rfl⟩
      · obtain ⟨e, herror⟩ := addEntry_error (n := (.dir : Node UInt8)) hentry
        rw [Attempt.bind_of_error (Attempt.mapError_of_error herror)]
        exact ⟨fun temporary disk' h => (by cases h), fun e disk' h => (Prod.mk.inj h).2.symm⟩
    · exact ih

/-- What `prepare` leaves: a new, empty directory in the workspace. -/
structure Prepared (job : Import) (disk : Disk) (temporary : Path) (disk₁ : Disk) : Prop where
  isTemporary : IsTemporary job temporary
  absent : disk.node temporary = none
  mirrors : Mirrors job.runName temporary [] disk₁
  vacant : disk₁.node job.destination = none
  same : SameOutside job disk disk₁ (temporary <+: ·)
  bytes : disk₁.bytes = disk.bytes
  files : disk₁.files = disk.files

theorem prepare_spec :
    (∀ temporary disk₁, prepare system job disk = (.ok temporary, disk₁) →
      Prepared job disk temporary disk₁) ∧
    ∀ e disk₁, prepare system job disk = (.error e, disk₁) →
      SameOutside job disk disk₁ fun _ => False := by
  have hgrown := (@makeDirs_spec Text UInt8 _ disk job.workspace system.refuses).2.2
  cases hrun : makeDirs system.refuses job.workspace disk with
  | mk outcome t =>
    rw [hrun] at hgrown
    have hsame : ∀ q, ¬q <+: job.workspace → t.node q = disk.node q := by
      intro q hq
      rcases hgrown.node q with heq | ⟨-, -, -, hprefix⟩
      · exact heq
      · exact absurd hprefix hq
    cases outcome with
    | error e =>
      have hwhole : prepare system job disk = (.error (fileError e), t) :=
        Attempt.bind_of_error (Attempt.mapError_of_error hrun)
      rw [hwhole]
      refine ⟨nofun, fun e' disk₁ h q hq _ => ?_⟩
      rw [← (Prod.mk.inj h).2]
      exact hsame q hq
    | ok done =>
      have hwhole : prepare system job disk = _ :=
        Attempt.bind_of_ok (Attempt.mapError_of_ok hrun)
      rw [hwhole, Attempt.get_bind]
      by_cases hempty : job.workspace <+: job.destination ∧ job.workspace ≠ job.destination ∧
          t.node job.destination = none
      · rw [ensure_true hempty]
        obtain ⟨hmade, hfailed⟩ := @makeTemporary_spec system t system.suffixes
          job.temporaryPrefix job.workspace
        refine ⟨fun temporary disk₁ h => ?_, fun e disk₁ h q hq _ => ?_⟩
        · obtain ⟨suffix, htemporary, hfree, rfl⟩ := hmade temporary disk₁ h
          have hbeside : IsTemporary job temporary := htemporary ▸ isTemporary
          refine ⟨hbeside, ?_, ⟨fun p content => ?_, fun p => ?_⟩, ?_, fun q hq hout => ?_, ?_, ?_⟩
          · rw [← hsame temporary hbeside.notAbove]
            exact hfree.1
          · rw [node_create]
            split
            · simp [HoldsFile]
            · rw [node_below_none hfree.1]
              simp [HoldsFile]
          · rw [node_create]
            split
            · rename_i heq
              rw [List.append_right_eq_self] at heq
              simp [heq, HoldsDir]
            · rename_i hother
              rw [List.append_right_eq_self] at hother
              rw [node_below_none hfree.1]
              simp [hother, HoldsDir]
          · rw [node_create, if_neg]
            · exact hempty.2.2
            · rintro heq
              exact hbeside.apart (heq ▸ List.prefix_refl _)
          · rw [node_create, if_neg]
            · exact hsame q hq
            · rintro rfl
              exact hout (List.prefix_refl _)
          · rw [bytes_create, hgrown.bytes]
            rfl
          · rw [files_create, hgrown.files]
            rfl
        · rw [hfailed e disk₁ h]
          exact hsame q hq
      · rw [ensure_false hempty]
        refine ⟨nofun, fun e disk₁ h q hq _ => ?_⟩
        rw [← (Prod.mk.inj h).2]
        exact hsame q hq

/-! ### The whole import -/

/-- The run directory holds what the archive holds. -/
structure HoldsExactly (job : Import) (stream : TarStream) (after : Disk) : Prop where
  files : ∀ p content, after.node (job.destination ++ p) = some (.file content) ↔
    HoldsFile job.runName stream.members p content
  dirs : ∀ p, after.node (job.destination ++ p) = some .dir ↔
    HoldsDir job.runName stream.members p
  all : ∀ m ∈ stream.members, m.kind = .regular →
    (place job.runName m).isSome = true ∧ m.data.length = m.size

/-- An import is atomic, contained and bounded: outside of the workspace's own path, whatever is
    raised leaves everything as it was, and what is imported is the archive and changes nothing
    else. In between, only the temporary directory has changed, and within the limits. -/
structure Sound (system : System) (job : Import) (disk : Disk) : Prop where
  failed : ∀ e, (extractRunArchive system job disk).1 = .error e →
    SameOutside job disk (extractRunArchive system job disk).2 fun _ => False
  imported : (extractRunArchive system job disk).1 = .ok () →
    SameOutside job disk (extractRunArchive system job disk).2 (job.destination <+: ·) ∧
      ∃ stream, openArchive system job = .ok stream ∧
        HoldsExactly job stream (extractRunArchive system job disk).2
  contained : ∀ temporary disk₁, prepare system job disk = (.ok temporary, disk₁) →
    SameOutside job disk (importArchive system job temporary disk₁).2
      fun q => temporary <+: q ∨ job.destination <+: q
  files : ∀ temporary disk₁, prepare system job disk = (.ok temporary, disk₁) →
    (importArchive system job temporary disk₁).2.files ≤ disk.files + maxRunArchiveFiles
  bytes : ∀ temporary disk₁, prepare system job disk = (.ok temporary, disk₁) →
    (importArchive system job temporary disk₁).2.bytes ≤ disk.bytes + maxRunArchiveBytes

/-- What is unpacked stays within the limit, and each file of an archive that is imported as a whole
    has a path below the run directory. -/
def UnpacksWithin (system : System) (job : Import) (disk : Disk) : Prop :=
  ∀ temporary disk₁ stream, prepare system job disk = (.ok temporary, disk₁) →
    openArchive system job = .ok stream →
    Bounded system.refuses job.runName temporary [] stream.members maxRunArchiveBytes ∧
      (Imported system.refuses job.runName temporary stream.members → stream.failure = none →
        ∀ m ∈ stream.members, m.kind = .regular → (place job.runName m).isSome = true)

/-- The disk when the members have been read. -/
def unpacked (system : System) (job : Import) (temporary : Path) (stream : TarStream)
    (disk₁ : Disk) : Disk :=
  (extractMembers system.refuses job.runName temporary stream.members 0 disk₁).2

variable {temporary : Path} {stream : TarStream}

theorem Prepared.unpacked_frame (h : Prepared job disk temporary disk₁) {q : Path}
    (hq : ¬temporary <+: q) : (unpacked system job temporary stream disk₁).node q = disk₁.node q :=
  extractMembers_frame h.isTemporary.resolved h.mirrors q hq

/-- The run directory of an import is free until the end. -/
theorem Prepared.movable (h : Prepared job disk temporary disk₁)
    (himported : Imported system.refuses job.runName temporary stream.members) :
    (unpacked system job temporary stream disk₁).Movable temporary job.destination := by
  have hmirrors := (@extractMembers_ok system.refuses job.runName temporary stream.members [] disk₁
    h.isTemporary.resolved h.mirrors imported_nil).2 himported
  have hdir : (unpacked system job temporary stream disk₁).node temporary = some .dir := by
    have hroot := (hmirrors.2 []).mpr (.inl rfl)
    rwa [List.append_nil] at hroot
  obtain ⟨name, hname⟩ := h.isTemporary.beside
  refine ⟨?_, hdir, ⟨?_, ?_⟩, h.isTemporary.apart⟩
  · rw [hname]
    exact List.append_ne_nil_of_right_ne_nil _ (List.cons_ne_nil _ _)
  · rw [h.unpacked_frame h.isTemporary.apart]
    exact h.vacant
  · have hbelow : (unpacked system job temporary stream disk₁).node (job.workspace ++ [name]) =
        some .dir := by
      rw [← hname]
      exact hdir
    rw [destination_eq, List.dropLast_concat]
    exact node_parent hbelow

theorem importArchive_closed {e : WorkerError} (hopen : openArchive system job = .error e) :
    importArchive system job temporary disk₁ = (.error e, disk₁) := by
  rw [importArchive, hopen]
  rfl

theorem importArchive_opened (hopen : openArchive system job = .ok stream) :
    importArchive system job temporary disk₁ =
      (extractStream system.refuses job.runName temporary stream >>= fun _ =>
        (replace temporary job.destination).mapError fileError :
          Attempt Disk WorkerError Unit) disk₁ := by
  rw [importArchive, hopen]
  rfl

theorem Prepared.importArchive_done (h : Prepared job disk temporary disk₁)
    (hopen : openArchive system job = .ok stream)
    (himported : Imported system.refuses job.runName temporary stream.members)
    (hfailure : stream.failure = none) : importArchive system job temporary disk₁ =
      (.ok (), (unpacked system job temporary stream disk₁).rename temporary job.destination
        (h.movable himported)) := by
  have hloop := (@extractMembers_ok system.refuses job.runName temporary stream.members [] disk₁
    h.isTemporary.resolved h.mirrors imported_nil).1.mpr himported
  have hstream : extractStream system.refuses job.runName temporary stream disk₁ =
      (.ok (), unpacked system job temporary stream disk₁) := by
    rw [extractStream, hfailure]
    exact (Attempt.bind_of_ok (Prod.ext hloop rfl)).trans rfl
  rw [importArchive_opened hopen, Attempt.bind_of_ok hstream]
  refine Attempt.mapError_of_ok ?_
  rw [replace, dif_pos (h.movable himported)]

theorem Prepared.importArchive_failed (h : Prepared job disk temporary disk₁)
    (hopen : openArchive system job = .ok stream)
    (hno : ¬(Imported system.refuses job.runName temporary stream.members ∧
      stream.failure = none)) :
    ∃ e, importArchive system job temporary disk₁ =
      (.error e, unpacked system job temporary stream disk₁) := by
  have hloop := (@extractMembers_ok system.refuses job.runName temporary stream.members [] disk₁
    h.isTemporary.resolved h.mirrors imported_nil).1
  have hstream : ∃ e, extractStream system.refuses job.runName temporary stream disk₁ =
      (.error e, unpacked system job temporary stream disk₁) := by
    cases houtcome : (extractMembers system.refuses job.runName temporary stream.members 0
        disk₁).1 with
    | error e => exact ⟨e, Attempt.bind_of_error (Prod.ext houtcome rfl)⟩
    | ok done =>
      cases hfailure : stream.failure with
      | none => exact absurd ⟨hloop.mp houtcome, hfailure⟩ hno
      | some e =>
        refine ⟨e, ?_⟩
        rw [extractStream, hfailure]
        exact (Attempt.bind_of_ok (Prod.ext houtcome rfl)).trans rfl
  obtain ⟨e, hstream⟩ := hstream
  refine ⟨e, ?_⟩
  rw [importArchive_opened hopen, Attempt.bind_of_error hstream]

theorem Prepared.ne_nil (h : Prepared job disk temporary disk₁) : temporary ≠ [] := by
  rintro rfl
  exact h.isTemporary.apart List.nil_prefix

/-- Once the temporary directory is gone, nothing is left of what has changed in it. -/
theorem Prepared.removed {t : Disk} (h : Prepared job disk temporary disk₁)
    (hframe : ∀ q, ¬temporary <+: q → t.node q = disk₁.node q) :
    SameOutside job disk (removeTemporary temporary t : Except WorkerError Unit × Disk).2
      fun _ => False := by
  intro q hq _
  have hgone : (removeTemporary temporary t : Except WorkerError Unit × Disk).2.node q =
      if temporary <+: q then none else t.node q := by
    rw [removeTemporary, Attempt.modify_apply]
    split
    · rename_i hnone
      split
      · rename_i hbelow
        obtain ⟨r, rfl⟩ := hbelow
        exact node_below_none hnone
      · rfl
    · exact node_removeTree h.ne_nil
  rw [hgone]
  split
  · rename_i hbelow
    obtain ⟨r, rfl⟩ := hbelow
    exact (node_below_none h.absent).symm
  · rename_i hout
    rw [hframe q hout]
    exact h.same q hq hout

theorem extractRunArchive_prepared
    (hprepare : prepare system job disk = (.ok temporary, disk₁)) :
    extractRunArchive system job disk =
      ((importArchive system job temporary disk₁).1,
        (removeTemporary temporary (importArchive system job temporary disk₁).2 :
          Except WorkerError Unit × Disk).2) :=
  Attempt.bind_of_ok hprepare

/-- What is imported. -/
theorem Prepared.imported (h : Prepared job disk temporary disk₁)
    (hprepare : prepare system job disk = (.ok temporary, disk₁))
    (hopen : openArchive system job = .ok stream)
    (himported : Imported system.refuses job.runName temporary stream.members)
    (hfailure : stream.failure = none) :
    (extractRunArchive system job disk).1 = .ok () ∧
      (∀ q, ¬job.destination <+: q → (extractRunArchive system job disk).2.node q =
        if temporary <+: q then none else disk₁.node q) ∧
      ∀ p, (extractRunArchive system job disk).2.node (job.destination ++ p) =
        (unpacked system job temporary stream disk₁).node (temporary ++ p) := by
  have hmovable := h.movable himported
  have hmoved := fun q => @node_rename Text UInt8 _ (unpacked system job temporary stream disk₁) q
    temporary job.destination hmovable
  have hgone : ((unpacked system job temporary stream disk₁).rename temporary job.destination
      hmovable).node temporary = none := by
    rw [hmoved, if_neg h.isTemporary.notBelow, if_pos (List.prefix_refl _)]
  rw [extractRunArchive_prepared hprepare, h.importArchive_done hopen himported hfailure,
    removeTemporary, Attempt.modify_apply, if_pos hgone]
  refine ⟨rfl, fun q hq => ?_, fun p => ?_⟩
  · rw [hmoved, if_neg hq]
    split
    · rfl
    · rename_i hout
      exact h.unpacked_frame hout
  · rw [hmoved, if_pos (List.prefix_append _ _), List.drop_left]

/-- The disk before the temporary directory is removed: nothing else has changed, and there are not
    too many files. -/
theorem Prepared.importArchive_spec (h : Prepared job disk temporary disk₁)
    (hopen : openArchive system job = .ok stream) :
    (∀ q, ¬temporary <+: q → ¬job.destination <+: q →
      (importArchive system job temporary disk₁).2.node q = disk₁.node q) ∧
    (importArchive system job temporary disk₁).2.files =
      (unpacked system job temporary stream disk₁).files ∧
    (importArchive system job temporary disk₁).2.bytes =
      (unpacked system job temporary stream disk₁).bytes := by
  by_cases hall : Imported system.refuses job.runName temporary stream.members ∧
      stream.failure = none
  · rw [h.importArchive_done hopen hall.1 hall.2]
    refine ⟨fun q hq hout => ?_, ?_, ?_⟩
    · rw [node_rename, if_neg hout, if_neg hq]
      exact h.unpacked_frame hq
    · rw [files_rename]
    · rw [bytes_rename]
  · obtain ⟨e, hrun⟩ := h.importArchive_failed hopen hall
    rw [hrun]
    exact ⟨fun q hq _ => h.unpacked_frame hq, rfl, rfl⟩

theorem Prepared.unpacked_counts (h : Prepared job disk temporary disk₁) :
    (unpacked system job temporary stream disk₁).files ≤ disk.files + maxRunArchiveFiles ∧
      ((unpacked system job temporary stream disk₁).bytes ≤ disk.bytes + maxRunArchiveBytes ↔
        Bounded system.refuses job.runName temporary [] stream.members maxRunArchiveBytes) := by
  constructor
  · exact extractMembers_files h.isTemporary.resolved h.mirrors (Nat.zero_le _) h.files h.bytes
  · refine (extractMembers_bytes h.isTemporary.resolved h.mirrors imported_nil h.files
      h.bytes).trans ?_
    exact and_iff_right (Nat.zero_le _)

theorem Sound.unpacksWithin (h : Sound system job disk) : UnpacksWithin system job disk := by
  intro temporary disk₁ stream hprepare hopen
  have hprepared := prepare_spec.1 temporary disk₁ hprepare
  constructor
  · have hbytes := h.bytes temporary disk₁ hprepare
    rw [(hprepared.importArchive_spec hopen).2.2] at hbytes
    exact hprepared.unpacked_counts.2.mp hbytes
  · intro himported hfailure m hm hkind
    obtain ⟨hok, -⟩ := hprepared.imported hprepare hopen himported hfailure
    obtain ⟨-, stream', hopen', hholds⟩ := h.imported hok
    obtain rfl := Except.ok.inj (hopen.symm.trans hopen')
    exact (hholds.all m hm hkind).1

/-- A regular member with a path, among members that are imported, is complete. -/
theorem Imported.complete (h : Imported refuses runName temporary ms) (hm : m ∈ ms)
    (hkind : m.kind = .regular) (hplace : (place runName m).isSome = true) :
    m.data.length = m.size := by
  obtain ⟨earlier, later, rfl⟩ := List.append_of_mem hm
  obtain ⟨relative, hplace⟩ := Option.isSome_iff_exists.mp hplace
  exact ((accepts_regular hkind hplace).mp (h earlier m later rfl)).2

theorem UnpacksWithin.imported (h : UnpacksWithin system job disk)
    (hprepare : prepare system job disk = (.ok temporary, disk₁))
    (hopen : openArchive system job = .ok stream)
    (himported : Imported system.refuses job.runName temporary stream.members)
    (hfailure : stream.failure = none) :
    SameOutside job disk (extractRunArchive system job disk).2 (job.destination <+: ·) ∧
      HoldsExactly job stream (extractRunArchive system job disk).2 := by
  have hprepared := prepare_spec.1 temporary disk₁ hprepare
  obtain ⟨-, houtside, hinside⟩ := hprepared.imported hprepare hopen himported hfailure
  have hmirrors := (@extractMembers_ok system.refuses job.runName temporary stream.members [] disk₁
    hprepared.isTemporary.resolved hprepared.mirrors imported_nil).2 himported
  refine ⟨fun q hq hout => ?_, ⟨fun p content => ?_, fun p => ?_, fun m hm hkind => ?_⟩⟩
  · rw [houtside q hout]
    split
    · rename_i hbelow
      obtain ⟨r, rfl⟩ := hbelow
      exact (node_below_none hprepared.absent).symm
    · rename_i hother
      exact hprepared.same q hq hother
  · rw [hinside]
    exact hmirrors.1 p content
  · rw [hinside]
    exact hmirrors.2 p
  · have hplace := (h temporary disk₁ stream hprepare hopen).2 himported hfailure m hm hkind
    exact ⟨hplace, himported.complete hm hkind hplace⟩

/-- Before the temporary directory is removed, only it and the run directory have changed, and the
    limits are kept. -/
theorem UnpacksWithin.importing (h : UnpacksWithin system job disk)
    (hprepare : prepare system job disk = (.ok temporary, disk₁)) :
    (SameOutside job disk (importArchive system job temporary disk₁).2
      fun q => temporary <+: q ∨ job.destination <+: q) ∧
    (importArchive system job temporary disk₁).2.files ≤ disk.files + maxRunArchiveFiles ∧
    (importArchive system job temporary disk₁).2.bytes ≤ disk.bytes + maxRunArchiveBytes := by
  have hprepared := prepare_spec.1 temporary disk₁ hprepare
  cases hopen : openArchive system job with
  | error e =>
    rw [importArchive_closed hopen]
    refine ⟨fun q hq hout => hprepared.same q hq fun hbelow => hout (.inl hbelow), ?_, ?_⟩
    · rw [hprepared.files]
      exact Nat.le_add_right _ _
    · rw [hprepared.bytes]
      exact Nat.le_add_right _ _
  | ok stream =>
    obtain ⟨hframe, hfiles, hbytes⟩ := hprepared.importArchive_spec hopen
    obtain ⟨hfilesLe, hbytesLe⟩ := @Prepared.unpacked_counts system job disk disk₁ temporary
      stream hprepared
    refine ⟨fun q hq hout => ?_, hfiles.trans_le hfilesLe,
      hbytes.trans_le (hbytesLe.mpr (h temporary disk₁ stream hprepare hopen).1)⟩
    rw [not_or] at hout
    rw [hframe q hout.1 hout.2]
    exact hprepared.same q hq hout.1

/-- An import raises and leaves nothing, or leaves the archive. -/
theorem UnpacksWithin.outcome (h : UnpacksWithin system job disk) :
    (∃ e, (extractRunArchive system job disk).1 = .error e ∧
      SameOutside job disk (extractRunArchive system job disk).2 fun _ => False) ∨
    (extractRunArchive system job disk).1 = .ok () ∧
      SameOutside job disk (extractRunArchive system job disk).2 (job.destination <+: ·) ∧
      ∃ stream, openArchive system job = .ok stream ∧
        HoldsExactly job stream (extractRunArchive system job disk).2 := by
  cases hprepare : prepare system job disk with
  | mk outcome disk₁ =>
    cases outcome with
    | error e =>
      have hwhole : extractRunArchive system job disk = (.error e, disk₁) :=
        Attempt.bind_of_error hprepare
      rw [hwhole]
      exact .inl ⟨e, rfl, prepare_spec.2 e disk₁ hprepare⟩
    | ok temporary =>
      have hprepared := prepare_spec.1 temporary disk₁ hprepare
      cases hopen : openArchive system job with
      | error e =>
        rw [extractRunArchive_prepared hprepare, importArchive_closed hopen]
        exact .inl ⟨e, rfl, hprepared.removed fun _ _ => rfl⟩
      | ok stream =>
        by_cases hall : Imported system.refuses job.runName temporary stream.members ∧
            stream.failure = none
        · obtain ⟨houtside, hholds⟩ := h.imported hprepare hopen hall.1 hall.2
          exact .inr ⟨(hprepared.imported hprepare hopen hall.1 hall.2).1, houtside, stream, rfl,
            hholds⟩
        · obtain ⟨e, himport⟩ := hprepared.importArchive_failed hopen hall
          rw [extractRunArchive_prepared hprepare, himport]
          exact .inl ⟨e, rfl, hprepared.removed fun q hq => hprepared.unpacked_frame hq⟩

theorem UnpacksWithin.sound (h : UnpacksWithin system job disk) : Sound system job disk where
  failed := by
    intro e herror
    rcases h.outcome with ⟨-, -, hsame⟩ | ⟨hok, -⟩
    · exact hsame
    · rw [hok] at herror
      cases herror
  imported := by
    intro hok
    rcases h.outcome with ⟨e, herror, -⟩ | ⟨-, himported⟩
    · rw [hok] at herror
      cases herror
    · exact himported
  contained := fun _ _ hprepare => (h.importing hprepare).1
  files := fun _ _ hprepare => (h.importing hprepare).2.1
  bytes := fun _ _ hprepare => (h.importing hprepare).2.2

/-- Importing an archive is sound exactly as long as what is unpacked stays within the limit, and no
    file takes the place of the run directory. -/
theorem import_sound_iff : Sound system job disk ↔ UnpacksWithin system job disk :=
  ⟨Sound.unpacksWithin, UnpacksWithin.sound⟩

/-! ### A sparse file -/

/-- A field of a header, filled up with zeros. -/
def field (text : String) (size : Nat) : Bytes :=
  text.toList.map (fun c => UInt8.ofNat c.toNat) ++ List.replicate (size - text.length) 0

/-- One sparse file that is a single hole, of 2²⁹ + 1 bytes. -/
def sparseArchive : Bytes :=
  field "bomb" 100 ++ field "0000644" 8 ++ field "0000000" 8 ++ field "0000000" 8 ++
    field "00000000000" 12 ++ field "00000000000" 12 ++ field "007625" 7 ++ field " S" 102 ++
    field "ustar  " 226 ++ field "04000000001" 1053

def sparseMember : Member where
  name := "bomb".toList
  kind := .regular
  size := 536870913
  data := List.replicate 536870913 0
  failure := none
  fits := by rw [List.length_replicate]

def sparseSystem : System where
  openTar archive :=
    if archive = sparseArchive then .ok { members := [sparseMember], failure := none }
    else .error (.other "file could not be opened successfully")
  refuses _ := false
  suffixes := ["x7f2kq9a".toList]

def sparseImport : Import where
  workspaceRoot := ["workspace".toList]
  runId := 7
  chunks := [sparseArchive]
  failure := none

theorem sparse_opened : openArchive sparseSystem sparseImport =
    .ok { members := [sparseMember], failure := none } := by
  have hspool : spool none [sparseArchive] [] = .ok sparseArchive :=
    ok_of_toOption (by decide +kernel)
  have hopen : sparseSystem.openTar sparseArchive =
      .ok { members := [sparseMember], failure := none } := by
    simp only [sparseSystem, if_true]
  rw [openArchive]
  change (spool none [sparseArchive] [] >>= sparseSystem.openTar) = _
  rw [hspool, ok_bind, hopen]

theorem sparse_opens (refuses : Refusals Text) (temporary : Path)
    (h : refuses (temporary ++ ["bomb".toList]) = false) :
    Opens refuses sparseImport.runName temporary [] sparseMember := by
  have hplace : place sparseImport.runName sparseMember = some ["bomb".toList] := by
    decide
  refine ⟨rfl, by decide, _, hplace, fun p hp => ?_, ?_, ?_, h⟩
  · rw [List.dropLast_singleton, List.prefix_nil] at hp
    exact .inl (.inl hp)
  · simp [HoldsDir]
  · simp [HoldsFile]

/-- An archive of 1536 bytes fills the disk with more than 2²⁹. -/
theorem sparse_unbounded :
    sparseArchive.length = 1536 ∧ ¬Sound sparseSystem sparseImport FileTree.empty := by
  refine ⟨by decide +kernel, fun hsound => ?_⟩
  obtain ⟨temporary, htemporary⟩ := ok_of_isSome
    (show (prepare sparseSystem sparseImport FileTree.empty).1.toOption.isSome by decide)
  have hbounded := (hsound.unpacksWithin temporary _ _ (Prod.ext htemporary rfl) sparse_opened).1
  have hbytes := hbounded [] sparseMember [] rfl imported_nil (sparse_opens _ _ rfl)
  have hlength : sparseMember.copied.1.length = 536870913 := by
    rw [Member.copied_complete.2 List.length_replicate]
    exact List.length_replicate
  rw [List.nil_append, List.nil_append, ← List.nil_append [sparseMember], unpackedBytes_concat,
    if_pos (sparse_opens (fun _ => false) [] rfl).counted, hlength] at hbytes
  exact absurd hbytes (by decide)

end TestOps.RunArchives
