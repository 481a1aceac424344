import TestOps.Lib.Attempt

/-! Directories and files, by their paths from the root. Every entry lies in a directory, and no path
    has two entries, so what a path leads to is all there is to know of a tree.

      []                 the root, always a directory
      [a]        dir     makeDirs, openExclusive: a new entry in a directory that is there
      [a, b]     file    removeTree, rename: everything from a path on

    There are no links: a path is resolved by its names alone. -/

inductive FileTree.Node (β : Type) where
  | dir
  | file (content : List β)
  deriving DecidableEq

/-- The names of a path. -/
structure FileTree (ν β : Type) [DecidableEq ν] where
  entries : List (List ν × FileTree.Node β)
  nodup : (entries.map Prod.fst).Nodup
  proper : ∀ e ∈ entries, e.1 ≠ []
  parents : ∀ p name n, (p ++ [name], n) ∈ entries → p ≠ [] → (p, FileTree.Node.dir) ∈ entries

namespace FileTree

variable {ν β : Type} [DecidableEq ν] {t : FileTree ν β} {p q src dst : List ν} {n : Node β}

/-- Nothing but the root. -/
def empty : FileTree ν β where
  entries := []
  nodup := List.nodup_nil
  proper := nofun
  parents := nofun

/-- What a path leads to. -/
def node (t : FileTree ν β) (p : List ν) : Option (Node β) :=
  if p = [] then some .dir else t.entries.lookup p

@[simp] theorem node_nil : t.node [] = some .dir := rfl

theorem mem_of_lookup {es : List (List ν × Node β)} (h : es.lookup p = some n) : (p, n) ∈ es := by
  rw [List.lookup_eq_some_iff] at h
  obtain ⟨front, back, rfl, -⟩ := h
  exact List.mem_append_right _ List.mem_cons_self

theorem lookup_of_mem {es : List (List ν × Node β)} (hnodup : (es.map Prod.fst).Nodup)
    (h : (p, n) ∈ es) : es.lookup p = some n := by
  induction es with
  | nil => cases h
  | cons e es ih =>
    rw [List.map_cons, List.nodup_cons] at hnodup
    rw [List.lookup_cons]
    rcases List.mem_cons.mp h with rfl | h
    · rw [beq_self_eq_true]
    · have hne : (p == e.1) = false := by
        rw [beq_eq_false_iff_ne]
        rintro rfl
        exact hnodup.1 (List.mem_map.mpr ⟨_, h, rfl⟩)
      rw [hne]
      exact ih hnodup.2 h

/-- The entries are what the paths lead to. -/
theorem mem_entries_iff : (p, n) ∈ t.entries ↔ p ≠ [] ∧ t.node p = some n := by
  constructor
  · intro h
    have hne : p ≠ [] := t.proper _ h
    refine ⟨hne, ?_⟩
    rw [node, if_neg hne]
    exact lookup_of_mem t.nodup h
  · rintro ⟨hne, h⟩
    rw [node, if_neg hne] at h
    exact mem_of_lookup h

/-- Two ways to read what a path leads to. -/
theorem node_eq_of_mem {o : Option (Node β)} (hne : p ≠ [])
    (h : ∀ n, (p, n) ∈ t.entries ↔ o = some n) : t.node p = o := by
  refine Option.ext fun n => ?_
  rw [← h n, mem_entries_iff, and_iff_right hne]

theorem node_parent {name : ν} (h : t.node (p ++ [name]) = some n) : t.node p = some .dir := by
  by_cases hp : p = []
  · rw [hp, node_nil]
  · have hmem : (p ++ [name], n) ∈ t.entries :=
      mem_entries_iff.mpr ⟨List.append_ne_nil_of_right_ne_nil _ (List.cons_ne_nil _ _), h⟩
    exact (mem_entries_iff.mp (t.parents p name n hmem hp)).2

/-- What lies on the way to an entry is a directory. -/
theorem node_ancestor (hq : q ≠ []) (h : t.node (p ++ q) = some n) : t.node p = some .dir := by
  induction q using List.reverseRecOn generalizing n with
  | nil => exact absurd rfl hq
  | append_singleton q name ih =>
    rw [← List.append_assoc] at h
    have hparent := node_parent h
    by_cases hnil : q = []
    · rwa [hnil, List.append_nil] at hparent
    · exact ih hnil hparent

theorem node_below_none (h : t.node p = none) : t.node (p ++ q) = none := by
  by_cases hq : q = []
  · rwa [hq, List.append_nil]
  · cases hbelow : t.node (p ++ q) with
    | none => rfl
    | some n =>
      rw [node_ancestor hq hbelow] at h
      cases h

/-! ### New entries -/

/-- A path for a new entry: nothing is there, and it lies in a directory. -/
def Free (t : FileTree ν β) (p : List ν) : Prop :=
  t.node p = none ∧ t.node p.dropLast = some .dir

instance decidableDir : (o : Option (Node β)) → Decidable (o = some .dir)
  | some .dir => isTrue rfl
  | some (.file _) => isFalse nofun
  | none => isFalse nofun

instance : Decidable (t.Free p) := inferInstanceAs (Decidable (_ ∧ _))

theorem Free.ne_nil (h : t.Free p) : p ≠ [] := by
  rintro rfl
  cases h.1

def create (t : FileTree ν β) (p : List ν) (n : Node β) (h : t.Free p) : FileTree ν β where
  entries := t.entries ++ [(p, n)]
  nodup := by
    rw [List.map_append, List.map_singleton, List.nodup_append]
    refine ⟨t.nodup, List.nodup_singleton _, ?_⟩
    rintro q hq _ hp rfl
    rw [List.mem_singleton.mp hp, List.mem_map] at hq
    obtain ⟨⟨_, m⟩, hmem, rfl⟩ := hq
    have hnode := (mem_entries_iff.mp hmem).2
    rw [h.1] at hnode
    cases hnode
  proper := by
    intro e he
    rcases List.mem_append.mp he with he | he
    · exact t.proper e he
    · rw [List.mem_singleton.mp he]
      exact h.ne_nil
  parents := by
    intro q name m hm hq
    rcases List.mem_append.mp hm with hm | hm
    · exact List.mem_append_left _ (t.parents q name m hm hq)
    · obtain ⟨rfl, -⟩ := Prod.mk.inj (List.mem_singleton.mp hm)
      have hparent := h.2
      rw [List.dropLast_concat] at hparent
      exact List.mem_append_left _ (mem_entries_iff.mpr ⟨hq, hparent⟩)

theorem node_create {h : t.Free p} :
    (t.create p n h).node q = if q = p then some n else t.node q := by
  by_cases hq : q = []
  · rw [hq, node_nil, if_neg h.ne_nil.symm, node_nil]
  · refine node_eq_of_mem hq fun m => ?_
    rw [create, List.mem_append, mem_entries_iff, and_iff_right hq, List.mem_singleton,
      Prod.mk.injEq]
    split
    · rename_i heq
      rw [heq, h.1, Option.some.injEq]
      simp [eq_comm]
    · rename_i hne
      simp [hne]

/-! ### Everything from a path on -/

def removeTree (t : FileTree ν β) (root : List ν) : FileTree ν β where
  entries := t.entries.filter fun e => ¬root <+: e.1
  nodup := t.nodup.sublist (List.filter_sublist.map _)
  proper := fun e he => t.proper e (List.mem_of_mem_filter he)
  parents := by
    intro p name n hn hp
    rw [List.mem_filter, decide_eq_true_eq] at hn ⊢
    exact ⟨t.parents p name n hn.1 hp, fun hroot => hn.2 (hroot.trans (List.prefix_append _ _))⟩

theorem node_removeTree (hsrc : src ≠ []) :
    (t.removeTree src).node p = if src <+: p then none else t.node p := by
  by_cases hp : p = []
  · rw [hp, node_nil, if_neg (by rwa [List.prefix_nil]), node_nil]
  · refine node_eq_of_mem hp fun n => ?_
    rw [removeTree, List.mem_filter, decide_eq_true_eq, mem_entries_iff, and_iff_right hp]
    split
    · rename_i hbelow
      simp [hbelow]
    · rename_i hbelow
      simp [hbelow]

/-- Where an entry is afterwards. -/
def moved (src dst p : List ν) : List ν := if src <+: p then dst ++ p.drop src.length else p

theorem moved_append : moved src dst (src ++ p) = dst ++ p := by
  rw [moved, if_pos (List.prefix_append _ _), List.drop_left]

theorem moved_of_not (h : ¬src <+: p) : moved src dst p = p := if_neg h

/-- A directory that can be moved: it is there, and its new path is free and not inside of it. -/
def Movable (t : FileTree ν β) (src dst : List ν) : Prop :=
  src ≠ [] ∧ t.node src = some .dir ∧ t.Free dst ∧ ¬src <+: dst

instance : Decidable (t.Movable src dst) := inferInstanceAs (Decidable (_ ∧ _))

theorem Movable.eq_of_moved (h : t.Movable src dst) {p' : List ν} {n' : Node β}
    (hp : (p, n) ∈ t.entries) (hp' : (p', n') ∈ t.entries)
    (heq : moved src dst p = moved src dst p') : p = p' := by
  have hfree : ∀ r m, (dst ++ r, m) ∉ t.entries := by
    intro r m hmem
    have hnode := (mem_entries_iff.mp hmem).2
    rw [node_below_none h.2.2.1.1] at hnode
    cases hnode
  by_cases hsrc : src <+: p <;> by_cases hsrc' : src <+: p'
  · obtain ⟨r, rfl⟩ := hsrc
    obtain ⟨r', rfl⟩ := hsrc'
    rw [moved_append, moved_append] at heq
    rw [List.append_cancel_left heq]
  · obtain ⟨r, rfl⟩ := hsrc
    rw [moved_append, moved_of_not hsrc'] at heq
    exact absurd (heq ▸ hp') (hfree _ _)
  · obtain ⟨r', rfl⟩ := hsrc'
    rw [moved_append, moved_of_not hsrc] at heq
    exact absurd (heq ▸ hp) (hfree _ _)
  · rwa [moved_of_not hsrc, moved_of_not hsrc'] at heq

def rename (t : FileTree ν β) (src dst : List ν) (h : t.Movable src dst) : FileTree ν β where
  entries := t.entries.map fun e => (moved src dst e.1, e.2)
  nodup := by
    rw [List.map_map]
    refine (List.nodup_map_iff_inj_on t.nodup.of_map).mpr fun e he e' he' heq => ?_
    have hpath : e.1 = e'.1 := h.eq_of_moved (n := e.2) he (show (e'.1, e'.2) ∈ t.entries from he') heq
    exact List.inj_on_of_nodup_map t.nodup he he' hpath
  proper := by
    intro e he
    obtain ⟨e, hmem, rfl⟩ := List.mem_map.mp he
    by_cases hsrc : src <+: e.1
    · rw [moved, if_pos hsrc]
      exact List.append_ne_nil_of_left_ne_nil h.2.2.1.ne_nil _
    · rw [moved_of_not hsrc]
      exact t.proper e hmem
  parents := by
    intro p name n hn hp
    obtain ⟨⟨p', n'⟩, hmem, heq⟩ := List.mem_map.mp hn
    obtain ⟨hpath, rfl⟩ := Prod.mk.inj heq
    by_cases hsrc : src <+: p'
    · obtain ⟨r, rfl⟩ := hsrc
      simp only [moved_append] at hpath
      cases r using List.reverseRecOn with
      | nil =>
        -- the directory itself, whose new path lies in a directory that stays where it is
        rw [List.append_nil] at hpath
        have hparent := h.2.2.1.2
        rw [hpath, List.dropLast_concat] at hparent
        refine List.mem_map.mpr ⟨(p, .dir), mem_entries_iff.mpr ⟨hp, hparent⟩, ?_⟩
        rw [moved_of_not]
        rintro hbelow
        exact h.2.2.2 (hbelow.trans (hpath ▸ List.prefix_append _ _))
      | append_singleton r last =>
        rw [← List.append_assoc] at hpath
        obtain ⟨rfl, -⟩ := List.append_inj' hpath rfl
        have hparent : t.node (src ++ r) = some .dir := by
          rw [← List.append_assoc] at hmem
          exact node_parent (mem_entries_iff.mp hmem).2
        exact List.mem_map.mpr ⟨(src ++ r, .dir), mem_entries_iff.mpr
          ⟨List.append_ne_nil_of_left_ne_nil h.1 _, hparent⟩, by rw [moved_append]⟩
    · simp only [moved_of_not hsrc] at hpath
      subst hpath
      have hparent := t.parents p name n' hmem hp
      exact List.mem_map.mpr ⟨(p, .dir), hparent, by
        rw [moved_of_not fun hbelow => hsrc (hbelow.trans (List.prefix_append _ _))]⟩

/-- A moved tree is found below its new path, and nothing below the old one. -/
theorem node_rename {h : t.Movable src dst} : (t.rename src dst h).node p =
    if dst <+: p then t.node (src ++ p.drop dst.length) else if src <+: p then none
      else t.node p := by
  by_cases hp : p = []
  · rw [hp, node_nil, if_neg (by rw [List.prefix_nil]; exact h.2.2.1.ne_nil),
      if_neg (by rw [List.prefix_nil]; exact h.1), node_nil]
  · refine node_eq_of_mem hp fun n => ?_
    simp only [rename, List.mem_map, Prod.mk.injEq, Prod.exists]
    split
    · rename_i hdst
      obtain ⟨r, rfl⟩ := hdst
      rw [List.drop_left]
      constructor
      · rintro ⟨p', n', hmem, hpath, rfl⟩
        by_cases hsrc : src <+: p'
        · obtain ⟨r', rfl⟩ := hsrc
          rw [moved_append] at hpath
          rw [← List.append_cancel_left hpath]
          exact (mem_entries_iff.mp hmem).2
        · rw [moved_of_not hsrc] at hpath
          have hnode := (mem_entries_iff.mp hmem).2
          rw [hpath, node_below_none h.2.2.1.1] at hnode
          cases hnode
      · intro hnode
        exact ⟨src ++ r, n, mem_entries_iff.mpr
          ⟨List.append_ne_nil_of_left_ne_nil h.1 _, hnode⟩, moved_append, rfl⟩
    · rename_i hdst
      split
      · rename_i hsrc
        simp only [reduceCtorEq, iff_false]
        rintro ⟨p', n', hmem, hpath, rfl⟩
        by_cases hsrc' : src <+: p'
        · rw [moved, if_pos hsrc'] at hpath
          exact hdst (hpath ▸ List.prefix_append _ _)
        · rw [moved_of_not hsrc'] at hpath
          exact hsrc' (hpath ▸ hsrc)
      · rename_i hsrc
        constructor
        · rintro ⟨p', n', hmem, hpath, rfl⟩
          by_cases hsrc' : src <+: p'
          · rw [moved, if_pos hsrc'] at hpath
            exact absurd (hpath ▸ List.prefix_append _ _) hdst
          · rw [moved_of_not hsrc'] at hpath
            rw [← hpath]
            exact (mem_entries_iff.mp hmem).2
        · intro hnode
          exact ⟨p, n, mem_entries_iff.mpr ⟨hp, hnode⟩, moved_of_not hsrc, rfl⟩

/-! ### How much a tree holds -/

def Node.size : Node β → Nat
  | .dir => 0
  | .file content => content.length

def Node.isFile : Node β → Bool
  | .dir => false
  | .file _ => true

def bytes (t : FileTree ν β) : Nat := (t.entries.map fun e => e.2.size).sum

def files (t : FileTree ν β) : Nat := t.entries.countP fun e => e.2.isFile

@[simp] theorem bytes_create {h : t.Free p} : (t.create p n h).bytes = t.bytes + n.size := by
  simp [bytes, create]

@[simp] theorem files_create {h : t.Free p} :
    (t.create p n h).files = t.files + if n.isFile then 1 else 0 := by
  simp [files, create, List.countP_singleton]

@[simp] theorem bytes_rename {h : t.Movable src dst} : (t.rename src dst h).bytes = t.bytes := by
  simp [bytes, rename, Function.comp_def]

@[simp] theorem files_rename {h : t.Movable src dst} : (t.rename src dst h).files = t.files := by
  simp [files, rename, List.countP_map, Function.comp_def]

/-! ### Commands -/

inductive FileError where
  | exists
  | notDirectory
  | refused
  deriving DecidableEq

/-- What a command cannot create, for reasons of its own: a name that is too long, for example. -/
abbrev Refusals (ν : Type) := List ν → Bool

variable {refuses : Refusals ν}

def addEntry (refuses : Refusals ν) (p : List ν) (n : Node β) :
    Attempt (FileTree ν β) FileError Unit := fun t =>
  if h : t.Free p then
    if refuses p then (.error .refused, t) else (.ok (), t.create p n h)
  else if t.node p = none then (.error .notDirectory, t) else (.error .exists, t)

/-- A directory that may be there already. -/
def makeDir (refuses : Refusals ν) (p : List ν) : Attempt (FileTree ν β) FileError Unit := fun t =>
  if t.node p = some .dir then (.ok (), t) else addEntry refuses p .dir t

/-- Directories below one, each in the one before it. -/
def makeDirsFrom (refuses : Refusals ν) (base : List ν) :
    List ν → Attempt (FileTree ν β) FileError Unit
  | [] => pure ()
  | name :: names => do
    makeDir refuses (base ++ [name])
    makeDirsFrom refuses (base ++ [name]) names

def makeDirs (refuses : Refusals ν) (p : List ν) : Attempt (FileTree ν β) FileError Unit :=
  makeDirsFrom refuses [] p

theorem addEntry_ok (h : t.Free p) (haccept : refuses p = false) :
    addEntry refuses p n t = (.ok (), t.create p n h) := by
  rw [addEntry, dif_pos h, if_neg (by rw [haccept]; exact Bool.false_ne_true)]

theorem addEntry_error (h : ¬(t.Free p ∧ refuses p = false)) :
    ∃ e, addEntry refuses p n t = (.error e, t) := by
  rw [addEntry]
  split
  · rename_i hfree
    have hrefused : refuses p = true := by
      by_contra haccept
      exact h ⟨hfree, Bool.eq_false_iff.mpr haccept⟩
    exact ⟨_, if_pos hrefused⟩
  · split
    · exact ⟨_, rfl⟩
    · exact ⟨_, rfl⟩

/-- A directory is there, or can be made. -/
def Reachable (refuses : Refusals ν) (t : FileTree ν β) (p : List ν) : Prop :=
  t.node p = some .dir ∨ t.node p = none ∧ refuses p = false

/-- Between two trees, nothing but directories on the way has appeared. -/
structure Grown (t t' : FileTree ν β) (base p : List ν) : Prop where
  bytes : t'.bytes = t.bytes
  files : t'.files = t.files
  node : ∀ q, t'.node q = t.node q ∨
    t.node q = none ∧ t'.node q = some .dir ∧ base <+: q ∧ q <+: p

theorem makeDir_spec (hparent : t.node p.dropLast = some .dir) :
    (Reachable refuses t p → ∃ t', makeDir refuses p t = (.ok (), t') ∧
      ∀ q, t'.node q = if q = p then some .dir else t.node q) ∧
    (¬Reachable refuses t p → ∃ e, makeDir refuses p t = (.error e, t)) ∧
    Grown t (makeDir refuses p t).2 p p := by
  have hsame : Grown t t p p := ⟨rfl, rfl, fun _ => .inl rfl⟩
  rw [makeDir]
  split
  · rename_i hdir
    refine ⟨fun _ => ⟨t, rfl, fun q => ?_⟩, fun hno => absurd (.inl hdir) hno, hsame⟩
    split
    · rename_i heq
      rw [heq, hdir]
    · rfl
  · rename_i hdir
    by_cases hfree : t.Free p ∧ refuses p = false
    · rw [addEntry_ok hfree.1 hfree.2]
      refine ⟨fun _ => ⟨_, rfl, fun q => node_create⟩,
        fun hno => absurd (.inr ⟨hfree.1.1, hfree.2⟩) hno, ?_, ?_, fun q => ?_⟩
      · rw [bytes_create]
        rfl
      · rw [files_create]
        rfl
      · rw [node_create]
        split
        · rename_i heq
          rw [heq]
          exact .inr ⟨hfree.1.1, rfl, List.prefix_refl _, List.prefix_refl _⟩
        · exact .inl rfl
    · obtain ⟨e, herror⟩ := addEntry_error (n := (.dir : Node β)) hfree
      rw [herror]
      refine ⟨?_, fun _ => ⟨e, rfl⟩, hsame⟩
      rintro (h | ⟨hnone, haccept⟩)
      · exact absurd h hdir
      · exact absurd ⟨⟨hnone, hparent⟩, haccept⟩ hfree

theorem Grown.trans {t₁ t₂ t₃ : FileTree ν β} {b₁ p₁ b₂ p₂ b p : List ν}
    (h₁ : Grown t₁ t₂ b₁ p₁) (h₂ : Grown t₂ t₃ b₂ p₂) (hb₁ : b <+: b₁) (hp₁ : p₁ <+: p)
    (hb₂ : b <+: b₂) (hp₂ : p₂ <+: p) : Grown t₁ t₃ b p where
  bytes := h₂.bytes.trans h₁.bytes
  files := h₂.files.trans h₁.files
  node := by
    intro q
    rcases h₁.node q with heq | ⟨hnone, hdir, hb, hp⟩
    · rcases h₂.node q with heq' | ⟨hnone, hdir, hb, hp⟩
      · exact .inl (heq'.trans heq)
      · exact .inr ⟨heq ▸ hnone, hdir, hb₂.trans hb, hp.trans hp₂⟩
    · rcases h₂.node q with heq' | ⟨hnone', -, -, -⟩
      · exact .inr ⟨hnone, heq'.trans hdir, hb₁.trans hb, hp.trans hp₁⟩
      · rw [hdir] at hnone'
        cases hnone'

/-- Directories are made exactly if each of them is there or can be made; then they are there, and
    whatever happens, nothing else has changed. -/
theorem makeDirsFrom_spec {base rest : List ν} (hbase : t.node base = some .dir) :
    ((∀ q, q <+: rest → q ≠ [] → Reachable refuses t (base ++ q)) →
      ∃ t', makeDirsFrom refuses base rest t = (.ok (), t') ∧
        ∀ q, t'.node q = if base <+: q ∧ q <+: base ++ rest then some .dir else t.node q) ∧
    ((∃ q, q <+: rest ∧ q ≠ [] ∧ ¬Reachable refuses t (base ++ q)) →
      ∃ e t', makeDirsFrom refuses base rest t = (.error e, t')) ∧
    Grown t (makeDirsFrom refuses base rest t).2 base (base ++ rest) := by
  induction rest generalizing base t with
  | nil =>
    refine ⟨fun _ => ⟨t, rfl, fun q => ?_⟩, ?_, rfl, rfl, fun _ => .inl rfl⟩
    · rw [List.append_nil]
      split
      · rename_i hboth
        rw [hboth.2.eq_of_length (le_antisymm hboth.2.length_le hboth.1.length_le), hbase]
      · rfl
    · rintro ⟨q, hq, hne, -⟩
      exact absurd (List.prefix_nil.mp hq) hne
  | cons name rest ih =>
    have hparent : t.node (base ++ [name]).dropLast = some .dir := by
      rwa [List.dropLast_concat]
    have hassoc : base ++ name :: rest = base ++ [name] ++ rest := by
      rw [List.append_assoc, List.singleton_append]
    obtain ⟨hmade, hfailed, hgrown⟩ := @makeDir_spec ν β _ t (base ++ [name]) refuses hparent
    by_cases hreach : Reachable refuses t (base ++ [name])
    · obtain ⟨t₁, hrun, hnode⟩ := hmade hreach
      have hbelow : ∀ q, q ≠ [] →
          (Reachable refuses t₁ (base ++ [name] ++ q) ↔
            Reachable refuses t (base ++ [name] ++ q)) := by
        intro q hq
        rw [Reachable, Reachable, hnode, if_neg]
        rwa [List.append_right_eq_self]
      obtain ⟨hmade', hfailed', hgrown'⟩ := @ih t₁ (base ++ [name]) (by rw [hnode, if_pos rfl])
      have hwhole : makeDirsFrom refuses base (name :: rest) t =
          makeDirsFrom refuses (base ++ [name]) rest t₁ := Attempt.bind_of_ok hrun
      rw [hwhole, hassoc]
      refine ⟨fun hall => ?_, ?_, ?_⟩
      · obtain ⟨t₂, hrun', hnode'⟩ := hmade' fun q hq hne => by
          rw [hbelow q hne, List.append_assoc]
          exact hall _ (by simpa using hq) (List.cons_ne_nil _ _)
        refine ⟨t₂, hrun', fun q => ?_⟩
        rw [hnode', hnode]
        by_cases hlong : base ++ [name] <+: q
        · simp only [hlong, true_and, (List.prefix_append base [name]).trans hlong]
          split
          · rfl
          · rename_i hno
            rw [if_neg]
            rintro rfl
            exact hno (List.prefix_append _ _)
        · rw [if_neg (fun h => hlong h.1), if_neg (by rintro rfl; exact hlong (List.prefix_refl _))]
          split
          · rename_i hboth
            obtain ⟨r, rfl⟩ := hboth.1
            have hshort := hboth.2
            rw [List.append_assoc, List.prefix_append_right_inj] at hshort
            cases r with
            | nil => rw [List.append_nil, hbase]
            | cons c r =>
              refine absurd ?_ hlong
              rw [List.prefix_append_right_inj]
              rw [List.singleton_append, List.cons_prefix_cons] at hshort
              rw [hshort.1]
              exact List.prefix_append [name] r
          · rfl
      · rintro ⟨q, hq, hne, hno⟩
        cases q with
        | nil => exact absurd rfl hne
        | cons c q =>
          rw [List.cons_prefix_cons] at hq
          obtain ⟨rfl, hq⟩ := hq
          have hqne : q ≠ [] := by
            rintro rfl
            exact hno hreach
          refine hfailed' ⟨q, hq, hqne, ?_⟩
          rwa [hbelow q hqne, List.append_assoc]
      · rw [hrun] at hgrown
        exact hgrown.trans hgrown' (List.prefix_append _ _) (List.prefix_append _ _)
          (List.prefix_append _ _) (List.prefix_refl _)
    · obtain ⟨e, hrun⟩ := hfailed hreach
      have hwhole : makeDirsFrom refuses base (name :: rest) t = (.error e, t) :=
        Attempt.bind_of_error hrun
      rw [hwhole]
      refine ⟨fun hall => ?_, fun _ => ⟨e, t, rfl⟩, rfl, rfl, fun _ => .inl rfl⟩
      exact absurd (hall [name] (by simp) (List.cons_ne_nil _ _)) hreach

theorem makeDirs_spec :
    ((∀ q, q <+: p → q ≠ [] → Reachable refuses t q) → ∃ t', makeDirs refuses p t = (.ok (), t') ∧
      ∀ q, t'.node q = if q <+: p then some .dir else t.node q) ∧
    (¬(∀ q, q <+: p → q ≠ [] → Reachable refuses t q) →
      ∃ e t', makeDirs refuses p t = (.error e, t')) ∧
    Grown t (makeDirs refuses p t).2 [] p := by
  obtain ⟨hmade, hfailed, hgrown⟩ := @makeDirsFrom_spec ν β _ t refuses [] p node_nil
  simp only [List.nil_append, List.nil_prefix, true_and] at hmade hfailed hgrown
  refine ⟨hmade, fun hno => hfailed ?_, hgrown⟩
  push Not at hno
  exact hno

/-- A directory gets a path where nothing is. -/
def replace (src dst : List ν) : Attempt (FileTree ν β) FileError Unit := fun t =>
  if h : t.Movable src dst then (.ok (), t.rename src dst h)
  else if t.node src = some .dir then (.error .exists, t) else (.error .notDirectory, t)

end FileTree
