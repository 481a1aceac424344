import TestOps.Worker.ContainerResources

/-! Recovery of the containers and volumes of a run that was cut off. What the daemon holds of a
    volume shows the labels it was created with, so a volume of the run is recognized and removed;
    the labels of a container are not where they are looked for, so a container of the run is taken
    for a foreign one:

      left behind                             the next execution
      nothing, or volumes only                removes them, and goes on as on a clean daemon
      the container or the staging container  "container executor resource name is already reserved"

    Whatever fails in it, no execution touches anything that does not carry the run's labels. -/

namespace TestOps.Containers

open Checked

variable {docker : Inspection} {work : ContainerWork} {runId : UUID}
variable {name : String} {daemon : Daemon} {labels : Labels}

/-- The labels name the run as their owner. -/
def Managed (runId : UUID) (labels : Labels) : Prop :=
  labels.lookup "io.testops.managed" = some "true" ∧
    labels.lookup "io.testops.run-id" = some (uuidText runId)

instance : Decidable (Managed runId labels) := inferInstanceAs (Decidable (_ ∧ _))

theorem managed_runLabels (more : Labels) : Managed runId (runLabels runId ++ more) :=
  ⟨rfl, rfl⟩

/-! ### What is recognized -/

theorem lookup_texts {key : String} :
    (labels.map fun l => (l.1, Value.str l.2)).lookup key = (labels.lookup key).map Value.str := by
  induction labels with
  | nil => rfl
  | cons l labels ih =>
    rw [List.map_cons, List.lookup_cons, List.lookup_cons, ih]
    cases key == l.1 <;> rfl

theorem get_texts {key value : String} :
    (Dict.get (labels.map fun l => (l.1, Value.str l.2)) key).str? = some value ↔
      labels.lookup key = some value := by
  rw [Dict.get, lookup_texts]
  cases labels.lookup key with
  | none => simp [Value.str?]
  | some text => simp [Value.str?]

/-- A volume is recognized by its labels. -/
theorem managedForRun_volume {volume : DockerVolume} :
    managedForRun (docker.volumeDocument name volume) runId =
      .ok (decide (Managed runId volume.labels)) := by
  have hdict : ((docker.volumeDocument name volume).get "Labels").orElse (.dict []) =
      .dict (volume.labels.map fun l => (l.1, .str l.2)) := by
    rw [docker.volumeLabels, Value.orElse]
    cases volume.labels <;> rfl
  rw [managedForRun, hdict]
  simp only [Value.dict?, found, ok_bind, get_texts]
  rfl

/-- No container is recognized. -/
theorem managedForRun_container {container : DockerContainer} :
    managedForRun (docker.containerDocument name container) runId = .ok false := by
  rw [managedForRun, docker.containerLabels]
  rfl

/-! ### Calls -/

section Calls

variable {α : Type} {answer : Daemon → Except ApiError (α × Daemon)} {a : α} {after : Daemon}

/-- A call leaves the daemon as it was, or carries out what it answers. -/
theorem dockerCall_state (answer : Daemon → Except ApiError (α × Daemon)) (daemon : Daemon) :
    (dockerCall answer daemon).2 = daemon.next ∨
    ∃ a after, answer daemon.next = .ok (a, after) ∧ (dockerCall answer daemon).2 = after := by
  rw [dockerCall]
  cases hanswer : answer daemon.next with
  | error e => cases daemon.faults.head?.join <;> exact .inl rfl
  | ok result =>
    obtain ⟨a, after⟩ := result
    cases daemon.faults.head?.join with
    | none => exact .inr ⟨a, after, rfl, rfl⟩
    | some fault =>
      cases hcarried : fault.carriedOut with
      | true => exact .inr ⟨a, after, rfl, by simp [hcarried]⟩
      | false => exact .inl (by simp [hcarried])

/-- A call that returns has been carried out. -/
theorem dockerCall_ok (h : dockerCall answer daemon = (.ok a, after)) :
    answer daemon.next = .ok (a, after) := by
  rw [dockerCall] at h
  cases hanswer : answer daemon.next with
  | error e =>
    rw [hanswer] at h
    cases hfault : daemon.faults.head?.join <;> rw [hfault] at h <;> cases h
  | ok result =>
    rw [hanswer] at h
    cases hfault : daemon.faults.head?.join <;> rw [hfault] at h <;> cases h
    rfl

/-- What is reported missing is missing. -/
theorem dockerCall_notFound {e : ApiError} (h : dockerCall answer daemon = (.error e, after))
    (hmissing : e.notFound = true) : answer daemon.next = .error e ∧ after = daemon.next := by
  rw [dockerCall] at h
  cases hfault : daemon.faults.head?.join with
  | some fault =>
    rw [hfault] at h
    have he : e = ⟨fault.statusCode⟩ := by
      cases hanswer : answer daemon.next <;> rw [hanswer] at h <;> cases h <;> rfl
    rw [he, ApiError.notFound, decide_eq_true_eq] at hmissing
    exact absurd hmissing fault.found
  | none =>
    cases hanswer : answer daemon.next with
    | error e' =>
      rw [hfault, hanswer] at h
      cases h
      exact ⟨rfl, rfl⟩
    | ok result =>
      rw [hfault, hanswer] at h
      cases h

theorem next_of_faultless (h : daemon.faults = []) : daemon.next = daemon := by
  cases daemon
  cases h
  rfl

/-- Without faults, a call does what it answers. -/
theorem dockerCall_of_ok (hfaults : daemon.faults = [])
    (h : answer daemon = .ok (a, after)) : dockerCall answer daemon = (.ok a, after) := by
  rw [dockerCall, next_of_faultless hfaults, h, hfaults]
  rfl

theorem dockerCall_of_error {e : ApiError} (hfaults : daemon.faults = [])
    (h : answer daemon = .error e) : dockerCall answer daemon = (.error e, daemon) := by
  rw [dockerCall, next_of_faultless hfaults, h, hfaults]
  rfl

end Calls

/-! ### What no execution touches -/

/-- A container or volume without the run's labels stays as it is. -/
structure KeepsForeign (runId : UUID) (daemon daemon' : Daemon) : Prop where
  containers : ∀ name c, daemon.containers.lookup name = some c → ¬Managed runId c.labels →
    daemon'.containers.lookup name = some c
  volumes : ∀ name v, daemon.volumes.lookup name = some v → ¬Managed runId v.labels →
    daemon'.volumes.lookup name = some v

/-- Besides, every volume stays. -/
structure Gentle (runId : UUID) (daemon daemon' : Daemon) : Prop where
  containers : ∀ name c, daemon.containers.lookup name = some c → ¬Managed runId c.labels →
    daemon'.containers.lookup name = some c
  volumes : ∀ name v, daemon.volumes.lookup name = some v → daemon'.volumes.lookup name = some v

variable {daemon' daemon'' : Daemon}

theorem Gentle.keepsForeign (h : Gentle runId daemon daemon') :
    KeepsForeign runId daemon daemon' :=
  ⟨h.containers, fun name v hv _ => h.volumes name v hv⟩

theorem Gentle.refl : Gentle runId daemon daemon := ⟨fun _ _ h _ => h, fun _ _ h => h⟩

theorem Gentle.next : Gentle runId daemon daemon.next := ⟨fun _ _ h _ => h, fun _ _ h => h⟩

theorem Gentle.trans (h : Gentle runId daemon daemon') (h' : Gentle runId daemon' daemon'') :
    Gentle runId daemon daemon'' :=
  ⟨fun name c hc hforeign => h'.containers name c (h.containers name c hc hforeign) hforeign,
    fun name v hv => h'.volumes name v (h.volumes name v hv)⟩

theorem KeepsForeign.trans (h : KeepsForeign runId daemon daemon')
    (h' : KeepsForeign runId daemon' daemon'') : KeepsForeign runId daemon daemon'' :=
  ⟨fun name c hc hforeign => h'.containers name c (h.containers name c hc hforeign) hforeign,
    fun name v hv hforeign => h'.volumes name v (h.volumes name v hv hforeign) hforeign⟩

/-- The volume of that name belongs to the run. -/
def HoldsVolume (runId : UUID) (name : String) (daemon : Daemon) : Prop :=
  ∃ v, daemon.volumes.lookup name = some v ∧ Managed runId v.labels

def HoldsContainer (runId : UUID) (name : String) (daemon : Daemon) : Prop :=
  ∃ c, daemon.containers.lookup name = some c ∧ Managed runId c.labels

theorem HoldsVolume.stays (h : HoldsVolume runId name daemon)
    (hgentle : Gentle runId daemon daemon') : HoldsVolume runId name daemon' := by
  obtain ⟨v, hv, hmanaged⟩ := h
  exact ⟨v, hgentle.volumes name v hv, hmanaged⟩

/-- A call is gentle if what it answers is. -/
theorem gentle_dockerCall {α : Type} {answer : Daemon → Except ApiError (α × Daemon)}
    (h : ∀ a after, answer daemon.next = .ok (a, after) → Gentle runId daemon.next after) :
    Gentle runId daemon (dockerCall answer daemon).2 := by
  rcases dockerCall_state answer daemon with hsame | ⟨a, after, hanswer, hafter⟩
  · rw [hsame]
    exact .next
  · rw [hafter]
    exact Gentle.next.trans (h a after hanswer)

theorem gentle_withVolume : Gentle runId daemon (daemon.withVolume name labels) := by
  rw [Daemon.withVolume]
  split
  · exact .refl
  · rename_i hnew
    refine ⟨fun _ _ hc _ => hc, fun other v hv => ?_⟩
    have hne : other ≠ name := by
      rintro rfl
      exact hnew (Finmap.mem_iff.mpr ⟨v, hv⟩)
    rwa [Finmap.lookup_insert_of_ne _ hne]

theorem gentle_withVolumes (mounts : List String) : Gentle runId daemon
    (mounts.foldl (fun daemon volume => daemon.withVolume volume []) daemon) := by
  induction mounts generalizing daemon with
  | nil => exact .refl
  | cons volume mounts ih => exact gentle_withVolume.trans ih

theorem gentle_createVolume : Gentle runId daemon (createVolume name labels daemon).2 := by
  refine gentle_dockerCall fun a after h => ?_
  obtain ⟨-, rfl⟩ := Prod.mk.inj (Except.ok.inj h)
  exact gentle_withVolume

theorem createContainer_answer {container : DockerContainer} {after : Daemon}
    (h : createContainer name container daemon = (.ok (), after)) :
    after.containers.lookup name = some container := by
  have hanswer := dockerCall_ok h
  simp only [bind_eq_ok, pure_eq_ok, Prod.mk.injEq] at hanswer
  obtain ⟨-, -, -, rfl⟩ := hanswer
  exact Finmap.lookup_insert _

theorem gentle_createContainer {container : DockerContainer} :
    Gentle runId daemon (createContainer name container daemon).2 := by
  refine gentle_dockerCall fun a after h => ?_
  simp only [bind_eq_ok, ensure_eq_ok, pure_eq_ok, Prod.mk.injEq] at h
  obtain ⟨-, hnew, -, rfl⟩ := h
  have hmounts : Gentle runId daemon.next _ := gentle_withVolumes container.volumes
  refine ⟨fun other c hc hforeign => ?_, hmounts.volumes⟩
  have hne : other ≠ name := by
    rintro rfl
    exact hnew (Finmap.mem_iff.mpr ⟨c, hc⟩)
  rw [Finmap.lookup_insert_of_ne _ hne]
  exact hmounts.containers other c hc hforeign

/-- The removal of a container of the run. -/
theorem gentle_removeContainer (h : HoldsContainer runId name daemon) :
    Gentle runId daemon (removeContainer name daemon).2 := by
  obtain ⟨own, hown, hmanaged⟩ := h
  refine gentle_dockerCall fun a after hanswer => ?_
  simp only [bind_eq_ok, pure_eq_ok, Prod.mk.injEq] at hanswer
  obtain ⟨-, -, -, rfl⟩ := hanswer
  refine ⟨fun other c hc hforeign => ?_, fun _ _ hv => hv⟩
  have hne : other ≠ name := by
    rintro rfl
    obtain rfl := Option.some.inj (hown.symm.trans hc)
    exact hforeign hmanaged
  exact (Finmap.lookup_erase_ne hne).trans hc

/-- The removal of a volume of the run, which leaves the other volumes alone. -/
theorem keepsForeign_removeVolume (h : HoldsVolume runId name daemon) :
    KeepsForeign runId daemon (removeVolume name daemon).2 ∧
      (removeVolume name daemon).2.containers = daemon.containers ∧
      ∀ other ≠ name, (removeVolume name daemon).2.volumes.lookup other =
        daemon.volumes.lookup other := by
  obtain ⟨own, hown, hmanaged⟩ := h
  rw [removeVolume]
  rcases dockerCall_state _ daemon with hsame | ⟨a, after, hanswer, hafter⟩
  · rw [hsame]
    exact ⟨Gentle.next.keepsForeign, rfl, fun _ _ => rfl⟩
  · rw [hafter]
    simp only [bind_eq_ok, pure_eq_ok, Prod.mk.injEq] at hanswer
    obtain ⟨-, -, -, -, -, rfl⟩ := hanswer
    refine ⟨⟨fun _ _ hc _ => hc, fun other v hv hforeign => ?_⟩, rfl,
      fun other hne => Finmap.lookup_erase_ne hne⟩
    have hne : other ≠ name := by
      rintro rfl
      obtain rfl := Option.some.inj (hown.symm.trans hv)
      exact hforeign hmanaged
    exact (Finmap.lookup_erase_ne hne).trans hv

/-! ### The recovery phase -/

/-- No container is ever reclaimed; where one has the name, the recovery ends. -/
theorem reclaimStaleContainer_spec :
    (reclaimStaleContainer docker runId name daemon).2 = daemon.next ∧
      ((reclaimStaleContainer docker runId name daemon).1 = .ok () → name ∉ daemon.containers) := by
  have hstate : (getContainer name daemon).2 = daemon.next := by
    rcases dockerCall_state _ daemon with hsame | ⟨a, after, hanswer, hafter⟩
    · exact hsame
    · simp only [bind_eq_ok, found_eq_ok, pure_eq_ok, Prod.mk.injEq] at hanswer
      obtain ⟨c, -, -, rfl⟩ := hanswer
      exact hafter
  rw [reclaimStaleContainer, Attempt.bind_of_ok (Attempt.result_apply), hstate]
  cases hfound : (getContainer name daemon).1 with
  | ok container =>
    simp only [managedForRun_container]
    exact ⟨rfl, fun hok => by cases hok⟩
  | error e =>
    refine ⟨rfl, fun hok => ?_⟩
    have hmissing := (dockerCall_notFound (Prod.ext hfound hstate) (ensure_eq_ok.mp hok)).1
    intro hmem
    obtain ⟨c, hc⟩ := Finmap.mem_iff.mp hmem
    rw [show daemon.next.containers.lookup name = some c from hc] at hmissing
    cases hmissing

theorem getVolume_state : (getVolume name daemon).2 = daemon.next := by
  rcases dockerCall_state _ daemon with hsame | ⟨a, after, hanswer, hafter⟩
  · exact hsame
  · simp only [bind_eq_ok, found_eq_ok, pure_eq_ok, Prod.mk.injEq] at hanswer
    obtain ⟨v, -, -, rfl⟩ := hanswer
    exact hafter

theorem reclaimStaleVolume_eq : reclaimStaleVolume docker runId name daemon =
    match (getVolume name daemon).1 with
    | .error e => (ensure (e.notFound = true)
        (isolatedError "container executor cannot inspect stale volumes"), daemon.next)
    | .ok volume =>
      if Managed runId volume.labels then
        ((removeVolume name daemon.next).1.mapError fun _ =>
          isolatedError "container executor cannot reclaim a stale volume",
          (removeVolume name daemon.next).2)
      else (.error (isolatedError "container executor volume name is already reserved"),
        daemon.next) := by
  rw [reclaimStaleVolume, Attempt.bind_of_ok (Attempt.result_apply), getVolume_state]
  cases (getVolume name daemon).1 with
  | error e => rfl
  | ok volume =>
    simp only [managedForRun_volume]
    by_cases hmanaged : Managed runId volume.labels
    · rw [if_pos hmanaged, decide_eq_true hmanaged]
      rfl
    · rw [if_neg hmanaged, decide_eq_false hmanaged]
      rfl

theorem removeVolume_ok {after : Daemon} (h : removeVolume name daemon = (.ok (), after)) :
    name ∉ after.volumes := by
  have hanswer := dockerCall_ok h
  simp only [bind_eq_ok, pure_eq_ok, Prod.mk.injEq] at hanswer
  obtain ⟨-, -, -, -, -, rfl⟩ := hanswer
  rw [Finmap.mem_erase]
  exact fun hmem => hmem.1 rfl

/-- What a reclaim leaves alone, and that it makes room for a volume. -/
structure Reclaims (runId : UUID) (name : String) (daemon : Daemon)
    (reply : Except WorkerError Unit × Daemon) : Prop where
  kept : KeepsForeign runId daemon reply.2
  containers : reply.2.containers = daemon.containers
  others : ∀ other ≠ name, reply.2.volumes.lookup other = daemon.volumes.lookup other
  room : reply.1 = .ok () → name ∉ reply.2.volumes

/-- A volume of the run is reclaimed, a foreign one ends the recovery. -/
theorem reclaims_volume :
    Reclaims runId name daemon (reclaimStaleVolume docker runId name daemon) := by
  rw [reclaimStaleVolume_eq]
  cases hfound : (getVolume name daemon).1 with
  | error e =>
    refine ⟨Gentle.next.keepsForeign, rfl, fun _ _ => rfl, fun hok => ?_⟩
    have hmissing := (dockerCall_notFound (Prod.ext hfound getVolume_state)
      (ensure_eq_ok.mp hok)).1
    intro hmem
    obtain ⟨v, hv⟩ := Finmap.mem_iff.mp hmem
    rw [show daemon.next.volumes.lookup name = some v from hv] at hmissing
    cases hmissing
  | ok volume =>
    have hanswer := dockerCall_ok (Prod.ext hfound getVolume_state)
    simp only [bind_eq_ok, found_eq_ok, pure_eq_ok, Prod.mk.injEq] at hanswer
    obtain ⟨own, hv, rfl, -⟩ := hanswer
    by_cases hmanaged : Managed runId own.labels
    · simp only [if_pos hmanaged]
      obtain ⟨hkept, hcontainers, hothers⟩ := keepsForeign_removeVolume ⟨own, hv, hmanaged⟩
      refine ⟨Gentle.next.keepsForeign.trans hkept, hcontainers, hothers, fun hok => ?_⟩
      rw [mapError_eq_ok] at hok
      exact removeVolume_ok (Prod.ext hok rfl)
    · simp only [if_neg hmanaged]
      exact ⟨Gentle.next.keepsForeign, rfl, fun _ _ => rfl, fun hok => by cases hok⟩

theorem inputVolumeName_ne : inputVolumeName runId ≠ volumeName runId := by
  intro h
  have hlength := congrArg String.length h
  rw [inputVolumeName, String.length_append] at hlength
  have hsuffix : ("-input" : String).length = 6 := rfl
  omega

theorem reclaims_resources :
    Reclaims runId name daemon (reclaimStaleResources docker runId name daemon) := by
  rw [reclaimStaleResources]
  cases hcontainer : reclaimStaleContainer docker runId name daemon with
  | mk outcome daemon' =>
    have hstate : daemon' = daemon.next := by
      rw [← reclaimStaleContainer_spec.1, hcontainer]
    cases outcome with
    | error e =>
      rw [Attempt.bind_of_error hcontainer, hstate]
      exact ⟨Gentle.next.keepsForeign, rfl, fun _ _ => rfl, nofun⟩
    | ok _ =>
      rw [Attempt.bind_of_ok hcontainer, hstate]
      have hvolume : Reclaims runId name daemon.next (reclaimStaleVolume docker runId name _) :=
        reclaims_volume
      exact ⟨Gentle.next.keepsForeign.trans hvolume.kept, hvolume.containers, hvolume.others,
        hvolume.room⟩

/-- What the recovery phase leaves alone, and that it makes room for the volumes. -/
theorem recoverStaleResources_spec :
    KeepsForeign runId daemon (recoverStaleResources docker runId daemon).2 ∧
      ((recoverStaleResources docker runId daemon).1 = .ok () →
        volumeName runId ∉ (recoverStaleResources docker runId daemon).2.volumes ∧
          inputVolumeName runId ∉ (recoverStaleResources docker runId daemon).2.volumes) := by
  have hfirst : Reclaims runId (volumeName runId) daemon
    (reclaimStaleResources docker runId _ daemon) := reclaims_resources
  rw [recoverStaleResources]
  cases hrun : reclaimStaleResources docker runId (volumeName runId) daemon with
  | mk outcome daemon' =>
    rw [hrun] at hfirst
    cases outcome with
    | error e =>
      rw [Attempt.bind_of_error hrun]
      exact ⟨hfirst.kept, nofun⟩
    | ok _ =>
      rw [Attempt.bind_of_ok hrun]
      have hsecond : Reclaims runId (inputVolumeName runId) daemon'
        (reclaimStaleResources docker runId _ daemon') := reclaims_resources
      refine ⟨hfirst.kept.trans hsecond.kept, fun hok => ⟨?_, hsecond.room hok⟩⟩
      rw [← Finmap.lookup_eq_none, hsecond.others _ inputVolumeName_ne.symm,
        Finmap.lookup_eq_none]
      exact hfirst.room rfl

/-! ### A whole execution -/

/-- What `execute` holds belongs to the run, and nothing foreign has been touched. -/
structure Sound (runId : UUID) (before : Daemon) (s : Execution) : Prop where
  kept : KeepsForeign runId before s.daemon
  container : s.container = true → HoldsContainer runId (volumeName runId) s.daemon
  volume : s.volume = true → HoldsVolume runId (volumeName runId) s.daemon
  inputVolume : s.inputVolume = true → HoldsVolume runId (inputVolumeName runId) s.daemon

variable {before : Daemon} {s : Execution}

/-- Before the container of the run is created, a gentle phase keeps the invariant. -/
theorem Sound.phase {α : Type} {phase : String} {x : Attempt Daemon WorkerError α}
    (hx : ∀ daemon, Gentle runId daemon (x daemon).2) :
    Attempt.Keeps (fun s => Sound runId before s ∧ s.container = false)
      (containerPhase phase x) := by
  rintro s ⟨hs, hcontainer⟩
  have hgentle := hx s.daemon
  exact ⟨⟨hs.kept.trans hgentle.keepsForeign,
    fun h => absurd (hcontainer.symm.trans h) Bool.false_ne_true,
    fun h => (hs.volume h).stays hgentle, fun h => (hs.inputVolume h).stays hgentle⟩, hcontainer⟩

theorem putArchive_state : (putArchive name daemon).2 = daemon.next := by
  rcases dockerCall_state _ daemon with hsame | ⟨a, after, hanswer, hafter⟩
  · exact hsame
  · simp only [bind_eq_ok, pure_eq_ok, Prod.mk.injEq] at hanswer
    obtain ⟨-, -, -, rfl⟩ := hanswer
    exact hafter

/-- The staging container is created, used and removed again. -/
theorem gentle_stageSnapshot {archive : Except WorkerError Unit} :
    Gentle runId daemon (stageSnapshot runId archive daemon).2 := by
  rw [stageSnapshot]
  have hgentle : Gentle runId daemon
    (createContainer (inputVolumeName runId) (stagingContainer runId) daemon).2 :=
    gentle_createContainer
  cases hcreate : createContainer (inputVolumeName runId) (stagingContainer runId) daemon with
  | mk outcome created =>
    rw [hcreate] at hgentle
    cases outcome with
    | error e =>
      rw [Attempt.bind_of_error (by rw [Attempt.mapError_apply, hcreate]; rfl)]
      exact hgentle
    | ok _ =>
      rw [Attempt.bind_of_ok (by rw [Attempt.mapError_apply, hcreate]; rfl), Attempt.lastly_apply]
      have hown : HoldsContainer runId (inputVolumeName runId) created :=
        ⟨_, createContainer_answer hcreate, managed_runLabels _⟩
      have hput : Attempt.Keeps (fun d => Gentle runId daemon d ∧
          HoldsContainer runId (inputVolumeName runId) d) (putArchive (inputVolumeName runId)) := by
        rintro d ⟨hd, held⟩
        rw [putArchive_state]
        exact ⟨hd.trans .next, held⟩
      have hstaged := (Attempt.keeps_lift (y := archive)).bind fun _ =>
        (hput.mapError (g := ApiError.worker)).bind fun accepted => Attempt.keeps_lift
          (y := ensure (accepted = true)
            (isolatedError "container executor rejected the Run Snapshot"))
      obtain ⟨hbefore, hheld⟩ := hstaged created ⟨hgentle, hown⟩
      exact hbefore.trans (gentle_removeContainer hheld)

/-- A volume that is created anew belongs to the run, and the others are the same. -/
theorem createVolume_ok {more : Labels} {after : Daemon}
    (h : createVolume name (runLabels runId ++ more) daemon = (.ok (), after))
    (hnew : name ∉ daemon.volumes) : HoldsVolume runId name after ∧
      ∀ other ≠ name, after.volumes.lookup other = daemon.volumes.lookup other := by
  obtain rfl := (Prod.mk.inj (Except.ok.inj (dockerCall_ok h))).2
  rw [Daemon.withVolume, if_neg (show name ∉ daemon.next.volumes from hnew)]
  exact ⟨⟨_, Finmap.lookup_insert _, managed_runLabels _⟩,
    fun other hne => Finmap.lookup_insert_of_ne _ hne⟩

/-- Nothing is held yet, and nothing foreign has been touched. -/
structure Unheld (runId : UUID) (before : Daemon) (s : Execution) : Prop where
  kept : KeepsForeign runId before s.daemon
  container : s.container = false
  volume : s.volume = false
  inputVolume : s.inputVolume = false

theorem Unheld.sound (h : Unheld runId before s) : Sound runId before s :=
  ⟨h.kept, fun hc => absurd (h.container.symm.trans hc) Bool.false_ne_true,
    fun hv => absurd (h.volume.symm.trans hv) Bool.false_ne_true,
    fun hi => absurd (h.inputVolume.symm.trans hi) Bool.false_ne_true⟩

/-- A phase that returns has carried out its call. -/
theorem containerPhase_ok {α : Type} {phase : String} {x : Attempt Daemon ApiError α} {a : α}
    (h : (containerPhase phase (x.mapError ApiError.worker) s).1 = .ok a) :
    x s.daemon = (.ok a, (containerPhase phase (x.mapError ApiError.worker) s).2.daemon) := by
  refine Prod.ext ?_ rfl
  exact mapError_eq_ok.mp (mapError_eq_ok.mp h)

theorem recovery_phase : Attempt.Ensures (Unheld runId before)
    (containerPhase "stale-resource-recovery" (recoverStaleResources docker runId))
    fun outcome s => Unheld runId before s ∧ (outcome = .ok () →
      volumeName runId ∉ s.daemon.volumes ∧ inputVolumeName runId ∉ s.daemon.volumes) := by
  intro s hs
  have hspec : KeepsForeign runId s.daemon (recoverStaleResources docker runId _).2 ∧ _ :=
    recoverStaleResources_spec
  exact ⟨⟨hs.kept.trans hspec.1, hs.container, hs.volume, hs.inputVolume⟩,
    fun hok => hspec.2 (mapError_eq_ok.mp hok)⟩

theorem volume_phase : Attempt.Ensures
    (fun s => Unheld runId before s ∧ volumeName runId ∉ s.daemon.volumes ∧
      inputVolumeName runId ∉ s.daemon.volumes)
    (containerPhase "workspace-volume"
      ((createVolume (volumeName runId) (runLabels runId)).mapError ApiError.worker))
    fun outcome s => Unheld runId before s ∧ (outcome = .ok () →
      HoldsVolume runId (volumeName runId) s.daemon ∧
        inputVolumeName runId ∉ s.daemon.volumes) := by
  rintro s ⟨hs, hroom, hinput⟩
  have hkept : Gentle runId s.daemon
    (createVolume (volumeName runId) (runLabels runId) s.daemon).2 := gentle_createVolume
  refine ⟨⟨hs.kept.trans hkept.keepsForeign, hs.container, hs.volume, hs.inputVolume⟩,
    fun hok => ?_⟩
  have hcreate := containerPhase_ok hok
  rw [← List.append_nil (runLabels runId)] at hcreate
  obtain ⟨hheld, hothers⟩ := createVolume_ok hcreate hroom
  rw [List.append_nil] at hheld hothers
  refine ⟨hheld, ?_⟩
  rwa [← Finmap.lookup_eq_none, hothers _ inputVolumeName_ne, Finmap.lookup_eq_none]

theorem inputVolume_phase : Attempt.Ensures
    (fun s => (Sound runId before s ∧ s.container = false) ∧
      inputVolumeName runId ∉ s.daemon.volumes)
    (containerPhase "workspace-volume" ((createVolume (inputVolumeName runId)
      (runLabels runId ++ [("io.testops.purpose", "snapshot-input")])).mapError ApiError.worker))
    fun outcome s => (Sound runId before s ∧ s.container = false) ∧ (outcome = .ok () →
      HoldsVolume runId (inputVolumeName runId) s.daemon) := by
  rintro s ⟨hs, hroom⟩
  exact ⟨Sound.phase (fun _ => gentle_createVolume) s hs,
    fun hok => (createVolume_ok (containerPhase_ok hok) hroom).1⟩

theorem container_phase : Attempt.Ensures (fun s => Sound runId before s ∧ s.container = false)
    (containerPhase "container-create"
      ((createContainer (volumeName runId) (runContainer runId)).mapError ApiError.worker))
    fun outcome s => Sound runId before s ∧ (outcome = .ok () →
      HoldsContainer runId (volumeName runId) s.daemon) := by
  intro s hs
  exact ⟨(Sound.phase (fun _ => gentle_createContainer) s hs).1, fun hok =>
    ⟨_, createContainer_answer (containerPhase_ok hok), managed_runLabels []⟩⟩

/-- Up to its container, an execution touches nothing foreign. -/
theorem createRun_sound : Attempt.Ensures (Unheld runId before) (createRun docker work runId)
    fun _ => Sound runId before := by
  have hstage : Attempt.Keeps (fun s => Sound runId before s ∧ s.container = false)
      (containerPhase "snapshot-import" (stageSnapshot runId work.archive)) :=
    Sound.phase fun _ => gentle_stageSnapshot
  have hoptions : Attempt.Keeps (fun s => Sound runId before s ∧ s.container = false)
      (containerPhase "snapshot-import" (Attempt.lift work.options)) :=
    Sound.phase fun _ => .refl
  rw [createRun]
  refine recovery_phase.bind (fun _ => ?_) fun e s h => h.1.sound
  refine (volume_phase.consequence (fun s h => ⟨h.1, h.2 rfl⟩) fun _ _ h => h).bind (fun _ => ?_)
    fun e s h => h.1.sound
  refine .modify_bind (inputVolume_phase.bind (fun _ => ?_) fun e s h => h.1.1) ?_
  · refine .modify_bind (.bind hstage (fun _ => .bind hoptions (fun _ =>
      container_phase.bind (fun _ => ?_) fun e s h => h.1) fun e s h => h.1) fun e s h => h.1) ?_
    · rintro s ⟨hs, hheld⟩
      exact ⟨hs.kept, fun _ => hheld rfl, hs.volume, hs.inputVolume⟩
    · rintro s ⟨⟨hs, hcontainer⟩, hinput⟩
      exact ⟨⟨hs.kept, hs.container, hs.volume, fun _ => hinput rfl⟩, hcontainer⟩
  · rintro s ⟨hs, hvolume⟩
    obtain ⟨hheld, hroom⟩ := hvolume rfl
    exact ⟨⟨⟨hs.kept, hs.sound.container, fun _ => hheld, hs.sound.inputVolume⟩, hs.container⟩,
      hroom⟩

/-- The last block removes what is held. -/
theorem releaseAll_keepsForeign (hs : Sound runId before s) :
    KeepsForeign runId before (releaseAll runId s).2.daemon := by
  have hcontainer : Attempt.Ensures (Sound runId before)
      (release Execution.container (removeContainer (volumeName runId)))
      fun _ s => KeepsForeign runId before s.daemon ∧
        (s.volume = true → HoldsVolume runId (volumeName runId) s.daemon) ∧
        (s.inputVolume = true → HoldsVolume runId (inputVolumeName runId) s.daemon) := by
    intro s hs
    simp only [release]
    split
    · rename_i hheld
      have hgentle := gentle_removeContainer (hs.container hheld)
      exact ⟨hs.kept.trans hgentle.keepsForeign, fun h => (hs.volume h).stays hgentle,
        fun h => (hs.inputVolume h).stays hgentle⟩
    · exact ⟨hs.kept, hs.volume, hs.inputVolume⟩
  have hvolume : Attempt.Ensures
      (fun s => KeepsForeign runId before s.daemon ∧
        (s.volume = true → HoldsVolume runId (volumeName runId) s.daemon) ∧
        (s.inputVolume = true → HoldsVolume runId (inputVolumeName runId) s.daemon))
      (release Execution.volume (removeVolume (volumeName runId)))
      fun _ s => KeepsForeign runId before s.daemon ∧
        (s.inputVolume = true → HoldsVolume runId (inputVolumeName runId) s.daemon) := by
    rintro s ⟨hkept, hvolume, hinput⟩
    simp only [release]
    split
    · rename_i hheld
      obtain ⟨hremoved, -, hothers⟩ := keepsForeign_removeVolume (hvolume hheld)
      refine ⟨hkept.trans hremoved, fun h => ?_⟩
      obtain ⟨own, hown, hmanaged⟩ := hinput h
      exact ⟨own, (hothers _ inputVolumeName_ne).trans hown, hmanaged⟩
    · exact ⟨hkept, hinput⟩
  have hinput : Attempt.Ensures
      (fun s => KeepsForeign runId before s.daemon ∧
        (s.inputVolume = true → HoldsVolume runId (inputVolumeName runId) s.daemon))
      (release Execution.inputVolume (removeVolume (inputVolumeName runId)))
      fun _ s => KeepsForeign runId before s.daemon := by
    rintro s ⟨hkept, hinput⟩
    simp only [release]
    split
    · rename_i hheld
      exact hkept.trans (keepsForeign_removeVolume (hinput hheld)).1
    · exact hkept
  exact (hcontainer.bind (fun _ => hvolume.bind (fun _ => hinput) fun e s h => h.1)
    fun e s h => h.1) s hs

/-- Whatever fails in it, an execution touches nothing that does not carry the run's labels. -/
theorem execute_keepsForeign : KeepsForeign runId daemon (execute docker work runId daemon).2 := by
  have hunheld : Unheld runId daemon ⟨daemon, false, false, false⟩ :=
    ⟨Gentle.refl.keepsForeign, rfl, rfl, rfl⟩
  have hbody : Attempt.Ensures (Unheld runId daemon)
      (createRun docker work runId >>= fun _ => Attempt.lift work.run)
      fun _ => Sound runId daemon :=
    createRun_sound.bind (fun _ => Attempt.keeps_lift) fun _ _ h => h
  exact releaseAll_keepsForeign (hbody _ hunheld)

/-! ### Leftovers -/

/-- What an execution that was cut off has left behind. -/
structure Leftovers where
  container : Bool
  staging : Bool
  volume : Bool
  inputVolume : Bool
  deriving DecidableEq

/-- The daemon has nothing of the run, and answers. -/
structure Clean (runId : UUID) (base : Daemon) : Prop where
  container : volumeName runId ∉ base.containers
  staging : inputVolumeName runId ∉ base.containers
  volume : volumeName runId ∉ base.volumes
  inputVolume : inputVolumeName runId ∉ base.volumes
  volumeFree : ¬base.inUse (volumeName runId)
  inputVolumeFree : ¬base.inUse (inputVolumeName runId)
  answers : base.faults = []

/-- A resource that may have been left behind. -/
def leave {β : Type} (left : Bool) (name : String) (b : β)
    (resources : Finmap fun _ : String => β) : Finmap fun _ : String => β :=
  if left then resources.insert name b else resources

/-- The daemon with what the run has left in it. -/
def Leftovers.leftIn (left : Leftovers) (runId : UUID) (base : Daemon) : Daemon where
  containers := leave left.container (volumeName runId) (runContainer runId)
    (leave left.staging (inputVolumeName runId) (stagingContainer runId) base.containers)
  volumes := leave left.volume (volumeName runId) ⟨runLabels runId⟩
    (leave left.inputVolume (inputVolumeName runId)
      ⟨runLabels runId ++ [("io.testops.purpose", "snapshot-input")]⟩ base.volumes)
  faults := base.faults

/-- The next execution takes away exactly the leftovers, and goes on as without them. -/
structure Recovers (docker : Inspection) (work : ContainerWork) (runId : UUID)
    (base found : Daemon) : Prop where
  reclaimed : recoverStaleResources docker runId found = (.ok (), base)
  proceeds : execute docker work runId found = execute docker work runId base

variable {left : Leftovers} {base : Daemon}

theorem reclaimStaleContainer_absent (hfaults : daemon.faults = []) (h : name ∉ daemon.containers) :
    reclaimStaleContainer docker runId name daemon = (.ok (), daemon) := by
  have hget : getContainer name daemon = (.error ⟨some 404⟩, daemon) :=
    dockerCall_of_error hfaults (by rw [Finmap.lookup_eq_none.mpr h]; rfl)
  rw [reclaimStaleContainer, Attempt.bind_of_ok Attempt.result_apply, hget]
  rfl

theorem reclaimStaleVolume_absent (hfaults : daemon.faults = []) (h : name ∉ daemon.volumes) :
    reclaimStaleVolume docker runId name daemon = (.ok (), daemon) := by
  have hget : getVolume name daemon = (.error ⟨some 404⟩, daemon) :=
    dockerCall_of_error hfaults (by rw [Finmap.lookup_eq_none.mpr h]; rfl)
  rw [reclaimStaleVolume_eq, hget, next_of_faultless hfaults]
  rfl

/-- A volume of the run that nothing uses is taken away. -/
theorem reclaimStaleVolume_present {volume : DockerVolume} (hfaults : daemon.faults = [])
    (h : daemon.volumes.lookup name = some volume) (hmanaged : Managed runId volume.labels)
    (hfree : ¬daemon.inUse name) : reclaimStaleVolume docker runId name daemon =
      (.ok (), { daemon with volumes := daemon.volumes.erase name }) := by
  have hget : getVolume name daemon = (.ok volume, daemon) :=
    dockerCall_of_ok hfaults (by rw [h]; rfl)
  have hremove : removeVolume name daemon =
      (.ok (), { daemon with volumes := daemon.volumes.erase name }) := by
    refine dockerCall_of_ok hfaults ?_
    rw [ensure_true (Finmap.mem_iff.mpr ⟨volume, h⟩), ok_bind, ensure_true hfree, ok_bind]
    rfl
  rw [reclaimStaleVolume_eq, hget, next_of_faultless hfaults]
  simp only [if_pos hmanaged, hremove]
  rfl

theorem erase_leave {β : Type} {b : β} {resources : Finmap fun _ : String => β}
    (h : name ∉ resources) : (resources.insert name b).erase name = resources := by
  refine Finmap.ext_lookup fun other => ?_
  by_cases hne : other = name
  · rw [hne, Finmap.lookup_erase, Finmap.lookup_eq_none.mpr h]
  · rw [Finmap.lookup_erase_ne hne, Finmap.lookup_insert_of_ne _ hne]

/-- The daemon with other volumes. -/
def Daemon.having (base : Daemon) (volumes : Finmap fun _ : String => DockerVolume) : Daemon :=
  { base with volumes := volumes }

/-- Without a container of that name, a volume that may have been left behind is taken away. -/
theorem reclaimStaleResources_left {volumes : Finmap fun _ : String => DockerVolume} {there : Bool}
    (hfaults : base.faults = []) (hcontainer : name ∉ base.containers) (hfree : ¬base.inUse name)
    (hnew : name ∉ volumes) (hmanaged : Managed runId labels) :
    reclaimStaleResources docker runId name (base.having (leave there name ⟨labels⟩ volumes)) =
      (.ok (), base.having volumes) := by
  have hgone : reclaimStaleContainer docker runId name
      (base.having (leave there name ⟨labels⟩ volumes)) = (.ok (), _) :=
    reclaimStaleContainer_absent hfaults hcontainer
  rw [reclaimStaleResources, Attempt.bind_of_ok hgone]
  cases there with
  | true =>
    have hpresent : reclaimStaleVolume docker runId name
        (base.having (volumes.insert name ⟨labels⟩)) = (.ok (), _) :=
      reclaimStaleVolume_present hfaults (Finmap.lookup_insert _) hmanaged hfree
    refine hpresent.trans ?_
    rw [Daemon.having, Daemon.having, erase_leave hnew]
  | false => exact reclaimStaleVolume_absent hfaults hnew

theorem not_mem_leave {β : Type} {b : β} {resources : Finmap fun _ : String => β} {there : Bool}
    {other : String} (h : name ∉ resources) (hne : name ≠ other) :
    name ∉ leave there other b resources := by
  cases there with
  | true => exact fun hmem => (Finmap.mem_insert.mp hmem).elim hne h
  | false => exact h

/-- Volumes alone are taken away. -/
theorem recover_volumes (hbase : Clean runId base) (hcontainer : left.container = false)
    (hstaging : left.staging = false) :
    recoverStaleResources docker runId (left.leftIn runId base) = (.ok (), base) := by
  have hleft : left.leftIn runId base = base.having
      (leave left.volume (volumeName runId) ⟨runLabels runId⟩
        (leave left.inputVolume (inputVolumeName runId)
          ⟨runLabels runId ++ [("io.testops.purpose", "snapshot-input")]⟩ base.volumes)) := by
    rw [Leftovers.leftIn, hcontainer, hstaging]
    rfl
  rw [hleft, recoverStaleResources]
  refine (Attempt.bind_of_ok (reclaimStaleResources_left hbase.answers hbase.container
    hbase.volumeFree (not_mem_leave hbase.volume inputVolumeName_ne.symm)
    (managed_runLabels []))).trans ?_
  exact reclaimStaleResources_left hbase.answers hbase.staging hbase.inputVolumeFree
    hbase.inputVolume (managed_runLabels _)

/-- A reclaim that succeeds has found no container of that name. -/
theorem no_container_of_reclaimed {after : Daemon}
    (h : reclaimStaleResources docker runId name daemon = (.ok (), after)) :
    name ∉ daemon.containers ∧ after.containers = daemon.containers := by
  have hreclaims : Reclaims runId name daemon (reclaimStaleResources docker runId name daemon) :=
    reclaims_resources
  obtain ⟨_, between, hcontainer, -⟩ := Attempt.bind_ok h
  refine ⟨reclaimStaleContainer_spec.2 (by rw [hcontainer]), ?_⟩
  rw [← hreclaims.containers, h]

/-- Recovery succeeds only without a container and a staging container. -/
theorem no_container_of_recovered {after : Daemon}
    (h : recoverStaleResources docker runId (left.leftIn runId base) = (.ok (), after)) :
    left.container = false ∧ left.staging = false := by
  obtain ⟨_, between, hfirst, hsecond⟩ := Attempt.bind_ok h
  obtain ⟨hcontainer, hsame⟩ := no_container_of_reclaimed hfirst
  obtain ⟨hstaging, -⟩ := no_container_of_reclaimed hsecond
  rw [hsame] at hstaging
  constructor
  · by_contra hleft
    rw [Leftovers.leftIn, eq_true_of_ne_false hleft] at hcontainer
    exact hcontainer (Finmap.mem_insert.mpr (.inl rfl))
  · by_contra hleft
    rw [Leftovers.leftIn, eq_true_of_ne_false hleft] at hstaging
    refine hstaging ?_
    have hmem : inputVolumeName runId ∈ leave true (inputVolumeName runId) (stagingContainer runId)
      base.containers := Finmap.mem_insert.mpr (.inl rfl)
    cases left.container with
    | true => exact Finmap.mem_insert.mpr (.inr hmem)
    | false => exact hmem

/-- Recovery succeeds exactly without a container of the run. What carries other labels is never
    touched, whatever is left and whatever fails. -/
theorem leftovers_reclaimed_iff (hbase : Clean runId base) :
    (Recovers docker work runId base (left.leftIn runId base) ∧
      ∀ daemon, KeepsForeign runId daemon (execute docker work runId daemon).2) ↔
    left.container = false ∧ left.staging = false := by
  constructor
  · rintro ⟨hrecovers, -⟩
    exact no_container_of_recovered hrecovers.reclaimed
  · rintro ⟨hcontainer, hstaging⟩
    have hleft : recoverStaleResources docker runId (left.leftIn runId base) = (.ok (), base) :=
      recover_volumes hbase hcontainer hstaging
    have hclean : recoverStaleResources docker runId base = (.ok (), base) := by
      have hnothing : ((⟨false, false, false, false⟩ : Leftovers).leftIn runId base) = base := rfl
      rw [← hnothing]
      exact recover_volumes hbase rfl rfl
    refine ⟨⟨hleft, ?_⟩, fun _ => execute_keepsForeign⟩
    have hphase : ∀ found, recoverStaleResources docker runId found = (.ok (), base) →
        containerPhase "stale-resource-recovery" (recoverStaleResources docker runId)
          ⟨found, false, false, false⟩ = (.ok (), ⟨base, false, false, false⟩) := by
      intro found hfound
      rw [containerPhase, hfound]
      rfl
    have hcreate : createRun docker work runId ⟨left.leftIn runId base, false, false, false⟩ =
        createRun docker work runId ⟨base, false, false, false⟩ := by
      rw [createRun, Attempt.bind_of_ok (hphase _ hleft), Attempt.bind_of_ok (hphase _ hclean)]
    have hbody : (createRun docker work runId >>= fun _ => Attempt.lift work.run)
        ⟨left.leftIn runId base, false, false, false⟩ =
        (createRun docker work runId >>= fun _ => Attempt.lift work.run)
          ⟨base, false, false, false⟩ := by
      cases hrun : createRun docker work runId ⟨base, false, false, false⟩ with
      | mk outcome s =>
        cases outcome with
        | ok _ => rw [Attempt.bind_of_ok (hcreate.trans hrun), Attempt.bind_of_ok hrun]
        | error e => rw [Attempt.bind_of_error (hcreate.trans hrun), Attempt.bind_of_error hrun]
    simp only [execute, Attempt.lastly_apply, hbody]

/-! ### A run that was cut off -/

/-- Documents with nothing but a name and the labels. -/
def plainDocker : Inspection where
  containerDocument name c := [("Name", .str name),
    ("Config", .dict [("Labels", .dict (c.labels.map fun l => (l.1, .str l.2)))])]
  volumeDocument name v := [("Name", .str name),
    ("Labels", .dict (v.labels.map fun l => (l.1, .str l.2)))]
  containerConfig _ _ := rfl
  containerLabels _ _ := rfl
  volumeLabels _ _ := rfl

def idleDaemon : Daemon := ⟨∅, ∅, []⟩

theorem idleDaemon_clean : Clean 7 idleDaemon where
  container := Finmap.notMem_empty
  staging := Finmap.notMem_empty
  volume := Finmap.notMem_empty
  inputVolume := Finmap.notMem_empty
  volumeFree := fun ⟨_, hmem, _⟩ => Finmap.notMem_empty (Finmap.mem_keys.mp hmem)
  inputVolumeFree := fun ⟨_, hmem, _⟩ => Finmap.notMem_empty (Finmap.mem_keys.mp hmem)
  answers := rfl

/-- The container exits without a result. -/
def failingWork : ContainerWork where
  archive := .ok ()
  options := .ok ()
  run := .error (isolatedError "container executor exited without a result (code 1)")

/-- A run that was cut off before its staging container was created starts again. -/
theorem volumes_reclaimed : Recovers plainDocker failingWork 7 idleDaemon
    ((⟨false, false, true, true⟩ : Leftovers).leftIn 7 idleDaemon) :=
  ((leftovers_reclaimed_iff idleDaemon_clean).mpr ⟨rfl, rfl⟩).1

/-- A run that was cut off while its container was running never starts again. -/
theorem container_not_reclaimed : ¬Recovers plainDocker failingWork 7 idleDaemon
    ((⟨true, false, true, true⟩ : Leftovers).leftIn 7 idleDaemon) := by
  intro h
  cases (no_container_of_recovered h.reclaimed).1

end TestOps.Containers
