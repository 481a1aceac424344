import TestOps.Contracts.Uuids
import TestOps.Lib.Json
import TestOps.Worker.LiveView

/-! Live-view tickets. Between any two commands of the three processes:

      session keys   hold documents of registrations of their own run
      ticket keys    hold records of tickets that were issued and not taken yet
      a taken one    is in the hands of one call, or opened, and its key stays empty

    So a ticket opens a view once at most, and the view is of the session it was issued for, as far as
    that is still published when the gateway looks it up. -/

namespace TestOps

open Checked Transition

variable {codec : LiveViewCodec} {s s' : LiveViewState}

/-- The ticket that a digest and a record stand for. -/
def LiveViewState.Issued (codec : LiveViewCodec) (s : LiveViewState) (digest : String)
    (record : LiveViewTicketRecord) : Prop :=
  ∃ ticket ∈ s.tickets, codec.sha256Hexdigest ticket.ticket = digest ∧
    ticket.registration.ticketRecord = record

/-- The digests of the tickets that have been taken and are not dropped. -/
def LiveViewState.taken (codec : LiveViewCodec) (s : LiveViewState) : List String :=
  s.consuming.map (codec.sha256Hexdigest ∘ TicketUse.ticket) ++
    s.opened.map (codec.sha256Hexdigest ∘ Prod.fst)

/-- What holds between any two commands. -/
structure LiveViewSound (codec : LiveViewCodec) (s : LiveViewState) : Prop where
  sessions : ∀ runId document, s.redis (.session runId) = some document →
    ∃ registration : LiveViewRegistration, registration.runId = runId ∧
      document = codec.registrationJson registration
  stored : ∀ digest document, s.redis (.ticket digest) = some document →
    ∃ record, document = codec.ticketJson record ∧ s.Issued codec digest record
  drawn : ∀ ticket ∈ s.tickets, codec.sha256Hexdigest ticket.ticket ∈ s.drawn
  ofRun : (∀ issue ∈ s.issuing, issue.registration.runId = issue.runId) ∧
    ∀ ticket ∈ s.tickets, ticket.registration.runId = ticket.runId
  takenOnce : (s.taken codec).Nodup
  takenGone : ∀ digest ∈ s.taken codec, s.redis (.ticket digest) = none ∧ digest ∈ s.drawn
  consuming : ∀ use ∈ s.consuming, s.Issued codec (codec.sha256Hexdigest use.ticket) use.record
  opened : ∀ view ∈ s.opened,
    s.Issued codec (codec.sha256Hexdigest view.1) view.2.ticketRecord

theorem liveViewSound_init : LiveViewSound codec .init where
  sessions _ _ h := by cases h
  stored _ _ h := by cases h
  drawn := List.forall_mem_nil _
  ofRun := ⟨List.forall_mem_nil _, List.forall_mem_nil _⟩
  takenOnce := List.nodup_nil
  takenGone := List.forall_mem_nil _
  consuming := List.forall_mem_nil _
  opened := List.forall_mem_nil _

/-! ### The store -/

variable {redis : Redis} {key key' : LiveViewKey} {value document : String}

@[simp] theorem Redis.set_self : redis.set key value key = some value := Function.update_self ..

@[simp] theorem Redis.set_ne (h : key' ≠ key) : redis.set key value key' = redis key' :=
  Function.update_of_ne h ..

@[simp] theorem Redis.del_self : redis.del key key = none := Function.update_self ..

@[simp] theorem Redis.del_ne (h : key' ≠ key) : redis.del key key' = redis key' :=
  Function.update_of_ne h ..

/-- A deletion only empties keys. -/
theorem Redis.del_eq_some (h : redis.del key key' = some value) : redis key' = some value := by
  by_cases hkey : key' = key
  · rw [hkey, Redis.del_self] at h
    cases h
  · rwa [Redis.del_ne hkey] at h

/-- An empty key stays empty when another one is emptied. -/
theorem Redis.del_eq_none (h : redis key' = none) : redis.del key key' = none := by
  by_cases hkey : key' = key
  · rw [hkey, Redis.del_self]
  · rwa [Redis.del_ne hkey]

/-! ### What the commands find -/

/-- A registration that is looked up is the one whose document is stored for its run. -/
theorem LiveViewSound.lookUp {record : LiveViewTicketRecord} {registration : LiveViewRegistration}
    (hi : LiveViewSound codec s) (h : lookUpSession codec record s.redis = some registration) :
    registration.ticketRecord = record ∧
      s.redis (.session registration.runId) = some (codec.registrationJson registration) := by
  rw [lookUpSession] at h
  split at h
  · cases h
  · rename_i document hdocument
    split at h
    · cases h
    · obtain ⟨hparse, hsession⟩ := Option.filter_eq_some_iff.mp h
      obtain ⟨stored, hrun, rfl⟩ := hi.sessions _ _ hdocument
      rw [codec.parse_registrationJson] at hparse
      obtain rfl := Option.some.inj hparse
      rw [decide_eq_true_eq] at hsession
      obtain ⟨runId, sessionId, formed⟩ := record
      exact ⟨LiveViewTicketRecord.mk.injEq .. |>.mpr ⟨hrun, hsession⟩, hrun ▸ hdocument⟩

theorem getRegistration_runId {runId : UUID} {registration : LiveViewRegistration}
    (h : getRegistration codec runId redis = some registration) : registration.runId = runId := by
  rw [getRegistration] at h
  split at h
  · cases h
  · split at h
    · cases h
    · simpa using (Option.filter_eq_some_iff.mp h).2

/-- What a taken ticket leaves behind, and what it yields. -/
theorem LiveViewSound.takes {ticket : String} (hi : LiveViewSound codec s) :
    (takeTicket codec ticket s.redis = (s.redis, none)) ∨
    ∃ record, takeTicket codec ticket s.redis =
        (s.redis.del (.ticket (codec.sha256Hexdigest ticket)), record) ∧
      (s.redis (.ticket (codec.sha256Hexdigest ticket))).isSome ∧
      ∀ found ∈ record, s.Issued codec (codec.sha256Hexdigest ticket) found := by
  rw [takeTicket, liveViewTicketKey]
  split
  · exact .inl rfl
  · rename_i key hkey
    split at hkey
    · obtain rfl := Option.some.inj hkey
      cases hstored : s.redis (.ticket (codec.sha256Hexdigest ticket)) with
      | none => exact .inl rfl
      | some document =>
        refine .inr ⟨_, rfl, rfl, fun found hfound => ?_⟩
        obtain ⟨record, rfl, hissued⟩ := hi.stored _ _ hstored
        split at hfound
        · cases hfound
        · rw [codec.parse_ticketJson] at hfound
          exact Option.some.inj hfound ▸ hissued
    · cases hkey

/-! ### Steps -/

theorem LiveViewSound.mem_taken {digest : String} :
    digest ∈ s.taken codec ↔
      (∃ use ∈ s.consuming, codec.sha256Hexdigest use.ticket = digest) ∨
      ∃ view ∈ s.opened, codec.sha256Hexdigest view.1 = digest := by
  simp [LiveViewState.taken]

/-- Keys are emptied and calls given up. -/
theorem LiveViewSound.shrink {published : List (LiveViewRegistration × String)}
    {issuing : List TicketIssue} {consuming : List TicketUse} (hi : LiveViewSound codec s)
    (hredis : ∀ key value, redis key = some value → s.redis key = some value)
    (hissuing : issuing.Sublist s.issuing) (hconsuming : consuming.Sublist s.consuming) :
    LiveViewSound codec { s with
      redis := redis, published := published, issuing := issuing, consuming := consuming } := by
  have htaken : (LiveViewState.taken codec { s with
      redis := redis, published := published, issuing := issuing, consuming := consuming }).Sublist
        (s.taken codec) := (hconsuming.map _).append (List.Sublist.refl _)
  exact {
    sessions := fun runId document h => hi.sessions runId document (hredis _ _ h)
    stored := fun digest document h => hi.stored digest document (hredis _ _ h)
    drawn := hi.drawn
    ofRun := ⟨fun issue hmem => hi.ofRun.1 issue (hissuing.subset hmem), hi.ofRun.2⟩
    takenOnce := hi.takenOnce.sublist htaken
    takenGone := by
      intro digest hmem
      obtain ⟨hgone, hdrawn⟩ := hi.takenGone digest (htaken.subset hmem)
      refine ⟨Option.eq_none_iff_forall_ne_some.mpr fun value h => ?_, hdrawn⟩
      rw [hredis _ _ h] at hgone
      cases hgone
    consuming := fun use hmem => hi.consuming use (hconsuming.subset hmem)
    opened := hi.opened }

theorem LiveViewSound.publish {registration : LiveViewRegistration}
    {published : List (LiveViewRegistration × String)} (hi : LiveViewSound codec s) :
    LiveViewSound codec { s with
      redis := TestOps.publish codec registration s.redis, published := published } := by
  have hticket : ∀ digest, TestOps.publish codec registration s.redis (.ticket digest) =
      s.redis (.ticket digest) := fun digest => Redis.set_ne (by simp)
  exact {
    sessions := by
      intro runId document h
      change s.redis.set _ _ _ = _ at h
      by_cases hrun : runId = registration.runId
      · rw [hrun, Redis.set_self] at h
        exact ⟨registration, hrun.symm, (Option.some.inj h).symm⟩
      · rw [Redis.set_ne fun hkey => hrun (LiveViewKey.session.inj hkey)] at h
        exact hi.sessions runId document h
    stored := fun digest document h => hi.stored digest document (hticket digest ▸ h)
    drawn := hi.drawn
    ofRun := hi.ofRun
    takenOnce := hi.takenOnce
    takenGone := fun digest hmem => hticket digest ▸ hi.takenGone digest hmem
    consuming := hi.consuming
    opened := hi.opened }

theorem LiveViewSound.issueTicket {issue : TicketIssue} (hi : LiveViewSound codec s)
    (hrun : issue.registration.runId = issue.runId) :
    LiveViewSound codec { s with issuing := issue :: s.issuing } :=
  { hi with ofRun := ⟨List.forall_mem_cons.mpr ⟨hrun, hi.ofRun.1⟩, hi.ofRun.2⟩ }

/-- An attempt finds its key taken. -/
theorem LiveViewSound.attempt {digest : String} {issuing : List TicketIssue}
    (hi : LiveViewSound codec s)
    (hissuing : ∀ issue ∈ issuing, issue.registration.runId = issue.runId) :
    LiveViewSound codec { s with issuing := issuing, drawn := digest :: s.drawn } :=
  { hi with
    drawn := fun ticket hmem => List.mem_cons_of_mem _ (hi.drawn ticket hmem)
    ofRun := ⟨hissuing, hi.ofRun.2⟩
    takenGone := fun digest hmem =>
      ⟨(hi.takenGone digest hmem).1, List.mem_cons_of_mem _ (hi.takenGone digest hmem).2⟩ }

/-- A fresh ticket is stored. -/
theorem LiveViewSound.store {ticket : LiveViewTicket} {issuing : List TicketIssue}
    (hi : LiveViewSound codec s) (hfresh : codec.sha256Hexdigest ticket.ticket ∉ s.drawn)
    (hrun : ticket.registration.runId = ticket.runId)
    (hissuing : ∀ issue ∈ issuing, issue.registration.runId = issue.runId) :
    LiveViewSound codec { s with
      redis := s.redis.set (.ticket (codec.sha256Hexdigest ticket.ticket))
        (codec.ticketJson ticket.registration.ticketRecord)
      issuing := issuing
      drawn := codec.sha256Hexdigest ticket.ticket :: s.drawn
      tickets := ticket :: s.tickets } := by
  have hissued : ∀ {digest record}, s.Issued codec digest record →
      LiveViewState.Issued codec { s with tickets := ticket :: s.tickets } digest record :=
    fun ⟨found, hmem, hfound⟩ => ⟨found, List.mem_cons_of_mem _ hmem, hfound⟩
  have hsession : ∀ runId, s.redis.set (.ticket (codec.sha256Hexdigest ticket.ticket))
      (codec.ticketJson ticket.registration.ticketRecord) (.session runId) =
        s.redis (.session runId) := fun _ => Redis.set_ne nofun
  exact {
    sessions := by
      intro runId document h
      exact hi.sessions runId document ((hsession runId).symm.trans h)
    stored := by
      intro digest document h
      by_cases hdigest : digest = codec.sha256Hexdigest ticket.ticket
      · subst hdigest
        have hset := Redis.set_self.symm.trans h
        exact ⟨_, (Option.some.inj hset).symm, ticket, List.mem_cons_self, rfl, rfl⟩
      · have hne : LiveViewKey.ticket digest ≠ .ticket (codec.sha256Hexdigest ticket.ticket) :=
          fun hkey => hdigest (LiveViewKey.ticket.inj hkey)
        obtain ⟨record, hdocument, hrecord⟩ :=
          hi.stored digest document ((Redis.set_ne hne).symm.trans h)
        exact ⟨record, hdocument, hissued hrecord⟩
    drawn := List.forall_mem_cons.mpr ⟨List.mem_cons_self,
      fun found hmem => List.mem_cons_of_mem _ (hi.drawn found hmem)⟩
    ofRun := ⟨hissuing, List.forall_mem_cons.mpr ⟨hrun, hi.ofRun.2⟩⟩
    takenOnce := hi.takenOnce
    takenGone := by
      intro digest hmem
      obtain ⟨hgone, hdrawn⟩ := hi.takenGone digest hmem
      have hne : LiveViewKey.ticket digest ≠ .ticket (codec.sha256Hexdigest ticket.ticket) :=
        fun hkey => hfresh (LiveViewKey.ticket.inj hkey ▸ hdrawn)
      exact ⟨(Redis.set_ne hne).trans hgone, List.mem_cons_of_mem _ hdrawn⟩
    consuming := fun use hmem => hissued (hi.consuming use hmem)
    opened := fun view hmem => hissued (hi.opened view hmem) }

/-- An attempt stores a fresh ticket or fails. -/
theorem LiveViewSound.setTicket {index : Nat} {issue : TicketIssue} {ticket : String}
    {answered : Bool} (hi : LiveViewSound codec s) (hissue : s.issuing[index]? = some issue)
    (hfresh : codec.sha256Hexdigest ticket ∉ s.drawn) :
    LiveViewSound codec (s.setTicket codec index issue ticket answered) := by
  have hrun := hi.ofRun.1 issue (List.mem_of_getElem? hissue)
  have herase : ∀ found ∈ s.issuing.eraseIdx index, found.registration.runId = found.runId :=
    fun found hmem => hi.ofRun.1 found (List.mem_of_mem_eraseIdx hmem)
  rw [LiveViewState.setTicket, liveViewTicketKey]
  split
  · exact hi.shrink (fun _ _ => id) (List.eraseIdx_sublist _ _) (List.Sublist.refl _)
  · rename_i key hkey
    split at hkey
    · obtain rfl := Option.some.inj hkey
      by_cases hstored : (s.redis (.ticket (codec.sha256Hexdigest ticket))).isSome
      · rw [Redis.setNx, if_pos hstored]
        refine hi.attempt fun found hmem => ?_
        split at hmem
        · rcases List.mem_or_eq_of_mem_set hmem with hmem | rfl
          · exact hi.ofRun.1 found hmem
          · exact hrun
        · exact herase found hmem
      · rw [Redis.setNx, if_neg hstored]
        exact @LiveViewSound.store codec s ⟨ticket, issue.runId, issue.registration⟩ _ hi hfresh hrun
          herase
    · cases hkey

/-- A call takes its ticket from the store. -/
theorem LiveViewSound.takeTicket {ticket : String} {record : LiveViewTicketRecord}
    (hi : LiveViewSound codec s)
    (hlive : (s.redis (.ticket (codec.sha256Hexdigest ticket))).isSome)
    (hissued : s.Issued codec (codec.sha256Hexdigest ticket) record) :
    LiveViewSound codec { s with
      redis := s.redis.del (.ticket (codec.sha256Hexdigest ticket))
      consuming := ⟨ticket, record⟩ :: s.consuming } := by
  have hdel : LiveViewSound codec { s with
      redis := s.redis.del (.ticket (codec.sha256Hexdigest ticket)) } :=
    hi.shrink (fun _ _ => Redis.del_eq_some) (List.Sublist.refl _) (List.Sublist.refl _)
  have hnew : codec.sha256Hexdigest ticket ∉ s.taken codec := by
    intro hmem
    rw [(hi.takenGone _ hmem).1] at hlive
    cases hlive
  have hdrawn : codec.sha256Hexdigest ticket ∈ s.drawn := by
    obtain ⟨found, hmem, hdigest, -⟩ := hissued
    exact hdigest ▸ hi.drawn found hmem
  exact { hdel with
    takenOnce := List.nodup_cons.mpr ⟨hnew, hi.takenOnce⟩
    takenGone := List.forall_mem_cons.mpr ⟨⟨Redis.del_self, hdrawn⟩, hdel.takenGone⟩
    consuming := List.forall_mem_cons.mpr ⟨hissued, hi.consuming⟩ }

/-- A call looks up its session; the view is opened or the ticket is dropped. -/
theorem LiveViewSound.openSession {index : Nat} {use : TicketUse} (hi : LiveViewSound codec s)
    (huse : s.consuming[index]? = some use) :
    LiveViewSound codec { s with
      consuming := s.consuming.eraseIdx index
      opened := ((lookUpSession codec use.record s.redis).map (Prod.mk use.ticket)).toList ++
        s.opened } := by
  have hdrop : LiveViewSound codec { s with consuming := s.consuming.eraseIdx index } :=
    hi.shrink (fun _ _ => id) (List.Sublist.refl _) (List.eraseIdx_sublist _ _)
  cases hfound : lookUpSession codec use.record s.redis with
  | none => exact hdrop
  | some registration =>
    obtain ⟨hindex, rfl⟩ := List.getElem?_eq_some_iff.mp huse
    have hperm : (s.taken codec).Perm (LiveViewState.taken codec { s with
        consuming := s.consuming.eraseIdx index
        opened := (s.consuming[index].ticket, registration) :: s.opened }) := by
      refine (((List.getElem_cons_eraseIdx_perm hindex).symm.map _).append_right _).trans ?_
      exact List.perm_middle.symm
    exact { hdrop with
      takenOnce := hperm.nodup hi.takenOnce
      takenGone := fun digest hmem => hi.takenGone digest (hperm.mem_iff.mpr hmem)
      opened := List.forall_mem_cons.mpr
        ⟨(hi.lookUp hfound).1 ▸ hi.consuming _ (List.getElem_mem hindex), hi.opened⟩ }

theorem liveViewSound_step {a : LiveViewAction} (h : liveViewStep codec s a = .ok s')
    (hfresh : DrawsFresh codec s a) (hi : LiveViewSound codec s) : LiveViewSound codec s' := by
  cases a with
  | publish registration answered =>
    cases h
    exact hi.publish
  | unpublish index =>
    simp only [liveViewStep, bind_eq_ok, found_eq_ok, pure_eq_ok, Prod.exists] at h
    obtain ⟨registration, document, -, rfl⟩ := h
    refine hi.shrink (fun key value h => ?_) (List.Sublist.refl _) (List.Sublist.refl _)
    rw [unpublish, Redis.compareAndDelete] at h
    split at h
    · exact Redis.del_eq_some h
    · exact h
  | issueTicket runId status webConfig =>
    simp only [liveViewStep, liveViewRegistration, bind_eq_ok, ensure_eq_ok, found_eq_ok,
      pure_eq_ok] at h
    obtain ⟨registration, ⟨-, -, -, -, hget⟩, rfl⟩ := h
    exact hi.issueTicket (getRegistration_runId hget)
  | setTicket index ticket answered =>
    simp only [liveViewStep, bind_eq_ok, found_eq_ok, pure_eq_ok] at h
    obtain ⟨issue, hissue, rfl⟩ := h
    exact hi.setTicket hissue hfresh
  | abandonIssue index =>
    cases h
    exact hi.shrink (fun _ _ => id) (List.eraseIdx_sublist _ _) (List.Sublist.refl _)
  | takeTicket ticket answered =>
    simp only [liveViewStep, pure_eq_ok] at h
    subst h
    have htakes : _ := @LiveViewSound.takes codec s ticket hi
    rcases htakes with htake | ⟨record, htake, hlive, hissued⟩
    · rw [htake]
      cases answered <;> exact hi
    · have hdel : LiveViewSound codec { s with
          redis := s.redis.del (.ticket (codec.sha256Hexdigest ticket)) } :=
        hi.shrink (fun _ _ => Redis.del_eq_some) (List.Sublist.refl _) (List.Sublist.refl _)
      rw [htake]
      cases record with
      | none => cases answered <;> exact hdel
      | some record =>
        cases answered with
        | true => exact hi.takeTicket hlive (hissued record rfl)
        | false => exact hdel
  | openSession index =>
    simp only [liveViewStep, bind_eq_ok, found_eq_ok, pure_eq_ok] at h
    obtain ⟨use, huse, rfl⟩ := h
    exact hi.openSession huse
  | abandonUse index =>
    cases h
    exact hi.shrink (fun _ _ => id) (List.Sublist.refl _) (List.eraseIdx_sublist _ _)
  | expire key =>
    cases h
    exact hi.shrink (fun _ _ => Redis.del_eq_some) (List.Sublist.refl _) (List.Sublist.refl _)

theorem liveViewSound_reachable (h : (liveView codec).Reachable s) : LiveViewSound codec s := by
  refine h.invariant (p := LiveViewSound codec) ?_ ?_
  · rintro s rfl
    exact liveViewSound_init
  · exact fun _ _ _ hstep => liveViewSound_step hstep.2 hstep.1

/-! ### Unpublishing -/

/-- A session is withdrawn from the store only while its own document stands there. -/
theorem unpublish_keeps {registration other : LiveViewRegistration}
    (hsession : other.sessionId ≠ registration.sessionId)
    (hstored : redis (.session other.runId) = some (codec.registrationJson other)) :
    unpublish registration (codec.registrationJson registration) redis (.session other.runId) =
      some (codec.registrationJson other) := by
  rw [unpublish, Redis.compareAndDelete]
  split
  · rename_i hmine
    rw [Redis.del_ne, hstored]
    intro hkey
    rw [← LiveViewKey.session.inj hkey, hstored] at hmine
    have hparse := codec.parse_registrationJson other
    rw [Option.some.inj hmine, codec.parse_registrationJson] at hparse
    exact hsession (congrArg LiveViewRegistration.sessionId (Option.some.inj hparse)).symm
  · exact hstored

/-- A worker holds the document of every session it may withdraw. -/
def PublishedSound (codec : LiveViewCodec) (s : LiveViewState) : Prop :=
  ∀ entry ∈ s.published, entry.2 = codec.registrationJson entry.1

theorem publishedSound_step {a : LiveViewAction} (h : liveViewStep codec s a = .ok s')
    (hi : PublishedSound codec s) : PublishedSound codec s' := by
  cases a with
  | publish registration answered =>
    cases h
    cases answered with
    | true => exact List.forall_mem_cons.mpr ⟨rfl, hi⟩
    | false => exact hi
  | unpublish index =>
    simp only [liveViewStep, bind_eq_ok, found_eq_ok, pure_eq_ok] at h
    obtain ⟨entry, -, rfl⟩ := h
    exact fun entry hmem => hi entry (List.mem_of_mem_eraseIdx hmem)
  | setTicket index ticket answered =>
    simp only [liveViewStep, bind_eq_ok, found_eq_ok, pure_eq_ok] at h
    obtain ⟨issue, -, rfl⟩ := h
    rw [LiveViewState.setTicket]
    split <;> exact hi
  | issueTicket runId status webConfig =>
    simp only [liveViewStep, bind_eq_ok, pure_eq_ok] at h
    obtain ⟨registration, -, rfl⟩ := h
    exact hi
  | openSession index =>
    simp only [liveViewStep, bind_eq_ok, found_eq_ok, pure_eq_ok] at h
    obtain ⟨use, -, rfl⟩ := h
    exact hi
  | abandonIssue | takeTicket | abandonUse | expire =>
    cases h
    exact hi

theorem publishedSound_reachable (h : (liveView codec).Reachable s) : PublishedSound codec s := by
  refine h.invariant (p := PublishedSound codec) ?_ ?_
  · rintro s rfl
    exact List.forall_mem_nil _
  · exact fun _ _ _ hstep => publishedSound_step hstep.2

/-! ### Tickets -/

/-- A view is opened by a call that looks up its session. -/
theorem opened_step {a : LiveViewAction} (h : liveViewStep codec s a = .ok s') :
    s'.opened = s.opened ∨ ∃ use ∈ s.consuming, s'.opened =
      ((lookUpSession codec use.record s.redis).map (Prod.mk use.ticket)).toList ++ s.opened := by
  cases a with
  | openSession index =>
    simp only [liveViewStep, bind_eq_ok, found_eq_ok, pure_eq_ok] at h
    obtain ⟨use, huse, rfl⟩ := h
    exact .inr ⟨use, List.mem_of_getElem? huse, rfl⟩
  | setTicket index ticket answered =>
    simp only [liveViewStep, bind_eq_ok, found_eq_ok, pure_eq_ok] at h
    obtain ⟨issue, -, rfl⟩ := h
    rw [LiveViewState.setTicket]
    split <;> exact .inl rfl
  | unpublish | issueTicket =>
    simp only [liveViewStep, bind_eq_ok, pure_eq_ok] at h
    obtain ⟨_, _, rfl⟩ := h
    exact .inl rfl
  | publish | abandonIssue | takeTicket | abandonUse | expire =>
    cases h
    exact .inl rfl

/-- No two opened views go back to the same ticket. Every opened view belongs to the run and to the
    session its ticket was issued for, and its registration is stored under its run at the moment it
    is looked up. Withdrawing a session leaves the registration of any other session where it is. -/
theorem live_view_tickets (h : (liveView codec).Reachable s) :
    (s.opened.map (codec.sha256Hexdigest ∘ Prod.fst)).Nodup ∧
    (∀ view ∈ s.opened, ∃ ticket ∈ s.tickets,
      codec.sha256Hexdigest ticket.ticket = codec.sha256Hexdigest view.1 ∧
      view.2.runId = ticket.runId ∧ view.2.sessionId = ticket.registration.sessionId) ∧
    (∀ a s', liveViewStep codec s a = .ok s' → ∀ view ∈ s'.opened, view ∈ s.opened ∨
      s.redis (.session view.2.runId) = some (codec.registrationJson view.2)) ∧
    ∀ index entry s', s.published[index]? = some entry →
      liveViewStep codec s (.unpublish index) = .ok s' →
      ∀ other : LiveViewRegistration, other.sessionId ≠ entry.1.sessionId →
        s.redis (.session other.runId) = some (codec.registrationJson other) →
        s'.redis (.session other.runId) = some (codec.registrationJson other) := by
  have hi := liveViewSound_reachable h
  refine ⟨(List.nodup_append.mp hi.takenOnce).2.1, fun view hmem => ?_, fun a s' hstep => ?_, ?_⟩
  · obtain ⟨ticket, hticket, hdigest, hrecord⟩ := hi.opened view hmem
    have hrun := congrArg LiveViewTicketRecord.runId hrecord
    have hsession := congrArg LiveViewTicketRecord.sessionId hrecord
    exact ⟨ticket, hticket, hdigest, hrun.symm.trans (hi.ofRun.2 ticket hticket), hsession.symm⟩
  · rcases opened_step hstep with hsame | ⟨use, -, hopened⟩
    · rw [hsame]
      exact fun view => .inl
    · rw [hopened]
      intro view hmem
      rcases List.mem_append.mp hmem with hmem | hmem
      · obtain ⟨registration, hfound, rfl⟩ := Option.map_eq_some_iff.mp (Option.mem_toList.mp hmem)
        exact .inr (hi.lookUp hfound).2
      · exact .inl hmem
  · intro index entry s' hentry hstep other hsession hstored
    simp only [liveViewStep, bind_eq_ok, found_eq_ok, pure_eq_ok] at hstep
    obtain ⟨entry', hentry', rfl⟩ := hstep
    obtain rfl := Option.some.inj (hentry.symm.trans hentry')
    have hdocument := publishedSound_reachable h entry (List.mem_of_getElem? hentry)
    change unpublish entry.1 entry.2 s.redis _ = _
    rw [hdocument]
    exact unpublish_keeps hsession hstored

/-! ### A store with one session

    The documents are JSON, with identifiers in their usual form of 32 hexadecimal digits. -/

namespace LiveViewExample

def rfbPort : Json.Number := ⟨"5900".toList, by decide⟩

def registrationJson (registration : LiveViewRegistration) : String :=
  String.ofList (Json.render (.object [("run_id", .string (uuidText registration.runId)),
    ("session_id", .string registration.sessionId), ("host", .string registration.host),
    ("port", .number rfbPort), ("password", .string registration.password)]))

def parseRegistration (document : String) : Option LiveViewRegistration :=
  match Json.parse document.toList with
  | some (.object [("run_id", .string runId), ("session_id", .string sessionId),
      ("host", .string host), ("port", .number port), ("password", .string password)]) =>
    (parseUuid runId).bind fun runId =>
      if h : liveViewToken sessionId = true ∧ liveViewHost host = true ∧
          liveViewPassword password = true ∧ port = rfbPort then
        some ⟨runId, sessionId, host, password, h.1, h.2.1, h.2.2.1⟩
      else none
  | _ => none

def ticketJson (record : LiveViewTicketRecord) : String :=
  String.ofList (Json.render (.object [("run_id", .string (uuidText record.runId)),
    ("session_id", .string record.sessionId)]))

def parseTicket (document : String) : Option LiveViewTicketRecord :=
  match Json.parse document.toList with
  | some (.object [("run_id", .string runId), ("session_id", .string sessionId)]) =>
    (parseUuid runId).bind fun runId =>
      if h : liveViewToken sessionId = true then some ⟨runId, sessionId, h⟩ else none
  | _ => none

/-- JSON documents; a ticket is its own digest. -/
def jsonCodec : LiveViewCodec where
  registrationJson := registrationJson
  parseRegistration := parseRegistration
  ticketJson := ticketJson
  parseTicket := parseTicket
  sha256Hexdigest := id
  parse_registrationJson registration := by
    obtain ⟨runId, sessionId, host, password, hsession, hhost, hpassword⟩ := registration
    simp [parseRegistration, registrationJson, Json.parse_render, parseUuid_uuidText, hsession,
      hhost, hpassword]
  parse_ticketJson record := by
    obtain ⟨runId, sessionId, hsession⟩ := record
    simp [parseTicket, ticketJson, Json.parse_render, parseUuid_uuidText, hsession]

def registration : LiveViewRegistration where
  runId := 20
  sessionId := "aaaaaaaaaaaaaaaaaaaaaaaaaaaaaaaaaaaaaaaaaaa"
  host := "testops-run-00000000000000000000000000000014"
  password := "pAssw0rd"
  sessionIdFormed := by decide
  hostFormed := by decide
  passwordFormed := by decide

def webConfig : WebRunConfig := ⟨"https://shop.example", false, 1280, 720, 10, 30, false, true⟩

def ticket : String := "ttttttttttttttttttttttttttttttttttttttttttt"

/-- Run 20 publishes its session, and a ticket for it is issued and used. -/
def view : List LiveViewAction :=
  [.publish registration true, .issueTicket 20 .running (some webConfig), .setTicket 0 ticket true,
    .takeTicket ticket true, .openSession 0]

theorem view_opens : Ends (guarded (liveViewStep jsonCodec) (DrawsFresh jsonCodec) .noSuchCall)
    LiveViewState.init view fun s => ∃ view ∈ s.opened, view = (ticket, registration) := by
  decide +kernel

end LiveViewExample

open LiveViewExample in
/-- The ticket of run 20 has opened its session. -/
theorem live_view_tickets_opened : ∃ s, (liveView jsonCodec).Reachable s ∧
    (∃ view ∈ s.opened, view = (ticket, registration)) ∧
    ∀ view ∈ s.opened, ∃ ticket ∈ s.tickets,
      jsonCodec.sha256Hexdigest ticket.ticket = jsonCodec.sha256Hexdigest view.1 ∧
      view.2.runId = ticket.runId ∧ view.2.sessionId = ticket.registration.sessionId := by
  obtain ⟨s, hs, hopened⟩ := view_opens.exists_guarded
  exact ⟨s, hs, hopened, (live_view_tickets hs).2.1⟩

end TestOps
