import TestOps.ControlPlane.Schemas
import TestOps.Lib.Checked
import TestOps.Lib.Transition

/-! Live views of headed runs. A worker publishes where the display of its session is, the API issues
    tickets for the session it finds published, and the gateway turns a ticket into the registration
    of its session. The three share a key-value store, one command at a time:

      worker    SET session            EVAL delete the session if it is still mine
      API       GET session            SET NX ticket, up to three times
      gateway   GETDEL ticket          GET session, which must be the one of the ticket

    Any key may expire between two commands, and an answer may get lost on its way back. -/

namespace TestOps

open Checked Transition

/-! ### Contracts -/

def isTokenChar (c : Char) : Bool := c.isAlphanum || c == '-' || c == '_'

/-- `LIVE_VIEW_TOKEN_PATTERN`. -/
def liveViewToken (text : String) : Bool :=
  text.toList.all isTokenChar && 32 ≤ text.length && text.length ≤ 128

def liveViewHost (text : String) : Bool :=
  "testops-run-".toList.isPrefixOf text.toList && text.length == 44 &&
    (text.toList.drop 12).all fun c => c.isDigit || ('a' ≤ c && c ≤ 'f')

def liveViewPassword (text : String) : Bool := text.toList.all Char.isAlphanum && text.length == 8

/-- Where a worker has published the display of a session; the port is always 5900. -/
structure LiveViewRegistration where
  runId : UUID
  sessionId : String
  host : String
  password : String
  sessionIdFormed : liveViewToken sessionId = true
  hostFormed : liveViewHost host = true
  passwordFormed : liveViewPassword password = true
  deriving DecidableEq

/-- What a ticket stands for. -/
structure LiveViewTicketRecord where
  runId : UUID
  sessionId : String
  sessionIdFormed : liveViewToken sessionId = true
  deriving DecidableEq

def LiveViewRegistration.ticketRecord (registration : LiveViewRegistration) :
    LiveViewTicketRecord :=
  ⟨registration.runId, registration.sessionId, registration.sessionIdFormed⟩

/-- What the three processes take from their libraries: the documents of the two models, and the
    digest of a ticket. A document that was written is read back. -/
structure LiveViewCodec where
  registrationJson : LiveViewRegistration → String
  parseRegistration : String → Option LiveViewRegistration
  ticketJson : LiveViewTicketRecord → String
  parseTicket : String → Option LiveViewTicketRecord
  sha256Hexdigest : String → String
  parse_registrationJson : ∀ registration,
    parseRegistration (registrationJson registration) = some registration
  parse_ticketJson : ∀ record, parseTicket (ticketJson record) = some record

/-! ### The store -/

/-- The keys, by what stands behind their prefix. -/
inductive LiveViewKey where
  | session (runId : UUID)
  | ticket (digest : String)
  deriving DecidableEq

abbrev Redis := LiveViewKey → Option String

namespace Redis

def set (redis : Redis) (key : LiveViewKey) (value : String) : Redis :=
  Function.update redis key (some value)

def del (redis : Redis) (key : LiveViewKey) : Redis := Function.update redis key none

/-- `SET .. NX`, and whether it has stored. -/
def setNx (redis : Redis) (key : LiveViewKey) (value : String) : Redis × Bool :=
  if (redis key).isSome then (redis, false) else (redis.set key value, true)

/-- `UNPUBLISH_SCRIPT`. -/
def compareAndDelete (redis : Redis) (key : LiveViewKey) (value : String) : Redis :=
  if redis key = some value then redis.del key else redis

end Redis

inductive LiveViewError where
  | resourceConflict (message : String)
  | noSuchCall
  deriving DecidableEq

variable (codec : LiveViewCodec)

def liveViewTicketKey (ticket : String) : Option LiveViewKey :=
  if liveViewToken ticket then some (.ticket (codec.sha256Hexdigest ticket)) else none

/-! ### The commands -/

def publish (registration : LiveViewRegistration) (redis : Redis) : Redis :=
  redis.set (.session registration.runId) (codec.registrationJson registration)

def unpublish (registration : LiveViewRegistration) (document : String) (redis : Redis) : Redis :=
  redis.compareAndDelete (.session registration.runId) document

def getRegistration (runId : UUID) (redis : Redis) : Option LiveViewRegistration :=
  match redis (.session runId) with
  | none => none
  | some document =>
    if document = "" then none
    else (codec.parseRegistration document).filter fun registration => registration.runId = runId

/-- `issue_live_view_ticket` up to the registration it finds. -/
def liveViewRegistration (runId : UUID) (status : RunStatus) (webConfig : Option WebRunConfig)
    (redis : Redis) : Except LiveViewError LiveViewRegistration := do
  ensure (webConfig.any fun config => !config.headless)
    (.resourceConflict "live view is only available for headed Runs")
  ensure (status.isTerminal = false) (.resourceConflict "live view ended with the Run")
  found (getRegistration codec runId redis) (.resourceConflict "live view is not ready")

/-- `GETDEL` of a ticket, and the record it held. -/
def takeTicket (ticket : String) (redis : Redis) : Redis × Option LiveViewTicketRecord :=
  match liveViewTicketKey codec ticket with
  | none => (redis, none)
  | some key =>
    match redis key with
    | none => (redis, none)
    | some document =>
      (redis.del key, if document = "" then none else codec.parseTicket document)

/-- The registration of the session a record is about. -/
def lookUpSession (record : LiveViewTicketRecord) (redis : Redis) : Option LiveViewRegistration :=
  match redis (.session record.runId) with
  | none => none
  | some document =>
    if document = "" then none
    else (codec.parseRegistration document).filter fun registration =>
      registration.sessionId = record.sessionId

/-! ### The three processes -/

/-- A call of `issue_ticket` that has read a registration, and how many attempts it has left. -/
structure TicketIssue where
  runId : UUID
  registration : LiveViewRegistration
  attempts : Nat
  deriving DecidableEq

/-- A ticket with the run and the registration it stands for. -/
structure LiveViewTicket where
  ticket : String
  runId : UUID
  registration : LiveViewRegistration
  deriving DecidableEq

/-- A call of `consume` that has taken its ticket. -/
structure TicketUse where
  ticket : String
  record : LiveViewTicketRecord
  deriving DecidableEq

/-- The store and the calls under way. What has been drawn, stored and opened so far is no part of the
    program. -/
structure LiveViewState where
  redis : Redis
  published : List (LiveViewRegistration × String)
  issuing : List TicketIssue
  consuming : List TicketUse
  drawn : List String
  tickets : List LiveViewTicket
  opened : List (String × LiveViewRegistration)

def LiveViewState.init : LiveViewState := ⟨fun _ => none, [], [], [], [], [], []⟩

/-- One command of a process, or what happens to it; an answer that is lost ends the call. -/
inductive LiveViewAction where
  | publish (registration : LiveViewRegistration) (answered : Bool)
  | unpublish (index : Nat)
  | issueTicket (runId : UUID) (status : RunStatus) (webConfig : Option WebRunConfig)
  | setTicket (index : Nat) (ticket : String) (answered : Bool)
  | abandonIssue (index : Nat)
  | takeTicket (ticket : String) (answered : Bool)
  | openSession (index : Nat)
  | abandonUse (index : Nat)
  | expire (key : LiveViewKey)

/-- One attempt to store a ticket. -/
def LiveViewState.setTicket (s : LiveViewState) (index : Nat) (issue : TicketIssue)
    (ticket : String) (answered : Bool) : LiveViewState :=
  match liveViewTicketKey codec ticket with
  | none => { s with issuing := s.issuing.eraseIdx index }
  | some key =>
    let (redis, stored) := s.redis.setNx key (codec.ticketJson issue.registration.ticketRecord)
    { s with
      redis := redis
      issuing :=
        if stored = false ∧ answered = true ∧ 1 < issue.attempts then
          s.issuing.set index { issue with attempts := issue.attempts - 1 }
        else s.issuing.eraseIdx index
      drawn := codec.sha256Hexdigest ticket :: s.drawn
      tickets :=
        if stored then ⟨ticket, issue.runId, issue.registration⟩ :: s.tickets else s.tickets }

def liveViewStep (s : LiveViewState) : LiveViewAction → Except LiveViewError LiveViewState
  | .publish registration answered => return { s with
      redis := publish codec registration s.redis
      published :=
        if answered then (registration, codec.registrationJson registration) :: s.published
        else s.published }
  | .unpublish index => do
    let (registration, document) ← found s.published[index]? .noSuchCall
    return { s with
      redis := unpublish registration document s.redis
      published := s.published.eraseIdx index }
  | .issueTicket runId status webConfig => do
    let registration ← liveViewRegistration codec runId status webConfig s.redis
    return { s with issuing := ⟨runId, registration, 3⟩ :: s.issuing }
  | .setTicket index ticket answered => do
    let issue ← found s.issuing[index]? .noSuchCall
    return s.setTicket codec index issue ticket answered
  | .abandonIssue index => return { s with issuing := s.issuing.eraseIdx index }
  | .takeTicket ticket answered =>
    let (redis, record) := takeTicket codec ticket s.redis
    return { s with
      redis := redis
      consuming :=
        if answered then (record.map (TicketUse.mk ticket)).toList ++ s.consuming
        else s.consuming }
  | .openSession index => do
    let use ← found s.consuming[index]? .noSuchCall
    return { s with
      consuming := s.consuming.eraseIdx index
      opened := ((lookUpSession codec use.record s.redis).map (Prod.mk use.ticket)).toList ++
        s.opened }
  | .abandonUse index => return { s with consuming := s.consuming.eraseIdx index }
  | .expire key => return { s with redis := s.redis.del key }

/-- Every attempt draws a token whose digest has not been drawn before. -/
def DrawsFresh (s : LiveViewState) : LiveViewAction → Prop
  | .setTicket _ ticket _ => codec.sha256Hexdigest ticket ∉ s.drawn
  | _ => True

instance (s : LiveViewState) (a : LiveViewAction) : Decidable (DrawsFresh codec s a) := by
  cases a <;> unfold DrawsFresh <;> infer_instance

/-- The runs of the three processes. -/
def liveView : System LiveViewState LiveViewAction :=
  (machine (· = LiveViewState.init) (liveViewStep codec)).restrict (DrawsFresh codec)

end TestOps
