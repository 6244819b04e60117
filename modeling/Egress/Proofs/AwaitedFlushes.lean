import Egress.Catalogue
import Egress.Proofs.Traffic

/-!
Flushes that are awaited. An application asks a sender to flush or to change its batch mode, and waits until the call
returns. Whatever the carrier answers, now or later, such a call gives its turn back, and a run of calls comes to what an
account says that is kept from the calls and their outcomes alone.
-/
namespace Egress

/-! ## Carriers that are asked to flush -/

/-- A carrier that completes only what it was given, also when it is asked to flush. -/
class LawfulFlush (σ : Type) [Carrier σ] : Prop where
  flush : ∀ (carrier : σ) (ledger : Ledger) (ticket : Ticket),
    Carrier.Minds (fun own => own = ticket ∨ own ∈ Carrier.held carrier) ledger
      (Carrier.flush carrier ledger ticket).2.1 (Carrier.flush carrier ledger ticket).2.2

instance : LawfulFlush ScriptedCarrier where
  flush carrier ledger _ :=
    ScriptedCarrier.reactAll_minds { carrier with offers := carrier.offers.push .flush } ledger _ (.inl rfl)
      fun _ member => .inr member

instance {key : Nat → Option MaskKey} : LawfulFlush (Scheduled key) where
  flush scheduled ledger ticket := by
    obtain ⟨sent, carries, ⟨_, rfl⟩ | ⟨_, rfl⟩⟩ := scheduled.carries_send ledger (.flush ticket)
    · refine Scheduled.minds_of_carries carries (fun _ member => .inr member) fun command member => ?_
      cases List.mem_singleton.mp member
      exact .inl rfl
    · exact Scheduled.minds_of_carries carries (fun _ member => .inr member) nofun

/-- A flush that a carrier was asked for, and whether it agreed to it. -/
structure FlushRequest where
  ticket : Ticket
  verdict : Outcome
  deriving DecidableEq

/-- A carrier and the flushes that it was asked for, in order. -/
structure Tallied (σ : Type) where
  carrier : σ
  requests : List FlushRequest

namespace Tallied

variable {σ : Type} [Carrier σ]

instance : Carrier (Tallied σ) where
  sendFrame tallied ledger frame ticket mode :=
    match Carrier.sendFrame tallied.carrier ledger frame ticket mode with
    | (verdict, carrier, ledger) => (verdict, { tallied with carrier }, ledger)
  flush tallied ledger ticket :=
    match Carrier.flush tallied.carrier ledger ticket with
    | (verdict, carrier, ledger) => (verdict, ⟨carrier, tallied.requests ++ [⟨ticket, verdict⟩]⟩, ledger)
  idleTimeout tallied := Carrier.idleTimeout tallied.carrier
  setIdleTimeout tallied span := { tallied with carrier := Carrier.setIdleTimeout tallied.carrier span }
  held tallied := Carrier.held tallied.carrier
  work tallied ledger :=
    match Carrier.work tallied.carrier ledger with
    | (carrier, ledger) => ({ tallied with carrier }, ledger)

instance [LawfulCarrier σ] : LawfulCarrier (Tallied σ) where
  sendFrame tallied ledger frame ticket mode := by
    obtain ⟨completed, held⟩ := LawfulCarrier.sendFrame tallied.carrier ledger frame ticket mode
    exact ⟨completed, held⟩
  work tallied ledger := by
    obtain ⟨completed, held⟩ := LawfulCarrier.work tallied.carrier ledger
    exact ⟨completed, held⟩

instance [LawfulFlush σ] : LawfulFlush (Tallied σ) where
  flush tallied ledger ticket := by
    obtain ⟨completed, held⟩ := LawfulFlush.flush tallied.carrier ledger ticket
    exact ⟨completed, held⟩

end Tallied

/-! ## The turn -/

namespace Turn

/-- Nobody has the turn, is about to get it or waits for it. -/
structure Free (turn : Turn) : Prop where
  untaken : turn.taken = false
  unassigned : turn.assigned = none
  nobody : turn.waiting = []

variable {turn : Turn}

theorem Free.request (free : turn.Free) (waiter : Nat) : turn.request waiter = (true, { turn with taken := true }) := by
  unfold Turn.request
  rw [if_neg (by simp [free.untaken])]

/-- A turn that was taken when nobody else wanted it is given back. -/
theorem Free.finish (free : turn.Free) :
    ({ turn with taken := true } : Turn).finish = { turn with released := turn.released + 1 } := by
  obtain ⟨untaken, unassigned, nobody⟩ := free
  obtain ⟨taken, assigned, waiting, released⟩ := turn
  cases untaken
  cases unassigned
  cases nobody
  rfl

theorem Free.more (free : turn.Free) (released : Nat) : ({ turn with released } : Turn).Free :=
  ⟨free.untaken, free.unassigned, free.nobody⟩

end Turn

/-! ## Calls and their account -/

/-- A call that an application waits for. -/
inductive FlushCall where
  | flush
  | setMode (mode : BatchMode)
  | allowBatching (batching : Bool)
  deriving DecidableEq

namespace FlushCall

/-- The mode that is asked for. -/
def target? : FlushCall → Option BatchMode
  | .flush => none
  | .setMode mode => some mode
  | .allowBatching batching => some (Sender.modeFor batching)

/-- Whether a call made in a mode flushes: it does if that is what it asks for, or if it asks to go from on to off. -/
def flushes (call : FlushCall) (mode : BatchMode) : Bool :=
  match call.target? with
  | none => true
  | some target => mode = .on && target = .off

/-- The mode after a call that was made in a mode and had an outcome. -/
def modeAfter (call : FlushCall) (mode : BatchMode) (outcome : Outcome) : BatchMode :=
  if outcome = .ok () then call.target?.getD mode else mode

end FlushCall

/-- The batch mode, and how often the carrier was asked to flush. -/
structure FlushAccount where
  mode : BatchMode
  flushes : Nat

namespace FlushAccount

def after (account : FlushAccount) : FlushCall × Outcome → FlushAccount
  | (call, outcome) =>
    ⟨call.modeAfter account.mode outcome, account.flushes + if call.flushes account.mode then 1 else 0⟩

def afterAll (account : FlushAccount) (calls : List (FlushCall × Outcome)) : FlushAccount := calls.foldl after account

end FlushAccount

/-- Other senders of the session use its pool and its turn. -/
def Elsewhere.shares : Elsewhere → Bool
  | .share _ _ => true
  | _ => false

namespace Sender

section Calls

variable {types : ValueTypes} {σ : Type} [Carrier σ]

def beginCall (sender : Sender types σ) : FlushCall → FlushState × Sender types σ
  | .flush => sender.beginFlush
  | .setMode mode => sender.beginSetBatchMode mode
  | .allowBatching batching => sender.beginSetBatchMode (modeFor batching)

def resumeCall (sender : Sender types σ) (state : FlushState) : FlushCall → FlushState × Sender types σ
  | .flush => sender.resumeFlush state
  | .setMode mode => sender.resumeSetBatchMode mode state
  | .allowBatching batching => sender.resumeSetBatchMode (modeFor batching) state

def afterElsewheres (sender : Sender types σ) (events : List Elsewhere) : Sender types σ := events.foldl afterElsewhere sender

/-- A call is awaited: it is begun, and as long as it has not returned it is looked at again, after anything has happened
that leaves the turn alone. -/
inductive Awaits (call : FlushCall) (sender : Sender types σ) : FlushState → Sender types σ → Prop where
  | begun : Awaits call sender (sender.beginCall call).1 (sender.beginCall call).2
  | looked {wait : Wait} {before : Sender types σ} (events : List Elsewhere)
    (alone : ∀ event ∈ events, event.shares = false) : Awaits call sender (.waiting wait) before →
      Awaits call sender ((before.afterElsewheres events).resumeCall (.waiting wait) call).1
        ((before.afterElsewheres events).resumeCall (.waiting wait) call).2

/-- A sender has served calls, one after another; each has returned with an outcome. -/
inductive Serves (sender : Sender types σ) : List (FlushCall × Outcome) → Sender types σ → Prop where
  | nothing : Serves sender [] sender
  | elsewhere {calls : List (FlushCall × Outcome)} {now : Sender types σ} (events : List Elsewhere)
    (alone : ∀ event ∈ events, event.shares = false) : Serves sender calls now →
      Serves sender calls (now.afterElsewheres events)
  | returned {calls : List (FlushCall × Outcome)} {now after : Sender types σ} {call : FlushCall} {outcome : Outcome} :
    Serves sender calls now → Awaits call now (.done outcome) after → Serves sender (calls ++ [(call, outcome)]) after

/-- The ticket of the flush that the sender asks for next. -/
def flushTicket (sender : Sender types σ) : Ticket := sender.ledger.slots.size

/-- The carrier's answer to the flush that the sender asks for next. -/
def flushAnswer (sender : Sender types σ) : Outcome × σ × Ledger :=
  Carrier.flush sender.carrier (sender.ledger.issue .future).2 sender.flushTicket

/-- The ledger when the flush has been asked for. Its ticket fails if the carrier has refused. -/
def flushLedger (sender : Sender types σ) : Ledger :=
  match sender.flushAnswer with
  | (.ok (), _, ledger) => ledger
  | (.error error, _, ledger) => ledger.fail sender.flushTicket error

theorem extends_flushLedger (sender : Sender types σ) : sender.flushAnswer.2.2.Extends sender.flushLedger := by
  unfold flushLedger
  rcases sender.flushAnswer with ⟨error | ⟨⟩, carrier, ledger⟩
  · exact Ledger.extends_complete ledger _ _
  · exact .refl ledger

/-- The sender when the flush has been asked for: it has the turn. -/
def flushAsked (sender : Sender types σ) : Sender types σ :=
  { sender with
    session.turn := { sender.session.turn with taken := true }
    carrier := sender.flushAnswer.2.1
    ledger := sender.flushLedger }

theorem beginFlush_of_free {sender : Sender types σ} (free : sender.session.turn.Free) :
    sender.beginFlush = sender.flushAsked.pollFlush sender.flushTicket := by
  have asks : sender.beginFlush
      = { sender with session.turn := { sender.session.turn with taken := true },
                      ledger := (sender.ledger.issue .future).2 }.askFlush sender.flushTicket := by
    unfold beginFlush Wait.start
    rw [free.request]
    rfl
  rw [asks]
  unfold askFlush flushAsked flushLedger flushAnswer
  dsimp only
  rcases Carrier.flush sender.carrier (sender.ledger.issue .future).2 sender.flushTicket with ⟨_ | ⟨⟩, carrier, ledger⟩ <;>
    rfl

theorem pollFlush_eq (sender : Sender types σ) (ticket : Ticket) :
    sender.pollFlush ticket = match sender.ledger.poll (Carrier.held sender.carrier) ticket with
      | some outcome => (.done outcome, { sender with session.turn := sender.session.turn.finish })
      | none => (.waiting (.blocking ticket), sender) := by
  unfold pollFlush Wait.poll
  cases sender.ledger.poll (Carrier.held sender.carrier) ticket <;> rfl

theorem resumeFlush_blocking (sender : Sender types σ) (ticket : Ticket) :
    sender.resumeFlush (.waiting (.blocking ticket)) = sender.pollFlush ticket := rfl

/-- A call that flushes takes its mode up when the flush has succeeded. -/
def takeUpCall (call : FlushCall) (result : FlushState × Sender types σ) : FlushState × Sender types σ :=
  match call.target? with
  | none => result
  | some mode => takeUpMode mode result

theorem beginCall_of_flushes {sender : Sender types σ} {call : FlushCall} (flushes : call.flushes sender.batchMode = true) :
    sender.beginCall call = takeUpCall call sender.beginFlush := by
  cases call with
  | flush => rfl
  | setMode mode => exact if_pos (by simpa [FlushCall.flushes, FlushCall.target?] using flushes)
  | allowBatching batching => exact if_pos (by simpa [FlushCall.flushes, FlushCall.target?] using flushes)

theorem beginCall_of_still {sender : Sender types σ} {call : FlushCall} (still : call.flushes sender.batchMode = false) :
    sender.beginCall call = (.done (.ok ()), { sender with batchMode := call.modeAfter sender.batchMode (.ok ()) }) := by
  cases call with
  | flush => cases still
  | setMode mode => exact if_neg (by simpa [FlushCall.flushes, FlushCall.target?] using still)
  | allowBatching batching => exact if_neg (by simpa [FlushCall.flushes, FlushCall.target?] using still)

theorem resumeCall_eq (sender : Sender types σ) (state : FlushState) (call : FlushCall) :
    sender.resumeCall state call = takeUpCall call (sender.resumeFlush state) := by
  cases call <;> rfl

/-- The mode after a call, as far as it has got. -/
def modeBy (call : FlushCall) (mode : BatchMode) : FlushState → BatchMode
  | .done outcome => call.modeAfter mode outcome
  | .waiting _ => mode

/-- The turn after a flush that has had it, as far as the flush has got. -/
def turnBy (turn : Turn) : FlushState → Turn
  | .done _ => { turn with released := turn.released + 1 }
  | .waiting _ => { turn with taken := true }

omit [Carrier σ] in
/-- Taking up a mode changes nothing else. -/
theorem takeUpCall_eq (call : FlushCall) (result : FlushState × Sender types σ) :
    takeUpCall call result
      = (result.1, { result.2 with batchMode := modeBy call result.2.batchMode result.1 }) := by
  obtain ⟨state, sender⟩ := result
  rcases state with wait | error | ⟨⟩
  all_goals
    unfold takeUpCall modeBy FlushCall.modeAfter
    cases call.target? <;> rfl

end Calls

/-! ## One call -/

section Call

variable {types : ValueTypes} {σ : Type} [Carrier σ] {now after : Sender types (Tallied σ)} {call : FlushCall}
  {state : FlushState}

/-- The flushes that the carrier was asked for. -/
def requests (sender : Sender types (Tallied σ)) : List FlushRequest := sender.carrier.requests

/-- From one moment to another no flush was asked for, and the turn and the mode were left alone. -/
structure Rests (before after : Sender types (Tallied σ)) : Prop where
  requests : after.requests = before.requests
  turn : after.session.turn = before.session.turn
  mode : after.batchMode = before.batchMode
  ledger : before.ledger.Extends after.ledger

theorem rests_afterElsewheres [LawfulCarrier σ] (sender : Sender types (Tallied σ)) {events : List Elsewhere}
    (alone : ∀ event ∈ events, event.shares = false) : sender.Rests (sender.afterElsewheres events) := by
  induction events generalizing sender with
  | nil => exact ⟨rfl, rfl, rfl, .refl _⟩
  | cons event events ih =>
    have grows := sender.extends_afterElsewhere event
    have first : sender.Rests (sender.afterElsewhere event) := by
      have unshared := alone event List.mem_cons_self
      cases event with
      | work | issue | complete => exact ⟨rfl, rfl, rfl, grows⟩
      | share => cases unshared
    obtain ⟨requests, turn, mode, ledger⟩ :=
      ih (sender.afterElsewhere event) fun later member => alone later (List.mem_cons_of_mem _ member)
    exact ⟨requests.trans first.requests, turn.trans first.turn, mode.trans first.mode, first.ledger.trans ledger⟩

/-- What a flush has come to when its ticket has been looked for. -/
structure Polled (now : Sender types (Tallied σ)) (result : FlushState × Sender types (Tallied σ)) : Prop where
  asked : result.2.requests = now.requests ++ [⟨now.flushTicket, now.flushAnswer.1⟩]
  ledger : now.flushLedger.Extends result.2.ledger
  mode : result.2.batchMode = now.batchMode
  looked : result.1 = match result.2.ledger.poll (Carrier.held result.2.carrier) now.flushTicket with
    | some outcome => .done outcome
    | none => .waiting (.blocking now.flushTicket)
  turn : result.2.session.turn = turnBy now.session.turn result.1

/-- The ticket is looked for while the sender has the turn. -/
theorem polled_pollFlush (free : now.session.turn.Free) (rests : now.flushAsked.Rests after) :
    now.Polled (after.pollFlush now.flushTicket) := by
  have asked : after.requests = now.requests ++ [⟨now.flushTicket, now.flushAnswer.1⟩] := rests.requests
  have mode : after.batchMode = now.batchMode := rests.mode
  have turn : after.session.turn = { now.session.turn with taken := true } := rests.turn
  rw [pollFlush_eq]
  cases seen : after.ledger.poll (Carrier.held after.carrier) now.flushTicket with
  | none => exact ⟨asked, rests.ledger, mode, by rw [seen], turn⟩
  | some outcome =>
    refine ⟨asked, rests.ledger, mode, ?_, ?_⟩
    · show FlushState.done outcome = match after.ledger.poll (Carrier.held after.carrier) now.flushTicket with
        | some outcome => .done outcome
        | none => .waiting (.blocking now.flushTicket)
      rw [seen]
    · show after.session.turn.finish = _
      rw [turn, free.finish]
      rfl

/-- A flush that waits for its outcome has been asked for, and the sender still has the turn. -/
theorem Polled.rests {wait : Wait} (polled : now.Polled (.waiting wait, after)) :
    wait = .blocking now.flushTicket ∧ now.flushAsked.Rests after := by
  refine ⟨?_, polled.asked, polled.turn, polled.mode, polled.ledger⟩
  have looked := polled.looked
  dsimp only at looked
  split at looked
  · cases looked
  · exact FlushState.waiting.inj looked

/-- A call that flushes has the outcome of its flush. -/
theorem Awaits.polled [LawfulCarrier σ] (awaits : Awaits call now state after) (free : now.session.turn.Free)
    (flushes : call.flushes now.batchMode = true) :
    ∃ result, now.Polled result ∧ (state, after) = takeUpCall call result := by
  induction awaits with
  | begun =>
    refine ⟨now.beginFlush, ?_, ?_⟩
    · rw [beginFlush_of_free free]
      exact polled_pollFlush free ⟨rfl, rfl, rfl, .refl _⟩
    · rw [← beginCall_of_flushes flushes]
  | @looked wait before events alone _ ih =>
    obtain ⟨result, polled, same⟩ := ih
    rw [takeUpCall_eq] at same
    obtain ⟨still, rfl⟩ := Prod.mk.inj same
    obtain ⟨state, before⟩ := result
    cases still
    obtain ⟨rfl, asked⟩ := polled.rests
    have later := before.rests_afterElsewheres alone
    refine ⟨(before.afterElsewheres events).pollFlush now.flushTicket, ?_, ?_⟩
    · refine polled_pollFlush free ⟨later.requests.trans asked.requests, later.turn.trans asked.turn,
        later.mode.trans asked.mode, asked.ledger.trans later.ledger⟩
    · rw [← resumeFlush_blocking, ← resumeCall_eq]
      rfl

/-- A call that does not flush returns at once. -/
theorem Awaits.still (awaits : Awaits call now state after) (still : call.flushes now.batchMode = false) :
    state = .done (.ok ()) ∧ after = { now with batchMode := call.modeAfter now.batchMode (.ok ()) } := by
  induction awaits with
  | begun =>
    rw [beginCall_of_still still]
    exact ⟨rfl, rfl⟩
  | looked events alone _ ih => cases ih.1

/-- A refusal is the outcome of the flush, unless the carrier has completed it before. -/
theorem outcome?_of_refused [LawfulFlush σ] {error : SendError} (refused : now.flushAnswer.1 = .error error) :
    now.flushLedger.outcome? now.flushTicket
      = some ((now.flushAnswer.2.2.outcome? now.flushTicket).getD (.error error)) := by
  have grown := (LawfulFlush.flush now.carrier (now.ledger.issue .future).2 now.flushTicket).extends.size_le
  have issued : now.flushTicket < (now.ledger.issue .future).2.slots.size := by
    simp [flushTicket, Ledger.issue]
  have there : now.flushTicket < now.flushAnswer.2.2.slots.size := Nat.lt_of_lt_of_le issued grown
  revert refused there
  unfold flushLedger
  rcases now.flushAnswer with ⟨verdict, carrier, ledger⟩
  rintro rfl there
  exact Ledger.outcome?_complete_self there _

/-- What a call that flushes has come to. -/
structure Flushing (call : FlushCall) (now : Sender types (Tallied σ)) (state : FlushState)
    (after : Sender types (Tallied σ)) : Prop where
  /-- The carrier was asked to flush once. -/
  asked : after.requests = now.requests ++ [⟨now.flushTicket, now.flushAnswer.1⟩]
  /-- It was asked when the mode was still the old one. -/
  early : now.beginFlush.2.requests = after.requests ∧ now.beginFlush.2.batchMode = now.batchMode
  /-- The first outcome counts, also if the carrier completes the flush and then refuses it. -/
  first : ∀ outcome, now.flushAnswer.2.2.outcome? now.flushTicket = some outcome → state = .done outcome
  refused : ∀ error, now.flushAnswer.1 = .error error → now.flushAnswer.2.2.outcome? now.flushTicket = none →
    state = .done (.error error)
  known : ∀ outcome, after.ledger.outcome? now.flushTicket = some outcome → state = .done outcome
  /-- Without an outcome the call waits as long as one may come. -/
  unknown : after.ledger.outcome? now.flushTicket = none →
    state = if after.ledger.isHeld (Carrier.held after.carrier) now.flushTicket then .waiting (.blocking now.flushTicket)
      else .done (.error .closed)
  mode : after.batchMode = modeBy call now.batchMode state
  turn : after.session.turn = turnBy now.session.turn state

theorem Polled.known {result : FlushState × Sender types (Tallied σ)} (polled : now.Polled result) {outcome : Outcome}
    (known : result.2.ledger.outcome? now.flushTicket = some outcome) : result.1 = .done outcome := by
  rw [polled.looked, Ledger.poll, known]

theorem Polled.flushing [LawfulFlush σ] {result : FlushState × Sender types (Tallied σ)} (polled : now.Polled result)
    (free : now.session.turn.Free) (same : (state, after) = takeUpCall call result) : Flushing call now state after := by
  rw [takeUpCall_eq] at same
  obtain ⟨rfl, rfl⟩ := Prod.mk.inj same
  have began : now.Polled now.beginFlush := by
    rw [beginFlush_of_free free]
    exact polled_pollFlush free ⟨rfl, rfl, rfl, .refl _⟩
  have first : ∀ outcome, now.flushLedger.outcome? now.flushTicket = some outcome → result.1 = .done outcome :=
    fun outcome known => polled.known (polled.ledger.outcome? known)
  exact {
    asked := polled.asked
    early := ⟨began.asked.trans polled.asked.symm, began.mode⟩
    first := fun outcome known => first outcome (now.extends_flushLedger.outcome? known)
    refused := fun error refused unknown => first _ (by rw [outcome?_of_refused refused, unknown]; rfl)
    known := fun outcome known => polled.known known
    unknown := by
      intro unknown
      rw [polled.looked, Ledger.poll, unknown]
      by_cases held : result.2.ledger.isHeld (Carrier.held result.2.carrier) now.flushTicket
      · simp [held]
      · simp [held]
    mode := by
      show modeBy call result.2.batchMode result.1 = _
      rw [polled.mode]
    turn := polled.turn }

/-! ## Runs of calls -/

variable {sender : Sender types (Tallied σ)} {calls : List (FlushCall × Outcome)}

/-- A sender that nobody waits for stands as an account says. -/
structure Stands (account : FlushAccount) (sender now : Sender types (Tallied σ)) : Prop where
  mode : now.batchMode = account.mode
  requests : now.requests.length = sender.requests.length + account.flushes
  free : now.session.turn.Free
  released : now.session.turn.released = sender.session.turn.released + account.flushes

omit [Carrier σ] in
theorem Stands.rests {account : FlushAccount} (stands : Stands account sender now) (rests : now.Rests after) :
    Stands account sender after := by
  refine ⟨rests.mode.trans stands.mode, ?_, ?_, ?_⟩
  · rw [rests.requests, stands.requests]
  · rw [rests.turn]
    exact stands.free
  · rw [rests.turn, stands.released]

/-- A call that has returned is entered in the account. -/
theorem Stands.returned [LawfulCarrier σ] [LawfulFlush σ] {account : FlushAccount} {outcome : Outcome}
    (stands : Stands account sender now) (awaits : Awaits call now (.done outcome) after) :
    Stands (account.after (call, outcome)) sender after := by
  have mode := stands.mode
  have asked := stands.requests
  have released := stands.released
  cases flushes : call.flushes now.batchMode with
  | true =>
    obtain ⟨result, polled, same⟩ := awaits.polled stands.free flushes
    have flushing := polled.flushing stands.free same
    have turn : after.session.turn = { now.session.turn with released := now.session.turn.released + 1 } := flushing.turn
    rw [mode] at flushes
    refine ⟨?_, ?_, ?_, ?_⟩
    · rw [flushing.mode, mode]
      rfl
    · rw [flushing.asked, List.length_append, asked]
      simp [FlushAccount.after, flushes, Nat.add_assoc]
    · rw [turn]
      exact stands.free.more _
    · rw [turn]
      simp [FlushAccount.after, flushes, released, Nat.add_assoc]
  | false =>
    obtain ⟨ok, rfl⟩ := awaits.still flushes
    cases ok
    rw [mode] at flushes
    refine ⟨?_, ?_, stands.free, ?_⟩
    · exact congrArg (call.modeAfter · (.ok ())) mode
    · show now.requests.length = _
      simpa [FlushAccount.after, flushes] using asked
    · simpa [FlushAccount.after, flushes] using released

theorem Serves.stands [LawfulCarrier σ] [LawfulFlush σ] (served : sender.Serves calls now) (free : sender.session.turn.Free) :
    Stands ((FlushAccount.mk sender.batchMode 0).afterAll calls) sender now := by
  induction served with
  | nothing => exact ⟨rfl, rfl, free, rfl⟩
  | elsewhere events alone _ ih => exact ih.rests (rests_afterElsewheres _ alone)
  | @returned calls now after call outcome _ awaits ih =>
    have account : (FlushAccount.mk sender.batchMode 0).afterAll (calls ++ [(call, outcome)])
        = ((FlushAccount.mk sender.batchMode 0).afterAll calls).after (call, outcome) := List.foldl_append
    rw [account]
    exact ih.returned awaits

/-- Flushes and changes of the batch mode that are awaited. A sender whose turn is free serves such calls one after another,
over a carrier that answers as it likes. When they have returned, its mode is what the account says, the carrier was asked
to flush once for each flush and each change from on to off, the turn is free, and as many more waits have come to their
end. The next call does not touch the carrier if it needs no flush; otherwise it asks once, before the mode changes, returns
the first outcome of that flush and gives the turn back, and the mode is taken up only if the flush has succeeded. -/
theorem awaited_calls_follow_account [LawfulCarrier σ] [LawfulFlush σ] (free : sender.session.turn.Free)
    (served : sender.Serves calls now) :
    let account := (FlushAccount.mk sender.batchMode 0).afterAll calls
    now.batchMode = account.mode ∧
    now.requests.length = sender.requests.length + account.flushes ∧
    now.session.turn.isIdle = true ∧
    now.session.turn.released = sender.session.turn.released + account.flushes ∧
    ∀ call state after, Awaits call now state after →
      if call.flushes now.batchMode then Flushing call now state after
      else state = .done (.ok ()) ∧ after = { now with batchMode := call.modeAfter now.batchMode (.ok ()) } := by
  intro account
  have stands := served.stands free
  refine ⟨stands.mode, stands.requests, by simp [Turn.isIdle, stands.free.untaken], stands.released, ?_⟩
  intro call state after awaits
  cases flushes : call.flushes now.batchMode with
  | true =>
    obtain ⟨result, polled, same⟩ := awaits.polled stands.free flushes
    exact polled.flushing stands.free same
  | false => exact awaits.still flushes

end Call

deriving instance DecidableEq for FlushState

/-- A sender over a carrier that keeps the tickets of flushes. -/
def retaining : Sender catalogue (Tallied ScriptedCarrier) :=
  .start (.ofRegistry .empty) ⟨{ ScriptedCarrier.accepting with flushReply := .hold }, []⟩ .empty

/-- A call whose flush is completed elsewhere before it is looked at again. -/
def completedCall (sender : Sender catalogue (Tallied ScriptedCarrier)) (call : FlushCall) (outcome : Outcome) :
    FlushState × Sender catalogue (Tallied ScriptedCarrier) :=
  ((sender.beginCall call).2.afterElsewheres [.complete sender.flushTicket outcome]).resumeCall
    (.waiting (.blocking sender.flushTicket)) call

theorem awaits_completedCall {sender : Sender catalogue (Tallied ScriptedCarrier)} {call : FlushCall} {outcome : Outcome}
    (waits : (sender.beginCall call).1 = .waiting (.blocking sender.flushTicket))
    (returns : (sender.completedCall call outcome).1 = .done outcome) :
    Awaits call sender (.done outcome) (sender.completedCall call outcome).2 := by
  have waiting : Awaits call sender (.waiting (.blocking sender.flushTicket)) (sender.beginCall call).2 := waits ▸ .begun
  have looked := waiting.looked [.complete sender.flushTicket outcome] (by simp [Elsewhere.shares])
  rw [← returns]
  exact looked

/-- Mode on is left after a flush that failed, which keeps it, and one that was asked for, and one that succeeded. -/
theorem awaited_calls_follow_account_keeping :
    let batching := (retaining.beginCall (.setMode .on)).2
    let failed := (batching.completedCall (.allowBatching false) (.error .backpressure)).2
    let flushed := (failed.completedCall .flush (.ok ())).2
    let last := (flushed.completedCall (.setMode .off) (.ok ())).2
    retaining.session.turn.Free ∧
    retaining.Serves [(.setMode .on, .ok ()), (.allowBatching false, .error .backpressure), (.flush, .ok ()),
      (.setMode .off, .ok ())] last ∧
    failed.batchMode = .on ∧ last.batchMode = .off ∧ last.requests.length = 3 ∧ last.session.turn.isIdle = true ∧
    last.session.turn.released = 3 ∧
    Flushing .flush last (.waiting (.blocking 3)) (last.beginCall .flush).2 := by
  intro batching failed flushed last
  have free : retaining.session.turn.Free := ⟨rfl, rfl, rfl⟩
  have on : retaining.Serves [(.setMode .on, .ok ())] batching := .returned .nothing .begun
  have kept : retaining.Serves [(.setMode .on, .ok ()), (.allowBatching false, .error .backpressure)] failed :=
    .returned on (awaits_completedCall (by decide +kernel) (by decide +kernel))
  have asked : retaining.Serves [(.setMode .on, .ok ()), (.allowBatching false, .error .backpressure), (.flush, .ok ())]
      flushed := .returned kept (awaits_completedCall (by decide +kernel) (by decide +kernel))
  have served : retaining.Serves [(.setMode .on, .ok ()), (.allowBatching false, .error .backpressure), (.flush, .ok ()),
      (.setMode .off, .ok ())] last := .returned asked (awaits_completedCall (by decide +kernel) (by decide +kernel))
  obtain ⟨mode, requests, idle, released, next⟩ := awaited_calls_follow_account free served
  have again : (last.beginCall .flush).1 = .waiting (.blocking 3) := by decide +kernel
  have flushing := next .flush _ _ .begun
  rw [again] at flushing
  exact ⟨free, served, by decide +kernel, mode, requests, idle, released, flushing⟩

end Sender
end Egress
