import Egress.Proofs.OwnMode
import Egress.Proofs.StreamedMessage

/-!
Changes of the batch mode. Going from on to off flushes first, so that no frame is left waiting when frames are written
at once again. Going from on to auto does not flush, and neither does going on to off from there: frames that were sent
in mode on then wait until something else is sent. This is the only way to leave frames behind.
-/
namespace Egress

open Ledger (Deed Evolves)

namespace Sender

variable {types : ValueTypes} {key : Nat → Option MaskKey} {sender after : Sender types (Logged (Scheduled key))}
  {ticket : Ticket}

/-! ## Flushing -/

/-- The last command that was accepted is a flush. -/
def JustFlushed (sender : Sender types (Logged (Scheduled key))) : Prop :=
  ∃ ticket, sender.accepted.getLast? = some (.flush ticket)

/-- How far a flush has got. One that waits for its outcome is the last command accepted, and so is one that has just
succeeded. -/
def FlushState.Stands (sender : Sender types (Logged (Scheduled key))) : FlushState → Prop
  | .waiting (.queued _) => True
  | .waiting (.holding _) => False
  | .waiting (.blocking _) => sender.JustFlushed
  | .done outcome => outcome = .ok () → sender.JustFlushed

theorem JustFlushed.same (flushed : sender.JustFlushed) (same : after.accepted = sender.accepted) : after.JustFlushed := by
  obtain ⟨ticket, last⟩ := flushed
  exact ⟨ticket, same ▸ last⟩

theorem moves_pollFlush (sender : Sender types (Logged (Scheduled key))) (ticket : Ticket) :
    sender.Moves (sender.pollFlush ticket).2 ∧ (sender.pollFlush ticket).2.accepted = sender.accepted := by
  unfold pollFlush
  split <;> exact ⟨moves_still rfl rfl (.refl _), rfl⟩

/-- A flush that waits for its outcome, or has it. -/
theorem stands_pollFlush (flushed : sender.JustFlushed) (ticket : Ticket) :
    (sender.pollFlush ticket).1.Stands (sender.pollFlush ticket).2 := by
  have after := flushed.same (sender.moves_pollFlush ticket).2
  revert after
  unfold pollFlush
  split
  · exact fun after _ => after
  · exact id

/-- A flush that has failed does not succeed. -/
theorem stands_pollFlush_of_error {error : SendError} (known : sender.ledger.outcome? ticket = some (.error error)) :
    (sender.pollFlush ticket).1.Stands (sender.pollFlush ticket).2 := by
  have polled : sender.ledger.poll (Carrier.held sender.carrier) ticket = some (.error error) := by
    rw [Ledger.poll, known]
  unfold pollFlush Wait.poll
  rw [polled]
  intro ok
  cases ok

/-- A flush is asked for with a fresh ticket: it is the next command that is accepted, or it fails at once. -/
theorem moves_askFlush (fresh : sender.Fresh ticket) :
    sender.Moves (sender.askFlush ticket).2 ∧ (sender.askFlush ticket).1.Stands (sender.askFlush ticket).2 := by
  obtain ⟨sent, carries, verdict⟩ := sender.carrier.carrier.carries_send sender.ledger (.flush ticket)
  let answer := sender.carrier.carrier.send sender.ledger (.flush ticket)
  let asked : Sender types (Logged (Scheduled key)) :=
    { sender with carrier := { sender.carrier with carrier := answer.2.1 }, ledger := answer.2.2 }
  change Traffic.Carries sent sender.traffic asked.traffic at carries
  have flushed : Carrier.flush sender.carrier sender.ledger ticket =
      (answer.1, { sender.carrier with carrier := answer.2.1 }, answer.2.2) := rfl
  rcases verdict with ⟨taken, rfl⟩ | ⟨⟨error, refused⟩, rfl⟩
  · have same : sender.askFlush ticket = asked.pollFlush ticket := by
      unfold askFlush
      rw [flushed, show answer.1 = .ok () from taken]
    rw [same]
    have moved : sender.Moves asked := by
      refine moves_carries carries rfl fun command member => ?_
      cases List.mem_singleton.mp member
      refine ⟨fresh.issued, fun mode asked => ?_⟩
      cases asked
    have flushed : asked.JustFlushed := by
      refine ⟨ticket, ?_⟩
      rw [show asked.accepted = sender.accepted ++ [.flush ticket] from carries.accepted]
      exact List.getLast?_concat
    exact ⟨moved.trans (asked.moves_pollFlush ticket).1, stands_pollFlush flushed ticket⟩
  · have same : sender.askFlush ticket = (asked.fail ticket error).pollFlush ticket := by
      unfold askFlush
      rw [flushed, show answer.1 = .error error from refused]
    rw [same]
    have moved : sender.Moves asked := moves_carries carries rfl (List.forall_mem_nil _)
    -- before the refusal the writer completes other tickets only
    have kept := slot_of_carries carries fresh.alone fresh.issued fun own held => fresh.allows.held own held (.ok ())
    obtain ⟨recipient, slot⟩ := fresh.pending
    have pending : asked.ledger.pending? ticket = some recipient := Ledger.pending?_eq_some.mpr (kept.trans slot)
    have known : (asked.fail ticket error).ledger.outcome? ticket = some (.error error) := Ledger.outcome?_complete pending
    exact ⟨(moved.trans (asked.moves_fail ticket error)).trans ((asked.fail ticket error).moves_pollFlush ticket).1,
      stands_pollFlush_of_error known⟩

/-- A waiter who has been granted the turn asks for its flush. -/
theorem moves_granted (served : sender.Served) (turn : Turn) :
    sender.Moves (sender.goOn (Wait.granted turn sender.ledger)).2 ∧
      (sender.goOn (Wait.granted turn sender.ledger)).1.Stands (sender.goOn (Wait.granted turn sender.ledger)).2 := by
  let issued := (sender.issue .future).2
  let begun : Sender types (Logged (Scheduled key)) := { issued with session.turn := turn }
  have moved : sender.Moves begun := moves_still rfl rfl (.one (.issue .future) nofun trivial)
  have fresh : issued.Fresh sender.ledger.slots.size :=
    fresh_issue served.sound (fun _ member => served.numbered.held member) nofun
  have still : begun.Fresh sender.ledger.slots.size :=
    ⟨fresh.alone, fresh.pending, fresh.allows.held, fresh.allows.new⟩
  obtain ⟨asked, stands⟩ := moves_askFlush still
  exact ⟨moved.trans asked, stands⟩

theorem moves_beginFlush (served : sender.Served) :
    sender.Moves sender.beginFlush.2 ∧ sender.beginFlush.1.Stands sender.beginFlush.2 := by
  unfold beginFlush Wait.start
  rcases sender.session.turn.request waiter with ⟨_ | _, turn⟩
  · exact ⟨moves_still rfl rfl (.refl _), trivial⟩
  · exact moves_granted served turn

theorem moves_resumeFlush (served : sender.Served) {state : FlushState} (stands : state.Stands sender) :
    sender.Moves (sender.resumeFlush state).2 ∧ (sender.resumeFlush state).1.Stands (sender.resumeFlush state).2 := by
  cases state with
  | done outcome => exact ⟨.refl sender, stands⟩
  | waiting wait =>
    cases wait with
    | queued waiter =>
      show sender.Moves (sender.goOn (Wait.retry _ _ (.queued waiter))).2 ∧ _
      unfold resumeFlush Wait.retry
      dsimp only
      rcases sender.session.turn.retry waiter with ⟨_ | _, turn⟩
      · exact ⟨moves_still rfl rfl (.refl _), trivial⟩
      · exact moves_granted served turn
    | holding ticket => exact stands.elim
    | blocking ticket =>
      exact ⟨(sender.moves_pollFlush ticket).1, stands_pollFlush stands ticket⟩

/-! ## Requests -/

/-- What an application waits for. -/
inductive Request where
  | flush
  /-- Whether batching is allowed is a change to mode on or to mode off. -/
  | mode (mode : BatchMode)

def beginRequest (sender : Sender types (Logged (Scheduled key))) :
    Request → FlushState × Sender types (Logged (Scheduled key))
  | .flush => sender.beginFlush
  | .mode mode => sender.beginSetBatchMode mode

def resumeRequest (sender : Sender types (Logged (Scheduled key))) (state : FlushState) :
    Request → FlushState × Sender types (Logged (Scheduled key))
  | .flush => sender.resumeFlush state
  | .mode mode => sender.resumeSetBatchMode mode state

/-- A mode that was left and the one entered, and how many commands had been accepted by then. -/
structure Change where
  left : BatchMode
  entered : BatchMode
  accepted : Nat
  deriving DecidableEq

/-- The change of mode in a request that has come to its end. -/
def changed (before : Sender types (Logged (Scheduled key))) :
    Request → FlushState × Sender types (Logged (Scheduled key)) → List Change
  | .mode mode, (.done (.ok ()), after) => [⟨before.batchMode, mode, after.accepted.length⟩]
  | _, _ => []

/-- If the last command that was accepted is a frame of mode on, then the sender is in mode on, or has left it for auto
since. -/
def Watched (changes : List Change) (sender : Sender types (Logged (Scheduled key))) : Prop :=
  ∀ command, sender.accepted.getLast? = some command → command.mode? = some .on →
    sender.batchMode = .on ∨ ⟨.on, .auto, sender.accepted.length⟩ ∈ changes

variable {changes : List Change}

theorem Watched.moves (watched : sender.Watched changes) (moves : sender.Moves after) : after.Watched changes := by
  obtain ⟨sent, accepted, own⟩ := moves.accepted
  intro command last on
  rw [moves.mode, accepted]
  rw [accepted, List.getLast?_append] at last
  cases latest : sent.getLast? with
  | some other =>
    rw [latest] at last
    cases last
    exact .inl (own command (List.mem_of_getLast? latest) .on on).symm
  | none =>
    have none : sent = [] := List.getLast?_eq_none_iff.mp latest
    rw [latest] at last
    rw [none, List.append_nil]
    exact watched command last on

theorem JustFlushed.watched (flushed : sender.JustFlushed) (changes : List Change) : sender.Watched changes := by
  obtain ⟨ticket, latest⟩ := flushed
  intro command last on
  rw [latest] at last
  cases last
  cases on

/-- A mode that is entered without a flush. -/
theorem Watched.enter (watched : sender.Watched changes) {mode : BatchMode}
    (other : ¬ (sender.batchMode = .on ∧ mode = .off)) :
    ({ sender with batchMode := mode } : Sender types (Logged (Scheduled key))).Watched
      (changes ++ [⟨sender.batchMode, mode, sender.accepted.length⟩]) := by
  intro command last on
  rcases watched command last on with here | left
  · cases mode with
    | on => exact .inl rfl
    | off => exact absurd ⟨here, rfl⟩ other
    | auto =>
      rw [here]
      exact .inr (List.mem_append_right _ List.mem_cons_self)
  · exact .inr (List.mem_append_left _ left)

/-- What a request has come to, when it waits or has been answered. -/
structure Answers (changes : List Change) (before : Sender types (Logged (Scheduled key))) (request : Request)
    (result : FlushState × Sender types (Logged (Scheduled key))) : Prop where
  served : result.2.Served
  watched : result.2.Watched (changes ++ changed before request result)
  stands : ∀ wait, result.1 = .waiting wait → result.1.Stands result.2

/-- A mode is taken up when the flush before has succeeded. -/
theorem answers_takeUpMode (watched : sender.Watched changes) (mode : BatchMode) {state : FlushState}
    (served : after.Served) (moves : sender.Moves after) (stands : state.Stands after) :
    Answers changes sender (.mode mode) (takeUpMode mode (state, after)) := by
  have still : after.Watched changes := watched.moves moves
  cases state with
  | waiting wait =>
    refine ⟨served, ?_, fun _ _ => stands⟩
    exact (List.append_nil changes).symm ▸ still
  | done outcome =>
    rcases outcome with error | ⟨⟩
    · refine ⟨served, ?_, nofun⟩
      exact (List.append_nil changes).symm ▸ still
    · let entered : Sender types (Logged (Scheduled key)) := { after with batchMode := mode }
      have flushed : entered.JustFlushed := (stands rfl).same rfl
      exact ⟨⟨served.sound, served.numbered, served.answered⟩, flushed.watched _, nofun⟩

theorem answers_beginRequest (served : sender.Served) (watched : sender.Watched changes) (request : Request) :
    Answers changes sender request (sender.beginRequest request) := by
  obtain ⟨moves, stands⟩ := moves_beginFlush served
  cases request with
  | flush =>
    refine ⟨moves.served served, ?_, fun _ _ => stands⟩
    exact (List.append_nil changes).symm ▸ watched.moves moves
  | mode mode =>
    show Answers changes sender (.mode mode) (sender.beginSetBatchMode mode)
    unfold beginSetBatchMode
    split
    case isTrue => exact answers_takeUpMode watched mode (moves.served served) moves stands
    case isFalse other => exact ⟨⟨served.sound, served.numbered, served.answered⟩, watched.enter other, nofun⟩

theorem answers_resumeRequest (served : sender.Served) (watched : sender.Watched changes) {state : FlushState}
    (stands : state.Stands sender) (request : Request) :
    Answers changes sender request (sender.resumeRequest state request) := by
  obtain ⟨moves, after⟩ := moves_resumeFlush served stands
  cases request with
  | flush =>
    refine ⟨moves.served served, ?_, fun _ _ => after⟩
    exact (List.append_nil changes).symm ▸ watched.moves moves
  | mode mode => exact answers_takeUpMode watched mode (moves.served served) moves after

/-! ## Elsewhere -/

theorem accepted_afterElsewhere (sender : Sender types (Logged (Scheduled key))) (event : Elsewhere) :
    (sender.afterElsewhere event).accepted = sender.accepted := by
  cases event with
  | work => exact sender.carries_letWork.accepted.trans (List.append_nil _)
  | issue | complete | share => rfl

/-- Whatever happens elsewhere, a flush is not overtaken while its sender waits for it. -/
theorem FlushState.Stands.elsewhere {state : FlushState} (stands : state.Stands sender) (event : Elsewhere) :
    state.Stands (sender.afterElsewhere event) := by
  have same := sender.accepted_afterElsewhere event
  cases state with
  | done outcome => exact fun ok => (stands ok).same same
  | waiting wait =>
    cases wait with
    | queued waiter => trivial
    | holding ticket => exact stands
    | blocking ticket => exact JustFlushed.same stands same

end Sender

/-- Who has a sender: the application or a stream, or a request that waits. -/
inductive Tenure (types : ValueTypes) (key : Nat → Option MaskKey) where
  | held (custody : Custody types (Logged (Scheduled key)))
  | asking (request : Sender.Request) (state : Sender.FlushState) (sender : Sender types (Logged (Scheduled key)))

inductive TenureEvent (types : ValueTypes) where
  | event (event : Event types)
  | ask (request : Sender.Request)
  /-- The application looks whether its request has come to an end. -/
  | look
  | giveUp

/-- A sender over a writer, and the changes of mode that have returned. -/
structure Shift (types : ValueTypes) (key : Nat → Option MaskKey) where
  tenure : Tenure types key
  changes : List Sender.Change

namespace Shift

variable {types : ValueTypes} {key : Nat → Option MaskKey}

def sender (shift : Shift types key) : Sender types (Logged (Scheduled key)) :=
  match shift.tenure with
  | .held custody => custody.sender
  | .asking _ _ sender => sender

def history (shift : Shift types key) : History := shift.sender.traffic.history

/-- A sender over a writer that has not been used. -/
def start (session : Session types) (writer : Scheduled key) (ledger : Ledger) : Shift types key :=
  ⟨.held (.free (.start session (.fresh writer) ledger)), []⟩

/-- A request is answered, or it waits. -/
def answer (shift : Shift types key) (request : Sender.Request)
    (result : Sender.FlushState × Sender types (Logged (Scheduled key))) : Shift types key where
  tenure := match result.1 with
    | .waiting wait => .asking request (.waiting wait) result.2
    | .done _ => .held (.free result.2)
  changes := shift.changes ++ shift.sender.changed request result

/-- Nothing is sent while a request waits, and no request is made while a stream has the sender: such events change
nothing. -/
def after (shift : Shift types key) (event : TenureEvent types) : Shift types key :=
  match shift.tenure, event with
  | .held custody, .event event =>
    if custody.permits event then { shift with tenure := .held (custody.after event) } else shift
  | .held (.free sender), .ask request => shift.answer request (sender.beginRequest request)
  | .asking request state sender, .look => shift.answer request (sender.resumeRequest state request)
  | .asking _ state sender, .giveUp => { shift with tenure := .held (.free (sender.abandonFlush state)) }
  | .asking request state sender, .event (.elsewhere event) =>
    if event.proper sender.ledger then { shift with tenure := .asking request state (sender.afterElsewhere event) }
    else shift
  | _, _ => shift

def afterAll (shift : Shift types key) (events : List (TenureEvent types)) : Shift types key := events.foldl after shift

structure Kept (shift : Shift types key) : Prop where
  served : shift.sender.Served
  watched : shift.sender.Watched shift.changes
  stands : match shift.tenure with
    | .held custody => custody.Owned
    | .asking _ state sender => state.Stands sender

variable {shift : Shift types key}

theorem kept_answer {request : Sender.Request} {result : Sender.FlushState × Sender types (Logged (Scheduled key))}
    (answers : Sender.Answers shift.changes shift.sender request result) : (shift.answer request result).Kept := by
  obtain ⟨served, watched, stands⟩ := answers
  obtain ⟨state, sender⟩ := result
  cases state with
  | waiting wait => exact ⟨served, watched, stands wait rfl⟩
  | done outcome => exact ⟨served, watched, trivial⟩

theorem Kept.after (kept : shift.Kept) (event : TenureEvent types) : (shift.after event).Kept := by
  obtain ⟨tenure, changes⟩ := shift
  obtain ⟨served, watched, stands⟩ := kept
  have unchanged : Kept ⟨tenure, changes⟩ := ⟨served, watched, stands⟩
  cases tenure with
  | held custody =>
    cases event with
    | event event =>
      show Kept (if custody.permits event then _ else _)
      split
      case isTrue permitted =>
        obtain ⟨moves, owned⟩ := Custody.moves_after stands permitted
        exact ⟨moves.served served, watched.moves moves, owned⟩
      case isFalse => exact unchanged
    | ask request =>
      cases custody with
      | free sender => exact kept_answer (Sender.answers_beginRequest served watched request)
      | lent stream => exact unchanged
    | look | giveUp => cases custody <;> exact unchanged
  | asking request state sender =>
    cases event with
    | event event =>
      cases event with
      | elsewhere event =>
        show Kept (if event.proper sender.ledger then _ else _)
        split
        case isTrue proper =>
          have moves := Sender.moves_afterElsewhere proper
          exact ⟨moves.served served, watched.moves moves, Sender.FlushState.Stands.elsewhere stands event⟩
        case isFalse => exact unchanged
      | _ => exact unchanged
    | ask request => exact unchanged
    | look => exact kept_answer (Sender.answers_resumeRequest served watched stands request)
    | giveUp =>
      have moves : sender.Moves (sender.abandonFlush state) := by
        cases state <;> exact Sender.moves_still rfl rfl (.refl _)
      exact ⟨moves.served served, watched.moves moves, trivial⟩

theorem Kept.afterAll (kept : shift.Kept) (events : List (TenureEvent types)) : (shift.afterAll events).Kept := by
  induction events generalizing shift with
  | nil => exact kept
  | cons event events ih => exact ih (kept.after event)

theorem kept_start (session : Session types) {writer : Scheduled key} (unused : writer.history.accepted = [])
    {ledger : Ledger} (sound : ledger.Sound) : (start session writer ledger).Kept := by
  let idle : Sender types (Logged (Scheduled key)) := ⟨session, .fresh writer, ledger, session.settings.batchMode, none⟩
  have nothing : idle.accepted = [] := unused
  have served : idle.Served := by
    refine ⟨sound, fun command member => ?_, fun completion member => ?_⟩
    · rw [nothing] at member
      exact absurd member List.not_mem_nil
    · have answered : completion.1 ∈ idle.traffic.history.completed.map Prod.fst ++ idle.traffic.history.writer.tickets :=
        List.mem_append_left _ (List.mem_map_of_mem member)
      rw [idle.sound_history.tickets] at answered
      obtain ⟨command, accepted, _⟩ := List.mem_map.mp answered
      change command ∈ idle.accepted at accepted
      rw [nothing] at accepted
      exact absurd accepted List.not_mem_nil
  have watched : idle.Watched [] := by
    intro command last
    rw [nothing] at last
    cases last
  have moves := idle.moves_setIdleTimeout session.settings.idleTimeout
  exact ⟨moves.served served, watched.moves moves, trivial⟩

/-- Mode on was left for mode auto after the last command had been accepted, a frame that waits. -/
def LeftForAuto (shift : Shift types key) : Prop :=
  ⟨.on, .auto, shift.history.accepted.length⟩ ∈ shift.changes ∧
    ∃ command, shift.history.accepted.getLast? = some command ∧ command.mode? = some .on

/-- What leaving mode on leaves behind. A sender starts over a writer that has not been used; it sends in its own mode
whatever it likes, and changes its mode as often as it likes, while the worker makes its steps. When the sender is in
mode off and the worker rests without a failure, then no frame waits in the batch: every command that was accepted has
been written and completed with success, and its ticket has an outcome. The exception is that mode on was left for mode
auto and nothing has been accepted since. -/
theorem off_leaves_nothing_waiting (session : Session types) {writer : Scheduled key}
    (unused : writer.history.accepted = []) {ledger : Ledger} (reached : ledger.Reached) (events : List (TenureEvent types))
    (off : ((start session writer ledger).afterAll events).sender.batchMode = .off)
    (rest : ((start session writer ledger).afterAll events).history.writer.step? = none)
    (unended : ((start session writer ledger).afterAll events).history.writer.ended = none)
    (flushed : ¬ ((start session writer ledger).afterAll events).LeftForAuto) :
    let shift := (start session writer ledger).afterAll events
    shift.history.writer.batch.frames = [] ∧
    shift.history.completed.map Prod.fst = shift.history.accepted.map Command.ticket ∧
    (∀ completion ∈ shift.history.completed, completion.2 = .ok ()) ∧
    shift.history.writer.transport.bytes = Command.wire key shift.history.accepted ∧
    ∀ command ∈ shift.history.accepted, (shift.sender.ledger.outcome? command.ticket).isSome := by
  intro shift
  have kept : shift.Kept := (kept_start session unused reached.sound).afterAll events
  have arises : shift.history.Arises key := shift.sender.carrier.carrier.arises
  have last : ∀ command, shift.history.accepted.getLast? = some command → command.mode? ≠ some .on := by
    intro command last on
    rcases kept.watched command last on with here | left
    · cases off.symm.trans here
    · exact flushed ⟨left, command, last, on⟩
  obtain ⟨frames, tickets, well, bytes⟩ := arises.written_at_rest rest unended last
  refine ⟨frames, tickets, well, bytes, fun command member => ?_⟩
  have known : command.ticket ∈ shift.history.completed.map Prod.fst := by
    rw [tickets]
    exact List.mem_map_of_mem member
  obtain ⟨completion, done, same⟩ := List.mem_map.mp known
  rw [← same]
  exact kept.served.answered completion done

/-- A server's writer whose worker has its turns laid down. -/
def turns (schedule : List Nat) : Scheduled (WriterSettings.standard.keyFor MessageStream.serving.keys) :=
  ⟨.start MessageStream.serving, MessageStream.arises_serving, Nat.one_ne_zero, schedule⟩

/-- A text waits in mode on, mode off is asked for while the worker is busy, and a second text is sent in mode off. -/
def flushingEvents : List (TenureEvent catalogue) :=
  [.event (.elsewhere (.issue .listener)), .ask (.mode .on), .event (.call (.text "a" 0)), .ask (.mode .off),
    .event (.elsewhere .work), .look, .event (.call (.text "b" 0)), .event (.elsewhere .work)]

abbrev flushingShift : Shift catalogue (WriterSettings.standard.keyFor MessageStream.serving.keys) :=
  (start (.ofRegistry .empty) (turns [0, 0, 0, 0, 20, 0, 0, 20]) .empty).afterAll flushingEvents

theorem off_leaves_nothing_waiting_flushing :
    flushingShift.sender.batchMode = .off ∧ flushingShift.history.writer.step? = none ∧
    flushingShift.history.writer.ended = none ∧ flushingShift.changes = [⟨.off, .on, 0⟩, ⟨.on, .off, 2⟩] ∧
    flushingShift.history.writer.batch.frames = [] ∧
    flushingShift.history.writer.transport.bytes = [129, 1, 97, 129, 1, 98] := by
  have off : flushingShift.sender.batchMode = .off := by decide +kernel
  have rest : flushingShift.history.writer.step? = none := Option.isNone_iff_eq_none.mp (by decide +kernel)
  have unended : flushingShift.history.writer.ended = none := Option.isNone_iff_eq_none.mp (by decide +kernel)
  have changes : flushingShift.changes = [⟨.off, .on, 0⟩, ⟨.on, .off, 2⟩] := by decide +kernel
  have flushed : ¬ flushingShift.LeftForAuto := by
    rintro ⟨left, _⟩
    rw [changes] at left
    exact absurd left (by decide +kernel)
  obtain ⟨frames, _, _, bytes, _⟩ := off_leaves_nothing_waiting _ rfl (.refl _) flushingEvents off rest unended flushed
  refine ⟨off, rest, unended, changes, frames, bytes.trans ?_⟩
  decide +kernel

/-- A text waits in mode on, which is left for auto and then for off. -/
def strandingEvents : List (TenureEvent catalogue) :=
  [.event (.elsewhere (.issue .listener)), .ask (.mode .on), .event (.call (.text "a" 0)), .ask (.mode .auto),
    .ask (.mode .off), .event (.elsewhere .work)]

/-- The change to mode off has returned, and the worker rests without a failure, but the text still waits. -/
theorem auto_leaves_frame_waiting :
    let shift := (start (.ofRegistry .empty) (turns [0, 0, 20]) .empty).afterAll strandingEvents
    shift.changes = [⟨.off, .on, 0⟩, ⟨.on, .auto, 1⟩, ⟨.auto, .off, 1⟩] ∧ shift.sender.batchMode = .off ∧
    shift.history.writer.step? = none ∧ shift.history.writer.ended = none ∧
    shift.history.accepted.map Command.ticket = [0] ∧ shift.history.writer.batch.tickets = [0] ∧
    shift.sender.ledger.pending? 0 = some .listener ∧ shift.history.writer.transport.bytes = [] := by
  intro shift
  have rest : shift.history.writer.step? = none := Option.isNone_iff_eq_none.mp (by decide +kernel)
  have unended : shift.history.writer.ended = none := Option.isNone_iff_eq_none.mp (by decide +kernel)
  refine ⟨?_, ?_, rest, unended, ?_, ?_, ?_, ?_⟩ <;> decide +kernel

end Shift
end Egress
