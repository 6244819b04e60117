import Egress.Proofs.Accounts
import Egress.Proofs.Filling

/-!
Control frames. There are two ways to send one: by itself, and then the answer is given back, or as any other frame, and
then a ticket is told of an error. Both make the same checks. Whatever an application does with a sender, the control
frames that the carrier is handed are those that were asked for and passed the checks.
-/
namespace Egress

/-- The frame that may be sent in place of a control frame: all of it if it fits, and otherwise its first bytes, if the
policy is to cut it. Nothing may be sent in place of a frame that is not final. -/
def Frame.sendable? (policy : ControlPolicy) (frame : Frame) : Option Frame :=
  if frame.final = true ∧ (frame.payload.length ≤ maxControlPayload ∨ policy = .truncate) then
    some { frame with payload := frame.payload.take maxControlPayload }
  else none

theorem Frame.sendable?_eq_some_iff {policy : ControlPolicy} {frame sent : Frame} :
    frame.sendable? policy = some sent ↔ frame.final = true ∧ sent.final = true ∧ sent.opcode = frame.opcode ∧
      (frame.payload.length ≤ maxControlPayload ∧ sent.payload = frame.payload ∨
        maxControlPayload < frame.payload.length ∧ policy = .truncate ∧
          sent.payload = frame.payload.take maxControlPayload) := by
  obtain ⟨opcode, final, payload⟩ := frame
  obtain ⟨opcode', final', payload'⟩ := sent
  unfold sendable?
  by_cases short : payload.length ≤ maxControlPayload
  · have cut : ¬ maxControlPayload < payload.length := Nat.not_lt.mpr short
    simp only [short, cut, List.take_of_length_le short]
    grind
  · have long : maxControlPayload < payload.length := Nat.lt_of_not_le short
    simp only [short, long]
    grind

/-- The control frames among those that a carrier was handed. -/
def controls (log : List Handover) : List Frame := (log.map Handover.frame).filter (!·.isData)

@[simp] theorem controls_append (log new : List Handover) : controls (log ++ new) = controls log ++ controls new := by
  simp [controls]

theorem controls_of_data {handover : Handover} (data : handover.frame.isData = true) : controls [handover] = [] := by
  simp [controls, data]

/-- The control frame that a call asks to send, if it does. -/
def Call.control? {types : ValueTypes} : Call types → Option Frame
  | .frame given _ _ => if given.isData then none else some given
  | .ping payload => some (.ping payload)
  | .pong payload => some (.pong payload)
  | _ => none

namespace Call

variable {types : ValueTypes} {call : Call types} {frame given : Frame} {ticket : Ticket} {mode : BatchMode}

/-- A frame that is no data frame is asked for as it is. -/
theorem control?_frame :
    (Call.frame given ticket mode : Call types).control? = some frame ↔ given.isData = false ∧ given = frame := by
  cases data : given.isData <;> simp [control?, data]

theorem isData_of_control (asked : call.control? = some frame) : frame.isData = false := by
  cases call with
  | frame given ticket mode =>
    obtain ⟨control, rfl⟩ := control?_frame.mp asked
    exact control
  | ping payload =>
    cases asked
    rfl
  | pong payload =>
    cases asked
    rfl
  | _ => cases asked

end Call

/-- A fragment is a data frame. -/
theorem OpenMessage.isData_fragmentOpcode (state : OpenMessage) (kind : MessageKind) :
    (state.fragmentOpcode kind).isData = true := by
  unfold fragmentOpcode
  split
  · rfl
  · exact kind.isData_opcode

namespace Sender

variable {types : ValueTypes} {σ : Type}

/-- What may be sent is what passes the checks of a sender. -/
theorem checkControl_sendable (policy : ControlPolicy) (frame : Frame) :
    (∃ sent, frame.sendable? policy = some sent ∧ checkControl policy frame = .ok sent) ∨
      frame.sendable? policy = none ∧ ∃ error, checkControl policy frame = .error error := by
  obtain ⟨opcode, final, payload⟩ := frame
  unfold Frame.sendable? checkControl
  cases final with
  | false => exact .inr ⟨by simp, _, rfl⟩
  | true =>
    by_cases short : payload.length ≤ Frame.maxControlPayload
    · exact .inl ⟨⟨opcode, true, payload⟩, by simp [short, List.take_of_length_le short], by simp [short]⟩
    · cases policy with
      | reject =>
        exact .inr ⟨by simp [short], .controlTooLong payload.length Frame.maxControlPayload, by simp [short]⟩
      | truncate => exact .inl ⟨⟨opcode, true, payload.take Frame.maxControlPayload⟩, by simp, by simp [short]⟩

theorem isData_of_sendable {policy : ControlPolicy} {frame sent : Frame} (sendable : frame.sendable? policy = some sent) :
    sent.isData = frame.isData :=
  congrArg Opcode.isData (Frame.sendable?_eq_some_iff.mp sendable).2.2.1

theorem short_of_sendable {policy : ControlPolicy} {frame sent : Frame} (sendable : frame.sendable? policy = some sent) :
    Monitor.ShortControl sent := by
  obtain ⟨_, final, _, ⟨short, same⟩ | ⟨_, _, cut⟩⟩ := Frame.sendable?_eq_some_iff.mp sendable
  · exact ⟨final, same ▸ short⟩
  · exact ⟨final, cut ▸ List.length_take_le _ _⟩

/-- A ticket is told of an error; of a success there is nothing to tell. -/
def tell (ticket : Ticket) : Outcome × Sender types σ → Sender types σ
  | (.ok (), sender) => sender
  | (.error error, sender) => sender.fail ticket error

/-- A ticket that has no outcome yet learns the error that it is told of. -/
theorem outcome?_tell {error : SendError} {after : Sender types σ} {ticket : Ticket}
    (pending : (after.ledger.pending? ticket).isSome) :
    (tell ticket (.error error, after)).ledger.outcome? ticket = some (.error error) := by
  obtain ⟨recipient, waiting⟩ := Option.isSome_iff_exists.mp pending
  exact Ledger.outcome?_complete waiting

variable [Carrier σ]

/-- A control frame was sent both ways: directly, and as a frame with a ticket. The carrier was handed the same frame in
both, or in neither; and the error that was given back is the one that the ticket was told of, if the carrier has answered
alike. -/
def SentAlike (sender : Sender types (Logged σ)) (frame : Frame) (ticket : Ticket)
    (direct : Outcome × Sender types (Logged σ)) (framed : Sender types (Logged σ)) : Prop :=
  match frame.sendable? sender.session.settings.controlPolicy with
  | none => ∃ error, direct = (.error error, sender) ∧ framed = sender.fail ticket error ∧
      ((sender.ledger.pending? ticket).isSome → framed.ledger.outcome? ticket = some (.error error))
  | some sent =>
    let answered := sender.submit sent ticket sender.batchMode
    direct.2.log = sender.log ++ [⟨sent, sender.ledger.slots.size, sender.batchMode, direct.1⟩] ∧
    framed.log = sender.log ++ [⟨sent, ticket, sender.batchMode, answered.1⟩] ∧
    framed = tell ticket answered ∧
    (direct.1 = answered.1 → ∀ error, direct.1 = .error error → (answered.2.ledger.pending? ticket).isSome →
      framed.ledger.outcome? ticket = some (.error error))

/-- A control frame is sent as a frame: it is checked, it is handed over, and the ticket is told of an error. -/
theorem sendFrame_control (sender : Sender types (Logged σ)) {frame : Frame} (control : frame.isData = false)
    (ticket : Ticket) (mode : BatchMode) :
    sender.sendFrame frame ticket mode =
      match checkControl sender.session.settings.controlPolicy frame with
      | .error error => sender.fail ticket (.framing error)
      | .ok sent => tell ticket (sender.submit sent ticket mode) := by
  unfold sendFrame dispatch
  rw [if_neg (by simp [control])]
  cases checkControl sender.session.settings.controlPolicy frame with
  | error error => rfl
  | ok sent =>
    dsimp only
    unfold offer
    rcases sender.submit sent ticket mode with ⟨error | ⟨⟩, after⟩ <;> rfl

omit [Carrier σ] in
theorem log_tell (ticket : Ticket) (answer : Outcome × Sender types (Logged σ)) :
    (tell ticket answer).log = answer.2.log := by
  rcases answer with ⟨error | ⟨⟩, after⟩ <;> rfl

omit [Carrier σ] in
theorem openMessage_tell (ticket : Ticket) (answer : Outcome × Sender types (Logged σ)) :
    (tell ticket answer).openMessage = answer.2.openMessage := by
  rcases answer with ⟨error | ⟨⟩, after⟩ <;> rfl

/-- Both ways of sending a control frame come to the same. -/
theorem sentAlike_control (sender : Sender types (Logged σ)) {frame : Frame} (control : frame.isData = false)
    (ticket : Ticket) :
    sender.SentAlike frame ticket (sender.sendControl frame) (sender.sendFrame frame ticket sender.batchMode) := by
  rw [sender.sendFrame_control control]
  unfold SentAlike sendControl
  rcases checkControl_sendable sender.session.settings.controlPolicy frame with
    ⟨sent, sendable, checked⟩ | ⟨unsendable, error, rejected⟩
  · rw [sendable, checked]
    refine ⟨rfl, log_tell ticket _, rfl, fun alike error refused pending => ?_⟩
    have answered : sender.submit sent ticket sender.batchMode =
        (.error error, (sender.submit sent ticket sender.batchMode).2) := Prod.ext (alike.symm.trans refused) rfl
    dsimp only
    rw [answered]
    exact outcome?_tell pending
  · rw [unsendable, rejected]
    exact ⟨_, rfl, rfl, outcome?_tell⟩

/-- From one moment to another the open message stays as it is, and the carrier is handed the given frame, or none. -/
def Emits (before after : Sender types (Logged σ)) (frame : Option Frame) : Prop :=
  after.openMessage = before.openMessage ∧
    ∃ new, after.log = before.log ++ new ∧ new.map Handover.frame = frame.toList

omit [Carrier σ] in
theorem Emits.controls {before after : Sender types (Logged σ)} {sent : Option Frame} (emits : before.Emits after sent)
    (control : ∀ frame ∈ sent, frame.isData = false) : controls after.log = controls before.log ++ sent.toList := by
  obtain ⟨_, new, log, frames⟩ := emits
  have all : Egress.controls new = sent.toList := by
    rw [Egress.controls, frames, List.filter_eq_self]
    intro frame member
    rw [control frame (Option.mem_toList.mp member)]
    rfl
  rw [log, controls_append, all]

theorem emits_sendFrame (sender : Sender types (Logged σ)) {frame : Frame} (control : frame.isData = false)
    (ticket : Ticket) (mode : BatchMode) :
    sender.Emits (sender.sendFrame frame ticket mode) (frame.sendable? sender.session.settings.controlPolicy) := by
  rw [sender.sendFrame_control control]
  rcases checkControl_sendable sender.session.settings.controlPolicy frame with
    ⟨sent, sendable, checked⟩ | ⟨unsendable, error, rejected⟩
  · rw [sendable, checked]
    exact ⟨openMessage_tell ticket _, [_], log_tell ticket _, rfl⟩
  · rw [unsendable, rejected]
    exact ⟨rfl, [], (List.append_nil _).symm, rfl⟩

theorem emits_sendControl (sender : Sender types (Logged σ)) (frame : Frame) :
    sender.Emits (sender.sendControl frame).2 (frame.sendable? sender.session.settings.controlPolicy) := by
  unfold sendControl
  rcases checkControl_sendable sender.session.settings.controlPolicy frame with
    ⟨sent, sendable, checked⟩ | ⟨unsendable, error, rejected⟩
  · rw [sendable, checked]
    exact ⟨rfl, [_], rfl, rfl⟩
  · rw [unsendable, rejected]
    exact ⟨rfl, [], (List.append_nil _).symm, rfl⟩

/-- Whichever way a control frame is sent, the carrier is handed what may be sent in its place, and the open message stays
as it is. -/
theorem emits_afterCall (sender : Sender types (Logged σ)) {call : Call types} {frame : Frame}
    (asked : call.control? = some frame) :
    sender.Emits (sender.afterCall call) (frame.sendable? sender.session.settings.controlPolicy) := by
  cases call with
  | frame given ticket mode =>
    obtain ⟨control, rfl⟩ := Call.control?_frame.mp asked
    exact sender.emits_sendFrame control ticket mode
  | ping payload =>
    cases asked
    exact sender.emits_sendControl _
  | pong payload =>
    cases asked
    exact sender.emits_sendControl _
  | _ => cases asked

/-- A data frame is no control frame, whatever becomes of it. -/
theorem controls_sendFrame (sender : Sender types (Logged σ)) {frame : Frame} (data : frame.isData = true) (ticket : Ticket)
    (mode : BatchMode) : controls (sender.sendFrame frame ticket mode).log = controls sender.log := by
  unfold sendFrame
  rcases sender.dispatch_cases frame ticket mode with ⟨_, error, rejected⟩ | ⟨_, handover, _, logged, _, effect⟩
  · rw [rejected]
    rfl
  · rw [if_pos data] at effect
    have plain : handover.frame.isData = true := effect.1 ▸ data
    rw [logged, controls_append, controls_of_data plain, List.append_nil]

end Sender

namespace MessageStream

variable {types : ValueTypes} {σ : Type} [Carrier σ]

theorem controls_handOver (stream : MessageStream types (Logged σ)) (final : Bool) :
    controls (stream.handOver final).sender.log = controls stream.sender.log := by
  have sent : (stream.handOver final).sender.log = (stream.sendNext final).2.log :=
    congrArg Logged.log (stream.handOver_frames final).1
  rw [sent]
  have data : (stream.nextFrame final).isData = true := stream.isData_opcode
  exact Sender.controls_sendFrame (stream.sender.issue (stream.recipient final)).2 data _ _

theorem controls_close (stream : MessageStream types (Logged σ)) :
    controls stream.close.sender.log = controls stream.sender.log := by
  unfold close
  split
  · rfl
  · show controls (sendLast _).sender.log = _
    unfold sendLast
    split
    · split
      · rfl
      · rw [emit_snd]
        exact controls_handOver _ true
    · split
      · rw [emit_snd]
        exact controls_handOver _ true
      · rfl

/-- A stream sends no control frames. -/
theorem controls_after (stream : MessageStream types (Logged σ)) (event : StreamEvent) :
    controls (stream.after event).sender.log = controls stream.sender.log := by
  cases event with
  | write bytes =>
    exact write_keeps (fun after => controls after.sender.log = controls stream.sender.log) (fun _ same => same)
      (fun same _ => (controls_handOver _ false).trans same) rfl bytes
  | flush =>
    show controls stream.flush.2.sender.log = _
    unfold flush
    split
    · rfl
    · split
      · rfl
      · rw [emit_snd]
        exact stream.controls_handOver false
  | close => exact stream.controls_close
  | elsewhere event => cases event <;> rfl
  | _ => rfl

theorem controls_afterAll (stream : MessageStream types (Logged σ)) (events : List StreamEvent) :
    controls (stream.afterAll events).sender.log = controls stream.sender.log := by
  induction events generalizing stream with
  | nil => rfl
  | cons event events ih => exact (ih (stream.after event)).trans (stream.controls_after event)

end MessageStream

namespace Sender

variable {types : ValueTypes} {σ : Type} [Carrier σ]

theorem controls_render (sender : Sender types (Logged σ)) (ticket : Ticket) (rendering : Rendering) :
    controls (sender.render ticket rendering).log = controls sender.log := by
  cases rendering with
  | nothing => rfl
  | whole message =>
    have data : message.frame.isData = true := message.kind.isData_opcode
    exact sender.controls_sendFrame data ticket _
  | streamed kind events =>
    have closed := ((sender.stream kind ticket).afterAll events).controls_close
    exact closed.trans ((sender.stream kind ticket).controls_afterAll events)

/-- A call that asks for no control frame sends none. -/
theorem controls_afterCall (sender : Sender types (Logged σ)) {call : Call types} (plain : call.control? = none) :
    controls (sender.afterCall call).log = controls sender.log := by
  have quiet {call : Call types} (silent : Silent call) : controls (sender.afterCall call).log = controls sender.log :=
    congrArg controls (sender.afterCall_frames silent).2
  cases call with
  | frame frame ticket mode =>
    cases data : frame.isData with
    | true => exact sender.controls_sendFrame data ticket mode
    | false => simp [Call.control?, data] at plain
  | text content ticket => exact sender.controls_sendFrame rfl ticket _
  | binary payload ticket => exact sender.controls_sendFrame rfl ticket _
  | fragment kind payload last ticket =>
    have data : (⟨sender.openMessage.fragmentOpcode kind, last, payload⟩ : Frame).isData = true :=
      sender.openMessage.isData_fragmentOpcode kind
    exact sender.controls_sendFrame data ticket _
  | ping payload => cases plain
  | pong payload => cases plain
  | object object ticket =>
    have log := (sender.sendObject_frames object ticket).2
    rw [encodeObject_snd] at log
    exact (congrArg controls log).trans (sender.controls_render ticket _)
  | beginFlush => exact quiet trivial
  | resumeFlush state => exact quiet trivial
  | abandonFlush state => exact quiet trivial
  | beginSetBatchMode mode => exact quiet trivial
  | resumeSetBatchMode mode state => exact quiet trivial
  | setIdleTimeout span => exact quiet trivial

end Sender

namespace Custody

variable {types : ValueTypes} {σ : Type}

/-- The control frame that the carrier is handed at an event, if it is handed one: what may be sent in place of the one
that the application asks to send. -/
def control? : Custody types σ → Event types → Option Frame
  | .free sender, .call call => call.control?.bind (Frame.sendable? sender.session.settings.controlPolicy)
  | _, _ => none

variable [Carrier σ]

/-- The control frames that the carrier is handed in a run. -/
def controlsIn (custody : Custody types σ) : List (Event types) → List Frame
  | [] => []
  | event :: events => (custody.control? event).toList ++ (custody.after event).controlsIn events

theorem controls_after (custody : Custody types (Logged σ)) (event : Event types) :
    controls (custody.after event).sender.log = controls custody.sender.log ++ (custody.control? event).toList := by
  cases custody with
  | free sender =>
    cases event with
    | call call =>
      show controls (sender.afterCall call).log = controls sender.log ++
        (call.control?.bind (Frame.sendable? sender.session.settings.controlPolicy)).toList
      cases asked : call.control? with
      | none => exact (sender.controls_afterCall asked).trans (List.append_nil _).symm
      | some frame =>
        refine (sender.emits_afterCall asked).controls fun sent sendable => ?_
        exact (Sender.isData_of_sendable sendable).trans (Call.isData_of_control asked)
    | elsewhere event => cases event <;> exact (List.append_nil _).symm
    | _ => exact (List.append_nil _).symm
  | lent stream =>
    cases event with
    | stream event => exact (stream.controls_after event).trans (List.append_nil _).symm
    | dropStream => exact stream.controls_close.trans (List.append_nil _).symm
    | elsewhere event => exact (stream.controls_after (.elsewhere event)).trans (List.append_nil _).symm
    | _ => exact (List.append_nil _).symm

theorem controls_afterAll (custody : Custody types (Logged σ)) (events : List (Event types)) :
    controls (custody.afterAll events).sender.log = controls custody.sender.log ++ custody.controlsIn events := by
  induction events generalizing custody with
  | nil => exact (List.append_nil _).symm
  | cons event events ih =>
    have rest := ih (custody.after event)
    rw [controls_after, List.append_assoc] at rest
    exact rest

omit [Carrier σ] in
theorem short_of_control {custody : Custody types σ} {event : Event types} {frame : Frame}
    (sent : custody.control? event = some frame) : Monitor.ShortControl frame := by
  unfold control? at sent
  split at sent
  · obtain ⟨asked, _, sendable⟩ := Option.bind_eq_some_iff.mp sent
    exact Sender.short_of_sendable sendable
  · cases sent

theorem short_of_controlsIn {custody : Custody types σ} {events : List (Event types)} {frame : Frame}
    (member : frame ∈ custody.controlsIn events) : Monitor.ShortControl frame := by
  induction events generalizing custody with
  | nil => cases member
  | cons event events ih =>
    rcases List.mem_append.mp member with now | later
    · exact short_of_control (Option.mem_toList.mp now)
    · exact ih later

/-- Control frames are checked alike whichever way they are sent, and only those that pass are sent. On any sender a ping or
a pong that is sent directly comes to the same as one sent as a frame in the sender's own batch mode. Every call that asks
for a control frame leaves the open message as it is, and hands over what may be sent in place of the frame, or nothing.
And in a run, whatever else is sent in it, the control frames that the carrier is handed are those that were asked for and
may be sent, in that order; all of them are whole and short. -/
theorem control_frames_checked_alike :
    (∀ (sender : Sender types (Logged σ)) (payload : Bytes) (ticket : Ticket),
      sender.SentAlike (.ping payload) ticket (sender.sendPing payload)
          (sender.sendFrame (.ping payload) ticket sender.batchMode) ∧
        sender.SentAlike (.pong payload) ticket (sender.sendPong payload)
          (sender.sendFrame (.pong payload) ticket sender.batchMode)) ∧
    (∀ (sender : Sender types (Logged σ)) (call : Call types) (frame : Frame), call.control? = some frame →
      sender.Emits (sender.afterCall call) (frame.sendable? sender.session.settings.controlPolicy)) ∧
    ∀ (session : Session types) (carrier : σ) (ledger : Ledger) (events : List (Event types)),
      let start : Custody types (Logged σ) := .free (.start session (.fresh carrier) ledger)
      let sent := controls (start.afterAll events).sender.log
      sent = start.controlsIn events ∧ ∀ frame ∈ sent, Monitor.ShortControl frame := by
  refine ⟨fun sender payload ticket => ⟨sender.sentAlike_control rfl ticket, sender.sentAlike_control rfl ticket⟩,
    fun sender call frame asked => sender.emits_afterCall asked, ?_⟩
  intro session carrier ledger events start sent
  have all : sent = start.controlsIn events := start.controls_afterAll events
  refine ⟨all, fun frame member => ?_⟩
  rw [all] at member
  exact short_of_controlsIn member

/-- A session whose sender cuts control frames that are too long. -/
def cutting : Session catalogue :=
  { Session.ofRegistry .empty with settings := { Settings.standard with controlPolicy := .truncate } }

/-- A text message is begun. Before it goes on there are a ping that is too long, a pong that the carrier refuses, and a
closing frame that is not final; a stream that cannot begin is opened and dropped. -/
def interruptedEvents : List (Event catalogue) :=
  [.call (.fragment .text [97] false 0), .call (.ping (.replicate 126 7)), .call (.pong []),
    .call (.frame ⟨.close, false, .replicate 126 7⟩ 0 .on), .openStream .binary 1 0, .stream (.write [1, 2]), .dropStream,
    .call (.fragment .text [98] true 0)]

def refusesPong : ScriptedCarrier :=
  { ScriptedCarrier.accepting with nextReplies := [.accept, .accept, .refuse .backpressure] }

/-- A sender with a ticket that waits, whose carrier takes nothing. -/
def unheard : Sender catalogue (Logged ScriptedCarrier) :=
  .start cutting (.fresh { ScriptedCarrier.accepting with frameReply := .refuse .backpressure })
    (Ledger.empty.issue .listener).2

theorem control_frames_checked_alike_interrupted :
    controls ((Custody.free (.start cutting (.fresh refusesPong) .empty)).afterAll interruptedEvents).sender.log =
      [.ping (.replicate 125 7), .pong []] ∧
    (unheard.sendPing [7]).1 = .error .backpressure ∧
    (unheard.sendFrame (.ping [7]) 0 unheard.batchMode).ledger.outcome? 0 = some (.error .backpressure) ∧
    unheard.Emits (unheard.afterCall (.frame ⟨.close, false, []⟩ 0 .on)) none := by
  obtain ⟨alike, emits, run⟩ := @control_frames_checked_alike catalogue ScriptedCarrier _
  obtain ⟨_, _, _, told⟩ := (alike unheard [7] 0).1
  exact ⟨(run cutting refusesPong .empty interruptedEvents).1.trans (by decide +kernel), rfl,
    told rfl .backpressure rfl rfl, emits unheard (.frame ⟨.close, false, []⟩ 0 .on) _ rfl⟩

end Custody
end Egress
