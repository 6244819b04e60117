import Egress.Catalogue
import Egress.Proofs.Runs

/-!
The framing of what a carrier is handed. An observer who sees only the trace of a run can tell the open message
of the sender at every moment: each data frame fits the message that is open, a final frame ends the message
whether or not the carrier takes it, and a stream that has had no frame taken leaves no message open behind a
refused frame. A frame that does not fit, and a control frame that is split or too long, is never handed over.
-/
namespace Egress

/-- What the observer of a trace knows. -/
structure Monitor where
  openMessage : OpenMessage
  /-- Of the stream at work, if there is one: whether a frame of it has been taken. -/
  stream : Option Bool

namespace Monitor

/-- No message is open, and no stream is at work. -/
def initial : Monitor := ⟨none, none⟩

/-- A data frame fits if it begins a message while none is open, and goes on with the open one otherwise. -/
def Fits (state : OpenMessage) (opcode : Opcode) : Prop :=
  match state with
  | none => ∃ kind : MessageKind, opcode = kind.opcode
  | some kind => opcode = .continuation ∨ opcode = kind.opcode

/-- The open message after a data frame. -/
def openAfter (monitor : Monitor) (frame : Frame) (taken : Bool) : OpenMessage :=
  if frame.final then none
  else if monitor.stream = some false ∧ taken = false then none
  else monitor.openMessage.or frame.opcode.kind?

/-- What may be sent: a data frame that fits, and a control frame that is whole and short, or can be cut. -/
def MaySend (state : OpenMessage) (policy : ControlPolicy) (frame : Frame) : Prop :=
  if frame.isData then Fits state frame.opcode
  else frame.final = true ∧ (frame.payload.length ≤ Frame.maxControlPayload ∨ policy = .truncate)

def next (monitor : Monitor) : Mark → Monitor
  | .opened => { monitor with stream := some false }
  | .dropped => { monitor with stream := none }
  | .handed frame taken =>
    if frame.isData then ⟨monitor.openAfter frame taken, monitor.stream.map (· || taken)⟩ else monitor

def after (trace : List Mark) : Monitor := trace.foldl next initial

/-- A control frame that may be sent: it is whole and short. -/
def ShortControl (frame : Frame) : Prop :=
  frame.final = true ∧ frame.payload.length ≤ Frame.maxControlPayload

def Allows (monitor : Monitor) : Mark → Prop
  | .handed frame _ => if frame.isData then Fits monitor.openMessage frame.opcode else ShortControl frame
  | _ => True

theorem next_data (monitor : Monitor) {frame : Frame} (data : frame.isData = true) (taken : Bool) :
    monitor.next (.handed frame taken) = ⟨monitor.openAfter frame taken, monitor.stream.map (· || taken)⟩ := by
  simp [next, data]

/-- Each mark of a trace is one that may be seen after those before it. -/
def Admits (monitor : Monitor) : List Mark → Prop
  | [] => True
  | mark :: marks => monitor.Allows mark ∧ (monitor.next mark).Admits marks

theorem admits_append {monitor : Monitor} {marks others : List Mark} :
    monitor.Admits (marks ++ others) ↔ monitor.Admits marks ∧ (marks.foldl next monitor).Admits others := by
  induction marks generalizing monitor with
  | nil => simp [Admits]
  | cons mark marks ih => simp [Admits, ih, and_assoc]

/-- From one moment to another the carrier was handed frames that the observer allows, and that lead from what the
observer knew to what is known then. -/
def Leads (before : Monitor) (log : List Handover) (after : Monitor) (log' : List Handover) : Prop :=
  ∃ new, log' = log ++ new ∧ before.Admits (new.map Handover.mark) ∧
    (new.map Handover.mark).foldl next before = after

theorem leads_refl (monitor : Monitor) (log : List Handover) : Leads monitor log monitor log :=
  ⟨[], by simp, trivial, rfl⟩

theorem Leads.trans {first second third : Monitor} {log log' log'' : List Handover}
    (earlier : Leads first log second log') (later : Leads second log' third log'') :
    Leads first log third log'' := by
  obtain ⟨front, rfl, frontAdmitted, rfl⟩ := earlier
  obtain ⟨back, rfl, backAdmitted, rfl⟩ := later
  refine ⟨front ++ back, by simp, ?_, by simp⟩
  rw [List.map_append, admits_append]
  exact ⟨frontAdmitted, backAdmitted⟩

theorem leads_one {monitor : Monitor} (log : List Handover) (handover : Handover)
    (allowed : monitor.Allows handover.mark) :
    Leads monitor log (monitor.next handover.mark) (log ++ [handover]) :=
  ⟨[handover], rfl, ⟨allowed, trivial⟩, rfl⟩

/-- Each frame of a trace fits what was open when it was handed over. -/
theorem allows_of_admits {monitor : Monitor} {front back : List Mark} {mark : Mark}
    (admitted : monitor.Admits (front ++ mark :: back)) : (front.foldl next monitor).Allows mark :=
  (admits_append.mp admitted).2.1

end Monitor

open Monitor

/-- The rules of framing accept the opcodes that fit, and a message stays open until it is ended. -/
theorem OpenMessage.advance_eq (state : OpenMessage) (opcode : Opcode) :
    (Fits state opcode ∧ state.advance opcode = .ok (state.or opcode.kind?)) ∨
      (¬ Fits state opcode ∧ ∃ error, state.advance opcode = .error error) := by
  rcases state with _ | kind
  · cases opcode
    case text => exact .inl ⟨⟨.text, rfl⟩, rfl⟩
    case binary => exact .inl ⟨⟨.binary, rfl⟩, rfl⟩
    all_goals
      refine .inr ⟨?_, _, rfl⟩
      rintro ⟨kind, same⟩
      cases kind <;> cases same
  · cases kind <;> cases opcode <;> simp [Fits, advance, Opcode.kind?, MessageKind.opcode]

namespace Sender

variable {types : ValueTypes} {σ : Type}

/-- What the observer knows while no stream is at work. -/
def monitor (sender : Sender types σ) : Monitor := ⟨sender.openMessage, none⟩

/-- Whether the rules of framing let a sender send a frame. -/
def Permits (sender : Sender types σ) (frame : Frame) : Prop :=
  MaySend sender.openMessage sender.session.settings.controlPolicy frame

/-- A control frame is checked by its final mark and its length; what passes is whole and short. -/
theorem checkControl_cases (policy : ControlPolicy) (frame : Frame) :
    (∃ sent, checkControl policy frame = .ok sent ∧ ShortControl sent ∧ sent.opcode = frame.opcode ∧
      frame.final = true ∧ (frame.payload.length ≤ Frame.maxControlPayload ∨ policy = .truncate)) ∨
    ((∃ error, checkControl policy frame = .error error) ∧
      ¬ (frame.final = true ∧ (frame.payload.length ≤ Frame.maxControlPayload ∨ policy = .truncate))) := by
  unfold checkControl
  by_cases whole : frame.final = false
  · exact .inr ⟨⟨_, by rw [if_pos whole]⟩, by simp [whole]⟩
  · have final : frame.final = true := by simpa using whole
    rw [if_neg whole]
    by_cases short : frame.payload.length ≤ Frame.maxControlPayload
    · exact .inl ⟨frame, by rw [if_pos short], ⟨final, short⟩, rfl, final, .inl short⟩
    · rw [if_neg short]
      cases policy with
      | reject => exact .inr ⟨⟨_, rfl⟩, by simp [short]⟩
      | truncate => exact .inl ⟨_, rfl, ⟨rfl, List.length_take_le _ _⟩, rfl, final, .inr rfl⟩

variable [Carrier σ]

@[simp] theorem openMessage_submit (sender : Sender types σ) (frame : Frame) (ticket : Ticket) (mode : BatchMode) :
    (sender.submit frame ticket mode).2.openMessage = sender.openMessage := rfl

/-- A frame that the carrier is handed is accepted or refused by the carrier's verdict. -/
theorem offer_spec (sender : Sender types (Logged σ)) (frame : Frame) (ticket : Ticket) (mode : BatchMode) :
    ∃ handover : Handover, handover.frame = frame ∧
      (sender.offer frame ticket mode).2.log = sender.log ++ [handover] ∧
      (sender.offer frame ticket mode).2.openMessage = sender.openMessage ∧
      (sender.offer frame ticket mode).1 = if handover.taken then .accepted else .refused := by
  refine ⟨⟨frame, ticket, mode, (sender.submit frame ticket mode).1⟩, rfl, ?_⟩
  have logged := log_submit sender frame ticket mode
  have kept := openMessage_submit sender frame ticket mode
  rcases answer : sender.submit frame ticket mode with ⟨error | ⟨⟩, after⟩
  · rw [answer] at logged kept
    simp only [offer, answer]
    exact ⟨logged, kept, rfl⟩
  · rw [answer] at logged kept
    simp only [offer, answer]
    exact ⟨logged, kept, rfl⟩

/-- Either a frame breaks the rules of framing, and then its ticket fails and nothing else happens, or the carrier
is handed a frame that fits, and the open message changes as the frame says. -/
theorem dispatch_cases (sender : Sender types (Logged σ)) (frame : Frame) (ticket : Ticket) (mode : BatchMode) :
    (¬ sender.Permits frame ∧
      ∃ error, sender.dispatch frame ticket mode = (.rejected, sender.fail ticket (.framing error))) ∨
    (sender.Permits frame ∧ ∃ handover : Handover, sender.monitor.Allows handover.mark ∧
      (sender.dispatch frame ticket mode).2.log = sender.log ++ [handover] ∧
      (sender.dispatch frame ticket mode).1 = (if handover.taken then .accepted else .refused) ∧
      if frame.isData then
        handover.frame = frame ∧ (sender.dispatch frame ticket mode).2.openMessage =
          if frame.final then none else sender.openMessage.or frame.opcode.kind?
      else
        handover.frame.isData = false ∧
          (sender.dispatch frame ticket mode).2.openMessage = sender.openMessage) := by
  cases data : frame.isData with
  | true =>
    rcases sender.openMessage.advance_eq frame.opcode with ⟨fits, advanced⟩ | ⟨unfit, error, rejected⟩
    · refine .inr ⟨by simpa [Permits, MaySend, data] using fits, ?_⟩
      obtain ⟨handover, same, logged, kept, answered⟩ :=
        ({ sender with openMessage := sender.openMessage.or frame.opcode.kind? } :
          Sender types (Logged σ)).offer_spec frame ticket mode
      refine ⟨handover, ?_, ?_, ?_, ?_⟩
      · simpa [Allows, Handover.mark, same, data, monitor] using fits
      · simp only [dispatch, data, advanced, if_true]
        refine Eq.trans ?_ logged
        unfold afterData
        split <;> rfl
      · simpa only [dispatch, data, advanced, if_true] using answered
      · refine ⟨same, ?_⟩
        simp only [dispatch, data, advanced, if_true, afterData]
        split
        · rfl
        · exact kept
    · exact .inl ⟨by simpa [Permits, MaySend, data] using unfit, error, by simp [dispatch, data, rejected]⟩
  | false =>
    rcases checkControl_cases sender.session.settings.controlPolicy frame with
      ⟨sent, checked, short, same, permitted⟩ | ⟨⟨error, rejected⟩, denied⟩
    · have control : sent.isData = false := by rw [Frame.isData, same]; exact data
      obtain ⟨handover, handed, logged, kept, answered⟩ := sender.offer_spec sent ticket mode
      refine .inr ⟨by simpa [Permits, MaySend, data] using permitted, handover, ?_, ?_, ?_, ?_⟩
      · simpa [Allows, Handover.mark, handed, control] using short
      · simpa [dispatch, data, checked] using logged
      · simpa [dispatch, data, checked] using answered
      · simpa [dispatch, data, checked, handed, control] using kept
    · exact .inl ⟨by simpa [Permits, MaySend, data] using denied, error, by simp [dispatch, data, rejected]⟩

theorem leads_sendFrame (sender : Sender types (Logged σ)) (frame : Frame) (ticket : Ticket) (mode : BatchMode) :
    Leads sender.monitor sender.log (sender.sendFrame frame ticket mode).monitor
      (sender.sendFrame frame ticket mode).log := by
  rcases sender.dispatch_cases frame ticket mode with
    ⟨_, error, rejected⟩ | ⟨_, handover, allowed, logged, _, effect⟩
  · rw [sendFrame, rejected]
    exact leads_refl _ _
  · rw [sendFrame, logged]
    have seen : (sender.dispatch frame ticket mode).2.monitor = sender.monitor.next handover.mark := by
      cases data : frame.isData with
      | true =>
        simp only [data, if_true] at effect
        obtain ⟨same, opened⟩ := effect
        simp [Monitor.next, Handover.mark, same, data, openAfter, monitor, opened]
      | false =>
        simp only [data] at effect
        obtain ⟨control, kept⟩ := effect
        simp [Monitor.next, Handover.mark, control, monitor, kept]
    rw [seen]
    exact leads_one _ handover allowed

theorem leads_sendControl (sender : Sender types (Logged σ)) (frame : Frame) (control : frame.isData = false) :
    Leads sender.monitor sender.log (sender.sendControl frame).2.monitor (sender.sendControl frame).2.log := by
  unfold sendControl
  rcases checkControl_cases sender.session.settings.controlPolicy frame with
    ⟨sent, checked, short, same, _⟩ | ⟨⟨error, rejected⟩, _⟩
  · have apart : sent.isData = false := by rw [Frame.isData, same]; exact control
    simp only [checked]
    let issued := (sender.issue .nobody).2
    let handover : Handover := ⟨sent, (sender.issue .nobody).1, issued.batchMode,
      (issued.submit sent (sender.issue .nobody).1 issued.batchMode).1⟩
    have allowed : sender.monitor.Allows handover.mark := by
      simpa [Allows, Handover.mark, handover, apart] using short
    have led := leads_one sender.log handover allowed
    have unmoved : sender.monitor.next handover.mark = sender.monitor := by
      simp [Monitor.next, Handover.mark, handover, apart]
    rw [unmoved] at led
    exact led
  · simp only [rejected]
    exact leads_refl _ _

end Sender

namespace MessageStream

variable {types : ValueTypes} {σ : Type}

/-- What the observer knows while the stream is at work. -/
def monitor (stream : MessageStream types σ) : Monitor :=
  ⟨stream.sender.openMessage, some (decide (0 < stream.framesSent))⟩

/-- What a stream does to its sender is what the observer sees. -/
def Leads (stream stream' : MessageStream types (Logged σ)) : Prop :=
  stream.monitor.Leads stream.sender.log stream'.monitor stream'.sender.log

theorem leads_refl (stream : MessageStream types (Logged σ)) : stream.Leads stream := Monitor.leads_refl _ _

/-- A stream that has the same open message, the same number of frames and the same log is the same to the
observer. -/
theorem leads_of_eq {stream stream' : MessageStream types (Logged σ)}
    (openMessage : stream'.sender.openMessage = stream.sender.openMessage)
    (framesSent : stream'.framesSent = stream.framesSent) (log : stream'.sender.log = stream.sender.log) :
    stream.Leads stream' := by
  unfold Leads monitor
  rw [openMessage, framesSent, log]
  exact Monitor.leads_refl _ _

/-- The opcode of a stream's frame is that of a data frame. -/
theorem isData_opcode (stream : MessageStream types σ) : stream.opcode.isData = true := by
  unfold opcode
  split
  · exact MessageKind.isData_opcode _
  · rfl

variable [Carrier σ]

/-- The next frame is rejected because it does not fit, or the carrier is handed it and takes or refuses it. -/
theorem sendNext_cases (stream : MessageStream types (Logged σ)) (final : Bool) :
    (¬ Fits stream.sender.openMessage stream.opcode ∧ ∃ after, stream.sendNext final = (.rejected, after) ∧
      after.log = stream.sender.log ∧ after.openMessage = stream.sender.openMessage) ∨
    ∃ (handover : Handover) (after : Sender types (Logged σ)),
      stream.sendNext final = (if handover.taken then .accepted else .refused, after) ∧
      Fits stream.sender.openMessage stream.opcode ∧ handover.frame = stream.nextFrame final ∧
      after.log = stream.sender.log ++ [handover] ∧
      after.openMessage = if final then none else stream.sender.openMessage.or stream.opcode.kind? := by
  have data : (stream.nextFrame final).isData = true := stream.isData_opcode
  rcases (stream.sender.issue (stream.recipient final)).2.dispatch_cases (stream.nextFrame final)
      (stream.sender.issue (stream.recipient final)).1 stream.sender.batchMode with
    ⟨denied, error, rejected⟩ | ⟨permitted, handover, _, logged, answered, effect⟩
  · rw [Sender.Permits, MaySend, if_pos data] at denied
    exact .inl ⟨denied, _, rejected, rfl, rfl⟩
  · simp only [data, if_true] at effect
    refine .inr ⟨handover, _, Prod.ext answered rfl, ?_, effect.1, logged, effect.2⟩
    rw [Sender.Permits, MaySend, if_pos data] at permitted
    exact permitted

/-- A frame of a stream, as the observer sees it: a refused first frame that is not final leaves no message
open. -/
theorem leads_handOver (stream : MessageStream types (Logged σ)) (final : Bool) :
    stream.Leads (stream.handOver final) := by
  unfold handOver
  rcases stream.sendNext_cases final with
    ⟨_, after, sent, logged, kept⟩ | ⟨handover, after, sent, fits, same, logged, opened⟩
  · rw [sent]
    exact leads_of_eq kept rfl logged
  · have data : (stream.nextFrame final).isData = true := stream.isData_opcode
    have allowed : stream.monitor.Allows handover.mark := by
      rw [Handover.mark, same, Allows, if_pos data]
      exact fits
    have one := leads_one stream.sender.log handover allowed
    rw [Handover.mark, same, next_data _ data] at one
    have seen : ∀ stream' : MessageStream types (Logged σ), stream'.sender.log = after.log →
        stream'.monitor = ⟨stream.monitor.openAfter (stream.nextFrame final) handover.taken,
          stream.monitor.stream.map (· || handover.taken)⟩ → stream.Leads stream' := by
      intro stream' log monitor
      unfold Leads
      rw [log, monitor, logged]
      exact one
    rw [sent]
    cases taken : handover.taken with
    | true =>
      refine seen _ rfl ?_
      simp [afterDelivery, monitor, opened, taken, openAfter, nextFrame]
    | false =>
      by_cases unbegun : final = false ∧ stream.framesSent = 0
      · refine seen _ ?_ ?_
        · simp [afterDelivery, unbegun]
        · simp [afterDelivery, monitor, taken, openAfter, nextFrame, unbegun, Sender.abandonMessage]
      · refine seen _ ?_ ?_
        · simp [afterDelivery, unbegun]
        · cases final with
          | true => simp [afterDelivery, monitor, opened, taken, openAfter, nextFrame]
          | false =>
            have begun : stream.framesSent ≠ 0 := fun none => unbegun ⟨rfl, none⟩
            simp [afterDelivery, monitor, opened, taken, openAfter, nextFrame, begun, Nat.pos_of_ne_zero begun]

theorem leads_fill (rounds : Nat) (stream : MessageStream types (Logged σ)) (data : Bytes) :
    stream.Leads (fill rounds stream data).2 := by
  fun_induction fill rounds stream data with
  | case1 => exact leads_refl _
  | case2 => exact leads_refl _
  | case3 rounds stream byte bytes data room filled full next emitted ih =>
    have sent : stream.Leads (filled.emit false).2 := by
      rw [emit_snd]
      exact filled.leads_handOver false
    rw [emitted] at sent
    exact sent.trans ih
  | case4 rounds stream byte bytes data room filled full error next emitted =>
    have sent : stream.Leads (filled.emit false).2 := by
      rw [emit_snd]
      exact filled.leads_handOver false
    rw [emitted] at sent
    exact sent
  | case5 rounds stream byte bytes data room filled unfilled ih => exact ih

theorem leads_write (stream : MessageStream types (Logged σ)) (data : Bytes) :
    stream.Leads (stream.write data).2 := by
  unfold write
  split
  · exact leads_refl _
  · split
    · exact leads_refl _
    · exact leads_fill _ _ _

theorem leads_flush (stream : MessageStream types (Logged σ)) : stream.Leads stream.flush.2 := by
  unfold flush
  split
  · exact leads_refl _
  · split
    · exact leads_refl _
    · rw [emit_snd]
      exact stream.leads_handOver false

theorem leads_sendLast (stream : MessageStream types (Logged σ)) : stream.Leads stream.sendLast := by
  unfold sendLast
  split
  · split
    · exact leads_of_eq rfl rfl rfl
    · rw [emit_snd]
      exact stream.leads_handOver true
  · split
    · rw [emit_snd]
      exact leads_handOver { stream with buffer := stream.buffer.clear } true
    · exact leads_of_eq rfl rfl rfl

theorem leads_close (stream : MessageStream types (Logged σ)) : stream.Leads stream.close := by
  unfold close
  split
  · exact leads_refl _
  · exact leads_sendLast { stream with closed := true }

theorem leads_afterElsewhere (stream : MessageStream types (Logged σ)) (event : Elsewhere) :
    stream.Leads { stream with sender := stream.sender.afterElsewhere event } := by
  cases event <;> exact leads_of_eq rfl rfl rfl

/-- Whatever happens to a stream, the observer sees it. -/
theorem leads_after (stream : MessageStream types (Logged σ)) (event : StreamEvent) :
    stream.Leads (stream.after event) := by
  cases event with
  | write bytes => exact stream.leads_write bytes
  | flush => exact stream.leads_flush
  | fail error => exact leads_of_eq rfl rfl rfl
  | attach ticket => exact leads_of_eq rfl rfl rfl
  | close => exact stream.leads_close
  | elsewhere event => exact stream.leads_afterElsewhere event

theorem leads_writeText (stream : MessageStream types (Logged σ)) (text : String) :
    stream.Leads (stream.writeText text).2 := by
  have written := stream.leads_write (Bytes.ofText text)
  unfold writeText
  split
  · rename_i answer
    rwa [answer] at written
  · rename_i answer
    rwa [answer] at written

theorem leads_act (stream : MessageStream types (Logged σ)) (action : ByteAction) :
    stream.Leads (stream.act action).2 := by
  cases action with
  | write bytes =>
    show stream.Leads (stream.writeBytes bytes).2
    unfold writeBytes
    split
    · exact leads_refl _
    · exact stream.leads_write bytes
  | call bytes => exact stream.leads_write bytes
  | flush => exact stream.leads_flush

end MessageStream

namespace Sender

variable {types : ValueTypes} {σ : Type}

/-- A call that opens no stream of its own, as the observer sees it. -/
def LeadsPlain (sender after : Sender types (Logged σ)) : Prop :=
  sender.monitor.Leads sender.log after.monitor after.log

theorem leadsPlain_of_eq {sender after : Sender types (Logged σ)} (openMessage : after.openMessage = sender.openMessage)
    (log : after.log = sender.log) : sender.LeadsPlain after := by
  unfold LeadsPlain monitor
  rw [openMessage, log]
  exact Monitor.leads_refl _ _

/-- What the carrier was handed by a stream that a sender opened and dropped again. -/
def LeadsStreaming (sender after : Sender types (Logged σ)) : Prop :=
  ∃ begun, (sender.monitor.next .opened).Leads sender.log ⟨after.openMessage, begun⟩ after.log

variable [Carrier σ]

theorem leads_streamObject {Action Refusal : Type}
    {answer : MessageStream types (Logged σ) → Action → Except Refusal Unit × MessageStream types (Logged σ)}
    (seen : ∀ (stream : MessageStream types (Logged σ)) action, stream.Leads (answer stream action).2) (stream : MessageStream types (Logged σ))
    (emission : Emission Action Refusal) : stream.Leads (streamObject answer stream emission).2 := by
  have worked (stream : MessageStream types (Logged σ)) : stream.Leads stream.letWork :=
    stream.leads_afterElsewhere .work
  have run : stream.Leads (emission.run (fun stream action => answer stream.letWork action) stream).2 :=
    emission.run_keeps stream.Leads
      (fun state action led => (led.trans (worked state)).trans (seen state.letWork action)) stream.leads_refl
  exact run.trans (worked _)

/-- A streamed object, from the opening of its stream to the end. -/
theorem leadsStreaming_endObject {Action Refusal : Type}
    {answer : MessageStream types (Logged σ) → Action → Except Refusal Unit × MessageStream types (Logged σ)}
    (seen : ∀ (stream : MessageStream types (Logged σ)) action, stream.Leads (answer stream action).2) (sender : Sender types (Logged σ))
    (kind : MessageKind) (ticket : Ticket) (emission : Emission Action Refusal) (typeName : String) :
    sender.LeadsStreaming (endObject typeName (streamObject answer (sender.stream kind ticket) emission)).2 := by
  have encoded := leads_streamObject seen (sender.stream kind ticket) emission
  rcases result : streamObject answer (sender.stream kind ticket) emission with ⟨fault | ⟨⟩, stream⟩
  all_goals rw [result] at encoded
  · have failed : stream.Leads (stream.fail (fault.toSendError typeName)) :=
      MessageStream.leads_of_eq rfl rfl rfl
    exact ⟨_, (encoded.trans failed).trans (MessageStream.leads_close _)⟩
  · exact ⟨_, encoded.trans stream.leads_close⟩

theorem leads_encodeObject (sender : Sender types (Logged σ)) (object : Option types.Object) (ticket : Ticket) :
    if sender.opensStream (.object object ticket) then
      sender.LeadsStreaming (sender.encodeObject object ticket).2
    else sender.LeadsPlain (sender.encodeObject object ticket).2 := by
  rcases object with _ | object
  · exact Monitor.leads_refl _ _
  · rcases found : sender.session.registry.lookup object with _ | registration
    · simp only [opensStream, encodeObject, found]
      exact Monitor.leads_refl _ _
    · rcases shape : registration.encoder with encode | encode | encode | encode
      · simp only [opensStream, encodeObject, found, shape, Option.map_some]
        rcases encode object with fault | text
        · exact Monitor.leads_refl _ _
        · exact sender.leads_sendFrame _ _ _
      · simp only [opensStream, encodeObject, found, shape, Option.map_some]
        exact leadsStreaming_endObject MessageStream.leads_writeText _ _ _ _ _
      · simp only [opensStream, encodeObject, found, shape, Option.map_some]
        rcases encode object with fault | bytes
        · exact Monitor.leads_refl _ _
        · exact sender.leads_sendFrame _ _ _
      · simp only [opensStream, encodeObject, found, shape, Option.map_some]
        exact leadsStreaming_endObject MessageStream.leads_act _ _ _ _ _

/-- Reporting a fault of the encoder hands nothing over. -/
theorem sendObject_frames (sender : Sender types (Logged σ)) (object : Option types.Object) (ticket : Ticket) :
    (sender.sendObject object ticket).2.openMessage = (sender.encodeObject object ticket).2.openMessage ∧
      (sender.sendObject object ticket).2.log = (sender.encodeObject object ticket).2.log := by
  unfold sendObject
  rcases sender.encodeObject object ticket with ⟨error | ⟨⟩, after⟩ <;> exact ⟨rfl, rfl⟩

/-- A flush neither hands a frame over nor changes the open message. -/
theorem pollFlush_frames (sender : Sender types (Logged σ)) (ticket : Ticket) :
    (sender.pollFlush ticket).2.openMessage = sender.openMessage ∧ (sender.pollFlush ticket).2.log = sender.log := by
  unfold pollFlush
  split <;> exact ⟨rfl, rfl⟩

theorem askFlush_frames (sender : Sender types (Logged σ)) (ticket : Ticket) :
    (sender.askFlush ticket).2.openMessage = sender.openMessage ∧ (sender.askFlush ticket).2.log = sender.log := by
  unfold askFlush
  have kept : (Carrier.flush sender.carrier sender.ledger ticket).2.1.log = sender.log := rfl
  rcases answer : Carrier.flush sender.carrier sender.ledger ticket with ⟨error | ⟨⟩, carrier, ledger⟩
  · rw [answer] at kept
    have polled := pollFlush_frames (({ sender with carrier, ledger } : Sender types (Logged σ)).fail ticket error) ticket
    exact ⟨polled.1, polled.2.trans kept⟩
  · rw [answer] at kept
    have polled := pollFlush_frames { sender with carrier, ledger } ticket
    exact ⟨polled.1, polled.2.trans kept⟩

theorem goOn_frames (sender : Sender types (Logged σ)) (wait : Wait × Turn × Ledger) :
    (sender.goOn wait).2.openMessage = sender.openMessage ∧ (sender.goOn wait).2.log = sender.log := by
  obtain ⟨wait, turn, ledger⟩ := wait
  cases wait with
  | queued waiter => exact ⟨rfl, rfl⟩
  | holding ticket => exact askFlush_frames { sender with session.turn := turn, ledger } ticket
  | blocking ticket => exact pollFlush_frames { sender with session.turn := turn, ledger } ticket

theorem resumeFlush_frames (sender : Sender types (Logged σ)) (state : FlushState) :
    (sender.resumeFlush state).2.openMessage = sender.openMessage ∧
      (sender.resumeFlush state).2.log = sender.log := by
  cases state with
  | waiting wait => exact sender.goOn_frames _
  | done outcome => exact ⟨rfl, rfl⟩

omit [Carrier σ] in
theorem takeUpMode_frames (mode : BatchMode) (flushed : FlushState × Sender types (Logged σ)) :
    (takeUpMode mode flushed).2.openMessage = flushed.2.openMessage ∧
      (takeUpMode mode flushed).2.log = flushed.2.log := by
  unfold takeUpMode
  split <;> exact ⟨rfl, rfl⟩

/-- A call that sends nothing. -/
def Silent : Call types → Prop
  | .beginFlush | .resumeFlush _ | .abandonFlush _ | .beginSetBatchMode _ | .resumeSetBatchMode _ _ | .setIdleTimeout _ => True
  | _ => False

theorem afterCall_frames (sender : Sender types (Logged σ)) {call : Call types} (silent : Silent call) :
    (sender.afterCall call).openMessage = sender.openMessage ∧ (sender.afterCall call).log = sender.log := by
  cases call with
  | beginFlush => exact sender.goOn_frames _
  | resumeFlush state => exact sender.resumeFlush_frames state
  | abandonFlush state => cases state <;> exact ⟨rfl, rfl⟩
  | beginSetBatchMode mode =>
    show (sender.beginSetBatchMode mode).2.openMessage = _ ∧ (sender.beginSetBatchMode mode).2.log = _
    unfold beginSetBatchMode
    split
    · have flushed := sender.goOn_frames (Wait.start sender.session.turn sender.ledger waiter)
      have taken := takeUpMode_frames mode sender.beginFlush
      exact ⟨taken.1.trans flushed.1, taken.2.trans flushed.2⟩
    · exact ⟨rfl, rfl⟩
  | resumeSetBatchMode mode state =>
    have flushed := sender.resumeFlush_frames state
    have taken := takeUpMode_frames mode (sender.resumeFlush state)
    exact ⟨taken.1.trans flushed.1, taken.2.trans flushed.2⟩
  | setIdleTimeout span => exact ⟨rfl, rfl⟩
  | _ => exact absurd silent id

theorem leads_afterCall (sender : Sender types (Logged σ)) (call : Call types) :
    if sender.opensStream call then sender.LeadsStreaming (sender.afterCall call)
    else sender.LeadsPlain (sender.afterCall call) := by
  have plain {call : Call types} (silent : Silent call) : sender.LeadsPlain (sender.afterCall call) :=
    leadsPlain_of_eq (sender.afterCall_frames silent).1 (sender.afterCall_frames silent).2
  cases call with
  | frame frame ticket mode => exact sender.leads_sendFrame frame ticket mode
  | text content ticket => exact sender.leads_sendFrame _ _ _
  | binary payload ticket => exact sender.leads_sendFrame _ _ _
  | fragment kind payload last ticket => exact sender.leads_sendFrame _ _ _
  | ping payload => exact sender.leads_sendControl _ rfl
  | pong payload => exact sender.leads_sendControl _ rfl
  | object object ticket =>
    have encoded := sender.leads_encodeObject object ticket
    have frames := sender.sendObject_frames object ticket
    simp only [LeadsStreaming, LeadsPlain, monitor, afterCall] at encoded ⊢
    rw [frames.1, frames.2]
    exact encoded
  | _ => exact plain trivial

end Sender

namespace Custody

variable {types : ValueTypes} {σ : Type}

def monitor : Custody types σ → Monitor
  | .free sender => sender.monitor
  | .lent stream => stream.monitor

theorem openMessage_monitor (custody : Custody types σ) :
    custody.monitor.openMessage = custody.sender.openMessage := by
  cases custody <;> rfl

end Custody

namespace Run

variable {types : ValueTypes} {σ : Type} [Carrier σ]

/-- The observer of the run knows the open message, and allowed every frame that was handed over. -/
def Observed (run : Run types σ) : Prop :=
  initial.Admits run.trace ∧ Monitor.after run.trace = run.custody.monitor

omit [Carrier σ] in
/-- Frames that lead from what the observer knew, with the marks before and after them. -/
theorem Observed.append {run : Run types σ} (observed : run.Observed) (front back : List Mark)
    (custody : Custody types (Logged σ)) {known : Monitor} (quiet : (run.custody.monitor).Admits front ∧ known.Admits back)
    (led : (front.foldl next run.custody.monitor).Leads run.custody.sender.log known custody.sender.log)
    (ends : back.foldl next known = custody.monitor) :
    Observed (⟨custody, run.trace ++ (front ++ handed run.custody custody ++ back)⟩ : Run types σ) := by
  obtain ⟨new, log, allowed, leadsTo⟩ := led
  have frames : handed run.custody custody = new.map Handover.mark := by
    unfold handed
    rw [log, List.drop_left]
  have known_after : (run.trace ++ (front ++ handed run.custody custody ++ back)).foldl next initial =
      custody.monitor := by
    rw [frames, ← ends, ← leadsTo, ← observed.2]
    simp [Monitor.after]
  refine ⟨?_, known_after⟩
  rw [frames]
  simp only [admits_append, List.foldl_append]
  have start : run.trace.foldl next initial = run.custody.monitor := observed.2
  rw [start, leadsTo]
  exact ⟨observed.1, ⟨quiet.1, allowed⟩, quiet.2⟩

/-- An event of a run, as the observer sees it. -/
theorem observed_step {run : Run types σ} (observed : run.Observed) (event : Event types) :
    (run.step event).Observed := by
  obtain ⟨custody, trace⟩ := run
  cases custody with
  | free sender =>
    cases event with
    | call call =>
      have led := sender.leads_afterCall call
      cases opens : sender.opensStream call with
      | true =>
        rw [if_pos opens] at led
        obtain ⟨begun, led⟩ := led
        have seen := observed.append [.opened] [.dropped] (.free (sender.afterCall call)) ⟨⟨trivial, trivial⟩, trivial, trivial⟩ led rfl
        have bound : bounds (.free sender) (.call call) = ([.opened], [.dropped]) := by simp [bounds, opens]
        unfold step
        rw [bound]
        exact seen
      | false =>
        rw [if_neg (by simp [opens])] at led
        have seen := observed.append [] [] (.free (sender.afterCall call)) ⟨trivial, trivial⟩ led rfl
        have bound : bounds (.free sender) (.call call) = ([], []) := by simp [bounds, opens]
        unfold step
        rw [bound]
        exact seen
    | openStream kind bufferSize ticket =>
      exact observed.append [.opened] [] _ ⟨⟨trivial, trivial⟩, trivial⟩
        (Monitor.leads_refl _ sender.log) rfl
    | stream event => exact observed.append [] [] _ ⟨trivial, trivial⟩ (Monitor.leads_refl _ _) rfl
    | dropStream => exact observed.append [] [] _ ⟨trivial, trivial⟩ (Monitor.leads_refl _ _) rfl
    | elsewhere event =>
      have led : sender.LeadsPlain (sender.afterElsewhere event) := by
        cases event <;> exact Sender.leadsPlain_of_eq rfl rfl
      exact observed.append [] [] _ ⟨trivial, trivial⟩ led rfl
  | lent stream =>
    cases event with
    | call call => exact observed.append [] [] _ ⟨trivial, trivial⟩ (Monitor.leads_refl _ _) rfl
    | openStream kind bufferSize ticket =>
      exact observed.append [] [] _ ⟨trivial, trivial⟩ (Monitor.leads_refl _ _) rfl
    | stream event =>
      exact observed.append [] [] _ ⟨trivial, trivial⟩ (stream.leads_after event) rfl
    | dropStream =>
      exact observed.append [] [.dropped] _ ⟨trivial, trivial, trivial⟩ stream.leads_close rfl
    | elsewhere event =>
      exact observed.append [] [] _ ⟨trivial, trivial⟩ (stream.leads_after (.elsewhere event)) rfl

/-- What every event keeps, a run keeps. -/
theorem foldl_step_keeps (Inv : Run types σ → Prop) (keeps : ∀ run event, Inv run → Inv (run.step event))
    (events : List (Event types)) {run : Run types σ} (holds : Inv run) : Inv (events.foldl step run) := by
  induction events generalizing run with
  | nil => exact holds
  | cons event events ih => exact ih (keeps run event holds)

theorem observed_fromStart (session : Session types) (carrier : σ) (ledger : Ledger) (events : List (Event types)) :
    (fromStart session carrier ledger events).Observed :=
  foldl_step_keeps Observed (fun _ event observed => observed_step observed event) events ⟨trivial, rfl⟩

/-- A frame that may not be sent fails its ticket and leaves no trace; any other is handed over. -/
theorem step_frame (sender : Sender types (Logged σ)) (trace : List Mark) (frame : Frame) (ticket : Ticket)
    (mode : BatchMode) :
    let after := (⟨.free sender, trace⟩ : Run types σ).step (.call (.frame frame ticket mode))
    (¬ sender.Permits frame → ∃ error, after = ⟨.free (sender.fail ticket (.framing error)), trace⟩) ∧
    (sender.Permits frame → ∃ sent taken, after.trace = trace ++ [.handed sent taken]) := by
  intro after
  have stepped : after = ⟨.free (sender.sendFrame frame ticket mode),
      trace ++ (handed (.free sender) (.free (sender.sendFrame frame ticket mode)))⟩ := by
    simp [after, step, bounds, Sender.opensStream, Custody.after, Sender.afterCall]
  rw [stepped]
  rcases sender.dispatch_cases frame ticket mode with ⟨denied, error, rejected⟩ | ⟨permitted, handover, _, logged, _⟩
  · refine ⟨fun _ => ⟨error, ?_⟩, fun permitted => absurd permitted denied⟩
    simp [Sender.sendFrame, rejected, handed, Custody.sender]
  · refine ⟨fun denied => absurd permitted denied, fun _ => ⟨handover.frame, handover.taken, ?_⟩⟩
    simp [Sender.sendFrame, handed, Custody.sender, logged, Handover.mark]

/-- The law of framing over whole runs. After every run, whatever the carrier takes or refuses: the open message of
the sender is the one told from the frames that the carrier was handed; each of these fitted the message that was
open then, or was a whole and short control frame; and a frame that is sent is handed over exactly if it may be
sent, and fails its ticket without any other effect if not. -/
theorem openMessage_told_by_trace (session : Session types) (carrier : σ) (ledger : Ledger)
    (events : List (Event types)) :
    let run := fromStart session carrier ledger events
    run.custody.sender.openMessage = (Monitor.after run.trace).openMessage ∧
    (∀ front frame taken back, run.trace = front ++ .handed frame taken :: back →
      (Monitor.after front).Allows (.handed frame taken)) ∧
    ∀ sender, run.custody = .free sender → ∀ frame ticket mode,
      let after := run.step (.call (.frame frame ticket mode))
      let permitted := MaySend (Monitor.after run.trace).openMessage sender.session.settings.controlPolicy frame
      (¬ permitted → ∃ error, after = ⟨.free (sender.fail ticket (.framing error)), run.trace⟩) ∧
      (permitted → ∃ sent taken, after.trace = run.trace ++ [.handed sent taken]) := by
  intro run
  have observed : run.Observed := observed_fromStart session carrier ledger events
  have told : run.custody.sender.openMessage = (Monitor.after run.trace).openMessage := by
    rw [observed.2, Custody.openMessage_monitor]
  refine ⟨told, ?_, ?_⟩
  · intro front frame taken back split
    have admitted := observed.1
    rw [split] at admitted
    exact allows_of_admits admitted
  · intro sender free frame ticket mode after permitted
    have sent := step_frame sender run.trace frame ticket mode
    have same : run = ⟨.free sender, run.trace⟩ := by rw [← free]
    have known : permitted = sender.Permits frame := by
      simp only [permitted, Sender.Permits, ← told, free, Custody.sender]
    rw [known]
    have moved : after = (⟨.free sender, run.trace⟩ : Run types σ).step (.call (.frame frame ticket mode)) := by
      rw [← same]
    rw [moved]
    exact sent

/-- A carrier that refuses the first frame of a stream, takes the next frame, and refuses a ping. -/
def pickyCarrier : ScriptedCarrier :=
  { ScriptedCarrier.accepting with nextReplies := [.refuse .backpressure, .accept, .refuse .closed] }

/-- A stream is given up at once, then a text message is begun, and a binary one that cannot be. -/
def mixedEvents : List (Event catalogue) :=
  [.openStream .text 1 0, .stream (.write [97, 98]), .dropStream, .call (.fragment .text [99] false 0),
    .call (.binary [1] 0), .call (.ping [])]

theorem openMessage_told_by_trace_mixed :
    let run := fromStart (.ofRegistry .empty) pickyCarrier .empty mixedEvents
    run.custody.sender.openMessage = some .text ∧
    (run.trace = [.opened, .handed ⟨.text, false, [97]⟩ false, .dropped] ++
        .handed ⟨.text, false, [99]⟩ true :: [.handed (.ping []) false] ∧
      Fits none Opcode.text) ∧
    ∃ sender, run.custody = .free sender ∧ ∃ error, run.step (.call (.frame (.binary [1]) 0 .off)) =
      ⟨.free (sender.fail 0 (.framing error)), run.trace⟩ := by
  intro run
  obtain ⟨told, fitted, sent⟩ := openMessage_told_by_trace (.ofRegistry .empty) pickyCarrier .empty mixedEvents
  have split : run.trace = [.opened, .handed ⟨.text, false, [97]⟩ false, .dropped] ++
      .handed ⟨.text, false, [99]⟩ true :: [.handed (.ping []) false] := rfl
  refine ⟨told.trans rfl, ⟨split, fitted _ _ _ _ split⟩, _, rfl, (sent _ rfl (.binary [1]) 0 .off).1 ?_⟩
  rintro (continues | begins)
  · cases continues
  · cases begins

end Run
end Egress
