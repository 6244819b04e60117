import Egress.Catalogue
import Egress.Proofs.Filling
import Egress.Proofs.Framing

/-!
What is handed over after a failure. A stream whose message has failed takes no more bytes, and closing it sends an empty
last frame at most, and only in the middle of a message. But a flush sends what is in the buffer, whether or not the
message has failed. So nothing else goes out after a failure exactly if nothing is flushed then.
-/
namespace Egress

/-! ## Moments -/

/-- A frame that a carrier was handed, and the ledger at that moment. -/
structure Moment extends Handover where
  ledger : Ledger

/-- Whether the message had failed by then. -/
def Moment.late (message : MessageId) (moment : Moment) : Bool := (moment.ledger.failure message).isSome

/-- A carrier and what it has been handed, moment by moment. -/
structure Chronicled (σ : Type) where
  carrier : σ
  chronicle : List Moment

instance {σ : Type} [Carrier σ] : Carrier (Chronicled σ) where
  sendFrame chronicled ledger frame ticket mode :=
    match Carrier.sendFrame chronicled.carrier ledger frame ticket mode with
    | (verdict, carrier, after) =>
      (verdict, ⟨carrier, chronicled.chronicle ++ [⟨⟨frame, ticket, mode, verdict⟩, ledger⟩]⟩, after)
  flush chronicled ledger ticket :=
    match Carrier.flush chronicled.carrier ledger ticket with
    | (verdict, carrier, after) => (verdict, { chronicled with carrier }, after)
  idleTimeout chronicled := Carrier.idleTimeout chronicled.carrier
  setIdleTimeout chronicled span := { chronicled with carrier := Carrier.setIdleTimeout chronicled.carrier span }
  held chronicled := Carrier.held chronicled.carrier
  work chronicled ledger :=
    match Carrier.work chronicled.carrier ledger with
    | (carrier, after) => ({ chronicled with carrier }, after)

/-- After the failure of a message one frame is handed over at most: an empty last frame, when an earlier frame of the
message was taken. -/
structure Halts (message : MessageId) (chronicle : List Moment) : Prop where
  once : (chronicle.filter (·.late message)).length ≤ 1
  empty : ∀ front moment back, chronicle = front ++ moment :: back → moment.late message = true →
    moment.frame.final = true ∧ moment.frame.payload = [] ∧ ∃ earlier ∈ front, earlier.taken = true

theorem halts_of_prompt {message : MessageId} {chronicle : List Moment}
    (prompt : ∀ moment ∈ chronicle, moment.late message = false) : Halts message chronicle := by
  refine ⟨?_, ?_⟩
  · rw [List.filter_eq_nil_iff.mpr fun moment member => by simp [prompt moment member]]
    exact Nat.zero_le _
  · rintro front moment back rfl late
    rw [prompt moment (by simp)] at late
    cases late

theorem halts_concat {message : MessageId} {chronicle : List Moment} {moment : Moment}
    (prompt : ∀ moment ∈ chronicle, moment.late message = false) (final : moment.frame.final = true)
    (empty : moment.frame.payload = []) (begun : ∃ earlier ∈ chronicle, earlier.taken = true) :
    Halts message (chronicle ++ [moment]) := by
  have none : chronicle.filter (·.late message) = [] :=
    List.filter_eq_nil_iff.mpr fun moment member => by simp [prompt moment member]
  refine ⟨?_, ?_⟩
  · rw [List.filter_append, none]
    exact List.length_filter_le _ _
  · intro front other back split late
    rcases List.eq_nil_or_concat back with rfl | ⟨back, last, rfl⟩
    · obtain ⟨rfl, same⟩ := List.append_inj' split rfl
      cases same
      exact ⟨final, empty, begun⟩
    · rw [List.concat_eq_append, ← List.cons_append, ← List.append_assoc] at split
      obtain ⟨rfl, -⟩ := List.append_inj' split rfl
      rw [prompt other (by simp)] at late
      cases late

namespace Sender

variable {types : ValueTypes} {σ : Type}

/-- The sender, with a chronicle that begins now. -/
def chronicled (sender : Sender types σ) : Sender types (Chronicled σ) where
  session := sender.session
  carrier := ⟨sender.carrier, []⟩
  ledger := sender.ledger
  batchMode := sender.batchMode
  openMessage := sender.openMessage

def chronicle (sender : Sender types (Chronicled σ)) : List Moment := sender.carrier.chronicle

variable [Carrier σ]

theorem chronicle_offer (sender : Sender types (Chronicled σ)) (frame : Frame) (ticket : Ticket) (mode : BatchMode) :
    ∃ moment : Moment, moment.frame = frame ∧ moment.ledger = sender.ledger ∧
      (sender.offer frame ticket mode).2.chronicle = sender.chronicle ++ [moment] ∧
      (sender.offer frame ticket mode).1 = if moment.taken then .accepted else .refused := by
  refine ⟨⟨⟨frame, ticket, mode, (sender.submit frame ticket mode).1⟩, sender.ledger⟩, rfl, rfl, ?_⟩
  have noted : (sender.submit frame ticket mode).2.chronicle =
      sender.chronicle ++ [⟨⟨frame, ticket, mode, (sender.submit frame ticket mode).1⟩, sender.ledger⟩] := rfl
  revert noted
  unfold offer
  rcases sender.submit frame ticket mode with ⟨error | ⟨⟩, after⟩
  · exact fun noted => ⟨noted, rfl⟩
  · exact fun noted => ⟨noted, rfl⟩

/-- A data frame is handed over exactly if it fits. -/
theorem chronicle_dispatch (sender : Sender types (Chronicled σ)) {frame : Frame} (data : frame.isData = true)
    (ticket : Ticket) (mode : BatchMode) :
    (¬ Monitor.Fits sender.openMessage frame.opcode ∧ (sender.dispatch frame ticket mode).1 = .rejected ∧
      (sender.dispatch frame ticket mode).2.chronicle = sender.chronicle) ∨
    (Monitor.Fits sender.openMessage frame.opcode ∧
      ∃ moment : Moment, moment.frame = frame ∧ moment.ledger = sender.ledger ∧
        (sender.dispatch frame ticket mode).2.chronicle = sender.chronicle ++ [moment] ∧
        (sender.dispatch frame ticket mode).1 = if moment.taken then .accepted else .refused) := by
  unfold dispatch
  rw [if_pos data]
  rcases sender.openMessage.advance_eq frame.opcode with ⟨fits, advanced⟩ | ⟨unfit, error, rejected⟩
  · rw [advanced]
    obtain ⟨moment, same, ledger, noted, answered⟩ :=
      chronicle_offer { sender with openMessage := sender.openMessage.or frame.opcode.kind? } frame ticket mode
    refine .inr ⟨fits, moment, same, ledger, ?_, answered⟩
    refine Eq.trans ?_ noted
    show chronicle (afterData _ frame) = _
    unfold afterData
    split <;> rfl
  · rw [rejected]
    exact .inl ⟨unfit, rfl, rfl⟩

theorem chronicle_afterElsewhere (sender : Sender types (Chronicled σ)) (event : Elsewhere) :
    (sender.afterElsewhere event).chronicle = sender.chronicle := by
  cases event <;> rfl

end Sender

namespace MessageStream

variable {types : ValueTypes} {σ : Type} [Carrier σ]

/-! ## Chronicles of a stream -/

def chronicle (stream : MessageStream types (Chronicled σ)) : List Moment := stream.sender.chronicle

variable {stream : MessageStream types (Chronicled σ)} {message : MessageId}

/-- The next frame is handed over exactly if it fits, and the stream counts it if it is taken. -/
theorem chronicle_handOver (stream : MessageStream types (Chronicled σ)) (final : Bool) :
    (¬ Monitor.Fits stream.sender.openMessage stream.opcode ∧ (stream.handOver final).chronicle = stream.chronicle ∧
      (stream.handOver final).framesSent = stream.framesSent) ∨
    (Monitor.Fits stream.sender.openMessage stream.opcode ∧ ∃ moment : Moment, moment.frame = stream.nextFrame final ∧
      moment.late stream.message = stream.failure.isSome ∧
      (stream.handOver final).chronicle = stream.chronicle ++ [moment] ∧
      (stream.handOver final).framesSent = if moment.taken then stream.framesSent + 1 else stream.framesSent) := by
  have data : (stream.nextFrame final).isData = true := stream.isData_opcode
  have noted : (stream.handOver final).chronicle = (stream.sendNext final).2.chronicle :=
    congrArg Chronicled.chronicle (stream.handOver_frames final).1
  have counted : (stream.handOver final).framesSent =
      if (stream.sendNext final).1 = .accepted then stream.framesSent + 1 else stream.framesSent := by
    unfold handOver
    rcases stream.sendNext final with ⟨delivery, sender⟩
    cases delivery with
    | refused =>
      unfold afterDelivery
      dsimp only
      split <;> rfl
    | _ => rfl
  have sent : stream.sendNext final = (stream.sender.issue (stream.recipient final)).2.dispatch (stream.nextFrame final)
    (stream.sender.issue (stream.recipient final)).1 stream.sender.batchMode := rfl
  rw [noted, counted, sent]
  rcases (stream.sender.issue (stream.recipient final)).2.chronicle_dispatch data
      (stream.sender.issue (stream.recipient final)).1 stream.sender.batchMode with
    ⟨unfit, rejected, same⟩ | ⟨fits, moment, frame, ledger, more, answered⟩
  · exact .inl ⟨unfit, same, if_neg (by rw [rejected]; decide)⟩
  · refine .inr ⟨fits, moment, frame, ?_, more, ?_⟩
    · unfold Moment.late
      rw [ledger]
      rfl
    · rw [answered]
      cases moment.taken <;> rfl

/-- A stream that has handed over nothing since its message failed. -/
structure Prompt (message : MessageId) (stream : MessageStream types (Chronicled σ)) : Prop where
  same : stream.message = message
  prompt : ∀ moment ∈ stream.chronicle, moment.late message = false
  /-- It has counted no frame that was not taken. -/
  begun : 0 < stream.framesSent → ∃ moment ∈ stream.chronicle, moment.taken = true

omit [Carrier σ] in
theorem prompt_start (sender : Sender types σ) (kind : MessageKind) (bufferSize : Nat) :
    (start sender.chronicled kind bufferSize).Prompt sender.ledger.failures.size := by
  rw [start_eq]
  exact ⟨rfl, fun moment member => absurd member List.not_mem_nil, fun some => absurd some (Nat.lt_irrefl 0)⟩

namespace Prompt

theorem handOver (prompt : stream.Prompt message) (unfailed : stream.failure = none) (final : Bool) :
    (stream.handOver final).Prompt message := by
  have same := (stream.handOver_own final).1.trans prompt.same
  rcases stream.chronicle_handOver final with ⟨_, kept, counted⟩ | ⟨_, moment, _, late, more, counted⟩
  · refine ⟨same, kept ▸ prompt.prompt, fun some => ?_⟩
    rw [kept]
    exact prompt.begun (counted ▸ some)
  · rw [unfailed, prompt.same] at late
    refine ⟨same, ?_, fun some => ?_⟩
    · intro other member
      rw [more] at member
      rcases List.mem_append.mp member with old | new
      · exact prompt.prompt other old
      · cases List.mem_singleton.mp new
        exact late
    · rw [more]
      cases taken : moment.taken with
      | true => exact ⟨moment, by simp, taken⟩
      | false =>
        rw [counted, taken] at some
        obtain ⟨earlier, member, begun⟩ := prompt.begun some
        exact ⟨earlier, List.mem_append_left _ member, begun⟩

theorem write (prompt : stream.Prompt message) (data : Bytes) : (stream.write data).2.Prompt message :=
  write_keeps (Prompt message) (fun _ prompt => ⟨prompt.same, prompt.prompt, prompt.begun⟩)
    (fun prompt unfailed => prompt.handOver unfailed false) prompt data

/-- The last frame after a failure is empty, and goes out only after a frame that was taken. -/
theorem halts_sendLast (prompt : stream.Prompt message) : Halts message stream.sendLast.chronicle := by
  unfold MessageStream.sendLast
  split
  case h_1 unfailed =>
    split
    · exact halts_of_prompt prompt.prompt
    · rw [emit_snd]
      exact halts_of_prompt (prompt.handOver unfailed true).prompt
  case h_2 error failed =>
    split
    case isTrue begun =>
      rw [emit_snd]
      rcases ({ stream with buffer := stream.buffer.clear } :
        MessageStream types (Chronicled σ)).chronicle_handOver true with ⟨_, kept, _⟩ | ⟨_, moment, frame, _, more, _⟩
      · rw [kept]
        exact halts_of_prompt prompt.prompt
      · rw [more]
        exact halts_concat prompt.prompt (by rw [frame]; rfl) (by rw [frame]; rfl) (prompt.begun begun.2)
    case isFalse => exact halts_of_prompt prompt.prompt

end Prompt

/-- A flush would hand over what was written before the message failed. -/
structure Leaks (stream : MessageStream types σ) : Prop where
  unclosed : stream.closed = false
  failed : stream.failure ≠ none
  left : stream.buffer.isEmpty = false
  fits : Monitor.Fits stream.sender.openMessage stream.opcode

/-- An open stream has handed over nothing since its message failed, and a closed one an empty last frame at most. -/
structure Halting (message : MessageId) (stream : MessageStream types (Chronicled σ)) : Prop where
  same : stream.message = message
  prompt : stream.closed = false → stream.Prompt message
  halts : stream.closed = true → Halts message stream.chronicle

omit [Carrier σ] in
theorem Halting.of_prompt (prompt : stream.Prompt message) (unclosed : stream.closed = false) : stream.Halting message :=
  ⟨prompt.same, fun _ => prompt, fun closed => absurd closed (by simp [unclosed])⟩

theorem Halting.close (halting : stream.Halting message) : stream.close.Halting message ∧ stream.close.closed = true := by
  unfold MessageStream.close
  cases closed : stream.closed with
  | true => exact ⟨halting, closed⟩
  | false =>
    have prompt := halting.prompt closed
    let closing : MessageStream types (Chronicled σ) := { stream with closed := true }
    have last : closing.Prompt message := ⟨prompt.same, prompt.prompt, prompt.begun⟩
    obtain ⟨same, ended⟩ := closing.sendLast_message
    exact ⟨⟨same.trans prompt.same, fun unclosed => absurd (ended.symm.trans unclosed) (by simp [closing]),
      fun _ => last.halts_sendLast⟩, ended⟩

theorem Halting.write (halting : stream.Halting message) (data : Bytes) : (stream.write data).2.Halting message := by
  cases closed : stream.closed with
  | true =>
    unfold MessageStream.write
    rw [if_pos closed]
    exact halting
  | false => exact .of_prompt ((halting.prompt closed).write data) ((stream.closed_write data).trans closed)

/-- A flush that leaks nothing hands over what was written to a message that has not failed. -/
theorem Halting.flush (halting : stream.Halting message) (tight : ¬ stream.Leaks) : stream.flush.2.Halting message := by
  unfold MessageStream.flush
  cases closed : stream.closed with
  | true => exact halting
  | false =>
    rw [if_neg Bool.false_ne_true]
    split
    case isTrue => exact halting
    case isFalse some =>
      have prompt := halting.prompt closed
      rw [emit_snd]
      refine .of_prompt ?_ ((stream.handOver_own false).2.2.trans closed)
      cases failed : stream.failure with
      | none => exact prompt.handOver failed false
      | some error =>
        rcases stream.chronicle_handOver false with ⟨_, kept, counted⟩ | ⟨fits, _⟩
        · exact ⟨(stream.handOver_own false).1.trans prompt.same, kept ▸ prompt.prompt,
            fun some => kept ▸ prompt.begun (counted ▸ some)⟩
        · exact absurd ⟨closed, by simp [failed], by simpa using some, fits⟩ tight

theorem Halting.after (halting : stream.Halting message) {event : StreamEvent} (tight : event = .flush → ¬ stream.Leaks) :
    (stream.after event).Halting message := by
  have still : ∀ after : MessageStream types (Chronicled σ), after.message = stream.message →
      after.chronicle = stream.chronicle → after.framesSent = stream.framesSent → after.closed = stream.closed →
      after.Halting message := by
    intro after same kept counted closed
    refine ⟨same.trans halting.same, fun unclosed => ?_, fun ended => kept ▸ halting.halts (closed ▸ ended)⟩
    have prompt := halting.prompt (closed ▸ unclosed)
    exact ⟨same.trans halting.same, kept ▸ prompt.prompt, fun some => kept ▸ prompt.begun (counted ▸ some)⟩
  cases event with
  | write bytes => exact halting.write bytes
  | flush => exact halting.flush (tight rfl)
  | fail error => exact still _ rfl rfl rfl rfl
  | attach ticket => exact still _ rfl rfl rfl rfl
  | close => exact halting.close.1
  | elsewhere event => exact still _ rfl (Sender.chronicle_afterElsewhere _ event) rfl rfl

/-! ## Leaks -/

/-- What has been handed over stays in the chronicle. -/
theorem mem_handOver {moment : Moment} (member : moment ∈ stream.chronicle) (final : Bool) :
    moment ∈ (stream.handOver final).chronicle := by
  rcases stream.chronicle_handOver final with ⟨_, kept, _⟩ | ⟨_, next, _, _, more, _⟩
  · exact kept ▸ member
  · exact more ▸ List.mem_append_left _ member

theorem mem_sendLast {moment : Moment} (member : moment ∈ stream.chronicle) : moment ∈ stream.sendLast.chronicle := by
  unfold sendLast
  split
  · split
    · exact member
    · rw [emit_snd]
      exact mem_handOver member true
  · split
    · rw [emit_snd]
      let cleared : MessageStream types (Chronicled σ) := { stream with buffer := stream.buffer.clear }
      have still : moment ∈ cleared.chronicle := member
      exact mem_handOver still true
    · exact member

theorem mem_close {moment : Moment} (member : moment ∈ stream.chronicle) : moment ∈ stream.close.chronicle := by
  unfold close
  split
  · exact member
  · let closing : MessageStream types (Chronicled σ) := { stream with closed := true }
    have still : moment ∈ closing.chronicle := member
    exact mem_sendLast still

theorem mem_after {moment : Moment} (member : moment ∈ stream.chronicle) (event : StreamEvent) :
    moment ∈ (stream.after event).chronicle := by
  cases event with
  | write bytes =>
    exact write_keeps (fun stream : MessageStream types (Chronicled σ) => moment ∈ stream.chronicle)
      (fun _ member => member) (fun member _ => mem_handOver member false) member bytes
  | flush =>
    show moment ∈ stream.flush.2.chronicle
    unfold flush
    split
    · exact member
    · split
      · exact member
      · rw [emit_snd]
        exact mem_handOver member false
  | fail error => exact member
  | attach ticket => exact member
  | close => exact mem_close member
  | elsewhere event =>
    have kept : (stream.after (.elsewhere event)).chronicle = stream.chronicle :=
      Sender.chronicle_afterElsewhere stream.sender event
    exact kept ▸ member

/-- A leak hands over a fragment of a message that has failed. -/
theorem Leaks.handed (leaks : stream.Leaks) :
    ∃ moment ∈ stream.flush.2.chronicle, moment.late stream.message = true ∧ moment.frame.final = false := by
  unfold flush
  rw [if_neg (by simp [leaks.unclosed]), if_neg (by simp [leaks.left]), emit_snd]
  rcases stream.chronicle_handOver false with ⟨unfit, _⟩ | ⟨_, moment, frame, late, more, _⟩
  · exact absurd leaks.fits unfit
  · refine ⟨moment, by simp [more], ?_, by rw [frame]; rfl⟩
    rw [late]
    exact Option.isSome_iff_ne_none.mpr leaks.failed

/-- Among the events is a flush that leaks. -/
def FlushesLate (stream : MessageStream types (Chronicled σ)) (events : List StreamEvent) : Prop :=
  ∃ front back, events = front ++ .flush :: back ∧ (stream.afterAll front).Leaks

theorem flushesLate_cons {event : StreamEvent} {events : List StreamEvent} :
    stream.FlushesLate (event :: events) ↔
      (event = .flush ∧ stream.Leaks) ∨ (stream.after event).FlushesLate events := by
  constructor
  · rintro ⟨front, back, split, leaks⟩
    cases front with
    | nil =>
      obtain ⟨rfl, -⟩ := List.cons.inj split
      exact .inl ⟨rfl, leaks⟩
    | cons first front =>
      obtain ⟨rfl, rest⟩ := List.cons.inj split
      exact .inr ⟨front, back, rest, leaks⟩
  · rintro (⟨rfl, leaks⟩ | ⟨front, back, rfl, leaks⟩)
    · exact ⟨[], events, rfl, leaks⟩
    · exact ⟨event :: front, back, rfl, leaks⟩

theorem mem_afterAll {moment : Moment} (member : moment ∈ stream.chronicle) (events : List StreamEvent) :
    moment ∈ (stream.afterAll events).chronicle := by
  induction events generalizing stream with
  | nil => exact member
  | cons event events ih => exact ih (mem_after member event)

/-- Either a flush leaks, and what it has handed over stays in the chronicle, or nothing goes wrong. -/
theorem Halting.afterAll (halting : stream.Halting message) (events : List StreamEvent) :
    (¬ stream.FlushesLate events ∧ (stream.afterAll events).Halting message) ∨
      (stream.FlushesLate events ∧
        ∃ moment ∈ (stream.afterAll events).chronicle, moment.late message = true ∧ moment.frame.final = false) := by
  induction events generalizing stream with
  | nil =>
    refine .inl ⟨?_, halting⟩
    rintro ⟨front, back, split, _⟩
    exact absurd split (by simp)
  | cons event events ih =>
    rw [flushesLate_cons]
    by_cases leaks : event = .flush ∧ stream.Leaks
    · obtain ⟨rfl, leaking⟩ := leaks
      obtain ⟨moment, member, late⟩ := leaking.handed
      exact .inr ⟨.inl ⟨rfl, leaking⟩, moment, mem_afterAll member events, halting.same ▸ late⟩
    · rcases ih (halting.after fun flush leaking => leaks ⟨flush, leaking⟩) with ⟨tight, halts⟩ | ⟨late, handed⟩
      · exact .inl ⟨not_or.mpr ⟨leaks, tight⟩, halts⟩
      · exact .inr ⟨.inr late, handed⟩

/-- Whatever happens to a streamed message and whenever it fails: nothing but an empty last frame is handed over after
the failure, and that only if an earlier frame was taken, exactly if no flush comes when the message has failed while
something is in the buffer. -/
theorem halts_iff_no_late_flush (sender : Sender types σ) (kind : MessageKind) (bufferSize : Nat)
    (events : List StreamEvent) :
    let stream := start sender.chronicled kind bufferSize
    Halts stream.message (stream.afterAll events).finish.chronicle ↔ ¬ stream.FlushesLate events := by
  intro stream
  have halting : stream.Halting stream.message := .of_prompt (prompt_start sender kind bufferSize) rfl
  rcases halting.afterAll events with ⟨tight, halts⟩ | ⟨late, moment, member, after, fragment⟩
  · obtain ⟨last, ended⟩ := halts.close
    exact ⟨fun _ => tight, fun _ => last.halts ended⟩
  · refine ⟨fun halts => ?_, fun tight => absurd late tight⟩
    obtain ⟨front, back, split⟩ := List.append_of_mem (mem_close member)
    have final := (halts.empty front moment back split after).1
    exact nomatch fragment.symm.trans final

/-- A message fails with two bytes in its buffer. A flush sends them all the same, and then comes the last frame. -/
theorem flushed_after_failure :
    let sender : Sender catalogue ScriptedCarrier := .start (.ofRegistry .empty) .accepting .empty
    let stream := start sender.chronicled .text 4
    let after := (stream.afterAll [.write [97, 98], .fail .closed, .flush]).finish
    after.chronicle.map (fun moment => (moment.late stream.message, moment.frame, moment.taken)) =
      [(true, ⟨.text, false, [97, 98]⟩, true), (true, ⟨.continuation, true, []⟩, true)] ∧
    ¬ Halts stream.message after.chronicle := by
  intro sender stream after
  have twice : (after.chronicle.filter (·.late stream.message)).length = 2 := by decide +kernel
  refine ⟨by decide +kernel, fun halts => ?_⟩
  have once := halts.once
  rw [twice] at once
  exact absurd once (by decide)

end MessageStream
end Egress
