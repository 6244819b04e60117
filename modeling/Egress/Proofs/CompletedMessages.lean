import Egress.Proofs.Accounts
import Egress.Proofs.Reassembly
import Mathlib.Data.List.Forall2

/-!
The messages of a run. A receiver puts together exactly the messages of the account, in order, if the carrier refuses
nothing. A stream that fails before it has had a frame taken is to contribute nothing; it does contribute a message if it
is flushed afterwards while something is in its buffer.
-/
namespace Egress

open Monitor (Fits)

/-! ## Streams -/

namespace MessageStream

variable {types : ValueTypes} {σ : Type} [Carrier σ] {stream : MessageStream types (Logged σ)} {course : Course}
  {complete : List Message}

theorem log_after (stream : MessageStream types (Logged σ)) (event : StreamEvent) :
    stream.sender.log <+: (stream.after event).sender.log := Leads.log_prefix (stream.leads_after event)

/-- A stream that is closed or has failed takes no more bytes. -/
theorem write_unchanged (halted : stream.closed = true ∨ stream.failure ≠ none) (bytes : Bytes) :
    (stream.write bytes).2 = stream := by
  unfold write
  by_cases closed : stream.closed = true
  · rw [if_pos closed]
  · rw [if_neg closed]
    split
    · rfl
    · exact absurd ‹_› (halted.resolve_left closed)

/-- A stream that is closed stays closed, and hands nothing over. -/
theorem after_of_closed (closed : stream.closed = true) (event : StreamEvent) :
    (stream.after event).closed = true ∧ (stream.after event).sender.openMessage = stream.sender.openMessage ∧
      (stream.after event).sender.log = stream.sender.log := by
  have unchanged {after : MessageStream types (Logged σ)} (same : after = stream) : after.closed = true ∧
      after.sender.openMessage = stream.sender.openMessage ∧ after.sender.log = stream.sender.log := by
    rw [same]
    exact ⟨closed, rfl, rfl⟩
  cases event with
  | write bytes => exact unchanged (stream.write_unchanged (.inl closed) bytes)
  | flush =>
    have same : stream.flush.2 = stream := by
      unfold flush
      rw [if_pos closed]
    exact unchanged same
  | close =>
    have same : stream.close = stream := by
      unfold close
      rw [if_pos closed]
    exact unchanged same
  | elsewhere event => cases event <;> exact ⟨closed, rfl, rfl⟩
  | _ => exact ⟨closed, rfl, rfl⟩

/-- After a failure only a flush hands a frame over. -/
theorem framesSent_after (carries : stream.Carries complete course.written) (failed : stream.failure ≠ none)
    {event : StreamEvent} (unclosing : event ≠ .close) (taken : AllTaken (stream.after event).sender.log) :
    (stream.after event).framesSent = stream.framesSent + if stream.flushes event then 1 else 0 := by
  cases event with
  | write bytes => exact congrArg framesSent (stream.write_unchanged (.inr failed) bytes)
  | flush =>
    change AllTaken stream.flush.2.sender.log at taken
    show stream.flush.2.framesSent = _
    revert taken
    unfold flush flushes
    rw [if_neg (by simp [carries.unclosed])]
    split
    case isTrue empty => simp [empty]
    case isFalse some =>
      rw [emit_snd]
      intro taken
      rw [carries.fitting.handOver_of_taken (carries.fitting.answer_of_taken taken)]
      simp [some]
  | close => exact absurd rfl unclosing
  | elsewhere event => cases event <;> rfl
  | _ => rfl

/-- A stream of which a receiver has what has been written, if no frame was refused. -/
structure Follows (complete : List Message) (course : Course) (stream : MessageStream types (Logged σ)) : Prop where
  carries : stream.Carries complete course.written
  roomy : stream.Roomy
  late : course.late = true → course.stillborn = true
  /-- After a failure frames come from flushes only, so a late one is the only way for the message to begin. -/
  stillborn : course.stillborn = true →
    stream.failure ≠ none ∧ (AllTaken stream.sender.log → (course.late = true ↔ 0 < stream.framesSent))

omit [Carrier σ] in
theorem failedFirst_iff : stream.failedFirst = true ↔ stream.failure ≠ none ∧ stream.framesSent = 0 := by
  simp [failedFirst, Option.isSome_iff_ne_none]

omit [Carrier σ] in
/-- A message that has failed before a frame of it was taken has had a frame taken exactly if it was flushed since. -/
theorem Follows.seen (follows : stream.Follows complete course)
    (stillborn : (course.stillborn || stream.failedFirst) = true) :
    stream.failure ≠ none ∧ (AllTaken stream.sender.log → (course.late = true ↔ 0 < stream.framesSent)) := by
  cases before : course.stillborn with
  | true => exact follows.stillborn before
  | false =>
    rw [before, Bool.false_or, failedFirst_iff] at stillborn
    obtain ⟨failed, unbegun⟩ := stillborn
    refine ⟨failed, fun _ => ⟨fun late => ?_, fun some => ?_⟩⟩
    · have early := follows.late late
      rw [before] at early
      cases early
    · rw [unbegun] at some
      exact absurd some (Nat.lt_irrefl 0)

omit [Carrier σ] in
theorem follows_start {sender : Sender types (Logged σ)} (unopened : sender.openMessage = none)
    (reads : Reads sender.log ⟨complete, none⟩) (kind : MessageKind) (bufferSize : Nat) (ticket : Ticket) :
    ((start sender kind bufferSize).setTicket ticket).Follows complete .start :=
  ⟨carries_start unopened (fun _ => reads) kind bufferSize ticket, roomy_start sender kind bufferSize, nofun, nofun⟩

/-- When the stream is closed its contribution is complete. -/
theorem Follows.close (follows : stream.Follows complete course) {due : List Contribution}
    (yields : List.Forall₂ Contribution.Yields due complete) (taken : AllTaken stream.close.sender.log) :
    ∃ received, Reads stream.close.sender.log ⟨received, none⟩ ∧
      List.Forall₂ Contribution.Yields (due ++ ((course.after stream .close).contribution stream.kind).toList) received := by
  have seen : (course.after stream .close).stillborn = true → _ := follows.seen
  have earlier : AllTaken stream.sender.log := taken.of_prefix (stream.log_after .close)
  have data : (course.after stream .close).written = course.written := List.append_nil _
  have late : (course.after stream .close).late = course.late := by simp [Course.after, flushes]
  unfold Course.contribution
  rw [data, late]
  rcases follows.carries.close taken with ⟨unfailed, reads⟩ | ⟨failed, begun, content, start, reads⟩ | ⟨failed, unbegun, reads⟩
  · have alive : ¬ (course.after stream .close).stillborn = true := fun stillborn => (seen stillborn).1 unfailed
    have whole : (course.after stream .close).failed = false := by simp [Course.after, unfailed]
    rw [if_neg alive, whole]
    exact ⟨_, reads, List.rel_append yields (.cons ⟨rfl, rfl⟩ .nil)⟩
  · have cut : (course.after stream .close).failed = true := Option.isSome_iff_ne_none.mpr failed
    refine ⟨_, reads, List.rel_append yields ?_⟩
    by_cases stillborn : (course.after stream .close).stillborn = true
    · rw [if_pos stillborn, if_pos (((seen stillborn).2 earlier).mpr begun)]
      exact .cons ⟨rfl, start⟩ .nil
    · rw [if_neg stillborn, cut]
      exact .cons ⟨rfl, start⟩ .nil
  · have stillborn : (course.after stream .close).stillborn = true :=
      Bool.or_eq_true_iff.mpr (.inr (failedFirst_iff.mpr ⟨failed, unbegun⟩))
    have early : ¬ course.late = true := fun late =>
      absurd (((seen stillborn).2 earlier).mp late) (by rw [unbegun]; exact Nat.lt_irrefl 0)
    rw [if_pos stillborn, if_neg early]
    refine ⟨_, reads, ?_⟩
    rw [Option.toList_none, List.append_nil]
    exact yields

variable [LawfulCarrier σ]

theorem failed_after (failed : stream.failure ≠ none) {event : StreamEvent} (unclosing : event ≠ .close) :
    (stream.after event).failure ≠ none := by
  have still {after : MessageStream types (Logged σ)} (more : stream.sender.ledger.Extends after.sender.ledger)
      (same : after.message = stream.message) : after.failure ≠ none :=
    fun unfailed => failed (failure_none_of_extends more same unfailed)
  cases event with
  | write bytes =>
    show (stream.write bytes).2.failure ≠ none
    rw [write_unchanged (.inr failed)]
    exact failed
  | flush =>
    show stream.flush.2.failure ≠ none
    unfold flush
    split
    · exact failed
    · split
      · exact failed
      · rw [emit_snd]
        exact still (stream.extends_handOver false) (stream.handOver_own false).1
  | fail error => exact still (Ledger.extends_after _ (.recordFailure _ error)) rfl
  | attach ticket => exact failed
  | close => exact absurd rfl unclosing
  | elsewhere event => exact still (stream.extends_elsewhere event) rfl

/-- What happens before the end is followed. -/
theorem Follows.after (follows : stream.Follows complete course) {event : StreamEvent} (unclosing : event ≠ .close) :
    (stream.after event).Follows complete (course.after stream event) := by
  obtain ⟨carries, roomy⟩ := (endures_carries complete).after follows.carries follows.roomy unclosing
  refine ⟨carries, roomy, fun late => ?_, fun stillborn => ?_⟩
  · show (course.stillborn || stream.failedFirst) = true
    rcases Bool.or_eq_true_iff.mp late with before | now
    · rw [follows.late before, Bool.true_or]
    · rw [(Bool.and_eq_true_iff.mp now).1, Bool.or_true]
  · obtain ⟨failed, seen⟩ := follows.seen stillborn
    refine ⟨failed_after failed unclosing, fun taken => ?_⟩
    have before := seen (taken.of_prefix (stream.log_after event))
    rw [framesSent_after follows.carries failed unclosing taken]
    show (course.late || (stream.failedFirst && stream.flushes event)) = true ↔ _
    -- a flush that sends something is late if it is the first one since the failure, and so was an earlier one if not
    cases flushes : stream.flushes event with
    | false => simpa using before
    | true =>
      refine ⟨fun _ => Nat.succ_pos _, fun _ => ?_⟩
      rcases Nat.eq_zero_or_pos stream.framesSent with unbegun | begun
      · rw [failedFirst_iff.mpr ⟨failed, unbegun⟩, Bool.and_true, Bool.or_true]
      · rw [before.mpr begun, Bool.true_or]

end MessageStream

/-! ## Agreement -/

/-- A receiver puts together what is due, and has the message that has begun. -/
def Sender.Agrees {types : ValueTypes} {σ : Type} (account : Account) (sender : Sender types (Logged σ)) : Prop :=
  ∃ complete, List.Forall₂ Contribution.Yields account.due complete ∧
    Reads sender.log ⟨complete, account.begun⟩ ∧ sender.openMessage = account.begun.map Message.kind

/-- The same of a sender that is lent to a stream. -/
inductive MessageStream.Agrees {types : ValueTypes} {σ : Type} (account : Account) (stream : MessageStream types (Logged σ)) :
    Prop where
  /-- A message of the other kind had begun. -/
  | blocked {complete : List Message} (yields : List.Forall₂ Contribution.Yields account.due complete) {message : Message}
      (begun : account.begun = some message) (reads : Reads stream.sender.log ⟨complete, some message⟩)
      (blocked : stream.Blocked message.kind stream.sender.log)
  | follows {complete : List Message} (yields : List.Forall₂ Contribution.Yields account.due complete)
      (unbegun : account.begun = none) (follows : stream.Follows complete account.course)
  | ended (unbegun : account.begun = none) (closed : stream.closed = true) (agrees : stream.sender.Agrees account)

namespace Account

variable {account : Account} {complete : List Message}

/-- The message begun goes the same way in the account and with the receiver. -/
theorem yields_put (yields : List.Forall₂ Contribution.Yields account.due complete) (message : Message) (final : Bool) :
    ∃ received, List.Forall₂ Contribution.Yields (account.put message final).due received ∧
      Inbox.put ⟨complete, account.begun⟩ message final = ⟨received, (account.put message final).begun⟩ := by
  cases final with
  | true => exact ⟨complete ++ [message], List.rel_append yields (.cons ⟨rfl, rfl⟩ .nil), rfl⟩
  | false => exact ⟨complete, yields, rfl⟩

theorem begun_put (account : Account) (message : Message) (final : Bool) :
    (account.put message final).begun = if final then none else some message := by
  cases final <;> rfl

end Account

namespace MessageStream

variable {types : ValueTypes} {σ : Type} [Carrier σ] {stream : MessageStream types (Logged σ)} {account : Account}

omit [Carrier σ] in
theorem agrees_start {sender : Sender types (Logged σ)} (agrees : sender.Agrees account) {kind : MessageKind}
    (apart : sender.openMessage ≠ some kind) (bufferSize : Nat) (ticket : Ticket) :
    ((start sender kind bufferSize).setTicket ticket).Agrees account.opened := by
  obtain ⟨complete, yields, reads, openMessage⟩ := agrees
  cases begun : account.begun with
  | none =>
    rw [begun] at reads openMessage
    exact .follows yields begun (follows_start openMessage reads kind bufferSize ticket)
  | some message =>
    rw [begun] at reads openMessage
    have different : kind ≠ message.kind := by
      rintro rfl
      exact apart openMessage
    exact .blocked yields begun reads (blocked_start openMessage different bufferSize ticket)

omit [Carrier σ] in
/-- Once a stream is closed, its sender agrees. -/
theorem Agrees.sender (agrees : stream.Agrees account) (closed : stream.closed = true) : stream.sender.Agrees account := by
  cases agrees with
  | blocked yields begun reads blocked =>
    refine ⟨_, yields, ?_, ?_⟩
    · rw [begun]
      exact reads
    · rw [begun]
      exact blocked.openMessage
  | follows _ _ follows => exact absurd (closed.symm.trans follows.carries.unclosed) nofun
  | ended _ _ agrees => exact agrees

theorem log_afterAll (stream : MessageStream types (Logged σ)) (events : List StreamEvent) :
    stream.sender.log <+: (stream.afterAll events).sender.log := by
  induction events generalizing stream with
  | nil => exact List.prefix_rfl
  | cons event events ih => exact (stream.log_after event).trans (ih (stream.after event))

variable [LawfulCarrier σ]

theorem Agrees.after (agrees : stream.Agrees account) {event : StreamEvent}
    (taken : AllTaken (stream.after event).sender.log) : (stream.after event).Agrees (account.afterStream stream event) := by
  cases agrees with
  | blocked yields begun reads blocked =>
    have still := blocked.after event
    rw [Account.afterStream_of_begun begun]
    refine .blocked yields begun ?_ ?_
    · rw [still.log]
      exact reads
    · rw [still.log]
      exact still
  | follows yields unbegun follows =>
    have unclosed := follows.carries.unclosed
    by_cases closing : event = .close
    · subst closing
      obtain ⟨received, reads, more⟩ := follows.close yields taken
      have ended := (released_of_fitting unclosed follows.carries.fitting follows.carries.unrejected).close
      rw [Account.afterStream_close unbegun unclosed]
      refine .ended unbegun stream.closed_close ⟨received, more, ?_, ?_⟩
      · show Reads stream.close.sender.log ⟨received, account.begun⟩
        rw [unbegun]
        exact reads
      · show stream.close.sender.openMessage = account.begun.map Message.kind
        rw [unbegun]
        exact ended
    · rw [Account.afterStream_of_open unbegun unclosed closing]
      exact .follows yields unbegun (follows.after closing)
  | ended unbegun closed agrees =>
    obtain ⟨complete, yields, reads, openMessage⟩ := agrees
    obtain ⟨still, kept, log⟩ := after_of_closed closed event
    rw [Account.afterStream_of_closed closed]
    refine .ended unbegun still ⟨complete, yields, ?_, kept.trans openMessage⟩
    rw [log]
    exact reads

theorem Agrees.afterAll (agrees : stream.Agrees account) {events : List StreamEvent}
    (taken : AllTaken (stream.afterAll events).sender.log) :
    (stream.afterAll events).Agrees (account.afterStreamAll stream events) := by
  induction events generalizing stream account with
  | nil => exact agrees
  | cons event events ih =>
    have first : AllTaken (stream.after event).sender.log := taken.of_prefix ((stream.after event).log_afterAll events)
    exact ih (agrees.after first) taken

end MessageStream

/-! ## Calls -/

namespace Sender

variable {types : ValueTypes} {σ : Type} [Carrier σ] {sender after : Sender types (Logged σ)} {account : Account}

omit [Carrier σ] in
theorem Agrees.same (agrees : sender.Agrees account)
    (same : after.openMessage = sender.openMessage ∧ after.log = sender.log) : after.Agrees account := by
  obtain ⟨complete, yields, reads, openMessage⟩ := agrees
  refine ⟨complete, yields, ?_, same.1.trans openMessage⟩
  rw [same.2]
  exact reads

/-- A data frame that goes on with the message begun. -/
theorem Agrees.put (agrees : sender.Agrees account) {frame : Frame} (data : frame.isData = true)
    (fits : Fits sender.openMessage frame.opcode) {message : Message}
    (kind : sender.openMessage.or frame.opcode.kind? = some message.kind)
    (next : ∀ complete, (⟨complete, account.begun⟩ : Inbox).read? frame =
      some (Inbox.put ⟨complete, account.begun⟩ message frame.final)) (ticket : Ticket) (mode : BatchMode) :
    (sender.sendFrame frame ticket mode).Agrees (account.put message frame.final) := by
  obtain ⟨complete, yields, reads, openMessage⟩ := agrees
  obtain ⟨received, more, same⟩ := Account.yields_put yields message frame.final
  have permitted : sender.Permits frame := by
    rw [Permits, Monitor.MaySend, if_pos data]
    exact fits
  rcases sender.dispatch_cases frame ticket mode with ⟨denied, _⟩ | ⟨_, handover, _, log, _, effect⟩
  · exact absurd permitted denied
  · rw [if_pos data] at effect
    refine ⟨received, more, ?_, ?_⟩
    · show Reads (sender.dispatch frame ticket mode).2.log _
      rw [log, ← same]
      refine reads.concat ?_
      rw [effect.1]
      exact next complete
    · refine effect.2.trans ?_
      rw [kind, account.begun_put]
      cases frame.final <;> rfl

/-- A message that is sent whole counts if no message is open. If one of the other kind is open, it is rejected. -/
theorem Agrees.whole (agrees : sender.Agrees account) (message : Message) (apart : sender.openMessage ≠ some message.kind)
    (ticket : Ticket) (mode : BatchMode) : (sender.sendFrame message.frame ticket mode).Agrees (account.whole message) := by
  have known : sender.openMessage = account.begun.map Message.kind := agrees.choose_spec.2.2
  unfold Account.whole
  cases begun : account.begun with
  | none =>
    rw [begun] at known
    have data : message.frame.isData = true := message.kind.isData_opcode
    refine agrees.put data ?_ ?_ (fun complete => ?_) ticket mode
    · rw [known]
      exact ⟨message.kind, rfl⟩
    · rw [known]
      exact message.kind.kind?_opcode
    · rw [begun]
      exact Inbox.read?_first complete message.kind true message.content
  | some other =>
    rw [begun] at known
    have different : message.kind ≠ other.kind := by
      intro same
      exact apart (known.trans (congrArg some same.symm))
    obtain ⟨openMessage, log⟩ := sendFrame_of_other known different message.frame rfl ticket mode
    exact agrees.same ⟨openMessage.trans known.symm, log⟩

/-- A fragment counts unless a message of the other kind has begun. -/
theorem Agrees.fragment (agrees : sender.Agrees account) (kind : MessageKind) (payload : Bytes) (last : Bool)
    (ticket : Ticket) : (sender.sendPartial kind payload last ticket).Agrees (account.fragment kind payload last) := by
  have known : sender.openMessage = account.begun.map Message.kind := agrees.choose_spec.2.2
  unfold sendPartial Account.fragment OpenMessage.fragmentOpcode
  cases begun : account.begun with
  | none =>
    rw [begun] at known
    rw [known, if_neg nofun]
    have data : (⟨kind.opcode, last, payload⟩ : Frame).isData = true := kind.isData_opcode
    refine agrees.put data ?_ ?_ (fun complete => ?_) ticket _
    · rw [known]
      exact ⟨kind, rfl⟩
    · rw [known]
      exact kind.kind?_opcode
    · rw [begun]
      exact Inbox.read?_first complete kind last payload
  | some message =>
    rw [begun] at known
    dsimp only
    by_cases same : message.kind = kind
    · rw [if_pos (known.trans (congrArg some same)), if_pos same]
      have data : (⟨.continuation, last, payload⟩ : Frame).isData = true := rfl
      refine agrees.put data ?_ ?_ (fun complete => ?_) ticket _
      · rw [known]
        exact .inl rfl
      · rw [known]
        rfl
      · rw [begun]
        exact Inbox.read?_continuation complete message last payload
    · have different : sender.openMessage ≠ some kind := fun opened => same (Option.some.inj (known.symm.trans opened))
      rw [if_neg different, if_neg same]
      obtain ⟨openMessage, log⟩ := sendFrame_of_other known (fun reverse => same reverse.symm) ⟨kind.opcode, last, payload⟩
        rfl ticket sender.batchMode
      exact agrees.same ⟨openMessage.trans known.symm, log⟩

theorem Agrees.control (agrees : sender.Agrees account) {frame : Frame} (control : frame.isData = false) :
    (sender.sendControl frame).2.Agrees account := by
  unfold sendControl
  rcases checkControl_cases sender.session.settings.controlPolicy frame with
    ⟨sent, checked, short, same, _⟩ | ⟨⟨error, rejected⟩, _⟩
  · have apart : sent.isData = false := by rw [Frame.isData, same]; exact control
    obtain ⟨complete, yields, reads, openMessage⟩ := agrees
    rw [checked]
    refine ⟨complete, yields, ?_, openMessage⟩
    exact reads.concat (Inbox.read?_control _ apart short)
  · rw [rejected]
    exact agrees

theorem log_afterCall (sender : Sender types (Logged σ)) (call : Call types) : sender.log <+: (sender.afterCall call).log := by
  have led := sender.leads_afterCall call
  split at led
  · obtain ⟨_, new, log, _⟩ := led
    exact log ▸ List.prefix_append _ _
  · obtain ⟨new, log, _⟩ := led
    exact log ▸ List.prefix_append _ _

variable [LawfulCarrier σ]

/-- What an object comes to counts, unless it comes to a message while one of the other kind is open. -/
theorem Agrees.render (agrees : sender.Agrees account) {rendering : Rendering}
    (apart : ∀ kind ∈ rendering.kind?, sender.openMessage ≠ some kind) (ticket : Ticket)
    (taken : AllTaken (sender.render ticket rendering).log) :
    (sender.render ticket rendering).Agrees (account.afterRendering sender ticket rendering) := by
  cases rendering with
  | nothing => exact agrees
  | whole message => exact agrees.whole message (apart message.kind rfl) ticket _
  | streamed kind events =>
    let stream := sender.stream kind ticket
    have begun : stream.Agrees account.opened := MessageStream.agrees_start agrees (apart kind rfl) _ ticket
    have before : AllTaken (stream.afterAll events).sender.log := taken.of_prefix ((stream.afterAll events).log_after .close)
    have ended : AllTaken ((stream.afterAll events).after .close).sender.log := taken
    exact ((begun.afterAll before).after ended).sender (stream.afterAll events).closed_close

theorem Agrees.afterCall (agrees : sender.Agrees account) {call : Call types}
    (may : (Custody.free sender).MayDo (.call call)) (taken : AllTaken (sender.afterCall call).log) :
    (sender.afterCall call).Agrees (account.afterCall sender call) := by
  cases call with
  | frame frame ticket mode => exact absurd may.1 nofun
  | text content ticket => exact agrees.whole ⟨.text, Bytes.ofText content⟩ (may.2 .text rfl) ticket _
  | binary payload ticket => exact agrees.whole ⟨.binary, payload⟩ (may.2 .binary rfl) ticket _
  | fragment kind payload last ticket => exact agrees.fragment kind payload last ticket
  | ping payload => exact agrees.control rfl
  | pong payload => exact agrees.control rfl
  | object object ticket =>
    obtain ⟨openMessage, log⟩ := sender.sendObject_frames object ticket
    rw [encodeObject_snd] at openMessage log
    have all : AllTaken (sender.render ticket (sender.rendering object ticket)).log := log ▸ taken
    have apart : ∀ kind ∈ (sender.rendering object ticket).kind?, sender.openMessage ≠ some kind :=
      fun kind made => may.2 kind (kindOf?_of_rendering made)
    exact (agrees.render apart ticket all).same ⟨openMessage, log⟩
  | _ => exact agrees.same (sender.afterCall_frames trivial)

end Sender

/-! ## Runs -/

namespace Custody

variable {types : ValueTypes} {σ : Type} {custody : Custody types (Logged σ)} {account : Account}

def Agrees (account : Account) : Custody types (Logged σ) → Prop
  | .free sender => sender.Agrees account
  | .lent stream => stream.Agrees account

variable [Carrier σ]

theorem log_after (custody : Custody types (Logged σ)) (event : Event types) :
    custody.sender.log <+: (custody.after event).sender.log := by
  cases custody with
  | free sender =>
    cases event with
    | call call => exact sender.log_afterCall call
    | elsewhere event => cases event <;> exact List.prefix_rfl
    | _ => exact List.prefix_rfl
  | lent stream =>
    cases event with
    | stream event => exact stream.log_after event
    | dropStream => exact stream.log_after .close
    | elsewhere event => exact stream.log_after (.elsewhere event)
    | _ => exact List.prefix_rfl

theorem log_afterAll (custody : Custody types (Logged σ)) (events : List (Event types)) :
    custody.sender.log <+: (custody.afterAll events).sender.log := by
  induction events generalizing custody with
  | nil => exact List.prefix_rfl
  | cons event events ih => exact (custody.log_after event).trans (ih (custody.after event))

variable [LawfulCarrier σ]

theorem Agrees.after (agrees : custody.Agrees account) {event : Event types} (may : custody.MayDo event)
    (taken : AllTaken (custody.after event).sender.log) : (custody.after event).Agrees (account.after custody event) := by
  cases custody with
  | free sender =>
    cases event with
    | call call => exact Sender.Agrees.afterCall agrees may taken
    | openStream kind bufferSize ticket => exact MessageStream.agrees_start agrees (may.2 kind rfl) bufferSize ticket
    | elsewhere event =>
      refine Sender.Agrees.same agrees ?_
      cases event <;> exact ⟨rfl, rfl⟩
    | _ => exact agrees
  | lent stream =>
    cases event with
    | stream event => exact MessageStream.Agrees.after agrees taken
    | dropStream =>
      have closed : stream.close.Agrees (account.afterStream stream .close) := MessageStream.Agrees.after agrees taken
      exact closed.sender stream.closed_close
    | elsewhere event => exact MessageStream.Agrees.after agrees taken
    | _ => exact agrees

theorem Agrees.afterAll (agrees : custody.Agrees account) {events : List (Event types)} (may : custody.MayRun events)
    (taken : AllTaken (custody.afterAll events).sender.log) :
    (custody.afterAll events).Agrees (account.afterRun custody events) := by
  induction events generalizing custody account with
  | nil => exact agrees
  | cons event events ih =>
    have first : AllTaken (custody.after event).sender.log := taken.of_prefix ((custody.after event).log_afterAll events)
    exact ih (agrees.after may.1 first) may.2 taken

omit [Carrier σ] [LawfulCarrier σ] in
/-- What a receiver has if account and sender agree. -/
theorem Agrees.received (agrees : custody.Agrees account) (taken : AllTaken custody.sender.log) :
    ∃ inbox, Reads custody.sender.log inbox ∧ custody.sender.openMessage = inbox.begun.map Message.kind ∧
      List.Forall₂ Contribution.Yields account.due inbox.complete := by
  have rested {sender : Sender types (Logged σ)} (agrees : sender.Agrees account) :
      ∃ inbox, Reads sender.log inbox ∧ sender.openMessage = inbox.begun.map Message.kind ∧
        List.Forall₂ Contribution.Yields account.due inbox.complete := by
    obtain ⟨complete, yields, reads, openMessage⟩ := agrees
    exact ⟨_, reads, openMessage, yields⟩
  cases custody with
  | free sender => exact rested agrees
  | lent stream =>
    cases agrees with
    | blocked yields _ reads blocked => exact ⟨_, reads, blocked.openMessage, yields⟩
    | ended _ _ agrees => exact rested agrees
    | follows yields _ follows =>
      obtain ⟨sent, received⟩ := follows.carries.received taken
      refine ⟨_, received.reads, ?_, yields⟩
      show stream.sender.openMessage = (stream.partly sent).map Message.kind
      rw [follows.carries.fitting]
      unfold MessageStream.partly
      split <;> rfl

/-- Whatever an application does, and whenever messages fail: if the carrier refuses nothing, its frames are a strict
sequence of fragments with control frames in between, and what a receiver puts together are the messages of the account,
in order. A stream that failed before it had a frame taken contributes nothing, as it should, exactly if it was not flushed
after that while something was in its buffer. -/
theorem reassembled_iff_no_late_flush (session : Session types) (carrier : σ) (ledger : Ledger)
    (events : List (Event types)) :
    let start : Custody types (Logged σ) := .free (.start session (.fresh carrier) ledger)
    let after := start.afterAll events
    let due := (Account.empty.afterRun start events).due
    start.MayRun events → AllTaken after.sender.log →
      ∃ inbox, Reads after.sender.log inbox ∧ after.sender.openMessage = inbox.begun.map Message.kind ∧
        List.Forall₂ Contribution.Yields due inbox.complete ∧
        (List.Forall₂ Contribution.Yields (due.filter (·.ending ≠ .late)) inbox.complete ↔
          ∀ contribution ∈ due, contribution.ending ≠ .late) := by
  intro start after due may taken
  have agrees : start.Agrees .empty := ⟨[], .nil, rfl, rfl⟩
  obtain ⟨inbox, reads, openMessage, yields⟩ := (agrees.afterAll may taken).received taken
  refine ⟨inbox, reads, openMessage, yields, fun prompt => ?_, fun prompt => ?_⟩
  · -- as many messages were received as are due, so none of these is left out
    have all : (due.filter (·.ending ≠ .late)).length = due.length := prompt.length_eq.trans yields.length_eq.symm
    intro contribution member
    simpa using List.length_filter_eq_length_iff.mp all contribution member
  · rw [List.filter_eq_self.mpr fun contribution member => by simpa using prompt contribution member]
    exact yields

/-- A sender that knows one encoder, over a carrier that takes everything. -/
def ready : Custody catalogue (Logged ScriptedCarrier) := .free (Sender.replying [])

/-- A text in two fragments, with a ping, a binary message and a binary stream in between; then an object; then a stream
that fails after its first frame, and one that fails before; then the beginning of a binary message. -/
def busyEvents : List (Event catalogue) :=
  [.call (.fragment .text [97] false 0), .call (.ping [1]), .call (.binary [1] 0),
    .openStream .binary 2 0, .stream (.write [1, 2, 3]), .dropStream, .call (.fragment .text [98] true 0),
    .call (.object (some Sender.twoTexts) 0),
    .openStream .binary 2 0, .stream (.write [1, 2, 3]), .stream (.fail .closed), .stream (.write [4]), .dropStream,
    .openStream .text 4 0, .stream (.write [97]), .stream (.fail .closed), .dropStream,
    .call (.fragment .binary [7] false 0)]

theorem reassembled_iff_no_late_flush_busy :
    let due := (Account.empty.afterRun ready busyEvents).due
    (ready.MayRun busyEvents ∧ AllTaken (ready.afterAll busyEvents).sender.log) ∧
    due = [⟨⟨.text, [97, 98]⟩, .whole⟩, ⟨⟨.text, Bytes.ofText "aéb"⟩, .whole⟩, ⟨⟨.binary, [1, 2, 3, 4]⟩, .cut⟩] ∧
    ∃ inbox, Reads (ready.afterAll busyEvents).sender.log inbox ∧ inbox.begun.map Message.kind = some .binary ∧
      List.Forall₂ Contribution.Yields (due.filter (·.ending ≠ .late)) inbox.complete := by
  intro due
  have may : ready.MayRun busyEvents := by decide +kernel
  have taken : AllTaken (ready.afterAll busyEvents).sender.log := by decide +kernel
  have known : due = [⟨⟨.text, [97, 98]⟩, .whole⟩, ⟨⟨.text, Bytes.ofText "aéb"⟩, .whole⟩,
    ⟨⟨.binary, [1, 2, 3, 4]⟩, .cut⟩] := by decide +kernel
  have binary : (ready.afterAll busyEvents).sender.openMessage = some .binary := by decide +kernel
  obtain ⟨inbox, reads, openMessage, _, prompt⟩ := reassembled_iff_no_late_flush _ _ _ busyEvents may taken
  refine ⟨⟨may, taken⟩, known, inbox, reads, openMessage.symm.trans binary, prompt.mpr ?_⟩
  have early : ∀ contribution ∈ due, contribution.ending ≠ .late := by
    rw [known]
    decide
  exact early

/-- A stream fails with two bytes in its buffer, and is flushed. -/
def lateEvents : List (Event catalogue) :=
  [.openStream .text 4 0, .stream (.write [97, 98]), .stream (.fail .closed), .stream .flush, .dropStream]

/-- The stream failed before it had a frame taken, so nothing is due; but its bytes are received as a message. -/
theorem received_although_failed :
    (ready.MayRun lateEvents ∧ AllTaken (ready.afterAll lateEvents).sender.log) ∧
    Reads (ready.afterAll lateEvents).sender.log ⟨[⟨.text, [97, 98]⟩], none⟩ ∧
    ¬ ∃ inbox, Reads (ready.afterAll lateEvents).sender.log inbox ∧ List.Forall₂ Contribution.Yields
      ((Account.empty.afterRun ready lateEvents).due.filter (·.ending ≠ .late)) inbox.complete := by
  have read : Reads (ready.afterAll lateEvents).sender.log ⟨[⟨.text, [97, 98]⟩], none⟩ := by decide +kernel
  have nothing : (Account.empty.afterRun ready lateEvents).due.filter (·.ending ≠ .late) = [] := by decide +kernel
  refine ⟨⟨by decide +kernel, by decide +kernel⟩, read, ?_⟩
  rintro ⟨inbox, other, yields⟩
  obtain rfl : ⟨[⟨.text, [97, 98]⟩], none⟩ = inbox := Option.some.inj (read.symm.trans other)
  rw [nothing] at yields
  cases yields

end Custody
end Egress
