import Egress.Catalogue
import Egress.Proofs.FedStreams

/-!
One value in two shapes. Over a carrier that takes everything, an object that is sent as a whole message and one that is
streamed come to messages of one type with the same content, and both tickets succeed. Where the value cannot be
encoded, both tickets fail with the same error; but the stream has sent its full buffers by then.
-/
namespace Egress

open Ledger (Deed)

namespace Sender

variable {types : ValueTypes} {σ : Type} {kind : types.Kind}

/-- The sender, with an encoder for a type of values. -/
def serving (sender : Sender types σ) (encoder : Encoder (types.Content kind)) : Sender types σ :=
  { sender with session.registry := sender.session.registry.register kind encoder }

theorem lookup_serving (sender : Sender types σ) (encoder : Encoder (types.Content kind)) (content : types.Content kind) :
    (sender.serving encoder).session.registry.lookup ⟨kind, content⟩ = some ⟨kind, encoder.erase⟩ :=
  sender.session.registry.find?_register_self encoder

variable {sender : Sender types (Logged σ)} {ticket : Ticket}

/-! ## How a message ends -/

/-- Frames have been handed over, and once they have all been completed with success, so has the ticket. -/
structure Succeeds (before : Sender types (Logged σ)) (ticket : Ticket) (frames : List Frame)
    (sent : Outcome × Sender types (Logged σ)) : Prop where
  returned : sent.1 = .ok ()
  delivered : ∃ message, before.Delivers sent.2 frames message ∧ ∀ completed : List Ticket,
    let later := sent.2.ledger.completeEach (completed.map fun own => (own, .ok ()))
    (∀ handover ∈ message, (later.outcome? handover.ticket).isSome) → later.outcome? ticket = some (.ok ())

/-- Frames have been handed over, and the ticket has failed. The error is reported too, if it is a declared one. -/
structure Fails (before : Sender types (Logged σ)) (ticket : Ticket) (error : SendError) (frames : List Frame)
    (sent : Outcome × Sender types (Logged σ)) : Prop where
  returned : sent.1 = if error.isDeclared then .error error else .ok ()
  delivered : ∃ message, before.Delivers sent.2 frames message
  failed : sent.2.ledger.outcome? ticket = some (.error error)

/-- A carrier that completes at once has completed the ticket. -/
theorem Succeeds.outcome {before : Sender types (Logged σ)} {frames : List Frame} {sent : Outcome × Sender types (Logged σ)}
    (succeeds : before.Succeeds ticket frames sent)
    (completed : ∀ handover ∈ sent.2.log, (sent.2.ledger.outcome? handover.ticket).isSome) :
    sent.2.ledger.outcome? ticket = some (.ok ()) := by
  obtain ⟨_, message, delivers, ended⟩ := succeeds
  refine ended [] fun handover member => completed handover ?_
  rw [delivers.log]
  exact List.mem_append_right _ member

theorem Succeeds.of_log {before : Sender types (Logged σ)} {frames : List Frame} {sent : Outcome × Sender types (Logged σ)}
    (succeeds : before.Succeeds ticket frames sent) (same : before.log = sender.log) : sender.Succeeds ticket frames sent := by
  obtain ⟨returned, message, ⟨log, taken, frames⟩, all⟩ := succeeds
  exact ⟨returned, message, ⟨same ▸ log, taken, frames⟩, all⟩

theorem Fails.of_log {before : Sender types (Logged σ)} {error : SendError} {frames : List Frame}
    {sent : Outcome × Sender types (Logged σ)} (fails : before.Fails ticket error frames sent) (same : before.log = sender.log) :
    sender.Fails ticket error frames sent := by
  obtain ⟨returned, ⟨message, log, taken, frames⟩, failed⟩ := fails
  exact ⟨returned, ⟨message, same ▸ log, taken, frames⟩, failed⟩

theorem succeeds_of_owes {after : Sender types (Logged σ)} {message : MessageId} {frames : List Frame}
    {handed : List Handover} (sent : sender.Sent ticket after) (owes : after.ledger.Owes none message ticket)
    (delivers : sender.Delivers after frames handed) : sender.Succeeds ticket frames (.ok (), after) := by
  refine ⟨rfl, handed, delivers, fun completed => ?_⟩
  intro later all
  have successes : ∀ completion ∈ completed.map fun own => ((own, .ok ()) : Ticket × Outcome), completion.2 = .ok () := by
    intro completion member
    obtain ⟨own, _, rfl⟩ := List.mem_map.mp member
    rfl
  have evolves : Ledger.Evolves (fun _ => True) after.ledger later := .completeEach _ _ fun _ _ => trivial
  have known : (later.outcome? ticket).isSome := by
    rcases sent.answered.answer with known | ⟨handover, member, _, leads⟩
    · obtain ⟨outcome, known⟩ := Option.isSome_iff_exists.mp known
      rw [evolves.extended.outcome? known]
      rfl
    · rw [delivers.log, List.drop_left] at member
      exact (evolves.sound sent.sound).outcome?_isSome_of_leadsTo (leads.later evolves.extended) (all handover member)
  obtain ⟨outcome, known⟩ := Option.isSome_iff_exists.mp known
  have still := owes.completeEach (fun completion member _ => successes completion member) fun _ => successes
  rw [known, still.kept outcome known]
  rfl

variable [Carrier σ] {Well : σ → Prop} {size : Nat}

/-! ## What the two shapes do -/

theorem encodeObject_whole (format : Format) (toValue : types.Content kind → Value) (content : types.Content kind)
    (found : sender.session.registry.lookup ⟨kind, content⟩ = some ⟨kind, (format.whole toValue).erase⟩) (ticket : Ticket) :
    sender.encodeObject (some ⟨kind, content⟩) ticket =
      match format.encode (toValue content) with
      | .ok bytes => (.ok (), sender.sendFrame ⟨format.kind.opcode, true, bytes⟩ ticket sender.batchMode)
      | .error fault => (.error (fault.toSendError (types.name kind)), sender) := by
  unfold encodeObject
  dsimp only
  rw [found]
  cases format with
  | json =>
    unfold Format.whole Encoder.json Encoder.erase Format.encode
    dsimp only
    rw [ValueTypes.Object.as?_self]
    dsimp only
    cases Json.encode (toValue content) <;> rfl
  | messagePack =>
    unfold Format.whole Encoder.messagePack Encoder.erase Format.encode
    dsimp only
    rw [ValueTypes.Object.as?_self]
    dsimp only
    cases MessagePack.encode (toValue content) <;> rfl

/-- A message in one frame over a willing carrier. -/
theorem sendFrame_of_willing (willing : Carrier.Willing Well) (well : Well sender.carrier.carrier)
    (unopened : sender.openMessage = none) (kind : MessageKind) (bytes : Bytes) (ticket : Ticket) (mode : BatchMode) :
    let frame : Frame := ⟨kind.opcode, true, bytes⟩
    sender.Delivers (sender.sendFrame frame ticket mode) [frame] [⟨frame, ticket, mode, .ok ()⟩] ∧
      ∃ completions, (sender.sendFrame frame ticket mode).ledger = sender.ledger.completeEach completions ∧
        ∀ completion ∈ completions, completion.2 = .ok () := by
  intro frame
  let opened : Sender types (Logged σ) := { sender with openMessage := some kind }
  have data : frame.isData = true := kind.isData_opcode
  have advanced : sender.openMessage.advance frame.opcode = .ok (some kind) := by
    rw [unopened]
    cases kind <;> rfl
  have taken : (opened.submit frame ticket mode).1 = .ok () :=
    willing.logged.accepts sender.carrier well sender.ledger frame ticket mode
  have log := opened.log_submit frame ticket mode
  rw [taken] at log
  obtain ⟨_, completions, ledger, successes⟩ := willing.logged.sendFrame sender.carrier well sender.ledger frame ticket mode
  have ledger : (opened.submit frame ticket mode).2.ledger = sender.ledger.completeEach completions := ledger
  unfold sendFrame dispatch
  rw [if_pos data, advanced]
  show sender.Delivers ((opened.offer frame ticket mode).2.afterData frame) _ _ ∧
    ∃ completions, ((opened.offer frame ticket mode).2.afterData frame).ledger = _ ∧ _
  unfold offer
  revert taken log ledger
  rcases opened.submit frame ticket mode with ⟨error | ⟨⟩, after⟩
  · exact fun taken => nomatch taken
  · intro _ log ledger
    exact ⟨⟨log, List.forall_mem_singleton.mpr rfl, rfl⟩, completions, ledger, successes⟩

variable [LawfulCarrier σ]

theorem encodeObject_streamed (willing : Carrier.Willing Well) (format : Format) (toValue : types.Content kind → Value)
    (content : types.Content kind)
    (found : sender.session.registry.lookup ⟨kind, content⟩ = some ⟨kind, (format.streamed toValue).erase⟩)
    (fed : (sender.stream format.kind ticket).Fed Well sender format.kind size ticket []) :
    ∃ stream, stream.Fed Well sender format.kind size ticket (format.written (toValue content)) ∧
      sender.encodeObject (some ⟨kind, content⟩) ticket =
        endObject (types.name kind) (format.result (toValue content), stream) := by
  unfold encodeObject
  dsimp only
  rw [found]
  cases format with
  | json =>
    unfold Format.streamed Encoder.jsonStream Encoder.erase
    dsimp only
    rw [ValueTypes.Object.as?_self]
    obtain ⟨ended, written⟩ := fed.streamObject willing (fun _ _ text fed => fed.writeText willing text)
      (Json.puts_emission (toValue content))
    exact ⟨_, written, congrArg (endObject (types.name kind)) (Prod.ext ended rfl)⟩
  | messagePack =>
    unfold Format.streamed Encoder.messagePackStream Encoder.erase
    dsimp only
    rw [ValueTypes.Object.as?_self]
    obtain ⟨ended, written⟩ := fed.streamObject willing (fun _ _ bytes fed => fed.writeBytes willing bytes)
      (MessagePack.puts_emission (toValue content))
    exact ⟨_, written, congrArg (endObject (types.name kind)) (Prod.ext ended rfl)⟩

/-! ## What comes of them -/

omit [LawfulCarrier σ] in
theorem fails_of_encodeObject {after : Sender types (Logged σ)} {object : Option types.Object} {error : SendError}
    {frames : List Frame} (encoded : sender.encodeObject object ticket = (.error error, after))
    (failed : (after.fail ticket error).ledger.outcome? ticket = some (.error error))
    (delivered : ∃ message, sender.Delivers after frames message) :
    sender.Fails ticket error frames (sender.sendObject object ticket) := by
  rw [sendObject_of_error encoded]
  obtain ⟨message, log, taken, same⟩ := delivered
  exact ⟨rfl, ⟨message, log, taken, same⟩, failed⟩

/-- A sender that is about to send something with a ticket, over a carrier in a good state. -/
structure Poised (Well : σ → Prop) (ticket : Ticket) (sender : Sender types (Logged σ)) : Prop where
  well : Well sender.carrier.carrier
  sound : sender.ledger.Sound
  fresh : sender.Fresh ticket
  unheard : sender.ledger.Unheard sender.ledger.failures.size
  unopened : sender.openMessage = none

omit [LawfulCarrier σ] in
/-- A new ticket is all that is needed. -/
theorem poised_serving (well : Well sender.carrier.carrier) (sound : sender.ledger.Sound)
    (held : ∀ own ∈ Carrier.held sender.carrier, own < sender.ledger.slots.size) (unopened : sender.openMessage = none)
    {recipient : Recipient} (older : ∀ target, recipient.next? = some target → target < sender.ledger.slots.size)
    (unheard : (sender.issue recipient).2.ledger.Unheard sender.ledger.failures.size)
    (encoder : Encoder (types.Content kind)) :
    ((sender.serving encoder).issue recipient).2.Poised Well sender.ledger.slots.size := by
  have sound : (sender.serving encoder).ledger.Sound := sound
  exact ⟨well, sound.issue older, fresh_issue sound held older, unheard, unopened⟩

theorem Poised.whole (poised : sender.Poised Well ticket) (willing : Carrier.Willing Well) {format : Format}
    {toValue : types.Content kind → Value} {content : types.Content kind}
    (found : sender.session.registry.lookup ⟨kind, content⟩ = some ⟨kind, (format.whole toValue).erase⟩) :
    (∀ bytes, format.encode (toValue content) = .ok bytes →
      sender.Succeeds ticket [⟨format.kind.opcode, true, bytes⟩] (sender.sendObject (some ⟨kind, content⟩) ticket)) ∧
    ∀ fault, format.encode (toValue content) = .error fault →
      sender.Fails ticket (fault.toSendError (types.name kind)) [] (sender.sendObject (some ⟨kind, content⟩) ticket) := by
  obtain ⟨well, sound, fresh, unheard, unopened⟩ := poised
  have sends := encodeObject_whole format toValue content found ticket
  constructor
  · intro bytes encoded
    rw [encoded] at sends
    obtain ⟨delivers, completions, ledger, successes⟩ :=
      sendFrame_of_willing willing well unopened format.kind bytes ticket sender.batchMode
    have quiet := Ledger.quiet_of_unheard sound.toTold unheard sender.ledger.failure_next
    have owes := (Ledger.owes_of_alone fresh.alone fresh.outcome quiet.unfailed fun _ => quiet).completeEach
      (fun completion member _ => successes completion member) fun _ => successes
    rw [← ledger] at owes
    unfold sendObject
    rw [sends]
    exact succeeds_of_owes (sent_sendFrame fresh.issued sound _ _) owes delivers
  · intro fault encoded
    rw [encoded] at sends
    obtain ⟨recipient, slot⟩ := fresh.pending
    refine fails_of_encodeObject sends ?_ ⟨[], (List.append_nil _).symm, List.forall_mem_nil _, rfl⟩
    exact Ledger.outcome?_complete (Ledger.pending?_eq_some.mpr slot)

theorem Poised.streamed (poised : sender.Poised Well ticket) (willing : Carrier.Willing Well) {format : Format}
    {toValue : types.Content kind → Value} {content : types.Content kind}
    (found : sender.session.registry.lookup ⟨kind, content⟩ = some ⟨kind, (format.streamed toValue).erase⟩) :
    let size := max (sender.session.settings.bufferSize format.kind) 1
    (∀ bytes, format.encode (toValue content) = .ok bytes →
      sender.Succeeds ticket (format.kind.cut size bytes) (sender.sendObject (some ⟨kind, content⟩) ticket)) ∧
    ∀ fault, format.encode (toValue content) = .error fault →
      sender.Fails ticket (fault.toSendError (types.name kind)) (format.kind.breakOff size (format.written (toValue content)))
        (sender.sendObject (some ⟨kind, content⟩) ticket) := by
  obtain ⟨well, sound, fresh, unheard, unopened⟩ := poised
  intro size
  obtain ⟨stream, fed, sends⟩ := encodeObject_streamed willing format toValue content found
    (MessageStream.fed_start well sound unheard unopened fresh format.kind)
  constructor
  · intro bytes encoded
    obtain ⟨ended, rfl⟩ := Format.encode_ok_iff.mp encoded
    rw [ended] at sends
    obtain ⟨⟨message, delivers⟩, owes⟩ := fed.finish willing
    have sent := sent_sendObject fresh.issued sound (some ⟨kind, content⟩)
    unfold sendObject at sent ⊢
    rw [sends] at sent ⊢
    exact succeeds_of_owes sent owes delivers
  · intro fault encoded
    rw [Format.encode_error_iff.mp encoded] at sends
    obtain ⟨delivered, owes⟩ := fed.finish_fail willing (fault.toSendError (types.name kind))
    refine fails_of_encodeObject sends ?_ delivered
    obtain ⟨error, known⟩ := failed_sendObject fresh sound (by rw [sends]; exact nofun)
    rw [sendObject_of_error sends] at known
    exact known.trans (congrArg some ((owes.complete (fun _ => rfl) nofun).kept _ known))

/-- A value is sent through an encoder, with a new ticket. -/
def sendThrough (sender : Sender types (Logged σ)) (encoder : Encoder (types.Content kind)) (content : types.Content kind)
    (recipient : Recipient) : Outcome × Sender types (Logged σ) :=
  ((sender.serving encoder).issue recipient).2.sendObject (some ⟨kind, content⟩) sender.ledger.slots.size

/-- One value in two shapes. In memory a stream ends as the whole message does, with the same message, and a limit on the
writer lets it succeed if there is a message that is not longer. Sent while no message is open, over a carrier that takes
every frame and reports no failure, a value that can be encoded comes to one frame in one shape and to the same bytes in
frames of the buffer's size in the other, and both tickets succeed. One that cannot be encoded fails both tickets with the
same error; nothing is sent as a whole, and of the stream the full blocks of what was written, which an empty frame ends. -/
theorem shapes_agree (format : Format) (toValue : types.Content kind → Value) (content : types.Content kind) :
    let whole := format.whole toValue
    let streamed := format.streamed toValue
    let encoded := format.encode (toValue content)
    (streamed.inMemory content).result = (whole.inMemory content).result ∧
    ((whole.inMemory content).result = .ok () → streamed.inMemory content = whole.inMemory content) ∧
    (∀ limit, streamed.within limit content = .ok () ↔ ∃ bytes, encoded = .ok bytes ∧ bytes.length ≤ limit) ∧
    ∀ {σ : Type} [Carrier σ] [LawfulCarrier σ] {Well : σ → Prop}, Carrier.Willing Well →
      ∀ {sender : Sender types (Logged σ)}, Well sender.carrier.carrier → sender.ledger.Reached →
      (∀ own ∈ Carrier.held sender.carrier, own < sender.ledger.slots.size) → sender.openMessage = none →
      ∀ {recipient : Recipient}, (∀ target, recipient.next? = some target → target < sender.ledger.slots.size) →
      (sender.issue recipient).2.ledger.Unheard sender.ledger.failures.size →
      let ticket := (sender.issue recipient).1
      let size := max (sender.session.settings.bufferSize format.kind) 1
      (∀ bytes, encoded = .ok bytes →
        sender.Succeeds ticket [⟨format.kind.opcode, true, bytes⟩] (sender.sendThrough whole content recipient) ∧
        sender.Succeeds ticket (format.kind.cut size bytes) (sender.sendThrough streamed content recipient) ∧
        format.kind.Chunks size bytes (format.kind.cut size bytes)) ∧
      ∀ fault, encoded = .error fault →
        let error := fault.toSendError (types.name kind)
        sender.Fails ticket error [] (sender.sendThrough whole content recipient) ∧
        sender.Fails ticket error (format.kind.breakOff size (format.written (toValue content)))
          (sender.sendThrough streamed content recipient) := by
  intro whole streamed encoded
  obtain ⟨ended, same⟩ := format.inMemory_streamed toValue content
  refine ⟨ended, same, format.within_streamed toValue content, ?_⟩
  intro σ _ _ Well willing sender well reached held unopened recipient older unheard ticket size
  have poised := fun encoder : Encoder (types.Content kind) =>
    poised_serving well reached.sound held unopened older unheard encoder
  obtain ⟨succeeds, fails⟩ := (poised whole).whole willing (sender.lookup_serving whole content)
  obtain ⟨succeeds', fails'⟩ := (poised streamed).streamed willing (sender.lookup_serving streamed content)
  have some : 0 < size := Nat.lt_of_lt_of_le Nat.zero_lt_one (Nat.le_max_right _ 1)
  constructor
  · intro bytes good
    exact ⟨(succeeds bytes good).of_log rfl, (succeeds' bytes good).of_log rfl, format.kind.chunks_cut bytes some⟩
  · intro fault bad
    exact ⟨(fails fault bad).of_log rfl, (fails' fault bad).of_log rfl⟩

/-- The type of plain values. -/
def plain : catalogue.Kind := ⟨"plain", .value⟩

/-- A sender whose streamed texts are cut into frames of two bytes, over a carrier that takes and completes everything. -/
def narrow : Sender catalogue (Logged ScriptedCarrier) :=
  { (replying []) with session.settings.textBufferSize := 2 }

theorem agrees_narrow : narrow.carrier.carrier.Agrees := ⟨rfl, rfl, List.forall_mem_singleton.mpr rfl⟩

theorem older_narrow : ∀ target, Recipient.listener.next? = some target → target < narrow.ledger.slots.size := nofun

theorem unheard_narrow : (narrow.issue .listener).2.ledger.Unheard narrow.ledger.failures.size := by
  intro own slot there
  rcases Ledger.slot_of_issue there with ⟨_, rfl⟩ | old
  · exact nofun
  · cases old

theorem encode_pair : Format.json.encode (.seq true [.int 1, .int 2]) = .ok (.ofText "[1,2]") := by
  have complete : Format.json.result (.seq true [.int 1, .int 2]) = .ok () := by decide +kernel
  have pieces : (Json.draft (.seq true [.int 1, .int 2])).pieces.toList = ["[", "1", ",", "2", "]"] := by decide +kernel
  refine Format.encode_ok_iff.mpr ⟨complete, ?_⟩
  rw [Format.written, pieces, Bytes.ofText_join]
  decide +kernel

theorem encode_brokenPair : Format.json.encode (.seq true [.int 1, .failing]) = .error Json.failure :=
  Format.encode_error_iff.mpr (by decide +kernel)

theorem written_brokenPair : Format.json.written (.seq true [.int 1, .failing]) =
    .ofText "[" ++ (.ofText "1" ++ .ofText ",") := by
  have pieces : (Json.draft (.seq true [.int 1, .failing])).pieces.toList = ["[", "1", ","] := by decide +kernel
  rw [Format.written, pieces, Bytes.ofText_join]
  rfl

theorem shapes_agree_pair :
    let pair : catalogue.Content plain := Value.seq true [.int 1, .int 2]
    let brokenPair : catalogue.Content plain := Value.seq true [.int 1, .failing]
    let whole := narrow.sendThrough (Format.json.whole id) pair .listener
    let streamed := narrow.sendThrough (Format.json.streamed id) pair .listener
    let error := Json.failure.toSendError "plain"
    narrow.carrier.carrier.Agrees ∧ narrow.ledger.Reached ∧ narrow.openMessage = none ∧
    (narrow.issue .listener).2.ledger.Unheard narrow.ledger.failures.size ∧
    whole.2.log.map Handover.frame = [⟨.text, true, .ofText "[1,2]"⟩] ∧
    streamed.2.log.map Handover.frame =
      [⟨.text, false, .ofText "[1"⟩, ⟨.continuation, false, .ofText ",2"⟩, ⟨.continuation, true, .ofText "]"⟩] ∧
    whole.2.ledger.outcome? 0 = some (.ok ()) ∧ streamed.2.ledger.outcome? 0 = some (.ok ()) ∧
    (narrow.sendThrough (Format.json.whole id) brokenPair .listener).2.ledger.outcome? 0 = some (.error error) ∧
    (narrow.sendThrough (Format.json.streamed id) brokenPair .listener).2.ledger.outcome? 0 = some (.error error) := by
  intro pair brokenPair whole streamed error
  have reached : narrow.ledger.Reached := .refl _
  have sends := fun content : catalogue.Content plain => (shapes_agree .json id content).2.2.2
    ScriptedCarrier.willing agrees_narrow reached (List.forall_mem_nil _) rfl older_narrow unheard_narrow
  obtain ⟨first, second, _⟩ := (sends pair).1 _ encode_pair
  obtain ⟨third, fourth⟩ := (sends brokenPair).2 _ encode_brokenPair
  have outcome : whole.2.ledger.outcome? 0 = some (.ok ()) := first.outcome (by decide +kernel)
  have outcome' : streamed.2.ledger.outcome? 0 = some (.ok ()) := second.outcome (by decide +kernel)
  obtain ⟨_, message, delivers, _⟩ := first
  obtain ⟨_, message', delivers', _⟩ := second
  have log : whole.2.log = message := delivers.log
  have log' : streamed.2.log = message' := delivers'.log
  refine ⟨agrees_narrow, reached, rfl, unheard_narrow, ?_, ?_, outcome, outcome', third.failed, fourth.failed⟩
  · rw [log]
    exact delivers.frames
  · rw [log', delivers'.frames]
    decide +kernel

/-- Where the second of two values cannot be encoded, nothing is sent as a whole message, but a frame of the stream is. -/
theorem shapes_differ_on_fault :
    let pair : catalogue.Content plain := Value.seq true [.int 1, .failing]
    let sent := fun encoder : Encoder (catalogue.Content plain) => narrow.sendThrough encoder pair .listener
    let whole := sent (Format.json.whole id)
    let streamed := sent (Format.json.streamed id)
    narrow.carrier.carrier.Agrees ∧ narrow.openMessage = none ∧ whole.2.log.map Handover.frame = [] ∧
    streamed.2.log.map Handover.frame = [⟨.text, false, .ofText "[1"⟩, ⟨.continuation, true, []⟩] ∧
    whole.2.log.flatMap (·.frame.payload) ≠ streamed.2.log.flatMap (·.frame.payload) := by
  intro pair sent whole streamed
  have poised := fun encoder : Encoder (catalogue.Content plain) =>
    poised_serving agrees_narrow Ledger.sound_empty (List.forall_mem_nil _) rfl older_narrow unheard_narrow encoder
  obtain ⟨_, fails⟩ := (poised _).whole ScriptedCarrier.willing (narrow.lookup_serving (Format.json.whole id) pair)
  obtain ⟨_, fails'⟩ := (poised _).streamed ScriptedCarrier.willing (narrow.lookup_serving (Format.json.streamed id) pair)
  obtain ⟨_, ⟨message, delivers⟩, _⟩ := fails _ encode_brokenPair
  obtain ⟨_, ⟨message', delivers'⟩, _⟩ := fails' _ encode_brokenPair
  have first : whole.2.log.map Handover.frame = [] := by
    rw [show whole.2.log = message from delivers.log]
    exact delivers.frames
  have second : streamed.2.log.map Handover.frame = [⟨.text, false, .ofText "[1"⟩, ⟨.continuation, true, []⟩] := by
    rw [show streamed.2.log = message' from delivers'.log, delivers'.frames]
    show MessageKind.text.breakOff 2 (Format.json.written (.seq true [.int 1, .failing])) = _
    rw [written_brokenPair]
    decide +kernel
  have content (log : List Handover) : log.flatMap (·.frame.payload) = (log.map Handover.frame).flatMap Frame.payload :=
    (List.flatMap_map ..).symm
  refine ⟨agrees_narrow, rfl, first, second, ?_⟩
  rw [content, content, first, second]
  decide +kernel

end Sender
end Egress
