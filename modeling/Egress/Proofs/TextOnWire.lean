import Egress.Proofs.CharacterBridge
import Egress.Proofs.FailedEnding
import Egress.Proofs.TakenContent

/-!
Text on the wire. A stream cuts a text where its buffer is full, in the middle of a character if need be. What a carrier
takes of a text message is therefore the beginning of the text, and perhaps a part of the character after that; and it is
the whole text, if the message ends without a failure. A message that has failed is cut short, wherever its frames stop.
-/
namespace Egress

namespace Bytes

/-- The bytes are the UTF-8 form of a text. -/
def IsText (bytes : Bytes) : Prop := bytes.toByteArray.IsValidUTF8

instance (bytes : Bytes) : Decidable (IsText bytes) := inferInstanceAs (Decidable bytes.toByteArray.IsValidUTF8)

theorem isText_ofText (text : String) : IsText (ofText text) := ⟨text.toList, rfl⟩

theorem ofText_join (texts : List String) : ofText (String.join texts) = texts.flatMap ofText := by
  unfold ofText
  rw [String.toList_join, List.flatMap_assoc]

/-- What a text begins with, cut at a byte. -/
theorem cut_of_prefix {text : String} {bytes : Bytes} (start : bytes <+: ofText text) :
    ∃ (front : String) (later : List Char) (rest : Bytes), text.toList = front.toList ++ later ∧
      bytes = ofText front ++ rest ∧ Cut rest later := by
  obtain ⟨more, all⟩ := start
  obtain ⟨front, later, rest, same, kept, cut⟩ := exists_cut all
  exact ⟨.ofList front, later, rest, by simpa using same, by simpa [ofText] using kept, cut⟩

end Bytes

/-- What can be done to a text stream before it is closed, and what can happen meanwhile. -/
inductive TextEvent where
  | write (text : String)
  | flush
  | fail (error : SendError)
  | attach (ticket : Ticket)
  | elsewhere (event : Elsewhere)

namespace TextEvent

def toStreamEvent : TextEvent → StreamEvent
  | .write text => .write (Bytes.ofText text)
  | .flush => .flush
  | .fail error => .fail error
  | .attach ticket => .attach ticket
  | .elsewhere event => .elsewhere event

/-- The text that an event writes. -/
def written : TextEvent → String
  | .write text => text
  | _ => ""

theorem flatMap_written (events : List TextEvent) :
    (events.map toStreamEvent).flatMap StreamEvent.written = Bytes.ofText (String.join (events.map written)) := by
  rw [Bytes.ofText_join, List.flatMap_map, List.flatMap_map]
  congr 1
  funext event
  cases event <;> rfl

theorem unclosing (events : List TextEvent) : ∀ event ∈ events.map toStreamEvent, event ≠ .close := by
  intro event member
  obtain ⟨own, _, rfl⟩ := List.mem_map.mp member
  cases own <;> nofun

end TextEvent

/-- What was taken of a message with the text. -/
structure TextArrived (text : String) (unfailed : Prop) (message : List Handover) : Prop
    extends Arrived (Bytes.ofText text) unfailed message where
  /-- It is the first characters of the text, and perhaps a part of the one after them. -/
  cut : ∃ (front : String) (later : List Char) (rest : Bytes), text.toList = front.toList ++ later ∧
    takenBytes message = Bytes.ofText front ++ rest ∧ Bytes.Cut rest later
  valid : unfailed → EndTaken message → Bytes.IsText (takenBytes message)

theorem Arrived.text {text : String} {unfailed : Prop} {message : List Handover}
    (arrived : Arrived (Bytes.ofText text) unfailed message) : TextArrived text unfailed message where
  toArrived := arrived
  cut := Bytes.cut_of_prefix arrived.start
  valid := by
    intro none ended
    rw [arrived.whole none ended]
    exact Bytes.isText_ofText text

namespace MessageStream

variable {types : ValueTypes} {σ : Type} [Carrier σ]

/-- The texts that an encoder writes to the stream. -/
def asked : MessageStream types σ → TextEmission → List String
  | _, .done _ => []
  | stream, .act text next =>
    match stream.letWork.writeText text with
    | (reply, stream) => text :: asked stream (next reply)

theorem writeText_snd (stream : MessageStream types σ) (text : String) :
    (stream.writeText text).2 = (stream.write (Bytes.ofText text)).2 := by
  unfold writeText
  split <;> simp_all

/-- What an encoder writes joins what was written before. -/
theorem Endures.run {Inv : Bytes → MessageStream types σ → Prop} (endures : Endures (· ≠ .close) Inv) {data : Bytes}
    {stream : MessageStream types σ} (holds : Inv data stream) (roomy : stream.Roomy) (emission : TextEmission) :
    Inv (data ++ (stream.asked emission).flatMap Bytes.ofText)
      (emission.run (fun stream text => writeText stream.letWork text) stream).2 := by
  induction emission generalizing stream data with
  | done result => simpa [asked, Emission.run] using holds
  | act text next ih =>
    have worked : Inv data (stream.after (.elsewhere .work)) := endures.elsewhere nofun holds
    obtain ⟨written, room⟩ := endures.write worked roomy (endures.unclosed worked) (Bytes.ofText text)
    rw [← writeText_snd] at written room
    have rest := ih (stream.letWork.writeText text).1 written room
    rwa [List.append_assoc, ← List.flatMap_cons] at rest

end MessageStream

namespace Sender

open MessageStream

variable {types : ValueTypes} {σ : Type} {log : List Handover} {data : Bytes}

variable [Carrier σ]

/-- What an object comes to of which the encoder streams text. -/
theorem encodeObject_textStream (sender : Sender types σ) (ticket : Ticket) {object : types.Object}
    {registration : Registration types} {encode : types.Object → TextEmission}
    (found : sender.session.registry.lookup object = some registration) (streams : registration.encoder = .textStream encode) :
    sender.encodeObject (some object) ticket =
      endObject registration.typeName (streamObject writeText (sender.stream .text ticket) (encode object)) := by
  unfold encodeObject
  simp only [found, streams]

/-- A text, written to a stream of its own. -/
theorem endures_text {Inv : Bytes → MessageStream types σ → Prop} (endures : Endures (· ≠ .close) Inv)
    {sender : Sender types σ} {bufferSize : Nat} (begun : Inv [] (MessageStream.start sender .text bufferSize))
    (ticket : Ticket) (events : List TextEvent) :
    Inv (Bytes.ofText (String.join (events.map TextEvent.written)))
      (((MessageStream.start sender .text bufferSize).setTicket ticket).afterAll (events.map TextEvent.toStreamEvent)) := by
  have holds := endures.afterAll (TextEvent.unclosing events) (endures.attaches ticket begun) (roomy_start sender .text bufferSize)
  rwa [List.nil_append, TextEvent.flatMap_written] at holds

/-- The text of an encoder. -/
theorem endures_object {Inv : Bytes → MessageStream types σ → Prop} (endures : Endures (· ≠ .close) Inv)
    (sender : Sender types σ) (begun : Inv [] (MessageStream.start sender .text (sender.session.settings.bufferSize .text)))
    (ticket : Ticket) (emission : TextEmission) :
    let stream := sender.stream .text ticket
    Inv (Bytes.ofText (String.join (stream.asked emission))) (streamObject writeText stream emission).2 := by
  intro stream
  have run := endures.run (endures.attaches ticket begun) (roomy_start sender .text _) emission
  rw [List.nil_append, ← Bytes.ofText_join] at run
  have worked : Inv _ (MessageStream.after _ (.elsewhere .work)) := endures.elsewhere nofun run
  exact worked

theorem cutShort_endObject {stream : MessageStream types (Logged σ)} (proceeds : stream.Proceeds log)
    (begun : stream.message < stream.sender.ledger.failures.size) (result : Except Fault Unit) (typeName : String)
    (failed : ¬ (result = .ok () ∧ stream.failure = none)) :
    ∃ message, (endObject typeName (result, stream)).2.log = log ++ message ∧ CutShort message := by
  rcases result with fault | ⟨⟩
  · obtain ⟨first, recorded⟩ := Ledger.failure_recordFailure_self begun (fault.toSendError typeName)
    have marked : (stream.fail (fault.toSendError typeName)).failure = some first := recorded
    have failing : (stream.fail (fault.toSendError typeName)).Proceeds log := proceeds.same rfl rfl rfl rfl rfl rfl
    exact failing.finish (marked ▸ Option.some_ne_none first)
  · exact proceeds.finish fun none => failed ⟨rfl, none⟩

variable [LawfulCarrier σ]

theorem transmits_endObject {stream : MessageStream types (Logged σ)} (writing : stream.Writing log data)
    (result : Except Fault Unit) (typeName : String) :
    (endObject typeName (result, stream)).2.Transmits log data (result = .ok () ∧ stream.failure = none) := by
  rcases result with fault | ⟨⟩
  · exact (endures_writing.fails _ writing).finish.later rfl (.refl _) fun unfailed => nomatch unfailed.1
  · exact writing.finish.later rfl (.refl _) And.right

/-- An object that is sent as a text stream. -/
theorem transmits_sendObject (sender : Sender types (Logged σ)) (ticket : Ticket) {object : types.Object}
    {registration : Registration types} {encode : types.Object → TextEmission}
    (found : sender.session.registry.lookup object = some registration) (streams : registration.encoder = .textStream encode) :
    let stream := sender.stream .text ticket
    let encoded := streamObject writeText stream (encode object)
    (sender.sendObject (some object) ticket).2.Transmits sender.log (Bytes.ofText (String.join (stream.asked (encode object))))
      (encoded.1 = .ok () ∧ encoded.2.failure = none) := by
  intro stream encoded
  have writing := endures_object endures_writing sender (writing_start sender .text _) ticket (encode object)
  have ended := transmits_endObject writing encoded.1 registration.typeName
  unfold sendObject
  rw [sender.encodeObject_textStream ticket found streams]
  revert ended
  show (endObject registration.typeName encoded).2.Transmits _ _ _ → _
  rcases endObject registration.typeName encoded with ⟨error | ⟨⟩, after⟩
  · exact fun ended => ended.later (log_fail _ _ _) (Ledger.extends_complete _ _ _) id
  · exact id

/-- An object whose encoder fails, or a frame of which is lost. -/
theorem cutShort_sendObject (sender : Sender types (Logged σ)) (ticket : Ticket) {object : types.Object}
    {registration : Registration types} {encode : types.Object → TextEmission}
    (found : sender.session.registry.lookup object = some registration) (streams : registration.encoder = .textStream encode) :
    let encoded := streamObject writeText (sender.stream .text ticket) (encode object)
    ¬ (encoded.1 = .ok () ∧ encoded.2.failure = none) →
      ∃ message, (sender.sendObject (some object) ticket).2.log = sender.log ++ message ∧ CutShort message := by
  intro encoded failed
  have writing := endures_object endures_writing sender (writing_start sender .text _) ticket (encode object)
  have proceeds := endures_object endures_proceeds sender (proceeds_start sender .text _) ticket (encode object)
  rw [(sender.sendObject_frames object ticket).2, sender.encodeObject_textStream ticket found streams]
  exact cutShort_endObject proceeds writing.begun encoded.1 registration.typeName failed

/-- The frames of a message with the text have been handed over since the log was as given. Unless the carrier has hidden
a refusal, the text has arrived; and a message that has failed is cut short. -/
def TransmitsText (log : List Handover) (text : String) (unfailed : Prop) (sender : Sender types (Logged σ)) : Prop :=
  ∃ message, sender.log = log ++ message ∧ (¬ sender.ledger.Misled message → TextArrived text unfailed message) ∧
    (¬ unfailed → CutShort message)

omit [Carrier σ] [LawfulCarrier σ] in
theorem Transmits.text {sender : Sender types (Logged σ)} {text : String} {unfailed : Prop}
    (transmits : sender.Transmits log (Bytes.ofText text) unfailed)
    (short : ¬ unfailed → ∃ message, sender.log = log ++ message ∧ CutShort message) :
    sender.TransmitsText log text unfailed := by
  obtain ⟨message, sent, arrived⟩ := transmits
  refine ⟨message, sent, fun honest => (arrived honest).text, fun failed => ?_⟩
  obtain ⟨same, log, cutShort⟩ := short failed
  rwa [List.append_cancel_left (sent.symm.trans log)]

/-- What is taken of a text message is the beginning of the text, cut at a byte; if its last frame is taken and no
failure was recorded before the message was closed, it is the whole text. It does not matter how large the buffer is,
who writes the text, and what the carrier refuses, as long as it has not completed with success what it refuses. If the
message or the encoder has failed, all that closing hands over is an empty last frame, and this only if a frame of the
message was taken. -/
theorem text_arrives (sender : Sender types (Logged σ)) (ticket : Ticket) :
    (∀ (bufferSize : Nat) (events : List TextEvent),
      let stream := ((MessageStream.start sender .text bufferSize).setTicket ticket).afterAll
        (events.map TextEvent.toStreamEvent)
      stream.finish.TransmitsText sender.log (String.join (events.map TextEvent.written)) (stream.failure = none)) ∧
    ∀ (object : types.Object) (registration : Registration types) (encode : types.Object → TextEmission),
      sender.session.registry.lookup object = some registration → registration.encoder = .textStream encode →
      let stream := sender.stream .text ticket
      let encoded := streamObject MessageStream.writeText stream (encode object)
      (sender.sendObject (some object) ticket).2.TransmitsText sender.log (String.join (stream.asked (encode object)))
        (encoded.1 = .ok () ∧ encoded.2.failure = none) := by
  refine ⟨?_, ?_⟩
  · intro bufferSize events stream
    have writing := endures_text endures_writing (writing_start sender .text bufferSize) ticket events
    have proceeds := endures_text endures_proceeds (proceeds_start sender .text bufferSize) ticket events
    exact writing.finish.text proceeds.finish
  · intro object registration encode found streams stream encoded
    exact (sender.transmits_sendObject ticket found streams).text (sender.cutShort_sendObject ticket found streams)

/-- A sender that knows one encoder, over a carrier that gives these replies first and then takes everything. -/
def replying (replies : List Reply) : Sender catalogue (Logged ScriptedCarrier) :=
  .start (.ofRegistry (Registry.empty.register ⟨"note", .recipe⟩ Recipe.textStreamEncoder))
    (.fresh { ScriptedCarrier.accepting with nextReplies := replies }) .empty

/-- The sender after a text message has been written to it in frames of a given size. -/
def afterText (replies : List Reply) (bufferSize : Nat) (events : List TextEvent) : Sender catalogue (Logged ScriptedCarrier) :=
  (((MessageStream.start (replying replies) .text bufferSize).setTicket 0).afterAll (events.map TextEvent.toStreamEvent)).finish

/-- A note whose encoder writes two texts. -/
def twoTexts : catalogue.Object := ⟨⟨"note", .recipe⟩, (⟨[.write "aé", .write "b"], true⟩ : Recipe)⟩

/-- A text whose second frame is refused, and an object whose only frame is taken. -/
theorem text_arrives_refused :
    let replies : List Reply := [.accept, .refuse .backpressure]
    let written := afterText replies 2 [.write "aé", .write "b"]
    let sent := ((replying replies).sendObject (some twoTexts) 0).2
    (EndTaken written.log ∧ CutShort written.log ∧ ∃ (front : String) (later : List Char) (rest : Bytes),
      "aéb".toList = front.toList ++ later ∧ takenBytes written.log = Bytes.ofText front ++ rest ∧ Bytes.Cut rest later) ∧
    EndTaken sent.log ∧ takenBytes sent.log = Bytes.ofText "aéb" ∧ Bytes.IsText (takenBytes sent.log) := by
  intro replies written sent
  obtain ⟨streams, objects⟩ := text_arrives (replying replies) 0
  obtain ⟨message, frames, arrived, short⟩ := streams 2 [.write "aé", .write "b"]
  have frames : written.log = message := frames
  obtain ⟨single, frame, whole, _⟩ := objects twoTexts _ _ rfl rfl
  have frame : sent.log = single := frame
  subst frames frame
  have joined : String.join (([.write "aé", .write "b"] : List TextEvent).map TextEvent.written) = "aéb" := by decide +kernel
  have asked : String.join (((replying replies).stream .text 0).asked (Recipe.textSteps true [.write "aé", .write "b"])) = "aéb" := by
    decide +kernel
  have cut := (arrived (by decide +kernel)).cut
  rw [joined] at cut
  have text := whole (by decide +kernel)
  have ended : EndTaken sent.log := by decide +kernel
  refine ⟨⟨by decide +kernel, short (by decide +kernel), cut⟩, ended,
    (text.whole ?_ ended).trans (congrArg Bytes.ofText asked), text.valid ?_ ended⟩
  all_goals decide +kernel

/-- Two texts that end on the wire in the middle of a character, begun while no message is open. One is failed after its
first frame and ends with an empty frame; of the other the carrier refuses the first frame, but completes it with
success. -/
theorem text_cut_on_wire :
    let failed := afterText [] 2 [.write "aé", .fail .closed]
    let misled := afterText [⟨[.complete (.ok ())], .error .backpressure⟩] 1 [.write "é"]
    (∀ replies, (replying replies).openMessage = none) ∧
    (EndTaken failed.log ∧ takenBytes failed.log = [97, 195] ∧ ¬ Bytes.IsText [97, 195]) ∧
    EndTaken misled.log ∧ takenBytes misled.log = [169] ∧ ¬ Bytes.IsText [169] := by
  refine ⟨fun _ => rfl, ⟨?_, ?_, ?_⟩, ?_, ?_, ?_⟩ <;> decide +kernel

end Sender

end Egress
