import Egress.Proofs.HandingOver
import Egress.Proofs.TextOnWire

/-!
What an object comes to that is sent. A whole-message encoder gives a message in one frame, or nothing if it fails. A
streaming encoder only makes things happen to its stream, each of which an application could do to a stream of its own;
so what holds of every stream holds of every object.
-/
namespace Egress

/-- A message, as it is put together again by its receiver. -/
structure Message where
  kind : MessageKind
  content : Bytes
  deriving DecidableEq

/-- The message in one frame. -/
def Message.frame (message : Message) : Frame := ⟨message.kind.opcode, true, message.content⟩

/-- The kind of the messages that an encoder makes. -/
def Encoder.kind {α : Type} : Encoder α → MessageKind
  | .text _ | .textStream _ => .text
  | .binary _ | .binaryStream _ => .binary

namespace MessageStream

variable {types : ValueTypes} {σ : Type} [Carrier σ]

def textEvents (text : String) : List StreamEvent := [.write (Bytes.ofText text)]

def byteEvents : ByteAction → List StreamEvent
  | .write bytes => if bytes.isEmpty then [] else [.write bytes]
  | .call bytes => [.write bytes]
  | .flush => [.flush]

theorem afterAll_textEvents (stream : MessageStream types σ) (text : String) :
    (stream.writeText text).2 = stream.afterAll (textEvents text) := stream.writeText_snd text

theorem afterAll_byteEvents (stream : MessageStream types σ) (action : ByteAction) :
    (stream.act action).2 = stream.afterAll (byteEvents action) := by
  cases action with
  | write bytes =>
    show (stream.writeBytes bytes).2 = stream.afterAll (if bytes.isEmpty then [] else [.write bytes])
    unfold writeBytes
    split <;> rfl
  | call bytes => rfl
  | flush => rfl

/-- What an encoder makes happen to its stream. Before each action and at the end the carrier may work. -/
def performed {Action Refusal : Type}
    (answer : MessageStream types σ → Action → Except Refusal Unit × MessageStream types σ)
    (events : Action → List StreamEvent) : MessageStream types σ → Emission Action Refusal → List StreamEvent
  | _, .done _ => [.elsewhere .work]
  | stream, .act action next =>
    match answer stream.letWork action with
    | (reply, stream) => .elsewhere .work :: (events action ++ performed answer events stream (next reply))

variable {Action Refusal : Type}
  {answer : MessageStream types σ → Action → Except Refusal Unit × MessageStream types σ}
  {events : Action → List StreamEvent}

/-- The stream of an encoder is a stream to which all this has happened. -/
theorem streamObject_snd (same : ∀ stream action, (answer stream action).2 = stream.afterAll (events action))
    (stream : MessageStream types σ) (emission : Emission Action Refusal) :
    (Sender.streamObject answer stream emission).2 = stream.afterAll (performed answer events stream emission) := by
  show (emission.run (fun stream action => answer stream.letWork action) stream).2.letWork = _
  induction emission generalizing stream with
  | done result => rfl
  | act action next ih =>
    have acted := same stream.letWork action
    unfold performed Emission.run
    revert acted
    rcases answer stream.letWork action with ⟨reply, after⟩
    intro acted
    obtain rfl : after = stream.letWork.afterAll (events action) := acted
    show _ = stream.letWork.afterAll (events action ++ _)
    rw [afterAll_append]
    exact ih reply _

/-- A fault of the encoder is a failure of its message. -/
def endEvents (typeName : String) : Except Fault Unit → List StreamEvent
  | .ok () => []
  | .error fault => [.fail (fault.toSendError typeName)]

theorem endObject_snd (typeName : String) (result : Except Fault Unit) (stream : MessageStream types σ) :
    (Sender.endObject typeName (result, stream)).2 = (stream.afterAll (endEvents typeName result)).finish := by
  rcases result with fault | ⟨⟩ <;> rfl

/-- All that happens to the stream of an object before it is closed. -/
def objectEvents (typeName : String)
    (answer : MessageStream types σ → Action → Except Refusal Unit × MessageStream types σ)
    (events : Action → List StreamEvent) (stream : MessageStream types σ) (emission : Emission Action Refusal) :
    List StreamEvent :=
  performed answer events stream emission ++ endEvents typeName (Sender.streamObject answer stream emission).1

theorem endObject_streamObject (same : ∀ stream action, (answer stream action).2 = stream.afterAll (events action))
    (typeName : String) (stream : MessageStream types σ) (emission : Emission Action Refusal) :
    (Sender.endObject typeName (Sender.streamObject answer stream emission)).2 =
      (stream.afterAll (objectEvents typeName answer events stream emission)).finish := by
  have streamed := streamObject_snd same stream emission
  unfold objectEvents
  revert streamed
  rcases Sender.streamObject answer stream emission with ⟨result, after⟩
  intro streamed
  obtain rfl : after = stream.afterAll (performed answer events stream emission) := streamed
  rw [afterAll_append]
  exact endObject_snd typeName result _

end MessageStream

/-- What an object comes to. -/
inductive Rendering where
  | nothing
  | whole (message : Message)
  /-- A stream to which some things happen before it is dropped. -/
  | streamed (kind : MessageKind) (events : List StreamEvent)

def Rendering.kind? : Rendering → Option MessageKind
  | .nothing => none
  | .whole message => some message.kind
  | .streamed kind _ => some kind

namespace Sender

open MessageStream

variable {types : ValueTypes} {σ : Type}

/-- The kind of message that an object is sent as, if it has an encoder. -/
def kindOf? (sender : Sender types σ) (object : Option types.Object) : Option MessageKind :=
  (object.bind sender.session.registry.lookup).map (·.encoder.kind)

variable [Carrier σ]

/-- What an object comes to when it is sent with a ticket. -/
def rendering (sender : Sender types σ) (object : Option types.Object) (ticket : Ticket) : Rendering :=
  match object with
  | none => .nothing
  | some object =>
    match sender.session.registry.lookup object with
    | none => .nothing
    | some registration =>
      match registration.encoder with
      | .text encode =>
        match encode object with
        | .ok text => .whole ⟨.text, Bytes.ofText text⟩
        | .error _ => .nothing
      | .binary encode =>
        match encode object with
        | .ok bytes => .whole ⟨.binary, bytes⟩
        | .error _ => .nothing
      | .textStream encode =>
        .streamed .text (objectEvents registration.typeName writeText textEvents (sender.stream .text ticket) (encode object))
      | .binaryStream encode =>
        .streamed .binary (objectEvents registration.typeName act byteEvents (sender.stream .binary ticket) (encode object))

/-- The sender after it has sent what an object came to. -/
def render (sender : Sender types σ) (ticket : Ticket) : Rendering → Sender types σ
  | .nothing => sender
  | .whole message => sender.sendFrame message.frame ticket sender.batchMode
  | .streamed kind events => ((sender.stream kind ticket).afterAll events).finish

/-- Encoding an object sends what it comes to. -/
theorem encodeObject_snd (sender : Sender types σ) (object : Option types.Object) (ticket : Ticket) :
    (sender.encodeObject object ticket).2 = sender.render ticket (sender.rendering object ticket) := by
  unfold encodeObject rendering
  rcases object with _ | object
  · rfl
  · dsimp only
    rcases sender.session.registry.lookup object with _ | registration
    · rfl
    · dsimp only
      rcases registration.encoder with encode | encode | encode | encode
      · dsimp only
        rcases encode object with fault | text <;> rfl
      · exact endObject_streamObject afterAll_textEvents _ _ _
      · dsimp only
        rcases encode object with fault | bytes <;> rfl
      · exact endObject_streamObject afterAll_byteEvents _ _ _

theorem kindOf?_of_rendering {sender : Sender types σ} {object : Option types.Object} {ticket : Ticket} {kind : MessageKind}
    (made : (sender.rendering object ticket).kind? = some kind) : sender.kindOf? object = some kind := by
  unfold kindOf?
  revert made
  unfold rendering
  rcases object with _ | object
  · exact nofun
  · dsimp only [Option.bind_some]
    rcases sender.session.registry.lookup object with _ | registration
    · exact nofun
    · dsimp only [Option.map_some]
      rcases registration.encoder with encode | encode | encode | encode
      · dsimp only
        rcases encode object with fault | text
        · exact nofun
        · exact id
      · exact id
      · dsimp only
        rcases encode object with fault | bytes
        · exact nofun
        · exact id
      · exact id

end Sender
end Egress
