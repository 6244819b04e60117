import Egress.Sender

/-!
Streamed messages. While a message is streamed its stream has the sender to itself. What is written gathers in a
buffer; each time the buffer is full, a frame goes out. Closing sends the rest as the last frame. The message
remembers its first failure: after one, nothing more is written, and closing sends an empty last frame if an
earlier frame has gone out, so that the connection is not left in the middle of a message.
-/
namespace Egress

structure MessageStream (types : ValueTypes) (σ : Type) where
  sender : Sender types σ
  kind : MessageKind
  buffer : Buffer
  bufferSize : Nat
  ticket : Ticket
  message : MessageId
  framesSent : Nat
  /-- Whether the rules of framing rejected a frame of the message. -/
  rejected : Bool
  closed : Bool

namespace MessageStream

variable {types : ValueTypes} {σ : Type} [Carrier σ]

/-- Begins a message. A frame holds at least one byte. -/
def start (sender : Sender types σ) (kind : MessageKind) (bufferSize : Nat) : MessageStream types σ :=
  let bufferSize := max bufferSize 1
  match sender.session.pool.acquire bufferSize, sender.ledger.beginMessage with
  | (buffer, pool), (message, ledger) =>
    match ledger.issue .nobody with
    | (ticket, ledger) =>
      { sender := { sender with session.pool := pool, ledger }
        kind, buffer, bufferSize, ticket, message
        framesSent := 0
        rejected := false
        closed := false }

def setTicket (stream : MessageStream types σ) (ticket : Ticket) : MessageStream types σ := { stream with ticket }

def failure (stream : MessageStream types σ) : Option SendError := stream.sender.ledger.failure stream.message

def fail (stream : MessageStream types σ) (error : SendError) : MessageStream types σ :=
  { stream with sender.ledger := stream.sender.ledger.recordFailure stream.message error }

/-- Who learns the outcome of the next frame. -/
def recipient (stream : MessageStream types σ) (final : Bool) : Recipient :=
  if final then .last stream.message stream.ticket else .fragment stream.message

def opcode (stream : MessageStream types σ) : Opcode :=
  if stream.framesSent = 0 then stream.kind.opcode else .continuation

/-- The stream after a frame got as far as it did. If the first frame was refused, its message has not begun. -/
def afterDelivery (stream : MessageStream types σ) (final : Bool) : Delivery → MessageStream types σ
  | .accepted => { stream with framesSent := stream.framesSent + 1 }
  | .rejected => { stream with rejected := true }
  | .refused =>
    if final = false ∧ stream.framesSent = 0 then { stream with sender := stream.sender.abandonMessage } else stream

/-- The next frame, which holds what is in the buffer. -/
def nextFrame (stream : MessageStream types σ) (final : Bool) : Frame :=
  ⟨stream.opcode, final, stream.buffer.toBytes⟩

def sendNext (stream : MessageStream types σ) (final : Bool) : Delivery × Sender types σ :=
  match stream.sender.issue (stream.recipient final) with
  | (ticket, sender) => sender.dispatch (stream.nextFrame final) ticket sender.batchMode

/-- The stream after the next frame has gone out, as far as it got. -/
def handOver (stream : MessageStream types σ) (final : Bool) : MessageStream types σ :=
  match stream.sendNext final with
  | (delivery, sender) => { stream with sender, buffer := stream.buffer.drained }.afterDelivery final delivery

/-- Sends what is in the buffer as a frame. Before the last frame a failure of the message is reported. -/
def emit (stream : MessageStream types σ) (final : Bool) : Outcome × MessageStream types σ :=
  let stream := stream.handOver final
  match stream.failure with
  | some error => (if final then .ok () else .error error, stream)
  | none => (.ok (), stream)

/-- What is said about a stream that has been closed. -/
def closedError : SendError := .invalidArgument "Stream is closed"

/-- Fills the buffer and sends it, again and again, in at most `rounds` rounds. -/
def fill : (rounds : Nat) → MessageStream types σ → Bytes → Outcome × MessageStream types σ
  | 0, stream, _ => (.ok (), stream)
  | _ + 1, stream, [] => (.ok (), stream)
  | rounds + 1, stream, byte :: bytes =>
    let data := byte :: bytes
    let room := stream.bufferSize - stream.buffer.size
    let filled := { stream with buffer := stream.buffer.write (data.take room) }
    if filled.bufferSize ≤ filled.buffer.size then
      match filled.emit false with
      | (.ok (), stream) => fill rounds stream (data.drop room)
      | (.error error, stream) => (.error error, stream)
    else fill rounds filled (data.drop room)

/-- Writes bytes. A round takes at least one byte, so the number of bytes bounds the rounds. -/
def write (stream : MessageStream types σ) (data : Bytes) : Outcome × MessageStream types σ :=
  if stream.closed then (.error closedError, stream)
  else
    match stream.failure with
    | some error => (.error error, stream)
    | none => fill data.length stream data

/-- Sends what is in the buffer, if anything is, as a frame before the last. -/
def flush (stream : MessageStream types σ) : Outcome × MessageStream types σ :=
  if stream.closed then (.error closedError, stream)
  else if stream.buffer.isEmpty then (.ok (), stream)
  else stream.emit false

/-- The failure of a message whose frame was rejected. -/
def rejectedError : SendError := .invalidArgument "Stream frame was refused"

def returnBuffer (stream : MessageStream types σ) : MessageStream types σ :=
  { stream with
    sender.session.pool := stream.sender.session.pool.release stream.buffer
    buffer := .fresh 0 }

/-- Sends the last frame, or fails the message's ticket. -/
def sendLast (stream : MessageStream types σ) : MessageStream types σ :=
  match stream.failure with
  | none =>
    if stream.rejected then { stream with sender := stream.sender.fail stream.ticket rejectedError }
    else (stream.emit true).2
  | some error =>
    if stream.rejected = false ∧ 0 < stream.framesSent then
      ({ stream with buffer := stream.buffer.clear }.emit true).2
    else { stream with sender := stream.sender.fail stream.ticket error }

/-- Ends the message. Closing again does nothing. -/
def close (stream : MessageStream types σ) : MessageStream types σ :=
  if stream.closed then stream else ({ stream with closed := true } : MessageStream types σ).sendLast.returnBuffer

def finish (stream : MessageStream types σ) : Sender types σ := stream.close.sender

/-- Writes a text. Why it was refused is not told. -/
def writeText (stream : MessageStream types σ) (text : String) : Except Unit Unit × MessageStream types σ :=
  match stream.write (Bytes.ofText text) with
  | (.ok (), stream) => (.ok (), stream)
  | (.error _, stream) => (.error (), stream)

/-- Writes all of some bytes; no bytes are not written at all. -/
def writeBytes (stream : MessageStream types σ) (bytes : Bytes) : Outcome × MessageStream types σ :=
  if bytes.isEmpty then (.ok (), stream) else stream.write bytes

/-- Does what a binary encoder asks for. -/
def act (stream : MessageStream types σ) : ByteAction → Outcome × MessageStream types σ
  | .write bytes => stream.writeBytes bytes
  | .call bytes => stream.write bytes
  | .flush => stream.flush

def letWork (stream : MessageStream types σ) : MessageStream types σ :=
  { stream with sender := stream.sender.letWork }

def describe (stream : MessageStream types σ) : String :=
  let name := match stream.kind with
    | .text => "MessageWriter"
    | .binary => "MessageOutputStream"
  name ++ " \x7b frames_sent: " ++ toString stream.framesSent ++ ", closed: " ++ toString stream.closed ++ " \x7d"

end MessageStream

namespace Sender

variable {types : ValueTypes} {σ : Type} [Carrier σ]

/-- Begins a streamed message of the size that the settings give. -/
def stream (sender : Sender types σ) (kind : MessageKind) (ticket : Ticket) : MessageStream types σ :=
  (MessageStream.start sender kind (sender.session.settings.bufferSize kind)).setTicket ticket

/-! ## Objects -/

/-- Lets an encoder act on a stream. The carrier may work before each action and after the last one. -/
def streamObject {Action Refusal : Type}
    (answer : MessageStream types σ → Action → Except Refusal Unit × MessageStream types σ)
    (stream : MessageStream types σ) (emission : Emission Action Refusal) :
    Except Fault Unit × MessageStream types σ :=
  match emission.run (fun stream action => answer stream.letWork action) stream with
  | (result, stream) => (result, stream.letWork)

/-- Ends a streamed object: a fault of its encoder is a failure of the message. -/
def endObject (typeName : String) : Except Fault Unit × MessageStream types σ → Outcome × Sender types σ
  | (.ok (), stream) => (.ok (), stream.finish)
  | (.error fault, stream) =>
    let error := fault.toSendError typeName
    (.error error, (stream.fail error).finish)

/-- Encodes an object with the encoder registered for its type and sends the message. -/
def encodeObject (sender : Sender types σ) (object : Option types.Object) (ticket : Ticket) :
    Outcome × Sender types σ :=
  match object with
  | none => (.error (.invalidArgument "Cannot send null object"), sender)
  | some object =>
    match sender.session.registry.lookup object with
    | none => (.error (.invalidArgument "No encoder registered for object type"), sender)
    | some registration =>
      let typeName := registration.typeName
      match registration.encoder with
      | .text encode =>
        match encode object with
        | .ok text => (.ok (), sender.sendText text ticket)
        | .error fault => (.error (fault.toSendError typeName), sender)
      | .binary encode =>
        match encode object with
        | .ok bytes => (.ok (), sender.sendBinary bytes ticket)
        | .error fault => (.error (fault.toSendError typeName), sender)
      | .textStream encode =>
        endObject typeName (streamObject MessageStream.writeText (sender.stream .text ticket) (encode object))
      | .binaryStream encode =>
        endObject typeName (streamObject MessageStream.act (sender.stream .binary ticket) (encode object))

/-- Sends an object. A failure to encode it fails the ticket; a declared one is also returned. -/
def sendObject (sender : Sender types σ) (object : Option types.Object) (ticket : Ticket) :
    Outcome × Sender types σ :=
  match sender.encodeObject object ticket with
  | (.ok (), sender) => (.ok (), sender)
  | (.error error, sender) =>
    (if error.isDeclared then .error error else .ok (), sender.fail ticket error)

end Sender
end Egress
