import Egress.Proofs.ObjectStreams

/-!
Accounts of runs. An account says which messages a run completes, from what the application asks for: the fragments that
go on with one another, the messages sent whole, and the data written to streams. Of a stream that fails it tells when that
was: before a frame of it was taken, or after.
-/
namespace Egress

inductive Ending where
  | whole
  /-- It failed when some of it had been taken. -/
  | cut
  /-- It had failed before anything of it was taken, and was flushed all the same. -/
  | late
  deriving DecidableEq

/-- A message that a run completes, with all that was written to it. -/
structure Contribution where
  message : Message
  ending : Ending
  deriving DecidableEq

/-- What is received is the message if that is whole, and otherwise a beginning of it. -/
def Contribution.Yields (contribution : Contribution) (received : Message) : Prop :=
  received.kind = contribution.message.kind ∧
    if contribution.ending = .whole then received.content = contribution.message.content
    else received.content <+: contribution.message.content

/-- What has happened to a stream. -/
structure Course where
  written : Bytes
  failed : Bool
  /-- Whether the message failed before a frame of it was taken. -/
  stillborn : Bool
  /-- Whether it was flushed after that. -/
  late : Bool

namespace MessageStream

variable {types : ValueTypes} {σ : Type}

/-- The message has failed, and no frame of it has been taken. -/
def failedFirst (stream : MessageStream types σ) : Bool := stream.failure.isSome && stream.framesSent == 0

/-- Whether the event sends what is in the buffer although the message may have failed. -/
def flushes (stream : MessageStream types σ) : StreamEvent → Bool
  | .flush => !stream.buffer.isEmpty
  | _ => false

end MessageStream

namespace Course

variable {types : ValueTypes} {σ : Type}

def start : Course := ⟨[], false, false, false⟩

/-- An event adds what it writes. Before it happens the stream is looked at. -/
def after (course : Course) (stream : MessageStream types σ) (event : StreamEvent) : Course where
  written := course.written ++ event.written
  failed := stream.failure.isSome
  stillborn := course.stillborn || stream.failedFirst
  late := course.late || (stream.failedFirst && stream.flushes event)

/-- The message of a stream that is closed, if anything of it is sent. -/
def contribution (course : Course) (kind : MessageKind) : Option Contribution :=
  if course.stillborn then if course.late then some ⟨⟨kind, course.written⟩, .late⟩ else none
  else some ⟨⟨kind, course.written⟩, if course.failed then .cut else .whole⟩

end Course

/-- An account of a run: the message that has begun with fragments, what has happened to the stream, and the messages that
are complete. -/
structure Account where
  begun : Option Message
  course : Course
  due : List Contribution

namespace Account

variable {types : ValueTypes} {σ : Type}

def empty : Account := ⟨none, .start, []⟩

def opened (account : Account) : Account := { account with course := .start }

/-- The account when the message begun is as given, or complete with that. -/
def put (account : Account) (message : Message) (final : Bool) : Account :=
  if final then { account with begun := none, due := account.due ++ [⟨message, .whole⟩] }
  else { account with begun := some message }

/-- A message sent whole, unless another one has begun. -/
def whole (account : Account) (message : Message) : Account :=
  match account.begun with
  | none => account.put message true
  | some _ => account

/-- A fragment begins a message or goes on with one of its kind. -/
def fragment (account : Account) (kind : MessageKind) (payload : Bytes) (last : Bool) : Account :=
  match account.begun with
  | none => account.put ⟨kind, payload⟩ last
  | some message =>
    if message.kind = kind then account.put { message with content := message.content ++ payload } last else account

/-- What happens to a stream counts until it is closed, and only if no message had begun. -/
def afterStream (account : Account) (stream : MessageStream types σ) (event : StreamEvent) : Account :=
  if account.begun.isSome || stream.closed then account
  else
    let course := account.course.after stream event
    match event with
    | .close => { account with course, due := account.due ++ (course.contribution stream.kind).toList }
    | _ => { account with course }

section

variable {account : Account} {stream : MessageStream types σ} {event : StreamEvent}

theorem afterStream_of_begun {message : Message} (begun : account.begun = some message) :
    account.afterStream stream event = account := by
  unfold afterStream
  rw [if_pos (by simp [begun])]

theorem afterStream_of_closed (closed : stream.closed = true) : account.afterStream stream event = account := by
  unfold afterStream
  rw [if_pos (by simp [closed])]

theorem afterStream_of_open (unbegun : account.begun = none) (unclosed : stream.closed = false) (unclosing : event ≠ .close) :
    account.afterStream stream event = { account with course := account.course.after stream event } := by
  unfold afterStream
  rw [if_neg (by simp [unbegun, unclosed])]
  cases event with
  | close => exact absurd rfl unclosing
  | _ => rfl

theorem afterStream_close (unbegun : account.begun = none) (unclosed : stream.closed = false) :
    account.afterStream stream .close =
      { account with
        course := account.course.after stream .close
        due := account.due ++ ((account.course.after stream .close).contribution stream.kind).toList } := by
  unfold afterStream
  rw [if_neg (by simp [unbegun, unclosed])]

end

variable [Carrier σ]

def afterStreamAll (account : Account) (stream : MessageStream types σ) : List StreamEvent → Account
  | [] => account
  | event :: events => (account.afterStream stream event).afterStreamAll (stream.after event) events

/-- An object counts as what it comes to. -/
def afterRendering (account : Account) (sender : Sender types σ) (ticket : Ticket) : Rendering → Account
  | .nothing => account
  | .whole message => account.whole message
  | .streamed kind events =>
    let stream := sender.stream kind ticket
    (account.opened.afterStreamAll stream events).afterStream (stream.afterAll events) .close

def afterCall (account : Account) (sender : Sender types σ) : Call types → Account
  | .text content _ => account.whole ⟨.text, Bytes.ofText content⟩
  | .binary payload _ => account.whole ⟨.binary, payload⟩
  | .fragment kind payload last _ => account.fragment kind payload last
  | .object object ticket => account.afterRendering sender ticket (sender.rendering object ticket)
  | _ => account

def after (account : Account) : Custody types σ → Event types → Account
  | .free sender, .call call => account.afterCall sender call
  | .free _, .openStream _ _ _ => account.opened
  | .lent stream, .stream event => account.afterStream stream event
  | .lent stream, .dropStream => account.afterStream stream .close
  | .lent stream, .elsewhere event => account.afterStream stream (.elsewhere event)
  | _, _ => account

def afterRun (account : Account) (custody : Custody types σ) : List (Event types) → Account
  | [] => account
  | event :: events => (account.after custody event).afterRun (custody.after event) events

end Account

def Event.isFrame {types : ValueTypes} : Event types → Bool
  | .call (.frame _ _ _) => true
  | _ => false

namespace Custody

variable {types : ValueTypes} {σ : Type}

/-- The kind of the message that an event sends whole or streamed, if it does. -/
def begins? : Custody types σ → Event types → Option MessageKind
  | .free _, .call (.text _ _) => some .text
  | .free _, .call (.binary _ _) => some .binary
  | .free sender, .call (.object object _) => sender.kindOf? object
  | .free _, .openStream kind _ _ => some kind
  | _, _ => none

/-- What is sent whole or streamed is begun only while no message of its own kind is open. Frames made by hand are not
sent. -/
def MayDo (custody : Custody types σ) (event : Event types) : Prop :=
  event.isFrame = false ∧ ∀ kind ∈ custody.begins? event, custody.sender.openMessage ≠ some kind

instance (custody : Custody types σ) (event : Event types) : Decidable (custody.MayDo event) :=
  inferInstanceAs (Decidable (_ ∧ _))

variable [Carrier σ]

def afterAll (custody : Custody types σ) (events : List (Event types)) : Custody types σ := events.foldl after custody

/-- Each event may happen when it does. -/
def MayRun (custody : Custody types σ) : List (Event types) → Prop
  | [] => True
  | event :: events => custody.MayDo event ∧ (custody.after event).MayRun events

instance decidableMayRun (custody : Custody types σ) : (events : List (Event types)) → Decidable (custody.MayRun events)
  | [] => isTrue trivial
  | event :: events =>
    have : Decidable ((custody.after event).MayRun events) := decidableMayRun _ events
    inferInstanceAs (Decidable (custody.MayDo event ∧ (custody.after event).MayRun events))

end Custody

end Egress
