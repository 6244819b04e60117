import Egress.Proofs.Completion

/-!
The law of answers. A ticket that was issued for one send gets exactly one outcome, whatever the carrier refuses and
whenever it completes what it took. An object that has no encoder, or whose encoder fails or breaks off, has its
ticket failed; the first two are reported to the caller too.
-/
namespace Egress

open Ledger (Deed Evolves)

theorem EncodingError.typeName_orForType (error : EncodingError) (typeName : String) :
    (error.orForType typeName).typeName = some (error.typeName.getD typeName) := by
  unfold EncodingError.orForType
  cases named : error.typeName with
  | none => rfl
  | some name => exact named

namespace Sender

variable {types : ValueTypes} {σ : Type} {ticket : Ticket} [Carrier σ]

/-- A pending ticket that no other ticket leads to, and that the carrier knows nothing of. -/
structure Fresh (ticket : Ticket) (sender : Sender types σ) : Prop where
  alone : sender.ledger.Alone ticket
  pending : ∃ recipient, sender.ledger.slots[ticket]? = some ⟨recipient, none⟩
  allows : sender.Allows (Deed.Spares ticket)

theorem Fresh.issued {sender : Sender types σ} (fresh : sender.Fresh ticket) : ticket < sender.ledger.slots.size := by
  obtain ⟨_, slot⟩ := fresh.pending
  exact (Array.getElem?_eq_some_iff.mp slot).1

theorem Fresh.outcome {sender : Sender types σ} (fresh : sender.Fresh ticket) : sender.ledger.outcome? ticket = none := by
  obtain ⟨recipient, slot⟩ := fresh.pending
  rw [Ledger.outcome?, slot]
  rfl

theorem Fresh.goes {sender after : Sender types σ} (fresh : sender.Fresh ticket)
    (goes : sender.Goes (Deed.Spares ticket) after) : after.Fresh ticket := by
  obtain ⟨alone, same⟩ := Ledger.slot_spared goes.ledger fresh.alone fresh.issued
  exact ⟨alone, same ▸ fresh.pending, goes.allows⟩

/-- A ticket that has just been issued is fresh. -/
theorem fresh_issue {sender : Sender types σ} (sound : sender.ledger.Sound)
    (held : ∀ own ∈ Carrier.held sender.carrier, own < sender.ledger.slots.size) {recipient : Recipient}
    (older : ∀ target, recipient.next? = some target → target < sender.ledger.slots.size) :
    (sender.issue recipient).2.Fresh sender.ledger.slots.size := by
  refine ⟨?_, ⟨recipient, ?_⟩, ?_, ?_⟩
  · refine (sound.toTold.alone_of_new (Nat.le_refl _)).issue ?_
    exact fun leads => absurd (older _ leads) (Nat.lt_irrefl _)
  · show (sender.ledger.issue recipient).2.slots[sender.ledger.slots.size]? = _
    rw [Ledger.slots_issue, if_pos rfl]
  · exact fun own member outcome => Nat.ne_of_lt (held own member)
  · intro later outcome new
    have size : (sender.issue recipient).2.ledger.slots.size = sender.ledger.slots.size + 1 := Array.size_push _
    rw [size] at new
    exact Nat.ne_of_gt new

theorem begins_spares (ticket : Ticket) : MessageStream.Begins (Deed.Spares ticket) := by
  refine ⟨trivial, ?_, fun _ _ => trivial⟩
  intro recipient nowhere leads
  rw [nowhere] at leads
  cases leads

/-- How an encoder ends on an object that is sent with a ticket. -/
def encoding (sender : Sender types σ) (registration : Registration types) (object : types.Object) (ticket : Ticket) :
    Except Fault Unit :=
  match registration.encoder with
  | .text encode => (encode object).map fun _ => ()
  | .binary encode => (encode object).map fun _ => ()
  | .textStream encode => (streamObject MessageStream.writeText (sender.stream .text ticket) (encode object)).1
  | .binaryStream encode => (streamObject MessageStream.act (sender.stream .binary ticket) (encode object)).1

theorem endObject_fst (typeName : String) (ended : Except Fault Unit × MessageStream types σ) :
    (endObject typeName ended).1 = ended.1.mapError (Fault.toSendError typeName) := by
  rcases ended with ⟨fault | ⟨⟩, stream⟩ <;> rfl

theorem encodeObject_fst (sender : Sender types σ) {object : types.Object} {registration : Registration types}
    (found : sender.session.registry.lookup object = some registration) (ticket : Ticket) :
    (sender.encodeObject (some object) ticket).1 =
      (sender.encoding registration object ticket).mapError (Fault.toSendError registration.typeName) := by
  obtain ⟨kind, encoder⟩ := registration
  unfold encodeObject encoding
  dsimp only
  rw [found]
  cases encoder with
  | text encode =>
    dsimp only
    rcases encode object with fault | text <;> rfl
  | binary encode =>
    dsimp only
    rcases encode object with fault | bytes <;> rfl
  | textStream encode => exact endObject_fst _ _
  | binaryStream encode => exact endObject_fst _ _

variable [LawfulCarrier σ]

/-- Closing a message does not let its ticket succeed once the message has failed. -/
theorem Fresh.denies_close {stream : MessageStream types σ} (fresh : stream.sender.Fresh ticket)
    (own : stream.ticket = ticket) : stream.Goes (Deed.Denies stream.message ticket) stream.close := by
  have allows : stream.sender.Allows (Deed.Denies stream.message ticket) :=
    fresh.allows.mono fun _ spares => Ledger.Deed.denies_of_spares spares
  exact MessageStream.goes_close allows (own ▸ fresh.issued) (fun _ => own ▸ rfl) fun error _ => ⟨error, rfl⟩

/-- A message that has failed when it is closed does not succeed. -/
theorem Fresh.doomed_close {stream : MessageStream types σ} (fresh : stream.sender.Fresh ticket)
    (own : stream.ticket = ticket) {error : SendError} (failed : stream.failure = some error) :
    stream.close.sender.ledger.Doomed stream.message ticket := by
  have doomed : stream.sender.ledger.Doomed stream.message ticket := by
    refine ⟨⟨error, failed⟩, fun other slot issued leads => absurd leads (fresh.alone other slot issued), ?_⟩
    rw [fresh.outcome]
    exact nofun
  exact Ledger.doomed_evolves (fresh.denies_close own).sender.ledger doomed

/-- A message whose encoder faults does not succeed: it has failed before it is closed. -/
theorem endObject_unsuccessful {Action Refusal : Type}
    {answer : MessageStream types σ → Action → Except Refusal Unit × MessageStream types σ}
    (goes : ∀ (stream : MessageStream types σ) action, stream.sender.Allows (Deed.Spares ticket) →
      stream.Goes (Deed.Spares ticket) (answer stream action).2)
    {sender : Sender types σ} (fresh : sender.Fresh ticket) (kind : MessageKind) (emission : Emission Action Refusal)
    (typeName : String)
    (faulted : (endObject typeName (streamObject answer (sender.stream kind ticket) emission)).1 ≠ .ok ()) :
    (endObject typeName (streamObject answer (sender.stream kind ticket) emission)).2.ledger.outcome? ticket
      ≠ some (.ok ()) := by
  let opened : MessageStream types σ := sender.stream kind ticket
  have started : sender.Goes (Deed.Spares ticket) opened.sender := goes_start (begins_spares ticket) fresh.allows kind _
  have encoded : opened.Goes (Deed.Spares ticket) (streamObject answer opened emission).2 :=
    goes_streamObject goes started.allows emission
  have begun : opened.message < opened.sender.ledger.failures.size := by
    show sender.ledger.failures.size < (sender.ledger.failures.push none).size
    rw [Array.size_push]
    exact Nat.lt_succ_self _
  revert faulted encoded
  show (endObject typeName (streamObject answer opened emission)).1 ≠ .ok () → _ →
    (endObject typeName (streamObject answer opened emission)).2.ledger.outcome? ticket ≠ _
  rcases streamObject answer opened emission with ⟨fault | ⟨⟩, stream⟩
  case ok => exact fun faulted => absurd rfl faulted
  intro _ encoded
  let error := fault.toSendError typeName
  obtain ⟨first, failed⟩ := Ledger.failure_recordFailure_self
    (Nat.lt_of_lt_of_le (encoded.message ▸ begun) encoded.sender.ledger.extended.messages) error
  have marked : stream.Goes (Deed.Spares ticket) (stream.fail error) := MessageStream.goes_fail encoded.sender.allows trivial
  have still : (stream.fail error).sender.Fresh ticket := fresh.goes ((started.trans encoded.sender).trans marked.sender)
  have own : (stream.fail error).ticket = ticket := encoded.ticket
  exact (still.doomed_close own failed).unsuccessful

/-- Where encoding fails, the ticket has not succeeded. -/
theorem encodeObject_unsuccessful {sender : Sender types σ} (fresh : sender.Fresh ticket) (object : Option types.Object)
    (failed : (sender.encodeObject object ticket).1 ≠ .ok ()) :
    (sender.encodeObject object ticket).2.ledger.outcome? ticket ≠ some (.ok ()) := by
  have unchanged : sender.ledger.outcome? ticket ≠ some (.ok ()) := by
    rw [fresh.outcome]
    exact nofun
  revert failed
  rcases object with _ | object
  · exact fun _ => unchanged
  · unfold encodeObject
    dsimp only
    rcases sender.session.registry.lookup object with _ | ⟨kind, encode | encode | encode | encode⟩
    · exact fun _ => unchanged
    all_goals dsimp only
    · rcases encode object with fault | text
      · exact fun _ => unchanged
      · exact fun failed => absurd rfl failed
    · exact endObject_unsuccessful (fun stream text allows => stream.goes_writeText (begins_spares ticket) allows text)
        fresh _ _ _
    · rcases encode object with fault | bytes
      · exact fun _ => unchanged
      · exact fun failed => absurd rfl failed
    · exact endObject_unsuccessful (fun stream action allows => stream.goes_act (begins_spares ticket) allows action)
        fresh _ _ _

omit [LawfulCarrier σ] in
/-- A failure to encode fails the ticket, and is reported if it is a declared one. -/
theorem sendObject_of_error {sender after : Sender types σ} {object : Option types.Object} {error : SendError}
    (failed : sender.encodeObject object ticket = (.error error, after)) :
    sender.sendObject object ticket = (if error.isDeclared then .error error else .ok (), after.fail ticket error) := by
  unfold sendObject
  rw [failed]

/-- The encoder for an object ends in some way. -/
def EncodingEnds (sender : Sender types σ) (object : Option types.Object) (ticket : Ticket) (ended : Except Fault Unit)
    (typeName : String) : Prop :=
  ∃ present registration, object = some present ∧ sender.session.registry.lookup present = some registration ∧
    sender.encoding registration present ticket = ended ∧ registration.typeName = typeName

/-- What the sending of an object promises about errors. -/
structure KeepsContract (sender : Sender types (Logged σ)) (object : Option types.Object) (ticket : Ticket) : Prop where
  /-- An error that is reported says that there is no encoder, and then nothing is handed over, or it is the encoder's
  own and names a type. -/
  reported : ∀ error, (sender.sendObject object ticket).1 = .error error →
    (error.category = .invalidArgument ∧ (∀ present, object = some present → sender.session.registry.lookup present = none) ∧
      (sender.sendObject object ticket).2.log = sender.log) ∨
    ∃ fault typeName encodingError, sender.EncodingEnds object ticket (.error (.failed fault)) typeName ∧
      error = .encoding encodingError ∧ encodingError.typeName = some (fault.typeName.getD typeName)
  /-- The ticket fails if an error is reported, and if the encoder breaks off. -/
  failed : ((sender.sendObject object ticket).1 ≠ .ok () ∨
      ∃ panic typeName, sender.EncodingEnds object ticket (.error (.panicked panic)) typeName) →
    ∃ error, (sender.sendObject object ticket).2.ledger.outcome? ticket = some (.error error)

omit [LawfulCarrier σ] in
/-- Where an encoder is registered, what is reported is its own declared error. -/
theorem reported_of_registered (sender : Sender types (Logged σ)) {object : types.Object} {registration : Registration types}
    (found : sender.session.registry.lookup object = some registration) (ticket : Ticket) {error : SendError}
    (returned : (sender.sendObject (some object) ticket).1 = .error error) :
    ∃ fault encodingError, sender.encoding registration object ticket = .error (.failed fault) ∧
      error = .encoding encodingError ∧ encodingError.typeName = some (fault.typeName.getD registration.typeName) := by
  have result := sender.encodeObject_fst found ticket
  rcases encoded : sender.encodeObject (some object) ticket with ⟨failure | ⟨⟩, after⟩
  · rw [sendObject_of_error encoded] at returned
    rw [encoded] at result
    rcases ended : sender.encoding registration object ticket with fault | ⟨⟩
    · rw [ended] at result
      have same : failure = fault.toSendError registration.typeName := Except.error.inj result
      subst same
      cases fault with
      | failed fault =>
        cases returned
        exact ⟨fault, _, rfl, rfl, EncodingError.typeName_orForType _ _⟩
      | panicked panic => cases returned
    · rw [ended] at result
      cases result
  · unfold sendObject at returned
    rw [encoded] at returned
    cases returned

omit [LawfulCarrier σ] in
theorem reported_sendObject (sender : Sender types (Logged σ)) (object : Option types.Object) (ticket : Ticket)
    {error : SendError} (returned : (sender.sendObject object ticket).1 = .error error) :
    (error.category = .invalidArgument ∧ (∀ present, object = some present → sender.session.registry.lookup present = none) ∧
      (sender.sendObject object ticket).2.log = sender.log) ∨
    ∃ fault typeName encodingError, sender.EncodingEnds object ticket (.error (.failed fault)) typeName ∧
      error = .encoding encodingError ∧ encodingError.typeName = some (fault.typeName.getD typeName) := by
  rcases object with _ | object
  · cases returned
    exact .inl ⟨rfl, nofun, rfl⟩
  · cases found : sender.session.registry.lookup object with
    | none =>
      have unfound : sender.encodeObject (some object) ticket
          = (.error (.invalidArgument "No encoder registered for object type"), sender) := by
        unfold encodeObject
        dsimp only
        rw [found]
      rw [sendObject_of_error unfound] at returned ⊢
      cases returned
      refine .inl ⟨rfl, ?_, rfl⟩
      intro present same
      cases same
      exact found
    | some registration =>
      obtain ⟨fault, encodingError, ended, same, named⟩ := sender.reported_of_registered found ticket returned
      exact .inr ⟨fault, _, encodingError, ⟨object, registration, rfl, found, ended, rfl⟩, same, named⟩

theorem failed_sendObject {sender : Sender types (Logged σ)} (fresh : sender.Fresh ticket) (sound : sender.ledger.Sound)
    {object : Option types.Object} (failed : (sender.encodeObject object ticket).1 ≠ .ok ()) :
    ∃ error, (sender.sendObject object ticket).2.ledger.outcome? ticket = some (.error error) := by
  have unsuccessful := encodeObject_unsuccessful fresh object failed
  have issued : ticket < (sender.encodeObject object ticket).2.ledger.slots.size := by
    rcases encodeObject_cases fresh.issued sound object with ⟨error, unsent⟩ | sent
    · rw [unsent]
      exact fresh.issued
    · exact Nat.lt_of_lt_of_le fresh.issued sent.extended.size_le
  rcases encoded : sender.encodeObject object ticket with ⟨error | ⟨⟩, after⟩
  · rw [encoded] at unsuccessful issued
    rw [sendObject_of_error encoded]
    show ∃ later, (after.ledger.complete ticket (.error error)).outcome? ticket = some (.error later)
    cases pending : after.ledger.pending? ticket with
    | some recipient => exact ⟨error, Ledger.outcome?_complete pending⟩
    | none =>
      obtain ⟨kept, known⟩ := Option.isSome_iff_exists.mp (Ledger.outcome?_isSome_of_not_pending issued pending)
      have still := (Ledger.extends_complete after.ledger ticket (.error error)).outcome? known
      rcases kept with earlier | ⟨⟩
      · exact ⟨earlier, still⟩
      · exact absurd known unsuccessful
  · rw [encoded] at failed
    exact absurd rfl failed

theorem keepsContract {sender : Sender types (Logged σ)} (fresh : sender.Fresh ticket) (sound : sender.ledger.Sound)
    (object : Option types.Object) : sender.KeepsContract object ticket := by
  refine ⟨fun error returned => sender.reported_sendObject object ticket returned, ?_⟩
  intro bad
  refine failed_sendObject fresh sound ?_
  intro encoded
  rcases bad with returned | ⟨panic, typeName, object, registration, rfl, found, ended, _⟩
  · refine returned ?_
    unfold sendObject
    rcases result : sender.encodeObject object ticket with ⟨error | ⟨⟩, after⟩
    · rw [result] at encoded
      cases encoded
    · rfl
  · have result := sender.encodeObject_fst found ticket
    rw [ended, encoded] at result
    cases result

/-- The law of answers. A ticket is issued and something is sent with it, over any carrier that completes only what it
was given. As soon as every frame that the carrier took of it has been completed, by then or later and in any order,
the ticket has an outcome, and the application has been told this once. And an object keeps its contract. -/
theorem answered_once {sender : Sender types (Logged σ)} (reached : sender.ledger.Reached)
    (held : ∀ own ∈ Carrier.held sender.carrier, own < sender.ledger.slots.size) {recipient : Recipient}
    (older : ∀ target, recipient.next? = some target → target < sender.ledger.slots.size) :
    let ticket := (sender.issue recipient).1
    let issued := (sender.issue recipient).2
    (∀ submission : Submission types, submission.Own → ∀ later,
      Evolves (fun _ => True) (issued.send ticket submission).ledger later →
      (∀ handover ∈ (issued.send ticket submission).log.drop sender.log.length, handover.taken = true →
        (later.outcome? handover.ticket).isSome) →
      ∃ outcome, later.outcome? ticket = some outcome ∧
        later.about ticket = if recipient.tells then [(ticket, outcome)] else []) ∧
    ∀ object, issued.KeepsContract object ticket := by
  intro ticket issued
  have fresh : issued.Fresh ticket := fresh_issue reached.sound held older
  have sound : issued.ledger.Sound := reached.sound.issue older
  refine ⟨?_, fun object => keepsContract fresh sound object⟩
  intro submission own later evolves completed
  have sent := sent_send fresh.issued sound own
  have after : later.Sound := evolves.sound sent.sound
  have known : (later.outcome? ticket).isSome := by
    rcases sent.answered.answer with known | ⟨handover, member, taken, leads⟩
    · obtain ⟨outcome, known⟩ := Option.isSome_iff_exists.mp known
      rw [evolves.extended.outcome? known]
      rfl
    · exact after.outcome?_isSome_of_leadsTo (leads.later evolves.extended) (completed handover member taken)
  obtain ⟨outcome, known⟩ := Option.isSome_iff_exists.mp known
  refine ⟨outcome, known, ?_⟩
  obtain ⟨whose, slot⟩ := Ledger.outcome?_eq_some.mp known
  have begun : issued.ledger.slots[ticket]? = some ⟨recipient, none⟩ := by
    show (sender.ledger.issue recipient).2.slots[sender.ledger.slots.size]? = _
    rw [Ledger.slots_issue, if_pos rfl]
  obtain ⟨_, kept, _⟩ := (sent.extended.trans evolves.extended).slots ticket recipient none begun
  rw [kept] at slot
  cases slot
  rw [after.told, kept]

/-- A sender that knows one encoder, over a carrier that keeps all tickets. -/
def keeping : Sender catalogue (Logged ScriptedCarrier) :=
  .start (.ofRegistry (Registry.empty.register ⟨"note", .recipe⟩ Recipe.textStreamEncoder))
    (.fresh { ScriptedCarrier.accepting with frameReply := .hold }) .empty

/-- A note whose encoder writes a text and breaks off. -/
def brokenNote : catalogue.Object := ⟨⟨"note", .recipe⟩, (⟨[.write "ab", .panic .other], true⟩ : Recipe)⟩

theorem answered_once_kept :
    let ticket := (keeping.issue .listener).1
    let issued := (keeping.issue .listener).2
    let sent := issued.send ticket (.stream .text 1 [.write [97, 98], .flush])
    let later := sent.ledger.completeEach [(3, .error .closed), (4, .ok ()), (2, .ok ())]
    keeping.ledger.Reached ∧ (sent.ledger.outcome? ticket).isNone ∧
    (∃ outcome, later.outcome? ticket = some outcome ∧ later.about ticket = [(ticket, outcome)]) ∧
    ∃ error, (issued.sendObject (some brokenNote) ticket).2.ledger.outcome? ticket = some (.error error) := by
  intro ticket issued sent later
  have reached : keeping.ledger.Reached := .refl _
  have older : ∀ target, Recipient.listener.next? = some target → target < keeping.ledger.slots.size := nofun
  obtain ⟨answered, contract⟩ := answered_once reached (fun _ member => absurd member List.not_mem_nil) older
  have evolves : Evolves (fun _ => True) sent.ledger later := .completeEach sent.ledger _ fun _ _ => trivial
  have own : (Submission.stream .text 1 [.write [97, 98], .flush] : Submission catalogue).Own := by
    intro event member
    simp only [List.mem_cons, List.not_mem_nil, or_false] at member
    rcases member with rfl | rfl <;> trivial
  have completed : ∀ handover ∈ sent.log.drop keeping.log.length, handover.taken = true →
      (later.outcome? handover.ticket).isSome := by decide
  have broken : issued.EncodingEnds (some brokenNote) ticket (.error (.panicked .other)) "note" :=
    ⟨brokenNote, _, rfl, rfl, rfl, rfl⟩
  exact ⟨reached, by decide, answered _ own later evolves completed, (contract (some brokenNote)).failed (.inr ⟨_, _, broken⟩)⟩

end Sender
end Egress
