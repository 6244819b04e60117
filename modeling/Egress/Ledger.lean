import Egress.Failure

/-!
The ledger of outcomes. Whoever asks for a send gets a ticket, and the ledger keeps for every ticket who is to
learn the outcome. A ticket is completed once: the first outcome is kept and passed on, later ones change
nothing. Some recipients pass an outcome on to an older ticket, so one completion can run down a chain.
-/
namespace Egress

/-- The place of a ticket in the ledger. Tickets are numbered as they are issued. -/
abbrev Ticket := Nat

/-- The place of a streamed message in the ledger's record of failures. -/
abbrev MessageId := Nat

/-- Who learns the outcome of a ticket. -/
inductive Recipient where
  | nobody
  /-- The application is told at once. -/
  | listener
  /-- The application asks for the outcome when it likes. -/
  | future
  /-- A fragment before the last: the message remembers its first failure. -/
  | fragment (message : MessageId)
  /-- The last fragment: the message's own ticket gets the first failure, or else this outcome. -/
  | last (message : MessageId) (ticket : Ticket)
  /-- The application is told, and then an older ticket gets the same outcome. -/
  | relay (ticket : Ticket)
  deriving DecidableEq

/-- The older ticket that gets an outcome next, if there is one. -/
def Recipient.next? : Recipient → Option Ticket
  | .last _ ticket | .relay ticket => some ticket
  | _ => none

/-- A ticket's entry: its recipient, and its outcome once it has one. -/
structure Slot where
  recipient : Recipient
  outcome : Option Outcome

/-- All tickets issued so far, the first failure of every streamed message, and what listeners were told. -/
structure Ledger where
  slots : Array Slot
  failures : Array (Option SendError)
  /-- What the application was told, in order. -/
  reports : Array (Ticket × Outcome)

namespace Ledger

def empty : Ledger := ⟨#[], #[], #[]⟩

def issue (ledger : Ledger) (recipient : Recipient) : Ticket × Ledger :=
  (ledger.slots.size, { ledger with slots := ledger.slots.push ⟨recipient, none⟩ })

def beginMessage (ledger : Ledger) : MessageId × Ledger :=
  (ledger.failures.size, { ledger with failures := ledger.failures.push none })

def failure (ledger : Ledger) (message : MessageId) : Option SendError :=
  ledger.failures[message]?.join

/-- Notes a failure of a streamed message, unless it has failed before. -/
def recordFailure (ledger : Ledger) (message : MessageId) (error : SendError) : Ledger :=
  match ledger.failures[message]? with
  | some none => { ledger with failures := ledger.failures.setIfInBounds message (some error) }
  | _ => ledger

def report (ledger : Ledger) (ticket : Ticket) (outcome : Outcome) : Ledger :=
  { ledger with reports := ledger.reports.push (ticket, outcome) }

def outcome? (ledger : Ledger) (ticket : Ticket) : Option Outcome :=
  ledger.slots[ticket]?.bind Slot.outcome

/-- The recipient of a ticket that has no outcome yet. -/
def pending? (ledger : Ledger) (ticket : Ticket) : Option Recipient :=
  match ledger.slots[ticket]? with
  | some ⟨recipient, none⟩ => some recipient
  | _ => none

/-- What a recipient does as soon as it learns an outcome. -/
def inform (ledger : Ledger) (ticket : Ticket) (outcome : Outcome) : Recipient → Ledger
  | .listener | .relay _ => ledger.report ticket outcome
  | .fragment message =>
    match outcome with
    | .ok _ => ledger
    | .error error => ledger.recordFailure message error
  | .nobody | .future | .last _ _ => ledger

/-- Keeps a ticket's outcome and lets the recipient learn it. -/
def settle (ledger : Ledger) (ticket : Ticket) (recipient : Recipient) (outcome : Outcome) : Ledger :=
  { ledger with slots := ledger.slots.setIfInBounds ticket ⟨recipient, some outcome⟩ }.inform ticket outcome recipient

/-- The older ticket that an outcome is passed on to, and the outcome that this one gets: the first failure of the
message, if it has failed. -/
def passOn (ledger : Ledger) (outcome : Outcome) : Recipient → Option (Ticket × Outcome)
  | .last message target =>
    match ledger.failure message with
    | some error => some (target, .error error)
    | none => some (target, outcome)
  | .relay target => some (target, outcome)
  | _ => none

/-- Completes a ticket and those it leads to, at most `depth` of them. -/
def completeWithin : (depth : Nat) → Ledger → Ticket → Outcome → Ledger
  | 0, ledger, _, _ => ledger
  | depth + 1, ledger, ticket, outcome =>
    match ledger.pending? ticket with
    | none => ledger
    | some recipient =>
      let settled := ledger.settle ticket recipient outcome
      match settled.passOn outcome recipient with
      | some (target, outcome) => completeWithin depth settled target outcome
      | none => settled

/-- Completes a ticket: its first outcome is kept and passed on, a later one is ignored. An outcome travels to
older tickets only, so the ticket's number bounds the chain. -/
def complete (ledger : Ledger) (ticket : Ticket) (outcome : Outcome) : Ledger :=
  completeWithin (ticket + 1) ledger ticket outcome

def fail (ledger : Ledger) (ticket : Ticket) (error : SendError) : Ledger :=
  ledger.complete ticket (.error error)

def completeEach (ledger : Ledger) (completions : List (Ticket × Outcome)) : Ledger :=
  completions.foldl (fun ledger (ticket, outcome) => ledger.complete ticket outcome) ledger

/-- Whether nothing more will happen on completing the ticket. -/
def isCompleted (ledger : Ledger) (ticket : Ticket) : Bool :=
  match ledger.slots[ticket]? with
  | some slot => slot.recipient = .nobody || slot.outcome.isSome
  | none => true

def describe (ledger : Ledger) (ticket : Ticket) : String :=
  "Callback \x7b completed: " ++ toString (ledger.isCompleted ticket) ++ " \x7d"

/-- Whether completing the first ticket can lead to the second within `depth` steps. -/
def leadsWithin : (depth : Nat) → Ledger → Ticket → Ticket → Bool
  | 0, _, _, _ => false
  | depth + 1, ledger, ticket, goal =>
    ticket == goal ||
      match ledger.slots[ticket]? with
      | some ⟨recipient, none⟩ =>
        match recipient.next? with
        | some next => leadsWithin depth ledger next goal
        | none => false
      | _ => false

/-- Whether a ticket can still be completed through one of those that someone holds. -/
def isHeld (ledger : Ledger) (held : List Ticket) (ticket : Ticket) : Bool :=
  held.any fun holder => leadsWithin (holder + 1) ledger holder ticket

/-- What a future shows while the tickets in `held` are the ones someone holds: the outcome once there is one;
nothing as long as one may come; and otherwise that the connection is closed. -/
def poll (ledger : Ledger) (held : List Ticket) (ticket : Ticket) : Option Outcome :=
  match ledger.outcome? ticket with
  | some outcome => some outcome
  | none => if ledger.isHeld held ticket then none else some (.error .closed)

end Ledger
end Egress
