import Egress.Proofs.LawfulCarrier
import Egress.Proofs.WireLaw

/-!
Traffic between a sender and its writer. What the worker of the writer completes, it completes in the sender's ledger.
A scheduled writer is a carrier whose worker makes steps before and after every call, as many as a schedule says; every
way in which the calls of a sender and the steps of a worker can alternate is that of some schedule.
-/
namespace Egress

namespace History

/-- The histories of writers that were started over an honest transport that had not been used. -/
inductive Arises : (Nat → Option MaskKey) → History → Prop where
  | start {settings : WriterSettings} {keys : Nat → MaskKey} {transport : Transport} {writer : Writer}
      (begun : Writer.start? settings keys transport = some writer) (honest : transport.Honest)
      (unused : transport.Unused) : Arises (settings.keyFor keys) (start writer)
  | after {key : Nat → Option MaskKey} {history : History} (before : Arises key history) (event : WriterEvent) :
      Arises key (history.after event)

variable {key : Nat → Option MaskKey} {history : History}

theorem Arises.sound (arises : history.Arises key) : history.Sound key := by
  induction arises with
  | start begun honest unused => exact sound_start begun honest unused
  | after _ event ih => exact ih.after event

/-- A command is taken on or refused; nothing is completed and no handle is lost by sending it. -/
theorem submit_cases (history : History) (command : Command) :
    (history.submit command).2.completed = history.completed ∧
    (history.submit command).2.writer.handles = history.writer.handles ∧
    ((history.submit command).1 = .ok () ∧ (history.submit command).2.accepted = history.accepted ++ [command] ∨
      (∃ error, (history.submit command).1 = .error error) ∧ (history.submit command).2.accepted = history.accepted) := by
  unfold submit
  rcases history.writer.enqueue_cases command with ⟨_, taken⟩ | ⟨error, refused⟩
  · rw [taken]
    exact ⟨rfl, rfl, .inl ⟨rfl, rfl⟩⟩
  · rw [refused]
    exact ⟨rfl, rfl, .inr ⟨⟨error, rfl⟩, rfl⟩⟩

/-- The tickets at hand came with commands that were accepted. -/
theorem Sound.accepted_of_held (sound : history.Sound key) {ticket : Ticket} (held : ticket ∈ history.writer.tickets) :
    ∃ command ∈ history.accepted, command.ticket = ticket := by
  have all : ticket ∈ history.accepted.map Command.ticket := by
    rw [← sound.tickets]
    exact List.mem_append_right _ held
  exact List.mem_map.mp all

/-- Whatever happens, at most a command is taken on, and some tickets are completed. -/
theorem after_cases (history : History) (event : WriterEvent) :
    ∃ sent completions, (∀ command ∈ sent, event = .command command) ∧
      (history.after event).accepted = history.accepted ++ sent ∧
      (history.after event).completed = history.completed ++ completions := by
  have nothing : ∀ after : History, after.accepted = history.accepted → after.completed = history.completed →
      ∃ sent completions, (∀ command ∈ sent, event = .command command) ∧
        after.accepted = history.accepted ++ sent ∧ after.completed = history.completed ++ completions :=
    fun after accepted completed => ⟨[], [], nofun, by simp [accepted], by simp [completed]⟩
  cases event with
  | command command =>
    by_cases alone : history.writer.handles = 0
    · exact nothing _ (by simp [after, alone]) (by simp [after, alone])
    · obtain ⟨completed, _, ⟨_, accepted⟩ | ⟨_, accepted⟩⟩ := history.submit_cases command
      · exact ⟨[command], [], by simp, by simp [after, alone, accepted], by simp [after, alone, completed]⟩
      · exact nothing _ (by simp [after, alone, accepted]) (by simp [after, alone, completed])
  | cloneHandle =>
    by_cases alone : history.writer.handles = 0
    · exact nothing _ (by simp [after, alone]) (by simp [after, alone])
    · exact nothing _ (by simp [after, alone]) (by simp [after, alone])
  | dropHandle | setIdleTimeout span => exact nothing _ rfl rfl
  | step =>
    simp only [after, work]
    split
    · exact ⟨[], _, nofun, by simp, rfl⟩
    · exact nothing _ rfl rfl

/-- A step of the worker leaves the handles as they are. -/
theorem Sound.handles_step (sound : history.Sound key) : (history.after .step).writer.handles = history.writer.handles := by
  show history.work.writer.handles = _
  unfold History.work
  split
  case h_1 completions after step =>
    obtain ⟨gone, _, standing⟩ := sound.standing
    exact (Writer.step_spec sound.keys sound.honest sound.told standing step).handles
  case h_2 => rfl

end History

structure Traffic where
  history : History
  ledger : Ledger

inductive TrafficEvent where
  | writer (event : WriterEvent)
  | ledger (deed : Ledger.Deed)

/-- The event has nothing to do with some tickets, unless it is a step of the worker. -/
def TrafficEvent.Foreign (own : Ticket → Prop) : TrafficEvent → Prop
  | .writer (.command command) => ¬ own command.ticket
  | .writer _ => True
  | .ledger deed => ∀ ticket, own ticket → deed.Spares ticket

open Ledger (Deed Evolves)

namespace Traffic

/-- The traffic after an event. What the worker completes is completed in the ledger. -/
def after (traffic : Traffic) : TrafficEvent → Traffic
  | .writer event =>
    let history := traffic.history.after event
    ⟨history, traffic.ledger.completeEach (history.completed.drop traffic.history.completed.length)⟩
  | .ledger deed => { traffic with ledger := traffic.ledger.after deed }

def afterAll (traffic : Traffic) (events : List TrafficEvent) : Traffic := events.foldl after traffic

def run : (steps : Nat) → Traffic → Traffic
  | 0, traffic => traffic
  | steps + 1, traffic => run steps (traffic.after (.writer .step))

/-- From one moment to another the writer has taken some commands on, and what it has completed, it has completed in
the ledger. -/
structure Carries (sent : List Command) (before after : Traffic) : Prop where
  accepted : after.history.accepted = before.history.accepted ++ sent
  completed : ∃ completions, after.history.completed = before.history.completed ++ completions ∧
    after.ledger = before.ledger.completeEach completions

theorem Carries.refl (traffic : Traffic) : Carries [] traffic traffic := ⟨by simp, [], by simp, rfl⟩

theorem Carries.trans {sent more : List Command} {first second third : Traffic} (left : Carries sent first second)
    (right : Carries more second third) : Carries (sent ++ more) first third := by
  obtain ⟨front, before, fronts⟩ := left.completed
  obtain ⟨back, after, backs⟩ := right.completed
  refine ⟨by simp [left.accepted, right.accepted], front ++ back, by simp [before, after], ?_⟩
  simp [fronts, backs, Ledger.completeEach]

theorem carries_after (traffic : Traffic) (event : WriterEvent) :
    ∃ sent, (∀ command ∈ sent, event = .command command) ∧ Carries sent traffic (traffic.after (.writer event)) := by
  obtain ⟨sent, completions, only, accepted, completed⟩ := traffic.history.after_cases event
  refine ⟨sent, only, accepted, completions, completed, ?_⟩
  simp [after, completed]

theorem carries_run (steps : Nat) (traffic : Traffic) : Carries [] traffic (run steps traffic) := by
  induction steps generalizing traffic with
  | zero => exact .refl traffic
  | succ steps ih =>
    obtain ⟨sent, only, carries⟩ := traffic.carries_after .step
    have none : sent = [] := List.eq_nil_iff_forall_not_mem.mpr fun command member => nomatch only command member
    subst none
    exact carries.trans (ih _)

theorem run_history (steps : Nat) (traffic : Traffic) {key : Nat → Option MaskKey}
    (arises : traffic.history.Arises key) :
    (run steps traffic).history.Arises key ∧ (run steps traffic).history.writer.handles = traffic.history.writer.handles := by
  induction steps generalizing traffic with
  | zero => exact ⟨arises, rfl⟩
  | succ steps ih =>
    obtain ⟨later, handles⟩ := ih (traffic.after (.writer .step)) (arises.after .step)
    exact ⟨later, handles.trans arises.sound.handles_step⟩

/-- The tickets that were completed, and those at hand, were at hand before or have come with a command. -/
theorem Carries.completes {sent : List Command} {before after : Traffic} {key : Nat → Option MaskKey}
    (carries : Carries sent before after) (earlier : before.history.Sound key) (later : after.history.Sound key) :
    ∃ completions, after.history.completed = before.history.completed ++ completions ∧
      after.ledger = before.ledger.completeEach completions ∧
      completions.map Prod.fst ++ after.history.writer.tickets
        = before.history.writer.tickets ++ sent.map Command.ticket := by
  obtain ⟨completions, completed, ledger⟩ := carries.completed
  refine ⟨completions, completed, ledger, ?_⟩
  have all := later.tickets
  rw [completed, carries.accepted, List.map_append, List.map_append, ← earlier.tickets] at all
  simpa using all

/-- What the writer does to the ledger is permitted if its completions are. -/
theorem Carries.evolves {sent : List Command} {before after : Traffic} {key : Nat → Option MaskKey} {May : Deed → Prop}
    (carries : Carries sent before after) (earlier : before.history.Sound key) (later : after.history.Sound key)
    (may : ∀ completion ∈ after.history.completed,
      completion.1 ∈ before.history.writer.tickets ++ sent.map Command.ticket → May (.complete completion.1 completion.2)) :
    Evolves May before.ledger after.ledger := by
  obtain ⟨completions, completed, same, tickets⟩ := carries.completes earlier later
  rw [same]
  refine .completeEach _ completions fun completion member => may completion ?_ ?_
  · rw [completed]
    exact List.mem_append_right _ member
  · rw [← tickets]
    exact List.mem_append_left _ (List.mem_map_of_mem member)

/-! ## Foreign events -/

variable {own : Ticket → Prop} {event : TrafficEvent} {traffic : Traffic} {key : Nat → Option MaskKey}

theorem accepted_after (traffic : Traffic) (foreign : event.Foreign own) :
    ∃ more, (traffic.after event).history.accepted = traffic.history.accepted ++ more ∧
      ∀ command ∈ more, ¬ own command.ticket := by
  cases event with
  | ledger deed => exact ⟨[], (List.append_nil _).symm, nofun⟩
  | writer event =>
    obtain ⟨sent, only, carries⟩ := traffic.carries_after event
    refine ⟨sent, carries.accepted, ?_⟩
    intro command member
    cases only command member
    exact foreign

theorem completed_after (traffic : Traffic) (event : TrafficEvent) :
    traffic.history.completed <+: (traffic.after event).history.completed := by
  cases event with
  | ledger deed => exact List.prefix_refl _
  | writer event =>
    obtain ⟨sent, completions, _, _, completed⟩ := traffic.history.after_cases event
    exact ⟨completions, completed.symm⟩

/-- The writer does not hold a ticket. -/
structure Apart (key : Nat → Option MaskKey) (ticket : Ticket) (traffic : Traffic) : Prop where
  arises : traffic.history.Arises key
  held : ∀ other ∈ traffic.history.writer.tickets, other ≠ ticket

variable {ticket : Ticket}

/-- The writer does not come by the ticket, and does not complete it. -/
theorem Apart.writer (apart : traffic.Apart key ticket) {event : WriterEvent}
    (foreign : (TrafficEvent.writer event).Foreign own) (mine : own ticket) :
    (traffic.after (.writer event)).Apart key ticket ∧
      Evolves (fun deed => ∃ completion ∈ (traffic.after (.writer event)).history.completed,
        completion.1 ≠ ticket ∧ deed = .complete completion.1 completion.2)
        traffic.ledger (traffic.after (.writer event)).ledger := by
  have later := apart.arises.after event
  obtain ⟨sent, only, carries⟩ := traffic.carries_after event
  have all : ∀ other ∈ traffic.history.writer.tickets ++ sent.map Command.ticket, other ≠ ticket := by
    rintro other member rfl
    rcases List.mem_append.mp member with held | came
    · exact apart.held other held rfl
    · obtain ⟨command, new, same⟩ := List.mem_map.mp came
      cases only command new
      exact foreign (same ▸ mine)
  constructor
  · obtain ⟨completions, _, _, tickets⟩ := carries.completes apart.arises.sound later.sound
    refine ⟨later, fun other member => all other ?_⟩
    rw [← tickets]
    exact List.mem_append_right _ member
  · exact carries.evolves apart.arises.sound later.sound
      fun completion member known => ⟨completion, member, all _ known, rfl⟩

theorem Apart.after (apart : traffic.Apart key ticket) (foreign : event.Foreign own) (mine : own ticket) :
    (traffic.after event).Apart key ticket := by
  cases event with
  | ledger deed => exact ⟨apart.arises, apart.held⟩
  | writer event => exact (apart.writer foreign mine).1

theorem Apart.afterAll {events : List TrafficEvent} (foreign : ∀ event ∈ events, event.Foreign own) (mine : own ticket)
    (apart : traffic.Apart key ticket) : (traffic.afterAll events).Apart key ticket := by
  induction events generalizing traffic with
  | nil => exact apart
  | cons event events ih =>
    exact ih (fun later member => foreign later (List.mem_cons_of_mem _ member))
      (apart.after (foreign event List.mem_cons_self) mine)

/-- What completions of other tickets keep, and deeds that spare the tickets, a foreign event keeps. -/
theorem Apart.ledger_after {Inv : Ledger → Prop} (apart : traffic.Apart key ticket) (foreign : event.Foreign own)
    (mine : own ticket)
    (complete : ∀ ledger, ∀ completion ∈ (traffic.after event).history.completed, completion.1 ≠ ticket → Inv ledger →
      Inv (ledger.complete completion.1 completion.2))
    (deed : ∀ ledger (deed : Deed), (∀ other, own other → deed.Spares other) → Inv ledger → Inv (ledger.after deed))
    (holds : Inv traffic.ledger) : Inv (traffic.after event).ledger := by
  cases event with
  | ledger done => exact deed _ done foreign holds
  | writer event =>
    refine (apart.writer foreign mine).2.keeps Inv ?_ holds
    rintro ledger deed holds _ ⟨completion, member, ne, rfl⟩
    exact complete ledger completion member ne holds

/-- A ticket whose message has failed does not succeed later. -/
theorem Apart.doomed_afterAll {message : MessageId} {events : List TrafficEvent}
    (foreign : ∀ event ∈ events, event.Foreign own) (mine : own ticket) (apart : traffic.Apart key ticket)
    (doomed : traffic.ledger.Doomed message ticket) : (traffic.afterAll events).ledger.Doomed message ticket := by
  induction events generalizing traffic with
  | nil => exact doomed
  | cons event events ih =>
    have first := foreign event List.mem_cons_self
    refine ih (fun later member => foreign later (List.mem_cons_of_mem _ member)) (apart.after first mine) ?_
    refine apart.ledger_after first mine ?_ ?_ doomed
    · intro ledger completion _ ne doomed
      have denies : (Deed.complete completion.1 completion.2).Denies message ticket := fun same => absurd same ne
      exact doomed.after denies
    · exact fun ledger deed spares doomed => doomed.after (Ledger.Deed.denies_of_spares (spares ticket mine))

/-- A ticket that only a last frame leads to succeeds only when the writer has completed this frame with success. -/
theorem Apart.backed_afterAll {last : Ticket} {events : List TrafficEvent}
    (foreign : ∀ event ∈ events, event.Foreign own) (mine : own ticket) (ends : own last)
    (apart : traffic.Apart key ticket)
    (backed : traffic.ledger.Backed ((last, .ok ()) ∈ traffic.history.completed) last ticket) :
    (traffic.afterAll events).ledger.Backed ((last, .ok ()) ∈ (traffic.afterAll events).history.completed) last ticket := by
  induction events generalizing traffic with
  | nil => exact backed
  | cons event events ih =>
    have first := foreign event List.mem_cons_self
    refine ih (fun later member => foreign later (List.mem_cons_of_mem _ member)) (apart.after first mine) ?_
    let success := (last, .ok ()) ∈ (traffic.after event).history.completed
    have more : traffic.ledger.Backed success last ticket := backed.mono fun known => (traffic.completed_after event).subset known
    refine apart.ledger_after first mine ?_ ?_ more
    · intro ledger completion member ne backed
      have backs : (Deed.complete completion.1 completion.2).Backs success last ticket := by
        rintro (same | same) ok
        · have whole : completion = (last, .ok ()) := Prod.ext same ok
          rwa [whole] at member
        · exact absurd same ne
      exact backed.after backs
    · exact fun ledger deed spares backed =>
        backed.after (Ledger.Deed.backs_of_spares (spares ticket mine) (spares last ends))

/-- What was accepted stays, and what comes is not about the tickets. -/
theorem accepted_afterAll (traffic : Traffic) {events : List TrafficEvent} (foreign : ∀ event ∈ events, event.Foreign own) :
    ∃ more, (traffic.afterAll events).history.accepted = traffic.history.accepted ++ more ∧
      ∀ command ∈ more, ¬ own command.ticket := by
  induction events generalizing traffic with
  | nil => exact ⟨[], (List.append_nil _).symm, nofun⟩
  | cons event events ih =>
    obtain ⟨front, first, fronts⟩ := traffic.accepted_after (foreign event List.mem_cons_self)
    have rest : ∃ more, ((traffic.after event).afterAll events).history.accepted
        = (traffic.after event).history.accepted ++ more ∧ ∀ command ∈ more, ¬ own command.ticket :=
      ih _ fun later member => foreign later (List.mem_cons_of_mem _ member)
    obtain ⟨back, last, backs⟩ := rest
    refine ⟨front ++ back, ?_, ?_⟩
    · rw [← List.append_assoc, ← first]
      exact last
    · intro command member
      rcases List.mem_append.mp member with member | member
      · exact fronts command member
      · exact backs command member

end Traffic

/-- A writer with its past and at least one handle, and the schedule of its worker: how many steps come next, each
time that the worker has its turn. -/
structure Scheduled (key : Nat → Option MaskKey) where
  history : History
  arises : history.Arises key
  held : history.writer.handles ≠ 0
  schedule : List Nat

namespace Scheduled

variable {key : Nat → Option MaskKey}

def turn (scheduled : Scheduled key) (ledger : Ledger) : Scheduled key × Ledger :=
  match scheduled.schedule with
  | [] => (scheduled, ledger)
  | steps :: schedule =>
    let traffic := Traffic.run steps ⟨scheduled.history, ledger⟩
    have kept := Traffic.run_history steps ⟨scheduled.history, ledger⟩ scheduled.arises
    (⟨traffic.history, kept.1, kept.2 ▸ scheduled.held, schedule⟩, traffic.ledger)

def submitted (scheduled : Scheduled key) (command : Command) : Scheduled key where
  history := (scheduled.history.submit command).2
  arises := by
    have sent := scheduled.arises.after (.command command)
    rwa [History.after, if_neg scheduled.held] at sent
  held := by
    rw [(scheduled.history.submit_cases command).2.1]
    exact scheduled.held
  schedule := scheduled.schedule

/-- Sends a command. The worker has its turn before and after that. -/
def send (scheduled : Scheduled key) (ledger : Ledger) (command : Command) : Outcome × Scheduled key × Ledger :=
  match scheduled.turn ledger with
  | (scheduled, ledger) =>
    ((scheduled.history.submit command).1, (scheduled.submitted command).turn ledger)

instance : Carrier (Scheduled key) where
  sendFrame scheduled ledger frame ticket mode := scheduled.send ledger (.frame frame ticket mode)
  flush scheduled ledger ticket := scheduled.send ledger (.flush ticket)
  idleTimeout scheduled := scheduled.history.writer.idleTimeout
  setIdleTimeout scheduled span :=
    { scheduled with
      history := scheduled.history.after (.setIdleTimeout span)
      arises := scheduled.arises.after _ }
  held scheduled := scheduled.history.writer.tickets
  work := turn

theorem carries_turn (scheduled : Scheduled key) (ledger : Ledger) :
    Traffic.Carries [] ⟨scheduled.history, ledger⟩ ⟨(scheduled.turn ledger).1.history, (scheduled.turn ledger).2⟩ := by
  unfold turn
  split
  · exact .refl _
  · exact Traffic.carries_run _ _

/-- A command that is sent is taken on or refused. -/
theorem carries_send (scheduled : Scheduled key) (ledger : Ledger) (command : Command) :
    ∃ sent, Traffic.Carries sent ⟨scheduled.history, ledger⟩
        ⟨(scheduled.send ledger command).2.1.history, (scheduled.send ledger command).2.2⟩ ∧
      ((scheduled.send ledger command).1 = .ok () ∧ sent = [command] ∨
        (∃ error, (scheduled.send ledger command).1 = .error error) ∧ sent = []) := by
  have before := scheduled.carries_turn ledger
  unfold send
  revert before
  rcases scheduled.turn ledger with ⟨turned, between⟩
  intro before
  have after := (turned.submitted command).carries_turn between
  obtain ⟨completed, _, verdict⟩ := turned.history.submit_cases command
  have carries : ∀ sent, (turned.history.submit command).2.accepted = turned.history.accepted ++ sent →
      Traffic.Carries sent ⟨scheduled.history, ledger⟩
        ⟨((turned.submitted command).turn between).1.history, ((turned.submitted command).turn between).2⟩ := by
    intro sent accepted
    have here : Traffic.Carries sent ⟨turned.history, between⟩ ⟨(turned.submitted command).history, between⟩ :=
      ⟨accepted, [], completed.trans (List.append_nil _).symm, rfl⟩
    simpa using (before.trans here).trans after
  rcases verdict with ⟨taken, accepted⟩ | ⟨refused, accepted⟩
  · exact ⟨[command], carries _ accepted, .inl ⟨taken, rfl⟩⟩
  · exact ⟨[], carries _ (by simpa using accepted), .inr ⟨refused, rfl⟩⟩

theorem minds_of_carries {before after : Scheduled key} {ledger later : Ledger} {sent : List Command} {own : Ticket → Prop}
    (carries : Traffic.Carries sent ⟨before.history, ledger⟩ ⟨after.history, later⟩)
    (held : ∀ ticket ∈ before.history.writer.tickets, own ticket) (came : ∀ command ∈ sent, own command.ticket) :
    Carrier.Minds own ledger after later := by
  obtain ⟨completions, _, same, tickets⟩ := carries.completes before.arises.sound after.arises.sound
  have all : ∀ ticket ∈ completions.map Prod.fst ++ after.history.writer.tickets, own ticket := by
    rw [tickets]
    intro ticket member
    rcases List.mem_append.mp member with member | member
    · exact held ticket member
    · obtain ⟨command, sent, rfl⟩ := List.mem_map.mp member
      exact came command sent
  refine ⟨⟨completions, same, ?_⟩, fun ticket member => all ticket (List.mem_append_right _ member)⟩
  intro completion member
  exact all completion.1 (List.mem_append_left _ (List.mem_map_of_mem member))

instance : LawfulCarrier (Scheduled key) where
  sendFrame scheduled ledger frame ticket mode := by
    obtain ⟨sent, carries, ⟨_, rfl⟩ | ⟨_, rfl⟩⟩ := scheduled.carries_send ledger (.frame frame ticket mode)
    · refine minds_of_carries carries (fun _ member => .inr member) ?_
      intro command member
      cases List.mem_singleton.mp member
      exact .inl rfl
    · exact minds_of_carries carries (fun _ member => .inr member) nofun
  work scheduled ledger := minds_of_carries (scheduled.carries_turn ledger) (fun _ member => member) nofun

end Scheduled
end Egress
