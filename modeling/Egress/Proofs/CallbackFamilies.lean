import Egress.Handles
import Egress.Proofs.InTurn
import Mathlib.Logic.Relation

/-!
Families of callbacks. Handles are made, copied, completed and dropped in any order, and a closure may own a handle of its own
and complete it when it runs. All that the application can see follows from the calls of `complete` in their order, those that
closures make included: the first call on a callback counts, and a future waits as long as a first call can still come.
-/
namespace Egress

namespace Handles

/-- Does what is asked for, if every name that is needed stands for something. -/
def after (handles : Handles) (action : HandleAction) : Handles := (handles.perform? action).getD handles

def afterAll (handles : Handles) (actions : List HandleAction) : Handles := actions.foldl after handles

end Handles

/-- An account of some callbacks: what each was made as, which handles and futures there are, and the calls of `complete`. -/
structure Callbacks where
  made : List Recipient
  handles : Names Ticket
  futures : Names Ticket
  /-- Every call, also one that comes late, in order. -/
  calls : List (Ticket × Outcome)

namespace Callbacks

def empty : Callbacks := ⟨[], [], [], []⟩

/-- The outcome of the first call on a callback. -/
def first? (callbacks : Callbacks) (ticket : Ticket) : Option Outcome :=
  (callbacks.calls.find? (·.1 = ticket)).map Prod.snd

/-- Makes a callback, and its future if it has one. -/
def make (callbacks : Callbacks) (name : String) (recipient : Recipient) : Callbacks :=
  { callbacks with
    made := callbacks.made ++ [recipient]
    handles := callbacks.handles.give name callbacks.made.length
    futures :=
      if recipient = .future then callbacks.futures.give name callbacks.made.length else callbacks.futures }

def call (callbacks : Callbacks) (ticket : Ticket) (outcome : Outcome) : Callbacks :=
  { callbacks with calls := callbacks.calls ++ [(ticket, outcome)] }

/-- Completes a callback. At the first call its closure runs, which may complete a callback made before. -/
def complete (callbacks : Callbacks) (ticket : Ticket) (outcome : Outcome) : Callbacks :=
  match callbacks.first? ticket, callbacks.made[ticket]? with
  | none, some (.relay target) =>
    if target < ticket then (callbacks.call ticket outcome).complete target outcome else callbacks.call ticket outcome
  | _, _ => callbacks.call ticket outcome
termination_by ticket

def after (callbacks : Callbacks) : HandleAction → Callbacks
  | .listener name => callbacks.make name .listener
  | .nobody name => callbacks.make name .nobody
  | .future name => callbacks.make name .future
  | .relay name target =>
    match callbacks.handles.find target with
    | some ticket => callbacks.make name (.relay ticket)
    | none => callbacks
  | .clone name source =>
    match callbacks.handles.find source with
    | some ticket => { callbacks with handles := callbacks.handles.give name ticket }
    | none => callbacks
  | .complete name outcome =>
    match callbacks.handles.find name with
    | some ticket => callbacks.complete ticket outcome
    | none => callbacks
  | .drop name => { callbacks with handles := callbacks.handles.drop name }
  | .dropFuture name => { callbacks with futures := callbacks.futures.drop name }

def afterAll (callbacks : Callbacks) (actions : List HandleAction) : Callbacks := actions.foldl after callbacks

/-- A closure that has not run owns a handle of the second callback. -/
def Owns (callbacks : Callbacks) (ticket target : Ticket) : Prop :=
  callbacks.made[ticket]? = some (.relay target) ∧ callbacks.first? ticket = none

/-- A handle stands for the callback, or for one whose closure has not run and owns it, perhaps through others. -/
def Held (callbacks : Callbacks) (ticket : Ticket) : Prop :=
  ∃ entry ∈ callbacks.handles, Relation.ReflTransGen callbacks.Owns entry.2 ticket

end Callbacks

namespace Names

variable {α : Type} {names : Names α} {name : String} {a : α}

theorem mem_of_find (found : names.find name = some a) : (name, a) ∈ names := by
  obtain ⟨front, back, rfl, _⟩ := List.lookup_eq_some_iff.mp found
  exact List.mem_append_right _ List.mem_cons_self

theorem mem_of_mem_drop {entry : String × α} (member : entry ∈ names.drop name) : entry ∈ names :=
  (List.mem_filter.mp member).1

theorem mem_of_mem_give {entry : String × α} (member : entry ∈ names.give name a) : entry.2 = a ∨ entry ∈ names := by
  rcases List.mem_cons.mp member with rfl | old
  · exact .inl rfl
  · exact .inr (mem_of_mem_drop old)

end Names

namespace Ledger

variable {ledger : Ledger}

/-- An outcome of the first ticket would be passed on to the second at once. -/
def Passes (ledger : Ledger) (ticket target : Ticket) : Prop :=
  ∃ recipient, ledger.slots[ticket]? = some ⟨recipient, none⟩ ∧ recipient.next? = some target

/-- The search along a chain finds what it leads to, since tickets get older on the way. -/
theorem leadsWithin_iff (told : ledger.Told) {depth : Nat} {ticket goal : Ticket} (deep : ticket < depth) :
    leadsWithin depth ledger ticket goal = true ↔ Relation.ReflTransGen ledger.Passes ticket goal := by
  induction depth generalizing ticket with
  | zero => exact absurd deep (Nat.not_lt_zero ticket)
  | succ depth ih =>
    rw [Relation.ReflTransGen.cases_head_iff, leadsWithin, Bool.or_eq_true, beq_iff_eq]
    refine or_congr_right ?_
    constructor
    · intro leads
      split at leads
      case h_1 recipient slot =>
        split at leads
        case h_1 next same =>
          have older : next < ticket := told.older ticket _ next slot same
          exact ⟨next, ⟨recipient, slot, same⟩, (ih (Nat.lt_of_lt_of_le older (Nat.le_of_lt_succ deep))).mp leads⟩
        case h_2 => cases leads
      case h_2 => cases leads
    · rintro ⟨next, ⟨recipient, slot, same⟩, rest⟩
      have older : next < ticket := told.older ticket _ next slot same
      rw [slot]
      dsimp only
      rw [same]
      exact (ih (Nat.lt_of_lt_of_le older (Nat.le_of_lt_succ deep))).mpr rest

theorem isHeld_iff (told : ledger.Told) (held : List Ticket) (ticket : Ticket) :
    ledger.isHeld held ticket = true ↔ ∃ holder ∈ held, Relation.ReflTransGen ledger.Passes holder ticket := by
  unfold isHeld
  rw [List.any_eq_true]
  refine exists_congr fun holder => and_congr_right fun _ => ?_
  exact leadsWithin_iff told (Nat.lt_succ_self holder)

end Ledger

namespace Callbacks

variable {callbacks : Callbacks} {ledger : Ledger} {ticket other : Ticket} {outcome : Outcome}

/-! ## Calls -/

theorem first?_call (callbacks : Callbacks) (ticket other : Ticket) (outcome : Outcome) :
    (callbacks.call ticket outcome).first? other =
      (callbacks.first? other).or (if ticket = other then some outcome else none) := by
  unfold first? call
  rw [List.find?_append, Option.map_or]
  by_cases same : ticket = other <;> simp [same]

theorem first?_call_of_known {kept : Outcome} (known : callbacks.first? ticket = some kept) (other : Ticket) :
    (callbacks.call ticket outcome).first? other = callbacks.first? other := by
  rw [first?_call]
  by_cases same : ticket = other
  · subst same
    rw [known, Option.some_or]
  · rw [if_neg same, Option.or_none]

theorem complete_of_known {kept : Outcome} (known : callbacks.first? ticket = some kept) :
    callbacks.complete ticket outcome = callbacks.call ticket outcome := by
  rw [complete, known]

theorem complete_of_relay {target : Ticket} (fresh : callbacks.first? ticket = none)
    (relays : callbacks.made[ticket]? = some (.relay target)) (older : target < ticket) :
    callbacks.complete ticket outcome = (callbacks.call ticket outcome).complete target outcome := by
  rw [complete, fresh, relays]
  dsimp only
  rw [if_pos older]

theorem complete_of_next?_eq_none {recipient : Recipient} (made : callbacks.made[ticket]? = some recipient)
    (ends : recipient.next? = none) : callbacks.complete ticket outcome = callbacks.call ticket outcome := by
  rw [complete, made]
  cases callbacks.first? ticket with
  | some kept => rfl
  | none => cases recipient with
    | relay target => cases ends
    | _ => rfl

/-! ## What a ledger records -/

/-- A ledger has an entry for each callback, with the outcome of its first call. -/
structure Recorded (callbacks : Callbacks) (ledger : Ledger) : Prop where
  told : ledger.Told
  slots : ∀ ticket, ledger.slots[ticket]? = callbacks.made[ticket]?.map (Slot.mk · (callbacks.first? ticket))
  size : ledger.slots.size = callbacks.made.length
  plain : ∀ recipient ∈ callbacks.made, recipient.message? = none
  called : ∀ call ∈ callbacks.calls, call.1 < callbacks.made.length

theorem Recorded.pending? (recorded : callbacks.Recorded ledger) {recipient : Recipient} :
    ledger.pending? ticket = some recipient ↔ callbacks.made[ticket]? = some recipient ∧ callbacks.first? ticket = none := by
  rw [Ledger.pending?_eq_some, recorded.slots, Option.map_eq_some_iff]
  constructor
  · rintro ⟨maker, made, same⟩
    obtain ⟨rfl, fresh⟩ := Slot.mk.inj same
    exact ⟨made, fresh⟩
  · rintro ⟨made, fresh⟩
    exact ⟨recipient, made, by rw [fresh]⟩

theorem Recorded.outcome? (recorded : callbacks.Recorded ledger) (inside : ticket < callbacks.made.length) :
    ledger.outcome? ticket = callbacks.first? ticket := by
  unfold Ledger.outcome?
  rw [recorded.slots, List.getElem?_eq_getElem inside]
  rfl

/-- A late call changes nothing that is recorded. -/
theorem Recorded.call_of_known (recorded : callbacks.Recorded ledger) (inside : ticket < callbacks.made.length)
    {kept : Outcome} (known : callbacks.first? ticket = some kept) :
    (callbacks.call ticket outcome).Recorded ledger := by
  refine ⟨recorded.told, fun other => ?_, recorded.size, recorded.plain, ?_⟩
  · rw [first?_call_of_known known]
    exact recorded.slots other
  · intro call member
    rcases List.mem_append.mp member with early | late
    · exact recorded.called call early
    · cases List.mem_singleton.mp late
      exact inside

/-- The first call settles the ticket. -/
theorem Recorded.call_of_fresh (recorded : callbacks.Recorded ledger) {recipient : Recipient}
    (made : callbacks.made[ticket]? = some recipient) (fresh : callbacks.first? ticket = none) :
    (callbacks.call ticket outcome).Recorded (ledger.settle ticket recipient outcome) := by
  have pending : ledger.pending? ticket = some recipient := recorded.pending?.mpr ⟨made, fresh⟩
  refine ⟨recorded.told.settle pending, fun other => ?_, ?_, recorded.plain, ?_⟩
  · rw [first?_call]
    by_cases same : other = ticket
    · subst same
      rw [Ledger.slot_settle_self pending, fresh, if_pos rfl, Option.none_or]
      show _ = callbacks.made[other]?.map _
      rw [made]
      rfl
    · rw [Ledger.slot_settle_of_ne same, if_neg (Ne.symm same), Option.or_none]
      exact recorded.slots other
  · rw [Ledger.slots_settle, Array.size_setIfInBounds]
    exact recorded.size
  · intro call member
    rcases List.mem_append.mp member with early | late
    · exact recorded.called call early
    · cases List.mem_singleton.mp late
      exact (List.getElem?_eq_some_iff.mp made).1

/-- The ledger completes the same chain of callbacks that closures complete. -/
theorem Recorded.completeWithin {depth : Nat} (recorded : callbacks.Recorded ledger) (inside : ticket < callbacks.made.length)
    (deep : ticket < depth) :
    (callbacks.complete ticket outcome).Recorded (Ledger.completeWithin depth ledger ticket outcome) := by
  induction depth generalizing callbacks ledger ticket with
  | zero => exact absurd deep (Nat.not_lt_zero ticket)
  | succ depth ih =>
    have made : callbacks.made[ticket]? = some callbacks.made[ticket] := List.getElem?_eq_getElem inside
    generalize callbacks.made[ticket] = recipient at made
    have plain : recipient.message? = none := recorded.plain recipient (List.mem_of_getElem? made)
    unfold Ledger.completeWithin
    cases known : callbacks.first? ticket with
    | some kept =>
      have done : ledger.pending? ticket = none := by
        refine Option.eq_none_iff_forall_ne_some.mpr fun recipient pending => ?_
        rw [(recorded.pending?.mp pending).2] at known
        cases known
      rw [done, complete_of_known known]
      exact recorded.call_of_known inside known
    | none =>
      have settled : (callbacks.call ticket outcome).Recorded (ledger.settle ticket recipient outcome) :=
        recorded.call_of_fresh made known
      have pending : ledger.pending? ticket = some recipient := recorded.pending?.mpr ⟨made, known⟩
      rw [pending]
      cases recipient with
      | relay target =>
        have older : target < ticket :=
          recorded.told.older ticket _ target (Ledger.pending?_eq_some.mp pending) rfl
        rw [complete_of_relay known made older]
        exact ih settled (Nat.lt_trans older inside) (Nat.lt_of_lt_of_le older (Nat.le_of_lt_succ deep))
      | fragment message => cases plain
      | last message target => cases plain
      | nobody | listener | future =>
        rw [complete_of_next?_eq_none made rfl]
        exact settled

theorem made_complete (callbacks : Callbacks) (ticket : Ticket) (outcome : Outcome) :
    (callbacks.complete ticket outcome).made = callbacks.made ∧
      (callbacks.complete ticket outcome).handles = callbacks.handles ∧
      (callbacks.complete ticket outcome).futures = callbacks.futures := by
  fun_induction complete callbacks ticket outcome with
  | case1 callbacks ticket target older _ _ ih => exact ih
  | case2 => exact ⟨rfl, rfl, rfl⟩
  | case3 => exact ⟨rfl, rfl, rfl⟩

/-- A callback that is made has had no calls. -/
theorem Recorded.make (recorded : callbacks.Recorded ledger) (name : String) {recipient : Recipient}
    (plain : recipient.message? = none) (told : (ledger.issue recipient).2.Told) :
    (callbacks.make name recipient).Recorded (ledger.issue recipient).2 := by
  have fresh : callbacks.first? callbacks.made.length = none := by
    unfold first?
    rw [Option.map_eq_none_iff, List.find?_eq_none]
    intro call member same
    exact Nat.ne_of_lt (recorded.called call member) (of_decide_eq_true same)
  refine ⟨told, fun ticket => ?_, ?_, ?_, ?_⟩
  · rw [Ledger.slots_issue, recorded.size]
    show _ = (callbacks.made ++ [recipient])[ticket]?.map (Slot.mk · (callbacks.first? ticket))
    by_cases new : ticket = callbacks.made.length
    · subst new
      rw [if_pos rfl, fresh, List.getElem?_concat_length]
      rfl
    · rw [if_neg new, recorded.slots]
      rcases Nat.lt_or_gt_of_ne new with old | beyond
      · rw [List.getElem?_append_left old]
      · rw [List.getElem?_eq_none (Nat.le_of_lt beyond), List.getElem?_eq_none (by rw [List.length_append]; exact beyond)]
  · show (ledger.slots.push _).size = (callbacks.made ++ [recipient]).length
    rw [Array.size_push, recorded.size, List.length_append, List.length_singleton]
  · intro other member
    rcases List.mem_append.mp member with early | late
    · exact recorded.plain other early
    · cases List.mem_singleton.mp late
      exact plain
  · intro call member
    show call.1 < (callbacks.made ++ [recipient]).length
    rw [List.length_append]
    exact Nat.lt_add_right _ (recorded.called call member)

/-! ## Handles -/

/-- Handles that an account is of. -/
structure Covers (callbacks : Callbacks) (handles : Handles) : Prop where
  tickets : handles.tickets = callbacks.handles
  futures : handles.futures = callbacks.futures
  sound : handles.ledger.Sound
  recorded : callbacks.Recorded handles.ledger
  known : ∀ entry ∈ callbacks.handles, entry.2 < callbacks.made.length
  awaited : ∀ entry ∈ callbacks.futures, entry.2 < callbacks.made.length

variable {handles : Handles}

theorem covers_empty : empty.Covers .empty where
  tickets := rfl
  futures := rfl
  sound := Ledger.sound_empty
  recorded := ⟨Ledger.sound_empty.toTold, fun _ => rfl, rfl, List.forall_mem_nil _, List.forall_mem_nil _⟩
  known := List.forall_mem_nil _
  awaited := List.forall_mem_nil _

theorem Covers.make (covers : callbacks.Covers handles) (name : String) {recipient : Recipient}
    (plain : recipient.message? = none)
    (older : ∀ target, recipient.next? = some target → target < callbacks.made.length) :
    (callbacks.make name recipient).Covers (handles.issue name recipient) := by
  have size := covers.recorded.size
  have sound : (handles.ledger.issue recipient).2.Sound := covers.sound.issue (size ▸ older)
  have given : ∀ {names : Names Ticket}, (∀ entry ∈ names, entry.2 < callbacks.made.length) →
      ∀ entry ∈ names.give name callbacks.made.length, entry.2 < (callbacks.made ++ [recipient]).length := by
    intro names bounded entry member
    rw [List.length_append, List.length_singleton]
    rcases Names.mem_of_mem_give member with same | old
    · exact Nat.lt_succ_of_le (Nat.le_of_eq same)
    · exact Nat.lt_succ_of_lt (bounded entry old)
  refine ⟨?_, ?_, sound, covers.recorded.make name plain sound.toTold, given covers.known, ?_⟩
  · show handles.tickets.give name handles.ledger.slots.size = callbacks.handles.give name callbacks.made.length
    rw [covers.tickets, size]
  · show (if recipient = .future then handles.futures.give name handles.ledger.slots.size else handles.futures) =
      if recipient = .future then callbacks.futures.give name callbacks.made.length else callbacks.futures
    rw [covers.futures, size]
  · intro entry member
    change entry ∈ (if recipient = .future then callbacks.futures.give name callbacks.made.length
      else callbacks.futures) at member
    split at member
    · exact given covers.awaited entry member
    · show entry.2 < (callbacks.made ++ [recipient]).length
      rw [List.length_append, List.length_singleton]
      exact Nat.lt_succ_of_lt (covers.awaited entry member)

/-- What is asked of handles, their account keeps up with. -/
theorem Covers.after (covers : callbacks.Covers handles) (action : HandleAction) :
    (callbacks.after action).Covers (handles.after action) := by
  cases action with
  | listener name => exact covers.make name rfl nofun
  | nobody name => exact covers.make name rfl nofun
  | future name => exact covers.make name rfl nofun
  | relay name target =>
    unfold Handles.after Handles.perform? Callbacks.after
    dsimp only
    rw [covers.tickets]
    cases found : callbacks.handles.find target with
    | none => exact covers
    | some ticket =>
      refine covers.make name rfl fun other leads => ?_
      cases leads
      exact covers.known _ (Names.mem_of_find found)
  | clone name source =>
    unfold Handles.after Handles.perform? Callbacks.after
    dsimp only
    rw [covers.tickets]
    cases found : callbacks.handles.find source with
    | none => exact covers
    | some ticket =>
      refine ⟨rfl, covers.futures, covers.sound, ?_, fun entry member => ?_, covers.awaited⟩
      · exact ⟨covers.recorded.told, covers.recorded.slots, covers.recorded.size, covers.recorded.plain,
          covers.recorded.called⟩
      · rcases Names.mem_of_mem_give member with same | old
        · exact Nat.lt_of_le_of_lt (Nat.le_of_eq same) (covers.known _ (Names.mem_of_find found))
        · exact covers.known entry old
  | complete name outcome =>
    unfold Handles.after Handles.perform? Callbacks.after
    dsimp only
    rw [covers.tickets]
    cases found : callbacks.handles.find name with
    | none => exact covers
    | some ticket =>
      have inside : ticket < callbacks.made.length := covers.known _ (Names.mem_of_find found)
      obtain ⟨made, same, futures⟩ := callbacks.made_complete ticket outcome
      refine ⟨same.symm, covers.futures.trans futures.symm, covers.sound.complete ticket outcome,
        covers.recorded.completeWithin inside (Nat.lt_succ_self ticket), ?_, ?_⟩
      · rw [same, made]
        exact covers.known
      · rw [futures, made]
        exact covers.awaited
  | drop name =>
    refine ⟨congrArg (Names.drop · name) covers.tickets, covers.futures, covers.sound, ?_, ?_, covers.awaited⟩
    · exact ⟨covers.recorded.told, covers.recorded.slots, covers.recorded.size, covers.recorded.plain,
        covers.recorded.called⟩
    · exact fun entry member => covers.known entry (Names.mem_of_mem_drop member)
  | dropFuture name =>
    refine ⟨covers.tickets, congrArg (Names.drop · name) covers.futures, covers.sound, ?_, covers.known, ?_⟩
    · exact ⟨covers.recorded.told, covers.recorded.slots, covers.recorded.size, covers.recorded.plain,
        covers.recorded.called⟩
    · exact fun entry member => covers.awaited entry (Names.mem_of_mem_drop member)

theorem Covers.afterAll (covers : callbacks.Covers handles) (actions : List HandleAction) :
    (callbacks.afterAll actions).Covers (handles.afterAll actions) := by
  induction actions generalizing callbacks handles with
  | nil => exact covers
  | cons action actions ih => exact ih (covers.after action)

/-- An outcome is passed on at once exactly where a closure that has not run owns a handle. -/
theorem Recorded.passes_iff (recorded : callbacks.Recorded ledger) {target : Ticket} :
    ledger.Passes ticket target ↔ callbacks.Owns ticket target := by
  constructor
  · rintro ⟨recipient, slot, leads⟩
    obtain ⟨made, fresh⟩ := recorded.pending?.mp (Ledger.pending?_eq_some.mpr slot)
    have plain := recorded.plain recipient (List.mem_of_getElem? made)
    refine ⟨?_, fresh⟩
    cases recipient with
    | relay other =>
      cases leads
      exact made
    | last message other => cases plain
    | _ => cases leads
  · rintro ⟨made, fresh⟩
    exact ⟨.relay target, Ledger.pending?_eq_some.mp (recorded.pending?.mpr ⟨made, fresh⟩), rfl⟩

theorem Covers.isHeld_iff (covers : callbacks.Covers handles) (ticket : Ticket) :
    handles.ledger.isHeld handles.tickets.things ticket = true ↔ callbacks.Held ticket := by
  have same : handles.ledger.Passes = callbacks.Owns :=
    funext fun _ => funext fun _ => propext covers.recorded.passes_iff
  rw [Ledger.isHeld_iff covers.recorded.told, same, covers.tickets]
  constructor
  · rintro ⟨holder, member, chain⟩
    obtain ⟨entry, inside, rfl⟩ := List.mem_map.mp member
    exact ⟨entry, inside, chain⟩
  · rintro ⟨entry, inside, chain⟩
    exact ⟨entry.2, List.mem_map_of_mem inside, chain⟩

/-- What the application is told about a callback is its first call, if it is to be told. -/
theorem Recorded.about (recorded : callbacks.Recorded ledger) {recipient : Recipient}
    (made : callbacks.made[ticket]? = some recipient) :
    ledger.about ticket = if recipient.tells then (callbacks.first? ticket).toList.map (ticket, ·) else [] := by
  rw [recorded.told.told, recorded.slots, made]
  cases callbacks.first? ticket with
  | none => simp
  | some outcome => rfl

/-- What a future shows. -/
inductive Shows (callbacks : Callbacks) (ticket : Ticket) : Option Outcome → Prop where
  | outcome {outcome : Outcome} (known : callbacks.first? ticket = some outcome) : Shows callbacks ticket (some outcome)
  | waiting (fresh : callbacks.first? ticket = none) (held : callbacks.Held ticket) : Shows callbacks ticket none
  | lost (fresh : callbacks.first? ticket = none) (gone : ¬ callbacks.Held ticket) :
    Shows callbacks ticket (some (.error .closed))

theorem Covers.shows (covers : callbacks.Covers handles) (inside : ticket < callbacks.made.length) :
    callbacks.Shows ticket (handles.ledger.poll handles.tickets.things ticket) := by
  unfold Ledger.poll
  rw [covers.recorded.outcome? inside]
  cases known : callbacks.first? ticket with
  | some outcome => exact .outcome known
  | none =>
    dsimp only
    by_cases held : handles.ledger.isHeld handles.tickets.things ticket = true
    · rw [if_pos held]
      exact .waiting known ((covers.isHeld_iff ticket).mp held)
    · rw [if_neg held]
      exact .lost known fun holds => held ((covers.isHeld_iff ticket).mpr holds)

/-- Callbacks complete at most once. A closure that tells the application runs exactly at the first call on its callback, by
whomever it is made, and with the outcome of this call; another call changes nothing. A future shows the outcome of the first
call; without one it waits as long as its callback is held, and then shows that the connection is closed. -/
theorem first_call_counts (actions : List HandleAction) :
    let handles := Handles.empty.afterAll actions
    let callbacks := empty.afterAll actions
    (∀ ticket, callbacks.made[ticket]? = none → handles.ledger.about ticket = []) ∧
    (∀ ticket recipient, callbacks.made[ticket]? = some recipient →
      handles.ledger.about ticket = if recipient.tells then (callbacks.first? ticket).toList.map (ticket, ·) else []) ∧
    (∀ name ticket, callbacks.handles.find name = some ticket → callbacks.first? ticket ≠ none →
      ∀ outcome, handles.after (.complete name outcome) = handles) ∧
    ∀ name ticket, callbacks.futures.find name = some ticket →
      ∃ shown, callbacks.Shows ticket shown ∧ handles.poll? name =
        some (shown, if shown.isSome then handles.after (.dropFuture name) else handles) := by
  intro handles callbacks
  have covers : callbacks.Covers handles := covers_empty.afterAll actions
  refine ⟨fun ticket unmade => ?_, fun ticket recipient made => covers.recorded.about made, ?_, ?_⟩
  · rw [covers.recorded.told.told, covers.recorded.slots, unmade]
    rfl
  · intro name ticket found known outcome
    obtain ⟨kept, known⟩ := Option.ne_none_iff_exists'.mp known
    have inside : ticket < callbacks.made.length := covers.known _ (Names.mem_of_find found)
    have same := Ledger.complete_of_known ((covers.recorded.outcome? inside).trans known) outcome
    have named : handles.tickets.find name = some ticket := covers.tickets ▸ found
    unfold Handles.after Handles.perform?
    dsimp only
    rw [named]
    show ({ handles with ledger := handles.ledger.complete ticket outcome } : Handles) = handles
    rw [same]
  · intro name ticket found
    have inside : ticket < callbacks.made.length := covers.awaited _ (Names.mem_of_find found)
    have named : handles.futures.find name = some ticket := covers.futures ▸ found
    refine ⟨_, covers.shows inside, ?_⟩
    unfold Handles.poll?
    rw [named]
    cases shown : handles.ledger.poll handles.tickets.things ticket with
    | some outcome => simp [shown, Handles.after, Handles.perform?]
    | none => simp [shown]

/-- A closure owns the handle of a future's callback, and is called twice by a copy of its own handle. It runs once, and the
future shows the first outcome. Before the calls the future waits. -/
theorem first_call_counts_chain :
    let made : List HandleAction := [.future "f", .relay "r" "f", .clone "s" "r", .drop "r", .drop "f"]
    let called : List HandleAction := made ++ [.complete "s" (.ok ()), .complete "s" (.error .closed)]
    (empty.afterAll called).calls = [(1, .ok ()), (0, .ok ()), (1, .error .closed)] ∧
    (Handles.empty.afterAll called).ledger.about 1 = [(1, .ok ())] ∧
    ((Handles.empty.afterAll called).poll? "f").map Prod.fst = some (some (.ok ())) ∧
    (empty.afterAll made).Held 0 ∧ ((Handles.empty.afterAll made).poll? "f").map Prod.fst = some none := by
  intro made called
  have before : empty.afterAll made = ⟨[.future, .relay 0], [("s", 1)], [("f", 0)], []⟩ := by
    simp [made, afterAll, after, empty, Callbacks.make, Names.give, Names.find, Names.drop]
  have account : empty.afterAll called =
      ⟨[.future, .relay 0], [("s", 1)], [("f", 0)], [(1, .ok ()), (0, .ok ()), (1, .error .closed)]⟩ := by
    simp [called, made, afterAll, after, empty, Callbacks.make, complete, call, first?, Names.give, Names.find, Names.drop]
  have held : (empty.afterAll made).Held 0 := by
    rw [before]
    exact ⟨("s", 1), List.mem_cons_self, .single ⟨rfl, rfl⟩⟩
  obtain ⟨_, told, _, shows⟩ := first_call_counts called
  obtain ⟨_, _, _, waits⟩ := first_call_counts made
  rw [account] at told shows
  obtain ⟨shown, same, answer⟩ := shows "f" 0 rfl
  obtain ⟨hidden, still, silence⟩ := waits "f" 0 (by rw [before]; rfl)
  refine ⟨congrArg calls account, told 1 (.relay 0) rfl, ?_, held, ?_⟩
  · rw [answer]
    cases same with
    | outcome known => exact congrArg some known.symm
    | waiting fresh _ => cases fresh
    | lost fresh _ => cases fresh
  · rw [silence]
    cases still with
    | outcome known =>
      rw [before] at known
      cases known
    | waiting => rfl
    | lost _ gone => exact absurd held gone

end Callbacks
end Egress
