import Egress.Proofs.Framing
import Mathlib.Data.List.Induction

/-!
When an open message has begun at the carrier. The open message of a sender is to be the one whose first fragment
the carrier has taken and whose last one it has not been handed. Two kinds of refusal come in between. A refused
first fragment leaves a message open of which the carrier has nothing; only a stream that has had no frame taken
closes it again. And such a stream, when it goes on with a message that others have begun, closes that message with
its own refused frame. The laws of this module say that there are no other ways.
-/
namespace Egress

/-- The last frame of a message, taken or not, ends it. -/
def Mark.Ends : Mark → Prop
  | .handed frame _ => frame.isData = true ∧ frame.final = true
  | _ => False

namespace Monitor

/-- Of a message of some kind the carrier took a fragment, and no message has been ended since. -/
structure Partial (kind : MessageKind) (front : List Mark) (frame : Frame) (back : List Mark) : Prop where
  data : frame.isData = true
  unfinished : frame.final = false
  kind : (after (front ++ [.handed frame true])).openMessage = some kind
  unended : ∀ mark ∈ back, ¬ mark.Ends

/-- The carrier is in the middle of a message. -/
def Underway (kind : MessageKind) (trace : List Mark) : Prop :=
  ∃ front frame back, trace = front ++ .handed frame true :: back ∧ Partial kind front frame back

/-- The carrier is in the middle of a message, which has been open all the time since. -/
def Begun (kind : MessageKind) (trace : List Mark) : Prop :=
  ∃ front frame back, trace = front ++ .handed frame true :: back ∧ Partial kind front frame back ∧
    ∀ moment, moment <+: back → (after (front ++ .handed frame true :: moment)).openMessage = some kind

/-- The carrier took every frame that was to begin a message, unless a stream that has had no frame taken sent it. -/
def OpenersTaken (trace : List Mark) : Prop :=
  ∀ front frame, front ++ [.handed frame false] <+: trace → frame.isData = true → frame.final = false →
    (after front).openMessage = none → (after front).stream = some false

/-- While the carrier was in the middle of a message, it refused no fragment of a stream that has had no frame
taken. -/
def NoneCutOff (trace : List Mark) : Prop :=
  ∀ front frame, front ++ [.handed frame false] <+: trace → frame.isData = true → frame.final = false →
    (after front).stream = some false → ∀ kind, ¬ Underway kind front

theorem after_concat (trace : List Mark) (mark : Mark) : after (trace ++ [mark]) = (after trace).next mark := by
  simp [after]

/-- An open message stays open, unless a mark ends it or the refused fragment of a stream that has had no frame
taken cuts it off. -/
theorem openMessage_next_open {monitor : Monitor} {kind : MessageKind} (opened : monitor.openMessage = some kind)
    {mark : Mark} (unended : ¬ mark.Ends) :
    (monitor.next mark).openMessage = some kind ∨
      ∃ frame, mark = .handed frame false ∧ frame.isData = true ∧ frame.final = false ∧
        monitor.stream = some false := by
  cases mark with
  | opened => exact .inl opened
  | dropped => exact .inl opened
  | handed frame taken =>
    cases data : frame.isData with
    | false => exact .inl (by simpa [next, data] using opened)
    | true =>
      have unfinished : frame.final = false := by simpa [Mark.Ends, data] using unended
      rw [next_data _ data]
      by_cases refused : monitor.stream = some false ∧ taken = false
      · obtain ⟨unbegun, rfl⟩ := refused
        exact .inr ⟨frame, rfl, data, unfinished, unbegun⟩
      · exact .inl (by simp [openAfter, unfinished, refused, opened])

/-- A message that is open after a mark was open before it, or the mark is its first fragment: one that the carrier
took, or that no stream without a frame taken sent. -/
theorem openMessage_of_next {monitor : Monitor} {kind : MessageKind} {mark : Mark}
    (opened : (monitor.next mark).openMessage = some kind) :
    (¬ mark.Ends ∧ monitor.openMessage = some kind) ∨
      ∃ frame taken, mark = .handed frame taken ∧ frame.isData = true ∧ frame.final = false ∧
        monitor.openMessage = none ∧ (taken = true ∨ monitor.stream ≠ some false) := by
  cases mark with
  | opened => exact .inl ⟨id, opened⟩
  | dropped => exact .inl ⟨id, opened⟩
  | handed frame taken =>
    cases data : frame.isData with
    | false => exact .inl ⟨by simp [Mark.Ends, data], by simpa [next, data] using opened⟩
    | true =>
      rw [next_data _ data] at opened
      simp only [openAfter] at opened
      split at opened
      · cases opened
      · rename_i unfinished
        split at opened
        · cases opened
        · rename_i uncut
          have rest : frame.final = false := by simpa using unfinished
          rcases before : monitor.openMessage with _ | current
          · refine .inr ⟨frame, taken, rfl, data, rest, rfl, ?_⟩
            cases taken with
            | true => exact .inl rfl
            | false => exact .inr fun unbegun => uncut ⟨unbegun, rfl⟩
          · refine .inl ⟨by simp [Mark.Ends, rest], ?_⟩
            rw [before] at opened
            exact opened

/-! ## The middle of a message, mark by mark -/

/-- The carrier takes a fragment. -/
theorem begun_concat {kind : MessageKind} {trace : List Mark} {frame : Frame} (data : frame.isData = true)
    (unfinished : frame.final = false) (opened : (after (trace ++ [.handed frame true])).openMessage = some kind) :
    Begun kind (trace ++ [.handed frame true]) := by
  refine ⟨trace, frame, [], rfl, ⟨data, unfinished, opened, nofun⟩, fun moment start => ?_⟩
  rw [List.prefix_nil.mp start]
  exact opened

theorem Begun.concat {kind : MessageKind} {trace : List Mark} {mark : Mark} (begun : Begun kind trace)
    (unended : ¬ mark.Ends) (opened : (after (trace ++ [mark])).openMessage = some kind) :
    Begun kind (trace ++ [mark]) := by
  obtain ⟨front, frame, back, rfl, began, stayed⟩ := begun
  refine ⟨front, frame, back ++ [mark], by simp, ⟨began.data, began.unfinished, began.kind, ?_⟩, ?_⟩
  · simpa [or_imp, forall_and] using ⟨began.unended, unended⟩
  · intro moment start
    rcases List.prefix_concat_iff.mp start with rfl | earlier
    · simpa using opened
    · exact stayed moment earlier

theorem Underway.concat {kind : MessageKind} {trace : List Mark} {mark : Mark} (underway : Underway kind trace)
    (unended : ¬ mark.Ends) : Underway kind (trace ++ [mark]) := by
  obtain ⟨front, frame, back, rfl, began⟩ := underway
  refine ⟨front, frame, back ++ [mark], by simp, began.data, began.unfinished, began.kind, ?_⟩
  simpa [or_imp, forall_and] using ⟨began.unended, unended⟩

/-- What a trace with a fragment that the carrier took looks like at its end. -/
theorem concat_eq_cases {trace front back : List Mark} {mark : Mark} {frame : Frame}
    (split : trace ++ [mark] = front ++ .handed frame true :: back) :
    (back = [] ∧ trace = front ∧ mark = .handed frame true) ∨
      ∃ rest, back = rest ++ [mark] ∧ trace = front ++ .handed frame true :: rest := by
  cases back using List.reverseRecOn with
  | nil =>
    obtain ⟨same, last⟩ := List.append_inj' split rfl
    exact .inl ⟨rfl, same, by simpa using last⟩
  | append_singleton rest last =>
    have reordered : trace ++ [mark] = (front ++ .handed frame true :: rest) ++ [last] := by simpa using split
    obtain ⟨same, ends⟩ := List.append_inj' reordered rfl
    obtain rfl : mark = last := by simpa using ends
    exact .inr ⟨rest, rfl, same⟩

theorem Underway.of_concat {kind : MessageKind} {trace : List Mark} {mark : Mark}
    (underway : Underway kind (trace ++ [mark])) :
    (¬ mark.Ends ∧ Underway kind trace) ∨ (after (trace ++ [mark])).openMessage = some kind := by
  obtain ⟨front, frame, back, split, began⟩ := underway
  rcases concat_eq_cases split with ⟨rfl, rfl, rfl⟩ | ⟨rest, rfl, rfl⟩
  · exact .inr began.kind
  · have unended : ∀ earlier ∈ rest, ¬ earlier.Ends := fun earlier mem => began.unended earlier (by simp [mem])
    exact .inl ⟨began.unended mark (by simp),
      front, frame, rest, rfl, began.data, began.unfinished, began.kind, unended⟩

/-- A message that has begun was open before the last mark, unless that is a fragment that the carrier took. -/
theorem Begun.of_concat_refused {kind : MessageKind} {trace : List Mark} {frame : Frame}
    (begun : Begun kind (trace ++ [.handed frame false])) : (after trace).openMessage = some kind := by
  obtain ⟨front, first, back, split, _, stayed⟩ := begun
  rcases concat_eq_cases split with ⟨_, _, same⟩ | ⟨rest, rfl, rfl⟩
  · cases same
  · exact stayed rest (List.prefix_append _ _)

/-! ## The two laws, for any trace -/

theorem OpenersTaken.of_prefix {trace moment : List Mark} (taken : OpenersTaken trace) (start : moment <+: trace) :
    OpenersTaken moment :=
  fun front frame earlier => taken front frame (earlier.trans start)

theorem NoneCutOff.of_prefix {trace moment : List Mark} (uncut : NoneCutOff trace) (start : moment <+: trace) :
    NoneCutOff moment :=
  fun front frame earlier => uncut front frame (earlier.trans start)

/-- If the carrier took what was to begin a message, then an open message has begun. -/
theorem OpenersTaken.begun {trace : List Mark} (taken : OpenersTaken trace) {kind : MessageKind}
    (opened : (after trace).openMessage = some kind) : Begun kind trace := by
  induction trace using List.reverseRecOn with
  | nil => cases opened
  | append_singleton trace mark ih =>
    have stepped : ((after trace).next mark).openMessage = some kind := after_concat trace mark ▸ opened
    rcases openMessage_of_next stepped with
      ⟨unended, before⟩ | ⟨frame, accepted, rfl, data, unfinished, unopened, sent⟩
    · exact (ih (taken.of_prefix (List.prefix_append _ _)) before).concat unended opened
    · cases accepted with
      | true => exact begun_concat data unfinished opened
      | false =>
        have unbegun := taken trace frame (List.prefix_refl _) data unfinished unopened
        exact absurd unbegun (sent.resolve_left (by simp))

/-- If no message was cut off, then the message that the carrier is in the middle of is open. -/
theorem NoneCutOff.openMessage {trace : List Mark} (uncut : NoneCutOff trace) {kind : MessageKind}
    (underway : Underway kind trace) : (after trace).openMessage = some kind := by
  induction trace using List.reverseRecOn with
  | nil =>
    obtain ⟨front, frame, back, split, _⟩ := underway
    simp at split
  | append_singleton trace mark ih =>
    rcases underway.of_concat with ⟨unended, earlier⟩ | now
    · have before := ih (uncut.of_prefix (List.prefix_append _ _)) earlier
      rcases openMessage_next_open before unended with stays | ⟨frame, rfl, data, unfinished, unbegun⟩
      · rw [after_concat]
        exact stays
      · exact absurd earlier (uncut trace frame (List.prefix_refl _) data unfinished unbegun kind)
    · exact now

/-- A first fragment that is refused opens its message all the same, unless a stream that has had no frame taken
sent it. -/
theorem openMessage_refused_opener {trace : List Mark} {frame : Frame} (allowed : Fits none frame.opcode)
    (unfinished : frame.final = false) (unopened : (after trace).openMessage = none)
    (begun : (after trace).stream ≠ some false) :
    ∃ kind, (after (trace ++ [.handed frame false])).openMessage = some kind := by
  obtain ⟨kind, same⟩ := allowed
  have data : frame.isData = true := by simp [Frame.isData, same]
  refine ⟨kind, ?_⟩
  rw [after_concat, next_data _ data]
  simp [openAfter, unfinished, unopened, begun, same]

/-- An open message has always begun exactly if the carrier took every frame that was to begin one. -/
theorem openersTaken_iff {trace : List Mark} (admitted : initial.Admits trace) :
    OpenersTaken trace ↔ ∀ moment, moment <+: trace → ∀ kind, (after moment).openMessage = some kind →
      Begun kind moment := by
  refine ⟨fun taken moment start kind opened => (taken.of_prefix start).begun opened, ?_⟩
  intro begun front frame start data unfinished unopened
  by_contra sent
  have allowed : Fits none frame.opcode := by
    obtain ⟨back, rfl⟩ := start
    rw [List.append_assoc] at admitted
    have fits := allows_of_admits admitted
    rw [Allows, if_pos data] at fits
    exact unopened ▸ fits
  obtain ⟨kind, opened⟩ := openMessage_refused_opener allowed unfinished unopened sent
  have before := (begun _ start kind opened).of_concat_refused
  rw [unopened] at before
  cases before

/-- The message that the carrier is in the middle of is always open exactly if none was cut off. -/
theorem noneCutOff_iff {trace : List Mark} :
    NoneCutOff trace ↔ ∀ moment, moment <+: trace → ∀ kind, Underway kind moment →
      (after moment).openMessage = some kind := by
  refine ⟨fun uncut moment start kind underway => (uncut.of_prefix start).openMessage underway, ?_⟩
  intro opened front frame start data unfinished unbegun kind underway
  have unended : ¬ (Mark.handed frame false).Ends := by simp [Mark.Ends, unfinished]
  have still := opened _ start kind (underway.concat unended)
  rw [after_concat, next_data _ data] at still
  simp [openAfter, unfinished, unbegun] at still

/-! ## Streams that are opened between messages -/

/-- Every stream was opened while no message was open. -/
def StreamsApart (trace : List Mark) : Prop :=
  ∀ front, front ++ [.opened] <+: trace → (after front).openMessage = none

/-- While a stream that was opened between messages has had no frame taken, no message is open. -/
theorem StreamsApart.openMessage {trace : List Mark} (apart : StreamsApart trace)
    (unbegun : (after trace).stream = some false) : (after trace).openMessage = none := by
  induction trace using List.reverseRecOn with
  | nil => rfl
  | append_singleton trace mark ih =>
    have earlier := ih fun front start => apart front (start.trans (List.prefix_append _ _))
    rw [after_concat] at unbegun ⊢
    cases mark with
    | opened => exact apart trace (List.prefix_refl _)
    | dropped => cases unbegun
    | handed frame taken =>
      cases data : frame.isData with
      | false =>
        simp only [next, data] at unbegun ⊢
        exact earlier unbegun
      | true =>
        rw [next_data _ data] at unbegun ⊢
        obtain ⟨before, rfl⟩ : (after trace).stream = some false ∧ taken = false := by simpa using unbegun
        simp [openAfter, before]

/-- Streams that are opened between messages cut none off. -/
theorem StreamsApart.noneCutOff {trace : List Mark} (apart : StreamsApart trace) : NoneCutOff trace := by
  induction trace using List.reverseRecOn with
  | nil =>
    intro front frame start
    simp at start
  | append_singleton trace mark ih =>
    have before : StreamsApart trace := fun front start => apart front (start.trans (List.prefix_append _ _))
    intro front frame start data unfinished unbegun kind underway
    rcases List.prefix_concat_iff.mp start with same | earlier
    · obtain ⟨rfl, -⟩ := List.append_inj' same rfl
      have opened := (ih before).openMessage underway
      rw [before.openMessage unbegun] at opened
      cases opened
    · exact ih before front frame earlier data unfinished unbegun kind underway

end Monitor

open Monitor

namespace Run

variable {types : ValueTypes} {σ : Type} [Carrier σ]

/-- When an open message has begun. After every run, and at every moment of it, the open message is one of which
the carrier has taken a fragment, exactly if the carrier took each frame that was to begin a message or a stream
without a frame taken had sent it. A continuation is then handed over only in a message that has begun. -/
theorem open_message_begun_iff (session : Session types) (carrier : σ) (ledger : Ledger)
    (events : List (Event types)) :
    let run := fromStart session carrier ledger events
    (OpenersTaken run.trace ↔ ∀ moment, moment <+: run.trace → ∀ kind,
      (Monitor.after moment).openMessage = some kind → Begun kind moment) ∧
    (OpenersTaken run.trace →
      (∀ kind, run.custody.sender.openMessage = some kind → Begun kind run.trace) ∧
      ∀ front frame taken back, run.trace = front ++ .handed frame taken :: back →
        frame.opcode = .continuation → ∃ kind, Begun kind front) := by
  intro run
  obtain ⟨admitted, seen⟩ : run.Observed := observed_fromStart session carrier ledger events
  refine ⟨openersTaken_iff admitted, fun taken => ⟨fun kind opened => taken.begun ?_, ?_⟩⟩
  · rw [seen, Custody.openMessage_monitor, opened]
  · intro front frame accepted back split continues
    have start : front <+: run.trace := ⟨_, split.symm⟩
    rw [split] at admitted
    have fits := allows_of_admits admitted
    rw [Allows, if_pos (by simp [Frame.isData, continues, Opcode.isData])] at fits
    rcases opened : (Monitor.after front).openMessage with _ | kind
    · obtain ⟨kind, same⟩ : Fits none frame.opcode := opened ▸ fits
      rw [continues] at same
      cases kind <;> cases same
    · exact ⟨kind, (taken.of_prefix start).begun opened⟩

/-- A text message goes on after a stream has been given up at once. -/
theorem open_message_begun_iff_mixed :
    let run := fromStart (.ofRegistry .empty) pickyCarrier .empty
      (mixedEvents ++ [.call (.fragment .text [100] false 0)])
    OpenersTaken run.trace ∧ run.custody.sender.openMessage = some .text ∧ Begun .text run.trace := by
  intro run
  have taken : OpenersTaken run.trace := by
    rintro front frame ⟨back, split⟩ data - -
    have marks : front ++ [.handed frame false] ++ back =
        [.opened, .handed ⟨.text, false, [97]⟩ false, .dropped, .handed ⟨.text, false, [99]⟩ true,
          .handed (.ping []) false, .handed ⟨.continuation, false, [100]⟩ true] := split
    rcases front with _ | ⟨_, _ | ⟨_, _ | ⟨_, _ | ⟨_, _ | ⟨_, _ | ⟨_, front⟩⟩⟩⟩⟩⟩ <;> simp at marks
    · obtain ⟨rfl, -⟩ := marks
      rfl
    · obtain ⟨-, -, -, -, rfl, -⟩ := marks
      cases data
  have opened : run.custody.sender.openMessage = some .text := rfl
  exact ⟨taken, opened,
    ((open_message_begun_iff (.ofRegistry .empty) pickyCarrier .empty _).2 taken).1 .text opened⟩

/-- A carrier that refuses one frame and takes those after it. -/
def refusingOnce : ScriptedCarrier :=
  { ScriptedCarrier.accepting with nextReplies := [.refuse .backpressure] }

/-- The refused first fragment of a text message leaves a message open of which the carrier has nothing, and the
next fragment goes to it as a continuation. -/
theorem open_message_not_begun :
    let run := fromStart (.ofRegistry .empty) refusingOnce .empty
      ([.call (.frame ⟨.text, false, [97]⟩ 0 .off)] : List (Event catalogue))
    run.custody.sender.openMessage = some .text ∧ (∀ kind, ¬ Underway kind run.trace) ∧
    (run.step (.call (.fragment .text [98] false 0))).trace =
      run.trace ++ [.handed ⟨.continuation, false, [98]⟩ true] := by
  intro run
  refine ⟨rfl, ?_, rfl⟩
  rintro kind ⟨front, frame, back, split, -⟩
  have present : Mark.handed frame true ∈ run.trace := by simp [split]
  have marks : run.trace = [.handed ⟨.text, false, [97]⟩ false] := rfl
  simp [marks] at present

/-- When a message that has begun stays open. At every moment of a run the message that the carrier is in the
middle of is the open one, exactly if no stream that has had no frame taken saw its fragment refused in the middle
of a message; and so it is if streams are opened between messages. A data frame that is then handed over in the
middle of a message is one of that message. -/
theorem begun_message_open_iff (session : Session types) (carrier : σ) (ledger : Ledger)
    (events : List (Event types)) :
    let run := fromStart session carrier ledger events
    (NoneCutOff run.trace ↔ ∀ moment, moment <+: run.trace → ∀ kind,
      Underway kind moment → (Monitor.after moment).openMessage = some kind) ∧
    (StreamsApart run.trace → NoneCutOff run.trace) ∧
    (NoneCutOff run.trace →
      (∀ kind, Underway kind run.trace → run.custody.sender.openMessage = some kind) ∧
      ∀ front frame taken back kind, run.trace = front ++ .handed frame taken :: back → frame.isData = true →
        Underway kind front → frame.opcode = .continuation ∨ frame.opcode = kind.opcode) := by
  intro run
  obtain ⟨admitted, seen⟩ : run.Observed := observed_fromStart session carrier ledger events
  refine ⟨noneCutOff_iff, StreamsApart.noneCutOff, fun uncut => ⟨fun kind underway => ?_, ?_⟩⟩
  · rw [← Custody.openMessage_monitor, ← seen]
    exact uncut.openMessage underway
  · intro front frame taken back kind split data underway
    have start : front <+: run.trace := ⟨_, split.symm⟩
    rw [split] at admitted
    have fits := allows_of_admits admitted
    rw [Allows, if_pos data] at fits
    have opened := (uncut.of_prefix start).openMessage underway
    rw [show (List.foldl next initial front).openMessage = some kind from opened] at fits
    exact fits

/-- A carrier that takes two frames, refuses one, and takes those after it. -/
def refusingThird : ScriptedCarrier :=
  { ScriptedCarrier.accepting with nextReplies := [.accept, .accept, .refuse .backpressure] }

/-- A stream goes on with a text message, and a later fragment of it is refused. -/
theorem begun_message_open_iff_continued :
    let run := fromStart (.ofRegistry .empty) refusingThird .empty
      ([.call (.fragment .text [97] false 0), .openStream .text 1 0, .stream (.write [98, 99])] : List (Event catalogue))
    NoneCutOff run.trace ∧ Underway .text run.trace ∧ run.custody.sender.openMessage = some .text := by
  intro run
  have uncut : NoneCutOff run.trace := by
    rintro front frame ⟨back, split⟩ - - unbegun
    have marks : front ++ [.handed frame false] ++ back =
        [.handed ⟨.text, false, [97]⟩ true, .opened, .handed ⟨.text, false, [98]⟩ true,
          .handed ⟨.continuation, false, [99]⟩ false] := split
    rcases front with _ | ⟨_, _ | ⟨_, _ | ⟨_, _ | ⟨_, front⟩⟩⟩⟩ <;> simp at marks
    obtain ⟨rfl, rfl, rfl, -⟩ := marks
    cases unbegun
  have underway : Underway .text run.trace := by
    refine ⟨[], ⟨.text, false, [97]⟩,
      [.opened, .handed ⟨.text, false, [98]⟩ true, .handed ⟨.continuation, false, [99]⟩ false], rfl, rfl, rfl, rfl, ?_⟩
    simp [Mark.Ends]
  exact ⟨uncut, underway,
    ((begun_message_open_iff (.ofRegistry .empty) refusingThird .empty _).2.2 uncut).1 .text underway⟩

/-- A carrier that takes one frame, refuses one, and takes those after it. -/
def refusingSecond : ScriptedCarrier :=
  { ScriptedCarrier.accepting with nextReplies := [.accept, .refuse .backpressure] }

/-- The refused first fragment of a stream closes the text message that the carrier is in the middle of, and a
binary fragment is taken there. -/
theorem begun_message_cut_off :
    let run := fromStart (.ofRegistry .empty) refusingSecond .empty
      ([.call (.fragment .text [97] false 0), .openStream .text 1 0, .stream (.write [98]), .dropStream] :
        List (Event catalogue))
    Underway .text run.trace ∧ run.custody.sender.openMessage = none ∧
    (run.step (.call (.fragment .binary [1] false 0))).trace =
      run.trace ++ [.handed ⟨.binary, false, [1]⟩ true] := by
  intro run
  refine ⟨⟨[], ⟨.text, false, [97]⟩, [.opened, .handed ⟨.text, false, [98]⟩ false, .dropped],
    rfl, rfl, rfl, rfl, ?_⟩, rfl, rfl⟩
  simp [Mark.Ends]

end Run
end Egress
