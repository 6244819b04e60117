import Egress.Proofs.LedgerLaws
import Egress.Proofs.WriterRest
import Egress.Proofs.WriterSteps

/-!
Writing a batch. However an output cuts the writes short, nothing of a batch is lost and nothing is written twice: what
the output has taken is at any time the beginning of the batch, as long as it has reported. The batch has been written
when all of it was taken and the one flush after that succeeded; otherwise the first answer that was not good says why.
-/
namespace Egress

/-- What an output answered to a call. -/
inductive OutputAnswer where
  | wrote (result : Except TransportError Nat)
  | flushed (result : Except TransportError Unit)
  deriving DecidableEq

namespace OutputAnswer

def count : OutputAnswer → Nat
  | .wrote (.ok count) => count
  | _ => 0

/-- How many bytes were taken, by the answers. -/
def counted (answers : List OutputAnswer) : Nat := total count answers

/-- What comes of writing some bytes, if the answer settles that. -/
def settled? : OutputAnswer → Option (Except TransportError Unit)
  | .wrote (.ok 0) => some (.error Transport.writeZero)
  | .wrote (.ok (_ + 1)) => none
  | .wrote (.error error) => some (.error error)
  | .flushed result => some result

theorem eq_flushed_of_settled {answer : OutputAnswer} (settled : answer.settled? = some (.ok ())) :
    answer = .flushed (.ok ()) := by
  unfold settled? at settled
  split at settled <;> cases settled
  rfl

theorem eq_of_settled_error {answer : OutputAnswer} {error : TransportError}
    (settled : answer.settled? = some (.error error)) :
    (answer = .wrote (.error error) ∨ answer = .flushed (.error error)) ∨
      answer = .wrote (.ok 0) ∧ error = Transport.writeZero := by
  unfold settled? at settled
  split at settled <;> cases settled
  · exact .inr ⟨rfl, rfl⟩
  · exact .inl (.inl rfl)
  · exact .inl (.inr rfl)

/-- The output failed, with an error of its own. -/
def Failed (answers : List OutputAnswer) (error : TransportError) : Prop :=
  .wrote (.error error) ∈ answers ∨ .flushed (.error error) ∈ answers

/-- The answers to writing some bytes and flushing, and what comes of it. -/
inductive Writes : (left : Bytes) → List OutputAnswer → Except TransportError Unit → Prop where
  | flushed (result : Except TransportError Unit) : Writes [] [.flushed result] result
  | nothing {left : Bytes} : left ≠ [] → Writes left [.wrote (.ok 0)] (.error Transport.writeZero)
  | failed {left : Bytes} (error : TransportError) : left ≠ [] → Writes left [.wrote (.error error)] (.error error)
  | some {left : Bytes} {count : Nat} {answers : List OutputAnswer} {result : Except TransportError Unit} :
    0 < count → count ≤ left.length → Writes (left.drop count) answers result →
      Writes left (.wrote (.ok count) :: answers) result

namespace Writes

variable {left : Bytes} {answers : List OutputAnswer} {result : Except TransportError Unit}

/-- The output is flushed once all has been taken, and how that goes is what comes of it. -/
theorem of_flushed (writes : Writes left answers result) {flush : Except TransportError Unit}
    (member : .flushed flush ∈ answers) : counted answers = left.length ∧ result = flush := by
  induction writes with
  | flushed =>
    cases List.mem_singleton.mp member
    exact ⟨rfl, rfl⟩
  | nothing | failed => cases List.mem_singleton.mp member
  | @some left count answers result _ le _ ih =>
    obtain ⟨whole, same⟩ := ih ((List.mem_cons.mp member).resolve_left nofun)
    rw [List.length_drop] at whole
    refine ⟨?_, same⟩
    simp only [counted, total_cons, OutputAnswer.count] at whole ⊢
    omega

/-- The last answer settles what comes of it, and none before does. -/
theorem ends (writes : Writes left answers result) :
    ∃ front last, answers = front ++ [last] ∧ (∀ answer ∈ front, answer.settled? = none) ∧
      last.settled? = Option.some result := by
  induction writes with
  | flushed => exact ⟨[], _, rfl, nofun, rfl⟩
  | nothing => exact ⟨[], _, rfl, nofun, rfl⟩
  | failed => exact ⟨[], _, rfl, nofun, rfl⟩
  | @some left count answers result positive le rest ih =>
    obtain ⟨front, last, rfl, unsettled, settled⟩ := ih
    refine ⟨.wrote (.ok count) :: front, last, rfl, ?_, settled⟩
    rintro answer (_ | ⟨_, member⟩)
    · cases count with
      | zero => exact absurd positive (Nat.lt_irrefl 0)
      | succ count => rfl
    · exact unsettled answer member

/-- Of all answers one settles what comes of it. -/
theorem settled (writes : Writes left answers result) :
    ∃ last ∈ answers, last.settled? = Option.some result ∧ ∀ answer ∈ answers, answer.settled? ≠ none → answer = last := by
  obtain ⟨front, last, rfl, unsettled, settled⟩ := writes.ends
  refine ⟨last, List.mem_append_right _ (List.mem_singleton.mpr rfl), settled, fun answer member settles => ?_⟩
  rcases List.mem_append.mp member with early | late
  · exact absurd (unsettled answer early) settles
  · exact List.mem_singleton.mp late

theorem ok_iff (writes : Writes left answers result) : result = .ok () ↔ .flushed (.ok ()) ∈ answers := by
  obtain ⟨last, member, settled, only⟩ := writes.settled
  constructor
  · rintro rfl
    rwa [← eq_flushed_of_settled settled]
  · exact fun flushed => (writes.of_flushed flushed).2

theorem nothing_iff (writes : Writes left answers result) :
    .wrote (.ok 0) ∈ answers ↔ result = .error Transport.writeZero ∧ ¬ Failed answers Transport.writeZero := by
  obtain ⟨last, member, settled, only⟩ := writes.settled
  constructor
  · intro nothing
    obtain rfl := only _ nothing nofun
    refine ⟨(Option.some.inj settled).symm, ?_⟩
    rintro (failed | failed)
    · cases only _ failed nofun
    · cases only _ failed nofun
  · rintro ⟨rfl, own⟩
    rcases eq_of_settled_error settled with (rfl | rfl) | ⟨rfl, _⟩
    · exact absurd (.inl member) own
    · exact absurd (.inr member) own
    · exact member

theorem failed_iff (writes : Writes left answers result) (error : TransportError) :
    Failed answers error ↔ result = .error error ∧ .wrote (.ok 0) ∉ answers := by
  obtain ⟨last, member, settled, only⟩ := writes.settled
  constructor
  · rintro (failed | failed)
    all_goals
      obtain rfl := only _ failed nofun
      refine ⟨(Option.some.inj settled).symm, fun nothing => ?_⟩
      cases only _ nothing nofun
  · rintro ⟨rfl, something⟩
    rcases eq_of_settled_error settled with (rfl | rfl) | ⟨rfl, _⟩
    · exact .inl member
    · exact .inr member
    · exact absurd member something

theorem good_until_last (writes : Writes left answers result) :
    ∀ answer ∈ answers.dropLast, ∃ count, 0 < count ∧ answer = .wrote (.ok count) := by
  obtain ⟨front, last, rfl, unsettled, _⟩ := writes.ends
  rw [List.dropLast_concat]
  intro answer member
  have good := unsettled answer member
  unfold settled? at good
  split at good
  case h_2 count => exact ⟨count + 1, Nat.succ_pos count, rfl⟩
  all_goals cases good

end Writes
end OutputAnswer

/-- When no byte is left, no slice is. -/
theorem Transport.dropBytes_eq_nil {count : Nat} {slices : List Bytes} (none : slices.flatten.drop count = []) :
    dropBytes count slices = [] := by
  induction slices generalizing count with
  | nil => rfl
  | cons slice slices ih =>
    have short : (slice ++ slices.flatten).length ≤ count := List.drop_eq_nil_iff.mp none
    rw [List.length_append] at short
    rw [dropBytes, if_neg (by omega)]
    exact ih (List.drop_eq_nil_iff.mpr (by omega))

theorem Batch.content_eq_flatMap (frames : List EncodedFrame) :
    Batch.content frames = frames.flatMap EncodedFrame.bytes := by
  induction frames with
  | nil => rfl
  | cons frame frames ih =>
    have apart : Batch.content (frame :: frames) = frame.slices.flatten ++ Batch.content frames :=
      List.flatten_append
    rw [apart, ih, EncodedFrame.flatten_slices, List.flatMap_cons]

namespace Writer

open OutputAnswer

/-- What the output answers to the call that the worker makes next, if it makes one. -/
def answer? (writer : Writer) : Option OutputAnswer :=
  match writer.activity with
  | .writing frames _ count _ =>
    match Batch.remaining frames count with
    | [] => none
    | slice :: rest => some (.wrote (writer.transport.write (slice :: rest)).1)
  | .flushing _ _ => some (.flushed writer.transport.flush.1)
  | _ => none

/-- What the output answers while the worker makes some steps. -/
def answers : (steps : Nat) → Writer → List OutputAnswer
  | 0, _ => []
  | steps + 1, writer =>
    match writer.step? with
    | some (_, after) => writer.answer?.toList ++ answers steps after
    | none => []

/-- What the worker does next when the writing of a batch has come to a result. -/
def concluding (tickets : List Ticket) (purpose : Purpose) : Except TransportError Unit → Activity
  | .ok () => .completing tickets purpose
  | .error error => .failing (tickets ++ purpose.tickets) (.transport error)

/-- In some steps the worker writes what is left and comes to a result. Nothing else changes, and at any time the output
has taken as much of what was left as it has reported. -/
structure Delivers (writer : Writer) (left : Bytes) (tickets : List Ticket) (purpose : Purpose) (steps : Nat)
    (result : Except TransportError Unit) (transport : Transport) : Prop where
  ran : ∀ ledger, writer.runSteps steps ledger
    = ({ writer with transport, activity := concluding tickets purpose result }, ledger)
  answered : Writes left (writer.answers steps) result
  taken : ∀ earlier ≤ steps, ∀ ledger, (writer.runSteps earlier ledger).1.transport.bytes
    = writer.transport.bytes ++ left.take (counted (writer.answers earlier))

variable {writer next : Writer} {left : Bytes} {tickets : List Ticket} {purpose : Purpose} {steps : Nat}
  {result : Except TransportError Unit} {transport : Transport}

theorem runSteps_succ (step : writer.step? = some ([], next)) (steps : Nat) (ledger : Ledger) :
    writer.runSteps (steps + 1) ledger = next.runSteps steps ledger := by
  rw [runSteps, step]
  rfl

theorem answers_succ (step : writer.step? = some ([], next)) (steps : Nat) :
    writer.answers (steps + 1) = writer.answer?.toList ++ next.answers steps := by
  rw [answers, step]

/-- A step, and then others. -/
theorem Delivers.of_step (step : writer.step? = some ([], next))
    (same : next = { writer with transport := next.transport, activity := next.activity })
    (bytes : next.transport.bytes = writer.transport.bytes ++ left.take (counted writer.answer?.toList))
    (writes : ∀ {answers}, Writes (left.drop (counted writer.answer?.toList)) answers result →
      Writes left (writer.answer?.toList ++ answers) result)
    (delivers : next.Delivers (left.drop (counted writer.answer?.toList)) tickets purpose steps result transport) :
    writer.Delivers left tickets purpose (steps + 1) result transport where
  ran := by
    intro ledger
    rw [runSteps_succ step, delivers.ran, same]
  answered := by
    rw [answers_succ step]
    exact writes delivers.answered
  taken := by
    rintro (_ | earlier) le ledger
    · simp [runSteps, answers, counted]
    · have sum : counted (writer.answers (earlier + 1))
          = counted writer.answer?.toList + counted (next.answers earlier) := by
        rw [answers_succ step]
        exact total_append _ _ _
      rw [runSteps_succ step, delivers.taken earlier (Nat.le_of_succ_le_succ le), bytes, sum, List.append_assoc,
        List.take_add]

/-- The last step. -/
theorem delivers_of_last
    (step : writer.step? = some ([], { writer with transport, activity := concluding tickets purpose result }))
    (bytes : transport.bytes = writer.transport.bytes ++ left.take (counted writer.answer?.toList))
    (writes : Writes left writer.answer?.toList result) : writer.Delivers left tickets purpose 1 result transport where
  ran := fun ledger => runSteps_succ step 0 ledger
  answered := by
    rw [answers_succ step]
    exact (List.append_nil _).symm ▸ writes
  taken := by
    rintro (_ | earlier) le ledger
    · simp [runSteps, answers, counted]
    · obtain rfl : earlier = 0 := by omega
      rw [runSteps_succ step, answers_succ step, answers, List.append_nil]
      exact bytes

theorem delivers_flush (busy : writer.activity = .flushing tickets purpose) :
    writer.Delivers [] tickets purpose 1 writer.transport.flush.1 writer.transport.flush.2 := by
  have asked : writer.answer? = some (.flushed writer.transport.flush.1) := by simp [answer?, busy]
  obtain ⟨calls, moved, -, -⟩ := writer.transport.flush_spec
  refine delivers_of_last ?_ ?_ ?_
  · rw [step?, busy]
    show some ([], writer.flushOut tickets purpose) = _
    unfold flushOut
    rcases writer.transport.flush with ⟨error | ⟨⟩, transport⟩ <;> rfl
  · rw [moved.bytes, List.take_nil]
  · rw [asked]
    exact .flushed _

theorem delivers_written {frames : List EncodedFrame} {count : Nat}
    (busy : writer.activity = .writing frames tickets count purpose) (none : (Batch.content frames).drop count = []) :
    writer.Delivers [] tickets purpose 2 writer.transport.flush.1 writer.transport.flush.2 := by
  have slices : Batch.remaining frames count = [] := Transport.dropBytes_eq_nil none
  have silent : writer.answer? = .none := by simp [answer?, busy, slices]
  have step : writer.step? = some ([], { writer with activity := .flushing tickets purpose }) := by
    simp [step?, busy, writeOn, slices]
  refine .of_step step rfl (by simp) (fun writes => ?_) ?_
  · rw [silent] at writes ⊢
    exact writes
  · rw [List.drop_nil]
    exact delivers_flush rfl

/-- A write ends the writing of a batch, or some of what was left has been taken. -/
theorem write_cases (honest : writer.transport.Honest) {frames : List EncodedFrame} {count : Nat}
    (busy : writer.activity = .writing frames tickets count purpose) (owed : (Batch.content frames).drop count = left)
    (more : left ≠ []) :
    ∃ transport : Transport,
      (∃ result, writer.step? = some ([], { writer with transport, activity := concluding tickets purpose result }) ∧
        transport.bytes = writer.transport.bytes ++ left.take (counted writer.answer?.toList) ∧
        Writes left writer.answer?.toList result) ∨
      ∃ reported, 0 < reported ∧ reported ≤ left.length ∧ writer.answer? = some (.wrote (.ok reported)) ∧
        writer.step?
          = some ([], { writer with transport, activity := .writing frames tickets (count + reported) purpose }) ∧
        transport.Honest ∧ transport.bytes = writer.transport.bytes ++ left.take reported := by
  have step : writer.step? = some ([], writer.writeOn frames tickets count purpose) := by rw [step?, busy]
  have flat := Batch.flatten_remaining frames count
  rw [owed] at flat
  rw [writeOn] at step
  rcases slices : Batch.remaining frames count with _ | ⟨slice, rest⟩
  · rw [slices] at flat
    exact absurd flat.symm more
  · have asked : writer.answer? = some (.wrote (writer.transport.write (slice :: rest)).1) := by
      simp [answer?, busy, slices]
    obtain ⟨calls, added, moved, outcome⟩ := writer.transport.write_spec (slice :: rest) honest
    rw [slices] at flat step
    dsimp only at step
    rw [asked]
    rcases answered : writer.transport.write (slice :: rest) with ⟨error | reported, transport⟩ <;>
      rw [answered] at step moved outcome <;> dsimp only at step moved outcome
    · refine ⟨transport, .inl ⟨.error error, step, ?_, .failed error more⟩⟩
      rw [moved.bytes, outcome.1]
      rfl
    · obtain ⟨le, taken, -, -⟩ := outcome
      rw [Transport.size_eq_length_flatten] at le
      rw [flat] at taken
      by_cases nothing : reported = 0
      · subst nothing
        refine ⟨transport, .inl ⟨.error Transport.writeZero, step, ?_, .nothing more⟩⟩
        rw [moved.bytes, taken]
        rfl
      · rw [if_neg nothing, Transport.countAfter, if_pos (by rwa [Transport.size_eq_length_flatten])] at step
        rw [flat] at le
        refine ⟨transport, .inr ⟨reported, Nat.pos_of_ne_zero nothing, le, rfl, step, moved.honest honest, ?_⟩⟩
        rw [moved.bytes, taken]

/-- The worker writes what is left of some frames. By induction on how much that is: every write that is good leaves
less. -/
theorem delivers_writing (honest : writer.transport.Honest) {frames : List EncodedFrame} {count : Nat}
    (busy : writer.activity = .writing frames tickets count purpose) (owed : (Batch.content frames).drop count = left) :
    ∃ steps ≤ left.length + 2, ∃ result transport, writer.Delivers left tickets purpose steps result transport := by
  induction size : left.length using Nat.strongRecOn generalizing writer count left with
  | ind most ih =>
    by_cases none : left = []
    · subst none
      exact ⟨2, by omega, _, _, delivers_written busy owed⟩
    · obtain ⟨transport, ⟨result, step, bytes, writes⟩ | ⟨reported, some, le, asked, step, fair, bytes⟩⟩ :=
        write_cases honest busy owed none
      · exact ⟨1, by omega, result, transport, delivers_of_last step bytes writes⟩
      · have rest : (Batch.content frames).drop (count + reported) = left.drop reported := by
          rw [← List.drop_drop, owed]
        have fewer : (left.drop reported).length < most := by
          rw [List.length_drop]
          omega
        have sum : counted writer.answer?.toList = reported := by
          rw [asked]
          rfl
        let resumed : Writer := { writer with transport, activity := .writing frames tickets (count + reported) purpose }
        have still : resumed.transport.Honest := fair
        obtain ⟨steps, bound, result, final, delivers⟩ := ih _ fewer still rfl rest rfl
        refine ⟨steps + 1, by omega, result, final, .of_step step rfl ?_ (fun writes => ?_) ?_⟩
        · rw [sum]
          exact bytes
        · rw [sum] at writes
          rw [asked]
          exact .some some le writes
        · rw [sum]
          exact delivers

/-- Partial writes lose nothing and repeat nothing. Let a worker begin to write a batch of frames to an output that
reports what it takes. In a bounded number of steps this comes to a result. At any time the output has taken as many bytes
of the headers and payloads as it has reported, from their beginning. All answers but the last are writes that took
something, and the output is flushed only when it has taken everything. The batch has been written if and only if all of it
was taken and the flush succeeded; the error is that of an empty write if and only if a write took nothing, and otherwise it
is the output's own. -/
theorem batch_written (writer : Writer) (purpose : Purpose) (honest : writer.transport.Honest)
    (waiting : writer.batch.frames ≠ []) :
    let begun := writer.writeOut purpose
    let before := writer.transport.bytes
    let content := writer.batch.frames.flatMap EncodedFrame.bytes
    ∃ steps ≤ content.length + 2, ∃ result transport,
      let answers := begun.answers steps
      (∀ ledger, begun.runSteps steps ledger
        = ({ begun with transport, activity := concluding writer.batch.tickets purpose result }, ledger)) ∧
      (∀ earlier ≤ steps, ∀ ledger, (begun.runSteps earlier ledger).1.transport.bytes
        = before ++ content.take (counted (begun.answers earlier))) ∧
      (∀ answer ∈ answers.dropLast, ∃ count, 0 < count ∧ answer = .wrote (.ok count)) ∧
      (∀ flush, .flushed flush ∈ answers → transport.bytes = before ++ content) ∧
      (result = .ok () ↔ transport.bytes = before ++ content ∧ .flushed (.ok ()) ∈ answers) ∧
      (.wrote (.ok 0) ∈ answers ↔ result = .error Transport.writeZero ∧ ¬ Failed answers Transport.writeZero) ∧
      ∀ error, Failed answers error ↔ result = .error error ∧ .wrote (.ok 0) ∉ answers := by
  intro begun before content
  have busy : begun = { writer with
      batch := .empty, activity := .writing writer.batch.frames writer.batch.tickets 0 purpose } :=
    if_neg (by simpa using waiting)
  have owed : (Batch.content writer.batch.frames).drop 0 = content := Batch.content_eq_flatMap _
  obtain ⟨steps, bound, result, transport, delivers⟩ :=
    begun.delivers_writing (by rw [busy]; exact honest) (by rw [busy]) owed
  have writes := delivers.answered
  have same : begun.transport.bytes = before := by rw [busy]
  have whole {flush : Except TransportError Unit} (flushed : .flushed flush ∈ begun.answers steps) :
      transport.bytes = before ++ content := by
    have final := delivers.taken steps (Nat.le_refl _) .empty
    rw [delivers.ran, same, (writes.of_flushed flushed).1, List.take_length] at final
    exact final
  refine ⟨steps, bound, result, transport, delivers.ran, ?_, writes.good_until_last, fun _ => whole, ?_,
    writes.nothing_iff, writes.failed_iff⟩
  · rw [← same]
    exact delivers.taken
  · rw [writes.ok_iff]
    exact ⟨fun flushed => ⟨whole flushed, flushed⟩, And.right⟩

/-- Three frames, the second without a payload, wait to be written to an output that takes them in parts: one byte, four
bytes, and then what the last answer says. -/
def inParts (last : WriteAnswer) : Writer :=
  let frames : List Frame := [⟨.text, true, [97, 98]⟩, ⟨.binary, true, []⟩, ⟨.ping, true, [120, 121, 122]⟩]
  let transport := { Transport.unlimited with writes := [.take 1, .notReady, .take 4, last] }
  { Writer.start .standard (fun _ => ⟨0, 0, 0, 0⟩) transport with
    batch := ⟨frames.map (EncodedFrame.ofFrame · none), [0, 1, 2], 11⟩ }

/-- The output takes everything in the end, or it takes nothing more after five bytes. -/
theorem batch_written_inParts :
    (∃ steps ≤ 13, ∃ transport, (((inParts (.take 2)).writeOut .pass).runSteps steps .empty).1
        = { (inParts (.take 2)).writeOut .pass with transport, activity := .completing [0, 1, 2] .pass } ∧
      transport.bytes = [129, 2, 97, 98, 130, 0, 137, 3, 120, 121, 122]) ∧
    ∃ steps ≤ 13, ∃ transport, (((inParts (.take 0)).writeOut .pass).runSteps steps .empty).1
        = { (inParts (.take 0)).writeOut .pass with
          transport, activity := .failing [0, 1, 2] (.transport Transport.writeZero) } ∧
      transport.bytes = [129, 2, 97, 98, 130] := by
  have fair (count : Nat) : (inParts (.take count)).transport.Honest := by
    rintro answer (_ | ⟨_, _ | ⟨_, _ | ⟨_, _ | ⟨_, ⟨⟩⟩⟩⟩⟩) <;> trivial
  constructor
  · obtain ⟨steps, bound, result, transport, ran, -, -, -, done, -, -⟩ :=
      batch_written (inParts (.take 2)) .pass (fair 2) (by decide)
    have sound : ∀ steps ≤ 13, (((inParts (.take 2)).writeOut .pass).runSteps steps .empty).1.activity.error? = none := by
      decide +kernel
    have here := sound steps bound
    rw [ran] at here
    cases result with
    | error error => cases here
    | ok => exact ⟨steps, bound, transport, congrArg Prod.fst (ran .empty), (done.mp rfl).1⟩
  · obtain ⟨steps, bound, result, transport, ran, taken, -, -, done, -, -⟩ :=
      batch_written (inParts (.take 0)) .pass (fair 0) (by decide)
    have wrong : ∀ steps ≤ 13, .flushed (.ok ()) ∉ ((inParts (.take 0)).writeOut .pass).answers steps ∧
        ∀ error ∈ (((inParts (.take 0)).writeOut .pass).runSteps steps .empty).1.activity.error?,
          error = .transport Transport.writeZero ∧ counted (((inParts (.take 0)).writeOut .pass).answers steps) = 5 := by
      decide +kernel
    obtain ⟨unflushed, failed⟩ := wrong steps bound
    have final := taken steps (Nat.le_refl _) .empty
    rw [ran] at failed final
    cases result with
    | ok => exact absurd (done.mp rfl).2 unflushed
    | error error =>
      obtain ⟨same, five⟩ := failed _ rfl
      cases same
      rw [five] at final
      exact ⟨steps, bound, transport, congrArg Prod.fst (ran .empty), final⟩

end Writer
end Egress
