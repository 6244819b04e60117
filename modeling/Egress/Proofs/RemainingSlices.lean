import Egress.Proofs.WrittenBatch

/-!
What is left of a batch. An output may stop anywhere: inside a header, inside a payload, or where one of them ends. What it
is offered next is found by going over the frames and comparing where their headers and payloads begin and end with how much
it has taken. Together the slices are the rest of the batch, none of them is empty, and there are none only when everything
has been taken.
-/
namespace Egress

namespace Transport

theorem ne_nil_of_mem_dropBytes {slices : List Bytes} (filled : ∀ slice ∈ slices, slice ≠ []) (count : Nat) :
    ∀ slice ∈ dropBytes count slices, slice ≠ [] := by
  induction slices generalizing count with
  | nil => exact nofun
  | cons first rest ih =>
    have later : ∀ slice ∈ rest, slice ≠ [] := fun slice member => filled slice (List.mem_cons_of_mem _ member)
    rw [dropBytes]
    split
    case isTrue inside =>
      intro slice member
      rcases List.mem_cons.mp member with rfl | member
      · exact List.ne_nil_of_length_pos (by rw [List.length_drop]; omega)
      · exact later slice member
    case isFalse => exact ih later _

end Transport

namespace Batch

variable {frames : List EncodedFrame}

/-- What is left of a header or payload that begins at `start` when `taken` bytes have been taken: nothing if it ends
by then. -/
def leftOf (taken start : Nat) (part : Bytes) : List Bytes :=
  if taken < start + part.length then [part.drop (taken - start)] else []

/-- What is left of the frames, of which the first begins at `start`, when `taken` bytes have been taken. -/
def leftFrom (taken : Nat) : (start : Nat) → List EncodedFrame → List Bytes
  | _, [] => []
  | start, frame :: frames =>
    let bodyStart := start + frame.header.length
    leftOf taken start frame.header
      ++ ((if frame.body.isEmpty then [] else leftOf taken bodyStart frame.body)
        ++ leftFrom taken (bodyStart + frame.body.length) frames)

/-- What is left of the slices, of which the first begins at `start`: all of it if the output has not come so far. -/
def leftAmong (taken start : Nat) (slices : List Bytes) : List Bytes :=
  if taken < start then slices else Transport.dropBytes (taken - start) slices

theorem leftAmong_nil (taken start : Nat) : leftAmong taken start [] = [] := by
  unfold leftAmong
  split <;> rfl

theorem leftAmong_cons (taken start : Nat) (slice : Bytes) (rest : List Bytes) :
    leftAmong taken start (slice :: rest)
      = leftOf taken start slice ++ leftAmong taken (start + slice.length) rest := by
  by_cases before : taken < start
  · have whole : slice.drop (taken - start) = slice := by rw [Nat.sub_eq_zero_of_le (Nat.le_of_lt before), List.drop_zero]
    have short : taken < start + slice.length := by omega
    rw [leftAmong, leftOf, leftAmong, if_pos before, if_pos short, if_pos short, whole]
    rfl
  · rw [leftAmong, leftOf, leftAmong, if_neg before, Transport.dropBytes]
    by_cases inside : taken < start + slice.length
    · rw [if_pos (by omega), if_pos inside, if_pos inside]
      rfl
    · rw [if_neg (by omega), if_neg inside, if_neg inside, Nat.sub_sub]
      rfl

theorem leftFrom_eq_leftAmong (taken start : Nat) (frames : List EncodedFrame) :
    leftFrom taken start frames = leftAmong taken start (slices frames) := by
  induction frames generalizing start with
  | nil => exact (leftAmong_nil taken start).symm
  | cons frame frames ih =>
    have apart : slices (frame :: frames) = frame.slices ++ slices frames := List.flatMap_cons
    rw [leftFrom, apart, EncodedFrame.slices]
    cases empty : frame.body.isEmpty with
    | true =>
      have none : frame.body.length = 0 := by rw [List.isEmpty_iff.mp empty, List.length_nil]
      rw [if_pos rfl, if_pos rfl, none, ih, List.singleton_append, leftAmong_cons, List.nil_append, Nat.add_zero]
    | false =>
      rw [if_neg nofun, if_neg nofun, ih]
      show _ = leftAmong taken start (frame.header :: frame.body :: slices frames)
      rw [leftAmong_cons, leftAmong_cons]

theorem remaining_eq_leftFrom (frames : List EncodedFrame) (taken : Nat) :
    remaining frames taken = leftFrom taken 0 frames := by
  rw [leftFrom_eq_leftAmong, leftAmong, if_neg (Nat.not_lt_zero taken), Nat.sub_zero]
  rfl

theorem length_content (frames : List EncodedFrame) : (content frames).length = total EncodedFrame.size frames := by
  rw [content, ← Transport.size_eq_length_flatten, size_slices]

theorem remaining_eq_nil_iff (frames : List EncodedFrame) (taken : Nat) :
    remaining frames taken = [] ↔ total EncodedFrame.size frames ≤ taken := by
  rw [← length_content, ← List.drop_eq_nil_iff]
  constructor
  · intro none
    rw [← flatten_remaining, none, List.flatten_nil]
  · exact Transport.dropBytes_eq_nil

theorem ne_nil_of_mem_slices (headed : ∀ frame ∈ frames, frame.header ≠ []) : ∀ slice ∈ slices frames, slice ≠ [] := by
  intro slice member
  obtain ⟨frame, among, part⟩ := List.mem_flatMap.mp member
  unfold EncodedFrame.slices at part
  split at part
  case isTrue =>
    obtain rfl := List.mem_singleton.mp part
    exact headed frame among
  case isFalse filled =>
    rcases List.mem_cons.mp part with rfl | part
    · exact headed frame among
    · obtain rfl := List.mem_singleton.mp part
      exact fun none => filled (List.isEmpty_iff.mpr none)

/-- However many bytes of a batch have been taken, the slices that are left are those that one finds by going over the
headers and payloads and where they begin and end. They hold what comes after these bytes, nothing else and nothing twice;
none of them is empty if every frame has a header; and there are none if and only if the whole batch has been taken. -/
theorem remaining_cut_at (frames : List EncodedFrame) (headed : ∀ frame ∈ frames, frame.header ≠ []) (taken : Nat) :
    let slices := remaining frames taken
    slices = leftFrom taken 0 frames ∧
    slices.flatten = (frames.flatMap EncodedFrame.bytes).drop taken ∧
    (∀ slice ∈ slices, slice ≠ []) ∧
    (slices = [] ↔ total EncodedFrame.size frames ≤ taken) := by
  refine ⟨remaining_eq_leftFrom frames taken, ?_, ?_, remaining_eq_nil_iff frames taken⟩
  · rw [flatten_remaining, content_eq_flatMap]
  · exact Transport.ne_nil_of_mem_dropBytes (ne_nil_of_mem_slices headed) taken

/-- A text, a masked frame without a payload, and a ping. The output stops inside the first payload, at its end, and at the
end of the batch. -/
theorem remaining_cut_at_places :
    let frames : List EncodedFrame :=
      [.ofFrame ⟨.text, true, [104, 105]⟩ none, .ofFrame ⟨.binary, true, []⟩ (some ⟨1, 2, 3, 4⟩),
        .ofFrame ⟨.ping, true, [120]⟩ none]
    (∀ frame ∈ frames, frame.header ≠ []) ∧
    leftFrom 3 0 frames = [[105], [130, 128, 1, 2, 3, 4], [137, 1], [120]] ∧
    (remaining frames 3).flatten = [105, 130, 128, 1, 2, 3, 4, 137, 1, 120] ∧
    (∀ slice ∈ remaining frames 4, slice ≠ []) ∧ remaining frames 12 ≠ [] ∧ remaining frames 13 = [] := by
  intro frames
  have headed : ∀ frame ∈ frames, frame.header ≠ [] := by decide
  obtain ⟨positions, inside, -, -⟩ := remaining_cut_at frames headed 3
  obtain ⟨-, -, filled, -⟩ := remaining_cut_at frames headed 4
  obtain ⟨-, -, -, before⟩ := remaining_cut_at frames headed 12
  obtain ⟨-, -, -, ended⟩ := remaining_cut_at frames headed 13
  refine ⟨headed, positions.symm.trans (by decide), inside.trans (by decide), filled, ?_, ended.mpr (by decide)⟩
  exact fun none => absurd (before.mp none) (by decide)

end Batch
end Egress
