import Egress.Writer.Transport

/-!
What an output is given. A transport that reports the bytes it takes, and no others, has taken a front part of what
it was offered after every call, and its calls tell how many bytes had been taken when it was last flushed.
-/
namespace Egress

/-- An answer that reports what was taken. -/
def WriteAnswer.Honest : WriteAnswer → Prop
  | .claim _ => False
  | _ => True

def TransportCall.reported : TransportCall → Nat
  | .write _ _ (.done reported) => reported
  | _ => 0

/-- Whether a call failed, or was a write that took nothing. -/
def TransportCall.Failed : TransportCall → Prop
  | .write _ _ result => result = .failed ∨ result = .done 0
  | .flush result => result = .failed

namespace Transport

/-- The transport reports the bytes that it takes, and no others. -/
def Honest (transport : Transport) : Prop := ∀ answer ∈ transport.writes, answer.Honest

def bytes (transport : Transport) : Bytes := transport.taken.toList

def reported (calls : List TransportCall) : Nat := total TransportCall.reported calls

theorem reported_append (calls others : List TransportCall) :
    reported (calls ++ others) = reported calls + reported others := by
  simp [reported]

/-- The transport was flushed with success when it had reported `count` bytes or more. -/
def FlushedPast (transport : Transport) (count : Nat) : Prop :=
  ∃ front back, transport.calls.toList = front ++ .flush (.done 0) :: back ∧ count ≤ reported front

theorem FlushedPast.mono {transport : Transport} {count fewer : Nat} (flushed : transport.FlushedPast count)
    (le : fewer ≤ count) : transport.FlushedPast fewer := by
  obtain ⟨front, back, calls, past⟩ := flushed
  exact ⟨front, back, calls, Nat.le_trans le past⟩

/-- Calls are only added to those before. -/
theorem FlushedPast.of_calls {transport transport' : Transport} {count : Nat} {more : List TransportCall}
    (flushed : transport.FlushedPast count) (calls : transport'.calls.toList = transport.calls.toList ++ more) :
    transport'.FlushedPast count := by
  obtain ⟨front, back, before, past⟩ := flushed
  exact ⟨front, back ++ more, by rw [calls, before]; simp, past⟩

/-! ## Writing -/

@[simp] theorem size_nil : size [] = 0 := rfl

@[simp] theorem size_cons (slice : Bytes) (slices : List Bytes) : size (slice :: slices) = slice.length + size slices := by
  simp [size]

/-- What is offered is a front part of the slices. -/
theorem flatten_offered_prefix (transport : Transport) (slices : List Bytes) :
    (transport.offered slices).flatten <+: slices.flatten := by
  unfold offered
  split
  · exact List.prefix_refl _
  · induction slices with
    | nil => simp
    | cons slice slices ih =>
      cases slice with
      | nil => simpa using ih
      | cons byte rest => simp

/-- How a call on the transport left it: it has used up answers, has noted calls, and has added bytes. -/
structure Moved (before after : Transport) (calls : List TransportCall) (added : Bytes) : Prop where
  vectored : after.vectored = before.vectored
  limit : after.limit = before.limit
  writes : after.writes <:+ before.writes
  calls : after.calls.toList = before.calls.toList ++ calls
  bytes : after.bytes = before.bytes ++ added

theorem Moved.refl (transport : Transport) : transport.Moved transport [] [] :=
  ⟨rfl, rfl, List.suffix_refl _, by simp, by simp⟩

theorem Moved.honest {before after : Transport} {calls : List TransportCall} {added : Bytes}
    (moved : before.Moved after calls added) (honest : before.Honest) : after.Honest :=
  fun answer member => honest answer (moved.writes.subset member)

/-- What an honest write comes to: it takes a front part of the slices and reports its length, or it fails and
takes nothing. -/
def WriteResult (slices : List Bytes) (added : Bytes) (calls : List TransportCall) :
    Except TransportError Nat → Prop
  | .ok count => count ≤ size slices ∧ added = slices.flatten.take count ∧ reported calls = count ∧
      (count = 0 → ∃ call ∈ calls, call.Failed)
  | .error _ => added = [] ∧ reported calls = 0 ∧ ∃ call ∈ calls, call.Failed

theorem accept_spec (transport : Transport) (slices : List Bytes) {count : Nat} (le : count ≤ size slices) :
    ∃ calls added, transport.Moved (transport.accept slices count count).2 calls added ∧
      WriteResult slices added calls (transport.accept slices count count).1 := by
  refine ⟨[.write slices.length (size slices) (.done count)], slices.flatten.take count, ?_, ?_⟩
  · exact ⟨rfl, rfl, List.suffix_refl _, by simp [accept, log],
      by simp [accept, log, bytes, takeBytes_eq_take_flatten]⟩
  · refine ⟨le, rfl, by simp [reported, TransportCall.reported], ?_⟩
    rintro rfl
    exact ⟨_, List.mem_singleton.mpr rfl, .inr rfl⟩

theorem capacity_le (transport : Transport) (slices : List Bytes) : transport.capacity slices ≤ size slices := by
  unfold capacity
  split
  · exact Nat.min_le_right _ _
  · exact Nat.le_refl _

/-- A call that is noted without any other effect. -/
theorem Moved.of_log {before after : Transport} {call : TransportCall} {calls : List TransportCall} {added : Bytes}
    (moved : (before.log call).Moved after calls added) : before.Moved after (call :: calls) added :=
  ⟨moved.vectored, moved.limit, moved.writes, by rw [moved.calls]; simp [log], moved.bytes⟩

/-- Using up answers changes nothing else. -/
theorem Moved.of_writes {before after : Transport} {rest : List WriteAnswer} {calls : List TransportCall}
    {added : Bytes} (suffix : rest <:+ before.writes)
    (moved : ({ before with writes := rest } : Transport).Moved after calls added) :
    before.Moved after calls added :=
  ⟨moved.vectored, moved.limit, moved.writes.trans suffix, moved.calls, moved.bytes⟩

theorem writeBy_spec (answers : List WriteAnswer) (transport : Transport) (slices : List Bytes)
    (suffix : answers <:+ transport.writes) (honest : ∀ answer ∈ answers, answer.Honest) :
    ∃ calls added, transport.Moved (writeBy answers transport slices).2 calls added ∧
      WriteResult slices added calls (writeBy answers transport slices).1 := by
  induction answers generalizing transport with
  | nil =>
    obtain ⟨calls, added, moved, result⟩ :=
      ({ transport with writes := [] } : Transport).accept_spec slices (capacity_le transport slices)
    exact ⟨calls, added, moved.of_writes suffix, result⟩
  | cons answer rest ih =>
    have rest_suffix : rest <:+ transport.writes := (List.suffix_cons answer rest).trans suffix
    cases answer with
    | take count =>
      obtain ⟨calls, added, moved, result⟩ :=
        ({ transport with writes := rest } : Transport).accept_spec slices (Nat.min_le_right count (size slices))
      exact ⟨calls, added, moved.of_writes rest_suffix, result⟩
    | claim count => exact absurd (honest _ List.mem_cons_self) id
    | fail error =>
      refine ⟨[.write slices.length (size slices) .failed], [], ?_, rfl, rfl, ?_⟩
      · exact ⟨rfl, rfl, rest_suffix, by simp [writeBy, log], by simp [writeBy, log, bytes]⟩
      · exact ⟨_, List.mem_singleton.mpr rfl, .inl rfl⟩
    | notReady =>
      let call : TransportCall := .write slices.length (size slices) .notReady
      obtain ⟨calls, added, moved, result⟩ := ih (transport.log call) rest_suffix
        (fun answer member => honest answer (List.mem_cons_of_mem _ member))
      refine ⟨call :: calls, added, moved.of_log, ?_⟩
      have silent : reported (call :: calls) = reported calls := by
        simp [reported, call, TransportCall.reported]
      show WriteResult slices added (call :: calls) (writeBy rest (transport.log call) slices).1
      revert result
      cases (writeBy rest (transport.log call) slices).1 with
      | error error =>
        rintro ⟨none, zero, failed, member, bad⟩
        exact ⟨none, silent.trans zero, failed, List.mem_cons_of_mem _ member, bad⟩
      | ok count =>
        rintro ⟨le, front, sum, empty⟩
        refine ⟨le, front, silent.trans sum, fun zero => ?_⟩
        obtain ⟨failed, member, bad⟩ := empty zero
        exact ⟨failed, List.mem_cons_of_mem _ member, bad⟩

/-- An honest write takes a front part of the slices and reports its length, or it fails and takes nothing. -/
theorem write_spec (transport : Transport) (slices : List Bytes) (honest : transport.Honest) :
    ∃ calls added, transport.Moved (transport.write slices).2 calls added ∧
      WriteResult slices added calls (transport.write slices).1 := by
  obtain ⟨calls, added, moved, result⟩ :=
    writeBy_spec transport.writes transport (transport.offered slices) (List.suffix_refl _) honest
  refine ⟨calls, added, moved, ?_⟩
  have front := flatten_offered_prefix transport slices
  change WriteResult slices added calls (writeBy transport.writes transport (transport.offered slices)).1
  revert result
  cases (writeBy transport.writes transport (transport.offered slices)).1 with
  | error error => exact id
  | ok count =>
    rintro ⟨le, taken, sum, empty⟩
    have offered_le : size (transport.offered slices) ≤ size slices := by
      rw [size_eq_length_flatten, size_eq_length_flatten]
      exact front.length_le
    refine ⟨Nat.le_trans le offered_le, ?_, sum, empty⟩
    obtain ⟨rest, whole⟩ := front
    rw [taken, ← whole, List.take_append_of_le_length (by rwa [← size_eq_length_flatten])]

/-! ## Flushing -/

/-- What a flush comes to: it takes nothing, and it is either noted as done or as failed. -/
def FlushResult (calls : List TransportCall) : Except TransportError Unit → Prop
  | .ok () => ∃ front, calls = front ++ [.flush (.done 0)]
  | .error _ => ∃ call ∈ calls, call.Failed

theorem flushBy_spec (answers : List FlushAnswer) (transport : Transport) :
    ∃ calls, transport.Moved (flushBy answers transport).2 calls [] ∧ reported calls = 0 ∧
      FlushResult calls (flushBy answers transport).1 := by
  induction answers generalizing transport with
  | nil =>
    exact ⟨[.flush (.done 0)], ⟨rfl, rfl, List.suffix_refl _, by simp [flushBy, log], by simp [flushBy, log, bytes]⟩,
      rfl, [], rfl⟩
  | cons answer rest ih =>
    cases answer with
    | done =>
      exact ⟨[.flush (.done 0)], ⟨rfl, rfl, List.suffix_refl _, by simp [flushBy, log], by simp [flushBy, log, bytes]⟩,
        rfl, [], rfl⟩
    | fail error =>
      exact ⟨[.flush .failed], ⟨rfl, rfl, List.suffix_refl _, by simp [flushBy, log], by simp [flushBy, log, bytes]⟩,
        rfl, _, List.mem_singleton.mpr rfl, rfl⟩
    | notReady =>
      obtain ⟨calls, moved, silent, result⟩ := ih (transport.log (.flush .notReady))
      refine ⟨.flush .notReady :: calls, moved.of_log, by simpa [reported, TransportCall.reported] using silent, ?_⟩
      show FlushResult (.flush .notReady :: calls) (flushBy rest (transport.log (.flush .notReady))).1
      revert result
      cases (flushBy rest (transport.log (.flush .notReady))).1 with
      | error error =>
        rintro ⟨failed, member, bad⟩
        exact ⟨failed, List.mem_cons_of_mem _ member, bad⟩
      | ok =>
        rintro ⟨front, rfl⟩
        exact ⟨.flush .notReady :: front, rfl⟩

/-- A flush takes nothing; if it succeeds, all that was reported before it has been flushed. -/
theorem flush_spec (transport : Transport) :
    ∃ calls, transport.Moved transport.flush.2 calls [] ∧ reported calls = 0 ∧ FlushResult calls transport.flush.1 :=
  flushBy_spec transport.flushes transport

/-- After a successful flush, all that was reported before has been flushed. -/
theorem flushedPast_of_flush {before after : Transport} {calls : List TransportCall}
    (moved : before.Moved after calls []) (done : FlushResult calls (.ok ())) :
    after.FlushedPast (reported before.calls.toList) := by
  obtain ⟨front, rfl⟩ := done
  refine ⟨before.calls.toList ++ front, [], by rw [moved.calls, List.append_assoc], ?_⟩
  rw [reported_append]
  exact Nat.le_add_right _ _

end Transport
end Egress
