import Egress.Bytes
import Egress.Failure

/-!
The transport under a writer. What a transport does with the calls to come is laid down beforehand: it may take
part of what it is offered, take nothing, fail, not be ready yet, or report another number of bytes than it took.
-/
namespace Egress

inductive WriteAnswer where
  /-- It takes so many bytes, or all if there are fewer. -/
  | take (count : Nat)
  /-- It takes what it can and reports another number. -/
  | claim (count : Nat)
  | fail (error : TransportError)
  | notReady

inductive FlushAnswer where
  | done
  | fail (error : TransportError)
  | notReady

/-- How a call on a transport went. -/
inductive CallResult where
  /-- It was done; for a write, with the number of bytes that was reported. -/
  | done (reported : Nat)
  | notReady
  | failed
  deriving DecidableEq

inductive TransportCall where
  | write (slices offered : Nat) (result : CallResult)
  | flush (result : CallResult)
  deriving DecidableEq

/-- A transport: how it answers, what it has taken, and how it was called. -/
structure Transport where
  /-- Whether a write offers all slices, or only the first one that is not empty. -/
  vectored : Bool
  /-- The most bytes that a write can take, where nothing else is laid down. -/
  limit : Option Nat
  writes : List WriteAnswer
  flushes : List FlushAnswer
  taken : Array UInt8
  calls : Array TransportCall

namespace Transport

def unlimited : Transport := ⟨true, none, [], [], #[], #[]⟩

/-- The error of a write that takes nothing. -/
def writeZero : TransportError := ⟨.writeZero, "write_vectored returned 0"⟩

/-- What a write shows the transport of the slices. -/
def offered (transport : Transport) (slices : List Bytes) : List Bytes :=
  if transport.vectored then slices else (slices.filter (!·.isEmpty)).take 1

def log (transport : Transport) (call : TransportCall) : Transport :=
  { transport with calls := transport.calls.push call }

def size (slices : List Bytes) : Nat := total List.length slices

def takeBytes : (count : Nat) → List Bytes → Bytes
  | _, [] => []
  | count, slice :: slices =>
    if count ≤ slice.length then slice.take count
    else slice ++ takeBytes (count - slice.length) slices

/-- The slices without their first `count` bytes and without slices that are empty then. -/
def dropBytes : (count : Nat) → List Bytes → List Bytes
  | _, [] => []
  | count, slice :: slices =>
    if count < slice.length then slice.drop count :: slices
    else dropBytes (count - slice.length) slices

theorem size_eq_length_flatten (slices : List Bytes) : size slices = slices.flatten.length := by
  induction slices with
  | nil => rfl
  | cons slice slices ih => rw [List.flatten_cons, List.length_append, ← ih]; rfl

theorem takeBytes_eq_take_flatten (count : Nat) (slices : List Bytes) :
    takeBytes count slices = slices.flatten.take count := by
  induction slices generalizing count with
  | nil => simp [takeBytes]
  | cons slice slices ih =>
    rw [takeBytes, List.flatten_cons, List.take_append]
    split
    case isTrue short => simp [Nat.sub_eq_zero_of_le short]
    case isFalse long =>
      have whole : slice.take count = slice := List.take_of_length_le (by omega)
      rw [ih, whole]

theorem flatten_dropBytes (count : Nat) (slices : List Bytes) :
    (dropBytes count slices).flatten = slices.flatten.drop count := by
  induction slices generalizing count with
  | nil => simp [dropBytes]
  | cons slice slices ih =>
    rw [dropBytes, List.flatten_cons, List.drop_append]
    split
    case isTrue inside => simp [Nat.sub_eq_zero_of_le (Nat.le_of_lt inside)]
    case isFalse past =>
      have nothing : slice.drop count = [] := List.drop_of_length_le (by omega)
      rw [ih, nothing, List.nil_append]

/-- Takes bytes off the front of the slices and reports a number. -/
def accept (transport : Transport) (slices : List Bytes) (count reported : Nat) :
    Except TransportError Nat × Transport :=
  (.ok reported, { transport with taken := transport.taken ++ takeBytes count slices }.log
    (.write slices.length (size slices) (.done reported)))

/-- How many bytes a write takes where nothing is laid down for it. -/
def capacity (transport : Transport) (slices : List Bytes) : Nat :=
  match transport.limit with
  | some limit => min limit (size slices)
  | none => size slices

/-- Answers a write as laid down, calling again as long as the transport is not ready. -/
def writeBy : List WriteAnswer → Transport → List Bytes → Except TransportError Nat × Transport
  | [], transport, slices =>
    let count := transport.capacity slices
    { transport with writes := [] }.accept slices count count
  | .take count :: rest, transport, slices =>
    let count := min count (size slices)
    { transport with writes := rest }.accept slices count count
  | .claim reported :: rest, transport, slices =>
    { transport with writes := rest }.accept slices (transport.capacity slices) reported
  | .fail error :: rest, transport, slices =>
    (.error error, { transport with writes := rest }.log (.write slices.length (size slices) .failed))
  | .notReady :: rest, transport, slices =>
    writeBy rest (transport.log (.write slices.length (size slices) .notReady)) slices

/-- Writes the slices, or some of their bytes, and says how many. -/
def write (transport : Transport) (slices : List Bytes) : Except TransportError Nat × Transport :=
  writeBy transport.writes transport (transport.offered slices)

/-- Answers a flush as laid down, calling again as long as the transport is not ready. -/
def flushBy : List FlushAnswer → Transport → Except TransportError Unit × Transport
  | [], transport => (.ok (), { transport with flushes := [] }.log (.flush (.done 0)))
  | .done :: rest, transport => (.ok (), { transport with flushes := rest }.log (.flush (.done 0)))
  | .fail error :: rest, transport => (.error error, { transport with flushes := rest }.log (.flush .failed))
  | .notReady :: rest, transport => flushBy rest (transport.log (.flush .notReady))

/-- Makes the transport pass on what it has taken. -/
def flush (transport : Transport) : Except TransportError Unit × Transport :=
  flushBy transport.flushes transport

/-- How many bytes count as written after a further report, when `left` were still to be written. A transport
may report more than that; the count has 64 bits and then runs over. -/
def countAfter (count left reported : Nat) : Nat :=
  if reported ≤ left then count + reported else (count + reported) % UInt64.size

end Transport
end Egress
