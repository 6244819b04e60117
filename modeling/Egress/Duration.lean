/-!
Spans of time, and how they are counted in milliseconds.
-/
namespace Egress

/-- A span of time, in whole nanoseconds. -/
structure Duration where
  nanos : Nat
  deriving DecidableEq

namespace Duration

def ofMillis (millis : Nat) : Duration := ⟨millis * 1000000⟩

def ofSeconds (seconds nanos : Nat) : Duration := ⟨seconds * 1000000000 + nanos⟩

def millis (span : Duration) : Nat := span.nanos / 1000000

def seconds (span : Duration) : Nat := span.nanos / 1000000000

/-- The whole milliseconds, or the largest 64-bit number if they are more. -/
def millisClamped (span : Duration) : UInt64 := UInt64.ofNat (min span.millis (UInt64.size - 1))

/-- The low 64 bits of the whole milliseconds. -/
def millisLow (span : Duration) : UInt64 := UInt64.ofNat span.millis

@[simp] theorem millis_ofMillis (n : Nat) : (ofMillis n).millis = n := by
  simp [millis, ofMillis]

end Duration
end Egress
