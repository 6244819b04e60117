import Egress.Bytes

/-!
Buffers in which messages are put together, and the pool that keeps buffers for the next message.
-/
namespace Egress

/-- A growing run of bytes and the room it has without growing. -/
structure Buffer where
  content : Array UInt8
  capacity : Nat

namespace Buffer

def fresh (capacity : Nat) : Buffer := ⟨#[], capacity⟩

def size (buffer : Buffer) : Nat := buffer.content.size

def isEmpty (buffer : Buffer) : Bool := buffer.content.isEmpty

def toBytes (buffer : Buffer) : Bytes := buffer.content.toList

def clear (buffer : Buffer) : Buffer := { buffer with content := #[] }

def reserve (buffer : Buffer) (more : Nat) : Buffer :=
  { buffer with capacity := max buffer.capacity (buffer.size + more) }

def write (buffer : Buffer) (bytes : Bytes) : Buffer :=
  let content := buffer.content ++ bytes
  { content, capacity := max buffer.capacity content.size }

/-- What is left when the content is taken out, together with its room. -/
def drained (buffer : Buffer) : Buffer := ⟨#[], buffer.capacity - buffer.size⟩

@[simp] theorem size_fresh (capacity : Nat) : (fresh capacity).size = 0 := rfl
@[simp] theorem size_clear (buffer : Buffer) : buffer.clear.size = 0 := rfl
@[simp] theorem size_drained (buffer : Buffer) : buffer.drained.size = 0 := rfl
@[simp] theorem size_reserve (buffer : Buffer) (more : Nat) : (buffer.reserve more).size = buffer.size := rfl
@[simp] theorem toBytes_fresh (capacity : Nat) : (fresh capacity).toBytes = [] := rfl
@[simp] theorem toBytes_clear (buffer : Buffer) : buffer.clear.toBytes = [] := rfl
@[simp] theorem toBytes_drained (buffer : Buffer) : buffer.drained.toBytes = [] := rfl
@[simp] theorem toBytes_reserve (buffer : Buffer) (more : Nat) : (buffer.reserve more).toBytes = buffer.toBytes := rfl

/-- What a reservation grants. -/
theorem room_reserve (buffer : Buffer) (more : Nat) : buffer.size + more ≤ (buffer.reserve more).capacity :=
  Nat.le_max_right _ _

@[simp] theorem length_toBytes (buffer : Buffer) : buffer.toBytes.length = buffer.size := by
  simp [toBytes, size]

@[simp] theorem toBytes_write (buffer : Buffer) (bytes : Bytes) :
    (buffer.write bytes).toBytes = buffer.toBytes ++ bytes := by
  simp [toBytes, write]

@[simp] theorem size_write (buffer : Buffer) (bytes : Bytes) :
    (buffer.write bytes).size = buffer.size + bytes.length := by
  simp [← length_toBytes]

end Buffer

/-- Idle buffers, the one last returned first, and how many of them are kept at most. -/
structure BufferPool where
  idle : List Buffer
  maxIdle : Nat

namespace BufferPool

/-- How many idle buffers a pool keeps unless it is told otherwise. -/
def defaultMaxIdle : Nat := 16

def ofMaxIdle (maxIdle : Nat) : BufferPool := ⟨[], maxIdle⟩

def idleCount (pool : BufferPool) : Nat := pool.idle.length

/-- Takes out an empty buffer with room for `capacity` bytes. -/
def acquire (pool : BufferPool) (capacity : Nat) : Buffer × BufferPool :=
  match pool.idle with
  | [] => (Buffer.fresh capacity, pool)
  | buffer :: rest => (buffer.clear.reserve capacity, { pool with idle := rest })

/-- Returns a buffer. A full pool does not keep it. -/
def release (pool : BufferPool) (buffer : Buffer) : BufferPool :=
  if pool.idle.length < pool.maxIdle then { pool with idle := buffer :: pool.idle } else pool

/-- What a buffer held before is gone when it is taken out again. -/
theorem toBytes_acquire (pool : BufferPool) (capacity : Nat) : (pool.acquire capacity).1.toBytes = [] := by
  unfold acquire
  split <;> rfl

theorem room_acquire (pool : BufferPool) (capacity : Nat) : capacity ≤ (pool.acquire capacity).1.capacity := by
  unfold acquire
  split
  · exact Nat.le_refl capacity
  · simpa using Buffer.room_reserve (Buffer.clear _) capacity

@[simp] theorem maxIdle_acquire (pool : BufferPool) (capacity : Nat) :
    (pool.acquire capacity).2.maxIdle = pool.maxIdle := by
  unfold acquire
  split <;> rfl

theorem idleCount_acquire (pool : BufferPool) (capacity : Nat) :
    (pool.acquire capacity).2.idleCount = pool.idleCount - 1 := by
  unfold acquire
  split <;> simp_all [idleCount]

@[simp] theorem maxIdle_release (pool : BufferPool) (buffer : Buffer) :
    (pool.release buffer).maxIdle = pool.maxIdle := by
  unfold release
  split <;> rfl

theorem idleCount_release (pool : BufferPool) (buffer : Buffer) :
    (pool.release buffer).idleCount = if pool.idleCount < pool.maxIdle then pool.idleCount + 1 else pool.idleCount := by
  unfold release idleCount
  split <;> rfl

end BufferPool
end Egress
