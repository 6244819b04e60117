import Egress.Buffer

/-!
Buffers on loan. Whoever takes a buffer out of a pool may write to it, take its content out, and give it back, empty or
not; or keep it for good. A pool may also be given buffers that were never its own. Whatever has happened, a pool keeps
no more idle buffers than it may, and a buffer taken out of it is empty and has the room that was asked for.
-/
namespace Egress

/-- A pool, and the buffers in use that were taken out of it. -/
structure Lending where
  pool : BufferPool
  lent : List Buffer

/-- What can happen to a pool and to the buffers on loan, each of which is known by its place. -/
inductive PoolEvent where
  | acquire (capacity : Nat)
  | write (place : Nat) (bytes : Bytes)
  /-- The content is taken out of a buffer, to be sent. -/
  | split (place : Nat)
  | release (place : Nat)
  /-- A buffer comes from elsewhere. -/
  | bring (buffer : Buffer)

namespace Lending

def ofMaxIdle (maxIdle : Nat) : Lending := ⟨.ofMaxIdle maxIdle, []⟩

def after (lending : Lending) : PoolEvent → Lending
  | .acquire capacity =>
    match lending.pool.acquire capacity with
    | (buffer, pool) => ⟨pool, lending.lent ++ [buffer]⟩
  | .write place bytes => { lending with lent := lending.lent.modify place (·.write bytes) }
  | .split place => { lending with lent := lending.lent.modify place Buffer.drained }
  | .release place =>
    match lending.lent[place]? with
    | some buffer => ⟨lending.pool.release buffer, lending.lent.eraseIdx place⟩
    | none => lending
  | .bring buffer => { lending with pool := lending.pool.release buffer }

def afterAll (lending : Lending) (history : List PoolEvent) : Lending := history.foldl after lending

end Lending

namespace BufferPool

variable {pool : BufferPool} {maxIdle : Nat}

/-- The pool keeps to its bound. -/
structure Bounded (maxIdle : Nat) (pool : BufferPool) : Prop where
  bound : pool.maxIdle = maxIdle
  within : pool.idleCount ≤ maxIdle

theorem Bounded.acquire (bounded : pool.Bounded maxIdle) (capacity : Nat) :
    (pool.acquire capacity).2.Bounded maxIdle where
  bound := (pool.maxIdle_acquire capacity).trans bounded.bound
  within := by
    rw [idleCount_acquire]
    exact Nat.le_trans (Nat.sub_le _ _) bounded.within

theorem Bounded.release (bounded : pool.Bounded maxIdle) (buffer : Buffer) : (pool.release buffer).Bounded maxIdle where
  bound := (pool.maxIdle_release buffer).trans bounded.bound
  within := by
    rw [idleCount_release, bounded.bound]
    split
    · exact Nat.succ_le_of_lt ‹_›
    · exact bounded.within

end BufferPool

namespace Lending

open BufferPool

variable {lending : Lending} {maxIdle : Nat}

theorem bounded_after (bounded : lending.pool.Bounded maxIdle) (event : PoolEvent) :
    (lending.after event).pool.Bounded maxIdle := by
  cases event with
  | acquire capacity => exact bounded.acquire capacity
  | write place bytes => exact bounded
  | split place => exact bounded
  | release place =>
    unfold after
    dsimp only
    split
    · exact bounded.release _
    · exact bounded
  | bring buffer => exact bounded.release buffer

theorem bounded_ofMaxIdle (maxIdle : Nat) : (ofMaxIdle maxIdle).pool.Bounded maxIdle := ⟨rfl, Nat.zero_le maxIdle⟩

/-- A pool keeps to its bound, however its buffers are used. -/
theorem bounded_afterAll (bounded : lending.pool.Bounded maxIdle) (history : List PoolEvent) :
    (lending.afterAll history).pool.Bounded maxIdle := by
  unfold afterAll
  induction history generalizing lending with
  | nil => exact bounded
  | cons event history ih => exact ih (bounded_after bounded event)

end Lending

/-! ## One buffer taken and given back -/

namespace BufferPool

/-- The second pool is what the first one comes to when a buffer is taken out of it and one is given back. -/
def LendsOnce (pool : BufferPool) (capacity : Nat) (after : BufferPool) : Prop :=
  ∃ buffer, after = (pool.acquire capacity).2.release buffer

/-- Nothing is lost: the buffer joins the idle ones, unless it is one of them already or none may be idle. -/
theorem LendsOnce.idleCount {pool after : BufferPool} {capacity maxIdle : Nat} (lends : pool.LendsOnce capacity after)
    (bounded : pool.Bounded maxIdle) : after.idleCount = max pool.idleCount (min 1 maxIdle) := by
  obtain ⟨buffer, rfl⟩ := lends
  have within := bounded.within
  rw [idleCount_release, idleCount_acquire, maxIdle_acquire, bounded.bound]
  split <;> omega

end BufferPool
end Egress
