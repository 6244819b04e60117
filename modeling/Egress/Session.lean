import Egress.Buffer
import Egress.Registry
import Egress.Settings
import Egress.Wait

/-!
What a sender needs besides its carrier: its settings, the encoders, the buffers for streamed messages, and the
turn to wait for a flush.
-/
namespace Egress

structure Session (types : ValueTypes) where
  settings : Settings
  registry : Registry types
  pool : BufferPool
  turn : Turn

namespace Session

variable {types : ValueTypes}

def ofRegistry (registry : Registry types) : Session types where
  settings := .standard
  registry
  pool := .ofMaxIdle BufferPool.defaultMaxIdle
  turn := .initial

/-- A session with the given settings, if they are usable, and a pool of its own unless one is given. -/
def build (settings : Settings) (registry : Registry types) (pool : Option BufferPool) :
    Except SendError (Session types) :=
  match settings.validate with
  | .error error => .error error
  | .ok () => .ok {
      settings
      registry
      pool := pool.getD (.ofMaxIdle BufferPool.defaultMaxIdle)
      turn := .initial }

end Session
end Egress
