import Egress.Failure

/-!
The sequence of data frames. A fragmented message is one text or binary frame followed by continuations, up to
and including a final frame; only control frames may stand in between. The state is the kind of the message
that has begun and not ended.

| open   | text        | binary      | continuation | control |
|--------|-------------|-------------|--------------|---------|
| none   | opens text  | opens binary| invalid      | invalid |
| text   | goes on     | in progress | goes on      | invalid |
| binary | in progress | goes on     | goes on      | invalid |
-/
namespace Egress

/-- The kind of the message that has begun and not ended, if there is one. -/
abbrev OpenMessage := Option MessageKind

namespace OpenMessage

/-- Whether a data frame with this opcode may come next, and the state after it. The final mark plays no
part here: a message ends when its last frame has been handed over. -/
def advance (state : OpenMessage) (opcode : Opcode) : Except FramingError OpenMessage :=
  match state, opcode with
  | some kind, .continuation => .ok (some kind)
  | state, opcode =>
    match opcode.kind? with
    | none => .error (.cannotBegin opcode)
    | some attempted =>
      match state with
      | none => .ok (some attempted)
      | some current =>
        if current = attempted then .ok (some current) else .error (.inProgress current attempted)

/-- The opcode of the next fragment of a message of this kind. -/
def fragmentOpcode (state : OpenMessage) (kind : MessageKind) : Opcode :=
  if state = some kind then .continuation else kind.opcode

end OpenMessage
end Egress
