import Egress.Writer

/-!
Histories of a writer. Commands are sent through its handles and its worker makes steps, in any order; a history
keeps the commands that were taken on and what the worker has completed.
-/
namespace Egress

namespace Command

def frameCount : List Command → Nat
  | [] => 0
  | .frame _ _ _ :: rest => frameCount rest + 1
  | .flush _ :: rest => frameCount rest

/-- The bytes of the frames among some commands, in order, when `n` frames come before them. -/
def wireFrom (key : Nat → Option MaskKey) : (n : Nat) → List Command → Bytes
  | _, [] => []
  | n, .frame content _ _ :: rest => content.encode (key n) ++ wireFrom key (n + 1) rest
  | n, .flush _ :: rest => wireFrom key n rest

/-- The bytes of the frames among some commands, in order. -/
def wire (key : Nat → Option MaskKey) (commands : List Command) : Bytes := wireFrom key 0 commands

theorem frameCount_append (front back : List Command) :
    frameCount (front ++ back) = frameCount front + frameCount back := by
  induction front with
  | nil => simp [frameCount]
  | cons command front ih => cases command <;> simp [frameCount, ih]; omega

theorem wireFrom_append (key : Nat → Option MaskKey) (n : Nat) (front back : List Command) :
    wireFrom key n (front ++ back) = wireFrom key n front ++ wireFrom key (n + frameCount front) back := by
  induction front generalizing n with
  | nil => simp [wireFrom, frameCount]
  | cons command front ih =>
    cases command with
    | frame frame ticket mode => simp [wireFrom, frameCount, ih, Nat.add_assoc, Nat.add_comm 1]
    | flush ticket => simp [wireFrom, frameCount, ih]

theorem wire_append (key : Nat → Option MaskKey) (front back : List Command) :
    wire key (front ++ back) = wire key front ++ wireFrom key (frameCount front) back := by
  simp [wire, wireFrom_append]

/-- The bytes of the first commands are a front part of the bytes of all. -/
theorem wire_prefix_of_prefix (key : Nat → Option MaskKey) {front commands : List Command} (first : front <+: commands) :
    wire key front <+: wire key commands := by
  obtain ⟨back, rfl⟩ := first
  rw [wire_append]
  exact List.prefix_append _ _

end Command

inductive WriterEvent where
  | command (command : Command)
  | cloneHandle
  | dropHandle
  | setIdleTimeout (span : Duration)
  | step

structure History where
  writer : Writer
  accepted : List Command
  /-- The tickets that the worker has completed, each with its outcome, in order. -/
  completed : List (Ticket × Outcome)

namespace History

def start (writer : Writer) : History := ⟨writer, [], []⟩

def submit (history : History) (command : Command) : Outcome × History :=
  match history.writer.enqueue command with
  | (.ok (), writer) => (.ok (), { history with writer, accepted := history.accepted ++ [command] })
  | (.error error, writer) => (.error error, { history with writer })

def work (history : History) : History :=
  match history.writer.step? with
  | some (completions, writer) => { history with writer, completed := history.completed ++ completions }
  | none => history

/-- The history after an event. Nothing can be sent, and no handle cloned, without a handle. -/
def after (history : History) : WriterEvent → History
  | .command command => if history.writer.handles = 0 then history else (history.submit command).2
  | .cloneHandle =>
    if history.writer.handles = 0 then history else { history with writer := history.writer.cloneHandle }
  | .dropHandle => { history with writer := history.writer.dropHandle }
  | .setIdleTimeout span => { history with writer := history.writer.setIdleTimeout span }
  | .step => history.work

def afterAll (history : History) (events : List WriterEvent) : History := events.foldl after history

end History
end Egress
