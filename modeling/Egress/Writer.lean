import Egress.Carrier
import Egress.Writer.Batch

/-!
The writer: a queue of commands and a worker that takes them to the transport. Senders only queue; the worker
runs in between. A step of the worker makes one call on the transport or completes one ticket, so that steps and
sends may be interleaved in any way. In a pass it takes commands off the queue until the queue is empty or it has
taken 64, and a frame is written at once, with the pass, or on a flush, as its batch mode says. The first error of
the transport ends the worker.
-/
namespace Egress

/-- The end of the connection that the writer serves. A client masks its frames. -/
inductive Role where
  | server
  | client
  deriving DecidableEq

structure WriterSettings where
  /-- How many commands may be pending before sends are refused. -/
  maxPending : Nat
  queueCapacity : Nat
  /-- The size of a batch that is written although its mode would let it wait for the end of the pass. -/
  autoBytes : Nat
  /-- The size of a batch that is written although batching is on. -/
  maxBatchBytes : Nat
  role : Role
  idleTimeout : Duration

def WriterSettings.standard : WriterSettings where
  maxPending := 1024
  queueCapacity := 1024
  autoBytes := 16 * 1024
  maxBatchBytes := 4 * 1024 * 1024
  role := .server
  idleTimeout := .ofMillis 30000

/-- The masking key of the `n`-th frame, given the keys of all frames. A server masks nothing. -/
def WriterSettings.keyFor (settings : WriterSettings) (keys : Nat → MaskKey) (n : Nat) : Option MaskKey :=
  match settings.role with
  | .server => none
  | .client => some (keys n)

inductive Command where
  | frame (frame : Frame) (ticket : Ticket) (mode : BatchMode)
  | flush (ticket : Ticket)

def Command.ticket : Command → Ticket
  | .frame _ ticket _ | .flush ticket => ticket

/-- Why a batch is written, which is how the worker goes on when it has been written. -/
inductive Purpose where
  | pass
  /-- A flush was asked for: the transport is flushed once more, and the ticket completed. -/
  | flush (ticket : Ticket)
  | endPass
  | finish

/-- The ticket that is to be completed after those of the batch. -/
def Purpose.tickets : Purpose → List Ticket
  | .flush ticket => [ticket]
  | _ => []

/-- What the worker is about to do. -/
inductive Activity where
  | ready
  /-- Write frames, of which `count` bytes count as written. -/
  | writing (frames : List EncodedFrame) (tickets : List Ticket) (count : Nat) (purpose : Purpose)
  | flushing (tickets : List Ticket) (purpose : Purpose)
  | completing (tickets : List Ticket) (purpose : Purpose)
  /-- Complete tickets with the error that ends the worker. -/
  | failing (tickets : List Ticket) (error : SendError)
  /-- Fail what is left in the queue, which is closed by now. -/
  | closing (error : SendError)
  | ended (outcome : Outcome)

/-- The tickets that are completed before any other. -/
def Activity.tickets : Activity → List Ticket
  | .writing _ tickets _ purpose | .flushing tickets purpose | .completing tickets purpose =>
    tickets ++ purpose.tickets
  | .failing tickets _ => tickets
  | .ready | .closing _ | .ended _ => []

structure Writer where
  settings : WriterSettings
  /-- The masking key of every frame, in order. Only a client uses them. -/
  keys : Nat → MaskKey
  handles : Nat
  queue : List Command
  pending : Nat
  idleMillis : UInt64
  /-- How many commands the worker has taken in the pass it is in; 0 between passes. -/
  taken : Nat
  encoded : Nat
  batch : Batch
  /-- Whether the batch is to be written at the end of the pass. -/
  autoDue : Bool
  transport : Transport
  activity : Activity

namespace Writer

def passLength : Nat := 64

def start (settings : WriterSettings) (keys : Nat → MaskKey) (transport : Transport) : Writer where
  settings
  keys
  handles := 1
  queue := []
  pending := 0
  idleMillis := settings.idleTimeout.millisLow
  taken := 0
  encoded := 0
  batch := .empty
  autoDue := false
  transport
  activity := .ready

/-- A writer with one handle. A queue that holds nothing cannot be made. -/
def start? (settings : WriterSettings) (keys : Nat → MaskKey) (transport : Transport) : Option Writer :=
  if settings.queueCapacity = 0 then none else some (start settings keys transport)

def ended (writer : Writer) : Option Outcome :=
  match writer.activity with
  | .ended outcome => some outcome
  | _ => none

def isClosed (writer : Writer) : Bool :=
  match writer.activity with
  | .closing _ | .ended _ => true
  | _ => false

/-! ## Handles -/

/-- Queues a command, unless too many are pending, the queue is closed, or the queue is full. -/
def enqueue (writer : Writer) (command : Command) : Outcome × Writer :=
  if writer.settings.maxPending ≤ writer.pending then (.error .backpressure, writer)
  else if writer.isClosed then (.error .closed, writer)
  else if writer.settings.queueCapacity ≤ writer.queue.length then (.error .backpressure, writer)
  else (.ok (), { writer with pending := writer.pending + 1, queue := writer.queue ++ [command] })

def isBackpressureActive (writer : Writer) : Bool := writer.settings.maxPending ≤ writer.pending

def cloneHandle (writer : Writer) : Writer := { writer with handles := writer.handles + 1 }

/-- Gives a handle up. Without handles the worker ends when it has done what is queued. -/
def dropHandle (writer : Writer) : Writer := { writer with handles := writer.handles - 1 }

def idleTimeout (writer : Writer) : Duration := .ofMillis writer.idleMillis.toNat

def setIdleTimeout (writer : Writer) (span : Duration) : Writer :=
  { writer with idleMillis := span.millisLow }

/-- The tickets that the worker will complete, in order. -/
def tickets (writer : Writer) : List Ticket :=
  writer.activity.tickets ++ writer.batch.tickets ++ writer.queue.map Command.ticket

/-- The worker is driven from outside: on its own, the writer of a sender does nothing. -/
instance : Carrier Writer where
  sendFrame writer ledger frame ticket mode :=
    match writer.enqueue (.frame frame ticket mode) with
    | (verdict, writer) => (verdict, writer, ledger)
  flush writer ledger ticket :=
    match writer.enqueue (.flush ticket) with
    | (verdict, writer) => (verdict, writer, ledger)
  idleTimeout := idleTimeout
  setIdleTimeout := setIdleTimeout
  held := tickets
  work writer ledger := (writer, ledger)

/-! ## The worker -/

def nextKey (writer : Writer) : Option MaskKey := writer.settings.keyFor writer.keys writer.encoded

def addFrame (writer : Writer) (frame : Frame) (ticket : Ticket) : Writer :=
  { writer with
    batch := writer.batch.push (.ofFrame frame writer.nextKey) ticket
    encoded := writer.encoded + 1 }

/-- Whether the batch must be written now that a frame of this mode has joined it. -/
def mustWrite (writer : Writer) : BatchMode → Bool
  | .off => true
  | .on => writer.settings.maxBatchBytes ≤ writer.batch.bytes
  | .auto => writer.settings.autoBytes ≤ writer.batch.bytes

/-- Goes on when a batch has been written for a purpose. -/
def goOn (writer : Writer) : Purpose → Writer
  | .pass => { writer with activity := .ready }
  | .flush ticket => { writer with activity := .flushing [ticket] .pass }
  | .endPass => { writer with pending := writer.pending - writer.taken, taken := 0, activity := .ready }
  | .finish => { writer with activity := .ended (.ok ()) }

/-- Begins to write the batch. An empty batch counts as written. -/
def writeOut (writer : Writer) (purpose : Purpose) : Writer :=
  if writer.batch.frames.isEmpty then writer.goOn purpose
  else { writer with
    batch := .empty
    activity := .writing writer.batch.frames writer.batch.tickets 0 purpose }

def process (writer : Writer) : Command → Writer
  | .frame frame ticket mode =>
    let added := writer.addFrame frame ticket
    let marked := if mode = .auto then { added with autoDue := true } else added
    if marked.mustWrite mode then { marked with autoDue := false }.writeOut .pass else marked
  | .flush ticket => { writer with autoDue := false }.writeOut (.flush ticket)

/-- Ends a pass: writes the batch if that is due, and counts off the commands that were taken. -/
def endPass (writer : Writer) : Writer :=
  if writer.autoDue then { writer with autoDue := false }.writeOut .endPass else writer.goOn .endPass

/-- Takes the next command, or ends the pass. When no command can come, what is left is written. -/
def advance? (writer : Writer) : Option Writer :=
  match writer.queue with
  | command :: rest =>
    if writer.taken < passLength then
      some ({ writer with queue := rest, taken := writer.taken + 1 }.process command)
    else some writer.endPass
  | [] =>
    if 0 < writer.taken then some writer.endPass
    else if writer.handles = 0 then some (writer.writeOut .finish)
    else none

/-- Begins to end because of an error: first the tickets at hand fail. -/
def fail (writer : Writer) (tickets : List Ticket) (error : TransportError) : Writer :=
  { writer with activity := .failing tickets (.transport error) }

/-- Writes what is left of some frames, as far as one call goes. A write that reports nothing is an error. -/
def writeOn (writer : Writer) (frames : List EncodedFrame) (tickets : List Ticket) (count : Nat)
    (purpose : Purpose) : Writer :=
  match Batch.remaining frames count with
  | [] => { writer with activity := .flushing tickets purpose }
  | slice :: rest =>
    match writer.transport.write (slice :: rest) with
    | (.error error, transport) => { writer with transport }.fail (tickets ++ purpose.tickets) error
    | (.ok reported, transport) =>
      if reported = 0 then { writer with transport }.fail (tickets ++ purpose.tickets) Transport.writeZero
      else
        let counted := Transport.countAfter count (Transport.size (slice :: rest)) reported
        { writer with transport, activity := .writing frames tickets counted purpose }

def flushOut (writer : Writer) (tickets : List Ticket) (purpose : Purpose) : Writer :=
  match writer.transport.flush with
  | (.error error, transport) => { writer with transport }.fail (tickets ++ purpose.tickets) error
  | (.ok (), transport) => { writer with transport, activity := .completing tickets purpose }

/-- The worker's next step, with what it completes in it; none if it has ended or waits for a command. -/
def step? (writer : Writer) : Option (List (Ticket × Outcome) × Writer) :=
  match writer.activity with
  | .ready => writer.advance?.map ([], ·)
  | .writing frames tickets count purpose => some ([], writer.writeOn frames tickets count purpose)
  | .flushing tickets purpose => some ([], writer.flushOut tickets purpose)
  | .completing [] purpose => some ([], writer.goOn purpose)
  | .completing (ticket :: tickets) purpose =>
    some ([(ticket, .ok ())], { writer with activity := .completing tickets purpose })
  | .failing [] error => some ([], { writer with activity := .closing error })
  | .failing (ticket :: tickets) error =>
    some ([(ticket, .error error)], { writer with activity := .failing tickets error })
  | .closing error =>
    match writer.queue with
    | [] => some ([], { writer with activity := .ended (.error error) })
    | command :: rest => some ([(command.ticket, .error .closed)], { writer with queue := rest })
  | .ended _ => none

def runSteps : (steps : Nat) → Writer → Ledger → Writer × Ledger
  | 0, writer, ledger => (writer, ledger)
  | steps + 1, writer, ledger =>
    match writer.step? with
    | some (completions, writer) => runSteps steps writer (ledger.completeEach completions)
    | none => (writer, ledger)

/-! ## How long the worker runs -/

/-- A bound on the steps that a frame takes, once it is in a batch. -/
def frameEffort (frame : EncodedFrame) : Nat := frame.size + 7

def commandEffort : Command → Nat
  | .frame frame _ _ => frame.payload.length + 24
  | .flush _ => 8

/-- A bound on the calls that writing takes. Every call uses up an answer that was laid down or, after the last of
those, takes a byte. -/
def callEffort (writer : Writer) (frames : List EncodedFrame) (count : Nat) : Nat :=
  if writer.transport.writes.isEmpty then Transport.size (Batch.remaining frames count)
  else Transport.size (Batch.slices frames)

def purposeEffort : Purpose → Nat
  | .flush _ => 6
  | _ => 0

def activityEffort (writer : Writer) : Nat :=
  match writer.activity with
  | .ready => 1
  | .writing frames tickets count purpose =>
    writer.callEffort frames count + tickets.length + purposeEffort purpose + 5
  | .flushing tickets purpose => tickets.length + purposeEffort purpose + 4
  | .completing tickets purpose => tickets.length + purposeEffort purpose + 2
  | .failing tickets _ => tickets.length + 2
  | .closing _ => 1
  | .ended _ => 0

/-- A bound on the steps that the worker makes before it ends or waits. -/
def effort (writer : Writer) : Nat :=
  writer.transport.writes.length + writer.activityEffort + total frameEffort writer.batch.frames
    + writer.batch.tickets.length + total commandEffort writer.queue + min 1 writer.taken

def settle (writer : Writer) (ledger : Ledger) : Writer × Ledger := writer.runSteps writer.effort ledger

end Writer
end Egress
