import Egress.Proofs.CarrierInvariants
import Egress.Proofs.StreamedMessage
import Egress.Proofs.WriterPasses

/-!
The idle time of a writer. It is told with the settings of the writer, or with the settings of a session, which go to the
writer when a sender is started over it, or by a call on that sender; nothing else changes it. The settings of a session
hold the longest time that can be stated in place of a longer one. The other two ways keep the low 64 bits, so that they
may make little of a long time.
-/
namespace Egress

namespace Duration

variable {span shorter : Duration}

theorem toNat_millisLow (span : Duration) : span.millisLow.toNat = span.millis % UInt64.size := UInt64.toNat_ofNat'

theorem toNat_millisClamped (span : Duration) : span.millisClamped.toNat = min span.millis (UInt64.size - 1) := by
  refine UInt64.toNat_ofNat_of_lt ?_
  exact Nat.lt_of_le_of_lt (Nat.min_le_right _ _) (by decide)

theorem millis_mono (less : shorter.nanos ≤ span.nanos) : shorter.millis ≤ span.millis := Nat.div_le_div_right less

theorem ofMillis_le_iff {less more : Nat} : (ofMillis less).nanos ≤ (ofMillis more).nanos ↔ less ≤ more :=
  Nat.mul_le_mul_right_iff (by decide)

theorem ofMillis_inj {first second : Nat} : ofMillis first = ofMillis second ↔ first = second := by
  refine ⟨fun same => ?_, congrArg ofMillis⟩
  have counted := congrArg millis same
  rwa [millis_ofMillis, millis_ofMillis] at counted

/-- The low 64 bits are all there is, or those of the longest time. -/
def Unwrapped (span : Duration) : Prop := span.millis < UInt64.size ∨ UInt64.size ∣ span.millis + 1

instance (span : Duration) : Decidable span.Unwrapped :=
  inferInstanceAs (Decidable (span.millis < UInt64.size ∨ UInt64.size ∣ span.millis + 1))

theorem unwrapped_iff : span.Unwrapped ↔ span.millis % UInt64.size = min span.millis (UInt64.size - 1) := by
  simp only [Unwrapped, UInt64.size]
  omega

end Duration

/-! ## What keeps it -/

/-- Whether the event tells the writer an idle time. -/
def WriterEvent.tellsIdle : WriterEvent → Bool
  | .setIdleTimeout _ => true
  | _ => false

namespace Writer

variable {writer after : Writer}

theorem idle_goOn (writer : Writer) (purpose : Purpose) : (writer.goOn purpose).idleMillis = writer.idleMillis := by
  cases purpose <;> rfl

theorem idle_writeOut (writer : Writer) (purpose : Purpose) : (writer.writeOut purpose).idleMillis = writer.idleMillis := by
  unfold writeOut
  split
  · exact writer.idle_goOn purpose
  · rfl

theorem idle_process (writer : Writer) (command : Command) : (writer.process command).idleMillis = writer.idleMillis := by
  cases command with
  | flush ticket => exact idle_writeOut { writer with autoDue := false } (.flush ticket)
  | frame frame ticket mode =>
    have joined : (writer.joined frame ticket mode).idleMillis = writer.idleMillis := by
      unfold joined
      dsimp only
      split <;> rfl
    rw [process_frame]
    split
    · exact (idle_writeOut { writer.joined frame ticket mode with autoDue := false } .pass).trans joined
    · exact joined

theorem idle_endPass (writer : Writer) : writer.endPass.idleMillis = writer.idleMillis := by
  unfold endPass
  split
  · exact idle_writeOut { writer with autoDue := false } .endPass
  · exact writer.idle_goOn .endPass

/-- The worker never changes the idle time. -/
theorem Steps.idle {completions : List (Ticket × Outcome)} (steps : writer.Steps completions after) :
    after.idleMillis = writer.idleMillis := by
  cases steps with
  | advanced idle next =>
    rcases advance_cases next with ⟨command, rest, queue, rfl⟩ | ⟨begun, rfl⟩ | ⟨queue, untaken, alone, rfl⟩
    · exact idle_process { writer with queue := rest, taken := writer.taken + 1 } command
    · exact writer.idle_endPass
    · exact writer.idle_writeOut .finish
  | wentOn busy => exact writer.idle_goOn _
  | failed | called | completed | failedOne | failedAll | drained | ended => rfl

end Writer

namespace History

theorem idle_submit (history : History) (command : Command) :
    (history.submit command).2.writer.idleMillis = history.writer.idleMillis := by
  unfold submit
  rcases history.writer.enqueue_cases command with ⟨_, taken⟩ | ⟨error, refused⟩
  · rw [taken]
  · rw [refused]

theorem idle_after (history : History) {event : WriterEvent} (quiet : event.tellsIdle = false) :
    (history.after event).writer.idleMillis = history.writer.idleMillis := by
  cases event with
  | command command =>
    dsimp only [after]
    split
    · rfl
    · exact history.idle_submit command
  | cloneHandle =>
    dsimp only [after]
    split <;> rfl
  | dropHandle => rfl
  | setIdleTimeout => cases quiet
  | step =>
    dsimp only [after, work]
    split
    case h_1 completions writer step => exact (Writer.steps_of_step step).idle
    case h_2 => rfl

theorem idle_afterAll (history : History) {events : List WriterEvent} (quiet : ∀ event ∈ events, event.tellsIdle = false) :
    (history.afterAll events).writer.idleMillis = history.writer.idleMillis := by
  induction events generalizing history with
  | nil => rfl
  | cons event events ih =>
    have rest := ih (history.after event) fun later member => quiet later (List.mem_cons_of_mem _ member)
    exact rest.trans (history.idle_after (quiet event List.mem_cons_self))

end History

theorem Traffic.idle_run (steps : Nat) (traffic : Traffic) :
    (run steps traffic).history.writer.idleMillis = traffic.history.writer.idleMillis := by
  induction steps generalizing traffic with
  | zero => rfl
  | succ steps ih => exact (ih (traffic.after (.writer .step))).trans (traffic.history.idle_after rfl)

namespace Scheduled

variable {key : Nat → Option MaskKey}

theorem idle_turn (scheduled : Scheduled key) (ledger : Ledger) :
    (scheduled.turn ledger).1.history.writer.idleMillis = scheduled.history.writer.idleMillis := by
  unfold turn
  split
  · rfl
  · exact Traffic.idle_run _ _

theorem idle_send (scheduled : Scheduled key) (ledger : Ledger) (command : Command) :
    (scheduled.send ledger command).2.1.history.writer.idleMillis = scheduled.history.writer.idleMillis := by
  have turned := scheduled.idle_turn ledger
  unfold send
  revert turned
  rcases scheduled.turn ledger with ⟨before, between⟩
  intro turned
  have sent : (before.submitted command).history.writer.idleMillis = before.history.writer.idleMillis :=
    before.history.idle_submit command
  exact ((before.submitted command).idle_turn between).trans (sent.trans turned)

/-- Whatever a sender asks of its writer, the idle time stays. -/
theorem keeps_idle (millis : UInt64) :
    Carrier.Keeps fun scheduled : Scheduled key => scheduled.history.writer.idleMillis = millis where
  sendFrame {scheduled} same ledger frame ticket mode := (scheduled.idle_send ledger (.frame frame ticket mode)).trans same
  flush {scheduled} same ledger ticket := (scheduled.idle_send ledger (.flush ticket)).trans same
  work {scheduled} same ledger := (scheduled.idle_turn ledger).trans same

end Scheduled

/-- A sender reports what its writer was told last. -/
theorem Sender.idle_told {types : ValueTypes} {key : Nat → Option MaskKey} (sender : Sender types (Scheduled key))
    (span : Duration) {events : List (Event types)} (quiet : ∀ event ∈ events, event.tellsIdle = false) :
    ((Custody.free (sender.setIdleTimeout span)).afterAll events).sender.idleTimeout =
      .ofMillis (span.millis % UInt64.size) := by
  let custody : Custody types (Scheduled key) := .free (sender.setIdleTimeout span)
  have told : custody.sender.carrier.history.writer.idleMillis = span.millisLow := rfl
  have kept := (Scheduled.keeps_idle span.millisLow).afterAll told quiet
  rw [← span.toNat_millisLow, ← kept]
  rfl

/-! ## The ways to tell it -/

/-- How a writer is told an idle time: with its own settings, with the settings of a session, or by a call. -/
inductive IdleWay where
  | writer
  | session
  | call

namespace IdleWay

/-- What a writer may report that was told a span and has been told no other since. -/
inductive Reports (span : Duration) : IdleWay → Duration → Prop where
  /-- The writer was started with the span, and has been used in any way. -/
  | writer {settings : WriterSettings} {keys : Nat → MaskKey} {transport : Transport} {writer : Writer}
    (begun : Writer.start? { settings with idleTimeout := span } keys transport = some writer)
    {events : List WriterEvent} (quiet : ∀ event ∈ events, event.tellsIdle = false) :
    Reports span .writer ((History.start writer).afterAll events).writer.idleTimeout
  /-- A sender was started over the writer, in a session of which the settings have the span. -/
  | session {types : ValueTypes} {settings : Settings} {registry : Registry types} {pool : Option BufferPool}
    {session : Session types} (built : Session.build (settings.withIdleTimeout span) registry pool = .ok session)
    {key : Nat → Option MaskKey} (writer : Scheduled key) (ledger : Ledger) {events : List (Event types)}
    (quiet : ∀ event ∈ events, event.tellsIdle = false) :
    Reports span .session ((Custody.free (.start session writer ledger)).afterAll events).sender.idleTimeout
  /-- A sender over the writer was told the span. -/
  | call {types : ValueTypes} {key : Nat → Option MaskKey} (sender : Sender types (Scheduled key))
    {events : List (Event types)} (quiet : ∀ event ∈ events, event.tellsIdle = false) :
    Reports span .call ((Custody.free (sender.setIdleTimeout span)).afterAll events).sender.idleTimeout

/-- How many milliseconds become of a span. -/
def millis (span : Duration) : IdleWay → Nat
  | .writer | .call => span.millis % UInt64.size
  | .session => min span.millis (UInt64.size - 1)

variable {way : IdleWay} {span reported : Duration}

theorem Reports.eq_millis (reports : way.Reports span reported) : reported = .ofMillis (way.millis span) := by
  cases reports with
  | @writer settings keys transport writer begun events quiet =>
    have told : writer.idleMillis = span.millisLow := by
      unfold Writer.start? at begun
      split at begun <;> cases begun
      rfl
    have kept : ((History.start writer).afterAll events).writer.idleMillis = writer.idleMillis :=
      (History.start writer).idle_afterAll quiet
    rw [Writer.idleTimeout, kept, told, span.toNat_millisLow]
    rfl
  | @session types settings registry pool session built key writer ledger events quiet =>
    have told : session.settings.idleTimeout = .ofMillis (min span.millis (UInt64.size - 1)) := by
      rw [← span.toNat_millisClamped]
      unfold Session.build at built
      split at built <;> cases built
      rfl
    let idle : Sender types (Scheduled key) := ⟨session, writer, ledger, session.settings.batchMode, none⟩
    have same := idle.idle_told session.settings.idleTimeout quiet
    refine same.trans ?_
    rw [told, Duration.millis_ofMillis, Nat.mod_eq_of_lt (Nat.lt_of_le_of_lt (Nat.min_le_right _ _) (by decide))]
    rfl
  | call sender quiet => exact sender.idle_told span quiet

/-- Each way can be gone with every span. -/
theorem exists_reports (way : IdleWay) (span : Duration) : ∃ reported, way.Reports span reported := by
  have nothing : ∀ event ∈ ([] : List (Event catalogue)), event.tellsIdle = false := List.forall_mem_nil _
  let writer : Scheduled _ := ⟨.start MessageStream.serving, MessageStream.arises_serving, Nat.one_ne_zero, []⟩
  let session : Session catalogue := { Session.ofRegistry .empty with settings := Settings.standard.withIdleTimeout span }
  cases way with
  | writer =>
    have begun : Writer.start? { WriterSettings.standard with idleTimeout := span } (fun _ => ⟨0, 0, 0, 0⟩) .unlimited =
        some (.start { WriterSettings.standard with idleTimeout := span } (fun _ => ⟨0, 0, 0, 0⟩) .unlimited) := rfl
    exact ⟨_, .writer begun (List.forall_mem_nil _)⟩
  | session =>
    have built : Session.build (Settings.standard.withIdleTimeout span) .empty none = .ok session := rfl
    exact ⟨_, .session built writer .empty nothing⟩
  | call => exact ⟨_, .call (.start session writer .empty) nothing⟩

theorem reports_iff : way.Reports span reported ↔ reported = .ofMillis (way.millis span) := by
  refine ⟨Reports.eq_millis, ?_⟩
  rintro rfl
  obtain ⟨reported, reports⟩ := way.exists_reports span
  rwa [reports.eq_millis] at reports

theorem millis_agree_iff :
    (∀ way : IdleWay, way.millis span = min span.millis (UInt64.size - 1)) ↔ span.Unwrapped := by
  rw [Duration.unwrapped_iff]
  refine ⟨fun agree => agree .writer, fun whole way => ?_⟩
  cases way with
  | writer | call => exact whole
  | session => rfl

theorem millis_le_clamped (way : IdleWay) (span : Duration) : way.millis span ≤ min span.millis (UInt64.size - 1) := by
  cases way with
  | writer | call =>
    have below := Nat.mod_lt span.millis (Nat.succ_pos _ : 0 < UInt64.size)
    exact Nat.le_min.mpr ⟨Nat.mod_le _ _, Nat.le_sub_one_of_lt below⟩
  | session => exact Nat.le_refl _

/-- No shorter span comes to more, whichever way it goes, exactly if the span comes to the same in all ways. -/
theorem millis_mono_iff :
    (∀ (way : IdleWay) (shorter : Duration), shorter.nanos ≤ span.nanos → way.millis shorter ≤ way.millis span) ↔
      span.Unwrapped := by
  constructor
  · intro mono
    by_cases short : span.millis < UInt64.size
    · exact .inl short
    -- a span that does not fit is longer than the longest one that does
    have longer : (Duration.ofMillis (UInt64.size - 1)).nanos ≤ span.nanos := by
      simp only [Duration.millis, Duration.ofMillis, UInt64.size] at short ⊢
      omega
    have most : (UInt64.size - 1) % UInt64.size ≤ span.millis % UInt64.size := by
      simpa only [millis, Duration.millis_ofMillis] using mono .writer _ longer
    refine Duration.unwrapped_iff.mpr ?_
    simp only [UInt64.size] at short most ⊢
    omega
  · intro whole way shorter less
    rw [millis_agree_iff.mpr whole way]
    have fewer := Duration.millis_mono less
    exact Nat.le_trans (way.millis_le_clamped shorter) (by omega)

/-- What a writer reports depends on the way in which it was told the span: the whole milliseconds up to the longest time
if it was told by a session's settings, and their low 64 bits otherwise. All ways report the whole milliseconds up to the
longest time, and no way reports more for a shorter span, exactly if the span fits or its low 64 bits are all set. -/
theorem reports_agree_iff (span : Duration) :
    (∀ (way : IdleWay) (reported : Duration), way.Reports span reported ↔ reported = .ofMillis (way.millis span)) ∧
    ((∀ (way : IdleWay) (reported : Duration), way.Reports span reported →
        reported = .ofMillis (min span.millis (UInt64.size - 1))) ↔ span.Unwrapped) ∧
    ((∀ (way : IdleWay) (shorter less more : Duration), shorter.nanos ≤ span.nanos → way.Reports shorter less →
        way.Reports span more → less.nanos ≤ more.nanos) ↔ span.Unwrapped) := by
  refine ⟨fun way reported => reports_iff, ?_, ?_⟩
  · rw [← millis_agree_iff]
    refine forall_congr' fun way => ?_
    simp only [reports_iff, forall_eq, Duration.ofMillis_inj]
  · rw [← millis_mono_iff]
    refine forall_congr' fun way => forall_congr' fun shorter => ?_
    constructor
    · intro mono less
      exact Duration.ofMillis_le_iff.mp (mono _ _ less (reports_iff.mpr rfl) (reports_iff.mpr rfl))
    · intro mono few many less first second
      rw [first.eq_millis, second.eq_millis]
      exact Duration.ofMillis_le_iff.mpr (mono less)

/-- The longest span that a count of seconds in 64 bits allows comes to the same in every way. -/
example : (Duration.ofSeconds 18446744073709551615 999999999).Unwrapped := by decide

/-- A time of 385 milliseconds more than the longest one comes to 384 milliseconds, unless it is told by a session's
settings. -/
theorem long_time_wraps :
    let long : Duration := .ofSeconds 18446744073709552 0
    let longest : Duration := .ofMillis 18446744073709551615
    let writer (span : Duration) : Writer :=
      .start { WriterSettings.standard with idleTimeout := span } (fun _ => ⟨0, 0, 0, 0⟩) .unlimited
    let session : Session catalogue :=
      { Session.ofRegistry .empty with settings := Settings.standard.withIdleTimeout long }
    let sender : Sender catalogue Writer := .start session (writer long) .empty
    longest.nanos < long.nanos ∧ (writer longest).idleTimeout = longest ∧ (writer long).idleTimeout = .ofMillis 384 ∧
    sender.idleTimeout = longest ∧ (sender.setIdleTimeout long).idleTimeout = .ofMillis 384 := by
  decide +kernel

end IdleWay
end Egress
