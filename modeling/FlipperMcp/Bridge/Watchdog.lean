import FlipperMcp.Bridge.Journal
import FlipperMcp.Bridge.ReceiveBuffer
import FlipperMcp.Coroutine.Meanwhile

/-! # The watchdog of the receive task

`uart_rx_task` compares the tick counter with the tick of the last frame, a difference that
survives the wrap of the counter. It also takes a tick of 0 to mean that there was no frame.
A run of the task in time (`RxRun`) begins with a pass, so many ticks behind the last frame;
each suspension takes its ticks, and no pass finds another frame.

The watchdog expires at the first pass that is late, whatever the counter was at the frame,
unless it was 0 (`watchdog_survives_iff`).
-/

namespace FlipperMcp

open Coroutine

/-- An operation a task of the bridge awaited. -/
abbrev UartEvent (σ : Type) := Event Expansion uartSignature Empty σ

namespace Bridge

variable {σ : Type}

/-- The tick counter goes on while the task is suspended. -/
def timeGoesOn (ticks : UartEvent σ → ℕ) (event : UartEvent σ) (s : Expansion) : Expansion :=
  { s with tick := s.tick + UInt32.ofNat (ticks event) }

/-- The ticks a run has taken. -/
def elapsed (ticks : UartEvent σ → ℕ) (trace : List (UartEvent σ)) : ℕ := (trace.map ticks).sum

/-- The loop that extracts frames finds none that is complete. -/
def Frameless : ℕ → Expansion → Prop
  | 0, _ => True
  | passes + 1, s =>
      s.rxLen = 0 ∨ getFrameSize (s.rxBuf 0) s.rxBuf s.rxLen = -1 ∨
        (getFrameSize (s.rxBuf 0) s.rxBuf s.rxLen = -2 ∧ Frameless passes (skipByte s)) ∨
        s.rxLen < (getFrameSize (s.rxBuf 0) s.rxBuf s.rxLen).toNat

/-- What extracting without a frame leaves as it is. -/
structure Unframed (s s' : Expansion) : Prop where
  state : s'.state = s.state
  lastRxTick : s'.lastRxTick = s.lastRxTick
  tick : s'.tick = s.tick

theorem Unframed.trans {a b c : Expansion} (first : Unframed a b) (second : Unframed b c) :
    Unframed a c :=
  ⟨second.state.trans first.state, second.lastRxTick.trans first.lastRxTick,
    second.tick.trans first.tick⟩

theorem Unframed.refl (s : Expansion) : Unframed s s := ⟨rfl, rfl, rfl⟩

theorem unframed_skipByte (s : Expansion) : Unframed s (skipByte s) := by
  unfold skipByte moveBytes
  exact ⟨rfl, rfl, rfl⟩

theorem unframed_appendBytes (bytes : List UInt8) (s : Expansion) : Unframed s (appendBytes bytes s) := by
  unfold appendBytes
  exact ⟨rfl, rfl, rfl⟩

/-- What a read leaves to `uart_rx_task`. -/
def bytesTaken (answer : Except Empty (List UInt8)) : List UInt8 :=
  (answer.toOption.getD []).take readSize

section Pass

variable {E : Env uartSignature Empty σ} {others : UartEvent σ → Expansion → Expansion}

/-- Without a frame the loop only drops bytes. -/
theorem runAmid_extractFrames {passes : ℕ} {s : Expansion} (frameless : Frameless passes s) (w : σ) :
    ∃ s', Unframed s s' ∧ runAmid E others (extractFrames passes) s w = ⟨.ok (), s', w, []⟩ := by
  induction passes generalizing s with
  | zero => exact ⟨s, .refl s, rfl⟩
  | succ passes ih =>
      unfold extractFrames
      rw [runAmid_get_bind]
      by_cases empty : s.rxLen = 0
      · rw [if_pos empty]
        exact ⟨s, .refl s, rfl⟩
      rw [if_neg empty]
      dsimp only
      by_cases waits : getFrameSize (s.rxBuf 0) s.rxBuf s.rxLen = -1
      · rw [if_pos waits]
        exact ⟨s, .refl s, rfl⟩
      rw [if_neg waits]
      rcases frameless with none_ | waiting | ⟨skips, frameless⟩ | incomplete
      · exact absurd none_ empty
      · exact absurd waiting waits
      · obtain ⟨s', same, ended⟩ := ih frameless
        rw [if_pos skips, runAmid_modify_bind]
        exact ⟨s', (unframed_skipByte s).trans same, ended⟩
      · by_cases skips : getFrameSize (s.rxBuf 0) s.rxBuf s.rxLen = -2
        · rw [skips] at incomplete
          exact absurd incomplete (Nat.not_lt_zero _)
        rw [if_neg skips, if_neg (not_le.mpr incomplete)]
        exact ⟨s, .refl s, rfl⟩

/-- The read of a pass. -/
def readEvent (E : Env uartSignature Empty σ) (s : Expansion) (w : σ) : UartEvent σ :=
  ⟨s, w, UartOp.readBytes, (E UartOp.readBytes w).1⟩

/-- **A pass without a frame.** It looks at the watchdog with the clock at which the read has
returned, and sends the heartbeat that is due. -/
theorem runAmid_uartRxPass (s : Expansion) (w : σ)
    (quiet : bytesTaken (E UartOp.readBytes w).1 = [] ∨
      Frameless rxBufSize (appendBytes (bytesTaken (E UartOp.readBytes w).1)
        (others (readEvent E s w) s))) :
    ∃ s', Unframed (others (readEvent E s w) s) s' ∧
      runAmid E others uartRxPass s w =
        (runAmid E others sendDueHeartbeat (watchdog s') (E UartOp.readBytes w).2).after
          [readEvent E s w] := by
  rcases answer : (E UartOp.readBytes w).1 with error | (bytes : List UInt8)
  · exact error.elim
  rw [answer] at quiet
  replace quiet : bytes.take readSize = [] ∨ Frameless rxBufSize (appendBytes (bytes.take readSize)
    (others (readEvent E s w) s)) := quiet
  have read : runAmid E others uartRxPass s w = (runAmid E others (do
      takeBytes (bytes.take readSize)
      Coro.modify watchdog
      sendDueHeartbeat) (others (readEvent E s w) s) (E UartOp.readBytes w).2).after
        [readEvent E s w] := by
    unfold uartRxPass Bridge.perform Coro.perform
    rw [Coro.await_bind]
    simp only [runAmid, answer, readEvent]
    rfl
  rw [read]
  unfold takeBytes
  by_cases nothing : bytes.take readSize = []
  · rw [if_pos nothing]
    exact ⟨_, .refl _, rfl⟩
  · obtain ⟨s', same, ended⟩ : ∃ s', Unframed (appendBytes _ _) s' ∧
        runAmid E others (extractFrames rxBufSize) _ (E UartOp.readBytes w).2 = ⟨.ok (), s', _, []⟩ :=
      runAmid_extractFrames (quiet.resolve_left nothing) (E UartOp.readBytes w).2
    refine ⟨s', (unframed_appendBytes _ _).trans same, ?_⟩
    rw [if_neg nothing]
    have dropped : runAmid E others (do
        Coro.modify (appendBytes (bytes.take readSize))
        extractFrames rxBufSize) (others (readEvent E s w) s) (E UartOp.readBytes w).2 =
          ⟨.ok (), s', (E UartOp.readBytes w).2, []⟩ := ended
    rw [runAmid_bind (congrArg Outcome.result dropped), dropped]
    rfl

end Pass

section Heartbeat

variable {E : Env uartSignature Empty σ} {ticks : UartEvent σ → ℕ}

theorem tick_foldl (trace : List (UartEvent σ)) (s : Expansion) :
    trace.foldl (fun s event => timeGoesOn ticks event s) s =
      { s with tick := s.tick + UInt32.ofNat (elapsed ticks trace) } := by
  induction trace generalizing s with
  | nil =>
      change s = { s with tick := s.tick + UInt32.ofNat 0 }
      rw [show UInt32.ofNat 0 = 0 from rfl, UInt32.add_zero]
  | cons event trace ih =>
      rw [List.foldl_cons, ih]
      change { s with tick := s.tick + UInt32.ofNat _ + UInt32.ofNat _ } = _
      rw [UInt32.add_assoc, ← UInt32.ofNat_add]
      rfl

theorem suspends_perform (op : UartOp) : Suspends 1 (Bridge.perform op) :=
  @Suspends.perform Expansion uartSignature Empty op

/-- Sending a frame takes three suspensions at most. -/
theorem suspends_sendFrame (frame : List UInt8) : Suspends (1 + (1 + (1 + 0))) (sendFrame frame) := by
  apply (suspends_perform _).bind
  intro (sent : ℤ)
  apply Suspends.ite ((Suspends.pure _).mono (Nat.zero_le _))
  apply (suspends_perform _).bind
  intro (sent : ℤ)
  exact .ite ((Suspends.pure _).mono (Nat.zero_le _)) ((suspends_perform _).bind fun _ => .pure _)

/-- What it is after the heartbeat that was due, if it was. -/
structure Beaten (ticks : UartEvent σ → ℕ) (s : Expansion)
    (o : Outcome Expansion uartSignature Empty σ Unit) : Prop where
  state : o.host.state = s.state
  rxLen : o.host.rxLen = s.rxLen
  lastRxTick : o.host.lastRxTick = s.lastRxTick
  tick : o.host.tick = s.tick + UInt32.ofNat (elapsed ticks o.trace)
  short : o.trace.length ≤ 3

theorem runAmid_sendDueHeartbeat (s : Expansion) (w : σ) :
    Beaten ticks s (runAmid E (timeGoesOn ticks) sendDueHeartbeat s w) := by
  unfold sendDueHeartbeat
  rw [runAmid_get_bind]
  by_cases due : s.state = .rpcActive ∧ pdMsToTicks 200 < s.tick - s.lastHeartbeat
  · rw [if_pos due]
    have short := (suspends_sendFrame [expFrameHeartbeat]).length E (timeGoesOn ticks) s w
    have host := (sends_sendFrame [expFrameHeartbeat]).runAmid_host E (timeGoesOn ticks) s w
    rw [tick_foldl] at host
    obtain ⟨err, sent⟩ := runAmid_value E (timeGoesOn ticks) expansionSendHeartbeat s w
    rw [runAmid_bind sent]
    unfold expansionSendHeartbeat
    rw [runAmid_modify, host]
    simp only [Outcome.after]
    rw [List.append_nil]
    exact ⟨rfl, rfl, rfl, rfl, short⟩
  · rw [if_neg due]
    exact ⟨rfl, rfl, rfl, (UInt32.add_zero _).symm, Nat.zero_le _⟩

end Heartbeat

/-- A run of the receive task in time. It begins with a pass, `since` ticks behind the last
processed frame, or behind `expansion_connect`. No suspension takes more than 100 ms, and the
counter has not gone round since. -/
structure RxRun (σ : Type) where
  env : Env uartSignature Empty σ
  ticks : UartEvent σ → ℕ
  host : Expansion
  world : σ
  since : ℕ
  steps : ∀ event, 10 * ticks event ≤ 100
  behind : host.tick = host.lastRxTick + UInt32.ofNat since
  recent : since + 10 < 2 ^ 32
  connected : host.state ≠ .disconnected

namespace RxRun

variable (run : RxRun σ)

/-- What so many passes have led to. -/
def passed (passes : ℕ) : Outcome Expansion uartSignature Empty σ Unit :=
  runAmid run.env (timeGoesOn run.ticks) (uartRxTask passes) run.host run.world

/-- The read of the next pass. -/
def reading (passes : ℕ) : UartEvent σ :=
  readEvent run.env (run.passed passes).host (run.passed passes).world

/-- The ticks from the last processed frame to when the next pass looks at the watchdog. -/
def waited (passes : ℕ) : ℕ :=
  run.since + elapsed run.ticks (run.passed passes).trace + run.ticks (run.reading passes)

/-- The next pass processes no frame. -/
def Quiet (passes : ℕ) : Prop :=
  bytesTaken (run.reading passes).answer = [] ∨
    Frameless rxBufSize (appendBytes (bytesTaken (run.reading passes).answer)
      (timeGoesOn run.ticks (run.reading passes) (run.passed passes).host))

/-- The task still waits for a frame. -/
structure Waiting (passes : ℕ) : Prop where
  state : (run.passed passes).host.state = run.host.state
  lastRxTick : (run.passed passes).host.lastRxTick = run.host.lastRxTick
  tick : (run.passed passes).host.tick =
    run.host.lastRxTick + UInt32.ofNat (run.since + elapsed run.ticks (run.passed passes).trace)
  recent : run.since + elapsed run.ticks (run.passed passes).trace + 10 < 2 ^ 32

/-- The next pass looks at the watchdog more than 1500 ms behind the last processed frame. -/
def Late (passes : ℕ) : Prop := 1500 < 10 * run.waited passes

instance : DecidablePred run.Late := fun _ => inferInstanceAs (Decidable (_ < _))

variable {run} {passes : ℕ}

theorem uartRxTask_succ (passes : ℕ) :
    uartRxTask (passes + 1) = uartRxTask passes >>= fun _ => uartRxPass := by
  induction passes with
  | zero => exact Coro.bind_ret uartRxPass
  | succ passes ih =>
      calc uartRxTask (passes + 2)
          = uartRxPass >>= fun _ => uartRxTask (passes + 1) := rfl
        _ = uartRxPass >>= fun _ => uartRxTask passes >>= fun _ => uartRxPass := by rw [ih]
        _ = (uartRxPass >>= fun _ => uartRxTask passes) >>= fun _ => uartRxPass :=
          (Coro.bind_bind ..).symm

/-- The next pass, behind those before. -/
theorem passed_succ (run : RxRun σ) (passes : ℕ) :
    run.passed (passes + 1) =
      (runAmid run.env (timeGoesOn run.ticks) uartRxPass (run.passed passes).host
        (run.passed passes).world).after (run.passed passes).trace := by
  obtain ⟨value, ended⟩ := runAmid_value run.env (timeGoesOn run.ticks) (uartRxTask passes)
    run.host run.world
  unfold passed
  rw [uartRxTask_succ, runAmid_bind ended]

theorem waiting_start (run : RxRun σ) : run.Waiting 0 where
  state := rfl
  lastRxTick := rfl
  tick := run.behind
  recent := run.recent

/-- The difference of the ticks survives the wrap of the counter. -/
theorem expired_iff {tick : UInt32} {ticks : ℕ} (recent : ticks < 2 ^ 32) :
    pdMsToTicks 1500 < tick + UInt32.ofNat ticks - tick ↔ 1500 < 10 * ticks := by
  rw [UInt32.add_comm, UInt32.add_sub_cancel, UInt32.lt_iff_toNat_lt, UInt32.toNat_ofNat',
    Nat.mod_eq_of_lt recent]
  change 150 < ticks ↔ _
  omega

/-- Where the watchdog is looked at, and what comes behind. -/
structure Watched (run : RxRun σ) (passes : ℕ) (s : Expansion)
    (heartbeat : Outcome Expansion uartSignature Empty σ Unit) : Prop where
  state : s.state = run.host.state
  lastRxTick : s.lastRxTick = run.host.lastRxTick
  tick : s.tick = run.host.lastRxTick + UInt32.ofNat (run.waited passes)
  beaten : Beaten run.ticks (watchdog s) heartbeat
  passed : run.passed (passes + 1) =
    (heartbeat.after [run.reading passes]).after (run.passed passes).trace

theorem Waiting.watched (waiting : run.Waiting passes) (quiet : run.Quiet passes) :
    ∃ s heartbeat, run.Watched passes s heartbeat := by
  obtain ⟨s, same, ended⟩ : ∃ s, Unframed (timeGoesOn run.ticks (run.reading passes) _) s ∧
      runAmid run.env (timeGoesOn run.ticks) uartRxPass _ _ = _ :=
    runAmid_uartRxPass (run.passed passes).host (run.passed passes).world quiet
  refine ⟨s, runAmid run.env (timeGoesOn run.ticks) sendDueHeartbeat (watchdog s)
    (run.env UartOp.readBytes (run.passed passes).world).2, same.state.trans waiting.state, same.lastRxTick.trans waiting.lastRxTick, ?_,
    runAmid_sendDueHeartbeat (watchdog s) _, ?_⟩
  · rw [same.tick]
    change (run.passed passes).host.tick + _ = _
    rw [waiting.tick, UInt32.add_assoc, ← UInt32.ofNat_add]
    rfl
  · rw [passed_succ, ended]
    rfl

/-- The condition of the watchdog, in time. -/
theorem Watched.expires_iff {s : Expansion} {heartbeat : Outcome Expansion uartSignature Empty σ Unit}
    (watched : run.Watched passes s heartbeat) (recent : run.waited passes < 2 ^ 32) :
    Expires s ↔ run.host.lastRxTick ≠ 0 ∧ run.Late passes := by
  unfold Expires Late
  rw [watched.state, watched.lastRxTick, watched.tick, expired_iff recent]
  exact and_iff_right run.connected

theorem Waiting.waited_lt (waiting : run.Waiting passes) : run.waited passes < 2 ^ 32 := by
  have step := run.steps (run.reading passes)
  have recent := waiting.recent
  unfold waited
  omega

/-- **The watchdog expires.** -/
theorem Waiting.expired (waiting : run.Waiting passes) (quiet : run.Quiet passes)
    (late : run.Late passes) (armed : run.host.lastRxTick ≠ 0) :
    (run.passed (passes + 1)).host.state = .error ∧ (run.passed (passes + 1)).host.rxLen = 0 := by
  obtain ⟨s, heartbeat, watched⟩ := waiting.watched quiet
  have expires := (watched.expires_iff waiting.waited_lt).mpr ⟨armed, late⟩
  have beaten := watched.beaten
  rw [watchdog_of_expires expires] at beaten
  rw [watched.passed]
  exact ⟨beaten.state, beaten.rxLen⟩

theorem sum_le_of_steps {ticks : UartEvent σ → ℕ} (steps : ∀ event, 10 * ticks event ≤ 100)
    (trace : List (UartEvent σ)) : elapsed ticks trace ≤ 10 * trace.length := by
  induction trace with
  | nil => exact Nat.le_refl 0
  | cons event trace ih =>
      have step := steps event
      change ticks event + elapsed ticks trace ≤ 10 * (trace.length + 1)
      omega

/-- **The task goes on waiting** through a pass that comes in time, or with the tick that means
no frame. -/
theorem Waiting.goes_on (waiting : run.Waiting passes) (quiet : run.Quiet passes)
    (lives : ¬ (run.host.lastRxTick ≠ 0 ∧ run.Late passes)) (recent : run.waited passes + 40 < 2 ^ 32) :
    run.Waiting (passes + 1) := by
  obtain ⟨s, heartbeat, watched⟩ := waiting.watched quiet
  have beaten := watched.beaten
  rw [watchdog_of_not_expires (mt (watched.expires_iff waiting.waited_lt).mp lives)] at beaten
  have trace : elapsed run.ticks (run.passed (passes + 1)).trace =
      elapsed run.ticks (run.passed passes).trace + run.ticks (run.reading passes) +
        elapsed run.ticks heartbeat.trace := by
    rw [watched.passed]
    unfold elapsed
    simp only [Outcome.after_trace, List.map_append, List.sum_append, List.map_cons, List.map_nil,
      List.sum_cons, List.sum_nil]
    omega
  have bound := sum_le_of_steps run.steps heartbeat.trace
  have short := beaten.short
  unfold waited at recent
  refine ⟨?_, ?_, ?_, ?_⟩
  · rw [watched.passed]
    exact beaten.state.trans watched.state
  · rw [watched.passed]
    exact beaten.lastRxTick.trans watched.lastRxTick
  · rw [trace, watched.passed]
    change heartbeat.host.tick = _
    rw [beaten.tick, watched.tick, UInt32.add_assoc, ← UInt32.ofNat_add]
    unfold waited
    congr 2
    omega
  · rw [trace]
    omega

/-- As long as no pass is late, the task waits. -/
theorem waiting_of_in_time (run : RxRun σ) (passes : ℕ) (quiet : ∀ earlier < passes, run.Quiet earlier)
    (inTime : ∀ earlier < passes, ¬ run.Late earlier) : run.Waiting passes := by
  induction passes with
  | zero => exact run.waiting_start
  | succ passes ih =>
      have waiting := ih (fun earlier before => quiet earlier (Nat.lt_succ_of_lt before))
        fun earlier before => inTime earlier (Nat.lt_succ_of_lt before)
      have punctual := inTime passes (Nat.lt_succ_self passes)
      refine waiting.goes_on (quiet passes (Nat.lt_succ_self passes)) (fun both => punctual both.2) ?_
      unfold Late at punctual
      omega

end RxRun

/-- The watchdog does its work for every run behind a frame at this tick: at the first pass that
is late the state becomes `error` and the receive buffer empty, and at no earlier pass. -/
def Survives (tick : UInt32) : Prop :=
  ∀ (σ : Type) (run : RxRun σ), run.host.lastRxTick = tick → ∀ passes,
    (∀ earlier ≤ passes, run.Quiet earlier) → (∀ earlier < passes, ¬ run.Late earlier) →
      (run.Late passes → (run.passed (passes + 1)).host.state = .error ∧
        (run.passed (passes + 1)).host.rxLen = 0) ∧
      (¬ run.Late passes → (run.passed (passes + 1)).host.state = run.host.state)

/-- Nothing arrives any more, and each suspension takes 100 ms. -/
def silent : Env uartSignature Empty Unit
  | .readBytes, w => (.ok ([] : List UInt8), w)
  | .writeBytes _ data, w => (.ok (data.length : ℤ), w)
  | .setBaudrate _, w => (.ok true, w)
  | .waitTxDone _, w | .delay _, w | .rpcCallback _, w => (.ok (), w)

/-- The run behind `expansion_connect` at a tick. -/
def silentRun (tick : UInt32) : RxRun Unit where
  env := silent
  ticks _ := 10
  host := { state := .awaitingHeartbeat, lastRxTick := tick, tick := tick }
  world := ()
  since := 0
  steps _ := Nat.le_refl 100
  behind := (UInt32.add_zero tick).symm
  recent := by decide
  connected := fun same => nomatch same

theorem silentRun_quiet (tick : UInt32) (passes : ℕ) : (silentRun tick).Quiet passes := .inl rfl

/-- Behind a frame at tick 0 the watchdog does not expire. -/
theorem not_survives_zero : ¬ Survives 0 := by
  intro survives
  have late : (silentRun 0).Late 15 := by decide +kernel
  have inTime : ∀ earlier < 15, ¬ (silentRun 0).Late earlier := by decide +kernel
  have expired := (survives Unit (silentRun 0) rfl 15 (fun _ _ => silentRun_quiet 0 _) inTime).1 late
  have alive : ((silentRun 0).passed 16).host.state ≠ .error := by decide +kernel
  exact alive expired.1

/-- **The watchdog survives the wrap of the counter**, and fails behind a frame at tick 0. -/
theorem watchdog_survives_iff (tick : UInt32) : Survives tick ↔ tick ≠ 0 := by
  constructor
  · intro survives zero
    exact not_survives_zero (zero ▸ survives)
  · intro armed σ run last passes quiet inTime
    have waiting := run.waiting_of_in_time passes (fun earlier before => quiet earlier (Nat.le_of_lt before))
      inTime
    have quiet := quiet passes (Nat.le_refl passes)
    refine ⟨fun late => waiting.expired quiet late (last ▸ armed), fun punctual => ?_⟩
    have recent : run.waited passes + 40 < 2 ^ 32 := by
      unfold RxRun.Late at punctual
      omega
    exact (waiting.goes_on quiet (fun both => punctual both.2) recent).state

/-- So it does not do its work for every tick. -/
theorem watchdog_sentinel : ¬ ∀ tick, Survives tick := fun survives => not_survives_zero (survives 0)

end Bridge

end FlipperMcp
