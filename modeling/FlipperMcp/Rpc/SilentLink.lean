import FlipperMcp.Rpc.Handlers
import FlipperMcp.Rpc.Timeline
import Mathlib.Tactic.Linarith
import Mathlib.Tactic.NormNum

/-! # Waiting in vain

How long the host waits for a device that sends nothing. A drain takes as many passes as it
takes to get past its budget, a read takes its whole timeout, and the negotiation ends after
7.12 s with its failure noted, unless a timer cuts it off (`run_negotiate_silent`).
-/

namespace FlipperMcp

open Coroutine

namespace Timeline

/-- Nothing arrives for some seconds. -/
def Quiet (w : Timeline) (seconds : Time) : Prop := ∀ next ∈ w.inbox, w.now + seconds < next.1

/-- Some seconds have passed, and nothing has arrived. -/
structure Elapsed (w : Timeline) (seconds : Time) (w' : Timeline) : Prop where
  now : w'.now = w.now + seconds
  timer : w'.timer = w.timer
  inbox : w'.inbox = w.inbox

variable {w w' : Timeline} {seconds more : Time}

theorem Quiet.mono (quiet : w.Quiet more) (le : seconds ≤ more) : w.Quiet seconds :=
  fun next member => lt_of_le_of_lt (by linarith) (quiet next member)

theorem Before.mono {time earlier : Time} (before : w.Before time) (le : earlier ≤ time) :
    w.Before earlier :=
  fun limit set => lt_of_le_of_lt le (before limit set)

theorem Elapsed.trans {w'' : Timeline} (first : w.Elapsed seconds w') (second : w'.Elapsed more w'') :
    w.Elapsed (seconds + more) w'' where
  now := by rw [second.now, first.now, add_assoc]
  timer := second.timer.trans first.timer
  inbox := second.inbox.trans first.inbox

/-- What is still quiet and in time after a while. -/
theorem Elapsed.quiet (elapsed : w.Elapsed seconds w') (quiet : w.Quiet (seconds + more)) :
    w'.Quiet more := by
  intro next member
  rw [elapsed.inbox] at member
  rw [elapsed.now, add_assoc]
  exact quiet next member

theorem Elapsed.before (elapsed : w.Elapsed seconds w') (before : w.Before (w.now + (seconds + more))) :
    w'.Before (w'.now + more) := by
  intro limit set
  rw [elapsed.timer] at set
  rw [elapsed.now, add_assoc]
  exact before limit set

/-- A receive in vain. -/
theorem receive_quiet {wait : Wait} {stop : Time} (horizon : w.horizon wait = some (w.now + stop))
    (quiet : w.Quiet stop) (before : w.Before (w.now + stop)) :
    w.receive wait = (.ok [], { w with now := w.now + stop }) := by
  have waited : w.wakeWith (w.now + stop) [] = (.ok [], { w with now := w.now + stop }) := by
    unfold wakeWith
    rw [wake_in_time before]
    rfl
  unfold receive
  rw [horizon]
  cases same : w.inbox with
  | nil =>
      rw [same] at waited
      exact waited
  | cons next later =>
      have far := quiet next (same ▸ List.mem_cons_self ..)
      have late : ¬ (next.1 ≤ w.now + stop ∧ w.now < w.now + stop) :=
        fun arrives => absurd arrives.1 (not_le.mpr far)
      rw [same] at waited
      simp only [late, ↓reduceIte]
      exact waited

/-- The passes of a drain in vain: just enough to get past its budget. -/
theorem drainChecks_quiet (passes : ℕ) {fuel : ℕ} {now stop : Time} {inbox : List (Time × Bytes)}
    (enough : passes ≤ fuel) (quiet : ∀ next ∈ inbox, now + passes * (3 / 50) < next.1)
    (reached : stop ≤ now + passes * (3 / 50)) (short : now + passes * (3 / 50) < stop + 3 / 50) :
    drainChecks stop fuel now inbox = passes := by
  induction passes generalizing fuel now with
  | zero =>
      have beyond : stop ≤ now := by simpa using reached
      cases fuel with
      | zero => rfl
      | succ fuel =>
          unfold drainChecks
          rw [if_pos beyond]
  | succ passes ih =>
      obtain ⟨fuel, rfl⟩ : ∃ smaller, fuel = smaller + 1 := ⟨fuel - 1, by omega⟩
      push_cast at quiet reached short
      have nonneg : (0 : Time) ≤ passes := Nat.cast_nonneg passes
      have open_ : ¬ stop ≤ now := by
        rw [not_le]
        linarith
      have rest : drainChecks stop fuel (now + 3 / 50) inbox = passes := by
        apply ih (by omega)
        · intro next member
          have far := quiet next member
          linarith
        · linarith
        · linarith
      unfold drainChecks
      rw [if_neg open_]
      cases inbox with
      | nil => exact congrArg (· + 1) rest
      | cons next later =>
          have far := quiet next (List.mem_cons_self ..)
          have late : ¬ next.1 ≤ now + 1 / 20 := by
            rw [not_le]
            linarith
          simp only [late, ↓reduceIte]
          exact congrArg (· + 1) rest

theorem checks_quiet (passes : ℕ) (quiet : w.Quiet (passes * (3 / 50)))
    (reached : seconds ≤ passes * (3 / 50)) (short : passes * (3 / 50) < seconds + 3 / 50) :
    w.checks seconds = passes := by
  apply drainChecks_quiet passes
  · have below : (passes : Time) < seconds / (3 / 50) + 1 := by
      rw [div_add_one (by norm_num), lt_div_iff₀ (by norm_num)]
      linarith
    have ceiling : passes ≤ ⌈seconds / (3 / 50)⌉₊ := by
      by_contra few
      have fewer : ⌈seconds / (3 / 50)⌉₊ + 1 ≤ passes := by omega
      have bound : seconds / (3 / 50) ≤ (⌈seconds / (3 / 50)⌉₊ : Time) := Nat.le_ceil _
      have cast : ((⌈seconds / (3 / 50)⌉₊ + 1 : ℕ) : Time) ≤ passes := Nat.cast_le.mpr fewer
      push_cast at cast
      linarith
    omega
  · exact quiet
  · linarith
  · linarith

/-- A loop that has time left makes a check. -/
theorem checks_pos (positive : 0 < seconds) : 0 < w.checks seconds := by
  have ceiling : 0 < ⌈seconds / (3 / 50)⌉₊ := Nat.ceil_pos.mpr (div_pos positive (by norm_num))
  obtain ⟨fuel, same⟩ : ∃ fuel, ⌈seconds / (3 / 50)⌉₊ + w.inbox.length = fuel + 1 :=
    ⟨_, (Nat.sub_add_cancel (by omega : 1 ≤ ⌈seconds / (3 / 50)⌉₊ + w.inbox.length)).symm⟩
  have open_ : ¬ w.now + seconds ≤ w.now := by
    rw [not_le]
    linarith
  unfold checks
  rw [same]
  unfold drainChecks
  rw [if_neg open_]
  cases w.inbox with
  | nil => exact Nat.succ_pos _
  | cons next later =>
      by_cases arrives : next.1 ≤ w.now + 1 / 20
      · simp only [arrives, ↓reduceIte]
        exact Nat.succ_pos _
      · simp only [arrives, ↓reduceIte]
        exact Nat.succ_pos _

end Timeline

namespace ProtobufRPC

variable {α β : Type}

/-- It waits in vain: after some seconds it ends with a value, and with the host as it was. -/
def Idles (seconds : Time) (value : α) (c : Link α) : Prop :=
  ∀ (s : Host) (w : Timeline), s.rxBuffer = [] → w.Quiet seconds → w.Before (w.now + seconds) →
    (run timedLink c s w).result = .ok value ∧ (run timedLink c s w).host = s ∧
      w.Elapsed seconds (run timedLink c s w).world

namespace Idles

theorem pure (value : α) : Idles 0 value (Pure.pure value : Link α) :=
  fun _ w _ _ _ => ⟨rfl, rfl, (add_zero w.now).symm, rfl, rfl⟩

theorem bind {seconds more : Time} {value : α} {value' : β} {c : Link α} {k : α → Link β}
    (first : Idles seconds value c) (rest : Idles more value' (k value)) (nonneg : 0 ≤ more) :
    Idles (seconds + more) value' (c >>= k) := by
  intro s w empty quiet before
  obtain ⟨result, host, elapsed⟩ := first s w empty (quiet.mono (by linarith))
    (before.mono (by linarith))
  obtain ⟨result', host', elapsed'⟩ := rest s (run timedLink c s w).world empty
    (elapsed.quiet quiet) (elapsed.before before)
  rw [run_bind]
  simp only [result, host]
  exact ⟨result', host', elapsed.trans elapsed'⟩

/-- What follows returns at once. -/
theorem returning {seconds : Time} {value : α} {value' : β} {c : Link α} {k : α → Link β}
    (first : Idles seconds value c) (ends : k value = Pure.pure value') :
    Idles seconds value' (c >>= k) := by
  have whole := first.bind (ends ▸ pure value' : Idles 0 value' (k value)) le_rfl
  rwa [add_zero] at whole

theorem orElse {seconds : Time} {value : α} {body : Link α} (tried : Idles seconds value body)
    (fallback : Link α) : Idles seconds value (Link.orElse body fallback) := by
  intro s w empty quiet before
  obtain ⟨result, host, elapsed⟩ := tried s w empty quiet before
  unfold Link.orElse
  rw [run_tryExcept]
  simp only [result]
  exact ⟨trivial, host, elapsed⟩

theorem clear : Idles 0 () FlipperTransport.clearReceiveBuffer := by
  intro s w empty _ _
  refine ⟨rfl, ?_, (add_zero w.now).symm, rfl, rfl⟩
  show { s with rxBuffer := [] } = s
  rw [← empty]

theorem send (origin : Origin) (data : Bytes) : Idles 0 () (Link.send origin data) := by
  intro s w _ _ _
  rw [Link.run_send]
  exact ⟨rfl, rfl, (add_zero w.now).symm, rfl, rfl⟩

theorem sleep (seconds : Time) : Idles seconds () (Link.sleep seconds) := by
  intro s w _ _ before
  have slept : timedLink (.sleep seconds) w = (.ok (), { w with now := w.now + seconds }) :=
    Timeline.wake_in_time before
  rw [Link.run_sleep, slept]
  exact ⟨rfl, rfl, rfl, rfl, rfl⟩

theorem receive {seconds : Time} : Idles seconds [] (Link.receive (.seconds seconds)) := by
  intro s w _ quiet before
  have received : timedLink (.receive (.seconds seconds)) w =
      (.ok [], { w with now := w.now + seconds }) := Timeline.receive_quiet rfl quiet before
  rw [Link.run_receive, received]
  exact ⟨rfl, rfl, rfl, rfl, rfl⟩

theorem drainLoop (passes : ℕ) : Idles (passes * (3 / 50)) () (drainHostRxLoop passes) := by
  induction passes with
  | zero =>
      rw [Nat.cast_zero, zero_mul]
      exact pure ()
  | succ passes ih =>
      have nonneg : (0 : Time) ≤ passes * (3 / 50) :=
        mul_nonneg (Nat.cast_nonneg _) (by norm_num)
      have pause : Idles (1 / 100 + passes * (3 / 50)) ()
          (Link.sleep (1 / 100) >>= fun _ => drainHostRxLoop passes) :=
        (sleep (1 / 100)).bind ih nonneg
      have total : ((passes + 1 : ℕ) : Time) * (3 / 50) = 1 / 20 + (1 / 100 + passes * (3 / 50)) := by
        push_cast
        ring
      rw [total]
      exact receive.bind pause (by linarith)

/-- Setting a deadline takes no time. -/
theorem run_deadline_bind (seconds : Time) (k : ℕ → Link α) (s : Host) (w : Timeline) :
    run timedLink (Link.deadline seconds >>= k) s w =
      (run timedLink (k (w.checks seconds)) s { w with loopEnd := w.now + seconds }).after
        [⟨s, w, LinkOp.deadline seconds, .ok (w.checks seconds)⟩] := by
  rw [run_bind, Link.run_deadline]
  rfl

/-- A drain takes just enough passes to get past its budget. -/
theorem drain {budget : Time} (passes : ℕ) (reached : budget ≤ passes * (3 / 50))
    (short : passes * (3 / 50) < budget + 3 / 50) :
    Idles (passes * (3 / 50)) () (drainHostRx budget) := by
  apply orElse
  intro s w empty quiet before
  have loop := drainLoop passes s { w with loopEnd := w.now + budget } empty quiet before
  rw [run_deadline_bind, Timeline.checks_quiet passes quiet reached short]
  exact ⟨loop.1, loop.2.1, loop.2.2.now, loop.2.2.timer, loop.2.2.inbox⟩

/-- Filling the buffer in vain up to the deadline of the loop, and no further. -/
theorem fillBuffer {n : ℕ} (positive : 0 < n) (passes : ℕ) {s : Host} {w : Timeline} {seconds : Time}
    (empty : s.rxBuffer = []) (nonneg : 0 ≤ seconds) (left : w.loopEnd = w.now + seconds)
    (quiet : w.Quiet seconds) (before : w.Before (w.now + seconds)) :
    let o := run timedLink (FlipperTransport.fillBuffer n passes) s w
    o.result = .ok () ∧ o.host = s ∧
      w.Elapsed (if passes = 0 then 0 else seconds) o.world := by
  induction passes generalizing w seconds with
  | zero => exact ⟨rfl, rfl, (add_zero w.now).symm, rfl, rfl⟩
  | succ passes ih =>
      have missing : ¬ n ≤ s.rxBuffer.length := by
        rw [empty, List.length_nil]
        omega
      have horizon : w.horizon .remaining = some (w.now + seconds) := by
        rw [Timeline.horizon, left, max_eq_right (by linarith)]
      have received : timedLink (.receive .remaining) w =
          (.ok [], { w with now := w.now + seconds }) :=
        Timeline.receive_quiet horizon quiet before
      have slept : timedLink (.sleep 0) { w with now := w.now + seconds } =
          (.ok (), { w with now := w.now + seconds }) := by
        have awake : ({ w with now := w.now + seconds } : Timeline).Before (w.now + seconds) := before
        show Timeline.wake _ (w.now + seconds + 0) = _
        rw [add_zero]
        exact Timeline.wake_in_time awake
      obtain ⟨result, host, elapsed⟩ := @ih { w with now := w.now + seconds } 0 le_rfl
        (by simp only [left, add_zero])
        (fun next member => by simpa only [add_zero] using quiet next member)
        (fun limit set => by simpa only [add_zero] using before limit set)
      unfold FlipperTransport.fillBuffer
      rw [run_bind, run_get]
      simp only [missing, ↓reduceIte]
      rw [run_bind, Link.run_receive, received]
      simp only [↓reduceIte]
      rw [run_bind, Link.run_sleep, slept]
      refine ⟨result, host, ?_, elapsed.timer, elapsed.inbox⟩
      have now := elapsed.now
      simp only [ite_self, add_zero] at now
      simpa using now

/-- A read in vain takes its whole timeout. -/
theorem receiveExact {n : ℕ} (positive : 0 < n) {timeout : Time} (wait : 0 < timeout) :
    Idles timeout [] (FlipperTransport.receiveExact n timeout) := by
  intro s w empty quiet before
  have some_ : w.checks timeout ≠ 0 := (Timeline.checks_pos wait).ne'
  have loop := @fillBuffer n positive (w.checks timeout) s { w with loopEnd := w.now + timeout }
    timeout empty wait.le rfl quiet before
  obtain ⟨result, host, elapsed⟩ := loop
  rw [if_neg some_] at elapsed
  have short : s.rxBuffer.length < n := by
    rw [empty]
    exact positive
  unfold FlipperTransport.receiveExact
  rw [if_neg positive.ne', run_deadline_bind, run_bind]
  simp only [result]
  rw [run_bind, run_get, host]
  simp only [short, ↓reduceIte]
  exact ⟨rfl, rfl, elapsed.now, elapsed.timer, elapsed.inbox⟩

theorem readVarint {timeout : Time} (wait : 0 < timeout) :
    Idles timeout none (ProtobufRPC.readVarint timeout) := by
  apply orElse
  exact (receiveExact Nat.one_pos wait).returning rfl

theorem receiveMainMessage (pb : Protobuf) {timeout : Time} (wait : 0 < timeout) :
    Idles timeout none (ProtobufRPC.receiveMainMessage pb timeout) := by
  unfold ProtobufRPC.receiveMainMessage
  refine orElse ?_ _
  exact (readVarint wait).returning rfl

/-- A probe in vain. -/
theorem probeRpc (pb : Protobuf) {timeout : Time} (wait : 0 < timeout) :
    Idles (6 / 25 + timeout) false (ProtobufRPC.probeRpc pb timeout) := by
  have drained : Idles (((4 : ℕ) : Time) * (3 / 50)) () (drainHostRx (1 / 5)) :=
    drain 4 (by norm_num) (by norm_num)
  have total : (6 : Time) / 25 + timeout =
      0 + (((4 : ℕ) : Time) * (3 / 50) + (0 + timeout)) := by
    norm_num
  unfold ProtobufRPC.probeRpc
  refine orElse ?_ _
  rw [total]
  refine clear.bind (drained.bind ((send _ _).bind ?_ ?_) ?_) ?_
  · exact (receiveMainMessage pb wait).returning rfl
  · linarith
  · linarith
  · norm_num
    linarith

/-- An attempt to switch to RPC mode in vain. -/
theorem startSessionAttempt (pb : Protobuf) :
    Idles (103 / 50) false (ProtobufRPC.startSessionAttempt pb) := by
  have drained : Idles (((7 : ℕ) : Time) * (3 / 50)) () (drainHostRx (2 / 5)) :=
    drain 7 (by norm_num) (by norm_num)
  have total : (103 : Time) / 50 =
      0 + 0 + (((7 : ℕ) : Time) * (3 / 50) + (0 + (1 / 5 + (6 / 25 + 6 / 5)))) := by
    norm_num
  have typed : Idles (0 + 0) () (Link.orElse (do
      Link.send .startSession interrupt
      Link.send .startSession startRpcSession) (Pure.pure ())) := by
    refine orElse ?_ _
    exact (send .startSession interrupt).bind (send .startSession startRpcSession) le_rfl
  unfold ProtobufRPC.startSessionAttempt
  rw [total]
  refine typed.bind (drained.bind (clear.bind ((sleep _).bind ?_ ?_) ?_) ?_) ?_
  · exact probeRpc pb (by norm_num)
  · norm_num
  · norm_num
  · norm_num
  · norm_num

theorem startSessionAttempts (pb : Protobuf) (attempts : ℕ) :
    Idles (attempts * (103 / 50)) false (ProtobufRPC.startSessionAttempts pb attempts) := by
  induction attempts with
  | zero =>
      rw [Nat.cast_zero, zero_mul]
      exact pure false
  | succ attempts ih =>
      have total : ((attempts + 1 : ℕ) : Time) * (103 / 50) = 103 / 50 + attempts * (103 / 50) := by
        push_cast
        ring
      rw [total]
      exact (startSessionAttempt pb).bind ih (mul_nonneg (Nat.cast_nonneg _) (by norm_num))

end Idles

section Negotiation

variable {pb : Protobuf} {self : Handle}

/-- How long the negotiation takes in vain. -/
def negotiationSeconds (s : Host) : Time :=
  if s.transport.isWifiTransport then 3 / 10 else if s.forceStart then 162 / 25 else 178 / 25

theorem negotiationSeconds_pos (s : Host) : 0 < negotiationSeconds s := by
  unfold negotiationSeconds
  by_cases wifi : s.transport.isWifiTransport
  · rw [if_pos wifi]
    norm_num
  · rw [if_neg wifi]
    by_cases forced : s.forceStart
    · rw [if_pos forced]
      norm_num
    · rw [if_neg forced]
      norm_num

/-- Reading the clock takes no time. -/
theorem run_monotonic_bind {α : Type} (k : Time → Link α) (s : Host) (w : Timeline) :
    run timedLink (Link.monotonic >>= k) s w =
      (run timedLink (k w.now) s w).after [⟨s, w, LinkOp.monotonic, .ok w.now⟩] := rfl

/-- The attempts in vain, behind which the time of the failure is noted. -/
theorem run_startSession_silent {s : Host} {w : Timeline} (empty : s.rxBuffer = [])
    (quiet : w.Quiet (309 / 50)) (before : w.Before (w.now + 309 / 50)) :
    let o := run timedLink (startSession pb self) s w
    o.result = .ok () ∧ o.host.rxBuffer = [] ∧ w.Elapsed (309 / 50) o.world ∧
      (o.host.objects self).rpcSessionStarted = false ∧
      (o.host.objects self).lastNegotiationFailure = some (w.now + 309 / 50) := by
  have attempts : Idles (309 / 50) false (startSessionAttempts pb 3) := by
    have whole := Idles.startSessionAttempts pb 3
    have total : ((3 : ℕ) : Time) * (103 / 50) = 309 / 50 := by norm_num
    rwa [total] at whole
  obtain ⟨result, host, elapsed⟩ := attempts s w empty quiet before
  unfold startSession
  rw [run_bind]
  revert result host elapsed
  generalize run timedLink (startSessionAttempts pb 3) s w = o
  intro result host elapsed
  simp only [result, host]
  rw [run_bind, setSessionStarted, run_modify]
  simp only [Bool.false_eq_true, ↓reduceIte]
  rw [run_monotonic_bind, run_modify, elapsed.now]
  refine ⟨rfl, empty, elapsed, ?_, ?_⟩
  · dsimp only [Outcome.after_host]
    rw [Host.updateRpc_objects_self, Host.updateRpc_objects_self]
  · dsimp only [Outcome.after_host]
    rw [Host.updateRpc_objects_self]

/-- Probing in vain, and switching in vain. -/
theorem run_switch_silent {s : Host} {w : Timeline} {seconds : Time} (empty : s.rxBuffer = [])
    (total : (if s.forceStart then 0 else 16 / 25) + 309 / 50 = seconds)
    (quiet : w.Quiet seconds) (before : w.Before (w.now + seconds)) :
    let o := run timedLink (do
      let probed ← if s.forceStart then pure false else probeRpc pb (2 / 5)
      if probed then setSessionStarted self true else startSession pb self) s w
    o.result = .ok () ∧ o.host.rxBuffer = [] ∧ w.Elapsed seconds o.world ∧
      (o.host.objects self).rpcSessionStarted = false ∧
      (o.host.objects self).lastNegotiationFailure = some (w.now + seconds) := by
  by_cases forced : s.forceStart
  · rw [if_pos forced, zero_add] at total
    subst total
    simp only [forced, ↓reduceIte, Coro.pure_eq, Coro.ret_bind, Bool.false_eq_true]
    exact run_startSession_silent empty quiet before
  · have probed : Idles (16 / 25) false (probeRpc pb (2 / 5)) := by
      have whole := Idles.probeRpc pb (show (0 : Time) < 2 / 5 by norm_num)
      have sum : (6 : Time) / 25 + 2 / 5 = 16 / 25 := by norm_num
      rwa [sum] at whole
    rw [if_neg forced] at total
    subst total
    obtain ⟨missed, kept, passed⟩ := probed s w empty (quiet.mono (by norm_num))
      (before.mono (by norm_num))
    simp only [forced, Bool.false_eq_true, ↓reduceIte]
    rw [run_bind]
    revert missed kept passed
    generalize run timedLink (probeRpc pb (2 / 5)) s w = o
    intro missed kept passed
    obtain ⟨started, buffer, waited, flag, failure⟩ := @run_startSession_silent pb self s o.world
      empty (passed.quiet quiet) (passed.before before)
    rw [passed.now, add_assoc] at failure
    simp only [missed, kept, Bool.false_eq_true, ↓reduceIte, Outcome.after_result,
      Outcome.after_host, Outcome.after_world]
    exact ⟨started, buffer, passed.trans waited, flag, failure⟩

/-- **A negotiation in vain** takes its time. The WiFi bridge counts as a session; otherwise the
time of the failure is noted. -/
theorem run_negotiate_silent (s : Host) {w : Timeline} (quiet : w.Quiet (negotiationSeconds s))
    (before : w.Before (w.now + negotiationSeconds s)) :
    let o := run timedLink (negotiate pb self) s w
    o.result = .ok () ∧ o.host.rxBuffer = [] ∧ w.Elapsed (negotiationSeconds s) o.world ∧
      if s.transport.isWifiTransport then (o.host.objects self).rpcSessionStarted = true
      else (o.host.objects self).rpcSessionStarted = false ∧
        (o.host.objects self).lastNegotiationFailure = some (w.now + negotiationSeconds s) := by
  have atLeast : 3 / 10 ≤ negotiationSeconds s := by
    unfold negotiationSeconds
    split_ifs <;> norm_num
  obtain ⟨result, host, elapsed⟩ := Idles.sleep (3 / 10) { s with rxBuffer := [] } w rfl
    (quiet.mono atLeast) (before.mono (by linarith))
  unfold negotiate
  rw [run_bind, FlipperTransport.clearReceiveBuffer, run_modify]
  dsimp only
  rw [run_bind]
  revert result host elapsed
  generalize run timedLink (Link.sleep (3 / 10)) { s with rxBuffer := [] } w = slept
  intro result host elapsed
  simp only [result, host]
  rw [run_bind, run_get]
  dsimp only
  by_cases wifi : s.transport.isWifiTransport
  · have seconds : negotiationSeconds s = 3 / 10 := if_pos wifi
    simp only [wifi, ↓reduceIte, seconds]
    rw [setSessionStarted, run_modify]
    refine ⟨rfl, rfl, elapsed, ?_⟩
    dsimp only [Outcome.after_host]
    rw [Host.updateRpc_objects_self]
  · have total : (if s.forceStart then (0 : Time) else 16 / 25) + 309 / 50 =
        negotiationSeconds s - 3 / 10 := by
      rw [negotiationSeconds, if_neg wifi]
      split_ifs <;> norm_num
    have split : negotiationSeconds s = 3 / 10 + (negotiationSeconds s - 3 / 10) := by ring
    rw [split] at quiet before
    obtain ⟨started, buffer, waited, flag, failure⟩ :=
      @run_switch_silent pb self { s with rxBuffer := [] } slept.world _ rfl total
        (elapsed.quiet quiet) (elapsed.before before)
    have whole := elapsed.trans waited
    rw [elapsed.now, add_assoc, ← split] at failure
    rw [← split] at whole
    simp only [wifi, Bool.false_eq_true, ↓reduceIte, Outcome.after_result, Outcome.after_host,
      Outcome.after_world]
    exact ⟨started, buffer, whole, flag, failure⟩

/-- It is time to negotiate: the session is not up, and no failure is less than the cooldown
ago. -/
def Negotiates (self : Handle) (s : Host) (now : Time) : Prop :=
  (s.objects self).rpcSessionStarted = false ∧
    ∀ failure ∈ (s.objects self).lastNegotiationFailure, negotiationCooldownSeconds ≤ now - failure

instance (self : Handle) (s : Host) (now : Time) : Decidable (Negotiates self s now) :=
  inferInstanceAs (Decidable (_ ∧ _))

/-- A failure is less than the cooldown ago. -/
def CoolingDown (self : Handle) (s : Host) (now : Time) : Prop :=
  ∃ failure ∈ (s.objects self).lastNegotiationFailure, now - failure < negotiationCooldownSeconds

instance (self : Handle) (s : Host) (now : Time) : Decidable (CoolingDown self s now) :=
  inferInstanceAs (Decidable (∃ _ ∈ _, _))

theorem negotiates_iff {s : Host} {now : Time} : Negotiates self s now ↔
    (s.objects self).rpcSessionStarted = false ∧ ¬ CoolingDown self s now := by
  unfold Negotiates CoolingDown
  push Not
  rfl

/-- The look at the clock when a failure has been noted. -/
def clockLook (self : Handle) (s : Host) (w : Timeline) : List (LinkEvent Timeline) :=
  if (s.objects self).lastNegotiationFailure = none then [] else [⟨s, w, .monotonic, .ok w.now⟩]

theorem run_coolingDown (s : Host) (w : Timeline) :
    run timedLink (coolingDown self) s w =
      ⟨.ok (decide (CoolingDown self s w.now)), s, w, clockLook self s w⟩ := by
  unfold coolingDown clockLook
  rw [run_bind, run_get]
  dsimp only
  cases last : (s.objects self).lastNegotiationFailure with
  | none =>
      have calm : ¬ CoolingDown self s w.now := by
        unfold CoolingDown
        rw [last]
        exact fun recent => nomatch recent.choose_spec.1
      rw [decide_eq_false calm]
      rfl
  | some failure =>
      have recent : CoolingDown self s w.now ↔ w.now - failure < negotiationCooldownSeconds := by
        unfold CoolingDown
        rw [last]
        simp
      rw [run_monotonic_bind, decide_eq_decide.mpr recent]
      rfl

/-- When it is not time to negotiate, the device is left alone. -/
theorem run_ensureRpcSessionStarted_skips {s : Host} {w : Timeline}
    (skips : ¬ Negotiates self s w.now) :
    run timedLink (ensureRpcSessionStarted pb self) s w =
      ⟨.ok (), s, w, if (s.objects self).rpcSessionStarted then [] else clockLook self s w⟩ := by
  unfold ensureRpcSessionStarted
  rw [run_bind, run_get]
  dsimp only
  by_cases up : (s.objects self).rpcSessionStarted = true
  · rw [if_pos up, if_pos up]
    rfl
  · have recent : CoolingDown self s w.now := by
      by_contra beyond
      exact skips (negotiates_iff.mpr ⟨Bool.eq_false_iff.mpr up, beyond⟩)
    rw [if_neg up, if_neg up, run_bind, run_coolingDown, decide_eq_true recent]
    simp [Outcome.after]

/-- When it is time, the negotiation runs. -/
theorem run_ensureRpcSessionStarted_negotiates {s : Host} {w : Timeline}
    (due : Negotiates self s w.now) :
    run timedLink (ensureRpcSessionStarted pb self) s w =
      (run timedLink (negotiate pb self) s w).after (clockLook self s w) := by
  obtain ⟨down, beyond⟩ := negotiates_iff.mp due
  unfold ensureRpcSessionStarted
  rw [run_bind, run_get]
  dsimp only
  rw [if_neg (Bool.eq_false_iff.mp down), run_bind, run_coolingDown, decide_eq_false beyond]
  rfl

/-- How long bringing the session up takes on a silent device. -/
def ensureSeconds (self : Handle) (s : Host) (now : Time) : Time :=
  if Negotiates self s now then negotiationSeconds s else 0

/-- **Bringing the session up in vain** takes the time of the negotiation when it is time for
one, and none otherwise. -/
theorem run_ensureRpcSessionStarted_silent {s : Host} {w : Timeline} (empty : s.rxBuffer = [])
    (quiet : Negotiates self s w.now → w.Quiet (negotiationSeconds s))
    (before : w.Before (w.now + ensureSeconds self s w.now)) :
    let o := run timedLink (ensureRpcSessionStarted pb self) s w
    o.result = .ok () ∧ o.host.rxBuffer = [] ∧ w.Elapsed (ensureSeconds self s w.now) o.world := by
  by_cases due : Negotiates self s w.now
  · rw [ensureSeconds, if_pos due] at before ⊢
    obtain ⟨returned, clean, elapsed, -⟩ := @run_negotiate_silent pb self s w (quiet due) before
    rw [run_ensureRpcSessionStarted_negotiates due]
    exact ⟨returned, clean, elapsed⟩
  · rw [ensureSeconds, if_neg due, run_ensureRpcSessionStarted_skips due]
    exact ⟨rfl, empty, (add_zero w.now).symm, rfl, rfl⟩

end Negotiation

end ProtobufRPC

end FlipperMcp
