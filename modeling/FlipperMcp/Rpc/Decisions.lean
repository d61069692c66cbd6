import FlipperMcp.Rpc.SilentLink

/-! # What a run shows of the negotiation

A probe/switch sequence shows in a run by what it sends: it is under way from its first probing
byte on, until the clock is read to note its failure or the timer of the call is stopped. A look
at the clock outside a sequence is a decision whether to negotiate. So the decisions of
`_ensure_rpc_session_started` are read off a run (`decisions`), and on a silent device they are
what its state says (`decisions_ensureRpcSessionStarted`).
-/

namespace FlipperMcp

open Coroutine

namespace ProtobufRPC

/-- What `_ensure_rpc_session_started` did about a session that is not up. -/
inductive Decision
  /-- Nothing, since a failure was still cooling down. -/
  | skipped (time : Time)
  /-- It probed and switched in vain. -/
  | negotiated (start stop : Time)
  deriving DecidableEq

/-- How long a sequence pauses and drains before its first probing byte. -/
def lead (s : Host) : Time := if s.forceStart then 3 / 10 else 27 / 50

/-- The decisions in a trace, behind the start of the sequence under way. -/
def decisions (self : Handle) : Option Time → List (LinkEvent Timeline) → List Decision
  | _, [] => []
  | started, event :: events =>
      match event.op, started with
      | .send .probe _, none | .send .startSession _, none =>
          decisions self (some (event.world.now - lead event.host)) events
      | .monotonic, none =>
          if CoolingDown self event.host event.world.now then
            .skipped event.world.now :: decisions self none events
          else decisions self none events
      | .monotonic, some start | .stopTimeout, some start =>
          .negotiated start event.world.now :: decisions self none events
      | _, started => decisions self started events

/-- What decides nothing and starts nothing. -/
def Undecided : LinkOp → Prop
  | .send .probe _ | .send .startSession _ | .monotonic => False
  | _ => True

/-- What a sequence does once it is under way. -/
def SwitchOps : LinkOp → Prop
  | .send .probe _ | .send .startSession _ | .receive _ | .sleep _ | .deadline _ => True
  | _ => False

section Scan

variable {self : Handle} {start : Time} {trace : List (LinkEvent Timeline)}

theorem decisions_undecided (quiet : ∀ event ∈ trace, Undecided event.op)
    (rest : List (LinkEvent Timeline)) :
    decisions self none (trace ++ rest) = decisions self none rest := by
  induction trace with
  | nil => rfl
  | cons event trace ih =>
      have first := quiet event (List.mem_cons_self ..)
      have later := ih fun event member => quiet event (List.mem_cons_of_mem _ member)
      rcases event with ⟨host, world, op, answer⟩
      cases op with
      | send origin data =>
          cases origin with
          | probe | startSession => exact first.elim
          | _ => exact later
      | monotonic => exact first.elim
      | _ => exact later

theorem decisions_underway (switches : ∀ event ∈ trace, SwitchOps event.op)
    (rest : List (LinkEvent Timeline)) :
    decisions self (some start) (trace ++ rest) = decisions self (some start) rest := by
  induction trace with
  | nil => rfl
  | cons event trace ih =>
      have first := switches event (List.mem_cons_self ..)
      have later := ih fun event member => switches event (List.mem_cons_of_mem _ member)
      rcases event with ⟨host, world, op, answer⟩
      cases op with
      | send origin data =>
          cases origin with
          | probe | startSession => exact later
          | _ => exact first.elim
      | receive _ | sleep _ | deadline _ => exact later
      | _ => exact first.elim

end Scan

section Sequence

variable {pb : Protobuf} {self : Handle} {α β : Type}

/-- It does only what a sequence does. -/
abbrev Switches (c : Link α) : Prop := @Awaits Host linkSignature Exn α SwitchOps c

theorem Switches.of_listens {c : Link α} (h : Listens c) : Switches c := by
  apply h.awaits.mono
  intro op read
  cases op with
  | receive _ | sleep _ | deadline _ => trivial
  | _ => exact read.elim

theorem Switches.orElse {body fallback : Link α} (tried : Switches body)
    (handled : Switches fallback) : Switches (Link.orElse body fallback) :=
  tried.tryExcept fun _ => handled

theorem probeRpc_switches (timeout : Time) : Switches (probeRpc pb timeout) := by
  unfold probeRpc
  apply Switches.orElse
  · apply (Switches.of_listens clearReceiveBuffer_listens).bind
    intro _
    apply (Switches.of_listens (drainHostRx_listens (1 / 5))).bind
    intro _
    have sent : Switches (Link.send .probe (framed probe)) := Awaits.perform trivial
    apply sent.bind
    intro _
    exact (Switches.of_listens (receiveMainMessage_listens pb timeout)).bind fun _ => .pure _
  · exact (Switches.of_listens (drainHostRx_listens (1 / 2))).bind fun _ => .pure _

theorem startSessionAttempt_switches : Switches (startSessionAttempt pb) := by
  have sent : ∀ data, Switches (Link.send .startSession data) := fun _ => Awaits.perform trivial
  have slept : Switches (Link.sleep (1 / 5)) := Awaits.perform trivial
  unfold startSessionAttempt
  apply (Switches.orElse ((sent _).bind fun _ => sent _) (.pure ())).bind
  intro _
  apply (Switches.of_listens (drainHostRx_listens (2 / 5))).bind
  intro _
  apply (Switches.of_listens clearReceiveBuffer_listens).bind
  intro _
  exact slept.bind fun _ => probeRpc_switches (6 / 5)

theorem startSessionAttempts_switches (attempts : ℕ) :
    Switches (startSessionAttempts pb attempts) := by
  induction attempts with
  | zero => exact .pure false
  | succ attempts ih =>
      unfold startSessionAttempts
      apply startSessionAttempt_switches.bind
      intro ok
      exact .ite (fun _ => .pure true) fun _ => ih

/-- Its first probing byte goes out after some seconds, when nothing arrives and the timer is
not up by then. -/
def Begins (self : Handle) (seconds : Time) (c : Link α) : Prop :=
  ∀ (s : Host) (w : Timeline) (rest : List (LinkEvent Timeline)), s.rxBuffer = [] →
    w.inbox = [] → w.Before (w.now + seconds) →
    decisions self none ((run timedLink c s w).trace ++ rest) =
      decisions self (some (w.now + seconds - lead s)) rest

namespace Begins

theorem send {origin : Origin} (data : Bytes) (probing : origin = .probe ∨ origin = .startSession) :
    Begins self 0 (Link.send origin data) := by
  intro s w rest _ _ _
  rw [Link.run_send, add_zero]
  rcases probing with rfl | rfl
  · rfl
  · rfl

/-- What only reads in vain comes before. -/
theorem after {seconds more : Time} {value : α} {c : Link α} {k : α → Link β}
    (idles : Idles seconds value c) (listens : Listens c) (begins : Begins self more (k value))
    (nonneg : 0 ≤ more) : Begins self (seconds + more) (c >>= k) := by
  intro s w rest empty silent before
  have quiet : w.Quiet seconds := by
    intro next member
    rw [silent] at member
    cases member
  obtain ⟨result, host, elapsed⟩ := idles s w empty quiet (before.mono (by linarith))
  have first : ∀ event ∈ (run timedLink c s w).trace, Undecided event.op := by
    intro event member
    have read := listens.trace _ _ _ event member
    revert read
    cases event.op with
    | send origin _ => exact fun read => read.elim
    | monotonic => exact fun read => read.elim
    | _ => exact fun _ => trivial
  have later := begins s (run timedLink c s w).world rest empty (elapsed.inbox.trans silent)
    (elapsed.before before)
  rw [elapsed.now, add_assoc] at later
  rw [run_bind]
  simp only [result, host]
  rw [Outcome.after_trace, List.append_assoc, decisions_undecided first]
  exact later

/-- The sequence goes on. -/
theorem bind {seconds : Time} {c : Link α} {k : α → Link β} (begins : Begins self seconds c)
    (switches : ∀ value, Switches (k value)) : Begins self seconds (c >>= k) := by
  intro s w rest empty silent before
  have first := begins s w
  rw [run_bind]
  cases result : (run timedLink c s w).result with
  | error e => exact first rest empty silent before
  | ok value =>
      dsimp only
      rw [Outcome.after_trace, List.append_assoc, first _ empty silent before]
      exact decisions_underway ((switches value).trace _ _ _) rest

theorem orElse {seconds : Time} {body fallback : Link α} (begins : Begins self seconds body)
    (switches : Switches fallback) : Begins self seconds (Link.orElse body fallback) := by
  intro s w rest empty silent before
  have first := begins s w
  unfold Link.orElse
  rw [run_tryExcept]
  cases result : (run timedLink body s w).result with
  | ok value => exact first rest empty silent before
  | error e =>
      dsimp only
      by_cases caught : e.isException = true
      · rw [if_pos caught, Outcome.after_trace, List.append_assoc, first _ empty silent before]
        exact decisions_underway (switches.trace _ _ _) rest
      · rw [if_neg caught]
        exact first rest empty silent before

theorem probeRpc {timeout : Time} : Begins self (6 / 25) (ProtobufRPC.probeRpc pb timeout) := by
  have drained : Idles (((4 : ℕ) : Time) * (3 / 50)) () (drainHostRx (1 / 5)) :=
    Idles.drain 4 (by norm_num) (by norm_num)
  have total : (6 : Time) / 25 = 0 + (((4 : ℕ) : Time) * (3 / 50) + 0) := by norm_num
  unfold ProtobufRPC.probeRpc
  apply orElse
  · rw [total]
    refine after Idles.clear clearReceiveBuffer_listens ?_ (by norm_num)
    refine after drained (drainHostRx_listens (1 / 5)) ?_ le_rfl
    apply (send (framed probe) (.inl rfl)).bind
    intro _
    exact (Switches.of_listens (receiveMainMessage_listens pb timeout)).bind fun _ => .pure _
  · exact (Switches.of_listens (drainHostRx_listens (1 / 2))).bind fun _ => .pure _

theorem startSessionAttempts (attempts : ℕ) :
    Begins self 0 (ProtobufRPC.startSessionAttempts pb (attempts + 1)) := by
  have sent : Switches (Link.send .startSession startRpcSession) := Awaits.perform trivial
  have slept : Switches (Link.sleep (1 / 5)) := Awaits.perform trivial
  unfold ProtobufRPC.startSessionAttempts
  apply bind
  · unfold startSessionAttempt
    apply bind
    · exact ((send interrupt (.inr rfl)).bind fun _ => sent).orElse (.pure ())
    · intro _
      apply (Switches.of_listens (drainHostRx_listens (2 / 5))).bind
      intro _
      apply (Switches.of_listens clearReceiveBuffer_listens).bind
      intro _
      exact slept.bind fun _ => probeRpc_switches (6 / 5)
  · intro ok
    exact .ite (fun _ => .pure true) fun _ => startSessionAttempts_switches attempts

end Begins

/-- The attempts in vain end with the look at the clock that notes their failure. -/
theorem trace_startSession_silent {s : Host} {w : Timeline} (empty : s.rxBuffer = [])
    (quiet : w.Quiet (309 / 50)) (before : w.Before (w.now + 309 / 50)) :
    ∃ (host : Host) (world : Timeline) (answer : Except Exn Time), world.now = w.now + 309 / 50 ∧
      (run timedLink (startSession pb self) s w).trace =
        (run timedLink (startSessionAttempts pb 3) s w).trace ++
          [⟨host, world, LinkOp.monotonic, answer⟩] := by
  have attempts : Idles (309 / 50) false (startSessionAttempts pb 3) := by
    have whole := Idles.startSessionAttempts pb 3
    have total : ((3 : ℕ) : Time) * (103 / 50) = 309 / 50 := by norm_num
    rwa [total] at whole
  obtain ⟨result, host, elapsed⟩ := attempts s w empty quiet before
  unfold startSession
  rw [run_bind]
  revert result host elapsed
  generalize run timedLink (startSessionAttempts pb 3) s w = o
  intro result host elapsed
  simp only [result, host]
  rw [run_bind, setSessionStarted, run_modify]
  simp only [Bool.false_eq_true, ↓reduceIte]
  rw [run_monotonic_bind, run_modify]
  exact ⟨_, o.world, .ok o.world.now, elapsed.now, rfl⟩

/-- With no sequence under way the attempts in vain are one. -/
theorem decisions_startSession_silent {s : Host} {w : Timeline} (rest : List (LinkEvent Timeline))
    (empty : s.rxBuffer = []) (silent : w.inbox = []) (before : w.Before (w.now + 309 / 50)) :
    decisions self none ((run timedLink (startSession pb self) s w).trace ++ rest) =
      .negotiated (w.now - lead s) (w.now + 309 / 50) :: decisions self none rest := by
  obtain ⟨host, world, answer, now, trace⟩ :=
    @trace_startSession_silent pb self s w empty (by simp [Timeline.Quiet, silent]) before
  have begins := @Begins.startSessionAttempts pb self 2 s w
    ([⟨host, world, LinkOp.monotonic, answer⟩] ++ rest) empty silent
    (before.mono (by linarith))
  rw [trace, List.append_assoc, begins, add_zero, ← now]
  rfl

/-- With one under way they end it. -/
theorem decisions_startSession_underway {s : Host} {w : Timeline} {start : Time}
    (rest : List (LinkEvent Timeline)) (empty : s.rxBuffer = []) (silent : w.inbox = [])
    (before : w.Before (w.now + 309 / 50)) :
    decisions self (some start) ((run timedLink (startSession pb self) s w).trace ++ rest) =
      .negotiated start (w.now + 309 / 50) :: decisions self none rest := by
  obtain ⟨host, world, answer, now, trace⟩ :=
    @trace_startSession_silent pb self s w empty (by simp [Timeline.Quiet, silent]) before
  rw [trace, List.append_assoc,
    decisions_underway ((startSessionAttempts_switches 3).trace _ _ _), ← now]
  rfl

/-- Probing and switching in vain. -/
theorem decisions_switch_silent {s : Host} {w : Timeline} {seconds : Time}
    (rest : List (LinkEvent Timeline)) (empty : s.rxBuffer = []) (silent : w.inbox = [])
    (total : (if s.forceStart then 0 else 16 / 25) + 309 / 50 = seconds)
    (before : w.Before (w.now + seconds)) :
    decisions self none ((run timedLink (do
      let probed ← if s.forceStart then pure false else probeRpc pb (2 / 5)
      if probed then setSessionStarted self true else startSession pb self) s w).trace ++ rest) =
      .negotiated (w.now - 3 / 10) (w.now + seconds) :: decisions self none rest := by
  by_cases forced : s.forceStart
  · have early : lead s = 3 / 10 := if_pos forced
    rw [if_pos forced, zero_add] at total
    subst total
    simp only [forced, ↓reduceIte, Coro.pure_eq, Coro.ret_bind, Bool.false_eq_true]
    rw [decisions_startSession_silent rest empty silent before, early]
  · have late : lead s = 27 / 50 := if_neg forced
    have probed : Idles (16 / 25) false (probeRpc pb (2 / 5)) := by
      have whole := Idles.probeRpc pb (show (0 : Time) < 2 / 5 by norm_num)
      have sum : (6 : Time) / 25 + 2 / 5 = 16 / 25 := by norm_num
      rwa [sum] at whole
    rw [if_neg forced] at total
    subst total
    have begins := fun rest => @Begins.probeRpc pb self (2 / 5) s w rest empty silent
      (before.mono (by linarith))
    obtain ⟨missed, kept, passed⟩ := probed s w empty (by simp [Timeline.Quiet, silent])
      (before.mono (by linarith))
    simp only [forced, Bool.false_eq_true, ↓reduceIte]
    rw [run_bind]
    revert begins missed kept passed
    generalize run timedLink (probeRpc pb (2 / 5)) s w = o
    intro begins missed kept passed
    have ends := @decisions_startSession_underway pb self s o.world
      (w.now + 6 / 25 - lead s) rest empty (passed.inbox.trans silent) (passed.before before)
    have start : w.now + 6 / 25 - lead s = w.now - 3 / 10 := by
      rw [late]
      ring
    rw [passed.now, add_assoc] at ends
    simp only [missed, kept, Bool.false_eq_true, ↓reduceIte, Outcome.after_trace]
    rw [List.append_assoc, begins, ends, start]

/-- **A negotiation in vain is one sequence**, from its start to its end. -/
theorem decisions_negotiate_silent {s : Host} {w : Timeline} (rest : List (LinkEvent Timeline))
    (usb : s.transport.isWifiTransport = false) (silent : w.inbox = [])
    (before : w.Before (w.now + negotiationSeconds s)) :
    decisions self none ((run timedLink (negotiate pb self) s w).trace ++ rest) =
      .negotiated w.now (w.now + negotiationSeconds s) :: decisions self none rest := by
  have total : (if s.forceStart then (0 : Time) else 16 / 25) + 309 / 50 =
      negotiationSeconds s - 3 / 10 := by
    rw [negotiationSeconds, if_neg (Bool.eq_false_iff.mp usb)]
    split_ifs <;> norm_num
  have atLeast : 3 / 10 ≤ negotiationSeconds s := by
    have nonneg : (0 : Time) ≤ if s.forceStart then 0 else 16 / 25 := by split_ifs <;> norm_num
    linarith
  obtain ⟨result, host, elapsed⟩ := Idles.sleep (3 / 10) { s with rxBuffer := [] } w rfl
    (by simp [Timeline.Quiet, silent]) (before.mono (by linarith))
  have split : negotiationSeconds s = 3 / 10 + (negotiationSeconds s - 3 / 10) := by ring
  rw [split] at before
  have paused : ∀ event ∈ (run timedLink (Link.sleep (3 / 10)) { s with rxBuffer := [] } w).trace,
      Undecided event.op := by
    intro event member
    rw [Link.run_sleep] at member
    rw [List.mem_singleton.mp member]
    trivial
  unfold negotiate
  rw [run_bind, FlipperTransport.clearReceiveBuffer, run_modify]
  dsimp only
  rw [run_bind]
  revert result host elapsed paused
  generalize run timedLink (Link.sleep (3 / 10)) { s with rxBuffer := [] } w = slept
  intro result host elapsed paused
  simp only [result, host]
  rw [run_bind, run_get]
  dsimp only
  have switched := @decisions_switch_silent pb self { s with rxBuffer := [] } slept.world _ rest rfl
    (elapsed.inbox.trans silent) total (elapsed.before before)
  rw [elapsed.now, add_sub_cancel_right, add_assoc, ← split] at switched
  simp only [usb, Bool.false_eq_true, ↓reduceIte, Outcome.after_trace, List.nil_append,
    List.append_assoc]
  rw [decisions_undecided paused]
  exact switched

end Sequence

/-- What `_ensure_rpc_session_started` decides on a silent device. -/
def decided (self : Handle) (s : Host) (now : Time) : List Decision :=
  if (s.objects self).rpcSessionStarted then []
  else if CoolingDown self s now then [.skipped now]
  else [.negotiated now (now + negotiationSeconds s)]

/-- **Its decisions are read off the run.** -/
theorem decisions_ensureRpcSessionStarted {pb : Protobuf} {self : Handle} {s : Host} {w : Timeline}
    (rest : List (LinkEvent Timeline)) (usb : s.transport.isWifiTransport = false)
    (silent : w.inbox = []) (before : w.Before (w.now + ensureSeconds self s w.now)) :
    decisions self none ((run timedLink (ensureRpcSessionStarted pb self) s w).trace ++ rest) =
      decided self s w.now ++ decisions self none rest := by
  unfold decided
  by_cases due : Negotiates self s w.now
  · obtain ⟨down, beyond⟩ := negotiates_iff.mp due
    have looked : ∀ rest, decisions self none (clockLook self s w ++ rest) =
        decisions self none rest := by
      intro rest
      unfold clockLook
      by_cases none_ : (s.objects self).lastNegotiationFailure = none
      · rw [if_pos none_]
        rfl
      · rw [if_neg none_]
        exact if_neg beyond
    rw [ensureSeconds, if_pos due] at before
    rw [run_ensureRpcSessionStarted_negotiates due, Outcome.after_trace, List.append_assoc, looked,
      decisions_negotiate_silent rest usb silent before, if_neg (Bool.eq_false_iff.mp down),
      if_neg beyond]
    rfl
  · rw [run_ensureRpcSessionStarted_skips due]
    by_cases up : (s.objects self).rpcSessionStarted = true
    · rw [if_pos up]
      simp only [up, ↓reduceIte]
      rfl
    · have recent : CoolingDown self s w.now := by
        by_contra beyond
        exact due (negotiates_iff.mpr ⟨Bool.eq_false_iff.mpr up, beyond⟩)
      have noted : (s.objects self).lastNegotiationFailure ≠ none := by
        obtain ⟨failure, last, -⟩ := recent
        rw [last]
        exact Option.some_ne_none _
      rw [if_neg up, if_pos recent]
      simp only [up, Bool.false_eq_true, ↓reduceIte, clockLook, noted]
      exact if_pos recent

end ProtobufRPC

end FlipperMcp
