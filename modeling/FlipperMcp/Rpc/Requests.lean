import FlipperMcp.Coroutine.Recording
import FlipperMcp.Rpc.Failure
import FlipperMcp.Rpc.Footprint

/-! # When an own request is written

The negotiation knows whether the session is up, but its callers send their request
either way. On a transport that is not the WiFi bridge the session flag is up at an
own request exactly when it was up at the start of the method or a probe has been
answered since (`RpcCall.request_iff`): the record of the transport decides
(`ProtobufRPC.probeAnswered`), whatever the transport does.
-/

namespace FlipperMcp

open Coroutine

namespace ProtobufRPC

/-- What the record of the transport says about the probes: whether an earlier one
was answered, and what the reader has received since the last one while nothing
else was sent. -/
structure ProbeLog where
  answered : Bool := false
  awaiting : Option Bytes := none

section

variable (pb : Protobuf)

/-- A probe was answered: the bytes received since begin with the frame of a ping
response carrying the probe's data. -/
def ProbeLog.isAnswered (log : ProbeLog) : Bool :=
  log.answered || (log.awaiting.bind frontPayload).any fun front =>
    (pb.parseFromString front.1).any answersProbe

/-- Note one more operation and its answer. -/
def ProbeLog.note (log : ProbeLog) : Observation linkSignature Exn → ProbeLog
  | ⟨.send .probe _, .ok _⟩ => { answered := log.isAnswered pb, awaiting := some [] }
  | ⟨.send _ _, _⟩ => { answered := log.isAnswered pb, awaiting := none }
  | ⟨.receive .remaining, answer⟩ =>
      { log with awaiting := log.awaiting.map fun got => got ++ chunkOf answer }
  | _ => log

/-- The probes of a record. -/
def probeLog (record : List (Observation linkSignature Exn)) : ProbeLog :=
  record.foldl (ProbeLog.note pb) {}

/-- Some probe of a record was answered. -/
def probeAnswered (record : List (Observation linkSignature Exn)) : Bool :=
  (probeLog pb record).isAnswered pb

end

section Recorded

variable {σ : Type} {E : LinkEnv σ} {pb : Protobuf} {self : Handle} {up : Bool}

theorem probeLog_recording (op : LinkOp) (w : σ × List (Observation linkSignature Exn)) :
    probeLog pb (recording E op w).2.2 = (probeLog pb w.2).note pb ⟨op, (E op w.1).1⟩ :=
  List.foldl_concat ..

/-- An idle operation says nothing about the probes. -/
theorem probeLog_idle (op : LinkOp) (idle : LinkOp.IsIdle op)
    (w : σ × List (Observation linkSignature Exn)) :
    probeLog pb (recording E op w).2.2 = probeLog pb w.2 := by
  rw [probeLog_recording]
  cases op with
  | connect | disconnect | isConnected | send _ _ | patience => exact idle.elim
  | receive wait =>
      cases wait with
      | remaining | unlimited => exact idle.elim
      | seconds _ | atMost _ => rfl
  | sleep _ | monotonic | deadline _ | startTimeout _ | stopTimeout => rfl

/-- What the reader receives while a probe is awaited is noted. -/
theorem probeLog_ledger (answered : Bool) :
    Ledger (recording E) fun got w => probeLog pb w.2 = ⟨answered, some got⟩ where
  receive := by
    intro got w account
    rw [probeLog_recording, account]
    rfl
  sleep := by
    intro got w seconds account
    rw [probeLog_idle (.sleep seconds) trivial]
    exact account
  deadline := by
    intro got w seconds account
    rw [probeLog_idle (.deadline seconds) trivial]
    exact account

/-- What the reader receives after anything but a probe is not noted. -/
theorem probeLog_ledger_none (answered : Bool) :
    Ledger (recording E) fun _ w => probeLog pb w.2 = ⟨answered, none⟩ where
  receive := by
    intro got w account
    rw [probeLog_recording, account]
    rfl
  sleep := by
    intro got w seconds account
    rw [probeLog_idle (.sleep seconds) trivial]
    exact account
  deadline := by
    intro got w seconds account
    rw [probeLog_idle (.deadline seconds) trivial]
    exact account

variable (pb self up) in
/-- An own request is written with the session flag up exactly when it was up from
the start or a probe has been answered. -/
def FlagTold (event : LinkEvent (σ × List (Observation linkSignature Exn))) : Prop :=
  LinkOp.IsRequest event.op →
    (event.host.objects self).rpcSessionStarted = (up || probeAnswered pb event.world.2)

theorem FlagTold.quiet : Quiet (FlagTold (σ := σ) pb self up) := by
  intro event read request
  cases event with
  | mk s w op answer => cases op <;> first | exact request.elim | exact read.elim

theorem FlagTold.idle (event : LinkEvent (σ × List (Observation linkSignature Exn)))
    (idle : LinkOp.IsIdle event.op) : FlagTold pb self up event := by
  intro request
  cases event with
  | mk s w op answer => cases op <;> first | exact request.elim | exact idle.elim

/-- The probes stay as they are while the host idles. -/
theorem wp_drain_recorded (maxSeconds : Time) {log : ProbeLog} {s : Host}
    {w : σ × List (Observation linkSignature Exn)} (noted : probeLog pb w.2 = log) :
    wp (recording E) (FlagTold pb self up) (drainHostRx maxSeconds) (fun _ s' w' =>
      s' = s ∧ probeLog pb w'.2 = log) s w := by
  refine wp_drainHostRx ?_ FlagTold.idle maxSeconds noted
  intro op w idle noted
  rw [probeLog_idle op idle]
  exact noted

/-- Sending notes what was answered so far. -/
theorem probeLog_send {origin : Origin} (other : origin ≠ .probe) (data : Bytes)
    (w : σ × List (Observation linkSignature Exn)) :
    probeLog pb (recording E (.send origin data) w).2.2 = ⟨probeAnswered pb w.2, none⟩ := by
  rw [probeLog_recording]
  cases origin with
  | probe => exact absurd rfl other
  | _ => rfl

variable (pb) in
/-- The result is true exactly when a probe has been answered; otherwise the host is
only done reading. -/
def TellsAnswer (s : Host) (result : Except Exn Bool) (s' : Host)
    (w' : σ × List (Observation linkSignature Exn)) : Prop :=
  SameButBuffer s s' ∧ probeAnswered pb w'.2 = (match result with
    | .ok answered => answered
    | .error _ => false)

/-- A probe tells whether it was answered. -/
theorem wp_probeRpc_recorded (timeout : Time) {s : Host}
    {w : σ × List (Observation linkSignature Exn)} (unanswered : probeAnswered pb w.2 = false) :
    wp (recording E) (FlagTold pb self up) (probeRpc pb timeout) (TellsAnswer pb s) s w := by
  have cleared : SameButBuffer s { s with rxBuffer := [] } := rfl
  unfold probeRpc
  refine Link.wp_orElse_of (TellsAnswer pb s) ?_ (fun _ _ _ reached => reached) ?_ (fun _ _ _ reached _ => reached)
  · unfold FlipperTransport.clearReceiveBuffer
    rw [wp_bind, wp_modify]
    refine wp.bind (wp_drain_recorded (1 / 5) rfl) ?_ ?_
    · intro _ s₁ w₁ reached
      obtain ⟨rfl, noted⟩ := reached
      have still : probeAnswered pb w₁.2 = false := by rw [probeAnswered, noted]; exact unanswered
      have sent := @probeLog_recording σ E pb (.send .probe (framed probe)) w₁
      rw [wp_bind, Link.wp_send]
      refine ⟨fun request => request.elim, ?_⟩
      rcases answer : (recording E (.send .probe (framed probe)) w₁).1 with e | done
      · have told : (E (.send .probe (framed probe)) w₁.1).1 = .error e := answer
        rw [told] at sent
        refine ⟨cleared, ?_⟩
        rw [probeAnswered, sent]
        change (probeAnswered pb w₁.2 || false) = false
        rw [still]
        rfl
      · have told : (E (.send .probe (framed probe)) w₁.1).1 = .ok done := answer
        rw [told] at sent
        have awaited : probeLog pb (recording E (.send .probe (framed probe)) w₁).2.2 =
            ⟨false, some []⟩ := by
          rw [sent]
          change (⟨probeAnswered pb w₁.2, some []⟩ : ProbeLog) = _
          rw [still]
        refine wp.bind (wp_receiveMainMessage pb (probeLog_ledger false) FlagTold.quiet timeout []
          awaited) ?_ ?_
        · intro msg s₂ w₂ reached
          obtain ⟨buffer, read, noted, found⟩ := reached
          refine wp_ret.mpr ⟨cleared.trans buffer, ?_⟩
          rw [probeAnswered, noted]
          rcases found with ⟨payload, returned, -, front⟩ | ⟨missing, -, front⟩
          · obtain rfl := Except.ok.inj returned
            simp only [ProbeLog.isAnswered, List.nil_append, Option.bind_some,
              frontPayload_append front, Option.any_some, Bool.false_or]
          · cases msg with
            | some msg => exact absurd rfl (missing msg)
            | none =>
                simp only [ProbeLog.isAnswered, List.nil_append, Option.bind_some, front,
                  Option.any_none, Bool.or_false]
        · intro e s₂ w₂ reached
          obtain ⟨buffer, read, noted, found⟩ := reached
          refine ⟨cleared.trans buffer, ?_⟩
          rw [probeAnswered, noted]
          rcases found with ⟨payload, returned, -⟩ | ⟨-, -, front⟩
          · cases returned
          · simp only [ProbeLog.isAnswered, List.nil_append, Option.bind_some, front,
              Option.any_none, Bool.or_false]
    · intro e s₁ w₁ reached
      obtain ⟨rfl, noted⟩ := reached
      exact ⟨cleared, by rw [probeAnswered, noted]; exact unanswered⟩
  · intro e s₁ w₁ reached _
    obtain ⟨buffer, still⟩ := reached
    have settled : ∀ w₂ : σ × List (Observation linkSignature Exn),
        probeLog pb w₂.2 = probeLog pb w₁.2 → probeAnswered pb w₂.2 = false := by
      intro w₂ noted
      rw [probeAnswered, noted]
      exact still
    refine wp.bind (wp_drain_recorded (1 / 2) rfl) ?_ ?_
    · intro _ s₂ w₂ reached
      obtain ⟨rfl, noted⟩ := reached
      exact wp_ret.mpr ⟨buffer, settled w₂ noted⟩
    · intro e s₂ w₂ reached
      obtain ⟨rfl, noted⟩ := reached
      exact ⟨buffer, settled w₂ noted⟩

/-- An attempt to start the session tells whether its probe was answered. -/
theorem wp_startSessionAttempt_recorded {s : Host}
    {w : σ × List (Observation linkSignature Exn)} (unanswered : probeAnswered pb w.2 = false) :
    wp (recording E) (FlagTold pb self up) (startSessionAttempt pb) (TellsAnswer pb s) s w := by
  have cleared : SameButBuffer s { s with rxBuffer := [] } := rfl
  have written : ∀ data (w₁ : σ × List (Observation linkSignature Exn)),
      probeAnswered pb w₁.2 = false →
        probeAnswered pb (recording E (.send .startSession data) w₁).2.2 = false := by
    intro data w₁ still
    rw [probeAnswered, probeLog_send (by decide), still]
    rfl
  have typed : wp (recording E) (FlagTold pb self up) (Link.orElse (do
      Link.send .startSession interrupt
      Link.send .startSession startRpcSession) (pure ())) (fun _ s' w' =>
        s' = s ∧ probeAnswered pb w'.2 = false) s w := by
    refine Link.wp_orElse_of (fun _ s' w' => s' = s ∧ probeAnswered pb w'.2 = false) ?_
      (fun _ _ _ reached => reached) (fun e s' w' reached _ => wp_ret.mpr reached)
      (fun _ _ _ reached _ => reached)
    have first := written interrupt w unanswered
    rw [wp_bind, Link.wp_send]
    refine ⟨fun request => request.elim, ?_⟩
    cases (recording E (.send .startSession interrupt) w).1 with
    | error e => exact ⟨rfl, first⟩
    | ok _ =>
        simp only
        rw [Link.wp_send]
        exact ⟨fun request => request.elim, rfl, written startRpcSession _ first⟩
  unfold startSessionAttempt
  refine wp.bind typed ?_ fun e s₁ w₁ reached => ⟨reached.1 ▸ .refl s, reached.2⟩
  intro _ s₁ w₁ reached
  obtain ⟨rfl, still⟩ := reached
  refine wp.bind (wp_drain_recorded (2 / 5) rfl) ?_ ?_
  · intro _ s₂ w₂ reached
    obtain ⟨rfl, noted⟩ := reached
    unfold FlipperTransport.clearReceiveBuffer
    rw [wp_bind, wp_modify, wp_bind, Link.wp_sleep]
    refine ⟨FlagTold.idle _ trivial, ?_⟩
    have still' : probeAnswered pb (recording E (.sleep (1 / 5)) w₂).2.2 = false := by
      rw [probeAnswered, probeLog_idle (.sleep (1 / 5)) trivial, noted]
      exact still
    cases (recording E (.sleep (1 / 5)) w₂).1 with
    | error e => exact ⟨cleared, still'⟩
    | ok _ =>
        refine (wp_probeRpc_recorded (6 / 5) still').mono ?_
        exact fun result s₃ w₃ told => ⟨cleared.trans told.1, told.2⟩
  · intro e s₂ w₂ reached
    obtain ⟨rfl, noted⟩ := reached
    exact ⟨.refl s₂, by rw [probeAnswered, noted]; exact still⟩

theorem wp_startSessionAttempts_recorded (attempts : ℕ) {s : Host}
    {w : σ × List (Observation linkSignature Exn)} (unanswered : probeAnswered pb w.2 = false) :
    wp (recording E) (FlagTold pb self up) (startSessionAttempts pb attempts) (TellsAnswer pb s)
      s w := by
  induction attempts generalizing s w with
  | zero => exact wp_ret.mpr ⟨.refl s, unanswered⟩
  | succ attempts ih =>
      unfold startSessionAttempts
      refine wp.bind (wp_startSessionAttempt_recorded unanswered) ?_ (fun _ _ _ told => told)
      intro ok s₁ w₁ told
      cases ok with
      | true => exact wp_ret.mpr told
      | false =>
          refine (ih told.2).mono ?_
          exact fun result s₂ w₂ told' => ⟨told.1.trans told'.1, told'.2⟩

/-- The session flag agrees with the record, on a transport that is not the bridge. -/
structure FlagAgrees {σ : Type} (pb : Protobuf) (object : Handle) (up : Bool) (s : Host)
    (w : σ × List (Observation linkSignature Exn)) : Prop where
  agrees : (s.objects object).rpcSessionStarted = (up || probeAnswered pb w.2)
  usb : s.transport.isWifiTransport = false

theorem FlagAgrees.reading {s s' : Host} {w w' : σ × List (Observation linkSignature Exn)}
    (invariant : FlagAgrees pb self up s w) (buffer : SameButBuffer s s')
    (same : probeAnswered pb w'.2 = probeAnswered pb w.2) : FlagAgrees pb self up s' w' where
  agrees := by rw [buffer.objects, same]; exact invariant.agrees
  usb := by rw [buffer.transport]; exact invariant.usb

theorem FlagAgrees.idle {s : Host} {w : σ × List (Observation linkSignature Exn)}
    (invariant : FlagAgrees pb self up s w) {op : LinkOp} (idle : LinkOp.IsIdle op) :
    FlagAgrees pb self up s (recording E op w).2 :=
  invariant.reading (.refl s) (by rw [probeAnswered, probeLog_idle op idle]; rfl)

/-- Down, the flag says that no probe has been answered. -/
theorem FlagAgrees.unanswered {s : Host} {w : σ × List (Observation linkSignature Exn)}
    (invariant : FlagAgrees pb self up s w) (down : (s.objects self).rpcSessionStarted = false) :
    up = false ∧ probeAnswered pb w.2 = false :=
  Bool.or_eq_false_iff.mp (invariant.agrees.symm.trans down)

/-- The negotiation sets the flag as the record says. -/
theorem wp_startSession_recorded {s : Host} {w : σ × List (Observation linkSignature Exn)}
    (invariant : FlagAgrees pb self up s w) (down : (s.objects self).rpcSessionStarted = false) :
    wp (recording E) (FlagTold pb self up) (startSession pb self) (fun _ s' w' =>
      FlagAgrees pb self up s' w') s w := by
  obtain ⟨rfl, unanswered⟩ := invariant.unanswered down
  unfold startSession
  refine wp.bind (wp_startSessionAttempts_recorded 3 unanswered) ?_ ?_
  · intro ok s₁ w₁ told
    have usb : s₁.transport.isWifiTransport = false := by
      rw [told.1.transport]
      exact invariant.usb
    have set : FlagAgrees pb self false
        (s₁.updateRpc self fun rpc => { rpc with rpcSessionStarted := ok }) w₁ :=
      ⟨by rw [Host.updateRpc_objects_self, told.2]; rfl, usb⟩
    unfold setSessionStarted
    rw [wp_bind, wp_modify]
    cases ok with
    | true => exact wp_ret.mpr set
    | false =>
        simp only [Bool.false_eq_true, ↓reduceIte]
        rw [wp_bind, Link.wp_monotonic]
        refine ⟨FlagTold.idle _ trivial, ?_⟩
        have still := @FlagAgrees.idle _ E _ _ _ _ _ set .monotonic trivial
        refine wp_modify.mpr ⟨?_, still.usb⟩
        rw [Host.updateRpc_objects_self]
        exact still.agrees
  · intro e s₁ w₁ told
    exact invariant.reading told.1 (told.2.trans unanswered.symm)

theorem wp_negotiate_recorded {s : Host} {w : σ × List (Observation linkSignature Exn)}
    (invariant : FlagAgrees pb self up s w) (down : (s.objects self).rpcSessionStarted = false) :
    wp (recording E) (FlagTold pb self up) (negotiate pb self) (fun _ s' w' =>
      FlagAgrees pb self up s' w') s w := by
  have cleared : FlagAgrees pb self up { s with rxBuffer := [] } w := invariant.reading rfl rfl
  unfold negotiate FlipperTransport.clearReceiveBuffer
  rw [wp_bind, wp_modify, wp_bind, Link.wp_sleep]
  refine ⟨FlagTold.idle _ trivial, ?_⟩
  have slept := @FlagAgrees.idle _ E _ _ _ _ _ cleared (.sleep (3 / 10)) trivial
  obtain ⟨rfl, unanswered⟩ := slept.unanswered down
  cases (recording E (.sleep (3 / 10)) w).1 with
  | error e => exact slept
  | ok _ =>
      rw [wp_bind, wp_get]
      simp only [invariant.usb, Bool.false_eq_true, ↓reduceIte]
      split
      · rw [Coro.pure_eq, Coro.ret_bind]
        exact wp_startSession_recorded slept down
      · refine wp.bind (wp_probeRpc_recorded (2 / 5) unanswered) ?_ ?_
        · intro probed s₁ w₁ told
          have down' : (s₁.objects self).rpcSessionStarted = false := by
            rw [told.1.objects]
            exact down
          have usb : s₁.transport.isWifiTransport = false := by
            rw [told.1.transport]
            exact invariant.usb
          cases probed with
          | true =>
              unfold setSessionStarted
              simp only [↓reduceIte]
              rw [wp_modify]
              exact ⟨by rw [Host.updateRpc_objects_self, told.2]; rfl, usb⟩
          | false =>
              refine wp_startSession_recorded ⟨?_, usb⟩ down'
              rw [down', told.2]
              rfl
        · intro e s₁ w₁ told
          exact slept.reading told.1 (told.2.trans unanswered.symm)

theorem wp_ensureRpcSessionStarted_recorded {s : Host}
    {w : σ × List (Observation linkSignature Exn)} (invariant : FlagAgrees pb self up s w) :
    wp (recording E) (FlagTold pb self up) (ensureRpcSessionStarted pb self) (fun _ s' w' =>
      FlagAgrees pb self up s' w') s w := by
  unfold ensureRpcSessionStarted
  rw [wp_bind, wp_get]
  simp only
  split
  · exact wp_ret.mpr invariant
  next down =>
    have down := Bool.not_eq_true _ ▸ down
    have cooled : wp (recording E) (FlagTold pb self up) (coolingDown self) (fun _ s' w' =>
        s' = s ∧ FlagAgrees pb self up s w') s w := by
      unfold coolingDown
      rw [wp_bind, wp_get]
      simp only
      split
      · exact wp_ret.mpr ⟨rfl, invariant⟩
      · rw [wp_bind, Link.wp_monotonic]
        exact ⟨FlagTold.idle _ trivial, wp_ret.mpr ⟨rfl,
          @FlagAgrees.idle _ E _ _ _ _ _ invariant .monotonic trivial⟩⟩
    refine wp.bind cooled ?_ ?_
    · intro cooling s₁ w₁ reached
      obtain ⟨rfl, invariant⟩ := reached
      split
      · exact wp_ret.mpr invariant
      · exact wp_negotiate_recorded invariant down
    · intro e s₁ w₁ reached
      obtain ⟨rfl, invariant⟩ := reached
      exact invariant

/-- Once a probe was answered, it stays answered. -/
theorem probeAnswered_append {earlier : List (Observation linkSignature Exn)}
    (answered : probeAnswered pb earlier = true) (later : List (Observation linkSignature Exn)) :
    probeAnswered pb (earlier ++ later) = true := by
  induction later generalizing earlier with
  | nil =>
      rw [List.append_nil]
      exact answered
  | cons observation later ih =>
      have step : probeAnswered pb (earlier ++ [observation]) = true := by
        unfold probeAnswered probeLog at answered ⊢
        rw [List.foldl_concat]
        obtain ⟨op, answer⟩ := observation
        generalize earlier.foldl (ProbeLog.note pb) {} = log at answered ⊢
        cases op with
        | send origin data =>
            have kept : ∀ awaiting, ProbeLog.isAnswered pb ⟨log.isAnswered pb, awaiting⟩ = true := by
              intro awaiting
              rw [ProbeLog.isAnswered, answered, Bool.true_or]
            cases origin <;> first | exact kept _ | (cases answer <;> exact kept _)
        | receive wait =>
            cases wait with
            | remaining =>
                rcases Bool.or_eq_true_iff.mp answered with before | now
                · change (log.answered || _) = true
                  rw [before, Bool.true_or]
                · obtain ⟨front, found, told⟩ := (Option.any_eq_true _ _).mp now
                  obtain ⟨got, awaited, framed⟩ := Option.bind_eq_some_iff.mp found
                  refine Bool.or_eq_true_iff.mpr (.inr ?_)
                  rw [ProbeLog.note, awaited]
                  simp only [Option.map_some, Option.bind_some, frontPayload_append framed,
                    Option.any_some]
                  exact told
            | seconds _ | atMost _ | unlimited => exact answered
        | _ => exact answered
      have rest := ih step
      rw [List.append_assoc, List.singleton_append] at rest
      exact rest

/-- **The flag is told at every own request of a conversation.** -/
theorem Conversation.wp_recorded {α : Type} {before : Bool} {after : α → Bool} {c : Link α}
    (described : Conversation pb self before c after) {s : Host}
    {w : σ × List (Observation linkSignature Exn)} (invariant : FlagAgrees pb self up s w)
    (step : before = true → (probeLog pb w.2).awaiting = none) :
    wp (recording E) (FlagTold pb self up) c (fun result s' w' => FlagAgrees pb self up s' w' ∧
      ∀ value, result = .ok value → after value = true → (probeLog pb w'.2).awaiting = none)
      s w := by
  induction described generalizing s w with
  | ret kept =>
      refine wp_ret.mpr ⟨invariant, fun value returned now => step (kept ?_)⟩
      rw [Except.ok.inj returned]
      exact now
  | raise => exact wp_raise.mpr ⟨invariant, fun value returned => nomatch returned⟩
  | commandId =>
      unfold getNextCommandId
      rw [wp_bind, wp_modify, wp_bind, wp_get]
      refine wp_ret.mpr ⟨⟨?_, invariant.usb⟩, fun _ _ now => step now⟩
      rw [Host.updateRpc_objects_self]
      exact invariant.agrees
  | ensure =>
      refine (wp_ensureRpcSessionStarted_recorded invariant).mono ?_
      exact fun result s' w' invariant' => ⟨invariant', fun _ _ now => nomatch now⟩
  | request msg =>
      have noted := @probeLog_send _ E pb .request (by decide) (framed msg) w
      refine Link.wp_send.mpr ⟨fun _ => invariant.agrees, ⟨?_, invariant.usb⟩, fun _ _ _ => ?_⟩
      · rw [probeAnswered, noted]
        exact invariant.agrees.trans (congrArg _ (Bool.or_false _).symm)
      · exact congrArg ProbeLog.awaiting noted
  | receive timeout =>
      have account : probeLog pb w.2 = ⟨(probeLog pb w.2).answered, none⟩ := by
        rw [← step rfl]
      refine (wp_receiveMainMessage pb (probeLog_ledger_none _) FlagTold.quiet timeout []
        account).mono ?_
      intro result s' w' reached
      obtain ⟨buffer, read, noted, -⟩ := reached
      refine ⟨invariant.reading buffer ?_, fun _ _ _ => congrArg ProbeLog.awaiting noted⟩
      rw [probeAnswered, noted, ← account]
      rfl
  | sleep seconds =>
      refine Link.wp_sleep.mpr ⟨FlagTold.idle _ trivial, invariant.idle trivial, fun _ _ now => ?_⟩
      rw [probeLog_idle (.sleep seconds) trivial]
      exact step now
  | bind _ _ first rest =>
      refine wp.bind (first invariant step) ?_ ?_
      · intro value s' w' reached
        exact rest value reached.1 fun now => reached.2 value rfl now
      · intro e s' w' reached
        exact ⟨reached.1, fun value returned => nomatch returned⟩
  | orElse _ _ tried handled =>
      refine Link.wp_orElse_of _ (tried invariant step) (fun _ _ _ reached => reached) ?_
        (fun _ _ _ reached _ => reached)
      intro e s' w' reached _
      exact handled reached.1 fun now => nomatch now
  | waitFor timeout _ awaited =>
      have armed := @FlagAgrees.idle _ E _ _ _ _ _ invariant (.startTimeout timeout) trivial
      refine Link.wp_waitFor.mpr ⟨FlagTold.idle _ trivial, (awaited armed ?_).mono ?_⟩
      · rw [probeLog_idle (.startTimeout timeout) trivial]
        exact step
      · intro result s' w' reached
        refine ⟨FlagTold.idle _ trivial, reached.1.idle trivial, fun value returned now => ?_⟩
        rw [probeLog_idle .stopTimeout trivial]
        refine reached.2 value ?_ now
        cases result with
        | ok value' => exact returned
        | error e => cases e <;> cases returned
  | weaken _ needed left described =>
      refine (described invariant fun now => step (needed now)).mono ?_
      intro result s' w' reached
      exact ⟨reached.1, fun value returned now => reached.2 value returned (left value now)⟩

end Recorded

/-- Only the negotiation's own bytes are written. -/
def OnlyNegotiates : LinkOp → Prop
  | .send _ data => data = framed probe ∨ data = interrupt ∨ data = startRpcSession
  | _ => True

/-- A method's run keeps its requests to the session: each is written with the
session flag up, and when the flag stays down only the negotiation's bytes are
written and the method reports a failure. -/
def RequestsInSession {σ : Type} (self : Handle) (call : RpcCall)
    (o : Outcome Host linkSignature Exn σ call.Result) : Prop :=
  (∀ event ∈ o.trace, LinkOp.IsRequest event.op →
      (event.host.objects self).rpcSessionStarted = true) ∧
    ((o.host.objects self).rpcSessionStarted = false →
      (∀ event ∈ o.trace, OnlyNegotiates event.op) ∧ call.Reports o.result)

end ProtobufRPC

open ProtobufRPC

section

variable (pb : Protobuf) (self : Handle) (call : RpcCall) {σ : Type} (E : LinkEnv σ) (s : Host)
  (w : σ)

/-- At every own request of a method's run, and at its end, the flag is up exactly
when it was up at the start or a probe has been answered since. -/
theorem RpcCall.flag_told (usb : s.transport.isWifiTransport = false) :
    (∀ before event after, (run E (call.method pb self) s w).trace = before ++ event :: after →
      LinkOp.IsRequest event.op → (event.host.objects self).rpcSessionStarted =
        ((s.objects self).rpcSessionStarted || probeAnswered pb (before.map Event.observed))) ∧
    (((run E (call.method pb self) s w).host.objects self).rpcSessionStarted =
      ((s.objects self).rpcSessionStarted ||
        probeAnswered pb ((run E (call.method pb self) s w).trace.map Event.observed))) := by
  have agrees : FlagAgrees pb self (s.objects self).rpcSessionStarted s (w, []) :=
    ⟨(Bool.or_false _).symm, usb⟩
  have told : wp (recording E) _ _ _ s (w, []) :=
    (call.conversation pb self).wp_recorded agrees fun now => nomatch now
  unfold RpcCall.method
  rw [run_withLock]
  obtain ⟨events, ended, -⟩ := told.recorded
  exact ⟨events, ended.agrees⟩

/-- **When requests keep to the session.** On a transport that is not the WiFi
bridge a method's requests keep to the session exactly when, at each of them, the
session was up at the start or the transport has answered a probe. -/
theorem RpcCall.request_iff (usb : s.transport.isWifiTransport = false) :
    RequestsInSession self call (run E (call.method pb self) s w) ↔
      ∀ before event after, (run E (call.method pb self) s w).trace = before ++ event :: after →
        LinkOp.IsRequest event.op → (s.objects self).rpcSessionStarted = true ∨
          probeAnswered pb (before.map Event.observed) = true := by
  obtain ⟨told, ended⟩ := call.flag_told pb self E s w usb
  constructor
  · intro kept before event after split request
    have member : event ∈ (run E (call.method pb self) s w).trace := by
      rw [split]
      exact List.mem_append_right _ (List.mem_cons_self ..)
    have flag := kept.1 event member request
    rw [told before event after split request] at flag
    exact Bool.or_eq_true_iff.mp flag
  · intro answered
    have up : ∀ event ∈ (run E (call.method pb self) s w).trace, LinkOp.IsRequest event.op →
        (event.host.objects self).rpcSessionStarted = true ∧
          ((run E (call.method pb self) s w).host.objects self).rpcSessionStarted = true := by
      intro event member request
      obtain ⟨before, after, split⟩ := List.append_of_mem member
      have reason := answered before event after split request
      refine ⟨(told before event after split request).trans (Bool.or_eq_true_iff.mpr reason), ?_⟩
      refine ended.trans (Bool.or_eq_true_iff.mpr (reason.imp_right fun before_ => ?_))
      rw [split, List.map_append]
      exact probeAnswered_append before_ _
    refine ⟨fun event member request => (up event member request).1, fun down => ?_⟩
    have unsent : ∀ event ∈ (run E (call.method pb self) s w).trace,
        ¬ LinkOp.IsRequest event.op := by
      intro event member request
      rw [(up event member request).2] at down
      cases down
    refine ⟨fun event member => ?_, call.reports_of_unsent pb self E s w unsent⟩
    have within := (call.within pb self).trace E s w event
    unfold RpcCall.method at member unsent
    rw [run_withLock] at member unsent
    have own := within member
    have other := unsent event member
    cases event with
    | mk host world op answer =>
        cases op with
        | send origin data =>
            cases origin with
            | request => exact absurd trivial other
            | probe => exact .inl own
            | startSession => exact .inr own
            | stopSession | cliInterrupt | cliCommand => exact own.elim
        | _ => trivial

end

/-- A ping with the session up. -/
theorem RpcCall.request_iff_started :
    RequestsInSession 0 (.ping [1]) (run chunkQueue (RpcCall.method Protobuf.wire 0 (.ping [1]))
      { transport := .usb, objects := fun _ => { rpcSessionStarted := true } }
      []) :=
  (RpcCall.request_iff Protobuf.wire 0 (.ping [1]) chunkQueue
    { transport := .usb, objects := fun _ => { rpcSessionStarted := true } } []
    (by decide)).mpr fun _ _ _ _ _ => .inl rfl

/-- On a silent transport the negotiation fails and the ping is written anyway. -/
theorem RpcCall.request_without_session :
    ¬ ∀ (pb : Protobuf) (self : Handle) (call : RpcCall) (σ : Type) (E : LinkEnv σ) (s : Host)
        (w : σ), s.transport.isWifiTransport = false →
      RequestsInSession self call (run E (call.method pb self) s w) := by
  intro claimed
  have kept := (claimed Protobuf.wire 0 (.ping [1]) (List Bytes) chunkQueue
    { transport := .usb } [] (by decide)).1
  have written : ((run chunkQueue (RpcCall.method Protobuf.wire 0 (.ping [1]))
      { transport := .usb } []).trace.any fun event =>
        LinkOp.IsRequest event.op && !(event.host.objects 0).rpcSessionStarted) = true := by
    decide +kernel
  obtain ⟨event, member, found⟩ := List.any_eq_true.mp written
  obtain ⟨request, down⟩ := Bool.and_eq_true_iff.mp found
  have up := kept event member (of_decide_eq_true request)
  rw [up] at down
  cases down

end FlipperMcp
