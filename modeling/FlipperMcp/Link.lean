import FlipperMcp.Coroutine.Precondition
import FlipperMcp.Errors
import FlipperMcp.Rpc.Messages
import Mathlib.Data.List.AList
import Mathlib.Data.Rat.Defs
import Mathlib.Logic.Function.Basic

/-! # The link and the host's state

The coroutines of the host await the transport and the event loop. Everything
they keep between suspensions is one shared record: the transport's receive
buffer, the `ProtobufRPC` objects (a reconnect makes a new one, and callers may
still hold an old one) and the fields of the `FlipperClient`.

Time enters through the environment. A loop bounded by `time.monotonic()` asks
once, at its deadline, how many of its clock checks will succeed (`deadline`);
any finite run of the loop is one such answer.
-/

namespace FlipperMcp

open Coroutine

/-- Seconds. -/
abbrev Time := ℚ

/-- What the client and the session code ask a transport about itself. -/
structure TransportFacts where
  name : String
  supportsCliTextMode : Bool
  hasHost : Bool
  /-- It is an `AutoTransport`. -/
  isAuto : Bool
  deriving DecidableEq

namespace TransportFacts

/-- A `USBTransport`. -/
def usb : TransportFacts := ⟨"USB", true, false, false⟩

/-- A `WiFiTransport`. -/
def wifi : TransportFacts := ⟨"WiFi", false, true, false⟩

/-- An `AutoTransport` that has selected a transport of the given name. -/
def auto (name : String) : TransportFacts := ⟨name, true, false, true⟩

/-- Connecting a transport that has a host, or an `AutoTransport`, empties its
receive buffer. -/
def clearsOnConnect (transport : TransportFacts) : Bool := transport.hasHost || transport.isAuto

/-- What a transport says about itself once it is disconnected. -/
def closed (transport : TransportFacts) : TransportFacts :=
  if transport.isAuto then auto "Auto" else transport

end TransportFacts

/-- A dictionary of texts. -/
abbrev Dict := AList fun _ : String => String

/-- Which statement of the source a `transport.send` belongs to. -/
inductive Origin
  /-- The ping of `probe_rpc`. -/
  | probe
  /-- The two sends of `start_session_attempt`. -/
  | startSession
  /-- The frame of `send_stop_session`. -/
  | stopSession
  /-- The own request frame of an RPC method. -/
  | request
  /-- The Ctrl-C and CR of `_cli_exchange`. -/
  | cliInterrupt
  /-- The command line of `_cli_exchange`. -/
  | cliCommand
  deriving DecidableEq

/-- The `timeout` argument of a `transport.receive`. -/
inductive Wait
  /-- A fixed time. -/
  | seconds (limit : Time)
  /-- What remains to the deadline of the loop. -/
  | remaining
  /-- What remains to the deadline of the loop, but at most a fixed time. -/
  | atMost (limit : Time)
  /-- No timeout. -/
  | unlimited
  deriving DecidableEq

/-- What the host awaits from the transport and the event loop. -/
inductive LinkOp
  | connect
  | disconnect
  | isConnected
  | send (origin : Origin) (data : Bytes)
  | receive (wait : Wait)
  | sleep (seconds : Time)
  | monotonic
  | deadline (seconds : Time)
  /-- How many passes a loop without a deadline makes before its task is cancelled. -/
  | patience
  /-- `asyncio.wait_for` starts its timer. -/
  | startTimeout (seconds : Time)
  /-- `asyncio.wait_for` stops its timer. -/
  | stopTimeout
  deriving DecidableEq

/-- The answer to each operation. A transport that connects may say other things
about itself than before. -/
def LinkOp.Res : LinkOp → Type
  | connect => Option TransportFacts
  | isConnected => Bool
  | disconnect | send _ _ | sleep _ | startTimeout _ | stopTimeout => Unit
  | receive _ => Bytes
  | monotonic => Time
  | deadline _ | patience => ℕ

/-- The operations of the link. -/
abbrev linkSignature : Signature where
  Op := LinkOp
  Res := LinkOp.Res

/-- The fields of a `ProtobufRPC`. -/
structure ProtobufRPC where
  commandId : ℕ := 0
  rpcSessionStarted : Bool := false
  lastNegotiationFailure : Option Time := none
  deriving DecidableEq

/-- A reference to a `ProtobufRPC` object. -/
abbrev Handle := ℕ

/-- `LinkMode`. -/
inductive LinkMode
  | unknown
  | cli
  | rpc
  deriving DecidableEq

/-- The state the host's coroutines share. -/
structure Host where
  transport : TransportFacts
  /-- `FLIPPER_FORCE_START_RPC_SESSION`, empty when it is unset. -/
  forceStartRpcSession : String := ""
  rxBuffer : Bytes := []
  /-- The debug log of `_receive_main_message`: the payload of every frame it took. -/
  rxLog : List Bytes := []
  /-- What `ProtobufRPC.get_device_info` has returned to the client. -/
  infoLog : List Dict := []
  objects : Handle → ProtobufRPC := fun _ => {}
  /-- The next `ProtobufRPC` object to be made. -/
  fresh : Handle := 0
  rpc : Option Handle := none
  connected : Bool := false
  lastConnectionError : Option String := none
  sdCardAvailable : Option Bool := none
  mode : LinkMode := .unknown

/-- A coroutine of the host. -/
abbrev Link (α : Type) := Coro Host linkSignature Exn α

/-- An environment of the host: transport, device and event loop. -/
abbrev LinkEnv (σ : Type) := Env linkSignature Exn σ

/-- An operation the host awaited. -/
abbrev LinkEvent (σ : Type) := Event Host linkSignature Exn σ

namespace Host

/-- Update the fields of one `ProtobufRPC` object. -/
def updateRpc (self : Handle) (update : ProtobufRPC → ProtobufRPC) (s : Host) : Host :=
  { s with objects := Function.update s.objects self (update (s.objects self)) }

section UpdateRpc

variable (self : Handle) (update : ProtobufRPC → ProtobufRPC) (s : Host)

@[simp] theorem updateRpc_objects_self :
    (s.updateRpc self update).objects self = update (s.objects self) :=
  Function.update_self ..

theorem updateRpc_objects_of_ne {other : Handle} (different : other ≠ self) :
    (s.updateRpc self update).objects other = s.objects other :=
  Function.update_of_ne different ..

@[simp] theorem updateRpc_transport : (s.updateRpc self update).transport = s.transport := rfl

@[simp] theorem updateRpc_forceStartRpcSession :
    (s.updateRpc self update).forceStartRpcSession = s.forceStartRpcSession := rfl

@[simp] theorem updateRpc_rxBuffer : (s.updateRpc self update).rxBuffer = s.rxBuffer := rfl

@[simp] theorem updateRpc_rxLog : (s.updateRpc self update).rxLog = s.rxLog := rfl

@[simp] theorem updateRpc_fresh : (s.updateRpc self update).fresh = s.fresh := rfl

@[simp] theorem updateRpc_rpc : (s.updateRpc self update).rpc = s.rpc := rfl

@[simp] theorem updateRpc_sdCardAvailable :
    (s.updateRpc self update).sdCardAvailable = s.sdCardAvailable := rfl

@[simp] theorem updateRpc_mode : (s.updateRpc self update).mode = s.mode := rfl

end UpdateRpc

end Host

namespace Link

/-- Await one operation of the link. -/
def perform (op : LinkOp) : Link op.Res := @Coro.perform Host linkSignature Exn op

/-- `transport.send(data)`. -/
def send (origin : Origin) (data : Bytes) : Link Unit := perform (LinkOp.send origin data)

/-- `transport.receive(timeout)`. -/
def receive (wait : Wait) : Link Bytes := perform (LinkOp.receive wait)

/-- `asyncio.sleep(seconds)`. -/
def sleep (seconds : Time) : Link Unit := perform (LinkOp.sleep seconds)

/-- `time.monotonic()`, which does not raise. -/
def monotonic : Link Time := do
  let now ← (perform LinkOp.monotonic).attempt
  pure (now.toOption.getD (0 : Time))

/-- `deadline = time.monotonic() + seconds`, as the number of checks against it
that will succeed. Reading the clock does not raise. -/
def deadline (seconds : Time) : Link ℕ := do
  let checks ← (perform (LinkOp.deadline seconds)).attempt
  pure (checks.toOption.getD (0 : ℕ))

/-- Do something only under a condition. -/
def when (condition : Prop) [Decidable condition] (body : Link Unit) : Link Unit :=
  if condition then body else pure ()

/-- `try: body except Exception: fallback`. -/
def orElse {α : Type} (body fallback : Link α) : Link α :=
  Coro.tryExcept Exn.isException body fun _ => fallback

/-- What leaves `asyncio.wait_for`: a cancellation becomes a timeout. -/
def timedOut {α : Type} : Except Exn α → Except Exn α
  | .error .cancelledError => .error .timeoutError
  | result => result

/-- `asyncio.wait_for(body, timeout)`: a suspension inside may be answered with
cancellation, which leaves as a timeout. Starting and stopping the timer does not
raise. -/
def waitFor {α : Type} (timeout : Time) (body : Link α) : Link α := do
  let _ ← (perform (LinkOp.startTimeout timeout)).attempt
  let result ← body.attempt
  let _ ← (perform LinkOp.stopTimeout).attempt
  Coro.ofExcept (timedOut result)

section Rules

variable {σ α : Type} {E : LinkEnv σ} {guard : LinkEvent σ → Prop} {s : Host} {w : σ}

theorem run_send (origin : Origin) (data : Bytes) :
    run E (send origin data) s w = ⟨(E (.send origin data) w).1, s, (E (.send origin data) w).2,
      [⟨s, w, .send origin data, (E (.send origin data) w).1⟩]⟩ :=
  run_perform ..

theorem run_sleep (seconds : Time) :
    run E (sleep seconds) s w = ⟨(E (.sleep seconds) w).1, s, (E (.sleep seconds) w).2,
      [⟨s, w, .sleep seconds, (E (.sleep seconds) w).1⟩]⟩ :=
  run_perform ..

theorem run_receive (wait : Wait) :
    run E (receive wait) s w = ⟨(E (.receive wait) w).1, s, (E (.receive wait) w).2,
      [⟨s, w, .receive wait, (E (.receive wait) w).1⟩]⟩ :=
  run_perform ..

theorem run_deadline (seconds : Time) :
    run E (deadline seconds) s w =
      ⟨.ok ((E (.deadline seconds) w).1.toOption.getD (0 : ℕ)), s, (E (.deadline seconds) w).2,
        [⟨s, w, .deadline seconds, (E (.deadline seconds) w).1⟩]⟩ := by
  unfold deadline perform
  rw [run_bind, run_attempt, run_perform]
  rfl

theorem wp_send {origin : Origin} {data : Bytes} {post : Except Exn Unit → Host → σ → Prop} :
    wp E guard (send origin data) post s w ↔
      guard ⟨s, w, .send origin data, (E (.send origin data) w).1⟩ ∧
        post (E (.send origin data) w).1 s (E (.send origin data) w).2 :=
  wp_perform

theorem wp_receive {wait : Wait} {post : Except Exn Bytes → Host → σ → Prop} :
    wp E guard (receive wait) post s w ↔
      guard ⟨s, w, .receive wait, (E (.receive wait) w).1⟩ ∧
        post (E (.receive wait) w).1 s (E (.receive wait) w).2 :=
  wp_perform

theorem wp_sleep {seconds : Time} {post : Except Exn Unit → Host → σ → Prop} :
    wp E guard (sleep seconds) post s w ↔
      guard ⟨s, w, .sleep seconds, (E (.sleep seconds) w).1⟩ ∧
        post (E (.sleep seconds) w).1 s (E (.sleep seconds) w).2 :=
  wp_perform

theorem wp_monotonic {post : Except Exn Time → Host → σ → Prop} :
    wp E guard monotonic post s w ↔
      guard ⟨s, w, .monotonic, (E .monotonic w).1⟩ ∧
        post (.ok ((E .monotonic w).1.toOption.getD (0 : Time))) s (E .monotonic w).2 := by
  unfold monotonic
  rw [wp_bind, wp_attempt]
  exact wp_perform.trans (and_congr_right fun _ => wp_ret)

theorem wp_deadline {seconds : Time} {post : Except Exn ℕ → Host → σ → Prop} :
    wp E guard (deadline seconds) post s w ↔
      guard ⟨s, w, .deadline seconds, (E (.deadline seconds) w).1⟩ ∧
        post (.ok ((E (.deadline seconds) w).1.toOption.getD (0 : ℕ))) s
          (E (.deadline seconds) w).2 := by
  unfold deadline
  rw [wp_bind, wp_attempt]
  exact wp_perform.trans (and_congr_right fun _ => wp_ret)

/-- A value left before the time was up. -/
theorem timedOut_ok {result : Except Exn α} {value : α} (returned : timedOut result = .ok value) :
    result = .ok value := by
  rcases result with error | value'
  · cases error <;> exact nomatch returned
  · exact returned

theorem wp_orElse {body fallback : Link α} {post : Except Exn α → Host → σ → Prop} :
    wp E guard (orElse body fallback) post s w ↔
      wp E guard body (fun result s w => match result with
        | .ok value => post (.ok value) s w
        | .error error =>
            if error.isException then wp E guard fallback post s w
            else post (.error error) s w) s w := by
  refine wp_tryExcept.trans (wp_congr fun result s w => ?_)
  cases result with
  | ok a => rfl
  | error e => rfl

theorem wp_ofExcept {result : Except Exn α} {post : Except Exn α → Host → σ → Prop} :
    wp E guard (Coro.ofExcept result) post s w ↔ post result s w := by
  cases result with
  | ok value => exact wp_ret
  | error error => exact wp_raise

theorem wp_waitFor {timeout : Time} {body : Link α} {post : Except Exn α → Host → σ → Prop} :
    wp E guard (waitFor timeout body) post s w ↔
      guard ⟨s, w, .startTimeout timeout, (E (.startTimeout timeout) w).1⟩ ∧
        wp E guard body (fun result s w =>
          guard ⟨s, w, .stopTimeout, (E .stopTimeout w).1⟩ ∧
            post (timedOut result) s (E .stopTimeout w).2) s (E (.startTimeout timeout) w).2 := by
  unfold waitFor
  rw [wp_bind, wp_attempt]
  refine wp_perform.trans (and_congr_right fun _ => ?_)
  simp only
  rw [wp_bind, wp_attempt]
  refine wp_congr fun result s w => ?_
  simp only
  rw [wp_bind, wp_attempt]
  exact wp_perform.trans (and_congr_right fun _ => wp_ofExcept)

/-- A handler with a named condition on the body. -/
theorem wp_orElse_of {body fallback : Link α} {post : Except Exn α → Host → σ → Prop}
    (mid : Except Exn α → Host → σ → Prop) (first : wp E guard body mid s w)
    (value : ∀ a s w, mid (.ok a) s w → post (.ok a) s w)
    (caught : ∀ e s w, mid (.error e) s w → e.isException = true → wp E guard fallback post s w)
    (uncaught : ∀ e s w, mid (.error e) s w → e.isException = false → post (.error e) s w) :
    wp E guard (orElse body fallback) post s w := by
  refine wp_orElse.mpr (first.mono fun result s w reached => ?_)
  cases result with
  | ok a => exact value a s w reached
  | error e =>
      by_cases exception : e.isException = true
      · simp only [exception, ↓reduceIte]
        exact caught e s w reached exception
      · simp only [exception, Bool.false_eq_true, ↓reduceIte]
        exact uncaught e s w reached (Bool.not_eq_true _ ▸ exception)

end Rules

section Assumptions

variable {σ α : Type} {E : LinkEnv σ} {assumed : LinkEvent σ → Prop} {s : Host} {w : σ}

theorem assuming_orElse {body fallback : Link α} {mid post : Except Exn α → Host → σ → Prop}
    (first : assuming E assumed body mid s w)
    (value : ∀ a s w, mid (.ok a) s w → post (.ok a) s w)
    (caught : ∀ e s w, mid (.error e) s w → e.isException = true →
      assuming E assumed fallback post s w)
    (uncaught : ∀ e s w, mid (.error e) s w → e.isException = false → post (.error e) s w) :
    assuming E assumed (orElse body fallback) post s w :=
  first.tryExcept value caught uncaught

theorem assuming_ofExcept {result : Except Exn α} {post : Except Exn α → Host → σ → Prop}
    (h : post result s w) : assuming E assumed (Coro.ofExcept result) post s w := by
  cases result with
  | ok value => exact assuming_ret h
  | error error => exact assuming_raise h

theorem assuming_waitFor {timeout : Time} {body : Link α} {mid post : Except Exn α → Host → σ → Prop}
    (awaited : assuming E assumed body mid s (E (.startTimeout timeout) w).2)
    (ended : ∀ result s w, mid result s w → post (timedOut result) s (E .stopTimeout w).2) :
    assuming E assumed (waitFor timeout body) post s w := by
  have started : assuming E assumed (perform (LinkOp.startTimeout timeout)).attempt
      (fun result s' w' => s' = s ∧ w' = (E (.startTimeout timeout) w).2 ∧ ∃ a, result = .ok a)
      s w :=
    assuming.attempt (assuming_perform fun _ => ⟨rfl, rfl, _, rfl⟩)
  have reified : assuming E assumed body.attempt (fun result s' w' => ∃ r, result = .ok r ∧
      mid r s' w') s (E (.startTimeout timeout) w).2 :=
    assuming.attempt (awaited.mono fun r _ _ reached => ⟨r, rfl, reached⟩)
  unfold waitFor
  refine started.bind ?_ fun e s' w' reached => nomatch reached.2.2
  intro _ s' w' reached
  obtain ⟨rfl, rfl, -⟩ := reached
  refine reified.bind ?_ fun e s' w' reached => nomatch reached
  intro result s₁ w₁ reached
  obtain ⟨r, same, reached⟩ := reached
  obtain rfl := Except.ok.inj same
  have stopped : assuming E assumed (perform LinkOp.stopTimeout).attempt
      (fun result s' w' => s' = s₁ ∧ w' = (E .stopTimeout w₁).2 ∧ ∃ a, result = .ok a) s₁ w₁ :=
    assuming.attempt (assuming_perform fun _ => ⟨rfl, rfl, _, rfl⟩)
  refine stopped.bind ?_ fun e s' w' reached => nomatch reached.2.2
  intro _ s₂ w₂ reached'
  obtain ⟨rfl, rfl, -⟩ := reached'
  exact assuming_ofExcept (ended _ _ _ reached)

end Assumptions

end Link

end FlipperMcp
