import FlipperMcp.Coroutine.Alphabet
import FlipperMcp.Rpc.Footprint
import Mathlib.Algebra.Order.Floor.Semiring
import Mathlib.Algebra.Order.Ring.Rat
import Mathlib.Data.Rat.Floor

/-! # The link in time

A link whose time is counted: a sleep takes its seconds, a receive waits for what the device
sends next or for its limit, a send takes no time, and the timer of `asyncio.wait_for` cancels
the suspension it falls into. What the device sends, and when, is given.
-/

namespace FlipperMcp

open Coroutine

/-- The clock and what depends on it. -/
structure Timeline where
  now : Time
  /-- The deadline of the loop under way. -/
  loopEnd : Time := 0
  /-- When the `wait_for` under way gives up. -/
  timer : Option Time := none
  /-- What the device is going to send, and when. -/
  inbox : List (Time × Bytes) := []
  deriving DecidableEq

namespace Timeline

/-- Suspend to a time, or to the timer if that is no later. -/
def wake (w : Timeline) (time : Time) : Except Exn Unit × Timeline :=
  match w.timer with
  | none => (.ok (), { w with now := time })
  | some limit =>
      if limit ≤ time then (.error .cancelledError, { w with now := limit })
      else (.ok (), { w with now := time })

/-- When a receive gives up. -/
def horizon (w : Timeline) : Wait → Option Time
  | .seconds limit => some (w.now + limit)
  | .remaining => some (max w.now w.loopEnd)
  | .atMost limit => some (max w.now (min (w.now + limit) w.loopEnd))
  | .unlimited => none

/-- A suspension that ends with a value. -/
def wakeWith (w : Timeline) (time : Time) (value : Bytes) : Except Exn Bytes × Timeline :=
  ((w.wake time).1.map fun _ => value, (w.wake time).2)

/-- `transport.receive`: the next chunk if it arrives before the receive gives up. A receive
that nothing ever ends is cancelled. -/
def receive (w : Timeline) (wait : Wait) : Except Exn Bytes × Timeline :=
  match w.inbox, w.horizon wait with
  | [], none => (.error .cancelledError, w)
  | [], some stop => w.wakeWith stop []
  | (arrival, chunk) :: later, none =>
      { w with inbox := later }.wakeWith (max w.now arrival) chunk
  | (arrival, chunk) :: later, some stop =>
      if arrival ≤ stop ∧ w.now < stop then { w with inbox := later }.wakeWith (max w.now arrival) chunk
      else w.wakeWith stop []

/-- How many passes `_drain_host_rx` makes to its deadline: a pass takes the next chunk, or
waits 0.05 s in vain and sleeps 0.01 s. -/
def drainChecks (stop : Time) : ℕ → Time → List (Time × Bytes) → ℕ
  | 0, _, _ => 0
  | passes + 1, now, inbox =>
      if stop ≤ now then 0
      else match inbox with
        | (arrival, _) :: later =>
            if arrival ≤ now + 1 / 20 then drainChecks stop passes (max now arrival) later + 1
            else drainChecks stop passes (now + 3 / 50) inbox + 1
        | [] => drainChecks stop passes (now + 3 / 50) [] + 1

/-- The clock checks of a loop: those of a drain. Another loop needs no more of them, and its
receives return at once when its time is up. -/
def checks (w : Timeline) (seconds : Time) : ℕ :=
  drainChecks (w.now + seconds) (⌈seconds / (3 / 50)⌉₊ + w.inbox.length) w.now w.inbox

end Timeline

/-- The link in time. -/
def timedLink : LinkEnv Timeline
  | .connect, w => (.ok (some TransportFacts.usb), w)
  | .isConnected, w => (.ok true, w)
  | .receive wait, w => w.receive wait
  | .sleep seconds, w => w.wake (w.now + seconds)
  | .monotonic, w => (.ok w.now, w)
  | .deadline seconds, w => (.ok (w.checks seconds), { w with loopEnd := w.now + seconds })
  | .patience, w => (.ok (w.inbox.length + 1), w)
  | .startTimeout seconds, w => (.ok (), { w with timer := some (w.now + seconds) })
  | .stopTimeout, w => (.ok (), { w with timer := none })
  | .disconnect, w | .send _ _, w => (.ok (), w)

namespace Timeline

variable {w : Timeline} {time : Time}

/-- The timer is not up at a time. -/
def Before (w : Timeline) (time : Time) : Prop := ∀ limit ∈ w.timer, time < limit

theorem wake_in_time (before : w.Before time) : w.wake time = (.ok (), { w with now := time }) := by
  unfold wake
  cases set : w.timer with
  | none => rfl
  | some limit => simp only [not_le.mpr (before limit set), ↓reduceIte]

theorem wake_late {limit : Time} (set : w.timer = some limit) (late : limit ≤ time) :
    w.wake time = (.error .cancelledError, { w with now := limit }) := by
  unfold wake
  simp only [set, late, ↓reduceIte]

end Timeline

/-- The timer is neither started nor stopped. -/
def LinkOp.LeavesTimer : LinkOp → Prop
  | startTimeout _ | stopTimeout => False
  | _ => True

namespace Timeline

@[simp] theorem wake_timer (w : Timeline) (time : Time) : (w.wake time).2.timer = w.timer := by
  unfold wake
  cases w.timer with
  | none => rfl
  | some limit =>
      by_cases late : limit ≤ time
      · simp only [late, ↓reduceIte]
      · simp only [late, ↓reduceIte]

@[simp] theorem wakeWith_timer (w : Timeline) (time : Time) (value : Bytes) :
    (w.wakeWith time value).2.timer = w.timer := w.wake_timer time

@[simp] theorem receive_timer (w : Timeline) (wait : Wait) :
    (w.receive wait).2.timer = w.timer := by
  unfold receive
  cases w.inbox with
  | nil =>
      cases w.horizon wait with
      | none => rfl
      | some stop => exact wakeWith_timer ..
  | cons next later =>
      cases w.horizon wait with
      | none => exact wakeWith_timer ..
      | some stop =>
          by_cases arrives : next.1 ≤ stop ∧ w.now < stop
          · simp only [arrives, and_self, ↓reduceIte, wakeWith_timer]
          · simp only [arrives, ↓reduceIte, wakeWith_timer]

end Timeline

theorem timedLink_timer (op : LinkOp) (w : Timeline) (leaves : op.LeavesTimer) :
    (timedLink op w).2.timer = w.timer := by
  cases op with
  | startTimeout _ | stopTimeout => exact leaves.elim
  | receive wait => exact w.receive_timer wait
  | sleep seconds => exact w.wake_timer _
  | _ => rfl

/-- The negotiation does not touch the timer. -/
theorem ensureRpcSessionStarted_timer (pb : Protobuf) (self : Handle) (s : Host) (w : Timeline) :
    (run timedLink (ProtobufRPC.ensureRpcSessionStarted pb self) s w).world.timer = w.timer := by
  have leaves : Awaits LinkOp.LeavesTimer (ProtobufRPC.ensureRpcSessionStarted pb self) := by
    apply (ProtobufRPC.ensureRpcSessionStarted_within pb self).awaits.mono
    intro op negotiates
    cases op with
    | startTimeout _ | stopTimeout => exact negotiates.elim
    | _ => trivial
  have stable : ∀ op (v : Timeline), LinkOp.LeavesTimer op → v.timer = w.timer →
      (timedLink op v).2.timer = w.timer :=
    fun op v leaves same => (timedLink_timer op v leaves).trans same
  exact leaves.world stable s rfl

end FlipperMcp
