import FlipperMcp.Rpc.SilentLink

/-! # A frame in time

A reader whose buffer is empty waits for the next chunk until its timeout. A chunk that arrives
before that is read as if it had been in the buffer all along (`run_receiveExact_ready`). So a
message whose frame arrives in one chunk within the timeout is returned when it arrives
(`run_receiveMainMessage_in_time`).
-/

namespace FlipperMcp

open Coroutine

namespace ProtobufRPC

variable {stream : Bytes} {timeout time : Time} {later : List (Time × Bytes)} {s : Host}
  {w : Timeline}

/-- Bytes that are in the buffer, or the next chunk to arrive within the timeout. Once they are
there the time is known, and what arrives later. -/
structure Ready (stream : Bytes) (timeout time : Time) (later : List (Time × Bytes)) (s : Host)
    (w : Timeline) : Prop where
  before : w.Before time
  there : (s.rxBuffer = stream ∧ time = w.now ∧ w.inbox = later) ∨
    (s.rxBuffer = [] ∧ ∃ arrival, time = max w.now arrival ∧ w.inbox = (arrival, stream) :: later ∧
      arrival ≤ w.now + timeout)

/-- The world once the bytes are there. -/
structure There (time : Time) (later : List (Time × Bytes)) (w w' : Timeline) : Prop where
  now : w'.now = time
  timer : w'.timer = w.timer
  inbox : w'.inbox = later

theorem There.trans {w' w'' : Timeline} (first : There time later w w')
    (second : There time later w' w'') : There time later w w'' :=
  ⟨second.now, second.timer.trans first.timer, second.inbox⟩

/-- Enough bytes are there, and no more are waited for. -/
theorem run_fillBuffer_enough {n : ℕ} (passes : ℕ) (enough : n ≤ s.rxBuffer.length) :
    run timedLink (FlipperTransport.fillBuffer n passes) s w = ⟨.ok (), s, w, []⟩ := by
  cases passes with
  | zero => rfl
  | succ passes =>
      unfold FlipperTransport.fillBuffer
      rw [run_bind, run_get]
      simp only [enough, ↓reduceIte]
      rfl

/-- The buffer is filled from the next chunk. -/
theorem run_fillBuffer_ready {n : ℕ} (positive : 0 < n) (enough : n ≤ stream.length)
    {passes : ℕ} (some_ : passes ≠ 0) (wait : 0 < timeout) (left : w.loopEnd = w.now + timeout)
    (ready : Ready stream timeout time later s w) :
    let o := run timedLink (FlipperTransport.fillBuffer n passes) s w
    o.result = .ok () ∧ o.host = { s with rxBuffer := stream } ∧ There time later w o.world := by
  obtain ⟨before, there⟩ := ready
  rcases there with ⟨rfl, rfl, rfl⟩ | ⟨empty, arrival, rfl, inbox, arrives⟩
  · rw [run_fillBuffer_enough passes enough]
    exact ⟨rfl, rfl, rfl, rfl, rfl⟩
  · obtain ⟨passes, rfl⟩ := Nat.exists_eq_succ_of_ne_zero some_
    have missing : ¬ n ≤ s.rxBuffer.length := by
      rw [empty, List.length_nil]
      omega
    have horizon : w.horizon .remaining = some (w.now + timeout) := by
      rw [Timeline.horizon, left, max_eq_right (by linarith)]
    have awake : ({ w with inbox := later } : Timeline).Before (max w.now arrival) := before
    have received : timedLink (.receive .remaining) w =
        (.ok stream, { w with inbox := later, now := max w.now arrival }) := by
      show w.receive .remaining = _
      unfold Timeline.receive
      rw [horizon, inbox]
      have open_ : arrival ≤ w.now + timeout ∧ w.now < w.now + timeout := ⟨arrives, by linarith⟩
      simp only [open_, and_self, ↓reduceIte]
      unfold Timeline.wakeWith
      rw [Timeline.wake_in_time awake]
      rfl
    have nonempty : stream ≠ [] := List.length_pos_iff.mp (positive.trans_le enough)
    unfold FlipperTransport.fillBuffer
    rw [run_bind, run_get]
    simp only [missing, ↓reduceIte]
    rw [run_bind, Link.run_receive, received]
    simp only [nonempty, ↓reduceIte]
    rw [run_bind, run_modify]
    dsimp only
    rw [empty, List.nil_append, run_fillBuffer_enough passes enough]
    exact ⟨rfl, rfl, rfl, rfl, rfl⟩

/-- **Bytes that are there in time are read.** -/
theorem run_receiveExact_ready {n : ℕ} (positive : 0 < n) (enough : n ≤ stream.length)
    (wait : 0 < timeout) (ready : Ready stream timeout time later s w) :
    let o := run timedLink (FlipperTransport.receiveExact n timeout) s w
    o.result = .ok (stream.take n) ∧ o.host = { s with rxBuffer := stream.drop n } ∧
      There time later w o.world := by
  have loop := @run_fillBuffer_ready stream timeout time later s
    { w with loopEnd := w.now + timeout } n positive enough (w.checks timeout)
    (Timeline.checks_pos wait).ne' wait rfl ⟨ready.before, ready.there⟩
  obtain ⟨result, host, there⟩ := loop
  unfold FlipperTransport.receiveExact
  rw [if_neg positive.ne', Idles.run_deadline_bind, run_bind]
  revert result host there
  generalize run timedLink (FlipperTransport.fillBuffer n (w.checks timeout)) s
    { w with loopEnd := w.now + timeout } = o
  intro result host there
  simp only [result, host]
  rw [run_bind, run_get]
  simp only [not_lt.mpr enough, ↓reduceIte]
  exact ⟨rfl, rfl, there.now, there.timer, there.inbox⟩

/-- The bytes left over are in the buffer. -/
theorem Ready.rest {n : ℕ} {w' : Timeline} (ready : Ready stream timeout time later s w)
    (there : There time later w w') :
    Ready (stream.drop n) timeout time later { s with rxBuffer := stream.drop n } w' where
  before limit set := ready.before limit (there.timer ▸ set)
  there := .inl ⟨rfl, there.now.symm, there.inbox⟩

/-- A number that is there in time is read. -/
theorem run_readVarintLoop_ready {tries value shift m : ℕ} {left : Bytes} (wait : 0 < timeout)
    (below : value < 2 ^ shift) (ready : Ready stream timeout time later s w)
    (decoded : Base128.decode tries stream = some (m, left)) :
    let o := run timedLink (readVarintLoop timeout tries value shift) s w
    o.result = .ok (some (value + m * 2 ^ shift)) ∧ o.host = { s with rxBuffer := left } ∧
      There time later w o.world := by
  induction tries generalizing value shift stream m left s w with
  | zero => cases decoded
  | succ tries ih =>
      cases stream with
      | nil =>
          rw [Base128.decode] at decoded
          cases decoded
      | cons byte rest =>
          have enough : 1 ≤ (byte :: rest).length := Nat.succ_le_succ (Nat.zero_le _)
          have fits := byte.toNat_lt
          obtain ⟨result, host, there⟩ := run_receiveExact_ready Nat.one_pos enough wait ready
          have buffered := ready.rest (n := 1) there
          unfold readVarintLoop
          rw [run_bind]
          revert result host there buffered
          generalize run timedLink (FlipperTransport.receiveExact 1 timeout) s w = o
          intro result host there buffered
          rw [Base128.decode] at decoded
          simp only [result, host, List.take_succ_cons, List.take_zero,
            and_0x80_eq_zero_iff fits, and_0x7F, or_shiftLeft below]
          split at decoded
          next last =>
            obtain ⟨rfl, rfl⟩ := Prod.mk.inj (Option.some.inj decoded)
            rw [if_pos last, Nat.mod_eq_of_lt last]
            exact ⟨rfl, rfl, there⟩
          next continued =>
            obtain ⟨⟨high, left'⟩, inner, same⟩ := Option.map_eq_some_iff.mp decoded
            obtain ⟨rfl, rfl⟩ := Prod.mk.inj same
            rw [if_neg continued]
            obtain ⟨result', host', there'⟩ :=
              ih (add_lt_pow below (Nat.mod_lt byte.toNat (by decide))) buffered inner
            have group : byte.toNat % 128 = byte.toNat - 128 := by omega
            have sum : value + byte.toNat % 128 * 2 ^ shift + high * 2 ^ (shift + 7) =
                value + (byte.toNat - 128 + 128 * high) * 2 ^ shift := by
              rw [group, pow_add]
              ring
            rw [sum] at result'
            exact ⟨result', host', there.trans there'⟩

/-- What returns needs no handler. -/
theorem There.orElse {α : Type} {body : Link α} {value : α} {s' : Host} (fallback : Link α)
    (reached : (run timedLink body s w).result = .ok value ∧ (run timedLink body s w).host = s' ∧
      There time later w (run timedLink body s w).world) :
    let o := run timedLink (Link.orElse body fallback) s w
    o.result = .ok value ∧ o.host = s' ∧ There time later w o.world := by
  unfold Link.orElse
  rw [run_tryExcept]
  simp only [reached.1]
  exact ⟨trivial, reached.2⟩

theorem run_readVarint_ready {m : ℕ} {left : Bytes} (wait : 0 < timeout)
    (ready : Ready stream timeout time later s w) (decoded : Base128.decode 5 stream = some (m, left)) :
    let o := run timedLink (readVarint timeout) s w
    o.result = .ok (some m) ∧ o.host = { s with rxBuffer := left } ∧ There time later w o.world := by
  have loop := run_readVarintLoop_ready wait (show 0 < 2 ^ 0 by decide) ready decoded
  rw [pow_zero, Nat.mul_one, Nat.zero_add] at loop
  exact There.orElse _ loop

/-- **A message in time.** One whose frame arrives in one chunk within the timeout is returned
when it arrives. -/
theorem run_receiveMainMessage_in_time (pb : Protobuf) {msg : Main} (wait : 0 < timeout)
    (nonempty : msg.serializeToString ≠ []) (sized : msg.serializeToString.length ≤ 1000000)
    (ready : Ready (framed msg) timeout time later s w) :
    let o := run timedLink (receiveMainMessage pb timeout) s w
    o.result = .ok (some msg) ∧
      o.host = { s with rxBuffer := [], rxLog := s.rxLog ++ [msg.serializeToString] } ∧
      There time later w o.world := by
  have parsed := pb.parse_serialize msg
  unfold framed at ready
  generalize msg.serializeToString = payload at *
  have positive := List.length_pos_iff.mpr nonempty
  have decoded : Base128.decode 5 (delimited payload) = some (payload.length, payload) := by
    rw [delimited_eq, Base128.frame]
    exact Base128.decode_encode (sized.trans_lt (by decide)) _
  obtain ⟨result, host, there⟩ := run_readVarint_ready wait ready decoded
  have buffered : Ready payload timeout time later { s with rxBuffer := payload }
      (run timedLink (readVarint timeout) s w).world :=
    ⟨fun limit set => ready.before limit (there.timer ▸ set), .inl ⟨rfl, there.now.symm, there.inbox⟩⟩
  obtain ⟨result', host', there'⟩ := run_receiveExact_ready positive le_rfl wait buffered
  rw [List.take_length] at result'
  rw [List.drop_length] at host'
  unfold receiveMainMessage
  refine There.orElse _ ?_
  rw [run_bind]
  revert result host there result' host' there'
  generalize run timedLink (readVarint timeout) s w = o
  intro result host there result' host' there'
  have fits : ¬ (payload.length = 0 ∨ 1000000 < payload.length) :=
    not_or.mpr ⟨positive.ne', not_lt.mpr sized⟩
  simp only [result, host, fits, ↓reduceIte]
  rw [run_bind]
  revert result' host' there'
  generalize run timedLink (FlipperTransport.receiveExact payload.length timeout)
    { s with rxBuffer := payload } o.world = o'
  intro result' host' there'
  simp only [result', host', nonempty, ne_eq, not_true_eq_false, or_self, ↓reduceIte]
  rw [run_bind, run_modify]
  simp only [parsed]
  exact ⟨rfl, rfl, there.trans there'⟩

end ProtobufRPC

end FlipperMcp
