import FlipperMcp.Coroutine.Recording
import FlipperMcp.Transport.Base

/-! # Conservation of bytes by `receive_exact`

The receive buffer is all that `receive_exact` keeps between its calls. A pass of
its loop appends the chunk it received (`wp_pass`), and a call then takes its bytes
off the front or leaves the buffer as it is (`wp_exactCall`). Over a sequence of
calls, each with its own size and timeout, the bytes returned so far followed by the
buffer are therefore the bytes received so far, at every suspension
(`receive_exact_conserves`).

The chunks, and how many passes a deadline allows, are the environment's. A call that
raises returns nothing, and the caller goes on with the next one.
-/

namespace FlipperMcp

open Coroutine

namespace FlipperTransport

/-- The arguments of `receive_exact(n, timeout)`. -/
structure ExactCall where
  n : ℤ
  timeout : Option Time

/-- The call. It returns `b""` at once for `n <= 0`. -/
def ExactCall.body (call : ExactCall) : Link Bytes :=
  match call.timeout with
  | some timeout => receiveExact call.n.toNat timeout
  | none => receiveExactUntimed call.n.toNat

/-- One call after the other, with the results of all. -/
def receiveAll : List ExactCall → Link (List (Except Exn Bytes))
  | [] => pure []
  | call :: calls => do
      let result ← call.body.attempt
      let results ← receiveAll calls
      pure (result :: results)

/-- The bytes the calls returned. -/
def returned (results : Except Exn (List (Except Exn Bytes))) : Bytes :=
  (results.toOption.getD []).flatMap chunkOf

/-- The chunk an operation brought. -/
def receivedIn : Observation linkSignature Exn → Bytes
  | ⟨.receive _, answer⟩ => chunkOf answer
  | _ => []

/-- The chunks that arrived, joined. -/
def received (earlier : List (Observation linkSignature Exn)) : Bytes := earlier.flatMap receivedIn

theorem received_append (earlier later : List (Observation linkSignature Exn)) :
    received (earlier ++ later) = received earlier ++ received later :=
  List.flatMap_append

variable {σ : Type} {E : LinkEnv σ}

/-- The buffer holds `kept` and what has arrived since. -/
def Holds (kept : Bytes) (s : Host) (w : σ × List (Observation linkSignature Exn)) : Prop :=
  s.rxBuffer = kept ++ received w.2

/-- An event at which the buffer is so. -/
def Holding (kept : Bytes) (event : LinkEvent (σ × List (Observation linkSignature Exn))) : Prop :=
  Holds kept event.host event.world

section Call

variable {kept : Bytes} {s : Host} {w : σ × List (Observation linkSignature Exn)}

/-- An operation that brings no chunk leaves the account as it is. -/
theorem Holds.silent {op : LinkOp} (holds : Holds kept s w)
    (silent : receivedIn ⟨op, (E op w.1).1⟩ = []) : Holds kept s (recording E op w).2 := by
  unfold Holds at *
  rw [holds]
  change _ = kept ++ received (w.2 ++ [_])
  rw [received_append, received, received, List.flatMap_singleton, silent, List.append_nil]

/-- A receive adds its chunk. -/
theorem Holds.receive (wait : Wait) (holds : Holds kept s w) :
    s.rxBuffer ++ chunkOf (E (.receive wait) w.1).1 =
      kept ++ received (recording E (.receive wait) w).2.2 := by
  change _ = kept ++ received (w.2 ++ [_])
  rw [received_append, ← List.append_assoc, ← holds]
  exact congrArg (s.rxBuffer ++ ·) (List.append_nil _).symm

/-- **A pass of the loop.** It receives a chunk and appends it, or yields to the event
loop, and then makes the remaining passes. -/
theorem wp_pass {wait : Wait} {rest : Link Unit}
    {post : Except Exn Unit → Host → σ × List (Observation linkSignature Exn) → Prop}
    (next : ∀ s w, Holds kept s w → wp (recording E) (Holding kept) rest post s w)
    (failed : ∀ e s w, Holds kept s w → post (.error e) s w) (holds : Holds kept s w) :
    wp (recording E) (Holding kept) (do
      let chunk ← Link.receive wait
      if chunk = [] then do
        Link.sleep 0
        rest
      else do
        Coro.modify fun s => { s with rxBuffer := s.rxBuffer ++ chunk }
        rest) post s w := by
  have arrived : s.rxBuffer ++ chunkOf (recording E (.receive wait) w).1 =
      kept ++ received (recording E (.receive wait) w).2.2 := holds.receive wait
  rw [wp_bind, Link.wp_receive]
  refine ⟨holds, ?_⟩
  rcases answer : (recording E (.receive wait) w).1 with e | (chunk : Bytes)
  · rw [answer] at arrived
    replace arrived : s.rxBuffer ++ [] = _ := arrived
    rw [List.append_nil] at arrived
    exact failed e s _ arrived
  · rw [answer] at arrived
    replace arrived : s.rxBuffer ++ chunk = _ := arrived
    simp only
    split
    next empty =>
      rw [empty, List.append_nil] at arrived
      have slept : Holds kept s (recording E (.sleep 0) _).2 := Holds.silent arrived rfl
      rw [wp_bind, Link.wp_sleep]
      refine ⟨arrived, ?_⟩
      cases (recording E (.sleep 0) (recording E (.receive wait) w).2).1 with
      | error e => exact failed e s _ slept
      | ok _ => exact next s _ slept
    next nonempty =>
      rw [wp_bind, wp_modify]
      exact next _ _ arrived

/-- The loop with a deadline ends in any way with all bytes in the buffer. -/
theorem wp_fillBuffer_holds {n passes : ℕ} (holds : Holds kept s w) :
    wp (recording E) (Holding kept) (fillBuffer n passes) (fun _ => Holds kept) s w := by
  induction passes generalizing s w with
  | zero => exact wp_ret.mpr holds
  | succ passes ih =>
      unfold fillBuffer
      rw [wp_bind, wp_get]
      simp only
      split
      · exact wp_ret.mpr holds
      · exact wp_pass (fun _ _ => ih) (fun _ _ _ => id) holds

/-- The loop without a deadline returns only with enough of them. -/
theorem wp_awaitBuffer_holds {n passes : ℕ} (holds : Holds kept s w) :
    wp (recording E) (Holding kept) (awaitBuffer n passes) (fun result s' w' =>
      Holds kept s' w' ∧ (result = .ok () → n ≤ s'.rxBuffer.length)) s w := by
  induction passes generalizing s w with
  | zero => exact wp_raise.mpr ⟨holds, fun returned => (nomatch returned)⟩
  | succ passes ih =>
      unfold awaitBuffer
      rw [wp_bind, wp_get]
      simp only
      split
      next full => exact wp_ret.mpr ⟨holds, fun _ => full⟩
      next short =>
        exact wp_pass (fun _ _ => ih) (fun _ _ _ holds => ⟨holds, fun returned => (nomatch returned)⟩)
          holds

/-- What a call leaves behind: it took `n` bytes off the front, or none. -/
def Took (n : ℕ) (kept : Bytes) (result : Except Exn Bytes) (s : Host)
    (w : σ × List (Observation linkSignature Exn)) : Prop :=
  chunkOf result ++ s.rxBuffer = kept ++ received w.2 ∧
    ∀ out, result = .ok out → out = [] ∨ out.length = n

/-- Taking the first bytes of the buffer. -/
theorem wp_take {n : ℕ} (holds : Holds kept s w) (full : n ≤ s.rxBuffer.length) :
    wp (recording E) (Holding kept) (do
      Coro.modify fun s => { s with rxBuffer := s.rxBuffer.drop n }
      pure (s.rxBuffer.take n)) (Took n kept) s w := by
  rw [wp_bind, wp_modify]
  refine wp_ret.mpr ⟨?_, fun out taken => ?_⟩
  · change s.rxBuffer.take n ++ s.rxBuffer.drop n = _
    rw [List.take_append_drop]
    exact holds
  · obtain rfl := Except.ok.inj taken
    exact .inr (List.length_take_of_le full)

/-- A call that raises takes nothing. -/
theorem Holds.took {n : ℕ} (e : Exn) (holds : Holds kept s w) : Took n kept (.error e) s w :=
  ⟨holds, fun _ returned => (nomatch returned)⟩

theorem wp_receiveExact_took {n : ℕ} {timeout : Time} (holds : Holds kept s w) :
    wp (recording E) (Holding kept) (receiveExact n timeout) (Took n kept) s w := by
  unfold receiveExact
  split
  · exact wp_ret.mpr ⟨holds, fun out returned => .inl (Except.ok.inj returned).symm⟩
  · rw [wp_bind, Link.wp_deadline]
    refine ⟨holds, ?_⟩
    refine wp.bind (wp_fillBuffer_holds (holds.silent rfl)) (fun _ s' w' filled => ?_)
      fun e _ _ filled => filled.took e
    rw [wp_bind, wp_get]
    simp only
    split
    next short =>
      exact wp_ret.mpr ⟨filled, fun out returned => .inl (Except.ok.inj returned).symm⟩
    next full => exact wp_take filled (not_lt.mp full)

theorem wp_receiveExactUntimed_took {n : ℕ} (holds : Holds kept s w) :
    wp (recording E) (Holding kept) (receiveExactUntimed n) (Took n kept) s w := by
  unfold receiveExactUntimed
  split
  · exact wp_ret.mpr ⟨holds, fun out returned => .inl (Except.ok.inj returned).symm⟩
  · have asked : wp (recording E) (Holding kept) (Link.perform .patience)
        (fun _ => Holds kept) s w := wp_perform.mpr ⟨holds, holds.silent rfl⟩
    refine asked.bind ?_ ?_
    · intro (passes : ℕ) s w held
      refine wp.bind (wp_awaitBuffer_holds held) (fun _ s' w' filled => ?_)
        fun e _ _ filled => filled.1.took e
      rw [wp_bind, wp_get]
      exact wp_take filled.1 (filled.2 rfl)
    · exact fun e _ _ held => held.took e

/-- Any call, with the bytes that were buffered before it. -/
theorem wp_exactCall (call : ExactCall) (holds : Holds kept s w) :
    wp (recording E) (Holding kept) call.body (Took call.n.toNat kept) s w := by
  unfold ExactCall.body
  cases call.timeout with
  | some timeout => exact wp_receiveExact_took holds
  | none => exact wp_receiveExactUntimed_took holds

end Call

/-- What was awaited, with the answers. -/
def observations (trace : List (LinkEvent σ)) : List (Observation linkSignature Exn) :=
  trace.map Event.observed

theorem observations_append (first second : List (LinkEvent σ)) :
    observations (first ++ second) = observations first ++ observations second :=
  List.map_append

/-- **One call.** At each suspension the buffer is what it was and what has arrived
since; at the end so are the bytes returned and the buffer. -/
theorem exactCall_conserves (E : LinkEnv σ) (call : ExactCall) (s : Host) (w : σ) :
    (∀ earlier event later, (run E call.body s w).trace = earlier ++ event :: later →
      event.host.rxBuffer = s.rxBuffer ++ received (observations earlier)) ∧
    chunkOf (run E call.body s w).result ++ (run E call.body s w).host.rxBuffer =
      s.rxBuffer ++ received (observations (run E call.body s w).trace) ∧
    ∀ out, (run E call.body s w).result = .ok out → out = [] ∨ out.length = call.n.toNat := by
  have start : Holds s.rxBuffer s (w, []) := (List.append_nil _).symm
  have called := (wp_exactCall (E := E) call start).recorded
  exact ⟨called.1, called.2.1, called.2.2⟩

theorem run_receiveAll_cons (E : LinkEnv σ) (call : ExactCall) (calls : List ExactCall) (s : Host)
    (w : σ) :
    let first := run E call.body s w
    let rest := run E (receiveAll calls) first.host first.world
    run E (receiveAll (call :: calls)) s w =
      ⟨rest.result.map (first.result :: ·), rest.host, rest.world, first.trace ++ rest.trace⟩ := by
  intro first rest
  rw [receiveAll, run_bind, run_attempt]
  simp only [run_bind_pure]
  rfl

/-- **The calls.** Each ends, and the bytes returned by all of them followed by the buffer
are those that were buffered and those that arrived. -/
theorem receiveAll_conserves (E : LinkEnv σ) (calls : List ExactCall) (s : Host) (w : σ) :
    (∃ results, (run E (receiveAll calls) s w).result = .ok results) ∧
    returned (run E (receiveAll calls) s w).result ++ (run E (receiveAll calls) s w).host.rxBuffer =
      s.rxBuffer ++ received (observations (run E (receiveAll calls) s w).trace) := by
  induction calls generalizing s w with
  | nil => exact ⟨⟨[], rfl⟩, (List.append_nil _).symm⟩
  | cons call calls ih =>
      have first := (exactCall_conserves E call s w).2.1
      obtain ⟨⟨results, ended⟩, rest⟩ := ih (run E call.body s w).host (run E call.body s w).world
      rw [run_receiveAll_cons]
      simp only [ended, Except.map] at rest ⊢
      refine ⟨⟨_, rfl⟩, ?_⟩
      rw [observations_append, received_append, ← List.append_assoc, ← first, List.append_assoc,
        ← rest]
      exact List.append_assoc ..

/-- **`receive_exact` conserves bytes.** Behind any calls, at each suspension of the next one
and at its end, the bytes returned so far followed by the buffer are the bytes that were
buffered at first and all that have been received since. The call returns `n` bytes or none,
and one that returns none leaves its bytes in the buffer. -/
theorem receive_exact_conserves (E : LinkEnv σ) (calls : List ExactCall) (call : ExactCall)
    (s : Host) (w : σ) :
    let before := run E (receiveAll calls) s w
    let next := run E call.body before.host before.world
    (∀ earlier event later, next.trace = earlier ++ event :: later →
      returned before.result ++ event.host.rxBuffer =
        s.rxBuffer ++ received (observations (before.trace ++ earlier))) ∧
    returned before.result ++ chunkOf next.result ++ next.host.rxBuffer =
      s.rxBuffer ++ received (observations (before.trace ++ next.trace)) ∧
    (∀ out, next.result = .ok out → out = [] ∨ (0 < call.n ∧ (out.length : ℤ) = call.n)) ∧
    (chunkOf next.result = [] → next.host.rxBuffer =
      before.host.rxBuffer ++ received (observations next.trace)) := by
  intro before next
  have account := (receiveAll_conserves E calls s w).2
  obtain ⟨points, ending, exactly⟩ := exactCall_conserves E call before.host before.world
  refine ⟨fun earlier event later split => ?_, ?_, fun out returns => ?_, fun nothing => ?_⟩
  · rw [points earlier event later split, observations_append, received_append,
      ← List.append_assoc, ← List.append_assoc, ← account]
  · rw [observations_append, received_append, ← List.append_assoc, ← account, List.append_assoc,
      List.append_assoc, ← ending]
  · rcases exactly out returns with empty | length
    · exact .inl empty
    · rcases out with - | ⟨byte, out⟩
      · exact .inl rfl
      · have positive : 0 < (byte :: out).length := Nat.zero_lt_succ _
        exact .inr (by omega)
  · rw [← ending]
    exact (congrArg (· ++ next.host.rxBuffer) nothing).symm

end FlipperTransport

end FlipperMcp
