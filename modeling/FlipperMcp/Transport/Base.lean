import FlipperMcp.Link

/-! # The base class of the transports

`FlipperTransport.receive_exact` reassembles frames from chunks of any size
through the receive buffer, and `clear_receive_buffer` empties it.

Whatever the transport does, the bytes it has delivered are those the reader has
taken followed by the receive buffer: `receive_exact` takes its bytes off the
front of the buffer or takes nothing (`wp_receiveExact`). What has been delivered
is kept by a `Ledger`, any account of the transport that a receive extends by the
chunk it returns. When the chunks arrive before the deadlines (`Arrivals`),
`receive_exact` takes its bytes whenever they are there
(`wp_receiveExact_arrivals`).
-/

namespace FlipperMcp

open Coroutine

namespace FlipperTransport

/-- The loop of `receive_exact`: receive until `n` bytes are buffered or the
clock passes the deadline. -/
def fillBuffer (n : ℕ) : ℕ → Link Unit
  | 0 => pure ()
  | passes + 1 => do
      let s ← Coro.get
      if n ≤ s.rxBuffer.length then pure ()
      else do
        let chunk ← Link.receive .remaining
        if chunk = [] then do
          Link.sleep 0
          fillBuffer n passes
        else do
          Coro.modify fun s => { s with rxBuffer := s.rxBuffer ++ chunk }
          fillBuffer n passes

/-- `receive_exact(n, timeout)`: exactly `n` bytes, or none. -/
def receiveExact (n : ℕ) (timeout : Time) : Link Bytes :=
  if n = 0 then pure []
  else do
    let passes ← Link.deadline timeout
    fillBuffer n passes
    let s ← Coro.get
    if s.rxBuffer.length < n then pure []
    else do
      Coro.modify fun s => { s with rxBuffer := s.rxBuffer.drop n }
      pure (s.rxBuffer.take n)

/-- The loop of `receive_exact` without a deadline. A task that is never served ends by
being cancelled. -/
def awaitBuffer (n : ℕ) : ℕ → Link Unit
  | 0 => .raise .cancelledError
  | passes + 1 => do
      let s ← Coro.get
      if n ≤ s.rxBuffer.length then pure ()
      else do
        let chunk ← Link.receive .unlimited
        if chunk = [] then do
          Link.sleep 0
          awaitBuffer n passes
        else do
          Coro.modify fun s => { s with rxBuffer := s.rxBuffer ++ chunk }
          awaitBuffer n passes

/-- `receive_exact(n)`. -/
def receiveExactUntimed (n : ℕ) : Link Bytes :=
  if n = 0 then pure []
  else do
    let (passes : ℕ) ← Link.perform .patience
    awaitBuffer n passes
    let s ← Coro.get
    Coro.modify fun s => { s with rxBuffer := s.rxBuffer.drop n }
    pure (s.rxBuffer.take n)

/-- `clear_receive_buffer()`. -/
def clearReceiveBuffer : Link Unit := Coro.modify fun s => { s with rxBuffer := [] }

end FlipperTransport

/-- The operations of a reader. -/
def LinkOp.IsRead : LinkOp → Prop
  | receive _ | sleep _ | deadline _ => True
  | _ => False

/-- The operations that neither write nor belong to `receive_exact`. -/
def LinkOp.IsIdle : LinkOp → Prop
  | receive (.seconds _) | receive (.atMost _) | sleep _ | monotonic | deadline _ | startTimeout _
  | stopTimeout => True
  | _ => False

variable {σ ρ : Type}

/-- The bytes a receive delivered; one that raises delivers none. -/
def chunkOf (answer : Except Exn Bytes) : Bytes := answer.toOption.getD []

/-- An account of the bytes the transport has delivered to `receive_exact`. -/
structure Ledger (E : LinkEnv σ) (delivered : Bytes → σ → Prop) : Prop where
  receive : ∀ {got w}, delivered got w →
    delivered (got ++ chunkOf (E (.receive .remaining) w).1) (E (.receive .remaining) w).2
  sleep : ∀ {got w} (seconds : Time), delivered got w → delivered got (E (.sleep seconds) w).2
  deadline : ∀ {got w} (seconds : Time), delivered got w →
    delivered got (E (.deadline seconds) w).2

/-- Reading changes the receive buffer and the log of frames only. -/
def SameButBuffer (s s' : Host) : Prop :=
  s' = { s with rxBuffer := s'.rxBuffer, rxLog := s'.rxLog }

theorem SameButBuffer.refl (s : Host) : SameButBuffer s s := rfl

theorem SameButBuffer.trans {a b c : Host} (first : SameButBuffer a b)
    (second : SameButBuffer b c) : SameButBuffer a c := by
  unfold SameButBuffer at *
  rw [second, first]

theorem SameButBuffer.objects {s s' : Host} (same : SameButBuffer s s') :
    s'.objects = s.objects := by rw [same]

theorem SameButBuffer.transport {s s' : Host} (same : SameButBuffer s s') :
    s'.transport = s.transport := by rw [same]

/-- A guard that lets every read through. -/
def Quiet (guard : LinkEvent σ → Prop) : Prop := ∀ event, LinkOp.IsRead event.op → guard event

/-- A transport whose chunks arrive before the deadlines: each receive is answered
with the next of them, and with nothing when none is left. Reading changes nothing
else, as far as `rest` can tell. -/
structure Arrivals (E : LinkEnv σ) (chunks : σ → List Bytes) (rest : σ → ρ) : Prop where
  receive : ∀ wait w, (E (.receive wait) w).1 = .ok ((chunks w).headD [])
  received : ∀ wait w, chunks (E (.receive wait) w).2 = (chunks w).tail
  sleep : ∀ seconds w, (E (.sleep seconds) w).1 = .ok ()
  slept : ∀ seconds w, chunks (E (.sleep seconds) w).2 = chunks w
  deadline : ∀ seconds w, ∃ passes : ℕ, (chunks w).length ≤ passes ∧
    (E (.deadline seconds) w).1 = .ok passes
  passed : ∀ seconds w, chunks (E (.deadline seconds) w).2 = chunks w
  rest : ∀ op w, LinkOp.IsRead op → rest (E op w).2 = rest w

/-- The bytes of the chunks still to arrive. -/
def arriving (chunks : σ → List Bytes) (w : σ) : Bytes := (chunks w).flatten

/-- The bytes a reader has still to see. -/
def unread (chunks : σ → List Bytes) (s : Host) (w : σ) : Bytes := s.rxBuffer ++ arriving chunks w

/-- What arrives is what has not been delivered of the whole stream. -/
theorem Arrivals.ledger {E : LinkEnv σ} {chunks : σ → List Bytes} {rest : σ → ρ}
    (arrivals : Arrivals E chunks rest) (stream : Bytes) (kept : ρ) :
    Ledger E (fun got w => stream = got ++ arriving chunks w ∧ rest w = kept) where
  receive := by
    intro got w account
    have next : arriving chunks w = chunkOf (E (.receive .remaining) w).1 ++
        arriving chunks (E (.receive .remaining) w).2 := by
      rw [arriving, arriving, arrivals.receive, arrivals.received]
      rcases chunks w with - | ⟨chunk, chunks⟩ <;> rfl
    rw [List.append_assoc, ← next]
    exact ⟨account.1, (arrivals.rest (.receive .remaining) w trivial).trans account.2⟩
  sleep := by
    intro got w seconds account
    rw [arriving, arrivals.slept]
    exact ⟨account.1, (arrivals.rest (.sleep seconds) w trivial).trans account.2⟩
  deadline := by
    intro got w seconds account
    rw [arriving, arrivals.passed]
    exact ⟨account.1, (arrivals.rest (.deadline seconds) w trivial).trans account.2⟩

/-- The transport that delivers a list of chunks, and then nothing. A deadline
passes once every chunk has been received. -/
def chunkQueue : LinkEnv (List Bytes)
  | .receive _, chunks => (.ok (chunks.headD []), chunks.tail)
  | .deadline _, chunks => (.ok chunks.length, chunks)
  | .patience, chunks => (.ok chunks.length, chunks)
  | .connect, chunks => (.ok (some TransportFacts.usb), chunks)
  | .isConnected, chunks => (.ok true, chunks)
  | .monotonic, chunks => (.ok (0 : ℚ), chunks)
  | .disconnect, chunks | .send _ _, chunks | .sleep _, chunks | .startTimeout _, chunks
  | .stopTimeout, chunks => (.ok (), chunks)

theorem chunkQueue_arrivals : Arrivals chunkQueue id (fun _ => ()) where
  receive _ _ := rfl
  received _ _ := rfl
  sleep _ _ := rfl
  slept _ _ := rfl
  deadline _ chunks := ⟨chunks.length, le_rfl, rfl⟩
  passed _ _ := rfl
  rest _ _ _ := rfl

namespace FlipperTransport

section Ledger

variable {E : LinkEnv σ} {delivered : Bytes → σ → Prop} {guard : LinkEvent σ → Prop}

/-- Filling the buffer appends what the transport delivers, and is cut short only
while bytes are missing. -/
theorem wp_fillBuffer (ledger : Ledger E delivered) (quiet : Quiet guard) (taken : Bytes)
    {n passes : ℕ} {s : Host} {w : σ} (account : delivered (taken ++ s.rxBuffer) w) :
    wp E guard (fillBuffer n passes) (fun result s' w' =>
      SameButBuffer s s' ∧ s'.rxLog = s.rxLog ∧ delivered (taken ++ s'.rxBuffer) w' ∧
        ∀ e, result = .error e → s'.rxBuffer.length < n) s w := by
  induction passes generalizing s w with
  | zero => exact wp_ret.mpr ⟨.refl s, rfl, account, fun e failed => by cases failed⟩
  | succ passes ih =>
      unfold fillBuffer
      rw [wp_bind, wp_get]
      simp only
      split
      next full => exact wp_ret.mpr ⟨.refl s, rfl, account, fun e failed => by cases failed⟩
      next short =>
        have short := not_le.mp short
        have received := ledger.receive account
        rw [wp_bind, Link.wp_receive]
        refine ⟨quiet _ trivial, ?_⟩
        rcases answer : (E (.receive .remaining) w).1 with e | (chunk : Bytes)
        · rw [answer] at received
          replace received : delivered (taken ++ s.rxBuffer ++ []) _ := received
          rw [List.append_nil] at received
          exact ⟨.refl s, rfl, received, fun _ _ => short⟩
        · rw [answer] at received
          replace received : delivered (taken ++ s.rxBuffer ++ chunk) _ := received
          simp only
          split
          next empty =>
            rw [empty, List.append_nil] at received
            have slept := ledger.sleep 0 received
            rw [wp_bind, Link.wp_sleep]
            refine ⟨quiet _ trivial, ?_⟩
            cases (E (.sleep 0) (E (.receive .remaining) w).2).1 with
            | error e => exact ⟨.refl s, rfl, slept, fun _ _ => short⟩
            | ok _ => exact ih slept
          next nonempty =>
            rw [List.append_assoc] at received
            have extended : SameButBuffer s { s with rxBuffer := s.rxBuffer ++ chunk } := rfl
            rw [wp_bind, wp_modify]
            refine (ih received).mono ?_
            intro result s' w' reached
            exact ⟨extended.trans reached.1, reached.2⟩

/-- **`receive_exact` is exact.** It takes `n` bytes off the front of what has been
delivered; otherwise it takes nothing, and fewer than `n` bytes are there. -/
theorem wp_receiveExact (ledger : Ledger E delivered) (quiet : Quiet guard) {n : ℕ}
    (positive : 0 < n) (timeout : Time) (taken : Bytes) {s : Host} {w : σ}
    (account : delivered (taken ++ s.rxBuffer) w) :
    wp E guard (receiveExact n timeout) (fun result s' w' =>
      SameButBuffer s s' ∧ s'.rxLog = s.rxLog ∧ ((∃ out, result = .ok out ∧ out.length = n ∧
          delivered (taken ++ (out ++ s'.rxBuffer)) w') ∨
        ((∀ out, result = .ok out → out = []) ∧ s'.rxBuffer.length < n ∧
          delivered (taken ++ s'.rxBuffer) w'))) s w := by
  unfold receiveExact
  rw [if_neg positive.ne', wp_bind, Link.wp_deadline]
  refine ⟨quiet _ trivial, ?_⟩
  refine wp.bind (wp_fillBuffer ledger quiet taken (ledger.deadline timeout account)) ?_ ?_
  · intro _ s' w' reached
    obtain ⟨buffer, log, account, -⟩ := reached
    rw [wp_bind, wp_get]
    simp only
    split
    next short =>
      refine wp_ret.mpr ⟨buffer, log, .inr ⟨fun out returned => ?_, short, account⟩⟩
      exact (Except.ok.inj returned).symm
    next enough =>
      rw [wp_bind, wp_modify]
      refine wp_ret.mpr ⟨buffer.trans rfl, log, .inl ⟨_, rfl, ?_, ?_⟩⟩
      · exact List.length_take_of_le (not_lt.mp enough)
      · change delivered (taken ++ (s'.rxBuffer.take n ++ s'.rxBuffer.drop n)) w'
        rw [List.take_append_drop]
        exact account
  · intro e s' w' reached
    obtain ⟨buffer, log, account, short⟩ := reached
    exact ⟨buffer, log, .inr ⟨fun out returned => (nomatch returned), short e rfl, account⟩⟩

end Ledger

section Arrivals

variable {E : LinkEnv σ} {chunks : σ → List Bytes} {rest : σ → ρ} {guard : LinkEvent σ → Prop}

/-- With enough passes the buffer fills, or nothing is left to arrive. -/
theorem wp_fillBuffer_arrivals (arrivals : Arrivals E chunks rest) (quiet : Quiet guard) {n : ℕ}
    {passes : ℕ} {s : Host} {w : σ} (enough : (chunks w).length ≤ passes) :
    wp E guard (fillBuffer n passes) (fun result s' w' =>
      result = .ok () ∧ (n ≤ s'.rxBuffer.length ∨ chunks w' = [])) s w := by
  induction passes generalizing s w with
  | zero => exact wp_ret.mpr ⟨rfl, .inr (List.length_eq_zero_iff.mp (Nat.le_zero.mp enough))⟩
  | succ passes ih =>
      unfold fillBuffer
      rw [wp_bind, wp_get]
      simp only
      split
      next full => exact wp_ret.mpr ⟨rfl, .inl full⟩
      next short =>
        have fewer : (chunks (E (.receive .remaining) w).2).length ≤ passes := by
          rw [arrivals.received, List.length_tail]
          exact Nat.sub_le_iff_le_add.mpr enough
        rw [wp_bind, Link.wp_receive, arrivals.receive]
        refine ⟨quiet _ trivial, ?_⟩
        simp only
        split
        · rw [wp_bind, Link.wp_sleep, arrivals.sleep]
          exact ⟨quiet _ trivial, ih (by rw [arrivals.slept]; exact fewer)⟩
        · rw [wp_bind, wp_modify]
          exact ih fewer

/-- **`receive_exact` finds what is there.** It returns the next `n` bytes when
that many are buffered or arrive, and nothing otherwise. -/
theorem wp_receiveExact_arrivals (arrivals : Arrivals E chunks rest) (quiet : Quiet guard) {n : ℕ}
    (positive : 0 < n) (timeout : Time) (s : Host) (w : σ) :
    wp E guard (receiveExact n timeout) (fun result s' w' =>
      SameButBuffer s s' ∧ rest w' = rest w ∧
        if n ≤ (unread chunks s w).length then
          result = .ok ((unread chunks s w).take n) ∧ unread chunks s' w' =
            (unread chunks s w).drop n
        else result = .ok [] ∧ unread chunks s' w' = unread chunks s w) s w := by
  obtain ⟨passes, enough, answer⟩ := arrivals.deadline timeout w
  have exact_ := wp_receiveExact (arrivals.ledger (unread chunks s w) (rest w)) quiet positive
    timeout [] (show _ = s.rxBuffer ++ arriving chunks w ∧ rest w = rest w from ⟨rfl, rfl⟩)
  have complete : wp E guard (receiveExact n timeout) (fun result _ w' =>
      ∃ out, result = .ok out ∧ (out = [] → chunks w' = [])) s w := by
    unfold receiveExact
    rw [if_neg positive.ne', wp_bind, Link.wp_deadline, answer]
    refine ⟨quiet _ trivial, ?_⟩
    have budget : (chunks (E (.deadline timeout) w).2).length ≤ passes := by
      rw [arrivals.passed]
      exact enough
    refine wp.bind (wp_fillBuffer_arrivals arrivals quiet budget) ?_ ?_
    · intro _ s' w' reached
      obtain ⟨-, filled⟩ := reached
      rw [wp_bind, wp_get]
      simp only
      split
      next short => exact wp_ret.mpr ⟨[], rfl, fun _ => filled.resolve_left (not_le.mpr short)⟩
      next full =>
        rw [wp_bind, wp_modify]
        refine wp_ret.mpr ⟨_, rfl, fun empty => ?_⟩
        have length := congrArg List.length empty
        rw [List.length_take_of_le (not_lt.mp full), List.length_nil] at length
        exact absurd length positive.ne'
    · intro e s' w' reached
      cases reached.1
  refine (exact_.and complete).mono ?_
  intro result s' w' reached
  obtain ⟨⟨buffer, -, read⟩, out, rfl, drained⟩ := reached
  rcases read with ⟨_, same, length, stream, kept⟩ | ⟨nothing, short, stream, kept⟩
  · obtain rfl := Except.ok.inj same
    rw [List.nil_append, List.append_assoc] at stream
    replace stream : unread chunks s w = out ++ unread chunks s' w' := stream
    have within : n ≤ (unread chunks s w).length := by
      rw [stream, List.length_append, length]
      exact Nat.le_add_right n _
    rw [if_pos within, stream, ← length, List.take_left, List.drop_left]
    exact ⟨buffer, kept, rfl, rfl⟩
  · obtain rfl := nothing out rfl
    replace stream : unread chunks s w = unread chunks s' w' := stream
    have missing : (unread chunks s w).length < n := by
      rw [stream, unread, arriving, drained rfl, List.flatten_nil, List.append_nil]
      exact short
    rw [if_neg (not_le.mpr missing)]
    exact ⟨buffer, kept, rfl, stream.symm⟩

end Arrivals

end FlipperTransport

end FlipperMcp
