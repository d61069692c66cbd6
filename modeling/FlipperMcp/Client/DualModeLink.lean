import FlipperMcp.Client.DeviceMode
import FlipperMcp.Coroutine.Interruption
import FlipperMcp.Rpc.Footprint

/-! # Negotiating with the device

The device of `Client.DeviceMode` behind a serial port that works: what the host writes arrives,
what the device sends is there before the host's deadlines, and nothing fails but what the timer
of a `wait_for` cancels (`OnPort`). Then the negotiation tells the mode the device is in, brings
a device in CLI mode into RPC mode, and leaves one in RPC mode alone
(`OnPort.wp_ensureRpcSessionStarted`).
-/

namespace FlipperMcp

open Coroutine ProtobufRPC

/-- What is not an `Exception` is a cancellation. -/
theorem Exn.eq_cancelledError {error : Exn} (uncaught : error.isException = false) :
    error = .cancelledError := by
  cases error with
  | cancelledError => rfl
  | _ => cases uncaught

/-- An error is the cancellation where nothing else is raised. -/
theorem eq_cancelled {α : Type} {error : Exn} {value : α} {rest : Prop}
    (told : (.error error : Except Exn α) = .error .cancelledError ∨
      (.error error : Except Exn α) = .ok value ∧ rest) :
    (.error error : Except Exn α) = .error .cancelledError := by
  rcases told with cut | ⟨returned, -⟩
  · exact cut
  · cases returned

/-- An operation a task is suspended in. -/
def LinkOp.Suspends : LinkOp → Prop
  | send _ _ | receive _ | sleep _ => True
  | _ => False

/-- How many `wait_for`s are under way after an operation. -/
def LinkOp.timersAfter : LinkOp → ℕ → ℕ
  | startTimeout _, timers => timers + 1
  | stopTimeout, timers => timers - 1
  | _, timers => timers

/-- The mode of the device after an operation. -/
def Firmware.after (fw : Firmware) (mode : DeviceMode) : LinkOp → DeviceMode
  | .send _ data => (fw.takes mode data).1
  | _ => mode

/-- What is taken for the answer to the ping of `probe_rpc`. -/
def Protobuf.Answers (pb : Protobuf) (stream : Bytes) : Prop :=
  ∃ payload left msg, frontPayload stream = some (payload, left) ∧
    pb.parseFromString payload = some msg ∧ answersProbe msg = true

/-- What there is to see of a device and its port. -/
structure PortView (σ : Type) where
  mode : σ → DeviceMode
  /-- What the device has sent and the host has not received. -/
  chunks : σ → List Bytes
  /-- The `wait_for`s under way. -/
  timers : σ → ℕ

/-- The device on a port that works. What `calm` answers, `E` answers too, unless the timer of a
`wait_for` cancels the operation. -/
structure OnPort {σ : Type} (pb : Protobuf) (fw : Firmware) (E calm : LinkEnv σ) (view : PortView σ) :
    Prop where
  arrivals : Arrivals calm view.chunks fun _ => ()
  sends : ∀ origin data w, (calm (.send origin data) w).1 = .ok ()
  sent : ∀ origin data w, arriving view.chunks (calm (.send origin data) w).2 =
    arriving view.chunks w ++ (fw.takes (view.mode w) data).2
  mode : ∀ op w, op ≠ .connect → op ≠ .disconnect → view.mode (calm op w).2 = fw.after (view.mode w) op
  /-- Opening or closing the port may change the mode, but not to the middle of a frame. -/
  opened : ∀ w, (view.mode w).Whole → (view.mode (calm .connect w).2).Whole
  closed : ∀ w, (view.mode w).Whole → (view.mode (calm .disconnect w).2).Whole
  timers : ∀ op w, view.timers (calm op w).2 = op.timersAfter (view.timers w)
  connects : ∀ facts w, (calm .connect w).1 = .ok (some facts) → facts.isWifiTransport = false
  closes : ∀ error w, (calm .disconnect w).1 = .error error → error.isOSOrRuntimeError = true
  interrupts : ∀ op w, E op w = calm op w ∨
    op.Suspends ∧ 0 < view.timers w ∧ (E op w).1 = .error .cancelledError ∧
      view.timers (E op w).2 = view.timers w ∧
      (view.mode (E op w).2 = view.mode w ∨ view.mode (E op w).2 = fw.after (view.mode w) op)
  /-- What is printed while the ping is typed is not taken for its answer. -/
  prints : ∀ line, ¬ pb.Answers (fw.takes (.cli line) (framed probe)).2

/-- A step of a drain. -/
def LinkOp.IsDrain : LinkOp → Prop
  | deadline seconds => seconds = 2 / 5
  | receive wait => wait = .seconds (1 / 20)
  | sleep seconds => seconds = 1 / 100
  | _ => False

/-- An own request is written in RPC mode, and a command line in CLI mode behind nothing else.
While the session flag is up the device is in RPC mode, unless the host is draining. -/
structure InMode {σ : Type} (view : PortView σ) (event : LinkEvent σ) : Prop where
  request : ∀ data, event.op = .send .request data → view.mode event.world = .rpc []
  command : ∀ data, event.op = .send .cliCommand data → view.mode event.world = .cli []
  flag : ∀ rpc, event.host.rpc = some rpc → (event.host.objects rpc).rpcSessionStarted = true →
    (view.mode event.world).isRpc = true ∨ event.op.IsDrain

section Passing

/-- A cancellation of these is raised at once. -/
abbrev PassesOn {α : Type} (c : Link α) : Prop :=
  @Passes Host linkSignature Exn α LinkOp.Suspends .cancelledError c

theorem PassesOn.perform (op : LinkOp) : PassesOn (Link.perform op) :=
  @Passes.perform Host linkSignature Exn LinkOp.Suspends .cancelledError op

theorem PassesOn.orElse {α : Type} {body fallback : Link α} (tried : PassesOn body)
    (handled : PassesOn fallback) : PassesOn (Link.orElse body fallback) :=
  Passes.tryExcept rfl tried fun _ => handled

theorem PassesOn.deadline (seconds : Time) : PassesOn (Link.deadline seconds) :=
  Passes.uninterrupted id fun _ => .pure _

theorem passes_drainHostRx (maxSeconds : Time) : PassesOn (drainHostRx maxSeconds) := by
  have loop : ∀ passes, PassesOn (drainHostRxLoop passes) := by
    intro passes
    induction passes with
    | zero => exact .pure ()
    | succ passes ih =>
        apply (PassesOn.perform (.receive (.seconds (1 / 20)))).bind
        intro (chunk : Bytes)
        by_cases empty : chunk = []
        · rw [if_pos empty]
          exact (PassesOn.perform (.sleep (1 / 100))).bind fun _ => ih
        · rw [if_neg empty]
          exact ih
  exact PassesOn.orElse ((PassesOn.deadline maxSeconds).bind loop) (.pure ())

theorem passes_fillBuffer (n passes : ℕ) : PassesOn (FlipperTransport.fillBuffer n passes) := by
  induction passes with
  | zero => exact .pure ()
  | succ passes ih =>
      apply Passes.get.bind
      intro s
      by_cases full : n ≤ s.rxBuffer.length
      · rw [if_pos full]
        exact .pure ()
      · rw [if_neg full]
        apply (PassesOn.perform (.receive .remaining)).bind
        intro (chunk : Bytes)
        by_cases empty : chunk = []
        · rw [if_pos empty]
          exact (PassesOn.perform (.sleep 0)).bind fun _ => ih
        · rw [if_neg empty]
          exact (Passes.modify _).bind fun _ => ih

theorem passes_receiveExact (n : ℕ) (timeout : Time) :
    PassesOn (FlipperTransport.receiveExact n timeout) := by
  unfold FlipperTransport.receiveExact
  by_cases nothing : n = 0
  · rw [if_pos nothing]
    exact .pure []
  · rw [if_neg nothing]
    apply (PassesOn.deadline timeout).bind
    intro passes
    apply (passes_fillBuffer n passes).bind
    intro _
    apply Passes.get.bind
    intro s
    by_cases short : s.rxBuffer.length < n
    · rw [if_pos short]
      exact .pure []
    · rw [if_neg short]
      exact (Passes.modify _).bind fun _ => .pure _

theorem passes_readVarint (timeout : Time) : PassesOn (readVarint timeout) := by
  have loop : ∀ tries value shift, PassesOn (readVarintLoop timeout tries value shift) := by
    intro tries
    induction tries with
    | zero => exact fun value shift => .pure none
    | succ tries ih =>
        intro value shift
        apply (passes_receiveExact 1 timeout).bind
        intro out
        cases out with
        | nil => exact .pure none
        | cons byte _ =>
            by_cases last : byte.toNat &&& 0x80 = 0
            · simp only [last, ↓reduceIte]
              exact .pure _
            · simp only [last, ↓reduceIte]
              exact ih _ _
  exact PassesOn.orElse (loop 5 0 0) (.pure none)

theorem passes_receiveMainMessage (pb : Protobuf) (timeout : Time) :
    PassesOn (receiveMainMessage pb timeout) := by
  apply PassesOn.orElse _ (.pure none)
  apply (passes_readVarint timeout).bind
  intro payloadLen
  cases payloadLen with
  | none => exact .pure none
  | some payloadLen =>
      by_cases unfit : payloadLen = 0 ∨ 1000000 < payloadLen
      · simp only [unfit, ↓reduceIte]
        exact .pure none
      · simp only [unfit, ↓reduceIte]
        apply (passes_receiveExact payloadLen timeout).bind
        intro payload
        by_cases short : payload = [] ∨ payload.length ≠ payloadLen
        · rw [if_pos short]
          exact .pure none
        · rw [if_neg short]
          apply (Passes.modify _).bind
          intro _
          cases pb.parseFromString payload with
          | none => exact .raise _
          | some msg => exact .pure _

end Passing

/-- The session of the current `ProtobufRPC` is not up. -/
def Down (s : Host) : Prop := ∀ rpc, s.rpc = some rpc → (s.objects rpc).rpcSessionStarted = false

/-- While the session is up, the device is in RPC mode. -/
def Agrees {σ : Type} (view : PortView σ) (s : Host) (w : σ) : Prop :=
  ∀ rpc, s.rpc = some rpc → (s.objects rpc).rpcSessionStarted = true → (view.mode w).isRpc = true

/-- The host has only read. -/
structure Rests {σ : Type} (view : PortView σ) (s : Host) (w : σ) (s' : Host) (w' : σ) : Prop where
  host : SameButBuffer s s'
  mode : view.mode w' = view.mode w
  timers : view.timers w' = view.timers w

/-- What probing keeps: the device stays in its mode, at the boundary of a frame. -/
structure Keeps {σ : Type} (view : PortView σ) (s : Host) (w : σ) (s' : Host) (w' : σ) : Prop where
  host : SameButBuffer s s'
  timers : view.timers w' = view.timers w
  whole : (view.mode w').Whole
  same : (view.mode w').isRpc = (view.mode w).isRpc

/-- The client holds this `ProtobufRPC`, on a USB port whose negotiation has never failed, and
the session flag agrees with the device. -/
structure Sound {σ : Type} (view : PortView σ) (object : Handle) (timers : ℕ) (s : Host) (w : σ) :
    Prop where
  usb : s.transport.isWifiTransport = false
  unforced : s.forceStart = false
  current : s.rpc = some object
  warm : (s.objects object).lastNegotiationFailure = none
  timers : view.timers w = timers
  whole : (view.mode w).Whole
  agrees : (s.objects object).rpcSessionStarted = true → (view.mode w).isRpc = true

section Ports

variable {σ : Type} {pb : Protobuf} {fw : Firmware} {E calm : LinkEnv σ} {view : PortView σ}
  {s : Host} {w : σ}

theorem Down.read {s' : Host} (down : Down s) (same : SameButBuffer s s') : Down s' := by
  rw [same]
  exact down

theorem Down.agrees (down : Down s) (w : σ) : Agrees view s w := by
  intro rpc current up
  rw [down rpc current] at up
  exact nomatch up

theorem Agrees.read {s' : Host} {w' : σ} (agrees : Agrees view s w) (rests : Rests view s w s' w') :
    Agrees view s' w' := by
  unfold Agrees
  rw [rests.host, rests.mode]
  exact agrees

theorem Keeps.rests {s₁ s₂ : Host} {w₁ w₂ : σ} (keeps : Keeps view s w s₁ w₁)
    (rests : Rests view s₁ w₁ s₂ w₂) : Keeps view s w s₂ w₂ where
  host := keeps.host.trans rests.host
  timers := rests.timers.trans keeps.timers
  whole := by
    rw [rests.mode]
    exact keeps.whole
  same := by
    rw [rests.mode]
    exact keeps.same

/-- Something is sent that leaves the device in its mode, or is cut off before. -/
theorem Keeps.sent {s₁ : Host} {w₁ w₂ : σ} (keeps : Keeps view s w s₁ w₁)
    (timers : view.timers w₂ = view.timers w₁) {after : DeviceMode}
    (moved : view.mode w₂ = view.mode w₁ ∨ view.mode w₂ = after)
    (stays : after.Whole ∧ after.isRpc = (view.mode w₁).isRpc) : Keeps view s w s₁ w₂ := by
  refine ⟨keeps.host, timers.trans keeps.timers, ?_, ?_⟩
  · rcases moved with same | after
    · rw [same]
      exact keeps.whole
    · rw [after]
      exact stays.1
  · rcases moved with same | after
    · rw [same]
      exact keeps.same
    · rw [after, stays.2]
      exact keeps.same

/-- An operation that is neither a request nor a command line. -/
theorem InMode.other {op : LinkOp} {answer : Except Exn op.Res} (agrees : Agrees view s w)
    (unasked : ∀ data, op ≠ .send .request data) (untyped : ∀ data, op ≠ .send .cliCommand data) :
    InMode view ⟨s, w, op, answer⟩ where
  request data sent := absurd sent (unasked data)
  command data sent := absurd sent (untyped data)
  flag rpc current up := .inl (agrees rpc current up)

namespace OnPort

theorem mayInterrupt (port : OnPort pb fw E calm view) :
    MayInterrupt (I := linkSignature) LinkOp.Suspends .cancelledError E calm := by
  intro op w
  exact (port.interrupts op w).imp id fun cut => ⟨cut.1, cut.2.2.1⟩

/-- Interruptions count no timer. -/
theorem timersAfter (port : OnPort pb fw E calm view) (op : LinkOp) (w : σ) :
    view.timers (E op w).2 = op.timersAfter (view.timers w) := by
  rcases port.interrupts op w with same | ⟨suspends, -, -, timers, -⟩
  · rw [same]
    exact port.timers op w
  · rw [timers]
    cases op with
    | startTimeout _ | stopTimeout => exact suspends.elim
    | _ => rfl

theorem modeAfter (port : OnPort pb fw E calm view) (op : LinkOp) (w : σ)
    (unopened : op ≠ .connect) (unclosed : op ≠ .disconnect) :
    view.mode (E op w).2 = view.mode w ∨ view.mode (E op w).2 = fw.after (view.mode w) op := by
  rcases port.interrupts op w with same | ⟨-, -, -, -, mode⟩
  · rw [same]
    exact .inr (port.mode op w unopened unclosed)
  · exact mode

/-- Only what is sent changes the mode. -/
theorem mode_of_read (port : OnPort pb fw E calm view) {op : LinkOp} (read : op.IsRead) (w : σ) :
    view.mode (E op w).2 = view.mode w := by
  cases op with
  | receive wait => exact (port.modeAfter (.receive wait) w nofun nofun).elim id id
  | sleep seconds => exact (port.modeAfter (.sleep seconds) w nofun nofun).elim id id
  | deadline seconds => exact (port.modeAfter (.deadline seconds) w nofun nofun).elim id id
  | _ => exact read.elim

/-- Reading changes nothing. -/
theorem wp_listens (port : OnPort pb fw E calm view) (agrees : Agrees view s w) {α : Type}
    {c : Link α} (listens : Listens c) :
    wp E (InMode view) c (fun _ s' w' => Rests view s w s' w') s w := by
  apply @Within.wp_kept Host linkSignature Exn σ α LinkOp.IsRead SameButBuffer c listens E
    (InMode view) (fun s' w' => Rests view s w s' w')
  · intro a b v same rests
    exact ⟨rests.host.trans same, rests.mode, rests.timers⟩
  · intro op a v read rests
    refine ⟨.other (agrees.read rests) ?_ ?_, rests.host, ?_, ?_⟩
    · rintro data rfl
      exact read.elim
    · rintro data rfl
      exact read.elim
    · exact (port.mode_of_read read v).trans rests.mode
    · rw [port.timersAfter op v, ← rests.timers]
      cases op with
      | startTimeout _ | stopTimeout => exact read.elim
      | _ => rfl
  · exact ⟨.refl s, rfl, rfl⟩

/-- On the port as it is, draining takes everything that has arrived. -/
theorem wp_drain_calm (port : OnPort pb fw E calm view) (maxSeconds : Time) (s : Host) (w : σ) :
    wp calm (fun _ => True) (drainHostRx maxSeconds)
      (fun result s' w' => result = .ok () ∧ s' = s ∧ view.chunks w' = []) s w := by
  have arrivals := port.arrivals
  have loop : ∀ passes w, (view.chunks w).length ≤ passes →
      wp calm (fun _ => True) (drainHostRxLoop passes)
        (fun result s' w' => result = .ok () ∧ s' = s ∧ view.chunks w' = []) s w := by
    intro passes
    induction passes with
    | zero =>
        intro w enough
        exact wp_ret.mpr ⟨rfl, rfl, List.length_eq_zero_iff.mp (Nat.le_zero.mp enough)⟩
    | succ passes ih =>
        intro w enough
        have fewer : (view.chunks (calm (.receive (.seconds (1 / 20))) w).2).length ≤ passes := by
          rw [arrivals.received, List.length_tail]
          exact Nat.sub_le_of_le_add enough
        unfold drainHostRxLoop
        rw [wp_bind, Link.wp_receive, arrivals.receive]
        refine ⟨trivial, ?_⟩
        simp only
        by_cases empty : (view.chunks w).headD [] = []
        · rw [if_pos empty, wp_bind, Link.wp_sleep, arrivals.sleep]
          refine ⟨trivial, ih _ ?_⟩
          rw [arrivals.slept]
          exact fewer
        · rw [if_neg empty]
          exact ih _ fewer
  have drained : wp calm (fun _ => True) (do
      let passes ← Link.deadline maxSeconds
      drainHostRxLoop passes)
      (fun result s' w' => result = .ok () ∧ s' = s ∧ view.chunks w' = []) s w := by
    obtain ⟨passes, enough, answer⟩ := arrivals.deadline maxSeconds w
    rw [wp_bind, Link.wp_deadline, answer]
    refine ⟨trivial, loop passes _ ?_⟩
    rw [arrivals.passed]
    exact enough
  apply Link.wp_orElse_of _ drained
  · exact fun _ _ _ reached => reached
  all_goals
    intro _ _ _ reached
    cases reached.1

theorem wp_drain (port : OnPort pb fw E calm view) (agrees : Agrees view s w) (maxSeconds : Time) :
    wp E (InMode view) (drainHostRx maxSeconds) (fun result s' w' => Rests view s w s' w' ∧
      (result = .error .cancelledError ∨ result = .ok () ∧ s' = s ∧ view.chunks w' = [])) s w := by
  have told := port.wp_listens agrees (drainHostRx_listens maxSeconds)
  have drained := (passes_drainHostRx maxSeconds).wp port.mayInterrupt
    (port.wp_drain_calm maxSeconds s w)
  exact ⟨told.1, told.2, drained.2⟩

/-- What is received as the answer to the ping: in RPC mode it is the answer. -/
theorem wp_receive_probe (port : OnPort pb fw E calm view) (timeout : Time)
    (agrees : Agrees view s w) {mode : DeviceMode} (whole : mode.Whole)
    (stream : unread view.chunks s w = (fw.takes mode (framed probe)).2) :
    wp E (InMode view) (receiveMainMessage pb timeout) (fun result s' w' => Rests view s w s' w' ∧
      (result = .error .cancelledError ∨
        (∃ msg, result = .ok msg ∧ msg.any answersProbe = mode.isRpc) ∨
        mode.isRpc = false ∧ ∃ error, result = .error error)) s w := by
  have told := port.wp_listens agrees (receiveMainMessage_listens pb timeout)
  have quiet : Quiet (fun _ : LinkEvent σ => True) := fun _ _ => trivial
  suffices received : wp calm (fun _ => True) (receiveMainMessage pb timeout) (fun result _ _ =>
      (∃ msg, result = .ok msg ∧ msg.any answersProbe = mode.isRpc) ∨
        mode.isRpc = false ∧ ∃ error, result = .error error) s w from
    ⟨told.1, told.2, ((passes_receiveMainMessage pb timeout).wp port.mayInterrupt received).2⟩
  cases mode with
  | rpc received =>
      obtain rfl : received = [] := whole
      rw [fw.takes_framed probe] at stream
      replace stream : unread view.chunks s w =
          delimited (answerPing 1 probeData).serializeToString ++ [] := by
        rw [stream, List.append_nil]
        rfl
      have nonempty : (answerPing 1 probeData).serializeToString ≠ [] := by decide +kernel
      apply (wp_receiveMainMessage_frame pb port.arrivals quiet timeout (by decide +kernel) stream).mono
      rintro result s' w' ⟨-, -, returned, -⟩
      rw [messageIn_of_ne_nil pb nonempty, pb.parse_serialize] at returned
      exact .inl ⟨_, returned, rfl⟩
  | cli line =>
      apply (wp_receiveMainMessage_quiet pb port.arrivals quiet timeout s w).mono
      rintro result s' w' ⟨-, -, -, found⟩
      cases result with
      | error error => exact .inr ⟨rfl, error, rfl⟩
      | ok msg =>
          refine .inl ⟨msg, rfl, ?_⟩
          cases msg with
          | none => rfl
          | some msg =>
              obtain ⟨payload, parsed, front⟩ := found msg rfl
              rw [stream] at front
              cases answered : answersProbe msg with
              | false => exact answered
              | true => exact absurd ⟨payload, _, msg, front, parsed, answered⟩ (port.prints line)

/-- **A probe tells the mode.** -/
theorem wp_probeRpc (port : OnPort pb fw E calm view) (timeout : Time) (down : Down s)
    (whole : (view.mode w).Whole) :
    wp E (InMode view) (probeRpc pb timeout) (fun result s' w' => Keeps view s w s' w' ∧
      (result = .error .cancelledError ∨ result = .ok (view.mode w).isRpc)) s w := by
  unfold probeRpc FlipperTransport.clearReceiveBuffer
  apply Link.wp_orElse_of fun result s' w' => Keeps view s w s' w' ∧
    (result = .error .cancelledError ∨ result = .ok (view.mode w).isRpc ∨
      (view.mode w).isRpc = false ∧ ∃ error, result = .error error)
  · rw [wp_bind, wp_modify]
    have cleared : Keeps view s w { s with rxBuffer := [] } w := ⟨rfl, rfl, whole, rfl⟩
    apply (port.wp_drain ((down.read cleared.host).agrees w) (1 / 5)).bind
    · rintro _ s₁ w₁ ⟨rests, told⟩
      obtain ⟨-, rfl, none_⟩ := told.resolve_left nofun
      have kept := (cleared.rests rests).sent (port.timersAfter (.send .probe (framed probe)) w₁)
        (port.modeAfter (.send .probe (framed probe)) w₁ nofun nofun) (fw.takes_probe (cleared.rests rests).whole)
      rw [wp_bind, Link.wp_send]
      refine ⟨.other ((down.read cleared.host).agrees w₁) nofun nofun, ?_⟩
      rcases port.interrupts (.send .probe (framed probe)) w₁ with calm_ | ⟨-, -, cut, -⟩
      · rw [calm_] at kept ⊢
        rw [port.sends]
        have stream : unread view.chunks { s with rxBuffer := [] }
            (calm (.send .probe (framed probe)) w₁).2 =
              (fw.takes (view.mode w) (framed probe)).2 := by
          have arrived := port.sent .probe (framed probe) w₁
          rw [rests.mode] at arrived
          unfold unread
          rw [List.nil_append, arrived, arriving, none_]
          rfl
        apply (port.wp_receive_probe timeout ((down.read cleared.host).agrees _) whole stream).bind
        · rintro msg s₂ w₂ ⟨rests₂, told⟩
          refine wp_ret.mpr ⟨kept.rests rests₂, ?_⟩
          rcases told with cut | ⟨msg', returned, told⟩ | ⟨-, error, raised⟩
          · cases cut
          · obtain rfl := Except.ok.inj returned
            exact .inr (.inl (congrArg _ told))
          · cases raised
        · rintro error s₂ w₂ ⟨rests₂, told⟩
          refine ⟨kept.rests rests₂, ?_⟩
          rcases told with cut | ⟨msg', returned, -⟩ | ⟨cli, -⟩
          · exact .inl (congrArg _ (Except.error.inj cut))
          · cases returned
          · exact .inr (.inr ⟨cli, error, rfl⟩)
      · rw [cut]
        exact ⟨kept, .inl rfl⟩
    · rintro error s₁ w₁ ⟨rests, told⟩
      exact ⟨cleared.rests rests, .inl (congrArg _ (Except.error.inj (eq_cancelled told)))⟩
  · rintro probed s₁ w₁ ⟨kept, told⟩
    rcases told with cut | returned | ⟨-, error, raised⟩
    · cases cut
    · exact ⟨kept, .inr returned⟩
    · cases raised
  · rintro error s₁ w₁ ⟨kept, told⟩ exception
    have cli : (view.mode w).isRpc = false := by
      rcases told with cut | returned | ⟨cli, -⟩
      · obtain rfl := Except.error.inj cut
        cases exception
      · cases returned
      · exact cli
    apply (port.wp_drain ((down.read kept.host).agrees w₁) (1 / 2)).bind
    · rintro _ s₂ w₂ ⟨rests, -⟩
      exact wp_ret.mpr ⟨kept.rests rests, .inr (congrArg _ cli.symm)⟩
    · rintro error s₂ w₂ ⟨rests, told⟩
      exact ⟨kept.rests rests, .inl (congrArg _ (Except.error.inj (eq_cancelled told)))⟩
  · rintro error s₁ w₁ ⟨kept, -⟩ uncaught
    exact ⟨kept, .inl (congrArg _ (Exn.eq_cancelledError uncaught))⟩

/-- One of the host's writes. -/
theorem wp_sent (port : OnPort pb fw E calm view) (origin : Origin) (data : Bytes)
    (agrees : Agrees view s w) (unasked : origin ≠ .request) (untyped : origin ≠ .cliCommand) :
    wp E (InMode view) (Link.send origin data) (fun result s' w' => s' = s ∧
      view.timers w' = view.timers w ∧
      (result = .ok () ∧ view.mode w' = (fw.takes (view.mode w) data).1 ∨
        result = .error .cancelledError ∧
          (view.mode w' = view.mode w ∨ view.mode w' = (fw.takes (view.mode w) data).1))) s w := by
  refine Link.wp_send.mpr ⟨.other agrees ?_ ?_, rfl, port.timersAfter (.send origin data) w, ?_⟩
  · intro other same
    exact unasked (LinkOp.send.inj same).1
  · intro other same
    exact untyped (LinkOp.send.inj same).1
  · rcases port.interrupts (.send origin data) w with calm_ | ⟨-, -, cut, -, mode⟩
    · rw [calm_]
      exact .inl ⟨port.sends origin data w, port.mode (.send origin data) w nofun nofun⟩
    · exact .inr ⟨cut, mode⟩

theorem wp_slept (port : OnPort pb fw E calm view) (seconds : Time) (agrees : Agrees view s w) :
    wp E (InMode view) (Link.sleep seconds) (fun result s' w' => Rests view s w s' w' ∧
      (result = .error .cancelledError ∨ result = .ok ())) s w := by
  have told := port.wp_listens agrees (Link.within_perform (.sleep seconds) trivial)
  refine ⟨told.1, told.2, ?_⟩
  rw [Link.run_sleep]
  rcases port.interrupts (.sleep seconds) w with calm_ | ⟨-, -, cut, -⟩
  · rw [calm_]
    exact .inr (port.arrivals.sleep seconds w)
  · exact .inl cut

/-- The host has brought the device into RPC mode, or was cancelled. -/
def Begun (view : PortView σ) (s : Host) (w : σ) (result : Except Exn Bool) (s' : Host) (w' : σ) :
    Prop :=
  SameButBuffer s s' ∧ view.timers w' = view.timers w ∧ (view.mode w').Whole ∧
    (result = .error .cancelledError ∨ result = .ok true ∧ (view.mode w').isRpc = true)

theorem wp_startLine (port : OnPort pb fw E calm view) (down : Down s) {line : Bytes}
    (cli : view.mode w = .cli line) :
    wp E (InMode view) (Link.orElse (do
      Link.send .startSession interrupt
      Link.send .startSession startRpcSession) (pure ())) (fun result s' w' => s' = s ∧
        view.timers w' = view.timers w ∧ (view.mode w').Whole ∧
        (result = .error .cancelledError ∨ result = .ok () ∧ view.mode w' = .rpc [])) s w := by
  have typed : wp E (InMode view) (do
      Link.send .startSession interrupt
      Link.send .startSession startRpcSession) (fun result s' w' => s' = s ∧
        view.timers w' = view.timers w ∧ (view.mode w').Whole ∧
        (result = .error .cancelledError ∨ result = .ok () ∧ view.mode w' = .rpc [])) s w := by
    have first := port.wp_sent .startSession interrupt (down.agrees w) nofun nofun
    rw [cli] at first
    apply first.bind
    · rintro _ s₁ w₁ ⟨rfl, timers, sent⟩
      obtain ⟨-, mode⟩ := sent.resolve_right fun cut => nomatch cut.1
      have second := port.wp_sent .startSession startRpcSession (down.agrees w₁) nofun nofun
      rw [mode, fw.takes_interrupt, fw.takes_startRpcSession] at second
      apply second.mono
      rintro result s₂ w₂ ⟨rfl, timers₂, sent⟩
      refine ⟨rfl, timers₂.trans timers, ?_, ?_⟩
      · rcases sent with ⟨-, mode⟩ | ⟨-, mode | mode⟩
        all_goals rw [mode]
        · rfl
        · trivial
        · rfl
      · exact sent.symm.imp And.left id
    · rintro error s₁ w₁ ⟨rfl, timers, sent⟩
      obtain ⟨cut, mode⟩ := sent.resolve_left fun sent => nomatch sent.1
      refine ⟨rfl, timers, ?_, .inl (congrArg _ (Except.error.inj cut))⟩
      rcases mode with mode | mode
      all_goals rw [mode]; trivial
  apply Link.wp_orElse_of _ typed
  · exact fun _ _ _ reached => reached
  · rintro error s₁ w₁ ⟨-, -, -, told⟩ exception
    obtain rfl := Except.error.inj (told.resolve_right fun sent => nomatch sent.1)
    exact nomatch exception
  · exact fun _ _ _ reached _ => reached

/-- **An attempt from CLI mode succeeds.** -/
theorem wp_startSessionAttempt (port : OnPort pb fw E calm view) (down : Down s)
    (cli : (view.mode w).isRpc = false) :
    wp E (InMode view) (startSessionAttempt pb) (Begun view s w) s w := by
  obtain ⟨line, cli⟩ : ∃ line, view.mode w = .cli line := by
    cases mode : view.mode w with
    | cli line => exact ⟨line, rfl⟩
    | rpc _ =>
        rw [mode] at cli
        exact nomatch cli
  unfold startSessionAttempt FlipperTransport.clearReceiveBuffer
  apply (port.wp_startLine down cli).bind
  · rintro _ s₁ w₁ ⟨rfl, timers, whole, told⟩
    obtain ⟨-, mode⟩ := told.resolve_left nofun
    apply (port.wp_drain (down.agrees w₁) (2 / 5)).bind
    · rintro _ s₂ w₂ ⟨rests, -⟩
      rw [wp_bind, wp_modify]
      have cleared : SameButBuffer s₁ { s₂ with rxBuffer := [] } :=
        rests.host.trans (show SameButBuffer s₂ { s₂ with rxBuffer := [] } from rfl)
      apply (port.wp_slept (1 / 5) ((down.read cleared).agrees w₂)).bind
      · rintro _ s₃ w₃ ⟨rests₃, -⟩
        have mode₃ : view.mode w₃ = .rpc [] := rests₃.mode.trans (rests.mode.trans mode)
        apply (port.wp_probeRpc (6 / 5) (down.read (cleared.trans rests₃.host)) (by rw [mode₃]; rfl)).mono
        rintro result s₄ w₄ ⟨kept, told⟩
        have same := kept.same
        rw [mode₃] at same told
        exact ⟨(cleared.trans rests₃.host).trans kept.host,
          ((kept.timers.trans rests₃.timers).trans rests.timers).trans timers, kept.whole,
          told.imp id fun returned => ⟨returned, same⟩⟩
      · rintro error s₃ w₃ ⟨rests₃, told⟩
        have mode₃ : view.mode w₃ = .rpc [] := rests₃.mode.trans (rests.mode.trans mode)
        refine ⟨cleared.trans rests₃.host, (rests₃.timers.trans rests.timers).trans timers, ?_, ?_⟩
        · rw [mode₃]
          rfl
        · exact .inl (congrArg _ (Except.error.inj (told.resolve_right nofun)))
    · rintro error s₂ w₂ ⟨rests, told⟩
      refine ⟨rests.host, rests.timers.trans timers, ?_, ?_⟩
      · rw [rests.mode]
        exact whole
      · exact .inl (congrArg _ (Except.error.inj (eq_cancelled told)))
  · rintro error s₁ w₁ ⟨rfl, timers, whole, told⟩
    exact ⟨.refl s₁, timers, whole,
      .inl (congrArg _ (Except.error.inj (eq_cancelled told)))⟩

theorem wp_startSessionAttempts (port : OnPort pb fw E calm view) (down : Down s)
    (cli : (view.mode w).isRpc = false) (attempts : ℕ) :
    wp E (InMode view) (startSessionAttempts pb (attempts + 1)) (Begun view s w) s w := by
  apply (port.wp_startSessionAttempt down cli).bind
  · rintro ok s₁ w₁ ⟨host, timers, whole, told⟩
    obtain ⟨returned, mode⟩ := told.resolve_left nofun
    obtain rfl := Except.ok.inj returned
    exact wp_ret.mpr ⟨host, timers, whole, .inr ⟨rfl, mode⟩⟩
  · rintro error s₁ w₁ ⟨host, timers, whole, told⟩
    exact ⟨host, timers, whole, .inl (eq_cancelled told)⟩

end OnPort

namespace Sound

variable {self : Handle} {n : ℕ}

theorem agree (sound : Sound view self n s w) : Agrees view s w := by
  intro rpc current up
  obtain rfl := Option.some.inj (sound.current.symm.trans current)
  exact sound.agrees up

theorem down (sound : Sound view self n s w) (lowered : (s.objects self).rpcSessionStarted = false) :
    Down s := by
  intro rpc current
  obtain rfl := Option.some.inj (sound.current.symm.trans current)
  exact lowered

/-- Where the device was left in its mode. -/
theorem keeps {s' : Host} {w' : σ} (sound : Sound view self n s w) (kept : Keeps view s w s' w') :
    Sound view self n s' w' := by
  refine ⟨?_, ?_, ?_, ?_, kept.timers.trans sound.timers, kept.whole, ?_⟩
  all_goals rw [kept.host]
  · exact sound.usb
  · exact sound.unforced
  · exact sound.current
  · exact sound.warm
  · rw [kept.same]
    exact sound.agrees

theorem rests {s' : Host} {w' : σ} (sound : Sound view self n s w) (rests : Rests view s w s' w') :
    Sound view self n s' w' := by
  apply sound.keeps
  refine ⟨rests.host, rests.timers, ?_, ?_⟩
  · rw [rests.mode]
    exact sound.whole
  · rw [rests.mode]

/-- The flag of a session is set where the device is in RPC mode. -/
theorem started (sound : Sound view self n s w) (mode : (view.mode w).isRpc = true) :
    Sound view self n (s.updateRpc self fun rpc => { rpc with rpcSessionStarted := true }) w := by
  refine ⟨sound.usb, sound.unforced, sound.current, ?_, sound.timers, sound.whole, fun _ => mode⟩
  rw [Host.updateRpc_objects_self]
  exact sound.warm

end Sound

/-- The session is up where it was before, and where it returns. -/
def Ensures (view : PortView σ) (self : Handle) (n : ℕ) (s : Host) (result : Except Exn Unit)
    (s' : Host) (w' : σ) : Prop :=
  Sound view self n s' w' ∧
    ((s.objects self).rpcSessionStarted = true → (s'.objects self).rpcSessionStarted = true) ∧
    (result = .ok () → (s'.objects self).rpcSessionStarted = true)

namespace OnPort

variable {self : Handle} {n : ℕ}

/-- In CLI mode the session is started, unless it is cancelled. -/
theorem wp_startSession (port : OnPort pb fw E calm view) (sound : Sound view self n s w)
    (lowered : (s.objects self).rpcSessionStarted = false) (cli : (view.mode w).isRpc = false) :
    wp E (InMode view) (startSession pb self) (Ensures view self n s) s w := by
  apply (port.wp_startSessionAttempts (sound.down lowered) cli 2).bind
  · rintro ok s₁ w₁ ⟨host, timers, whole, told⟩
    obtain ⟨returned, mode⟩ := told.resolve_left nofun
    obtain rfl := Except.ok.inj returned
    have begun : Sound view self n s₁ w₁ := by
      refine ⟨?_, ?_, ?_, ?_, timers.trans sound.timers, whole, fun _ => mode⟩
      all_goals rw [host]
      · exact sound.usb
      · exact sound.unforced
      · exact sound.current
      · exact sound.warm
    unfold setSessionStarted
    rw [wp_bind, wp_modify]
    refine wp_ret.mpr ⟨begun.started mode, fun _ => ?_, fun _ => ?_⟩
    all_goals rw [Host.updateRpc_objects_self]
  · rintro error s₁ w₁ ⟨host, timers, whole, told⟩
    refine ⟨⟨?_, ?_, ?_, ?_, timers.trans sound.timers, whole, ?_⟩, ?_, nofun⟩
    all_goals rw [host]
    · exact sound.usb
    · exact sound.unforced
    · exact sound.current
    · exact sound.warm
    · exact fun up => nomatch lowered.symm.trans up
    · exact id

theorem wp_negotiate (port : OnPort pb fw E calm view) (sound : Sound view self n s w)
    (lowered : (s.objects self).rpcSessionStarted = false) :
    wp E (InMode view) (negotiate pb self) (Ensures view self n s) s w := by
  unfold negotiate FlipperTransport.clearReceiveBuffer
  rw [wp_bind, wp_modify]
  have cleared : Sound view self n { s with rxBuffer := [] } w := ⟨sound.usb, sound.unforced,
    sound.current, sound.warm, sound.timers, sound.whole, sound.agrees⟩
  apply (port.wp_slept (3 / 10) cleared.agree).bind
  · rintro _ s₁ w₁ ⟨rests, -⟩
    have slept := cleared.rests rests
    have same : s₁.objects = s.objects := rests.host.objects
    have lowered₁ : (s₁.objects self).rpcSessionStarted = false := by rw [same, lowered]
    rw [wp_bind, wp_get]
    simp only [slept.usb, slept.unforced, Bool.false_eq_true, ↓reduceIte]
    apply (port.wp_probeRpc (2 / 5) (slept.down lowered₁) slept.whole).bind
    · rintro probed s₂ w₂ ⟨kept, told⟩
      obtain rfl := Except.ok.inj (told.resolve_left nofun)
      have after := slept.keeps kept
      cases mode : (view.mode w₁).isRpc with
      | true =>
          unfold setSessionStarted
          simp only [↓reduceIte]
          refine wp_modify.mpr ⟨after.started (kept.same.trans mode), fun _ => ?_, fun _ => ?_⟩
          all_goals rw [Host.updateRpc_objects_self]
      | false =>
          simp only [Bool.false_eq_true, ↓reduceIte]
          have lowered₂ : (s₂.objects self).rpcSessionStarted = false := by
            rw [kept.host.objects, lowered₁]
          apply (port.wp_startSession after lowered₂ (kept.same.trans mode)).mono
          rintro result s₃ w₃ ⟨sound₃, -, up⟩
          exact ⟨sound₃, fun up => (nomatch lowered.symm.trans up), up⟩
    · rintro error s₂ w₂ ⟨kept, -⟩
      exact ⟨slept.keeps kept, fun up => (nomatch lowered.symm.trans up), nofun⟩
  · rintro error s₁ w₁ ⟨rests, -⟩
    exact ⟨cleared.rests rests, fun up => (nomatch lowered.symm.trans up), nofun⟩

/-- **Negotiating.** `_ensure_rpc_session_started` returns with the device in RPC mode and the
session up. Where it is cancelled, the flag still agrees with the device. -/
theorem wp_ensureRpcSessionStarted (port : OnPort pb fw E calm view) (sound : Sound view self n s w) :
    wp E (InMode view) (ensureRpcSessionStarted pb self) (Ensures view self n s) s w := by
  unfold ensureRpcSessionStarted
  rw [wp_bind, wp_get]
  simp only
  cases up : (s.objects self).rpcSessionStarted with
  | true =>
      rw [if_pos rfl]
      exact wp_ret.mpr ⟨sound, fun _ => up, fun _ => up⟩
  | false =>
      have warm := sound.warm
      rw [if_neg Bool.false_ne_true]
      unfold coolingDown
      rw [wp_bind, wp_bind, wp_get]
      simp only [warm]
      exact wp_ret.mpr (port.wp_negotiate sound up)

end OnPort

end Ports

end FlipperMcp
