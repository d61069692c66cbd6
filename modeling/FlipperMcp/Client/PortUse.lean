import FlipperMcp.Client.DeviceAgreement

/-! # Using a port that works

The exchanges of the client with a device on a port that works, from connecting on. Between them
no timer is under way and the flag of the current session agrees with the device (`PortSettled`).
That is so however the exchanges of concurrent tasks are interleaved, and every request of an RPC
method meets the device in RPC mode and every command line an empty prompt
(`UsesPort.in_mode`).
-/

namespace FlipperMcp

open Coroutine ProtobufRPC FlipperClient

/-- No timer is under way, and the flag of the current session agrees with the device. -/
structure PortSettled {σ : Type} (view : PortView σ) (s : Host) (w : σ) : Prop where
  usb : s.transport.isWifiTransport = false
  unforced : s.forceStart = false
  timers : view.timers w = 0
  whole : (view.mode w).Whole
  sound : ∀ object, s.rpc = some object → Sound view object 0 s w

/-- A step of a drain may come before the flag is cleared. -/
theorem InMode.drain {σ : Type} {view : PortView σ} {event : LinkEvent σ} (drain : event.op.IsDrain) :
    InMode view event where
  request data sent := by
    rw [sent] at drain
    exact drain.elim
  command data sent := by
    rw [sent] at drain
    exact drain.elim
  flag _ _ _ := .inr drain

/-- What drains, and leaves the host alone. -/
abbrev Drains {α : Type} (c : Link α) : Prop :=
  @Within Host linkSignature Exn α LinkOp.IsDrain (fun a b => b = a) c

theorem drainHostRx_drains : Drains (drainHostRx (2 / 5)) := by
  have receives : Drains (Link.receive (.seconds (1 / 20))) :=
    Link.within_perform (.receive (.seconds (1 / 20))) rfl
  have sleeps : Drains (Link.sleep (1 / 100)) := Link.within_perform (.sleep (1 / 100)) rfl
  have loop : ∀ passes, Drains (drainHostRxLoop passes) := by
    intro passes
    induction passes with
    | zero => exact .pure ()
    | succ passes ih => exact receives.bind fun chunk => .ite (sleeps.bind fun _ => ih) ih
  have deadline : Drains (Link.deadline (2 / 5)) :=
    Link.within_clock (.deadline (2 / 5)) (show LinkOp.IsDrain (.deadline (2 / 5)) from rfl)
  exact Link.within_orElse (deadline.bind loop) (.pure ())

section Idle

variable {σ : Type} {pb : Protobuf} {fw : Firmware} {E calm : LinkEnv σ} {view : PortView σ}
  {object : Handle} {s : Host} {w : σ}

theorem Sound.settled (sound : Sound view object 0 s w) : PortSettled view s w := by
  refine ⟨sound.usb, sound.unforced, sound.timers, sound.whole, ?_⟩
  intro other current
  obtain rfl := Option.some.inj (sound.current.symm.trans current)
  exact sound

theorem PortSettled.agree (settled : PortSettled view s w) : Agrees view s w :=
  fun object current up => (settled.sound object current).agrees up

/-- The label of the mode tells the device nothing. -/
theorem Sound.setMode (sound : Sound view object 0 s w) (mode : LinkMode) :
    Sound view object 0 { s with mode := mode } w :=
  ⟨sound.usb, sound.unforced, sound.current, sound.warm, sound.timers, sound.whole, sound.agrees⟩

theorem Sound.clearBuffer (sound : Sound view object 0 s w) :
    Sound view object 0 { s with rxBuffer := [] } w :=
  ⟨sound.usb, sound.unforced, sound.current, sound.warm, sound.timers, sound.whole, sound.agrees⟩

namespace OnPort

/-- Nothing is cut off while no timer is under way. -/
theorem undisturbed (port : OnPort pb fw E calm view) (idle : view.timers w = 0) (op : LinkOp) :
    E op w = calm op w := by
  rcases port.interrupts op w with same | ⟨-, underway, -⟩
  · exact same
  · rw [idle] at underway
    exact absurd underway (Nat.lt_irrefl 0)

/-- What is written then is taken. -/
theorem wp_sent_idle (port : OnPort pb fw E calm view) (idle : view.timers w = 0) (origin : Origin)
    (data : Bytes) (asked : ∀ answer, InMode view ⟨s, w, .send origin data, answer⟩) :
    wp E (InMode view) (Link.send origin data) (fun result s' w' => result = .ok () ∧ s' = s ∧
      view.timers w' = 0 ∧ view.mode w' = (fw.takes (view.mode w) data).1) s w := by
  refine Link.wp_send.mpr ⟨asked _, ?_⟩
  rw [port.undisturbed idle]
  refine ⟨port.sends origin data w, rfl, ?_, port.mode (.send origin data) w nofun nofun⟩
  exact (port.timers (.send origin data) w).trans idle

/-- Draining behind a StopSession leaves the device and the host alone. -/
theorem wp_drain_idle (port : OnPort pb fw E calm view) (idle : view.timers w = 0) :
    wp E (InMode view) (drainHostRx (2 / 5)) (fun result s' w' => result = .ok () ∧ s' = s ∧
      view.timers w' = 0 ∧ view.mode w' = view.mode w) s w := by
  have timers : ∀ op v, LinkOp.IsDrain op → view.timers v = 0 → view.timers (calm op v).2 = 0 := by
    intro op v drain none_
    rw [port.timers op v, none_]
    cases op with
    | startTimeout _ => exact drain.elim
    | _ => rfl
  have same := drainHostRx_drains.run_eq (fun op v _ none_ => port.undisturbed none_ op) timers s idle
  have drained := (port.wp_drain_calm (2 / 5) s w).2
  rw [← same] at drained
  suffices kept : wp E (InMode view) (drainHostRx (2 / 5)) (fun _ s' v => s' = s ∧
      view.timers v = 0 ∧ view.mode v = view.mode w) s w from
    ⟨kept.1, drained.1, drained.2.1, kept.2.2⟩
  apply @Within.wp_kept Host linkSignature Exn σ Unit LinkOp.IsDrain _ _ drainHostRx_drains E
    (InMode view) (fun s' v => s' = s ∧ view.timers v = 0 ∧ view.mode v = view.mode w)
  · intro a b v same holds
    rw [same]
    exact holds
  · intro op a v drain holds
    obtain ⟨own, none_, mode⟩ := holds
    refine ⟨.drain drain, own, ?_, ?_⟩
    · rw [port.undisturbed none_]
      exact timers op v drain none_
    · rw [← mode]
      cases op with
      | receive wait => exact port.mode_of_read (show LinkOp.IsRead (.receive wait) from trivial) v
      | sleep seconds => exact port.mode_of_read (show LinkOp.IsRead (.sleep seconds) from trivial) v
      | deadline seconds => exact port.mode_of_read (show LinkOp.IsRead (.deadline seconds) from trivial) v
      | _ => exact drain.elim
  · exact ⟨rfl, idle, rfl⟩

end OnPort

/-- The session is stopped, and the device in CLI mode. -/
structure Halted (view : PortView σ) (object : Handle) (s : Host) (w : σ) : Prop where
  sound : Sound view object 0 s w
  lowered : (s.objects object).rpcSessionStarted = false
  cli : (view.mode w).isRpc = false

theorem Halted.line (halted : Halted view object s w) : ∃ line, view.mode w = .cli line := by
  have cli := halted.cli
  cases mode : view.mode w with
  | cli line => exact ⟨line, rfl⟩
  | rpc _ =>
      rw [mode] at cli
      exact nomatch cli

theorem Halted.rests {s' : Host} {w' : σ} (halted : Halted view object s w)
    (rests : Rests view s w s' w') : Halted view object s' w' where
  sound := halted.sound.rests rests
  lowered := by
    rw [rests.host.objects]
    exact halted.lowered
  cli := by
    rw [rests.mode]
    exact halted.cli

/-- While the session is down the device may be brought into any mode. -/
theorem Sound.typed {w' : σ} (sound : Sound view object 0 s w)
    (lowered : (s.objects object).rpcSessionStarted = false) (timers : view.timers w' = 0)
    (whole : (view.mode w').Whole) : Sound view object 0 s w' :=
  ⟨sound.usb, sound.unforced, sound.current, sound.warm, timers, whole,
    fun up => nomatch lowered.symm.trans up⟩

namespace OnPort

/-- **Stopping the session.** -/
theorem wp_sendStopSession (port : OnPort pb fw E calm view) (sound : Sound view object 0 s w) :
    wp E (InMode view) (sendStopSession object)
      (fun result s' w' => result = .ok () ∧ Halted view object s' w') s w := by
  obtain ⟨line, taken⟩ := fw.takes_stopSession sound.whole
  apply (port.wp_sent_idle sound.timers .stopSession (framed stopSession)
    fun _ => .other sound.agree nofun nofun).bind
  · rintro _ s₁ w₁ ⟨-, rfl, timers, mode⟩
    apply (port.wp_drain_idle timers).bind
    · rintro _ s₂ w₂ ⟨-, rfl, timers₂, mode₂⟩
      have cli : view.mode w₂ = .cli line := mode₂.trans (mode.trans taken)
      refine wp_modify.mpr ⟨rfl, ⟨sound.usb, sound.unforced, sound.current, ?_, timers₂, ?_, ?_⟩, ?_, ?_⟩
      · rw [Host.updateRpc_objects_self]
        exact sound.warm
      · rw [cli]
        trivial
      · rw [Host.updateRpc_objects_self]
        exact nofun
      · rw [Host.updateRpc_objects_self]
      · rw [cli]
        rfl
    · exact fun _ _ _ drained => nomatch drained.1
  · exact fun _ _ _ sent => nomatch sent.1

/-- **A command line meets an empty prompt.** -/
theorem wp_cliExchange (port : OnPort pb fw E calm view) (sound : Sound view object 0 s w)
    {command : String} (unended : 0x0D ∉ encodeText command) (timeout : Time) :
    wp E (InMode view) (cliExchange object command timeout)
      (fun _ s' w' => Sound view object 0 s' w') s w := by
  unfold cliExchange FlipperTransport.clearReceiveBuffer
  apply (port.wp_sendStopSession sound).bind
  · rintro _ s₁ w₁ ⟨-, halted⟩
    rw [wp_bind, wp_modify, wp_bind, wp_modify]
    have stopped := (halted.sound.setMode .cli).clearBuffer
    obtain ⟨line, cli⟩ := halted.line
    apply (port.wp_sent_idle stopped.timers .cliInterrupt interrupt
      fun _ => .other stopped.agree nofun nofun).bind
    · rintro _ s₂ w₂ ⟨-, rfl, timers, mode⟩
      rw [cli, fw.takes_interrupt] at mode
      have prompted := stopped.typed halted.lowered timers (by rw [mode]; trivial)
      apply (port.wp_listens prompted.agree (readUntilPrompt_listens 2)).bind
      · rintro _ s₃ w₃ rests
        rw [wp_bind, wp_modify]
        have waited := (prompted.rests rests).clearBuffer
        have down : (s₃.objects object).rpcSessionStarted = false := by
          rw [rests.host.objects]
          exact halted.lowered
        have empty := rests.mode.trans mode
        apply (port.wp_sent_idle waited.timers .cliCommand (encodeText command ++ [0x0D])
          fun _ => ⟨nofun, fun _ _ => empty, fun _ current up =>
            .inl (waited.agree _ current up)⟩).bind
        · rintro _ s₄ w₄ ⟨-, rfl, timers₄, mode₄⟩
          have ended := waited.typed down timers₄ (by rw [mode₄, empty]; exact fw.takes_command [] unended)
          apply (port.wp_listens ended.agree (readUntilPrompt_listens timeout)).bind
          · exact fun _ _ _ rests => wp_ret.mpr (ended.rests rests)
          · exact fun _ _ _ rests => ended.rests rests
        · exact fun _ _ _ sent => nomatch sent.1
      · exact fun _ _ _ rests => prompted.rests rests
    · exact fun _ _ _ sent => nomatch sent.1
  · exact fun _ _ _ stopped => nomatch stopped.1

end OnPort

/-- The port is settled, and the client still has the session it had. -/
def Resettled (view : PortView σ) (s s' : Host) (w' : σ) : Prop :=
  PortSettled view s' w' ∧ s'.rpc = s.rpc

theorem Sound.resettled {s' : Host} {w' : σ} (sound : Sound view object 0 s' w')
    (current : s.rpc = some object) : Resettled view s s' w' :=
  ⟨sound.settled, sound.current.trans current.symm⟩

theorem PortSettled.resettled (settled : PortSettled view s w) : Resettled view s s w := ⟨settled, rfl⟩

/-- A switch of the mode runs its body on the current session. -/
theorem PortSettled.wp_switchMode {body : Link Unit} (settled : PortSettled view s w)
    (switched : ∀ object, s.rpc = some object → Sound view object 0 s w →
      wp E (InMode view) body (fun _ s' w' => Sound view object 0 s' w') s w) :
    wp E (InMode view) (switchMode body) (fun _ s' w' => Resettled view s s' w') s w := by
  apply wp_bind.mpr
  apply wp_get.mpr
  cases current : s.rpc with
  | none =>
      simp only [current]
      exact wp_ret.mpr settled.resettled
  | some object =>
      simp only [current]
      apply (wp_withLock.mpr (switched object current (settled.sound object current))).bind
      · exact fun _ _ _ sound => wp_bind.mpr (wp_get.mpr (wp_ret.mpr (sound.resettled current)))
      · exact fun _ _ _ sound => sound.resettled current

theorem OnPort.wp_enterRpc (port : OnPort pb fw E calm view) (settled : PortSettled view s w) :
    wp E (InMode view) (enterRpc pb) (fun _ s' w' => Resettled view s s' w') s w := by
  apply settled.wp_switchMode
  intro object current sound
  apply wp_bind.mpr
  apply wp_get.mpr
  simp only [current]
  apply (port.wp_ensureRpcSessionStarted sound).bind
  · exact fun _ _ _ ensured => wp_modify.mpr (ensured.1.setMode .rpc)
  · exact fun _ _ _ ensured => ensured.1

theorem OnPort.wp_enterCli (port : OnPort pb fw E calm view) (settled : PortSettled view s w) :
    wp E (InMode view) enterCli (fun _ s' w' => Resettled view s s' w') s w := by
  apply settled.wp_switchMode
  intro object current sound
  apply wp_bind.mpr
  apply wp_get.mpr
  simp only [current]
  apply (port.wp_sendStopSession sound).bind
  · exact fun _ _ _ stopped => wp_modify.mpr (stopped.2.sound.setMode .cli)
  · exact fun _ _ _ stopped => nomatch stopped.1

theorem OnPort.wp_cliExec (port : OnPort pb fw E calm view) (settled : PortSettled view s w)
    (command : String) (timeout : Time) (acceptResponsibility txToolsEnabled : Bool) :
    wp E (InMode view) (cliExec command timeout acceptResponsibility txToolsEnabled)
      (fun _ s' w' => Resettled view s s' w') s w := by
  apply wp_bind.mpr
  apply wp_get.mpr
  cases current : s.rpc with
  | none =>
      simp only [current]
      exact wp_raise.mpr settled.resettled
  | some object =>
      simp only [current]
      by_cases text : s.transport.supportsCliTextMode = true
      · simp only [text, Bool.not_true, Bool.false_eq_true, ↓reduceIte]
        rcases checkCommand_cases command acceptResponsibility txToolsEnabled with
          ⟨passed, allowed⟩ | ⟨refusal, refused, -⟩
        · rw [passed]
          have unended : 0x0D ∉ encodeText command := encodeText_avoids allowed.noReturn (by decide)
          have typed := port.wp_cliExchange (settled.sound object current) unended timeout
          apply (wp_withLock.mpr typed).bind
          · exact fun _ _ _ sound => wp_ret.mpr (sound.resettled current)
          · exact fun _ _ _ sound => sound.resettled current
        · rw [refused]
          exact wp_raise.mpr settled.resettled
      · simp only [text, Bool.not_false, ↓reduceIte]
        exact wp_raise.mpr settled.resettled

/-- It is made with the current session, and the device does not reboot. -/
def Exchange.Fits (s : Host) : Exchange → Prop
  | rpc object call => s.rpc = some object ∧ call ≠ .systemRebootUpdate
  | _ => True

/-- **One exchange.** -/
theorem OnPort.wp_exchange (port : OnPort pb fw E calm view) (settled : PortSettled view s w)
    (exchange : Exchange) (fits : exchange.Fits s) :
    wp E (InMode view) (exchange.program pb) (fun _ s' w' => Resettled view s s' w') s w := by
  cases exchange with
  | rpc object call =>
      obtain ⟨current, stays⟩ := fits
      have steady : Steady view object false 0 s w := ⟨settled.sound object current, nofun⟩
      apply (RpcCall.maintains port call stays steady).mono
      exact fun _ _ _ after => after.sound.resettled current
  | cliExec command timeout acceptResponsibility txToolsEnabled =>
      exact port.wp_cliExec settled command timeout acceptResponsibility txToolsEnabled
  | enterRpc => exact port.wp_enterRpc settled
  | enterCli => exact port.wp_enterCli settled

/-- Without a session only the transport and the device matter. -/
theorem PortSettled.unconnected (usb : s.transport.isWifiTransport = false) (unforced : s.forceStart = false)
    (timers : view.timers w = 0) (whole : (view.mode w).Whole) (none_ : s.rpc = none) :
    PortSettled view s w :=
  ⟨usb, unforced, timers, whole, fun _ current => nomatch none_.symm.trans current⟩

theorem OnPort.wp_disconnect (port : OnPort pb fw E calm view) (settled : PortSettled view s w) :
    wp E (InMode view) disconnect
      (fun result s' w' => result = .ok () ∧ PortSettled view s' w' ∧ s'.rpc = none) s w := by
  have calm_ := port.undisturbed settled.timers .disconnect
  have usb : s.transport.closed.isWifiTransport = false := by
    apply Bool.eq_false_iff.mpr
    exact fun bridge => nomatch settled.usb.symm.trans (TransportFacts.closed_isWifiTransport bridge)
  have timers : view.timers (E .disconnect w).2 = 0 :=
    (port.timersAfter .disconnect w).trans settled.timers
  have whole : (view.mode (E .disconnect w).2).Whole := by
    rw [calm_]
    exact port.closed w settled.whole
  have tried : wp E (InMode view) (orNote disconnectTransport ()) (fun result s' w' => result = .ok () ∧
      s'.transport = s.transport.closed ∧ s'.forceStart = s.forceStart ∧ w' = (E .disconnect w).2)
      s w := by
    apply wp_tryExcept.mpr
    apply wp_bind.mpr
    apply wp_attempt.mpr
    apply wp_perform.mpr
    refine ⟨.other settled.agree nofun nofun, ?_⟩
    apply wp_bind.mpr
    apply wp_modify.mpr
    apply Link.wp_ofExcept.mpr
    cases answer : (E .disconnect w).1 with
    | ok _ => exact ⟨rfl, rfl, rfl, rfl⟩
    | error e =>
        rw [calm_] at answer
        simp only [port.closes e w answer, ↓reduceIte]
        exact wp_bind.mpr (wp_modify.mpr (wp_ret.mpr ⟨rfl, rfl, rfl, rfl⟩))
  apply tried.bind
  · rintro _ s₁ w₁ ⟨-, transport, forced, rfl⟩
    refine wp_modify.mpr ⟨rfl, .unconnected ?_ (forced.trans settled.unforced) timers whole rfl, rfl⟩
    change s₁.transport.isWifiTransport = false
    rw [transport]
    exact usb
  · exact fun _ _ _ closed => nomatch closed.1

theorem OnPort.wp_connect (port : OnPort pb fw E calm view) (settled : PortSettled view s w)
    (none_ : s.rpc = none) :
    wp E (InMode view) FlipperClient.connect (fun _ s' w' => PortSettled view s' w') s w := by
  have calm_ := port.undisturbed settled.timers .connect
  have timers : view.timers (E .connect w).2 = 0 :=
    (port.timersAfter .connect w).trans settled.timers
  have whole : (view.mode (E .connect w).2).Whole := by
    rw [calm_]
    exact port.opened w settled.whole
  have tried : wp E (InMode view) (orNote connectTransport false)
      (fun _ s' w' => PortSettled view s' w' ∧ s'.rpc = none) s w := by
    apply wp_tryExcept.mpr
    apply wp_bind.mpr
    apply wp_perform.mpr
    refine ⟨.other settled.agree nofun nofun, ?_⟩
    have same : PortSettled view s (E .connect w).2 :=
      .unconnected settled.usb settled.unforced timers whole none_
    cases answer : (E .connect w).1 with
    | error e =>
        by_cases caught : e.isOSOrRuntimeError = true
        · simp only [caught, ↓reduceIte]
          exact wp_bind.mpr (wp_modify.mpr (wp_ret.mpr
            ⟨.unconnected settled.usb settled.unforced timers whole none_, none_⟩))
        · simp only [caught, Bool.false_eq_true, ↓reduceIte]
          exact ⟨same, none_⟩
    | ok opened =>
        cases opened with
        | none => exact wp_ret.mpr ⟨same, none_⟩
        | some facts =>
            rw [calm_] at answer
            refine wp_bind.mpr (wp_modify.mpr (wp_ret.mpr ⟨?_, none_⟩))
            exact .unconnected (port.connects facts w answer) settled.unforced timers whole none_
  apply tried.bind
  · rintro ok s₁ w₁ ⟨settled₁, none₁⟩
    cases ok with
    | false => exact wp_ret.mpr settled₁
    | true =>
        have made : (connectedHost s₁).objects s₁.fresh = {} := Function.update_self ..
        have sound : Sound view s₁.fresh 0 (connectedHost s₁) w₁ := by
          refine ⟨settled₁.usb, settled₁.unforced, rfl, ?_, settled₁.timers, settled₁.whole, ?_⟩
          all_goals rw [made]
          exact nofun
        exact wp_bind.mpr (wp_modify.mpr (wp_ret.mpr sound.settled))
  · exact fun _ _ _ kept => kept.1

/-- **Reconnecting** makes a new session, whose flag is down. -/
theorem OnPort.wp_reconnect (port : OnPort pb fw E calm view) (settled : PortSettled view s w) :
    wp E (InMode view) reconnect (fun _ s' w' => PortSettled view s' w') s w := by
  apply (port.wp_disconnect settled).bind
  · exact fun _ _ _ closed => port.wp_connect closed.2.1 closed.2.2
  · exact fun _ _ _ closed => nomatch closed.1

end Idle

section Runs

variable {σ : Type} {pb : Protobuf} {fw : Firmware} {E calm : LinkEnv σ} {view : PortView σ}

/-- What has been awaited so far by a client that connects, disconnects and, in between, has any
exchanges under way at once, interleaved in any way. -/
inductive UsesPort (pb : Protobuf) (E : LinkEnv σ) (s : Host) (w : σ) :
    List (LinkEvent σ) → Host → σ → Prop
  | start : UsesPort pb E s w [] s w
  | disconnected {events : List (LinkEvent σ)} {s' : Host} {w' : σ} (before : UsesPort pb E s w events s' w') :
      UsesPort pb E s w (events ++ (run E disconnect s' w').trace) (run E disconnect s' w').host
        (run E disconnect s' w').world
  | reconnected {events : List (LinkEvent σ)} {s' : Host} {w' : σ} (before : UsesPort pb E s w events s' w') :
      UsesPort pb E s w (events ++ (run E reconnect s' w').trace) (run E reconnect s' w').host
        (run E reconnect s' w').world
  | exchanged {events : List (LinkEvent σ)} {s' : Host} {w' : σ} (before : UsesPort pb E s w events s' w')
      {n : ℕ} (exchanges : Fin n → Exchange) (fits : ∀ i, (exchanges i).Fits s')
      {cfg : Config (Fin n) Host linkSignature Exn σ fun i => (exchanges i).Result}
      (reached : Config.Reaches E (fun _ _ => True)
        (.start (fun i => (exchanges i).program pb) s' w') cfg)
      (ended : ∀ i, (cfg.tasks i).result?.isSome) :
      UsesPort pb E s w (events ++ cfg.trace.map Prod.snd) cfg.host cfg.world

/-- Exchanges under way at once: whatever the interleaving, and also before they have ended. -/
theorem OnPort.exchanges_in_mode (port : OnPort pb fw E calm view) {s : Host} {w : σ}
    (settled : PortSettled view s w) {n : ℕ} (exchanges : Fin n → Exchange)
    (fits : ∀ i, (exchanges i).Fits s)
    {cfg : Config (Fin n) Host linkSignature Exn σ fun i => (exchanges i).Result}
    (reached : Config.Reaches E (fun _ _ => True) (.start (fun i => (exchanges i).program pb) s w) cfg) :
    (∀ event ∈ cfg.trace, InMode view event.2) ∧
      ((∀ i, (cfg.tasks i).result?.isSome) → PortSettled view cfg.host cfg.world) := by
  have runs : ∀ i s' w', Resettled view s s' w' →
      wp E (InMode view) ((exchanges i).program pb) (fun _ s'' w'' => Resettled view s s'' w'') s' w' := by
    rintro i s' w' ⟨settled', same⟩
    have fits' : (exchanges i).Fits s' := by
      have fits := fits i
      cases exchange : exchanges i with
      | rpc object call =>
          rw [exchange] at fits
          exact ⟨same.trans fits.1, fits.2⟩
      | cliExec _ _ _ _ | enterRpc | enterCli => trivial
    apply (port.wp_exchange settled' (exchanges i) fits').mono
    exact fun _ _ _ after => ⟨after.1, after.2.trans same⟩
  have serial := fun i => (exchanges i).serial pb s
  obtain ⟨order, explained⟩ := Explained.run serial (.refl s) reached
  refine ⟨explained.events runs settled.resettled, fun ended => ?_⟩
  obtain ⟨order', -, -, final⟩ := serializable serial (.refl s) reached ended
  have after := (serially_invariant runs settled.resettled order').1.1
  rw [← final] at after
  exact after

/-- Between its uses the port is settled. -/
theorem UsesPort.settled (port : OnPort pb fw E calm view) {s s' : Host} {w w' : σ}
    {events : List (LinkEvent σ)} (used : UsesPort pb E s w events s' w')
    (settled : PortSettled view s w) :
    (∀ event ∈ events, InMode view event) ∧ PortSettled view s' w' := by
  induction used with
  | start => exact ⟨fun _ member => absurd member List.not_mem_nil, settled⟩
  | disconnected before ih =>
      have closed := port.wp_disconnect ih.2
      refine ⟨fun event member => ?_, closed.2.2.1⟩
      exact (List.mem_append.mp member).elim (ih.1 event) (closed.1 event)
  | reconnected before ih =>
      have opened := port.wp_reconnect ih.2
      refine ⟨fun event member => ?_, opened.2⟩
      exact (List.mem_append.mp member).elim (ih.1 event) (opened.1 event)
  | exchanged before exchanges fits reached ended ih =>
      obtain ⟨own, after⟩ := port.exchanges_in_mode ih.2 exchanges fits reached
      refine ⟨fun event member => ?_, after ended⟩
      rcases List.mem_append.mp member with earlier | later
      · exact ih.1 event earlier
      · obtain ⟨event, among, rfl⟩ := List.mem_map.mp later
        exact own event among

end Runs

section Desk

/-- A device on a desk: its mode, what it has sent, the timers under way, and when one fires. -/
structure Desk where
  mode : DeviceMode
  chunks : List Bytes
  timers : ℕ
  clock : ℕ
  fires : ℕ

/-- It echoes what is typed, and answers nothing but pings. -/
def echoing : Firmware := ⟨fun _ byte => [byte], fun _ => []⟩

/-- Without timers. -/
def Desk.answer (op : LinkOp) (desk : Desk) : Except Exn op.Res × Desk :=
  let later := { desk with clock := desk.clock + 1 }
  match op with
  | .connect => (.ok (some TransportFacts.usb), later)
  | .isConnected => (.ok true, later)
  | .send _ data =>
      let taken := echoing.takes desk.mode data
      (.ok (), { later with mode := taken.1, chunks := desk.chunks ++ [taken.2] })
  | .receive _ => (.ok (desk.chunks.headD []), { later with chunks := desk.chunks.tail })
  | .monotonic => (.ok (0 : ℚ), later)
  | .deadline _ | .patience => (.ok desk.chunks.length, later)
  | .startTimeout _ => (.ok (), { later with timers := desk.timers + 1 })
  | .stopTimeout => (.ok (), { later with timers := desk.timers - 1 })
  | .disconnect | .sleep _ => (.ok (), later)

instance : DecidablePred LinkOp.Suspends
  | .send _ _ | .receive _ | .sleep _ => isTrue trivial
  | .connect | .disconnect | .isConnected | .monotonic | .deadline _ | .patience | .startTimeout _
  | .stopTimeout => isFalse id

/-- The timer fires at its time. -/
def Desk.link : LinkEnv Desk := fun op desk =>
  if op.Suspends ∧ 0 < desk.timers ∧ desk.clock = desk.fires then
    (.error .cancelledError, { desk with clock := desk.clock + 1 })
  else desk.answer op

def Desk.view : PortView Desk := ⟨mode, chunks, timers⟩

theorem echoing_takes (line : Bytes) {data : Bytes} (unended : 0x0D ∉ data) :
    (echoing.takes (.cli line) data).2 = data := by
  induction data generalizing line with
  | nil => rfl
  | cons byte data ih =>
      obtain ⟨here, later⟩ := not_or.mp (mt List.mem_cons.mpr unended)
      rw [Firmware.takes, Firmware.accept, Firmware.typed, if_neg (Ne.symm here)]
      by_cases discards : byte = 0x03
      · rw [if_pos discards]
        exact congrArg _ (ih [] later)
      · rw [if_neg discards]
        exact congrArg _ (ih _ later)

theorem Desk.onPort : OnPort Protobuf.wire echoing Desk.link (fun op desk => desk.answer op) Desk.view where
  arrivals := {
    receive := fun _ _ => rfl
    received := fun _ _ => rfl
    sleep := fun _ _ => rfl
    slept := fun _ _ => rfl
    deadline := fun _ desk => ⟨desk.chunks.length, le_rfl, rfl⟩
    passed := fun _ _ => rfl
    rest := fun _ _ _ => rfl }
  sends _ _ _ := rfl
  sent origin data desk := by
    change (desk.chunks ++ [(echoing.takes desk.mode data).2]).flatten = _
    rw [List.flatten_append, List.flatten_singleton]
    rfl
  mode op desk _ _ := by cases op <;> rfl
  opened _ whole := whole
  closed _ whole := whole
  timers op desk := by cases op <;> rfl
  connects facts desk connected := by
    obtain rfl := Option.some.inj (Except.ok.inj connected)
    decide +kernel
  closes error desk raised := nomatch raised
  interrupts op desk := by
    unfold Desk.link
    by_cases fired : op.Suspends ∧ 0 < desk.timers ∧ desk.clock = desk.fires
    · rw [if_pos fired]
      exact .inr ⟨fired.1, fired.2.1, rfl, rfl, .inl rfl⟩
    · rw [if_neg fired]
      exact .inl rfl
  prints line := by
    -- the echo of the ping is a request
    rintro ⟨payload, left, msg, front, parsed, answered⟩
    rw [echoing_takes line (show 0x0D ∉ framed probe by decide +kernel)] at front
    have echo : (frontPayload (framed probe)).bind (fun part => Protobuf.wire.parseFromString part.1) =
        some probe := by decide +kernel
    rw [front, Option.bind_some, parsed] at echo
    obtain rfl := Option.some.inj echo
    exact absurd answered (by decide +kernel)

/-- A directory is made and a command typed. -/
def Exchange.makeAndType (i : Fin 2) : Exchange :=
  if i = 0 then .rpc 0 (.storageMkdir "/ext/a") else .cliExec "storage info /ext" 10 false false

end Desk

end FlipperMcp
