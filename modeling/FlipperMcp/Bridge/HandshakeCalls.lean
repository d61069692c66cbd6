import FlipperMcp.Bridge.Handshake
import FlipperMcp.Bridge.ReceiveBuffer

/-! # Connecting and disconnecting

Other tasks connect and disconnect while the receive task goes through the handshake. They keep
the invariant too, and what the receive task relies on, as long as none of them changes the
state while it switches the rate (`handshake_safe`).
-/

namespace FlipperMcp

open Coroutine

namespace Bridge

variable {p : Expansion × List Entry}

section Calls

/-- The outline of a task that connects and disconnects. -/
def calling : Outline (Expansion × List Entry) uartSignature Empty where
  inv := Handshake
  guard _ _ := True
  rely _ p p' := p.2 <+: p'.2
  answers := Accepted

theorem connections_le {journal later : List Entry} (grows : journal <+: later) :
    connections journal ≤ connections later := by
  obtain ⟨more, rfl⟩ := grows
  rw [connections_append]
  exact Nat.le_add_right _ _

/-- The initial rate suits every state. -/
theorem Handshake.initial (h : Handshake p) : Handshake ({ p.1 with currentBaud := expInitialBaud }, p.2) := by
  refine ⟨fun _ => rfl, h.negotiating, h.starting, h.active, h.reset, fun n member => ?_⟩
  obtain ⟨before, latest⟩ := h.returned n member
  exact ⟨before, fun same => ⟨(latest same).1, rfl⟩⟩

/-- A connection is begun. -/
theorem Handshake.connected (h : Handshake p) (initial : p.1.currentBaud = expInitialBaud) {s' : Expansion}
    (state : s'.state = .awaitingHeartbeat) (baud : s'.currentBaud = p.1.currentBaud) :
    Handshake (s', p.2 ++ [.connected]) := by
  have alive : begun (p.2 ++ [.connected]) = true := by
    rw [begun, List.foldl_append]
    rfl
  have silent : Silent .awaitingHeartbeat := trivial
  apply Handshake.of_silent state silent
  · exact fun _ => baud.trans initial
  · intro reset
    cases alive.symm.trans reset
  · intro n member
    have more : connections (p.2 ++ [.connected]) = connections p.2 + 1 := connections_append ..
    change n ≤ connections (p.2 ++ [.connected]) ∧ (n = connections (p.2 ++ [.connected]) → _)
    rw [more]
    rcases List.mem_append.mp member with member | member
    · have before := (h.returned n member).1
      exact ⟨Nat.le_succ_of_le before, fun same => absurd same (Nat.ne_of_lt (Nat.lt_succ_of_le before))⟩
    · cases List.mem_singleton.mp member

/-- The state is reset. -/
theorem Handshake.dropped (h : Handshake p) {s' : Expansion} (state : s'.state = .disconnected)
    (baud : s'.currentBaud = p.1.currentBaud) : Handshake (s', p.2 ++ [.dropped]) := by
  have silent : Silent .disconnected := trivial
  apply Handshake.of_silent state silent
  · intro awaiting
    cases state.symm.trans awaiting
  · exact fun _ => .inl state
  · intro n member
    have same : connections (p.2 ++ [.dropped]) = connections p.2 := connections_append ..
    rcases List.mem_append.mp member with member | member
    · obtain ⟨before, latest⟩ := h.returned n member
      refine ⟨same ▸ before, fun now => ⟨?_, baud.trans (latest (now.trans same)).2⟩⟩
      rw [begun, List.foldl_append]
      rfl
    · cases List.mem_singleton.mp member

/-- `expansion_disconnect` returns. -/
theorem Handshake.returning (h : Handshake p) {n : ℕ} (before : n ≤ connections p.2)
    (reset : n = connections p.2 → begun p.2 = false) :
    Handshake ({ p.1 with currentBaud := expInitialBaud }, p.2 ++ [.disconnected n]) := by
  have frames : framesSince (p.2 ++ [.disconnected n]) = framesSince p.2 := by
    rw [framesSince, List.foldl_append]
    rfl
  have kept : begun (p.2 ++ [.disconnected n]) = begun p.2 := by
    rw [begun, List.foldl_append]
    rfl
  have same : connections (p.2 ++ [.disconnected n]) = connections p.2 := connections_append ..
  refine ⟨fun _ => rfl, fun state => ?_, fun state => ?_, fun state => ?_, fun none_ => h.reset (kept ▸ none_),
    fun m member => ?_⟩
  · unfold Heard
    rw [frames]
    exact h.negotiating state
  · obtain ⟨code, negotiated, heard⟩ := h.starting state
    refine ⟨code, negotiated, ?_⟩
    unfold Heard
    rw [frames]
    exact heard
  · obtain ⟨code, negotiated, heard⟩ := h.active state
    refine ⟨code, negotiated, ?_⟩
    unfold Heard
    rw [frames]
    exact heard
  · rw [same, kept]
    rcases List.mem_append.mp member with member | member
    · obtain ⟨earlier, latest⟩ := h.returned m member
      exact ⟨earlier, fun now => ⟨(latest now).1, rfl⟩⟩
    · obtain rfl := Entry.disconnected.inj (List.mem_singleton.mp member)
      exact ⟨before, fun now => ⟨reset now, rfl⟩⟩

/-- The driver sets a rate. -/
theorem upholds_setBaudrate {baud : UInt32} (h : Handshake p) :
    Upholds calling (perform (.setBaudrate baud)).plainly
      (fun (accepted : Bool) p' => accepted = true ∧ p.2 <+: p'.2 ∧ Handshake p') p := by
  unfold perform
  rw [plainly_perform]
  apply Upholds.perform h trivial
  · intro (accepted : Bool) p' answered grows inv
    exact ⟨Except.ok.inj answered, grows, inv⟩
  · exact fun error => error.elim

/-- A task that leaves the state and the rate alone. -/
theorem upholds_calling {c : Bridge α} (h : Updates Steady c) (now : Handshake p) :
    Upholds calling c.plainly (fun _ => Handshake) p := by
  apply Upholds.of_updates h.plainly
  · intro q q' changed handshake
    have kept := handshake.steady changed.1
    rw [← changed.2] at kept
    exact kept
  · exact fun _ _ _ _ inv _ => inv
  · exact fun _ _ handshake => ⟨handshake, trivial⟩
  · exact now

theorem steady_perform (op : UartOp) : Updates Steady (perform op) :=
  @Updates.perform Expansion uartSignature Empty Steady op

theorem steady_signalPresence : Updates Steady signalPresence :=
  ((steady_perform _).bind fun _ => steady_perform _).withLock

theorem steady_stopRpc : Updates Steady stopRpc := by
  have get : Updates Steady (Coro.get : Bridge Expansion) := Updates.get fun _ => ⟨rfl, rfl⟩
  exact get.bind fun _ => .ite (keepsState_reply _).updates (.pure ())

theorem upholds_expansionConnectNoted (h : Handshake p) :
    Upholds calling expansionConnectNoted (fun _ => Handshake) p := by
  apply Upholds.get_bind
  apply Upholds.ite
  · exact fun _ => h
  · intro _
    have initial : Upholds calling (setBaudRate expInitialBaud).plainly
        (fun _ p' => Handshake p' ∧ p'.1.currentBaud = expInitialBaud) p := by
      apply (upholds_setBaudrate h).plainly_bind
      intro (accepted : Bool) q ready
      obtain ⟨rfl, -, inv⟩ := ready
      exact ⟨inv.initial, rfl⟩
    apply initial.bind
    intro _ q ready
    have connected : Handshake ({ q.1 with
        rxLen := 0
        lastRxTick := q.1.tick
        state := .awaitingHeartbeat }, q.2 ++ [.connected]) := ready.1.connected ready.2 rfl rfl
    apply upholds_noted
    exact (upholds_calling steady_signalPresence connected).bind fun _ _ now => now

theorem upholds_expansionDisconnectNoted (h : Handshake p) :
    Upholds calling expansionDisconnectNoted (fun _ => Handshake) p := by
  apply (upholds_calling steady_stopRpc h).bind
  intro _ q now
  have dropped : Handshake ({ q.1 with state := .disconnected, rxLen := 0 }, q.2 ++ [.dropped]) :=
    now.dropped rfl rfl
  have reset : begun (q.2 ++ [.dropped]) = false := by
    rw [begun, List.foldl_append]
    rfl
  apply (upholds_setBaudrate dropped).bind
  intro (accepted : Bool) r ready
  obtain ⟨rfl, grows, inv⟩ := ready
  have same : connections (q.2 ++ [.dropped]) = connections q.2 := connections_append ..
  have later : connections q.2 ≤ connections r.2 := same ▸ connections_le grows
  refine inv.returning later fun now => ?_
  obtain ⟨more, journal⟩ := grows
  rw [← same, ← journal] at now
  rw [← journal]
  exact begun_append reset (not_connected now.symm)

theorem upholds_makeCallsNoted (calls : List ExpansionCall) (h : Handshake p) :
    Upholds calling (makeCallsNoted calls) (fun _ => Handshake) p := by
  induction calls generalizing p with
  | nil => exact h
  | cons call calls ih =>
      apply (upholds_calling (steady_perform (.delay 0)) h).bind
      intro _ q now
      have made : Upholds calling call.makeNoted (fun _ => Handshake) q := by
        cases call with
        | connect => exact (upholds_expansionConnectNoted now).bind fun _ _ later => later
        | disconnect => exact upholds_expansionDisconnectNoted now
      exact made.bind fun _ _ later => ih later

end Calls

section Changes

/-- What a task that does not receive makes of the state and the journal. -/
structure Called (p p' : Expansion × List Entry) : Prop where
  grows : p.2 <+: p'.2
  strict : Strict p → Strict p'
  state : (p'.1.state = p.1.state ∧ framesSince p'.2 = framesSince p.2) ∨
    p'.1.state = .awaitingHeartbeat ∨ p'.1.state = .disconnected

theorem Called.refl (p : Expansion × List Entry) : Called p p :=
  ⟨List.prefix_rfl, id, .inl ⟨rfl, rfl⟩⟩

theorem Called.trans {p p' p'' : Expansion × List Entry} (first : Called p p') (second : Called p' p'') :
    Called p p'' := by
  refine ⟨first.grows.trans second.grows, fun strict => second.strict (first.strict strict), ?_⟩
  rcases second.state with ⟨state, frames⟩ | reset
  · rcases first.state with ⟨state', frames'⟩ | reset
    · exact .inl ⟨state.trans state', frames.trans frames'⟩
    · exact .inr (reset.imp state.trans state.trans)
  · exact .inr reset

/-- The state is kept, and the rate too, or it is the initial one now. -/
theorem Called.of_kept {p p' : Expansion × List Entry} (state : p'.1.state = p.1.state)
    (baud : p'.1.currentBaud = p.1.currentBaud ∨ p'.1.currentBaud = expInitialBaud)
    (journal : p'.2 = p.2) : Called p p' := by
  refine ⟨journal ▸ List.prefix_rfl, fun strict negotiating => ?_, .inl ⟨state, by rw [journal]⟩⟩
  rcases baud with same | initial
  · exact same.trans (strict (state.symm.trans negotiating))
  · exact initial

/-- Where the state is left alone while the receive task switches the rate. -/
theorem Called.leaves {p p' : Expansion × List Entry} (h : Called p p') (switching : Switching p)
    (state : p'.1.state = p.1.state) : framesSince p'.2 = framesSince p.2 := by
  rcases h.state with ⟨-, frames⟩ | awaiting | disconnected
  · exact frames
  · exact nomatch awaiting.symm.trans (state.trans switching.1)
  · exact nomatch disconnected.symm.trans (state.trans switching.1)

theorem called_plainly {c : Bridge α} (h : Updates Steady c) :
    Updates Called (c.plainly : Journalled α) :=
  h.plainly.mono fun _ _ same => .of_kept same.1.state (.inl same.1.baud) same.2

theorem called_get : Updates Called (Coro.get : Journalled (Expansion × List Entry)) :=
  Updates.get Called.refl

theorem called_setBaudRate : Updates Called (setBaudRate expInitialBaud).plainly := by
  have slows : Updates (fun s s' : Expansion => s'.state = s.state ∧
      (s'.currentBaud = s.currentBaud ∨ s'.currentBaud = expInitialBaud))
      (setBaudRate expInitialBaud) := by
    apply (Updates.perform _).bind
    intro (accepted : Bool)
    exact .ite (Updates.modify fun _ => ⟨rfl, .inr rfl⟩) (.pure ())
  exact slows.plainly.mono fun _ _ slower => .of_kept slower.1.1 slower.1.2 slower.2

theorem called_expansionConnect : Updates Called expansionConnectNoted := by
  apply called_get.bind
  intro _
  apply Updates.ite (.pure _)
  apply called_setBaudRate.bind
  intro _
  apply Updates.bind
  · exact Updates.modify fun p => ⟨List.prefix_append .., fun _ => nofun, .inr (.inl rfl)⟩
  · exact fun _ => (called_plainly steady_signalPresence).bind fun _ => .pure _

theorem called_expansionDisconnect : Updates Called expansionDisconnectNoted := by
  apply (called_plainly steady_stopRpc).bind
  intro _
  refine ⟨fun p => ⟨List.prefix_append .., fun _ => nofun, .inr (.inr rfl)⟩, fun p => ?_⟩
  apply (called_plainly (steady_perform _)).bind
  intro (accepted : Bool)
  apply Updates.ite _ (.pure ())
  refine Updates.modify fun p => ⟨List.prefix_append .., fun _ _ => rfl, .inl ⟨rfl, ?_⟩⟩
  rw [framesSince, List.foldl_append]
  rfl

theorem called_makeCalls (calls : List ExpansionCall) : Updates Called (makeCallsNoted calls) := by
  induction calls with
  | nil => exact .pure ()
  | cons call calls ih =>
      have made : Updates Called call.makeNoted := by
        cases call with
        | connect => exact called_expansionConnect.bind fun _ => .pure ()
        | disconnect => exact called_expansionDisconnect
      exact (called_plainly (steady_perform _)).bind fun _ => made.bind fun _ => ih

/-- Nothing is struck out. -/
abbrev Grows (p p' : Expansion × List Entry) : Prop := p.2 <+: p'.2

theorem grows_plainly (c : Bridge α) : Updates Grows (c.plainly : Journalled α) := by
  refine (Updates.any c).plainly.mono fun p p' same => ?_
  exact ⟨[], (List.append_nil p.2).trans same.2.symm⟩

theorem grows_noted (update : Expansion → Expansion) (entry : Entry) : Updates Grows (noted update entry) :=
  Updates.modify fun _ => List.prefix_append ..

theorem grows_extractFrames (passes : ℕ) : Updates Grows (extractFramesNoted passes) := by
  have get : Updates Grows (Coro.get : Journalled (Expansion × List Entry)) :=
    Updates.get fun _ => List.prefix_rfl
  induction passes with
  | zero => exact .pure ()
  | succ passes ih =>
      apply get.bind
      intro p
      apply Updates.ite (.pure ())
      apply Updates.ite (.pure ())
      apply Updates.ite
      · exact (grows_noted _ _).bind fun _ => ih
      · apply Updates.ite _ (.pure ())
        exact (grows_noted _ _).bind fun _ => (grows_plainly _).bind fun _ =>
          (grows_plainly _).bind fun _ => ih

theorem grows_uartRxTask (passes : ℕ) : Updates Grows (uartRxTaskNoted passes) := by
  have taken : ∀ buf, Updates Grows (takeBytesNoted buf) := fun buf =>
    .ite (.pure ()) ((grows_noted _ _).bind fun _ => grows_extractFrames _)
  have watched : Updates Grows watchdogNoted := by
    apply Updates.modify
    intro p
    by_cases expires : Expires p.1
    · simp only [expires, ↓reduceIte]
      exact List.prefix_append ..
    · simp only [expires, ↓reduceIte]
      exact List.prefix_rfl
  have pass : Updates Grows uartRxPassNoted :=
    (grows_plainly _).bind fun _ => (taken _).bind fun _ => watched.bind fun _ => grows_plainly _
  induction passes with
  | zero => exact .pure ()
  | succ passes ih => exact pass.bind fun _ => ih

end Changes

end Bridge

open Bridge in
/-- A task beside the handshake. -/
inductive HandshakeTask
  | receives (passes : ℕ)
  | calls (made : List ExpansionCall)
  | other (task : BridgeTask) (keeps : task.KeepsConnection)

namespace HandshakeTask

open Bridge

/-- Its program. -/
def program : HandshakeTask → Bridge Unit
  | receives passes => uartRxTask passes
  | calls made => makeCalls made
  | other task _ => task.program

/-- Its program, with a journal. -/
def journalled : HandshakeTask → Journalled Unit
  | receives passes => uartRxTaskNoted passes
  | calls made => makeCallsNoted made
  | other task _ => task.program.plainly

theorem ghosts (task : HandshakeTask) : Ghosts task.journalled task.program := by
  cases task with
  | receives passes => exact ghosts_uartRxTask passes
  | calls made => exact ghosts_makeCalls made
  | other task _ => exact .plainly _

theorem suspended (task : HandshakeTask) : Suspended task.journalled := by
  cases task with
  | receives passes => cases passes <;> trivial
  | calls made => cases made <;> trivial
  | other task keeps =>
      cases task with
      | uartRx _ | flipperConnect _ | reconnectHandler => exact keeps.elim
      | tcpRx data | sender data | clock data => cases data <;> trivial

/-- What does not receive. -/
def Calls : HandshakeTask → Prop
  | receives _ => False
  | calls _ | other _ _ => True

theorem steady_keeps {task : BridgeTask} (keeps : task.KeepsConnection) : Updates Steady task.program := by
  refine (ticks_program task keeps).mono fun s s' ticks => ?_
  obtain ⟨tick, rfl⟩ := ticks
  exact ⟨rfl, rfl⟩

theorem called {task : HandshakeTask} (calls : task.Calls) : Updates Called task.journalled := by
  cases task with
  | receives _ => exact calls.elim
  | calls made => exact called_makeCalls made
  | other task keeps => exact called_plainly (steady_keeps keeps)

theorem upholds_calling {task : HandshakeTask} (calls : task.Calls) {p : Expansion × List Entry}
    (h : Handshake p) : Upholds calling task.journalled (fun _ => Handshake) p := by
  cases task with
  | receives _ => exact calls.elim
  | calls made => exact upholds_makeCallsNoted made h
  | other task keeps => exact Bridge.upholds_calling (steady_keeps keeps) h

end HandshakeTask

namespace Bridge

section Runs

variable {ι σ : Type} [DecidableEq ι] {E : Env uartSignature Empty σ} {rx : ι}

/-- The turn of another task than the receive task `rx` leaves the state alone while that
switches the rate. -/
def LeavesSwitch (E : Env uartSignature Empty σ) (rx : ι)
    (cfg : Config ι Expansion uartSignature Empty σ fun _ => Unit) (i : ι) : Prop :=
  i ≠ rx → ∀ op, (cfg.tasks rx).StandsAt (.awaits op) → Switches op →
    ∀ next, cfg.step E i = some next → next.host.state = cfg.host.state

/-- What the state, the rate and the frames have to do with each other. -/
structure Handshaken (journal : List Entry) (s : Expansion) : Prop where
  active : s.state = .rpcActive → StartHeard journal
  awaiting : s.state = .awaitingHeartbeat → s.currentBaud = expInitialBaud
  negotiating : s.state = .baudNegotiation → s.currentBaud = expInitialBaud ∨ RateAccepted journal
  disconnected : Entry.disconnected (connections journal) ∈ journal →
    (s.state = .disconnected ∨ s.state = .error) ∧ s.currentBaud = expInitialBaud

/-- The same, of the tasks with their journals. -/
def LeavesSwitchNoted (E : Env uartSignature Empty σ) (rx : ι)
    (cfg : Config ι (Expansion × List Entry) uartSignature Empty σ fun _ => Unit) (i : ι) : Prop :=
  i ≠ rx → ∀ op, (cfg.tasks rx).StandsAt (.awaits op) → Switches op →
    ∀ next, cfg.step E i = some next → next.host.1.state = cfg.host.1.state

theorem leavesSwitch_noted {cfg' next' : Config ι (Expansion × List Entry) uartSignature Empty σ fun _ => Unit}
    {cfg next : Config ι Expansion uartSignature Empty σ fun _ => Unit} {i : ι} (same : cfg'.Ghosts cfg)
    (same' : next'.Ghosts next) (taken : cfg.step E i = some next) (taken' : cfg'.step E i = some next')
    (leaves : LeavesSwitch E rx cfg i) : LeavesSwitchNoted E rx cfg' i := by
  intro other op stands switches later led
  obtain rfl := Option.some.inj (taken'.symm.trans led)
  rw [same.host, same'.host]
  exact leaves other op ((same.tasks rx).standsAt stands) switches next taken

/-- The outlines of all tasks. -/
def outlines (rx i : ι) : Outline (Expansion × List Entry) uartSignature Empty :=
  if i = rx then handshaking else calling

/-- What each may change. -/
def bounds (rx i : ι) : Expansion × List Entry → Expansion × List Entry → Prop :=
  if i = rx then Grows else Called

theorem outlines_rx (rx : ι) : outlines rx rx = handshaking := if_pos rfl

theorem outlines_other {i : ι} (other : i ≠ rx) : outlines rx i = calling := if_neg other

theorem bounds_rx (rx : ι) : bounds rx rx = Grows := if_pos rfl

theorem bounds_other {i : ι} (other : i ≠ rx) : bounds rx i = Called := if_neg other

theorem outlines_inv (rx i : ι) : (outlines rx i).inv = Handshake := by
  by_cases own : i = rx
  · rw [own, outlines_rx]
    rfl
  · rw [outlines_other own]
    rfl

theorem outlines_answers (rx i : ι) : (outlines rx i).answers = Accepted := by
  by_cases own : i = rx
  · rw [own, outlines_rx]
    rfl
  · rw [outlines_other own]
    rfl

theorem bounds_grows {i : ι} {p p' : Expansion × List Entry} (changed : bounds rx i p p') : p.2 <+: p'.2 := by
  by_cases own : i = rx
  · rw [own, bounds_rx] at changed
    exact changed
  · rw [bounds_other own] at changed
    exact changed.grows

/-- What the others do is within what the receive task relies on. -/
theorem handshaking_tolerates {point : Point uartSignature} {p p' : Expansion × List Entry}
    (changed : Called p p') (asserted : handshaking.guard point p)
    (leaves : ∀ op, point = .awaits op → Switches op → p'.1.state = p.1.state) :
    handshaking.guard point p' ∧ ∀ q, handshaking.rely point p' q → handshaking.rely point p q := by
  have kept : ∀ op, point = .awaits op → Switches op →
      p'.1.state = p.1.state ∧ framesSince p'.2 = framesSince p.2 := fun op stands switches =>
    ⟨leaves op stands switches,
      changed.leaves (asserted.1 op stands switches) (leaves op stands switches)⟩
  refine ⟨⟨fun op stands switches => ?_, fun apart => changed.strict (asserted.2 apart)⟩, fun q later => ?_⟩
  · obtain ⟨state, frames⟩ := kept op stands switches
    obtain ⟨negotiating, heard⟩ := asserted.1 op stands switches
    refine ⟨state.trans negotiating, ?_⟩
    unfold RateAccepted Heard
    rw [frames]
    exact heard
  · refine ⟨fun strict => later.1 (changed.strict strict), fun op stands switches => ?_⟩
    obtain ⟨state, frames⟩ := kept op stands switches
    obtain ⟨state', frames'⟩ := later.2 op stands switches
    exact ⟨state'.trans state, frames'.trans frames⟩

/-- The receive task as it stands, and the others. -/
theorem outlined_reaches {tasks : ι → HandshakeTask} {passes : ℕ} (receives : tasks rx = .receives passes)
    (others : ∀ i ≠ rx, (tasks i).Calls) (accepts : ∀ baud w, (E (.setBaudrate baud) w).1 = .ok (true : Bool))
    {p : Expansion × List Entry} (h : Settling p) (w : σ)
    {end_ : Config ι (Expansion × List Entry) uartSignature Empty σ fun _ => Unit}
    (reaches : Config.Reaches E (LeavesSwitchNoted E rx)
      (Config.start (fun i => (tasks i).journalled) p w) end_) :
    end_.Outlined (outlines rx) (bounds rx) := by
  apply Config.Outlined.reaches reaches
  · refine ⟨fun i => (tasks i).suspended, fun i => ?_, fun i => ?_⟩
    · change Upholds (outlines rx i) (tasks i).journalled _ p
      by_cases own : i = rx
      · rw [own, outlines_rx, receives]
        exact (upholds_handshaking passes h).mono fun _ _ settling =>
          ⟨settling.handshake, nofun, fun _ => settling.strict⟩
      · rw [outlines_other own]
        exact ((tasks i).upholds_calling (others i own) h.handshake).mono fun _ _ inv => ⟨inv, trivial⟩
    · change Updates (bounds rx i) (tasks i).journalled
      by_cases own : i = rx
      · rw [own, bounds_rx, receives]
        exact grows_uartRxTask passes
      · rw [bounds_other own]
        exact HandshakeTask.called (others i own)
  · intro i op w
    rw [outlines_answers]
    cases op with
    | setBaudrate baud => exact accepts baud w
    | readBytes | writeBytes _ _ | waitTxDone _ | delay _ | rpcCallback _ => trivial
  · intro i point p
    by_cases own : i = rx
    · rw [own, outlines_rx]
      exact ⟨id, fun _ _ _ => ⟨rfl, rfl⟩⟩
    · rw [outlines_other own]
      exact List.prefix_rfl
  · intro i p
    by_cases own : i = rx
    · subst own
      exact (bounds_rx i).symm ▸ (List.prefix_rfl : Grows p p)
    · rw [bounds_other own]
      exact .refl p
  · intro i a b d
    by_cases own : i = rx
    · rw [own, bounds_rx]
      exact List.IsPrefix.trans
    · rw [bounds_other own]
      exact .trans
  · intro mid next j before leaves taken inv changed
    rw [outlines_inv] at inv
    -- only a turn of another task is anything to the receive task
    have tolerates : j ≠ rx → ∀ point, (mid.tasks rx).StandsAt point →
        handshaking.guard point next.host ∧
          ∀ q, handshaking.rely point next.host q → handshaking.rely point mid.host q := by
      intro other point stands
      have asserted := (before.upholds rx).asserted stands
      rw [outlines_rx] at asserted
      rw [bounds_other other] at changed
      refine handshaking_tolerates changed asserted fun op awaits switches => ?_
      exact leaves other op (awaits ▸ stands) switches next taken
    refine ⟨fun i _ => ?_, fun i apart point stands asserted => ?_, fun i apart point q stands later => ?_⟩
    · rw [outlines_inv]
      exact inv
    · by_cases own : i = rx
      · subst own
        rw [outlines_rx]
        exact (tolerates (Ne.symm apart) point stands).1
      · rw [outlines_other own]
        trivial
    · by_cases own : i = rx
      · subst own
        rw [outlines_rx] at later ⊢
        exact (tolerates (Ne.symm apart) point stands).2 q later
      · rw [outlines_other own] at later ⊢
        exact (bounds_grows changed).trans later

/-- Where the receive task stands, the rate is the initial one or has been accepted. -/
theorem Handshake.handshaken {p : Expansion × List Entry} (h : Handshake p) {c : Journalled Unit}
    (suspended : Suspended c) (asserted : ∀ point, c.StandsAt point → handshaking.guard point p) :
    Handshaken p.2 p.1 := by
  refine ⟨h.active, h.awaiting, fun negotiating => ?_, fun member => ?_⟩
  · obtain ⟨point, stands⟩ : ∃ point, c.StandsAt point := by
      cases c with
      | ret _ | raise _ => exact ⟨.ended, rfl⟩
      | await op _ => exact ⟨.awaits op, rfl⟩
      | acquire _ => exact ⟨.mutex, rfl⟩
      | act _ _ | release _ => exact suspended.elim
    obtain ⟨switching, strict⟩ := asserted point stands
    by_cases dead : point = .awaits (.delay expBaudSwitchDeadMs)
    · exact .inr (switching _ dead (.inl rfl)).2
    · exact .inl (strict dead negotiating)
  · obtain ⟨-, latest⟩ := h.returned _ member
    obtain ⟨reset, initial⟩ := latest rfl
    exact ⟨h.reset reset, initial⟩

/-- **The handshake.** Whatever frames arrive, and whatever tasks connect and disconnect
meanwhile: if no turn of another task changes the state while the receive task switches the
rate, the session is active only after a HEARTBEAT, an answer to the requested rate and a STATUS
OK since the last connection was begun, the rate is the initial one until the device has
accepted another, and after `expansion_disconnect` has returned the state is reset and the rate
initial until the next connection is begun. The journal is that of the same schedule. -/
theorem handshake_safe (accepts : ∀ baud w, (E (.setBaudrate baud) w).1 = .ok (true : Bool))
    (tasks : ι → HandshakeTask) (rx : ι) (passes : ℕ) (receives : tasks rx = .receives passes)
    (others : ∀ i ≠ rx, ∀ passes, tasks i ≠ .receives passes) (w : σ) (schedule : List ι)
    {end_ : Config ι Expansion uartSignature Empty σ fun _ => Unit}
    (followed : (Config.start (fun i => (tasks i).program) {} w).follow E schedule = some end_)
    (leaves : (Config.start (fun i => (tasks i).program) {} w).Permits E (LeavesSwitch E rx) schedule) :
    ∃ journalled,
      (Config.start (fun i => (tasks i).journalled) ({}, []) w).follow E schedule = some journalled ∧
      journalled.Ghosts end_ ∧ Handshaken journalled.host.2 end_.host := by
  have ghosts : (Config.start (fun i => (tasks i).journalled) ({}, []) w :
      Config ι (Expansion × List Entry) uartSignature Empty σ fun _ => Unit).Ghosts
      (Config.start (fun i => (tasks i).program) {} w) :=
    ⟨fun i => (tasks i).ghosts, rfl, rfl, rfl⟩
  obtain ⟨journalled, led, same⟩ := ghosts.follow followed
  refine ⟨journalled, led, same, ?_⟩
  have permitted := ghosts.permits leavesSwitch_noted followed leaves
  have reaches := Config.reaches_of_permits .refl permitted led
  have calls : ∀ i ≠ rx, (tasks i).Calls := by
    intro i other
    have different := others i other
    cases task : tasks i with
    | receives passes => exact absurd task (different passes)
    | calls _ | other _ _ => trivial
  have start : Settling (({}, []) : Expansion × List Entry) := by
    refine ⟨⟨nofun, nofun, nofun, nofun, fun _ => .inl rfl, nofun⟩, nofun⟩
  have outlined := outlined_reaches receives calls accepts start w reaches
  have inv := (outlined.upholds rx).holds (outlined.suspended rx)
  rw [outlines_rx] at inv
  rw [← same.host]
  refine inv.handshaken (outlined.suspended rx) fun point stands => ?_
  have asserted := (outlined.upholds rx).asserted stands
  rw [outlines_rx] at asserted
  exact asserted

theorem reading_op {c : Bridge Unit} {op : UartOp} (reads : c.StandsAt (.awaits .readBytes))
    (stands : c.StandsAt (.awaits op)) : op = .readBytes := by
  cases c with
  | await op' next => exact Point.awaits.inj (stands.trans reads.symm)
  | acquire _ | ret _ | raise _ => exact nomatch reads
  | act _ _ | release _ => exact reads.elim

/-- While the receive task waits for bytes, the others may do as they like. -/
theorem permits_reading {cfg : Config ι Expansion uartSignature Empty σ fun _ => Unit}
    (reads : (cfg.tasks rx).StandsAt (.awaits .readBytes)) {first later : List ι} (apart : rx ∉ first)
    (rest : ∀ cfg' : Config ι Expansion uartSignature Empty σ fun _ => Unit,
      cfg'.Permits E (LeavesSwitch E rx) later) : cfg.Permits E (LeavesSwitch E rx) (first ++ later) := by
  induction first generalizing cfg with
  | nil => exact rest cfg
  | cons i first ih =>
      obtain ⟨other, apart⟩ := not_or.mp (mt List.mem_cons.mpr apart)
      refine ⟨fun _ op stands switches => ?_, fun next taken => ih ?_ apart⟩
      · rw [reading_op reads stands] at switches
        exact absurd switches (by simp [Switches])
      · rw [Config.turn_others taken other]
        exact reads

theorem permits_alone (cfg : Config ι Expansion uartSignature Empty σ fun _ => Unit) (n : ℕ) :
    cfg.Permits E (LeavesSwitch E rx) (List.replicate n rx) := by
  induction n generalizing cfg with
  | zero => trivial
  | succ n ih => exact ⟨fun other => absurd rfl other, fun next _ => ih next⟩

end Runs

/-- A UART on which these pieces arrive. -/
def arriving : Env uartSignature Empty (List (List UInt8))
  | .readBytes, pieces => (.ok (pieces.headD []), pieces.tail)
  | .writeBytes _ data, pieces => (.ok (data.length : ℤ), pieces)
  | .setBaudrate _, pieces => (.ok true, pieces)
  | .waitTxDone _, pieces | .delay _, pieces | .rpcCallback _, pieces => (.ok (), pieces)

/-- The receive task, and a task that connects. -/
def receiveAndConnect : Bool → HandshakeTask
  | false => .receives 3
  | true => .calls [.connect]

/-- A device that accepts the requested rate and the session. -/
def accepting : List (List UInt8) := [heartbeatFrame, statusFrame expStatusOk, statusFrame expStatusOk]

/-- The whole handshake. -/
theorem handshake_safe_accepting :
    ∃ journalled : Config Bool (Expansion × List Entry) uartSignature Empty (List (List UInt8)) fun _ => Unit,
      (Config.start (fun i => (receiveAndConnect i).journalled) ({}, []) accepting).follow arriving
        (List.replicate 5 true ++ List.replicate 12 false) = some journalled ∧
      StartHeard journalled.host.2 := by
  have followed : ((Config.start (fun i => (receiveAndConnect i).program) {} accepting).follow arriving
      (List.replicate 5 true ++ List.replicate 12 false)).map (fun end_ => end_.host.state) =
      some .rpcActive := by
    decide +kernel
  obtain ⟨end_, led, active⟩ := Option.map_eq_some_iff.mp followed
  have others : ∀ i ≠ false, ∀ passes, receiveAndConnect i ≠ .receives passes := by
    intro i other passes
    cases i with
    | false => exact absurd rfl other
    | true => exact nofun
  obtain ⟨journalled, led', _, handshaken⟩ := handshake_safe (fun _ _ => rfl) receiveAndConnect false 3 rfl
    others accepting _ led (permits_reading (by exact rfl) (by decide) fun cfg => permits_alone cfg 12)
  exact ⟨journalled, led', handshaken.active active⟩

/-- In the second dead time the state is still that of the rate negotiation, and the rate is the
accepted one. -/
theorem handshake_dead_time :
    ¬ ∀ (tasks : Bool → HandshakeTask) (schedule : List Bool)
        (end_ : Config Bool Expansion uartSignature Empty (List (List UInt8)) fun _ => Unit),
      (Config.start (fun i => (tasks i).program) {} accepting).follow arriving schedule = some end_ →
      end_.host.state = .awaitingHeartbeat ∨ end_.host.state = .baudNegotiation →
      end_.host.currentBaud = expInitialBaud := by
  intro claimed
  have followed : ((Config.start (fun i => (receiveAndConnect i).program) {} accepting).follow arriving
      (List.replicate 5 true ++ List.replicate 7 false)).map
      (fun end_ => (end_.host.state, end_.host.currentBaud)) = some (.baudNegotiation, expTargetBaud) := by
    decide +kernel
  obtain ⟨end_, led, facts⟩ := Option.map_eq_some_iff.mp followed
  obtain ⟨state, baud⟩ := Prod.mk.inj facts
  have initial := claimed receiveAndConnect _ end_ led (.inr state)
  rw [baud] at initial
  exact absurd initial (by decide)

end Bridge

end FlipperMcp
