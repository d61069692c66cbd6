import FlipperMcp.Bridge.Frames
import FlipperMcp.Bridge.Journal

/-! # The handshake

The state of the module says what has been received since the connection was begun: a
HEARTBEAT, the answer to the requested rate, and the answer to the start of the session, each
with a valid checksum. `Handshake` is the invariant that the receive task and the callers of
`expansion_connect` and `expansion_disconnect` keep between them. While the receive task
switches the rate it takes for granted that the state is left alone.
-/

namespace FlipperMcp

open Coroutine

namespace Bridge

section Journals

/-- The frames handed to `process_frame` since the last connection was begun. -/
def framesSince (journal : List Entry) : List (List UInt8) :=
  journal.foldl (fun frames entry => match entry with
    | .connected => []
    | .frame bytes => frames ++ [bytes]
    | _ => frames) []

/-- Whether a connection was begun since the state was last reset. -/
def begun (journal : List Entry) : Bool :=
  journal.foldl (fun before entry => match entry with
    | .connected => true
    | .dropped => false
    | _ => before) false

/-- These frames have come in this order since the last connection was begun. -/
def Heard (frames : List (List UInt8)) (journal : List Entry) : Prop :=
  frames.Sublist (framesSince journal)

variable {journal more : List Entry} {frames : List (List UInt8)} {bytes : List UInt8}

theorem framesSince_frame (journal : List Entry) (bytes : List UInt8) :
    framesSince (journal ++ [.frame bytes]) = framesSince journal ++ [bytes] := by
  rw [framesSince, List.foldl_append]
  rfl

theorem begun_frame (journal : List Entry) (bytes : List UInt8) :
    begun (journal ++ [.frame bytes]) = begun journal := by
  rw [begun, List.foldl_append]
  rfl

/-- One frame more. -/
theorem Heard.frame (h : Heard frames journal) (bytes : List UInt8) :
    Heard (frames ++ [bytes]) (journal ++ [.frame bytes]) := by
  unfold Heard
  rw [framesSince_frame]
  exact List.Sublist.append h (List.Sublist.refl [bytes])

/-- Without a connection and without a frame. -/
theorem framesSince_append (silent : ∀ bytes, Entry.frame bytes ∉ more)
    (none_ : Entry.connected ∉ more) : framesSince (journal ++ more) = framesSince journal := by
  induction more using List.reverseRecOn with
  | nil => rw [List.append_nil]
  | append_singleton more entry ih =>
      have earlier := ih (fun bytes member => silent bytes (List.mem_append_left _ member))
        (fun member => none_ (List.mem_append_left _ member))
      rw [← List.append_assoc, framesSince, List.foldl_append]
      rw [framesSince] at earlier
      cases entry with
      | connected => exact absurd (List.mem_append_right _ (List.mem_singleton_self _)) none_
      | frame bytes =>
          exact absurd (List.mem_append_right _ (List.mem_singleton_self _)) (silent bytes)
      | _ => exact earlier

/-- Without a connection. -/
theorem begun_append (reset : begun journal = false) (none_ : Entry.connected ∉ more) :
    begun (journal ++ more) = false := by
  induction more using List.reverseRecOn with
  | nil => rw [List.append_nil, reset]
  | append_singleton more entry ih =>
      have earlier := ih fun member => none_ (List.mem_append_left _ member)
      rw [← List.append_assoc, begun, List.foldl_append]
      rw [begun] at earlier
      cases entry with
      | connected => exact absurd (List.mem_append_right _ (List.mem_singleton_self _)) none_
      | dropped => rfl
      | _ => exact earlier

/-- Whether it is an entry of the receive task. -/
def isReceipt : Entry → Bool
  | .read _ | .frame _ | .skipped _ | .expired => true
  | .connected | .dropped | .disconnected _ => false

theorem Heard.receipt (h : Heard frames journal) {entry : Entry} (receipt : isReceipt entry = true) :
    Heard frames (journal ++ [entry]) := by
  cases entry with
  | frame bytes => exact (List.sublist_append_left frames [bytes]).trans (h.frame bytes)
  | read _ | skipped _ | expired =>
      unfold Heard
      rw [framesSince_append]
      · exact h
      · exact fun bytes member => nomatch List.mem_singleton.mp member
      · exact fun member => nomatch List.mem_singleton.mp member
  | connected | dropped | disconnected _ => exact nomatch receipt

theorem connections_append (journal more : List Entry) :
    connections (journal ++ more) = connections journal + connections more :=
  List.count_append

/-- No connection was begun in what adds none. -/
theorem not_connected (same : connections (journal ++ more) = connections journal) :
    Entry.connected ∉ more := by
  rw [connections_append] at same
  exact List.count_eq_zero.mp (by unfold connections at same; omega)

end Journals

/-- A HEARTBEAT. -/
def heartbeatFrame : List UInt8 := sealed [expFrameHeartbeat]

/-- A STATUS. -/
def statusFrame (code : UInt8) : List UInt8 := sealed [expFrameStatus, code]

/-- The answers to the requested rate that lead on. -/
def Negotiated (code : UInt8) : Prop := code = expStatusOk ∨ code = expStatusErrorBaudRate

/-- A HEARTBEAT and the answer to the requested rate have come. -/
def NegotiationHeard (journal : List Entry) : Prop :=
  ∃ code, Negotiated code ∧ Heard [heartbeatFrame, statusFrame code] journal

/-- So has the answer to the start of the session. -/
def StartHeard (journal : List Entry) : Prop :=
  ∃ code, Negotiated code ∧ Heard [heartbeatFrame, statusFrame code, statusFrame expStatusOk] journal

/-- What the state and the rate of the module say about the journal. -/
structure Handshake (p : Expansion × List Entry) : Prop where
  awaiting : p.1.state = .awaitingHeartbeat → p.1.currentBaud = expInitialBaud
  negotiating : p.1.state = .baudNegotiation → Heard [heartbeatFrame] p.2
  starting : p.1.state = .rpcStarting → NegotiationHeard p.2
  active : p.1.state = .rpcActive → StartHeard p.2
  reset : begun p.2 = false → p.1.state = .disconnected ∨ p.1.state = .error
  returned : ∀ n, Entry.disconnected n ∈ p.2 → n ≤ connections p.2 ∧
    (n = connections p.2 → begun p.2 = false ∧ p.1.currentBaud = expInitialBaud)

section Receiving

variable {p : Expansion × List Entry} {s' : Expansion}

/-- The state and the rate stay as they are. -/
structure Steady (s s' : Expansion) : Prop where
  state : s'.state = s.state
  baud : s'.currentBaud = s.currentBaud

theorem Handshake.steady (h : Handshake p) (same : Steady p.1 s') : Handshake (s', p.2) := by
  obtain ⟨state, baud⟩ := same
  constructor
  · simp only [state, baud]
    exact h.awaiting
  · simp only [state]
    exact h.negotiating
  · simp only [state]
    exact h.starting
  · simp only [state]
    exact h.active
  · simp only [state]
    exact h.reset
  · simp only [baud]
    exact h.returned

/-- An entry of the receive task. -/
theorem Handshake.receipt (h : Handshake p) {entry : Entry} (receipt : isReceipt entry = true) :
    Handshake (p.1, p.2 ++ [entry]) := by
  have kept : begun (p.2 ++ [entry]) = begun p.2 := by
    rw [begun, List.foldl_append]
    cases entry with
    | connected | dropped | disconnected _ => exact nomatch receipt
    | _ => rfl
  have counted : connections (p.2 ++ [entry]) = connections p.2 := by
    rw [connections_append]
    cases entry with
    | connected | dropped | disconnected _ => exact nomatch receipt
    | _ => rfl
  refine ⟨h.awaiting, fun state => (h.negotiating state).receipt receipt, fun state => ?_,
    fun state => ?_, fun reset => h.reset (kept ▸ reset), fun n member => ?_⟩
  · obtain ⟨code, negotiated, heard⟩ := h.starting state
    exact ⟨code, negotiated, heard.receipt receipt⟩
  · obtain ⟨code, negotiated, heard⟩ := h.active state
    exact ⟨code, negotiated, heard.receipt receipt⟩
  · rw [counted, kept]
    rcases List.mem_append.mp member with member | member
    · exact h.returned n member
    · obtain rfl := List.mem_singleton.mp member
      exact nomatch receipt

/-- In which nothing is heard. -/
def Silent : ExpansionState → Prop
  | .disconnected | .awaitingHeartbeat | .error => True
  | .baudNegotiation | .rpcStarting | .rpcActive => False

/-- Where nothing is to be heard, the rate and the calls that have returned are left. -/
theorem Handshake.of_silent {p : Expansion × List Entry} {state : ExpansionState} (now : p.1.state = state)
    (silent : Silent state) (awaiting : p.1.state = .awaitingHeartbeat → p.1.currentBaud = expInitialBaud)
    (reset : begun p.2 = false → p.1.state = .disconnected ∨ p.1.state = .error)
    (returned : ∀ n, Entry.disconnected n ∈ p.2 → n ≤ connections p.2 ∧
      (n = connections p.2 → begun p.2 = false ∧ p.1.currentBaud = expInitialBaud)) : Handshake p := by
  have other : ∀ later, p.1.state = later → Silent later := fun later same => now.symm.trans same ▸ silent
  exact ⟨awaiting, fun state => (other _ state).elim, fun state => (other _ state).elim,
    fun state => (other _ state).elim, reset, returned⟩

/-- The session has failed. -/
theorem Handshake.error (h : Handshake p) (failed : s'.state = .error)
    (baud : s'.currentBaud = p.1.currentBaud) : Handshake (s', p.2) := by
  have silent : Silent .error := trivial
  apply Handshake.of_silent failed silent
  · intro awaiting
    exact nomatch failed.symm.trans awaiting
  · exact fun _ => .inr failed
  · simp only [baud]
    exact h.returned

/-- Where a connection is under way. -/
theorem Handshake.alive (h : Handshake p) (connected : p.1.state ≠ .disconnected)
    (well : p.1.state ≠ .error) : begun p.2 = true := by
  cases reset : begun p.2 with
  | true => rfl
  | false => exact ((h.reset reset).elim connected well).elim

/-- A connection under way goes on to another state. -/
theorem Handshake.goes (h : Handshake p) (alive : begun p.2 = true)
    (awaiting : s'.state = .awaitingHeartbeat → s'.currentBaud = expInitialBaud)
    (negotiating : s'.state = .baudNegotiation → Heard [heartbeatFrame] p.2)
    (starting : s'.state = .rpcStarting → NegotiationHeard p.2)
    (active : s'.state = .rpcActive → StartHeard p.2) : Handshake (s', p.2) := by
  refine ⟨awaiting, negotiating, starting, active, fun reset => ?_, fun n member => ?_⟩
  · exact nomatch alive.symm.trans reset
  · obtain ⟨before, latest⟩ := h.returned n member
    exact ⟨before, fun same => nomatch alive.symm.trans (latest same).1⟩

/-- In the rate negotiation the rate is the initial one. -/
def Strict (p : Expansion × List Entry) : Prop :=
  p.1.state = .baudNegotiation → p.1.currentBaud = expInitialBaud

/-- The device has accepted the requested rate. -/
def RateAccepted (journal : List Entry) : Prop :=
  Heard [heartbeatFrame, statusFrame expStatusOk] journal

/-- The receive task is about to switch the rate, or has just done so. -/
def Switching (p : Expansion × List Entry) : Prop :=
  p.1.state = .baudNegotiation ∧ RateAccepted p.2

/-- What `process_frame` awaits while it switches the rate. -/
def Switches (op : UartOp) : Prop := op = .delay expBaudSwitchDeadMs ∨ op = .setBaudrate expTargetBaud

/-- `uart_set_baudrate` succeeds. -/
def Accepted : (op : UartOp) → Except Empty op.Res → Prop
  | .setBaudrate _, answer => answer = .ok (true : Bool)
  | _, _ => True

/-- The outline of the receive task. Where it switches the rate it relies on the state, and
everywhere else but in the dead times the rate is the initial one until it is switched. -/
def handshaking : Outline (Expansion × List Entry) uartSignature Empty where
  inv := Handshake
  guard point p := (∀ op, point = .awaits op → Switches op → Switching p) ∧
    (point ≠ .awaits (.delay expBaudSwitchDeadMs) → Strict p)
  rely point p p' := (Strict p → Strict p') ∧ ∀ op, point = .awaits op → Switches op →
    p'.1.state = p.1.state ∧ framesSince p'.2 = framesSince p.2
  answers := Accepted

/-- What holds of the receive task apart from the switch. -/
structure Settling (p : Expansion × List Entry) : Prop where
  handshake : Handshake p
  strict : Strict p

theorem Settling.steady (h : Settling p) (same : Steady p.1 s') : Settling (s', p.2) := by
  refine ⟨h.handshake.steady same, ?_⟩
  unfold Strict
  rw [same.state, same.baud]
  exact h.strict

theorem Settling.receipt (h : Settling p) (same : Steady p.1 s') (entry : Entry)
    (receipt : isReceipt entry = true) : Settling (s', p.2 ++ [entry]) := by
  have steady := h.steady same
  exact ⟨steady.handshake.receipt receipt, steady.strict⟩

theorem steady_appendBytes (buf : List UInt8) (s : Expansion) : Steady s (appendBytes buf s) := by
  unfold appendBytes
  exact ⟨rfl, rfl⟩

theorem steady_skipByte (s : Expansion) : Steady s (skipByte s) := by
  unfold skipByte moveBytes
  exact ⟨rfl, rfl⟩

theorem steady_removeFrame (size : ℕ) (s : Expansion) : Steady s (removeFrame size s) := by
  unfold removeFrame moveBytes
  exact ⟨rfl, rfl⟩

/-- An update with its entry. -/
theorem upholds_noted {α : Type} {o : Outline (Expansion × List Entry) uartSignature Empty}
    {update : Expansion → Expansion} {entry : Entry} {next : Journalled α}
    {post : α → Expansion × List Entry → Prop} (rest : Upholds o next post (update p.1, p.2 ++ [entry])) :
    Upholds o (noted update entry >>= fun _ => next) post p :=
  rest

theorem upholds_plain_modify {α : Type} {o : Outline (Expansion × List Entry) uartSignature Empty}
    {update : Expansion → Expansion} {next : Journalled α}
    {post : α → Expansion × List Entry → Prop} (rest : Upholds o next post (update p.1, p.2)) :
    Upholds o ((Coro.modify update : Bridge Unit).plainly >>= fun _ => next) post p :=
  rest

/-- A task that neither switches the rate nor changes the state. -/
abbrev KeepsState {α : Type} (c : Bridge α) : Prop :=
  Within (fun op : UartOp => ¬ Switches op) Steady c

theorem upholds_keepsState {α : Type} {c : Bridge α} (h : KeepsState c) (now : Settling p) :
    Upholds handshaking c.plainly (fun _ => Settling) p := by
  apply Upholds.of_within Settling h.plainly
  · intro q q' changed settling
    have kept := settling.steady changed.1
    rw [← changed.2] at kept
    exact kept
  · exact fun _ _ _ _ relied inv settling => ⟨inv, relied.1 settling.strict⟩
  · intro op q other settling
    refine ⟨settling.handshake, fun op' same switches => ?_, fun _ => settling.strict⟩
    obtain rfl := Point.awaits.inj same
    exact absurd switches other
  · exact fun error => error.elim
  · exact now

theorem keepsState_perform {op : UartOp} (other : ¬ Switches op) : KeepsState (perform op) :=
  @Within.perform Expansion uartSignature Empty _ Steady op other

theorem keepsState_sendFrame (frame : List UInt8) : KeepsState (sendFrame frame) := by
  apply (keepsState_perform (by simp [Switches])).bind
  intro (sent : ℤ)
  apply Within.ite (.pure _)
  apply (keepsState_perform (by simp [Switches])).bind
  intro (sent : ℤ)
  exact .ite (.pure _) ((keepsState_perform (by simp [Switches])).bind fun _ => .pure _)

theorem keepsState_reply (frame : List UInt8) : KeepsState (do
    let _ ← sendFrame frame) :=
  (keepsState_sendFrame frame).bind fun _ => .pure ()

theorem keepsState_forwardPayload (frame : ℕ → UInt8) : KeepsState (forwardPayload frame) :=
  .ite (keepsState_perform (by simp [Switches])) (.pure ())

theorem keepsState_sendDueHeartbeat : KeepsState sendDueHeartbeat := by
  have get : KeepsState (Coro.get : Bridge Expansion) := Within.get fun _ => ⟨rfl, rfl⟩
  refine get.bind fun _ => .ite ?_ (.pure ())
  exact (keepsState_sendFrame _).bind fun _ => Within.modify fun _ => ⟨rfl, rfl⟩

/-- A new state, and what is sent then. -/
theorem upholds_setState {state : ExpansionState} {frame : List UInt8}
    (reached : Settling ({ p.1 with state := state }, p.2)) :
    Upholds handshaking (do
      setState state
      let _ ← sendFrame frame).plainly (fun _ => Settling) p :=
  have first : Upholds handshaking (setState state).plainly (fun _ => Settling) p := reached
  first.plainly_bind fun _ _ now => upholds_keepsState (keepsState_reply frame) now

/-- One dead time of the switch. -/
theorem upholds_deadTime (h : Handshake p) (switching : Switching p) :
    Upholds handshaking (perform (.delay expBaudSwitchDeadMs)).plainly
      (fun _ p' => Handshake p' ∧ Switching p' ∧ (Strict p → Strict p')) p := by
  unfold perform
  rw [plainly_perform]
  apply Upholds.perform h
  · exact ⟨fun _ _ _ => switching, fun apart => absurd rfl apart⟩
  · intro _ p' _ relied inv
    obtain ⟨state, frames⟩ := relied.2 _ rfl (.inl rfl)
    refine ⟨inv, ⟨state.trans switching.1, ?_⟩, relied.1⟩
    unfold RateAccepted Heard
    rw [frames]
    exact switching.2
  · exact fun error => error.elim

/-- The switch itself. -/
theorem upholds_switch (h : Handshake p) (strict : Strict p) (switching : Switching p) :
    Upholds handshaking (setBaudRate expTargetBaud).plainly
      (fun _ p' => Handshake p' ∧ Switching p') p := by
  have asked : Upholds handshaking (perform (.setBaudrate expTargetBaud)).plainly
      (fun (accepted : Bool) p' => accepted = true ∧ Handshake p' ∧ Switching p') p := by
    unfold perform
    rw [plainly_perform]
    apply Upholds.perform h
    · exact ⟨fun _ _ _ => switching, fun _ => strict⟩
    · intro (accepted : Bool) p' answered relied inv
      obtain ⟨state, frames⟩ := relied.2 _ rfl (.inr rfl)
      refine ⟨Except.ok.inj answered, inv, state.trans switching.1, ?_⟩
      unfold RateAccepted Heard
      rw [frames]
      exact switching.2
    · exact fun error => error.elim
  apply asked.plainly_bind
  intro (accepted : Bool) p' ready
  obtain ⟨rfl, inv, negotiating, heard⟩ := ready
  have alive := inv.alive (negotiating ▸ nofun) (negotiating ▸ nofun)
  refine ⟨inv.goes alive ?_ inv.negotiating inv.starting inv.active, negotiating, heard⟩
  exact fun awaiting => nomatch negotiating.symm.trans awaiting

/-- The dead times, the switch between them, and the start of the session. -/
theorem upholds_switching (settling : Settling p) (switching : Switching p) :
    Upholds handshaking (do
      perform (.delay expBaudSwitchDeadMs)
      setBaudRate expTargetBaud
      perform (.delay expBaudSwitchDeadMs)
      setState .rpcStarting
      let _ ← sendControl expControlStartRpc).plainly (fun _ => Settling) p := by
  apply (upholds_deadTime settling.handshake switching).plainly_bind
  rintro _ q ⟨inv, switching, strict⟩
  apply (upholds_switch inv (strict settling.strict) switching).plainly_bind
  rintro _ q ⟨inv, switching⟩
  apply (upholds_deadTime inv switching).plainly_bind
  rintro _ q ⟨inv, ⟨negotiating, heard⟩, -⟩
  have alive := inv.alive (negotiating ▸ nofun) (negotiating ▸ nofun)
  exact upholds_setState ⟨inv.goes alive nofun nofun (fun _ => ⟨_, .inl rfl, heard⟩) nofun, nofun⟩

/-- **One frame.** -/
theorem upholds_dispatchFrame {bytes : List UInt8} (h : Settling p) (same : Steady p.1 s')
    (heartbeat : s'.rxBuf 0 = expFrameHeartbeat → bytes = heartbeatFrame)
    (status : s'.rxBuf 0 = expFrameStatus → bytes = statusFrame (s'.rxBuf 1)) :
    Upholds handshaking (dispatchFrame s'.rxBuf s'.state).plainly (fun _ => Settling)
      (s', p.2 ++ [.frame bytes]) := by
  have inv : Handshake (s', p.2 ++ [.frame bytes]) :=
    (@Handshake.receipt p h.handshake (.frame bytes) rfl).steady same
  have now : Settling (s', p.2 ++ [.frame bytes]) := ⟨inv, (h.steady same).strict⟩
  have before : Handshake (s', p.2) := h.handshake.steady same
  have failed : Settling ({ s' with state := .error }, p.2 ++ [.frame bytes]) :=
    ⟨inv.error rfl rfl, nofun⟩
  cases state : s'.state with
  | disconnected | error => exact now
  | awaitingHeartbeat =>
      apply Upholds.plainly_ite
      · intro front
        have heard : Heard [heartbeatFrame] (p.2 ++ [.frame bytes]) := by
          have one : Heard ([] ++ [bytes]) (p.2 ++ [.frame bytes]) :=
            Heard.frame (List.nil_sublist _) bytes
          rw [heartbeat front] at one ⊢
          exact one
        have alive := inv.alive (state ▸ nofun) (state ▸ nofun)
        exact upholds_setState ⟨inv.goes alive nofun (fun _ => heard) nofun nofun,
          fun _ => inv.awaiting state⟩
      · exact fun _ => now
  | baudNegotiation =>
      apply Upholds.plainly_ite
      · intro front
        have heard : Heard [heartbeatFrame, statusFrame (s'.rxBuf 1)] (p.2 ++ [.frame bytes]) := by
          have two := (before.negotiating state).frame bytes
          rw [status front] at two ⊢
          exact two
        have alive := inv.alive (state ▸ nofun) (state ▸ nofun)
        apply Upholds.plainly_ite
        · intro accepted
          rw [accepted] at heard
          exact upholds_switching now ⟨state, heard⟩
        · intro _
          apply Upholds.plainly_ite
          · intro rejected
            have negotiated : NegotiationHeard (p.2 ++ [.frame bytes]) :=
              ⟨s'.rxBuf 1, .inr rejected, heard⟩
            exact upholds_setState ⟨inv.goes alive nofun nofun (fun _ => negotiated) nofun, nofun⟩
          · exact fun _ => failed
      · exact fun _ => now
  | rpcStarting =>
      apply Upholds.plainly_ite
      · intro front
        apply Upholds.plainly_ite
        · intro accepted
          have started : StartHeard (p.2 ++ [.frame bytes]) := by
            obtain ⟨code, negotiated, earlier⟩ := before.starting state
            have three := earlier.frame bytes
            rw [status front, accepted] at three ⊢
            exact ⟨code, negotiated, three⟩
          have alive := inv.alive (state ▸ nofun) (state ▸ nofun)
          exact ⟨inv.goes alive nofun nofun nofun fun _ => started, nofun⟩
        · exact fun _ => failed
      · exact fun _ => now
  | rpcActive =>
      apply Upholds.plainly_ite
      · intro _
        apply (upholds_keepsState (keepsState_forwardPayload _) now).plainly_bind
        exact fun _ _ now => upholds_keepsState (keepsState_reply _) now
      · intro _
        apply Upholds.plainly_ite
        · exact fun _ => now
        · intro _
          apply Upholds.plainly_ite
          · exact fun _ => upholds_keepsState (keepsState_reply _) now
          · exact fun _ => now

/-- The bytes of a frame whose checksum is right. -/
theorem map_eq_sealed {bytes : ℕ → UInt8} {size : ℕ}
    (right : calcChecksum ((List.range size).map bytes) = bytes size) :
    (List.range (size + 1)).map bytes = sealed ((List.range size).map bytes) := by
  rw [List.range_succ, List.map_append, List.map_singleton, sealed, right]

theorem upholds_processFrame {size : ℕ} (h : Settling p)
    (heartbeat : p.1.rxBuf 0 = expFrameHeartbeat → size = 2)
    (status : p.1.rxBuf 0 = expFrameStatus → size = 3) :
    Upholds handshaking (processFrame size).plainly (fun _ => Settling)
      ({ p.1 with dispatching := true }, p.2 ++ [.frame ((List.range size).map p.1.rxBuf)]) := by
  have entered : Settling ({ p.1 with dispatching := true },
      p.2 ++ [.frame ((List.range size).map p.1.rxBuf)]) :=
    @Settling.receipt p { p.1 with dispatching := true } h ⟨rfl, rfl⟩ (.frame _) rfl
  apply Upholds.plainly_ite
  · exact fun _ => entered
  · intro _
    let ticked : Expansion := { p.1 with dispatching := true, lastRxTick := p.1.tick }
    have noted : Upholds handshaking (Coro.modify fun s => { s with lastRxTick := s.tick } :
        Bridge Unit).plainly
        (fun _ q => q = (ticked, p.2 ++ [.frame ((List.range size).map p.1.rxBuf)]))
        ({ p.1 with dispatching := true }, p.2 ++ [.frame ((List.range size).map p.1.rxBuf)]) := rfl
    apply noted.plainly_bind
    rintro _ _ rfl
    apply Upholds.plainly_get_bind
    apply Upholds.plainly_ite
    · intro _
      exact ⟨entered.handshake.error rfl rfl, nofun⟩
    · intro right
      have checked := not_not.mp right
      have steady : Steady p.1 ticked := ⟨rfl, rfl⟩
      apply upholds_dispatchFrame h steady
      · intro front
        have two := heartbeat front
        subst two
        have whole := map_eq_sealed checked
        rw [show (List.range 1).map p.1.rxBuf = [expFrameHeartbeat] from congrArg (fun b => [b]) front]
          at whole
        exact whole
      · intro front
        have three := status front
        subst three
        have whole := map_eq_sealed checked
        rw [show (List.range 2).map p.1.rxBuf = [expFrameStatus, p.1.rxBuf 1] from
          congrArg (fun b => [b, p.1.rxBuf 1]) front] at whole
        exact whole

theorem getFrameSize_heartbeat {s : Expansion} (front : s.rxBuf 0 = expFrameHeartbeat) :
    (getFrameSize (s.rxBuf 0) s.rxBuf s.rxLen).toNat = 2 := by
  unfold getFrameSize
  rw [if_pos front]
  rfl

theorem getFrameSize_status {s : Expansion} (front : s.rxBuf 0 = expFrameStatus) :
    (getFrameSize (s.rxBuf 0) s.rxBuf s.rxLen).toNat = 3 := by
  have other : s.rxBuf 0 ≠ expFrameHeartbeat := by
    rw [front]
    decide
  unfold getFrameSize
  rw [if_neg other, if_pos front]
  rfl

/-- The loop that extracts frames. -/
theorem upholds_extractFramesNoted {passes : ℕ} (h : Settling p) :
    Upholds handshaking (extractFramesNoted passes) (fun _ => Settling) p := by
  induction passes generalizing p with
  | zero => exact h
  | succ passes ih =>
      apply Upholds.get_bind
      apply Upholds.ite
      · exact fun _ => h
      · intro _
        apply Upholds.ite
        · exact fun _ => h
        · intro _
          apply Upholds.ite
          · intro _
            have skipped := h.receipt (steady_skipByte p.1) (.skipped (p.1.rxBuf 0)) rfl
            exact upholds_noted (ih skipped)
          · intro _
            apply Upholds.ite
            · intro _
              apply upholds_noted
              apply (upholds_processFrame h getFrameSize_heartbeat getFrameSize_status).bind
              intro _ q settling
              have removed := settling.steady
                (steady_removeFrame (getFrameSize (p.1.rxBuf 0) p.1.rxBuf p.1.rxLen).toNat q.1)
              exact upholds_plain_modify (ih removed)
            · exact fun _ => h

theorem upholds_takeBytesNoted {buf : List UInt8} (h : Settling p) :
    Upholds handshaking (takeBytesNoted buf) (fun _ => Settling) p := by
  apply Upholds.ite
  · exact fun _ => h
  · intro _
    have taken := h.receipt (steady_appendBytes buf p.1) (.read buf) rfl
    exact upholds_noted (upholds_extractFramesNoted taken)

theorem upholds_watchdogNoted (h : Settling p) :
    Upholds handshaking watchdogNoted (fun _ => Settling) p := by
  apply Upholds.modify
  by_cases expires : Expires p.1
  · rw [if_pos expires, watchdog_of_expires expires]
    have expired := @Settling.receipt p p.1 h ⟨rfl, rfl⟩ .expired rfl
    exact ⟨expired.handshake.error rfl rfl, nofun⟩
  · rw [if_neg expires, watchdog_of_not_expires expires]
    exact h

/-- **The receive task.** -/
theorem upholds_handshaking (passes : ℕ) (h : Settling p) :
    Upholds handshaking (uartRxTaskNoted passes) (fun _ => Settling) p := by
  have read : ∀ q, Settling q → Upholds handshaking (perform .readBytes).plainly (fun _ => Settling) q :=
    fun q now => upholds_keepsState (keepsState_perform (by simp [Switches])) now
  have pass : ∀ q, Settling q → Upholds handshaking uartRxPassNoted (fun _ => Settling) q := by
    intro q now
    apply (read q now).bind
    intro (buf : List UInt8) q now
    apply (upholds_takeBytesNoted now).bind
    intro _ q now
    apply (upholds_watchdogNoted now).bind
    exact fun _ q now => upholds_keepsState keepsState_sendDueHeartbeat now
  induction passes generalizing p with
  | zero => exact h
  | succ passes ih => exact (pass p h).bind fun _ _ now => ih now

end Receiving

end Bridge

end FlipperMcp
