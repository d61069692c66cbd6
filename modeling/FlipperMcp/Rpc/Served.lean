import FlipperMcp.Client.Mode
import FlipperMcp.Rpc.Dialogue

/-! # A served link

A link serves a device in RPC mode where what is written reaches it, and its answers are there
before the host's deadlines (`Serves`). On such a link a method asks what its dialogue asks,
returns what that returns, and leaves no frame behind (`RpcCall.realises`).
-/

namespace FlipperMcp

open Coroutine ProtobufRPC

/-- A link behind which a device in RPC mode answers. No await is cut off. -/
structure Serves {σ τ : Type} (device : RpcDevice τ) (E : LinkEnv σ) (state : σ → τ)
    (chunks : σ → List Bytes) : Prop where
  arrivals : Arrivals E chunks state
  sends : ∀ msg w, (E (.send .request (framed msg)) w).1 = .ok ()
  serves : ∀ msg w, state (E (.send .request (framed msg)) w).2 = (device.serve (state w) msg).1
  answers : ∀ msg w, arriving chunks (E (.send .request (framed msg)) w).2 =
    arriving chunks w ++ (device.serve (state w) msg).2.flatMap framed
  starts : ∀ seconds w, state (E (.startTimeout seconds) w).2 = state w ∧
    arriving chunks (E (.startTimeout seconds) w).2 = arriving chunks w
  stops : ∀ w, state (E .stopTimeout w).2 = state w ∧
    arriving chunks (E .stopTimeout w).2 = arriving chunks w

/-- Nothing stands in the way of a request: the session is up, or the bridge needs none. -/
def SessionReady (object : Handle) (s : Host) : Prop :=
  (s.objects object).rpcSessionStarted = true ∨
    (s.transport.isWifiTransport = true ∧ (s.objects object).lastNegotiationFailure = none)

/-- The host is where the talk is, with some frames still to be read. -/
structure InSync {σ τ : Type} (state : σ → τ) (chunks : σ → List Bytes) (object : Handle)
    (pending : List Main) (talk : Talk τ) (s : Host) (w : σ) : Prop where
  ready : SessionReady object s
  commandId : (s.objects object).commandId = talk.commandId
  device : state w = talk.device
  unread : unread chunks s w = pending.flatMap framed

/-- It ends as a dialogue does, with no frame left. -/
def Realises {σ τ α : Type} (E : LinkEnv σ) (state : σ → τ) (chunks : σ → List Bytes)
    (object : Handle) (c : Link α) (dialogue : Dialogue τ α) : Prop :=
  ∀ ⦃talk s w⦄, InSync state chunks object [] talk s w →
    wp E (fun _ => True) c (fun result s' w' => result = (dialogue talk).1 ∧
      InSync state chunks object [] (dialogue talk).2 s' w') s w

theorem Exn.error_ne_ok {α : Type} {error : Exn} {value : α} :
    (.error error : Except Exn α) ≠ .ok value := by
  intro same
  cases same

namespace Dialogue

variable {τ α β : Type}

/-- Nothing is raised. -/
def Returns (dialogue : Dialogue τ α) : Prop := ∀ talk, ∃ value, (dialogue talk).1 = .ok value

theorem andThen_ok {first : Dialogue τ α} {rest : α → Dialogue τ β} {talk : Talk τ} {value : α}
    (returned : (first talk).1 = .ok value) : first.andThen rest talk = rest value (first talk).2 := by
  rw [andThen, returned]

theorem andThen_error {first : Dialogue τ α} {rest : α → Dialogue τ β} {talk : Talk τ} {error : Exn}
    (raised : (first talk).1 = .error error) :
    first.andThen rest talk = (.error error, (first talk).2) := by
  rw [andThen, raised]

theorem orReturn_ok {failure : α} {tried : Dialogue τ α} {talk : Talk τ} {value : α}
    (returned : (tried talk).1 = .ok value) : orReturn failure tried talk = tried talk := by
  rw [orReturn, returned]
  exact Prod.ext returned.symm rfl

theorem orReturn_error {failure : α} {tried : Dialogue τ α} {talk : Talk τ} {error : Exn}
    (raised : (tried talk).1 = .error error) : orReturn failure tried talk =
      (if error.isException then .ok failure else .error error, (tried talk).2) := by
  rw [orReturn, raised]

theorem Returns.orReturn {failure : α} {tried : Dialogue τ α} (returns : tried.Returns) :
    Dialogue.orReturn failure tried = tried := by
  funext talk
  obtain ⟨value, returned⟩ := returns talk
  exact orReturn_ok returned

theorem returns_unary {device : RpcDevice τ} {content : Content} {read : Option Main → α} :
    (unary device content read).Returns :=
  fun _ => ⟨_, rfl⟩

end Dialogue

section Steps

variable {σ τ : Type} {pb : Protobuf} {device : RpcDevice τ} {E : LinkEnv σ} {state : σ → τ}
  {chunks : σ → List Bytes} {object : Handle} {pending : List Main} {talk : Talk τ} {s : Host}
  {w : σ}

theorem InSync.moves {w' : σ} (sync : InSync state chunks object pending talk s w)
    (same : state w' = state w) (arrives : arriving chunks w' = arriving chunks w) :
    InSync state chunks object pending talk s w' := by
  refine ⟨sync.ready, sync.commandId, same.trans sync.device, ?_⟩
  unfold FlipperMcp.unread
  rw [arrives]
  exact sync.unread

theorem quiet_true : Quiet fun _ : LinkEvent σ => True := fun _ _ => trivial

namespace Serves

variable (served : Serves device E state chunks)
include served

/-- **The next frame is read.** -/
theorem wp_receive {frame : Main} (readable : frame.Readable) (timeout : Time)
    (sync : InSync state chunks object (frame :: pending) talk s w) :
    wp E (fun _ => True) (receiveMainMessage pb timeout) (fun result s' w' =>
      result = .ok (some frame) ∧ InSync state chunks object pending talk s' w') s w := by
  have stream := sync.unread
  rw [List.flatMap_cons] at stream
  apply (wp_receiveMainMessage_frame pb served.arrivals quiet_true timeout readable.2 stream).mono
  rintro result s' w' ⟨same, kept, returned, rest⟩
  rw [messageIn_of_ne_nil pb readable.1, pb.parse_serialize] at returned
  refine ⟨returned, ?_, ?_, kept.trans sync.device, rest⟩
  · unfold SessionReady
    rw [same]
    exact sync.ready
  · rw [same]
    exact sync.commandId

/-- **A message is sent**, and its answers are to be read. -/
theorem wp_request (msg : Main) (sync : InSync state chunks object pending talk s w) :
    wp E (fun _ => True) (sendRequest msg) (fun result s' w' => result = .ok () ∧
      InSync state chunks object (pending ++ (device.serve talk.device msg).2)
        { talk with device := (device.serve talk.device msg).1 } s' w') s w := by
  refine Link.wp_send.mpr ⟨trivial, served.sends msg w, sync.ready, sync.commandId, ?_, ?_⟩
  · rw [served.serves, sync.device]
  · have before : s.rxBuffer ++ arriving chunks w = pending.flatMap framed := sync.unread
    rw [FlipperMcp.unread, served.answers, ← List.append_assoc, before, sync.device,
      List.flatMap_append]

omit served in
theorem wp_commandId (sync : InSync state chunks object pending talk s w) :
    wp E (fun _ => True) (getNextCommandId object) (fun result s' w' =>
      result = (Dialogue.commandId talk).1 ∧
        InSync state chunks object pending (Dialogue.commandId talk).2 s' w') s w := by
  unfold getNextCommandId
  rw [wp_bind, wp_modify]
  refine wp_bind.mpr (wp_get.mpr (wp_ret.mpr ⟨?_, ?_, ?_, sync.device, sync.unread⟩))
  · rw [Host.updateRpc_objects_self, sync.commandId]
    rfl
  · unfold SessionReady
    rw [Host.updateRpc_objects_self]
    exact sync.ready
  · rw [Host.updateRpc_objects_self, sync.commandId]
    rfl

theorem wp_sleep (seconds : Time) (sync : InSync state chunks object pending talk s w) :
    wp E (fun _ => True) (Link.sleep seconds) (fun result s' w' => result = .ok () ∧
      InSync state chunks object pending talk s' w') s w := by
  refine Link.wp_sleep.mpr ⟨trivial, served.arrivals.sleep seconds w, sync.moves ?_ ?_⟩
  · exact served.arrivals.rest (.sleep seconds) w trivial
  · exact congrArg List.flatten (served.arrivals.slept seconds w)

/-- **The session is ensured.** The bridge has no negotiation. -/
theorem wp_ensure (sync : InSync state chunks object [] talk s w) :
    wp E (fun _ => True) (ensureRpcSessionStarted pb object) (fun result s' w' => result = .ok () ∧
      InSync state chunks object [] talk s' w') s w := by
  by_cases up : (s.objects object).rpcSessionStarted = true
  · exact (wp_ensure_up up).mpr ⟨rfl, sync⟩
  · obtain ⟨bridge, warm⟩ := sync.ready.resolve_left up
    have empty : arriving chunks w = [] := (List.append_eq_nil_iff.mp sync.unread).2
    unfold ensureRpcSessionStarted coolingDown negotiate FlipperTransport.clearReceiveBuffer setSessionStarted
    rw [wp_bind, wp_get]
    simp only [up, Bool.false_eq_true, ↓reduceIte]
    rw [wp_bind, wp_bind, wp_get]
    simp only [warm]
    rw [Coro.pure_eq, wp_ret]
    simp only [Bool.false_eq_true, ↓reduceIte]
    rw [wp_bind, wp_modify, wp_bind]
    refine Link.wp_sleep.mpr ⟨trivial, ?_⟩
    rw [served.arrivals.sleep]
    simp only
    rw [wp_bind, wp_get]
    simp only [bridge, ↓reduceIte]
    refine wp_modify.mpr ⟨rfl, .inl ?_, ?_, ?_, ?_⟩
    · rw [Host.updateRpc_objects_self]
    · rw [Host.updateRpc_objects_self]
      exact sync.commandId
    · exact (served.arrivals.rest (.sleep _) w trivial).trans sync.device
    · rw [FlipperMcp.unread, arriving, served.arrivals.slept]
      exact empty

end Serves

end Steps

section Orderly

variable {τ : Type} {device : RpcDevice τ} {short : String → Prop} {state : τ} {msg : Main}

/-- The frames of a stream the host takes in: all of them are readable, and they are not too many. -/
structure Streamed (first : Main) (rest : List Main) : Prop where
  stream : IsStream (first :: rest)
  few : rest.length ≤ 100
  readable : ∀ frame ∈ first :: rest, frame.Readable

theorem RpcDevice.Orderly.one (orderly : device.Orderly short) (within : msg.content.Within short)
    (one : msg.replies = .one) :
    ∃ frame, (device.serve state msg).2 = [frame] ∧ frame.Readable := by
  have met := orderly.met state msg within
  rw [one] at met
  obtain ⟨frame, only⟩ := met
  exact ⟨frame, only, orderly.readable state msg within frame (only ▸ List.mem_singleton_self frame)⟩

theorem RpcDevice.Orderly.stream (orderly : device.Orderly short) (within : msg.content.Within short)
    (stream : msg.replies = .stream) :
    ∃ first rest, (device.serve state msg).2 = first :: rest ∧ Streamed first rest := by
  have met := orderly.met state msg within
  have readable := orderly.readable state msg within
  rw [stream] at met
  obtain ⟨frames, few⟩ := met
  cases sent : (device.serve state msg).2 with
  | nil =>
      rw [sent] at frames
      cases frames
  | cons first rest =>
      rw [sent] at frames few readable
      exact ⟨first, rest, rfl, frames, Nat.le_of_succ_le_succ few, readable⟩

theorem RpcDevice.Orderly.silence (orderly : device.Orderly short) (within : msg.content.Within short)
    (silence : msg.replies = .silence) :
    (device.serve state msg).2 = [] := by
  have met := orderly.met state msg within
  rw [silence] at met
  exact met

theorem IsStream.not_hasNext {frame : Main} (stream : IsStream [frame]) : frame.hasNext = false := by
  cases stream with
  | last ends => exact ends
  | more _ _ rest => cases rest

theorem IsStream.announces {frame next : Main} {frames : List Main}
    (stream : IsStream (frame :: next :: frames)) : frame.hasNext = true ∧ IsStream (next :: frames) := by
  cases stream with
  | more announces _ rest => exact ⟨announces, rest⟩

/-- What does not say OK is the last. -/
theorem IsStream.stops {frame : Main} {frames : List Main} (stream : IsStream (frame :: frames))
    (bad : frame.commandStatus ≠ CommandStatus.ok) : frames = [] := by
  cases stream with
  | last _ => rfl
  | more _ ok _ => exact absurd ok bad

end Orderly

section Methods

variable {σ τ : Type} {pb : Protobuf} {device : RpcDevice τ} {E : LinkEnv σ} {state : σ → τ}
  {chunks : σ → List Bytes} {object : Handle} {talk : Talk τ} {s : Host} {w : σ} {α β : Type}

theorem Realises.pure (value : α) :
    Realises E state chunks object (Pure.pure value : Link α) (.result (.ok value)) :=
  fun _ _ _ sync => wp_ret.mpr ⟨rfl, sync⟩

theorem Realises.ofExcept (result : Except Exn α) :
    Realises E state chunks object (Coro.ofExcept result) (.result result) :=
  fun _ _ _ sync => Link.wp_ofExcept.mpr ⟨rfl, sync⟩

theorem Realises.bind {c : Link α} {k : α → Link β} {d : Dialogue τ α} {l : α → Dialogue τ β}
    (first : Realises E state chunks object c d) (rest : ∀ value, Realises E state chunks object (k value) (l value)) :
    Realises E state chunks object (c >>= k) (d.andThen l) := by
  intro talk s w sync
  apply (first sync).bind
  · rintro value s' w' ⟨returned, sync'⟩
    rw [Dialogue.andThen_ok returned.symm]
    exact rest value sync'
  · rintro error s' w' ⟨raised, sync'⟩
    rw [Dialogue.andThen_error raised.symm]
    exact ⟨rfl, sync'⟩

theorem Realises.reading {c : Link α} {d : Dialogue τ α} {read : α → β}
    (first : Realises E state chunks object c d) :
    Realises E state chunks object (c >>= fun value => Pure.pure (read value))
      (d.reading fun value => .ok (read value)) := by
  intro talk s w sync
  apply (first sync).bind
  · rintro value s' w' ⟨returned, sync'⟩
    refine wp_ret.mpr ⟨?_, sync'⟩
    rw [Dialogue.reading, ← returned]
    rfl
  · rintro error s' w' ⟨raised, sync'⟩
    refine ⟨?_, sync'⟩
    rw [Dialogue.reading, ← raised]
    rfl

theorem Realises.guarded {failure : α} {c : Link α} {d : Dialogue τ α}
    (tried : Realises E state chunks object c d) :
    Realises E state chunks object (ProtobufRPC.guarded failure c) (.orReturn failure d) := by
  intro talk s w sync
  apply Link.wp_orElse_of _ (tried sync)
  · rintro value s' w' ⟨returned, sync'⟩
    rw [Dialogue.orReturn_ok returned.symm]
    exact ⟨returned, sync'⟩
  · rintro error s' w' ⟨raised, sync'⟩ exception
    rw [Dialogue.orReturn_error raised.symm, if_pos exception]
    exact wp_ret.mpr ⟨rfl, sync'⟩
  · rintro error s' w' ⟨raised, sync'⟩ uncaught
    rw [Dialogue.orReturn_error raised.symm, uncaught, if_neg Bool.false_ne_true]
    exact ⟨rfl, sync'⟩

/-- A handler does nothing where nothing is raised. -/
theorem Realises.returning {failure : α} {c : Link α} {d : Dialogue τ α}
    (tried : Realises E state chunks object c d) (returns : d.Returns) :
    Realises E state chunks object (ProtobufRPC.guarded failure c) d := by
  have guarded : Realises E state chunks object (ProtobufRPC.guarded failure c) (.orReturn failure d) :=
    tried.guarded
  rw [returns.orReturn] at guarded
  exact guarded

variable (served : Serves device E state chunks)
include served

theorem Realises.waitFor {timeout : Time} {c : Link α} {d : Dialogue τ α}
    (awaited : Realises E state chunks object c d) (returns : d.Returns) :
    Realises E state chunks object (Link.waitFor timeout c) d := by
  intro talk s w sync
  obtain ⟨device, arrives⟩ := served.starts timeout w
  refine Link.wp_waitFor.mpr ⟨trivial, (awaited (sync.moves device arrives)).mono ?_⟩
  rintro result s' w' ⟨returned, sync'⟩
  obtain ⟨value, known⟩ := returns talk
  obtain ⟨device', arrives'⟩ := served.stops w'
  refine ⟨trivial, ?_, sync'.moves device' arrives'⟩
  rw [returned, known]
  rfl

theorem Realises.timed {timeout : Time} {failure : α} {c : Link α} {d : Dialogue τ α}
    (awaited : Realises E state chunks object c d) (returns : d.Returns) :
    Realises E state chunks object (ProtobufRPC.timed timeout failure c) d :=
  ((awaited.returning returns).waitFor served returns).returning returns

theorem Realises.sleep (seconds : Time) :
    Realises E state chunks object (Link.sleep seconds) (.result (.ok ())) :=
  fun _ _ _ sync => served.wp_sleep seconds sync

omit served in
theorem Realises.commandId : Realises E state chunks object (getNextCommandId object) .commandId :=
  fun _ _ _ sync => Serves.wp_commandId sync

/-- **A request, and its first frame.** The others are still to be read. -/
theorem Serves.wp_sendRpcMessage {msg first : Main} {rest : List Main} (timeout : Time)
    (sync : InSync state chunks object [] talk s w)
    (frames : (device.serve talk.device msg).2 = first :: rest) (readable : first.Readable) :
    wp E (fun _ => True) (sendRpcMessage pb object msg timeout) (fun result s' w' =>
      result = .ok (some first) ∧ InSync state chunks object rest (Dialogue.tell device msg talk).2 s' w')
      s w := by
  have tried : wp E (fun _ => True) (do
      ensureRpcSessionStarted pb object
      sendRequest msg
      receiveMainMessage pb timeout) (fun result s' w' => result = .ok (some first) ∧
        InSync state chunks object rest (Dialogue.tell device msg talk).2 s' w') s w := by
    apply (served.wp_ensure sync).bind
    · rintro _ s₁ w₁ ⟨-, sync₁⟩
      apply (served.wp_request msg sync₁).bind
      · rintro _ s₂ w₂ ⟨-, sync₂⟩
        rw [List.nil_append, frames] at sync₂
        exact served.wp_receive readable timeout sync₂
      · exact fun _ _ _ sent => absurd sent.1 Exn.error_ne_ok
    · exact fun _ _ _ ensured => absurd ensured.1 Exn.error_ne_ok
  apply Link.wp_orElse_of _ tried
  · exact fun _ _ _ reached => reached
  · exact fun _ _ _ reached => absurd reached.1 Exn.error_ne_ok
  · exact fun _ _ _ reached => absurd reached.1 Exn.error_ne_ok

theorem Serves.wp_exchange {content : Content} {first : Main} {rest : List Main} (timeout : Time)
    (sync : InSync state chunks object [] talk s w)
    (frames : (Dialogue.ask device content talk).1 = .ok (first :: rest)) (readable : first.Readable) :
    wp E (fun _ => True) (exchange pb object content timeout) (fun result s' w' =>
      result = .ok (some first) ∧
        InSync state chunks object rest (Dialogue.ask device content talk).2 s' w') s w := by
  apply (Serves.wp_commandId sync).bind
  · rintro commandId s₁ w₁ ⟨returned, sync₁⟩
    obtain rfl := Except.ok.inj returned
    exact served.wp_sendRpcMessage timeout sync₁ (Except.ok.inj frames) readable
  · exact fun _ _ _ numbered => absurd numbered.1 Exn.error_ne_ok

theorem Realises.ensure_bind {k : Unit → Link α} {d : Dialogue τ α}
    (rest : Realises E state chunks object (k ()) d) :
    Realises E state chunks object (ensureRpcSessionStarted pb object >>= k) d := by
  intro talk s w sync
  apply (served.wp_ensure sync).bind
  · exact fun _ _ _ ensured => rest ensured.2
  · exact fun _ _ _ ensured => absurd ensured.1 Exn.error_ne_ok

variable {short : String → Prop} (orderly : device.Orderly short)
include orderly

theorem realises_sendRpcMessage {msg : Main} (within : msg.content.Within short) (one : msg.replies = .one)
    (timeout : Time) :
    Realises E state chunks object (sendRpcMessage pb object msg timeout)
      ((Dialogue.tell device msg).reading fun frames => .ok frames.head?) := by
  intro talk s w sync
  obtain ⟨frame, only, readable⟩ := @RpcDevice.Orderly.one τ device short talk.device msg orderly within one
  apply (served.wp_sendRpcMessage timeout sync only readable).mono
  rintro result s' w' ⟨returned, sync'⟩
  refine ⟨returned.trans ?_, sync'⟩
  rw [Dialogue.reading, Dialogue.tell, only]
  rfl

theorem realises_exchange {content : Content} (within : content.Within short)
    (one : ∀ commandId, ({ commandId := commandId, content := content } : Main).replies = .one)
    (timeout : Time) : Realises E state chunks object (exchange pb object content timeout)
      (Dialogue.unary device content id) := by
  have asked : Dialogue.unary device content id = Dialogue.commandId.andThen fun commandId =>
      (Dialogue.tell device { commandId := commandId, content := content }).reading fun frames =>
        .ok frames.head? := rfl
  rw [asked]
  exact Realises.commandId.bind fun commandId =>
    realises_sendRpcMessage served orderly (by exact within) (one commandId) timeout

theorem realises_unary {content : Content} {read : Option Main → α}
    (within : content.Within short)
    (one : ∀ commandId, ({ commandId := commandId, content := content } : Main).replies = .one)
    (timeout : Time) : Realises E state chunks object (unary pb object content read timeout)
      (Dialogue.unary device content read) :=
  (realises_exchange served orderly within one timeout).reading

end Methods

end FlipperMcp
