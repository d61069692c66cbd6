import FlipperMcp.Rpc.Conversation

/-! # What an RPC method can touch

Whatever the transport answers, a method awaits only reads, waits, its own request
frames and the fixed bytes of the negotiation; and it changes only the receive
buffer, the log and its own `ProtobufRPC` object (`RpcCall.within`). In particular
it never connects or disconnects, and never frees the lock it runs under.
-/

namespace FlipperMcp

open Coroutine

namespace Link

section Footprint

variable {allowed : LinkOp → Prop} {changes : Host → Host → Prop} {α : Type}

theorem within_perform (op : LinkOp) (h : allowed op) :
    @Within Host linkSignature Exn _ allowed changes (perform op) :=
  Within.perform h

theorem within_clock (op : LinkOp) (h : allowed op) {read : Except Exn op.Res → α} :
    @Within Host linkSignature Exn _ allowed changes (do
      let answer ← (perform op).attempt
      pure (read answer)) :=
  (within_perform op h).attempt.bind fun _ => .pure _

theorem within_orElse {body fallback : Link α}
    (tried : @Within Host linkSignature Exn _ allowed changes body)
    (handled : @Within Host linkSignature Exn _ allowed changes fallback) :
    @Within Host linkSignature Exn _ allowed changes (orElse body fallback) :=
  tried.tryExcept fun _ => handled

theorem within_ofExcept (result : Except Exn α) :
    @Within Host linkSignature Exn _ allowed changes (Coro.ofExcept result) := by
  cases result with
  | ok value => exact .pure value
  | error error => exact .raise error

theorem within_waitFor {body : Link α} {timeout : Time} (start : allowed (.startTimeout timeout))
    (stop : allowed .stopTimeout) (awaited : @Within Host linkSignature Exn _ allowed changes body) :
    @Within Host linkSignature Exn _ allowed changes (waitFor timeout body) :=
  (within_perform _ start).attempt.bind fun _ => awaited.attempt.bind fun _ =>
    (within_perform _ stop).attempt.bind fun _ => within_ofExcept _

end Footprint

end Link

namespace ProtobufRPC

/-- The operations the negotiation awaits. -/
def NegotiationOps : LinkOp → Prop
  | .send .probe data => data = framed probe
  | .send .startSession data => data = interrupt ∨ data = startRpcSession
  | .receive _ | .sleep _ | .monotonic | .deadline _ => True
  | _ => False

/-- The operations an RPC method awaits. -/
def MethodOps : LinkOp → Prop
  | .send .request _ => True
  | .send .probe data => data = framed probe
  | .send .startSession data => data = interrupt ∨ data = startRpcSession
  | .receive _ | .sleep _ | .monotonic | .deadline _ | .startTimeout _ | .stopTimeout => True
  | _ => False

/-- What an RPC method of one object changes. -/
def MethodChanges (self : Handle) (s s' : Host) : Prop :=
  s' = { s with rxBuffer := s'.rxBuffer, rxLog := s'.rxLog, objects := s'.objects } ∧
    ∀ other, other ≠ self → s'.objects other = s.objects other

theorem MethodChanges.refl (self : Handle) (s : Host) : MethodChanges self s s :=
  ⟨rfl, fun _ _ => rfl⟩

theorem MethodChanges.trans {self : Handle} {a b c : Host} (first : MethodChanges self a b)
    (second : MethodChanges self b c) : MethodChanges self a c := by
  refine ⟨?_, fun other different => (second.2 other different).trans (first.2 other different)⟩
  rw [second.1, first.1]

theorem MethodChanges.updateRpc (self : Handle) (update : ProtobufRPC → ProtobufRPC) (s : Host) :
    MethodChanges self s (s.updateRpc self update) :=
  ⟨rfl, fun _ different => Host.updateRpc_objects_of_ne _ _ _ different⟩

/-- What the negotiation changes of the object: not its command id. -/
structure NegotiationChanges (object : Handle) (s s' : Host) : Prop where
  method : MethodChanges object s s'
  commandId : (s'.objects object).commandId = (s.objects object).commandId

theorem NegotiationChanges.refl (self : Handle) (s : Host) : NegotiationChanges self s s :=
  ⟨.refl self s, rfl⟩

theorem NegotiationChanges.trans {self : Handle} {a b c : Host} (first : NegotiationChanges self a b)
    (second : NegotiationChanges self b c) : NegotiationChanges self a c :=
  ⟨first.method.trans second.method, second.commandId.trans first.commandId⟩

theorem NegotiationChanges.updateRpc (self : Handle) (update : ProtobufRPC → ProtobufRPC)
    (kept : ∀ rpc, (update rpc).commandId = rpc.commandId) (s : Host) :
    NegotiationChanges self s (s.updateRpc self update) := by
  refine ⟨.updateRpc self update s, ?_⟩
  rw [Host.updateRpc_objects_self]
  exact kept _

section

variable (pb : Protobuf) (self : Handle)

/-- The footprint of an RPC method. -/
abbrev MethodWithin {α : Type} (c : Link α) : Prop :=
  @Within Host linkSignature Exn α MethodOps (MethodChanges self) c

/-- The footprint of the negotiation. -/
abbrev NegotiationWithin {α : Type} (c : Link α) : Prop :=
  @Within Host linkSignature Exn α NegotiationOps (NegotiationChanges self) c

/-- The footprint of what reads and probes: it leaves the `ProtobufRPC` objects alone. -/
abbrev ReadWithin {α : Type} (c : Link α) : Prop :=
  @Within Host linkSignature Exn α NegotiationOps SameButBuffer c

/-- The footprint of what only reads. -/
abbrev Listens {α : Type} (c : Link α) : Prop :=
  @Within Host linkSignature Exn α LinkOp.IsRead SameButBuffer c

theorem ReadWithin.negotiation {α : Type} {c : Link α} (h : ReadWithin c) :
    NegotiationWithin self c := by
  apply h.mono fun _ => id
  intro s s' same
  exact ⟨⟨by rw [same], fun _ _ => by rw [same]⟩, by rw [same]⟩

theorem NegotiationWithin.method {α : Type} {c : Link α} (h : NegotiationWithin self c) :
    MethodWithin self c := by
  apply h.mono
  · intro op negotiates
    cases op with
    | send origin _ => cases origin <;> first | exact negotiates | exact negotiates.elim
    | _ => first | exact negotiates | exact negotiates.elim
  · exact fun _ _ changes => changes.method

theorem ReadWithin.method {α : Type} {c : Link α} (h : ReadWithin c) : MethodWithin self c :=
  (h.negotiation self).method self

theorem ReadWithin.modify {update : Host → Host} (kept : ∀ s, SameButBuffer s (update s)) :
    ReadWithin (Coro.modify update) :=
  Within.modify kept

theorem Listens.modify {update : Host → Host} (kept : ∀ s, SameButBuffer s (update s)) :
    Listens (Coro.modify update) :=
  Within.modify kept

theorem Listens.reads {α : Type} {c : Link α} (h : Listens c) : ReadWithin c := by
  apply h.mono
  · intro op read
    cases op <;> trivial
  · exact fun _ _ => id

theorem fillBuffer_listens (n passes : ℕ) : Listens (FlipperTransport.fillBuffer n passes) := by
  induction passes with
  | zero => exact .pure ()
  | succ passes ih =>
      unfold FlipperTransport.fillBuffer
      refine (Within.get (SameButBuffer.refl)).bind fun s => ?_
      split
      · exact .pure ()
      · refine (Link.within_perform (.receive .remaining) trivial).bind fun chunk => ?_
        split
        · exact (Link.within_perform (.sleep 0) trivial).bind fun _ => ih
        · apply Within.bind
          · exact ReadWithin.modify fun _ => rfl
          · exact fun _ => ih

theorem receiveExact_listens (n : ℕ) (timeout : Time) :
    Listens (FlipperTransport.receiveExact n timeout) := by
  unfold FlipperTransport.receiveExact
  split
  · exact .pure _
  · refine (Link.within_clock (.deadline timeout) trivial).bind fun passes => ?_
    refine (fillBuffer_listens n passes).bind fun _ => ?_
    refine (Within.get (SameButBuffer.refl)).bind fun s => ?_
    split
    · exact .pure _
    · apply Within.bind
      · exact ReadWithin.modify fun _ => rfl
      · exact fun _ => .pure _

theorem readVarint_listens (timeout : Time) : Listens (readVarint timeout) := by
  have loop : ∀ tries value shift, Listens (readVarintLoop timeout tries value shift) := by
    intro tries
    induction tries with
    | zero => exact fun value shift => .pure _
    | succ tries ih =>
        intro value shift
        unfold readVarintLoop
        refine (receiveExact_listens 1 timeout).bind fun out => ?_
        cases out with
        | nil => exact .pure _
        | cons byte _ =>
            simp only
            split
            · exact .pure _
            · exact ih _ _
  exact Link.within_orElse (loop 5 0 0) (.pure _)

theorem receiveMainMessage_listens (timeout : Time) :
    Listens (receiveMainMessage pb timeout) := by
  unfold receiveMainMessage
  refine Link.within_orElse ((readVarint_listens timeout).bind fun payloadLen => ?_) (.pure _)
  cases payloadLen with
  | none => exact .pure _
  | some payloadLen =>
      simp only
      split
      · exact .pure _
      · refine (receiveExact_listens payloadLen timeout).bind fun payload => ?_
        split
        · exact .pure _
        · apply Within.bind
          · exact ReadWithin.modify fun _ => rfl
          · intro _
            cases pb.parseFromString payload with
            | none => exact .raise _
            | some msg => exact .pure _

theorem drainHostRx_listens (maxSeconds : Time) : Listens (drainHostRx maxSeconds) := by
  have loop : ∀ passes, Listens (drainHostRxLoop passes) := by
    intro passes
    induction passes with
    | zero => exact .pure ()
    | succ passes ih =>
        unfold drainHostRxLoop
        refine (Link.within_perform (.receive (.seconds (1 / 20))) trivial).bind fun chunk => ?_
        split
        · exact (Link.within_perform (.sleep (1 / 100)) trivial).bind fun _ => ih
        · exact ih
  exact Link.within_orElse
    ((Link.within_clock (.deadline maxSeconds) trivial).bind fun _ => loop _) (.pure ())

theorem clearReceiveBuffer_listens : Listens FlipperTransport.clearReceiveBuffer :=
  Listens.modify fun _ => rfl

theorem probeRpc_within (timeout : Time) : ReadWithin (probeRpc pb timeout) := by
  refine Link.within_orElse ?_ ((drainHostRx_listens (1 / 2)).reads.bind fun _ => .pure _)
  refine clearReceiveBuffer_listens.reads.bind fun _ => ?_
  refine (drainHostRx_listens (1 / 5)).reads.bind fun _ => ?_
  have own : NegotiationOps (.send .probe (framed probe)) := rfl
  refine (Link.within_perform _ own).bind fun _ => ?_
  exact (receiveMainMessage_listens pb timeout).reads.bind fun _ => .pure _

theorem startSessionAttempt_within : ReadWithin (startSessionAttempt pb) := by
  have typed : ReadWithin (Link.orElse (do
      Link.send .startSession interrupt
      Link.send .startSession startRpcSession) (pure ())) :=
    Link.within_orElse
      ((Link.within_perform (.send .startSession interrupt) (.inl rfl)).bind fun _ =>
        Link.within_perform (.send .startSession startRpcSession) (.inr rfl)) (.pure ())
  refine typed.bind fun _ => (drainHostRx_listens (2 / 5)).reads.bind fun _ => ?_
  refine clearReceiveBuffer_listens.reads.bind fun _ => ?_
  refine (Link.within_perform (.sleep (1 / 5)) trivial).bind fun _ => ?_
  exact probeRpc_within pb (6 / 5)

theorem startSessionAttempts_within (attempts : ℕ) :
    ReadWithin (startSessionAttempts pb attempts) := by
  induction attempts with
  | zero => exact .pure _
  | succ attempts ih =>
      refine (startSessionAttempt_within pb).bind fun ok => ?_
      split
      · exact .pure _
      · exact ih

theorem setSessionStarted_within (started : Bool) :
    NegotiationWithin self (setSessionStarted self started) :=
  Within.modify fun s => .updateRpc self _ (by exact fun _ => rfl) s

theorem negotiate_within : NegotiationWithin self (negotiate pb self) := by
  have started : NegotiationWithin self (startSession pb self) := by
    refine ((startSessionAttempts_within pb 3).negotiation self).bind fun ok => ?_
    refine (setSessionStarted_within self ok).bind fun _ => ?_
    split
    · exact .pure ()
    · exact (Link.within_clock .monotonic trivial).bind fun now =>
        Within.modify fun s => .updateRpc self _ (by exact fun _ => rfl) s
  refine (clearReceiveBuffer_listens.reads.negotiation self).bind fun _ => ?_
  refine (Link.within_perform (.sleep (3 / 10)) trivial).bind fun _ => ?_
  refine (Within.get (NegotiationChanges.refl self)).bind fun s => ?_
  have decided : ∀ probed : Bool, NegotiationWithin self
      (if probed then setSessionStarted self true else startSession pb self) := by
    intro probed
    split
    · exact setSessionStarted_within self true
    · exact started
  split
  · exact setSessionStarted_within self true
  · split
    · exact (Within.pure false).bind decided
    · exact ((probeRpc_within pb (2 / 5)).negotiation self).bind decided

theorem ensureRpcSessionStarted_within : NegotiationWithin self (ensureRpcSessionStarted pb self) := by
  have cooled : NegotiationWithin self (coolingDown self) := by
    refine (Within.get (NegotiationChanges.refl self)).bind fun s => ?_
    split
    · exact .pure _
    · exact (Link.within_clock .monotonic trivial).bind fun _ => .pure _
  refine (Within.get (NegotiationChanges.refl self)).bind fun s => ?_
  split
  · exact .pure ()
  · refine cooled.bind fun cooling => ?_
    split
    · exact .pure ()
    · exact negotiate_within pb self

theorem getNextCommandId_within : MethodWithin self (getNextCommandId self) :=
  (Within.modify fun s => .updateRpc self _ s).bind fun _ =>
    (Within.get (MethodChanges.refl self)).bind fun _ => .pure _

end

/-- A conversation keeps to the footprint of a method. -/
theorem Conversation.within {pb : Protobuf} {self : Handle} {α : Type} {before : Bool}
    {after : α → Bool} {c : Link α} (described : Conversation pb self before c after) :
    MethodWithin self c := by
  induction described with
  | ret _ => exact .pure _
  | raise => exact .raise _
  | commandId => exact getNextCommandId_within self
  | ensure => exact (ensureRpcSessionStarted_within pb self).method
  | request msg => exact Link.within_perform (.send .request (framed msg)) trivial
  | receive timeout => exact (receiveMainMessage_listens pb timeout).reads.method self
  | sleep seconds => exact Link.within_perform (.sleep seconds) trivial
  | bind _ _ first rest => exact first.bind rest
  | orElse _ _ tried handled => exact Link.within_orElse tried handled
  | waitFor timeout _ awaited => exact Link.within_waitFor trivial trivial awaited
  | weaken _ _ _ described => exact described

/-- What reads leaves every property of the host that does not look at the buffer and the
log. -/
theorem ReadWithin.keeps {α σ : Type} {c : Link α} (h : ReadWithin c) (E : LinkEnv σ) (s : Host)
    (w : σ) : wp E (fun _ => True) c (fun _ s' _ => SameButBuffer s s') s w :=
  ⟨fun _ _ => trivial, h.host SameButBuffer.refl SameButBuffer.trans E s w⟩

/-- **What a conversation keeps.** A property of the host that survives counting up the
command id, reading, and bringing the session up survives the conversation. -/
theorem Conversation.keeps {pb : Protobuf} {self : Handle} {σ : Type} {E : LinkEnv σ}
    {kept : Host → Prop}
    (counted : ∀ s, kept s → kept (s.updateRpc self fun rpc =>
      { rpc with commandId := (rpc.commandId + 1) % 0xFFFFFFFF }))
    (read : ∀ s s', SameButBuffer s s' → kept s → kept s')
    (ensured : ∀ s w, kept s →
      wp E (fun _ => True) (ensureRpcSessionStarted pb self) (fun _ s' _ => kept s') s w)
    {α : Type} {before : Bool} {after : α → Bool} {c : Link α}
    (described : Conversation pb self before c after) {s : Host} {w : σ} (holds : kept s) :
    wp E (fun _ => True) c (fun _ s' _ => kept s') s w := by
  induction described generalizing s w with
  | ret _ => exact wp_ret.mpr holds
  | raise => exact wp_raise.mpr holds
  | commandId =>
      unfold getNextCommandId
      rw [wp_bind, wp_modify, wp_bind, wp_get]
      exact wp_ret.mpr (counted s holds)
  | ensure => exact ensured s w holds
  | request msg => exact Link.wp_send.mpr ⟨trivial, holds⟩
  | receive timeout =>
      apply ((receiveMainMessage_listens pb timeout).reads.keeps E s w).mono
      exact fun _ s' _ same => read s s' same holds
  | sleep seconds => exact Link.wp_sleep.mpr ⟨trivial, holds⟩
  | bind _ _ first rest =>
      apply (first holds).bind
      · exact fun value s' w' holds' => rest value holds'
      · exact fun _ _ _ holds' => holds'
  | orElse _ _ tried handled =>
      apply Link.wp_orElse_of _ (tried holds)
      · exact fun _ _ _ holds' => holds'
      · exact fun _ _ _ holds' _ => handled holds'
      · exact fun _ _ _ holds' _ => holds'
  | waitFor timeout _ awaited =>
      apply Link.wp_waitFor.mpr
      exact ⟨trivial, (awaited holds).mono fun _ _ _ holds' => ⟨trivial, holds'⟩⟩
  | weaken _ _ _ described => exact described holds

end ProtobufRPC

/-- **The footprint of every method.** -/
theorem RpcCall.within (pb : Protobuf) (self : Handle) (call : RpcCall) :
    ProtobufRPC.MethodWithin self (call.body pb self) :=
  (call.conversation pb self).within

end FlipperMcp
