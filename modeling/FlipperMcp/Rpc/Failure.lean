import FlipperMcp.Rpc.Methods

/-! # Reporting a failure

How each method reports that it failed: by a value of its own or by raising. A run
that writes no own request can only report a failure (`RpcCall.reports_of_unsent`),
so a method never makes a success up.
-/

namespace FlipperMcp

open Coroutine

namespace RpcCall

/-- The value by which a method reports a failure, where it does not raise. -/
def failure : (call : RpcCall) → Option call.Result
  | ping _ => some (none : Option Bytes)
  | appLockStatus | desktopIsLocked => some (none : Option Bool)
  | appGetError => some (none : Option (UInt32 × String))
  | gpioRead _ => some (none : Option GpioReading)
  | systemProtobufVersion => some (none : Option (UInt32 × UInt32))
  | systemUpdate _ | systemRebootUpdate | storageList _ _ _ | storageListDetailed _ _ _ => none
  | systemDatetime => some (none : Option DateTime)
  | systemPowerInfo => some (none : Option Dict)
  | getDeviceInfo => some (∅ : Dict)
  | getProperty _ | storageMd5sum _ => some (none : Option String)
  | storageRead _ => some ([] : Bytes)
  | storageInfo _ => some (none : Option (UInt64 × UInt64))
  | storageStat _ => some (none : Option StorageEntry)
  | storageTimestamp _ => some (none : Option UInt32)
  | appStart _ _ | storageMkdir _ | storageDelete _ _ | storageRename _ _ | storageWrite _ _ =>
      some false

/-- The call reports a failure. -/
def Reports (call : RpcCall) (result : Except Exn call.Result) : Prop :=
  ∀ value, result = .ok value → call.failure = some value

end RpcCall

namespace ProtobufRPC

/-- A run that writes no own request ends so. -/
structure Unsent {α : Type} (c : Link α) (post : Except Exn α → Prop) : Prop where
  ends : ∀ {σ : Type} (E : LinkEnv σ) (s : Host) (w : σ),
    assuming E (fun event => ¬ LinkOp.IsRequest event.op) c (fun result _ _ => post result) s w

/-- A value is returned only if it is this one. -/
def OnlyValue {α : Type} (value : α) (result : Except Exn α) : Prop :=
  ∀ returned, result = .ok returned → returned = value

/-- No message is returned. -/
def NoMessage (result : Except Exn (Option Main)) : Prop := OnlyValue none result

section

variable {α β : Type}

theorem Unsent.pure {post : Except Exn α → Prop} {value : α} (h : post (.ok value)) :
    Unsent (Pure.pure value : Link α) post :=
  ⟨fun _ _ _ => assuming_ret h⟩

theorem Unsent.onlyValue_pure (value : α) : Unsent (Pure.pure value : Link α) (OnlyValue value) :=
  .pure fun _ returned => (Except.ok.inj returned).symm

theorem Unsent.raise {post : Except Exn α → Prop} {error : Exn} (h : post (.error error)) :
    Unsent (.raise error : Link α) post :=
  ⟨fun _ _ _ => assuming_raise h⟩

theorem Unsent.anything (c : Link α) : Unsent c fun _ => True :=
  ⟨fun _ _ _ _ => trivial⟩

theorem Unsent.mono {c : Link α} {post weaker : Except Exn α → Prop} (h : Unsent c post)
    (weaken : ∀ result, post result → weaker result) : Unsent c weaker :=
  ⟨fun E s w => (h.ends E s w).mono fun result _ _ => weaken result⟩

theorem Unsent.bind {c : Link α} {k : α → Link β} {mid : Except Exn α → Prop}
    {post : Except Exn β → Prop} (first : Unsent c mid)
    (value : ∀ a, mid (.ok a) → Unsent (k a) post)
    (error : ∀ e, mid (.error e) → post (.error e)) : Unsent (c >>= k) post :=
  ⟨fun E s w => (first.ends E s w).bind (fun a s w reached => (value a reached).ends E s w)
    fun e _ _ reached => error e reached⟩

/-- A sequence that goes on to a value whatever its first part returns. -/
theorem Unsent.then {c : Link α} {k : α → Link β} {value : β}
    (rest : ∀ a, Unsent (k a) (OnlyValue value)) : Unsent (c >>= k) (OnlyValue value) :=
  (Unsent.anything c).bind (fun a _ => rest a) fun _ _ => nofun

theorem sendRequest_unsent (msg : Main) :
    Unsent (sendRequest msg) fun result => ∀ a, result ≠ .ok a := by
  refine ⟨fun E s w met => ?_⟩
  have written := met ⟨s, w, .send .request (framed msg), (E (.send .request (framed msg)) w).1⟩
  refine absurd trivial (written ?_)
  rw [sendRequest, Link.run_send]
  exact List.mem_cons_self ..

theorem Unsent.orElse {body fallback : Link α} {post : Except Exn α → Prop}
    (tried : Unsent body post) (handled : Unsent fallback post) :
    Unsent (Link.orElse body fallback) post :=
  ⟨fun E s w => Link.assuming_orElse (tried.ends E s w) (fun _ _ _ reached => reached)
    (fun _ s w _ _ => handled.ends E s w) fun _ _ _ reached _ => reached⟩

theorem Unsent.guarded {failure : α} {body : Link α} (tried : Unsent body (OnlyValue failure)) :
    Unsent (guarded failure body) (OnlyValue failure) :=
  .orElse tried (.onlyValue_pure failure)

theorem Unsent.waitFor {timeout : Time} {value : α} {body : Link α}
    (awaited : Unsent body (OnlyValue value)) :
    Unsent (Link.waitFor timeout body) (OnlyValue value) := by
  refine ⟨fun E s w => Link.assuming_waitFor (awaited.ends E s _) ?_⟩
  intro result s' w' only returned same
  refine only returned ?_
  cases result with
  | ok value' => exact same
  | error e => cases e <;> cases same

theorem Unsent.timed {timeout : Time} {failure : α} {body : Link α}
    (tried : Unsent body (OnlyValue failure)) :
    Unsent (timed timeout failure body) (OnlyValue failure) :=
  .guarded (.waitFor (.guarded tried))

end

section

variable (pb : Protobuf) (self : Handle)

theorem sendRpcMessage_unsent (msg : Main) (timeout : Time) :
    Unsent (sendRpcMessage pb self msg timeout) NoMessage := by
  refine .orElse (.then fun _ => ?_) (.onlyValue_pure none)
  exact (sendRequest_unsent msg).bind (fun a never => absurd rfl (never a)) fun e _ => nofun

theorem exchange_unsent (content : Content) (timeout : Time) :
    Unsent (exchange pb self content timeout) NoMessage :=
  .then fun _ => sendRpcMessage_unsent pb self _ timeout

theorem unary_unsent {α : Type} (content : Content) (read : Option Main → α) (timeout : Time) :
    Unsent (unary pb self content read timeout) (OnlyValue (read none)) := by
  refine (exchange_unsent pb self content timeout).bind ?_ fun e _ => nofun
  intro resp missing
  rw [missing resp rfl]
  exact .onlyValue_pure _

/-- A method that goes on only with a message does not go on. -/
theorem Unsent.unanswered {α : Type} {c : Link (Option Main)} {k : Option Main → Link α}
    {post : Except Exn α → Prop} (asked : Unsent c NoMessage) (missing : Unsent (k none) post)
    (failed : ∀ e, post (.error e)) : Unsent (c >>= k) post := by
  refine asked.bind ?_ fun e _ => failed e
  intro resp none_
  rw [none_ resp rfl]
  exact missing

theorem getDeviceInfoInternal_unsent :
    Unsent (getDeviceInfoInternal pb self) (OnlyValue (∅ : Dict)) := by
  have properties : ∀ keys, Unsent (collectProperties pb self keys ∅) (OnlyValue (∅ : Dict)) := by
    intro keys
    induction keys with
    | nil => exact .onlyValue_pure _
    | cons key keys ih =>
        refine (Unsent.guarded (.guarded (unary_unsent pb self _ _ defaultTimeout))).bind ?_
          fun e _ => nofun
        intro value only
        obtain rfl := only value rfl
        exact ih
  refine Unsent.bind (.guarded ((exchange_unsent pb self _ defaultTimeout).unanswered
    (.onlyValue_pure (∅ : Dict)) fun e => nofun)) ?_ fun e _ => nofun
  intro info only
  obtain rfl := only info rfl
  exact properties propertyKeys

theorem storageListFrames_unsent (path : String) (includeMd5 : Bool) (filterMaxSize : ℤ) :
    Unsent (storageListFrames pb self path includeMd5 filterMaxSize) fun result =>
      ∀ frames, result ≠ .ok frames :=
  (Unsent.anything _).bind (fun _ _ => (Unsent.anything _).bind (fun _ _ =>
    (sendRpcMessage_unsent pb self _ defaultTimeout).unanswered (.raise fun _ => nofun)
      fun _ _ => nofun) fun _ _ _ => nofun) fun _ _ _ => nofun

theorem writeChunks_unsent (commandId : UInt32) (path : String) (chunks : List Bytes) :
    Unsent (writeChunks pb commandId path chunks) (OnlyValue false) := by
  have written : ∀ msg (k : Unit → Link Bool),
      Unsent (sendRequest msg >>= k) (OnlyValue false) := by
    intro msg k
    exact (sendRequest_unsent msg).bind (fun a never => absurd rfl (never a)) fun e _ => nofun
  unfold writeChunks
  split
  · exact .onlyValue_pure false
  · exact written _ _
  · exact written _ _

end

end ProtobufRPC

open ProtobufRPC in
/-- **No success is made up.** A run of a method that writes no own request reports a
failure. -/
theorem RpcCall.reports_of_unsent (pb : Protobuf) (self : Handle) (call : RpcCall) {σ : Type}
    (E : LinkEnv σ) (s : Host) (w : σ)
    (unsent : ∀ event ∈ (run E (call.method pb self) s w).trace, ¬ LinkOp.IsRequest event.op) :
    call.Reports (run E (call.method pb self) s w).result := by
  have raised : ∀ {α : Type} {c : Link α} {failure : Option α},
      Unsent c (fun result => ∀ value, result ≠ .ok value) →
        Unsent c (fun result => ∀ value, result = .ok value → failure = some value) :=
    fun h => h.mono fun result never value returned => absurd returned (never value)
  have named : ∀ {α : Type} {c : Link α} {failure : α}, Unsent c (OnlyValue failure) →
      Unsent c (fun result => ∀ value, result = .ok value → some failure = some value) :=
    fun h => h.mono fun result only value returned => by rw [only value returned]
  have body : Unsent (call.body pb self) call.Reports := by
    cases call with
    | ping | appLockStatus | appGetError | desktopIsLocked | appStart =>
        exact named (.guarded (unary_unsent pb self _ _ defaultTimeout))
    | systemProtobufVersion | systemDatetime | storageRead | storageInfo | storageStat
    | storageTimestamp | storageMkdir | storageDelete | storageRename =>
        exact named (.timed (unary_unsent pb self _ _ defaultTimeout))
    | storageMd5sum path =>
        exact named (.timed (unary_unsent pb self _ _ md5sumResponseTimeout))
    | gpioRead pin =>
        refine named (.guarded (.then fun modeId => .then fun code => ?_))
        exact (sendRpcMessage_unsent pb self _ defaultTimeout).unanswered (.onlyValue_pure none)
          fun e => nofun
    | systemPowerInfo =>
        refine named (.timed ?_)
        exact (exchange_unsent pb self _ defaultTimeout).unanswered (.onlyValue_pure none)
          fun e => nofun
    | getDeviceInfo => exact named (.guarded (.waitFor (getDeviceInfoInternal_unsent pb self)))
    | getProperty key =>
        exact named (.guarded (.waitFor (.guarded (unary_unsent pb self _ _ defaultTimeout))))
    | storageList path includeMd5 filterMaxSize | storageListDetailed path includeMd5 filterMaxSize =>
        refine raised ((storageListFrames_unsent pb self path includeMd5 filterMaxSize).bind ?_ ?_)
        · exact fun frames never => absurd rfl (never frames)
        · exact fun e _ value => nofun
    | systemUpdate manifestPath =>
        refine raised ((exchange_unsent pb self _ defaultTimeout).unanswered ?_ ?_)
        · exact .raise fun value => nofun
        · exact fun e value => nofun
    | systemRebootUpdate =>
        refine raised ((Unsent.anything _).bind (fun _ _ => (Unsent.anything _).bind (fun _ _ => ?_)
          fun _ _ value => nofun) fun _ _ value => nofun)
        exact sendRequest_unsent _
    | storageWrite path content =>
        refine named (.timed (.then fun _ => .then fun commandId => ?_))
        exact writeChunks_unsent pb commandId path _
  unfold RpcCall.method at unsent ⊢
  rw [run_withLock] at unsent ⊢
  exact body.ends E s w unsent

end FlipperMcp
