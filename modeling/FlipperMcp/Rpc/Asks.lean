import FlipperMcp.Coroutine.Alphabet
import FlipperMcp.Rpc.Footprint

/-! # What an RPC method asks for

Each method writes requests of its own kind only (`RpcCall.asks_method`). Beside them it
writes the fixed bytes of the negotiation.
-/

namespace FlipperMcp

open Coroutine

/-- What a method may ask the device for. -/
def RpcCall.Asks : RpcCall → Content → Prop
  | ping data, content => content = .systemPingRequest data
  | appLockStatus, content => content = .appLockStatusRequest
  | appGetError, content => content = .appGetErrorRequest
  | desktopIsLocked, content => content = .desktopIsLockedRequest
  | gpioRead _, content => ∃ code, content = .gpioGetPinMode code ∨ content = .gpioReadPin code
  | systemProtobufVersion, content => content = .systemProtobufVersionRequest
  | systemUpdate manifestPath, content => content = .systemUpdateRequest manifestPath
  | systemRebootUpdate, content => ∃ mode, content = .systemRebootRequest mode
  | systemDatetime, content => content = .systemGetDatetimeRequest
  | systemPowerInfo, content => content = .systemPowerInfoRequest
  | appStart name args, content => content = .appStartRequest name args
  | getDeviceInfo, content =>
      content = .systemDeviceInfoRequest ∨ ∃ key, content = .propertyGetRequest key
  | getProperty key, content => content = .propertyGetRequest key
  | storageList path includeMd5 _, content | storageListDetailed path includeMd5 _, content =>
      ∃ maxSize, content = .storageListRequest path includeMd5 maxSize
  | storageRead path, content => content = .storageReadRequest path
  | storageInfo path, content => content = .storageInfoRequest path
  | storageStat path, content => content = .storageStatRequest path
  | storageTimestamp path, content => content = .storageTimestampRequest path
  | storageMkdir path, content => content = .storageMkdirRequest path
  | storageDelete path recursive, content => content = .storageDeleteRequest path recursive
  | storageRename oldPath newPath, content => content = .storageRenameRequest oldPath newPath
  | storageMd5sum path, content => content = .storageMd5sumRequest path
  | storageWrite path _, content => ∃ file, content = .storageWriteRequest path file

namespace ProtobufRPC

/-- What a method awaits whose requests are `asked` for. -/
def Asking (asked : Content → Prop) : LinkOp → Prop
  | .send .request data => ∃ msg : Main, asked msg.content ∧ data = framed msg
  | .send .probe data => data = framed probe
  | .send .startSession data => data = interrupt ∨ data = startRpcSession
  | .receive _ | .sleep _ | .monotonic | .deadline _ | .startTimeout _ | .stopTimeout => True
  | _ => False

/-- Its requests are all `asked` for. -/
abbrev AsksOnly {α : Type} (asked : Content → Prop) (c : Link α) : Prop :=
  @Awaits Host linkSignature Exn α (Asking asked) c

section

variable {asked : Content → Prop} {α : Type}

theorem AsksOnly.of_negotiation {self : Handle} {c : Link α} (h : NegotiationWithin self c) :
    AsksOnly asked c := by
  apply h.awaits.mono
  intro op negotiates
  cases op with
  | send origin _ => cases origin <;> first | exact negotiates | exact negotiates.elim
  | startTimeout _ | stopTimeout => exact negotiates.elim
  | _ => exact negotiates

theorem AsksOnly.of_listens {c : Link α} (h : Listens c) : AsksOnly asked c :=
  .of_negotiation (h.reads.negotiation 0)

theorem AsksOnly.perform (op : LinkOp) (h : Asking asked op) : AsksOnly asked (Link.perform op) :=
  Awaits.perform h

theorem AsksOnly.orElse {body fallback : Link α} (tried : AsksOnly asked body)
    (handled : AsksOnly asked fallback) : AsksOnly asked (Link.orElse body fallback) :=
  tried.tryExcept fun _ => handled

theorem AsksOnly.guarded {body : Link α} {failure : α} (tried : AsksOnly asked body) :
    AsksOnly asked (guarded failure body) :=
  tried.orElse (.pure failure)

theorem AsksOnly.waitFor {body : Link α} {timeout : Time} (awaited : AsksOnly asked body) :
    AsksOnly asked (Link.waitFor timeout body) :=
  (AsksOnly.perform (.startTimeout timeout) trivial).attempt.bind fun _ => awaited.attempt.bind
    fun _ => (AsksOnly.perform .stopTimeout trivial).attempt.bind fun _ => .ofExcept _

theorem AsksOnly.timed {body : Link α} {timeout : Time} {failure : α}
    (awaited : AsksOnly asked body) : AsksOnly asked (timed timeout failure body) :=
  awaited.guarded.waitFor.guarded

theorem AsksOnly.commandId (self : Handle) : AsksOnly asked (getNextCommandId self) :=
  (Awaits.modify _).bind fun _ => Awaits.get.bind fun _ => .pure _

theorem AsksOnly.request (msg : Main) (h : asked msg.content) : AsksOnly asked (sendRequest msg) :=
  .perform (.send .request (framed msg)) ⟨msg, h, rfl⟩

section

variable (pb : Protobuf) (self : Handle)

theorem AsksOnly.ensure : AsksOnly asked (ensureRpcSessionStarted pb self) :=
  .of_negotiation (ensureRpcSessionStarted_within pb self)

theorem AsksOnly.receive (timeout : Time) : AsksOnly asked (receiveMainMessage pb timeout) :=
  .of_listens (receiveMainMessage_listens pb timeout)

theorem asks_sendRpcMessage (msg : Main) (h : asked msg.content) (timeout : Time) :
    AsksOnly asked (sendRpcMessage pb self msg timeout) := by
  apply AsksOnly.orElse
  · exact (AsksOnly.ensure pb self).bind fun _ => (AsksOnly.request msg h).bind fun _ =>
      AsksOnly.receive pb timeout
  · exact .pure none

theorem asks_exchange (content : Content) (h : asked content) (timeout : Time) :
    AsksOnly asked (exchange pb self content timeout) :=
  (AsksOnly.commandId self).bind fun _ => asks_sendRpcMessage pb self _ h timeout

theorem asks_unary (content : Content) (read : Option Main → α) (timeout : Time)
    (h : asked content) : AsksOnly asked (unary pb self content read timeout) :=
  (asks_exchange pb self content h timeout).bind fun _ => .pure _

theorem asks_collectFrames {ι : Type} (absorb : Main → ι → ι × Bool) (limit : ℕ) (last : Main)
    (info : ι) : AsksOnly asked (collectFrames pb absorb limit last info) := by
  induction limit generalizing last info with
  | zero => exact .pure info
  | succ limit ih =>
      apply Awaits.ite
      · intro _
        apply (AsksOnly.receive pb defaultTimeout).bind
        intro next
        cases next with
        | none => exact .pure info
        | some next => exact .ite (fun _ => ih next _) fun _ => .pure _
      · exact fun _ => .pure info

theorem asks_storageListRest (path : String) (limit : ℕ) (last : Main) :
    AsksOnly asked (storageListRest pb path limit last) := by
  induction limit generalizing last with
  | zero =>
      unfold storageListRest
      exact .ite (fun _ => .raise _) fun _ => .pure _
  | succ limit ih =>
      unfold storageListRest
      apply Awaits.ite
      · intro _
        apply (AsksOnly.receive pb defaultTimeout).bind
        intro next
        cases next with
        | none => exact .raise _
        | some next => exact .ite (fun _ => (ih next).bind fun _ => .pure _) fun _ => .raise _
      · exact fun _ => .pure _

theorem asks_storageListFrames (path : String) (includeMd5 : Bool) (filterMaxSize : ℤ)
    (h : ∀ maxSize, asked (.storageListRequest path includeMd5 maxSize)) :
    AsksOnly asked (storageListFrames pb self path includeMd5 filterMaxSize) := by
  apply (AsksOnly.commandId self).bind
  intro commandId
  apply (Awaits.ofExcept (maxSizeCode filterMaxSize)).bind
  intro maxSize
  apply (asks_sendRpcMessage pb self _ (h maxSize) defaultTimeout).bind
  intro first
  cases first with
  | none => exact .raise _
  | some first =>
      exact .ite (fun _ => (asks_storageListRest pb path 100 first).bind fun _ => .pure _)
        fun _ => .raise _

theorem asks_gpioReadBody (pin : ℤ) (mode : ∀ code, asked (.gpioGetPinMode code))
    (level : ∀ code, asked (.gpioReadPin code)) : AsksOnly asked (gpioReadBody pb self pin) := by
  apply AsksOnly.guarded
  apply (AsksOnly.commandId self).bind
  intro modeId
  apply (Awaits.ofExcept (pinCode pin)).bind
  intro code
  apply (asks_sendRpcMessage pb self _ (mode code) defaultTimeout).bind
  intro modeResp
  cases modeResp with
  | none => exact .pure none
  | some modeResp =>
      apply (Awaits.ofExcept _).bind
      intro mode
      cases mode with
      | none => exact .pure none
      | some mode =>
          apply (AsksOnly.commandId self).bind
          intro valueId
          apply (asks_sendRpcMessage pb self _ (level code) defaultTimeout).bind
          intro valueResp
          cases valueResp with
          | none => exact .pure none
          | some valueResp => exact .pure _

theorem asks_systemPowerInfoBody (h : asked .systemPowerInfoRequest) :
    AsksOnly asked (systemPowerInfoBody pb self) := by
  apply AsksOnly.timed
  apply (asks_exchange pb self _ h defaultTimeout).bind
  intro first
  cases first with
  | none => exact .pure none
  | some first =>
      exact .ite (fun _ => (asks_collectFrames pb _ 100 first _).bind fun _ => .pure _)
        fun _ => .pure none

theorem asks_getDeviceInfoBody (info : asked .systemDeviceInfoRequest)
    (property : ∀ key, asked (.propertyGetRequest key)) :
    AsksOnly asked (getDeviceInfoBody pb self) := by
  have properties : ∀ keys info, AsksOnly asked (collectProperties pb self keys info) := by
    intro keys
    induction keys with
    | nil => exact fun info => .pure info
    | cons key keys ih =>
        exact fun info =>
          (asks_unary pb self _ _ defaultTimeout (property key)).guarded.guarded.bind fun _ => ih _
  apply AsksOnly.guarded
  apply AsksOnly.waitFor
  apply Awaits.bind
  · apply AsksOnly.guarded
    apply (asks_exchange pb self _ info defaultTimeout).bind
    intro first
    cases first with
    | none => exact .pure _
    | some first => exact .ite (fun _ => asks_collectFrames pb _ 100 first _) fun _ => .pure _
  · exact fun info => .ite (fun _ => properties propertyKeys info) fun _ => .pure info

theorem asks_writeChunks (commandId : UInt32) (path : String) (chunks : List Bytes)
    (h : ∀ file, asked (.storageWriteRequest path file)) :
    AsksOnly asked (writeChunks pb commandId path chunks) := by
  induction chunks with
  | nil => exact .pure false
  | cons data chunks ih =>
      have first : ∀ hasNext, AsksOnly asked (sendRequest (writeRequest commandId path data hasNext)) :=
        fun hasNext => .request (writeRequest commandId path data hasNext) (h _)
      cases chunks with
      | nil =>
          exact (first false).bind fun _ => (AsksOnly.receive pb defaultTimeout).bind fun _ => .pure _
      | cons next chunks =>
          exact (first true).bind fun _ => (AsksOnly.perform (.sleep _) trivial).bind fun _ => ih

end

end

end ProtobufRPC

open ProtobufRPC

/-- **Every method asks for its own kind of thing.** -/
theorem RpcCall.asks_method (pb : Protobuf) (self : Handle) (call : RpcCall) :
    AsksOnly call.Asks (call.method pb self) := by
  apply Awaits.withLock
  cases call with
  | ping | appLockStatus | appGetError | desktopIsLocked | appStart =>
      refine (asks_unary pb self _ _ defaultTimeout ?_).guarded
      rfl
  | systemProtobufVersion | systemDatetime | storageRead | storageInfo | storageStat
  | storageTimestamp | storageMkdir | storageDelete | storageRename =>
      refine (asks_unary pb self _ _ defaultTimeout ?_).timed
      rfl
  | storageMd5sum path =>
      refine (asks_unary pb self _ _ md5sumResponseTimeout ?_).timed
      rfl
  | gpioRead pin =>
      exact asks_gpioReadBody pb self pin (fun code => ⟨code, .inl rfl⟩) fun code => ⟨code, .inr rfl⟩
  | systemPowerInfo =>
      refine asks_systemPowerInfoBody pb self ?_
      rfl
  | getDeviceInfo => exact asks_getDeviceInfoBody pb self (.inl rfl) fun key => .inr ⟨key, rfl⟩
  | getProperty key =>
      refine (asks_unary pb self _ _ defaultTimeout ?_).guarded.waitFor.guarded
      rfl
  | storageList path includeMd5 filterMaxSize | storageListDetailed path includeMd5 filterMaxSize =>
      exact (asks_storageListFrames pb self path includeMd5 filterMaxSize fun maxSize =>
        ⟨maxSize, rfl⟩).bind fun _ => .pure _
  | systemUpdate manifestPath =>
      refine (asks_exchange pb self _ ?_ defaultTimeout).bind ?_
      · rfl
      intro response
      cases response with
      | none => exact .raise _
      | some response =>
          dsimp only
          split <;> exact .pure _
  | systemRebootUpdate =>
      exact (AsksOnly.ensure pb self).bind fun _ => (AsksOnly.commandId self).bind fun _ =>
        AsksOnly.request _ ⟨_, rfl⟩
  | storageWrite path content =>
      apply AsksOnly.timed
      exact (AsksOnly.ensure pb self).bind fun _ => (AsksOnly.commandId self).bind fun _ =>
        asks_writeChunks pb _ path _ fun file => ⟨file, rfl⟩

end FlipperMcp
