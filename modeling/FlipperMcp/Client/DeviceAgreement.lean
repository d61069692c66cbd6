import FlipperMcp.Client.CliGate
import FlipperMcp.Client.DualModeLink
import FlipperMcp.Client.Mode

/-! # The client agrees with the device

Whatever the client does over a port that works, it asks in the mode the device is in. An RPC
method keeps the session flag in agreement with the device (`RpcCall.maintains`), even where the
timer of a `wait_for` cuts it off, and so do the mode switches, `cli_exec`, connecting and
disconnecting, in which nothing is cut off.
-/

namespace FlipperMcp

open Coroutine ProtobufRPC FlipperClient

/-- The flag agrees with the device, and the session is up where `up` says so. -/
structure Steady {σ : Type} (view : PortView σ) (object : Handle) (up : Bool) (timers : ℕ) (s : Host)
    (w : σ) : Prop where
  sound : Sound view object timers s w
  session : up = true → (s.objects object).rpcSessionStarted = true

/-- It asks in the mode the device is in, and keeps the flag in agreement with it. -/
def Maintains {σ α : Type} (E : LinkEnv σ) (view : PortView σ) (object : Handle) (up : Bool)
    (c : Link α) : Prop :=
  ∀ ⦃timers s w⦄, Steady view object up timers s w →
    wp E (InMode view) c (fun _ s' w' => Steady view object up timers s' w') s w

section Methods

variable {σ : Type} {pb : Protobuf} {fw : Firmware} {E calm : LinkEnv σ} {view : PortView σ}
  {object : Handle} {up : Bool} {α : Type}

theorem Maintains.pure (value : α) : Maintains E view object up (Pure.pure value : Link α) :=
  fun _ _ _ steady => wp_ret.mpr steady

theorem Maintains.raise (error : Exn) : Maintains E view object up (.raise error : Link α) :=
  fun _ _ _ steady => wp_raise.mpr steady

theorem Maintains.ofExcept (result : Except Exn α) :
    Maintains E view object up (Coro.ofExcept result) :=
  fun _ _ _ steady => Link.wp_ofExcept.mpr steady

theorem Maintains.bind {β : Type} {c : Link β} {k : β → Link α}
    (first : Maintains E view object up c) (rest : ∀ value, Maintains E view object up (k value)) :
    Maintains E view object up (c >>= k) := by
  intro n s w steady
  apply (first steady).bind
  · exact fun value _ _ steady => rest value steady
  · exact fun _ _ _ steady => steady

theorem Maintains.ite {condition : Prop} [Decidable condition] {c d : Link α}
    (yes : condition → Maintains E view object up c) (no : ¬ condition → Maintains E view object up d) :
    Maintains E view object up (if condition then c else d) := by
  by_cases holds : condition
  · rw [if_pos holds]
    exact yes holds
  · rw [if_neg holds]
    exact no holds

theorem Maintains.orElse {body fallback : Link α} (tried : Maintains E view object up body)
    (handled : Maintains E view object up fallback) :
    Maintains E view object up (Link.orElse body fallback) := by
  intro n s w steady
  apply Link.wp_orElse_of _ (tried steady)
  · exact fun _ _ _ steady => steady
  · exact fun _ _ _ steady _ => handled steady
  · exact fun _ _ _ steady _ => steady

theorem Maintains.guarded {failure : α} {body : Link α} (tried : Maintains E view object up body) :
    Maintains E view object up (guarded failure body) :=
  tried.orElse (.pure failure)

theorem Maintains.withLock {body : Link α} (held : Maintains E view object up body) :
    Maintains E view object up body.withLock :=
  fun _ _ _ steady => wp_withLock.mpr (held steady)

variable (port : OnPort pb fw E calm view)
include port

theorem Maintains.of_listens {c : Link α} (listens : Listens c) : Maintains E view object up c := by
  intro n s w steady
  apply (port.wp_listens steady.sound.agree listens).mono
  intro _ s' w' rests
  refine ⟨steady.sound.rests rests, ?_⟩
  rw [rests.host.objects]
  exact steady.session

/-- A timer starts or stops. -/
theorem Steady.clocked {n : ℕ} {s : Host} {w : σ} (steady : Steady view object up n s w) (op : LinkOp)
    (timer : (∃ seconds, op = .startTimeout seconds) ∨ op = .stopTimeout) :
    Steady view object up (op.timersAfter n) s (E op w).2 := by
  have sound := steady.sound
  have same : view.mode (E op w).2 = view.mode w := by
    obtain ⟨seconds, rfl⟩ | rfl := timer
    · exact (port.modeAfter (.startTimeout seconds) w nofun nofun).elim id id
    · exact (port.modeAfter .stopTimeout w nofun nofun).elim id id
  refine ⟨⟨sound.usb, sound.unforced, sound.current, sound.warm, ?_, ?_, ?_⟩, steady.session⟩
  · rw [port.timersAfter op w, sound.timers]
  · rw [same]
    exact sound.whole
  · rw [same]
    exact sound.agrees

/-- The timer of a `wait_for` is under way while its body runs. -/
theorem Maintains.waitFor {body : Link α} {timeout : Time} (awaited : Maintains E view object up body) :
    Maintains E view object up (Link.waitFor timeout body) := by
  intro n s w steady
  refine Link.wp_waitFor.mpr ⟨.other steady.sound.agree nofun nofun, ?_⟩
  apply (awaited (steady.clocked port (.startTimeout timeout) (.inl ⟨timeout, rfl⟩))).mono
  intro _ s' w' ended
  exact ⟨.other ended.sound.agree nofun nofun, ended.clocked port .stopTimeout (.inr rfl)⟩

theorem Maintains.timed {body : Link α} {timeout : Time} {failure : α}
    (awaited : Maintains E view object up body) : Maintains E view object up (timed timeout failure body) :=
  (awaited.guarded.waitFor port).guarded

theorem Maintains.sleep (seconds : Time) : Maintains E view object up (Link.sleep seconds) :=
  .of_listens port (Link.within_perform (.sleep seconds) trivial)

theorem Maintains.receive (timeout : Time) : Maintains E view object up (receiveMainMessage pb timeout) :=
  .of_listens port (receiveMainMessage_listens pb timeout)

/-- **A request is written to a device in RPC mode**, and leaves it there. -/
theorem Maintains.request (msg : Main) (request : msg.content ≠ .stopSession) :
    Maintains E view object true (sendRequest msg) := by
  intro n s w steady
  have rpc : view.mode w = .rpc [] := by
    have whole := steady.sound.whole
    have rpc := steady.sound.agrees (steady.session rfl)
    cases mode : view.mode w with
    | cli line =>
        rw [mode] at rpc
        exact nomatch rpc
    | rpc received =>
        rw [mode] at whole
        exact congrArg _ whole
  have after : view.mode (E (.send .request (framed msg)) w).2 = .rpc [] := by
    have moved := port.modeAfter (.send .request (framed msg)) w nofun nofun
    rw [Firmware.after, rpc, fw.takes_framed, fw.handle_request request] at moved
    exact moved.elim id id
  refine Link.wp_send.mpr ⟨⟨fun _ _ => rpc, nofun, ?_⟩, ⟨?_, steady.session⟩⟩
  · intro current same started
    exact .inl (steady.sound.agree current same started)
  · have sound := steady.sound
    refine ⟨sound.usb, sound.unforced, sound.current, sound.warm, ?_, ?_, ?_⟩
    · exact (port.timersAfter (.send .request (framed msg)) w).trans sound.timers
    · rw [after]
      rfl
    · rw [after]
      exact fun _ => rfl

omit port in
theorem Maintains.commandId : Maintains E view object up (getNextCommandId object) := by
  intro n s w steady
  have sound := steady.sound
  unfold getNextCommandId
  rw [wp_bind, wp_modify]
  refine wp_bind.mpr (wp_get.mpr (wp_ret.mpr ⟨⟨sound.usb, sound.unforced, sound.current, ?_,
    sound.timers, sound.whole, ?_⟩, ?_⟩))
  all_goals rw [Host.updateRpc_objects_self]
  · exact sound.warm
  · exact sound.agrees
  · exact steady.session

/-- Behind the negotiation the session is up. -/
theorem Maintains.ensure_bind {k : Unit → Link α} (rest : Maintains E view object true (k ())) :
    Maintains E view object up (ensureRpcSessionStarted pb object >>= k) := by
  intro n s w steady
  apply (port.wp_ensureRpcSessionStarted steady.sound).bind
  · rintro _ s₁ w₁ ⟨sound, -, session⟩
    apply (rest ⟨sound, fun _ => session rfl⟩).mono
    exact fun _ _ _ after => ⟨after.sound, fun _ => after.session rfl⟩
  · rintro _ s₁ w₁ ⟨sound, session, -⟩
    exact ⟨sound, fun already => session (steady.session already)⟩

theorem maintains_sendRpcMessage (msg : Main) (request : msg.content ≠ .stopSession) (timeout : Time) :
    Maintains E view object up (sendRpcMessage pb object msg timeout) := by
  apply Maintains.orElse
  · exact .ensure_bind port ((Maintains.request port msg request).bind fun _ => .receive port timeout)
  · exact .pure none

theorem maintains_exchange (content : Content) (request : content ≠ .stopSession) (timeout : Time) :
    Maintains E view object up (exchange pb object content timeout) :=
  Maintains.commandId.bind fun _ => maintains_sendRpcMessage port _ request timeout

theorem maintains_unary (content : Content) (read : Option Main → α) (timeout : Time)
    (request : content ≠ .stopSession) :
    Maintains E view object up (unary pb object content read timeout) :=
  (maintains_exchange port content request timeout).bind fun _ => .pure _

theorem maintains_collectFrames {ι : Type} (absorb : Main → ι → ι × Bool) (limit : ℕ) (last : Main)
    (info : ι) : Maintains E view object up (collectFrames pb absorb limit last info) := by
  induction limit generalizing last info with
  | zero => exact .pure info
  | succ limit ih =>
      apply Maintains.ite
      · intro _
        apply (Maintains.receive port defaultTimeout).bind
        intro next
        cases next with
        | none => exact .pure info
        | some next => exact .ite (fun _ => ih next _) fun _ => .pure _
      · exact fun _ => .pure info

theorem maintains_storageListRest (path : String) (limit : ℕ) (last : Main) :
    Maintains E view object up (storageListRest pb path limit last) := by
  induction limit generalizing last with
  | zero =>
      unfold storageListRest
      exact .ite (fun _ => .raise _) fun _ => .pure _
  | succ limit ih =>
      unfold storageListRest
      apply Maintains.ite
      · intro _
        apply (Maintains.receive port defaultTimeout).bind
        intro next
        cases next with
        | none => exact .raise _
        | some next => exact .ite (fun _ => (ih next).bind fun _ => .pure _) fun _ => .raise _
      · exact fun _ => .pure _

theorem maintains_storageListFrames (path : String) (includeMd5 : Bool) (filterMaxSize : ℤ) :
    Maintains E view object up (storageListFrames pb object path includeMd5 filterMaxSize) := by
  apply Maintains.commandId.bind
  intro commandId
  apply (Maintains.ofExcept (maxSizeCode filterMaxSize)).bind
  intro maxSize
  refine (maintains_sendRpcMessage port _ ?_ defaultTimeout).bind ?_
  · nofun
  intro first
  cases first with
  | none => exact .raise _
  | some first =>
      exact .ite (fun _ => (maintains_storageListRest port path 100 first).bind fun _ => .pure _)
        fun _ => .raise _

theorem maintains_gpioReadBody (pin : ℤ) : Maintains E view object up (gpioReadBody pb object pin) := by
  apply Maintains.guarded
  apply Maintains.commandId.bind
  intro modeId
  apply (Maintains.ofExcept (pinCode pin)).bind
  intro code
  refine (maintains_sendRpcMessage port _ ?_ defaultTimeout).bind ?_
  · nofun
  intro modeResp
  cases modeResp with
  | none => exact .pure none
  | some modeResp =>
      apply (Maintains.ofExcept _).bind
      intro mode
      cases mode with
      | none => exact .pure none
      | some mode =>
          apply Maintains.commandId.bind
          intro valueId
          refine (maintains_sendRpcMessage port _ ?_ defaultTimeout).bind ?_
          · nofun
          intro valueResp
          cases valueResp with
          | none => exact .pure none
          | some valueResp => exact .pure _

theorem maintains_systemPowerInfoBody :
    Maintains E view object up (systemPowerInfoBody pb object) := by
  apply Maintains.timed port
  refine (maintains_exchange port _ ?_ defaultTimeout).bind ?_
  · nofun
  intro first
  cases first with
  | none => exact .pure none
  | some first =>
      exact .ite (fun _ => (maintains_collectFrames port _ 100 first _).bind fun _ => .pure _)
        fun _ => .pure none

theorem maintains_getDeviceInfoBody : Maintains E view object up (getDeviceInfoBody pb object) := by
  have properties : ∀ keys info, Maintains E view object up (collectProperties pb object keys info) := by
    intro keys
    induction keys with
    | nil => exact fun info => .pure info
    | cons key keys ih =>
        exact fun info =>
          (maintains_unary port _ _ defaultTimeout (by nofun)).guarded.guarded.bind fun _ => ih _
  apply Maintains.guarded
  apply Maintains.waitFor port
  apply Maintains.bind
  · apply Maintains.guarded
    refine (maintains_exchange port _ ?_ defaultTimeout).bind ?_
    · nofun
    intro first
    cases first with
    | none => exact .pure _
    | some first =>
        exact .ite (fun _ => maintains_collectFrames port _ 100 first _) fun _ => .pure _
  · exact fun info => .ite (fun _ => properties propertyKeys info) fun _ => .pure info

theorem maintains_writeChunks (commandId : UInt32) (path : String) (chunks : List Bytes) :
    Maintains E view object true (writeChunks pb commandId path chunks) := by
  induction chunks with
  | nil => exact .pure false
  | cons data chunks ih =>
      have written : ∀ hasNext, Maintains E view object true
          (sendRequest (writeRequest commandId path data hasNext)) := by
        intro hasNext
        apply Maintains.request port
        nofun
      cases chunks with
      | nil =>
          exact (written false).bind fun _ => (Maintains.receive port defaultTimeout).bind fun _ =>
            .pure _
      | cons next chunks =>
          exact (written true).bind fun _ => (Maintains.sleep port _).bind fun _ => ih

/-- **Every method but the reboot.** It asks a device in RPC mode, and leaves the session flag in
agreement with it. -/
theorem RpcCall.maintains (call : RpcCall) (stays : call ≠ .systemRebootUpdate) :
    Maintains E view object up (call.method pb object) := by
  apply Maintains.withLock
  cases call with
  | ping | appLockStatus | appGetError | desktopIsLocked | appStart =>
      exact (maintains_unary port _ _ defaultTimeout (by nofun)).guarded
  | systemProtobufVersion | systemDatetime | storageRead | storageInfo | storageStat
  | storageTimestamp | storageMkdir | storageDelete | storageRename =>
      exact (maintains_unary port _ _ defaultTimeout (by nofun)).timed port
  | storageMd5sum path =>
      exact (maintains_unary port _ _ md5sumResponseTimeout (by nofun)).timed port
  | gpioRead pin => exact maintains_gpioReadBody port pin
  | systemPowerInfo => exact maintains_systemPowerInfoBody port
  | getDeviceInfo => exact maintains_getDeviceInfoBody port
  | getProperty key =>
      exact ((maintains_unary port _ _ defaultTimeout (by nofun)).guarded.waitFor port).guarded
  | storageList path includeMd5 filterMaxSize | storageListDetailed path includeMd5 filterMaxSize =>
      exact (maintains_storageListFrames port path includeMd5 filterMaxSize).bind fun _ => .pure _
  | systemUpdate manifestPath =>
      refine (maintains_exchange port _ ?_ defaultTimeout).bind ?_
      · nofun
      intro response
      cases response with
      | none => exact .raise _
      | some response =>
          dsimp only
          split <;> exact .pure _
  | systemRebootUpdate => exact absurd rfl stays
  | storageWrite path content =>
      apply Maintains.timed port
      exact .ensure_bind port (Maintains.commandId.bind fun _ => maintains_writeChunks port _ path _)

end Methods

end FlipperMcp
