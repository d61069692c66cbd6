import FlipperMcp.Rpc.Methods

/-! # What the methods are made of

`Conversation` describes the bodies of the RPC methods by the steps they are
composed of: counting up the command id, bringing the session up, writing an own
request, waiting for a message, pausing. A method is in step from one of its
requests on for as long as every message it waited for has come; it waits for a
message only in step (`RpcCall.conversation`). A property that every step keeps is
therefore a property of every method, by one induction.
-/

namespace FlipperMcp

open Coroutine

namespace ProtobufRPC

/-- A program composed of the steps of an RPC method. `before` says whether it needs
to start in step, `after` whether it is in step once it has returned a value. -/
inductive Conversation (pb : Protobuf) (self : Handle) :
    {α : Type} → Bool → Link α → (α → Bool) → Prop
  | ret {α : Type} {before : Bool} {after : α → Bool} {value : α}
      (kept : after value = true → before = true) : Conversation pb self before (.ret value) after
  | raise {α : Type} {before : Bool} {after : α → Bool} {error : Exn} :
      Conversation pb self before (.raise error) after
  | commandId {before : Bool} :
      Conversation pb self before (getNextCommandId self) fun _ => before
  | ensure {before : Bool} :
      Conversation pb self before (ensureRpcSessionStarted pb self) fun _ => false
  | request {before : Bool} (msg : Main) :
      Conversation pb self before (sendRequest msg) fun _ => true
  | receive (timeout : Time) :
      Conversation pb self true (receiveMainMessage pb timeout) Option.isSome
  | sleep {before : Bool} (seconds : Time) :
      Conversation pb self before (Link.sleep seconds) fun _ => before
  | bind {α β : Type} {before : Bool} {middle : α → Bool} {after : β → Bool} {c : Link α}
      {k : α → Link β} (first : Conversation pb self before c middle)
      (rest : ∀ value, Conversation pb self (middle value) (k value) after) :
      Conversation pb self before (c >>= k) after
  | orElse {α : Type} {before : Bool} {after : α → Bool} {body fallback : Link α}
      (tried : Conversation pb self before body after)
      (handled : Conversation pb self false fallback after) :
      Conversation pb self before (Link.orElse body fallback) after
  | waitFor {α : Type} {before : Bool} {after : α → Bool} {body : Link α} (timeout : Time)
      (awaited : Conversation pb self before body after) :
      Conversation pb self before (Link.waitFor timeout body) after
  | weaken {α : Type} {before before' : Bool} {after after' : α → Bool} {c : Link α}
      (described : Conversation pb self before c after)
      (needed : before = true → before' = true)
      (left : ∀ value, after' value = true → after value = true) :
      Conversation pb self before' c after'

section

variable {pb : Protobuf} {self : Handle} {α : Type}

theorem Conversation.pure {before : Bool} {after : α → Bool} {value : α}
    (kept : after value = true → before = true) :
    Conversation pb self before (pure value : Link α) after :=
  .ret kept

/-- Returning needs no step when none is claimed afterwards. -/
theorem Conversation.done {before : Bool} {value : α} :
    Conversation pb self before (Pure.pure value : Link α) fun _ => false :=
  .ret fun impossible => nomatch impossible

/-- What is known of the step may be forgotten. -/
theorem Conversation.forget {before : Bool} {after : α → Bool} {c : Link α}
    (described : Conversation pb self before c after) :
    Conversation pb self before c fun _ => false :=
  described.weaken id fun _ impossible => nomatch impossible

/-- What needs no step may start in step. -/
theorem Conversation.anyhow {before : Bool} {after : α → Bool} {c : Link α}
    (described : Conversation pb self false c after) : Conversation pb self before c after :=
  described.weaken (fun impossible => nomatch impossible) fun _ => id

theorem Conversation.ofExcept (result : Except Exn α) {before : Bool} :
    Conversation pb self before (Coro.ofExcept result) fun _ => before := by
  cases result with
  | ok value => exact .ret id
  | error error => exact .raise

theorem Conversation.guarded {before : Bool} {after : α → Bool} {failure : α} {body : Link α}
    (tried : Conversation pb self before body after) :
    Conversation pb self before (guarded failure body) fun _ => false :=
  .orElse tried.forget (.pure fun impossible => nomatch impossible)

theorem Conversation.timed {before : Bool} {after : α → Bool} {timeout : Time} {failure : α}
    {body : Link α} (tried : Conversation pb self before body after) :
    Conversation pb self before (timed timeout failure body) fun _ => false :=
  .guarded (.waitFor timeout (.guarded tried))

end

section

variable (pb : Protobuf) (self : Handle)

/-- One exchange is in step exactly when its answer came. -/
theorem sendRpcMessage_conversation {before : Bool} (msg : Main) (timeout : Time) :
    Conversation pb self before (sendRpcMessage pb self msg timeout) Option.isSome := by
  apply Conversation.anyhow
  unfold sendRpcMessage
  refine .orElse ?_ (.pure fun impossible => nomatch impossible)
  exact .bind .ensure fun _ => .bind (.request msg) fun _ => .receive timeout

theorem exchange_conversation {before : Bool} (content : Content) (timeout : Time) :
    Conversation pb self before (exchange pb self content timeout) Option.isSome :=
  .bind .commandId fun _ => sendRpcMessage_conversation pb self _ timeout

theorem unary_conversation {α : Type} {before : Bool} (content : Content) (read : Option Main → α)
    (timeout : Time) :
    Conversation pb self before (unary pb self content read timeout) fun _ => false :=
  .bind (exchange_conversation pb self content timeout) fun _ => .done

/-- A stream is read on only while its frames come. -/
theorem collectFrames_conversation {ι : Type} (absorb : Main → ι → ι × Bool) (limit : ℕ)
    (last : Main) (info : ι) :
    Conversation pb self true (collectFrames pb absorb limit last info) fun _ => false := by
  induction limit generalizing last info with
  | zero => exact .pure fun _ => rfl
  | succ limit ih =>
      unfold collectFrames
      split
      · refine .bind (.receive defaultTimeout) fun next => ?_
        cases next with
        | none => exact .done
        | some next =>
            simp only
            split
            · exact ih next _
            · exact .done
      · exact .done

theorem storageListRest_conversation (path : String) (limit : ℕ) (last : Main) :
    Conversation pb self true (storageListRest pb path limit last) fun _ => false := by
  induction limit generalizing last with
  | zero =>
      unfold storageListRest
      split
      · exact .raise
      · exact .done
  | succ limit ih =>
      unfold storageListRest
      split
      · refine .bind (.receive defaultTimeout) fun next => ?_
        cases next with
        | none => exact .raise
        | some next =>
            simp only
            split
            · exact .bind (ih next) fun _ => .done
            · exact .raise
      · exact .done

theorem storageListFrames_conversation (path : String) (includeMd5 : Bool) (filterMaxSize : ℤ) :
    Conversation pb self false (storageListFrames pb self path includeMd5 filterMaxSize)
      fun _ => false := by
  refine .bind .commandId fun commandId => .bind (.ofExcept _) fun maxSize => ?_
  refine .bind (sendRpcMessage_conversation pb self _ defaultTimeout) fun first => ?_
  cases first with
  | none => exact .raise
  | some first =>
      simp only
      split
      · exact .bind (storageListRest_conversation pb self path 100 first) fun _ => .done
      · exact .raise

theorem gpioReadBody_conversation (pin : ℤ) :
    Conversation pb self false (gpioReadBody pb self pin) fun _ => false := by
  refine Conversation.guarded (show Conversation pb self false _ fun _ => false from ?_)
  refine .bind .commandId fun modeId => .bind (.ofExcept _) fun code => ?_
  refine .bind (sendRpcMessage_conversation pb self _ defaultTimeout) fun modeResp => ?_
  cases modeResp with
  | none => exact .done
  | some modeResp =>
      refine .bind (.ofExcept _) fun mode => ?_
      cases mode with
      | none => exact .done
      | some mode =>
          refine .bind .commandId fun valueId => ?_
          refine .bind (sendRpcMessage_conversation pb self _ defaultTimeout) fun valueResp => ?_
          cases valueResp with
          | none => exact .done
          | some valueResp => exact .done

theorem systemPowerInfoBody_conversation :
    Conversation pb self false (systemPowerInfoBody pb self) fun _ => false := by
  refine Conversation.timed (show Conversation pb self false _ fun _ => false from ?_)
  refine .bind (exchange_conversation pb self _ defaultTimeout) fun first => ?_
  cases first with
  | none => exact .done
  | some first =>
      simp only
      split
      · exact .bind (collectFrames_conversation pb self _ 100 first _) fun _ => .done
      · exact .done

theorem collectProperties_conversation (keys : List String) (info : Dict) :
    Conversation pb self false (collectProperties pb self keys info) fun _ => false := by
  induction keys generalizing info with
  | nil => exact .done
  | cons key keys ih =>
      exact .bind (.guarded (.guarded (unary_conversation pb self _ _ defaultTimeout)))
        fun _ => ih _

theorem getDeviceInfoInternal_conversation :
    Conversation pb self false (getDeviceInfoInternal pb self) fun _ => false := by
  refine .bind (.guarded (show Conversation pb self false _ fun _ => false from ?streamed))
    fun info => ?_
  case streamed =>
    refine .bind (exchange_conversation pb self _ defaultTimeout) fun first => ?_
    cases first with
    | none => exact .done
    | some first =>
        simp only
        split
        · exact collectFrames_conversation pb self _ 100 first _
        · exact .done
  split
  · exact collectProperties_conversation pb self propertyKeys info
  · exact .done

theorem writeChunks_conversation (commandId : UInt32) (path : String) (chunks : List Bytes) :
    Conversation pb self false (writeChunks pb commandId path chunks) fun _ => false := by
  induction chunks with
  | nil =>
      unfold writeChunks
      exact .done
  | cons data chunks ih =>
      unfold writeChunks
      cases chunks with
      | nil =>
          exact .bind (.request _) fun _ => .bind (.receive defaultTimeout) fun _ => .done
      | cons next chunks => exact .bind (.request _) fun _ => .bind (.sleep _) fun _ => ih.anyhow

end

end ProtobufRPC

open ProtobufRPC in
/-- **Every method is a conversation.** It waits for a message only in step. -/
theorem RpcCall.conversation (pb : Protobuf) (self : Handle) (call : RpcCall) :
    Conversation pb self false (call.body pb self) fun _ => false := by
  cases call with
  | ping | appLockStatus | appGetError | desktopIsLocked | appStart =>
      exact .guarded (unary_conversation pb self _ _ defaultTimeout)
  | systemProtobufVersion | systemDatetime | storageRead | storageInfo | storageStat
  | storageTimestamp | storageMkdir | storageDelete | storageRename =>
      exact .timed (unary_conversation pb self _ _ defaultTimeout)
  | storageMd5sum path => exact .timed (unary_conversation pb self _ _ md5sumResponseTimeout)
  | gpioRead pin => exact gpioReadBody_conversation pb self pin
  | systemPowerInfo => exact systemPowerInfoBody_conversation pb self
  | getDeviceInfo => exact .guarded (.waitFor 6 (getDeviceInfoInternal_conversation pb self))
  | getProperty key =>
      exact .guarded (.waitFor 2 (.guarded (unary_conversation pb self _ _ defaultTimeout)))
  | storageList path includeMd5 filterMaxSize | storageListDetailed path includeMd5 filterMaxSize =>
      exact .bind (storageListFrames_conversation pb self path includeMd5 filterMaxSize) fun _ => .done
  | systemUpdate manifestPath =>
      refine .bind (exchange_conversation pb self _ defaultTimeout) fun response => ?_
      cases response with
      | none => exact .raise
      | some response =>
          simp only
          split <;> exact .done
  | systemRebootUpdate => exact .bind .ensure fun _ => .bind .commandId fun _ => .forget (.request _)
  | storageWrite path content =>
      refine Conversation.timed (show Conversation pb self false _ fun _ => false from ?_)
      exact .bind .ensure fun _ => .bind .commandId fun _ =>
        writeChunks_conversation pb self _ path _

end FlipperMcp
