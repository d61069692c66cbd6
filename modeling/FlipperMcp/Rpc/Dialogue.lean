import FlipperMcp.Rpc.Methods

/-! # Talking to a device

A device in RPC mode takes a message, becomes another device and answers with frames
(`RpcDevice`). A dialogue is what a method asks it and what it makes of the answers, without
transport, framing and time (`RpcCall.dialogue`).
-/

namespace FlipperMcp

open ProtobufRPC

/-- A device in RPC mode: what becomes of it with a message, and the frames it answers with. -/
structure RpcDevice (τ : Type) where
  serve : τ → Main → τ × List Main

/-- How many frames a message is answered with. -/
inductive Replies
  | silence
  | one
  | stream

/-- A reboot and the chunks of a file but the last are not answered. The infos and a listing are
answered with a stream, anything else with one frame. -/
def Main.replies (msg : Main) : Replies :=
  match msg.content with
  | .systemRebootRequest _ => .silence
  | .storageWriteRequest _ _ => if msg.hasNext then .silence else .one
  | .systemDeviceInfoRequest | .systemPowerInfoRequest | .storageListRequest _ _ _ => .stream
  | _ => .one

/-- All frames of a stream but the last say OK and announce another. -/
inductive IsStream : List Main → Prop
  | last {frame : Main} (ends : frame.hasNext = false) : IsStream [frame]
  | more {frame : Main} {frames : List Main} (announces : frame.hasNext = true)
      (ok : frame.commandStatus = CommandStatus.ok) (rest : IsStream frames) :
      IsStream (frame :: frames)

/-- As many frames as there should be. -/
def Replies.Met : Replies → List Main → Prop
  | silence, frames => frames = []
  | one, frames => ∃ frame, frames = [frame]
  | stream, frames => IsStream frames ∧ frames.length ≤ 101

/-- The host can read a frame: it is not empty, and not longer than the host allows. -/
def Main.Readable (frame : Main) : Prop :=
  frame.serializeToString ≠ [] ∧ frame.serializeToString.length ≤ 1000000

/-- Only a file at a `short` path is read. -/
def Content.Within (short : String → Prop) : Content → Prop
  | .storageReadRequest path => short path
  | _ => True

/-- A device that answers every message as it should. A file is read in one frame where its path
is `short`. -/
structure RpcDevice.Orderly {τ : Type} (device : RpcDevice τ) (short : String → Prop) : Prop where
  met : ∀ state (msg : Main), msg.content.Within short → msg.replies.Met (device.serve state msg).2
  readable : ∀ state (msg : Main), msg.content.Within short → ∀ frame ∈ (device.serve state msg).2, frame.Readable

/-- The last command id, and the device. -/
structure Talk (τ : Type) where
  commandId : ℕ
  device : τ

/-- What is asked of a device, and what is made of the answers. -/
abbrev Dialogue (τ α : Type) := Talk τ → Except Exn α × Talk τ

namespace Dialogue

variable {τ α β : Type}

/-- Something is returned or raised. -/
def result (value : Except Exn α) : Dialogue τ α := fun talk => (value, talk)

def andThen (first : Dialogue τ α) (rest : α → Dialogue τ β) : Dialogue τ β := fun talk =>
  match (first talk).1 with
  | .ok value => rest value (first talk).2
  | .error error => (.error error, (first talk).2)

/-- Something is made of what is returned. -/
def reading (first : Dialogue τ α) (read : α → Except Exn β) : Dialogue τ β := fun talk =>
  ((first talk).1.bind read, (first talk).2)

/-- `except Exception: return failure`. -/
def orReturn (failure : α) (tried : Dialogue τ α) : Dialogue τ α := fun talk =>
  match (tried talk).1 with
  | .ok value => (.ok value, (tried talk).2)
  | .error error => (if error.isException then .ok failure else .error error, (tried talk).2)

/-- The next command id. -/
def commandId : Dialogue τ UInt32 := fun talk =>
  let next := (talk.commandId + 1) % 0xFFFFFFFF
  (.ok (UInt32.ofNat next), { talk with commandId := next })

variable (device : RpcDevice τ)

/-- A message, and the frames it is answered with. -/
def tell (msg : Main) : Dialogue τ (List Main) := fun talk =>
  (.ok (device.serve talk.device msg).2, { talk with device := (device.serve talk.device msg).1 })

/-- A request with the next command id. -/
def ask (content : Content) : Dialogue τ (List Main) :=
  commandId.andThen fun commandId => tell device { commandId := commandId, content := content }

/-- What is made of its only frame. -/
def unary (content : Content) (read : Option Main → α) : Dialogue τ α :=
  (ask device content).reading fun frames => .ok (read frames.head?)

end Dialogue

/-- The frames of a stream are taken in until one ends it. -/
def absorbed {ι : Type} (absorb : Main → ι → ι × Bool) : List Main → ι → ι
  | [], info => info
  | frame :: frames, info =>
      if (absorb frame info).2 then absorbed absorb frames (absorb frame info).1
      else (absorb frame info).1

/-- The frames of a listing behind the first, if all of them say OK. -/
def listedRest (path : String) (frames : List Main) : Except Exn (List Main) :=
  match frames.find? fun frame => frame.commandStatus ≠ CommandStatus.ok with
  | none => .ok frames
  | some frame => .error (.flipperProtocolError
      s!"storage_list({path}): status {frame.commandStatus.toInt} mid-stream")

/-- The frames of a listing, if all of them say OK. -/
def listed (path : String) : List Main → Except Exn (List Main)
  | [] => .ok []
  | first :: rest =>
      if first.commandStatus = CommandStatus.ok then (listedRest path rest).map (first :: ·)
      else .error (.flipperProtocolError
        s!"storage_list({path}): device returned status {first.commandStatus.toInt}")

/-- The mode an answer names. -/
def pinMode : Option Main → Except Exn (Option String)
  | none => .ok none
  | some resp => match resp.commandStatus == CommandStatus.ok, resp.content with
    | true, .gpioGetPinModeResponse mode => (gpioPinModeName mode).map some
    | _, _ => .ok (if resp.commandStatus = CommandStatus.errorGpioUnknownPinMode
        then some "unconfigured" else none)

/-- A pin with the level an answer tells. -/
def pinReading (pin : ℤ) (mode : String) : Option Main → Option GpioReading
  | none => none
  | some resp =>
      let value := okContent (fun
        | .gpioReadPinResponse value => some value
        | _ => none) (some resp)
      some { pin := pin, mode := mode, value := value }

namespace Dialogue

variable {τ : Type} (device : RpcDevice τ)

/-- The frames of a listing. -/
def list (path : String) (includeMd5 : Bool) (filterMaxSize : ℤ) : Dialogue τ (List Main) :=
  commandId.andThen fun commandId => (result (maxSizeCode filterMaxSize)).andThen fun maxSize =>
    (tell device { commandId := commandId, content := .storageListRequest path includeMd5 maxSize }).reading
      (listed path)

/-- The mode of a pin, and its level if it has a mode. -/
def gpio (pin : ℤ) : Dialogue τ (Option GpioReading) := orReturn none <|
  commandId.andThen fun modeId => (result (pinCode pin)).andThen fun code =>
    ((tell device { commandId := modeId, content := .gpioGetPinMode code }).reading
      fun frames => pinMode frames.head?).andThen fun mode =>
    match mode with
    | none => result (.ok none)
    | some mode => unary device (.gpioReadPin code) (pinReading pin mode)

/-- The pairs of the power info, if its first frame says OK. -/
def powerInfo : Dialogue τ (Option Dict) :=
  (ask device .systemPowerInfoRequest).reading fun frames => .ok <| match frames with
    | [] => none
    | first :: rest =>
        if first.commandStatus = CommandStatus.ok then
          some (absorbed (fun next info =>
            if next.commandStatus = CommandStatus.ok then (collectPower next info, true)
            else (info, false)) rest (collectPower first ∅))
        else none

/-- A property. -/
def property (key : String) : Dialogue τ (Option String) :=
  unary device (.propertyGetRequest key) (okContent fun
    | .propertyGetResponse _ value => some value
    | _ => none)

/-- The properties, one by one. -/
def properties : List String → Dict → Dialogue τ Dict
  | [], info => result (.ok info)
  | key :: keys, info => (property device key).andThen fun value =>
      properties keys (match Python.truthy value with
        | some value => info.insert key value
        | none => info)

/-- The pairs of the device info, or the properties if there is none. -/
def deviceInfo : Dialogue τ Dict :=
  ((ask device .systemDeviceInfoRequest).reading fun frames => .ok <| match frames with
    | [] => ∅
    | first :: rest =>
        if first.commandStatus = CommandStatus.ok then
          absorbed (fun next info =>
            (collectDevice next info, next.commandStatus = CommandStatus.ok)) rest (collectDevice first ∅)
        else ∅).andThen fun info =>
    if info.keys = [] then properties device propertyKeys info else result (.ok info)

/-- The chunks of a file; the last is acknowledged. -/
def chunks (commandId : UInt32) (path : String) : List Bytes → Dialogue τ Bool
  | [] => result (.ok false)
  | [last] => (tell device (writeRequest commandId path last false)).reading fun frames =>
      .ok (isOk frames.head?)
  | data :: rest => (tell device (writeRequest commandId path data true)).andThen fun _ =>
      chunks commandId path rest

end Dialogue

open Dialogue in
/-- What a method asks, and what it returns. -/
def RpcCall.dialogue {τ : Type} (device : RpcDevice τ) : (call : RpcCall) → Dialogue τ call.Result
  | ping data => unary device (.systemPingRequest data) (okContent fun
      | .systemPingResponse echoed => some echoed
      | _ => none)
  | appLockStatus => unary device .appLockStatusRequest (okContent fun
      | .appLockStatusResponse locked => some locked
      | _ => none)
  | appGetError => unary device .appGetErrorRequest (okContent fun
      | .appGetErrorResponse code text => some (code, text)
      | _ => none)
  | desktopIsLocked => unary device .desktopIsLockedRequest fun
      | some resp =>
          if resp.commandStatus = CommandStatus.ok then some true
          else if resp.commandStatus = CommandStatus.error then some false
          else none
      | none => none
  | gpioRead pin => gpio device pin
  | systemProtobufVersion => unary device .systemProtobufVersionRequest (okContent fun
      | .systemProtobufVersionResponse major minor => some (major, minor)
      | _ => none)
  | systemUpdate manifestPath => unary device (.systemUpdateRequest manifestPath) fun resp =>
      match resp.map Main.content with
      | some (.systemUpdateResponse code) => code
      | _ => UpdateResultCode.unspecifiedError
  | systemRebootUpdate => (ask device (.systemRebootRequest rebootModeUpdate)).reading fun _ => .ok ()
  | systemDatetime => unary device .systemGetDatetimeRequest (okContent fun
      | .systemGetDatetimeResponse datetime => some datetime
      | _ => none)
  | systemPowerInfo => powerInfo device
  | appStart name args => unary device (.appStartRequest name args) isOk
  | getDeviceInfo => deviceInfo device
  | getProperty key => property device key
  | storageList path includeMd5 filterMaxSize =>
      (list device path includeMd5 filterMaxSize).reading fun frames =>
        .ok ((frames.flatMap listedFiles).map File.name)
  | storageListDetailed path includeMd5 filterMaxSize =>
      (list device path includeMd5 filterMaxSize).reading fun frames =>
        .ok ((frames.flatMap listedFiles).map (entryOf includeMd5))
  | storageRead path => unary device (.storageReadRequest path) fun resp =>
      (okContent (fun
        | .storageReadResponse file => some file.data
        | _ => none) resp).getD []
  | storageInfo path => unary device (.storageInfoRequest path) (okContent fun
      | .storageInfoResponse totalSpace freeSpace => some (totalSpace, freeSpace)
      | _ => none)
  | storageStat path => unary device (.storageStatRequest path) (okContent fun
      | .storageStatResponse file => some (entryOf true file)
      | _ => none)
  | storageTimestamp path => unary device (.storageTimestampRequest path) (okContent fun
      | .storageTimestampResponse timestamp => some timestamp
      | _ => none)
  | storageMkdir path => unary device (.storageMkdirRequest path) isOk
  | storageDelete path recursive => unary device (.storageDeleteRequest path recursive) isOk
  | storageRename oldPath newPath => unary device (.storageRenameRequest oldPath newPath) isOk
  | storageMd5sum path => unary device (.storageMd5sumRequest path) fun resp =>
      Python.truthy (okContent (fun
        | .storageMd5sumResponse md5sum => some md5sum
        | _ => none) resp)
  | storageWrite path content => commandId.andThen fun commandId =>
      chunks device commandId path (chunk content writeChunkSize)

end FlipperMcp
