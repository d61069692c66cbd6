import FlipperMcp.Firmware.Installer
import FlipperMcp.Firmware.Reconnect
import FlipperMcp.Tools.Common

/-! # The firmware tool

`flipperzero_firmware_install` runs the installer over the client: each operation the
installer awaits is a call of the current `ProtobufRPC`, and its `resync` callback
reconnects the client. Where the bundle comes from does not touch the link, so the
bundle that is found for a hardware target is an input.
-/

namespace Coroutine

variable {S : Type} {I J : Signature} {ε α : Type}

/-- Run a coroutine without state of its own, each operation by a program for it. -/
def Coro.interpret (handle : (op : J.Op) → Coro S I ε (J.Res op)) : Coro Unit J ε α → Coro S I ε α
  | ret value => ret value
  | raise error => raise error
  | act _ next => (next ()).interpret handle
  | await op next => (handle op).attempt >>= fun answer => (next answer).interpret handle
  | acquire next => next.interpret handle
  | release next => next.interpret handle

end Coroutine

namespace FlipperMcp

open Coroutine FlipperClient

namespace Tools

section

variable (pb : Protobuf)

/-- `_resync_session(client)`. -/
def resyncSession : Link Handle := do
  disconnect
  let connected ← connect
  let s ← Coro.get
  match connected, s.rpc with
  | true, some rpc => pure rpc
  | _, _ => .raise (.flashError
      "could not re-establish the device session after a session wedge")

/-- What each operation of the installer does with the client. -/
def deviceProgram : (op : DeviceOp) → Link op.Res
  | .getDeviceInfo rpc => RpcCall.method pb rpc .getDeviceInfo
  | .storageMkdir rpc path => RpcCall.method pb rpc (.storageMkdir path)
  | .storageWrite rpc path content => RpcCall.method pb rpc (.storageWrite path content)
  | .storageMd5sum rpc path => RpcCall.method pb rpc (.storageMd5sum path)
  | .storageStat rpc path => do
      let (entry : Option StorageEntry) ← RpcCall.method pb rpc (.storageStat path)
      pure (entry.map fun entry => { size := some entry.size.toNat })
  | .systemUpdate rpc manifestPath => do
      let (code : UpdateResultCode) ← RpcCall.method pb rpc (.systemUpdate manifestPath)
      pure code.toInt
  | .systemRebootUpdate rpc => RpcCall.method pb rpc .systemRebootUpdate
  | .resync => resyncSession
  | .sleep seconds => Link.sleep seconds

/-- `_PKG_NAME`. -/
def pkgName : String := "mcp-update"

/-- `except (BundleError, FlashError) as e: raise ToolError(str(e))`. -/
def installError : Exn → Exn
  | .bundleError text | .flashError text => .toolError text
  | error => error

/-- The flavor and the version of a firmware. -/
def firmwareBlock (info : FirmwareInfo) : Json :=
  .dict [("flavor", .str info.flavor.value), ("version", .optStr info.version)]

/-- What the tool checks of the device it is connected to. -/
def checkIdentity (device : Dict) (confirm : String) : Except Exn String :=
  match Python.truthy (device.lookup "hardware_name") with
  | none => .error (.toolError
      "could not read device identity (hardware_name); aborting flash")
  | some deviceName =>
      if confirm ≠ deviceName then .error (.toolError
        ("confirm token " ++ Python.repr confirm ++ " does not match connected device " ++
          Python.repr deviceName))
      else match Python.truthy (Firmware.classify device).target with
        | none => .error (.toolError
            "device did not report a hardware target; cannot select a bundle")
        | some target => .ok target

variable (md5 : Bytes → String)

/-- The bundle is found and installed. -/
def resolveAndInstall (resolve : String → Except Exn LocalBundle) (rpc : Handle)
    (target : String) : Link LocalBundle :=
  Coro.tryExcept (fun _ => true) (do
    let bundle ← Coro.ofExcept (resolve target)
    (Installer.installBundle md5 rpc bundle pkgName true).interpret (deviceProgram pb)
    pure bundle) fun error => .raise (installError error)

/-- `flipperzero_firmware_install`, with the bundle its source gives for a target. -/
def firmwareInstall (config : FlipperConfig) (resolve : String → Except Exn LocalBundle)
    (confirm : String) : Link Json := do
  Coro.ofExcept (requireFirmwareFlash config)
  let (rpc, device) ← classified do
    ensureConnected
    let rpc ← getRpc
    let (device : Dict) ← RpcCall.method pb rpc .getDeviceInfo
    pure (rpc, device)
  let target ← Coro.ofExcept (checkIdentity device confirm)
  let bundle ← resolveAndInstall pb md5 resolve rpc target
  let before := Firmware.classify device
  let (after, confirmed) ← Firmware.reconnectAndClassify pb before
  pure (.dict [("before", firmwareBlock before), ("after", firmwareBlock after),
    ("after_confirmed", .bool confirmed), ("target", .str bundle.target)])

end

end Tools

end FlipperMcp
