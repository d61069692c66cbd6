import FlipperMcp.Coroutine.Recording
import FlipperMcp.Link
import FlipperMcp.Python.Text

/-! # Installing an update bundle

`install_bundle` pushes the files of a bundle to the device, verifies each, lets the
device check the update and reboots it into the updater. A wedged session is replaced
through the `resync` callback, so the calls go to changing `ProtobufRPC` objects. What
they return, and what they raise, is up to the device.
-/

namespace FlipperMcp

open Coroutine

/-- What `install_bundle` awaits: calls of a `ProtobufRPC`, the `resync` callback and
pauses. -/
inductive DeviceOp
  | getDeviceInfo (rpc : Handle)
  | storageMkdir (rpc : Handle) (path : String)
  | storageWrite (rpc : Handle) (path : String) (content : Bytes)
  | storageMd5sum (rpc : Handle) (path : String)
  | storageStat (rpc : Handle) (path : String)
  | systemUpdate (rpc : Handle) (manifestPath : String)
  | systemRebootUpdate (rpc : Handle)
  | resync
  | sleep (seconds : Time)
  deriving DecidableEq

/-- The result of `storage_stat`, as far as it is looked at. -/
structure FileStat where
  size : Option ℕ
  deriving DecidableEq

/-- The answer to each operation. -/
def DeviceOp.Res : DeviceOp → Type
  | getDeviceInfo _ => Dict
  | storageMkdir _ _ | storageWrite _ _ _ => Bool
  | storageMd5sum _ _ => Option String
  | storageStat _ _ => Option FileStat
  | systemUpdate _ _ => ℤ
  | systemRebootUpdate _ | sleep _ => Unit
  | resync => Handle

/-- The operations of the device. -/
abbrev deviceSignature : Signature where
  Op := DeviceOp
  Res := DeviceOp.Res

/-- A coroutine of the installer. It shares no state. -/
abbrev Device (α : Type) := Coro Unit deviceSignature Exn α

/-- A behaviour of the device and of the callback. -/
abbrev DeviceEnv (σ : Type) := Env deviceSignature Exn σ

/-- An operation of the installer and its answer. -/
abbrev DeviceCall := Observation deviceSignature Exn

/-- `LocalBundle`. -/
structure LocalBundle where
  manifestName : String
  target : String
  files : List (String × Bytes)

/-- `update_code_message(code)`. -/
def updateCodeMessage (code : ℤ) : Option String :=
  match code with
  | 0 => none
  | 1 => some "update manifest path is invalid"
  | 2 => some "update folder not found on device"
  | 3 => some "update manifest is invalid or corrupt"
  | 4 => some "an update stage file is missing from the bundle"
  | 5 => some "an update stage failed its integrity check"
  | 6 => some "update manifest pointer error"
  | 7 => some "bundle hardware target does not match the device"
  | 8 => some "update manifest version is outdated"
  | 9 => some "device internal storage is full"
  | 10 => some "unspecified update error"
  | code => some s!"update failed (code {code})"

namespace Installer

/-- Await one operation of the device. -/
def perform (op : DeviceOp) : Device op.Res := @Coro.perform Unit deviceSignature Exn op

/-- `_UPDATE_ROOT`. -/
def updateRoot : String := "/ext/update"

/-- `_MD5_ATTEMPTS`. -/
def md5Attempts : ℕ := 5

/-- `_MD5_SETTLE_S`. -/
def md5Settle : Time := 2

/-- `_MD5_VERIFY_MAX_BYTES`. -/
def md5VerifyMaxBytes : ℕ := 2 * 1024 * 1024

/-- `_RESYNC_ATTEMPTS`. -/
def resyncAttempts : ℕ := 2

/-- `_POST_WRITE_SETTLE_S`. -/
def postWriteSettle : Time := 8

/-- `_UPDATE_SETTLE_S`. -/
def updateSettle : Time := 3

/-- `UpdateResponse.OK`. -/
def updateOk : ℤ := 0

/-- `UpdateResponse.UnspecifiedError`. -/
def updateUnspecified : ℤ := 10

/-- `_Md5Status`. -/
inductive Md5Status
  | match
  | mismatch
  | unreadable
  deriving DecidableEq

/-- `except (OSError, RuntimeError, FlipperTimeoutError)`. -/
def wedged : Exn → Bool
  | .flipperTimeoutError _ => true
  | error => error.isOSOrRuntimeError

/-- `_check_size(rpc, path, expected_len)`. -/
def checkSize (rpc : Handle) (path : String) (expectedLen : ℕ) : Device Md5Status := do
  match ← perform (.storageStat rpc path) with
  | none => pure .unreadable
  | some (stat : FileStat) =>
      pure (if stat.size = some expectedLen then .match else .mismatch)

/-- `_check_md5(rpc, path, expected)` with a number of attempts left. -/
def checkMd5 (rpc : Handle) (path expected : String) : ℕ → Device Md5Status
  | 0 => pure .unreadable
  | attempts + 1 => do
      match ← perform (.storageMd5sum rpc path) with
      | some (deviceMd5 : String) => pure (if deviceMd5 = expected then .match else .mismatch)
      | none =>
          if attempts = 0 then pure .unreadable
          else do
            perform (.sleep md5Settle)
            checkMd5 rpc path expected attempts

section

variable (md5 : Bytes → String)

/-- `_verify_written(rpc, dest, data, expected_md5)`. -/
def verifyWritten (rpc : Handle) (dest : String) (data : Bytes) : Device Md5Status :=
  if md5VerifyMaxBytes < data.length then checkSize rpc dest data.length
  else checkMd5 rpc dest (md5 data) md5Attempts

/-- Why `_push_file` gave up. -/
def pushFailure (dest : String) (everWritten : Bool) (status : Md5Status) : Exn :=
  if status = .mismatch then .flashError
    (s!"verification failed after writing {dest}; the on-device data does not " ++
      "match the bundle even after reconnecting - corrupt or truncated transfer, " ++
      "flash aborted")
  else if !everWritten then .flashError
    (s!"device rejected the write of {dest} on every attempt; the data never " ++
      "transferred to the SD card - check free space and that the storage is " ++
      "mounted and writable, then retry (this is a write failure, not a session " ++
      "wedge, so reconnecting will not help)")
  else .flashError
    (s!"device RPC session stopped responding after writing {dest}; the update was " ++
      "not applied - reconnect to re-establish the session and retry (a transport " ++
      "reconnect clears the wedge; power-cycle only if it persists)")

/-- The write of one pass, unless the file is written already. -/
def ensureWritten (rpc : Handle) (dest : String) (data : Bytes) (written : Bool) : Device Bool :=
  if written then pure true
  else Coro.tryExcept wedged (perform (.storageWrite rpc dest data)) fun _ =>
    pure false

/-- The verification of one pass, if the file is written. -/
def ensureVerified (rpc : Handle) (dest : String) (data : Bytes) (written : Bool)
    (status : Md5Status) : Device Md5Status :=
  if written then
    Coro.tryExcept wedged (verifyWritten md5 rpc dest data) fun _ => pure .unreadable
  else pure status

/-- The loop of `_push_file` with a number of passes left. -/
def pushLoop (dest : String) (data : Bytes) (resync : Bool) :
    ℕ → Handle → Bool → Bool → Md5Status → Device Handle
  | 0, _, _, everWritten, status => .raise (pushFailure dest everWritten status)
  | passes + 1, rpc, written, everWritten, status => do
      let written ← ensureWritten rpc dest data written
      let everWritten := everWritten || written
      let status ← ensureVerified md5 rpc dest data written status
      if written ∧ status = .match then pure rpc
      -- on-disk data that disagrees is pushed again on the next pass
      else if !resync ∨ passes = 0 then .raise (pushFailure dest everWritten status)
      else do
        let (rpc : Handle) ← perform .resync
        perform (.sleep postWriteSettle)
        pushLoop dest data resync passes rpc (written && status ≠ .mismatch) everWritten status

/-- `_push_file(rpc, dest, data, resync=resync)`. -/
def pushFile (rpc : Handle) (dest : String) (data : Bytes) (resync : Bool) : Device Handle :=
  pushLoop md5 dest data resync (resyncAttempts + 1) rpc false false .unreadable

/-- `_trigger_update(rpc, manifest, resync=resync)` with a number of passes left. -/
def triggerUpdate (manifest : String) (resync : Bool) : ℕ → Handle → Device Handle
  | 0, _ => .raise (.flashError
      "device rejected update: unspecified update error (persisted after retries)")
  | passes + 1, rpc => do
      perform (.sleep updateSettle)
      let (code : ℤ) ← Coro.tryExcept
        (fun | .flipperTimeoutError _ => true | _ => false)
        (perform (.systemUpdate rpc manifest)) fun e =>
          .raise (.flashError s!"device link dropped during update validation: {e.text}")
      if code = updateOk then pure rpc
      else if code ≠ updateUnspecified ∨ passes = 0 then
        .raise (.flashError ("device rejected update: " ++ (updateCodeMessage code).getD "None"))
      else if resync then do
        let (rpc : Handle) ← perform .resync
        triggerUpdate manifest resync passes rpc
      else triggerUpdate manifest resync passes rpc

/-- `f"{pkg_dir}/{rel_path}"`. -/
def destination (pkgDir relPath : String) : String := s!"{pkgDir}/{relPath}"

/-- The loop of `install_bundle` over the files. -/
def pushFiles (pkgDir : String) (resync : Bool) : List (String × Bytes) → Handle → Device Handle
  | [], rpc => pure rpc
  | (relPath, data) :: files, rpc => do
      let dest := destination pkgDir relPath
      let parent := Python.beforeLastSlash dest
      if parent ≠ pkgDir then
        let _ ← perform (.storageMkdir rpc parent)
      let rpc ← pushFile md5 rpc dest data resync
      pushFiles pkgDir resync files rpc

/-- `device_info.get("hardware_target", "").strip()`. -/
def rawTarget (deviceInfo : Dict) : String :=
  Python.strip ((deviceInfo.lookup "hardware_target").getD "")

/-- `f"f{raw_target}"`, what the device reports as its target. -/
def deviceTarget (deviceInfo : Dict) : String := s!"f{rawTarget deviceInfo}"

/-- The check of the target. -/
def checkTarget (deviceInfo : Dict) (bundle : LocalBundle) : Except Exn Unit :=
  if rawTarget deviceInfo = "" then .error (.flashError
    "device did not report hardware_target; cannot verify bundle compatibility")
  else if deviceTarget deviceInfo ≠ bundle.target then .error (.flashError
    (s!"bundle target {bundle.target} does not match device target " ++
      s!"{deviceTarget deviceInfo}"))
  else .ok ()

/-- `pkg_dir`. -/
def packageDir (pkgName : String) : String := s!"{updateRoot}/{pkgName}"

/-- `manifest`. -/
def manifestPath (bundle : LocalBundle) (pkgName : String) : String :=
  s!"{packageDir pkgName}/{bundle.manifestName}"

/-- `install_bundle(rpc, bundle, pkg_name=pkg_name, resync=resync)`. -/
def installBundle (rpc : Handle) (bundle : LocalBundle) (pkgName : String) (resync : Bool) :
    Device Unit := do
  let (deviceInfo : Dict) ← perform (.getDeviceInfo rpc)
  Coro.ofExcept (checkTarget deviceInfo bundle)
  let _ ← perform (.storageMkdir rpc updateRoot)
  let _ ← perform (.storageMkdir rpc (packageDir pkgName))
  let rpc ← pushFiles md5 (packageDir pkgName) resync bundle.files rpc
  let rpc ← triggerUpdate (manifestPath bundle pkgName) resync (resyncAttempts + 1) rpc
  perform (.systemRebootUpdate rpc)

end

end Installer

end FlipperMcp
