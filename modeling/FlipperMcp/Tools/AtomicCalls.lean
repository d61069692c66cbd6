import FlipperMcp.Coroutine.Atomicity
import FlipperMcp.Rpc.FileStore
import FlipperMcp.Tools.Registry

/-! # Tools as programs of calls

A tool that uses the device by RPC methods alone is a program of calls, each of which is one dialogue
with the device (`Server.tool_carriesOut`), and each call is one step of the device's
(`Serves.sections`).
-/

namespace FlipperMcp

open Coroutine ProtobufRPC

/-- A call that reads only a file that fits in one frame. -/
abbrev FittingCall (short : String → Prop) : Type :=
  { call : RpcCall // ∀ path, call = .storageRead path → short path }

/-- Calls as operations. -/
abbrev callSignature (short : String → Prop) : Signature where
  Op := FittingCall short
  Res call := call.1.Result

/-- A program of calls. -/
abbrev CallPlan (short : String → Prop) (α : Type) : Type := Plan (callSignature short) Exn α

/-- A device seen through the dialogues of the calls. -/
def RpcDevice.calls {τ : Type} (device : RpcDevice τ) (short : String → Prop) :
    Env (callSignature short) Exn (Talk τ) :=
  fun call talk => call.1.dialogue device talk

/-- The part of a call under the lock. -/
def FittingCall.body {short : String → Prop} (pb : Protobuf) (object : Handle) (call : FittingCall short) :
    Link call.1.Result :=
  call.1.body pb object

/-- One call. -/
def FittingCall.plan {short : String → Prop} (call : FittingCall short) : CallPlan short call.1.Result :=
  @Plan.perform (callSignature short) Exn call

/-- It does not change the file at a path. -/
def FittingCall.Spares {short : String → Prop} (path : String) (call : FittingCall short) : Prop :=
  ¬ call.1.Touches path

/-- A tool that uses the device by RPC methods alone, and does not reconnect. -/
def ToolCall.Plain : ToolCall → Prop
  | connectionHealth _ | connectionReconnect _ | systemInfo | cliExec _ _ _ | coreStatus | fsTree _
  | loaderList | i2cScan | firmwareInstall _ _ => False
  | _ => True

/-- Which files of the device a plain tool may change. -/
def ToolCall.Touches (other : String) : ToolCall → Prop
  | fsPush _ destPath _ => other = destPath
  | fsDelete path _ => other = path ∨ Beneath path other
  | fsRename oldPath newPath =>
      (other = oldPath ∨ Beneath oldPath other) ∨ other = newPath ∨ Beneath newPath other
  | appStart _ _ => True
  | _ => False

/-- The client has the session, and is where the talk is. -/
structure ClientInSync {σ τ : Type} (state : σ → τ) (chunks : σ → List Bytes) (object : Handle)
    (talk : Talk τ) (s : Host) (w : σ) : Prop where
  current : s.rpc = some object
  sync : InSync state chunks object [] talk s w

namespace Tools

variable {σ : Type} {E : LinkEnv σ} {pb : Protobuf} {object : Handle} {short : String → Prop} {α : Type}

/-- It carries out a plan of calls while the client has the session. -/
abbrev Performs (E : LinkEnv σ) (pb : Protobuf) (object : Handle) (short : String → Prop) (c : Link α)
    (plan : CallPlan short α) : Prop :=
  CarriesOut E (fun s : Host => s.rpc = some object) (FittingCall.body pb object) c plan

/-- `classified(body)` as a plan. -/
def classifiedPlan (body : CallPlan short α) : CallPlan short α :=
  .tryExcept Exn.isException body fun error => .raise (classifyClientError error)

theorem performs_classified {body : Link α} {plan : CallPlan short α}
    (tried : Performs E pb object short body plan) :
    Performs E pb object short (classified body) (classifiedPlan plan) :=
  tried.tryExcept fun _ => .raise _

/-- One call of a tool. -/
theorem performs_method (call : FittingCall short) :
    Performs E pb object short (call.1.method pb object) call.plan :=
  @CarriesOut.withLock Host linkSignature (callSignature short) Exn σ E _ (FittingCall.body pb object) call

variable (alive : ∀ w, E .isConnected w = (.ok true, w))
include alive

/-- The session is there. -/
theorem performs_getRpc : Performs E pb object short getRpc (.ret object) := by
  apply CarriesOut.quiet
  · intro w
    rw [alive]
  · intro w
    rw [alive]
    apply CarriesOut.get_bind
    intro s current
    rw [current]
    exact .ret object

/-- One call of the session, and what is made of what it returns. -/
theorem performs_readTool (call : FittingCall short) (answer : call.1.Result → Except Exn Json) :
    Performs E pb object short (readTool pb call.1 answer)
      (classifiedPlan call.plan >>= fun value => .ofExcept (answer value)) := by
  apply CarriesOut.bind
  · apply performs_classified
    exact (performs_getRpc alive).ret_bind (performs_method call)
  · exact fun value => .ofExcept (answer value)

variable (config : FlipperConfig)

theorem performs_writeTool (call : FittingCall short) (answer : call.1.Result → Except Exn Json) :
    Performs E pb object short (writeTool pb config call.1 answer) (do
      Plan.ofExcept (requireWriteTools config)
      let value ← classifiedPlan call.plan
      .ofExcept (answer value)) :=
  (CarriesOut.ofExcept _).bind fun _ => performs_readTool alive call answer

variable (md5 : Bytes → String)

/-- The write of a push, and the digest behind it. -/
def pushedDigest (short : String → Prop) (destPath : String) (data : Bytes) :
    CallPlan short (Option String) := do
  let (wrote : Bool) ← FittingCall.plan ⟨.storageWrite destPath data, nofun⟩
  if wrote then FittingCall.plan ⟨.storageMd5sum destPath, nofun⟩
  else .raise (.toolError s!"failed to write {destPath} to the device")

/-- `flipperzero_fs_push` as a plan. -/
def pushPlan (short : String → Prop) (localPath destPath : String) (source : Except Exn Bytes) :
    CallPlan short Json := do
  Plan.ofExcept (requireWriteTools config)
  let data ← Plan.ofExcept (hostFile s!"cannot read local file {localPath}" source)
  let deviceMd5 ← Plan.tryExcept (fun
    | .toolError _ => false
    | error => error.isException) (pushedDigest short destPath data)
    fun error => .raise (classifyClientError error)
  Plan.ofExcept (verifyMd5 (md5 data) deviceMd5 destPath)
  pure (.dict [("dest_path", .str destPath), ("bytes", .int data.length),
    ("md5", .str (md5 data)), ("verified", .bool true)])

/-- What a pull reads, and its digest. -/
def pulledDigest {srcPath : String} (fits : short srcPath) : CallPlan short (Bytes × Option String) := do
  let (data : Bytes) ← FittingCall.plan ⟨.storageRead srcPath, fun _ same => RpcCall.storageRead.inj same ▸ fits⟩
  let (deviceMd5 : Option String) ← FittingCall.plan ⟨.storageMd5sum srcPath, nofun⟩
  pure (data, deviceMd5)

/-- `flipperzero_fs_pull` as a plan. -/
def pullPlan {srcPath : String} (fits : short srcPath) (localPath : String)
    (written : Bytes → Except Exn Bytes) : CallPlan short Json := do
  let (data, deviceMd5) ← classifiedPlan (pulledDigest fits)
  let back ← Plan.ofExcept (hostFile s!"cannot write local file {localPath}" (written data))
  Plan.ofExcept (verifyMd5 (md5 back) deviceMd5 srcPath)
  pure (.dict [("local_path", .str localPath), ("bytes", .int back.length),
    ("md5", .str (md5 back)), ("verified", .bool true)])

theorem performs_fsPush (localPath destPath : String) (source : Except Exn Bytes) :
    Performs E pb object short (fsPush pb config md5 localPath destPath source)
      (pushPlan config md5 short localPath destPath source) := by
  apply (CarriesOut.ofExcept _).bind
  intro _
  apply (CarriesOut.ofExcept _).bind
  intro data
  apply CarriesOut.bind
  · apply CarriesOut.tryExcept
    · apply (performs_getRpc alive).ret_bind
      apply CarriesOut.bind
      · exact performs_method ⟨.storageWrite destPath data, nofun⟩
      · intro wrote
        cases wrote with
        | true => exact performs_method ⟨.storageMd5sum destPath, nofun⟩
        | false => exact .raise _
    · exact fun error => .raise _
  · exact fun deviceMd5 => (CarriesOut.ofExcept _).bind fun _ => .ret _

theorem performs_fsPull {srcPath : String} (fits : short srcPath) (localPath : String)
    (written : Bytes → Except Exn Bytes) :
    Performs E pb object short (fsPull pb md5 srcPath localPath written)
      (pullPlan md5 fits localPath written) := by
  apply CarriesOut.bind
  · apply performs_classified
    apply (performs_getRpc alive).ret_bind
    apply CarriesOut.bind
    · exact performs_method ⟨.storageRead srcPath, fun _ same => RpcCall.storageRead.inj same ▸ fits⟩
    · intro data
      apply CarriesOut.bind
      · exact performs_method ⟨.storageMd5sum srcPath, nofun⟩
      · exact fun deviceMd5 => .ret _
  · intro pulled
    exact (CarriesOut.ofExcept _).bind fun back => (CarriesOut.ofExcept _).bind fun _ => .ret _

end Tools

section Plans

open Tools

variable {σ : Type} {E : LinkEnv σ} (alive : ∀ w, E .isConnected w = (.ok true, w)) {object : Handle}
  {short : String → Prop}
include alive

omit alive in
theorem among_classified {allowed : FittingCall short → Prop} {call : FittingCall short}
    (allows : allowed call) {answer : call.1.Result → Except Exn Json} :
    (classifiedPlan call.plan >>= fun value => Plan.ofExcept (answer value) : CallPlan short Json).Among
      allowed := by
  apply Plan.Among.bind
  · exact Plan.Among.tryExcept (.perform allows) fun _ => trivial
  · exact fun value => .ofExcept (answer value)

/-- A tool with one call. -/
theorem readTool_carriesOut {pb : Protobuf} (call : FittingCall short)
    (answer : call.1.Result → Except Exn Json) : ∃ plan : CallPlan short Json,
      Performs E pb object short (readTool pb call.1 answer) plan ∧
        ∀ path, ¬ call.1.Touches path → plan.Among (FittingCall.Spares path) :=
  ⟨_, performs_readTool alive call answer, fun _ spares => among_classified spares⟩

theorem writeTool_carriesOut {pb : Protobuf} {config : FlipperConfig} (call : FittingCall short)
    (answer : call.1.Result → Except Exn Json) : ∃ plan : CallPlan short Json,
      Performs E pb object short (writeTool pb config call.1 answer) plan ∧
        ∀ path, ¬ call.1.Touches path → plan.Among (FittingCall.Spares path) :=
  ⟨_, performs_writeTool alive config call answer,
    fun _ spares => (Plan.Among.ofExcept _).bind fun _ => among_classified spares⟩

/-- **A plain tool** is a program of calls, which change no file that the tool does not touch. -/
theorem Server.tool_carriesOut (server : Server) (tool : ToolCall) (plain : tool.Plain)
    (fits : ∀ srcPath localPath written, tool = .fsPull srcPath localPath written → short srcPath) :
    ∃ plan : CallPlan short Json, Performs E server.pb object short (server.program tool) plan ∧
      ∀ path, ¬ tool.Touches path → plan.Among (FittingCall.Spares path) := by
  cases tool with
  | connectionHealth | connectionReconnect | systemInfo | cliExec | coreStatus | fsTree | loaderList
  | i2cScan | firmwareInstall => exact plain.elim
  | systemPowerInfo => exact readTool_carriesOut alive ⟨.systemPowerInfo, nofun⟩ _
  | systemProtobufVersion => exact readTool_carriesOut alive ⟨.systemProtobufVersion, nofun⟩ _
  | systemDatetime => exact readTool_carriesOut alive ⟨.systemDatetime, nofun⟩ _
  | systemPing => exact readTool_carriesOut alive ⟨.ping defaultPing, nofun⟩ _
  | systemPropertyGet key => exact readTool_carriesOut alive ⟨.getProperty key, nofun⟩ _
  | appLockStatus => exact readTool_carriesOut alive ⟨.appLockStatus, nofun⟩ _
  | appGetError => exact readTool_carriesOut alive ⟨.appGetError, nofun⟩ _
  | desktopIsLocked => exact readTool_carriesOut alive ⟨.desktopIsLocked, nofun⟩ _
  | gpioRead pin =>
      by_cases known : 0 ≤ pin ∧ pin ≤ gpioPinMax
      · rw [show server.program (.gpioRead pin) = readTool server.pb (.gpioRead pin) _ from if_pos known]
        exact readTool_carriesOut alive ⟨.gpioRead pin, nofun⟩ _
      · rw [show server.program (.gpioRead pin) = .raise _ from if_neg known]
        exact ⟨.raise _, .raise _, fun _ _ => trivial⟩
  | fsInfo path => exact readTool_carriesOut alive ⟨.storageInfo path, nofun⟩ _
  | fsStat path => exact readTool_carriesOut alive ⟨.storageStat path, nofun⟩ _
  | fsTimestamp path => exact readTool_carriesOut alive ⟨.storageTimestamp path, nofun⟩ _
  | fsList path => exact readTool_carriesOut alive ⟨.storageListDetailed path false 0, nofun⟩ _
  | fsMkdir path => exact writeTool_carriesOut alive ⟨.storageMkdir path, nofun⟩ _
  | fsDelete path recursive => exact writeTool_carriesOut alive ⟨.storageDelete path recursive, nofun⟩ _
  | fsRename oldPath newPath => exact writeTool_carriesOut alive ⟨.storageRename oldPath newPath, nofun⟩ _
  | appStart name args => exact writeTool_carriesOut alive ⟨.appStart name args, nofun⟩ _
  | fsPush localPath destPath source =>
      refine ⟨_, performs_fsPush alive server.config server.md5 localPath destPath source, ?_⟩
      intro path spares
      apply (Plan.Among.ofExcept _).bind
      intro _
      apply (Plan.Among.ofExcept _).bind
      intro data
      apply Plan.Among.bind
      · apply Plan.Among.tryExcept
        · apply Plan.Among.bind (.perform spares)
          intro wrote
          cases wrote with
          | true => exact .perform id
          | false => trivial
        · exact fun _ => trivial
      · exact fun deviceMd5 => (Plan.Among.ofExcept _).bind fun _ => trivial
  | fsPull srcPath localPath written =>
      refine ⟨_, performs_fsPull alive server.md5 (fits srcPath localPath written rfl) localPath written, ?_⟩
      intro path _
      apply Plan.Among.bind
      · apply Plan.Among.tryExcept
        · apply Plan.Among.bind (.perform id)
          intro data
          exact Plan.Among.bind (.perform id) fun _ => trivial
        · exact fun _ => trivial
      · intro pulled
        exact (Plan.Among.ofExcept _).bind fun _ => (Plan.Among.ofExcept _).bind fun _ => trivial

end Plans

section Atomic

variable {ι σ τ : Type} [DecidableEq ι] {device : RpcDevice τ} {E : LinkEnv σ} {state : σ → τ}
  {chunks : σ → List Bytes} {short : String → Prop}

/-- Each call is one dialogue. -/
theorem Serves.sections (served : Serves device E state chunks) (orderly : device.Orderly short)
    (pb : Protobuf) (object : Handle) :
    Sections E (fun s : Host => s.rpc = some object) (FittingCall.body pb object) (device.calls short)
      (ClientInSync state chunks object) := by
  have realises : ∀ (call : FittingCall short) {talk s w}, ClientInSync state chunks object talk s w →
      wp E (fun _ => True) (FittingCall.body pb object call) (fun result s' w' =>
        result = (device.calls short call talk).1 ∧
          InSync state chunks object [] (device.calls short call talk).2 s' w') s w :=
    fun call _ _ _ client => wp_withLock.mp (RpcCall.realises served orderly call.1 call.2 client.sync)
  have current : ∀ s s', MethodChanges object s s' → s.rpc = some object → s'.rpc = some object := by
    intro s s' changes holds
    rw [changes.1]
    exact holds
  refine ⟨?_, fun client => client.current, fun call _ _ _ client => (realises call client).2.1, ?_⟩
  · exact fun call => (call.1.within pb object).mono (fun _ _ => trivial) current
  · intro call talk s w client
    have changes := (call.1.within pb object).host (.refl object) .trans E s w
    exact ⟨current _ _ changes client.current, (realises call client).2.2⟩

end Atomic

end FlipperMcp
