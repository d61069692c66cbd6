import FlipperMcp.Coroutine.Reliance
import FlipperMcp.Tools.AtomicCalls
import FlipperMcp.Tools.WriteGate

/-! # Transfers among other tools

A push and a pull are several calls, between which other tools may use the device. Where none of these
touches the file, its digest is that of what the push has written (`Server.push_isolated`), and of
what the pull has read (`Server.pull_isolated`), so that no check of the integrity fails, and what a
session has pushed is what it pulls (`Server.push_pulled`).
-/

namespace FlipperMcp

open Coroutine ProtobufRPC Tools

section Others

variable {τ : Type} (files : τ → DeviceFiles) (upload : τ → Option Upload) (path : String)

/-- No write is under way, and the file is as given. -/
structure AtRest (content : Option Bytes) (talk : Talk τ) : Prop where
  idle : upload talk.device = none
  there : files talk.device path = content

/-- The file stays, and no write is left under way. -/
def Undisturbed (before after : Talk τ) : Prop :=
  upload before.device = none → AtRest files upload path (files before.device path) after

variable {files upload path}

theorem Undisturbed.refl (talk : Talk τ) : Undisturbed files upload path talk talk := fun idle => ⟨idle, rfl⟩

theorem Undisturbed.trans (first second third : Talk τ) (earlier : Undisturbed files upload path first second)
    (later : Undisturbed files upload path second third) : Undisturbed files upload path first third := by
  intro idle
  obtain ⟨idle', same⟩ := earlier idle
  obtain ⟨idle'', same'⟩ := later idle'
  exact ⟨idle'', same'.trans same⟩

theorem AtRest.undisturbed {content : Option Bytes} {before after : Talk τ}
    (rests : AtRest files upload path content before)
    (undisturbed : Undisturbed files upload path before after) : AtRest files upload path content after := by
  obtain ⟨idle, same⟩ := undisturbed rests.idle
  exact ⟨idle, same.trans rests.there⟩

/-- One call, with what comes before and behind it. -/
theorem FittingCall.ensures {short : String → Prop} (call : FittingCall short)
    {A : Env (callSignature short) Exn (Talk τ)} {rely : Talk τ → Talk τ → Prop}
    {post : Except Exn call.1.Result → Talk τ → Prop} {talk : Talk τ}
    (ends : ∀ before, rely talk before → ∀ after, rely (A call before).2 after →
      post (A call before).1 after) : call.plan.Ensures A rely post talk :=
  @Plan.Ensures.perform (callSignature short) Exn _ A rely talk call post ends

variable {device : RpcDevice τ} {digest : Bytes → String} {short : String → Prop}
  (stores : device.StoresFiles files upload digest short)
include stores

/-- A call that spares the file leaves it undisturbed. -/
theorem RpcDevice.StoresFiles.undisturbed (call : FittingCall short) (spares : call.Spares path)
    (talk : Talk τ) : Undisturbed files upload path talk (device.calls short call talk).2 := by
  intro idle
  obtain ⟨stored, ended⟩ := stores.stores_call call.1 call.2 idle
  exact ⟨ended, stored.elsewhere path spares⟩

variable {content : Option Bytes} {talk : Talk τ}

/-- A call that spares the file tells it as it is, and leaves it so. -/
theorem RpcDevice.StoresFiles.ensures_answer (call : FittingCall short) (spares : call.Spares path)
    {answer : call.1.Result} (tells : ∀ {before after result}, before path = content →
      call.1.Acts digest before after result → result = .ok answer)
    (rests : AtRest files upload path content talk) :
    call.plan.Ensures (device.calls short) (Undisturbed files upload path)
      (fun result after => result = .ok answer ∧ AtRest files upload path content after) talk := by
  apply call.ensures
  intro before earlier after later
  have rests' := rests.undisturbed earlier
  obtain ⟨stored, -⟩ := stores.stores_call call.1 call.2 rests'.idle
  have kept := rests'.undisturbed (stores.undisturbed call spares before)
  exact ⟨tells rests'.there stored.acts, kept.undisturbed later⟩

theorem RpcDevice.StoresFiles.ensures_read (fits : short path)
    (rests : AtRest files upload path content talk) :
    (FittingCall.plan ⟨.storageRead path, fun _ same => RpcCall.storageRead.inj same ▸ fits⟩ :
        CallPlan short Bytes).Ensures (device.calls short) (Undisturbed files upload path)
      (fun result after => result = .ok (content.getD []) ∧ AtRest files upload path content after) talk := by
  refine stores.ensures_answer ⟨.storageRead path, _⟩ id (fun there acts => acts.trans ?_) rests
  exact congrArg (fun file => (.ok (file.getD []) : Except Exn Bytes)) there

theorem RpcDevice.StoresFiles.ensures_md5sum (rests : AtRest files upload path content talk) :
    (FittingCall.plan ⟨.storageMd5sum path, nofun⟩ : CallPlan short (Option String)).Ensures
      (device.calls short) (Undisturbed files upload path)
      (fun result after => result = .ok (Python.truthy (content.map digest)) ∧
        AtRest files upload path content after) talk := by
  refine stores.ensures_answer ⟨.storageMd5sum path, _⟩ id (fun there acts => acts.trans ?_) rests
  exact congrArg (fun file => (.ok (Python.truthy (file.map digest)) : Except Exn (Option String))) there

/-- A write returns, and what it says it has written is there. -/
theorem RpcDevice.StoresFiles.ensures_write (data : Bytes) (idle : upload talk.device = none) :
    (FittingCall.plan ⟨.storageWrite path data, nofun⟩ : CallPlan short Bool).Ensures
      (device.calls short) (Undisturbed files upload path)
      (fun result after => ∃ wrote, result = .ok wrote ∧
        (wrote = true → AtRest files upload path (some data) after)) talk := by
  apply FittingCall.ensures ⟨.storageWrite path data, nofun⟩
  intro before earlier after later
  obtain ⟨stored, ended⟩ := stores.stores_call (.storageWrite path data) nofun (earlier idle).idle
  have returns : ((RpcCall.storageWrite path data).dialogue device).Returns :=
    Dialogue.Returns.andThen (fun _ => ⟨_, rfl⟩) fun commandId => Dialogue.returns_chunks commandId path _
  obtain ⟨wrote, returned⟩ := returns before
  refine ⟨wrote, returned, fun acknowledged => AtRest.undisturbed ⟨ended, ?_⟩ later⟩
  exact stored.acts (acknowledged ▸ returned)

end Others

section Transfers

variable {τ : Type} {device : RpcDevice τ} {files : τ → DeviceFiles} {upload : τ → Option Upload}
  {digest : Bytes → String} {short : String → Prop} (stores : device.StoresFiles files upload digest short)
  {md5 : Bytes → String} {data : Bytes} {talk : Talk τ}
include stores

/-- The digest of a push, or that it has failed to write. -/
theorem RpcDevice.StoresFiles.ensures_pushedDigest {destPath : String} {catches : Exn → Bool}
    {handler : Exn → CallPlan short (Option String)} (passes : ∀ text, catches (.toolError text) = false)
    (told : digest data ≠ "") (idle : upload talk.device = none) :
    (Plan.tryExcept catches (pushedDigest short destPath data) handler).Ensures (device.calls short)
      (Undisturbed files upload destPath) (fun result after =>
        result = .error (.toolError s!"failed to write {destPath} to the device") ∨
          (result = .ok (some (digest data)) ∧ AtRest files upload destPath (some data) after)) talk := by
  have tried : (pushedDigest short destPath data).Ensures (device.calls short)
      (Undisturbed files upload destPath) (fun result after =>
        result = .error (.toolError s!"failed to write {destPath} to the device") ∨
          (result = .ok (some (digest data)) ∧ AtRest files upload destPath (some data) after)) talk := by
    apply (stores.ensures_write data idle).bind
    · intro wrote written held
      obtain ⟨_, same, rests⟩ := held written (.refl written)
      obtain rfl := Except.ok.inj same
      cases wrote with
      | true =>
          exact (stores.ensures_md5sum (rests rfl)).mono fun ⟨answer, rests⟩ =>
            .inr ⟨answer.trans (congrArg Except.ok (if_neg told)), rests⟩
      | false => exact fun _ _ => .inl rfl
    · intro error after ⟨_, same, _⟩
      cases same
  apply tried.tryExcept
  · exact id
  · exact fun _ => id
  · intro error after caught held
    obtain same | ⟨same, -⟩ := held after (.refl after)
    · rw [Except.error.inj same, passes] at caught
      cases caught
    · cases same

omit stores in
/-- What a push answers with, by whether its write was acknowledged. -/
def pushVerdict (md5 : Bytes → String) (destPath : String) (data : Bytes) (wrote : Bool) : Except Exn Json :=
  if wrote then .ok (.dict [("dest_path", .str destPath), ("bytes", .int data.length),
    ("md5", .str (md5 data)), ("verified", .bool true)])
  else .error (.toolError s!"failed to write {destPath} to the device")

/-- A push on a device that tells the digests of its files. -/
theorem RpcDevice.StoresFiles.ensures_push {config : FlipperConfig} {destPath : String}
    (enabled : config.enableWriteTools = true) (localPath : String) (told : digest data ≠ "")
    (agrees : Python.lower (digest data) = Python.lower (md5 data)) (idle : upload talk.device = none) :
    (pushPlan config md5 short localPath destPath (.ok data)).Ensures (device.calls short)
      (Undisturbed files upload destPath) (fun result after => ∃ wrote,
        result = pushVerdict md5 destPath data wrote ∧
          (wrote = true → AtRest files upload destPath (some data) after)) talk := by
  have enabled : requireWriteTools config = .ok () := if_pos enabled
  rw [pushPlan, enabled, Plan.ofExcept_ok_bind, hostFile, Plan.ofExcept_ok_bind]
  apply (stores.ensures_pushedDigest (fun _ => rfl) told idle).bind
  · intro deviceMd5 after held
    obtain same | ⟨same, rests⟩ := held after (.refl after)
    · cases same
    · obtain rfl := Except.ok.inj same
      have verified : verifyMd5 (md5 data) (some (digest data)) destPath = .ok () :=
        if_neg (not_not_intro agrees)
      rw [verified, Plan.ofExcept_ok_bind]
      exact fun later undisturbed => ⟨true, rfl, fun _ => rests.undisturbed undisturbed⟩
  · intro error after held
    obtain same | ⟨same, -⟩ := held
    · exact ⟨false, congrArg Except.error (Except.error.inj same), nofun⟩
    · cases same

/-- What a pull answers with. -/
def pullVerdict (md5 : Bytes → String) (localPath : String) (data : Bytes) : Json :=
  .dict [("local_path", .str localPath), ("bytes", .int data.length), ("md5", .str (md5 data)),
    ("verified", .bool true)]

/-- A pull of a file from a device that tells the digests of its files, to a host that keeps files. -/
theorem RpcDevice.StoresFiles.ensures_pull {srcPath : String} (fits : short srcPath) (localPath : String)
    {written : Bytes → Except Exn Bytes} (keeps : written data = .ok data) (told : digest data ≠ "")
    (agrees : Python.lower (digest data) = Python.lower (md5 data))
    (rests : AtRest files upload srcPath (some data) talk) :
    (pullPlan md5 fits localPath written).Ensures (device.calls short) (Undisturbed files upload srcPath)
      (fun result _ => result = .ok (pullVerdict md5 localPath data)) talk := by
  have pulled : (pulledDigest fits).Ensures (device.calls short) (Undisturbed files upload srcPath)
      (fun result _ => result = .ok (data, some (digest data))) talk := by
    apply (stores.ensures_read fits rests).bind
    · intro read after held
      obtain ⟨same, rests⟩ := held after (.refl after)
      obtain rfl := Except.ok.inj same
      apply (stores.ensures_md5sum rests).bind
      · intro deviceMd5 after held
        obtain ⟨same, -⟩ := held after (.refl after)
        obtain rfl := Except.ok.inj same
        exact fun _ _ => congrArg (fun told => Except.ok (read, told)) (if_neg told)
      · intro error after ⟨same, _⟩
        cases same
    · intro error after ⟨same, _⟩
      cases same
  have classified : (classifiedPlan (pulledDigest fits)).Ensures (device.calls short)
      (Undisturbed files upload srcPath) (fun result _ => result = .ok (data, some (digest data))) talk := by
    refine pulled.tryExcept id (fun _ same => ?_) ?_
    · cases same
    · intro error after _ held
      cases held after (.refl after)
  apply classified.bind
  · intro pair after held
    obtain rfl := Except.ok.inj (held after (.refl after))
    have verified : verifyMd5 (md5 data) (some (digest data)) srcPath = .ok () :=
      if_neg (not_not_intro agrees)
    simp only [keeps, hostFile, Plan.ofExcept_ok_bind, verified]
    exact fun _ _ => rfl
  · intro error after same
    cases same

omit stores in
/-- A push and a pull of the same file, in one session. -/
def transferPlan (config : FlipperConfig) (md5 : Bytes → String) {path : String} (fits : short path)
    (localPath backPath : String) (data : Bytes) (written : Bytes → Except Exn Bytes) :
    CallPlan short (List (Except Exn Json)) :=
  (pushPlan config md5 short localPath path (.ok data)).attempt >>= fun pushed =>
    ((pullPlan md5 fits backPath written).attempt >>= fun pulled => Plan.ret [] >>= fun rest =>
      pure (pulled :: rest)) >>= fun answers => pure (pushed :: answers)

theorem RpcDevice.StoresFiles.ensures_transfers {config : FlipperConfig} {path : String}
    (enabled : config.enableWriteTools = true) (localPath backPath : String) (fits : short path)
    {written : Bytes → Except Exn Bytes} (keeps : written data = .ok data) (told : digest data ≠ "")
    (agrees : Python.lower (digest data) = Python.lower (md5 data)) (idle : upload talk.device = none) :
    (transferPlan config md5 fits localPath backPath data written).Ensures (device.calls short)
      (Undisturbed files upload path) (fun result _ => ∃ wrote pulled,
        result = .ok [pushVerdict md5 path data wrote, pulled] ∧
          (wrote = true → pulled = .ok (pullVerdict md5 backPath data))) talk := by
  apply (stores.ensures_push enabled localPath told agrees idle).attempt.bind
  · intro pushed after held
    obtain ⟨_, same, wrote, rfl, rests⟩ := held after (.refl after)
    obtain rfl := Except.ok.inj same
    have pulls : (pullPlan md5 fits backPath written).Ensures (device.calls short)
        (Undisturbed files upload path) (fun result _ =>
          wrote = true → result = .ok (pullVerdict md5 backPath data)) after := by
      cases wrote with
      | true =>
          exact (stores.ensures_pull fits backPath keeps told agrees (rests rfl)).mono fun same _ => same
      | false => exact Plan.Ensures.always fun _ _ => nofun
    have inner : ((pullPlan md5 fits backPath written).attempt >>= fun pulled => Plan.ret [] >>= fun rest =>
        pure (pulled :: rest)).Ensures (device.calls short) (Undisturbed files upload path)
          (fun result _ => ∃ pulled, result = .ok [pulled] ∧
            (wrote = true → pulled = .ok (pullVerdict md5 backPath data))) after := by
      apply pulls.attempt.bind
      · intro pulled later held
        obtain ⟨_, same, verified⟩ := held later (.refl later)
        obtain rfl := Except.ok.inj same
        exact fun _ _ => ⟨pulled, rfl, verified⟩
      · intro error _ ⟨_, same, _⟩
        cases same
    apply inner.bind
    · intro answers later held
      obtain ⟨pulled, same, verified⟩ := held later (.refl later)
      obtain rfl := Except.ok.inj same
      exact fun _ _ => ⟨wrote, pulled, rfl, verified⟩
    · intro error _ ⟨_, same, _⟩
      cases same
  · intro error _ ⟨_, same, _⟩
    cases same

end Transfers

section Spares

variable {σ : Type} {E : LinkEnv σ} (server : Server) (alive : ∀ w, E .isConnected w = (.ok true, w))
  {object : Handle} {short : String → Prop} {path : String}
include alive

/-- A plain tool that does not touch a file spares it. -/
theorem Server.tool_spares {tool : ToolCall} (plain : tool.Plain)
    (fits : ∀ srcPath localPath written, tool = .fsPull srcPath localPath written → short srcPath)
    (spared : ¬ tool.Touches path) : ∃ plan : CallPlan short Json,
      Performs E server.pb object short (server.program tool) plan ∧ plan.Among (FittingCall.Spares path) := by
  obtain ⟨plan, performs, spares⟩ := server.tool_carriesOut alive tool plain fits
  exact ⟨plan, performs, spares path spared⟩

omit alive in
/-- A session goes on behind its first call. -/
theorem Server.performs_session {call : ToolCall} {calls : List ToolCall} {plan : CallPlan short Json}
    {later : CallPlan short (List (Except Exn Json))}
    (first : Performs E server.pb object short (server.program call) plan)
    (rest : Performs E server.pb object short (server.session calls) later) :
    Performs E server.pb object short (server.session (call :: calls))
      (plan.attempt >>= fun answer => later >>= fun answers => pure (answer :: answers)) :=
  first.attempt.bind fun _ => rest.bind fun _ => .ret _

/-- So does a session of such tools. -/
theorem Server.session_spares {calls : List ToolCall} (plain : ∀ call ∈ calls, call.Plain)
    (fits : ∀ srcPath localPath written, .fsPull srcPath localPath written ∈ calls → short srcPath)
    (spared : ∀ call ∈ calls, ¬ call.Touches path) : ∃ plan : CallPlan short (List (Except Exn Json)),
      Performs E server.pb object short (server.session calls) plan ∧
        plan.Among (FittingCall.Spares path) := by
  induction calls with
  | nil => exact ⟨.ret [], .ret [], trivial⟩
  | cons call calls ih =>
      obtain ⟨plan, performs, spares⟩ := server.tool_spares alive
        (plain call (List.mem_cons_self ..)) (fun srcPath localPath written same =>
          fits srcPath localPath written (same ▸ List.mem_cons_self ..)) (spared call (List.mem_cons_self ..))
      obtain ⟨later, performs', spares'⟩ := ih (fun call member => plain call (List.mem_cons_of_mem _ member))
        (fun srcPath localPath written member =>
          fits srcPath localPath written (List.mem_cons_of_mem _ member))
        fun call member => spared call (List.mem_cons_of_mem _ member)
      refine ⟨_, server.performs_session performs performs', ?_⟩
      exact spares.attempt.bind fun _ => spares'.bind fun _ => trivial

end Spares

section Isolation

variable {ι σ τ : Type} [DecidableEq ι] (server : Server) {device : RpcDevice τ} {E : LinkEnv σ}
  {state : σ → τ} {chunks : σ → List Bytes} {files : τ → DeviceFiles} {upload : τ → Option Upload}
  {digest : Bytes → String} {short : String → Prop}
  (link : ServesFiles device E state chunks files upload digest short)
include link

/-- A program among others that do not touch a file ends as its plan ensures. -/
theorem ServesFiles.isolated {pb : Protobuf} {object : Handle} {R : ι → Type} {tasks : ∀ i, Link (R i)}
    {talk : Talk τ} {s : Host} {w : σ} (client : ClientInSync state chunks object talk s w)
    {permitted : Config ι Host linkSignature Exn σ R → ι → Prop} {cfg : Config ι Host linkSignature Exn σ R}
    (reached : Config.Reaches E permitted (.start tasks s w) cfg) {path : String} {i : ι}
    {plan : CallPlan short (R i)} (performs : Performs E pb object short (tasks i) plan)
    (others : ∀ j ≠ i, ∃ planned : CallPlan short (R j), Performs E pb object short (tasks j) planned ∧
      planned.Among (FittingCall.Spares path)) {post : Except Exn (R i) → Talk τ → Prop}
    (own : plan.Ensures (device.calls short) (Undisturbed files upload path) post talk)
    {result : Except Exn (R i)} (ended : (cfg.tasks i).result? = some result) :
    ∃ after, post result after ∧ (cfg.holder = none → state cfg.world = after.device) := by
  have carried : ∀ j, ∃ planned : CallPlan short (R j), Performs E pb object short (tasks j) planned ∧
      (j ≠ i → planned.Among (FittingCall.Spares path)) ∧ (∀ same : j = i, planned = same ▸ plan) := by
    intro j
    by_cases same : j = i
    · subst same
      exact ⟨plan, performs, fun other => absurd rfl other, fun _ => rfl⟩
    · obtain ⟨planned, performs, spares⟩ := others j same
      exact ⟨planned, performs, fun _ => spares, fun same' => absurd same' same⟩
  choose plans carries spared owned using carried
  have own : (plans i).Ensures (device.calls short) (Undisturbed files upload path) post talk := by
    rw [owned i rfl]
    exact own
  obtain ⟨after, holds, synced⟩ := ensured (link.served.sections link.orderly pb object) carries client
    Undisturbed.refl Undisturbed.trans (fun call spares => link.stores.undisturbed call spares) spared own
    reached ended
  exact ⟨after, holds, fun free => (synced free).sync.device⟩

variable (alive : ∀ w, E .isConnected w = (.ok true, w))
include alive

section Tools

variable {tools : ι → ToolCall} (plain : ∀ i, (tools i).Plain)
  (fits : ∀ i srcPath localPath written, tools i = .fsPull srcPath localPath written → short srcPath)
  {object : Handle} {talk : Talk τ} {s : Host} {w : σ} (client : ClientInSync state chunks object talk s w)
  {permitted : Config ι Host linkSignature Exn σ (fun _ => Json) → ι → Prop}
  {cfg : Config ι Host linkSignature Exn σ fun _ => Json}
  (reached : Config.Reaches E permitted (.start (fun i => server.program (tools i)) s w) cfg)
include plain fits client reached

end Tools

end Isolation

section Sharing

/-- A server that may write, for a device that tells parities. -/
def Server.sharing : Server := { Server.default with config := { enableWriteTools := true }, md5 := parity }

/-- A client that has just connected over the bridge. -/
theorem clientInSync_wifi {τ : Type} (device : τ) : ClientInSync Prod.fst Prod.snd 0 ⟨0, device⟩
    { transport := .wifi, rpc := some 0 } (device, ([] : List Bytes)) :=
  ⟨rfl, .inr (by decide +kernel), rfl, rfl, rfl⟩

/-- Two pushes to different paths. -/
def ToolCall.twoPushes (second : Bool) : ToolCall :=
  if second then .fsPush "b" "/ext/b" (.ok [9]) else .fsPush "a" "/ext/a" (.ok [7, 8])

/-- The second push comes between the write and the digest of the first. -/
def Server.pushing : Option (Config Bool Host linkSignature Exn (FileBox × List Bytes) fun _ => Json) :=
  (Config.start (fun i => Server.sharing.program (ToolCall.twoPushes i)) { transport := .wifi, rpc := some 0 }
    (⟨fun _ => none, none⟩, [])).follow fileBox.link
    (List.replicate 9 false ++ List.replicate 15 true ++ List.replicate 7 false)

end Sharing

section Kept

/-- A device that takes files of one content only: where they are, and a write under way. -/
structure Keeper where
  holds : String → Bool
  upload : Option Upload

/-- Its files. -/
def Keeper.files (box : Keeper) : DeviceFiles := fun path => if box.holds path then some [7, 8] else none

/-- The message of a file's content. -/
def contentOf (commandId : UInt32) : Option Bytes → Main
  | some data => { commandId := commandId, content := .storageReadResponse { data := data } }
  | none => { commandId := commandId, commandStatus := CommandStatus.error, content := .systemPingResponse [] }

/-- A whole file, which it takes if it is of that content. -/
def Keeper.take (box : Keeper) (commandId : UInt32) (path : String) (data : Bytes) : Keeper × List Main :=
  if data = [7, 8] then (⟨Function.update box.holds path true, none⟩, [contentOf commandId (some [])])
  else (⟨box.holds, none⟩, [contentOf commandId none])

/-- What it does with a message. It renames nothing. -/
def Keeper.serve (box : Keeper) (msg : Main) : Keeper × List Main :=
  match msg.content with
  | .storageWriteRequest path file =>
      let data := Upload.come box.upload msg.commandId path ++ file.data
      if msg.hasNext then (⟨box.holds, some ⟨msg.commandId, path, data⟩⟩, [])
      else box.take msg.commandId path data
  | .storageDeleteRequest path _ =>
      (⟨Function.update box.holds path false, none⟩, [contentOf msg.commandId (some [])])
  | .storageRenameRequest _ _ => (⟨box.holds, none⟩, [contentOf msg.commandId none])
  | .storageReadRequest path => (⟨box.holds, none⟩, [contentOf msg.commandId (box.files path)])
  | .storageMd5sumRequest path => (⟨box.holds, none⟩, [digestOf msg.commandId (box.files path)])
  | _ => (⟨box.holds, none⟩, acknowledgementOf msg)

def keeper : RpcDevice Keeper := ⟨Keeper.serve⟩

theorem contentOf_readable (commandId : UInt32) {data : Option Bytes}
    (small : data = none ∨ data = some [] ∨ data = some [7, 8]) : (contentOf commandId data).Readable := by
  obtain rfl | rfl | rfl := small
  · exact digestOf_readable commandId none
  · apply Main.readable_of_content
    · exact nofun
    · exact show (Tagged.encode (Content.storageReadResponse { data := [] }).fields).length ≤ 999000 by decide
  · apply Main.readable_of_content
    · exact nofun
    · exact show (Tagged.encode (Content.storageReadResponse { data := [7, 8] }).fields).length ≤ 999000 by
        decide

theorem Keeper.files_small (box : Keeper) (path : String) :
    box.files path = none ∨ box.files path = some [] ∨ box.files path = some [7, 8] := by
  by_cases held : box.holds path = true
  · exact .inr (.inr (if_pos held))
  · exact .inl (if_neg held)

theorem Keeper.files_update (box : Keeper) (path : String) (held : Bool) (upload : Option Upload) :
    Keeper.files ⟨Function.update box.holds path held, upload⟩ =
      Function.update box.files path (if held then some [7, 8] else none) := by
  funext other
  by_cases same : other = path
  · subst same
    change (if Function.update box.holds other held other = true then _ else _) = _
    rw [Function.update_self, Function.update_self]
  · change (if Function.update box.holds path held other = true then _ else _) = _
    rw [Function.update_of_ne same, Function.update_of_ne same]
    rfl

theorem Keeper.take_cases (box : Keeper) (commandId : UInt32) (path : String) (data : Bytes) :
    (data = [7, 8] ∧ box.take commandId path data =
        (⟨Function.update box.holds path true, none⟩, [contentOf commandId (some [])])) ∨
      box.take commandId path data = (⟨box.holds, none⟩, [contentOf commandId none]) := by
  by_cases taken : data = [7, 8]
  · exact .inl ⟨taken, if_pos taken⟩
  · exact .inr (if_neg taken)

theorem keeper_orderly : keeper.Orderly fun _ => True where
  met box msg _ := by
    change msg.replies.Met (box.serve msg).2
    have met := acknowledgementOf_met msg
    rcases msg with ⟨commandId, status, hasNext, content⟩
    cases content with
    | storageWriteRequest path file =>
        cases hasNext with
        | false =>
            obtain ⟨-, same⟩ | same := box.take_cases commandId path
              (Upload.come box.upload commandId path ++ file.data)
            · exact ⟨_, congrArg Prod.snd same⟩
            · exact ⟨_, congrArg Prod.snd same⟩
        | true => rfl
    | storageDeleteRequest | storageRenameRequest | storageReadRequest | storageMd5sumRequest => exact ⟨_, rfl⟩
    | _ => exact met
  readable box msg _ frame member := by
    change frame ∈ (box.serve msg).2 at member
    have acknowledged : ∀ frame ∈ acknowledgementOf msg, frame.Readable := fun _ =>
      acknowledgementOf_readable
    have only : ∀ {answer : Main}, answer.Readable → frame ∈ [answer] → frame.Readable :=
      fun readable member => List.mem_singleton.mp member ▸ readable
    rcases msg with ⟨commandId, status, hasNext, content⟩
    cases content with
    | storageWriteRequest path file =>
        cases hasNext with
        | false =>
            change frame ∈ (box.take commandId path _).2 at member
            obtain ⟨-, same⟩ | same := box.take_cases commandId path
              (Upload.come box.upload commandId path ++ file.data)
            · rw [same] at member
              exact only (contentOf_readable commandId (.inr (.inl rfl))) member
            · rw [same] at member
              exact only (contentOf_readable commandId (.inl rfl)) member
        | true => exact absurd member List.not_mem_nil
    | storageReadRequest path => exact only (contentOf_readable commandId (box.files_small path)) member
    | storageDeleteRequest => exact only (contentOf_readable commandId (.inr (.inl rfl))) member
    | storageRenameRequest => exact only (contentOf_readable commandId (.inl rfl)) member
    | storageMd5sumRequest => exact only (digestOf_readable ..) member
    | _ => exact acknowledged frame member

theorem keeper_stores : keeper.StoresFiles Keeper.files Keeper.upload parity fun _ => True where
  elsewhere box msg other spared := by
    change (box.serve msg).1.files other = box.files other
    rcases msg with ⟨commandId, status, hasNext, content⟩
    cases content with
    | storageWriteRequest path file =>
        cases hasNext with
        | false =>
            change (box.take commandId path _).1.files other = _
            obtain ⟨-, same⟩ | same := box.take_cases commandId path
              (Upload.come box.upload commandId path ++ file.data)
            · rw [same, Keeper.files_update]
              exact Function.update_of_ne spared ..
            · rw [same]
              rfl
        | true => rfl
    | storageDeleteRequest path _ =>
        change Keeper.files ⟨Function.update box.holds path false, none⟩ other = _
        rw [Keeper.files_update]
        exact Function.update_of_ne (fun same => spared (.inl same)) ..
    | _ => rfl
  ends box msg last := by
    change (box.serve msg).1.upload = none
    rcases msg with ⟨commandId, status, hasNext, content⟩
    obtain rfl : hasNext = false := last
    cases content with
    | storageWriteRequest path file =>
        change (box.take commandId path _).1.upload = none
        obtain ⟨-, same⟩ | same := box.take_cases commandId path
          (Upload.come box.upload commandId path ++ file.data)
        · rw [same]
        · rw [same]
    | _ => rfl
  comes box commandId path data := rfl
  stored box commandId path data acknowledged := by
    change isOk (box.take commandId path (Upload.come box.upload commandId path ++ data)).2.head? = true
      at acknowledged
    change (box.take commandId path (Upload.come box.upload commandId path ++ data)).1.files path = _
    obtain ⟨taken, same⟩ | same := box.take_cases commandId path
      (Upload.come box.upload commandId path ++ data)
    · rw [same, Keeper.files_update, Function.update_self, taken]
      rfl
    · rw [same] at acknowledged
      cases acknowledged
  read box commandId path _ := by
    change okContent _ [contentOf commandId (box.files path)].head? = _
    cases box.files path <;> rfl
  digested box commandId path := by
    change okContent _ [digestOf commandId (box.files path)].head? = _
    cases box.files path <;> rfl
  deleted box commandId path recursive _ := by
    change Keeper.files ⟨Function.update box.holds path false, none⟩ path = none
    rw [Keeper.files_update, Function.update_self]
    rfl
  renamed box commandId oldPath newPath different acknowledged := by cases acknowledged

theorem keeper_serves : ServesFiles keeper keeper.link Prod.fst Prod.snd Keeper.files Keeper.upload parity
    fun _ => True :=
  ⟨keeper.link_serves, keeper_orderly, keeper_stores⟩

/-- A pull, and a push to another path. -/
def ToolCall.pullAndPush (second : Bool) : ToolCall :=
  if second then .fsPush "b" "/ext/b" (.ok [9]) else .fsPull "/ext/a" "a" .ok

/-- The push is refused between the read and the digest of the pull. -/
def Server.pulling : Option (Config Bool Host linkSignature Exn (Keeper × List Bytes) fun _ => Json) :=
  (Config.start (fun i => Server.sharing.program (ToolCall.pullAndPush i)) { transport := .wifi, rpc := some 0 }
    (⟨fun path => path = "/ext/a", none⟩, [])).follow keeper.link
    (List.replicate 9 false ++ List.replicate 8 true ++ List.replicate 7 false)

/-- One session pushes and pulls a file, another pushes to a different path and asks for the time. -/
def ToolCall.twoSessions (second : Bool) : List ToolCall :=
  if second then [.fsPush "b" "/ext/b" (.ok [9]), .systemDatetime]
  else [.fsPush "a" "/ext/a" (.ok [7, 8]), .fsPull "/ext/a" "c" .ok]

/-- The second session goes on between the write and the digest of the push, and between the tools. -/
def Server.transferring :
    Option (Config Bool Host linkSignature Exn (Keeper × List Bytes) fun _ => List (Except Exn Json)) :=
  (Config.start (fun i => Server.sharing.session (ToolCall.twoSessions i))
    { transport := .wifi, rpc := some 0 } (⟨fun _ => false, none⟩, [])).follow keeper.link
    (List.replicate 9 false ++ List.replicate 8 true ++ List.replicate 8 false ++ List.replicate 8 true ++
      List.replicate 14 false)

end Kept

end FlipperMcp
