import FlipperMcp.Rpc.ChunkedWrite
import FlipperMcp.Rpc.LinearCalls

/-! # The files of a device

A device that stores files puts the chunks of a write together, and answers reads from what it has
stored (`StoresFiles`). Calls of concurrent tasks then act on its files like operations of one file
store, each of which takes effect at once (`RpcCall.files_linearizable`), however many chunks it is sent
in.
-/

namespace FlipperMcp

open Coroutine ProtobufRPC

/-- The contents of the files, by path. -/
abbrev DeviceFiles := String → Option Bytes

/-- One path lies beneath another. -/
def Beneath (path other : String) : Prop := ∃ rest : String, other = path ++ "/" ++ rest

/-- Which files a message may change. An application or an update may change any. -/
def Content.Touches (other : String) : Content → Prop
  | .storageWriteRequest path _ => other = path
  | .storageDeleteRequest path _ => other = path ∨ Beneath path other
  | .storageRenameRequest oldPath newPath =>
      (other = oldPath ∨ Beneath oldPath other) ∨ other = newPath ∨ Beneath newPath other
  | .systemUpdateRequest _ | .systemRebootRequest _ | .appStartRequest _ _ => True
  | _ => False

/-- A write under way, with what has come of the content. -/
structure Upload where
  commandId : UInt32
  path : String
  data : Bytes

/-- What has come of one write. -/
def Upload.come (upload : Option Upload) (commandId : UInt32) (path : String) : Bytes :=
  match upload with
  | some upload => if upload.commandId = commandId ∧ upload.path = path then upload.data else []
  | none => []

/-- A device that stores files. Whatever is not a chunk of a write ends a write under way. -/
structure RpcDevice.StoresFiles {τ : Type} (device : RpcDevice τ) (files : τ → DeviceFiles)
    (upload : τ → Option Upload) (digest : Bytes → String) (short : String → Prop) : Prop where
  elsewhere : ∀ state (msg : Main) other, ¬ msg.content.Touches other →
    files (device.serve state msg).1 other = files state other
  ends : ∀ state (msg : Main), msg.hasNext = false → upload (device.serve state msg).1 = none
  comes : ∀ state commandId path data,
    upload (device.serve state (writeRequest commandId path data true)).1 =
      some ⟨commandId, path, Upload.come (upload state) commandId path ++ data⟩
  stored : ∀ state commandId path data,
    isOk (device.serve state (writeRequest commandId path data false)).2.head? = true →
      files (device.serve state (writeRequest commandId path data false)).1 path =
        some (Upload.come (upload state) commandId path ++ data)
  read : ∀ state commandId path, short path →
    okContent (fun
      | .storageReadResponse file => some file.data
      | _ => none) (device.serve state { commandId := commandId, content := .storageReadRequest path }).2.head? =
      files state path
  digested : ∀ state commandId path,
    okContent (fun
      | .storageMd5sumResponse md5sum => some md5sum
      | _ => none) (device.serve state { commandId := commandId, content := .storageMd5sumRequest path }).2.head? =
      (files state path).map digest
  deleted : ∀ state commandId path recursive,
    let served := device.serve state { commandId := commandId, content := .storageDeleteRequest path recursive }
    isOk served.2.head? = true → files served.1 path = none
  renamed : ∀ state commandId oldPath newPath, oldPath ≠ newPath →
    let served := device.serve state { commandId := commandId, content := .storageRenameRequest oldPath newPath }
    isOk served.2.head? = true → files served.1 newPath = files state oldPath ∧ files served.1 oldPath = none

/-- Which files a call may change. -/
def RpcCall.Touches (other : String) : RpcCall → Prop
  | storageWrite path _ => other = path
  | storageDelete path _ => other = path ∨ Beneath path other
  | storageRename oldPath newPath =>
      (other = oldPath ∨ Beneath oldPath other) ∨ other = newPath ∨ Beneath newPath other
  | systemUpdate _ | systemRebootUpdate | appStart _ _ => True
  | _ => False

/-- What a call returns of the files, and what its success means for them. -/
def RpcCall.Acts (digest : Bytes → String) (before after : DeviceFiles) :
    (call : RpcCall) → Except Exn call.Result → Prop
  | storageWrite path content, result => result = .ok true → after path = some content
  | storageRead path, result => result = .ok ((before path).getD [])
  | storageMd5sum path, result => result = .ok (Python.truthy ((before path).map digest))
  | storageDelete path _, result => result = .ok true → after path = none
  | storageRename oldPath newPath, result =>
      result = .ok true → oldPath ≠ newPath → after newPath = before oldPath ∧ after oldPath = none
  | _, _ => True

/-- One call as an operation of a file store. -/
structure RpcCall.Stores (digest : Bytes → String) (call : RpcCall) (before : DeviceFiles)
    (result : Except Exn call.Result) (after : DeviceFiles) : Prop where
  elsewhere : ∀ other, ¬ call.Touches other → after other = before other
  acts : call.Acts digest before after result

namespace Dialogue

variable {τ α β : Type} {device : RpcDevice τ} {P : τ → Prop}

/-- It keeps what is true of the device. -/
def Keeps (P : τ → Prop) (dialogue : Dialogue τ α) : Prop :=
  ∀ talk, P talk.device → P (dialogue talk).2.device

theorem Keeps.result (value : Except Exn α) : Keeps P (Dialogue.result value) := fun _ holds => holds

theorem Keeps.commandId : Keeps P Dialogue.commandId := fun _ holds => holds

theorem Keeps.andThen {first : Dialogue τ α} {rest : α → Dialogue τ β} (keeps : Keeps P first)
    (then_ : ∀ value, Keeps P (rest value)) : Keeps P (first.andThen rest) := by
  intro talk holds
  cases ended : (first talk).1 with
  | ok value =>
      rw [andThen_ok ended]
      exact then_ value _ (keeps talk holds)
  | error error =>
      rw [andThen_error ended]
      exact keeps talk holds

theorem Keeps.reading {first : Dialogue τ α} {read : α → Except Exn β} (keeps : Keeps P first) :
    Keeps P (first.reading read) :=
  keeps

theorem Keeps.orReturn {failure : α} {tried : Dialogue τ α} (keeps : Keeps P tried) :
    Keeps P (Dialogue.orReturn failure tried) := by
  intro talk holds
  cases ended : (tried talk).1 with
  | ok value =>
      rw [orReturn_ok ended]
      exact keeps talk holds
  | error error =>
      rw [orReturn_error ended]
      exact keeps talk holds

theorem Keeps.tell {msg : Main} (kept : ∀ state, P state → P (device.serve state msg).1) :
    Keeps P (Dialogue.tell device msg) :=
  fun talk holds => kept talk.device holds

theorem Keeps.ask {content : Content}
    (kept : ∀ state commandId, P state → P (device.serve state { commandId := commandId, content := content }).1) :
    Keeps P (Dialogue.ask device content) :=
  Keeps.commandId.andThen fun commandId => .tell fun state => kept state commandId

end Dialogue

/-- The files are these, and no write is under way. -/
def Stands {τ : Type} (files : τ → DeviceFiles) (upload : τ → Option Upload) (before : DeviceFiles)
    (state : τ) : Prop :=
  files state = before ∧ upload state = none

section Calls

variable {τ : Type} {device : RpcDevice τ} {files : τ → DeviceFiles} {upload : τ → Option Upload}
  {digest : Bytes → String} {short : String → Prop}
  (stores : device.StoresFiles files upload digest short)
include stores

namespace RpcDevice.StoresFiles

theorem keeps_ask {before : DeviceFiles} {content : Content} (harmless : ∀ other, ¬ content.Touches other) :
    Dialogue.Keeps (Stands files upload before) (Dialogue.ask device content) := by
  apply Dialogue.Keeps.ask
  intro state commandId holds
  refine ⟨?_, stores.ends state _ rfl⟩
  funext other
  exact (stores.elsewhere state _ other (harmless other)).trans (congrFun holds.1 other)

theorem keeps_properties {before : DeviceFiles} (keys : List String) (info : Dict) :
    Dialogue.Keeps (Stands files upload before) (Dialogue.properties device keys info) := by
  induction keys generalizing info with
  | nil => exact .result _
  | cons key keys ih => exact (stores.keeps_ask fun _ => id).reading.andThen fun _ => ih _

theorem keeps_list {before : DeviceFiles} (path : String) (includeMd5 : Bool) (filterMaxSize : ℤ) :
    Dialogue.Keeps (Stands files upload before) (Dialogue.list device path includeMd5 filterMaxSize) := by
  refine Dialogue.Keeps.andThen .commandId fun commandId => ?_
  refine Dialogue.Keeps.andThen (.result _) fun maxSize => ?_
  apply Dialogue.Keeps.reading
  apply Dialogue.Keeps.tell
  intro state holds
  refine ⟨?_, stores.ends state _ rfl⟩
  funext other
  exact (stores.elsewhere state _ other id).trans (congrFun holds.1 other)

theorem keeps_gpio {before : DeviceFiles} (pin : ℤ) :
    Dialogue.Keeps (Stands files upload before) (Dialogue.gpio device pin) := by
  apply Dialogue.Keeps.orReturn
  refine Dialogue.Keeps.andThen .commandId fun modeId => ?_
  refine Dialogue.Keeps.andThen (.result _) fun code => ?_
  apply Dialogue.Keeps.andThen
  · apply Dialogue.Keeps.reading
    apply Dialogue.Keeps.tell
    intro state holds
    refine ⟨?_, stores.ends state _ rfl⟩
    funext other
    exact (stores.elsewhere state _ other id).trans (congrFun holds.1 other)
  · intro mode
    cases mode with
    | none => exact .result _
    | some mode => exact (stores.keeps_ask fun _ => id).reading

/-- **What touches no file** leaves the files alone. -/
theorem keeps_call {before : DeviceFiles} (call : RpcCall) (harmless : ∀ other, ¬ call.Touches other) :
    Dialogue.Keeps (Stands files upload before) (call.dialogue device) := by
  cases call with
  | storageWrite path _ => exact absurd rfl (harmless path)
  | storageDelete path _ => exact absurd (.inl rfl) (harmless path)
  | storageRename oldPath _ => exact absurd (.inl (.inl rfl)) (harmless oldPath)
  | systemUpdate _ | systemRebootUpdate | appStart _ _ => exact absurd trivial (harmless "")
  | gpioRead pin => exact stores.keeps_gpio pin
  | systemPowerInfo => exact (stores.keeps_ask fun _ => id).reading
  | getDeviceInfo =>
      apply (stores.keeps_ask fun _ => id).reading.andThen
      intro info
      by_cases none_ : info.keys = []
      · simp only [none_, ↓reduceIte]
        exact stores.keeps_properties propertyKeys info
      · simp only [none_, ↓reduceIte]
        exact .result _
  | storageList path includeMd5 filterMaxSize | storageListDetailed path includeMd5 filterMaxSize =>
      exact (stores.keeps_list path includeMd5 filterMaxSize).reading
  | ping _ | appLockStatus | appGetError | desktopIsLocked | systemProtobufVersion | systemDatetime
  | getProperty _ | storageRead _ | storageInfo _ | storageStat _ | storageTimestamp _ | storageMkdir _
  | storageMd5sum _ => exact (stores.keeps_ask fun _ => id).reading

theorem ask_elsewhere {content : Content} {other : String} (spared : ¬ content.Touches other)
    (talk : Talk τ) : files (Dialogue.ask device content talk).2.device other = files talk.device other :=
  stores.elsewhere talk.device _ other spared

theorem ask_ends (content : Content) (talk : Talk τ) :
    upload (Dialogue.ask device content talk).2.device = none :=
  stores.ends talk.device _ rfl

theorem chunks_elsewhere (commandId : UInt32) {path other : String} (spared : other ≠ path)
    (parts : List Bytes) (content : Option Bytes) :
    Dialogue.Keeps (fun state => files state other = content) (Dialogue.chunks device commandId path parts) := by
  have told : ∀ data hasNext, Dialogue.Keeps (fun state => files state other = content)
      (Dialogue.tell device (writeRequest commandId path data hasNext)) := by
    intro data hasNext
    apply Dialogue.Keeps.tell
    intro state same
    exact (stores.elsewhere state (writeRequest commandId path data hasNext) other spared).trans same
  induction parts with
  | nil => exact .result _
  | cons data parts ih =>
      cases parts with
      | nil => exact (told data false).reading
      | cons next parts => exact (told data true).andThen fun _ => ih

/-- **The chunks are put together.** Each comes behind those before it, and with the last the file
is there. -/
theorem chunks_stored (commandId : UInt32) (path : String) {parts : List Bytes} (some_ : parts ≠ [])
    (talk : Talk τ) : let ended := Dialogue.chunks device commandId path parts talk
    upload ended.2.device = none ∧ (ended.1 = .ok true → files ended.2.device path =
      some (Upload.come (upload talk.device) commandId path ++ parts.flatten)) := by
  induction parts generalizing talk with
  | nil => exact absurd rfl some_
  | cons data parts ih =>
      cases parts with
      | nil =>
          refine ⟨stores.ends talk.device (writeRequest commandId path data false) rfl, ?_⟩
          intro acknowledged
          rw [List.flatten_singleton]
          exact stores.stored talk.device commandId path data (Except.ok.inj acknowledged)
      | cons next parts =>
          obtain ⟨ended, stored⟩ := ih nofun
            (Dialogue.tell device (writeRequest commandId path data true) talk).2
          refine ⟨ended, fun acknowledged => ?_⟩
          have come : Upload.come (upload (Dialogue.tell device (writeRequest commandId path data true)
              talk).2.device) commandId path = Upload.come (upload talk.device) commandId path ++ data := by
            rw [Dialogue.tell, stores.comes talk.device commandId path data]
            exact if_pos ⟨rfl, rfl⟩
          rw [List.flatten_cons, ← List.append_assoc, ← come]
          exact stored acknowledged

/-- **Every call** is an operation of a file store. -/
theorem stores_call (call : RpcCall) (within : ∀ path, call = .storageRead path → short path)
    {talk : Talk τ} (idle : upload talk.device = none) :
    call.Stores digest (files talk.device) (call.dialogue device talk).1
        (files (call.dialogue device talk).2.device) ∧
      upload (call.dialogue device talk).2.device = none := by
  have spares : (∀ other, ¬ call.Touches other) → call.Acts digest (files talk.device)
      (files (call.dialogue device talk).2.device) (call.dialogue device talk).1 →
      call.Stores digest (files talk.device) (call.dialogue device talk).1
          (files (call.dialogue device talk).2.device) ∧
        upload (call.dialogue device talk).2.device = none := by
    intro harmless acts
    obtain ⟨same, ended⟩ := stores.keeps_call call harmless talk ⟨rfl, idle⟩
    exact ⟨⟨fun other _ => congrFun same other, acts⟩, ended⟩
  cases call with
  | storageWrite path content =>
      have whole := stores.chunks_stored (UInt32.ofNat ((talk.commandId + 1) % 0xFFFFFFFF)) path
        (@chunk_ne_nil content writeChunkSize (by decide))
        { talk with commandId := (talk.commandId + 1) % 0xFFFFFFFF }
      refine ⟨⟨fun other spared => ?_, fun acknowledged => ?_⟩, whole.1⟩
      · exact stores.chunks_elsewhere _ spared _ _ { talk with commandId := _ } rfl
      · refine (whole.2 acknowledged).trans ?_
        rw [idle, chunk_flatten (by decide)]
        rfl
  | storageRead path =>
      apply spares (fun _ => id)
      exact congrArg (fun data => Except.ok (data.getD []))
        (stores.read talk.device (UInt32.ofNat ((talk.commandId + 1) % 0xFFFFFFFF)) path (within path rfl))
  | storageMd5sum path =>
      apply spares (fun _ => id)
      exact congrArg (fun digest => Except.ok (Python.truthy digest))
        (stores.digested talk.device (UInt32.ofNat ((talk.commandId + 1) % 0xFFFFFFFF)) path)
  | storageDelete path recursive =>
      refine ⟨⟨fun other spared => stores.ask_elsewhere (by exact spared) talk, fun acknowledged => ?_⟩,
        stores.ask_ends _ talk⟩
      exact stores.deleted talk.device _ path recursive (Except.ok.inj acknowledged)
  | storageRename oldPath newPath =>
      refine ⟨⟨fun other spared => stores.ask_elsewhere (by exact spared) talk, fun acknowledged different => ?_⟩,
        stores.ask_ends _ talk⟩
      exact stores.renamed talk.device _ oldPath newPath different (Except.ok.inj acknowledged)
  | systemUpdate _ | systemRebootUpdate | appStart _ _ =>
      exact ⟨⟨fun other spared => absurd trivial spared, trivial⟩, stores.ask_ends _ talk⟩
  | _ => exact spares (fun _ => id) trivial

end RpcDevice.StoresFiles

end Calls

section Orders

variable {ι : Type} {digest : Bytes → String} {calls : ι → RpcCall}

/-- Calls in an order act on the files one after another, each with the result it has returned. -/
def Operates (digest : Bytes → String) (calls : ι → RpcCall)
    (results : ∀ i, Option (Except Exn (calls i).Result)) : List ι → DeviceFiles → DeviceFiles → Prop
  | [], before, after => after = before
  | i :: order, before, after => ∃ result mid, results i = some result ∧
      (calls i).Stores digest before result mid ∧ Operates digest calls results order mid after

variable {results others : ∀ i, Option (Except Exn (calls i).Result)} {order : List ι}
  {before after : DeviceFiles}

/-- Only what is in the order matters. -/
theorem Operates.congr (operates : Operates digest calls results order before after)
    (same : ∀ i ∈ order, others i = results i) : Operates digest calls others order before after := by
  induction order generalizing before with
  | nil => exact operates
  | cons i order ih =>
      obtain ⟨result, mid, returned, stores, rest⟩ := operates
      exact ⟨result, mid, (same i (List.mem_cons_self ..)).trans returned, stores,
        ih rest fun j member => same j (List.mem_cons_of_mem _ member)⟩

theorem operates_append {first rest : List ι} :
    Operates digest calls results (first ++ rest) before after ↔
      ∃ mid, Operates digest calls results first before mid ∧
        Operates digest calls results rest mid after := by
  induction first generalizing before with
  | nil => exact ⟨fun operates => ⟨before, rfl, operates⟩, fun ⟨_, same, operates⟩ => same ▸ operates⟩
  | cons i first ih =>
      constructor
      · rintro ⟨result, next, returned, stores, behind⟩
        obtain ⟨mid, earlier, later⟩ := ih.mp behind
        exact ⟨mid, ⟨result, next, returned, stores, earlier⟩, later⟩
      · rintro ⟨mid, ⟨result, next, returned, stores, earlier⟩, later⟩
        exact ⟨result, next, returned, stores, ih.mpr ⟨mid, earlier, later⟩⟩

/-- Dialogues held one after another act on the files one after another. -/
theorem operates_serially [DecidableEq ι] {τ : Type} {device : RpcDevice τ} {files : τ → DeviceFiles}
    {upload : τ → Option Upload} {short : String → Prop}
    (stores : device.StoresFiles files upload digest short)
    (within : ∀ i path, calls i = .storageRead path → short path) {talk : Talk τ}
    (idle : upload talk.device = none) (nodup : order.Nodup) :
    let held := Dialogue.serially (fun i => (calls i).dialogue device) order talk
    Operates digest calls held.1 order (files talk.device) (files held.2.device) ∧
      upload held.2.device = none := by
  induction order using List.reverseRecOn with
  | nil => exact ⟨rfl, idle⟩
  | append_singleton order i ih =>
      obtain ⟨earlier, -, disjoint⟩ := List.nodup_append.mp nodup
      obtain ⟨operates, idle'⟩ := ih earlier
      obtain ⟨own, ended⟩ := stores.stores_call (calls i) (within i) idle'
      rw [Dialogue.serially_concat]
      refine ⟨operates_append.mpr ⟨_, operates.congr ?_, ?_⟩, ended⟩
      · intro j member
        apply Function.update_of_ne
        exact disjoint j member i (List.mem_singleton_self i)
      · exact ⟨_, _, Function.update_self .., own, rfl⟩

end Orders

section Store

variable {ι σ τ : Type} [DecidableEq ι]

/-- A link serves a device that stores files. -/
structure ServesFiles (device : RpcDevice τ) (E : LinkEnv σ) (state : σ → τ) (chunks : σ → List Bytes)
    (files : τ → DeviceFiles) (upload : τ → Option Upload) (digest : Bytes → String)
    (short : String → Prop) : Prop where
  served : Serves device E state chunks
  orderly : device.Orderly short
  stores : device.StoresFiles files upload digest short

end Store

section Box

/-- A device that holds files, and may be in the middle of a write. -/
structure FileBox where
  files : DeviceFiles
  upload : Option Upload

/-- The digest it tells: whether the length of a file is even. -/
def parity (data : Bytes) : String := if data.length % 2 = 0 then "even" else "odd"

/-- The message of a file's digest. -/
def digestOf (commandId : UInt32) : Option Bytes → Main
  | some data => { commandId := commandId, content := .storageMd5sumResponse (parity data) }
  | none => { commandId := commandId, commandStatus := CommandStatus.error, content := .systemPingResponse [] }

/-- What it does with a message. -/
def FileBox.serve (box : FileBox) (msg : Main) : FileBox × List Main :=
  match msg.content with
  | .storageWriteRequest path file =>
      let data := Upload.come box.upload msg.commandId path ++ file.data
      if msg.hasNext then (⟨box.files, some ⟨msg.commandId, path, data⟩⟩, acknowledgementOf msg)
      else (⟨Function.update box.files path (some data), none⟩, acknowledgementOf msg)
  | .storageDeleteRequest path _ => (⟨Function.update box.files path none, none⟩, acknowledgementOf msg)
  | .storageRenameRequest oldPath newPath =>
      (⟨Function.update (Function.update box.files oldPath none) newPath (box.files oldPath), none⟩,
        acknowledgementOf msg)
  | .storageMd5sumRequest path => (⟨box.files, none⟩, [digestOf msg.commandId (box.files path)])
  | _ => (⟨box.files, none⟩, acknowledgementOf msg)

def fileBox : RpcDevice FileBox := ⟨FileBox.serve⟩

theorem digestOf_readable (commandId : UInt32) (data : Option Bytes) : (digestOf commandId data).Readable := by
  cases data with
  | none =>
      apply Main.readable_of_content
      · exact nofun
      · exact show (Tagged.encode (Content.systemPingResponse []).fields).length ≤ 999000 by decide
  | some data =>
      apply Main.readable_of_content
      · exact nofun
      · change (Tagged.encode (Content.storageMd5sumResponse (parity data)).fields).length ≤ 999000
        unfold parity
        split <;> decide

theorem fileBox_orderly : fileBox.Orderly fun _ => False where
  met box msg within := by
    change msg.replies.Met (box.serve msg).2
    have met := acknowledgementOf_met msg
    rcases msg with ⟨commandId, status, hasNext, content⟩
    cases content with
    | storageWriteRequest path file => cases hasNext <;> exact met
    | storageMd5sumRequest path => exact ⟨_, rfl⟩
    | _ => exact met
  readable box msg within frame member := by
    change frame ∈ (box.serve msg).2 at member
    have acknowledged : ∀ frame ∈ acknowledgementOf msg, frame.Readable := fun _ =>
      acknowledgementOf_readable
    rcases msg with ⟨commandId, status, hasNext, content⟩
    cases content with
    | storageWriteRequest path file => cases hasNext <;> exact acknowledged frame member
    | storageMd5sumRequest path =>
        obtain rfl := List.mem_singleton.mp member
        exact digestOf_readable ..
    | _ => exact acknowledged frame member

theorem fileBox_stores : fileBox.StoresFiles FileBox.files FileBox.upload parity fun _ => False where
  elsewhere box msg other spared := by
    change (box.serve msg).1.files other = box.files other
    rcases msg with ⟨commandId, status, hasNext, content⟩
    cases content with
    | storageWriteRequest path file =>
        cases hasNext with
        | false => exact Function.update_of_ne spared ..
        | true => rfl
    | storageDeleteRequest path _ => exact Function.update_of_ne (fun same => spared (.inl same)) ..
    | storageRenameRequest oldPath newPath =>
        refine (Function.update_of_ne (fun same => spared (.inr (.inl same))) ..).trans ?_
        exact Function.update_of_ne (fun same => spared (.inl (.inl same))) ..
    | _ => rfl
  ends box msg last := by
    change (box.serve msg).1.upload = none
    rcases msg with ⟨commandId, status, hasNext, content⟩
    obtain rfl : hasNext = false := last
    cases content <;> rfl
  comes box commandId path data := rfl
  stored box commandId path data _ := Function.update_self ..
  read _ _ _ short := short.elim
  digested box commandId path := by
    change okContent _ [digestOf commandId (box.files path)].head? = _
    cases box.files path <;> rfl
  deleted box commandId path recursive _ := Function.update_self ..
  renamed box commandId oldPath newPath different _ :=
    ⟨Function.update_self .., (Function.update_of_ne different ..).trans (Function.update_self ..)⟩

/-- Two writes to one path, and a look at it. -/
def RpcCall.twoWrites (i : Fin 3) : RpcCall :=
  if i.val = 0 then .storageWrite "/ext/a" [7] else if i.val = 1 then .storageWrite "/ext/a" [7, 8] else
    .storageMd5sum "/ext/a"

theorem fileBox_serves : ServesFiles fileBox fileBox.link Prod.fst Prod.snd FileBox.files FileBox.upload
    parity fun _ => False :=
  ⟨fileBox.link_serves, fileBox_orderly, fileBox_stores⟩

end Box

end FlipperMcp
