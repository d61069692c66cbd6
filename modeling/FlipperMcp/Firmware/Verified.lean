import FlipperMcp.Firmware.Installer

/-! # Only a verified bundle reboots the device

Every call of `install_bundle` is described against the record of the calls before it:
it goes to the current `ProtobufRPC`, no reboot came before it, and if it is the reboot
itself then the record is `Ready`, that is, the target matches, every file was verified
after its last write, and the update was accepted last (`installBundle_safe`).
-/

namespace FlipperMcp

open Coroutine

/-- The `ProtobufRPC` a call goes to. -/
def DeviceOp.rpc? : DeviceOp → Option Handle
  | getDeviceInfo rpc | storageMkdir rpc _ | storageWrite rpc _ _ | storageMd5sum rpc _
  | storageStat rpc _ | systemUpdate rpc _ | systemRebootUpdate rpc => some rpc
  | resync | sleep _ => none

/-- The device is told to reboot into the updater. -/
def DeviceOp.IsReboot : DeviceOp → Prop
  | systemRebootUpdate _ => True
  | _ => False

/-- The device is asked what it is. -/
def DeviceOp.IsDeviceInfo : DeviceOp → Prop
  | getDeviceInfo _ => True
  | _ => False

/-- A file is written. -/
def DeviceOp.WritesTo (dest : String) : DeviceOp → Prop
  | storageWrite _ path _ => path = dest
  | _ => False

/-- The operations of a verification. -/
def DeviceOp.IsVerification : DeviceOp → Prop
  | storageMd5sum _ _ | storageStat _ _ | sleep _ => True
  | _ => False

/-- The operations that push files to some destinations. -/
def DeviceOp.Pushes (dests : String → Prop) : DeviceOp → Prop
  | storageWrite _ path _ => dests path
  | storageMkdir _ _ | storageMd5sum _ _ | storageStat _ _ | sleep _ | resync => True
  | _ => False

/-- The operations that trigger the update. -/
def DeviceOp.Triggers : DeviceOp → Prop
  | systemUpdate _ _ | sleep _ | resync => True
  | _ => False

theorem DeviceOp.Triggers.ne_write {op : DeviceOp} (h : op.Triggers) (dest : String) :
    ¬ op.WritesTo dest := by
  cases op <;> first | exact h.elim | exact id

theorem DeviceOp.Triggers.ne_info {op : DeviceOp} (h : op.Triggers) : ¬ op.IsDeviceInfo := by
  cases op <;> first | exact h.elim | exact id

theorem DeviceOp.Pushes.ne_info {dests : String → Prop} {op : DeviceOp} (h : op.Pushes dests) :
    ¬ op.IsDeviceInfo := by
  cases op <;> first | exact h.elim | exact id

theorem DeviceOp.IsVerification.ordinary {op : DeviceOp} (h : op.IsVerification) :
    ¬ op.IsReboot ∧ op ≠ .resync := by
  cases op <;> first | exact h.elim | exact ⟨id, nofun⟩

theorem DeviceOp.IsVerification.ne_write {op : DeviceOp} (h : op.IsVerification) (dest : String) :
    ¬ op.WritesTo dest := by
  cases op <;> first | exact h.elim | exact id

theorem DeviceOp.WritesTo.ordinary {dest : String} {op : DeviceOp} (h : op.WritesTo dest) :
    ¬ op.IsReboot ∧ op ≠ .resync := by
  cases op <;> first | exact h.elim | exact ⟨id, nofun⟩

theorem DeviceOp.Pushes.mono {dests larger : String → Prop} {op : DeviceOp} (h : op.Pushes dests)
    (weaken : ∀ path, dests path → larger path) : op.Pushes larger := by
  cases op <;> first | exact h.elim | exact trivial | exact weaken _ h

theorem DeviceOp.WritesTo.pushes {dest : String} {op : DeviceOp} (h : op.WritesTo dest) :
    op.Pushes (· = dest) := by
  cases op <;> first | exact h.elim | exact h

theorem DeviceOp.IsVerification.pushes {op : DeviceOp} (h : op.IsVerification)
    (dests : String → Prop) : op.Pushes dests := by
  cases op <;> first | exact h.elim | exact trivial

theorem DeviceOp.Pushes.ne_reboot {dests : String → Prop} {op : DeviceOp} (h : op.Pushes dests) :
    ¬ op.IsReboot := by
  cases op <;> first | exact h.elim | exact id

namespace Installer

/-- The calls made so far. -/
abbrev Record := List DeviceCall

/-- The `ProtobufRPC` after a call: only a resync replaces it. -/
def handleAfter (current : Handle) : DeviceCall → Handle
  | ⟨.resync, .ok (fresh : Handle)⟩ => fresh
  | _ => current

/-- The `ProtobufRPC` returned by the last resync. -/
def currentHandle (initial : Handle) (record : Record) : Handle :=
  record.foldl handleAfter initial

/-- No reboot has been issued. -/
def NoReboot (record : Record) : Prop := ∀ call ∈ record, ¬ call.1.IsReboot

/-- A call confirms that a file holds its data. -/
def Matches (md5 : Bytes → String) (dest : String) (data : Bytes) : DeviceCall → Prop
  | ⟨.storageMd5sum _ path, .ok (some (digest : String))⟩ =>
      path = dest ∧ digest = md5 data ∧ data.length ≤ md5VerifyMaxBytes
  | ⟨.storageStat _ path, .ok (some (stat : FileStat))⟩ =>
      path = dest ∧ stat.size = some data.length ∧ md5VerifyMaxBytes < data.length
  | _ => False

/-- The last write of a file succeeded, with this data, and what came after it. -/
def LastWrite (dest : String) (data : Bytes) (record after : Record) : Prop :=
  ∃ before rpc, record = before ++ ⟨.storageWrite rpc dest data, .ok true⟩ :: after ∧
    ∀ call ∈ after, ¬ call.1.WritesTo dest

/-- The last write of a file succeeded. -/
def Written (dest : String) (data : Bytes) (record : Record) : Prop :=
  ∃ after, LastWrite dest data record after

/-- The last write of a file succeeded, and a verification after it matched. -/
def Verified (md5 : Bytes → String) (dest : String) (data : Bytes) (record : Record) : Prop :=
  ∃ after, LastWrite dest data record after ∧ ∃ call ∈ after, Matches md5 dest data call

/-- More calls, all of one kind. -/
def Extends (kind : DeviceOp → Prop) (record record' : Record) : Prop :=
  ∃ calls, record' = record ++ calls ∧ ∀ call ∈ calls, kind call.1

section Records

variable {kind kind' : DeviceOp → Prop} {record record' record'' : Record} {initial : Handle}

theorem Extends.refl (kind : DeviceOp → Prop) (record : Record) : Extends kind record record :=
  ⟨[], (List.append_nil record).symm, fun _ member => nomatch member⟩

theorem Extends.trans (first : Extends kind record record')
    (second : Extends kind record' record'') : Extends kind record record'' := by
  obtain ⟨calls, rfl, all⟩ := first
  obtain ⟨calls', rfl, all'⟩ := second
  refine ⟨calls ++ calls', List.append_assoc .., fun call member => ?_⟩
  exact (List.mem_append.mp member).elim (all call) (all' call)

theorem Extends.mono (h : Extends kind record record') (weaken : ∀ op, kind op → kind' op) :
    Extends kind' record record' := by
  obtain ⟨calls, rfl, all⟩ := h
  exact ⟨calls, rfl, fun call member => weaken _ (all call member)⟩

theorem Extends.one {call : DeviceCall} (h : kind call.1) :
    Extends kind record (record ++ [call]) :=
  ⟨[call], rfl, fun _ member => List.mem_singleton.mp member ▸ h⟩

/-- One more call, of a given kind. -/
theorem Extends.step (kind : DeviceOp → Prop) (record : Record) (call : DeviceCall)
    (h : kind call.1) : Extends kind record (record ++ [call]) :=
  Extends.one h

theorem NoReboot.extends (h : NoReboot record) (more : Extends kind record record')
    (ordinary : ∀ op, kind op → ¬ op.IsReboot) : NoReboot record' := by
  obtain ⟨calls, rfl, all⟩ := more
  intro call member
  exact (List.mem_append.mp member).elim (h call) fun later => ordinary _ (all call later)

theorem handleAfter_of_ne {current : Handle} {call : DeviceCall} (steady : call.1 ≠ .resync) :
    handleAfter current call = current := by
  unfold handleAfter
  split
  · exact absurd rfl steady
  · rfl

/-- Without a resync the current `ProtobufRPC` stays. -/
theorem currentHandle_extends (more : Extends kind record record')
    (steady : ∀ op, kind op → op ≠ .resync) :
    currentHandle initial record' = currentHandle initial record := by
  obtain ⟨calls, rfl, all⟩ := more
  unfold currentHandle
  rw [List.foldl_append]
  generalize List.foldl _ initial record = current
  induction calls generalizing current with
  | nil => rfl
  | cons call calls ih =>
      rw [List.foldl_cons, handleAfter_of_ne (steady _ (all call (List.mem_cons_self ..)))]
      exact ih (fun call member => all call (List.mem_cons_of_mem _ member)) current

theorem currentHandle_resync (fresh : Handle) :
    currentHandle initial (record ++ [⟨.resync, .ok fresh⟩]) = fresh := by
  unfold currentHandle
  rw [List.foldl_append]
  rfl

variable {dest : String} {data : Bytes} {after : Record} {md5 : Bytes → String}

theorem LastWrite.extends (h : LastWrite dest data record after)
    (more : Extends kind record record') (others : ∀ op, kind op → ¬ op.WritesTo dest) :
    ∃ calls, record' = record ++ calls ∧ LastWrite dest data record' (after ++ calls) := by
  obtain ⟨before, rpc, rfl, last⟩ := h
  obtain ⟨calls, rfl, all⟩ := more
  refine ⟨calls, rfl, before, rpc, List.append_assoc .., fun call member => ?_⟩
  exact (List.mem_append.mp member).elim (last call) fun later => others _ (all call later)

theorem Written.extends (h : Written dest data record) (more : Extends kind record record')
    (others : ∀ op, kind op → ¬ op.WritesTo dest) : Written dest data record' := by
  obtain ⟨after, last⟩ := h
  obtain ⟨calls, -, last⟩ := last.extends more others
  exact ⟨after ++ calls, last⟩

theorem Verified.extends (h : Verified md5 dest data record) (more : Extends kind record record')
    (others : ∀ op, kind op → ¬ op.WritesTo dest) : Verified md5 dest data record' := by
  obtain ⟨after, last, call, member, matching⟩ := h
  obtain ⟨calls, -, last⟩ := last.extends more others
  exact ⟨after ++ calls, last, call, List.mem_append_left _ member, matching⟩

end Records

section Runs

variable {σ α : Type} {E : DeviceEnv σ} {initial : Handle} {ready : Record → Prop}

/-- What every call is guarded by: no reboot came before it, it goes to the current
`ProtobufRPC`, and a reboot finds the record ready. -/
def Guarded (initial : Handle) (ready : Record → Prop)
    (event : Event Unit deviceSignature Exn (σ × Record)) : Prop :=
  NoReboot event.world.2 ∧
    (∀ rpc, event.op.rpc? = some rpc → rpc = currentHandle initial event.world.2) ∧
    (event.op.IsReboot → ready event.world.2)

/-- A program of the installer, run after a record. -/
abbrev Ends (E : DeviceEnv σ) (initial : Handle) (ready : Record → Prop) (c : Device α)
    (record : Record) (post : Except Exn α → Record → Prop) : Prop :=
  ∀ w, wp (recording E) (Guarded initial ready) c (fun result _ w' => post result w'.2) ()
    (w, record)

theorem Ends.call {op : DeviceOp} {record : Record} {post : Except Exn op.Res → Record → Prop}
    (quiet : NoReboot record)
    (own : ∀ rpc, op.rpc? = some rpc → rpc = currentHandle initial record)
    (reboot : op.IsReboot → ready record)
    (answered : ∀ answer, post answer (record ++ [⟨op, answer⟩])) :
    Ends E initial ready (perform op) record post :=
  fun _ => wp_perform.mpr ⟨⟨quiet, own, reboot⟩, answered _⟩

theorem Ends.pure {value : α} {record : Record} {post : Except Exn α → Record → Prop}
    (h : post (.ok value) record) : Ends E initial ready (Pure.pure value) record post :=
  fun _ => wp_ret.mpr h

theorem Ends.raise {error : Exn} {record : Record} {post : Except Exn α → Record → Prop}
    (h : post (.error error) record) : Ends E initial ready (.raise error) record post :=
  fun _ => wp_raise.mpr h

theorem Ends.mono {c : Device α} {record : Record} {post weaker : Except Exn α → Record → Prop}
    (h : Ends E initial ready c record post)
    (weaken : ∀ result record, post result record → weaker result record) :
    Ends E initial ready c record weaker :=
  fun w => (h w).mono fun result _ w' => weaken result w'.2

theorem Ends.bind {β : Type} {c : Device β} {k : β → Device α} {record : Record}
    {mid : Except Exn β → Record → Prop} {post : Except Exn α → Record → Prop}
    (first : Ends E initial ready c record mid)
    (value : ∀ a record', mid (.ok a) record' → Ends E initial ready (k a) record' post)
    (error : ∀ e record', mid (.error e) record' → post (.error e) record') :
    Ends E initial ready (c >>= k) record post :=
  fun w => (first w).bind (fun a _ w' reached => value a w'.2 reached w'.1)
    fun e _ w' reached => error e w'.2 reached

/-- Sequencing with an explicit intermediate condition. -/
theorem Ends.bind_of {β : Type} {c : Device β} {k : β → Device α} {record : Record}
    {post : Except Exn α → Record → Prop} (mid : Except Exn β → Record → Prop)
    (first : Ends E initial ready c record mid)
    (value : ∀ a record', mid (.ok a) record' → Ends E initial ready (k a) record' post)
    (error : ∀ e record', mid (.error e) record' → post (.error e) record') :
    Ends E initial ready (c >>= k) record post :=
  first.bind value error

theorem Ends.tryExcept {catches : Exn → Bool} {body : Device α} {handler : Exn → Device α}
    {record : Record} {mid post : Except Exn α → Record → Prop}
    (first : Ends E initial ready body record mid)
    (kept : ∀ result record', mid result record' → post result record')
    (handled : ∀ e record', mid (.error e) record' →
      Ends E initial ready (handler e) record' post) :
    Ends E initial ready (Coro.tryExcept catches body handler) record post := by
  intro w
  refine wp_tryExcept.mpr ((first w).mono fun result _ w' reached => ?_)
  cases result with
  | ok a => exact kept _ _ reached
  | error e =>
      by_cases caught : catches e = true
      · simp only [caught, ↓reduceIte]
        exact handled e w'.2 reached w'.1
      · simp only [caught, Bool.false_eq_true, ↓reduceIte]
        exact kept _ _ reached

/-- A handler with an explicit condition on the body. -/
theorem Ends.tryExcept_of {catches : Exn → Bool} {body : Device α} {handler : Exn → Device α}
    {record : Record} {post : Except Exn α → Record → Prop} (mid : Except Exn α → Record → Prop)
    (first : Ends E initial ready body record mid)
    (kept : ∀ result record', mid result record' → post result record')
    (handled : ∀ e record', mid (.error e) record' →
      Ends E initial ready (handler e) record' post) :
    Ends E initial ready (Coro.tryExcept catches body handler) record post :=
  first.tryExcept kept handled

end Runs

/-- No reboot has been issued, and `rpc` is the current `ProtobufRPC`. -/
structure Steady (initial rpc : Handle) (record : Record) : Prop where
  quiet : NoReboot record
  current : currentHandle initial record = rpc

theorem Steady.extends {kind : DeviceOp → Prop} {initial rpc : Handle} {record record' : Record}
    (h : Steady initial rpc record) (more : Extends kind record record')
    (ordinary : ∀ op, kind op → ¬ op.IsReboot ∧ op ≠ .resync) : Steady initial rpc record' where
  quiet := h.quiet.extends more fun op ofKind => (ordinary op ofKind).1
  current := by
    rw [currentHandle_extends more fun op ofKind => (ordinary op ofKind).2]
    exact h.current

theorem Steady.mkdir {initial rpc : Handle} {record : Record} (h : Steady initial rpc record)
    (path : String) (made : Bool) :
    Steady initial rpc (record ++ [⟨.storageMkdir rpc path, .ok made⟩]) :=
  h.extends (Extends.step (· = .storageMkdir rpc path) _ _ rfl) fun _ same =>
    same ▸ ⟨id, nofun⟩

theorem Steady.resync {initial rpc : Handle} {record : Record} (h : Steady initial rpc record)
    (fresh : Handle) : Steady initial fresh (record ++ [⟨.resync, .ok fresh⟩]) where
  quiet := h.quiet.extends (Extends.step (· = .resync) _ _ rfl) fun _ same reboot => by
    rw [same] at reboot
    exact reboot
  current := currentHandle_resync fresh

section Calls

variable {σ : Type} {E : DeviceEnv σ} {initial rpc : Handle} {ready : Record → Prop}
  {record : Record} {op : DeviceOp}

/-- A call of the current `ProtobufRPC`, or one of no `ProtobufRPC`. -/
theorem Ends.own {post : Except Exn op.Res → Record → Prop} (steady : Steady initial rpc record)
    (own : ∀ rpc', op.rpc? = some rpc' → rpc' = rpc) (ordinary : ¬ op.IsReboot)
    (answered : ∀ answer, post answer (record ++ [⟨op, answer⟩])) :
    Ends E initial ready (perform op) record post :=
  Ends.call steady.quiet (fun rpc' same => (own rpc' same).trans steady.current.symm)
    (fun reboot => absurd reboot ordinary) answered

/-- Such a call and what follows it. -/
theorem Ends.own_bind {α : Type} {k : op.Res → Device α} {post : Except Exn α → Record → Prop}
    (steady : Steady initial rpc record) (own : ∀ rpc', op.rpc? = some rpc' → rpc' = rpc)
    (ordinary : ¬ op.IsReboot)
    (value : ∀ a, Ends E initial ready (k a) (record ++ [⟨op, .ok a⟩]) post)
    (error : ∀ e, post (.error e) (record ++ [⟨op, .error e⟩])) :
    Ends E initial ready (perform op >>= k) record post := by
  refine Ends.bind_of (fun result record' => record' = record ++ [⟨op, result⟩]) ?_ ?_ ?_
  · exact Ends.own steady own ordinary fun answer => rfl
  · rintro a record' rfl
    exact value a
  · rintro e record' rfl
    exact error e

end Calls

section Files

variable {σ : Type} {E : DeviceEnv σ} {initial rpc : Handle} {ready : Record → Prop}
  {record : Record} {dest : String} {data : Bytes} (md5 : Bytes → String)

/-- The calls of a verification, one of which matched if that is its verdict. -/
def Checks (dest : String) (data : Bytes) (record : Record)
    (result : Except Exn Md5Status) (record' : Record) : Prop :=
  ∃ calls, record' = record ++ calls ∧ (∀ call ∈ calls, call.1.IsVerification) ∧
    (result = .ok .match → ∃ call ∈ calls, Matches md5 dest data call)

theorem Checks.extends {md5 : Bytes → String} {result : Except Exn Md5Status} {record' : Record}
    (h : Checks md5 dest data record result record') :
    Extends DeviceOp.IsVerification record record' :=
  have ⟨calls, more, all, _⟩ := h
  ⟨calls, more, all⟩

theorem checkSize_spec (steady : Steady initial rpc record) (large : md5VerifyMaxBytes < data.length) :
    Ends E initial ready (checkSize rpc dest data.length) record (Checks md5 dest data record) := by
  refine Ends.own_bind steady (by rintro _ ⟨⟩; rfl) id ?_ ?_
  · rintro (_ | stat)
    · exact Ends.pure ⟨[_], rfl, by simp [DeviceOp.IsVerification], nofun⟩
    · refine Ends.pure ⟨[_], rfl, by simp [DeviceOp.IsVerification], fun same => ?_⟩
      refine ⟨_, List.mem_cons_self .., rfl, ?_, large⟩
      by_contra differs
      simp [differs] at same
  · intro e
    exact ⟨[_], rfl, by simp [DeviceOp.IsVerification], nofun⟩

theorem Checks.after {md5 : Bytes → String} {result : Except Exn Md5Status} {mid record' : Record}
    (first : Extends DeviceOp.IsVerification record mid)
    (h : Checks md5 dest data mid result record') : Checks md5 dest data record result record' := by
  obtain ⟨earlier, rfl, all⟩ := first
  obtain ⟨calls, rfl, all', matched⟩ := h
  refine ⟨earlier ++ calls, List.append_assoc .., fun call member => ?_, fun same => ?_⟩
  · exact (List.mem_append.mp member).elim (all call) (all' call)
  · obtain ⟨call, member, matching⟩ := matched same
    exact ⟨call, List.mem_append_right _ member, matching⟩

theorem checkMd5_spec (small : data.length ≤ md5VerifyMaxBytes) (attempts : ℕ) {record : Record}
    (steady : Steady initial rpc record) :
    Ends E initial ready (checkMd5 rpc dest (md5 data) attempts) record
      (Checks md5 dest data record) := by
  induction attempts generalizing record with
  | zero => exact Ends.pure ⟨[], (List.append_nil _).symm, nofun, nofun⟩
  | succ attempts ih =>
      refine Ends.own_bind steady (by rintro _ ⟨⟩; rfl) id ?_ ?_
      · rintro (_ | deviceMd5)
        · have asked : Extends DeviceOp.IsVerification record
              (record ++ [⟨.storageMd5sum rpc dest, .ok none⟩]) := Extends.one trivial
          have steady := steady.extends asked fun op h => h.ordinary
          by_cases last : attempts = 0
          · simp only [last, ↓reduceIte]
            exact Ends.pure ⟨[_], rfl, by simp [DeviceOp.IsVerification], nofun⟩
          · simp only [last, ↓reduceIte]
            have slept : ∀ answer : Except Exn Unit, Extends DeviceOp.IsVerification _ _ :=
              fun answer => Extends.step _ (record ++ [⟨.storageMd5sum rpc dest, .ok none⟩])
                ⟨.sleep md5Settle, answer⟩ trivial
            refine Ends.own_bind steady nofun id ?_ ?_
            · intro awake
              exact (ih (steady.extends (slept _) fun op h => h.ordinary)).mono
                fun result record' rest => rest.after (asked.trans (slept _))
            · intro e
              obtain ⟨calls, more, all⟩ := asked.trans (slept (.error e))
              exact ⟨calls, more, all, nofun⟩
        · refine Ends.pure ⟨[_], rfl, by simp [DeviceOp.IsVerification], fun same => ?_⟩
          refine ⟨_, List.mem_cons_self .., rfl, ?_, small⟩
          by_contra differs
          simp [differs] at same
      · intro e
        exact ⟨[_], rfl, by simp [DeviceOp.IsVerification], nofun⟩

theorem verifyWritten_spec (steady : Steady initial rpc record) :
    Ends E initial ready (verifyWritten md5 rpc dest data) record (Checks md5 dest data record) := by
  unfold verifyWritten
  by_cases large : md5VerifyMaxBytes < data.length
  · rw [if_pos large]
    exact checkSize_spec md5 steady large
  · rw [if_neg large]
    exact checkMd5_spec md5 (Nat.le_of_not_lt large) _ steady

/-- After the write of a pass, `written` means that the last write succeeded. -/
theorem ensureWritten_spec (steady : Steady initial rpc record) {written : Bool}
    (kept : written = true → Written dest data record) :
    Ends E initial ready (ensureWritten rpc dest data written) record fun result record' =>
      Extends (DeviceOp.WritesTo dest) record record' ∧
        (result = .ok true → Written dest data record') := by
  unfold ensureWritten
  by_cases already : written = true
  · rw [if_pos already]
    exact Ends.pure ⟨Extends.refl .., fun _ => kept already⟩
  · rw [if_neg already]
    refine Ends.tryExcept_of (fun result record' =>
      record' = record ++ [⟨.storageWrite rpc dest data, result⟩]) ?_ ?_ ?_
    · exact Ends.own steady (by rintro _ ⟨⟩; rfl) id fun answer => rfl
    · rintro result record' rfl
      refine ⟨Extends.one rfl, ?_⟩
      rintro rfl
      exact ⟨[], record, rpc, rfl, nofun⟩
    · rintro e record' rfl
      exact Ends.pure ⟨Extends.one rfl, nofun⟩

/-- A pass that ends with a match has verified the file after its last write. -/
theorem ensureVerified_spec (steady : Steady initial rpc record) {written : Bool}
    {status : Md5Status} (kept : written = true → Written dest data record) :
    Ends E initial ready (ensureVerified md5 rpc dest data written status) record
      fun result record' => Extends DeviceOp.IsVerification record record' ∧
        (written = true → result = .ok .match → Verified md5 dest data record') := by
  unfold ensureVerified
  by_cases ready : written = true
  · rw [if_pos ready]
    obtain ⟨after, last⟩ := kept ready
    refine Ends.tryExcept (verifyWritten_spec md5 steady) ?_ ?_
    · rintro result record' ⟨calls, rfl, all, matched⟩
      have more : Extends DeviceOp.IsVerification record (record ++ calls) := ⟨calls, rfl, all⟩
      refine ⟨more, fun _ same => ?_⟩
      obtain ⟨call, member, matching⟩ := matched same
      obtain ⟨calls', same', last⟩ := last.extends more fun op h => h.ne_write dest
      obtain rfl := List.append_cancel_left same'
      exact ⟨after ++ calls, last, call, List.mem_append_right _ member, matching⟩
    · rintro e record' checked
      exact Ends.pure ⟨checked.extends, nofun⟩
  · rw [if_neg ready]
    exact Ends.pure ⟨Extends.refl .., fun impossible => absurd impossible ready⟩

/-- A file was pushed: a `ProtobufRPC` is returned only if the file is verified. -/
def Pushed (initial : Handle) (dest : String) (data : Bytes) (record : Record)
    (result : Except Exn Handle) (record' : Record) : Prop :=
  Extends (DeviceOp.Pushes (· = dest)) record record' ∧
    ∀ fresh, result = .ok fresh → Steady initial fresh record' ∧ Verified md5 dest data record'

theorem Pushed.after {md5 : Bytes → String} {result : Except Exn Handle} {mid record' : Record}
    (first : Extends (DeviceOp.Pushes (· = dest)) record mid)
    (h : Pushed md5 initial dest data mid result record') :
    Pushed md5 initial dest data record result record' :=
  ⟨first.trans h.1, h.2⟩

/-- After a resync and its pause the loop goes on with the new `ProtobufRPC`. -/
theorem resumed {md5 : Bytes → String} {mid : Record} {written : Bool} {status : Md5Status}
    (steady : Steady initial rpc mid) (earlier : Extends (DeviceOp.Pushes (· = dest)) record mid)
    (kept : written = true → Written dest data mid) (fresh : Handle)
    (next : Handle → Bool → Device Handle)
    (ih : ∀ {rpc : Handle} {record : Record} {written : Bool}, Steady initial rpc record →
      (written = true → Written dest data record) →
      Ends E initial ready (next rpc written) record (Pushed md5 initial dest data record)) :
    Ends E initial ready
      (perform (.sleep postWriteSettle) >>= fun _ =>
        next fresh (written && status ≠ .mismatch))
      (mid ++ [⟨.resync, .ok fresh⟩]) (Pushed md5 initial dest data record) := by
  have resynced : Extends (· = .resync) mid (mid ++ [⟨.resync, .ok fresh⟩]) := Extends.one rfl
  have steady := steady.resync fresh
  have earlier := earlier.trans (resynced.mono fun op same => same ▸ trivial)
  refine Ends.own_bind steady nofun id ?_ ?_
  · intro awake
    have slept : Extends DeviceOp.IsVerification (mid ++ [⟨.resync, .ok fresh⟩]) _ :=
      Extends.step _ _ ⟨.sleep postWriteSettle, .ok ()⟩ trivial
    refine (ih (steady.extends slept fun op h => h.ordinary) fun isWritten => ?_).mono
      fun result record'' pushed => pushed.after (earlier.trans (slept.mono fun op h => h.pushes _))
    have kept := kept (Bool.and_eq_true_iff.mp isWritten).1
    exact (kept.extends resynced fun op same => same ▸ id).extends slept
      fun op h => h.ne_write dest
  · intro e
    exact ⟨earlier.trans (Extends.one trivial), nofun⟩

/-- One pass writes, verifies and resyncs; the loop invariant is that `written` means
that the last write succeeded. -/
theorem pushLoop_spec (resync : Bool) (passes : ℕ) {rpc : Handle} {record : Record}
    {written everWritten : Bool} {status : Md5Status} (steady : Steady initial rpc record)
    (kept : written = true → Written dest data record) :
    Ends E initial ready (pushLoop md5 dest data resync passes rpc written everWritten status)
      record (Pushed md5 initial dest data record) := by
  induction passes generalizing rpc record written everWritten status with
  | zero => exact Ends.raise ⟨Extends.refl .., nofun⟩
  | succ passes ih =>
      refine (ensureWritten_spec steady kept).bind ?_ ?_
      · rintro written record₁ ⟨wrote, kept⟩
        have steady := steady.extends wrote fun op h => h.ordinary
        have wrote := wrote.mono fun op h => h.pushes
        have kept : written = true → Written dest data record₁ := by
          rintro rfl
          exact kept rfl
        refine (ensureVerified_spec md5 steady kept).bind ?_ ?_
        · rintro status record₂ ⟨checked, verified⟩
          have steady := steady.extends checked fun op h => h.ordinary
          have kept : written = true → Written dest data record₂ := fun isWritten =>
            (kept isWritten).extends checked fun op h => h.ne_write dest
          have checked := wrote.trans (checked.mono fun op h => h.pushes _)
          by_cases done : written = true ∧ status = .match
          · simp only [done, and_self, ↓reduceIte]
            refine Ends.pure ⟨checked, ?_⟩
            rintro _ ⟨⟩
            exact ⟨steady, verified done.1 (congrArg _ done.2)⟩
          · simp only [done, ↓reduceIte]
            by_cases last : (!resync) = true ∨ passes = 0
            · simp only [last, ↓reduceIte]
              exact Ends.raise ⟨checked, nofun⟩
            · simp only [last, ↓reduceIte]
              refine Ends.own_bind steady nofun id ?_ ?_
              · intro fresh
                exact resumed steady checked kept fresh _ ih
              · intro e
                exact ⟨checked.trans (Extends.one trivial), nofun⟩
        · rintro e record₂ ⟨checked, _⟩
          exact ⟨wrote.trans (checked.mono fun op h => h.pushes _), nofun⟩
      · rintro e record₁ ⟨wrote, _⟩
        exact ⟨wrote.mono fun op h => h.pushes, nofun⟩

theorem pushFile_spec (resync : Bool) (steady : Steady initial rpc record) :
    Ends E initial ready (pushFile md5 rpc dest data resync) record
      (Pushed md5 initial dest data record) :=
  pushLoop_spec md5 resync _ steady nofun

/-- Of the files with one destination, the last is verified. -/
def FilesVerified (pkgDir : String) (files : List (String × Bytes)) (record : Record) : Prop :=
  ∀ earlier relPath data later, files = earlier ++ (relPath, data) :: later →
    (∀ file ∈ later, destination pkgDir file.1 ≠ destination pkgDir relPath) →
    Verified md5 (destination pkgDir relPath) data record

/-- A path is the destination of one of the files. -/
def IsDestination (pkgDir : String) (files : List (String × Bytes)) (path : String) : Prop :=
  ∃ file ∈ files, path = destination pkgDir file.1

theorem FilesVerified.extends {md5 : Bytes → String} {pkgDir : String}
    {files : List (String × Bytes)} {kind : DeviceOp → Prop} {record record' : Record}
    (h : FilesVerified md5 pkgDir files record) (more : Extends kind record record')
    (others : ∀ op, kind op → ∀ dest, ¬ op.WritesTo dest) :
    FilesVerified md5 pkgDir files record' :=
  fun earlier relPath data later same last =>
    (h earlier relPath data later same last).extends more fun op ofKind => others op ofKind _

theorem FilesVerified.cons {md5 : Bytes → String} {pkgDir relPath : String} {data : Bytes}
    {files : List (String × Bytes)} {record record' : Record}
    (first : Verified md5 (destination pkgDir relPath) data record)
    (more : Extends (DeviceOp.Pushes (IsDestination pkgDir files)) record record')
    (rest : FilesVerified md5 pkgDir files record') :
    FilesVerified md5 pkgDir ((relPath, data) :: files) record' := by
  intro earlier relPath' data' later same last
  cases earlier with
  | nil =>
      simp only [List.nil_append, List.cons.injEq, Prod.mk.injEq] at same
      obtain ⟨⟨rfl, rfl⟩, rfl⟩ := same
      refine first.extends more fun op pushes writes => ?_
      cases op <;> try exact writes
      obtain ⟨file, member, same⟩ := pushes
      exact last file member (same.symm.trans writes)
  | cons file earlier =>
      simp only [List.cons_append, List.cons.injEq] at same
      exact rest earlier relPath' data' later same.2 last

/-- The files were pushed: a `ProtobufRPC` is returned only if all are verified. -/
def FilesPushed (initial : Handle) (pkgDir : String) (files : List (String × Bytes))
    (record : Record) (result : Except Exn Handle) (record' : Record) : Prop :=
  Extends (DeviceOp.Pushes (IsDestination pkgDir files)) record record' ∧
    ∀ fresh, result = .ok fresh →
      Steady initial fresh record' ∧ FilesVerified md5 pkgDir files record'

/-- Every file is verified when the loop is done. -/
theorem pushFiles_spec (pkgDir : String) (resync : Bool) (files : List (String × Bytes))
    {rpc : Handle} {record : Record} (steady : Steady initial rpc record) :
    Ends E initial ready (pushFiles md5 pkgDir resync files rpc) record
      (FilesPushed md5 initial pkgDir files record) := by
  induction files generalizing rpc record with
  | nil =>
      refine Ends.pure ⟨Extends.refl .., ?_⟩
      rintro _ ⟨⟩
      exact ⟨steady, fun earlier relPath data later same => by simp at same⟩
  | cons file files ih =>
      obtain ⟨relPath, data⟩ := file
      have here : ∀ path, path = destination pkgDir relPath →
          IsDestination pkgDir ((relPath, data) :: files) path :=
        fun path same => ⟨_, List.mem_cons_self .., same⟩
      have later : ∀ path, IsDestination pkgDir files path →
          IsDestination pkgDir ((relPath, data) :: files) path :=
        fun path ⟨file, member, same⟩ => ⟨file, List.mem_cons_of_mem _ member, same⟩
      have push : ∀ {record : Record}, Steady initial rpc record →
          Ends E initial ready
            (pushFile md5 rpc (destination pkgDir relPath) data resync >>= fun rpc =>
              pushFiles md5 pkgDir resync files rpc) record
            (FilesPushed md5 initial pkgDir ((relPath, data) :: files) record) := by
        intro record steady
        refine (pushFile_spec md5 resync steady).bind ?_ ?_
        · rintro fresh record₁ ⟨pushed, done⟩
          obtain ⟨steady, verified⟩ := done fresh rfl
          refine (ih steady).mono fun result record₂ ⟨more, all⟩ => ⟨?_, fun fresh same => ?_⟩
          · exact (pushed.mono fun op h => h.mono here).trans (more.mono fun op h => h.mono later)
          · exact ⟨(all fresh same).1, .cons verified more (all fresh same).2⟩
        · rintro e record₁ ⟨pushed, _⟩
          exact ⟨pushed.mono fun op h => h.mono here, nofun⟩
      unfold pushFiles
      simp only
      by_cases nested : Python.beforeLastSlash (destination pkgDir relPath) = pkgDir
      · simp only [nested, ne_eq, not_true_eq_false, ↓reduceIte]
        exact push steady
      · simp only [nested, ne_eq, not_false_eq_true, ↓reduceIte]
        refine Ends.own_bind steady (by rintro _ ⟨⟩; rfl) id ?_ ?_
        · intro made
          refine (push (steady.mkdir _ made)).mono fun result record₁ ⟨more, all⟩ => ⟨?_, all⟩
          exact (Extends.one trivial).trans more
        · intro e
          exact ⟨Extends.one trivial, nofun⟩

/-- The update was triggered: a `ProtobufRPC` is returned only if the device accepted the
update last. -/
def Triggered (initial : Handle) (manifest : String) (record : Record)
    (result : Except Exn Handle) (record' : Record) : Prop :=
  Extends DeviceOp.Triggers record record' ∧
    ∀ fresh, result = .ok fresh → Steady initial fresh record' ∧
      ∃ earlier, Extends DeviceOp.Triggers record earlier ∧
        record' = earlier ++ [⟨.systemUpdate fresh manifest, .ok updateOk⟩]

theorem Triggered.after {manifest : String} {result : Except Exn Handle} {mid record' : Record}
    (first : Extends DeviceOp.Triggers record mid)
    (h : Triggered initial manifest mid result record') :
    Triggered initial manifest record result record' :=
  ⟨first.trans h.1, fun fresh same =>
    have ⟨steady, earlier, more, last⟩ := h.2 fresh same
    ⟨steady, earlier, first.trans more, last⟩⟩

theorem triggerUpdate_spec (manifest : String) (resync : Bool) (passes : ℕ) {rpc : Handle}
    {record : Record} (steady : Steady initial rpc record) :
    Ends E initial ready (triggerUpdate manifest resync passes rpc) record
      (Triggered initial manifest record) := by
  induction passes generalizing rpc record with
  | zero => exact Ends.raise ⟨Extends.refl .., nofun⟩
  | succ passes ih =>
      refine Ends.own_bind steady nofun id ?_ fun e => ⟨Extends.one trivial, nofun⟩
      intro awake
      have slept : Extends DeviceOp.Triggers record (record ++ [⟨.sleep updateSettle, .ok awake⟩]) :=
        Extends.one trivial
      have steady : Steady initial rpc (record ++ [⟨.sleep updateSettle, .ok awake⟩]) :=
        steady.extends (Extends.step DeviceOp.IsVerification _ _ trivial) fun op h => h.ordinary
      refine Ends.bind_of (fun result record' => ∃ answer,
        record' = record ++ [⟨.sleep updateSettle, .ok awake⟩] ++
          [⟨.systemUpdate rpc manifest, answer⟩] ∧
        ∀ code, result = .ok code → answer = .ok code) ?_ ?_ ?_
      · refine Ends.tryExcept_of (fun result record' =>
          record' = record ++ [⟨.sleep updateSettle, .ok awake⟩] ++
            [⟨.systemUpdate rpc manifest, result⟩]) ?_ ?_ ?_
        · exact Ends.own steady (by rintro _ ⟨⟩; rfl) id fun answer => rfl
        · rintro result record' rfl
          exact ⟨result, rfl, fun code same => same⟩
        · rintro e record' rfl
          exact Ends.raise ⟨.error e, rfl, nofun⟩
      · rintro (code : ℤ) record₁ ⟨answer, rfl, answered⟩
        obtain rfl := answered code rfl
        dsimp only
        have updated := slept.trans (Extends.step DeviceOp.Triggers _
          ⟨.systemUpdate rpc manifest, .ok code⟩ trivial)
        have steady : Steady initial rpc _ := steady.extends (Extends.step
          (· = .systemUpdate rpc manifest) _ ⟨.systemUpdate rpc manifest, .ok code⟩ rfl) fun _ same => same ▸ ⟨id, nofun⟩
        by_cases accepted : code = updateOk
        · rw [if_pos accepted]
          refine Ends.pure ⟨updated, ?_⟩
          rintro _ ⟨⟩
          exact ⟨steady, _, slept, by rw [accepted]⟩
        · rw [if_neg accepted]
          by_cases final : code ≠ updateUnspecified ∨ passes = 0
          · rw [if_pos final]
            exact Ends.raise ⟨updated, nofun⟩
          · rw [if_neg final]
            by_cases replaced : resync = true
            · rw [if_pos replaced]
              refine Ends.own_bind steady nofun id ?_ fun e =>
                ⟨updated.trans (Extends.one trivial), nofun⟩
              intro fresh
              refine (ih (steady.resync fresh)).mono fun result record' rest => ?_
              exact rest.after (updated.trans (Extends.step _ _ ⟨.resync, .ok fresh⟩ trivial))
            · rw [if_neg replaced]
              exact (ih steady).mono fun result record' rest => rest.after updated
      · rintro e record₁ ⟨answer, rfl, _⟩
        exact ⟨slept.trans (Extends.step _ _ ⟨.systemUpdate rpc manifest, answer⟩ trivial), nofun⟩

end Files

section Install

variable (md5 : Bytes → String)

/-- A reboot may be issued: the device reported the target of the bundle, the update was
accepted last, and by then every file was verified. -/
structure Ready (bundle : LocalBundle) (pkgName : String) (record : Record) : Prop where
  target : ∃ rpc info rest, record = ⟨.getDeviceInfo rpc, .ok info⟩ :: rest ∧
    rawTarget info ≠ "" ∧ deviceTarget info = bundle.target ∧
    ∀ call ∈ rest, ¬ call.1.IsDeviceInfo
  accepted : ∃ earlier rpc, record = earlier ++
      [⟨.systemUpdate rpc (manifestPath bundle pkgName), .ok updateOk⟩] ∧
    FilesVerified md5 (packageDir pkgName) bundle.files earlier

theorem checkTarget_ok {info : Dict} {bundle : LocalBundle} (h : checkTarget info bundle = .ok ()) :
    rawTarget info ≠ "" ∧ deviceTarget info = bundle.target := by
  unfold checkTarget at h
  by_cases unreported : rawTarget info = ""
  · simp [unreported] at h
  · by_cases differs : deviceTarget info ≠ bundle.target
    · simp [unreported, differs] at h
    · exact ⟨unreported, not_not.mp differs⟩

variable {σ : Type} {E : DeviceEnv σ} {initial : Handle} {bundle : LocalBundle} {pkgName : String}
  {resync : Bool}

/-- No call of the reboot raises what only the installer raises. -/
def RebootRaisesNoFlashError (E : DeviceEnv σ) : Prop :=
  ∀ rpc w message, (E (.systemRebootUpdate rpc) w).1 ≠ .error (.flashError message)

/-- The last step: the device reboots only with a record that is ready. -/
theorem reboot_spec (sound : RebootRaisesNoFlashError E) {rpc : Handle} {record : Record}
    (steady : Steady initial rpc record) (isReady : Ready md5 bundle pkgName record) :
    Ends E initial (Ready md5 bundle pkgName) (perform (.systemRebootUpdate rpc)) record
      fun result record' => ∀ message, result = .error (.flashError message) → NoReboot record' := by
  intro w
  refine wp_perform.mpr ⟨⟨steady.quiet, ?_, fun _ => isReady⟩, fun message same => ?_⟩
  · rintro _ ⟨⟩
    exact steady.current.symm
  · exact absurd same (sound rpc w message)

/-- After the target is checked. -/
theorem installChecked_spec (sound : RebootRaisesNoFlashError E) {info : Dict} {rpc : Handle}
    (steady : Steady initial rpc [⟨.getDeviceInfo rpc, .ok info⟩])
    (target : rawTarget info ≠ "" ∧ deviceTarget info = bundle.target) :
    Ends E initial (Ready md5 bundle pkgName)
      (do
        let _ ← perform (.storageMkdir rpc updateRoot)
        let _ ← perform (.storageMkdir rpc (packageDir pkgName))
        let rpc ← pushFiles md5 (packageDir pkgName) resync bundle.files rpc
        let rpc ← triggerUpdate (manifestPath bundle pkgName) resync (resyncAttempts + 1) rpc
        perform (.systemRebootUpdate rpc))
      [⟨.getDeviceInfo rpc, .ok info⟩]
      fun result record => ∀ message, result = .error (.flashError message) → NoReboot record := by
  have made : ∀ (record : Record) path (answer : Except Exn Bool),
      Extends (fun op => ¬ op.IsReboot ∧ ¬ op.IsDeviceInfo) record
        (record ++ [⟨.storageMkdir rpc path, answer⟩]) := fun _ _ _ => Extends.one ⟨id, id⟩
  refine Ends.own_bind steady (by rintro _ ⟨⟩; rfl) id ?_ fun e message _ =>
    steady.quiet.extends (made _ _ _) fun op h => h.1
  intro rootMade
  have steady₁ := steady.mkdir updateRoot rootMade
  refine Ends.own_bind steady₁ (by rintro _ ⟨⟩; rfl) id ?_ fun e message _ =>
    steady₁.quiet.extends (made _ _ _) fun op h => h.1
  intro packageMade
  have steady₂ := steady₁.mkdir (packageDir pkgName) packageMade
  refine (pushFiles_spec md5 (packageDir pkgName) resync bundle.files steady₂).bind ?_ ?_
  · rintro rpc₁ record₁ ⟨pushed, done⟩
    obtain ⟨steady₃, verified⟩ := done rpc₁ rfl
    refine (triggerUpdate_spec (manifestPath bundle pkgName) resync _ steady₃).bind ?_ ?_
    · rintro rpc₂ record₂ ⟨triggered, accepted⟩
      obtain ⟨steady₄, earlier, more, rfl⟩ := accepted rpc₂ rfl
      refine reboot_spec md5 sound steady₄ ⟨?_, earlier, rpc₂, rfl, ?_⟩
      · obtain ⟨calls, same, ordinary⟩ := ((((made _ _ _).trans (made _ _ _)).mono
          fun op h => h.2).trans (pushed.mono fun op h => h.ne_info)).trans
          (triggered.mono fun op h => h.ne_info)
        exact ⟨rpc, info, calls, same, target.1, target.2, ordinary⟩
      · exact verified.extends more fun op h => h.ne_write
    · rintro e record₂ ⟨triggered, _⟩ message _
      refine steady₃.quiet.extends triggered fun op h reboot => ?_
      cases op <;> first | exact h.elim | exact reboot
  · rintro e record₁ ⟨pushed, _⟩ message _
    exact steady₂.quiet.extends pushed fun op h => h.ne_reboot

theorem installBundle_spec (sound : RebootRaisesNoFlashError E) (rpc : Handle) :
    Ends E rpc (Ready md5 bundle pkgName) (installBundle md5 rpc bundle pkgName resync) []
      fun result record => ∀ message, result = .error (.flashError message) → NoReboot record := by
  have asked : ∀ answer : Except Exn Dict,
      Extends (fun op => ¬ op.IsReboot ∧ op ≠ .resync) [] [⟨.getDeviceInfo rpc, answer⟩] :=
    fun _ => ⟨[_], rfl, by simp [DeviceOp.IsReboot]⟩
  have start : Steady rpc rpc [] := ⟨nofun, rfl⟩
  refine Ends.own_bind start (by rintro _ ⟨⟩; rfl) id ?_ fun e message _ =>
    start.quiet.extends (asked _) fun op h => h.1
  intro info
  have steady := start.extends (asked (.ok info)) fun op h => h
  dsimp only
  cases checked : checkTarget info bundle with
  | error e =>
      rw [Coro.ofExcept, Coro.raise_bind]
      exact Ends.raise fun message _ => steady.quiet
  | ok _ =>
      rw [Coro.ofExcept, Coro.ret_bind]
      exact installChecked_spec md5 sound steady (checkTarget_ok checked)

/-- In every run of `install_bundle` the reboot is the last call, comes once, and finds the
record ready; each call goes to the current `ProtobufRPC`; and a `FlashError` means that
no reboot was issued. -/
theorem installBundle_safe (E : DeviceEnv σ) (sound : RebootRaisesNoFlashError E) (rpc : Handle)
    (bundle : LocalBundle) (pkgName : String) (resync : Bool) (w : σ) :
    let outcome := run E (installBundle md5 rpc bundle pkgName resync) () w
    (∀ before event after, outcome.trace = before ++ event :: after →
      let record := before.map Event.observed
      (event.op.IsReboot → NoReboot record ∧ after = [] ∧ Ready md5 bundle pkgName record) ∧
      ∀ target, event.op.rpc? = some target → target = currentHandle rpc record) ∧
    ∀ message, outcome.result = .error (.flashError message) →
      NoReboot (outcome.trace.map Event.observed) := by
  intro outcome
  obtain ⟨guarded, final⟩ :=
    (@installBundle_spec md5 σ E bundle pkgName resync sound rpc w).recorded
  refine ⟨fun before event after split => ?_, final⟩
  obtain ⟨quiet, current, isReady⟩ := guarded before event after split
  refine ⟨fun reboot => ⟨quiet, ?_, isReady reboot⟩, current⟩
  -- a later event would have this reboot before it
  cases after with
  | nil => rfl
  | cons next after =>
      have resplit : outcome.trace = (before ++ [event]) ++ next :: after := by
        rw [split, List.append_assoc, List.singleton_append]
      refine absurd reboot ((guarded _ next after resplit).1 event.observed ?_)
      simp [Event.recorded]

/-- A device that accepts everything. -/
def accepting : DeviceEnv Unit := fun op w => match op with
  | .getDeviceInfo _ => (.ok (AList.singleton "hardware_target" "7"), w)
  | .storageMkdir _ _ => (.ok true, w)
  | .storageWrite _ _ _ => (.ok true, w)
  | .storageMd5sum _ _ => (.ok (some "d"), w)
  | .storageStat _ _ => (.ok none, w)
  | .systemUpdate _ _ => (.ok updateOk, w)
  | .systemRebootUpdate _ => (.ok (), w)
  | .resync => (.ok (0 : ℕ), w)
  | .sleep _ => (.ok (), w)

theorem installBundle_safe_accepting :
    let outcome := run accepting
      (installBundle (fun _ => "d") 0 ⟨"update.fuf", "f7", [("update.fuf", [70])]⟩ "p" true) () ()
    outcome.trace.map (·.op) = [.getDeviceInfo 0, .storageMkdir 0 "/ext/update",
      .storageMkdir 0 "/ext/update/p", .storageWrite 0 "/ext/update/p/update.fuf" [70],
      .storageMd5sum 0 "/ext/update/p/update.fuf", .sleep updateSettle,
      .systemUpdate 0 "/ext/update/p/update.fuf", .systemRebootUpdate 0] ∧
    ∀ before event after, outcome.trace = before ++ event :: after → event.op.IsReboot →
      after = [] ∧ Ready (fun _ => "d") ⟨"update.fuf", "f7", [("update.fuf", [70])]⟩ "p"
        (before.map Event.observed) := by
  refine ⟨by decide +kernel, fun before event after split reboot => ?_⟩
  have safe := installBundle_safe (fun _ => "d") accepting nofun 0
    ⟨"update.fuf", "f7", [("update.fuf", [70])]⟩ "p" true ()
  exact ((safe.1 before event after split).1 reboot).2

end Install

end Installer

end FlipperMcp
