import FlipperMcp.Firmware.BundlePaths

/-! # Bundles with nested directories

The storage of a healthy device, where a directory is made below an existing one and a file is
written into an existing one. `install_bundle` makes the directory of a file when the file's turn
comes, and nothing above it: a bundle is installed if and only if the order of its files makes each
directory after the one above it (`installBundle_nested`).
-/

namespace FlipperMcp

open Coroutine Installer

/-- A healthy device and what it stores, the last write of a file first. -/
structure Storage where
  info : Dict
  dirs : List String
  files : List (String × Bytes)
  rebooted : Bool

namespace Storage

/-- A directory is made if it is there or the directory above it is. -/
def mkdir (storage : Storage) (path : String) : Bool × Storage :=
  if path ∈ storage.dirs ∨ Python.beforeLastSlash path ∈ storage.dirs then
    (true, { storage with dirs := path :: storage.dirs })
  else (false, storage)

/-- A file is written if its directory is there. -/
def write (storage : Storage) (path : String) (content : Bytes) : Bool × Storage :=
  if Python.beforeLastSlash path ∈ storage.dirs then
    (true, { storage with files := (path, content) :: storage.files })
  else (false, storage)

/-- The content of a file. -/
def read (storage : Storage) (path : String) : Option Bytes := storage.files.lookup path

/-- The device answers with what it stores, accepts the update and reboots. -/
def healthy (md5 : Bytes → String) : DeviceEnv Storage := fun op storage => match op with
  | .getDeviceInfo _ => (.ok storage.info, storage)
  | .storageMkdir _ path => (.ok (storage.mkdir path).1, (storage.mkdir path).2)
  | .storageWrite _ path content => (.ok (storage.write path content).1, (storage.write path content).2)
  | .storageMd5sum _ path => (.ok ((storage.read path).map md5), storage)
  | .storageStat _ path => (.ok ((storage.read path).map fun content => ⟨some content.length⟩), storage)
  | .systemUpdate _ _ => (.ok updateOk, storage)
  | .systemRebootUpdate _ => (.ok (), { storage with rebooted := true })
  | .resync => (.ok (0 : ℕ), storage)
  | .sleep _ => (.ok (), storage)

theorem mkdir_of_mem {storage : Storage} {path : String}
    (possible : path ∈ storage.dirs ∨ Python.beforeLastSlash path ∈ storage.dirs) :
    (storage.mkdir path).2 = { storage with dirs := path :: storage.dirs } := by
  unfold mkdir
  rw [if_pos possible]

theorem mkdir_of_not_mem {storage : Storage} {path : String}
    (impossible : ¬ (path ∈ storage.dirs ∨ Python.beforeLastSlash path ∈ storage.dirs)) :
    (storage.mkdir path).2 = storage := by
  unfold mkdir
  rw [if_neg impossible]

theorem write_of_mem {storage : Storage} {path : String} {content : Bytes}
    (present : Python.beforeLastSlash path ∈ storage.dirs) : storage.write path content =
      (true, { storage with files := (path, content) :: storage.files }) :=
  if_pos present

theorem write_of_not_mem {storage : Storage} {path : String} {content : Bytes}
    (missing : Python.beforeLastSlash path ∉ storage.dirs) :
    storage.write path content = (false, storage) :=
  if_neg missing

end Storage

namespace Installer

section Settles

variable (md5 : Bytes → String)

/-- How a coroutine ends on a healthy device. -/
structure Settles {α : Type} (c : Device α) (storage : Storage) (result : Except Exn α)
    (storage' : Storage) : Prop where
  result : (run (Storage.healthy md5) c () storage).result = result
  world : (run (Storage.healthy md5) c () storage).world = storage'

variable {md5} {α β : Type} {storage storage' storage'' : Storage}

theorem Settles.bind {c : Device α} {k : α → Device β} {value : α} {result : Except Exn β}
    (first : Settles md5 c storage (.ok value) storage')
    (second : Settles md5 (k value) storage' result storage'') :
    Settles md5 (c >>= k) storage result storage'' := by
  constructor
  · rw [run_bind, first.result, first.world]
    exact second.result
  · rw [run_bind, first.result, first.world]
    exact second.world

theorem Settles.bind_error {c : Device α} {e : Exn} (first : Settles md5 c storage (.error e) storage')
    (k : α → Device β) : Settles md5 (c >>= k) storage (.error e) storage' := by
  constructor
  · rw [run_bind, first.result]
  · rw [run_bind, first.result]
    exact first.world

theorem Settles.pure (value : α) (storage : Storage) :
    Settles md5 (pure value : Device α) storage (.ok value) storage := ⟨rfl, rfl⟩

theorem Settles.raise (e : Exn) (storage : Storage) :
    Settles md5 (.raise e : Device α) storage (.error e) storage := ⟨rfl, rfl⟩

theorem Settles.perform (md5 : Bytes → String) (op : DeviceOp) (storage : Storage) :
    Settles md5 (Installer.perform op) storage (Storage.healthy md5 op storage).1
      (Storage.healthy md5 op storage).2 := by
  constructor
  · unfold Installer.perform
    rw [run_perform]
  · unfold Installer.perform
    rw [run_perform]

theorem Settles.tryExcept {c : Device α} {value : α} (body : Settles md5 c storage (.ok value) storage')
    (catches : Exn → Bool) (handler : Exn → Device α) :
    Settles md5 (Coro.tryExcept catches c handler) storage (.ok value) storage' := by
  constructor
  · rw [run_tryExcept, body.result]
    exact body.result
  · rw [run_tryExcept, body.result]
    exact body.world

end Settles

section Push

variable (md5 : Bytes → String) (rpc : Handle) {dest : String} {data : Bytes} {storage : Storage}

/-- A file that is stored is verified. -/
theorem settles_verifyWritten (stored : storage.read dest = some data) :
    Settles md5 (verifyWritten md5 rpc dest data) storage (.ok .match) storage := by
  unfold verifyWritten
  by_cases large : md5VerifyMaxBytes < data.length
  · rw [if_pos large]
    have stat := Settles.perform md5 (.storageStat rpc dest) storage
    simp only [Storage.healthy, stored, Option.map_some] at stat
    apply stat.bind
    change Settles md5 (pure (if some data.length = some data.length then Md5Status.match else
      .mismatch)) _ _ _
    rw [if_pos rfl]
    exact .pure _ _
  · rw [if_neg large]
    have digest := Settles.perform md5 (.storageMd5sum rpc dest) storage
    simp only [Storage.healthy, stored, Option.map_some] at digest
    apply digest.bind
    change Settles md5 (pure (if md5 data = md5 data then Md5Status.match else .mismatch)) _ _ _
    rw [if_pos rfl]
    exact .pure _ _

/-- A file is written and verified in the first pass if its directory is there. -/
theorem settles_pushFile (resync : Bool) (present : Python.beforeLastSlash dest ∈ storage.dirs) :
    Settles md5 (pushFile md5 rpc dest data resync) storage (.ok rpc)
      { storage with files := (dest, data) :: storage.files } := by
  have wrote := Settles.perform md5 (.storageWrite rpc dest data) storage
  simp only [Storage.healthy, Storage.write_of_mem present] at wrote
  have stored : ({ storage with files := (dest, data) :: storage.files } : Storage).read dest =
      some data := by
    unfold Storage.read
    exact List.lookup_cons_self
  unfold pushFile pushLoop
  apply (wrote.tryExcept wedged _).bind
  apply ((settles_verifyWritten md5 rpc stored).tryExcept wedged _).bind
  rw [if_pos ⟨rfl, rfl⟩]
  exact .pure _ _

/-- A file is written in no pass if its directory is missing. -/
theorem settles_pushFile_error (resync : Bool) (missing : Python.beforeLastSlash dest ∉ storage.dirs) :
    ∃ e, Settles md5 (pushFile md5 rpc dest data resync) storage (.error e) storage := by
  have loop : ∀ passes rpc, ∃ e, Settles md5
      (pushLoop md5 dest data resync passes rpc false false .unreadable) storage (.error e) storage := by
    intro passes
    induction passes with
    | zero => exact fun _ => ⟨_, .raise _ _⟩
    | succ passes ih =>
        intro rpc
        have wrote := Settles.perform md5 (.storageWrite rpc dest data) storage
        simp only [Storage.healthy, Storage.write_of_not_mem missing] at wrote
        by_cases last : !resync ∨ passes = 0
        · refine ⟨pushFailure dest false .unreadable, ?_⟩
          apply (wrote.tryExcept wedged _).bind
          apply (Settles.pure _ _).bind
          rw [if_neg (fun both => nomatch both.1), if_pos last]
          exact .raise _ _
        · obtain ⟨e, again⟩ := ih (0 : ℕ)
          refine ⟨e, ?_⟩
          apply (wrote.tryExcept wedged _).bind
          apply (Settles.pure _ _).bind
          rw [if_neg (fun both => nomatch both.1), if_neg last]
          exact (Settles.perform md5 .resync storage).bind
            ((Settles.perform md5 (.sleep postWriteSettle) storage).bind again)
  exact loop _ rpc

end Push

section Order

/-- The directory of a file on the device. -/
def directory (pkgName : String) (file : String × Bytes) : String :=
  Python.beforeLastSlash (destination (packageDir pkgName) file.1)

/-- When a file's turn comes, its directory or the one above it is known: from the beginning, or as
the directory of an earlier file. -/
def InTime (pkgName : String) : List String → List (String × Bytes) → Prop
  | _, [] => True
  | known, file :: files =>
      (directory pkgName file ∈ known ∨ Python.beforeLastSlash (directory pkgName file) ∈ known) ∧
        InTime pkgName (directory pkgName file :: known) files

theorem InTime.congr {pkgName : String} {files : List (String × Bytes)} {known known' : List String}
    (same : ∀ dir, dir ∈ known ↔ dir ∈ known') :
    InTime pkgName known files ↔ InTime pkgName known' files := by
  induction files generalizing known known' with
  | nil => rfl
  | cons file files ih =>
      unfold InTime
      rw [same, same, ih]
      intro dir
      rw [List.mem_cons, List.mem_cons, same]

end Order

section Install

/-- A file on the device. -/
def placed (pkgName : String) (file : String × Bytes) : String × Bytes :=
  (destination (packageDir pkgName) file.1, file.2)

variable (md5 : Bytes → String) {pkgName : String} (rpc : Handle) {storage : Storage}
  {file : String × Bytes} (files : List (String × Bytes))

/-- Pushing a file and the others behind it. -/
theorem pushFiles_cons (resync : Bool) :
    pushFiles md5 (packageDir pkgName) resync (file :: files) rpc =
      let pushed : Device Handle := do
        let rpc ← pushFile md5 rpc (placed pkgName file).1 file.2 resync
        pushFiles md5 (packageDir pkgName) resync files rpc
      if directory pkgName file ≠ packageDir pkgName then
        Installer.perform (.storageMkdir rpc (directory pkgName file)) >>= fun _ => pushed
      else pushed :=
  rfl

/-- A file whose directory can be made is stored, and its directory is there for the others. -/
theorem settles_pushFiles_cons (resync : Bool) (package : packageDir pkgName ∈ storage.dirs)
    (known : directory pkgName file ∈ storage.dirs ∨
      Python.beforeLastSlash (directory pkgName file) ∈ storage.dirs) :
    ∃ dirs, (∀ dir, dir ∈ dirs ↔ dir ∈ directory pkgName file :: storage.dirs) ∧
      ∀ result storage', Settles md5 (pushFiles md5 (packageDir pkgName) resync files rpc)
          { storage with dirs := dirs, files := placed pkgName file :: storage.files } result storage' →
        Settles md5 (pushFiles md5 (packageDir pkgName) resync (file :: files) rpc) storage result
          storage' := by
  by_cases top : directory pkgName file = packageDir pkgName
  · refine ⟨storage.dirs, fun dir => ?_, fun result storage' others => ?_⟩
    · rw [List.mem_cons]
      refine ⟨.inr, fun either => either.elim (fun same => ?_) id⟩
      rw [same, top]
      exact package
    · have present : directory pkgName file ∈ storage.dirs := top ▸ package
      rw [pushFiles_cons]
      dsimp only
      rw [if_neg (not_not_intro top)]
      exact (settles_pushFile md5 rpc resync present).bind others
  · refine ⟨directory pkgName file :: storage.dirs, fun dir => Iff.rfl, fun result storage' others => ?_⟩
    have made := Settles.perform md5 (.storageMkdir rpc (directory pkgName file)) storage
    simp only [Storage.healthy, Storage.mkdir_of_mem known] at made
    rw [pushFiles_cons]
    dsimp only
    rw [if_pos top]
    apply made.bind
    have present : directory pkgName file ∈
        ({ storage with dirs := directory pkgName file :: storage.dirs } : Storage).dirs :=
      List.mem_cons_self
    exact (settles_pushFile md5 rpc resync present).bind others

/-- A file whose directory cannot be made ends the push. -/
theorem settles_pushFiles_late (resync : Bool) (package : packageDir pkgName ∈ storage.dirs)
    (unknown : ¬ (directory pkgName file ∈ storage.dirs ∨
      Python.beforeLastSlash (directory pkgName file) ∈ storage.dirs)) :
    ∃ e, Settles md5 (pushFiles md5 (packageDir pkgName) resync (file :: files) rpc) storage (.error e)
      storage := by
  have top : directory pkgName file ≠ packageDir pkgName := fun same =>
    unknown (.inl (same ▸ package))
  have made := Settles.perform md5 (.storageMkdir rpc (directory pkgName file)) storage
  simp only [Storage.healthy, Storage.mkdir_of_not_mem unknown] at made
  obtain ⟨e, failed⟩ := @settles_pushFile_error md5 rpc (placed pkgName file).1 file.2 storage resync
    fun present => unknown (.inl present)
  refine ⟨e, ?_⟩
  rw [pushFiles_cons]
  dsimp only
  rw [if_pos top]
  exact made.bind (failed.bind_error _)

/-- Files that come in time are stored one after the other. -/
theorem settles_pushFiles (resync : Bool) (package : packageDir pkgName ∈ storage.dirs)
    (inTime : InTime pkgName storage.dirs files) :
    ∃ dirs, Settles md5 (pushFiles md5 (packageDir pkgName) resync files rpc) storage (.ok rpc)
      { storage with
        dirs := dirs
        files := (files.map (placed pkgName)).reverse ++ storage.files } := by
  induction files generalizing storage with
  | nil => exact ⟨storage.dirs, .pure _ _⟩
  | cons file files ih =>
      obtain ⟨dirs, same, others⟩ := settles_pushFiles_cons md5 rpc files resync
        package inTime.1
      obtain ⟨dirs', ended⟩ := @ih
        { storage with dirs := dirs, files := placed pkgName file :: storage.files }
        ((same _).mpr (List.mem_cons_of_mem _ package)) ((InTime.congr same).mpr inTime.2)
      refine ⟨dirs', ?_⟩
      rw [List.map_cons, List.reverse_cons, List.append_assoc]
      exact others _ _ ended

theorem settles_pushFiles_error (resync : Bool) (package : packageDir pkgName ∈ storage.dirs)
    (late : ¬ InTime pkgName storage.dirs files) :
    ∃ e storage', Settles md5 (pushFiles md5 (packageDir pkgName) resync files rpc) storage (.error e)
      storage' := by
  induction files generalizing storage with
  | nil => exact absurd trivial late
  | cons file files ih =>
      by_cases known : directory pkgName file ∈ storage.dirs ∨
          Python.beforeLastSlash (directory pkgName file) ∈ storage.dirs
      · obtain ⟨dirs, same, others⟩ := settles_pushFiles_cons md5 rpc files resync
          package known
        obtain ⟨e, storage', ended⟩ := @ih
          { storage with dirs := dirs, files := placed pkgName file :: storage.files }
          ((same _).mpr (List.mem_cons_of_mem _ package))
          fun inTime => late ⟨known, (InTime.congr same).mp inTime⟩
        exact ⟨e, storage', others _ _ ended⟩
      · obtain ⟨e, ended⟩ := settles_pushFiles_late md5 rpc files resync package known
        exact ⟨e, storage, ended⟩

/-- The last content of a path is found. -/
theorem read_placed {dirs : List String} {before after : List (String × Bytes)}
    (split : files = before ++ file :: after) (last : ∀ later ∈ after, later.1 ≠ file.1) :
    ({ storage with
        dirs := dirs
        files := (files.map (placed pkgName)).reverse ++ storage.files } : Storage).read
      (destination (packageDir pkgName) file.1) = some file.2 := by
  have others : (after.map (placed pkgName)).reverse.lookup
      (destination (packageDir pkgName) file.1) = none := by
    apply List.lookup_eq_none_iff.mpr
    intro found member
    obtain ⟨later, behind, rfl⟩ := List.mem_map.mp (List.mem_reverse.mp member)
    refine bne_iff_ne.mpr fun same => last later behind ?_
    have texts := congrArg String.toList same
    unfold placed destination at texts
    simp only [toString, String.toList_append, List.append_assoc, List.append_cancel_left_eq,
      String.toList_inj] at texts
    exact texts.symm
  unfold Storage.read
  rw [split, List.map_append, List.map_cons, List.reverse_append, List.reverse_cons,
    List.append_assoc, List.append_assoc, List.lookup_append, others, Option.none_or]
  exact List.lookup_cons_self

variable {files} {bundle : LocalBundle}

/-- The target is checked and the directory of the package is made. -/
theorem settles_installBundle (resync : Bool) (ext : "/ext" ∈ storage.dirs) (plain : '/' ∉ pkgName.toList)
    (matching : checkTarget storage.info bundle = .ok ()) {result : Except Exn Unit}
    {storage' : Storage}
    (others : Settles md5 (pushFiles md5 (packageDir pkgName) resync bundle.files rpc >>= fun rpc =>
        triggerUpdate (manifestPath bundle pkgName) resync (resyncAttempts + 1) rpc >>= fun rpc =>
          Installer.perform (.systemRebootUpdate rpc))
      { storage with dirs := packageDir pkgName :: updateRoot :: storage.dirs } result storage') :
    Settles md5 (installBundle md5 rpc bundle pkgName resync) storage result storage' := by
  have root : Python.beforeLastSlash updateRoot = "/ext" := by decide +kernel
  have package : Python.beforeLastSlash (packageDir pkgName) = updateRoot :=
    Bundles.beforeLastSlash_plain plain updateRoot
  have first := Settles.perform md5 (.storageMkdir rpc updateRoot) storage
  simp only [Storage.healthy, Storage.mkdir_of_mem (.inr (root ▸ ext))] at first
  have second := Settles.perform md5 (.storageMkdir rpc (packageDir pkgName))
    { storage with dirs := updateRoot :: storage.dirs }
  have above : Python.beforeLastSlash (packageDir pkgName) ∈
      ({ storage with dirs := updateRoot :: storage.dirs } : Storage).dirs :=
    package ▸ List.mem_cons_self
  simp only [Storage.healthy, Storage.mkdir_of_mem (.inr above)] at second
  unfold installBundle
  apply (Settles.perform md5 (.getDeviceInfo rpc) storage).bind
  change Settles md5 (Coro.ofExcept (checkTarget storage.info bundle) >>= _) _ _ _
  rw [matching]
  apply (Settles.pure () storage).bind
  apply first.bind
  apply second.bind
  exact others

/-- A healthy device accepts the update at once. -/
theorem settles_triggerUpdate (manifest : String) (resync : Bool) (passes : ℕ) :
    Settles md5 (triggerUpdate manifest resync (passes + 1) rpc) storage (.ok rpc) storage := by
  unfold triggerUpdate
  apply (Settles.perform md5 (.sleep updateSettle) storage).bind
  apply ((Settles.perform md5 (.systemUpdate rpc manifest) storage).tryExcept _ _).bind
  exact .pure _ _

/-- **Bundles whose directories come in time install, and no others.** On a healthy device with
`/ext`, and whatever else it stores, a bundle for its target is installed and the device rebooted
into the update, each path with the content listed last for it, if and only if each directory of a
file, or the one above it, is there from the beginning or is the directory of an earlier file. -/
theorem installBundle_nested (resync : Bool) (info : Dict) (dirs : List String)
    (stored : List (String × Bytes)) (ext : "/ext" ∈ dirs) (plain : '/' ∉ pkgName.toList)
    (matching : checkTarget info bundle = .ok ()) :
    (∃ storage', Settles md5 (installBundle md5 rpc bundle pkgName resync) ⟨info, dirs, stored, false⟩
        (.ok ()) storage' ∧ storage'.rebooted = true ∧
      ∀ before file after, bundle.files = before ++ file :: after →
        (∀ later ∈ after, later.1 ≠ file.1) →
        storage'.read (destination (packageDir pkgName) file.1) = some file.2) ↔
      InTime pkgName (packageDir pkgName :: updateRoot :: dirs) bundle.files := by
  let start : Storage := ⟨info, packageDir pkgName :: updateRoot :: dirs, stored, false⟩
  have package : packageDir pkgName ∈ start.dirs := List.mem_cons_self
  constructor
  · intro ⟨storage', ended, _⟩
    by_contra late
    obtain ⟨e, failed, pushed⟩ := settles_pushFiles_error md5 rpc bundle.files resync package late
    have whole := @settles_installBundle md5 pkgName rpc ⟨info, dirs, stored, false⟩ bundle resync ext
      plain matching _ _ (pushed.bind_error _)
    exact nomatch ended.result.symm.trans whole.result
  · intro inTime
    obtain ⟨dirs', pushed⟩ := settles_pushFiles md5 rpc bundle.files resync package inTime
    let files := (bundle.files.map (placed pkgName)).reverse ++ stored
    have triggered := @settles_triggerUpdate md5 rpc ⟨info, dirs', files, false⟩
      (manifestPath bundle pkgName) resync resyncAttempts
    have rebooted : Settles md5 (Installer.perform (.systemRebootUpdate rpc)) ⟨info, dirs', files, false⟩
        (.ok ()) ⟨info, dirs', files, true⟩ :=
      Settles.perform md5 (.systemRebootUpdate rpc) ⟨info, dirs', files, false⟩
    have whole := @settles_installBundle md5 pkgName rpc ⟨info, dirs, stored, false⟩ bundle resync ext
      plain matching _ _ (pushed.bind (triggered.bind rebooted))
    refine ⟨_, whole, rfl, ?_⟩
    intro before file after split last
    exact @read_placed pkgName ⟨info, dirs', stored, true⟩ file bundle.files dirs' before after split
      last

/-- Directories of two levels, each after the one above it. -/
theorem installBundle_nested_ordered :
    let bundle : LocalBundle :=
      ⟨"update.fuf", "f7", [("update.fuf", [70]), ("a/x", [1]), ("a/b/y", [2])]⟩
    ∃ storage', Settles (fun _ => "d") (installBundle (fun _ => "d") 0 bundle "mcp-update" true)
        ⟨AList.singleton "hardware_target" "7", ["/ext"], [], false⟩ (.ok ()) storage' ∧
      storage'.rebooted = true ∧ ∀ before file after, bundle.files = before ++ file :: after →
        (∀ later ∈ after, later.1 ≠ file.1) →
        storage'.read (destination (packageDir "mcp-update") file.1) = some file.2 := by
  have plain : '/' ∉ "mcp-update".toList := by decide +kernel
  have matching : checkTarget (AList.singleton "hardware_target" "7") ⟨"update.fuf", "f7",
      [("update.fuf", [70]), ("a/x", [1]), ("a/b/y", [2])]⟩ = .ok () := by decide +kernel
  refine (installBundle_nested (fun _ => "d") 0 true _ ["/ext"] [] (List.mem_singleton_self _) plain
    matching).mpr ⟨?_, ?_, ?_, trivial⟩
  · exact .inl (by decide +kernel)
  · exact .inr (by decide +kernel)
  · exact .inr (by decide +kernel)

/-- **Two levels of directories at once are not made.** The file is never written and the device
never rebooted. -/
theorem installBundle_nested_fails :
    let outcome := run (Storage.healthy fun _ => "d")
      (installBundle (fun _ => "d") 0 ⟨"update.fuf", "f7", [("update.fuf", [70]), ("a/b/y", [2])]⟩
        "mcp-update" true) () ⟨AList.singleton "hardware_target" "7", ["/ext"], [], false⟩
    outcome.result = .error (pushFailure "/ext/update/mcp-update/a/b/y" false .unreadable) ∧
      outcome.world.rebooted = false ∧ outcome.world.read "/ext/update/mcp-update/a/b/y" = none := by
  exact ⟨by decide +kernel, by decide +kernel, by decide +kernel⟩

end Install

end Installer

end FlipperMcp
