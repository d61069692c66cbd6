import FlipperMcp.Firmware.Bundles

/-! # The target of a local bundle

`load_local_bundle` searches the whole path for a target. No match spans a slash, so the search
finds the first target a directory names, and that of the file where no directory names one
(`searchTarget_slash`). The file's own target is checked against the device if and only if the
directories in front name no other (`loadLocalBundle_target`).
-/

namespace FlipperMcp

open Coroutine Installer

namespace Bundles

section Literals

theorem matchLiteral_self {pattern : List Char} (self : ∀ c ∈ pattern, sameIgnoringCase c c = true)
    (rest : List Char) : matchLiteral pattern (pattern ++ rest) = some rest := by
  induction pattern with
  | nil => rfl
  | cons c pattern ih =>
      obtain ⟨first, others⟩ := List.forall_mem_cons.mp self
      rw [List.cons_append, matchLiteral, if_pos first]
      exact ih others

/-- A literal that no slash matches is found before the first slash. -/
theorem matchLiteral_slash {pattern : List Char}
    (misses : ∀ c ∈ pattern, sameIgnoringCase c '/' = false) (text rest : List Char) :
    matchLiteral pattern (text ++ '/' :: rest) =
      (matchLiteral pattern text).map fun left => left ++ '/' :: rest := by
  induction pattern generalizing text with
  | nil => rfl
  | cons c pattern ih =>
      obtain ⟨first, others⟩ := List.forall_mem_cons.mp misses
      cases text with
      | nil =>
          rw [List.nil_append, matchLiteral, first, matchLiteral]
          exact if_neg Bool.false_ne_true
      | cons t text =>
          rw [List.cons_append, matchLiteral, matchLiteral]
          by_cases same : sameIgnoringCase c t = true
          · rw [if_pos same, if_pos same]
            exact ih others text
          · rw [if_neg same, if_neg same]
            rfl

/-- The two literals of the pattern. -/
theorem literals_slash : (∀ c ∈ "flipper-z-".toList, sameIgnoringCase c '/' = false) ∧
    ∀ c ∈ "-update".toList, sameIgnoringCase c '/' = false := by
  have first : "flipper-z-".toList.all (fun c => !sameIgnoringCase c '/') = true := rfl
  have second : "-update".toList.all (fun c => !sameIgnoringCase c '/') = true := rfl
  exact ⟨fun c member => by simpa using List.all_eq_true.mp first c member,
    fun c member => by simpa using List.all_eq_true.mp second c member⟩

theorem literals_self : (∀ c ∈ "flipper-z-".toList, sameIgnoringCase c c = true) ∧
    ∀ c ∈ "-update".toList, sameIgnoringCase c c = true :=
  ⟨List.all_eq_true.mp (rfl : "flipper-z-".toList.all (fun c => sameIgnoringCase c c) = true),
    List.all_eq_true.mp (rfl : "-update".toList.all (fun c => sameIgnoringCase c c) = true)⟩

end Literals

section Search

variable {isWord : Char → Bool}

theorem searchTarget_of_match {text group : List Char} (matched : matchTarget isWord text = some group) :
    searchTarget isWord text = some group := by
  cases text with
  | nil => exact nomatch matched
  | cons c text => rw [searchTarget, matched, Option.some_or]

variable (words : IsWordClass isWord)

include words

theorem isWord_slash : isWord '/' = false := (words '/' (by decide)).trans rfl

theorem isWord_dash : isWord '-' = false := (words '-' (by decide)).trans rfl

/-- A run of word characters ends before a slash. -/
theorem word_slash (text rest : List Char) :
    (text ++ '/' :: rest).takeWhile isWord = text.takeWhile isWord ∧
      (text ++ '/' :: rest).dropWhile isWord = text.dropWhile isWord ++ '/' :: rest := by
  have slash : ¬ isWord '/' = true := by rw [isWord_slash words]; exact Bool.false_ne_true
  induction text with
  | nil => exact ⟨List.takeWhile_cons_of_neg slash, List.dropWhile_cons_of_neg slash⟩
  | cons c text ih =>
      rw [List.cons_append]
      by_cases word : isWord c = true
      · rw [List.takeWhile_cons_of_pos word, List.takeWhile_cons_of_pos word,
          List.dropWhile_cons_of_pos word, List.dropWhile_cons_of_pos word, ih.1]
        exact ⟨rfl, ih.2⟩
      · rw [List.takeWhile_cons_of_neg word, List.takeWhile_cons_of_neg word,
          List.dropWhile_cons_of_neg word, List.dropWhile_cons_of_neg word]
        exact ⟨rfl, rfl⟩

/-- What stands behind a slash does not help to match. -/
theorem matchTarget_slash (text rest : List Char) :
    matchTarget isWord (text ++ '/' :: rest) = matchTarget isWord text := by
  unfold matchTarget
  rw [matchLiteral_slash literals_slash.1]
  cases matched : matchLiteral "flipper-z-".toList text with
  | none => rfl
  | some left =>
      cases left with
      | nil =>
          have other : sameIgnoringCase 'f' '/' = false := rfl
          simp only [Option.map_some, List.nil_append, other, Bool.false_eq_true, false_and,
            ↓reduceIte]
      | cons c behind =>
          simp only [Option.map_some, List.cons_append, (word_slash words behind rest).1,
            (word_slash words behind rest).2, matchLiteral_slash literals_slash.2,
            Option.isSome_map]

/-- **A search goes on behind a slash if nothing in front of it matches.** -/
theorem searchTarget_slash (text rest : List Char) :
    searchTarget isWord (text ++ '/' :: rest) =
      (searchTarget isWord text).or (searchTarget isWord rest) := by
  induction text with
  | nil =>
      have empty := matchTarget_slash words [] rest
      rw [List.nil_append] at empty ⊢
      rw [searchTarget, searchTarget, empty]
      rfl
  | cons c text ih =>
      have here := matchTarget_slash words (c :: text) rest
      rw [List.cons_append] at here ⊢
      rw [searchTarget, searchTarget, here, ih, Option.or_assoc]

end Search

section Names

/-- What `f\w+` matches under `re.IGNORECASE`. -/
def IsTarget (isWord : Char → Bool) (target : String) : Prop :=
  ∃ c word, target.toList = c :: word ∧ sameIgnoringCase 'f' c = true ∧ word ≠ [] ∧
    ∀ c ∈ word, isWord c = true

/-- `flipper-z-<target>-update-*.tgz`. -/
def bundleName (target rest : String) : String :=
  "flipper-z-" ++ target ++ "-update-" ++ rest ++ ".tgz"

variable {isWord : Char → Bool} (words : IsWordClass isWord)

include words

/-- The target a name of the documented form names is found. -/
theorem searchTarget_bundleName {target : String} (isTarget : IsTarget isWord target)
    (rest : String) :
    searchTarget isWord (bundleName target rest).toList = some target.toList := by
  obtain ⟨c, word, spelt, first, some_, all⟩ := isTarget
  have name : (bundleName target rest).toList = "flipper-z-".toList ++
      (c :: (word ++ ("-update".toList ++ ('-' :: (rest ++ ".tgz").toList)))) := by
    unfold bundleName
    simp only [String.toList_append, spelt, List.append_assoc, List.cons_append]
    rfl
  have dash : ¬ isWord '-' = true := by rw [isWord_dash words]; exact Bool.false_ne_true
  have taken : (word ++ ("-update".toList ++ ('-' :: (rest ++ ".tgz").toList))).takeWhile isWord =
      word := by
    rw [List.takeWhile_append_of_pos all]
    exact (congrArg (word ++ ·) (List.takeWhile_cons_of_neg dash)).trans (List.append_nil word)
  have dropped : (word ++ ("-update".toList ++ ('-' :: (rest ++ ".tgz").toList))).dropWhile isWord =
      "-update".toList ++ ('-' :: (rest ++ ".tgz").toList) := by
    rw [List.dropWhile_append_of_pos all]
    exact List.dropWhile_cons_of_neg dash
  apply searchTarget_of_match
  rw [name]
  unfold matchTarget
  rw [matchLiteral_self literals_self.1]
  simp only [taken, dropped, matchLiteral_self literals_self.2, first, some_, ne_eq,
    not_false_eq_true, Option.isSome_some, and_self, ↓reduceIte, spelt]

end Names

section Target

/-- A bundle for another target is refused before anything is made or written. -/
theorem installBundle_refused {σ : Type} (md5 : Bytes → String) {rpc : Handle} {bundle : LocalBundle}
    {pkgName : String} {resync : Bool} {E : DeviceEnv σ} {w w' : σ} {info : Dict}
    (answered : E (.getDeviceInfo rpc) w = (.ok info, w'))
    (other : deviceTarget info ≠ bundle.target) :
    (run E (installBundle md5 rpc bundle pkgName resync) () w).trace.map (·.op) =
      [.getDeviceInfo rpc] := by
  obtain ⟨e, refused⟩ : ∃ e, checkTarget info bundle = .error e := by
    unfold checkTarget
    by_cases missing : rawTarget info = ""
    · exact ⟨_, if_pos missing⟩
    · exact ⟨_, (if_neg missing).trans (if_pos other)⟩
  unfold installBundle Installer.perform
  rw [run_bind, run_perform, answered]
  simp only [Outcome.after_trace, refused]
  rfl

/-- Whatever an accepted archive with a manifest holds is in the bundle. -/
theorem loadLocalBundle_accepted {isWord : Char → Bool} {lower : String → String}
    {openTar : String → Except Exn (List TarMember)} {path target : String} {members : List TarMember} {files : List (String × Bytes)}
    (named : targetFromName isWord lower path = .ok target) (opened : openTar path = .ok members)
    (accepted : membersFromTar members = .ok files) (listed : ∃ file ∈ files, file.1 = manifest) :
    loadLocalBundle isWord lower openTar path = .ok ⟨manifest, target, files⟩ := by
  have any : files.any (fun file => file.1 = manifest) = true := by simpa using listed
  unfold loadLocalBundle
  rw [named, opened]
  change (do let files ← membersFromTar members; buildBundle files target) = _
  rw [accepted]
  exact if_pos any

variable {isWord : Char → Bool} (words : IsWordClass isWord) (lower : String → String)

include words

/-- The target of a local bundle. -/
theorem targetFromName_path (dir : String) {target : String} (isTarget : IsTarget isWord target)
    (rest : String) :
    targetFromName isWord lower (dir ++ "/" ++ bundleName target rest) =
      .ok (lower (((searchTarget isWord dir.toList).map String.ofList).getD target)) := by
  have found : searchTarget isWord (dir ++ "/" ++ bundleName target rest).toList =
      (searchTarget isWord dir.toList).or (some target.toList) := by
    rw [String.toList_append, String.toList_append, List.append_assoc]
    exact (searchTarget_slash words _ _).trans
      (congrArg _ (searchTarget_bundleName words isTarget rest))
  unfold targetFromName
  rw [found]
  cases searchTarget isWord dir.toList with
  | none => exact congrArg (fun text => Except.ok (lower text)) String.ofList_toList
  | some group => rfl

omit words in
/-- What is loaded has the target that was found. -/
theorem loadLocalBundle_named {openTar : String → Except Exn (List TarMember)} {path : String}
    {bundle : LocalBundle} (loaded : loadLocalBundle isWord lower openTar path = .ok bundle) :
    targetFromName isWord lower path = .ok bundle.target := by
  unfold loadLocalBundle at loaded
  cases named : targetFromName isWord lower path with
  | error e =>
      rw [named] at loaded
      exact nomatch loaded
  | ok target =>
      cases opened : openTar path with
      | error e =>
          rw [named, opened] at loaded
          exact nomatch loaded
      | ok members =>
          rw [named, opened] at loaded
          change (do let files ← membersFromTar members; buildBundle files target) = _ at loaded
          cases read : membersFromTar members with
          | error e =>
              rw [read] at loaded
              exact nomatch loaded
          | ok files =>
              rw [read] at loaded
              change buildBundle files target = .ok bundle at loaded
              unfold buildBundle at loaded
              split at loaded
              · obtain rfl := Except.ok.inj loaded
                rfl
              · exact nomatch loaded

/-- **The target check uses the file's own name if and only if no directory in front names another
target.** A bundle of the documented name is loaded with the target in the name, and is never pushed
to a device that reports another one, if and only if the directories name no target, or the first
they name is the same in lower case. -/
theorem loadLocalBundle_target (dir target rest : String) (isTarget : IsTarget isWord target) :
    ((∀ openTar members files, openTar (dir ++ "/" ++ bundleName target rest) = .ok members →
        membersFromTar members = .ok files → (∃ file ∈ files, file.1 = manifest) →
        loadLocalBundle isWord lower openTar (dir ++ "/" ++ bundleName target rest) =
          .ok ⟨manifest, lower target, files⟩) ∧
      ∀ openTar bundle, loadLocalBundle isWord lower openTar (dir ++ "/" ++ bundleName target rest) =
          .ok bundle →
        ∀ (σ : Type) (E : DeviceEnv σ) (w w' : σ) (md5 : Bytes → String) (rpc : Handle)
          (pkgName : String) (resync : Bool) (info : Dict),
          E (.getDeviceInfo rpc) w = (.ok info, w') → deviceTarget info ≠ lower target →
          (run E (installBundle md5 rpc bundle pkgName resync) () w).trace.map (·.op) =
            [.getDeviceInfo rpc]) ↔
      ∀ group, searchTarget isWord dir.toList = some group →
        lower (String.ofList group) = lower target := by
  have path := targetFromName_path words lower dir isTarget rest
  constructor
  · intro ⟨loads, _⟩ group found
    have accepted : membersFromTar [⟨manifest, true, .ok (some [])⟩] = .ok [(manifest, [])] := by
      decide +kernel
    have loaded := loads (fun _ => .ok [⟨manifest, true, .ok (some [])⟩]) _ _ rfl accepted
      ⟨_, List.mem_singleton_self _, rfl⟩
    have named := loadLocalBundle_named lower loaded
    rw [path, found] at named
    exact Except.ok.inj named
  · intro same
    have named : targetFromName isWord lower (dir ++ "/" ++ bundleName target rest) =
        .ok (lower target) := by
      rw [path]
      cases found : searchTarget isWord dir.toList with
      | none => rfl
      | some group => exact congrArg Except.ok (same group found)
    constructor
    · intro openTar members files opened accepted listed
      exact loadLocalBundle_accepted named opened accepted listed
    · intro openTar bundle loaded σ E w w' md5 rpc pkgName resync info answered other
      apply installBundle_refused md5 answered
      have found := loadLocalBundle_named lower loaded
      rw [named] at found
      exact Except.ok.inj found ▸ other

end Target

/-- The word characters of ASCII. -/
def asciiWord (c : Char) : Bool := c.isAlphanum || c = '_'

/-- An archive that holds the manifest alone. -/
def manifestOnly (_ : String) : Except Exn (List TarMember) :=
  .ok [⟨"f7-update-1.1/update.fuf", true, .ok (some [70])⟩]

/-- A bundle below a directory that names no target. -/
theorem loadLocalBundle_target_plain :
    loadLocalBundle asciiWord Python.lower manifestOnly "/fw/new/flipper-z-F7-update-1.1.tgz" =
      .ok ⟨"update.fuf", "f7", [("update.fuf", [70])]⟩ := by
  have isTarget : IsTarget asciiWord "F7" := ⟨'F', ['7'], rfl, rfl, nofun, by
    intro c member
    rw [List.mem_singleton.mp member]
    rfl⟩
  have words : IsWordClass asciiWord := fun _ _ => rfl
  have loads := ((loadLocalBundle_target words Python.lower "/fw/new" "F7" "1.1"
    isTarget).mpr (by
      intro group found
      have none_ : searchTarget asciiWord "/fw/new".toList = none := by decide +kernel
      rw [none_] at found
      exact nomatch found)).1
  exact loads manifestOnly [⟨"f7-update-1.1/update.fuf", true, .ok (some [70])⟩]
    [("update.fuf", [70])] rfl (by decide +kernel) ⟨_, List.mem_singleton_self _, rfl⟩

/-- A device of the other target. It makes and writes everything. -/
def f18Device : DeviceEnv Unit := fun op w => match op with
  | .getDeviceInfo _ => (.ok (AList.singleton "hardware_target" "18"), w)
  | .storageMkdir _ _ => (.ok true, w)
  | .storageWrite _ _ _ => (.ok true, w)
  | .storageMd5sum _ _ => (.ok (some "d"), w)
  | .storageStat _ _ => (.ok none, w)
  | .systemUpdate _ _ => (.ok updateOk, w)
  | .systemRebootUpdate _ => (.ok (), w)
  | .resync => (.ok (0 : ℕ), w)
  | .sleep _ => (.ok (), w)

/-- **A directory decides the target.** A bundle for `f7` in a directory of an update for `f18` is
loaded as one for `f18`, written to a device of that target, and the device is rebooted into it. -/
theorem loadLocalBundle_target_fails :
    loadLocalBundle asciiWord Python.lower manifestOnly
        "/fw/flipper-z-f18-update-1.0/flipper-z-f7-update-1.1.tgz" =
      .ok ⟨"update.fuf", "f18", [("update.fuf", [70])]⟩ ∧
    (run f18Device (installBundle (fun _ => "d") 0
        ⟨"update.fuf", "f18", [("update.fuf", [70])]⟩ "mcp-update" true) () ()).trace.map (·.op) =
      [.getDeviceInfo 0, .storageMkdir 0 "/ext/update", .storageMkdir 0 "/ext/update/mcp-update",
        .storageWrite 0 "/ext/update/mcp-update/update.fuf" [70],
        .storageMd5sum 0 "/ext/update/mcp-update/update.fuf", .sleep updateSettle,
        .systemUpdate 0 "/ext/update/mcp-update/update.fuf", .systemRebootUpdate 0] := by
  have named : targetFromName asciiWord Python.lower
      "/fw/flipper-z-f18-update-1.0/flipper-z-f7-update-1.1.tgz" = .ok "f18" := by decide +kernel
  have accepted : membersFromTar [⟨"f7-update-1.1/update.fuf", true, .ok (some [70])⟩] =
      .ok [("update.fuf", [70])] := by decide +kernel
  exact ⟨loadLocalBundle_accepted named rfl accepted ⟨_, List.mem_singleton_self _, rfl⟩,
    by decide +kernel⟩

end Bundles

end FlipperMcp
