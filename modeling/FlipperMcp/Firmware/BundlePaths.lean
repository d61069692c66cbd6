import FlipperMcp.Coroutine.Alphabet
import FlipperMcp.Firmware.Bundles

/-! # Where the files of a bundle go

A path names a place below the root: empty segments and `.` stay where they are, `..` goes up.
The members of an accepted archive have no `..` behind the first segment that was removed, so
whatever `install_bundle` makes or writes is in the package directory, or that directory, or the
one above it (`bundle_confined`).
-/

namespace FlipperMcp

open Coroutine Installer

namespace Bundles

section Paths

/-- Follow one segment of a path. -/
def enter (place : List (List Char)) (segment : List Char) : List (List Char) :=
  if segment = [] ∨ segment = ['.'] then place
  else if segment = ['.', '.'] then place.dropLast
  else place ++ [segment]

/-- The place a path names. -/
def place (path : String) : List (List Char) := (segments path).foldl enter []

/-- A name of a file or a directory. -/
structure IsPlain (name : String) : Prop where
  single : '/' ∉ name.toList
  some_ : name ≠ ""
  here : name ≠ "."
  up : name ≠ ".."

/-- No segment goes up. -/
def StaysBelow (path : String) : Prop := ['.', '.'] ∉ segments path

theorem segments_slash (front rest : String) :
    segments (front ++ "/" ++ rest) = segments front ++ segments rest := by
  unfold segments
  rw [String.toList_append, String.toList_append, List.append_assoc]
  exact List.splitOnP_append_cons _ _ rfl

theorem segments_plain {name : String} (single : '/' ∉ name.toList) :
    segments name = [name.toList] := by
  apply List.splitOnP_eq_singleton
  intro c member
  exact decide_eq_false fun same => single (same ▸ member)

theorem place_slash (front rest : String) :
    place (front ++ "/" ++ rest) = (segments rest).foldl enter (place front) := by
  unfold place
  rw [segments_slash, List.foldl_append]

/-- What does not go up stays below where it starts. -/
theorem foldl_enter {parts : List (List Char)} (below : ['.', '.'] ∉ parts) (base : List (List Char)) :
    base <+: parts.foldl enter base := by
  induction parts generalizing base with
  | nil => exact List.prefix_rfl
  | cons part parts ih =>
      have stays : part ≠ ['.', '.'] := fun same => below (same ▸ List.mem_cons_self ..)
      have later := ih (fun member => below (List.mem_cons_of_mem _ member)) (enter base part)
      rw [List.foldl_cons]
      refine List.IsPrefix.trans ?_ later
      unfold enter
      by_cases nothing : part = [] ∨ part = ['.']
      · rw [if_pos nothing]
      · rw [if_neg nothing, if_neg stays]
        exact List.prefix_append _ _

theorem place_below {rest : String} (below : StaysBelow rest) (front : String) :
    place front <+: place (front ++ "/" ++ rest) := by
  rw [place_slash]
  exact foldl_enter below _

end Paths

section Parents

/-- The part of a text before its last slash. -/
theorem beforeLastSlash_plain {name : String} (single : '/' ∉ name.toList) (front : String) :
    Python.beforeLastSlash (front ++ "/" ++ name) = front := by
  have plain : ∀ c ∈ name.toList.reverse, decide (c ≠ '/') = true := fun c member =>
    decide_eq_true fun same => single (same ▸ List.mem_reverse.mp member)
  unfold Python.beforeLastSlash
  rw [String.toList_append, String.toList_append, List.reverse_append, List.reverse_append,
    List.dropWhile_append_of_pos plain]
  change String.ofList ((('/' :: front.toList.reverse).dropWhile fun c => decide (c ≠ '/')).drop 1).reverse = front
  rw [List.dropWhile_cons_of_neg (by simp), List.drop_one, List.tail_cons, List.reverse_reverse,
    String.ofList_toList]

/-- A text with a slash has a part before the last one and a name behind it. -/
theorem exists_lastSlash {text : String} (slash : '/' ∈ text.toList) :
    ∃ front name, '/' ∉ name.toList ∧ text = front ++ "/" ++ name := by
  obtain ⟨before, after, whole, first⟩ := List.eq_append_cons_of_mem (List.mem_reverse.mpr slash)
  refine ⟨String.ofList after.reverse, String.ofList before.reverse, ?_, ?_⟩
  · rw [String.toList_ofList, List.mem_reverse]
    exact first
  · simp only [← String.toList_inj, String.toList_append, String.toList_ofList]
    have turned := congrArg List.reverse whole
    rw [List.reverse_reverse, List.reverse_append, List.reverse_cons] at turned
    exact turned

/-- The directory of a destination is the package directory, or below it. -/
theorem parent_destination (pkgDir relPath : String) :
    Python.beforeLastSlash (destination pkgDir relPath) = pkgDir ∨
      ∃ front name, relPath = front ++ "/" ++ name ∧
        Python.beforeLastSlash (destination pkgDir relPath) = pkgDir ++ "/" ++ front := by
  have written : destination pkgDir relPath = pkgDir ++ "/" ++ relPath := rfl
  rw [written]
  by_cases slash : '/' ∈ relPath.toList
  · obtain ⟨front, name, single, rfl⟩ := exists_lastSlash slash
    refine .inr ⟨front, name, rfl, ?_⟩
    rw [← String.append_assoc, ← String.append_assoc]
    exact beforeLastSlash_plain single _
  · exact .inl (beforeLastSlash_plain slash pkgDir)

end Parents

section Members

/-- What an accepted member is called. -/
theorem readMembers_below {top : String} {members : List TarMember} {files : List (String × Bytes)}
    (accepted : readMembers top members = .ok files) : ∀ file ∈ files, StaysBelow file.1 := by
  induction members generalizing files with
  | nil =>
      obtain rfl := Except.ok.inj accepted
      exact nofun
  | cons member members ih =>
      unfold readMembers at accepted
      by_cases unsafe_ : Python.startsWith "/" (removePrefix top member.name) ∨
          "..".toList ∈ segments (removePrefix top member.name)
      · simp only [unsafe_, ↓reduceIte] at accepted
        exact nomatch accepted
      · simp only [unsafe_, ↓reduceIte] at accepted
        cases read : member.content with
        | error e =>
            rw [read] at accepted
            exact nomatch accepted
        | ok content =>
            cases later : readMembers top members with
            | error e =>
                rw [read, later] at accepted
                exact nomatch accepted
            | ok rest =>
                rw [read, later] at accepted
                cases content with
                | none =>
                    obtain rfl := Except.ok.inj accepted
                    exact ih later
                | some data =>
                    obtain rfl := Except.ok.inj accepted
                    refine List.forall_mem_cons.mpr ⟨?_, ih later⟩
                    exact fun up => unsafe_ (.inr up)

theorem membersFromTar_below {members : List TarMember} {files : List (String × Bytes)}
    (accepted : membersFromTar members = .ok files) : ∀ file ∈ files, StaysBelow file.1 := by
  unfold membersFromTar at accepted
  cases regular : members.filter TarMember.isFile with
  | nil =>
      rw [regular] at accepted
      exact nomatch accepted
  | cons first others =>
      rw [regular] at accepted
      exact readMembers_below accepted

end Members

section Confinement

/-- The path is the update directory, the directory of the package, or below that. -/
def Confined (pkgName path : String) : Prop :=
  place path = place updateRoot ∨ place updateRoot ++ [pkgName.toList] <+: place path

/-- What is made or written is confined. -/
def ConfinedOp (pkgName : String) : DeviceOp → Prop
  | .storageMkdir _ path | .storageWrite _ path _ => Confined pkgName path
  | _ => True

variable {pkgName : String}

theorem place_packageDir (plain : IsPlain pkgName) :
    place (packageDir pkgName) = place updateRoot ++ [pkgName.toList] := by
  have written : packageDir pkgName = updateRoot ++ "/" ++ pkgName := rfl
  have some_ : pkgName.toList ≠ [] := fun empty => plain.some_ (String.toList_eq_nil_iff.mp empty)
  have here : pkgName.toList ≠ ['.'] := fun same => plain.here (String.toList_inj.mp same)
  have up : pkgName.toList ≠ ['.', '.'] := fun same => plain.up (String.toList_inj.mp same)
  rw [written, place_slash, segments_plain plain.single]
  change enter (place updateRoot) pkgName.toList = _
  unfold enter
  rw [if_neg (not_or.mpr ⟨some_, here⟩), if_neg up]

/-- Below the directory of the package. -/
theorem confined_below (plain : IsPlain pkgName) {rest : String} (below : StaysBelow rest) :
    Confined pkgName (packageDir pkgName ++ "/" ++ rest) := by
  refine .inr ?_
  rw [← place_packageDir plain]
  exact place_below below _

theorem confined_packageDir (plain : IsPlain pkgName) : Confined pkgName (packageDir pkgName) :=
  .inr (place_packageDir plain ▸ List.prefix_rfl)

/-- The directory of a file is confined like the file. -/
theorem confined_parent (plain : IsPlain pkgName) {relPath : String} (below : StaysBelow relPath) :
    Confined pkgName (Python.beforeLastSlash (destination (packageDir pkgName) relPath)) := by
  rcases parent_destination (packageDir pkgName) relPath with same | ⟨front, name, rfl, same⟩
  · rw [same]
    exact confined_packageDir plain
  · rw [same]
    apply confined_below plain
    unfold StaysBelow at below ⊢
    rw [segments_slash] at below
    exact fun up => below (List.mem_append_left _ up)

variable (md5 : Bytes → String)

/-- One operation that is confined. -/
theorem awaits_perform {op : DeviceOp} (allowed : ConfinedOp pkgName op) :
    @Awaits Unit deviceSignature Exn _ (ConfinedOp pkgName) (Installer.perform op) :=
  @Awaits.perform Unit deviceSignature Exn _ op allowed

/-- What pushing one file awaits. -/
theorem awaits_pushFile (rpc : Handle) {dest : String} (data : Bytes) (resync : Bool)
    (confined : Confined pkgName dest) :
    @Awaits Unit deviceSignature Exn _ (ConfinedOp pkgName) (pushFile md5 rpc dest data resync) := by
  have size : ∀ rpc, @Awaits Unit deviceSignature Exn _ (ConfinedOp pkgName)
      (checkSize rpc dest data.length) := by
    intro rpc
    apply (@awaits_perform pkgName (.storageStat rpc dest) trivial).bind
    intro (stat : Option FileStat)
    cases stat <;> exact .pure _
  have digest : ∀ rpc attempts, @Awaits Unit deviceSignature Exn _ (ConfinedOp pkgName)
      (checkMd5 rpc dest (md5 data) attempts) := by
    intro rpc attempts
    induction attempts with
    | zero => exact .pure _
    | succ attempts ih =>
        apply (@awaits_perform pkgName (.storageMd5sum rpc dest) trivial).bind
        intro (found : Option String)
        cases found with
        | some _ => exact .pure _
        | none => exact .ite (fun _ => .pure _) fun _ =>
            (@awaits_perform pkgName (.sleep md5Settle) trivial).bind fun _ => ih
  have loop : ∀ passes rpc written everWritten status,
      @Awaits Unit deviceSignature Exn _ (ConfinedOp pkgName)
        (pushLoop md5 dest data resync passes rpc written everWritten status) := by
    intro passes
    induction passes with
    | zero => exact fun _ _ _ _ => .raise _
    | succ passes ih =>
        intro rpc written everWritten status
        apply Awaits.bind
        · exact .ite (fun _ => .pure _) fun _ =>
            (@awaits_perform pkgName (.storageWrite rpc dest data) confined).tryExcept
              fun _ => .pure _
        · intro written
          apply Awaits.bind
          · exact .ite (fun _ => Awaits.tryExcept (.ite (fun _ => size rpc) fun _ => digest rpc _)
              fun _ => .pure _) fun _ => .pure _
          · intro status
            apply Awaits.ite (fun _ => .pure _)
            intro _
            apply Awaits.ite (fun _ => .raise _)
            intro _
            exact (@awaits_perform pkgName .resync trivial).bind fun rpc =>
              (@awaits_perform pkgName (.sleep postWriteSettle) trivial).bind fun _ => ih rpc _ _ _
  exact loop _ rpc _ _ _

/-- What installing awaits. -/
theorem awaits_installBundle (plain : IsPlain pkgName) (rpc : Handle) (bundle : LocalBundle)
    (resync : Bool) (below : ∀ file ∈ bundle.files, StaysBelow file.1) :
    @Awaits Unit deviceSignature Exn _ (ConfinedOp pkgName)
      (installBundle md5 rpc bundle pkgName resync) := by
  have files : ∀ files rpc, (∀ file ∈ files, StaysBelow file.1) →
      @Awaits Unit deviceSignature Exn _ (ConfinedOp pkgName)
        (pushFiles md5 (packageDir pkgName) resync files rpc) := by
    intro files
    induction files with
    | nil => exact fun _ _ => .pure _
    | cons file files ih =>
        intro rpc below
        obtain ⟨first, others⟩ := List.forall_mem_cons.mp below
        have pushed : @Awaits Unit deviceSignature Exn _ (ConfinedOp pkgName) (do
            let rpc ← pushFile md5 rpc (destination (packageDir pkgName) file.1) file.2 resync
            pushFiles md5 (packageDir pkgName) resync files rpc) :=
          (awaits_pushFile md5 rpc file.2 resync (confined_below plain first)).bind fun rpc =>
            ih rpc others
        apply Awaits.ite
        · exact fun _ => (@awaits_perform pkgName (.storageMkdir rpc _)
            (confined_parent plain first)).bind fun _ => pushed
        · exact fun _ => pushed
  have triggered : ∀ passes rpc, @Awaits Unit deviceSignature Exn _ (ConfinedOp pkgName)
      (triggerUpdate (manifestPath bundle pkgName) resync passes rpc) := by
    intro passes
    induction passes with
    | zero => exact fun _ => .raise _
    | succ passes ih =>
        intro rpc
        apply (@awaits_perform pkgName (.sleep updateSettle) trivial).bind
        intro _
        apply ((@awaits_perform pkgName (.systemUpdate rpc _) trivial).tryExcept fun _ => .raise _).bind
        intro (code : ℤ)
        apply Awaits.ite (fun _ => .pure _)
        intro _
        apply Awaits.ite (fun _ => .raise _)
        intro _
        exact .ite (fun _ => (@awaits_perform pkgName .resync trivial).bind fun rpc => ih rpc)
          fun _ => ih rpc
  have root : Confined pkgName updateRoot := .inl rfl
  apply (@awaits_perform pkgName (.getDeviceInfo rpc) trivial).bind
  intro (info : Dict)
  apply (Awaits.ofExcept _).bind
  intro _
  apply (@awaits_perform pkgName (.storageMkdir rpc updateRoot) root).bind
  intro _
  apply (@awaits_perform pkgName (.storageMkdir rpc (packageDir pkgName))
    (confined_packageDir plain)).bind
  intro _
  exact (files bundle.files rpc below).bind fun rpc => (triggered _ rpc).bind fun rpc =>
    @awaits_perform pkgName (.systemRebootUpdate rpc) trivial

/-- **Bundle paths are confined.** Of a bundle with the files of an archive that is accepted:
whatever the archive lists and whatever the device answers, each path that is made or written is
the update directory, the directory of the package, or below that. -/
theorem bundle_confined {σ : Type} (members : List TarMember) (files : List (String × Bytes))
    (accepted : membersFromTar members = .ok files) (bundle : LocalBundle)
    (built : bundle.files = files) (pkgName : String) (plain : IsPlain pkgName) (rpc : Handle)
    (resync : Bool) (E : DeviceEnv σ) (w : σ) :
    ∀ event ∈ (run E (installBundle md5 rpc bundle pkgName resync) () w).trace,
      ConfinedOp pkgName event.op :=
  (awaits_installBundle md5 plain rpc bundle resync
    (built ▸ membersFromTar_below accepted)).trace E () w

/-- An archive with two members, of which the first alone starts with what is removed, on a device
that makes and writes everything. -/
theorem bundle_confined_two :
    membersFromTar [⟨"pkg/./update.fuf", true, .ok (some [70])⟩, ⟨"a/b", true, .ok (some [])⟩] =
      .ok [("./update.fuf", [70]), ("a/b", [])] ∧
    ∀ event ∈ (run (fun op w => match op with
        | .getDeviceInfo _ => (.ok (AList.singleton "hardware_target" "7"), w)
        | .storageMkdir _ _ => (.ok true, w)
        | .storageWrite _ _ _ => (.ok true, w)
        | .storageMd5sum _ _ => (.ok (some "d"), w)
        | .storageStat _ _ => (.ok none, w)
        | .systemUpdate _ _ => (.ok updateOk, w)
        | .systemRebootUpdate _ => (.ok (), w)
        | .resync => (.ok (0 : ℕ), w)
        | .sleep _ => (.ok (), w) : DeviceEnv Unit)
      (installBundle (fun _ => "d") 0
        ⟨manifest, "f7", [("./update.fuf", [70]), ("a/b", [])]⟩ "mcp-update" true) () ()).trace,
      ConfinedOp "mcp-update" event.op := by
  have accepted : membersFromTar
      [⟨"pkg/./update.fuf", true, .ok (some [70])⟩, ⟨"a/b", true, .ok (some [])⟩] =
        .ok [("./update.fuf", [70]), ("a/b", [])] := by decide +kernel
  have plain : IsPlain "mcp-update" := ⟨by decide +kernel, nofun, nofun, nofun⟩
  exact ⟨accepted, bundle_confined (fun _ => "d") _ _ accepted
    ⟨manifest, "f7", [("./update.fuf", [70]), ("a/b", [])]⟩ rfl _ plain 0 true _ ()⟩

end Confinement

end Bundles

end FlipperMcp
