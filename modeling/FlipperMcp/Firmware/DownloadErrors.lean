import FlipperMcp.Coroutine.Precondition
import FlipperMcp.Firmware.Download

/-! # What a download can raise

`download_bundle` documents that it raises `BundleError`. Here is the condition on the
metadata and on what is served under which it raises nothing else. Each lookup of the
model follows one in `Option` (`Python.Walks`); the exceptions that a lookup may let out
depend on whether it stands in front of an `except (KeyError, TypeError)`.
-/

namespace FlipperMcp

open Coroutine (ResultAllowed)
open Python (Value Walks require required)
open Python.Value (DictsUntil hasText)

namespace Bundles

/-- What the callers of `download_bundle` handle. -/
def IsBundleError (e : Exn) : Prop := ∃ text, e = .bundleError text

/-- What does not get past an `except (KeyError, TypeError)` as something else. -/
def IsMended (e : Exn) : Prop :=
  IsBundleError e ∨ (∃ text, e = .keyError text) ∨ ∃ text, e = .typeError text

theorem bundleError_isBundleError (text : String) : IsBundleError (.bundleError text) := ⟨text, rfl⟩

theorem attributeError_not_mended (text : String) : ¬ IsMended (.attributeError text) := by
  intro mended
  rcases mended with ⟨_, impossible⟩ | ⟨_, impossible⟩ | ⟨_, impossible⟩
  · exact nomatch impossible
  · exact nomatch impossible
  · exact nomatch impossible

theorem attributeError_not_bundleError (text : String) :
    ¬ IsBundleError (.attributeError text) := fun mended => attributeError_not_mended text (.inl mended)

/-! ## Lookups -/

section Lookups

variable {allowed : Exn → Prop}

/-- Only a dictionary has the method. -/
theorem dictGet_walks (noMethod : ∀ text, ¬ allowed (.attributeError text)) (key : String)
    (default value : Value) :
    Walks allowed (dictGet key default value) value.IsDict (some (value.lookupD key default)) := by
  cases value with
  | dict entries => exact .ok _
  | _ => exact .escape (noMethod _) _

theorem iter_walks (typed : ∀ text, allowed (.typeError text)) (value : Value) :
    Walks allowed (iter value) True value.elements? :=
  .of_required (typed _) _

theorem iter_walks_outside (value : Value) :
    Walks IsBundleError (iter value) (value.elements?.isSome = true) value.elements? :=
  .of_demanded (fun ⟨_, impossible⟩ => nomatch impossible) _

/-- A key is looked up under `try`. -/
theorem item_walks (key : String) (value : Value) :
    Walks IsMended (item key value) True (value.lookup key) := by
  cases value with
  | dict entries => exact .of_required (.inr (.inl ⟨_, rfl⟩)) _
  | _ => exact .error (.inr (.inr ⟨_, rfl⟩))

theorem itemZero_walks (value : Value) :
    Walks IsBundleError (itemZero value) (value.first?.isSome = true) value.first? := by
  cases value with
  | list _ | str _ => exact .of_demanded (fun ⟨_, impossible⟩ => nomatch impossible) _
  | _ => exact .of_demanded (fun ⟨_, impossible⟩ => nomatch impossible) none

/-- A search reads the entries in front of the first match. -/
theorem nextWith_walks (noMethod : ∀ text, ¬ allowed (.attributeError text)) (key text : String)
    (values : List Value) :
    Walks allowed (nextWith key text values) (DictsUntil (hasText key text) values)
      (some (values.find? (hasText key text))) := by
  induction values with
  | nil => exact (Walks.ok none).congr ⟨fun _ => Value.dictsUntil_nil _, fun _ => trivial⟩
  | cons value values ih =>
      have matched : (value.lookupD key .none).isText text = hasText key text value := by
        unfold Value.lookupD hasText
        cases value.lookup key <;> rfl
      have further : Walks allowed (if (value.lookupD key .none).isText text then
          .ok (some value) else nextWith key text values)
          (hasText key text value = false → DictsUntil (hasText key text) values)
          (some ((value :: values).find? (hasText key text))) := by
        rw [matched, List.find?_cons]
        cases hasText key text value with
        | true => exact (Walks.ok (some value)).congr ⟨fun _ => nofun, fun _ => trivial⟩
        | false => exact ih.congr ⟨fun holds _ => holds, fun holds => holds rfl⟩
      exact Walks.congr (.bind_value (dictGet_walks noMethod key .none value) further)
        (Value.dictsUntil_cons (fun _ => Value.isDict_of_hasText) _ _).symm

end Lookups

/-- The result of a handler for `KeyError` and `TypeError`. -/
theorem wrapping_walks {α : Type} (text : String) {x : Except Exn α} {sound : Prop}
    {lookup : Option α} (walked : Walks IsMended x sound lookup) :
    Walks IsBundleError (wrapping text x) sound lookup where
  contained := by
    refine Iff.trans ⟨fun contained e raised => ?_, fun mended e raised => ?_⟩ walked.contained
    · subst raised
      cases e with
      | keyError text => exact .inr (.inl ⟨text, rfl⟩)
      | typeError text => exact .inr (.inr ⟨text, rfl⟩)
      | _ => exact .inl (contained _ rfl)
    · cases x with
      | ok a => exact nomatch raised
      | error cause =>
          rcases mended cause rfl with ⟨_, rfl⟩ | ⟨_, rfl⟩ | ⟨_, rfl⟩
          · exact ⟨_, (Except.error.inj raised).symm⟩
          · exact ⟨_, (Except.error.inj raised).symm⟩
          · exact ⟨_, (Except.error.inj raised).symm⟩
  value := by
    intro holds a
    refine Iff.trans ⟨fun returned => ?_, fun returned => ?_⟩ (walked.value holds a)
    · cases x with
      | ok b => exact returned
      | error cause => cases cause <;> exact nomatch returned
    · rw [returned]
      rfl

/-! ## The version that is picked -/

/-- The latest of the values, or that of a version. -/
def chosen? (key version : String) (values : Value) : Option Value :=
  if version = "latest" then values.first?.bind Value.present
  else values.elements?.bind fun listed => listed.find? (hasText key version)

/-- There is a first value, or the values can be searched. -/
def Pickable (key version : String) (values : Value) : Prop :=
  if version = "latest" then values.first?.isSome = true
  else values.elements?.isSome = true ∧
    ∀ listed ∈ values.elements?, DictsUntil (hasText key version) listed

theorem pick_walks (key version : String) (values : Value) :
    Walks IsBundleError (pick key version values) (Pickable key version values)
      (some (chosen? key version values)) := by
  unfold pick Pickable chosen?
  by_cases latest : version = "latest"
  · simp only [latest, ↓reduceIte]
    have walked := (itemZero_walks values).bind fun first _ => Walks.ok first.present
    refine (walked.congr (and_iff_left fun _ _ => trivial)).relookup fun given => ?_
    obtain ⟨first, same⟩ := Option.isSome_iff_exists.mp given
    rw [same]
    rfl
  · simp only [latest, ↓reduceIte]
    have walked := (iter_walks_outside values).bind fun listed _ =>
      nextWith_walks attributeError_not_bundleError key version listed
    refine walked.relookup fun given => ?_
    obtain ⟨listed, same⟩ := Option.isSome_iff_exists.mp given.1
    rw [same]
    rfl

/-- The version, which must be there. -/
theorem picked_walks (key version : String) (values : Value) (text : String) :
    Walks IsBundleError (pick key version values >>= required (.bundleError text))
      (Pickable key version values) (chosen? key version values) :=
  (pick_walks key version values).found (bundleError_isBundleError text)

/-! ## The official directory -/

/-- The entries of a list of channels that all have an `id`. -/
def keyed? (listed : List Value) : Option (List (Value × Value)) :=
  if listed.all fun c => (c.lookup "id").any Value.hashable then
    some (listed.map fun c => ((c.lookup "id").getD .none, c))
  else none

/-- The last channel with an `id`. -/
def officialChannel? (directory : Value) (channel : String) : Option Value := do
  let listed ← (directory.lookupD "channels" (.list [])).elements?
  guard (listed.all fun c => (c.lookup "id").any Value.hashable)
  listed.reverse.find? (hasText "id" channel)

theorem channelEntries_walks (listed : List Value) :
    Walks IsMended (channelEntries listed) True (keyed? listed) := by
  induction listed with
  | nil => exact .ok []
  | cons c cs ih =>
      have walked := (item_walks "id" c).bind fun key _ =>
        Walks.check (e := .typeError ("unhashable type: '" ++ key.typeName ++ "'"))
          (.inr (.inr ⟨_, rfl⟩)) fun _ : key.hashable = true => ih.bind fun entries _ =>
            Walks.ok ((key, c) :: entries)
      refine (walked.congr (iff_true_intro ⟨trivial, fun _ _ _ => ⟨trivial, fun _ _ => trivial⟩⟩)).relookup
        fun _ => ?_
      unfold keyed?
      rw [List.all_cons]
      cases has : c.lookup "id" with
      | none => rfl
      | some key =>
          rw [Option.bind_some, Option.any_some]
          cases hashable : key.hashable with
          | false => rfl
          | true =>
              by_cases all : (cs.all fun c => (c.lookup "id").any Value.hashable) = true
              · simp only [all, Bool.and_self, ↓reduceIte, List.map_cons, has]
                rfl
              · simp only [all, Bool.and_false, Bool.false_eq_true, ↓reduceIte]
                rfl

theorem keyed_bind_channelNamed (listed : List Value) (channel : String) :
    (keyed? listed).bind (channelNamed channel) =
      (guard (listed.all fun c => (c.lookup "id").any Value.hashable) : Option Unit).bind
        fun _ => listed.reverse.find? (hasText "id" channel) := by
  have same : (fun c : Value => ((c.lookup "id").getD .none).isText channel) =
      hasText "id" channel := by
    funext c
    unfold hasText
    cases c.lookup "id" <;> rfl
  unfold keyed? guard
  split
  · rw [Option.bind_some]
    unfold channelNamed
    rw [← List.map_reverse, List.find?_map, Option.map_map]
    simp only [Function.comp_def, same]
    exact Option.map_id'
  · rfl

/-- The `try` in front of the channels. -/
theorem channel_walks (directory : Value) (channel : String) :
    Walks IsBundleError (do
      let channels ← wrapping "malformed official directory (channel entry): " (do
        let listed ← dictGet "channels" (.list []) directory
        let cs ← iter listed
        channelEntries cs)
      required (.bundleError ("unknown official channel " ++ Python.repr channel))
        (channelNamed channel channels))
      directory.IsDict (officialChannel? directory channel) := by
  have tried := (dictGet_walks attributeError_not_mended "channels" (.list []) directory).bind
    fun listed _ => (iter_walks (fun text => .inr (.inr ⟨text, rfl⟩)) listed).bind
      fun cs _ => channelEntries_walks cs
  have walked := (wrapping_walks "malformed official directory (channel entry): " tried).bind
    fun channels _ => Walks.of_required (bundleError_isBundleError
      ("unknown official channel " ++ Python.repr channel)) (channelNamed channel channels)
  refine (walked.congr ?_).relookup fun _ => ?_
  · exact ⟨fun holds => holds.1.1, fun dict => ⟨⟨dict, fun _ _ => ⟨trivial, fun _ _ => trivial⟩⟩,
      fun _ _ => trivial⟩⟩
  · unfold officialChannel?
    rw [Option.bind_some]
    cases (directory.lookupD "channels" (.list [])).elements? with
    | none => rfl
    | some listed => exact keyed_bind_channelNamed listed channel

/-- An install bundle for a target. -/
def isInstallFile (target : String) (entry : Value) : Bool :=
  entry.hasText "target" target && entry.hasText "type" "update_tgz"

theorem installFile_walks (target : String) (entries : List Value) :
    Walks IsBundleError (installFile target entries) (DictsUntil (isInstallFile target) entries)
      (some (entries.find? (isInstallFile target))) := by
  induction entries with
  | nil => exact (Walks.ok none).congr ⟨fun _ => Value.dictsUntil_nil _, fun _ => trivial⟩
  | cons entry entries ih =>
      have dicts : ∀ value, isInstallFile target value = true → value.IsDict := fun value found =>
        Value.isDict_of_hasText ((Bool.and_eq_true _ _).mp found).1
      have matched : ∀ key text, (entry.lookupD key .none).isText text = hasText key text entry := by
        intro key text
        unfold Value.lookupD hasText
        cases entry.lookup key <;> rfl
      have further : Walks IsBundleError (if (entry.lookupD "target" .none).isText target ∧
          (entry.lookupD "type" .none).isText "update_tgz" then .ok (some entry)
          else installFile target entries)
          (isInstallFile target entry = false → DictsUntil (isInstallFile target) entries)
          (some ((entry :: entries).find? (isInstallFile target))) := by
        rw [matched, matched, List.find?_cons]
        by_cases both : hasText "target" target entry ∧ hasText "type" "update_tgz" entry
        · have same : isInstallFile target entry = true := (Bool.and_eq_true _ _).mpr both
          rw [if_pos both, same]
          exact (Walks.ok (some entry)).congr ⟨fun _ => nofun, fun _ => trivial⟩
        · have other : isInstallFile target entry = false :=
            Bool.eq_false_iff.mpr fun same => both ((Bool.and_eq_true _ _).mp same)
          rw [if_neg both, other]
          exact ih.congr ⟨fun holds _ => holds, fun holds => holds rfl⟩
      have reads := fun key => dictGet_walks attributeError_not_bundleError key .none entry
      refine Walks.congr (.bind_value (reads "target") (.bind_value (reads "type") further))
        (Iff.trans ?_ (Value.dictsUntil_cons dicts _ _).symm)
      exact ⟨fun holds => ⟨holds.1, holds.2.2⟩, fun holds => ⟨holds.1, holds.1, holds.2⟩⟩

/-- The entry of an install bundle. -/
def officialFile? (directory : Value) (channel version target : String) : Option Value := do
  let chosen ← officialChannel? directory channel
  let versions := chosen.lookupD "versions" (.list [])
  guard (versions.truthy = true)
  let picked ← chosen? "version" version versions
  let entries ← (picked.lookupD "files" (.list [])).elements?
  entries.find? (isInstallFile target)

/-- The directory is a dictionary. The versions of the channel can be picked from; the one that
is picked is a dictionary whose files can be searched. -/
def DirectoryShaped (directory : Value) (channel version target : String) : Prop :=
  directory.IsDict ∧ ∀ chosen ∈ officialChannel? directory channel,
    let versions := chosen.lookupD "versions" (.list [])
    versions.truthy = true → Pickable "version" version versions ∧
      ∀ picked ∈ chosen? "version" version versions,
        let files := picked.lookupD "files" (.list [])
        picked.IsDict ∧ files.elements?.isSome = true ∧
          ∀ entries ∈ files.elements?, DictsUntil (isInstallFile target) entries

/-- What a channel was found by makes it a dictionary. -/
theorem officialChannel_isDict {directory chosen : Value} {channel : String}
    (found : officialChannel? directory channel = some chosen) : chosen.IsDict := by
  unfold officialChannel? at found
  obtain ⟨listed, -, found⟩ := Option.bind_eq_some_iff.mp found
  obtain ⟨_, -, found⟩ := Option.bind_eq_some_iff.mp found
  exact Value.isDict_of_hasText (List.find?_some found)

theorem selectOfficialFile_walks (directory : Value) (channel version target : String) :
    Walks IsBundleError (selectOfficialFile directory channel version target)
      (DirectoryShaped directory channel version target)
      (officialFile? directory channel version target) := by
  have reads := dictGet_walks attributeError_not_bundleError
  unfold selectOfficialFile
  rw [← bind_assoc]
  refine Walks.bind (channel_walks directory channel) fun chosen found => ?_
  refine Walks.congr (.bind_value (reads "versions" (.list []) chosen) ?_)
    (and_iff_right (officialChannel_isDict found))
  refine Walks.check (bundleError_isBundleError _) fun _ => ?_
  refine Walks.bind (picked_walks "version" version _ _) fun picked _ => ?_
  refine Walks.bind_value (reads "files" (.list []) picked) ?_
  refine Walks.bind (iter_walks_outside _) fun entries _ => ?_
  exact Walks.found (installFile_walks target entries) (bundleError_isBundleError _)

/-- The URL and the digest of an entry. -/
def bundleOf? (entry : Value) : Option (String × String) := do
  let url ← entry.lookup "url"
  let expected ← entry.lookup "sha256"
  some (url.toStr, expected.toStr)

theorem bundleOf_walks (entry : Value) :
    Walks IsBundleError (wrapping "malformed official bundle entry: missing " (do
      let url ← item "url" entry
      let expected ← item "sha256" entry
      .ok (url.toStr, expected.toStr))) True (bundleOf? entry) := by
  refine Walks.congr (wrapping_walks _ (.bind (item_walks "url" entry) fun url _ =>
    .bind (item_walks "sha256" entry) fun expected _ => .ok _)) ?_
  exact ⟨fun _ => trivial, fun _ => ⟨trivial, fun _ _ => ⟨trivial, fun _ _ => trivial⟩⟩⟩

/-! ## The Momentum releases -/

/-- The asset of a release for a target, with its URL. -/
def asset? (release : Value) (target : String) : Option (Value × Value) := do
  let tag ← release.lookup "tag_name"
  let assets ← (release.lookupD "assets" (.list [])).elements?
  let asset ← assets.find? (hasText "name" (wantedAsset target tag))
  let downloadUrl ← asset.lookup "browser_download_url"
  some (asset, downloadUrl)

/-- The assets of a release can be searched, if it lists any. -/
def AssetsShaped (release : Value) (target : String) : Prop :=
  ∀ tag ∈ release.lookup "tag_name", ∀ assets ∈ (release.lookupD "assets" (.list [])).elements?,
    DictsUntil (hasText "name" (wantedAsset target tag)) assets

theorem asset_isDict {release : Value} {target : String} {selected : Value × Value}
    (found : asset? release target = some selected) : selected.1.IsDict := by
  obtain ⟨tag, -, found⟩ := Option.bind_eq_some_iff.mp found
  obtain ⟨assets, -, found⟩ := Option.bind_eq_some_iff.mp found
  obtain ⟨asset, matched, found⟩ := Option.bind_eq_some_iff.mp found
  obtain ⟨downloadUrl, -, same⟩ := Option.bind_eq_some_iff.mp found
  obtain rfl := Option.some.inj same
  exact Value.isDict_of_hasText (List.find?_some matched)

theorem selectAsset_walks (release : Value) (target : String) :
    Walks IsMended (selectAsset release target) (AssetsShaped release target)
      (asset? release target) := by
  have typed : ∀ text, IsMended (.typeError text) := fun text => .inr (.inr ⟨text, rfl⟩)
  refine Walks.congr (.bind (item_walks "tag_name" release) fun tag found => ?_)
    (and_iff_right trivial)
  refine Walks.congr (.bind_value (dictGet_walks attributeError_not_mended "assets" _ release) ?_)
    (and_iff_right (Value.isDict_of_lookup found))
  refine Walks.congr (.bind (iter_walks typed _) fun assets _ => ?_) (and_iff_right trivial)
  have searched := nextWith_walks attributeError_not_mended "name" (wantedAsset target tag) assets
  refine Walks.congr (.bind (.found searched (.inl (bundleError_isBundleError _)))
    fun asset _ => .bind (item_walks "browser_download_url" asset) fun downloadUrl _ => .ok _) ?_
  exact and_iff_left fun _ _ => ⟨trivial, fun _ _ => trivial⟩

/-! ## What is served -/

/-- It raises what the caller handles, or nothing. -/
def Answered {α : Type} (handled : Exn → Bool) (result : Except Exn α) : Prop :=
  ResultAllowed (fun e => handled e = true ∨ IsBundleError e) result

theorem rewrapping_walks {α : Type} (catches : Exn → Bool) (text : String) (result : Except Exn α) :
    Walks IsBundleError (rewrapping catches text result) (Answered catches result)
      result.toOption := by
  cases result with
  | ok value => exact (Walks.ok value).congr ⟨fun _ => .ok value, fun _ => trivial⟩
  | error e =>
      unfold rewrapping
      by_cases handled : catches e = true
      · simp only [handled, ↓reduceIte]
        exact (Walks.error (bundleError_isBundleError _)).congr
          ⟨fun _ => .error (.inl handled), fun _ => trivial⟩
      · simp only [handled, Bool.false_eq_true, ↓reduceIte]
        refine (Walks.of_result (Except.error e : Except Exn α)).congr ⟨fun contained => ?_,
          fun answered => ?_⟩
        · exact .error (.inr (contained e rfl))
        · exact .error ((answered e rfl).resolve_left handled)

/-- A member that `_members_from_tar` reads. -/
def IsSafe (top : String) (member : TarMember) : Prop :=
  ¬ (Python.startsWith "/" (removePrefix top member.name) = true ∨
    "..".toList ∈ segments (removePrefix top member.name))

/-- Every member that is reached is read: one that is safe, with only safe ones in front of it
that have been read. -/
def Reads (top : String) (members : List TarMember) : Prop :=
  ∀ before member after, members = before ++ member :: after →
    (∀ earlier ∈ before, IsSafe top earlier ∧ ∃ content, earlier.content = .ok content) →
    IsSafe top member → ResultAllowed IsBundleError member.content

/-- `tarfile` opens the archive and reads its members. -/
def Readable (archive : Except Exn (List TarMember)) : Prop :=
  ResultAllowed IsBundleError archive ∧ ∀ members, archive = .ok members →
    ∀ first others, members.filter TarMember.isFile = first :: others →
      Reads (firstSegment first.name ++ "/") (first :: others)

theorem reads_nil (top : String) : Reads top [] := by
  intro before member after same
  cases before with
  | nil => exact nomatch same
  | cons _ _ => exact nomatch same

theorem reads_cons (top : String) (member : TarMember) (members : List TarMember) :
    Reads top (member :: members) ↔ (IsSafe top member →
      ResultAllowed IsBundleError member.content ∧
        ∀ content, member.content = .ok content → Reads top members) := by
  constructor
  · intro reads safe
    refine ⟨reads [] member members rfl (fun _ impossible => nomatch impossible) safe, ?_⟩
    intro content read before later after same earlier
    refine reads (member :: before) later after (congrArg _ same) ?_
    exact List.forall_mem_cons.mpr ⟨⟨safe, content, read⟩, earlier⟩
  · intro reads before later after same earlier safe
    cases before with
    | nil =>
        obtain ⟨rfl, rfl⟩ := List.cons.inj same
        exact (reads safe).1
    | cons first before =>
        obtain ⟨rfl, rfl⟩ := List.cons.inj same
        obtain ⟨⟨safeFirst, content, read⟩, earlier⟩ := List.forall_mem_cons.mp earlier
        exact (reads safeFirst).2 content read before later after rfl earlier safe

theorem readMembers_contained (top : String) (members : List TarMember) :
    ResultAllowed IsBundleError (readMembers top members) ↔ Reads top members := by
  induction members with
  | nil => exact ⟨fun _ => reads_nil top, fun _ => .ok []⟩
  | cons member members ih =>
      rw [reads_cons]
      unfold readMembers
      simp only
      by_cases safe : IsSafe top member
      · rw [if_neg safe, Python.resultAllowed_bind]
        refine Iff.trans (and_congr_right fun _ => forall_congr' fun content =>
          forall_congr' fun _ => ?_) ⟨fun holds _ => holds, fun holds => holds safe⟩
        rw [Python.resultAllowed_bind, ih]
        refine and_iff_left fun files _ => ?_
        cases content with
        | none => exact .ok _
        | some content => exact .ok _
      · rw [if_pos (not_not.mp safe)]
        exact ⟨fun _ holds => absurd holds safe, fun _ => .error (bundleError_isBundleError _)⟩

section

variable (up : Upstream)

theorem bundleFromTgzBytes_contained (data : Bytes) (target : String) :
    ResultAllowed IsBundleError (bundleFromTgzBytes up data target) ↔
      Readable (up.openTar data) := by
  unfold bundleFromTgzBytes Readable
  rw [Python.resultAllowed_bind]
  refine and_congr_right fun _ => forall_congr' fun members => forall_congr' fun _ => ?_
  have built : ∀ files, ResultAllowed IsBundleError (buildBundle files target) := by
    intro files
    unfold buildBundle
    split
    · exact .ok _
    · exact .error (bundleError_isBundleError _)
  rw [Python.resultAllowed_bind]
  refine Iff.trans (and_iff_left fun files _ => built files) ?_
  unfold membersFromTar
  cases members.filter TarMember.isFile with
  | nil => exact ⟨fun _ _ _ => nofun, fun _ => .error (bundleError_isBundleError _)⟩
  | cons first others =>
      refine (readMembers_contained _ _).trans ⟨fun reads _ _ same => ?_, fun reads => ?_⟩
      · obtain ⟨rfl, rfl⟩ := List.cons.inj same
        exact reads
      · exact reads first others rfl

/-- The bundle of an archive with a digest. -/
def verified? (data : Bytes) (expected target : String) : Option LocalBundle := do
  guard (DigestMatches up data expected)
  (bundleFromTgzBytes up data target).toOption

theorem verified_walks (data : Bytes) (expected target : String) :
    Walks IsBundleError (do
      verifySha256 up data expected
      bundleFromTgzBytes up data target)
      (DigestMatches up data expected → Readable (up.openTar data))
      (verified? up data expected target) :=
  .check (bundleError_isBundleError _) fun _ =>
    (Walks.of_result _).congr (bundleFromTgzBytes_contained up data target)

/-! ## The downloads -/

/-- The document that is served at a URL. -/
def served? (url : String) : Option Value := do
  let raw ← (up.get 0 (.str url)).toOption
  (up.loads raw).toOption

/-- A document is served at a URL, with what holds of it. -/
def DocumentSound (url : String) (sound : Value → Prop) : Prop :=
  Answered isHttpError (up.get 0 (.str url)) ∧ ∀ raw ∈ (up.get 0 (.str url)).toOption,
    Answered isJsonDecodeError (up.loads raw) ∧ ∀ document ∈ (up.loads raw).toOption,
      sound document

/-- A bundle is served at a URL, with what holds of it. -/
def BundleSound (url : Value) (sound : Bytes → Prop) : Prop :=
  Answered isHttpError (up.get 1 url) ∧ ∀ data ∈ (up.get 1 url).toOption, sound data

/-- The directory has its shape, and the bundle it selects is served and readable. -/
def OfficialSound (channel version target : String) : Prop :=
  DocumentSound up officialDirectory fun directory =>
    DirectoryShaped directory channel version target ∧
      ∀ entry ∈ officialFile? directory channel version target, ∀ bundle ∈ bundleOf? entry,
        BundleSound up (.str bundle.1) fun data =>
          DigestMatches up data bundle.2 → Readable (up.openTar data)

/-- The releases have their shape, and the asset they select is served, has a text for its
digest and is readable. -/
def MomentumSound (version target : String) : Prop :=
  DocumentSound up momentumReleases fun releases =>
    releases.truthy = true → Pickable "tag_name" version releases ∧
      ∀ release ∈ chosen? "tag_name" version releases, AssetsShaped release target ∧
        ∀ selected ∈ asset? release target, BundleSound up selected.2 fun data =>
          ∃ digest, selected.1.lookupD "digest" (.str "") = .str digest ∧
            (Python.startsWith "sha256:" digest = true →
              DigestMatches up data (afterColon digest) → Readable (up.openTar data))

/-- The condition for each distribution. -/
def DownloadSound (flavor : FirmwareFlavor) (channel version target : String) : Prop :=
  match flavor with
  | .official => OfficialSound up channel version target
  | .momentum => MomentumSound up version target
  | _ => True

/-- The URL and the digest of the bundle that the metadata selects. -/
def selection? (flavor : FirmwareFlavor) (channel version target : String) :
    Option (Value × String) :=
  match flavor with
  | .official => do
      let directory ← served? up officialDirectory
      let entry ← officialFile? directory channel version target
      let bundle ← bundleOf? entry
      some (.str bundle.1, bundle.2)
  | .momentum => do
      let releases ← served? up momentumReleases
      let release ← chosen? "tag_name" version releases
      let selected ← asset? release target
      some (selected.2, afterColon (selected.1.lookupD "digest" (.str "")).toStr)
  | _ => none

/-- The bundle that has been downloaded and verified. -/
def official? (channel version target : String) : Option LocalBundle := do
  let raw ← (up.get 0 (.str officialDirectory)).toOption
  let directory ← (up.loads raw).toOption
  let entry ← officialFile? directory channel version target
  let bundle ← bundleOf? entry
  let data ← (up.get 1 (.str bundle.1)).toOption
  verified? up data bundle.2 target

theorem downloadOfficial_walks (channel version target : String) :
    Walks IsBundleError (downloadOfficial up channel version target)
      (OfficialSound up channel version target) (official? up channel version target) := by
  unfold downloadOfficial
  refine Walks.bind (rewrapping_walks _ _ _) fun raw _ => ?_
  refine Walks.bind (rewrapping_walks _ _ _) fun directory _ => ?_
  refine Walks.bind (selectOfficialFile_walks directory channel version target) fun entry _ => ?_
  refine Walks.congr (.bind (bundleOf_walks entry) fun bundle _ => ?_) (and_iff_right trivial)
  refine Walks.bind (rewrapping_walks _ _ _) fun data _ => ?_
  exact verified_walks up data bundle.2 target

/-- What the digest of an asset says about its prefix. -/
def prefixed? : Value → Option Bool
  | .str text => some (Python.startsWith "sha256:" text)
  | _ => none

/-- The asset that has been downloaded and verified. -/
def momentum? (version target : String) : Option LocalBundle := do
  let raw ← (up.get 0 (.str momentumReleases)).toOption
  let releases ← (up.loads raw).toOption
  guard (releases.truthy = true)
  let release ← chosen? "tag_name" version releases
  let selected ← asset? release target
  let data ← (up.get 1 selected.2).toOption
  let digest := selected.1.lookupD "digest" (.str "")
  let prefixed ← prefixed? digest
  guard (prefixed = true)
  verified? up data (afterColon digest.toStr) target

/-- The digest of an asset that has been downloaded. -/
theorem digest_walks (data : Bytes) (digest : Value) (target : String) :
    Walks IsBundleError (do
      let prefixed ← sha256Prefixed digest
      require (prefixed = true) (.bundleError "Momentum asset is missing a sha256 digest")
      verifySha256 up data (afterColon digest.toStr)
      bundleFromTgzBytes up data target)
      (∃ text, digest = .str text ∧ (Python.startsWith "sha256:" text = true →
        DigestMatches up data (afterColon text) → Readable (up.openTar data)))
      (do
        let prefixed ← prefixed? digest
        guard (prefixed = true)
        verified? up data (afterColon digest.toStr) target) := by
  cases digest with
  | str text =>
      have checked := Walks.check (bundleError_isBundleError
        "Momentum asset is missing a sha256 digest") fun _ :
          Python.startsWith "sha256:" text = true => verified_walks up data (afterColon text) target
      refine checked.congr ⟨fun holds => ⟨text, rfl, holds⟩, fun holds => ?_⟩
      obtain ⟨_, same, holds⟩ := holds
      obtain rfl := Value.str.inj same
      exact holds
  | _ =>
      refine (Walks.escape (attributeError_not_bundleError _) _).congr
        ⟨False.elim, fun holds => ?_⟩
      obtain ⟨_, impossible, -⟩ := holds
      exact nomatch impossible

theorem downloadMomentum_walks (version target : String) :
    Walks IsBundleError (downloadMomentum up version target) (MomentumSound up version target)
      (momentum? up version target) := by
  unfold downloadMomentum
  refine Walks.bind (rewrapping_walks _ _ _) fun raw _ => ?_
  refine Walks.bind (rewrapping_walks _ _ _) fun releases _ => ?_
  refine Walks.check (bundleError_isBundleError _) fun _ => ?_
  refine Walks.bind (picked_walks "tag_name" version releases _) fun release _ => ?_
  refine Walks.bind (wrapping_walks _ (selectAsset_walks release target)) fun selected found => ?_
  refine Walks.bind (rewrapping_walks _ _ _) fun data _ => ?_
  refine Walks.congr (.bind_value (dictGet_walks attributeError_not_bundleError "digest" _ _) ?_)
    (and_iff_right (asset_isDict found))
  exact digest_walks up data _ target

/-- It returns what it should, or raises a `BundleError`. -/
def ReturnsOrBundleError {α : Type} (returned : α → Prop) : Except Exn α → Prop
  | .ok value => returned value
  | .error e => IsBundleError e

/-- The bundle is built from bytes that were served at the selected URL and have the selected
digest. -/
def BuiltFromVerified (flavor : FirmwareFlavor) (channel version target : String)
    (bundle : LocalBundle) : Prop :=
  ∃ url digest data, selection? up flavor channel version target = some (url, digest) ∧
    up.get 1 url = .ok data ∧ DigestMatches up data digest ∧
      bundleFromTgzBytes up data target = .ok bundle

variable {up}

theorem toOption_eq_some {α : Type} {result : Except Exn α} {value : α}
    (same : result.toOption = some value) : result = .ok value := by
  cases result with
  | ok other => exact congrArg Except.ok (Option.some.inj same)
  | error e => exact nomatch same

theorem verified_of_some {data : Bytes} {expected target : String} {bundle : LocalBundle}
    (verified : verified? up data expected target = some bundle) :
    DigestMatches up data expected ∧ bundleFromTgzBytes up data target = .ok bundle := by
  obtain ⟨_, passed, built⟩ := Option.bind_eq_some_iff.mp verified
  refine ⟨?_, toOption_eq_some built⟩
  by_contra differs
  rw [guard, if_neg differs] at passed
  exact nomatch passed

theorem official_verified {channel version target : String} {bundle : LocalBundle}
    (found : official? up channel version target = some bundle) :
    BuiltFromVerified up .official channel version target bundle := by
  obtain ⟨raw, answered, found⟩ := Option.bind_eq_some_iff.mp found
  obtain ⟨directory, parsed, found⟩ := Option.bind_eq_some_iff.mp found
  obtain ⟨entry, selected, found⟩ := Option.bind_eq_some_iff.mp found
  obtain ⟨⟨url, digest⟩, pair, found⟩ := Option.bind_eq_some_iff.mp found
  obtain ⟨data, served, found⟩ := Option.bind_eq_some_iff.mp found
  refine ⟨.str url, digest, data, ?_, toOption_eq_some served, verified_of_some found⟩
  have document : served? up officialDirectory = some directory :=
    Option.bind_eq_some_iff.mpr ⟨raw, answered, parsed⟩
  refine Option.bind_eq_some_iff.mpr ⟨directory, document, ?_⟩
  refine Option.bind_eq_some_iff.mpr ⟨entry, selected, ?_⟩
  exact Option.bind_eq_some_iff.mpr ⟨(url, digest), pair, rfl⟩

theorem momentum_verified {channel version target : String} {bundle : LocalBundle}
    (found : momentum? up version target = some bundle) :
    BuiltFromVerified up .momentum channel version target bundle := by
  obtain ⟨raw, answered, found⟩ := Option.bind_eq_some_iff.mp found
  obtain ⟨releases, parsed, found⟩ := Option.bind_eq_some_iff.mp found
  obtain ⟨_, -, found⟩ := Option.bind_eq_some_iff.mp found
  obtain ⟨release, chosen, found⟩ := Option.bind_eq_some_iff.mp found
  obtain ⟨selected, asset, found⟩ := Option.bind_eq_some_iff.mp found
  obtain ⟨data, served, found⟩ := Option.bind_eq_some_iff.mp found
  obtain ⟨_, -, found⟩ := Option.bind_eq_some_iff.mp found
  obtain ⟨_, -, found⟩ := Option.bind_eq_some_iff.mp found
  refine ⟨selected.2, _, data, ?_, toOption_eq_some served, verified_of_some found⟩
  have document : served? up momentumReleases = some releases :=
    Option.bind_eq_some_iff.mpr ⟨raw, answered, parsed⟩
  refine Option.bind_eq_some_iff.mpr ⟨releases, document, ?_⟩
  refine Option.bind_eq_some_iff.mpr ⟨release, chosen, ?_⟩
  exact Option.bind_eq_some_iff.mpr ⟨selected, asset, rfl⟩

theorem returnsOrBundleError_iff {α : Type} {returned : α → Prop} {result : Except Exn α}
    {sound : Prop} {lookup : Option α} (walked : Walks IsBundleError result sound lookup)
    (found : ∀ value, lookup = some value → returned value) :
    ReturnsOrBundleError returned result ↔ sound := by
  rw [← walked.contained]
  cases result with
  | ok value =>
      refine ⟨fun _ => .ok value, fun contained => found value ?_⟩
      exact (walked.value (walked.contained.mp contained) value).mp rfl
  | error e =>
      exact ⟨fun raised => .error raised, fun contained => contained e rfl⟩

variable (up)

/-- **Downloads that fail with a `BundleError`.** For every metadata and everything that is
served, a download returns a verified bundle or raises a `BundleError` if and only if the
metadata has the shape that is walked and the libraries raise nothing that is not handled. -/
theorem downloadBundle_contained_iff (flavor : FirmwareFlavor) (channel version target : String) :
    ReturnsOrBundleError (BuiltFromVerified up flavor channel version target)
        (downloadBundle up flavor channel version target) ↔
      DownloadSound up flavor channel version target := by
  cases flavor with
  | official =>
      exact returnsOrBundleError_iff (downloadOfficial_walks up channel version target)
        fun _ => official_verified
  | momentum =>
      exact returnsOrBundleError_iff (downloadMomentum_walks up version target)
        fun _ => momentum_verified
  | _ => exact ⟨fun _ => trivial, fun _ => ⟨_, rfl⟩⟩

end

/-- A release whose asset has no digest yet, as the release list shows it. -/
def undigestedReleases : Value :=
  .list [.dict [("tag_name", .str "mntm-012"), ("assets", .list [.dict
    [("name", .str "flipper-z-f7-update-mntm-012.tgz"), ("digest", .none),
      ("browser_download_url", .str "https://gh.example/f7-update.tgz")]])]]

/-- The text of that list. -/
def undigestedText : String :=
  "[\x7b\"tag_name\": \"mntm-012\", \"assets\": [\x7b\"name\": " ++
    "\"flipper-z-f7-update-mntm-012.tgz\", \"digest\": null, \"browser_download_url\": " ++
    "\"https://gh.example/f7-update.tgz\"\x7d]\x7d]"

/-- The servers of that release, which answer every request; the bundle is empty. -/
def undigested : Upstream where
  get request _ := .ok (if request = 0 then encodeText undigestedText else [])
  loads _ := .ok undigestedReleases
  sha256 _ := "e3b0c44298fc1c149afbf4c8996fb92427ae41e4649b934ca495991b7852b855"
  lower := Python.lower
  openTar _ := .error (.libraryError "tarfile.ReadError" "empty file")

/-- The digest that is `null` is no text. -/
theorem downloadBundle_digest_null :
    downloadBundle undigested .momentum "release" "latest" "f7" =
        .error (.attributeError "'NoneType' object has no attribute 'startswith'") ∧
      ¬ ReturnsOrBundleError (BuiltFromVerified undigested .momentum "release" "latest" "f7")
        (downloadBundle undigested .momentum "release" "latest" "f7") := by
  have raised : downloadBundle undigested .momentum "release" "latest" "f7" =
      .error (.attributeError "'NoneType' object has no attribute 'startswith'") := rfl
  refine ⟨raised, ?_⟩
  rw [raised]
  intro claimed
  exact nomatch claimed

end Bundles

end FlipperMcp
