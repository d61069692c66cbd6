import FlipperMcp.Firmware.Installer

/-! # Update bundles

`bundles.py`, as far as bundles come from archives: the hardware target is read from the name,
the files from the members. An archive is what `tarfile` lists of it. What `\w` matches beyond
ASCII is a parameter, and so is `str.lower`.
-/

namespace FlipperMcp

/-- A member of an archive, as far as it is looked at. -/
structure TarMember where
  name : String
  isFile : Bool
  /-- What `tar.extractfile` reads, where it returns a file, or raises. -/
  content : Except Exn (Option Bytes)

/-- The characters `\w` matches: among the ASCII characters letters, digits and underscores. -/
def IsWordClass (isWord : Char → Bool) : Prop :=
  ∀ c : Char, c.toNat < 0x80 → isWord c = (c.isAlphanum || c = '_')

namespace Bundles

/-- `_MANIFEST`. -/
def manifest : String := "update.fuf"

/-! ## The target in a name -/

/-- A small letter or a dash of a pattern under `re.IGNORECASE`; the dotted and the dotless i
match an `i`. -/
def sameIgnoringCase (pattern c : Char) : Bool :=
  c.toLower = pattern || (pattern = 'i' && (c.toNat = 0x130 || c.toNat = 0x131))

/-- Match a literal at the beginning, and return what is left. -/
def matchLiteral : List Char → List Char → Option (List Char)
  | [], text => some text
  | pattern :: patterns, c :: text =>
      if sameIgnoringCase pattern c then matchLiteral patterns text else none
  | _ :: _, [] => none

section

variable (isWord : Char → Bool) (lower : String → String)

/-- The target, where `_TARGET_RE` matches at the beginning. `\w` does not match the dash that
must follow, so the longest run of `\w+` is the only one that can match. -/
def matchTarget (text : List Char) : Option (List Char) :=
  match matchLiteral "flipper-z-".toList text with
  | some (c :: behind) =>
      let word := behind.takeWhile isWord
      let after := behind.dropWhile isWord
      if sameIgnoringCase 'f' c ∧ word ≠ [] ∧ (matchLiteral "-update".toList after).isSome then
        some (c :: word)
      else none
  | _ => none

/-- `_TARGET_RE.search(name)`, as its group. -/
def searchTarget : List Char → Option (List Char)
  | [] => none
  | c :: text => (matchTarget isWord (c :: text)).or (searchTarget text)

/-- `_target_from_name(name)`. -/
def targetFromName (name : String) : Except Exn String :=
  match searchTarget isWord name.toList with
  | none => .error (.bundleError
      ("cannot determine hardware target from bundle name " ++ Python.repr name))
  | some group => .ok (lower (String.ofList group))

end

/-! ## The files of an archive -/

/-- `path.split("/")`. -/
def segments (path : String) : List (List Char) := path.toList.splitOnP fun c => c = '/'

/-- `name.split("/", 1)[0]`. -/
def firstSegment (name : String) : String := String.ofList (name.toList.takeWhile fun c => c ≠ '/')

/-- `name.removeprefix(top)`. -/
def removePrefix (top name : String) : String :=
  if top.toList <+: name.toList then String.ofList (name.toList.drop top.toList.length) else name

/-- The loop of `_members_from_tar`. -/
def readMembers (top : String) : List TarMember → Except Exn (List (String × Bytes))
  | [] => .ok []
  | member :: members =>
      let rel := removePrefix top member.name
      if Python.startsWith "/" rel ∨ "..".toList ∈ segments rel then
        .error (.bundleError ("unsafe path in bundle: " ++ Python.repr member.name))
      else do
        let content ← member.content
        let files ← readMembers top members
        match content with
        | none => pure files
        | some content => pure ((rel, content) :: files)

/-- `_members_from_tar(tar)`. -/
def membersFromTar (members : List TarMember) : Except Exn (List (String × Bytes)) :=
  match members.filter TarMember.isFile with
  | [] => .error (.bundleError "bundle archive is empty")
  | first :: others => readMembers (firstSegment first.name ++ "/") (first :: others)

/-- `_build_bundle(files, target)`. -/
def buildBundle (files : List (String × Bytes)) (target : String) : Except Exn LocalBundle :=
  if files.any fun file => file.1 = manifest then
    .ok { manifestName := manifest, target := target, files := files }
  else .error (.bundleError ("bundle has no " ++ manifest ++ " manifest"))

/-- `load_local_bundle(tgz_path)`, with what `tarfile` lists of a path. -/
def loadLocalBundle (isWord : Char → Bool) (lower : String → String)
    (openTar : String → Except Exn (List TarMember)) (path : String) :
    Except Exn LocalBundle := do
  let target ← targetFromName isWord lower path
  let members ← openTar path
  let files ← membersFromTar members
  buildBundle files target

end Bundles

end FlipperMcp
