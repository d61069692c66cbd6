import FlipperMcp.Firmware.Bundles
import FlipperMcp.Firmware.Flavor
import FlipperMcp.Python.Value
import FlipperMcp.Python.Walks

/-! # Downloading a bundle

`download_bundle` looks a bundle up in the metadata of its distribution, downloads it and
checks its digest. The metadata is a JSON document of any shape, walked by lookups that
raise what Python raises. The libraries, and the servers behind them, are an `Upstream`.
-/

namespace FlipperMcp

open Python (Value require required)

namespace Bundles

/-! ## Lookups -/

/-- `value.get(key, default)`. -/
def dictGet (key : String) (default : Value) : Value → Except Exn Value
  | .dict entries => .ok ((entries.lookup key).getD default)
  | value => .error (.attributeError ("'" ++ value.typeName ++ "' object has no attribute 'get'"))

/-- `value[key]`. -/
def item (key : String) : Value → Except Exn Value
  | .dict entries => required (.keyError (Python.repr key)) (entries.lookup key)
  | .list _ => .error (.typeError "list indices must be integers or slices, not str")
  | .str _ => .error (.typeError "string indices must be integers, not 'str'")
  | value => .error (.typeError ("'" ++ value.typeName ++ "' object is not subscriptable"))

/-- `value[0]`. -/
def itemZero : Value → Except Exn Value
  | .list items => required (.libraryError "IndexError" "list index out of range") items.head?
  | .str text => required (.libraryError "IndexError" "string index out of range")
      (Value.str text).first?
  | .dict _ => .error (.keyError "0")
  | value => .error (.typeError ("'" ++ value.typeName ++ "' object is not subscriptable"))

/-- `iter(value)`. -/
def iter (value : Value) : Except Exn (List Value) :=
  required (.typeError ("'" ++ value.typeName ++ "' object is not iterable")) value.elements?

/-- `next((v for v in values if v.get(key) == text), None)`. -/
def nextWith (key text : String) : List Value → Except Exn (Option Value)
  | [] => .ok none
  | value :: values => do
      let field ← dictGet key .none value
      if field.isText text then .ok (some value) else nextWith key text values

/-- `values[0] if version == "latest" else next(..., None)`, whose `None` is missed. -/
def pick (key version : String) (values : Value) : Except Exn (Option Value) := do
  if version = "latest" then
    let first ← itemZero values
    .ok first.present
  else
    let listed ← iter values
    nextWith key version listed

/-- `except (KeyError, TypeError) as e: raise BundleError(text + str(e))`. -/
def wrapping {α : Type} (text : String) : Except Exn α → Except Exn α
  | .error (.keyError e) | .error (.typeError e) => .error (.bundleError (text ++ e))
  | result => result

/-! ## The official directory -/

/-- `_OFFICIAL_DIRECTORY`. -/
def officialDirectory : String := "https://update.flipperzero.one/firmware/directory.json"

/-- `_MOMENTUM_RELEASES`. -/
def momentumReleases : String :=
  "https://api.github.com/repos/Next-Flip/Momentum-Firmware/releases"

/-- The entries of `{c["id"]: c for c in channels}`, in the order they are made. -/
def channelEntries : List Value → Except Exn (List (Value × Value))
  | [] => .ok []
  | c :: cs => do
      let key ← item "id" c
      require (key.hashable = true) (.typeError ("unhashable type: '" ++ key.typeName ++ "'"))
      let entries ← channelEntries cs
      .ok ((key, c) :: entries)

/-- `channels[channel]`, the last entry with this key. -/
def channelNamed (channel : String) (entries : List (Value × Value)) : Option Value :=
  (entries.reverse.find? fun entry => entry.1.isText channel).map Prod.snd

/-- The loop over the files of a version. -/
def installFile (target : String) : List Value → Except Exn (Option Value)
  | [] => .ok none
  | entry :: entries => do
      let named ← dictGet "target" .none entry
      let type ← dictGet "type" .none entry
      if named.isText target ∧ type.isText "update_tgz" then .ok (some entry)
      else installFile target entries

/-- `_select_official_file(directory, channel, version, target)`. -/
def selectOfficialFile (directory : Value) (channel version target : String) :
    Except Exn Value := do
  let channels ← wrapping "malformed official directory (channel entry): " (do
    let listed ← dictGet "channels" (.list []) directory
    let cs ← iter listed
    channelEntries cs)
  let chosen ← required (.bundleError ("unknown official channel " ++ Python.repr channel))
    (channelNamed channel channels)
  let versions ← dictGet "versions" (.list []) chosen
  require (versions.truthy = true)
    (.bundleError ("no versions in official channel " ++ Python.repr channel))
  let picked ← pick "version" version versions >>= required (.bundleError
    ("official version " ++ Python.repr version ++ " not found in " ++ Python.repr channel))
  let files ← dictGet "files" (.list []) picked
  let entries ← iter files
  installFile target entries >>= required (.bundleError
    ("no install bundle for target " ++ target ++ " in official " ++ channel ++ "/" ++ version))

/-! ## The Momentum releases -/

/-- The name of the asset of a release for a target. -/
def wantedAsset (target : String) (tag : Value) : String :=
  "flipper-z-" ++ target ++ "-update-" ++ tag.toStr ++ ".tgz"

/-- The asset of a release and its URL, as `_download_momentum` looks them up under `try`. -/
def selectAsset (release : Value) (target : String) : Except Exn (Value × Value) := do
  let tag ← item "tag_name" release
  let listed ← dictGet "assets" (.list []) release
  let assets ← iter listed
  let asset ← nextWith "name" (wantedAsset target tag) assets >>= required (.bundleError
    ("no " ++ target ++ " firmware bundle in Momentum release " ++ tag.toStr))
  let downloadUrl ← item "browser_download_url" asset
  .ok (asset, downloadUrl)

/-! ## Downloads -/

/-- The libraries, and what they are answered. -/
structure Upstream where
  /-- The content of the response to the request with this number, after
  `raise_for_status`. -/
  get : ℕ → Value → Except Exn Bytes
  /-- `json.loads(raw)`. -/
  loads : Bytes → Except Exn Value
  /-- `hashlib.sha256(data).hexdigest()`. -/
  sha256 : Bytes → String
  /-- `str.lower`. -/
  lower : String → String
  /-- The members that `tarfile` lists of a gzipped archive. -/
  openTar : Bytes → Except Exn (List TarMember)

/-- The classes of `httpx.HTTPError`. -/
def httpErrors : List String :=
  ["httpx.ConnectTimeout", "httpx.ReadTimeout", "httpx.WriteTimeout", "httpx.PoolTimeout",
    "httpx.ConnectError", "httpx.ReadError", "httpx.WriteError", "httpx.CloseError",
    "httpx.LocalProtocolError", "httpx.RemoteProtocolError", "httpx.ProxyError",
    "httpx.UnsupportedProtocol", "httpx.DecodingError", "httpx.TooManyRedirects",
    "httpx.HTTPStatusError"]

/-- `except httpx.HTTPError`. -/
def isHttpError : Exn → Bool
  | .libraryError name _ => name ∈ httpErrors
  | _ => false

/-- `except json.JSONDecodeError`. -/
def isJsonDecodeError : Exn → Bool
  | .libraryError name _ => name = "json.JSONDecodeError"
  | _ => false

/-- A handler that turns an exception into a `BundleError`. -/
def rewrapping {α : Type} (catches : Exn → Bool) (text : String) : Except Exn α → Except Exn α
  | .ok value => .ok value
  | .error e => if catches e then .error (.bundleError (text ++ ": " ++ e.text)) else .error e

section

variable (up : Upstream)

/-- `_fetch(client, url)`. -/
def fetch (request : ℕ) (url : Value) : Except Exn Bytes :=
  rewrapping isHttpError ("failed to fetch " ++ url.toStr) (up.get request url)

/-- `_load_json(raw, url)`. -/
def loadJson (raw : Bytes) (url : String) : Except Exn Value :=
  rewrapping isJsonDecodeError ("malformed JSON from " ++ url) (up.loads raw)

/-- The digest is that of the data. -/
def DigestMatches (data : Bytes) (expected : String) : Prop :=
  up.lower (up.sha256 data) = up.lower expected

instance (data : Bytes) (expected : String) : Decidable (DigestMatches up data expected) :=
  inferInstanceAs (Decidable (_ = _))

/-- `_verify_sha256(data, expected)`. -/
def verifySha256 (data : Bytes) (expected : String) : Except Exn Unit :=
  require (DigestMatches up data expected)
    (.bundleError ("sha256 mismatch: expected " ++ expected ++ ", got " ++ up.sha256 data))

/-- `_bundle_from_tgz_bytes(data, target)`. -/
def bundleFromTgzBytes (data : Bytes) (target : String) : Except Exn LocalBundle := do
  let members ← up.openTar data
  let files ← membersFromTar members
  buildBundle files target

/-- `_download_official(channel, version, target)`. -/
def downloadOfficial (channel version target : String) : Except Exn LocalBundle := do
  let raw ← fetch up 0 (.str officialDirectory)
  let directory ← loadJson up raw officialDirectory
  let entry ← selectOfficialFile directory channel version target
  let (url, expected) ← wrapping "malformed official bundle entry: missing " (do
    let url ← item "url" entry
    let expected ← item "sha256" entry
    .ok (url.toStr, expected.toStr))
  let data ← fetch up 1 (.str url)
  verifySha256 up data expected
  bundleFromTgzBytes up data target

/-- `digest.startswith("sha256:")`. -/
def sha256Prefixed : Value → Except Exn Bool
  | .str text => .ok (Python.startsWith "sha256:" text)
  | value => .error (.attributeError
      ("'" ++ value.typeName ++ "' object has no attribute 'startswith'"))

/-- `digest.split(":", 1)[1]`, of a text that holds a colon. -/
def afterColon (digest : String) : String :=
  String.ofList ((digest.toList.dropWhile fun c => c ≠ ':').drop 1)

/-- `_download_momentum(version, target)`. -/
def downloadMomentum (version target : String) : Except Exn LocalBundle := do
  let raw ← fetch up 0 (.str momentumReleases)
  let releases ← loadJson up raw momentumReleases
  require (releases.truthy = true) (.bundleError "no Momentum releases found")
  let release ← pick "tag_name" version releases >>= required
    (.bundleError ("Momentum release " ++ Python.repr version ++ " not found"))
  let (asset, downloadUrl) ← wrapping "malformed Momentum release metadata: missing "
    (selectAsset release target)
  let data ← fetch up 1 downloadUrl
  let digest ← dictGet "digest" (.str "") asset
  let prefixed ← sha256Prefixed digest
  require (prefixed = true) (.bundleError "Momentum asset is missing a sha256 digest")
  verifySha256 up data (afterColon digest.toStr)
  bundleFromTgzBytes up data target

/-- `download_bundle(flavor, channel=channel, version=version, target=target)`. -/
def downloadBundle (flavor : FirmwareFlavor) (channel version target : String) :
    Except Exn LocalBundle :=
  match flavor with
  | .official => downloadOfficial up channel version target
  | .momentum => downloadMomentum up version target
  | flavor => .error (.bundleError
      ("auto-download unsupported for " ++ flavor.value ++ "; supply a local .tgz path"))

end

end Bundles

end FlipperMcp
