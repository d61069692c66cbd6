import FlipperMcp.Bridge.Expansion
import FlipperMcp.Lexical.CString

/-! # The captive portal of the bridge

The handlers of `wifi_manager.c` that take the credentials of a network from the posted form
and list the networks in range. A handler is modelled by the calls it makes.
-/

namespace FlipperMcp.CaptivePortal

open CString

/-- `wifi_sta_config_t`: the fields of 32 and 64 bytes. -/
structure StaConfig where
  ssid : List UInt8
  password : List UInt8
  deriving DecidableEq

/-- `wifi_mode_t`. -/
inductive WifiMode
  | sta
  | apsta
  deriving DecidableEq

/-- What `http_connect_handler` calls. -/
inductive PortalCall
  | sendError (status : ℕ) (message : String)
  | nvsOpen
  | nvsSetStr (key : String) (value : List UInt8)
  | nvsCommit
  | nvsClose
  | setMode (mode : WifiMode)
  | setConfig (config : StaConfig)
  | wifiConnect
  /-- The page that reports whether the connection was made. -/
  | sendPage (connected : Bool)
  | stopCaptivePortal
  deriving DecidableEq

/-- The loop of `url_decode`, with room for so many characters. -/
def decodeLoop : ℕ → List UInt8 → List UInt8
  | room + 1, c :: rest =>
      if c = 37 ∧ 2 ≤ rest.length then
        toChar (strtol16 (rest.take 2)) :: decodeLoop room (rest.drop 2)
      else if c = 43 then 32 :: decodeLoop room rest
      else c :: decodeLoop room rest
  | _, _ => []

/-- What `url_decode` writes to `dst`, in order. -/
def urlDecode (src : List UInt8) (dstSize : ℕ) : List UInt8 :=
  decodeLoop (Bridge.sizeSub dstSize 1) src ++ [0]

/-- `httpd_req_recv` for a body that has arrived. -/
def httpdReqRecv (body : List UInt8) (size : ℕ) : List UInt8 := body.take size

/-- The value of a form field, as copied to `temp`. -/
def formField (name : String) (buf : List UInt8) : Option (List UInt8) :=
  (strstr (ascii name) buf).map fun start =>
    (before 38 (start.drop (ascii name).length)).take 127

/-- The value of a form field, decoded into a zeroed buffer. -/
def decodedField (name : String) (size : ℕ) (buf : List UInt8) : List UInt8 :=
  match formField name buf with
  | some temp => text (urlDecode temp size)
  | none => []

/-- `save_credentials`. -/
def saveCredentials (accepts : PortalCall → Bool) (ssid password : List UInt8) : List PortalCall :=
  if accepts .nvsOpen then
    [.nvsOpen, .nvsSetStr "ssid" ssid] ++
      (if accepts (.nvsSetStr "ssid" ssid) then
        .nvsSetStr "password" password ::
          (if accepts (.nvsSetStr "password" password) then [.nvsCommit] else [])
      else []) ++ [.nvsClose]
  else [.nvsOpen]

/-- `http_connect_handler`. -/
def httpConnectHandler (accepts : PortalCall → Bool) (connected : Bool) (body : List UInt8) :
    List PortalCall × EspErr :=
  let received := httpdReqRecv body 255
  if received = [] then ([.sendError 500 ""], .fail)
  else
    let buf := text received
    let ssid := decodedField "ssid=" 33 buf
    let password := decodedField "password=" 65 buf
    if ssid = [] then ([.sendError 400 "SSID required"], .fail)
    else
      (saveCredentials accepts ssid password ++
        [.setMode .apsta, .setConfig ⟨strncpy 32 31 ssid, strncpy 64 63 password⟩, .wifiConnect,
          .sendPage connected] ++
        (if connected then [.stopCaptivePortal, .setMode .sta] else []), .ok)

/-- `wifi_ap_record_t`: the field `ssid` of 33 bytes, and `rssi`. -/
structure ApRecord where
  ssid : List UInt8
  rssi : Int8
  deriving DecidableEq

/-- `snprintf(entry, 128, …)` for the record with an index. -/
def scanEntry (index : ℕ) (ap : ApRecord) : List UInt8 :=
  ((if 0 < index then ascii "," else []) ++ ascii "\x7b\"ssid\":\"" ++ text ap.ssid ++
    ascii "\",\"rssi\":" ++ ascii (toString ap.rssi.toInt) ++ ascii "\x7d").take 127

/-- `strncat(json, string, sizeof(json) - strlen(json) - 1)`. -/
def appendJson (json string : List UInt8) : List UInt8 :=
  json ++ string.take (Bridge.sizeSub (Bridge.sizeSub 1024 json.length) 1)

/-- `http_scan_handler`: the text it responds with. -/
def httpScanHandler (apRecords : List ApRecord) : List UInt8 :=
  let entries := (apRecords.take 10).mapIdx scanEntry
  appendJson (entries.foldl appendJson (ascii "[")) (ascii "]")

end FlipperMcp.CaptivePortal
