import FlipperMcp.Wire.Fields
import Mathlib.Data.Int.ModEq
import Mathlib.Tactic.Cases

/-! # The messages of the RPC protocol

The `Main` frame and those of its contents that the host builds or reads, with
the field numbers and types of the schema. An enumeration is open: it carries
any 32-bit code, and the codes the host compares with have names. Writing is the
documented wire format. Parsing belongs to the protobuf library, which the model
takes as a parameter (`Protobuf`) knowing only that it inverts writing;
`Protobuf.wire` is a parser that does.
-/

namespace FlipperMcp

abbrev Bytes := List UInt8

/-- `PB.CommandStatus`. -/
abbrev CommandStatus := Int32

namespace CommandStatus

def ok : CommandStatus := 0

def error : CommandStatus := 1

def errorGpioUnknownPinMode : CommandStatus := 59

end CommandStatus

/-- `PB_System.RebootRequest.RebootMode.UPDATE`. -/
def rebootModeUpdate : Int32 := 2

/-- `PB_Storage.File.FileType.DIR`. -/
def fileTypeDir : Int32 := 1

/-- `PB_System.UpdateResponse.UpdateResultCode`, the codes the host compares with. -/
abbrev UpdateResultCode := Int32

namespace UpdateResultCode

def ok : UpdateResultCode := 0

def unspecifiedError : UpdateResultCode := 10

end UpdateResultCode

/-- `PB_Storage.File`. -/
structure File where
  type : Int32 := 0
  name : String := ""
  size : UInt32 := 0
  data : Bytes := []
  md5sum : String := ""
  deriving DecidableEq

/-- `PB_System.DateTime`. -/
structure DateTime where
  hour : UInt32
  minute : UInt32
  second : UInt32
  day : UInt32
  month : UInt32
  year : UInt32
  weekday : UInt32
  deriving DecidableEq

/-- `PB.Main.content`. A content of the schema that the host neither builds nor
reads is `unset`: `HasField` is false of it for every field the host asks for. -/
inductive Content
  | unset
  | stopSession
  | systemPingRequest (data : Bytes)
  | systemPingResponse (data : Bytes)
  | systemRebootRequest (mode : Int32)
  | systemDeviceInfoRequest
  | systemDeviceInfoResponse (key value : String)
  | systemGetDatetimeRequest
  | systemGetDatetimeResponse (datetime : DateTime)
  | systemProtobufVersionRequest
  | systemProtobufVersionResponse (major minor : UInt32)
  | systemUpdateRequest (updateManifest : String)
  | systemUpdateResponse (code : UpdateResultCode)
  | systemPowerInfoRequest
  | systemPowerInfoResponse (key value : String)
  | storageInfoRequest (path : String)
  | storageInfoResponse (totalSpace freeSpace : UInt64)
  | storageTimestampRequest (path : String)
  | storageTimestampResponse (timestamp : UInt32)
  | storageStatRequest (path : String)
  | storageStatResponse (file : File)
  | storageListRequest (path : String) (includeMd5 : Bool) (filterMaxSize : UInt32)
  | storageListResponse (file : List File)
  | storageReadRequest (path : String)
  | storageReadResponse (file : File)
  | storageWriteRequest (path : String) (file : File)
  | storageDeleteRequest (path : String) (recursive : Bool)
  | storageMkdirRequest (path : String)
  | storageMd5sumRequest (path : String)
  | storageMd5sumResponse (md5sum : String)
  | storageRenameRequest (oldPath newPath : String)
  | appStartRequest (name args : String)
  | appLockStatusRequest
  | appLockStatusResponse (locked : Bool)
  | appGetErrorRequest
  | appGetErrorResponse (code : UInt32) (text : String)
  | gpioGetPinMode (pin : Int32)
  | gpioGetPinModeResponse (mode : Int32)
  | gpioReadPin (pin : Int32)
  | gpioReadPinResponse (value : UInt32)
  | propertyGetRequest (key : String)
  | propertyGetResponse (key value : String)
  | desktopIsLockedRequest
  deriving DecidableEq

/-- `PB.Main`. -/
structure Main where
  commandId : UInt32 := 0
  commandStatus : CommandStatus := CommandStatus.ok
  hasNext : Bool := false
  content : Content := .unset
  deriving DecidableEq

section Fields

open Tagged

/-- A boolean field. -/
def boolField (number : ℕ) (value : Bool) : List Field := uint number (if value then 1 else 0)

/-- The code of an enumeration, sign-extended to 64 bits. -/
def enumCode (code : Int32) : ℕ := (code.toInt % 2 ^ 64).toNat

def ofEnumCode (value : ℕ) : Int32 := Int32.ofInt value

/-- A string in UTF-8. -/
def encodeText (text : String) : Bytes := text.toByteArray.data.toList

def decodeText (data : Bytes) : Option String := String.fromUTF8? ⟨data.toArray⟩

/-- An enumeration field. -/
def enumField (number : ℕ) (code : Int32) : List Field := uint number (enumCode code)

/-- A string field. -/
def stringField (number : ℕ) (text : String) : List Field := bytes number (encodeText text)

def getBool (number : ℕ) (fields : List Field) : Bool := getUint number fields ≠ 0

def getEnum (number : ℕ) (fields : List Field) : Int32 := ofEnumCode (getUint number fields)

def getUInt32 (number : ℕ) (fields : List Field) : UInt32 := UInt32.ofNat (getUint number fields)

def getUInt64 (number : ℕ) (fields : List Field) : UInt64 := UInt64.ofNat (getUint number fields)

def getString (number : ℕ) (fields : List Field) : Option String :=
  decodeText (getBytes number fields)

def File.fields (file : File) : List Field :=
  enumField 1 file.type ++ stringField 2 file.name ++ uint 3 file.size.toNat ++
    bytes 4 file.data ++ stringField 5 file.md5sum

def File.ofFields (fields : List Field) : Option File := do
  pure {
    type := getEnum 1 fields
    name := ← getString 2 fields
    size := getUInt32 3 fields
    data := getBytes 4 fields
    md5sum := ← getString 5 fields }

def DateTime.fields (datetime : DateTime) : List Field :=
  uint 1 datetime.hour.toNat ++ uint 2 datetime.minute.toNat ++ uint 3 datetime.second.toNat ++
    uint 4 datetime.day.toNat ++ uint 5 datetime.month.toNat ++ uint 6 datetime.year.toNat ++
    uint 7 datetime.weekday.toNat

def DateTime.ofFields (fields : List Field) : DateTime where
  hour := getUInt32 1 fields
  minute := getUInt32 2 fields
  second := getUInt32 3 fields
  day := getUInt32 4 fields
  month := getUInt32 5 fields
  year := getUInt32 6 fields
  weekday := getUInt32 7 fields

/-- The content field of a frame: its number in the schema and its own fields. -/
def Content.fields : Content → List Field
  | unset => []
  | stopSession => message 19 []
  | systemPingRequest data => message 5 (bytes 1 data)
  | systemPingResponse data => message 6 (bytes 1 data)
  | systemRebootRequest mode => message 31 (enumField 1 mode)
  | systemDeviceInfoRequest => message 32 []
  | systemDeviceInfoResponse key value => message 33 (stringField 1 key ++ stringField 2 value)
  | systemGetDatetimeRequest => message 35 []
  | systemGetDatetimeResponse datetime => message 36 (message 1 datetime.fields)
  | systemProtobufVersionRequest => message 39 []
  | systemProtobufVersionResponse major minor =>
      message 40 (uint 1 major.toNat ++ uint 2 minor.toNat)
  | systemUpdateRequest updateManifest => message 41 (stringField 1 updateManifest)
  | systemUpdateResponse code => message 46 (enumField 1 code)
  | systemPowerInfoRequest => message 44 []
  | systemPowerInfoResponse key value => message 45 (stringField 1 key ++ stringField 2 value)
  | storageInfoRequest path => message 28 (stringField 1 path)
  | storageInfoResponse totalSpace freeSpace =>
      message 29 (uint 1 totalSpace.toNat ++ uint 2 freeSpace.toNat)
  | storageTimestampRequest path => message 59 (stringField 1 path)
  | storageTimestampResponse timestamp => message 60 (uint 1 timestamp.toNat)
  | storageStatRequest path => message 24 (stringField 1 path)
  | storageStatResponse file => message 25 (message 1 file.fields)
  | storageListRequest path includeMd5 filterMaxSize =>
      message 7 (stringField 1 path ++ boolField 2 includeMd5 ++ uint 3 filterMaxSize.toNat)
  | storageListResponse file => message 8 (file.flatMap fun file => message 1 file.fields)
  | storageReadRequest path => message 9 (stringField 1 path)
  | storageReadResponse file => message 10 (message 1 file.fields)
  | storageWriteRequest path file => message 11 (stringField 1 path ++ message 2 file.fields)
  | storageDeleteRequest path recursive =>
      message 12 (stringField 1 path ++ boolField 2 recursive)
  | storageMkdirRequest path => message 13 (stringField 1 path)
  | storageMd5sumRequest path => message 14 (stringField 1 path)
  | storageMd5sumResponse md5sum => message 15 (stringField 1 md5sum)
  | storageRenameRequest oldPath newPath =>
      message 30 (stringField 1 oldPath ++ stringField 2 newPath)
  | appStartRequest name args => message 16 (stringField 1 name ++ stringField 2 args)
  | appLockStatusRequest => message 17 []
  | appLockStatusResponse locked => message 18 (boolField 1 locked)
  | appGetErrorRequest => message 63 []
  | appGetErrorResponse code text => message 64 (uint 1 code.toNat ++ stringField 2 text)
  | gpioGetPinMode pin => message 53 (enumField 1 pin)
  | gpioGetPinModeResponse mode => message 54 (enumField 1 mode)
  | gpioReadPin pin => message 55 (enumField 1 pin)
  | gpioReadPinResponse value => message 56 (uint 2 value.toNat)
  | propertyGetRequest key => message 61 (stringField 1 key)
  | propertyGetResponse key value => message 62 (stringField 1 key ++ stringField 2 value)
  | desktopIsLockedRequest => message 66 []

/-- Read the content field with a given number from its own fields. -/
def Content.ofFields (fields : List Field) : ℕ → Option Content
  | 19 => some stopSession
  | 5 => some (systemPingRequest (getBytes 1 fields))
  | 6 => some (systemPingResponse (getBytes 1 fields))
  | 31 => some (systemRebootRequest (getEnum 1 fields))
  | 32 => some systemDeviceInfoRequest
  | 33 => do pure (systemDeviceInfoResponse (← getString 1 fields) (← getString 2 fields))
  | 35 => some systemGetDatetimeRequest
  | 36 => do pure (systemGetDatetimeResponse (DateTime.ofFields (← getMessage 1 fields)))
  | 39 => some systemProtobufVersionRequest
  | 40 => some (systemProtobufVersionResponse (getUInt32 1 fields) (getUInt32 2 fields))
  | 41 => do pure (systemUpdateRequest (← getString 1 fields))
  | 46 => some (systemUpdateResponse (getEnum 1 fields))
  | 44 => some systemPowerInfoRequest
  | 45 => do pure (systemPowerInfoResponse (← getString 1 fields) (← getString 2 fields))
  | 28 => do pure (storageInfoRequest (← getString 1 fields))
  | 29 => some (storageInfoResponse (getUInt64 1 fields) (getUInt64 2 fields))
  | 59 => do pure (storageTimestampRequest (← getString 1 fields))
  | 60 => some (storageTimestampResponse (getUInt32 1 fields))
  | 24 => do pure (storageStatRequest (← getString 1 fields))
  | 25 => do pure (storageStatResponse (← File.ofFields (← getMessage 1 fields)))
  | 7 => do
      pure (storageListRequest (← getString 1 fields) (getBool 2 fields) (getUInt32 3 fields))
  | 8 => do
      pure (storageListResponse (← (select 1 fields).mapM fun field => match field.value with
        | .bytes data => decode data >>= File.ofFields
        | .varint _ => none))
  | 9 => do pure (storageReadRequest (← getString 1 fields))
  | 10 => do pure (storageReadResponse (← File.ofFields (← getMessage 1 fields)))
  | 11 => do
      pure (storageWriteRequest (← getString 1 fields) (← File.ofFields (← getMessage 2 fields)))
  | 12 => do pure (storageDeleteRequest (← getString 1 fields) (getBool 2 fields))
  | 13 => do pure (storageMkdirRequest (← getString 1 fields))
  | 14 => do pure (storageMd5sumRequest (← getString 1 fields))
  | 15 => do pure (storageMd5sumResponse (← getString 1 fields))
  | 30 => do pure (storageRenameRequest (← getString 1 fields) (← getString 2 fields))
  | 16 => do pure (appStartRequest (← getString 1 fields) (← getString 2 fields))
  | 17 => some appLockStatusRequest
  | 18 => some (appLockStatusResponse (getBool 1 fields))
  | 63 => some appGetErrorRequest
  | 64 => do pure (appGetErrorResponse (getUInt32 1 fields) (← getString 2 fields))
  | 53 => some (gpioGetPinMode (getEnum 1 fields))
  | 54 => some (gpioGetPinModeResponse (getEnum 1 fields))
  | 55 => some (gpioReadPin (getEnum 1 fields))
  | 56 => some (gpioReadPinResponse (getUInt32 2 fields))
  | 61 => do pure (propertyGetRequest (← getString 1 fields))
  | 62 => do pure (propertyGetResponse (← getString 1 fields) (← getString 2 fields))
  | 66 => some desktopIsLockedRequest
  | _ => some unset

/-- The fields of a frame ahead of its content. -/
def Main.header (main : Main) : List Field :=
  uint 1 main.commandId.toNat ++ enumField 2 main.commandStatus ++ boolField 3 main.hasNext

def Main.fields (main : Main) : List Field := main.header ++ main.content.fields

/-- `SerializeToString`. -/
def Main.serializeToString (main : Main) : Bytes := encode main.fields

/-- The content of a frame: its last field past the header. -/
def Main.contentOf (fields : List Field) : Option Content :=
  match (fields.filter fun field => 3 < field.number).getLast? with
  | none => some .unset
  | some ⟨_, .varint _⟩ => some .unset
  | some ⟨number, .bytes data⟩ => do Content.ofFields (← decode data) number

def Main.ofFields (fields : List Field) : Option Main := do
  pure {
    commandId := getUInt32 1 fields
    commandStatus := getEnum 2 fields
    hasNext := getBool 3 fields
    content := ← Main.contentOf fields }

end Fields

/-- The protobuf library: `ParseFromString`, `none` being `DecodeError`. It
inverts `SerializeToString`. -/
structure Protobuf where
  parseFromString : Bytes → Option Main
  parse_serialize : ∀ main : Main, parseFromString main.serializeToString = some main

section RoundTrip

open Tagged

/-- Sign extension keeps the code. -/
@[simp] theorem ofEnumCode_enumCode (code : Int32) : ofEnumCode (enumCode code) = code := by
  have whole : ((code.toInt % 2 ^ 64).toNat : ℤ) = code.toInt % 2 ^ 64 :=
    Int.toNat_of_nonneg (Int.emod_nonneg _ (by decide))
  have lower := Int32.le_toInt code
  have upper := Int32.toInt_lt code
  unfold ofEnumCode enumCode
  rw [whole]
  apply Int32.toInt_inj.mp
  rw [Int32.toInt_ofInt]
  simp only [Int.bmod, show Int32.size = 2 ^ 32 from rfl]
  omega

@[simp] theorem decodeText_encodeText (text : String) : decodeText (encodeText text) = some text := by
  have same : (⟨(encodeText text).toArray⟩ : ByteArray) = text.toByteArray := rfl
  unfold decodeText String.fromUTF8?
  rw [same, dif_pos text.isValidUTF8]
  rfl

@[simp] theorem getBool_boolField (number : ℕ) (value : Bool) :
    decide (asUint (boolField number value).getLast? ≠ 0) = value := by
  rw [boolField, asUint_getLast?_uint]
  cases value <;> rfl

@[simp] theorem select_enumField (number other : ℕ) (code : Int32) :
    select number (enumField other code) =
      if other = number then enumField other code else [] := select_uint ..

@[simp] theorem select_boolField (number other : ℕ) (value : Bool) :
    select number (boolField other value) =
      if other = number then boolField other value else [] := select_uint ..

@[simp] theorem select_stringField (number other : ℕ) (text : String) :
    select number (stringField other text) =
      if other = number then stringField other text else [] := select_bytes ..

@[simp] theorem asUint_getLast?_enumField (number : ℕ) (code : Int32) :
    asUint (enumField number code).getLast? = enumCode code :=
  asUint_getLast?_uint _

@[simp] theorem asUint_getLast?_boolField (number : ℕ) (value : Bool) :
    asUint (boolField number value).getLast? = if value then 1 else 0 :=
  asUint_getLast?_uint _

@[simp] theorem asBytes_getLast?_stringField (number : ℕ) (text : String) :
    asBytes (stringField number text).getLast? = encodeText text :=
  asBytes_getLast?_bytes _

theorem File.ofFields_fields (file : File) : File.ofFields file.fields = some file := by
  simp [File.ofFields, File.fields, getEnum, getUInt32, getUint, getBytes, getString]

theorem DateTime.ofFields_fields (datetime : DateTime) :
    DateTime.ofFields datetime.fields = datetime := by
  simp [DateTime.ofFields, DateTime.fields, getUInt32, getUint]

theorem mapM_files (files : List File) :
    ((select 1 (files.flatMap fun file => message 1 file.fields)).mapM fun field =>
      match field.value with
        | .bytes data => decode data >>= File.ofFields
        | .varint _ => none) = some files := by
  induction files with
  | nil => rfl
  | cons file files ih =>
      rw [List.flatMap_cons, select_append, select_message, if_pos rfl, message,
        List.singleton_append, List.mapM_cons, ih]
      simp only [decode_encode, Option.bind_eq_bind, Option.bind_some, File.ofFields_fields,
        Option.pure_def]

theorem Main.filter_header (main : Main) :
    (main.header.filter fun field => decide (3 < field.number)) = [] := by
  apply List.filter_eq_nil_iff.mpr
  intro field member
  have number : field.number ≤ 3 := by
    rcases List.mem_append.mp member with member | member
    · rcases List.mem_append.mp member with member | member
      · exact (number_of_mem_uint member).trans_le (by decide)
      · exact (number_of_mem_uint member).trans_le (by decide)
    · exact (number_of_mem_uint member).le
  simpa only [decide_eq_true_eq, not_lt] using number

private theorem contentOf_message (main : Main) {number : ℕ} (past : 3 < number)
    (fields : List Field) :
    Main.contentOf (main.header ++ message number fields) = Content.ofFields fields number := by
  unfold Main.contentOf
  rw [List.filter_append, main.filter_header, List.nil_append, message, List.filter_cons,
    if_pos (decide_eq_true past), List.filter_nil, List.getLast?_singleton]
  simp only [decode_encode, Option.bind_eq_bind, Option.bind_some]

/-- Reading a written frame's content gives it back. -/
theorem Main.contentOf_fields (main : Main) : Main.contentOf main.fields = some main.content := by
  unfold Main.fields
  cases content : main.content with
  | unset =>
      unfold Main.contentOf Content.fields
      rw [List.append_nil, main.filter_header]
      rfl
  | storageListResponse files =>
      rw [Content.fields, contentOf_message main (by decide), Content.ofFields, mapM_files]
      rfl
  | _ =>
      rw [Content.fields, contentOf_message main (by decide)]
      simp [Content.ofFields, getBytes, getString, getEnum, getUint, getUInt32, getUInt64, getBool,
        getMessage, decode_encode, DateTime.ofFields_fields, File.ofFields_fields]

/-- No content field has a number of the header. -/
theorem Content.select_fields (content : Content) {number : ℕ} (below : number ≤ 3) :
    select number content.fields = [] := by
  have clear : ∀ {other : ℕ} (fields : List Field), 3 < other →
      select number (message other fields) = [] := by
    intro other fields past
    rw [select_message, if_neg (by omega)]
  cases content with
  | unset => rfl
  | _ => exact clear _ (by decide)

/-- Reading a written frame gives it back. -/
theorem Main.ofFields_fields (main : Main) : Main.ofFields main.fields = some main := by
  have header : ∀ {number : ℕ}, number ≤ 3 → select number main.fields =
      select number main.header := by
    intro number below
    rw [fields, select_append, main.content.select_fields below, List.append_nil]
  unfold ofFields
  rw [main.contentOf_fields]
  simp [getUInt32, getEnum, getBool, getUint, header, Main.header]

end RoundTrip

/-- A parser of the documented wire format. -/
def Protobuf.wire : Protobuf where
  parseFromString data := Tagged.decode data >>= Main.ofFields
  parse_serialize main := by
    rw [Main.serializeToString, Tagged.decode_encode]
    exact main.ofFields_fields

end FlipperMcp
