import FlipperMcp.Coroutine.Embedding
import FlipperMcp.Link
import FlipperMcp.Python.Text

/-! # The transports

`USBTransport` drives a serial port and `WiFiTransport` a socket. `AutoTransport` selects
one of them when it connects, hands the operations on to it, and takes what it does not
define itself from the base class. Serial ports, streams and the event loop are operations
that an environment answers.
-/

namespace FlipperMcp

open Coroutine

/-- A `serial.Serial` object. -/
abbrev SerialPort := ℕ

/-- The reader and the writer of one socket. -/
abbrev Stream := ℕ

/-- What `serial.tools.list_ports` tells about a port. -/
structure PortInfo where
  device : String
  vid : Option ℕ
  pid : Option ℕ
  /-- `str(port.description)`. -/
  description : String

/-- What `_auto_detect_port` asks the operating system. -/
structure Platform where
  system : String
  comports : List PortInfo
  pathExists : String → Bool

/-- What the transports await from serial ports, sockets and the event loop. -/
inductive PortOp
  | platform
  | openSerial (port : String) (baudrate : ℕ) (timeout : Time)
  | isOpen (serial : SerialPort)
  | closeSerial (serial : SerialPort)
  | writeSerial (serial : SerialPort) (data : Bytes)
  | readSerial (serial : SerialPort) (size : ℕ) (wait : Wait)
  | openConnection (host : String) (port : ℕ) (timeout : Time)
  | write (stream : Stream) (data : Bytes)
  | drain (stream : Stream)
  /-- A read under `asyncio.wait_for`, if it is given a time. -/
  | read (stream : Stream) (size : ℕ) (wait : Wait)
  | isClosing (stream : Stream)
  | closeStream (stream : Stream)
  | waitClosed (stream : Stream)
  | sleep (seconds : Time)
  | monotonic
  | deadline (seconds : Time)
  | patience
  | startTimeout (seconds : Time)
  | stopTimeout

/-- The answer to each operation. -/
def PortOp.Res : PortOp → Type
  | platform => Platform
  | openSerial _ _ _ => SerialPort
  | openConnection _ _ _ => Stream
  | isOpen _ | isClosing _ => Bool
  | readSerial _ _ _ | read _ _ _ => Bytes
  | closeSerial _ | writeSerial _ _ | write _ _ | drain _ | closeStream _ | waitClosed _ | sleep _
  | startTimeout _ | stopTimeout => Unit
  | monotonic => Time
  | deadline _ | patience => ℕ

/-- The operations of ports, sockets and the event loop. -/
abbrev portSignature : Signature where
  Op := PortOp
  Res := PortOp.Res

/-- A method of an object. -/
abbrev Method (T α : Type) := Coro T portSignature Exn α

/-- A behaviour of ports, sockets and the event loop. -/
abbrev PortEnv (σ : Type) := Env portSignature Exn σ

namespace Method

variable {T : Type}

/-- Await one operation. -/
def perform (op : PortOp) : Method T op.Res := @Coro.perform T portSignature Exn op

/-- Read an attribute of a port or a stream, which does not raise. -/
def query (op : PortOp) (default : op.Res) : Method T op.Res := do
  let value ← (perform op).attempt
  pure (value.toOption.getD default)

theorem query_returns (op : PortOp) (default : op.Res) :
    (query op default : Method T op.Res).Returns :=
  (Coro.attempt_returns _).bind fun _ => trivial

end Method

/-- A class of transports: its methods, and what its objects say about themselves. -/
structure TransportClass (T : Type) where
  connect : Method T Bool
  disconnect : Method T Unit
  send : Bytes → Method T Unit
  receive : Wait → Method T Bytes
  isConnected : Method T Bool
  getName : T → String
  /-- `supports_cli_text_mode` of the base class, unless it is overridden. -/
  supportsCliTextMode : T → Bool := fun _ => true
  hasHost : T → Bool := fun _ => false
  isAuto : T → Bool := fun _ => false

namespace TransportClass

variable {T σ : Type}

/-- `get_name()` of the base class. -/
def baseName (className : String) : String := Python.replace "Transport" "" className

/-- What an object says about itself. -/
def facts (cls : TransportClass T) (self : T) : TransportFacts :=
  ⟨cls.getName self, cls.supportsCliTextMode self, cls.hasHost self, cls.isAuto self⟩

/-- What an object does for each operation of the link. -/
def method (cls : TransportClass T) : (op : LinkOp) → Method T op.Res
  | .connect => do
      let ok ← cls.connect
      let self ← Coro.get
      pure (if ok then some (cls.facts self) else none)
  | .disconnect => cls.disconnect
  | .isConnected => cls.isConnected
  | .send _ data => cls.send data
  | .receive wait => cls.receive wait
  | .sleep seconds => Method.perform (.sleep seconds)
  | .monotonic => Method.perform .monotonic
  | .deadline seconds => Method.perform (.deadline seconds)
  | .patience => Method.perform .patience
  | .startTimeout seconds => Method.perform (.startTimeout seconds)
  | .stopTimeout => Method.perform .stopTimeout

/-- The link over an object of the class. -/
def env (cls : TransportClass T) (P : PortEnv σ) : LinkEnv (T × σ) :=
  @serve T linkSignature portSignature Exn σ cls.method P

end TransportClass

/-- The `usb` section of the configuration. -/
structure UsbConfig where
  port : Option String := none
  baudrate : Option ℕ := none
  timeout : Option Time := none

/-- A `USBTransport`. -/
structure USBTransport where
  port : String
  baudrate : ℕ
  timeout : Time
  serial : Option SerialPort := none
  connected : Bool := false

namespace USBTransport

/-- A port of a Flipper Zero. -/
def isFlipper (system : String) (port : PortInfo) : Bool :=
  (port.vid = some 0x0483 && port.pid = some 0x5740) ||
    Python.contains "Flipper" port.description ||
    (system = "Darwin" && Python.contains "usbmodem" (Python.lower port.device) &&
      Python.contains "flip" (Python.lower port.device))

/-- The device to open for a port. -/
def preferredDevice (platform : Platform) (device : String) : String :=
  if platform.system = "Darwin" ∧ Python.startsWith "/dev/tty." device then
    let cuDevice := Python.replace "/dev/tty." "/dev/cu." device
    if platform.pathExists cuDevice then cuDevice else device
  else device

/-- `_auto_detect_port()`. -/
def autoDetectPort (platform : Platform) : String :=
  match platform.comports.filter (isFlipper platform.system) with
  | port :: _ => preferredDevice platform port.device
  | [] => if platform.system = "Darwin" then "/dev/tty.usbmodemflip_1" else "/dev/ttyACM0"

/-- `USBTransport(config)`. -/
def make {S : Type} (config : UsbConfig) : Method S USBTransport := do
  let port ← match Python.truthy config.port with
    | some port => pure port
    | none => do
        let (platform : Platform) ← Method.perform .platform
        pure (autoDetectPort platform)
  pure { port, baudrate := config.baudrate.getD 115200, timeout := config.timeout.getD 1 }

/-- `connect()`. -/
def connect : Method USBTransport Bool :=
  Coro.tryExcept Exn.isOSError (do
    let self ← Coro.get
    let (serial : SerialPort) ← Method.perform (.openSerial self.port self.baudrate self.timeout)
    Coro.modify fun self => { self with serial := some serial }
    Method.perform (.sleep (1 / 2))
    Coro.modify fun self => { self with connected := true }
    pure true) fun _ => do
      Coro.modify fun self => { self with connected := false }
      pure false

/-- `self.serial is not None and self.serial.is_open`. -/
def serialIsOpen : Method USBTransport Bool := do
  let self ← Coro.get
  match self.serial with
  | none => pure false
  | some serial => Method.query (.isOpen serial) false

/-- `disconnect()`. -/
def disconnect : Method USBTransport Unit := do
  let self ← Coro.get
  if ← serialIsOpen then
    match self.serial with
    | none => pure ()
    | some serial => Method.perform (.closeSerial serial)
  Coro.modify fun self => { self with connected := false }

/-- Use the open serial port. -/
def withSerial {α : Type} (use : SerialPort → Method USBTransport α) : Method USBTransport α := do
  let self ← Coro.get
  let isOpen ← serialIsOpen
  match self.serial with
  | none => .raise (.runtimeError "USB not connected")
  | some serial =>
      if isOpen then use serial else .raise (.runtimeError "USB not connected")

/-- `send(data)`. -/
def send (data : Bytes) : Method USBTransport Unit :=
  withSerial fun serial => Method.perform (.writeSerial serial data)

/-- `receive(timeout)`. -/
def receive (wait : Wait) : Method USBTransport Bytes :=
  withSerial fun serial => Method.perform (.readSerial serial 4096 wait)

/-- `is_connected()`. -/
def isConnected : Method USBTransport Bool := do
  let self ← Coro.get
  if self.connected then serialIsOpen else pure false

theorem serialIsOpen_returns : serialIsOpen.Returns := by
  refine Coro.get_returns.bind fun self => ?_
  cases self.serial with
  | none => trivial
  | some serial => exact Method.query_returns _ _

theorem isConnected_returns : isConnected.Returns := by
  refine Coro.get_returns.bind fun self => ?_
  cases self.connected with
  | false => trivial
  | true => exact serialIsOpen_returns

end USBTransport

/-- The class `USBTransport`. -/
def usbTransport : TransportClass USBTransport where
  connect := USBTransport.connect
  disconnect := USBTransport.disconnect
  send := USBTransport.send
  receive := USBTransport.receive
  isConnected := USBTransport.isConnected
  getName := fun _ => TransportClass.baseName "USBTransport"

theorem usbTransport_facts (self : USBTransport) : usbTransport.facts self = .usb := by
  have name : TransportClass.baseName "USBTransport" = "USB" := by decide +kernel
  unfold TransportClass.facts usbTransport TransportFacts.usb
  rw [name]

/-- The `wifi` section of the configuration. -/
structure WifiConfig where
  host : Option String := none
  port : Option ℕ := none
  connectTimeout : Option Time := none
  readChunkSize : Option ℕ := none

/-- A `WiFiTransport`; the reader and the writer are set together. -/
structure WiFiTransport where
  host : String
  port : ℕ
  connectTimeout : Time
  readChunkSize : ℕ
  stream : Option Stream := none
  connected : Bool := false

namespace WiFiTransport

/-- `WiFiTransport(config)`. -/
def make (config : WifiConfig) : WiFiTransport where
  host := config.host.getD "192.168.1.1"
  port := config.port.getD 8080
  connectTimeout := config.connectTimeout.getD 3
  readChunkSize := config.readChunkSize.getD 4096

/-- A read that answers with nothing when its time is up. -/
def readOrNothing (stream : Stream) (wait : Wait) : Method WiFiTransport Bytes := do
  let self ← Coro.get
  Coro.tryExcept (fun e => e = .timeoutError)
    (Method.perform (.read stream self.readChunkSize wait)) fun _ => pure ([] : Bytes)

/-- The loop of `_drain_socket_buffer`. -/
def drainLoop (stream : Stream) : ℕ → Method WiFiTransport Unit
  | 0 => pure ()
  | passes + 1 => do
      let chunk ← readOrNothing stream (.seconds (1 / 100))
      if chunk = [] then Method.perform (.sleep 0)
      else drainLoop stream passes

/-- `_drain_socket_buffer(max_seconds)`. -/
def drainSocketBuffer (maxSeconds : Time) : Method WiFiTransport Unit := do
  let self ← Coro.get
  match self.stream with
  | none => pure ()
  | some stream =>
      Coro.tryExcept Exn.isOSError (do
        let passes ← Method.query (.deadline maxSeconds) (0 : ℕ)
        drainLoop stream passes) fun _ => pure ()

/-- `connect()`. -/
def connect : Method WiFiTransport Bool :=
  Coro.tryExcept Exn.isOSError (do
    let self ← Coro.get
    let (stream : Stream) ←
      Method.perform (.openConnection self.host self.port self.connectTimeout)
    Coro.modify fun self => { self with stream := some stream, connected := true }
    drainSocketBuffer (1 / 5)
    pure true) fun _ => do
      Coro.modify fun self => { self with connected := false }
      pure false

/-- `disconnect()`. -/
def disconnect : Method WiFiTransport Unit := do
  let self ← Coro.get
  let closed ← (match self.stream with
    | none => pure ()
    | some stream => do
        Method.perform (.closeStream stream)
        Method.perform (.waitClosed stream) : Method WiFiTransport Unit).attempt
  Coro.modify fun self => { self with stream := none }
  Coro.ofExcept closed
  Coro.modify fun self => { self with connected := false }

/-- `send(data)`. -/
def send (data : Bytes) : Method WiFiTransport Unit := do
  let self ← Coro.get
  match self.stream with
  | none => .raise (.runtimeError "WiFi not connected")
  | some stream => do
      Method.perform (.write stream data)
      Method.perform (.drain stream)

/-- `timeout is not None and timeout <= 0`; in a loop what remains to the deadline is
checked by the read. -/
def isOver : Wait → Bool
  | .seconds limit | .atMost limit => limit ≤ 0
  | .remaining | .unlimited => false

/-- `except (ConnectionResetError, BrokenPipeError)`. -/
def isConnectionError : Exn → Bool
  | .connectionError _ => true
  | _ => false

/-- `receive(timeout)`. -/
def receive (wait : Wait) : Method WiFiTransport Bytes := do
  let self ← Coro.get
  match self.stream with
  | none => .raise (.runtimeError "WiFi not connected")
  | some stream =>
      if isOver wait then pure []
      else
        Coro.tryExcept isConnectionError (readOrNothing stream wait) fun _ => do
          Coro.modify fun self => { self with connected := false }
          pure []

/-- `is_connected()`. -/
def isConnected : Method WiFiTransport Bool := do
  let self ← Coro.get
  match self.connected, self.stream with
  | true, some stream => do
      let isClosing ← Method.query (.isClosing stream) false
      pure !isClosing
  | _, _ => pure false

theorem isConnected_returns : isConnected.Returns := by
  refine Coro.get_returns.bind fun self => ?_
  cases self.connected with
  | false => trivial
  | true =>
      cases self.stream with
      | none => trivial
      | some stream =>
          apply Coro.Returns.bind (Method.query_returns _ _)
          intro isClosing
          trivial

end WiFiTransport

/-- The class `WiFiTransport`. -/
def wifiTransport : TransportClass WiFiTransport where
  connect := WiFiTransport.connect
  disconnect := WiFiTransport.disconnect
  send := WiFiTransport.send
  receive := WiFiTransport.receive
  isConnected := WiFiTransport.isConnected
  getName := fun _ => TransportClass.baseName "WiFiTransport"
  supportsCliTextMode := fun _ => false
  hasHost := fun _ => true

theorem wifiTransport_facts (self : WiFiTransport) : wifiTransport.facts self = .wifi := by
  have name : TransportClass.baseName "WiFiTransport" = "WiFi" := by decide +kernel
  unfold TransportClass.facts wifiTransport TransportFacts.wifi
  rw [name]

end FlipperMcp
