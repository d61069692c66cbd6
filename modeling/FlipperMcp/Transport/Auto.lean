import FlipperMcp.Client.Calls
import FlipperMcp.Transport.Drivers

/-! # The transport that selects another

An `AutoTransport` that has selected a transport answers as that transport does, except
where it asks its base class: `supports_cli_text_mode` is not handed on. So it is
transparent exactly when it has selected the serial port (`transparent_iff`), and over the
WiFi bridge `cli_exec` types into the link.
-/

namespace FlipperMcp

open Coroutine

/-- The object an `AutoTransport` has selected. -/
inductive SelectedTransport
  | usb (self : USBTransport)
  | wifi (self : WiFiTransport)

namespace SelectedTransport

/-- The `USBTransport`, of an object that is one. -/
def asUsb (default : USBTransport) : SelectedTransport → USBTransport
  | usb self => self
  | wifi _ => default

/-- The `WiFiTransport`, of an object that is one. -/
def asWifi (default : WiFiTransport) : SelectedTransport → WiFiTransport
  | wifi self => self
  | usb _ => default

/-- Call the method of the object's class. -/
def dispatch {α : Type} (onUsb : Method USBTransport α) (onWifi : Method WiFiTransport α) :
    Method SelectedTransport α := do
  match ← Coro.get with
  | usb self => onUsb.zoom (asUsb self) fun self _ => usb self
  | wifi self => onWifi.zoom (asWifi self) fun self _ => wifi self

/-- The object is a `USBTransport`. -/
def IsUsb : SelectedTransport → Prop
  | usb _ => True
  | wifi _ => False

/-- The object is a `WiFiTransport`. -/
def IsWifi : SelectedTransport → Prop
  | usb _ => False
  | wifi _ => True

end SelectedTransport

/-- A selected object, with the methods of its own class. -/
def selectedTransport : TransportClass SelectedTransport where
  connect := SelectedTransport.dispatch usbTransport.connect wifiTransport.connect
  disconnect := SelectedTransport.dispatch usbTransport.disconnect wifiTransport.disconnect
  send data := SelectedTransport.dispatch (usbTransport.send data) (wifiTransport.send data)
  receive wait :=
    SelectedTransport.dispatch (usbTransport.receive wait) (wifiTransport.receive wait)
  isConnected := SelectedTransport.dispatch usbTransport.isConnected wifiTransport.isConnected
  getName
    | .usb self => usbTransport.getName self
    | .wifi self => wifiTransport.getName self
  supportsCliTextMode
    | .usb self => usbTransport.supportsCliTextMode self
    | .wifi self => wifiTransport.supportsCliTextMode self
  hasHost
    | .usb self => usbTransport.hasHost self
    | .wifi self => wifiTransport.hasHost self

/-- An `AutoTransport`, with the sections of its configuration. -/
structure AutoTransport where
  usbConfig : UsbConfig
  wifiConfig : WifiConfig
  active : Option SelectedTransport := none
  connected : Bool := false

namespace AutoTransport

/-- `_wifi_is_configured()`. -/
def wifiIsConfigured (self : AutoTransport) : Bool :=
  match self.wifiConfig.host with
  | some host => Python.strip host ≠ ""
  | none => false

/-- Update the object in `_active`. -/
def putActive (selected : SelectedTransport) (self : AutoTransport) : AutoTransport :=
  { self with active := some selected }

/-- Put a connected object into `_active`. -/
def select (selected : SelectedTransport) : Method AutoTransport Unit :=
  Coro.modify fun self => { putActive selected self with connected := true }

/-- Connect a new `WiFiTransport`, if one is configured. -/
def connectWifi (self : AutoTransport) : Method AutoTransport (Except Exn Bool × WiFiTransport) :=
  if self.wifiIsConfigured then WiFiTransport.connect.over (.make self.wifiConfig)
  else pure (.ok false, .make self.wifiConfig)

/-- `connect()`. -/
def connect : Method AutoTransport Bool := do
  let self ← Coro.get
  let usb ← USBTransport.make self.usbConfig
  let (usbConnected, usb) ← USBTransport.connect.over usb
  if ← Coro.ofExcept usbConnected then do
    select (.usb usb)
    pure true
  else do
    let (wifiConnected, wifi) ← connectWifi self
    if ← Coro.ofExcept wifiConnected then do
      select (.wifi wifi)
      pure true
    else do
      Coro.modify fun self => { self with active := none, connected := false }
      pure false

/-- Call a method of `self._active`, if there is one. -/
def onActive {α : Type} (method : Method SelectedTransport α) (otherwise : Method AutoTransport α) :
    Method AutoTransport α := do
  let self ← Coro.get
  match self.active with
  | none => otherwise
  | some selected => method.zoom (fun self => self.active.getD selected) putActive

/-- `raise RuntimeError("Auto transport has no active connection")`. -/
def noActiveConnection {α : Type} : Method AutoTransport α :=
  .raise (.runtimeError "Auto transport has no active connection")

/-- `disconnect()`. -/
def disconnect : Method AutoTransport Unit := do
  let closed ← (onActive selectedTransport.disconnect (pure ())).attempt
  Coro.modify fun self => { self with active := none, connected := false }
  Coro.ofExcept closed

/-- `is_connected()`. -/
def isConnected : Method AutoTransport Bool :=
  Coro.tryExcept Exn.isOSOrRuntimeError (onActive selectedTransport.isConnected (pure false))
    fun _ => pure false

/-- `get_name()`. -/
def getName (self : AutoTransport) : String :=
  match self.active with
  | some selected => selectedTransport.getName selected
  | none => "Auto"

end AutoTransport

/-- The class `AutoTransport`. -/
def autoTransport : TransportClass AutoTransport where
  connect := AutoTransport.connect
  disconnect := AutoTransport.disconnect
  send data := AutoTransport.onActive (selectedTransport.send data) AutoTransport.noActiveConnection
  receive wait :=
    AutoTransport.onActive (selectedTransport.receive wait) AutoTransport.noActiveConnection
  isConnected := AutoTransport.isConnected
  getName := AutoTransport.getName
  isAuto := fun _ => true

/-- The operations and queries of a transport in use. -/
inductive TransportCall
  | send (data : Bytes)
  | receive (timeout : Option Time)
  | receiveExact (n : ℕ) (timeout : Option Time)
  | clearReceiveBuffer
  | isConnected
  | getName
  | supportsCliTextMode
  deriving DecidableEq

/-- What they return. -/
inductive TransportAnswer
  | done
  | bytes (data : Bytes)
  | flag (value : Bool)
  | name (text : String)

namespace TransportCall

/-- A `timeout` argument. -/
def waitOf : Option Time → Wait
  | some timeout => .seconds timeout
  | none => .unlimited

/-- The operation over the link; the receive buffer is that of the object in use. -/
def program : TransportCall → Link TransportAnswer
  | send data => do
      Link.send .request data
      pure .done
  | receive timeout => do
      let data ← Link.receive (waitOf timeout)
      pure (.bytes data)
  | receiveExact n (some timeout) => do
      let data ← FlipperTransport.receiveExact n timeout
      pure (.bytes data)
  | receiveExact n none => do
      let data ← FlipperTransport.receiveExactUntimed n
      pure (.bytes data)
  | clearReceiveBuffer => do
      FlipperTransport.clearReceiveBuffer
      pure .done
  | isConnected => do
      let (connected : Bool) ← Link.perform .isConnected
      pure (.flag connected)
  | getName | supportsCliTextMode => pure .done

variable {T σ : Type}

/-- What an object answers, and what the call leaves. -/
def outcome (cls : TransportClass T) (P : PortEnv σ) (call : TransportCall) (s : Host)
    (w : T × σ) : Except Exn TransportAnswer × Host × (T × σ) :=
  match call with
  | getName => (.ok (.name (cls.getName w.1)), s, w)
  | supportsCliTextMode => (.ok (.flag (cls.supportsCliTextMode w.1)), s, w)
  | call =>
      let outcome := run (cls.env P) call.program s w
      (outcome.result, outcome.host, outcome.world)

/-- What an object answers to a sequence of calls. -/
def answers (cls : TransportClass T) (P : PortEnv σ) :
    List TransportCall → Host → T × σ → List (Except Exn TransportAnswer)
  | [], _, _ => []
  | call :: calls, s, w =>
      let after := call.outcome cls P s w
      after.1 :: answers cls P calls after.2.1 after.2.2

end TransportCall

section Transparency

variable {σ α T T' : Type}

/-- The footprint of the operations of a transport in use. -/
abbrev CallWithin (c : Link α) : Prop :=
  @Within Host linkSignature Exn α (fun op => ¬ LinkOp.IsReconnect op) (fun _ _ => True) c

theorem awaitBuffer_within (n passes : ℕ) : CallWithin (FlipperTransport.awaitBuffer n passes) := by
  induction passes with
  | zero => exact .raise _
  | succ passes ih =>
      unfold FlipperTransport.awaitBuffer
      refine (Within.get fun _ => trivial).bind fun s => ?_
      split
      · exact .pure ()
      · refine (Link.within_perform (.receive .unlimited) id).bind fun chunk => ?_
        split
        · exact (Link.within_perform (.sleep 0) id).bind fun _ => ih
        · exact (Within.modify fun _ => trivial).bind fun _ => ih

theorem receiveExactUntimed_within (n : ℕ) : CallWithin (FlipperTransport.receiveExactUntimed n) := by
  unfold FlipperTransport.receiveExactUntimed
  split
  · exact .pure _
  · refine (Link.within_perform .patience id).bind fun passes => ?_
    refine (awaitBuffer_within n passes).bind fun _ => ?_
    refine (Within.get fun _ => trivial).bind fun s => ?_
    exact (Within.modify fun _ => trivial).bind fun _ => .pure _

theorem TransportCall.program_within (call : TransportCall) : CallWithin call.program := by
  cases call with
  | send data => exact (Link.within_perform (.send .request data) id).bind fun _ => .pure _
  | receive timeout => exact (Link.within_perform (.receive _) id).bind fun _ => .pure _
  | receiveExact n timeout =>
      cases timeout with
      | some timeout =>
          refine ((ProtobufRPC.receiveExact_listens n timeout).mono ?_ fun _ _ _ => trivial).bind
            fun _ => .pure _
          intro op ofMethod
          cases op <;> first | exact id | exact ofMethod.elim
      | none => exact (receiveExactUntimed_within n).bind fun _ => .pure _
  | clearReceiveBuffer => exact (Within.modify fun _ => trivial).bind fun _ => .pure _
  | isConnected => exact (Link.within_perform .isConnected id).bind fun _ => .pure _
  | getName | supportsCliTextMode => exact .pure _

/-- A method of one class does to the objects that stand for others what a method of the
others' class does to them. -/
def Mimics (P : PortEnv σ) (put : T → T') (own : Method T α) (method : Method T' α) : Prop :=
  ∀ t w, (run P method (put t) w).result = (run P own t w).result ∧
    ((run P method (put t) w).host, (run P method (put t) w).world) =
      (put (run P own t w).host, (run P own t w).world)

/-- What a part does, the whole does when it runs the part. -/
theorem Mimics.zoom {P : PortEnv σ} {view : T' → T} {put : T → T' → T'} (part : IsPart view put)
    (own : Method T α) (s : T') : Mimics P (put · s) own (own.zoom view put) := by
  intro t w
  obtain ⟨result, host, world⟩ := run_zoom part P own t s w
  exact ⟨result, Prod.ext host world⟩

/-- An object of one class stands for an object of another: to the link it is the same,
and it has the same name. -/
structure StandsFor (P : PortEnv σ) (put : T → T') (cls : TransportClass T)
    (cls' : TransportClass T') : Prop where
  send : ∀ data, Mimics P put (cls.send data) (cls'.send data)
  receive : ∀ wait, Mimics P put (cls.receive wait) (cls'.receive wait)
  isConnected : Mimics P put cls.isConnected cls'.isConnected
  getName : ∀ t, cls'.getName (put t) = cls.getName t

variable {P : PortEnv σ} {put : T → T'} {cls : TransportClass T} {cls' : TransportClass T'}

theorem StandsFor.trans {T'' : Type} {put' : T' → T''} {cls'' : TransportClass T''}
    (first : StandsFor P put cls cls') (second : StandsFor P put' cls' cls'') :
    StandsFor P (fun t => put' (put t)) cls cls'' := by
  have chain : ∀ {α : Type} {a : Method T α} {b : Method T' α} {c : Method T'' α},
      Mimics P put a b → Mimics P put' b c → Mimics P (fun t => put' (put t)) a c := by
    intro α a b c inner outer t w
    obtain ⟨result, state⟩ := inner t w
    obtain ⟨result', state'⟩ := outer (put t) w
    exact ⟨result'.trans result, state'.trans (congrArg (fun w => (put' w.1, w.2)) state)⟩
  exact ⟨fun data => chain (first.send data) (second.send data),
    fun wait => chain (first.receive wait) (second.receive wait),
    chain first.isConnected second.isConnected,
    fun t => (second.getName (put t)).trans (first.getName t)⟩

/-- Except for connecting and disconnecting, the link cannot tell them apart. -/
theorem StandsFor.embeds (stands : StandsFor P put cls cls') :
    Embeds (fun op => ¬ LinkOp.IsReconnect op) (fun w => (put w.1, w.2)) (cls.env P)
      (cls'.env P) := by
  intro op ordinary w
  have served : ∀ {α : Type} {own : Method T α} {method : Method T' α}, Mimics P put own method →
      ((run P method (put w.1) w.2).result, (run P method (put w.1) w.2).host,
        (run P method (put w.1) w.2).world) =
      ((run P own w.1 w.2).result, put (run P own w.1 w.2).host, (run P own w.1 w.2).world) :=
    fun mimics => Prod.ext (mimics w.1 w.2).1 (mimics w.1 w.2).2
  have loop : ∀ port : PortOp, Mimics P put (Method.perform port) (Method.perform port) := by
    intro port t w
    unfold Method.perform
    rw [run_perform, run_perform]
    exact ⟨rfl, rfl⟩
  cases op with
  | connect | disconnect => exact absurd trivial ordinary
  | send origin data => exact served (stands.send data)
  | receive wait => exact served (stands.receive wait)
  | isConnected => exact served stands.isConnected
  | sleep seconds => exact served (loop (.sleep seconds))
  | monotonic => exact served (loop .monotonic)
  | deadline seconds => exact served (loop (.deadline seconds))
  | patience => exact served (loop .patience)
  | startTimeout seconds => exact served (loop (.startTimeout seconds))
  | stopTimeout => exact served (loop .stopTimeout)

/-- One call is answered alike, if it is not a question the objects disagree on. -/
theorem StandsFor.outcome (stands : StandsFor P put cls cls') (call : TransportCall) (s : Host)
    (w : T × σ) (agrees : call = .supportsCliTextMode →
      cls'.supportsCliTextMode (put w.1) = cls.supportsCliTextMode w.1) :
    call.outcome cls' P s (put w.1, w.2) =
      ((call.outcome cls P s w).1, (call.outcome cls P s w).2.1,
        put (call.outcome cls P s w).2.2.1, (call.outcome cls P s w).2.2.2) := by
  obtain ⟨result, host, world⟩ := stands.embeds.run call.program_within s w
  cases call with
  | getName =>
      unfold TransportCall.outcome
      rw [stands.getName]
  | supportsCliTextMode =>
      unfold TransportCall.outcome
      rw [agrees rfl]
  | send _ | receive _ | receiveExact _ _ | clearReceiveBuffer | isConnected =>
      exact Prod.ext result (Prod.ext host world)

/-- So is every sequence of calls. -/
theorem StandsFor.answers (stands : StandsFor P put cls cls') (calls : List TransportCall)
    (s : Host) (w : T × σ) (agrees : .supportsCliTextMode ∈ calls → ∀ t,
      cls'.supportsCliTextMode (put t) = cls.supportsCliTextMode t) :
    TransportCall.answers cls' P calls s (put w.1, w.2) =
      TransportCall.answers cls P calls s w := by
  induction calls generalizing s w with
  | nil => rfl
  | cons call calls ih =>
      unfold TransportCall.answers
      rw [stands.outcome call s w fun same => agrees (same ▸ List.mem_cons_self ..) w.1]
      simp only
      rw [ih _ _ fun member => agrees (List.mem_cons_of_mem _ member)]

variable (P)

/-- Calling the methods of a `USBTransport` through its class is calling its own. -/
theorem SelectedTransport.stands_usb :
    StandsFor P SelectedTransport.usb usbTransport selectedTransport := by
  have dispatched : ∀ {α : Type} (onUsb : Method USBTransport α) (onWifi : Method WiFiTransport α),
      Mimics P .usb onUsb (SelectedTransport.dispatch onUsb onWifi) := by
    intro α onUsb onWifi t
    have part : IsPart (SelectedTransport.asUsb t) fun self _ => SelectedTransport.usb self :=
      ⟨fun _ _ => rfl, fun _ _ _ => rfl⟩
    exact Mimics.zoom part onUsb (.usb t) t
  exact ⟨fun _ => dispatched _ _, fun _ => dispatched _ _, dispatched _ _, fun _ => rfl⟩

/-- Calling the methods of a `WiFiTransport` through its class is calling its own. -/
theorem SelectedTransport.stands_wifi :
    StandsFor P SelectedTransport.wifi wifiTransport selectedTransport := by
  have dispatched : ∀ {α : Type} (onUsb : Method USBTransport α) (onWifi : Method WiFiTransport α),
      Mimics P .wifi onWifi (SelectedTransport.dispatch onUsb onWifi) := by
    intro α onUsb onWifi t
    have part : IsPart (SelectedTransport.asWifi t) fun self _ => SelectedTransport.wifi self :=
      ⟨fun _ _ => rfl, fun _ _ _ => rfl⟩
    exact Mimics.zoom part onWifi (.wifi t) t
  exact ⟨fun _ => dispatched _ _, fun _ => dispatched _ _, dispatched _ _, fun _ => rfl⟩

theorem SelectedTransport.isConnected_returns : selectedTransport.isConnected.Returns := by
  apply Coro.Returns.bind Coro.get_returns
  intro self
  cases self with
  | usb self => exact USBTransport.isConnected_returns.zoom
  | wifi self => exact WiFiTransport.isConnected_returns.zoom

/-- An `AutoTransport` stands for the object it has selected. -/
theorem AutoTransport.stands (self : AutoTransport) :
    StandsFor P (AutoTransport.putActive · self) selectedTransport autoTransport := by
  have handed : ∀ {α : Type} (method : Method SelectedTransport α)
      (otherwise : Method AutoTransport α),
      Mimics P (putActive · self) method (onActive method otherwise) := by
    intro α method otherwise t
    have part : IsPart (fun self : AutoTransport => self.active.getD t) putActive :=
      ⟨fun _ _ => rfl, fun _ _ _ => rfl⟩
    exact Mimics.zoom part method self t
  refine ⟨fun _ => handed _ _, fun _ => handed _ _, fun t w => ?_, fun _ => rfl⟩
  -- the object does not raise, so the handler of the wrapper is not reached
  obtain ⟨connected, returned⟩ := SelectedTransport.isConnected_returns.run P t w
  have direct := handed selectedTransport.isConnected (pure false) t w
  have same : run P isConnected (putActive t self) w =
      run P (onActive selectedTransport.isConnected (pure false)) (putActive t self) w := by
    unfold isConnected
    rw [run_tryExcept, direct.1, returned]
  rw [← same] at direct
  exact direct

end Transparency

section Selection

variable {σ : Type} (P : PortEnv σ)

/-- A connected `AutoTransport` has selected an object. -/
theorem AutoTransport.connect_selects (self : AutoTransport) (w : σ) :
    wp P (fun _ => True) AutoTransport.connect
      (fun result self _ => result = .ok true → ∃ selected, self.active = some selected) self w := by
  have any : ∀ {α : Type} (c : Method AutoTransport α) (self : AutoTransport) (w : σ),
      wp P (fun _ => True) c (fun _ _ _ => True) self w :=
    fun _ _ _ => ⟨fun _ _ => trivial, trivial⟩
  unfold AutoTransport.connect
  apply wp_bind.mpr
  apply wp_get.mpr
  apply wp.bind (any _ _ _) _ fun _ _ _ _ => nofun
  intro usb self w _
  apply wp.bind (any _ _ _) _ fun _ _ _ _ => nofun
  rintro ⟨usbConnected, usb⟩ self w _
  apply wp.bind (any _ _ _) _ fun _ _ _ _ => nofun
  intro usbConnected self w _
  cases usbConnected with
  | true => exact wp_bind.mpr (wp_modify.mpr (wp_ret.mpr fun _ => ⟨.usb usb, rfl⟩))
  | false =>
      apply wp.bind (any _ _ _) _ fun _ _ _ _ => nofun
      rintro ⟨wifiConnected, wifi⟩ self w _
      apply wp.bind (any _ _ _) _ fun _ _ _ _ => nofun
      intro wifiConnected self w _
      cases wifiConnected with
      | true => exact wp_bind.mpr (wp_modify.mpr (wp_ret.mpr fun _ => ⟨.wifi wifi, rfl⟩))
      | false => exact wp_bind.mpr (wp_modify.mpr (wp_ret.mpr nofun))

/-- After a connect the client knows what the `AutoTransport` says about itself, and the
receive buffer is empty. -/
theorem connectTransport_selects (self : AutoTransport) (s : Host) (w : σ) :
    wp (autoTransport.env P) (fun _ => True) FlipperClient.connectTransport
      (fun result s w => result = .ok true → ∃ selected, w.1.active = some selected ∧
        s.rxBuffer = [] ∧ s.transport = autoTransport.facts w.1) s (self, w) := by
  have served : wp P (fun _ => True) (autoTransport.method .connect)
      (fun result self _ => ∀ facts : TransportFacts, result = .ok (some facts) →
        (∃ selected, self.active = some selected) ∧ facts = autoTransport.facts self) self w := by
    apply (AutoTransport.connect_selects P self w).bind
    · intro ok self w selects
      apply wp_bind.mpr
      apply wp_get.mpr
      apply wp_ret.mpr
      intro facts same
      cases ok with
      | true =>
          obtain rfl := Option.some.inj (Except.ok.inj same)
          exact ⟨selects rfl, rfl⟩
      | false => exact nomatch Except.ok.inj same
    · intro e self w _
      exact nofun
  apply wp_bind.mpr
  apply wp_perform.mpr
  refine ⟨trivial, ?_⟩
  generalize answered : (autoTransport.env P .connect (self, w)).1 = answer
  cases answer with
  | error e => exact nofun
  | ok facts =>
      cases facts with
      | none => exact wp_ret.mpr nofun
      | some facts =>
          obtain ⟨⟨selected, active⟩, rfl⟩ := served.2 facts answered
          apply wp_bind.mpr
          apply wp_modify.mpr
          apply wp_ret.mpr
          exact fun _ => ⟨selected, active, rfl, rfl⟩

/-- What a selected object answers by itself. -/
def SelectedTransport.answers (calls : List TransportCall) (s : Host) (w : σ) :
    SelectedTransport → List (Except Exn TransportAnswer)
  | usb self => TransportCall.answers usbTransport P calls s (self, w)
  | wifi self => TransportCall.answers wifiTransport P calls s (self, w)

/-- The wrapper answers as the selected object does, unless it is a `WiFiTransport` that
is asked for the CLI. -/
theorem AutoTransport.answers_eq {self : AutoTransport} {selected : SelectedTransport}
    (active : self.active = some selected) (calls : List TransportCall) (s : Host) (w : σ)
    (agrees : .supportsCliTextMode ∈ calls → selected.IsUsb) :
    TransportCall.answers autoTransport P calls s (self, w) = selected.answers P calls s w := by
  have held : self = putActive selected self := by
    unfold putActive
    rw [← active]
  rw [held]
  cases selected with
  | usb usb =>
      exact ((SelectedTransport.stands_usb P).trans (AutoTransport.stands P self)).answers calls s
        (usb, w) fun _ _ => rfl
  | wifi wifi =>
      exact ((SelectedTransport.stands_wifi P).trans (AutoTransport.stands P self)).answers calls s
        (wifi, w) fun asked => (agrees asked).elim

/-- Every `cli_exec` of a client that knows these facts of its transport is refused before
anything is awaited. -/
def CliUnavailable {T : Type} (E : LinkEnv (T × σ)) (facts : TransportFacts) : Prop :=
  ∀ (s : Host) (w : T × σ), s.transport = facts → s.rpc ≠ none →
    ∀ command timeout acceptResponsibility txToolsEnabled,
      let outcome := run E
        (FlipperClient.cliExec command timeout acceptResponsibility txToolsEnabled) s w
      outcome.result = .error (.flipperCLIUnavailableError
        "CLI text mode unavailable over WiFi bridge") ∧ outcome.trace = []

/-- After it has connected, an `AutoTransport` is transparent, and keeps `cli_exec` off the
WiFi bridge, exactly when it has selected the serial port. -/
theorem AutoTransport.transparent_iff (self : AutoTransport) (s : Host) (w : σ)
    (connected : (run (autoTransport.env P) FlipperClient.connectTransport s (self, w)).result =
      .ok true) :
    let outcome := run (autoTransport.env P) FlipperClient.connectTransport s (self, w)
    ∃ selected, outcome.world.1.active = some selected ∧
      (((∀ calls, TransportCall.answers autoTransport P calls outcome.host outcome.world =
          selected.answers P calls { outcome.host with rxBuffer := [] } outcome.world.2) ∧
        (selected.IsWifi → CliUnavailable (autoTransport.env P) outcome.host.transport)) ↔
      selected.IsUsb) := by
  intro outcome
  obtain ⟨selected, active, empty, _⟩ := (connectTransport_selects P self s w).2 connected
  have buffer : { outcome.host with rxBuffer := [] } = outcome.host := by rw [← empty]
  refine ⟨selected, active, ?_⟩
  rw [buffer]
  constructor
  · rintro ⟨transparent, -⟩
    cases selected with
    | usb _ => trivial
    | wifi wifi =>
        -- the base class answers for the wrapper, the override for the object
        have asked := transparent [.supportsCliTextMode]
        simp [TransportCall.answers, TransportCall.outcome, SelectedTransport.answers,
          autoTransport, wifiTransport] at asked
  · intro isUsb
    refine ⟨fun calls => AutoTransport.answers_eq P active calls _ _ fun _ => isUsb, ?_⟩
    cases selected with
    | usb _ => exact fun impossible => impossible.elim
    | wifi _ => exact isUsb.elim

end Selection

/-- A host with no serial port, and a WiFi bridge that says nothing. -/
def bridgeOnly : PortEnv Unit := fun op w => match op with
  | .platform => (.ok (⟨"Linux", [], fun _ => false⟩ : Platform), w)
  | .openSerial _ _ _ => (.error (.osError "no such port"), w)
  | .openConnection _ _ _ => (.ok (0 : ℕ), w)
  | .isOpen _ | .isClosing _ => (.ok false, w)
  | .readSerial _ _ _ | .read _ _ _ => (.ok ([] : List UInt8), w)
  | .closeSerial _ | .writeSerial _ _ | .write _ _ | .drain _ | .closeStream _ | .waitClosed _
  | .sleep _ | .startTimeout _ | .stopTimeout => (.ok (), w)
  | .monotonic => (.ok (0 : ℚ), w)
  | .deadline _ | .patience => (.ok (1 : ℕ), w)

/-- A host with a serial port. -/
def serialOnly : PortEnv Unit := fun op w => match op with
  | .openSerial _ _ _ => (.ok (0 : ℕ), w)
  | op => bridgeOnly op w

/-- A configuration with a WiFi host. -/
def bridgeConfigured : AutoTransport where
  usbConfig := {}
  wifiConfig := { host := some "10.0.0.2" }

theorem AutoTransport.transparent_iff_serialOnly :
    let outcome := run (autoTransport.env serialOnly) FlipperClient.connectTransport
      { transport := .auto "Auto" } (bridgeConfigured, ())
    outcome.result = .ok true ∧ ∃ selected, outcome.world.1.active = some selected ∧
      (((∀ calls, TransportCall.answers autoTransport serialOnly calls outcome.host outcome.world =
          selected.answers serialOnly calls { outcome.host with rxBuffer := [] } outcome.world.2) ∧
        (selected.IsWifi → CliUnavailable (autoTransport.env serialOnly) outcome.host.transport)) ↔
      selected.IsUsb) :=
  ⟨by decide +kernel, AutoTransport.transparent_iff serialOnly _ _ _ (by decide +kernel)⟩

/-- The WiFi bridge is selected, and yet `cli_exec` types its command into it. -/
theorem AutoTransport.cliExec_over_bridge :
    let connected := run (autoTransport.env bridgeOnly) FlipperClient.connect
      { transport := .auto "Auto" } (bridgeConfigured, ())
    let exec := run (autoTransport.env bridgeOnly) (FlipperClient.cliExec "help")
      connected.host connected.world
    connected.result = .ok true ∧ connected.world.1.getName = "WiFi" ∧
      autoTransport.supportsCliTextMode connected.world.1 = true ∧
      exec.result ≠ .error (.flipperCLIUnavailableError
        "CLI text mode unavailable over WiFi bridge") ∧
      LinkOp.send .cliCommand (encodeText "help" ++ [0x0D]) ∈ exec.trace.map (·.op) := by
  decide +kernel

end FlipperMcp
