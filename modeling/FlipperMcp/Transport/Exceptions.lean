import FlipperMcp.Transport.Auto

/-! # What the transports raise

The transports raise a `RuntimeError` of their own and what serial ports, sockets and the
event loop raise, and nothing else (`usbTransport_raises`, `wifiTransport_raises`,
`autoTransport_raises`).
-/

namespace FlipperMcp

open Coroutine

/-- `FlipperNotConnectedError`, `FlipperCLIUnavailableError` and `FlipperCLIRefusedError`. -/
def Exn.isCliRefusal : Exn → Bool
  | flipperNotConnectedError _ | flipperCLIUnavailableError _ | flipperCLIRefusedError _ => true
  | _ => false

/-- An environment raises none of the exceptions the client refuses a command with. -/
def RefusesNothing {I : Signature} {σ : Type} (E : Env I Exn σ) : Prop :=
  ∀ op w, ResultAllowed (fun e => e.isCliRefusal = false) (E op w).1

/-- Whatever an object of a class raises is allowed. -/
def TransportClass.RaisesOnly {T : Type} (allowed : Exn → Prop) (cls : TransportClass T) : Prop :=
  ∀ op, Raises allowed (cls.method op)

namespace TransportClass

variable {T σ : Type} {allowed : Exn → Prop}

theorem raises_perform (op : PortOp) :
    @Raises T portSignature Exn _ allowed (Method.perform op) :=
  @Yields.perform T portSignature Exn allowed op

/-- It is enough to look at the five methods of a class. -/
theorem RaisesOnly.of_methods {cls : TransportClass T} (connect : Raises allowed cls.connect)
    (disconnect : Raises allowed cls.disconnect) (send : ∀ data, Raises allowed (cls.send data))
    (receive : ∀ wait, Raises allowed (cls.receive wait))
    (isConnected : Raises allowed cls.isConnected) : cls.RaisesOnly allowed := by
  intro op
  cases op with
  | connect => exact connect.bind fun ok _ _ => trivial
  | disconnect => exact disconnect
  | isConnected => exact isConnected
  | send _ data => exact send data
  | receive wait => exact receive wait
  | sleep _ | monotonic | deadline _ | patience | startTimeout _ | stopTimeout =>
      exact raises_perform _

/-- The link over an object raises what the object raises. -/
theorem RaisesOnly.env {cls : TransportClass T} (raises : cls.RaisesOnly allowed) (P : PortEnv σ)
    (ports : ∀ op w, ResultAllowed allowed (P op w).1) :
    ∀ op w, ResultAllowed allowed (cls.env P op w).1 :=
  fun op w => (raises op).run P ports w.1 w.2

end TransportClass

section Classes

open TransportClass

variable {allowed : Exn → Prop}

theorem USBTransport.withSerial_raises {α : Type} {use : SerialPort → Method USBTransport α}
    (runtime : ∀ text, allowed (.runtimeError text)) (used : ∀ serial, Raises allowed (use serial)) :
    Raises allowed (USBTransport.withSerial use) := by
  apply Yields.get.bind
  intro self _
  apply USBTransport.serialIsOpen_returns.raises.bind
  intro isOpen _
  cases self.serial with
  | none => exact runtime _
  | some serial =>
      cases isOpen with
      | true => exact used serial
      | false => exact runtime _

theorem USBTransport.connect_raises : Raises allowed USBTransport.connect := by
  apply Yields.tryExcept
  · apply Yields.get.bind
    intro self _
    apply (raises_perform _).bind
    intro serial _
    apply (Yields.modify _).bind
    intro _ _
    apply (raises_perform _).bind
    intro _ _
    exact (Yields.modify _).bind fun _ _ => trivial
  · exact fun _ => (Yields.modify _).bind fun _ _ => trivial

theorem USBTransport.disconnect_raises : Raises allowed USBTransport.disconnect := by
  apply Yields.get.bind
  intro self _
  apply USBTransport.serialIsOpen_returns.raises.bind
  intro isOpen _
  cases isOpen with
  | false => exact Yields.modify _
  | true =>
      cases self.serial with
      | none => exact Yields.modify _
      | some serial => exact (raises_perform _).bind fun _ _ => .modify _

theorem usbTransport_raises (runtime : ∀ text, allowed (.runtimeError text)) :
    usbTransport.RaisesOnly allowed := by
  apply RaisesOnly.of_methods
  · exact USBTransport.connect_raises
  · exact USBTransport.disconnect_raises
  · exact fun data => USBTransport.withSerial_raises runtime fun serial => raises_perform _
  · exact fun wait => USBTransport.withSerial_raises runtime fun serial => raises_perform _
  · exact USBTransport.isConnected_returns.raises

theorem WiFiTransport.readOrNothing_raises (stream : Stream) (wait : Wait) :
    Raises allowed (WiFiTransport.readOrNothing stream wait) := by
  apply Yields.get.bind
  intro self _
  apply Yields.tryExcept
  · exact raises_perform _
  · exact fun _ => trivial

theorem WiFiTransport.drainSocketBuffer_raises (maxSeconds : Time) :
    Raises allowed (WiFiTransport.drainSocketBuffer maxSeconds) := by
  have loop : ∀ stream passes, Raises allowed (WiFiTransport.drainLoop stream passes) := by
    intro stream passes
    induction passes with
    | zero => trivial
    | succ passes ih =>
        unfold WiFiTransport.drainLoop
        apply (WiFiTransport.readOrNothing_raises stream _).bind
        intro chunk _
        cases chunk with
        | nil => exact raises_perform _
        | cons byte chunk => exact ih
  apply Yields.get.bind
  intro self _
  cases self.stream with
  | none => trivial
  | some stream =>
      apply Yields.tryExcept
      · exact (Method.query_returns _ _).raises.bind fun passes _ => loop stream passes
      · exact fun _ => trivial

theorem WiFiTransport.connect_raises : Raises allowed WiFiTransport.connect := by
  apply Yields.tryExcept
  · apply Yields.get.bind
    intro self _
    apply (raises_perform _).bind
    intro stream _
    apply (Yields.modify _).bind
    intro _ _
    exact (WiFiTransport.drainSocketBuffer_raises _).bind fun _ _ => trivial
  · exact fun _ => (Yields.modify _).bind fun _ _ => trivial

theorem WiFiTransport.disconnect_raises : Raises allowed WiFiTransport.disconnect := by
  apply Yields.get.bind
  intro self _
  refine Yields.bind (Yields.attempt ?closed) fun ended kept => ?_
  case closed =>
    cases self.stream with
    | none => trivial
    | some stream => exact (raises_perform _).bind fun _ _ => raises_perform _
  apply (Yields.modify _).bind
  intro _ _
  exact (Yields.ofExcept kept).bind fun _ _ => .modify _

theorem WiFiTransport.receive_raises (runtime : ∀ text, allowed (.runtimeError text)) (wait : Wait) :
    Raises allowed (WiFiTransport.receive wait) := by
  apply Yields.get.bind
  intro self _
  cases self.stream with
  | none => exact runtime _
  | some stream =>
      by_cases beyond : WiFiTransport.isOver wait = true
      · simp only [beyond, ↓reduceIte]
        trivial
      · simp only [beyond, Bool.false_eq_true, ↓reduceIte]
        apply Yields.tryExcept
        · exact WiFiTransport.readOrNothing_raises stream wait
        · exact fun _ => (Yields.modify _).bind fun _ _ => trivial

theorem wifiTransport_raises (runtime : ∀ text, allowed (.runtimeError text)) :
    wifiTransport.RaisesOnly allowed := by
  apply RaisesOnly.of_methods
  · exact WiFiTransport.connect_raises
  · exact WiFiTransport.disconnect_raises
  · intro data
    apply Yields.get.bind
    intro self _
    cases self.stream with
    | none => exact runtime _
    | some stream => exact (raises_perform _).bind fun _ _ => raises_perform _
  · exact WiFiTransport.receive_raises runtime
  · exact WiFiTransport.isConnected_returns.raises

theorem SelectedTransport.dispatch_raises {α : Type} {onUsb : Method USBTransport α}
    {onWifi : Method WiFiTransport α} (usb : Raises allowed onUsb) (wifi : Raises allowed onWifi) :
    Raises allowed (SelectedTransport.dispatch onUsb onWifi) := by
  apply Yields.get.bind
  intro selected _
  cases selected with
  | usb self => exact usb.zoom
  | wifi self => exact wifi.zoom

theorem AutoTransport.onActive_raises {α : Type} {method : Method SelectedTransport α}
    {otherwise : Method AutoTransport α} (active : Raises allowed method)
    (inactive : Raises allowed otherwise) :
    Raises allowed (AutoTransport.onActive method otherwise) := by
  apply Yields.get.bind
  intro self _
  cases self.active with
  | none => exact inactive
  | some selected => exact active.zoom

theorem AutoTransport.connect_raises : Raises allowed AutoTransport.connect := by
  apply Yields.get.bind
  intro self _
  have made : Raises allowed (USBTransport.make self.usbConfig : Method AutoTransport USBTransport) := by
    unfold USBTransport.make
    cases Python.truthy self.usbConfig.port with
    | some port => trivial
    | none => exact (raises_perform _).bind fun _ _ => trivial
  apply made.bind
  intro opened _
  apply (USBTransport.connect_raises.over opened).bind
  intro usbEnded usbKept
  apply (Yields.ofExcept usbKept).bind
  intro usbConnected _
  cases usbConnected with
  | true => exact (Yields.modify _).bind fun _ _ => trivial
  | false =>
      have tried : Yields allowed (fun ended => ResultAllowed allowed ended.1)
          (AutoTransport.connectWifi self) := by
        unfold AutoTransport.connectWifi
        by_cases configured : self.wifiIsConfigured = true
        · rw [if_pos configured]
          exact WiFiTransport.connect_raises.over _
        · rw [if_neg configured]
          exact ResultAllowed.ok false
      apply tried.bind
      intro wifiEnded wifiKept
      apply (Yields.ofExcept wifiKept).bind
      intro wifiConnected _
      cases wifiConnected with
      | true => exact (Yields.modify _).bind fun _ _ => trivial
      | false => exact (Yields.modify _).bind fun _ _ => trivial

theorem autoTransport_raises (runtime : ∀ text, allowed (.runtimeError text)) :
    autoTransport.RaisesOnly allowed := by
  have usb := usbTransport_raises runtime
  have wifi := wifiTransport_raises runtime
  have nothing : Raises allowed (pure () : Method AutoTransport Unit) := trivial
  have unconnected : Raises allowed (pure false : Method AutoTransport Bool) := trivial
  apply RaisesOnly.of_methods
  · exact AutoTransport.connect_raises
  · apply (AutoTransport.onActive_raises (SelectedTransport.dispatch_raises (usb .disconnect)
      (wifi .disconnect)) nothing).attempt.bind
    intro ended kept
    apply (Yields.modify _).bind
    exact fun _ _ => .ofExcept kept
  · intro data
    exact AutoTransport.onActive_raises (SelectedTransport.dispatch_raises
      (usb (.send .request data)) (wifi (.send .request data))) (runtime _)
  · intro wait
    exact AutoTransport.onActive_raises (SelectedTransport.dispatch_raises
      (usb (.receive wait)) (wifi (.receive wait))) (runtime _)
  · apply Yields.tryExcept
    · exact AutoTransport.onActive_raises (SelectedTransport.dispatch_raises (usb .isConnected)
        (wifi .isConnected)) unconnected
    · exact fun _ => trivial

end Classes

/-- Over ports that raise no refusals of the client, no transport does. -/
theorem TransportClass.refusesNothing {T σ : Type} {cls : TransportClass T}
    (raises : cls.RaisesOnly fun e => e.isCliRefusal = false) {P : PortEnv σ}
    (ports : RefusesNothing P) : RefusesNothing (cls.env P) :=
  raises.env P ports

end FlipperMcp
