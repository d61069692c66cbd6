import FlipperMcp.Coroutine.Serial
import FlipperMcp.Transport.Auto
import Mathlib.Algebra.Order.BigOperators.Group.List
import Mathlib.Data.Finset.Card

/-! # One open device

The tool calls that reconnect, over an `AutoTransport` and down to the ports and sockets it opens.
A call that finds the link down closes what is active and opens a transport, and records it only
when it is connected. While one call does so no other should: one after the other, the calls never
have two devices open and leave none open that is not the active one (`ConnectCall.one_open`). Two
that overlap leave one open for good (`ConnectCall.two_open`).
-/

namespace FlipperMcp

open Coroutine

/-- What a transport opens. -/
inductive OpenDevice
  | serial (port : SerialPort)
  | socket (stream : Stream)
  deriving DecidableEq

/-- What opens or closes a device. -/
def PortOp.OpensOrCloses : PortOp → Prop
  | openSerial _ _ _ | openConnection _ _ _ | closeSerial _ | closeStream _ => True
  | _ => False

/-- What the operating system and the event loop do with ports and sockets: an object that is opened
is a new one, a close closes it whatever it answers, and the port knows whether it is open. Pauses
return, and a read fails as an `OSError` does. -/
structure OpensAndCloses {σ : Type} (P : PortEnv σ) (opened : σ → Finset OpenDevice) : Prop where
  serial : ∀ port baudrate timeout w (serial : SerialPort),
    (P (.openSerial port baudrate timeout) w).1 = .ok serial → .serial serial ∉ opened w ∧
      opened (P (.openSerial port baudrate timeout) w).2 = insert (.serial serial) (opened w)
  noSerial : ∀ port baudrate timeout w e, (P (.openSerial port baudrate timeout) w).1 = .error e →
    opened (P (.openSerial port baudrate timeout) w).2 = opened w
  socket : ∀ host port timeout w (stream : Stream),
    (P (.openConnection host port timeout) w).1 = .ok stream → .socket stream ∉ opened w ∧
      opened (P (.openConnection host port timeout) w).2 = insert (.socket stream) (opened w)
  noSocket : ∀ host port timeout w e, (P (.openConnection host port timeout) w).1 = .error e →
    opened (P (.openConnection host port timeout) w).2 = opened w
  closesSerial : ∀ serial w,
    opened (P (.closeSerial serial) w).2 = (opened w).erase (.serial serial)
  closesSocket : ∀ stream w,
    opened (P (.closeStream stream) w).2 = (opened w).erase (.socket stream)
  isOpen : ∀ serial w, (P (.isOpen serial) w).1 = .ok (decide (.serial serial ∈ opened w))
  sleeps : ∀ seconds w, (P (.sleep seconds) w).1 = .ok ()
  reads : ∀ stream size wait w e, (P (.read stream size wait) w).1 = .error e → e.isOSError = true
  others : ∀ op w, ¬ op.OpensOrCloses → opened (P op w).2 = opened w

/-- The client and its transport. -/
structure AutoClient where
  host : Host
  transport : AutoTransport

namespace AutoClient

/-- Call a method of the transport. -/
def onTransport {α : Type} (method : Method AutoTransport α) : Method AutoClient α :=
  method.zoom AutoClient.transport fun transport self => { self with transport := transport }

/-- `try: body except (OSError, RuntimeError) as exc`, which notes the error. -/
def orNote {α : Type} (body : Method AutoClient α) (fallback : α) : Method AutoClient α :=
  Coro.tryExcept Exn.isOSOrRuntimeError body fun exc => do
    Coro.modify fun self => { self with
      host := { self.host with lastConnectionError := some exc.text } }
    pure fallback

/-- `FlipperClient.connect()`. -/
def connect : Method AutoClient Bool := do
  let ok ← orNote (onTransport AutoTransport.connect) false
  if ok then do
    Coro.modify fun self => { self with host := FlipperClient.connectedHost self.host }
    pure true
  else pure false

/-- `FlipperClient.disconnect()`. -/
def disconnect : Method AutoClient Unit := do
  orNote (onTransport AutoTransport.disconnect) ()
  Coro.modify fun self => { self with host := FlipperClient.disconnectedHost self.host }

end AutoClient

/-- The calls that connect. -/
inductive ConnectCall
  | ensureConnected
  | connectionReconnect
  deriving DecidableEq

namespace ConnectCall

/-- What a call returns. -/
def Result : ConnectCall → Type
  | ensureConnected => Unit
  | connectionReconnect => Bool

open AutoClient

/-- `ensure_connected(ctx)`, and `flipperzero_connection_reconnect` before it asks for the health
of the connection. -/
def program : (call : ConnectCall) → Method AutoClient call.Result
  | ensureConnected => do
      let alive : Bool ← Coro.tryExcept Exn.isOSOrRuntimeError
        (onTransport AutoTransport.isConnected) fun _ => pure false
      if alive then pure ()
      else do
        disconnect
        if ← connect then pure ()
        else do
          let self ← Coro.get
          .raise (.flipperNotConnectedError
            ((Python.truthy self.host.lastConnectionError).getD "device unavailable"))
  | connectionReconnect => do
      disconnect
      connect

end ConnectCall

/-- What a transport has opened. -/
def SelectedTransport.devices : SelectedTransport → Finset OpenDevice
  | usb self => match self.serial with
    | some serial => {.serial serial}
    | none => ∅
  | wifi self => match self.stream with
    | some stream => {.socket stream}
    | none => ∅

/-- What the active transport has opened. -/
def AutoTransport.devices (self : AutoTransport) : Finset OpenDevice :=
  match self.active with
  | some selected => selected.devices
  | none => ∅

theorem SelectedTransport.card_devices (selected : SelectedTransport) :
    selected.devices.card ≤ 1 := by
  unfold devices
  split
  · split
    · exact (Finset.card_singleton _).le
    · exact Nat.zero_le _
  · split
    · exact (Finset.card_singleton _).le
    · exact Nat.zero_le _

theorem AutoTransport.card_devices (self : AutoTransport) : self.devices.card ≤ 1 := by
  unfold devices
  split
  · exact SelectedTransport.card_devices _
  · exact Nat.zero_le _

section Objects

variable {σ : Type} {P : PortEnv σ} {opened : σ → Finset OpenDevice} (laws : OpensAndCloses P opened)
  {w : σ}

/-- One device at most is open. -/
abbrev OneOpen (opened : σ → Finset OpenDevice) (w : σ) : Prop := (opened w).card ≤ 1

include laws

/-- What opens and closes nothing. -/
theorem OpensAndCloses.wp_perform {T : Type} {self : T} {op : PortOp}
    {post : Except Exn op.Res → T → σ → Prop} (neither : ¬ op.OpensOrCloses)
    (one : OneOpen opened w)
    (answered : ∀ answer w', (P op w).1 = answer → opened w' = opened w → post answer self w') :
    wp P (fun event => OneOpen opened event.world) (Method.perform op) post self w :=
  Coroutine.wp_perform.mpr ⟨one, answered _ _ rfl (laws.others op w neither)⟩

/-- A port is asked whether it is open. -/
theorem OpensAndCloses.wp_isOpen {T : Type} {self : T} {serial : SerialPort}
    {post : Except Exn Bool → T → σ → Prop} (one : OneOpen opened w)
    (answered : ∀ w', opened w' = opened w → post (.ok (decide (.serial serial ∈ opened w))) self w') :
    wp P (fun event => OneOpen opened event.world) (Method.query (.isOpen serial) false) post self
      w := by
  apply wp_bind.mpr
  apply wp_attempt.mpr
  apply laws.wp_perform id one
  intro answer w' known same
  rw [laws.isOpen serial w] at known
  subst known
  exact wp_ret.mpr (answered w' same)

/-- A serial port that is closed. -/
theorem USBTransport.wp_disconnect (self : USBTransport)
    (held : opened w ⊆ (SelectedTransport.usb self).devices) :
    wp P (fun event => OneOpen opened event.world) USBTransport.disconnect
      (fun _ _ w' => opened w' = ∅) self w := by
  have one : OneOpen opened w := (Finset.card_le_card held).trans (SelectedTransport.card_devices _)
  unfold USBTransport.disconnect USBTransport.serialIsOpen
  apply wp_bind.mpr
  apply wp_get.mpr
  apply wp_bind.mpr
  apply wp_bind.mpr
  apply wp_get.mpr
  cases port : self.serial with
  | none =>
      simp only [SelectedTransport.devices, port, Finset.subset_empty] at held
      simp only [port]
      apply wp_ret.mpr
      exact wp_modify.mpr held
  | some serial =>
      simp only [SelectedTransport.devices, port] at held
      simp only [port]
      apply laws.wp_isOpen one
      intro w' same
      by_cases member : OpenDevice.serial serial ∈ opened w
      · have closed : opened (P (.closeSerial serial) w').2 = ∅ := by
          rw [laws.closesSerial, same, Finset.erase_eq_empty_iff]
          exact .inr (Finset.Subset.antisymm held (Finset.singleton_subset_iff.mpr member))
        dsimp only
        rw [if_pos (decide_eq_true member)]
        apply wp_bind.mpr
        apply Coroutine.wp_perform.mpr
        refine ⟨(congrArg Finset.card same).trans_le one, ?_⟩
        cases (P (.closeSerial serial) w').1 with
        | ok value => exact wp_modify.mpr closed
        | error e => exact closed
      · have empty : opened w = ∅ := by
          rcases Finset.subset_singleton_iff.mp held with none_ | whole
          · exact none_
          · exact absurd (whole ▸ Finset.mem_singleton_self _) member
        dsimp only
        rw [if_neg fun asked => member (of_decide_eq_true asked)]
        exact wp_modify.mpr (same.trans empty)

/-- A socket that is closed. -/
theorem WiFiTransport.wp_disconnect (self : WiFiTransport)
    (held : opened w ⊆ (SelectedTransport.wifi self).devices) :
    wp P (fun event => OneOpen opened event.world) WiFiTransport.disconnect
      (fun _ _ w' => opened w' = ∅) self w := by
  have one : OneOpen opened w := (Finset.card_le_card held).trans (SelectedTransport.card_devices _)
  have rest : ∀ (closed : Except Exn Unit) (self : WiFiTransport) (w : σ), opened w = ∅ →
      wp P (fun event => OneOpen opened event.world) (do
        Coro.modify fun self : WiFiTransport => { self with stream := none }
        Coro.ofExcept closed
        Coro.modify fun self => { self with connected := false })
        (fun _ _ w' => opened w' = ∅) self w := by
    intro closed self w empty
    apply wp_bind.mpr
    apply wp_modify.mpr
    apply wp_bind.mpr
    cases closed with
    | ok value => exact wp_ret.mpr (wp_modify.mpr empty)
    | error e => exact wp_raise.mpr empty
  unfold WiFiTransport.disconnect
  apply wp_bind.mpr
  apply wp_get.mpr
  apply wp_bind.mpr
  apply wp_attempt.mpr
  cases socket : self.stream with
  | none =>
      simp only [SelectedTransport.devices, socket, Finset.subset_empty] at held
      exact wp_ret.mpr (rest _ _ _ held)
  | some stream =>
      simp only [SelectedTransport.devices, socket] at held
      have closed : opened (P (.closeStream stream) w).2 = ∅ := by
        rw [laws.closesSocket, Finset.erase_eq_empty_iff]
        exact Finset.subset_singleton_iff.mp held
      apply wp_bind.mpr
      apply Coroutine.wp_perform.mpr
      refine ⟨one, ?_⟩
      cases (P (.closeStream stream) w).1 with
      | error e => exact rest _ _ _ closed
      | ok value =>
          have none_ : OneOpen opened (P (.closeStream stream) w).2 :=
            (congrArg Finset.card closed).trans_le (Nat.zero_le _)
          apply laws.wp_perform id none_
          intro answer w' _ same
          exact rest _ _ _ (same.trans closed)

/-- Whatever was active is closed. -/
theorem AutoTransport.wp_disconnect (self : AutoTransport) (held : opened w ⊆ self.devices) :
    wp P (fun event => OneOpen opened event.world) AutoTransport.disconnect
      (fun _ _ w' => opened w' = ∅) self w := by
  have rest : ∀ (closed : Except Exn Unit) (self : AutoTransport) (w : σ), opened w = ∅ →
      wp P (fun event => OneOpen opened event.world) (do
        Coro.modify fun self : AutoTransport => { self with active := none, connected := false }
        Coro.ofExcept closed)
        (fun _ _ w' => opened w' = ∅) self w := by
    intro closed self w empty
    apply wp_bind.mpr
    apply wp_modify.mpr
    cases closed with
    | ok value => exact wp_ret.mpr empty
    | error e => exact wp_raise.mpr empty
  unfold AutoTransport.disconnect AutoTransport.onActive
  apply wp_bind.mpr
  apply wp_attempt.mpr
  apply wp_bind.mpr
  apply wp_get.mpr
  cases active : self.active with
  | none =>
      simp only [AutoTransport.devices, active, Finset.subset_empty] at held
      simp only [active]
      exact wp_ret.mpr (rest _ _ _ held)
  | some selected =>
      simp only [AutoTransport.devices, active] at held
      simp only [active]
      have whole : self = putActive selected self := by
        unfold putActive
        rw [← active]
      have part : IsPart (fun self : AutoTransport => self.active.getD selected) putActive :=
        ⟨fun _ _ => rfl, fun _ _ _ => rfl⟩
      rw [whole]
      apply wp.zoom part self
      apply wp_bind.mpr
      apply wp_get.mpr
      cases selected with
      | usb usb =>
          have part : IsPart (SelectedTransport.asUsb usb) fun self _ => SelectedTransport.usb self :=
            ⟨fun _ _ => rfl, fun _ _ _ => rfl⟩
          exact wp.zoom part (.usb usb) ((USBTransport.wp_disconnect laws usb held).mono fun _ _ _ empty =>
            rest _ _ _ empty)
      | wifi wifi =>
          have part : IsPart (SelectedTransport.asWifi wifi) fun self _ =>
            SelectedTransport.wifi self := ⟨fun _ _ => rfl, fun _ _ _ => rfl⟩
          exact wp.zoom part (.wifi wifi) ((WiFiTransport.wp_disconnect laws wifi held).mono fun _ _ _ empty =>
            rest _ _ _ empty)

/-- A port is opened, or none is. -/
theorem USBTransport.wp_connect (self : USBTransport) (empty : opened w = ∅) :
    wp P (fun event => OneOpen opened event.world) USBTransport.connect
      (fun result self' w' => (result = .ok true ∧ ∃ serial, self'.serial = some serial ∧
        opened w' = {.serial serial}) ∨ (result ≠ .ok true ∧ opened w' = ∅)) self w := by
  have one : OneOpen opened w := (congrArg Finset.card empty).trans_le (Nat.zero_le _)
  unfold USBTransport.connect
  apply wp_tryExcept.mpr
  apply wp_bind.mpr
  apply wp_get.mpr
  apply wp_bind.mpr
  apply Coroutine.wp_perform.mpr
  refine ⟨one, ?_⟩
  cases answer : (P (.openSerial self.port self.baudrate self.timeout) w).1 with
  | error e =>
      have still := (laws.noSerial _ _ _ w e answer).trans empty
      by_cases caught : e.isOSError = true
      · simp only [caught, ↓reduceIte]
        exact wp_bind.mpr (wp_modify.mpr (wp_ret.mpr (.inr ⟨nofun, still⟩)))
      · simp only [caught, Bool.false_eq_true, ↓reduceIte]
        exact .inr ⟨nofun, still⟩
  | ok serial =>
      obtain ⟨_, added⟩ := laws.serial _ _ _ w serial answer
      rw [empty, insert_empty_eq] at added
      apply wp_bind.mpr
      apply wp_modify.mpr
      apply wp_bind.mpr
      have single : OneOpen opened (P (.openSerial self.port self.baudrate self.timeout) w).2 :=
        (congrArg Finset.card added).trans_le (Finset.card_singleton _).le
      apply laws.wp_perform id single
      intro slept w' known same
      rw [laws.sleeps] at known
      subst known
      apply wp_bind.mpr
      apply wp_modify.mpr
      exact wp_ret.mpr (.inl ⟨rfl, serial, rfl, same.trans added⟩)

/-- The drain opens and closes nothing, and raises nothing. -/
theorem WiFiTransport.wp_drain (self : WiFiTransport) (seconds : Time) (one : OneOpen opened w) :
    wp P (fun event => OneOpen opened event.world) (drainSocketBuffer seconds)
      (fun result self' w' => result = .ok () ∧ self' = self ∧ opened w' = opened w) self w := by
  have loop : ∀ stream passes w, OneOpen opened w →
      wp P (fun event => OneOpen opened event.world) (drainLoop stream passes)
        (fun result self' w' => (∀ e, result = .error e → e.isOSError = true) ∧ self' = self ∧
          opened w' = opened w) self w := by
    intro stream passes
    induction passes with
    | zero => exact fun w _ => wp_ret.mpr ⟨nofun, rfl, rfl⟩
    | succ passes ih =>
        intro w one
        unfold drainLoop readOrNothing
        apply wp_bind.mpr
        apply wp_bind.mpr
        apply wp_get.mpr
        apply wp_tryExcept.mpr
        have chunked : ∀ (chunk : Bytes) (w' : σ), opened w' = opened w →
            wp P (fun event => OneOpen opened event.world)
              (if chunk = [] then (Method.perform (.sleep 0) : Method WiFiTransport Unit)
                else drainLoop stream passes)
              (fun result self' w' => (∀ e, result = .error e → e.isOSError = true) ∧ self' = self ∧
                opened w' = opened w) self w' := by
          intro chunk w' same
          have one' : OneOpen opened w' := (congrArg Finset.card same).trans_le one
          apply wp.ite
          · intro _
            apply laws.wp_perform id one'
            intro slept w'' known later
            rw [laws.sleeps] at known
            exact ⟨fun e raised => (nomatch known.trans raised), rfl, later.trans same⟩
          · intro _
            refine (ih w' one').mono fun result self' w'' reached => ?_
            exact ⟨reached.1, reached.2.1, reached.2.2.trans same⟩
        apply laws.wp_perform id one
        intro answer w' known same
        cases answer with
        | ok chunk => exact chunked chunk w' same
        | error e =>
            by_cases late : e = .timeoutError
            · simp only [late, decide_true, ↓reduceIte]
              exact wp_ret.mpr (chunked [] w' same)
            · simp only [late, decide_false, Bool.false_eq_true, ↓reduceIte]
              refine ⟨fun e' raised => ?_, trivial, same⟩
              exact Except.error.inj raised ▸ laws.reads _ _ _ w e known
  unfold drainSocketBuffer
  apply wp_bind.mpr
  apply wp_get.mpr
  cases socket : self.stream with
  | none =>
      simp only [socket]
      exact wp_ret.mpr ⟨rfl, rfl, rfl⟩
  | some stream =>
      simp only [socket]
      apply wp_tryExcept.mpr
      apply wp_bind.mpr
      apply wp_bind.mpr
      apply wp_attempt.mpr
      apply laws.wp_perform id one
      intro passes w' _ same
      apply wp_ret.mpr
      refine (loop stream _ w' ((congrArg Finset.card same).trans_le one)).mono ?_
      intro result self' w'' ⟨raised, unmoved, later⟩
      cases result with
      | ok value => exact ⟨rfl, unmoved, later.trans same⟩
      | error e =>
          simp only [raised e rfl, ↓reduceIte]
          exact wp_ret.mpr ⟨rfl, unmoved, later.trans same⟩

/-- A socket is opened, or none is. -/
theorem WiFiTransport.wp_connect (self : WiFiTransport) (empty : opened w = ∅) :
    wp P (fun event => OneOpen opened event.world) WiFiTransport.connect
      (fun result self' w' => (result = .ok true ∧ ∃ stream, self'.stream = some stream ∧
        opened w' = {.socket stream}) ∨ (result ≠ .ok true ∧ opened w' = ∅)) self w := by
  have one : OneOpen opened w := (congrArg Finset.card empty).trans_le (Nat.zero_le _)
  unfold WiFiTransport.connect
  apply wp_tryExcept.mpr
  apply wp_bind.mpr
  apply wp_get.mpr
  apply wp_bind.mpr
  apply Coroutine.wp_perform.mpr
  refine ⟨one, ?_⟩
  cases answer : (P (.openConnection self.host self.port self.connectTimeout) w).1 with
  | error e =>
      have still := (laws.noSocket _ _ _ w e answer).trans empty
      by_cases caught : e.isOSError = true
      · simp only [caught, ↓reduceIte]
        exact wp_bind.mpr (wp_modify.mpr (wp_ret.mpr (.inr ⟨nofun, still⟩)))
      · simp only [caught, Bool.false_eq_true, ↓reduceIte]
        exact .inr ⟨nofun, still⟩
  | ok stream =>
      obtain ⟨_, added⟩ := laws.socket _ _ _ w stream answer
      rw [empty, insert_empty_eq] at added
      apply wp_bind.mpr
      apply wp_modify.mpr
      have single : OneOpen opened (P (.openConnection self.host self.port self.connectTimeout) w).2 :=
        (congrArg Finset.card added).trans_le (Finset.card_singleton _).le
      apply wp_bind.mpr
      refine (wp_drain laws _ _ single).mono fun result self' w' ⟨returned, unmoved, same⟩ => ?_
      rw [returned]
      exact wp_ret.mpr (.inl ⟨rfl, stream, unmoved ▸ rfl, same.trans added⟩)

/-- What `connect` does when no serial port opens. -/
def AutoTransport.connectOverWifi (self : AutoTransport) : Method AutoTransport Bool := do
  let (wifiConnected, wifi) ← connectWifi self
  if ← Coro.ofExcept wifiConnected then do
    select (.wifi wifi)
    pure true
  else do
    Coro.modify fun self : AutoTransport => { self with active := none, connected := false }
    pure false

/-- A device is opened and made active, or none is. -/
theorem AutoTransport.wp_connect (self : AutoTransport) (empty : opened w = ∅) :
    wp P (fun event => OneOpen opened event.world) AutoTransport.connect
      (fun _ self' w' => opened w' ⊆ self'.devices) self w := by
  have nothing : ∀ (self' : AutoTransport) w', opened w' = ∅ → opened w' ⊆ self'.devices :=
    fun self' w' empty => empty ▸ Finset.empty_subset _
  have made : wp P (fun event => OneOpen opened event.world)
      (USBTransport.make self.usbConfig : Method AutoTransport USBTransport)
      (fun _ self' w' => self' = self ∧ opened w' = ∅) self w := by
    have one : OneOpen opened w := (congrArg Finset.card empty).trans_le (Nat.zero_le _)
    unfold USBTransport.make
    dsimp only
    cases Python.truthy self.usbConfig.port with
    | some port => exact wp_ret.mpr ⟨rfl, empty⟩
    | none =>
        apply wp_bind.mpr
        apply laws.wp_perform id one
        intro answer w' _ same
        cases answer with
        | ok platform => exact wp_ret.mpr ⟨rfl, same.trans empty⟩
        | error e => exact ⟨rfl, same.trans empty⟩
  have wifiPart : ∀ w, opened w = ∅ → wp P (fun event => OneOpen opened event.world)
      self.connectOverWifi (fun _ self' w' => opened w' ⊆ self'.devices) self w := by
    intro w empty
    unfold AutoTransport.connectOverWifi
    have failed : ∀ w, opened w = ∅ → wp P (fun event => OneOpen opened event.world) (do
        Coro.modify fun self : AutoTransport => { self with active := none, connected := false }
        pure false)
        (fun _ self' w' => opened w' ⊆ self'.devices) self w :=
      fun w empty => wp_bind.mpr (wp_modify.mpr (wp_ret.mpr (nothing _ _ empty)))
    apply wp_bind.mpr
    unfold connectWifi
    apply wp.ite
    · intro _
      apply wp.beyond
      refine (WiFiTransport.wp_connect laws _ empty).mono fun result wifi w' outcome => ?_
      apply wp_bind.mpr
      rcases outcome with ⟨rfl, stream, socket, single⟩ | ⟨other, empty⟩
      · apply wp_ret.mpr
        apply wp_bind.mpr
        apply wp_modify.mpr
        apply wp_ret.mpr
        simp only [AutoTransport.devices, putActive, SelectedTransport.devices, socket, single,
          Finset.Subset.refl]
      · cases result with
        | error e => exact wp_raise.mpr (nothing _ _ empty)
        | ok connected =>
            cases connected with
            | true => exact absurd rfl other
            | false => exact wp_ret.mpr (failed w' empty)
    · intro _
      apply wp_ret.mpr
      apply wp_bind.mpr
      exact wp_ret.mpr (failed w empty)
  unfold AutoTransport.connect
  apply wp_bind.mpr
  apply wp_get.mpr
  apply made.bind
  · intro usb self' w' ⟨unmoved, empty⟩
    subst unmoved
    apply wp_bind.mpr
    apply wp.beyond
    refine (USBTransport.wp_connect laws usb empty).mono fun result usb w' outcome => ?_
    apply wp_bind.mpr
    rcases outcome with ⟨rfl, serial, port, single⟩ | ⟨other, empty⟩
    · apply wp_ret.mpr
      apply wp_bind.mpr
      apply wp_modify.mpr
      apply wp_ret.mpr
      simp only [AutoTransport.devices, putActive, SelectedTransport.devices, port, single,
        Finset.Subset.refl]
    · cases result with
      | error e => exact wp_raise.mpr (nothing _ _ empty)
      | ok connected =>
          cases connected with
          | true => exact absurd rfl other
          | false => exact wp_ret.mpr (wifiPart w' empty)
  · intro e self' w' ⟨_, empty⟩
    exact nothing _ _ empty

theorem USBTransport.wp_isConnected (self : USBTransport) (one : OneOpen opened w) :
    wp P (fun event => OneOpen opened event.world) USBTransport.isConnected
      (fun _ self' w' => self' = self ∧ opened w' = opened w) self w := by
  unfold USBTransport.isConnected
  apply wp_bind.mpr
  apply wp_get.mpr
  apply wp.ite
  · intro _
    unfold serialIsOpen
    apply wp_bind.mpr
    apply wp_get.mpr
    cases port : self.serial with
    | none =>
        simp only [port]
        exact wp_ret.mpr ⟨rfl, rfl⟩
    | some serial =>
        simp only [port]
        exact laws.wp_isOpen one fun w' same => ⟨rfl, same⟩
  · intro _
    exact wp_ret.mpr ⟨rfl, rfl⟩

theorem WiFiTransport.wp_isConnected (self : WiFiTransport) (one : OneOpen opened w) :
    wp P (fun event => OneOpen opened event.world) WiFiTransport.isConnected
      (fun _ self' w' => self' = self ∧ opened w' = opened w) self w := by
  unfold WiFiTransport.isConnected
  apply wp_bind.mpr
  apply wp_get.mpr
  dsimp only
  split
  · apply wp_bind.mpr
    apply wp_bind.mpr
    apply wp_attempt.mpr
    apply laws.wp_perform id one
    intro answer w' _ same
    exact wp_ret.mpr (wp_ret.mpr ⟨rfl, same⟩)
  · exact wp_ret.mpr ⟨rfl, rfl⟩

/-- The liveness check changes nothing. -/
theorem AutoTransport.wp_isConnected (self : AutoTransport) (one : OneOpen opened w) :
    wp P (fun event => OneOpen opened event.world) AutoTransport.isConnected
      (fun _ self' w' => self' = self ∧ opened w' = opened w) self w := by
  unfold AutoTransport.isConnected AutoTransport.onActive
  apply wp.caught _ fun _ _ _ _ same => wp_ret.mpr same
  apply wp_bind.mpr
  apply wp_get.mpr
  cases active : self.active with
  | none =>
      simp only [active]
      exact wp_ret.mpr ⟨rfl, rfl⟩
  | some selected =>
      simp only [active]
      have whole : self = putActive selected self := by
        unfold putActive
        rw [← active]
      have part : IsPart (fun self : AutoTransport => self.active.getD selected) putActive :=
        ⟨fun _ _ => rfl, fun _ _ _ => rfl⟩
      rw [whole]
      apply wp.zoom part self
      apply wp_bind.mpr
      apply wp_get.mpr
      cases selected with
      | usb usb =>
          have part : IsPart (SelectedTransport.asUsb usb) fun self _ => SelectedTransport.usb self :=
            ⟨fun _ _ => rfl, fun _ _ _ => rfl⟩
          refine wp.zoom part (.usb usb) ((USBTransport.wp_isConnected laws usb one).mono ?_)
          intro result usb' w' ⟨unmoved, same⟩
          exact ⟨unmoved ▸ rfl, same⟩
      | wifi wifi =>
          have part : IsPart (SelectedTransport.asWifi wifi) fun self _ =>
            SelectedTransport.wifi self := ⟨fun _ _ => rfl, fun _ _ _ => rfl⟩
          refine wp.zoom part (.wifi wifi) ((WiFiTransport.wp_isConnected laws wifi one).mono ?_)
          intro result wifi' w' ⟨unmoved, same⟩
          exact ⟨unmoved ▸ rfl, same⟩

end Objects

section Calls

variable {σ : Type} {P : PortEnv σ} {opened : σ → Finset OpenDevice} (laws : OpensAndCloses P opened)
  {w : σ}

namespace AutoClient

/-- The transport is a part of the client. -/
theorem isPart_transport :
    IsPart AutoClient.transport fun transport self => { self with transport := transport } :=
  ⟨fun _ _ => rfl, fun _ _ _ => rfl⟩

/-- What holds of the transport and the devices holds where an error is noted. -/
theorem wp_orNote {α : Type} {body : Method AutoTransport α} {fallback : α} {self : AutoClient}
    {kept : AutoTransport → σ → Prop}
    (h : wp P (fun event => OneOpen opened event.world) body (fun _ => kept) self.transport w) :
    wp P (fun event => OneOpen opened event.world) (orNote (onTransport body) fallback)
      (fun _ self' => kept self'.transport) self w :=
  wp.caught (wp.zoom isPart_transport self h) fun _ _ _ _ holds =>
    wp_bind.mpr (wp_modify.mpr (wp_ret.mpr holds))

include laws

theorem wp_connect (self : AutoClient) (empty : opened w = ∅) :
    wp P (fun event => OneOpen opened event.world) connect
      (fun _ self' w' => opened w' ⊆ self'.transport.devices) self w := by
  have noted := @wp_orNote σ P opened w Bool AutoTransport.connect false self _
    (AutoTransport.wp_connect laws self.transport empty)
  apply noted.bind
  · intro ok self' w' held
    apply wp.ite
    · exact fun _ => wp_bind.mpr (wp_modify.mpr (wp_ret.mpr held))
    · exact fun _ => wp_ret.mpr held
  · exact fun e self' w' held => held

theorem wp_disconnect (self : AutoClient) (held : opened w ⊆ self.transport.devices) :
    wp P (fun event => OneOpen opened event.world) disconnect (fun _ _ w' => opened w' = ∅) self
      w := by
  have noted := @wp_orNote σ P opened w Unit AutoTransport.disconnect () self _
    (AutoTransport.wp_disconnect laws self.transport held)
  apply noted.bind
  · exact fun _ self' w' closed => wp_modify.mpr closed
  · exact fun e self' w' closed => closed

end AutoClient

include laws

/-- Alone, a call leaves nothing open that is not active. -/
theorem ConnectCall.wp_program (call : ConnectCall) (self : AutoClient)
    (held : opened w ⊆ self.transport.devices) :
    wp P (fun event => OneOpen opened event.world) call.program
      (fun _ self' w' => opened w' ⊆ self'.transport.devices) self w := by
  have one : OneOpen opened w := (Finset.card_le_card held).trans (AutoTransport.card_devices _)
  have nothing : ∀ (self' : AutoClient) w', opened w' = ∅ → opened w' ⊆ self'.transport.devices :=
    fun self' w' empty => empty ▸ Finset.empty_subset _
  cases call with
  | connectionReconnect =>
      apply (AutoClient.wp_disconnect laws self held).bind
      · exact fun _ self' w' closed => AutoClient.wp_connect laws self' closed
      · exact fun e self' w' closed => nothing self' w' closed
  | ensureConnected =>
      have checked : wp P (fun event => OneOpen opened event.world)
          (Coro.tryExcept Exn.isOSOrRuntimeError
            (AutoClient.onTransport AutoTransport.isConnected) fun _ => pure false)
          (fun _ self' w' => opened w' ⊆ self'.transport.devices) self w := by
        apply wp.caught _ fun _ _ _ _ held => wp_ret.mpr held
        refine wp.zoom AutoClient.isPart_transport self
          ((AutoTransport.wp_isConnected laws self.transport one).mono ?_)
        intro result transport w' ⟨unmoved, same⟩
        dsimp only
        rw [unmoved, same]
        exact held
      apply checked.bind
      · intro alive checked w' held
        apply wp.ite
        · exact fun _ => wp_ret.mpr held
        · intro _
          apply (AutoClient.wp_disconnect laws checked held).bind
          · intro _ closed w' empty
            apply (AutoClient.wp_connect laws closed empty).bind
            · intro ok connected w' held
              apply wp.ite
              · exact fun _ => wp_ret.mpr held
              · exact fun _ => wp_bind.mpr (wp_get.mpr (wp_raise.mpr held))
            · exact fun e connected w' held => held
          · exact fun e closed w' empty => nothing closed w' empty
      · exact fun e checked w' held => held

/-- **One open device at a time.** If each call takes its turns only while no other is under way, at
every moment one device at most is open, and none but that of the active transport while no call is
under way: for any number of calls, and from any state of the connection. -/
theorem ConnectCall.one_open {ι : Type} [DecidableEq ι] (calls : ι → ConnectCall) (self : AutoClient)
    (held : opened w ⊆ self.transport.devices)
    {cfg : Config ι AutoClient portSignature Exn σ fun i => (calls i).Result}
    (reached : Config.Reaches P Config.Alone (.start (fun i => (calls i).program) self w) cfg) :
    (opened cfg.world).card ≤ 1 ∧
      ((∀ i, cfg.Idle i) → opened cfg.world ⊆ cfg.host.transport.devices) := by
  apply reached.serial (OneOpen opened) fun self w => opened w ⊆ self.transport.devices
  · intro i
    cases calls i <;> exact id
  · exact held
  · exact fun i self w held => ConnectCall.wp_program laws (calls i) self held
  · exact fun self w held => (Finset.card_le_card held).trans (AutoTransport.card_devices _)

end Calls

/-- The serial ports that are open. -/
def openPorts (w : List SerialPort) : Finset OpenDevice := (w.map OpenDevice.serial).toFinset

/-- A host whose serial port can be opened any number of times, and no sockets. -/
def serialPorts : PortEnv (List SerialPort) := fun op w => match op with
  | .platform => (.ok (⟨"Linux", [], fun _ => false⟩ : Platform), w)
  | .openSerial _ _ _ => (.ok (w.sum + 1 : ℕ), (w.sum + 1) :: w)
  | .openConnection _ _ _ => (.error .timeoutError, w)
  | .isOpen serial => (.ok (decide (serial ∈ w)), w)
  | .isClosing _ => (.ok false, w)
  | .readSerial _ _ _ | .read _ _ _ => (.ok ([] : List UInt8), w)
  | .closeSerial serial => (.ok (), w.filter fun other => other ≠ serial)
  | .writeSerial _ _ | .write _ _ | .drain _ | .closeStream _ | .waitClosed _
  | .sleep _ | .startTimeout _ | .stopTimeout => (.ok (), w)
  | .monotonic => (.ok (0 : ℚ), w)
  | .deadline _ | .patience => (.ok (1 : ℕ), w)

theorem mem_openPorts {w : List SerialPort} {serial : SerialPort} :
    .serial serial ∈ openPorts w ↔ serial ∈ w := by
  unfold openPorts
  rw [List.mem_toFinset, List.mem_map_of_injective fun _ _ => OpenDevice.serial.inj]

theorem serialPorts_laws : OpensAndCloses serialPorts openPorts where
  serial port baudrate timeout w serial opens := by
    obtain rfl : w.sum + 1 = serial := Except.ok.inj opens
    constructor
    · rw [mem_openPorts]
      intro member
      exact absurd (List.le_sum_of_mem member) (Nat.not_succ_le_self _)
    · exact List.toFinset_cons
  noSerial _ _ _ _ _ raised := nomatch raised
  socket _ _ _ _ _ opens := nomatch opens
  noSocket _ _ _ _ _ _ := rfl
  closesSerial serial w := by
    ext device
    unfold openPorts serialPorts
    cases device <;> simp [and_comm]
  closesSocket stream w := by
    unfold openPorts serialPorts
    exact (Finset.erase_eq_of_notMem (by simp)).symm
  isOpen serial w := congrArg Except.ok (decide_eq_decide.mpr mem_openPorts.symm)
  sleeps _ _ := rfl
  reads _ _ _ _ _ raised := nomatch raised
  others op w neither := by
    cases op <;> first | rfl | exact absurd trivial neither

/-- A client that is not connected. -/
def clientDown : AutoClient where
  host := { transport := .auto "Auto" }
  transport := { usbConfig := { port := some "/dev/ttyACM0" }, wifiConfig := {} }

/-- Two calls that ensure the connection. -/
def ensureTwice (_ : Bool) : ConnectCall := .ensureConnected

/-- The two calls one after the other. -/
theorem ConnectCall.one_open_serial :
    let cfg := ((Config.start (fun i => (ensureTwice i).program) clientDown []).follow serialPorts
      [false, false, false, true, true]).get (by decide +kernel)
    (openPorts cfg.world).card ≤ 1 ∧
      ((∀ i, cfg.Idle i) → openPorts cfg.world ⊆ cfg.host.transport.devices) := by
  have nothing : openPorts [] ⊆ clientDown.transport.devices := Finset.empty_subset _
  apply ConnectCall.one_open serialPorts_laws ensureTwice clientDown nothing
  have first : ∀ {cfg : Config Bool AutoClient portSignature Exn (List SerialPort) fun i =>
      (ensureTwice i).Result}, ¬ Suspended (cfg.tasks true) → cfg.Alone false := by
    intro cfg unbegun j apart
    obtain rfl : j = true := Bool.eq_true_of_not_eq_false apart
    exact .inl unbegun
  have second : ∀ {cfg : Config Bool AutoClient portSignature Exn (List SerialPort) fun i =>
      (ensureTwice i).Result}, (cfg.tasks false).result?.isSome = true → cfg.Alone true := by
    intro cfg ended j apart
    obtain rfl : j = false := Bool.eq_false_of_not_eq_true apart
    exact .inr (Option.isSome_iff_exists.mp ended)
  refine .step true (.step true (.step false (.step false (.step false .refl ?_ rfl) ?_ rfl) ?_ rfl)
    ?_ rfl) ?_ rfl
  · exact first id
  · exact first id
  · exact first id
  · exact second rfl
  · exact second rfl

/-- **Two calls that overlap leave two devices open.** Both find the link down, and each opens the
port; the transport that connects last is active, and the other stays open when both have ended. -/
theorem ConnectCall.two_open :
    let start := Config.start (fun i => (ensureTwice i).program) clientDown []
    let cfg := (start.follow serialPorts [false, false, true, true, false, true]).get
      (by decide +kernel)
    Config.Reaches serialPorts (fun _ _ => True) start cfg ∧ (∀ i, cfg.Idle i) ∧
      openPorts cfg.world = {.serial 1, .serial 2} ∧ cfg.host.transport.devices = {.serial 2} := by
  refine ⟨Config.reaches_of_follow serialPorts _ (Option.some_get _).symm, fun i => .inr ?_, ?_, ?_⟩
  · cases i <;> exact Option.isSome_iff_exists.mp rfl
  · decide +kernel
  · decide +kernel

end FlipperMcp
