import FlipperMcp.Rpc.Served

/-! # The methods on a served link

Every method asks what its dialogue asks, and returns what it returns (`RpcCall.realises`).
-/

namespace FlipperMcp

open Coroutine ProtobufRPC

theorem listedRest_cons_ok (path : String) {next : Main} (ok : next.commandStatus = CommandStatus.ok)
    (rest : List Main) : listedRest path (next :: rest) = (listedRest path rest).map (next :: ·) := by
  unfold listedRest
  rw [List.find?_cons_of_neg (by simpa only [ne_eq, decide_eq_true_eq, not_not] using ok)]
  cases rest.find? fun frame => frame.commandStatus ≠ CommandStatus.ok <;> rfl

theorem listedRest_cons_bad (path : String) {next : Main} (bad : next.commandStatus ≠ CommandStatus.ok)
    (rest : List Main) : listedRest path (next :: rest) = .error (.flipperProtocolError
      s!"storage_list({path}): status {next.commandStatus.toInt} mid-stream") := by
  unfold listedRest
  rw [List.find?_cons_of_pos (by simpa only [ne_eq, decide_eq_true_eq] using bad)]

section Streams

variable {σ τ : Type} {pb : Protobuf} {device : RpcDevice τ} {E : LinkEnv σ} {state : σ → τ}
  {chunks : σ → List Bytes} {object : Handle} {talk : Talk τ} {s : Host} {w : σ}
  (served : Serves device E state chunks)
include served

/-- **The frames of a stream** are taken in, and none is left. -/
theorem Serves.wp_collectFrames {ι : Type} {absorb : Main → ι → ι × Bool}
    (goesOn : ∀ next info, (absorb next info).2 = true ↔ next.commandStatus = CommandStatus.ok)
    {last : Main} {rest : List Main} (stream : IsStream (last :: rest)) {limit : ℕ}
    (few : rest.length ≤ limit) (readable : ∀ frame ∈ rest, frame.Readable) (info : ι)
    (sync : InSync state chunks object rest talk s w) :
    wp E (fun _ => True) (collectFrames pb absorb limit last info) (fun result s' w' =>
      result = .ok (absorbed absorb rest info) ∧ InSync state chunks object [] talk s' w') s w := by
  induction rest generalizing last limit info s w with
  | nil =>
      cases limit with
      | zero => exact wp_ret.mpr ⟨rfl, sync⟩
      | succ limit =>
          unfold collectFrames
          rw [stream.not_hasNext, if_neg Bool.false_ne_true]
          exact wp_ret.mpr ⟨rfl, sync⟩
  | cons next rest ih =>
      cases limit with
      | zero => exact absurd few (Nat.not_succ_le_zero _)
      | succ limit =>
          obtain ⟨announces, later⟩ := stream.announces
          unfold collectFrames
          rw [announces, if_pos rfl]
          apply (served.wp_receive (readable next (List.mem_cons_self ..)) defaultTimeout sync).bind
          · intro value s₁ w₁ received
            obtain ⟨returned, sync₁⟩ := received
            obtain rfl := Except.ok.inj returned
            by_cases more : (absorb next info).2 = true
            · simp only [absorbed, more, ↓reduceIte]
              exact ih later (Nat.le_of_succ_le_succ few)
                (fun frame member => readable frame (List.mem_cons_of_mem _ member)) _ sync₁
            · have none_left := later.stops (mt (goesOn next info).mpr more)
              subst none_left
              simp only [absorbed, more, Bool.false_eq_true, ↓reduceIte]
              exact wp_ret.mpr ⟨rfl, sync₁⟩
          · exact fun _ _ _ received => absurd received.1 Exn.error_ne_ok

/-- **The rest of a listing.** -/
theorem Serves.wp_storageListRest (path : String) {last : Main} {rest : List Main}
    (stream : IsStream (last :: rest)) {limit : ℕ} (few : rest.length ≤ limit)
    (readable : ∀ frame ∈ rest, frame.Readable) (sync : InSync state chunks object rest talk s w) :
    wp E (fun _ => True) (storageListRest pb path limit last) (fun result s' w' =>
      result = listedRest path rest ∧ InSync state chunks object [] talk s' w') s w := by
  induction rest generalizing last limit s w with
  | nil =>
      unfold storageListRest
      rw [stream.not_hasNext, if_neg Bool.false_ne_true]
      exact wp_ret.mpr ⟨rfl, sync⟩
  | cons next rest ih =>
      obtain ⟨announces, later⟩ := stream.announces
      unfold storageListRest
      rw [announces, if_pos rfl]
      cases limit with
      | zero => exact absurd few (Nat.not_succ_le_zero _)
      | succ limit =>
          apply (served.wp_receive (readable next (List.mem_cons_self ..)) defaultTimeout sync).bind
          · intro value s₁ w₁ received
            obtain ⟨returned, sync₁⟩ := received
            obtain rfl := Except.ok.inj returned
            by_cases ok : next.commandStatus = CommandStatus.ok
            · simp only [ok, ↓reduceIte]
              rw [listedRest_cons_ok path ok]
              apply (ih later (Nat.le_of_succ_le_succ few)
                (fun frame member => readable frame (List.mem_cons_of_mem _ member)) sync₁).bind
              · intro frames s₂ w₂ reached
                rw [← reached.1]
                exact wp_ret.mpr ⟨rfl, reached.2⟩
              · intro error s₂ w₂ reached
                rw [← reached.1]
                exact ⟨rfl, reached.2⟩
            · have none_left := later.stops ok
              subst none_left
              simp only [ok, ↓reduceIte]
              exact wp_raise.mpr ⟨(listedRest_cons_bad path ok []).symm, sync₁⟩
          · exact fun _ _ _ received => absurd received.1 Exn.error_ne_ok

end Streams

section Methods

variable {σ τ : Type} {pb : Protobuf} {device : RpcDevice τ} {E : LinkEnv σ} {state : σ → τ}
  {chunks : σ → List Bytes} {object : Handle} {α β : Type}
  (served : Serves device E state chunks) {short : String → Prop} (orderly : device.Orderly short)
include served orderly

theorem realises_storageListFrames (path : String) (includeMd5 : Bool) (filterMaxSize : ℤ) :
    Realises E state chunks object (storageListFrames pb object path includeMd5 filterMaxSize)
      (Dialogue.list device path includeMd5 filterMaxSize) := by
  apply Realises.commandId.bind
  intro commandId
  apply (Realises.ofExcept (maxSizeCode filterMaxSize)).bind
  intro maxSize talk s w sync
  obtain ⟨first, rest, frames, streamed⟩ := @RpcDevice.Orderly.stream τ device short talk.device
    { commandId := commandId, content := .storageListRequest path includeMd5 maxSize } orderly trivial rfl
  have readable := streamed.readable first (List.mem_cons_self ..)
  have later : ∀ frame ∈ rest, frame.Readable := fun frame member =>
    streamed.readable frame (List.mem_cons_of_mem _ member)
  rw [Dialogue.reading, Dialogue.tell, frames]
  apply (served.wp_sendRpcMessage defaultTimeout sync frames readable).bind
  · intro value s₁ w₁ received
    obtain ⟨returned, sync₁⟩ := received
    obtain rfl := Except.ok.inj returned
    by_cases ok : first.commandStatus = CommandStatus.ok
    · simp only [ok, ↓reduceIte, Except.bind, listed]
      apply (served.wp_storageListRest path streamed.stream streamed.few later sync₁).bind
      · intro frames s₂ w₂ reached
        rw [← reached.1]
        exact wp_ret.mpr ⟨rfl, reached.2⟩
      · intro error s₂ w₂ reached
        rw [← reached.1]
        exact ⟨rfl, reached.2⟩
    · have none_left := streamed.stream.stops ok
      subst none_left
      simp only [ok, ↓reduceIte, Except.bind, listed]
      exact wp_raise.mpr ⟨rfl, sync₁⟩
  · exact fun _ _ _ received => absurd received.1 Exn.error_ne_ok

/-- What is made of the only frame, and then done. -/
theorem realises_answered {msg : Main} (within : msg.content.Within short) (one : msg.replies = .one) (timeout : Time)
    {read : Option Main → Except Exn α} {c : Option Main → Link β} {k : α → Link β}
    {l : α → Dialogue τ β} (body : ∀ frame, c (some frame) = Coro.ofExcept (read (some frame)) >>= k)
    (rest : ∀ value, Realises E state chunks object (k value) (l value)) :
    Realises E state chunks object (sendRpcMessage pb object msg timeout >>= c)
      (((Dialogue.tell device msg).reading fun frames => read frames.head?).andThen l) := by
  intro talk s w sync
  obtain ⟨frame, only, readable⟩ := @RpcDevice.Orderly.one τ device short talk.device msg orderly within one
  have made : (((Dialogue.tell device msg).reading fun frames => read frames.head?) talk).1 =
      read (some frame) := by
    rw [Dialogue.reading, Dialogue.tell, only]
    rfl
  apply (served.wp_sendRpcMessage timeout sync only readable).bind
  · intro value s₁ w₁ received
    obtain ⟨returned, sync₁⟩ := received
    obtain rfl := Except.ok.inj returned
    rw [body, wp_bind, Link.wp_ofExcept]
    cases known : read (some frame) with
    | ok value =>
        rw [Dialogue.andThen_ok (made.trans known)]
        exact rest value sync₁
    | error error =>
        rw [Dialogue.andThen_error (made.trans known)]
        exact ⟨rfl, sync₁⟩
  · exact fun _ _ _ received => absurd received.1 Exn.error_ne_ok

omit served orderly in
theorem Dialogue.andThen_result (dialogue : Dialogue τ α) :
    (dialogue.andThen fun value => .result (.ok value)) = dialogue := by
  funext talk
  cases ended : (dialogue talk).1 with
  | ok value => exact (Dialogue.andThen_ok ended).trans (Prod.ext ended.symm rfl)
  | error error => exact (Dialogue.andThen_error ended).trans (Prod.ext ended.symm rfl)

/-- A request with the next command id, and what is made of its only frame. -/
theorem realises_asked {content : Content}
    (within : content.Within short)
    (one : ∀ commandId, ({ commandId := commandId, content := content } : Main).replies = .one)
    (timeout : Time) {read : Option Main → α} {c : Option Main → Link α}
    (body : ∀ frame, c (some frame) = pure (read (some frame))) :
    Realises E state chunks object (do
      let commandId ← getNextCommandId object
      sendRpcMessage pb object { commandId := commandId, content := content } timeout >>= c)
      (Dialogue.unary device content read) := by
  have asked : Dialogue.unary device content read = Dialogue.commandId.andThen fun commandId =>
      ((Dialogue.tell device { commandId := commandId, content := content }).reading fun frames =>
        .ok (read frames.head?)).andThen fun value => .result (.ok value) := by
    simp only [Dialogue.andThen_result]
    rfl
  rw [asked]
  apply Realises.commandId.bind
  intro commandId
  exact @realises_answered σ τ pb device E state chunks object α α served short orderly _ (by exact within) (one commandId)
    timeout (fun resp => .ok (read resp)) c pure _ body fun value => .pure value

theorem realises_gpioReadBody (pin : ℤ) :
    Realises E state chunks object (gpioReadBody pb object pin) (Dialogue.gpio device pin) := by
  apply Realises.guarded
  apply Realises.commandId.bind
  intro modeId
  apply (Realises.ofExcept (pinCode pin)).bind
  intro code
  apply realises_answered served orderly (by trivial) rfl defaultTimeout
  · exact fun _ => rfl
  intro mode
  cases mode with
  | none => exact .pure none
  | some mode =>
      apply realises_asked served orderly (by trivial) (fun _ => rfl) defaultTimeout
      exact fun _ => rfl

theorem realises_systemUpdateBody (manifestPath : String) :
    Realises E state chunks object (systemUpdateBody pb object manifestPath)
      ((RpcCall.systemUpdate manifestPath).dialogue device) := by
  apply realises_asked served orderly (by trivial) (fun _ => rfl) defaultTimeout
  intro frame
  cases frame with
  | mk commandId status hasNext content => cases content <;> rfl

theorem realises_systemPowerInfoBody :
    Realises E state chunks object (systemPowerInfoBody pb object) (Dialogue.powerInfo device) := by
  apply Realises.timed served
  · intro talk s w sync
    obtain ⟨first, rest, frames, streamed⟩ := @RpcDevice.Orderly.stream τ device short talk.device
      { commandId := UInt32.ofNat ((talk.commandId + 1) % 0xFFFFFFFF), content := .systemPowerInfoRequest }
      orderly trivial rfl
    have asked : (Dialogue.ask device .systemPowerInfoRequest talk).1 = .ok (first :: rest) :=
      congrArg Except.ok frames
    have readable := streamed.readable first (List.mem_cons_self ..)
    rw [Dialogue.powerInfo, Dialogue.reading, asked]
    apply (served.wp_exchange defaultTimeout sync asked readable).bind
    · intro value s₁ w₁ received
      obtain ⟨returned, sync₁⟩ := received
      obtain rfl := Except.ok.inj returned
      by_cases ok : first.commandStatus = CommandStatus.ok
      · simp only [ok, ↓reduceIte, Except.bind]
        refine (served.wp_collectFrames ?_ streamed.stream streamed.few ?_ _ sync₁).bind ?_ ?_
        · intro next info
          by_cases nextOk : next.commandStatus = CommandStatus.ok
          · simp only [nextOk, ↓reduceIte]
          · simp only [nextOk, ↓reduceIte, Bool.false_eq_true]
        · exact fun frame member => streamed.readable frame (List.mem_cons_of_mem _ member)
        · intro info s₂ w₂ collected
          obtain rfl := Except.ok.inj collected.1
          exact wp_ret.mpr ⟨rfl, collected.2⟩
        · exact fun _ _ _ collected => absurd collected.1 Exn.error_ne_ok
      · have none_left := streamed.stream.stops ok
        subst none_left
        simp only [ok, ↓reduceIte, Except.bind]
        exact wp_ret.mpr ⟨rfl, sync₁⟩
    · exact fun _ _ _ received => absurd received.1 Exn.error_ne_ok
  · exact fun talk => ⟨_, rfl⟩

theorem realises_getPropertyInternal (key : String) :
    Realises E state chunks object (getPropertyInternal pb object key) (Dialogue.property device key) :=
  (realises_unary served orderly (by trivial) (fun _ => rfl) defaultTimeout).returning Dialogue.returns_unary

theorem realises_collectProperties (keys : List String) (info : Dict) :
    Realises E state chunks object (collectProperties pb object keys info)
      (Dialogue.properties device keys info) := by
  induction keys generalizing info with
  | nil => exact .pure info
  | cons key keys ih =>
      apply Realises.bind
      · exact (realises_getPropertyInternal served orderly key).returning Dialogue.returns_unary
      · exact fun value => ih _

omit served orderly in
theorem Dialogue.Returns.andThen {first : Dialogue τ α} {rest : α → Dialogue τ β}
    (returns : first.Returns) (then_ : ∀ value, (rest value).Returns) : (first.andThen rest).Returns := by
  intro talk
  obtain ⟨value, returned⟩ := returns talk
  rw [Dialogue.andThen_ok returned]
  exact then_ value _

omit served orderly in
theorem Dialogue.returns_properties (keys : List String) (info : Dict) :
    (Dialogue.properties device keys info).Returns := by
  induction keys generalizing info with
  | nil => exact fun _ => ⟨info, rfl⟩
  | cons key keys ih => exact Dialogue.Returns.andThen Dialogue.returns_unary fun _ => ih _

omit served orderly in
theorem Dialogue.returns_deviceInfo : (Dialogue.deviceInfo device).Returns := by
  apply Dialogue.Returns.andThen
  · exact fun _ => ⟨_, rfl⟩
  · intro info
    by_cases none_ : info.keys = []
    · simp only [none_, ↓reduceIte]
      exact Dialogue.returns_properties propertyKeys info
    · simp only [none_, ↓reduceIte]
      exact fun _ => ⟨info, rfl⟩

/-- The stream of the device info, if it says OK. -/
theorem realises_deviceInfoStream :
    Realises E state chunks object (do
      match ← exchange pb object .systemDeviceInfoRequest defaultTimeout with
      | none => pure ∅
      | some first =>
          if first.commandStatus = CommandStatus.ok then
            collectFrames pb (fun next info =>
              (collectDevice next info, next.commandStatus = CommandStatus.ok))
              100 first (collectDevice first ∅)
          else pure ∅)
      ((Dialogue.ask device .systemDeviceInfoRequest).reading fun frames => .ok <| match frames with
        | [] => ∅
        | first :: rest =>
            if first.commandStatus = CommandStatus.ok then
              absorbed (fun next info => (collectDevice next info, next.commandStatus = CommandStatus.ok))
                rest (collectDevice first ∅)
            else ∅) := by
  intro talk s w sync
  obtain ⟨first, rest, frames, streamed⟩ := @RpcDevice.Orderly.stream τ device short talk.device
    { commandId := UInt32.ofNat ((talk.commandId + 1) % 0xFFFFFFFF), content := .systemDeviceInfoRequest }
    orderly trivial rfl
  have asked : (Dialogue.ask device .systemDeviceInfoRequest talk).1 = .ok (first :: rest) :=
    congrArg Except.ok frames
  have readable := streamed.readable first (List.mem_cons_self ..)
  rw [Dialogue.reading, asked]
  apply (served.wp_exchange defaultTimeout sync asked readable).bind
  · intro value s₁ w₁ received
    obtain ⟨returned, sync₁⟩ := received
    obtain rfl := Except.ok.inj returned
    by_cases ok : first.commandStatus = CommandStatus.ok
    · simp only [ok, ↓reduceIte, Except.bind]
      refine served.wp_collectFrames ?_ streamed.stream streamed.few ?_ _ sync₁
      · exact fun _ _ => decide_eq_true_iff
      · exact fun frame member => streamed.readable frame (List.mem_cons_of_mem _ member)
    · have none_left := streamed.stream.stops ok
      subst none_left
      simp only [ok, ↓reduceIte, Except.bind]
      exact wp_ret.mpr ⟨rfl, sync₁⟩
  · exact fun _ _ _ received => absurd received.1 Exn.error_ne_ok

theorem realises_getDeviceInfoBody :
    Realises E state chunks object (getDeviceInfoBody pb object) (Dialogue.deviceInfo device) := by
  have streamed : Realises E state chunks object (getDeviceInfoInternal pb object)
      (Dialogue.deviceInfo device) := by
    apply Realises.bind
    · exact (realises_deviceInfoStream served orderly).returning fun _ => ⟨_, rfl⟩
    · intro info
      by_cases none_ : info.keys = []
      · simp only [none_, ↓reduceIte]
        exact realises_collectProperties served orderly propertyKeys info
      · simp only [none_, ↓reduceIte]
        exact .pure info
  exact (streamed.waitFor served Dialogue.returns_deviceInfo).returning Dialogue.returns_deviceInfo

/-- **What is not answered.** -/
theorem realises_sendRequest {msg : Main} (within : msg.content.Within short) (silence : msg.replies = .silence) :
    Realises E state chunks object (sendRequest msg)
      ((Dialogue.tell device msg).reading fun _ => .ok ()) := by
  intro talk s w sync
  apply (served.wp_request msg sync).mono
  intro result s' w' sent
  obtain ⟨returned, sync'⟩ := sent
  rw [List.nil_append, orderly.silence within silence] at sync'
  exact ⟨returned, sync'⟩

/-- **The chunks of a file.** -/
theorem realises_writeChunks (commandId : UInt32) (path : String) (parts : List Bytes) :
    Realises E state chunks object (writeChunks pb commandId path parts)
      (Dialogue.chunks device commandId path parts) := by
  induction parts with
  | nil => exact .pure false
  | cons data parts ih =>
      cases parts with
      | nil =>
          intro talk s w sync
          obtain ⟨frame, only, readable⟩ := @RpcDevice.Orderly.one τ device short talk.device
            (writeRequest commandId path data false) orderly trivial rfl
          apply (served.wp_request (writeRequest commandId path data false) sync).bind
          · intro _ s₁ w₁ sent
            have sync₁ := sent.2
            rw [List.nil_append, only] at sync₁
            apply (served.wp_receive readable defaultTimeout sync₁).bind
            · intro value s₂ w₂ received
              obtain ⟨returned, sync₂⟩ := received
              obtain rfl := Except.ok.inj returned
              refine wp_ret.mpr ⟨?_, sync₂⟩
              rw [Dialogue.chunks, Dialogue.reading, Dialogue.tell, only]
              rfl
            · exact fun _ _ _ received => absurd received.1 Exn.error_ne_ok
          · exact fun _ _ _ sent => absurd sent.1 Exn.error_ne_ok
      | cons next parts =>
          have written : Realises E state chunks object
              (sendRequest (writeRequest commandId path data true))
              ((Dialogue.tell device (writeRequest commandId path data true)).reading fun _ => .ok ()) :=
            realises_sendRequest served orderly (by trivial) rfl
          exact written.bind fun _ => (Realises.sleep served _).bind fun _ => ih

omit served orderly in
theorem Dialogue.returns_chunks (commandId : UInt32) (path : String) (parts : List Bytes) :
    (Dialogue.chunks device commandId path parts).Returns := by
  induction parts with
  | nil => exact fun _ => ⟨false, rfl⟩
  | cons data parts ih =>
      cases parts with
      | nil => exact fun _ => ⟨_, rfl⟩
      | cons next parts => exact Dialogue.Returns.andThen (fun _ => ⟨_, rfl⟩) fun _ => ih

/-- **Every method** asks what its dialogue asks, and returns what it returns. -/
theorem RpcCall.realises (call : RpcCall) (within : ∀ path, call = .storageRead path → short path) :
    Realises E state chunks object (call.method pb object) (call.dialogue device) := by
  suffices body : Realises E state chunks object (call.body pb object) (call.dialogue device) from
    fun _ _ _ sync => wp_withLock.mpr (body sync)
  cases call with
  | ping | appLockStatus | appGetError | desktopIsLocked | appStart =>
      exact (realises_unary served orderly (by trivial) (fun _ => rfl) defaultTimeout).returning
        Dialogue.returns_unary
  | storageRead path =>
      exact (realises_unary served orderly (by exact within path rfl) (fun _ => rfl) _).timed served
        Dialogue.returns_unary
  | systemProtobufVersion | systemDatetime | storageInfo | storageStat | storageTimestamp
  | storageMkdir | storageDelete | storageRename | storageMd5sum =>
      exact (realises_unary served orderly (by trivial) (fun _ => rfl) _).timed served Dialogue.returns_unary
  | gpioRead pin => exact realises_gpioReadBody served orderly pin
  | systemPowerInfo => exact realises_systemPowerInfoBody served orderly
  | getDeviceInfo => exact realises_getDeviceInfoBody served orderly
  | getProperty key =>
      exact ((realises_getPropertyInternal served orderly key).waitFor served
        Dialogue.returns_unary).returning Dialogue.returns_unary
  | storageList path includeMd5 filterMaxSize | storageListDetailed path includeMd5 filterMaxSize =>
      exact (realises_storageListFrames served orderly path includeMd5 filterMaxSize).reading
  | systemUpdate manifestPath => exact realises_systemUpdateBody served orderly manifestPath
  | systemRebootUpdate =>
      exact .ensure_bind served (Realises.commandId.bind fun _ => realises_sendRequest served orderly (by trivial) rfl)
  | storageWrite path content =>
      apply Realises.timed served
      · exact .ensure_bind served (Realises.commandId.bind fun commandId =>
          realises_writeChunks served orderly commandId path _)
      · exact Dialogue.Returns.andThen (fun _ => ⟨_, rfl⟩) fun commandId => Dialogue.returns_chunks commandId path _

end Methods

end FlipperMcp
