import FlipperMcp.Rpc.Footprint
import FlipperMcp.Rpc.Handlers

/-! # Reading a file

`storage_read` receives one frame behind its request and returns the data in it, whether or
not the frame announces another. So a file is read whole, with nothing left on the link,
exactly when the device sends it in one frame that `_receive_main_message` accepts
(`storageRead_whole_iff`).
-/

namespace FlipperMcp

open Coroutine

theorem Main.serializeToString_ne_nil {main : Main} (set : main.content ≠ .unset) :
    main.serializeToString ≠ [] := by
  intro empty
  have parsed := Protobuf.wire.parse_serialize main
  rw [empty] at parsed
  obtain rfl : ({} : Main) = main := Option.some.inj parsed
  exact set rfl

namespace ProtobufRPC

/-- The part of an exchange that ends with the request. -/
def ask (pb : Protobuf) (self : Handle) (content : Content) : Link Unit := do
  let commandId ← getNextCommandId self
  ensureRpcSessionStarted pb self
  sendRequest { commandId := commandId, hasNext := false, content := content }

/-- The frames a device answers a read of a file with. -/
structure AnswersRead (frames : List Main) (content : Bytes) : Prop where
  nonempty : frames ≠ []
  ok : ∀ frame ∈ frames, frame.commandStatus = CommandStatus.ok
  read : ∀ frame ∈ frames, ∃ file, frame.content = .storageReadResponse file
  more : ∀ frame ∈ frames.dropLast, frame.hasNext = true
  last : ∀ frame ∈ frames.getLast?, frame.hasNext = false
  whole : (frames.flatMap fun frame => match frame.content with
    | .storageReadResponse file => file.data
    | _ => []) = content

section Run

variable {σ ρ : Type} {E : LinkEnv σ} {chunks : σ → List Bytes} {rest : σ → ρ} (pb : Protobuf)
  (self : Handle)

/-- A handler around a body whose first part ends well. -/
theorem run_guarded_bind {α β : Type} (failure : β) {c : Link α} {k : α → Link β} {value : α}
    {s : Host} {w : σ} (first : (run E c s w).result = .ok value) :
    let o := run E (k value) (run E c s w).host (run E c s w).world
    (run E (guarded failure (c >>= k)) s w).result = orFailure failure o.result ∧
      (run E (guarded failure (c >>= k)) s w).host = o.host ∧
      (run E (guarded failure (c >>= k)) s w).world = o.world := by
  rw [run_guarded, run_bind, first]
  exact ⟨rfl, rfl, rfl⟩

/-- Behind the request an exchange receives one message. -/
theorem run_exchange (content : Content) (timeout : Time) {s : Host} {w : σ}
    (asked : (run E (ask pb self content) s w).result = .ok ()) :
    let o := run E (ask pb self content) s w
    let received := run E (receiveMainMessage pb timeout) o.host o.world
    (run E (exchange pb self content timeout) s w).result = orFailure none received.result ∧
      (run E (exchange pb self content timeout) s w).host = received.host ∧
      (run E (exchange pb self content timeout) s w).world = received.world := by
  have split : exchange pb self content timeout = getNextCommandId self >>= fun commandId =>
      guarded none ((do
        ensureRpcSessionStarted pb self
        sendRequest { commandId := commandId, hasNext := false, content := content }) >>= fun _ =>
          receiveMainMessage pb timeout) := by
    simp only [bind_assoc]
    rfl
  rw [split]
  unfold ask at asked ⊢
  rw [run_bind] at asked ⊢
  rw [run_bind E (getNextCommandId self)]
  cases counted : (run E (getNextCommandId self) s w).result with
  | error e =>
      simp only [counted] at asked
      exact nomatch asked
  | ok commandId =>
      simp only [counted] at asked
      exact run_guarded_bind none asked

/-- One call takes one frame at most. -/
theorem receiveMainMessage_log (arrivals : Arrivals E chunks rest) (timeout : Time) (s : Host)
    (w : σ) :
    let received := run E (receiveMainMessage pb timeout) s w
    received.host.rxLog = s.rxLog ∨ ∃ payload, received.host.rxLog = s.rxLog ++ [payload] ∧
      frontPayload (unread chunks s w) =
        some (payload, unread chunks received.host received.world) := by
  have account : unread chunks s w = ([] ++ s.rxBuffer) ++ arriving chunks w ∧ rest w = rest w :=
    ⟨rfl, rfl⟩
  have quiet : Quiet (fun _ : LinkEvent σ => True) := fun _ _ => trivial
  obtain ⟨-, -, read, ⟨stream, -⟩, found⟩ := wp_receiveMainMessage pb
    (arrivals.ledger (unread chunks s w) (rest w)) quiet timeout [] account
  rw [List.nil_append, List.append_assoc] at stream
  rcases found with ⟨payload, -, logged, front⟩ | ⟨-, logged, -⟩
  · refine .inr ⟨payload, logged, ?_⟩
    rw [stream]
    exact frontPayload_append front _
  · exact .inl logged

theorem frontPayload_sized {stream payload left : Bytes}
    (front : frontPayload stream = some (payload, left)) : payload.length ≤ 1000000 := by
  unfold frontPayload at front
  cases framed : Base128.unframe 5 stream with
  | none =>
      rw [framed] at front
      exact nomatch front
  | some found =>
      rw [framed] at front
      by_cases unfit : found.1 = [] ∨ 1000000 < found.1.length
      · simp only [unfit, ↓reduceIte] at front
        exact nomatch front
      · simp only [unfit, ↓reduceIte] at front
        obtain ⟨rfl, -⟩ := Prod.mk.inj (Option.some.inj front)
        exact Nat.le_of_not_lt (not_or.mp unfit).2

/-- A frame that is there is received and logged. -/
theorem receiveMainMessage_frame (arrivals : Arrivals E chunks rest) (timeout : Time) {frame : Main}
    (set : frame.content ≠ .unset) (sized : frame.serializeToString.length ≤ 1000000) {s : Host}
    {w : σ} (stream : unread chunks s w = framed frame) :
    let received := run E (receiveMainMessage pb timeout) s w
    received.result = .ok (some frame) ∧
      received.host.rxLog = s.rxLog ++ [frame.serializeToString] ∧
      unread chunks received.host received.world = [] := by
  have quiet : Quiet (fun _ : LinkEvent σ => True) := fun _ _ => trivial
  have nonempty := Main.serializeToString_ne_nil set
  have whole : unread chunks s w = delimited frame.serializeToString ++ [] := by
    rw [stream, List.append_nil, framed]
  obtain ⟨-, -, -, returned, after⟩ :=
    wp_receiveMainMessage_frame pb arrivals quiet timeout sized whole
  rw [messageIn_of_ne_nil pb nonempty, pb.parse_serialize] at returned
  refine ⟨returned, ?_, after⟩
  obtain ⟨-, -, read, ⟨stream', -⟩, found⟩ := wp_receiveMainMessage pb
    (arrivals.ledger (unread chunks s w) (rest w)) quiet timeout [] ⟨rfl, rfl⟩
  rcases found with ⟨payload, -, logged, front⟩ | ⟨missing, -⟩
  · have same := frontPayload_append front
      ((run E (receiveMainMessage pb timeout) s w).host.rxBuffer ++
        arriving chunks (run E (receiveMainMessage pb timeout) s w).world)
    rw [List.nil_append, List.append_assoc] at stream'
    rw [← stream', whole, frontPayload_delimited nonempty sized] at same
    obtain ⟨rfl, -⟩ := Prod.mk.inj (Option.some.inj same)
    exact logged
  · exact absurd returned (missing frame)

end Run

/-- What `_storage_read_internal` makes of the answer. -/
def readData (resp : Option Main) : Bytes :=
  (okContent (fun
    | .storageReadResponse file => some file.data
    | _ => none) resp).getD []

theorem storageReadBody_eq (pb : Protobuf) (self : Handle) (path : String) :
    storageReadBody pb self path = timed 3 []
      (exchange pb self (.storageReadRequest path) defaultTimeout >>= fun resp =>
        pure (readData resp)) := rfl

/-- The run of a read behind its request. -/
theorem run_storageRead {σ : Type} {E : LinkEnv σ} (pb : Protobuf) (self : Handle) (path : String)
    {s : Host} {w : σ}
    (asked : (run E (ask pb self (.storageReadRequest path)) s (E (.startTimeout 3) w).2).result =
      .ok ()) :
    let o := run E (ask pb self (.storageReadRequest path)) s (E (.startTimeout 3) w).2
    let received := run E (receiveMainMessage pb defaultTimeout) o.host o.world
    let o' : Outcome Host linkSignature Exn σ Bytes :=
      run E ((RpcCall.storageRead path).method pb self) s w
    o'.result = timedResult [] ((orFailure none received.result).map readData) ∧
      o'.host = received.host ∧ o'.world = (E .stopTimeout received.world).2 := by
  intro o received o'
  have method : o' = run E (storageReadBody pb self path) s w := run_withLock ..
  obtain ⟨returned, host, world⟩ := run_exchange pb self (.storageReadRequest path) defaultTimeout
    asked
  rw [method, storageReadBody_eq]
  obtain ⟨result', host', world'⟩ := @run_timed σ Bytes E 3 []
    (exchange pb self (.storageReadRequest path) defaultTimeout >>= fun resp =>
      pure (readData resp)) s w
  rw [run_bind_pure] at result' host' world'
  rw [result', host', world', returned, host, world]
  exact ⟨rfl, rfl, rfl⟩

/-- **When a file is read whole.** -/
theorem storageRead_whole_iff {σ ρ : Type} {E : LinkEnv σ} {chunks : σ → List Bytes} {rest : σ → ρ}
    (arrivals : Arrivals E chunks rest) (timers : ∀ w, chunks (E .stopTimeout w).2 = chunks w)
    (pb : Protobuf) (self : Handle) (path : String) {frames : List Main} {content : Bytes}
    (answer : AnswersRead frames content) {s : Host} {w : σ}
    (asked : (run E (ask pb self (.storageReadRequest path)) s (E (.startTimeout 3) w).2).result =
      .ok ()) :
    let o := run E (ask pb self (.storageReadRequest path)) s (E (.startTimeout 3) w).2
    let o' : Outcome Host linkSignature Exn σ Bytes :=
      run E ((RpcCall.storageRead path).method pb self) s w
    unread chunks o.host o.world = frames.flatMap framed →
      ((o'.result = .ok content ∧ o'.host.rxLog = o.host.rxLog ++ frames.map Main.serializeToString ∧
          unread chunks o'.host o'.world = []) ↔
        ∃ frame, frames = [frame] ∧ frame.serializeToString.length ≤ 1000000) := by
  intro o o' stream
  obtain ⟨returned, host, world⟩ := run_storageRead pb self path asked
  have left : unread chunks o'.host o'.world = unread chunks
      (run E (receiveMainMessage pb defaultTimeout) o.host o.world).host
      (run E (receiveMainMessage pb defaultTimeout) o.host o.world).world := by
    unfold unread arriving
    rw [host, world, timers]
  rw [left, returned, host]
  constructor
  · rintro ⟨-, logged, -⟩
    rcases receiveMainMessage_log pb arrivals defaultTimeout o.host o.world with
      none_ | ⟨payload, one, front⟩
    · rw [none_] at logged
      exact absurd (List.map_eq_nil_iff.mp (List.self_eq_append_right.mp logged)) answer.nonempty
    · rw [one] at logged
      have single := List.append_cancel_left logged
      obtain ⟨frame, rfl, rfl⟩ := List.map_eq_singleton_iff.mp single.symm
      exact ⟨frame, rfl, frontPayload_sized front⟩
  · rintro ⟨frame, rfl, sized⟩
    have member := List.mem_singleton_self frame
    obtain ⟨file, read⟩ := answer.read frame member
    have set : frame.content ≠ .unset := by
      rw [read]
      exact nofun
    rw [List.flatMap_singleton] at stream
    obtain ⟨received, logged, nothing⟩ :=
      receiveMainMessage_frame pb arrivals defaultTimeout set sized stream
    refine ⟨?_, logged, nothing⟩
    rw [received, ← answer.whole, List.flatMap_singleton, read]
    simp only [orFailure, Except.map, readData, okContent, answer.ok frame member, ↓reduceIte, read,
      Option.getD_some]
    rfl

/-- A frame of a file. -/
def readFrame (data : Bytes) (hasNext : Bool) : Main where
  hasNext := hasNext
  content := .storageReadResponse { data := data }

/-- One frame. -/
theorem storageRead_whole_one :
    (run chunkQueue ((RpcCall.storageRead "/ext/a").method Protobuf.wire 0) sessionUp
      [framed (readFrame [1, 2] false)]).result = .ok ([1, 2] : Bytes) := by
  have answer : AnswersRead [readFrame [1, 2] false] [1, 2] := by
    constructor <;> simp [readFrame]
  have asked : (run chunkQueue (ask Protobuf.wire 0 (.storageReadRequest "/ext/a")) sessionUp
      [framed (readFrame [1, 2] false)]).result = .ok () := by decide +kernel
  exact ((storageRead_whole_iff chunkQueue_arrivals (fun _ => rfl) Protobuf.wire 0 "/ext/a" answer
    asked (by decide +kernel)).mpr ⟨_, rfl, by decide +kernel⟩).1

/-- Two frames: the data of the first is returned as the file. -/
theorem storageRead_cut_short :
    ¬ ∀ (pb : Protobuf) (self : Handle) (path : String) (frames : List Main) (content : Bytes)
        (s : Host) (w : List Bytes), AnswersRead frames content →
      let o := run chunkQueue (ask pb self (.storageReadRequest path)) s w
      let o' : Outcome Host linkSignature Exn (List Bytes) Bytes :=
        run chunkQueue ((RpcCall.storageRead path).method pb self) s w
      o.result = .ok () → unread id o.host o.world = frames.flatMap framed →
        o'.result = .ok content ∧
          o'.host.rxLog = o.host.rxLog ++ frames.map Main.serializeToString ∧
          unread id o'.host o'.world = [] := by
  intro claimed
  have answer : AnswersRead [readFrame [1] true, readFrame [2] false] [1, 2] := by
    constructor <;> simp [readFrame]
  have whole := (claimed Protobuf.wire 0 "/ext/a" _ _ sessionUp
    [framed (readFrame [1] true), framed (readFrame [2] false)] answer
    (by decide +kernel) (by decide +kernel)).1
  have first : (run chunkQueue (storageReadBody Protobuf.wire 0 "/ext/a").withLock sessionUp
      [framed (readFrame [1] true), framed (readFrame [2] false)]).result = .ok [1] := by
    decide +kernel
  exact absurd (Except.ok.inj (first.symm.trans whole)) (by decide)

end ProtobufRPC

end FlipperMcp
