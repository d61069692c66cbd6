import FlipperMcp.Coroutine.Linearizability
import FlipperMcp.Rpc.Correlation
import FlipperMcp.Rpc.FileRead
import FlipperMcp.Rpc.ServedMethods

/-! # Concurrent calls of a device

Concurrent tasks that call a device over one session see what they would see if each call were one
step of the device, taken between the beginning of the call and its return
(`RpcCall.calls_linearizable`). That is so on any link that serves the device; one that hands the
device's frames over one by one is `RpcDevice.link`.
-/

namespace FlipperMcp

open Coroutine ProtobufRPC

section Serially

variable {ι τ : Type} [DecidableEq ι] {R : ι → Type}

/-- One more dialogue: what it returns, and the talk after it. -/
def Dialogue.next (dialogues : ∀ i, Dialogue τ (R i)) (held : (∀ i, Option (Except Exn (R i))) × Talk τ)
    (i : ι) : (∀ i, Option (Except Exn (R i))) × Talk τ :=
  (Function.update held.1 i (some (dialogues i held.2).1), (dialogues i held.2).2)

/-- Dialogues held one after another. -/
def Dialogue.serially (dialogues : ∀ i, Dialogue τ (R i)) (order : List ι) (talk : Talk τ) :
    (∀ i, Option (Except Exn (R i))) × Talk τ :=
  order.foldl (Dialogue.next dialogues) (fun _ => none, talk)

theorem Dialogue.serially_concat (dialogues : ∀ i, Dialogue τ (R i)) (order : List ι) (i : ι)
    (talk : Talk τ) : Dialogue.serially dialogues (order ++ [i]) talk =
      Dialogue.next dialogues (Dialogue.serially dialogues order talk) i :=
  List.foldl_concat ..

/-- Coroutines that realise dialogues realise them one after another. -/
theorem Realises.serially {σ : Type} {E : LinkEnv σ} {state : σ → τ} {chunks : σ → List Bytes}
    {object : Handle} {tasks : ∀ i, Link (R i)} {dialogues : ∀ i, Dialogue τ (R i)}
    (realises : ∀ i, Realises E state chunks object (tasks i) (dialogues i)) {talk : Talk τ}
    {s : Host} {w : σ} (sync : InSync state chunks object [] talk s w) (order : List ι) :
    (Coroutine.serially E tasks order s w).results = (Dialogue.serially dialogues order talk).1 ∧
      InSync state chunks object [] (Dialogue.serially dialogues order talk).2
        (Coroutine.serially E tasks order s w).host (Coroutine.serially E tasks order s w).world := by
  induction order using List.reverseRecOn with
  | nil => exact ⟨rfl, sync⟩
  | append_singleton order i ih =>
      obtain ⟨results, sync'⟩ := ih
      obtain ⟨returned, after⟩ := (realises i sync').2
      rw [Coroutine.serially_concat, Dialogue.serially_concat]
      refine ⟨?_, after⟩
      rw [Final.next, returned, results]
      rfl

/-- **Tasks that hold a dialogue each** under the mutex hold them in some order, which respects which
of them ended before another began. -/
theorem Realises.linearizable {σ : Type} {E : LinkEnv σ} {state : σ → τ} {chunks : σ → List Bytes}
    {object : Handle} {tasks : ∀ i, Link (R i)} {dialogues : ∀ i, Dialogue τ (R i)}
    (realises : ∀ i, Realises E state chunks object (tasks i) (dialogues i))
    (locks : ∀ i, Locks (tasks i)) (serial : ∀ i, Serial (fun _ => True) (tasks i)) {talk : Talk τ}
    {s : Host} {w : σ} (sync : InSync state chunks object [] talk s w) {schedule : List ι}
    {cfg : Config ι Host linkSignature Exn σ R}
    (followed : (Config.start tasks s w).follow E schedule = some cfg)
    (ended : ∀ i, (cfg.tasks i).result?.isSome) :
    ∃ order : List ι, order.Nodup ∧ (∀ i, i ∈ order) ∧
      (∀ i j, (Config.start tasks s w).Precedes E schedule i j → List.Sublist [i, j] order) ∧
      let held := Dialogue.serially dialogues order talk
      (∀ i, (cfg.tasks i).result? = held.1 i) ∧
        InSync state chunks object [] held.2 cfg.host cfg.world := by
  obtain ⟨order, nodup, all, final, precedes⟩ :=
    Coroutine.linearizable locks serial trivial followed ended
  obtain ⟨results, after⟩ := Realises.serially realises sync order
  rw [← final] at results after
  exact ⟨order, nodup, all, precedes, congrFun results, after⟩

end Serially

section Link

variable {τ : Type}

/-- A device is served a message, and its frames wait to be received. -/
def RpcDevice.takes (device : RpcDevice τ) (data : Bytes) (w : τ × List Bytes) : τ × List Bytes :=
  match requestIn data with
  | some msg => ((device.serve w.1 msg).1, w.2 ++ (device.serve w.1 msg).2.map framed)
  | none => w

theorem RpcDevice.takes_framed (device : RpcDevice τ) (msg : Main) (w : τ × List Bytes) :
    device.takes (framed msg) w = ((device.serve w.1 msg).1, w.2 ++ (device.serve w.1 msg).2.map framed) := by
  rw [takes, requestIn_framed]

/-- A link to a device, which hands its frames over one by one. -/
def RpcDevice.link (device : RpcDevice τ) : LinkEnv (τ × List Bytes)
  | .send _ data, w => (.ok (), device.takes data w)
  | .receive _, w => (.ok (w.2.headD []), (w.1, w.2.tail))
  | .deadline _, w | .patience, w => (.ok w.2.length, w)
  | .connect, w => (.ok (some TransportFacts.usb), w)
  | .isConnected, w => (.ok true, w)
  | .monotonic, w => (.ok (0 : ℚ), w)
  | .disconnect, w | .sleep _, w | .startTimeout _, w | .stopTimeout, w => (.ok (), w)

theorem RpcDevice.link_serves (device : RpcDevice τ) : Serves device device.link Prod.fst Prod.snd where
  arrivals := {
    receive := fun _ _ => rfl
    received := fun _ _ => rfl
    sleep := fun _ _ => rfl
    slept := fun _ _ => rfl
    deadline := fun _ w => ⟨w.2.length, le_rfl, rfl⟩
    passed := fun _ _ => rfl
    rest := fun op w read => by
      cases op with
      | receive _ | sleep _ | deadline _ => rfl
      | _ => exact read.elim }
  sends _ _ := rfl
  serves msg w := congrArg Prod.fst (device.takes_framed msg w)
  answers msg w := by
    change (device.takes (framed msg) w).2.flatten = _
    rw [device.takes_framed, List.flatten_append, List.flatMap_def]
    rfl
  starts _ _ := ⟨rfl, rfl⟩
  stops _ := ⟨rfl, rfl⟩

end Link

theorem RpcCall.method_locks (pb : Protobuf) (object : Handle) (call : RpcCall) :
    Locks (call.method pb object) :=
  ⟨_, rfl⟩

theorem RpcCall.method_serial (pb : Protobuf) (object : Handle) (call : RpcCall) :
    Serial (fun _ => True) (call.method pb object) := by
  have section_ : Serial (fun _ => True) ((call.body pb object).withLock >>= Coro.ret) :=
    Serial.withLock_bind (call.within pb object) (fun _ _ _ _ => trivial) fun _ => trivial
  rwa [Coro.bind_ret] at section_

/-- **Concurrent calls are linearizable.** A link serves an orderly device, and any number of
concurrent tasks call its methods over one session. However they are interleaved, once all have
returned there is an order of the calls in which each returns what its dialogue with the device
returns behind those before it; the device and the command id are where the dialogues leave them,
and no frame is left unread. A call that returned before another began comes before it. -/
theorem RpcCall.calls_linearizable {ι σ τ : Type} [DecidableEq ι] (pb : Protobuf)
    {device : RpcDevice τ} {E : LinkEnv σ} {state : σ → τ} {chunks : σ → List Bytes}
    (served : Serves device E state chunks) {short : String → Prop} (orderly : device.Orderly short)
    {object : Handle} (calls : ι → RpcCall) (within : ∀ i path, calls i = .storageRead path → short path)
    {talk : Talk τ} {s : Host} {w : σ}
    (sync : InSync state chunks object [] talk s w) {schedule : List ι}
    {cfg : Config ι Host linkSignature Exn σ fun i => (calls i).Result}
    (followed : (Config.start (fun i => (calls i).method pb object) s w).follow E schedule = some cfg)
    (ended : ∀ i, (cfg.tasks i).result?.isSome) :
    ∃ order : List ι, order.Nodup ∧ (∀ i, i ∈ order) ∧
      (∀ i j, (Config.start (fun i => (calls i).method pb object) s w).Precedes E schedule i j →
        List.Sublist [i, j] order) ∧
      let held := Dialogue.serially (fun i => (calls i).dialogue device) order talk
      (∀ i, (cfg.tasks i).result? = held.1 i) ∧
        InSync state chunks object [] held.2 cfg.host cfg.world := by
  have realises : ∀ i, Realises E state chunks object ((calls i).method pb object)
      ((calls i).dialogue device) := fun i => RpcCall.realises served orderly (calls i) (within i)
  exact Realises.linearizable realises (fun i => (calls i).method_locks pb object)
    (fun i => (calls i).method_serial pb object) sync followed ended

section Acknowledging

/-- A frame with some content and no more than a megabyte of it is readable. -/
theorem Main.readable_of_content {frame : Main} (set : frame.content ≠ .unset)
    (small : (Tagged.encode frame.content.fields).length ≤ 999000) : frame.Readable := by
  have code : enumCode frame.commandStatus < 128 ^ (9 + 1) := by
    unfold enumCode
    omega
  have id : (Tagged.encode (Tagged.uint 1 frame.commandId.toNat)).length ≤ 6 :=
    Tagged.length_uint_le (by decide) (frame.commandId.toNat_lt.trans (by decide))
  have status : (Tagged.encode (enumField 2 frame.commandStatus)).length ≤ 11 :=
    Tagged.length_uint_le (by decide) code
  have announced : (Tagged.encode (boolField 3 frame.hasNext)).length ≤ 2 := by
    cases frame.hasNext <;> decide
  refine ⟨Main.serializeToString_ne_nil set, ?_⟩
  unfold Main.serializeToString Main.fields Main.header
  simp only [Tagged.encode_append, List.length_append]
  omega

/-- The acknowledgement of a message: a frame with its id, if it has one. -/
def acknowledgementOf (msg : Main) : List Main :=
  match msg.replies with
  | .silence => []
  | .one | .stream => [{ commandId := msg.commandId, content := .systemPingResponse [] }]

theorem acknowledgementOf_met (msg : Main) : msg.replies.Met (acknowledgementOf msg) := by
  unfold acknowledgementOf
  cases msg.replies with
  | silence => rfl
  | one => exact ⟨_, rfl⟩
  | stream => exact ⟨.last rfl, Nat.le_add_left 1 100⟩

theorem acknowledgementOf_readable {msg frame : Main} (member : frame ∈ acknowledgementOf msg) :
    frame.Readable := by
  unfold acknowledgementOf at member
  cases replies : msg.replies with
  | silence =>
      rw [replies] at member
      exact absurd member List.not_mem_nil
  | one | stream =>
      rw [replies] at member
      obtain rfl := List.mem_singleton.mp member
      apply Main.readable_of_content
      · exact nofun
      · exact show (Tagged.encode (Content.systemPingResponse []).fields).length ≤ 999000 by decide

/-- A device that acknowledges whatever comes, and counts it. -/
def acknowledging : RpcDevice ℕ := ⟨fun count msg => (count + 1, acknowledgementOf msg)⟩

theorem acknowledging_orderly : acknowledging.Orderly fun _ => True :=
  ⟨fun _ msg _ => acknowledgementOf_met msg, fun _ _ _ _ => acknowledgementOf_readable⟩

/-- A directory is made, a file is written and the device asked for a listing. -/
def RpcCall.threeCalls (i : Fin 3) : RpcCall :=
  if i = 0 then .storageMkdir "/ext/a" else if i = 1 then .storageWrite "/ext/a/b" [7] else
    .storageList "/ext" false 0

/-- The file is written first, over the bridge. -/
theorem RpcCall.calls_linearizable_three :
    let start := Config.start (fun i => (RpcCall.threeCalls i).method Protobuf.wire 0)
      { transport := .wifi } ((0 : ℕ), ([] : List Bytes))
    let schedule : List (Fin 3) := List.replicate 8 1 ++ List.replicate 7 0 ++ List.replicate 5 2
    ∃ order : List (Fin 3), order.Nodup ∧ (∀ i, i ∈ order) ∧
      (∀ i j, start.Precedes acknowledging.link schedule i j → List.Sublist [i, j] order) ∧
      let held := Dialogue.serially (fun i => (RpcCall.threeCalls i).dialogue acknowledging) order ⟨0, 0⟩
      let cfg := (start.follow acknowledging.link schedule).get (by decide +kernel)
      (∀ i, (cfg.tasks i).result? = held.1 i) ∧
        InSync Prod.fst Prod.snd 0 [] held.2 cfg.host cfg.world :=
  RpcCall.calls_linearizable Protobuf.wire acknowledging.link_serves acknowledging_orderly
    RpcCall.threeCalls (fun _ _ _ => trivial) ⟨.inr (by decide +kernel), rfl, rfl, rfl⟩
    (Option.some_get _).symm (by decide +kernel)

end Acknowledging

end FlipperMcp
