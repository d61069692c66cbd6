import FlipperMcp.Client.Basic
import FlipperMcp.Coroutine.Serializability
import FlipperMcp.Rpc.Footprint

/-! # Calls of the client

The operations that use the link (`Exchange`): the RPC methods, `cli_exec` and the
two mode switches. Each does everything it awaits, and every change of the shared
state, in one critical section, and reads before it only what no other exchange
changes (`Exchange.serial`). So the exchanges of any number of concurrent tasks run
as if one after another (`Exchange.calls_serializable`).
-/

namespace FlipperMcp

open Coroutine ProtobufRPC FlipperClient

/-- An operation that uses the link. An RPC method is called on some `ProtobufRPC`. -/
inductive Exchange
  | rpc (self : Handle) (call : RpcCall)
  | cliExec (command : String) (timeout : Time) (acceptResponsibility txToolsEnabled : Bool)
  | enterRpc
  | enterCli

namespace Exchange

/-- What an exchange returns. -/
def Result : Exchange → Type
  | rpc _ call => call.Result
  | cliExec _ _ _ _ => CliExecResult
  | enterRpc | enterCli => LinkMode

/-- The program of an exchange. -/
def program (pb : Protobuf) : (exchange : Exchange) → Link exchange.Result
  | rpc self call => call.method pb self
  | cliExec command timeout acceptResponsibility txToolsEnabled =>
      FlipperClient.cliExec command timeout acceptResponsibility txToolsEnabled
  | enterRpc => FlipperClient.enterRpc pb
  | enterCli => FlipperClient.enterCli

end Exchange

/-- What no exchange changes. Without an RPC layer, the mode and the last error stay. -/
structure SameClient (s s' : Host) : Prop where
  transport : s'.transport = s.transport
  rpc : s'.rpc = s.rpc
  mode : s.rpc = none → s'.mode = s.mode
  error : s.rpc = none → s'.lastConnectionError = s.lastConnectionError

theorem SameClient.refl (s : Host) : SameClient s s := ⟨rfl, rfl, fun _ => rfl, fun _ => rfl⟩

/-- An RPC method leaves the client alone. -/
theorem SameClient.of_method {self : Handle} {s a b : Host} (changes : MethodChanges self a b)
    (same : SameClient s a) : SameClient s b := by
  rw [changes.1]
  exact ⟨same.transport, same.rpc, same.mode, same.error⟩

section Bodies

variable (pb : Protobuf)

/-- The footprint of an exchange of a client that has an RPC layer. -/
abbrev ClientWithin (s : Host) {α : Type} (c : Link α) : Prop :=
  @Within Host linkSignature Exn α (fun _ => True)
    (fun a b => SameClient s a → SameClient s b) c

theorem ClientWithin.of_method (s : Host) {self : Handle} {α : Type} {c : Link α}
    (within : MethodWithin self c) : ClientWithin s c :=
  within.mono (fun _ _ => trivial) fun _ _ changes same => same.of_method changes

theorem ClientWithin.of_listens (s : Host) {α : Type} {c : Link α} (listens : Listens c) :
    ClientWithin s c :=
  .of_method s (listens.reads.method 0)

/-- Setting the mode is seen by a client with an RPC layer only. -/
theorem setMode_within {s : Host} {rpc : Handle} (layer : s.rpc = some rpc) (mode : LinkMode) :
    ClientWithin s (Coro.modify fun s => { s with mode := mode }) := by
  apply Within.modify
  intro a same
  exact ⟨same.transport, same.rpc, fun none => (nomatch layer.symm.trans none), same.error⟩

theorem sendStopSession_within (s : Host) (self : Handle) :
    ClientWithin s (sendStopSession self) := by
  apply (Link.within_perform (.send .stopSession (framed stopSession)) trivial).bind
  intro _
  apply (ClientWithin.of_listens s (drainHostRx_listens (2 / 5))).bind
  intro _
  exact ClientWithin.of_method s (setSessionStarted_within self false).method

/-- Reading to the prompt only reads. -/
theorem readUntilPrompt_listens (timeout : Time) : Listens (readUntilPrompt timeout) := by
  have loop : ∀ passes buf, Listens (readUntilPromptLoop passes buf) := by
    intro passes
    induction passes with
    | zero => exact fun buf => .pure _
    | succ passes ih =>
        intro buf
        unfold readUntilPromptLoop
        apply (Link.within_perform (.receive (.atMost cliReadSlice)) trivial).bind
        intro chunk
        split
        · exact .pure _
        · exact ih _
  exact (Link.within_clock (.deadline timeout) trivial).bind fun passes => loop passes []

theorem cliExchange_within {s : Host} {rpc : Handle} (layer : s.rpc = some rpc) (self : Handle)
    (command : String) (timeout : Time) : ClientWithin s (cliExchange self command timeout) := by
  apply (sendStopSession_within s self).bind
  intro _
  apply (setMode_within layer .cli).bind
  intro _
  apply (ClientWithin.of_listens s clearReceiveBuffer_listens).bind
  intro _
  apply (Link.within_perform (.send .cliInterrupt interrupt) trivial).bind
  intro _
  apply (ClientWithin.of_listens s (readUntilPrompt_listens 2)).bind
  intro _
  apply (ClientWithin.of_listens s clearReceiveBuffer_listens).bind
  intro _
  apply (Link.within_perform (.send .cliCommand (encodeText command ++ [0x0D])) trivial).bind
  intro _
  exact (ClientWithin.of_listens s (readUntilPrompt_listens timeout)).bind fun _ => .pure _

theorem enterRpcBody_within {s : Host} {rpc : Handle} (layer : s.rpc = some rpc) :
    ClientWithin s (enterRpcBody pb) := by
  apply (Within.get fun _ same => same).bind
  intro s'
  split
  · exact .raise _
  · next current _ =>
    apply (ClientWithin.of_method s (ensureRpcSessionStarted_within pb current).method).bind
    intro _
    exact setMode_within layer .rpc

theorem enterCliBody_within {s : Host} {rpc : Handle} (layer : s.rpc = some rpc) :
    ClientWithin s enterCliBody := by
  apply (Within.get fun _ same => same).bind
  intro s'
  split
  · exact .raise _
  · next current _ =>
    apply (sendStopSession_within s current).bind
    intro _
    exact setMode_within layer .cli

end Bodies

section Connecting

/-- The transport is disconnected or connected. -/
def LinkOp.IsReconnect : LinkOp → Prop
  | connect | disconnect => True
  | _ => False

/-- The footprint of connecting and disconnecting. -/
abbrev ReconnectWithin {α : Type} (c : Link α) : Prop :=
  @Within Host linkSignature Exn α LinkOp.IsReconnect (fun s s' => s'.infoLog = s.infoLog) c

theorem modify_within (update : Host → Host) (kept : ∀ s, (update s).infoLog = s.infoLog) :
    ReconnectWithin (Coro.modify update) :=
  .modify kept

theorem orNote_within {α : Type} {body : Link α} {failure : α} (tried : ReconnectWithin body) :
    ReconnectWithin (orNote body failure) := by
  apply tried.tryExcept
  intro exc
  exact (modify_within _ fun _ => rfl).bind fun _ => .pure failure

theorem connectTransport_within : ReconnectWithin connectTransport := by
  apply (Link.within_perform .connect trivial).bind
  intro answer
  cases answer with
  | none => exact .pure false
  | some facts => exact (modify_within _ fun _ => rfl).bind fun _ => .pure true

theorem connect_within : ReconnectWithin connect := by
  apply (orNote_within connectTransport_within).bind
  intro ok
  split
  · exact (modify_within _ fun _ => rfl).bind fun _ => .pure true
  · exact .pure false

theorem disconnectTransport_within : ReconnectWithin disconnectTransport := by
  apply (Link.within_perform .disconnect trivial).attempt.bind
  intro closed
  exact (modify_within _ fun _ => rfl).bind fun _ => Link.within_ofExcept closed

theorem disconnect_within : ReconnectWithin disconnect :=
  (orNote_within disconnectTransport_within).bind fun _ => modify_within _ fun _ => rfl

end Connecting

/-- A mode switch has one critical section. -/
theorem switchMode_serial (s : Host) (body : Link Unit)
    (within : ∀ rpc, s.rpc = some rpc → ClientWithin s body) :
    Serial (SameClient s) (switchMode body) := by
  apply Serial.get_bind
  · intro a b same same'
    cases layer : s.rpc with
    | none =>
        simp only [same.rpc.trans layer, same'.rpc.trans layer, same.mode layer, same'.mode layer]
    | some rpc => simp only [same.rpc.trans layer, same'.rpc.trans layer]
  · intro a same
    cases layer : s.rpc with
    | none =>
        simp only [same.rpc.trans layer]
        exact trivial
    | some rpc =>
        simp only [same.rpc.trans layer]
        apply Serial.withLock_bind (within rpc layer) fun _ _ keeps => keeps
        exact fun _ => ⟨fun _ same => same, fun _ => trivial⟩

theorem cliExec_serial (s : Host) (command : String) (timeout : Time)
    (acceptResponsibility txToolsEnabled : Bool) :
    Serial (SameClient s) (cliExec command timeout acceptResponsibility txToolsEnabled) := by
  apply Serial.get_bind
  · intro a b same same'
    cases layer : s.rpc with
    | none =>
        simp only [same.rpc.trans layer, same'.rpc.trans layer, same.error layer,
          same'.error layer]
    | some rpc =>
        simp only [same.rpc.trans layer, same'.rpc.trans layer, same.transport, same'.transport]
  · intro a same
    cases layer : s.rpc with
    | none =>
        simp only [same.rpc.trans layer]
        exact trivial
    | some rpc =>
        simp only [same.rpc.trans layer]
        split
        · trivial
        · cases checkCommand command acceptResponsibility txToolsEnabled with
          | error refusal => trivial
          | ok risk =>
              apply Serial.withLock_bind (cliExchange_within layer rpc command timeout)
                fun _ _ keeps => keeps
              exact fun _ => trivial

/-- **Every exchange has one critical section.** -/
theorem Exchange.serial (pb : Protobuf) (s : Host) (exchange : Exchange) :
    Serial (SameClient s) (exchange.program pb) := by
  cases exchange with
  | rpc self call =>
      have section_ : Serial (SameClient s) ((call.body pb self).withLock >>= Coro.ret) :=
        Serial.withLock_bind (ClientWithin.of_method s (call.within pb self))
          (fun _ _ keeps => keeps) fun _ => trivial
      rwa [Coro.bind_ret] at section_
  | cliExec command timeout acceptResponsibility txToolsEnabled =>
      exact cliExec_serial s command timeout acceptResponsibility txToolsEnabled
  | enterRpc => exact switchMode_serial s _ fun _ layer => enterRpcBody_within pb layer
  | enterCli => exact switchMode_serial s _ fun _ layer => enterCliBody_within layer

/-- **The shared link is serializable.** However the exchanges of concurrent tasks are
interleaved, once all have ended, their results, the state of the client and of its
`ProtobufRPC` objects, the state of the device and the trace of the link are those of
the same exchanges made one after another in some order. -/
theorem Exchange.calls_serializable {ι σ : Type} [Fintype ι] [DecidableEq ι] (pb : Protobuf)
    (exchanges : ι → Exchange) (E : LinkEnv σ) (s : Host) (w : σ) (schedule : List ι)
    {cfg : Config ι Host linkSignature Exn σ fun i => (exchanges i).Result}
    (followed : (Config.start (fun i => (exchanges i).program pb) s w).follow E schedule =
      some cfg)
    (ended : ∀ i, (cfg.tasks i).result?.isSome) :
    ∃ order : List ι, order.Nodup ∧ (∀ i, i ∈ order) ∧
      cfg.final = serially E (fun i => (exchanges i).program pb) order s w :=
  serializable (fun i => (exchanges i).serial pb s) (.refl s)
    (Config.reaches_of_follow E schedule followed) ended

/-- A switch to RPC mode and a ping. -/
def Exchange.switchAndPing (first : Bool) : Exchange := if first then .enterRpc else .rpc 0 (.ping [1])

/-- The switch begins first, but the ping gets the lock. -/
theorem Exchange.calls_serializable_switchAndPing :
    ∃ order : List Bool, order.Nodup ∧ (∀ i, i ∈ order) ∧
      (((Config.start (fun i => (switchAndPing i).program Protobuf.wire)
          { transport := .wifi, rpc := some 0 } []).follow chunkQueue
        [true, false, false, false, false, true]).get (by decide +kernel)).final =
      serially chunkQueue (fun i => (switchAndPing i).program Protobuf.wire) order
        { transport := .wifi, rpc := some 0 } [] :=
  Exchange.calls_serializable Protobuf.wire switchAndPing chunkQueue
    { transport := .wifi, rpc := some 0 } [] [true, false, false, false, false, true]
    (Option.some_get _).symm (by decide +kernel)

end FlipperMcp
