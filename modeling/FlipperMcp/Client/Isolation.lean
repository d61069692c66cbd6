import FlipperMcp.Client.Calls
import FlipperMcp.Coroutine.Isolation

/-! # Reconnecting beside the exchanges

A reconnect (`disconnect`, then `connect`) replaces the `ProtobufRPC` and resets the
client without taking the lock. When every disconnect and connect of the transport
happens while the lock is free, no exchange spans it, and what an operation writes
about the connection it writes while that connection is the current one
(`ClientCall.isolated_of_free`). When one happens while the lock is held, an exchange
begun on the old connection goes on over the new one
(`ClientCall.exchange_spans_reconnect`).
-/

namespace FlipperMcp

open Coroutine ProtobufRPC FlipperClient

/-- A call a task makes. -/
inductive ClientCall
  | exchange (operation : Exchange)
  | checkSdCardAvailable
  | reconnect

namespace ClientCall

/-- What a call returns. -/
def Result : ClientCall → Type
  | exchange operation => operation.Result
  | checkSdCardAvailable | reconnect => Bool

/-- The program of a call. -/
def program (pb : Protobuf) : (call : ClientCall) → Link call.Result
  | exchange operation => operation.program pb
  | checkSdCardAvailable => FlipperClient.checkSdCardAvailable pb
  | reconnect => FlipperClient.reconnect

/-- A call that is not a reconnect. -/
def IsOperation : ClientCall → Prop
  | exchange _ | checkSdCardAvailable => True
  | reconnect => False

end ClientCall

/-- Bytes are sent or received. -/
def LinkOp.IsTransfer : LinkOp → Prop
  | send _ _ | receive _ => True
  | _ => False

/-- What the client says about the connection: the link mode, the session flags and
the cached answer about the SD card. -/
def Host.description (s : Host) : LinkMode × (Handle → Bool) × Option Bool :=
  (s.mode, fun object => (s.objects object).rpcSessionStarted, s.sdCardAvailable)

section Sections

theorem switchMode_sectioned (body : Link Unit)
    (within : ∀ s rpc, s.rpc = some rpc → ClientWithin s body) :
    Sectioned (switchMode body) := by
  apply Sectioned.get_bind
  intro s
  cases layer : s.rpc with
  | none => exact trivial
  | some rpc =>
      simp only
      apply (Sectioned.withLock (within s rpc layer)).bind
      exact fun _ => ⟨fun _ _ => trivial, fun _ => trivial⟩

theorem cliExec_sectioned (command : String) (timeout : Time)
    (acceptResponsibility txToolsEnabled : Bool) :
    Sectioned (cliExec command timeout acceptResponsibility txToolsEnabled) := by
  apply Sectioned.get_bind
  intro s
  cases layer : s.rpc with
  | none => exact trivial
  | some rpc =>
      simp only
      split
      · trivial
      · cases checkCommand command acceptResponsibility txToolsEnabled with
        | error refusal => trivial
        | ok risk =>
            apply (Sectioned.withLock (cliExchange_within layer rpc command timeout)).bind
            exact fun _ => trivial

theorem method_sectioned (pb : Protobuf) (self : Handle) (call : RpcCall) :
    Sectioned (call.method pb self) :=
  .withLock (call.within pb self)

/-- The cached answer is written in the step that ends the question. -/
theorem checkSdCardAvailable_sectioned (pb : Protobuf) :
    Sectioned (FlipperClient.checkSdCardAvailable pb) := by
  have cached : ∀ available, Finishing (fun _ => True) (do
      Coro.modify fun s : Host => { s with sdCardAvailable := some available }
      pure available : Link Bool) :=
    fun _ => ⟨fun _ _ => trivial, fun _ => trivial⟩
  apply Sectioned.get_bind
  intro s
  cases s.sdCardAvailable with
  | some available => exact trivial
  | none =>
      cases s.rpc with
      | none => exact fun _ => trivial
      | some rpc =>
          simp only
          have asked : Sectioned (askSdCard pb rpc) := by
            apply Sectioned.tryExcept
            · exact (method_sectioned pb rpc (.storageInfo "/ext")).bind fun _ => trivial
            · exact fun _ => ⟨fun _ _ => trivial, fun _ => trivial⟩
          exact asked.bind cached

theorem Exchange.sectioned (pb : Protobuf) (exchange : Exchange) :
    Sectioned (exchange.program pb) := by
  cases exchange with
  | rpc self call => exact method_sectioned pb self call
  | cliExec command timeout acceptResponsibility txToolsEnabled =>
      exact cliExec_sectioned command timeout acceptResponsibility txToolsEnabled
  | enterRpc => exact switchMode_sectioned _ fun _ _ layer => enterRpcBody_within pb layer
  | enterCli => exact switchMode_sectioned _ fun _ _ layer => enterCliBody_within layer

theorem ClientCall.sectioned (pb : Protobuf) (call : ClientCall) (operation : call.IsOperation) :
    Sectioned (call.program pb) := by
  cases call with
  | exchange made => exact made.sectioned pb
  | checkSdCardAvailable => exact checkSdCardAvailable_sectioned pb
  | reconnect => exact operation.elim

/-- A reconnect never touches the lock. -/
theorem reconnect_unlocked :
    @Within Host linkSignature Exn _ (fun _ => True) (fun _ _ => True) reconnect :=
  (disconnect_within.bind fun _ => connect_within).mono (fun _ _ => trivial) fun _ _ _ => trivial

end Sections

section Runs

variable {ι σ : Type} [DecidableEq ι]

/-- **Reconnect isolation.** The transport is neither disconnected nor connected between
two transfers of one operation. When an operation changes what the client says about
the connection, it is still the connection of its first answer. -/
structure ReconnectIsolated (calls : ι → ClientCall) (E : LinkEnv σ)
    (cfg : Config ι Host linkSignature Exn σ fun i => (calls i).Result) : Prop where
  transfers : ∀ i, (calls i).IsOperation → ∀ before first between last after,
    cfg.trace = before ++ (i, first) :: (between ++ (i, last) :: after) →
    LinkOp.IsTransfer first.op → LinkOp.IsTransfer last.op →
      ∀ later ∈ between, ¬ LinkOp.IsReconnect later.2.op
  writes : ∀ i next, (calls i).IsOperation → cfg.step E i = some next →
    next.host.description ≠ cfg.host.description →
      Uninterrupted LinkOp.IsReconnect i cfg.trace

/-- **Reconnecting while the lock is free isolates.** -/
theorem ClientCall.isolated_of_free (pb : Protobuf) (calls : ι → ClientCall) (E : LinkEnv σ)
    (s : Host) (w : σ) {cfg : Config ι Host linkSignature Exn σ fun i => (calls i).Result}
    (reached : Config.Reaches E (Config.Undisturbed LinkOp.IsReconnect)
      (.start (fun i => (calls i).program pb) s w) cfg) : ReconnectIsolated calls E cfg := by
  have phases : Phases LinkOp.IsReconnect (fun i => (calls i).IsOperation) cfg := by
    apply reached.phases
    · exact fun i operation => (calls i).sectioned pb operation
    · intro i other
      cases call : calls i with
      | exchange _ | checkSdCardAvailable =>
          rw [call] at other
          exact absurd trivial other
      | reconnect => exact reconnect_unlocked
  constructor
  · intro i operation before first between last after split _ _
    exact (phases.sectioned i operation).isolated before first between last after split
  · exact fun i next operation turn _ => (phases.sectioned i operation).uninterrupted turn

end Runs

/-- A ping and a reconnect. -/
def ClientCall.pingAndReconnect (first : Bool) : ClientCall :=
  if first then .exchange (.rpc 0 (.ping [1])) else .reconnect

/-- A client whose RPC session is up. -/
def startedClient : Host where
  transport := .usb
  objects := fun _ => { rpcSessionStarted := true }
  fresh := 1
  rpc := some 0
  connected := true

/-- The reconnect comes first, and the ping is sent over the new connection. -/
theorem ClientCall.isolated_of_free_reconnected :
    ReconnectIsolated pingAndReconnect chunkQueue (((Config.start (fun i =>
      (pingAndReconnect i).program Protobuf.wire) startedClient [[0]]).follow chunkQueue
        [false, false, true, true]).get (by decide +kernel)) := by
  apply ClientCall.isolated_of_free Protobuf.wire pingAndReconnect chunkQueue startedClient [[0]]
  have free : ∀ {cfg : Config Bool Host linkSignature Exn (List Bytes) fun i =>
      (pingAndReconnect i).Result} {i}, cfg.holder = none →
        cfg.Undisturbed LinkOp.IsReconnect i := fun free _ _ _ _ => free
  refine .step true (.step true (.step false (.step false .refl ?_ rfl) ?_ rfl) ?_ rfl) ?_ rfl
  · exact free rfl
  · exact free rfl
  · exact free rfl
  · intro op next task interrupts
    injection task with same
    rw [← same] at interrupts
    exact interrupts.elim

/-- The ping has been sent when the reconnect begins, and its answer is awaited over the
new connection. -/
theorem ClientCall.exchange_spans_reconnect :
    ¬ ∀ (pb : Protobuf) (calls : Bool → ClientCall) (E : LinkEnv (List Bytes)) (s : Host)
        (w : List Bytes) (cfg : Config Bool Host linkSignature Exn (List Bytes) fun i =>
          (calls i).Result),
        Config.Reaches E (fun _ _ => True) (.start (fun i => (calls i).program pb) s w) cfg →
          ReconnectIsolated calls E cfg := by
  intro claimed
  have followed := claimed Protobuf.wire pingAndReconnect chunkQueue startedClient [[0]]
    (((Config.start (fun i => (pingAndReconnect i).program Protobuf.wire) startedClient
      [[0]]).follow chunkQueue [true, true, false, false, true, true]).get (by decide +kernel))
    (Config.reaches_of_follow chunkQueue _ (Option.some_get _).symm)
  have split := followed.transfers true trivial [] _ [_, _, _] _ [] rfl trivial trivial
  exact split _ (List.mem_cons_self ..) trivial

end FlipperMcp
