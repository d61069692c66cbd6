import FlipperMcp.Kernel.Descriptors

/-! # The TCP server of the bridge

One accept task takes clients over, and each client has a receive task of its own. The
shared variables are used in critical sections only, each of which is one step here, as is
each call outside them. Clients are numbered in the order of `accept`.
-/

namespace FlipperMcp

open Kernel

namespace TcpServer

/-- A receive task: its arguments, and whether it has left its loop. -/
structure RxTask where
  sock : ℤ
  gen : UInt32
  leaving : Bool

/-- Where the accept task stands. -/
inductive Accepting
  /-- In `accept`. -/
  | waiting
  /-- In front of the critical section that takes the client over. -/
  | accepted (newSock : ℤ) (client : ℕ)
  /-- In front of the start of the receive task. -/
  | taken (newSock : ℤ) (client : ℕ) (gen : UInt32)

/-- The variables of the server, its tasks, and the descriptors. -/
structure State where
  sClientSock : ℤ
  sClientGeneration : UInt32
  accepting : Accepting
  /-- The receive task of a client, while it runs. -/
  rxTask : ℕ → Option RxTask
  table : Table
  /-- The client `s_client_sock` was last set for. -/
  latest : Option ℕ

/-- The server once it listens. -/
def init : State := ⟨-1, 0, .waiting, fun _ => none, .empty, none⟩

/-- `close(s_client_sock)`, for a client, with `s_client_sock = -1`. -/
def closeClient (client : ℕ) (s : State) : State :=
  { s with table := s.table.close s.sClientSock client, sClientSock := -1 }

/-- The critical section in which `accept_task` takes a client over. -/
def takeOver (newSock : ℤ) (client : ℕ) (s : State) : State :=
  let s := if 0 ≤ s.sClientSock then closeClient (s.latest.getD client) s else s
  let s := { s with
    sClientSock := newSock
    sClientGeneration := s.sClientGeneration + 1
    latest := some client }
  { s with accepting := .taken newSock client s.sClientGeneration }

/-- The critical section after a receive task could not be created. -/
def discard (newSock : ℤ) (client : ℕ) (s : State) : State :=
  let s := if s.sClientSock = newSock then closeClient client s
    else { s with table := s.table.close newSock client }
  { s with accepting := .waiting }

/-- The receive task is created. -/
def startRx (newSock : ℤ) (client : ℕ) (gen : UInt32) (s : State) : State :=
  { s with rxTask := Function.update s.rxTask client (some ⟨newSock, gen, false⟩), accepting := .waiting }

/-- One call of `recv`, after which the task goes on or leaves its loop. -/
def receive (client : ℕ) (task : RxTask) (leaves : Bool) (s : State) : State :=
  { s with
    table := s.table.receive task.sock client
    rxTask := Function.update s.rxTask client (some { task with leaving := leaves }) }

/-- The critical section at the end of a receive task. -/
def cleanUp (client : ℕ) (task : RxTask) (s : State) : State :=
  let s := if s.sClientSock = task.sock ∧ s.sClientGeneration = task.gen then closeClient client s
    else { s with table := s.table.close task.sock client }
  { s with rxTask := Function.update s.rxTask client none }

/-- What the tasks do, in any order. -/
inductive Action
  | accept (newSock : ℤ)
  | takeOver
  | discard
  | startRx
  | receive (client : ℕ) (leaves : Bool)
  | cleanUp (client : ℕ)

/-- One step of a task. `accept` returns any descriptor that is free; a failed `accept`
changes nothing. -/
inductive Step : State → Action → State → Prop
  | accept {s : State} {newSock : ℤ} (waits : s.accepting = .waiting) (valid : 0 ≤ newSock)
      (free : s.table.owner newSock = none) :
      Step s (.accept newSock)
        { s with table := s.table.allot newSock, accepting := .accepted newSock s.table.opened }
  | takeOver {s : State} {newSock : ℤ} {client : ℕ} (stands : s.accepting = .accepted newSock client) :
      Step s .takeOver (takeOver newSock client s)
  | discard {s : State} {newSock : ℤ} {client : ℕ} {gen : UInt32}
      (stands : s.accepting = .taken newSock client gen) : Step s .discard (discard newSock client s)
  | startRx {s : State} {newSock : ℤ} {client : ℕ} {gen : UInt32}
      (stands : s.accepting = .taken newSock client gen) : Step s .startRx (startRx newSock client gen s)
  | receive {s : State} {client : ℕ} {task : RxTask} (leaves : Bool) (runs : s.rxTask client = some task)
      (inside : task.leaving = false) : Step s (.receive client leaves) (receive client task leaves s)
  | cleanUp {s : State} {client : ℕ} {task : RxTask} (runs : s.rxTask client = some task)
      (left : task.leaving = true) : Step s (.cleanUp client) (cleanUp client task s)

/-- The states reached when each step is one of those allowed. -/
inductive Reached (allowed : State → Action → Prop) : State → Prop
  | init : Reached allowed init
  | step {s s' : State} {action : Action} (earlier : Reached allowed s) (ok : allowed s action)
      (step : Step s action s') : Reached allowed s'

/-- No task is at work for a client. -/
def Done (s : State) (client : ℕ) : Prop :=
  s.rxTask client = none ∧ (∀ sock, s.accepting ≠ .accepted sock client) ∧
    ∀ sock gen, s.accepting ≠ .taken sock client gen

/-- **Socket ownership.** A client is closed once, by the time its tasks are done with it;
each use of a descriptor is for the client it belongs to; and `s_client_sock` is open and
the last client's, or that of the client before while a new one is not taken over. -/
structure SocketsOwned (s : State) : Prop where
  once : ∀ client < s.table.opened,
    s.table.closings client ≤ 1 ∧ (Done s client → s.table.closings client = 1)
  apart : s.table.Apart
  current : 0 ≤ s.sClientSock → ∃ client, s.table.owner s.sClientSock = some client ∧
    (client + 1 = s.table.opened ∨
      ∃ newSock, s.accepting = .accepted newSock (client + 1) ∧ client + 2 = s.table.opened)

end TcpServer

end FlipperMcp
