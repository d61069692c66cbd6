import FlipperMcp.Bridge.Expansion
import FlipperMcp.Coroutine.Ghost

/-! # A journal of the bridge

The receive task is given a journal in which it enters what it has read, each frame it hands
to `process_frame`, each byte it skips, and each expiry of the watchdog; and so are the calls
that connect and disconnect. The journal is a ghost (`ghosts_uartRxTask`, `ghosts_makeCalls`).
-/

namespace FlipperMcp

open Coroutine

/-- An entry of the journal. -/
inductive Entry
  /-- `uart_read_bytes` has returned these bytes. -/
  | read (bytes : List UInt8)
  /-- These bytes are handed to `process_frame`. -/
  | frame (bytes : List UInt8)
  /-- This byte is dropped. -/
  | skipped (byte : UInt8)
  /-- The watchdog has expired. -/
  | expired
  /-- `expansion_connect` has set the state it connects in. -/
  | connected
  /-- `expansion_disconnect` has reset the state. -/
  | dropped
  /-- `expansion_disconnect` has set the initial rate and returns; so many connections had been
  begun when it reset the state. -/
  | disconnected (connections : ℕ)
  deriving DecidableEq

/-- A task of the bridge that keeps a journal. -/
abbrev Journalled (α : Type) := Coro (Expansion × List Entry) uartSignature Empty α

namespace Bridge

/-- What is in the receive buffer. -/
def received (s : Expansion) : List UInt8 := (List.range s.rxLen).map s.rxBuf

/-- The condition of the watchdog. -/
def Expires (s : Expansion) : Prop :=
  s.state ≠ .disconnected ∧ s.lastRxTick ≠ 0 ∧ pdMsToTicks 1500 < s.tick - s.lastRxTick

instance : DecidablePred Expires := fun _ => inferInstanceAs (Decidable (_ ∧ _ ∧ _))

theorem watchdog_of_expires {s : Expansion} (expires : Expires s) :
    watchdog s = { s with state := .error, rxLen := 0, lastRxTick := s.tick } :=
  if_pos expires

theorem watchdog_of_not_expires {s : Expansion} (lives : ¬ Expires s) : watchdog s = s :=
  if_neg lives

/-- Update the variables of the module, and make an entry. -/
def noted (update : Expansion → Expansion) (entry : Entry) : Journalled Unit :=
  Coro.modify fun p => (update p.1, p.2 ++ [entry])

/-- `extractFrames`, with a journal. -/
def extractFramesNoted : ℕ → Journalled Unit
  | 0 => pure ()
  | passes + 1 => do
      let p ← Coro.get
      if p.1.rxLen = 0 then pure ()
      else
        let frameSize := getFrameSize (p.1.rxBuf 0) p.1.rxBuf p.1.rxLen
        if frameSize = -1 then pure ()
        else if frameSize = -2 then do
          noted skipByte (.skipped (p.1.rxBuf 0))
          extractFramesNoted passes
        else if frameSize.toNat ≤ p.1.rxLen then do
          noted (fun s => { s with dispatching := true })
            (.frame ((List.range frameSize.toNat).map p.1.rxBuf))
          (processFrame frameSize.toNat).plainly
          (Coro.modify (removeFrame frameSize.toNat) : Bridge Unit).plainly
          extractFramesNoted passes
        else pure ()

/-- `takeBytes`, with a journal. -/
def takeBytesNoted (buf : List UInt8) : Journalled Unit :=
  if buf = [] then pure ()
  else do
    noted (appendBytes buf) (.read buf)
    extractFramesNoted rxBufSize

/-- The watchdog, with a journal. -/
def watchdogNoted : Journalled Unit :=
  Coro.modify fun p => (watchdog p.1, if Expires p.1 then p.2 ++ [.expired] else p.2)

/-- `uartRxPass`, with a journal. -/
def uartRxPassNoted : Journalled Unit := do
  let (buf : List UInt8) ← (perform .readBytes).plainly
  takeBytesNoted (buf.take readSize)
  watchdogNoted
  sendDueHeartbeat.plainly

/-- `uartRxTask`, with a journal. -/
def uartRxTaskNoted : ℕ → Journalled Unit
  | 0 => pure ()
  | passes + 1 => do
      uartRxPassNoted
      uartRxTaskNoted passes

theorem ghosts_noted (update : Expansion → Expansion) (entry : Entry) :
    Ghosts (noted update entry) (Coro.modify update : Bridge Unit) :=
  .modify fun _ => rfl

theorem ghosts_extractFrames (passes : ℕ) : Ghosts (extractFramesNoted passes) (extractFrames passes) := by
  induction passes with
  | zero => exact .pure ()
  | succ passes ih =>
      apply Ghosts.get_bind
      intro p
      apply Ghosts.ite (.pure ())
      apply Ghosts.ite (.pure ())
      apply Ghosts.ite
      · exact (ghosts_noted _ _).bind fun _ => ih
      · apply Ghosts.ite _ (.pure ())
        exact (ghosts_noted _ _).bind fun _ => (Ghosts.plainly _).bind fun _ =>
          (Ghosts.plainly _).bind fun _ => ih

theorem ghosts_takeBytes (buf : List UInt8) : Ghosts (takeBytesNoted buf) (takeBytes buf) :=
  .ite (.pure ()) ((ghosts_noted _ _).bind fun _ => ghosts_extractFrames _)

/-- **The journal is a ghost.** -/
theorem ghosts_uartRxTask (passes : ℕ) : Ghosts (uartRxTaskNoted passes) (uartRxTask passes) := by
  have watched : Ghosts watchdogNoted (Coro.modify watchdog : Bridge Unit) := .modify fun _ => rfl
  have pass : Ghosts uartRxPassNoted uartRxPass :=
    (Ghosts.plainly _).bind fun _ => (ghosts_takeBytes _).bind fun _ => watched.bind fun _ =>
      Ghosts.plainly _
  induction passes with
  | zero => exact .pure ()
  | succ passes ih => exact pass.bind fun _ => ih

/-- How many connections have been begun. -/
def connections (journal : List Entry) : ℕ := journal.count .connected

/-- `set_baud_rate` for a caller that then makes an entry. -/
def setBaudRateNoted (baud : UInt32) (entry : Entry) : Journalled Unit := do
  let (accepted : Bool) ← (perform (.setBaudrate baud)).plainly
  if accepted then noted (fun s => { s with currentBaud := baud }) entry else pure ()

/-- `expansionConnect`, with a journal. -/
def expansionConnectNoted : Journalled EspErr := do
  let p ← Coro.get
  if p.1.state ≠ .disconnected ∧ p.1.state ≠ .error then pure .invalidState
  else do
    (setBaudRate expInitialBaud).plainly
    noted (fun s => { s with
      rxLen := 0
      lastRxTick := s.tick
      state := .awaitingHeartbeat }) .connected
    signalPresence.plainly
    pure .ok

/-- `expansionDisconnect`, with a journal. -/
def expansionDisconnectNoted : Journalled Unit := do
  stopRpc.plainly
  Coro.act (fun p => ({ p.1 with state := .disconnected, rxLen := 0 }, p.2 ++ [.dropped]))
    fun p => setBaudRateNoted expInitialBaud (.disconnected (connections p.2))

/-- A call of one of the two entry points. -/
inductive ExpansionCall
  | connect
  | disconnect

/-- Such a call. -/
def ExpansionCall.make : ExpansionCall → Bridge Unit
  | connect => do
      let _ ← expansionConnect
  | disconnect => expansionDisconnect

/-- Such a call, with a journal. -/
def ExpansionCall.makeNoted : ExpansionCall → Journalled Unit
  | connect => do
      let _ ← expansionConnectNoted
  | disconnect => expansionDisconnectNoted

/-- Calls one after another, with a pause before each. -/
def makeCalls : List ExpansionCall → Bridge Unit
  | [] => pure ()
  | call :: calls => do
      perform (.delay 0)
      call.make
      makeCalls calls

/-- `makeCalls`, with a journal. -/
def makeCallsNoted : List ExpansionCall → Journalled Unit
  | [] => pure ()
  | call :: calls => do
      (perform (.delay 0)).plainly
      call.makeNoted
      makeCallsNoted calls

theorem ghosts_setBaudRate (baud : UInt32) (entry : Entry) :
    Ghosts (setBaudRateNoted baud entry) (setBaudRate baud) := by
  apply (Ghosts.plainly _).bind
  intro (accepted : Bool)
  exact .ite (ghosts_noted _ _) (.pure ())

theorem ghosts_make (call : ExpansionCall) : Ghosts call.makeNoted call.make := by
  cases call with
  | connect =>
      have connected : Ghosts expansionConnectNoted expansionConnect :=
        Ghosts.get_bind fun p => .ite (.pure _) ((Ghosts.plainly _).bind fun _ =>
          (ghosts_noted _ _).bind fun _ => (Ghosts.plainly _).bind fun _ => .pure _)
      exact connected.bind fun _ => .pure ()
  | disconnect =>
      have dropped : Ghosts expansionDisconnectNoted expansionDisconnect :=
        (Ghosts.plainly _).bind fun _ => .act (fun _ => rfl) fun _ => ghosts_setBaudRate _ _
      exact dropped

theorem ghosts_makeCalls (calls : List ExpansionCall) :
    Ghosts (makeCallsNoted calls) (makeCalls calls) := by
  induction calls with
  | nil => exact .pure ()
  | cons call calls ih =>
      exact (Ghosts.plainly _).bind fun _ => (ghosts_make call).bind fun _ => ih

end Bridge

/-- The program of a task whose journal is kept. -/
def BridgeTask.journalled : BridgeTask → Journalled Unit
  | .uartRx passes => Bridge.uartRxTaskNoted passes
  | task => task.program.plainly

theorem BridgeTask.ghosts (task : BridgeTask) : Ghosts task.journalled task.program := by
  cases task with
  | uartRx passes => exact Bridge.ghosts_uartRxTask passes
  | _ => exact .plainly _

end FlipperMcp
