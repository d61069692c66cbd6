import FlipperMcp.Rpc.Session

/-! # The device on the USB port

One port is a command line and an RPC session in turn. In CLI mode the device collects the
typed bytes, discards them at a Ctrl-C and executes them at a CR; the line
`start_rpc_session` leads to RPC mode. There it decodes delimited frames and answers every
ping with the ping's data, and a StopSession leads back. Everything the host writes it writes
whole, so in RPC mode a frame is taken as its message (`Firmware.takes_framed`).
-/

namespace FlipperMcp

open ProtobufRPC

/-- The mode of the device, with the bytes of the line, or of the frame, so far. -/
inductive DeviceMode
  | cli (line : Bytes)
  | rpc (received : Bytes)
  deriving DecidableEq

/-- Whether it is in RPC mode. -/
def DeviceMode.isRpc : DeviceMode → Bool
  | cli _ => false
  | rpc _ => true

/-- It is not in the middle of a frame. -/
def DeviceMode.Whole : DeviceMode → Prop
  | cli _ => True
  | rpc received => received = []

/-- What else a device does in either mode. -/
structure Firmware where
  /-- What is printed when a byte is typed behind a line. -/
  prints : Bytes → UInt8 → Bytes
  /-- What is sent for a request other than a ping. -/
  answers : Main → Bytes

/-- The line that starts a session. -/
def startLine : Bytes := encodeText "start_rpc_session"

/-- The answer to a ping. -/
def answerPing (commandId : UInt32) (data : Bytes) : Main :=
  { commandId, content := .systemPingResponse data }

namespace Firmware

variable (fw : Firmware)

/-- A request in RPC mode. -/
def handle (msg : Main) : DeviceMode × Bytes :=
  match msg.content with
  | .systemPingRequest data => (.rpc [], framed (answerPing msg.commandId data))
  | .stopSession => (.cli [], fw.answers msg)
  | _ => (.rpc [], fw.answers msg)

/-- A byte typed in CLI mode. -/
def typed (line : Bytes) (byte : UInt8) : DeviceMode :=
  if byte = 0x03 then .cli []
  else if byte = 0x0D then
    if line = startLine then .rpc [] else .cli []
  else .cli (line ++ [byte])

/-- One byte arrives: the mode after it, and what is sent. -/
def accept : DeviceMode → UInt8 → DeviceMode × Bytes
  | .cli line, byte => (typed line byte, fw.prints line byte)
  | .rpc received, byte =>
      let received := received ++ [byte]
      match Base128.unframe received.length received with
      | none => (.rpc received, [])
      | some (payload, _) =>
          match Protobuf.wire.parseFromString payload with
          | none => (.rpc [], [])
          | some msg => fw.handle msg

/-- Bytes arrive one after the other. -/
def takes : DeviceMode → Bytes → DeviceMode × Bytes
  | mode, [] => (mode, [])
  | mode, byte :: data =>
      let accepted := fw.accept mode byte
      let rest := takes accepted.1 data
      (rest.1, accepted.2 ++ rest.2)

section Frames

/-- The rest of a frame completes it. -/
theorem takes_rest {msg : Main} {part missing : Bytes} (cut : part ++ missing = framed msg)
    (short : missing ≠ []) : fw.takes (.rpc part) missing = fw.handle msg := by
  induction missing generalizing part with
  | nil => exact absurd rfl short
  | cons byte missing ih =>
      have joined : (part ++ [byte]) ++ missing = framed msg := by
        rw [List.append_assoc]
        exact cut
      have payload := joined
      unfold framed at payload
      rw [delimited_eq] at payload
      by_cases last : missing = []
      · subst last
        rw [List.append_nil] at payload
        have whole := Base128.unframe_own msg.serializeToString
        rw [← payload] at whole
        rw [takes, accept, takes]
        simp only [whole, Protobuf.wire.parse_serialize, List.append_nil]
      · have none_ := Base128.unframe_cut payload last (part ++ [byte]).length
        rw [takes, accept]
        simp only [none_, ih joined last, List.nil_append]

/-- **A frame is taken as its message.** -/
theorem takes_framed (msg : Main) : fw.takes (.rpc []) (framed msg) = fw.handle msg := by
  have present : framed msg ≠ [] := by
    unfold framed
    rw [delimited_eq]
    exact Base128.frame_ne_nil _
  exact fw.takes_rest (List.nil_append _) present

/-- A request other than a StopSession leaves the device in RPC mode. -/
theorem handle_request {msg : Main} (request : msg.content ≠ .stopSession) :
    (fw.handle msg).1 = .rpc [] := by
  unfold handle
  cases content : msg.content with
  | stopSession => exact absurd content request
  | _ => rfl

end Frames

section Lines

theorem takes_append (mode : DeviceMode) (first second : Bytes) :
    (fw.takes mode (first ++ second)).1 = (fw.takes (fw.takes mode first).1 second).1 := by
  induction first generalizing mode with
  | nil => rfl
  | cons byte first ih =>
      rw [List.cons_append, takes]
      exact ih _

/-- Only a CR leaves CLI mode. -/
theorem takes_cli (line : Bytes) {data : Bytes} (unended : 0x0D ∉ data) :
    ∃ line', (fw.takes (.cli line) data).1 = .cli line' := by
  induction data generalizing line with
  | nil => exact ⟨line, rfl⟩
  | cons byte data ih =>
      obtain ⟨here, later⟩ := not_or.mp (mt List.mem_cons.mpr unended)
      rw [takes, accept, typed, if_neg (Ne.symm here)]
      by_cases discards : byte = 0x03
      · rw [if_pos discards]
        exact ih [] later
      · rw [if_neg discards]
        exact ih _ later

/-- Text is collected. -/
theorem takes_text (line : Bytes) {data : Bytes} (unended : 0x0D ∉ data) (kept : 0x03 ∉ data) :
    (fw.takes (.cli line) data).1 = .cli (line ++ data) := by
  induction data generalizing line with
  | nil => exact congrArg _ (List.append_nil line).symm
  | cons byte data ih =>
      obtain ⟨here, later⟩ := not_or.mp (mt List.mem_cons.mpr unended)
      obtain ⟨here', later'⟩ := not_or.mp (mt List.mem_cons.mpr kept)
      rw [takes, accept, typed, if_neg (Ne.symm here'), if_neg (Ne.symm here)]
      have rest := ih (line ++ [byte]) later later'
      rw [List.append_assoc, List.singleton_append] at rest
      exact rest

/-- A Ctrl-C and a CR leave an empty line. -/
theorem takes_interrupt (line : Bytes) : (fw.takes (.cli line) interrupt).1 = .cli [] := rfl

/-- The line that starts a session starts it. -/
theorem takes_startRpcSession : (fw.takes (.cli []) startRpcSession).1 = .rpc [] := by
  have ended : startRpcSession = startLine ++ [0x0D] := by decide +kernel
  rw [ended, takes_append, fw.takes_text [] (by decide +kernel) (by decide +kernel)]
  rfl

/-- A command line leaves nothing typed, whatever it executes. -/
theorem takes_command (line : Bytes) {command : Bytes} (unended : 0x0D ∉ command) :
    (fw.takes (.cli line) (command ++ [0x0D])).1.Whole := by
  obtain ⟨line', collected⟩ := fw.takes_cli line unended
  rw [takes_append, collected, takes, accept, typed, if_neg (by decide), if_pos rfl]
  by_cases starts : line' = startLine
  · rw [if_pos starts]
    rfl
  · rw [if_neg starts]
    trivial

/-- The ping of `probe_rpc` leaves the device in its mode. -/
theorem takes_probe {mode : DeviceMode} (whole : mode.Whole) :
    (fw.takes mode (framed probe)).1.Whole ∧ (fw.takes mode (framed probe)).1.isRpc = mode.isRpc := by
  cases mode with
  | rpc received =>
      obtain rfl : received = [] := whole
      rw [fw.takes_framed probe]
      exact ⟨rfl, rfl⟩
  | cli line =>
      obtain ⟨line', collected⟩ := fw.takes_cli line (show 0x0D ∉ framed probe by decide +kernel)
      rw [collected]
      exact ⟨trivial, rfl⟩

/-- A StopSession leads to CLI mode; in CLI mode it is typed. -/
theorem takes_stopSession {mode : DeviceMode} (whole : mode.Whole) :
    ∃ line, (fw.takes mode (framed stopSession)).1 = .cli line := by
  cases mode with
  | rpc received =>
      obtain rfl : received = [] := whole
      rw [fw.takes_framed stopSession]
      exact ⟨[], rfl⟩
  | cli line => exact fw.takes_cli line (show 0x0D ∉ framed stopSession by decide +kernel)

end Lines

end Firmware

end FlipperMcp
