import FlipperMcp.Client.CliGate
import FlipperMcp.Python.Words
import FlipperMcp.Rpc.Asks
import FlipperMcp.Tools.Registry

/-! # The write gate

With write tools and transmit tools disabled, no tool sends a request that changes the
device's storage, starts an application or begins an update, and no command line that the
classifier gates. The classifier is a denylist: `flipperzero_cli_exec` still types what its
caller asks for, among it command lines that change the storage. No other tool does
(`Server.write_gate`, `Server.write_gate_concurrent`).
-/

namespace FlipperMcp

open Coroutine ProtobufRPC FlipperClient

/-- The requests that change the device's storage, start an application or begin an
update. -/
def Content.Mutates : Content → Prop
  | storageWriteRequest _ _ | storageMkdirRequest _ | storageDeleteRequest _ _
  | storageRenameRequest _ _ | appStartRequest _ _ | systemUpdateRequest _ => True
  | _ => False

/-- The command lines that the CLI reference documents as a change of the storage or the
start of an application. -/
def documentedMutations : List (List String) :=
  [["storage", "write"], ["storage", "write", "chunk"], ["storage", "copy"],
    ["storage", "rename"], ["storage", "mkdir"], ["storage", "remove"], ["storage", "extract"],
    ["storage", "format"], ["loader", "open"]]

/-- The words of a command line, in lower case. -/
def cliWords (command : String) : List String :=
  Python.split (Python.lower (Python.strip command))

/-- It begins with the words of a documented change. -/
def DocumentedMutation (command : String) : Prop :=
  ∃ words ∈ documentedMutations, words <+: cliWords command

instance (command : String) : Decidable (DocumentedMutation command) :=
  inferInstanceAs (Decidable (∃ words ∈ documentedMutations, words <+: cliWords command))

/-- Nothing documented as a change is sent, in a request or on the command line. -/
def NothingMutates : LinkOp → Prop
  | .send .cliCommand data => ∀ command, data = commandLine command → ¬ DocumentedMutation command
  | .send _ data => ∀ msg : Main, data = framed msg → ¬ msg.content.Mutates
  | _ => True

/-- What a closed gate lets through of a session. A documented change is sent on the command
line only, as the command of a `flipperzero_cli_exec`, and is no gated command. -/
def GateClosed (calls : List ToolCall) : LinkOp → Prop
  | .send .cliCommand data => ∃ command, data = commandLine command ∧
      (CliRisk.classify command).gated = false ∧ ¬ ["storage", "format"] <+: cliWords command ∧
      (DocumentedMutation command →
        ∃ timeout accept, ToolCall.cliExec command timeout accept ∈ calls)
  | .send _ data => ∀ msg : Main, data = framed msg → ¬ msg.content.Mutates
  | _ => True

section Words

/-- A line that begins with the two words of a rule matches it. -/
theorem matchesRule_of_words {first second : String} {words : List String}
    (begins : [first, second] <+: words) (category : CliRisk.Category) :
    CliRisk.matchesRule (" ".intercalate words) (first ++ " " ++ second, category) = true := by
  obtain ⟨rest, rfl⟩ := begins
  unfold CliRisk.matchesRule
  rw [Bool.or_eq_true]
  cases rest with
  | nil =>
      left
      rw [List.append_nil, String.intercalate_cons_cons, String.intercalate_singleton]
      exact decide_eq_true rfl
  | cons third rest =>
      right
      rw [List.cons_append, List.singleton_append, String.intercalate_cons_cons,
        String.intercalate_cons_cons, ← String.append_assoc, ← String.append_assoc]
      exact Python.startsWith_append _ _

/-- Whatever matches a rule is gated. -/
theorem classify_gated {command : String} {rule : String × CliRisk.Category}
    (listed : rule ∈ CliRisk.denylist)
    (found : CliRisk.matchesRule (CliRisk.normalize command) rule = true) :
    (CliRisk.classify command).gated = true := by
  unfold CliRisk.classify
  cases first : CliRisk.denylist.find? (CliRisk.matchesRule (CliRisk.normalize command)) with
  | none => exact absurd found (List.find?_eq_none.mp first rule listed)
  | some _ => rfl

/-- Formatting the storage is gated. -/
theorem format_gated {command : String} (begins : ["storage", "format"] <+: cliWords command) :
    (CliRisk.classify command).gated = true := by
  have found := matchesRule_of_words begins .destructive
  have listed : ("storage" ++ " " ++ "format", CliRisk.Category.destructive) ∈ CliRisk.denylist := by
    decide
  exact classify_gated listed found

/-- The words of the command line that lists a tree. -/
theorem tree_words {path : String} (absolute : Python.startsWith "/" path = true) :
    ∃ rest, cliWords ("storage tree " ++ path) = "storage" :: "tree" :: rest := by
  obtain ⟨rest, rfl⟩ := Python.startsWith_iff.mp absolute
  have spelled : "storage tree " ++ ("/" ++ rest) =
      String.ofList ("storage tree /".toList ++ rest.toList) := by
    rw [← String.toList_inj, String.toList_ofList, String.toList_append, String.toList_append]
    rfl
  obtain ⟨kept, stripped⟩ := @Python.strip_front "storage tree /".toList (by decide +kernel)
    (by decide +kernel) (by decide +kernel) rest.toList
  have lowered := @Python.lower_front "storage tree /".toList (by decide +kernel) kept
  have first := @Python.split_word "storage".toList (Python.isWord_of_check (by decide +kernel))
    ' ' (by decide) ("tree /".toList ++ kept.flatMap Python.lowerChar)
  have second := @Python.split_word "tree".toList (Python.isWord_of_check (by decide +kernel))
    ' ' (by decide) ('/' :: kept.flatMap Python.lowerChar)
  rw [String.ofList_toList] at first second
  refine ⟨Python.split (String.ofList ('/' :: kept.flatMap Python.lowerChar)), ?_⟩
  unfold cliWords
  rw [spelled, stripped, lowered]
  exact first.trans (congrArg (List.cons "storage") second)

/-- A tree is listed without a change. -/
theorem tree_harmless {path : String} (absolute : Python.startsWith "/" path = true) :
    ¬ DocumentedMutation ("storage tree " ++ path) := by
  obtain ⟨rest, words⟩ := tree_words absolute
  rintro ⟨documented, listed, begins⟩
  rw [words] at begins
  revert listed begins
  simp only [documentedMutations, List.mem_cons, List.not_mem_nil, or_false]
  rintro (rfl | rfl | rfl | rfl | rfl | rfl | rfl | rfl | rfl) begins <;>
    simp [List.cons_prefix_cons] at begins

end Words

section Frames

/-- A short text whose first byte announces more than follows is no frame. -/
theorem not_framed {data : Bytes} (short : data.length < 128)
    (broken : Base128.unframe 1 data = none) (msg : Main) : data ≠ framed msg := by
  rintro rfl
  unfold framed at short broken
  rw [delimited_eq] at short broken
  have fits : msg.serializeToString.length < 128 ^ (0 + 1) := by
    unfold Base128.frame at short
    rw [List.length_append] at short
    omega
  have whole := Base128.unframe_frame fits []
  rw [List.append_nil] at whole
  exact nomatch broken.symm.trans whole

theorem not_framed_interrupt (msg : Main) : interrupt ≠ framed msg :=
  not_framed (by decide) (by decide +kernel) msg

theorem not_framed_startRpcSession (msg : Main) : startRpcSession ≠ framed msg :=
  not_framed (by decide +kernel) (by decide +kernel) msg

/-- A frame carries one message. -/
theorem harmless_frame {msg : Main} (harmless : ¬ msg.content.Mutates) :
    ∀ msg', framed msg = framed msg' → ¬ msg'.content.Mutates :=
  fun _ same => framed_inj same ▸ harmless

end Frames

namespace Tools

/-- What a closed gate lets a tool await, beside the command lines it may type. -/
def Permitted (mayType : String → Prop) : LinkOp → Prop
  | .send .cliCommand data => ∃ command, data = commandLine command ∧ mayType command
  | .send _ data => ∀ msg : Main, data = framed msg → ¬ msg.content.Mutates
  | _ => True

/-- It stays within what a closed gate lets through. -/
abbrev Permits {α : Type} (mayType : String → Prop) (c : Link α) : Prop :=
  @Awaits Host linkSignature Exn α (Permitted mayType) c

section

variable {mayType : String → Prop} {α : Type}

theorem Permits.of_reconnect {c : Link α} (h : ReconnectWithin c) : Permits mayType c := by
  apply h.awaits.mono
  intro op reconnects
  cases op with
  | connect | disconnect => trivial
  | _ => exact reconnects.elim

theorem Permits.of_listens {c : Link α} (h : Listens c) : Permits mayType c := by
  apply h.awaits.mono
  intro op reads
  cases op with
  | send _ _ => exact reads.elim
  | _ => trivial

theorem Permits.perform (op : LinkOp) (h : Permitted mayType op) :
    Permits mayType (Link.perform op) :=
  Awaits.perform h

theorem Permits.classified {body : Link α} (h : Permits mayType body) :
    Permits mayType (classified body) :=
  h.tryExcept fun _ => .raise _

theorem Permits.orNote {body : Link α} {failure : α} (h : Permits mayType body) :
    Permits mayType (orNote body failure) :=
  h.tryExcept fun _ => (Awaits.modify _).bind fun _ => .pure _

/-- A method that asks for nothing that changes the device. -/
theorem Permits.method (pb : Protobuf) (rpc : Handle) (call : RpcCall)
    (harmless : ∀ content, call.Asks content → ¬ content.Mutates) :
    Permits mayType (call.method pb rpc) := by
  apply (RpcCall.asks_method pb rpc call).mono
  intro op asks
  cases op with
  | send origin data =>
      cases origin with
      | request =>
          obtain ⟨msg, asked, rfl⟩ := asks
          exact harmless_frame (harmless _ asked)
      | probe =>
          obtain rfl : data = framed probe := asks
          exact harmless_frame id
      | startSession =>
          rcases asks with rfl | rfl
          · exact fun msg same => absurd same (not_framed_interrupt msg)
          · exact fun msg same => absurd same (not_framed_startRpcSession msg)
      | stopSession | cliInterrupt | cliCommand => exact asks.elim
  | _ => trivial

theorem permits_ensureConnected : Permits mayType ensureConnected := by
  have reconnected : Permits mayType reconnectOnce := by
    apply (Permits.of_reconnect disconnect_within).bind
    intro _
    apply (Permits.of_reconnect connect_within).bind
    intro connected
    exact .ite (fun _ => .pure _) fun _ => Awaits.get.bind fun _ => .raise _
  apply Awaits.bind
  · exact (Permits.perform .isConnected trivial).tryExcept fun _ => .pure _
  · exact fun alive => .ite (fun _ => .pure _) fun _ => reconnected

theorem permits_getRpc : Permits mayType getRpc := by
  apply permits_ensureConnected.bind
  intro _
  apply Awaits.get.bind
  intro s
  cases s.rpc with
  | none => exact .raise _
  | some rpc => exact .pure rpc

theorem permits_readTool (pb : Protobuf) (call : RpcCall)
    (harmless : ∀ content, call.Asks content → ¬ content.Mutates)
    (answer : call.Result → Except Exn Json) : Permits mayType (readTool pb call answer) := by
  apply Awaits.bind
  · exact Permits.classified (permits_getRpc.bind fun rpc => Permits.method pb rpc call harmless)
  · exact fun value => .ofExcept _

theorem requireWriteTools_closed {config : FlipperConfig} (closed : config.enableWriteTools = false) :
    ∃ e, requireWriteTools config = .error e := by
  unfold requireWriteTools
  rw [closed]
  exact ⟨_, rfl⟩

/-- Firmware is flashed through the write gate too. -/
theorem requireFirmwareFlash_closed {config : FlipperConfig}
    (closed : config.enableWriteTools = false) : ∃ e, requireFirmwareFlash config = .error e := by
  obtain ⟨e, refused⟩ := requireWriteTools_closed closed
  unfold requireFirmwareFlash
  rw [refused]
  exact ⟨e, rfl⟩

/-- Behind a closed gate nothing happens. -/
theorem permits_refused {gate : Except Exn Unit} (closed : ∃ e, gate = .error e)
    (body : Unit → Link α) : Permits mayType (Coro.ofExcept gate >>= body) := by
  obtain ⟨e, rfl⟩ := closed
  exact .raise e

theorem permits_cliExchange (rpc : Handle) (command : String) (may : mayType command)
    (timeout : Time) : Permits mayType (cliExchange rpc command timeout) := by
  have stopped : Permits mayType (sendStopSession rpc) :=
    (Permits.perform (.send .stopSession (framed stopSession)) (harmless_frame id)).bind fun _ =>
      (Permits.of_listens (drainHostRx_listens (2 / 5))).bind fun _ => .modify _
  have cleared : Permits mayType FlipperTransport.clearReceiveBuffer := .modify _
  have interrupted : Permitted mayType (.send .cliInterrupt interrupt) :=
    fun msg same => absurd same (not_framed_interrupt msg)
  apply stopped.bind
  intro _
  apply (Awaits.modify _).bind
  intro _
  apply cleared.bind
  intro _
  apply (Permits.perform _ interrupted).bind
  intro _
  apply (Permits.of_listens (readUntilPrompt_listens 2)).bind
  intro _
  apply cleared.bind
  intro _
  apply (Permits.perform (.send .cliCommand (commandLine command)) ⟨command, rfl, may⟩).bind
  intro _
  exact (Permits.of_listens (readUntilPrompt_listens timeout)).bind fun _ => .pure _

/-- Without transmit tools only an ungated command is typed. -/
theorem permits_cliExec (command : String) (timeout : Time) (accept : Bool)
    (may : (CliRisk.classify command).gated = false → mayType command) :
    Permits mayType (FlipperClient.cliExec command timeout accept false) := by
  apply Awaits.get.bind
  intro s
  cases s.rpc with
  | none => exact .raise _
  | some rpc =>
      apply Awaits.ite
      · exact fun _ => .raise _
      · intro _
        rcases checkCommand_cases command accept false with ⟨passed, allowed⟩ | ⟨e, failed, _⟩
        · have ungated : (CliRisk.classify command).gated = false :=
            allowed.gates.resolve_right fun open_ => nomatch open_.2
          rw [passed]
          exact (permits_cliExchange rpc command (may ungated) timeout).withLock.bind fun _ => .pure _
        · rw [failed]
          exact .raise _

theorem permits_cliTyped (command : String) (timeout : Time)
    (may : (CliRisk.classify command).gated = false → mayType command) :
    Permits mayType (cliTyped command timeout) := by
  have typed : Permits mayType (classified do
      ensureConnected
      FlipperClient.cliExec command timeout) :=
    Permits.classified (permits_ensureConnected.bind fun _ =>
      permits_cliExec command timeout false may)
  unfold cliTyped
  by_cases gated : (CliRisk.classify command).gated = true
  · rw [if_pos gated]
    exact .raise _
  · rw [if_neg gated]
    exact typed

theorem permits_getConnectionHealth (pb : Protobuf) (probeRpc : Bool) :
    Permits mayType (getConnectionHealth pb probeRpc) := by
  apply Awaits.bind
  · exact Permits.orNote (Permits.perform .isConnected trivial)
  · intro transportConnected
    apply Awaits.get.bind
    intro s
    have probed : ∀ rpc, Permits mayType (probeHealth pb rpc) := by
      intro rpc
      apply Awaits.bind
      · apply Permits.orNote
        apply (Permits.method pb rpc (.ping healthProbe) _).bind
        · exact fun echoed => .pure _
        · rintro content rfl
          exact id
      · exact fun responsive => .ite (fun _ => .pure _) fun _ => (Awaits.modify _).bind fun _ => .pure _
    dsimp only
    apply Awaits.ite
    · intro _
      split
      · next rpc _ =>
        rw [map_eq_pure_bind]
        exact ((probed rpc).bind fun _ => .pure _).bind fun _ => Awaits.get.bind fun _ => .pure _
      · exact (Awaits.pure _).bind fun _ => Awaits.get.bind fun _ => .pure _
    · exact fun _ => (Awaits.pure _).bind fun _ => Awaits.get.bind fun _ => .pure _

theorem permits_getDeviceInfo (pb : Protobuf) : Permits mayType (getDeviceInfo pb) := by
  apply Awaits.get.bind
  intro s
  cases s.rpc with
  | none => exact .pure _
  | some rpc =>
      apply Awaits.bind
      · apply Permits.orNote
        apply Permits.method
        rintro content (rfl | ⟨key, rfl⟩) <;> exact id
      · exact fun info => (Awaits.modify _).bind fun _ => .pure _

theorem permits_checkSdCardAvailable (pb : Protobuf) :
    Permits mayType (checkSdCardAvailable pb) := by
  apply Awaits.get.bind
  intro s
  cases s.sdCardAvailable with
  | some available => exact .pure _
  | none =>
      dsimp only
      cases s.rpc with
      | none => exact (Awaits.pure _).bind fun _ => (Awaits.modify _).bind fun _ => .pure _
      | some rpc =>
          have asked : Permits mayType (askSdCard pb rpc) := by
            apply Permits.orNote
            apply Awaits.bind
            · apply Permits.method
              rintro content rfl
              exact id
            · exact fun space => .pure _
          exact asked.bind fun _ => (Awaits.modify _).bind fun _ => .pure _

theorem permits_systemInfo (pb : Protobuf) : Permits mayType (systemInfo pb) := by
  apply Permits.classified
  apply permits_ensureConnected.bind
  intro _
  apply (permits_getConnectionHealth pb true).bind
  intro health
  apply (permits_getDeviceInfo pb).bind
  intro device
  exact (permits_checkSdCardAvailable pb).bind fun sd => .pure _

theorem permits_fsPull (pb : Protobuf) (md5 : Bytes → String) (srcPath localPath : String)
    (written : Bytes → Except Exn Bytes) :
    Permits mayType (fsPull pb md5 srcPath localPath written) := by
  apply Awaits.bind
  · apply Permits.classified
    apply permits_getRpc.bind
    intro rpc
    have read : Permits mayType (RpcCall.method pb rpc (.storageRead srcPath)) := by
      apply Permits.method
      rintro content rfl
      exact id
    have digest : Permits mayType (RpcCall.method pb rpc (.storageMd5sum srcPath)) := by
      apply Permits.method
      rintro content rfl
      exact id
    exact read.bind fun data => digest.bind fun deviceMd5 => .pure _
  · intro (data, deviceMd5)
    exact (Awaits.ofExcept _).bind fun back => (Awaits.ofExcept _).bind fun _ => .pure _

end

end Tools

open Tools

/-- The command lines a tool call may type through a closed gate. -/
def ToolCall.MayType (call : ToolCall) (command : String) : Prop :=
  (CliRisk.classify command).gated = false ∧
    (DocumentedMutation command → ∃ timeout accept, call = .cliExec command timeout accept)

/-- What one call may await is let through in a session with it. -/
theorem ToolCall.gateClosed {calls : List ToolCall} {call : ToolCall} (member : call ∈ calls)
    {op : LinkOp} (permitted : Permitted call.MayType op) : GateClosed calls op := by
  cases op with
  | send origin data =>
      cases origin with
      | cliCommand =>
          obtain ⟨command, rfl, ungated, own⟩ := permitted
          refine ⟨command, rfl, ungated, fun format => ?_, fun documented => ?_⟩
          · exact nomatch ungated.symm.trans (format_gated format)
          · obtain ⟨timeout, accept, rfl⟩ := own documented
            exact ⟨timeout, accept, member⟩
      | probe | startSession | stopSession | request | cliInterrupt => exact permitted
  | _ => trivial

/-- A line that is no documented change may be typed by every tool. -/
theorem permits_harmless (call : ToolCall) (command : String)
    (harmless : ¬ DocumentedMutation command) :
    Permits call.MayType (cliTyped command) :=
  permits_cliTyped command 8 fun ungated => ⟨ungated, fun documented => absurd documented harmless⟩

theorem permits_fsTree (parsers : CliParsers) (path : String) :
    Permits (ToolCall.fsTree path).MayType (fsTree parsers path) := by
  unfold fsTree
  by_cases absolute : Python.startsWith "/" path = true
  · rw [if_pos absolute]
    apply (permits_harmless _ _ (tree_harmless absolute)).bind
    exact fun result => (Awaits.ofExcept _).bind fun entries => .pure _
  · rw [if_neg absolute]
    exact .raise _

namespace Server

variable (server : Server)

/-- **Every tool keeps to a closed gate.** -/
theorem permits_program (writes : server.config.enableWriteTools = false)
    (tx : server.config.enableTxTools = false) (call : ToolCall) :
    Permits call.MayType (server.program call) := by
  cases call with
  | connectionHealth probeRpc =>
      exact (permits_getConnectionHealth server.pb probeRpc).bind fun _ => .pure _
  | connectionReconnect probeRpc =>
      apply (Permits.of_reconnect disconnect_within).bind
      intro _
      apply (Permits.of_reconnect connect_within).bind
      intro reconnected
      exact (permits_getConnectionHealth server.pb probeRpc).bind fun _ => .pure _
  | systemInfo => exact permits_systemInfo server.pb
  | systemPowerInfo | systemProtobufVersion | systemDatetime | systemPing | systemPropertyGet
  | appLockStatus | appGetError | desktopIsLocked | fsInfo | fsStat | fsTimestamp =>
      apply permits_readTool
      rintro content rfl
      exact id
  | gpioRead pin =>
      have read : ∀ answer, Permits (ToolCall.gpioRead pin).MayType
          (readTool server.pb (.gpioRead pin) answer) := by
        apply permits_readTool
        rintro content ⟨code, rfl | rfl⟩ <;> exact id
      exact Awaits.ite (fun _ => read _) fun _ => .raise _
  | fsList path =>
      apply permits_readTool
      rintro content ⟨maxSize, rfl⟩
      exact id
  | fsMkdir | fsDelete | fsRename | fsPush | appStart =>
      exact permits_refused (requireWriteTools_closed writes) _
  | firmwareInstall => exact permits_refused (requireFirmwareFlash_closed writes) _
  | fsPull srcPath localPath written =>
      exact permits_fsPull server.pb server.md5 srcPath localPath written
  | cliExec command timeout iAcceptResponsibility =>
      apply Permits.classified
      apply permits_ensureConnected.bind
      intro _
      rw [tx]
      apply Awaits.bind
      · apply permits_cliExec
        exact fun ungated => ⟨ungated, fun _ => ⟨timeout, iAcceptResponsibility, rfl⟩⟩
      · exact fun result => .pure _
  | coreStatus =>
      apply (permits_harmless _ "free" (by decide +kernel)).bind
      intro free
      apply (permits_harmless _ "uptime" (by decide +kernel)).bind
      intro uptime
      exact (Awaits.ofExcept _).bind fun heap => .pure _
  | fsTree path => exact permits_fsTree server.parsers path
  | loaderList =>
      apply (permits_harmless _ "loader list" (by decide +kernel)).bind
      exact fun result => (Awaits.ofExcept _).bind fun apps => .pure _
  | i2cScan =>
      apply (permits_harmless _ "i2c" (by decide +kernel)).bind
      exact fun result => (Awaits.ofExcept _).bind fun addresses => .pure _

/-- A session keeps to a closed gate. -/
theorem gateClosed_session (writes : server.config.enableWriteTools = false)
    (tx : server.config.enableTxTools = false) (calls : List ToolCall) :
    @Awaits Host linkSignature Exn _ (GateClosed calls) (server.session calls) := by
  have within : ∀ later, later ⊆ calls →
      @Awaits Host linkSignature Exn _ (GateClosed calls) (server.session later) := by
    intro later
    induction later with
    | nil => exact fun _ => .pure _
    | cons call later ih =>
        intro subset
        obtain ⟨member, rest⟩ := List.cons_subset.mp subset
        apply Awaits.bind
        · exact ((server.permits_program writes tx call).mono fun op => call.gateClosed member).attempt
        · exact fun answer => (ih rest).bind fun answers => .pure _
  exact within calls (List.Subset.refl calls)

/-- The gate holds for each of several sessions at once, however they are interleaved. -/
theorem write_gate_concurrent {σ ι : Type} [DecidableEq ι]
    (writes : server.config.enableWriteTools = false)
    (tx : server.config.enableTxTools = false) (sessions : ι → List ToolCall) (E : LinkEnv σ)
    (s : Host) (w : σ) (schedule : List ι)
    {cfg : Config ι Host linkSignature Exn σ fun _ => List (Except Exn Json)}
    (followed : (Config.start (fun i => server.session (sessions i)) s w).follow E schedule =
      some cfg) :
    ∀ entry ∈ cfg.trace, GateClosed (sessions entry.1) entry.2.op := by
  have start : (Config.start (σ := σ) (fun i => server.session (sessions i)) s w).AwaitsOnly
      fun i => GateClosed (sessions i) :=
    ⟨fun i => server.gateClosed_session writes tx (sessions i),
      fun _ member => absurd member List.not_mem_nil⟩
  exact ((Config.reaches_of_follow E schedule followed).awaited start).trace

end Server

/-- A server as it is configured by default. -/
def Server.default : Server where
  config := {}
  pb := Protobuf.wire
  md5 := fun _ => ""
  parsers := {
    stripAnsi := id
    parseFree := fun _ => .ok []
    parseTree := fun _ => .ok []
    parseI2c := fun _ => .ok []
    parseLoaderList := fun _ => .ok [] }

/-- A device connected over USB that answers nothing. -/
def silentUsb : LinkEnv Unit
  | .connect, w => (.ok (some TransportFacts.usb), w)
  | .isConnected, w => (.ok true, w)
  | .disconnect, w | .send _ _, w | .sleep _, w | .startTimeout _, w | .stopTimeout, w => (.ok (), w)
  | .receive _, w => (.ok [], w)
  | .monotonic, w => (.ok (0 : Time), w)
  | .deadline _, w | .patience, w => (.ok (0 : ℕ), w)

/-- A directory is asked for, and a file written on the command line. -/
def Server.mkdirAndType : List ToolCall :=
  [.fsMkdir "/ext/x", .cliExec "storage write /ext/x hi" 10 false]

end FlipperMcp
