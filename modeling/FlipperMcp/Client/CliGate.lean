import FlipperMcp.Client.Calls
import FlipperMcp.Rpc.Writes
import FlipperMcp.Transport.Exceptions

/-! # The gate of `cli_exec`

A refused command leaves the link alone, and a command that runs is one line of what
`cli_exec` writes (`cliExec_gate`).
-/

namespace FlipperMcp

open Coroutine ProtobufRPC FlipperClient

/-- A text is encoded character by character. -/
theorem encodeText_eq (text : String) : encodeText text = text.toList.flatMap String.utf8EncodeChar := by
  unfold encodeText
  rw [← String.utf8Encode_toList]
  exact List.toList_data_toByteArray ..

/-- The bytes of an ASCII character are found in an encoded text only where the text has
the character. -/
theorem mem_encodeText {text : String} {byte : UInt8} (member : byte ∈ encodeText text)
    (ascii : byte.toNat < 0x80) : Char.ofNat byte.toNat ∈ text.toList := by
  rw [encodeText_eq] at member
  obtain ⟨c, inside, part⟩ := List.mem_flatMap.mp member
  have same : c.toNat = byte.toNat := by
    unfold String.utf8EncodeChar at part
    change c.val.toNat = byte.toNat
    by_cases single : c.val.toNat ≤ 0x7f
    · simp only [single, ↓reduceIte, List.mem_singleton] at part
      rw [part, UInt8.toNat_ofNat']
      exact (Nat.mod_eq_of_lt (by omega)).symm
    · -- the bytes of a longer character have their highest bit set
      exfalso
      revert ascii
      simp only [single, ↓reduceIte] at part
      (repeat' split at part) <;> simp only [List.mem_cons, List.not_mem_nil, or_false] at part <;>
        (obtain rfl | rfl | rfl | rfl := part) <;> rw [UInt8.toNat_ofNat'] <;> omega
  rw [← same, Char.ofNat_toNat]
  exact inside

/-- A text without a character has no byte of it. -/
theorem encodeText_avoids {text : String} {c : Char} (absent : c ∉ text.toList)
    (ascii : c.toNat < 0x80) : UInt8.ofNat c.toNat ∉ encodeText text := by
  intro member
  have code : (UInt8.ofNat c.toNat).toNat = c.toNat := by
    rw [UInt8.toNat_ofNat']
    exact Nat.mod_eq_of_lt (by omega)
  apply absent
  have found := mem_encodeText member (by rwa [code])
  rwa [code, Char.ofNat_toNat] at found

/-- A text without a part has no character that is this part. -/
theorem not_mem_of_contains {part text : String} {c : Char} (single : part.toList = [c])
    (absent : Python.contains part text = false) : c ∉ text.toList := by
  intro member
  obtain ⟨before, after, split⟩ := List.append_of_mem member
  have inside : part.toList <:+: text.toList := by
    rw [single, split]
    exact ⟨before, after, by rw [List.append_assoc, List.singleton_append]⟩
  exact of_decide_eq_false absent inside

/-- A command that is not rejected has none of the rejected texts. -/
theorem rejectShellChaining_ok {command : String} (accepted : rejectShellChaining command = .ok ()) :
    ∀ token ∈ shellChaining, Python.contains token.1 command = false := by
  unfold rejectShellChaining at accepted
  intro token member
  cases found : shellChaining.find? fun token => Python.contains token.1 command with
  | none => exact Bool.eq_false_iff.mpr (List.find?_eq_none.mp found token member)
  | some token =>
      rw [found] at accepted
      exact nomatch accepted

theorem rejectShellChaining_error {command : String} {e : Exn}
    (rejected : rejectShellChaining command = .error e) : e.isCliRefusal = true := by
  unfold rejectShellChaining at rejected
  cases found : shellChaining.find? fun token => Python.contains token.1 command with
  | none =>
      rw [found] at rejected
      exact nomatch rejected
  | some token =>
      rw [found] at rejected
      obtain rfl := Except.error.inj rejected
      rfl

/-- Each gate refuses on its own. -/
theorem enforceTxGate_cases (warning : Option String) (acceptResponsibility txToolsEnabled : Bool) :
    (enforceTxGate warning acceptResponsibility txToolsEnabled = .ok () ∧
        acceptResponsibility = true ∧ txToolsEnabled = true) ∨
      ∃ text, enforceTxGate warning acceptResponsibility txToolsEnabled =
        .error (.flipperCLIRefusedError text) := by
  unfold enforceTxGate
  cases txToolsEnabled with
  | false => exact .inr ⟨_, rfl⟩
  | true =>
      cases acceptResponsibility with
      | false => exact .inr ⟨_, rfl⟩
      | true => exact .inl ⟨rfl, rfl, rfl⟩

/-- A checked command is one line, and ungated or let through by both gates. -/
structure CommandPasses (command : String) (acceptResponsibility txToolsEnabled : Bool) : Prop where
  gates : (CliRisk.classify command).gated = false ∨
    acceptResponsibility = true ∧ txToolsEnabled = true
  noReturn : '\r' ∉ command.toList
  noNewline : '\n' ∉ command.toList

theorem checkCommand_cases (command : String) (acceptResponsibility txToolsEnabled : Bool) :
    (checkCommand command acceptResponsibility txToolsEnabled = .ok (CliRisk.classify command) ∧
        CommandPasses command acceptResponsibility txToolsEnabled) ∨
      ∃ e, checkCommand command acceptResponsibility txToolsEnabled = .error e ∧
        e.isCliRefusal = true := by
  unfold checkCommand
  cases accepted : rejectShellChaining command with
  | error e => exact .inr ⟨e, rfl, rejectShellChaining_error accepted⟩
  | ok =>
      have clean := rejectShellChaining_ok accepted
      have noReturn : '\r' ∉ command.toList :=
        not_mem_of_contains rfl (clean ("\r", "'\\r'") (by decide))
      have noNewline : '\n' ∉ command.toList :=
        not_mem_of_contains rfl (clean ("\n", "'\\n'") (by decide))
      by_cases gated : (CliRisk.classify command).gated = true
      · rcases enforceTxGate_cases (CliRisk.classify command).warning acceptResponsibility
          txToolsEnabled with ⟨passed, gates⟩ | ⟨text, refused⟩
        · refine .inl ⟨?_, .inr gates, noReturn, noNewline⟩
          simp only [gated, ↓reduceIte, passed]
          rfl
        · refine .inr ⟨.flipperCLIRefusedError text, ?_, rfl⟩
          simp only [gated, ↓reduceIte, refused]
          rfl
      · refine .inl ⟨?_, .inl (Bool.eq_false_iff.mpr gated), noReturn, noNewline⟩
        simp only [gated, Bool.false_eq_true, ↓reduceIte]
        rfl

section Exchange

variable {σ : Type} {E : LinkEnv σ}

/-- What an exchange writes before its command line. -/
def beforeCommand : List Bytes := [framed stopSession, interrupt]

/-- A command line. -/
def commandLine (command : String) : Bytes := encodeText command ++ [0x0D]

theorem raises_perform {allowed : Exn → Prop} (op : LinkOp) :
    @Raises Host linkSignature Exn _ allowed (Link.perform op) :=
  @Yields.perform Host linkSignature Exn allowed op

theorem raises_deadline {allowed : Exn → Prop} (seconds : Time) :
    @Raises Host linkSignature Exn _ allowed (Link.deadline seconds) :=
  (raises_perform (.deadline seconds)).attempt.bind fun _ _ => trivial

/-- Reading raises only what the link raises. -/
theorem readUntilPrompt_raises {allowed : Exn → Prop} (timeout : Time) :
    Raises allowed (readUntilPrompt timeout) := by
  have loop : ∀ passes buf, Raises allowed (readUntilPromptLoop passes buf) := by
    intro passes
    induction passes with
    | zero => exact fun buf => trivial
    | succ passes ih =>
        intro buf
        unfold readUntilPromptLoop
        apply (raises_perform (.receive (.atMost cliReadSlice))).bind
        intro chunk _
        split
        · trivial
        · exact ih _
  exact (raises_deadline timeout).bind fun passes _ => loop passes []

theorem drainHostRx_raises {allowed : Exn → Prop} (maxSeconds : Time) :
    Raises allowed (drainHostRx maxSeconds) := by
  have loop : ∀ passes, Raises allowed (drainHostRxLoop passes) := by
    intro passes
    induction passes with
    | zero => trivial
    | succ passes ih =>
        unfold drainHostRxLoop
        apply (raises_perform (.receive (.seconds (1 / 20)))).bind
        intro chunk _
        split
        · exact (raises_perform (.sleep (1 / 100))).bind fun _ _ => ih
        · exact ih
  apply Yields.tryExcept
  · exact (raises_deadline maxSeconds).bind fun passes _ => loop passes
  · exact fun _ => trivial

/-- An exchange raises only what the link raises. -/
theorem cliExchange_raises {allowed : Exn → Prop} (rpc : Handle) (command : String)
    (timeout : Time) : Raises allowed (cliExchange rpc command timeout) := by
  have stopped : Raises allowed (sendStopSession rpc) :=
    (raises_perform (.send .stopSession (framed stopSession))).bind fun _ _ =>
      (drainHostRx_raises (2 / 5)).bind fun _ _ => .modify _
  apply stopped.bind
  intro _ _
  apply (Yields.modify _).bind
  intro _ _
  apply (Yields.modify _).bind
  intro _ _
  apply (raises_perform (.send .cliInterrupt interrupt)).bind
  intro _ _
  apply (readUntilPrompt_raises 2).bind
  intro _ _
  apply (Yields.modify _).bind
  intro _ _
  apply (raises_perform (.send .cliCommand (encodeText command ++ [0x0D]))).bind
  intro _ _
  exact (readUntilPrompt_raises timeout).bind fun _ _ => trivial

/-- An exchange that returns has written the stop of the session, the interrupt and the
command line. -/
theorem cliExchange_writes (rpc : Handle) (command : String) (timeout : Time) :
    Writes E (cliExchange rpc command timeout)
      [framed stopSession, [0x03, 0x0D], encodeText command ++ [0x0D]] := by
  have stopped : Writes E (sendStopSession rpc) [framed stopSession] :=
    (Writes.send .stopSession (framed stopSession)).bind fun _ =>
      (Writes.listens (drainHostRx_listens (2 / 5))).bind fun _ => .modify _
  have cleared : Writes E FlipperTransport.clearReceiveBuffer [] := .modify _
  change Writes E (cliExchange rpc command timeout) ([framed stopSession] ++ ([] ++ ([] ++
    ([interrupt] ++ ([] ++ ([] ++ ([encodeText command ++ [0x0D]] ++ ([] ++ []))))))))
  apply stopped.bind
  intro _
  apply (Writes.modify _).bind
  intro _
  apply cleared.bind
  intro _
  apply (Writes.send .cliInterrupt interrupt).bind
  intro _
  apply (Writes.listens (readUntilPrompt_listens 2)).bind
  intro _
  apply cleared.bind
  intro _
  apply (Writes.send .cliCommand (encodeText command ++ [0x0D])).bind
  intro _
  apply (Writes.listens (readUntilPrompt_listens timeout)).bind
  exact fun _ => .pure _

/-- What `cli_exec` does with a command that passes. -/
theorem passed_exchange (link : RefusesNothing E) (rpc : Handle) (command : String)
    (timeout : Time) (s : Host) (w : σ) :
    let o := run E (do
      let (output, completed) ← (cliExchange rpc command timeout).withLock
      pure (⟨output, completed, (CliRisk.classify command).category,
        (CliRisk.classify command).warning⟩ : CliExecResult)) s w
    (∀ e, o.result = .error e → e.isCliRefusal = false) ∧
      ∀ value, o.result = .ok value → writes (o.trace.map Event.observed) =
        [framed stopSession, [0x03, 0x0D], encodeText command ++ [0x0D]] := by
  constructor
  · apply @Yields.run _ _ _ _ _ _ (fun _ => True) _ _ E link s w
    exact (cliExchange_raises rpc command timeout).withLock.bind fun _ _ => trivial
  · intro value returned
    apply Writes.run _ s w returned
    exact (cliExchange_writes rpc command timeout).withLock.bind fun _ => .pure _

end Exchange

/-- **The gate of `cli_exec`.** A refused command leaves the link and the host as they were.
One that returns was allowed, and is the one line written behind the stop of the session and
the interrupt. -/
theorem cliExec_gate {σ : Type} {E : LinkEnv σ} (link : RefusesNothing E) (command : String)
    (timeout : Time) (acceptResponsibility txToolsEnabled : Bool) (s : Host) (w : σ) :
    let o := run E (cliExec command timeout acceptResponsibility txToolsEnabled) s w
    (∀ e, o.result = .error e → e.isCliRefusal = true → o.trace = [] ∧ o.host = s) ∧
      ∀ value, o.result = .ok value →
        s.transport.supportsCliTextMode = true ∧
        ((CliRisk.classify command).gated = false ∨
          acceptResponsibility = true ∧ txToolsEnabled = true) ∧
        writes (o.trace.map Event.observed) =
          [framed stopSession, [0x03, 0x0D], encodeText command ++ [0x0D]] ∧
        0x0D ∉ encodeText command ∧ 0x0A ∉ encodeText command := by
  dsimp only
  unfold cliExec
  rw [run_bind, run_get]
  dsimp only
  have refused : ∀ e : Exn, let o := (run E (.raise e : Link CliExecResult) s w).after [];
      (∀ e, o.result = .error e → e.isCliRefusal = true → o.trace = [] ∧ o.host = s) ∧
        ∀ value, o.result ≠ .ok value := fun e => ⟨fun _ _ _ => ⟨rfl, rfl⟩, fun _ => nofun⟩
  cases current : s.rpc with
  | none =>
      exact ⟨(refused _).1, fun value returned => absurd returned ((refused _).2 value)⟩
  | some rpc =>
      by_cases text : s.transport.supportsCliTextMode = true
      · simp only [text, Bool.not_true, Bool.false_eq_true, ↓reduceIte]
        rcases checkCommand_cases command acceptResponsibility txToolsEnabled with
          ⟨passed, allowed⟩ | ⟨e, failed, refusal⟩
        · rw [passed]
          obtain ⟨raises, written⟩ := passed_exchange link rpc command timeout s w
          refine ⟨fun e raised refusal => ?_, fun value returned => ?_⟩
          · exact nomatch refusal.symm.trans (raises e raised)
          · exact ⟨trivial, allowed.gates, written value returned,
              encodeText_avoids allowed.noReturn (by decide),
              encodeText_avoids allowed.noNewline (by decide)⟩
        · rw [failed]
          exact ⟨(refused _).1, fun value returned => absurd returned ((refused _).2 value)⟩
      · simp only [text, Bool.not_false, ↓reduceIte]
        exact ⟨(refused _).1, fun value returned => absurd returned ((refused _).2 value)⟩

/-- A device that is silent runs a benign command; a gated one is refused. -/
theorem cliExec_gate_silent :
    let s : Host := { transport := .usb, rpc := some 0 }
    writes ((run chunkQueue (cliExec "storage info /ext") s []).trace.map Event.observed) =
        [framed stopSession, [0x03, 0x0D], encodeText "storage info /ext" ++ [0x0D]] ∧
      (run chunkQueue (cliExec "storage format /ext" 10 true false) s []).trace = [] := by
  have link : RefusesNothing chunkQueue := fun op w => by cases op <;> exact nofun
  intro s
  obtain ⟨value, returned⟩ : ∃ value,
      (run chunkQueue (cliExec "storage info /ext") s []).result = .ok value :=
    ⟨⟨"", false, .benign, none⟩, by decide +kernel⟩
  obtain ⟨-, -, written, -⟩ :=
    (cliExec_gate link "storage info /ext" 10 false false s []).2 value returned
  obtain ⟨untouched, -⟩ := (cliExec_gate link "storage format /ext" 10 true false s []).1
    (.flipperCLIRefusedError ("transmit/destructive commands are disabled on this server; the " ++
      "operator must set FLIPPER_ENABLE_TX_TOOLS=true to allow them")) (by decide +kernel) rfl
  exact ⟨written, untouched⟩

end FlipperMcp
