import FlipperMcp.Client.Basic
import FlipperMcp.Python.Trailing

/-! # The output of a command line

`_cli_exchange` reads up to a prompt twice: what was emitted before the command line, and the
response to it. A read stops as soon as what has arrived ends in a prompt, and clearing the
receive buffer does not touch what the link still holds. The exchange returns the output of
the response if and only if neither read is cut behind a prompt that is not the last one
(`cliExchange_attributed`).
-/

namespace FlipperMcp

open Coroutine ProtobufRPC

namespace FlipperClient

/-- A space behind a byte that ends no line does not show in the output. -/
theorem stripCliOutput_concat (raw : Bytes) {last : UInt8} {c : Char} (ascii : last < 0x80)
    (single : Python.decodeFrom 0 [last] = [c]) (plain : Python.isLineEnd c = false)
    (command : String) :
    stripCliOutput (raw ++ [last] ++ [0x20]) command = stripCliOutput (raw ++ [last]) command := by
  obtain ⟨lines, line, ends⟩ := Python.linesFrom_append [] (Python.decodeFrom 0 raw)
  have decoded : Python.decodeFrom 0 (raw ++ [last]) = Python.decodeFrom 0 raw ++ [c] :=
    Python.decodeFrom_concat ascii single 0 raw (Nat.zero_le _)
  have longer : Python.decodeFrom 0 (raw ++ [last] ++ [0x20]) = Python.decodeFrom 0 raw ++ [c, ' '] := by
    rw [Python.decodeFrom_concat (by decide) rfl 0 _ (Nat.zero_le _), decoded, List.append_assoc]
    rfl
  have split : Python.linesFrom [] (Python.decodeFrom 0 (raw ++ [last])) = lines ++ [line ++ [c]] := by
    rw [decoded]
    exact ends [c] (List.cons_ne_nil _ _) fun c' member => List.mem_singleton.mp member ▸ plain
  have split' : Python.linesFrom [] (Python.decodeFrom 0 (raw ++ [last] ++ [0x20])) =
      lines ++ [line ++ [c] ++ [' ']] := by
    rw [longer, List.append_assoc]
    apply ends [c, ' '] (List.cons_ne_nil _ _)
    intro c' member
    rcases List.mem_cons.mp member with rfl | space
    · exact plain
    · rw [List.mem_singleton.mp space]
      rfl
  unfold stripCliOutput Python.splitlines Python.decodeReplace
  rw [String.toList_ofList, String.toList_ofList, split, split']
  cases lines with
  | nil =>
      have echo := Python.contains_concat (Python.strip_ne_concat command) (line ++ [c])
      simp only [List.nil_append, List.map_cons, List.map_nil, echo]
      by_cases found : Python.contains (Python.strip command) (String.ofList (line ++ [c])) = true
      · simp only [found, ↓reduceIte]
      · simp only [found, Bool.false_eq_true, ↓reduceIte]
        exact Python.strip_replace_concat (Python.intercalate_concat [] (line ++ [c]))
  | cons first lines =>
      simp only [List.cons_append, List.map_cons]
      by_cases found : Python.contains (Python.strip command) (String.ofList first) = true
      · simp only [found, ↓reduceIte]
        exact Python.strip_replace_concat (Python.intercalate_concat lines (line ++ [c]))
      · simp only [found, Bool.false_eq_true, ↓reduceIte]
        exact Python.strip_replace_concat (Python.intercalate_concat (first :: lines) (line ++ [c]))

/-! ## The line -/

/-- White space aside, it ends in the prompt. -/
def EndsInPrompt (bytes : Bytes) : Prop := cliPrompt <:+ Python.rstrip bytes

instance : DecidablePred EndsInPrompt := fun bytes =>
  inferInstanceAs (Decidable (cliPrompt <:+ Python.rstrip bytes))

/-- One of the receives ends behind the first `n` bytes. -/
def Cut (slices : List ℕ) (n : ℕ) : Prop := ∃ k, n = (slices.take k).sum

/-- The other end of a link that carries the text shell. -/
structure Terminal where
  /-- Emitted, and not read yet. -/
  unread : Bytes
  /-- What Ctrl-C and CR are answered with. -/
  interrupted : Bytes
  /-- What the command line is answered with. -/
  response : Bytes
  /-- How many bytes each receive hands over at most, up to the deadline. -/
  slices : List ℕ := []
  /-- The same behind each later deadline. -/
  schedule : List (List ℕ)
  /-- Read since the command line. -/
  taken : Bytes := []
  deriving DecidableEq

namespace Terminal

/-- `n` bytes are read, and some slices are left. -/
def advance (n : ℕ) (slices : List ℕ) (w : Terminal) : Terminal :=
  { w with unread := w.unread.drop n, taken := w.taken ++ w.unread.take n, slices }

/-- The next deadline starts. -/
def next (w : Terminal) : Terminal :=
  { w with slices := w.schedule.headD [], schedule := w.schedule.tail }

variable (n m : ℕ) (slices slices' : List ℕ) (w : Terminal)

theorem advance_advance :
    (w.advance n slices).advance m slices' = w.advance (n + m) slices' := by
  unfold advance
  simp only [List.drop_drop, List.take_add, List.append_assoc]

theorem advance_zero : w.advance 0 w.slices = w := by
  unfold advance
  simp only [List.drop_zero, List.take_zero, List.append_nil]

end Terminal

/-- A terminal as an environment. -/
def terminal : LinkEnv Terminal
  | .send .cliInterrupt _, w => (.ok (), { w with unread := w.unread ++ w.interrupted })
  | .send .cliCommand _, w => (.ok (), { w with unread := w.unread ++ w.response, taken := [] })
  | .receive _, w =>
      (.ok (w.unread.take (w.slices.headD 0)), w.advance (w.slices.headD 0) w.slices.tail)
  | .deadline _, w => (.ok w.next.slices.length, w.next)
  | .connect, w => (.ok (some .usb), w)
  | .isConnected, w => (.ok true, w)
  | .monotonic, w => (.ok (0 : Time), w)
  | .patience, w => (.ok (0 : ℕ), w)
  | .disconnect, w | .send _ _, w | .sleep _, w | .startTimeout _, w | .stopTimeout, w =>
      (.ok (), w)

/-- Where a read stops: at the first cut behind a prompt, or with the last receive. -/
inductive StopsAt (slices : List ℕ) (buf bytes : Bytes) : ℕ → Bool → Prop
  | prompt (n : ℕ) (cut : Cut slices n) (ends : EndsInPrompt (buf ++ bytes.take n))
      (first : ∀ m, Cut slices m → EndsInPrompt (buf ++ bytes.take m) → n ≤ m) :
      StopsAt slices buf bytes n true
  | late (none_ : ∀ m, Cut slices m → ¬ EndsInPrompt (buf ++ bytes.take m)) :
      StopsAt slices buf bytes slices.sum false

section Cuts

variable {slices : List ℕ} {size n : ℕ} {buf bytes : Bytes}

theorem cut_sum (slices : List ℕ) : Cut slices slices.sum := ⟨slices.length, by rw [List.take_length]⟩

theorem Cut.cons (h : Cut slices n) : Cut (size :: slices) (size + n) := by
  obtain ⟨k, rfl⟩ := h
  exact ⟨k + 1, by rw [List.take_succ_cons, List.sum_cons]⟩

theorem cut_cons (h : Cut (size :: slices) n) : n = 0 ∨ ∃ m, n = size + m ∧ Cut slices m := by
  obtain ⟨k, rfl⟩ := h
  cases k with
  | zero => exact .inl rfl
  | succ k => exact .inr ⟨_, by rw [List.take_succ_cons, List.sum_cons], k, rfl⟩

theorem cut_nil (h : Cut [] n) : n = 0 := by
  obtain ⟨k, rfl⟩ := h
  rw [List.take_nil, List.sum_nil]

/-- A first receive behind which the read stops. -/
theorem StopsAt.first (unfinished : ¬ EndsInPrompt buf)
    (ends : EndsInPrompt (buf ++ bytes.take size)) :
    StopsAt (size :: slices) buf bytes size true := by
  apply StopsAt.prompt size ⟨1, by rw [List.take_succ_cons, List.take_zero, List.sum_singleton]⟩ ends
  intro m cut prompt
  rcases cut_cons cut with rfl | ⟨m, rfl, _⟩
  · rw [List.take_zero, List.append_nil] at prompt
    exact absurd prompt unfinished
  · exact Nat.le_add_right ..

/-- A first receive behind which the read goes on. -/
theorem StopsAt.cons {found : Bool} (unfinished : ¬ EndsInPrompt buf)
    (h : StopsAt slices (buf ++ bytes.take size) (bytes.drop size) n found) :
    StopsAt (size :: slices) buf bytes (size + n) found := by
  have same : ∀ m, buf ++ bytes.take (size + m) = buf ++ bytes.take size ++ (bytes.drop size).take m := by
    intro m
    rw [List.take_add, List.append_assoc]
  cases h with
  | prompt n cut ends first =>
      apply StopsAt.prompt (size + n) cut.cons
      · rw [same]
        exact ends
      · intro m cut prompt
        rcases cut_cons cut with rfl | ⟨m, rfl, later⟩
        · rw [List.take_zero, List.append_nil] at prompt
          exact absurd prompt unfinished
        · rw [same] at prompt
          exact Nat.add_le_add_left (first m later prompt) size
  | late none_ =>
      rw [← List.sum_cons]
      apply StopsAt.late
      intro m cut
      rcases cut_cons cut with rfl | ⟨m, rfl, later⟩
      · rw [List.take_zero, List.append_nil]
        exact unfinished
      · rw [same]
        exact none_ m later

end Cuts

section Reads

variable {s : Host}

theorem terminal_receive (wait : Wait) {w : Terminal} {size : ℕ} {slices : List ℕ}
    (left : w.slices = size :: slices) :
    terminal (.receive wait) w = (.ok (w.unread.take size), w.advance size slices) := by
  change (Except.ok (w.unread.take (w.slices.headD 0)), w.advance (w.slices.headD 0) w.slices.tail) = _
  rw [left]
  rfl

/-- The loop of a read. -/
theorem wp_readUntilPromptLoop (slices : List ℕ) {buf : Bytes} (unfinished : ¬ EndsInPrompt buf)
    {w : Terminal} (left : w.slices = slices) :
    wp terminal (fun _ => True) (readUntilPromptLoop slices.length buf) (fun result s' w' =>
      ∃ n found rest, StopsAt slices buf w.unread n found ∧
        result = .ok (buf ++ w.unread.take n, found) ∧ s' = s ∧ w' = w.advance n rest) s w := by
  induction slices generalizing buf w with
  | nil =>
      have late : StopsAt [] buf w.unread ([] : List ℕ).sum false := by
        apply StopsAt.late
        intro m cut
        rw [cut_nil cut, List.take_zero, List.append_nil]
        exact unfinished
      apply wp_ret.mpr
      refine ⟨0, false, w.slices, late, ?_, rfl, w.advance_zero.symm⟩
      rw [List.take_zero, List.append_nil]
  | cons size slices ih =>
      unfold readUntilPromptLoop
      rw [List.length_cons]
      apply wp_bind.mpr
      apply Link.wp_receive.mpr
      rw [terminal_receive _ left]
      refine ⟨trivial, ?_⟩
      dsimp only
      by_cases stops : w.unread.take size ≠ [] ∧ cliPrompt <:+ Python.rstrip (buf ++ w.unread.take size)
      · rw [if_pos stops]
        apply wp_ret.mpr
        exact ⟨size, true, slices, .first unfinished stops.2, rfl, rfl, rfl⟩
      · have goes : ¬ EndsInPrompt (buf ++ w.unread.take size) := by
          intro ends
          by_cases nothing : w.unread.take size = []
          · rw [nothing, List.append_nil] at ends
            exact unfinished ends
          · exact stops ⟨nothing, ends⟩
        rw [if_neg stops]
        have reached := ih goes (w := w.advance size slices) rfl
        apply reached.mono
        rintro result s' w' ⟨n, found, rest, later, rfl, same, moved⟩
        refine ⟨size + n, found, rest, later.cons unfinished, ?_, same, ?_⟩
        · rw [List.take_add, ← List.append_assoc]
          rfl
        · rw [moved, Terminal.advance_advance]

/-- `_read_until_prompt`. -/
theorem wp_readUntilPrompt (timeout : Time) (w : Terminal) :
    wp terminal (fun _ => True) (readUntilPrompt timeout) (fun result s' w' =>
      ∃ n found rest, StopsAt w.next.slices [] w.unread n found ∧
        result = .ok (w.unread.take n, found) ∧ s' = s ∧ w' = w.next.advance n rest) s w := by
  have unfinished : ¬ EndsInPrompt [] := by decide
  unfold readUntilPrompt
  apply wp_bind.mpr
  apply Link.wp_deadline.mpr
  exact ⟨trivial, wp_readUntilPromptLoop w.next.slices unfinished rfl⟩

/-- `_drain_host_rx` reads to its deadline. -/
theorem wp_drainHostRx_terminal (maxSeconds : Time) (w : Terminal) :
    wp terminal (fun _ => True) (drainHostRx maxSeconds) (fun result s' w' =>
      result = .ok () ∧ s' = s ∧ w' = w.next.advance w.next.slices.sum []) s w := by
  have loop : ∀ (slices : List ℕ) (w : Terminal), w.slices = slices →
      wp terminal (fun _ => True) (drainHostRxLoop slices.length) (fun result s' w' =>
        result = .ok () ∧ s' = s ∧ w' = w.advance slices.sum []) s w := by
    intro slices
    induction slices with
    | nil =>
        intro w left
        apply wp_ret.mpr
        refine ⟨rfl, rfl, ?_⟩
        rw [List.sum_nil, ← left]
        exact w.advance_zero.symm
    | cons size slices ih =>
        intro w left
        have goes := ih (w.advance size slices) rfl
        rw [Terminal.advance_advance, ← List.sum_cons] at goes
        unfold drainHostRxLoop
        apply wp_bind.mpr
        apply Link.wp_receive.mpr
        rw [terminal_receive _ left]
        refine ⟨trivial, ?_⟩
        dsimp only
        by_cases nothing : w.unread.take size = []
        · rw [if_pos nothing]
          apply wp_bind.mpr
          apply Link.wp_sleep.mpr
          exact ⟨trivial, goes⟩
        · rw [if_neg nothing]
          exact goes
  unfold drainHostRx
  apply Link.wp_orElse.mpr
  apply wp_bind.mpr
  apply Link.wp_deadline.mpr
  refine ⟨trivial, ?_⟩
  apply (loop w.next.slices w.next rfl).mono
  rintro result s' w' ⟨rfl, same, drained⟩
  exact ⟨rfl, same, drained⟩

end Reads

/-! ## The exchange -/

/-- A response: what is echoed, the body, and the prompt with the spaces behind it. -/
structure Response where
  echo : Bytes
  body : Bytes
  spaces : ℕ
  deriving DecidableEq

namespace Response

/-- The response up to its final prompt. -/
def upToPrompt (r : Response) : Bytes := r.echo ++ r.body ++ cliPrompt

/-- The response. -/
def bytes (r : Response) : Bytes := r.upToPrompt ++ List.replicate r.spaces 0x20

end Response

/-- What the device emits during an exchange, and how it arrives. -/
structure Transcript where
  /-- Emitted before Ctrl-C and CR reach the device. -/
  earlier : Bytes
  /-- Emitted from there on until the command line reaches it. -/
  interrupted : Bytes
  response : Response
  /-- How many bytes the receives hand over at most that leave the RPC session, -/
  stopSlices : List ℕ
  /-- those behind Ctrl-C and CR, -/
  interruptSlices : List ℕ
  /-- and those behind the command line. -/
  commandSlices : List ℕ

namespace Transcript

/-- Where the exchange starts. -/
def start (t : Transcript) : Terminal where
  unread := t.earlier
  interrupted := t.interrupted
  response := t.response.bytes
  schedule := [t.stopSlices, t.interruptSlices, t.commandSlices]

/-- What was emitted before the command line, and not read while the session was left. -/
def pending (t : Transcript) : Bytes := t.earlier.drop t.stopSlices.sum ++ t.interrupted

/-- Everything arrives within the timeouts. -/
def Arrives (t : Transcript) : Prop :=
  t.pending.length ≤ t.interruptSlices.sum ∧ t.response.bytes.length ≤ t.commandSlices.sum

/-- No receive is cut behind a prompt with something pending behind it, or behind a prompt
inside the response. -/
def Unambiguous (t : Transcript) : Prop :=
  (∀ n, Cut t.interruptSlices n → EndsInPrompt (t.pending.take n) → t.pending.length ≤ n) ∧
    ∀ n, Cut t.commandSlices n → EndsInPrompt (t.response.bytes.take n) →
      t.response.upToPrompt.length ≤ n

/-- The exchange completes with the output of the response: what was read behind the command
line is of the response alone, up to its final prompt. -/
structure Attributed (t : Transcript) (command : String)
    (o : Outcome Host linkSignature Exn Terminal (String × Bool)) : Prop where
  result : o.result = .ok (stripCliOutput t.response.bytes command, true)
  own : o.world.taken ++ o.world.unread = t.response.bytes
  whole : t.response.upToPrompt <+: o.world.taken

end Transcript

section Exchange

/-- **What an exchange reads.** -/
theorem wp_cliExchange (rpc : Handle) (command : String) (timeout : Time) (s : Host) (t : Transcript) :
    wp terminal (fun _ => True) (cliExchange rpc command timeout) (fun result _ w' =>
      ∃ n found n' found', StopsAt t.interruptSlices [] t.pending n found ∧
        StopsAt t.commandSlices [] (t.pending.drop n ++ t.response.bytes) n' found' ∧
        result = .ok (stripCliOutput ((t.pending.drop n ++ t.response.bytes).take n') command, found') ∧
        w'.taken = (t.pending.drop n ++ t.response.bytes).take n' ∧
        w'.unread = (t.pending.drop n ++ t.response.bytes).drop n') s t.start := by
  unfold cliExchange sendStopSession
  apply wp_bind.mpr
  apply wp_bind.mpr
  apply Link.wp_send.mpr
  refine ⟨trivial, ?_⟩
  apply wp_bind.mpr
  apply (wp_drainHostRx_terminal (2 / 5) _).mono
  rintro _ s₁ w₁ ⟨rfl, -, rfl⟩
  apply wp_modify.mpr
  apply wp_bind.mpr
  apply wp_modify.mpr
  apply wp_bind.mpr
  apply wp_modify.mpr
  apply wp_bind.mpr
  apply Link.wp_send.mpr
  refine ⟨trivial, ?_⟩
  apply wp_bind.mpr
  apply (wp_readUntilPrompt 2 _).mono
  rintro _ s₂ w₂ ⟨n, found, rest, drained, rfl, -, rfl⟩
  apply wp_bind.mpr
  apply wp_modify.mpr
  apply wp_bind.mpr
  apply Link.wp_send.mpr
  refine ⟨trivial, ?_⟩
  apply wp_bind.mpr
  apply (wp_readUntilPrompt timeout _).mono
  rintro _ s₃ w₃ ⟨n', found', rest', read, rfl, -, rfl⟩
  apply wp_ret.mpr
  exact ⟨n, found, n', found', drained, read, rfl, List.nil_append _, rfl⟩

/-- The spaces behind a prompt do not show in the output. -/
theorem stripCliOutput_spaces (front : Bytes) (spaces : ℕ) (command : String) :
    stripCliOutput (front ++ cliPrompt ++ List.replicate spaces 0x20) command =
      stripCliOutput (front ++ cliPrompt) command := by
  induction spaces with
  | zero => rw [List.replicate_zero, List.append_nil]
  | succ spaces ih =>
      rw [← ih, List.replicate_succ', ← List.append_assoc]
      cases spaces with
      | zero =>
          have prompt : front ++ cliPrompt = front ++ [0x3E] ++ [0x3A] := by
            rw [List.append_assoc]
            rfl
          rw [List.replicate_zero, List.append_nil, prompt]
          exact stripCliOutput_concat _ (by decide) rfl rfl command
      | succ spaces =>
          rw [List.replicate_succ', ← List.append_assoc]
          exact stripCliOutput_concat _ (by decide) rfl rfl command

/-- Reading a response beyond its final prompt makes no difference. -/
theorem Response.output (r : Response) {n : ℕ} (whole : r.upToPrompt.length ≤ n) (command : String) :
    stripCliOutput (r.bytes.take n) command = stripCliOutput r.bytes command := by
  have read : r.bytes.take n =
      r.upToPrompt ++ List.replicate (min (n - r.upToPrompt.length) r.spaces) 0x20 := by
    unfold Response.bytes
    rw [List.take_append, List.take_of_length_le whole, List.take_replicate]
  rw [read]
  exact (stripCliOutput_spaces _ _ command).trans (stripCliOutput_spaces _ r.spaces command).symm

theorem Response.endsInPrompt (r : Response) : EndsInPrompt r.bytes := by
  have stripped : Python.rstrip r.bytes = r.upToPrompt := by
    have blank : ∀ byte ∈ List.replicate r.spaces (0x20 : UInt8),
        decide (byte ∈ [(0x20 : UInt8), 0x9, 0xA, 0xB, 0xC, 0xD]) = true := by
      intro byte member
      rw [List.eq_of_mem_replicate member]
      rfl
    have prompt : r.upToPrompt.reverse = 0x3A :: 0x3E :: (r.echo ++ r.body).reverse :=
      List.reverse_append
    unfold Python.rstrip Response.bytes
    rw [List.reverse_append, List.reverse_replicate, List.dropWhile_append_of_pos blank, prompt,
      List.dropWhile_cons_of_neg (by decide), ← prompt, List.reverse_reverse]
  unfold EndsInPrompt
  rw [stripped]
  exact List.suffix_append ..

/-- **Attribution.** When everything arrives within the timeouts, the exchange returns the output
of the response, whatever was emitted before and however it is cut, if and only if no receive
ends behind a prompt that is not the last. -/
theorem cliExchange_attributed (rpc : Handle) (command : String) (timeout : Time) (s : Host)
    (t : Transcript) (arrives : t.Arrives) :
    t.Attributed command (run terminal (cliExchange rpc command timeout) s t.start) ↔
      t.Unambiguous := by
  obtain ⟨n, found, n', found', drained, read, result, taken, unread⟩ :=
    (wp_cliExchange rpc command timeout s t).2
  constructor
  · rintro ⟨-, own, whole⟩
    have nothing : t.pending.drop n = [] := by
      rw [taken, unread, List.take_append_drop] at own
      exact List.append_left_eq_self.mp own
    rw [nothing, List.nil_append] at read taken
    have bounded : t.pending.length ≤ n := List.drop_eq_nil_iff.mp nothing
    have reached : t.response.upToPrompt.length ≤ n' := by
      rw [taken] at whole
      exact whole.length_le.trans (List.length_take_le ..)
    constructor
    · intro m cut ends
      cases drained with
      | prompt n _ _ first => exact bounded.trans (first m cut ends)
      | late none_ => exact absurd ends (none_ m cut)
    · intro m cut ends
      cases read with
      | prompt n' _ _ first => exact reached.trans (first m cut ends)
      | late none_ => exact absurd ends (none_ m cut)
  · rintro ⟨before, behind⟩
    have nothing : t.pending.drop n = [] := by
      apply List.drop_eq_nil_iff.mpr
      cases drained with
      | prompt n cut ends _ => exact before n cut ends
      | late _ => exact arrives.1
    rw [nothing, List.nil_append] at read result taken unread
    cases read with
    | late none_ =>
        have ends := none_ _ (cut_sum _)
        rw [List.nil_append, List.take_of_length_le arrives.2] at ends
        exact absurd t.response.endsInPrompt ends
    | prompt n' cut ends _ =>
        have reached := behind n' cut ends
        constructor
        · rw [result, t.response.output reached]
        · rw [taken, unread, List.take_append_drop]
        · have front : t.response.upToPrompt <+: t.response.bytes := List.prefix_append ..
          rw [taken]
          apply List.prefix_of_prefix_length_le front (List.take_prefix ..)
          rw [List.length_take]
          exact Nat.le_min.mpr ⟨reached, front.length_le⟩

/-- A response to `device info`. -/
def deviceInfoResponse : Response where
  echo := encodeText "device info\r\n"
  body := encodeText "hardware: flipper\r\n"
  spaces := 1

/-- Ctrl-C and CR are answered by a prompt each, and everything arrives at once. -/
def wholeTranscript : Transcript where
  earlier := []
  interrupted := encodeText ">: \r\n>: "
  response := deviceInfoResponse
  stopSlices := []
  interruptSlices := [8]
  commandSlices := [64]

/-- Received at once, the prompts are taken for what they are. -/
theorem cliExchange_attributed_whole :
    wholeTranscript.Attributed "device info"
      (run terminal (cliExchange 0 "device info" 10) { transport := .usb } wholeTranscript.start) := by
  have arrives : wholeTranscript.Arrives := by
    unfold Transcript.Arrives
    decide +kernel
  apply (cliExchange_attributed 0 "device info" 10 { transport := .usb } wholeTranscript arrives).mpr
  constructor
  · rintro n ⟨k, rfl⟩ ends
    cases k with
    | zero => exact absurd ends (by decide +kernel)
    | succ k => exact Nat.le_add_right ..
  · rintro n ⟨k, rfl⟩ ends
    cases k with
    | zero => exact absurd ends (by decide +kernel)
    | succ k => exact Nat.le_trans (by decide +kernel) (Nat.le_add_right 64 _)

/-- The same, with the two prompts in a receive each. -/
def splitTranscript : Transcript := { wholeTranscript with interruptSlices := [3, 5], commandSlices := [5, 64] }

/-- The second prompt is taken for the end of the response. -/
theorem cliExchange_stale_prompt :
    ¬ ∀ (rpc : Handle) (command : String) (timeout : Time) (s : Host) (t : Transcript), t.Arrives →
      t.Attributed command (run terminal (cliExchange rpc command timeout) s t.start) := by
  intro claimed
  have arrives : splitTranscript.Arrives := by
    unfold Transcript.Arrives
    decide +kernel
  have output : (run terminal (cliExchange 0 "device info" 10) { transport := .usb }
      splitTranscript.start).result.toOption.map Prod.fst = some "" := by
    decide +kernel
  rw [(claimed 0 "device info" 10 { transport := .usb } splitTranscript arrives).result] at output
  have expected : stripCliOutput splitTranscript.response.bytes "device info" = "hardware: flipper" := by
    decide +kernel
  exact absurd (expected.symm.trans (Option.some.inj output)) (by decide +kernel)

end Exchange

end FlipperClient

end FlipperMcp
