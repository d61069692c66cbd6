import FlipperMcp.Client.CliGate
import FlipperMcp.Rpc.Denylist

/-! # The dangerous commands of the CLI reference

`reference_cli.md` marks ten families of commands as destructive or gated. Nine of them are
gated however they are spelled; `power reboot2dfu` is not, since its second word only begins
with that of a rule (`documented_gated`).
-/

namespace FlipperMcp

open Coroutine CliRisk ProtobufRPC Python

namespace CliReference

/-- The commands `reference_cli.md` marks as destructive or gated, by their first two words. -/
def dangerous : List (String × String) :=
  [("power", "off"), ("power", "reboot"), ("power", "reboot2dfu"), ("factory", "reset"),
    ("storage", "format"), ("subghz", "tx"), ("rfid", "write"), ("ikey", "write"), ("ir", "tx"),
    ("update", "install")]

/-- What follows a command: nothing, or arguments behind a space. -/
def IsTail (tail : String) : Prop := tail = "" ∨ ∃ gap rest, tail = gap ++ rest ∧ IsGap gap ∧ gap ≠ ""

/-- A spelling of a command: in any case, with any spaces, and with any arguments. -/
structure Spells (command : String) (words : String × String) : Prop where
  spelled : ∃ lead first gap second tail, command = lead ++ first ++ gap ++ second ++ tail ∧
    IsGap lead ∧ SameLetters words.1 first ∧ IsGap gap ∧ gap ≠ "" ∧ SameLetters words.2 second ∧
    IsTail tail

/-- The words of a spelling. -/
theorem Spells.take_tokens {command : String} {words : String × String} (listed : words ∈ dangerous)
    (h : Spells command words) : (tokens command).take 2 = [words.1, words.2] := by
  have lowered : ∀ words ∈ dangerous, tokens words.1 = [words.1] ∧ tokens words.2 = [words.2] := by
    decide +kernel
  obtain ⟨one, two⟩ := lowered words listed
  obtain ⟨lead, first, gap, second, tail, rfl, blank, capitals, between, some_, capitals', ends⟩ :=
    h.spelled
  have front : tokens (lead ++ first) = [words.1] := by
    rw [tokens_front blank, ← tokens_sameLetters capitals, one]
  have back : tokens second = [words.2] := by rw [← tokens_sameLetters capitals', two]
  rcases ends with rfl | ⟨gap', rest, rfl, blank', some_'⟩
  · rw [String.append_empty, tokens_gap between some_, front, back]
    rfl
  · rw [← String.append_assoc, tokens_gap blank' some_', tokens_gap between some_, front, back]
    rfl

/-- A gated command is refused before anything is done, unless both gates are on. -/
theorem cliExec_refuses {σ : Type} (E : LinkEnv σ) {command : String} (timeout : Time)
    {acceptResponsibility txToolsEnabled : Bool}
    (closed : ¬ (acceptResponsibility = true ∧ txToolsEnabled = true))
    (gated : (classify command).gated = true) (s : Host) (w : σ) :
    ∃ e, run E (FlipperClient.cliExec command timeout acceptResponsibility txToolsEnabled) s w =
      ⟨.error e, s, w, []⟩ := by
  unfold FlipperClient.cliExec
  rw [run_bind, run_get]
  dsimp only
  cases s.rpc with
  | none => exact ⟨_, rfl⟩
  | some rpc =>
      by_cases text : s.transport.supportsCliTextMode = true
      · simp only [text, Bool.not_true, Bool.false_eq_true, ↓reduceIte]
        rcases checkCommand_cases command acceptResponsibility txToolsEnabled with
          ⟨-, allowed⟩ | ⟨e, failed, -⟩
        · rcases allowed.gates with open_ | both
          · exact nomatch open_.symm.trans gated
          · exact absurd both closed
        · rw [failed]
          exact ⟨e, rfl⟩
      · simp only [text, Bool.not_false, ↓reduceIte]
        exact ⟨_, rfl⟩

/-- **The commands the reference calls dangerous.** However such a command is spelled: it is
gated, and refused unless both gates are on, exactly if it is not `power reboot2dfu`. -/
theorem documented_gated {σ : Type} (E : LinkEnv σ) (words : String × String)
    (listed : words ∈ dangerous) (command : String) (spells : Spells command words) (timeout : Time)
    (acceptResponsibility txToolsEnabled : Bool)
    (closed : ¬ (acceptResponsibility = true ∧ txToolsEnabled = true)) (s : Host) (w : σ) :
    ((classify command).gated = true ∧
      ∃ e, run E (FlipperClient.cliExec command timeout acceptResponsibility txToolsEnabled) s w =
        ⟨.error e, s, w, []⟩) ↔ words ≠ ("power", "reboot2dfu") := by
  have start := spells.take_tokens listed
  have ruled : ∀ words ∈ dangerous, (∃ rule ∈ denylist, [words.1, words.2] = split rule.1) ↔
      words ≠ ("power", "reboot2dfu") := by
    decide +kernel
  have gates : (classify command).gated = true ↔ words ≠ ("power", "reboot2dfu") := by
    rw [gated_iff, start]
    exact ruled words listed
  constructor
  · exact fun both => gates.mp both.1
  · exact fun other => ⟨gates.mpr other, cliExec_refuses E timeout closed (gates.mpr other) s w⟩

/-- A capital, two spaces and an argument. -/
theorem documented_gated_transmit :
    (classify "SubGhz  tx from file").gated = true := by
  have spells : Spells "SubGhz  tx from file" ("subghz", "tx") := by
    refine ⟨"", "SubGhz", "  ", "tx", " from file", by decide +kernel, by decide, ?_, by decide,
      by decide, ?_, .inr ⟨" ", "from file", by decide +kernel, isGap_space, by decide⟩⟩
    · unfold SameLetters
      decide +kernel
    · unfold SameLetters
      decide +kernel
  exact ((documented_gated chunkQueue ("subghz", "tx") (by decide) "SubGhz  tx from file" spells 10
    false false (by decide) { transport := .usb } []).mpr (by decide)).1

/-- Without any gate the device is rebooted into its boot loader. -/
theorem documented_gated_fails :
    ("power", "reboot2dfu") ∈ dangerous ∧ Spells "power reboot2dfu" ("power", "reboot2dfu") ∧
      (classify "power reboot2dfu").gated = false ∧
      writes ((run chunkQueue (FlipperClient.cliExec "power reboot2dfu")
        { transport := .usb, rpc := some 0 } []).trace.map Event.observed) =
        [framed stopSession, [0x03, 0x0D], encodeText "power reboot2dfu" ++ [0x0D]] := by
  refine ⟨by decide, ⟨"", "power", " ", "reboot2dfu", "", by decide +kernel, by decide, ?_,
    isGap_space, by decide, ?_, .inl rfl⟩, by decide +kernel, by decide +kernel⟩
  · unfold SameLetters
    decide +kernel
  · unfold SameLetters
    decide +kernel

end CliReference

end FlipperMcp
