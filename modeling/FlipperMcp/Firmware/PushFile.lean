import FlipperMcp.Coroutine.Script
import FlipperMcp.Firmware.Verified

/-! # Pushing one file

`_push_file` writes and verifies in attempts, with a resync between them. A script of
device results falls into the calls of the attempts, and what the loop carries from one
attempt to the next is what the attempts so far came to. So the file is written again only
for a reason, and the push ends well exactly when a verification matches.
-/

namespace FlipperMcp

open Coroutine

namespace Installer

/-- One pass of the loop: what its write and its verification came to, where it made one. -/
structure Attempt where
  wrote : Option (Except Exn Bool)
  verdict : Option (Except Exn Md5Status)

/-- The exception of a call that is not caught. -/
def escaping {α : Type} : Option (Except Exn α) → Option Exn
  | some (.error e) => if wedged e then none else some e
  | _ => none

/-- The exception that ends the push in this attempt. -/
def Attempt.escaped (attempt : Attempt) : Option Exn :=
  (escaping attempt.wrote).or (escaping attempt.verdict)

section

variable (md5 : Bytes → String) (dest : String) (data : Bytes)

/-- The call of the write of an attempt. -/
def writeCalls (rpc : Handle) : Option (Except Exn Bool) → List DeviceCall
  | none => []
  | some answer => [⟨.storageWrite rpc dest data, answer⟩]

/-- The calls of the verification of an attempt. -/
def VerdictCalls (rpc : Handle) (calls : List DeviceCall) : Option (Except Exn Md5Status) → Prop
  | none => calls = []
  | some verdict => Plays (verifyWritten md5 rpc dest data) () calls verdict ()

/-- The calls of an attempt. -/
def AttemptCalls (rpc : Handle) (calls : List DeviceCall) (attempt : Attempt) : Prop :=
  ∃ checks, calls = writeCalls dest data rpc attempt.wrote ++ checks ∧
    VerdictCalls md5 dest data rpc checks attempt.verdict

/-- A script as the calls of attempts, with a resync and a pause between two of them, and
the exception that ends it early, if one does. -/
inductive PushScript : Handle → List DeviceCall → List Attempt → Option Exn → Prop
  | last {rpc : Handle} {calls : List DeviceCall} {attempt : Attempt}
      (made : AttemptCalls md5 dest data rpc calls attempt) :
      PushScript rpc calls [attempt] attempt.escaped
  | resyncRaised {rpc : Handle} {calls : List DeviceCall} {attempt : Attempt} {e : Exn}
      (made : AttemptCalls md5 dest data rpc calls attempt) :
      PushScript rpc (calls ++ [⟨.resync, .error e⟩]) [attempt] (some e)
  | pauseRaised {rpc fresh : Handle} {calls : List DeviceCall} {attempt : Attempt} {e : Exn}
      (made : AttemptCalls md5 dest data rpc calls attempt) :
      PushScript rpc (calls ++ [⟨.resync, .ok fresh⟩, ⟨.sleep postWriteSettle, .error e⟩])
        [attempt] (some e)
  | again {rpc fresh : Handle} {calls rest : List DeviceCall} {attempt : Attempt}
      {attempts : List Attempt} {escaped : Option Exn}
      (made : AttemptCalls md5 dest data rpc calls attempt)
      (later : PushScript fresh rest attempts escaped) :
      PushScript rpc (calls ++ ⟨.resync, .ok fresh⟩ :: ⟨.sleep postWriteSettle, .ok ()⟩ :: rest)
        (attempt :: attempts) escaped

end

/-- What the last write came to. -/
def lastWrite (attempts : List Attempt) : Option (Except Exn Bool) :=
  attempts.foldl (fun last attempt => attempt.wrote.or last) none

/-- What the last verification came to. -/
def lastVerdict (attempts : List Attempt) : Option (Except Exn Md5Status) :=
  attempts.foldl (fun last attempt => attempt.verdict.or last) none

/-- The status a verification leaves in the loop. -/
def statusOf : Option (Except Exn Md5Status) → Md5Status
  | some (.ok verdict) => verdict
  | _ => .unreadable

/-- The file is written and no verification has disagreed with it. -/
def Pending (attempts : List Attempt) : Prop :=
  lastWrite attempts = some (.ok true) ∧ lastVerdict attempts ≠ some (.ok .mismatch)

/-- Some write succeeded. -/
def EverWritten (attempts : List Attempt) : Prop :=
  ∃ attempt ∈ attempts, attempt.wrote = some (.ok true)

/-- A successful write, made in the same attempt or in an earlier one, was verified. -/
def Landed (attempts : List Attempt) : Prop :=
  ∃ earlier attempt, earlier ++ [attempt] <+: attempts ∧
    lastWrite (earlier ++ [attempt]) = some (.ok true) ∧ attempt.verdict = some (.ok .match)

/-- A file is written again only behind a failed write or a definitive mismatch. -/
def ResendsWhatIsNeeded (attempts : List Attempt) : Prop :=
  ∀ earlier attempt, earlier ++ [attempt] <+: attempts → attempt.wrote ≠ none →
    ∀ answer, lastWrite earlier = some answer →
      answer ≠ .ok true ∨ lastVerdict earlier = some (.ok .mismatch)

/-- The resyncs of a script. -/
def resyncs (script : List DeviceCall) : ℕ :=
  script.countP fun call => call.1 = .resync

/-- An attempt writes unless the file is pending, and verifies what is written. -/
def Regular (attempts : List Attempt) : Prop :=
  ∀ earlier attempt, earlier ++ [attempt] <+: attempts →
    (attempt.wrote = none ↔ Pending earlier) ∧
      (attempt.verdict = none ↔ lastWrite (earlier ++ [attempt]) ≠ some (.ok true))

section Attempts

variable {earlier : List Attempt} {attempt : Attempt}

theorem lastWrite_concat (earlier : List Attempt) (attempt : Attempt) :
    lastWrite (earlier ++ [attempt]) = attempt.wrote.or (lastWrite earlier) := by
  unfold lastWrite
  rw [List.foldl_append]
  rfl

theorem lastVerdict_concat (earlier : List Attempt) (attempt : Attempt) :
    lastVerdict (earlier ++ [attempt]) = attempt.verdict.or (lastVerdict earlier) := by
  unfold lastVerdict
  rw [List.foldl_append]
  rfl

theorem everWritten_concat :
    EverWritten (earlier ++ [attempt]) ↔ EverWritten earlier ∨ attempt.wrote = some (.ok true) := by
  unfold EverWritten
  simp only [List.mem_append, List.mem_singleton, or_and_right, exists_or, exists_eq_left]

theorem landed_concat :
    Landed (earlier ++ [attempt]) ↔ Landed earlier ∨
      (lastWrite (earlier ++ [attempt]) = some (.ok true) ∧ attempt.verdict = some (.ok .match)) := by
  constructor
  · rintro ⟨before, last, part, wrote, matched⟩
    rcases List.prefix_concat_iff.mp part with whole | part
    · obtain ⟨rfl, same⟩ := List.append_inj' whole rfl
      obtain rfl := List.singleton_inj.mp same
      exact .inr ⟨wrote, matched⟩
    · exact .inl ⟨before, last, part, wrote, matched⟩
  · rintro (⟨before, last, part, wrote, matched⟩ | ⟨wrote, matched⟩)
    · exact ⟨before, last, part.trans (List.prefix_append ..), wrote, matched⟩
    · exact ⟨earlier, attempt, List.prefix_rfl, wrote, matched⟩

theorem not_prefix_nil : ¬ earlier ++ [attempt] <+: [] := fun part =>
  List.append_ne_nil_of_right_ne_nil earlier (List.cons_ne_nil attempt []) (List.prefix_nil.mp part)

theorem regular_nil : Regular [] := fun _ _ part => absurd part not_prefix_nil

theorem Regular.concat (regular : Regular earlier) (writes : attempt.wrote = none ↔ Pending earlier)
    (verifies : attempt.verdict = none ↔ lastWrite (earlier ++ [attempt]) ≠ some (.ok true)) :
    Regular (earlier ++ [attempt]) := by
  intro before last part
  rcases List.prefix_concat_iff.mp part with whole | part
  · obtain ⟨rfl, same⟩ := List.append_inj' whole rfl
    obtain rfl := List.singleton_inj.mp same
    exact ⟨writes, verifies⟩
  · exact regular before last part

/-- Attempts that write only what is not pending send again only what is needed. -/
theorem Regular.resends {attempts : List Attempt} (regular : Regular attempts) :
    ResendsWhatIsNeeded attempts := by
  intro earlier attempt part wrote answer last
  by_cases disagreed : lastVerdict earlier = some (.ok .mismatch)
  · exact .inr disagreed
  · refine .inl fun succeeded => wrote ?_
    exact (regular earlier attempt part).1.mpr ⟨succeeded ▸ last, disagreed⟩

end Attempts

/-- The loop variables say what the attempts so far came to. -/
structure LoopState (attempts : List Attempt) (written everWritten : Bool) (status : Md5Status) :
    Prop where
  regular : Regular attempts
  unlanded : ¬ Landed attempts
  written : written = true ↔ Pending attempts
  everWritten : everWritten = true ↔ EverWritten attempts
  status : status = statusOf (lastVerdict attempts)

theorem LoopState.start : LoopState [] false false .unreadable where
  regular := regular_nil
  unlanded := fun ⟨_, _, part, _⟩ => not_prefix_nil part
  written := by simp [Pending, lastWrite]
  everWritten := by simp [EverWritten]
  status := rfl

/-- A result with a fallback in place of the exceptions that are caught. -/
def caught {α : Type} (fallback : α) : Except Exn α → Except Exn α
  | .ok value => .ok value
  | .error e => if wedged e then .ok fallback else .error e

section Pass

variable {md5 : Bytes → String} {rpc : Handle} {dest : String} {data : Bytes}
  {calls : List DeviceCall}

theorem escaping_of_caught_ok {α : Type} {fallback value : α} {answer : Except Exn α}
    (same : caught fallback answer = .ok value) : escaping (some answer) = none := by
  cases answer with
  | ok _ => rfl
  | error e =>
      by_cases wedge : wedged e = true
      · simp only [escaping, wedge, ↓reduceIte]
      · simp only [caught, wedge, Bool.false_eq_true, ↓reduceIte, reduceCtorEq] at same

theorem escaping_of_caught_error {α : Type} {fallback : α} {e : Exn} {answer : Except Exn α}
    (same : caught fallback answer = .error e) :
    escaping (some answer) = some e ∧ answer = .error e := by
  cases answer with
  | ok _ => exact nomatch same
  | error e' =>
      by_cases wedge : wedged e' = true
      · simp only [caught, wedge, ↓reduceIte, reduceCtorEq] at same
      · simp only [caught, wedge, Bool.false_eq_true, ↓reduceIte, Except.error.injEq] at same
        subst same
        simp only [escaping, wedge, Bool.false_eq_true, ↓reduceIte, and_self]

theorem plays_caught {α : Type} {body : Device α} {fallback : α} {result : Except Exn α}
    (played : Plays (Coro.tryExcept wedged body fun _ => pure fallback) () calls result ()) :
    ∃ answer, Plays body () calls answer () ∧ result = caught fallback answer := by
  rcases plays_tryExcept played with ⟨same, uncaught⟩ | ⟨e, _, first, rest, wedge, rfl, failed, behind⟩
  · refine ⟨result, same, ?_⟩
    cases result with
    | ok value => rfl
    | error e => simp only [caught, uncaught e rfl, Bool.false_eq_true, ↓reduceIte]
  · obtain ⟨rfl, rfl, -⟩ := plays_ret behind
    refine ⟨.error e, (List.append_nil first).symm ▸ failed, ?_⟩
    simp only [caught, wedge, ↓reduceIte]

/-- The write of a pass: none when the file is written already. -/
theorem plays_ensureWritten {written : Bool} {result : Except Exn Bool}
    (played : Plays (ensureWritten rpc dest data written) () calls result ()) :
    (written = true ∧ calls = [] ∧ result = .ok true) ∨
      (written = false ∧ ∃ answer : Except Exn Bool,
        calls = [⟨.storageWrite rpc dest data, answer⟩] ∧ result = caught false answer) := by
  cases written with
  | true =>
      obtain ⟨rfl, rfl, -⟩ := plays_ret played
      exact .inl ⟨rfl, rfl, rfl⟩
  | false =>
      obtain ⟨answer, called, same⟩ := plays_caught played
      obtain ⟨rfl, -⟩ := plays_perform called
      exact .inr ⟨rfl, answer, rfl, same⟩

/-- The verification of a pass: none unless the file is written. -/
theorem plays_ensureVerified {written : Bool} {status : Md5Status} {result : Except Exn Md5Status}
    (played : Plays (ensureVerified md5 rpc dest data written status) () calls result ()) :
    (written = false ∧ calls = [] ∧ result = .ok status) ∨
      (written = true ∧ ∃ verdict, Plays (verifyWritten md5 rpc dest data) () calls verdict () ∧
        result = caught .unreadable verdict) := by
  cases written with
  | false =>
      obtain ⟨rfl, rfl, -⟩ := plays_ret played
      exact .inl ⟨rfl, rfl, rfl⟩
  | true => exact .inr ⟨rfl, plays_caught played⟩

end Pass

theorem statusOf_eq_mismatch {verdict : Option (Except Exn Md5Status)} :
    statusOf verdict = .mismatch ↔ verdict = some (.ok .mismatch) := by
  rcases verdict with _ | e | verdict <;> simp [statusOf]

theorem statusOf_eq_match {verdict : Option (Except Exn Md5Status)} :
    statusOf verdict = .match ↔ verdict = some (.ok .match) := by
  rcases verdict with _ | e | verdict <;> simp [statusOf]

theorem everWritten_of_lastWrite (attempts : List Attempt)
    (last : lastWrite attempts = some (.ok true)) : EverWritten attempts := by
  induction attempts using List.reverseRecOn with
  | nil => exact nomatch last
  | append_singleton earlier attempt ih =>
      rw [lastWrite_concat] at last
      rw [everWritten_concat]
      by_cases wrote : attempt.wrote = none
      · exact .inl (ih (by rwa [wrote, Option.none_or] at last))
      · obtain ⟨answer, wrote⟩ := Option.ne_none_iff_exists'.mp wrote
        rw [wrote, Option.some_or] at last
        exact .inr (wrote.trans last)

namespace LoopState

variable {md5 : Bytes → String} {rpc : Handle} {dest : String} {data : Bytes}
  {calls : List DeviceCall} {earlier : List Attempt} {written everWritten : Bool}
  {status : Md5Status}

/-- What the write of a pass adds to the state of the loop. -/
theorem wrote (state : LoopState earlier written everWritten status) {result : Except Exn Bool}
    (played : Plays (ensureWritten rpc dest data written) () calls result ()) :
    ∃ wrote, calls = writeCalls dest data rpc wrote ∧ (wrote = none ↔ Pending earlier) ∧
      (∀ written', result = .ok written' → escaping wrote = none ∧
        (written' = true ↔ wrote.or (lastWrite earlier) = some (.ok true))) ∧
      ∀ e, result = .error e → escaping wrote = some e ∧ wrote = some (.error e) := by
  rcases plays_ensureWritten played with ⟨already, rfl, rfl⟩ | ⟨missing, answer, rfl, rfl⟩
  · have pending := state.written.mp already
    refine ⟨none, rfl, iff_of_true rfl pending, fun written' same => ⟨rfl, ?_⟩, nofun⟩
    rw [← Except.ok.inj same, Option.none_or]
    exact iff_of_true rfl pending.1
  · have absent : ¬ Pending earlier := fun pending =>
      Bool.false_ne_true (missing.symm.trans (state.written.mpr pending))
    refine ⟨some answer, rfl, iff_of_false (Option.some_ne_none _) absent, ?_, ?_⟩
    · intro written' same
      refine ⟨escaping_of_caught_ok same, ?_⟩
      rw [Option.some_or, Option.some_inj]
      cases answer with
      | ok value => rw [← Except.ok.inj same, Except.ok.injEq]
      | error e =>
          by_cases wedge : wedged e = true
          · simp only [caught, wedge, ↓reduceIte, Except.ok.injEq] at same
            rw [← same]
            exact iff_of_false Bool.false_ne_true nofun
          · simp only [caught, wedge, Bool.false_eq_true, ↓reduceIte, reduceCtorEq] at same
    · intro e same
      have raised := escaping_of_caught_error same
      exact ⟨raised.1, raised.2 ▸ rfl⟩

/-- What the verification of a pass adds to the state of the loop. -/
theorem verified (state : LoopState earlier written everWritten status) {written' : Bool}
    {result : Except Exn Md5Status}
    (played : Plays (ensureVerified md5 rpc dest data written' status) () calls result ()) :
    ∃ verdict, VerdictCalls md5 dest data rpc calls verdict ∧ (verdict = none ↔ written' ≠ true) ∧
      (∀ status', result = .ok status' → escaping verdict = none ∧
        status' = statusOf (verdict.or (lastVerdict earlier))) ∧
      ∀ e, result = .error e → escaping verdict = some e ∧ verdict = some (.error e) := by
  rcases plays_ensureVerified played with ⟨missing, rfl, rfl⟩ | ⟨present, verdict, checked, rfl⟩
  · refine ⟨none, rfl, iff_of_true rfl (missing ▸ Bool.false_ne_true), ?_, nofun⟩
    intro status' same
    exact ⟨rfl, (Except.ok.inj same).symm.trans state.status⟩
  · refine ⟨some verdict, checked, iff_of_false (Option.some_ne_none _) (not_not.mpr present), ?_, ?_⟩
    · intro status' same
      refine ⟨escaping_of_caught_ok same, ?_⟩
      rw [Option.some_or]
      cases verdict with
      | ok value => exact (Except.ok.inj same).symm
      | error e =>
          by_cases wedge : wedged e = true
          · simp only [caught, wedge, ↓reduceIte, Except.ok.injEq] at same
            exact same.symm
          · simp only [caught, wedge, Bool.false_eq_true, ↓reduceIte, reduceCtorEq] at same
    · intro e same
      have raised := escaping_of_caught_error same
      exact ⟨raised.1, raised.2 ▸ rfl⟩

variable {attempt : Attempt} {written' : Bool} {status' : Md5Status}

theorem regular_concat (state : LoopState earlier written everWritten status)
    (writes : attempt.wrote = none ↔ Pending earlier)
    (last : written' = true ↔ attempt.wrote.or (lastWrite earlier) = some (.ok true))
    (verifies : attempt.verdict = none ↔ written' ≠ true) : Regular (earlier ++ [attempt]) := by
  refine state.regular.concat writes (verifies.trans ?_)
  rw [lastWrite_concat]
  exact not_congr last

/-- A verification that matched. -/
theorem landed (last : written' = true ↔ attempt.wrote.or (lastWrite earlier) = some (.ok true))
    (verifies : attempt.verdict = none ↔ written' ≠ true)
    (left : status' = statusOf (attempt.verdict.or (lastVerdict earlier)))
    (present : written' = true) (matched : status' = .match) : Landed (earlier ++ [attempt]) := by
  refine landed_concat.mpr (.inr ⟨?_, ?_⟩)
  · rw [lastWrite_concat]
    exact last.mp present
  · obtain ⟨verdict, same⟩ := Option.ne_none_iff_exists'.mp (mt verifies.mp (not_not.mpr present))
    rw [same, Option.some_or, matched] at left
    exact same.trans (statusOf_eq_match.mp left.symm)

/-- An attempt whose verification did not match leaves the state of the loop behind it. -/
theorem next (state : LoopState earlier written everWritten status)
    (writes : attempt.wrote = none ↔ Pending earlier)
    (last : written' = true ↔ attempt.wrote.or (lastWrite earlier) = some (.ok true))
    (verifies : attempt.verdict = none ↔ written' ≠ true)
    (left : status' = statusOf (attempt.verdict.or (lastVerdict earlier)))
    (unmatched : ¬ (written' = true ∧ status' = .match)) :
    LoopState (earlier ++ [attempt]) (written' && status' ≠ .mismatch) (everWritten || written')
      status' where
  regular := state.regular_concat writes last verifies
  unlanded := by
    intro landed
    rcases landed_concat.mp landed with before | ⟨wrote, matched⟩
    · exact state.unlanded before
    · rw [lastWrite_concat] at wrote
      refine unmatched ⟨last.mpr wrote, ?_⟩
      rw [left, matched, Option.some_or]
      rfl
  written := by
    unfold Pending
    rw [lastWrite_concat, lastVerdict_concat, ← last, Bool.and_eq_true, decide_eq_true_iff]
    exact and_congr_right' (not_congr (by rw [left, statusOf_eq_mismatch]))
  everWritten := by
    rw [Bool.or_eq_true, state.everWritten, everWritten_concat]
    refine or_congr_right' fun never => ?_
    rw [last]
    by_cases wrote : attempt.wrote = none
    · rw [wrote, Option.none_or]
      exact iff_of_false (mt (everWritten_of_lastWrite earlier) never) nofun
    · obtain ⟨answer, wrote⟩ := Option.ne_none_iff_exists'.mp wrote
      rw [wrote, Option.some_or]
  status := by
    rw [lastVerdict_concat]
    exact left

end LoopState

section Calls

variable {md5 : Bytes → String} {rpc : Handle} {dest : String} {data : Bytes}
  {calls : List DeviceCall}

theorem plays_checkMd5 {expected : String} (attempts : ℕ) {calls : List DeviceCall}
    {result : Except Exn Md5Status}
    (played : Plays (checkMd5 rpc dest expected attempts) () calls result ()) :
    ∀ call ∈ calls, call.1.IsVerification := by
  induction attempts generalizing calls with
  | zero =>
      obtain ⟨rfl, -, -⟩ := plays_ret played
      exact nofun
  | succ attempts ih =>
      rcases plays_bind played with ⟨deviceMd5, _, first, rest, rfl, asked, behind⟩ | ⟨e, -, asked⟩
      · obtain ⟨rfl, -⟩ := plays_perform asked
        rw [List.singleton_append, List.forall_mem_cons]
        refine ⟨trivial, ?_⟩
        rcases deviceMd5 with _ | deviceMd5
        · by_cases last : attempts = 0
          · simp only [last, ↓reduceIte] at behind
            obtain ⟨rfl, -, -⟩ := plays_ret behind
            exact nofun
          · simp only [last, ↓reduceIte] at behind
            rcases plays_bind behind with ⟨_, _, pause, rest, rfl, slept, again⟩ | ⟨e, -, slept⟩
            · obtain ⟨rfl, -⟩ := plays_perform slept
              rw [List.singleton_append, List.forall_mem_cons]
              exact ⟨trivial, ih again⟩
            · obtain ⟨rfl, -⟩ := plays_perform slept
              rw [List.forall_mem_singleton]
              trivial
        · obtain ⟨rfl, -, -⟩ := plays_ret behind
          exact nofun
      · obtain ⟨rfl, -⟩ := plays_perform asked
        rw [List.forall_mem_singleton]
        trivial

theorem plays_checkSize {expectedLen : ℕ} {result : Except Exn Md5Status}
    (played : Plays (checkSize rpc dest expectedLen) () calls result ()) :
    ∀ call ∈ calls, call.1.IsVerification := by
  rcases plays_bind played with ⟨stat, _, first, rest, rfl, asked, behind⟩ | ⟨e, -, asked⟩
  · obtain ⟨rfl, -⟩ := plays_perform asked
    rw [List.singleton_append, List.forall_mem_cons]
    refine ⟨trivial, ?_⟩
    rcases stat with _ | stat
    · obtain ⟨rfl, -, -⟩ := plays_ret behind
      exact nofun
    · obtain ⟨rfl, -, -⟩ := plays_ret behind
      exact nofun
  · obtain ⟨rfl, -⟩ := plays_perform asked
    rw [List.forall_mem_singleton]
    trivial

/-- No call of an attempt is a resync. -/
theorem AttemptCalls.ne_resync {attempt : Attempt}
    (made : AttemptCalls md5 dest data rpc calls attempt) : ∀ call ∈ calls, call.1 ≠ .resync := by
  obtain ⟨checks, rfl, verdict⟩ := made
  refine List.forall_mem_append.mpr ⟨?_, ?_⟩
  · cases attempt.wrote with
    | none => exact nofun
    | some answer =>
        unfold writeCalls
        rw [List.forall_mem_singleton]
        exact nofun
  · have checking : ∀ call ∈ checks, call.1.IsVerification := by
      cases same : attempt.verdict with
      | none =>
          simp only [same, VerdictCalls] at verdict
          rw [verdict]
          exact nofun
      | some result =>
          simp only [same, VerdictCalls, verifyWritten] at verdict
          by_cases large : md5VerifyMaxBytes < data.length
          · simp only [large, ↓reduceIte] at verdict
            exact plays_checkSize verdict
          · simp only [large, ↓reduceIte] at verdict
            exact plays_checkMd5 _ verdict
    exact fun call member => (checking call member).ordinary.2

theorem currentHandle_of_ne (rpc : Handle) (steady : ∀ call ∈ calls, call.1 ≠ .resync) :
    currentHandle rpc calls = rpc := by
  have more : Extends (· ≠ .resync) [] calls := ⟨calls, rfl, steady⟩
  exact currentHandle_extends more fun _ => id

theorem currentHandle_append_of_ne {rest : List DeviceCall}
    (steady : ∀ call ∈ calls, call.1 ≠ .resync) :
    currentHandle rpc (calls ++ rest) = currentHandle rpc rest := by
  have same := currentHandle_of_ne rpc steady
  unfold currentHandle at same ⊢
  rw [List.foldl_append, same]

theorem resyncs_append (rest : List DeviceCall) :
    resyncs (calls ++ rest) = resyncs calls + resyncs rest :=
  List.countP_append

theorem resyncs_of_ne (steady : ∀ call ∈ calls, call.1 ≠ .resync) : resyncs calls = 0 :=
  List.countP_eq_zero.mpr fun call member => by simpa using steady call member

end Calls

/-- How a push ends, with all its attempts: by an exception of a call, by a verification that
matched, or by giving up. -/
inductive PushEnding (dest : String) (resync : Bool) (passes : ℕ) (rpc : Handle)
    (script : List DeviceCall) (attempts made : List Attempt) :
    Option Exn → Except Exn Handle → Prop
  | escaped {e : Exn} (unlanded : ¬ Landed attempts) :
      PushEnding dest resync passes rpc script attempts made (some e) (.error e)
  | landed {newest : Handle} (landed : Landed attempts) (same : newest = currentHandle rpc script) :
      PushEnding dest resync passes rpc script attempts made none (.ok newest)
  | gaveUp {everWritten : Bool} {status : Md5Status} (unlanded : ¬ Landed attempts)
      (ever : everWritten = true ↔ EverWritten attempts)
      (last : status = statusOf (lastVerdict attempts))
      (all : resync = true → made.length = passes) :
      PushEnding dest resync passes rpc script attempts made none
        (.error (pushFailure dest everWritten status))

/-- A run of the loop behind earlier attempts. -/
structure PushRun (md5 : Bytes → String) (dest : String) (data : Bytes) (resync : Bool) (passes : ℕ)
    (earlier : List Attempt) (rpc : Handle) (script : List DeviceCall) (attempts : List Attempt)
    (escaped : Option Exn) (result : Except Exn Handle) : Prop where
  calls : PushScript md5 dest data rpc script attempts escaped
  regular : Regular (earlier ++ attempts)
  attempts_le : attempts.length ≤ passes
  resyncs_lt : resyncs script < passes
  single : resync = false → attempts.length = 1
  ending : PushEnding dest resync passes rpc script (earlier ++ attempts) attempts escaped result

section Loop

variable {md5 : Bytes → String} {rpc fresh : Handle} {dest : String} {data : Bytes} {resync : Bool}
  {passes : ℕ} {earlier : List Attempt} {attempt : Attempt} {calls rest : List DeviceCall}

/-- A run that ends in its first attempt, or in the resync behind it. -/
theorem PushRun.only {script : List DeviceCall} {escaped : Option Exn} {result : Except Exn Handle}
    (made : AttemptCalls md5 dest data rpc calls attempt) (split : script = calls ++ rest)
    (few : resyncs rest < passes) (regular : Regular (earlier ++ [attempt]))
    (whole : PushScript md5 dest data rpc script [attempt] escaped)
    (ending : PushEnding dest resync passes rpc script (earlier ++ [attempt]) [attempt] escaped
      result) :
    PushRun md5 dest data resync passes earlier rpc script [attempt] escaped result where
  calls := whole
  regular := regular
  attempts_le := Nat.one_le_of_lt few
  resyncs_lt := by
    rw [split, resyncs_append, resyncs_of_ne made.ne_resync, Nat.zero_add]
    exact few
  single := fun _ => rfl
  ending := ending

/-- A run that ends with the calls of its first attempt. -/
theorem PushRun.last {escaped : Option Exn} {result : Except Exn Handle}
    (made : AttemptCalls md5 dest data rpc calls attempt) (same : attempt.escaped = escaped)
    (regular : Regular (earlier ++ [attempt]))
    (ending : PushEnding dest resync (passes + 1) rpc calls (earlier ++ [attempt]) [attempt] escaped
      result) :
    PushRun md5 dest data resync (passes + 1) earlier rpc calls [attempt] escaped result :=
  .only made (List.append_nil calls).symm (Nat.succ_pos passes) regular (same ▸ .last made) ending

/-- A run that goes on behind a resync. -/
theorem PushRun.again {attempts : List Attempt} {escaped : Option Exn} {result : Except Exn Handle}
    (made : AttemptCalls md5 dest data rpc calls attempt) (recovers : resync = true)
    (later : PushRun md5 dest data resync passes (earlier ++ [attempt]) fresh rest attempts escaped
      result) :
    PushRun md5 dest data resync (passes + 1) earlier rpc
      (calls ++ ⟨.resync, .ok fresh⟩ :: ⟨.sleep postWriteSettle, .ok ()⟩ :: rest)
      (attempt :: attempts) escaped result where
  calls := .again made later.calls
  regular := by
    rw [List.append_cons]
    exact later.regular
  attempts_le := Nat.succ_le_succ later.attempts_le
  resyncs_lt := by
    rw [resyncs_append, resyncs_of_ne made.ne_resync, Nat.zero_add]
    have few := later.resyncs_lt
    simp only [resyncs, List.countP_cons] at few ⊢
    simpa using few
  single := fun none => absurd (none.symm.trans recovers) Bool.false_ne_true
  ending := by
    have ending := later.ending
    rw [List.append_assoc] at ending
    cases ending with
    | escaped unlanded => exact .escaped unlanded
    | landed landed same =>
        have newer : currentHandle rpc
            (calls ++ ⟨.resync, .ok fresh⟩ :: ⟨.sleep postWriteSettle, .ok ()⟩ :: rest) =
            currentHandle fresh rest := currentHandle_append_of_ne made.ne_resync
        exact .landed landed (same.trans newer.symm)
    | gaveUp unlanded ever last all =>
        exact .gaveUp unlanded ever last fun recovers => congrArg Nat.succ (all recovers)

/-- What follows an attempt that did not land: a resync, a pause and the next attempts. -/
def pushRetry (md5 : Bytes → String) (dest : String) (data : Bytes) (resync : Bool) (passes : ℕ)
    (written everWritten : Bool) (status : Md5Status) : Device Handle := do
  let (rpc : Handle) ← perform .resync
  perform (.sleep postWriteSettle)
  pushLoop md5 dest data resync passes rpc written everWritten status

/-- The first attempt of the loop ends the push, or leaves its state to a retry. -/
theorem pushLoop_first {written everWritten : Bool} {status : Md5Status} {script : List DeviceCall}
    {result : Except Exn Handle} (state : LoopState earlier written everWritten status)
    (played : Plays (pushLoop md5 dest data resync (passes + 1) rpc written everWritten status) ()
      script result ()) :
    (∃ attempt escaped,
      PushRun md5 dest data resync (passes + 1) earlier rpc script [attempt] escaped result) ∨
    ∃ calls rest attempt written' everWritten' status', script = calls ++ rest ∧
      AttemptCalls md5 dest data rpc calls attempt ∧
      LoopState (earlier ++ [attempt]) written' everWritten' status' ∧
      resync = true ∧ passes ≠ 0 ∧
      Plays (pushRetry md5 dest data resync passes written' everWritten' status') () rest result () := by
  rcases plays_bind played with ⟨written', _, _, behind, rfl, write, verify⟩ | ⟨e, rfl, write⟩
  · obtain ⟨wrote, rfl, writes, settled, -⟩ := state.wrote write
    obtain ⟨kept, last⟩ := settled written' rfl
    rcases plays_bind verify with ⟨status', _, checks, rest, rfl, check, decide⟩ | ⟨e, rfl, check⟩
    · obtain ⟨verdict, checked, verifies, settled, -⟩ := state.verified check
      obtain ⟨quiet, left⟩ := settled status' rfl
      have made : AttemptCalls md5 dest data rpc (writeCalls dest data rpc wrote ++ checks)
          ⟨wrote, verdict⟩ := ⟨checks, rfl, checked⟩
      have regular : Regular (earlier ++ [⟨wrote, verdict⟩]) :=
        state.regular_concat writes last verifies
      have unescaped : Attempt.escaped ⟨wrote, verdict⟩ = none := by
        simp only [Attempt.escaped, kept, quiet, Option.or_none]
      rw [← List.append_assoc]
      by_cases matched : written' = true ∧ status' = .match
      · rw [if_pos matched] at decide
        obtain ⟨rfl, rfl, -⟩ := plays_ret decide
        have landed : Landed (earlier ++ [⟨wrote, verdict⟩]) :=
          LoopState.landed last verifies left matched.1 matched.2
        refine .inl ⟨⟨wrote, verdict⟩, none, ?_⟩
        rw [List.append_nil]
        exact .last made unescaped regular (.landed landed (currentHandle_of_ne rpc made.ne_resync).symm)
      · rw [if_neg matched] at decide
        have state' : LoopState (earlier ++ [⟨wrote, verdict⟩]) _ _ status' :=
          state.next writes last verifies left matched
        by_cases beyond : (!resync) = true ∨ passes = 0
        · rw [if_pos beyond] at decide
          obtain ⟨rfl, rfl, -⟩ := plays_raise decide
          rw [List.append_nil]
          refine .inl ⟨_, none, .last made unescaped regular ?_⟩
          refine .gaveUp state'.unlanded state'.everWritten state'.status fun recovers => ?_
          rcases beyond with none | last
          · rw [recovers] at none
            exact nomatch none
          · rw [last]
            rfl
        · rw [if_neg beyond] at decide
          rw [not_or, Bool.not_eq_true', Bool.not_eq_false] at beyond
          exact .inr ⟨_, rest, _, _, _, _, rfl, made, state', beyond.1, beyond.2, decide⟩
    · obtain ⟨verdict, checked, verifies, -, failed⟩ := state.verified check
      obtain ⟨raised, rfl⟩ := failed e rfl
      refine .inl ⟨⟨wrote, some (.error e)⟩, some e, .last ⟨behind, rfl, checked⟩ ?_
        (state.regular_concat writes last verifies) (.escaped fun landed => ?_)⟩
      · simp only [Attempt.escaped, kept, raised, Option.none_or]
      · rcases landed_concat.mp landed with before | ⟨-, matched⟩
        · exact state.unlanded before
        · exact nomatch matched
  · obtain ⟨wrote, rfl, writes, -, failed⟩ := state.wrote write
    obtain ⟨raised, rfl⟩ := failed e rfl
    refine .inl ⟨⟨_, none⟩, some e, .last ⟨[], (List.append_nil _).symm, rfl⟩ ?_ ?_
      (.escaped fun landed => ?_)⟩
    · simp only [Attempt.escaped, raised, Option.some_or]
    · refine state.regular.concat writes (iff_of_true rfl ?_)
      rw [lastWrite_concat]
      exact nofun
    · rcases landed_concat.mp landed with before | ⟨-, matched⟩
      · exact state.unlanded before
      · exact nomatch matched

/-- Every script the loop plays on falls into attempts, whatever it was left with by the
attempts before. -/
theorem pushLoop_attempts (passes : ℕ) {rpc : Handle} {earlier : List Attempt}
    {written everWritten : Bool} {status : Md5Status} {script : List DeviceCall}
    {result : Except Exn Handle} (state : LoopState earlier written everWritten status)
    (played : Plays (pushLoop md5 dest data resync (passes + 1) rpc written everWritten status) ()
      script result ()) :
    ∃ attempts escaped,
      PushRun md5 dest data resync (passes + 1) earlier rpc script attempts escaped result := by
  induction passes generalizing rpc earlier written everWritten status script with
  | zero =>
      rcases pushLoop_first state played with ⟨attempt, escaped, whole⟩ | ⟨_, _, _, _, _, _, _, _, _, _, more, _⟩
      · exact ⟨[attempt], escaped, whole⟩
      · exact absurd rfl more
  | succ passes ih =>
      rcases pushLoop_first state played with ⟨attempt, escaped, whole⟩ |
        ⟨calls, rest, attempt, _, _, _, rfl, made, state', recovers, -, retry⟩
      · exact ⟨[attempt], escaped, whole⟩
      · have unlanded := state'.unlanded
        rcases plays_bind retry with ⟨fresh, _, _, _, rfl, resynced, settle⟩ | ⟨e, rfl, resynced⟩
        · obtain ⟨rfl, -⟩ := plays_perform resynced
          rcases plays_bind settle with ⟨_, _, _, later, rfl, paused, again⟩ | ⟨e, rfl, paused⟩
          · obtain ⟨rfl, -⟩ := plays_perform paused
            obtain ⟨attempts, escaped, whole⟩ := ih state' again
            exact ⟨attempt :: attempts, escaped, .again made recovers whole⟩
          · obtain ⟨rfl, -⟩ := plays_perform paused
            refine ⟨[attempt], some e, .only made rfl ?_ state'.regular (.pauseRaised made)
              (.escaped unlanded)⟩
            exact Nat.succ_lt_succ (Nat.succ_pos passes)
        · obtain ⟨rfl, -⟩ := plays_perform resynced
          refine ⟨[attempt], some e, .only made rfl ?_ state'.regular (.resyncRaised made)
            (.escaped unlanded)⟩
          exact Nat.succ_lt_succ (Nat.succ_pos passes)

/-- A push sends the file again only behind a failed write or a definitive mismatch, in at most
three attempts and two resyncs, in one attempt without a resync callback. It returns exactly
when a written file was verified, and then the newest `ProtobufRPC`. -/
theorem pushFile_resends_what_is_needed {script : List DeviceCall} {result : Except Exn Handle}
    (played : Plays (pushFile md5 rpc dest data resync) () script result ()) :
    ∃ attempts escaped, PushScript md5 dest data rpc script attempts escaped ∧
      ResendsWhatIsNeeded attempts ∧ attempts.length ≤ 3 ∧ resyncs script ≤ 2 ∧
      (resync = false → attempts.length = 1) ∧
      ((∃ newest, result = .ok newest) ↔ Landed attempts) ∧
      ∀ newest, result = .ok newest → newest = currentHandle rpc script := by
  obtain ⟨attempts, escaped, whole⟩ := pushLoop_attempts resyncAttempts .start played
  refine ⟨attempts, escaped, whole.calls, whole.regular.resends, whole.attempts_le,
    Nat.le_of_lt_succ whole.resyncs_lt, whole.single, ?_⟩
  have ending := whole.ending
  cases ending with
  | escaped unlanded => exact ⟨iff_of_false nofun unlanded, nofun⟩
  | landed landed same =>
      exact ⟨iff_of_true ⟨_, rfl⟩ landed, fun newest returned => (Except.ok.inj returned) ▸ same⟩
  | gaveUp unlanded ever last all => exact ⟨iff_of_false nofun unlanded, nofun⟩

/-- A large file is acked and wedges the session: it is verified again behind the resync, and
not written again. -/
theorem pushFile_resends_nothing_after_a_wedge :
    ∃ attempts escaped, PushScript (fun _ => "d") "/ext/f" [70] 0
        [⟨.storageWrite 0 "/ext/f" [70], .ok true⟩,
          ⟨.storageMd5sum 0 "/ext/f", .error (.flipperTimeoutError "rpc")⟩,
          ⟨.resync, .ok (1 : ℕ)⟩, ⟨.sleep postWriteSettle, .ok ()⟩,
          ⟨.storageMd5sum 1 "/ext/f", .ok (some "d")⟩] attempts escaped ∧
      ResendsWhatIsNeeded attempts ∧ Landed attempts := by
  have played : Plays (pushFile (fun _ => "d") 0 "/ext/f" [70] true) ()
      [⟨.storageWrite 0 "/ext/f" [70], .ok true⟩,
        ⟨.storageMd5sum 0 "/ext/f", .error (.flipperTimeoutError "rpc")⟩,
        ⟨.resync, .ok (1 : ℕ)⟩, ⟨.sleep postWriteSettle, .ok ()⟩,
        ⟨.storageMd5sum 1 "/ext/f", .ok (some "d")⟩] (.ok (1 : ℕ)) () :=
    .await _ (.await _ (.await _ (.await _ (.await _ .ret))))
  obtain ⟨attempts, escaped, calls, resends, -, -, -, landed, -⟩ :=
    pushFile_resends_what_is_needed played
  exact ⟨attempts, escaped, calls, resends, landed.mp ⟨_, rfl⟩⟩

end Loop

/-- What `_push_file` reports when it gives up. -/
inductive PushCause
  | mismatch
  | rejection
  | wedge
  deriving DecidableEq

/-- The `FlashError` of each cause. -/
def PushCause.failure (dest : String) : PushCause → Exn
  | mismatch => pushFailure dest true .mismatch
  | rejection => pushFailure dest false .unreadable
  | wedge => pushFailure dest true .unreadable

/-- The cause the loop variables stand for. -/
def causeOf (everWritten : Bool) (status : Md5Status) : PushCause :=
  if status = .mismatch then .mismatch else if everWritten then .wedge else .rejection

/-- The last verification after the last successful write was unreadable. -/
def LastUnreadable (attempts : List Attempt) : Prop :=
  ∃ earlier attempt later, attempts = earlier ++ attempt :: later ∧
    attempt.wrote = some (.ok true) ∧ (∀ other ∈ later, other.wrote ≠ some (.ok true)) ∧
    ∃ verdict, lastVerdict (attempt :: later) = some verdict ∧ statusOf (some verdict) = .unreadable

/-- The reported cause is the real one. Every attempt but the first is made on a session
established by a resync. -/
structure CauseIsReal (attempts : List Attempt) (cause : PushCause) : Prop where
  rejection : cause = .rejection ↔ ¬ EverWritten attempts
  mismatch : cause = .mismatch →
    ∃ attempt ∈ attempts.tail, attempt.verdict = some (.ok .mismatch)
  wedge : cause = .wedge → LastUnreadable attempts

/-- The write of an attempt was refused. -/
def Attempt.Refused (attempt : Attempt) : Prop :=
  ∃ answer, attempt.wrote = some answer ∧ answer ≠ .ok true

/-- The first verification is a mismatch, and no later attempt gets the file written. -/
def StaleMismatch : List Attempt → Prop
  | [] => False
  | first :: later => first.verdict = some (.ok .mismatch) ∧ ∀ attempt ∈ later, attempt.Refused

theorem pushFailure_eq (dest : String) (everWritten : Bool) (status : Md5Status) :
    pushFailure dest everWritten status = (causeOf everWritten status).failure dest := by
  by_cases mismatched : status = .mismatch
  · rw [mismatched]
    rfl
  · cases everWritten <;> simp only [pushFailure, causeOf, mismatched, PushCause.failure] <;> rfl

theorem append_ne_of_take (n : ℕ) {front front' rest rest' : List Char} (long : n ≤ front.length)
    (long' : n ≤ front'.length) (differ : front.take n ≠ front'.take n) :
    front ++ rest ≠ front' ++ rest' := by
  intro same
  have starts := congrArg (List.take n) same
  rw [List.take_append_of_le_length long, List.take_append_of_le_length long'] at starts
  exact differ starts

/-- The three texts differ in how they begin. -/
theorem PushCause.failure_injective {dest : String} {cause other : PushCause}
    (same : cause.failure dest = other.failure dest) : cause = other := by
  have texts := congrArg (fun e => e.text.toList) same
  cases cause <;> cases other <;> first
    | rfl
    | (simp only [failure, pushFailure, Exn.text, toString, String.toList_append, List.append_assoc,
        reduceCtorEq, ↓reduceIte, Bool.not_true, Bool.not_false, Bool.false_eq_true] at texts
       exact absurd texts (append_ne_of_take 8 (by decide) (by decide) (by decide)))

section Causes

variable {attempts earlier later : List Attempt} {attempt first : Attempt}

theorem lastVerdict_singleton (attempt : Attempt) : lastVerdict [attempt] = attempt.verdict :=
  (lastVerdict_concat [] attempt).trans (Option.or_none ..)

theorem prefix_of_split (earlier later : List Attempt) (attempt : Attempt) :
    earlier ++ [attempt] <+: earlier ++ attempt :: later :=
  ⟨later, List.append_assoc ..⟩

theorem EverWritten.mono (h : EverWritten earlier) (part : earlier <+: attempts) :
    EverWritten attempts := by
  obtain ⟨attempt, member, wrote⟩ := h
  exact ⟨attempt, part.subset member, wrote⟩

/-- What is verified has been written. -/
theorem Regular.everWritten (regular : Regular attempts) (member : attempt ∈ attempts)
    (verified : attempt.verdict ≠ none) : EverWritten attempts := by
  obtain ⟨earlier, later, rfl⟩ := List.append_of_mem member
  have part := prefix_of_split earlier later attempt
  have last := not_not.mp (mt (regular _ _ part).2.mpr verified)
  exact (everWritten_of_lastWrite _ last).mono part

/-- A match is one for a file that is written. -/
theorem Regular.landed (regular : Regular attempts) (member : attempt ∈ attempts)
    (matched : attempt.verdict = some (.ok .match)) : Landed attempts := by
  obtain ⟨earlier, later, rfl⟩ := List.append_of_mem member
  have part := prefix_of_split earlier later attempt
  refine ⟨earlier, attempt, part, ?_, matched⟩
  refine not_not.mp (mt (regular _ _ part).2.mpr ?_)
  rw [matched]
  exact nofun

theorem exists_of_lastVerdict (attempts : List Attempt) {verdict : Except Exn Md5Status}
    (last : lastVerdict attempts = some verdict) :
    ∃ attempt ∈ attempts, attempt.verdict = some verdict := by
  induction attempts using List.reverseRecOn with
  | nil => exact nomatch last
  | append_singleton earlier attempt ih =>
      rw [lastVerdict_concat] at last
      by_cases verified : attempt.verdict = none
      · rw [verified, Option.none_or] at last
        obtain ⟨other, member, same⟩ := ih last
        exact ⟨other, List.mem_append_left _ member, same⟩
      · obtain ⟨other, same⟩ := Option.ne_none_iff_exists'.mp verified
        rw [same, Option.some_or] at last
        exact ⟨attempt, List.mem_append_right _ (List.mem_singleton_self _), same.trans last⟩

theorem lastVerdict_append (earlier later : List Attempt) :
    lastVerdict (earlier ++ later) = (lastVerdict later).or (lastVerdict earlier) := by
  induction later using List.reverseRecOn with
  | nil => rw [List.append_nil]; rfl
  | append_singleton later attempt ih =>
      rw [← List.append_assoc, lastVerdict_concat, lastVerdict_concat, ih, Option.or_assoc]

/-- The last attempt that wrote the file, among attempts that ever wrote it. -/
theorem EverWritten.last (h : EverWritten attempts) :
    ∃ earlier attempt later, attempts = earlier ++ attempt :: later ∧
      attempt.wrote = some (.ok true) ∧ ∀ other ∈ later, other.wrote ≠ some (.ok true) := by
  induction attempts with
  | nil =>
      obtain ⟨_, member, _⟩ := h
      exact nomatch member
  | cons first attempts ih =>
      by_cases again : EverWritten attempts
      · obtain ⟨earlier, attempt, later, rfl, wrote, last⟩ := ih again
        exact ⟨first :: earlier, attempt, later, rfl, wrote, last⟩
      · obtain ⟨attempt, member, wrote⟩ := h
        rcases List.mem_cons.mp member with rfl | member
        · exact ⟨[], attempt, attempts, rfl, wrote, fun other inside same => again ⟨other, inside, same⟩⟩
        · exact absurd ⟨attempt, member, wrote⟩ again

/-- When the status is unreadable and the file was written, the last verification says so. -/
theorem Regular.lastUnreadable (regular : Regular attempts) (ever : EverWritten attempts)
    (unreadable : statusOf (lastVerdict attempts) = .unreadable) : LastUnreadable attempts := by
  obtain ⟨earlier, attempt, later, rfl, wrote, last⟩ := ever.last
  have part := prefix_of_split earlier later attempt
  have verified : attempt.verdict ≠ none := by
    refine mt (regular _ _ part).2.mp (not_not.mpr ?_)
    rw [lastWrite_concat, wrote, Option.some_or]
  obtain ⟨verdict, same⟩ := Option.ne_none_iff_exists'.mp verified
  have split : attempt :: later = [attempt] ++ later := rfl
  refine ⟨earlier, attempt, later, rfl, wrote, last, ?_⟩
  rw [lastVerdict_append] at unreadable
  cases read : lastVerdict (attempt :: later) with
  | some final =>
      rw [read, Option.some_or] at unreadable
      exact ⟨final, rfl, unreadable⟩
  | none =>
      rw [split, lastVerdict_append, lastVerdict_singleton, same] at read
      cases left : lastVerdict later <;> rw [left] at read <;> exact nomatch read

/-- Behind a mismatch, attempts that are refused are not verified. -/
theorem Regular.stale (regular : Regular (first :: later))
    (mismatched : first.verdict = some (.ok .mismatch))
    (refused : ∀ attempt ∈ later, attempt.Refused) :
    lastVerdict (first :: later) = some (.ok .mismatch) ∧
      ∀ attempt ∈ later, attempt.verdict = none := by
  induction later using List.reverseRecOn with
  | nil => exact ⟨(lastVerdict_singleton first).trans mismatched, nofun⟩
  | append_singleton later attempt ih =>
      have before : Regular (first :: later) := fun earlier other part =>
        regular earlier other (part.trans (List.prefix_append (first :: later) [attempt]))
      have last := refused attempt (List.mem_append_right _ (List.mem_singleton_self _))
      obtain ⟨answer, wrote, failed⟩ := last
      obtain ⟨stays, others⟩ := ih before fun other member => refused other (List.mem_append_left _ member)
      have unverified : attempt.verdict = none := by
        refine (regular (first :: later) attempt List.prefix_rfl).2.mpr ?_
        rw [lastWrite_concat, wrote, Option.some_or]
        exact fun same => failed (Option.some_inj.mp same)
      refine ⟨?_, ?_⟩
      · rw [← List.cons_append, lastVerdict_concat, unverified]
        exact stays
      · exact List.forall_mem_append.mpr ⟨others, List.forall_mem_singleton.mpr unverified⟩

/-- A mismatch that no later verification gave is the first one, and all writes after it were
refused. -/
theorem Regular.refused (regular : Regular (first :: later))
    (last : lastVerdict (first :: later) = some (.ok .mismatch))
    (none : ∀ attempt ∈ later, attempt.verdict ≠ some (.ok .mismatch)) :
    StaleMismatch (first :: later) := by
  induction later using List.reverseRecOn with
  | nil => exact ⟨(lastVerdict_singleton first).symm.trans last, nofun⟩
  | append_singleton later attempt ih =>
      have before : Regular (first :: later) := fun earlier other part =>
        regular earlier other (part.trans (List.prefix_append (first :: later) [attempt]))
      have differs := none attempt (List.mem_append_right _ (List.mem_singleton_self _))
      rw [← List.cons_append, lastVerdict_concat] at last
      have unverified : attempt.verdict = .none := by
        by_contra verified
        obtain ⟨verdict, same⟩ := Option.ne_none_iff_exists'.mp verified
        rw [same, Option.some_or] at last
        exact differs (same.trans last)
      rw [unverified, Option.none_or] at last
      obtain ⟨mismatched, refused⟩ := ih before last fun other member =>
        none other (List.mem_append_left _ member)
      have own := regular (first :: later) attempt List.prefix_rfl
      have rewritten : attempt.wrote ≠ .none := fun same => (own.1.mp same).2 last
      obtain ⟨answer, wrote⟩ := Option.ne_none_iff_exists'.mp rewritten
      refine ⟨mismatched, List.forall_mem_append.mpr ⟨refused, List.forall_mem_singleton.mpr ?_⟩⟩
      refine ⟨answer, wrote, fun succeeded => ?_⟩
      refine own.2.mp unverified ?_
      rw [lastWrite_concat, wrote, succeeded, Option.some_or]

/-- When the loop gives up, the cause it reports is real unless the mismatch is stale. -/
theorem Regular.causeIsReal_iff {everWritten : Bool} {status : Md5Status} (regular : Regular attempts)
    (ever : everWritten = true ↔ EverWritten attempts)
    (last : status = statusOf (lastVerdict attempts)) (unlanded : ¬ Landed attempts) :
    CauseIsReal attempts (causeOf everWritten status) ↔ ¬ StaleMismatch attempts := by
  by_cases mismatched : status = .mismatch
  · have verdict := statusOf_eq_mismatch.mp (last.symm.trans mismatched)
    have cause : causeOf everWritten status = .mismatch := if_pos mismatched
    rw [cause]
    constructor
    · intro real stale
      obtain ⟨attempt, member, disagreed⟩ := real.mismatch rfl
      cases attempts with
      | nil => exact stale
      | cons first later =>
          have unverified := (regular.stale stale.1 stale.2).2 attempt member
          exact nomatch unverified.symm.trans disagreed
    · intro fresh
      obtain ⟨attempt, member, verified⟩ := exists_of_lastVerdict attempts verdict
      have written := regular.everWritten member (by rw [verified]; exact nofun)
      refine ⟨iff_of_false nofun (not_not.mpr written), fun _ => ?_, nofun⟩
      cases attempts with
      | nil => exact nomatch member
      | cons first later =>
          by_contra none
          refine fresh (regular.refused verdict fun other inside disagreed => none ?_)
          exact ⟨other, inside, disagreed⟩
  · have notStale : ¬ StaleMismatch attempts := by
      intro stale
      cases attempts with
      | nil => exact stale
      | cons first later =>
          have verdict := (regular.stale stale.1 stale.2).1
          exact mismatched (last.trans (statusOf_eq_mismatch.mpr verdict))
    refine iff_of_true ?_ notStale
    by_cases written : everWritten = true
    · have cause : causeOf everWritten status = .wedge := by
        rw [causeOf, if_neg mismatched, if_pos written]
      rw [cause]
      refine ⟨iff_of_false nofun (not_not.mpr (ever.mp written)), nofun, fun _ => ?_⟩
      refine regular.lastUnreadable (ever.mp written) (last.symm.trans ?_)
      cases verdict : status with
      | mismatch => exact absurd verdict mismatched
      | unreadable => rfl
      | «match» =>
          have matched := statusOf_eq_match.mp (last.symm.trans verdict)
          obtain ⟨attempt, member, landed⟩ := exists_of_lastVerdict attempts matched
          exact absurd (regular.landed member landed) unlanded
    · have cause : causeOf everWritten status = .rejection := by
        rw [causeOf, if_neg mismatched, if_neg written]
      rw [cause]
      exact ⟨iff_of_true rfl (mt ever.mpr written), nofun, nofun⟩

end Causes

section Report

variable {md5 : Bytes → String} {rpc : Handle} {dest : String} {data : Bytes}

/-- With a resync callback the reported cause is the real one, except when the first
verification is a mismatch and the device refuses every later write: then the verdict of the
first session is reported as one that persisted after reconnecting. -/
theorem pushFile_cause {script : List DeviceCall} {result : Except Exn Handle}
    (played : Plays (pushFile md5 rpc dest data true) () script result ()) :
    ∃ attempts escaped, PushScript md5 dest data rpc script attempts escaped ∧
      ((∀ cause : PushCause, escaped = none → result = .error (cause.failure dest) →
          CauseIsReal attempts cause) ↔
        ¬ (escaped = none ∧ StaleMismatch attempts)) := by
  obtain ⟨attempts, escaped, whole⟩ := pushLoop_attempts resyncAttempts .start played
  refine ⟨attempts, escaped, whole.calls, ?_⟩
  have regular := whole.regular
  have ending := whole.ending
  rw [List.nil_append] at regular ending
  cases ending with
  | escaped unlanded => exact iff_of_true nofun fun stale => nomatch stale.1
  | landed landed same =>
      refine iff_of_true nofun fun ⟨_, stale⟩ => ?_
      cases attempts with
      | nil => exact stale
      | cons first later =>
          obtain ⟨mismatched, refused⟩ := stale
          obtain ⟨earlier, attempt, part, -, matched⟩ := landed
          have member := part.subset (List.mem_append_right _ (List.mem_singleton_self attempt))
          rcases List.mem_cons.mp member with rfl | member
          · exact nomatch mismatched.symm.trans matched
          · exact nomatch ((regular.stale mismatched refused).2 attempt member).symm.trans matched
  | gaveUp unlanded ever last all =>
      rw [pushFailure_eq]
      constructor
      · intro real stale
        exact (regular.causeIsReal_iff ever last unlanded).mp (real _ rfl rfl) stale.2
      · intro fresh cause _ reported
        rw [← PushCause.failure_injective (Except.error.inj reported)]
        exact (regular.causeIsReal_iff ever last unlanded).mpr fun stale => fresh ⟨rfl, stale⟩

/-- The first session reads a wrong digest, and both rewrites are refused. -/
def staleScript : List DeviceCall :=
  [⟨.storageWrite 0 "/ext/f" [70], .ok true⟩, ⟨.storageMd5sum 0 "/ext/f", .ok (some "x")⟩,
    ⟨.resync, .ok (1 : ℕ)⟩, ⟨.sleep postWriteSettle, .ok ()⟩,
    ⟨.storageWrite 1 "/ext/f" [70], .ok false⟩,
    ⟨.resync, .ok (2 : ℕ)⟩, ⟨.sleep postWriteSettle, .ok ()⟩,
    ⟨.storageWrite 2 "/ext/f" [70], .ok false⟩]

/-- A mismatch is reported that was never seen behind a resync. -/
theorem pushFile_reports_stale_mismatch :
    Plays (pushFile (fun _ => "d") 0 "/ext/f" [70] true) () staleScript
        (.error (PushCause.mismatch.failure "/ext/f")) () ∧
      (∀ call ∈ staleScript.drop 2, ∀ rpc path,
        call.1 ≠ .storageMd5sum rpc path ∧ call.1 ≠ .storageStat rpc path) ∧
      ∃ attempts, PushScript (fun _ => "d") "/ext/f" [70] 0 staleScript attempts none ∧
        ¬ CauseIsReal attempts .mismatch := by
  refine ⟨.await _ (.await _ (.await _ (.await _ (.await _ (.await _ (.await _ (.await _
    .raise))))))), ?_, ?_⟩
  · intro call member rpc path
    simp only [staleScript, List.drop, List.mem_cons, List.not_mem_nil, or_false] at member
    rcases member with rfl | rfl | rfl | rfl | rfl | rfl <;> exact ⟨nofun, nofun⟩
  let first : Attempt := ⟨some (.ok true), some (.ok .mismatch)⟩
  let refused : Attempt := ⟨some (.ok false), none⟩
  refine ⟨[first, refused, refused], ?_, ?_⟩
  · have rejected : ∀ rpc, AttemptCalls (fun _ => "d") "/ext/f" [70] rpc
        [⟨.storageWrite rpc "/ext/f" [70], .ok false⟩] refused := fun rpc => ⟨[], rfl, rfl⟩
    have checked : AttemptCalls (fun _ => "d") "/ext/f" [70] 0
        [⟨.storageWrite 0 "/ext/f" [70], .ok true⟩, ⟨.storageMd5sum 0 "/ext/f", .ok (some "x")⟩]
        first := ⟨_, rfl, .await _ .ret⟩
    exact .again checked (.again (rejected 1) (.last (rejected 2)))
  · intro real
    obtain ⟨attempt, member, disagreed⟩ := real.mismatch rfl
    have unverified : attempt.verdict = none := by
      rcases List.mem_cons.mp member with rfl | member
      · rfl
      · rw [List.mem_singleton.mp member]
    exact nomatch unverified.symm.trans disagreed

/-- A digest that keeps disagreeing behind a resync is reported for what it is. -/
theorem pushFile_cause_persistent :
    ∃ attempts escaped, PushScript (fun _ => "d") "/ext/f" [70] 0
        [⟨.storageWrite 0 "/ext/f" [70], .ok true⟩, ⟨.storageMd5sum 0 "/ext/f", .ok (some "x")⟩,
          ⟨.resync, .ok (1 : ℕ)⟩, ⟨.sleep postWriteSettle, .ok ()⟩,
          ⟨.storageWrite 1 "/ext/f" [70], .ok true⟩, ⟨.storageMd5sum 1 "/ext/f", .ok (some "x")⟩,
          ⟨.resync, .ok (2 : ℕ)⟩, ⟨.sleep postWriteSettle, .ok ()⟩,
          ⟨.storageWrite 2 "/ext/f" [70], .ok true⟩, ⟨.storageMd5sum 2 "/ext/f", .ok (some "x")⟩]
        attempts escaped ∧
      ((∀ cause : PushCause, escaped = none →
          (.error (PushCause.mismatch.failure "/ext/f") : Except Exn Handle) =
            .error (cause.failure "/ext/f") → CauseIsReal attempts cause) ↔
        ¬ (escaped = none ∧ StaleMismatch attempts)) :=
  pushFile_cause (.await _ (.await _ (.await _ (.await _ (.await _ (.await _ (.await _ (.await _
    (.await _ (.await _ .raise))))))))))

end Report

end Installer

end FlipperMcp
