import FlipperMcp.Rpc.Methods

/-! # Runs of the handlers

The methods wrap their exchanges in `try` and `asyncio.wait_for`. A handler changes what a
run ends with and nothing of what it does (`run_guarded`); a timer adds its start and its stop
(`run_waitFor`). So a timed method ends as its exchange does (`run_timed`).
-/

namespace FlipperMcp

open Coroutine

namespace ProtobufRPC

/-- A host on USB whose session is up. -/
def sessionUp : Host where
  transport := .usb
  objects := fun _ => { rpcSessionStarted := true }

variable {σ α : Type} {E : LinkEnv σ}

/-- What leaves a handler that returns a failure. -/
def orFailure (failure : α) : Except Exn α → Except Exn α
  | .ok value => .ok value
  | .error e => if e.isException then .ok failure else .error e

@[simp] theorem orFailure_ok (failure value : α) : orFailure failure (.ok value) = .ok value := rfl

/-- Such a handler awaits nothing. -/
theorem run_guarded (failure : α) (body : Link α) (s : Host) (w : σ) :
    run E (guarded failure body) s w =
      { run E body s w with result := orFailure failure (run E body s w).result } := by
  unfold guarded Link.orElse orFailure
  rw [run_tryExcept]
  rcases run E body s w with ⟨result, host, world, trace⟩
  cases result with
  | ok value => rfl
  | error e =>
      by_cases exception : e.isException = true
      · simp only [exception, ↓reduceIte, Coro.pure_eq, run_ret, Outcome.after, List.append_nil]
      · simp only [exception, Bool.false_eq_true, ↓reduceIte]

/-- The timer is started before the body and stopped behind it. -/
theorem run_waitFor (timeout : Time) (body : Link α) (s : Host) (w : σ) :
    run E (Link.waitFor timeout body) s w =
      let o := run E body s (E (.startTimeout timeout) w).2
      ⟨Link.timedOut o.result, o.host, (E .stopTimeout o.world).2,
        ⟨s, w, .startTimeout timeout, (E (.startTimeout timeout) w).1⟩ :: o.trace ++
          [⟨o.host, o.world, .stopTimeout, (E .stopTimeout o.world).1⟩]⟩ := by
  unfold Link.waitFor Link.perform
  rw [run_bind, run_attempt, run_perform]
  simp only
  rw [run_bind, run_attempt]
  simp only
  rw [run_bind, run_attempt, run_perform]
  simp only [run_ofExcept, Outcome.after, List.append_nil, List.cons_append, List.nil_append]

/-- What leaves a timed method. -/
def timedResult (failure : α) (result : Except Exn α) : Except Exn α :=
  orFailure failure (Link.timedOut (orFailure failure result))

@[simp] theorem timedResult_ok (failure value : α) : timedResult failure (.ok value) = .ok value :=
  rfl

/-- **A timed method** does what its body does. -/
theorem run_timed (timeout : Time) (failure : α) (body : Link α) (s : Host) (w : σ) :
    let o := run E body s (E (.startTimeout timeout) w).2
    (run E (timed timeout failure body) s w).result = timedResult failure o.result ∧
      (run E (timed timeout failure body) s w).host = o.host ∧
      (run E (timed timeout failure body) s w).world = (E .stopTimeout o.world).2 := by
  unfold timed timedResult
  rw [run_guarded, run_waitFor, run_guarded]
  exact ⟨rfl, rfl, rfl⟩

end ProtobufRPC

end FlipperMcp
