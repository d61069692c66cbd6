import FlipperMcp.Coroutine.Precondition

/-! # Recording what was awaited

An environment can keep a record of the operations it answered. A coroutine runs
the same against the recording environment, and the record before each event is
what happened earlier (`Coroutine.run_recording`). A guard over recorded events is
therefore a statement about every event of a run and the events before it
(`Coroutine.wp.recorded`).
-/

namespace Coroutine

variable {S : Type} {I : Signature} {ε σ α : Type}

/-- An operation and its answer. -/
abbrev Observation (I : Signature) (ε : Type) := (op : I.Op) × Except ε (I.Res op)

/-- What an event shows to an observer of the environment. -/
def Event.observed (event : Event S I ε σ) : Observation I ε := ⟨event.op, event.answer⟩

/-- The environment that keeps a record. -/
def recording (E : Env I ε σ) : Env I ε (σ × List (Observation I ε)) := fun op w =>
  ((E op w.1).1, (E op w.1).2, w.2 ++ [⟨op, (E op w.1).1⟩])

/-- The event with the record before it. -/
def Event.recorded (earlier : List (Observation I ε)) (event : Event S I ε σ) :
    Event S I ε (σ × List (Observation I ε)) :=
  ⟨event.host, (event.world, earlier), event.op, event.answer⟩

/-- A trace with the record before each of its events. -/
def recordedTrace : List (Observation I ε) → List (Event S I ε σ) →
    List (Event S I ε (σ × List (Observation I ε)))
  | _, [] => []
  | earlier, event :: events =>
      event.recorded earlier :: recordedTrace (earlier ++ [event.observed]) events

theorem recordedTrace_append (earlier : List (Observation I ε)) (first second : List (Event S I ε σ)) :
    recordedTrace earlier (first ++ second) = recordedTrace earlier first ++
      recordedTrace (earlier ++ first.map Event.observed) second := by
  induction first generalizing earlier with
  | nil => simp only [List.nil_append, recordedTrace, List.map_nil, List.append_nil]
  | cons event first ih =>
      rw [List.cons_append, recordedTrace, recordedTrace, ih, List.cons_append, List.map_cons,
        List.append_assoc, List.singleton_append]

/-- Recording changes nothing else. -/
theorem run_recording (E : Env I ε σ) (c : Coro S I ε α) (s : S) (w : σ)
    (earlier : List (Observation I ε)) :
    run (recording E) c s (w, earlier) =
      ⟨(run E c s w).result, (run E c s w).host,
        ((run E c s w).world, earlier ++ (run E c s w).trace.map Event.observed),
        recordedTrace earlier (run E c s w).trace⟩ := by
  induction c generalizing s w earlier with
  | ret _ | raise _ => simp only [run_ret, run_raise, List.map_nil, List.append_nil, recordedTrace]
  | act update next ih => exact ih s (update s) w earlier
  | acquire next ih => exact ih s w earlier
  | release next ih => exact ih s w earlier
  | await op next ih =>
      have rest := ih (E op w).1 s (E op w).2 (earlier ++ [⟨op, (E op w).1⟩])
      rw [run_await, run_await]
      unfold recording at rest ⊢
      rw [rest]
      simp only [Outcome.after, List.singleton_append, List.map_cons, List.append_assoc,
        recordedTrace, Event.recorded, Event.observed]

/-- A guard over the recording environment holds of every event of the run and the
events before it. -/
theorem wp.recorded {E : Env I ε σ} {c : Coro S I ε α} {s : S} {w : σ}
    {earlier : List (Observation I ε)} {guard : Event S I ε (σ × List (Observation I ε)) → Prop}
    {post : Except ε α → S → σ × List (Observation I ε) → Prop}
    (h : wp (recording E) guard c post s (w, earlier)) :
    (∀ before event after, (run E c s w).trace = before ++ event :: after →
      guard (event.recorded (earlier ++ before.map Event.observed))) ∧
    post (run E c s w).result (run E c s w).host
      ((run E c s w).world, earlier ++ (run E c s w).trace.map Event.observed) := by
  unfold wp at h
  rw [run_recording] at h
  refine ⟨fun before event after split => h.1 _ ?_, h.2⟩
  rw [split, recordedTrace_append, recordedTrace]
  exact List.mem_append_right _ (List.mem_cons_self ..)

end Coroutine
