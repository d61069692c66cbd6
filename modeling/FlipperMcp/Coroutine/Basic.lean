import Mathlib.Logic.Basic
import Mathlib.Data.List.Basic

/-! # Coroutines over shared state

A coroutine computes on a state it shares with other coroutines, awaits
operations answered by an environment, and takes and frees one mutex. Between
two suspensions it runs undisturbed, so a local computation is one update of
the shared state. The environment may answer any operation with an exception,
which is how a failing peer and a cancelled suspension both look from inside.

`Coroutine.run` executes one coroutine alone against an environment and records
every awaited operation.
-/

namespace Coroutine

/-- The operations a coroutine can await, with the type of each answer. -/
structure Signature where
  Op : Type
  Res : Op → Type

/-- A coroutine over the shared state `S`, awaiting the operations of `I`. -/
inductive Coro (S : Type) (I : Signature) (ε α : Type) : Type
  | ret (value : α)
  | raise (error : ε)
  | act (update : S → S) (next : S → Coro S I ε α)
  | await (op : I.Op) (next : Except ε (I.Res op) → Coro S I ε α)
  | acquire (next : Coro S I ε α)
  | release (next : Coro S I ε α)

variable {S : Type} {I : Signature} {ε σ α β γ : Type}

namespace Coro

/-- Sequencing; an exception ends the whole coroutine. -/
protected def bind : Coro S I ε α → (α → Coro S I ε β) → Coro S I ε β
  | ret value, k => k value
  | raise error, _ => raise error
  | act update next, k => act update fun s => (next s).bind k
  | await op next, k => await op fun answer => (next answer).bind k
  | acquire next, k => acquire (next.bind k)
  | release next, k => release (next.bind k)

instance : Monad (Coro S I ε) where
  pure := ret
  bind := Coro.bind

@[simp] theorem pure_eq (value : α) : (pure value : Coro S I ε α) = ret value := rfl

@[simp] theorem ret_bind (value : α) (k : α → Coro S I ε β) : ret value >>= k = k value := rfl

@[simp] theorem raise_bind (error : ε) (k : α → Coro S I ε β) :
    (raise error : Coro S I ε α) >>= k = raise error := rfl

@[simp] theorem act_bind (update : S → S) (next : S → Coro S I ε α) (k : α → Coro S I ε β) :
    act update next >>= k = act update fun s => next s >>= k := rfl

@[simp] theorem await_bind (op : I.Op) (next : Except ε (I.Res op) → Coro S I ε α)
    (k : α → Coro S I ε β) : await op next >>= k = await op fun answer => next answer >>= k := rfl

@[simp] theorem acquire_bind (next : Coro S I ε α) (k : α → Coro S I ε β) :
    acquire next >>= k = acquire (next >>= k) := rfl

@[simp] theorem release_bind (next : Coro S I ε α) (k : α → Coro S I ε β) :
    release next >>= k = release (next >>= k) := rfl

theorem bind_ret (c : Coro S I ε α) : c >>= ret = c := by
  induction c with
  | ret _ | raise _ => rfl
  | act _ _ ih => simp only [act_bind, ih]
  | await _ _ ih => simp only [await_bind, ih]
  | acquire _ ih => simp only [acquire_bind, ih]
  | release _ ih => simp only [release_bind, ih]

theorem bind_bind (c : Coro S I ε α) (f : α → Coro S I ε β) (g : β → Coro S I ε γ) :
    c >>= f >>= g = c >>= fun value => f value >>= g := by
  induction c with
  | ret _ | raise _ => rfl
  | act _ _ ih => simp only [act_bind, ih]
  | await _ _ ih => simp only [await_bind, ih]
  | acquire _ ih => simp only [acquire_bind, ih]
  | release _ ih => simp only [release_bind, ih]

instance : LawfulMonad (Coro S I ε) :=
  LawfulMonad.mk' _ bind_ret (fun _ _ => rfl) bind_bind

/-- Read the shared state. -/
def get : Coro S I ε S := act id ret

/-- Update the shared state. -/
def modify (update : S → S) : Coro S I ε Unit := act update fun _ => ret ()

/-- Await one operation, raising the exception it is answered with. -/
def perform (op : I.Op) : Coro S I ε (I.Res op) :=
  await op fun answer => match answer with
    | .ok value => ret value
    | .error error => raise error

/-- Return or raise a computed result. -/
def ofExcept : Except ε α → Coro S I ε α
  | .ok value => ret value
  | .error error => raise error

/-- Run a coroutine to its end and return its result, exception or not. -/
def attempt : Coro S I ε α → Coro S I ε (Except ε α)
  | ret value => ret (.ok value)
  | raise error => ret (.error error)
  | act update next => act update fun s => (next s).attempt
  | await op next => await op fun answer => (next answer).attempt
  | acquire next => acquire next.attempt
  | release next => release next.attempt

/-- `try: body except catches: handler`. -/
def tryExcept (catches : ε → Bool) (body : Coro S I ε α) (handler : ε → Coro S I ε α) :
    Coro S I ε α := do
  match ← body.attempt with
  | .ok value => pure value
  | .error error => if catches error then handler error else raise error

/-- `async with lock: body`. The mutex is freed whether or not the body raises. -/
def withLock (body : Coro S I ε α) : Coro S I ε α :=
  acquire (body.attempt >>= fun result => release (ofExcept result))

end Coro

/-- An environment: a state machine answering every awaited operation. -/
abbrev Env (I : Signature) (ε σ : Type) := (op : I.Op) → σ → Except ε (I.Res op) × σ

/-- One awaited operation, with the shared state and the environment it was
awaited in. -/
structure Event (S : Type) (I : Signature) (ε σ : Type) where
  host : S
  world : σ
  op : I.Op
  answer : Except ε (I.Res op)

/-- The result of running a coroutine alone. -/
@[ext] structure Outcome (S : Type) (I : Signature) (ε σ α : Type) where
  result : Except ε α
  host : S
  world : σ
  trace : List (Event S I ε σ)

namespace Outcome

/-- The same run with earlier events in front. -/
def after (earlier : List (Event S I ε σ)) (o : Outcome S I ε σ α) : Outcome S I ε σ α :=
  { o with trace := earlier ++ o.trace }

@[simp] theorem after_result (earlier : List (Event S I ε σ)) (o : Outcome S I ε σ α) :
    (o.after earlier).result = o.result := rfl

@[simp] theorem after_host (earlier : List (Event S I ε σ)) (o : Outcome S I ε σ α) :
    (o.after earlier).host = o.host := rfl

@[simp] theorem after_world (earlier : List (Event S I ε σ)) (o : Outcome S I ε σ α) :
    (o.after earlier).world = o.world := rfl

@[simp] theorem after_trace (earlier : List (Event S I ε σ)) (o : Outcome S I ε σ α) :
    (o.after earlier).trace = earlier ++ o.trace := rfl

theorem after_nil (o : Outcome S I ε σ α) : o.after [] = o := rfl

theorem after_after (first second : List (Event S I ε σ)) (o : Outcome S I ε σ α) :
    (o.after second).after first = o.after (first ++ second) := by
  simp only [after, List.append_assoc]

end Outcome

/-- Run a coroutine alone against an environment. Nobody else holds the mutex. -/
def run (E : Env I ε σ) : Coro S I ε α → S → σ → Outcome S I ε σ α
  | .ret value, s, w => ⟨.ok value, s, w, []⟩
  | .raise error, s, w => ⟨.error error, s, w, []⟩
  | .act update next, s, w => run E (next s) (update s) w
  | .await op next, s, w =>
      (run E (next (E op w).1) s (E op w).2).after [⟨s, w, op, (E op w).1⟩]
  | .acquire next, s, w => run E next s w
  | .release next, s, w => run E next s w

section Run

variable (E : Env I ε σ)

@[simp] theorem run_ret (value : α) (s : S) (w : σ) :
    run E (.ret value) s w = ⟨.ok value, s, w, []⟩ := rfl

@[simp] theorem run_raise (error : ε) (s : S) (w : σ) :
    run E (.raise error : Coro S I ε α) s w = ⟨.error error, s, w, []⟩ := rfl

@[simp] theorem run_act (update : S → S) (next : S → Coro S I ε α) (s : S) (w : σ) :
    run E (.act update next) s w = run E (next s) (update s) w := rfl

@[simp] theorem run_await (op : I.Op) (next : Except ε (I.Res op) → Coro S I ε α) (s : S) (w : σ) :
    run E (.await op next) s w =
      (run E (next (E op w).1) s (E op w).2).after [⟨s, w, op, (E op w).1⟩] := rfl

@[simp] theorem run_acquire (next : Coro S I ε α) (s : S) (w : σ) :
    run E (.acquire next) s w = run E next s w := rfl

@[simp] theorem run_release (next : Coro S I ε α) (s : S) (w : σ) :
    run E (.release next) s w = run E next s w := rfl

/-- A sequence runs its first part, and its second part only after a value. -/
theorem run_bind (c : Coro S I ε α) (k : α → Coro S I ε β) (s : S) (w : σ) :
    run E (c >>= k) s w =
      match (run E c s w).result with
      | .ok value => (run E (k value) (run E c s w).host (run E c s w).world).after
          (run E c s w).trace
      | .error error => ⟨.error error, (run E c s w).host, (run E c s w).world,
          (run E c s w).trace⟩ := by
  induction c generalizing s w with
  | ret _ | raise _ => rfl
  | act update next ih => exact ih s (update s) w
  | acquire next ih => exact ih s w
  | release next ih => exact ih s w
  | await op next ih =>
      simp only [Coro.await_bind, run_await, ih, Outcome.after_result, Outcome.after_host,
        Outcome.after_world, Outcome.after_trace]
      cases (run E (next (E op w).1) s (E op w).2).result with
      | ok value => simp only [Outcome.after_after]
      | error error => rfl

/-- Sequences whose second parts run alike where they begin run alike. -/
theorem run_bind_congr {c : Coro S I ε α} {k k' : α → Coro S I ε β} {s : S} {w : σ}
    (same : ∀ value, (run E c s w).result = .ok value →
      run E (k value) (run E c s w).host (run E c s w).world =
        run E (k' value) (run E c s w).host (run E c s w).world) :
    run E (c >>= k) s w = run E (c >>= k') s w := by
  rw [run_bind, run_bind]
  cases returned : (run E c s w).result with
  | ok value => exact congrArg (Outcome.after _) (same value returned)
  | error error => rfl

/-- What its first part awaits, a sequence awaits. -/
theorem run_bind_first (c : Coro S I ε α) (k : α → Coro S I ε β) (s : S) (w : σ) :
    (run E c s w).trace ⊆ (run E (c >>= k) s w).trace := by
  rw [run_bind]
  cases (run E c s w).result with
  | ok value => exact List.subset_append_left ..
  | error error => exact List.Subset.refl _

/-- So it is with its second part, after a value. -/
theorem run_bind_rest {c : Coro S I ε α} (k : α → Coro S I ε β) {s : S} {w : σ} {value : α}
    (returned : (run E c s w).result = .ok value) :
    (run E (k value) (run E c s w).host (run E c s w).world).trace ⊆
      (run E (c >>= k) s w).trace := by
  rw [run_bind]
  simp only [returned]
  exact List.subset_append_right ..

/-- Computing with the value changes nothing else. -/
theorem run_bind_pure (c : Coro S I ε α) (f : α → β) (s : S) (w : σ) :
    run E (c >>= fun value => pure (f value)) s w =
      ⟨(run E c s w).result.map f, (run E c s w).host, (run E c s w).world,
        (run E c s w).trace⟩ := by
  rw [run_bind]
  cases (run E c s w).result with
  | ok value => simp only [Coro.pure_eq, run_ret, Outcome.after, List.append_nil, Except.map]
  | error error => rfl

/-- Reifying the result changes nothing else. -/
theorem run_attempt (c : Coro S I ε α) (s : S) (w : σ) :
    run E c.attempt s w = ⟨.ok (run E c s w).result, (run E c s w).host, (run E c s w).world,
      (run E c s w).trace⟩ := by
  induction c generalizing s w with
  | ret _ | raise _ => rfl
  | act update next ih => exact ih s (update s) w
  | acquire next ih => exact ih s w
  | release next ih => exact ih s w
  | await op next ih => simp only [Coro.attempt, run_await, ih, Outcome.after]

@[simp] theorem run_get (s : S) (w : σ) :
    run E (Coro.get : Coro S I ε S) s w = ⟨.ok s, s, w, []⟩ := rfl

@[simp] theorem run_modify (update : S → S) (s : S) (w : σ) :
    run E (Coro.modify update : Coro S I ε Unit) s w = ⟨.ok (), update s, w, []⟩ := rfl

theorem run_perform (op : I.Op) (s : S) (w : σ) :
    run E (Coro.perform op : Coro S I ε (I.Res op)) s w =
      ⟨(E op w).1, s, (E op w).2, [⟨s, w, op, (E op w).1⟩]⟩ := by
  unfold Coro.perform
  rw [run_await]
  cases (E op w).1 <;> rfl

@[simp] theorem run_ofExcept (result : Except ε α) (s : S) (w : σ) :
    run E (Coro.ofExcept result) s w = ⟨result, s, w, []⟩ := by
  cases result <;> rfl

/-- Alone, a coroutine runs the same with and without the mutex. -/
@[simp] theorem run_withLock (body : Coro S I ε α) (s : S) (w : σ) :
    run E body.withLock s w = run E body s w := by
  unfold Coro.withLock
  rw [run_acquire, run_bind, run_attempt]
  simp only [run_release, run_ofExcept, Outcome.after, List.append_nil]

theorem run_tryExcept (catches : ε → Bool) (body : Coro S I ε α) (handler : ε → Coro S I ε α)
    (s : S) (w : σ) :
    run E (Coro.tryExcept catches body handler) s w =
      match (run E body s w).result with
      | .ok _ => run E body s w
      | .error error =>
          if catches error then
            (run E (handler error) (run E body s w).host (run E body s w).world).after
              (run E body s w).trace
          else run E body s w := by
  unfold Coro.tryExcept
  rw [run_bind, run_attempt]
  rcases outcome : run E body s w with ⟨result, host, world, trace⟩
  cases result with
  | ok value => simp only [Coro.pure_eq, run_ret, Outcome.after, List.append_nil]
  | error error =>
      by_cases caught : catches error = true
      · simp only [caught, ↓reduceIte]
      · simp only [caught, Bool.false_eq_true, ↓reduceIte, run_raise, Outcome.after,
          List.append_nil]

/-- What the body awaits is awaited with its handler. -/
theorem run_tryExcept_body (catches : ε → Bool) (body : Coro S I ε α)
    (handler : ε → Coro S I ε α) (s : S) (w : σ) :
    (run E body s w).trace ⊆ (run E (Coro.tryExcept catches body handler) s w).trace := by
  rw [run_tryExcept]
  cases (run E body s w).result with
  | ok value => exact List.Subset.refl _
  | error error =>
      by_cases caught : catches error = true
      · simp only [caught, ↓reduceIte]
        exact List.subset_append_left ..
      · simp only [caught, Bool.false_eq_true, ↓reduceIte]
        exact List.Subset.refl _

/-- So is what the handler awaits, behind a caught error. -/
theorem run_tryExcept_handler {catches : ε → Bool} {body : Coro S I ε α}
    (handler : ε → Coro S I ε α) {s : S} {w : σ} {error : ε}
    (raised : (run E body s w).result = .error error) (caught : catches error = true) :
    (run E (handler error) (run E body s w).host (run E body s w).world).trace ⊆
      (run E (Coro.tryExcept catches body handler) s w).trace := by
  rw [run_tryExcept]
  simp only [raised, caught, ↓reduceIte]
  exact List.subset_append_right ..

end Run

end Coroutine
