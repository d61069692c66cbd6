import FlipperMcp.Coroutine.Precondition
import Mathlib.Data.List.Induction
import Mathlib.Logic.Function.Basic

/-! # Interleaving coroutines under one mutex

Any number of coroutines run over one shared state, one environment and one mutex.
A schedule says whose turn it is: a coroutine that awaits an operation is resumed
with the answer, one that waits for the mutex gets it if it is free, and one that
has not begun begins. Between two suspensions a coroutine runs undisturbed
(`settle`). What one task calls several times, one call after another, is several
coroutines here, each begun when the schedule says so.
-/

namespace Coroutine

variable {S : Type} {I : Signature} {ε σ : Type}

section Settle

variable {α : Type}

/-- The result of a coroutine that has ended. -/
def Coro.result? : Coro S I ε α → Option (Except ε α)
  | .ret value => some (.ok value)
  | .raise error => some (.error error)
  | _ => none

/-- A coroutine that has run up to a suspension. -/
structure Settled (S : Type) (I : Signature) (ε α : Type) where
  rest : Coro S I ε α
  host : S
  released : Bool

/-- Run a coroutine up to its next suspension. -/
def settle : Coro S I ε α → S → Settled S I ε α
  | .act update next, s => settle (next s) (update s)
  | .release next, s => { settle next s with released := true }
  | .ret value, s => ⟨.ret value, s, false⟩
  | .raise error, s => ⟨.raise error, s, false⟩
  | .await op next, s => ⟨.await op next, s, false⟩
  | .acquire next, s => ⟨.acquire next, s, false⟩

/-- Alone, a coroutine runs on from where it settled. -/
theorem run_settle (E : Env I ε σ) (c : Coro S I ε α) (s : S) (w : σ) :
    run E (settle c s).rest (settle c s).host w = run E c s w := by
  induction c generalizing s with
  | ret _ | raise _ | await _ _ _ | acquire _ _ => rfl
  | act update next ih => exact ih s (update s)
  | release next ih => exact ih s

/-- What has ended does nothing more. -/
theorem run_of_result? (E : Env I ε σ) {c : Coro S I ε α} {result : Except ε α}
    (ended : c.result? = some result) (s : S) (w : σ) : run E c s w = ⟨result, s, w, []⟩ := by
  cases c with
  | ret value => exact Option.some.inj ended ▸ rfl
  | raise error => exact Option.some.inj ended ▸ rfl
  | act _ _ | await _ _ | acquire _ | release _ => cases ended

end Settle

/-- Coroutines under way. -/
structure Config (ι S : Type) (I : Signature) (ε σ : Type) (α : ι → Type) where
  tasks : ∀ i, Coro S I ε (α i)
  host : S
  world : σ
  holder : Option ι
  trace : List (ι × Event S I ε σ)

section Interleaving

variable {ι : Type} [DecidableEq ι] {α : ι → Type}

namespace Config

/-- The coroutines before any has begun. -/
def start (tasks : ∀ i, Coro S I ε (α i)) (s : S) (w : σ) : Config ι S I ε σ α :=
  { tasks := tasks, host := s, world := w, holder := none, trace := [] }

/-- One coroutine runs up to its next suspension. -/
def advance (cfg : Config ι S I ε σ α) (i : ι) : Config ι S I ε σ α :=
  { cfg with
    tasks := Function.update cfg.tasks i (settle (cfg.tasks i) cfg.host).rest
    host := (settle (cfg.tasks i) cfg.host).host
    holder := if (settle (cfg.tasks i) cfg.host).released then none else cfg.holder }

/-- One coroutine is to go on with `c`. -/
def resume (cfg : Config ι S I ε σ α) (i : ι) (c : Coro S I ε (α i)) : Config ι S I ε σ α :=
  { cfg with tasks := Function.update cfg.tasks i c }

/-- The mutex is given to a coroutine. -/
def grant (cfg : Config ι S I ε σ α) (i : ι) : Config ι S I ε σ α :=
  { cfg with holder := some i }

/-- An operation one coroutine awaits is answered. -/
def answer (E : Env I ε σ) (cfg : Config ι S I ε σ α) (i : ι) (op : I.Op) :
    Config ι S I ε σ α :=
  { cfg with
    world := (E op cfg.world).2
    trace := cfg.trace ++ [(i, ⟨cfg.host, cfg.world, op, (E op cfg.world).1⟩)] }

/-- One turn of a coroutine, where it can take one. -/
def step (E : Env I ε σ) (cfg : Config ι S I ε σ α) (i : ι) : Option (Config ι S I ε σ α) :=
  match cfg.tasks i with
  | .ret _ | .raise _ => none
  | .acquire next => if cfg.holder = none then some (((cfg.grant i).resume i next).advance i) else none
  | .await op next => some (((cfg.answer E i op).resume i (next (E op cfg.world).1)).advance i)
  | .act _ _ | .release _ => some (cfg.advance i)

/-- The configurations that permitted turns lead to. -/
inductive Reaches (E : Env I ε σ) (permitted : Config ι S I ε σ α → ι → Prop)
    (cfg : Config ι S I ε σ α) : Config ι S I ε σ α → Prop
  | refl : Reaches E permitted cfg cfg
  | step {mid next : Config ι S I ε σ α} (i : ι) (before : Reaches E permitted cfg mid)
      (permits : permitted mid i) (turn : mid.step E i = some next) : Reaches E permitted cfg next

/-- A weaker condition on the turns. -/
theorem Reaches.mono {E : Env I ε σ} {permitted wider : Config ι S I ε σ α → ι → Prop}
    {cfg end_ : Config ι S I ε σ α} (h : Reaches E permitted cfg end_)
    (weaken : ∀ cfg i, permitted cfg i → wider cfg i) : Reaches E wider cfg end_ := by
  induction h with
  | refl => exact .refl
  | step i _ permits turn ih => exact .step i ih (weaken _ i permits) turn

end Config

/-- Follow a schedule. -/
def Config.follow (E : Env I ε σ) (cfg : Config ι S I ε σ α) (schedule : List ι) :
    Option (Config ι S I ε σ α) :=
  schedule.foldlM (Config.step E) cfg

/-- A schedule whose turns can all be taken leads where it ends. -/
theorem Config.reaches_of_follow (E : Env I ε σ) {cfg end_ : Config ι S I ε σ α}
    (schedule : List ι) (followed : cfg.follow E schedule = some end_) :
    Reaches E (fun _ _ => True) cfg end_ := by
  induction schedule using List.reverseRecOn generalizing end_ with
  | nil => exact Option.some.inj followed ▸ .refl
  | append_singleton schedule i ih =>
      unfold Config.follow at followed ih
      rw [List.foldlM_append] at followed
      obtain ⟨mid, first, last⟩ := Option.bind_eq_some_iff.mp followed
      rw [List.foldlM_cons] at last
      obtain ⟨next, turn, same⟩ := Option.bind_eq_some_iff.mp last
      obtain rfl := Option.some.inj same
      exact .step i (ih first) trivial turn

/-- Every turn of the schedule is permitted where it is taken. -/
def Config.Permits (E : Env I ε σ) (permitted : Config ι S I ε σ α → ι → Prop)
    (cfg : Config ι S I ε σ α) : List ι → Prop
  | [] => True
  | i :: schedule => permitted cfg i ∧ ∀ next, cfg.step E i = some next → next.Permits E permitted schedule

/-- Permitted turns lead where such a schedule ends. -/
theorem Config.reaches_of_permits {E : Env I ε σ} {permitted : Config ι S I ε σ α → ι → Prop}
    {cfg mid end_ : Config ι S I ε σ α} {schedule : List ι} (before : Reaches E permitted cfg mid)
    (permits : mid.Permits E permitted schedule) (followed : mid.follow E schedule = some end_) :
    Reaches E permitted cfg end_ := by
  induction schedule generalizing mid with
  | nil => exact Option.some.inj followed ▸ before
  | cons i schedule ih =>
      unfold Config.follow at followed ih
      rw [List.foldlM_cons] at followed
      obtain ⟨next, turn, later⟩ := Option.bind_eq_some_iff.mp followed
      exact ih (.step i before permits.1 turn) (permits.2 next turn) later

end Interleaving

end Coroutine
