import FlipperMcp.Coroutine.Interleaving

/-! # What a coroutine can await

`Awaits allowed` bounds the operations a coroutine can await at all, with or without the
mutex. What is in the bound is all that a run of it awaits, alone (`Awaits.trace`) and among
others (`Config.Reaches.awaited`).
-/

namespace Coroutine

variable {S : Type} {I : Signature} {ε σ α β : Type}

/-- Every operation it awaits is allowed, whatever the answers and the shared state. -/
def Awaits (allowed : I.Op → Prop) : Coro S I ε α → Prop
  | .ret _ | .raise _ => True
  | .act _ next => ∀ s, Awaits allowed (next s)
  | .await op next => allowed op ∧ ∀ answer, Awaits allowed (next answer)
  | .acquire next | .release next => Awaits allowed next

section Rules

variable {allowed : I.Op → Prop}

theorem Awaits.pure (value : α) : Awaits allowed (pure value : Coro S I ε α) := trivial

theorem Awaits.raise (error : ε) : Awaits allowed (.raise error : Coro S I ε α) := trivial

theorem Awaits.get : Awaits allowed (Coro.get : Coro S I ε S) := fun _ => trivial

theorem Awaits.modify (update : S → S) : Awaits allowed (Coro.modify update : Coro S I ε Unit) :=
  fun _ => trivial

theorem Awaits.perform {op : I.Op} (h : allowed op) :
    Awaits allowed (Coro.perform op : Coro S I ε (I.Res op)) :=
  ⟨h, fun answer => by cases answer <;> trivial⟩

theorem Awaits.ofExcept (result : Except ε α) :
    Awaits allowed (Coro.ofExcept result : Coro S I ε α) := by
  cases result with
  | ok value => exact .pure value
  | error error => exact .raise error

theorem Awaits.bind {c : Coro S I ε β} {k : β → Coro S I ε α} (first : Awaits allowed c)
    (rest : ∀ value, Awaits allowed (k value)) : Awaits allowed (c >>= k) := by
  induction c with
  | ret value => exact rest value
  | raise _ => trivial
  | act update next ih => exact fun s => ih s (first s)
  | await op next ih => exact ⟨first.1, fun answer => ih answer (first.2 answer)⟩
  | acquire next ih | release next ih => exact ih first

theorem Awaits.ite {condition : Prop} [Decidable condition] {c d : Coro S I ε α}
    (yes : condition → Awaits allowed c) (no : ¬ condition → Awaits allowed d) :
    Awaits allowed (if condition then c else d) := by
  by_cases holds : condition
  · rw [if_pos holds]
    exact yes holds
  · rw [if_neg holds]
    exact no holds

theorem Awaits.attempt {c : Coro S I ε α} (h : Awaits allowed c) : Awaits allowed c.attempt := by
  induction c with
  | ret _ | raise _ => trivial
  | act update next ih => exact fun s => ih s (h s)
  | await op next ih => exact ⟨h.1, fun answer => ih answer (h.2 answer)⟩
  | acquire next ih | release next ih => exact ih h

theorem Awaits.tryExcept {catches : ε → Bool} {body : Coro S I ε α} {handler : ε → Coro S I ε α}
    (h : Awaits allowed body) (handled : ∀ error, Awaits allowed (handler error)) :
    Awaits allowed (Coro.tryExcept catches body handler) := by
  apply h.attempt.bind
  intro result
  cases result with
  | ok value => exact .pure value
  | error error => exact .ite (fun _ => handled error) fun _ => .raise error

theorem Awaits.withLock {body : Coro S I ε α} (h : Awaits allowed body) :
    Awaits allowed body.withLock :=
  h.attempt.bind fun result => Awaits.ofExcept result

theorem Awaits.mono {larger : I.Op → Prop} {c : Coro S I ε α} (h : Awaits allowed c)
    (ops : ∀ op, allowed op → larger op) : Awaits larger c := by
  induction c with
  | ret _ | raise _ => trivial
  | act update next ih => exact fun s => ih s (h s)
  | await op next ih => exact ⟨ops _ h.1, fun answer => ih answer (h.2 answer)⟩
  | acquire next ih | release next ih => exact ih h

/-- The operations of a footprint. -/
theorem Within.awaits {changes : S → S → Prop} {c : Coro S I ε α} (h : Within allowed changes c) :
    Awaits allowed c := by
  induction c with
  | ret _ | raise _ => trivial
  | act update next ih => exact fun s => ih s (h.2 s)
  | await op next ih => exact ⟨h.1, fun answer => ih answer (h.2 answer)⟩
  | acquire next ih | release next ih => exact h.elim

/-- **A run alone.** -/
theorem Awaits.trace {c : Coro S I ε α} (h : Awaits allowed c) (E : Env I ε σ) (s : S) (w : σ) :
    ∀ event ∈ (run E c s w).trace, allowed event.op := by
  induction c generalizing s w with
  | ret _ | raise _ => exact fun _ member => absurd member List.not_mem_nil
  | act update next ih => exact ih s (h s) (update s) w
  | await op next ih =>
      intro event member
      rw [run_await, Outcome.after_trace] at member
      rcases List.mem_append.mp member with first | later
      · rw [List.mem_singleton.mp first]
        exact h.1
      · exact ih _ (h.2 _) _ _ event later
  | acquire next ih | release next ih => exact ih h s w

/-- What the allowed operations keep of the environment, a run keeps. -/
theorem Awaits.world {c : Coro S I ε α} (h : Awaits allowed c) {E : Env I ε σ} {kept : σ → Prop}
    (stable : ∀ op w, allowed op → kept w → kept (E op w).2) (s : S) {w : σ} (holds : kept w) :
    kept (run E c s w).world := by
  induction c generalizing s w with
  | ret _ | raise _ => exact holds
  | act update next ih => exact ih s (h s) (update s) holds
  | await op next ih => exact ih _ (h.2 _) s (stable op w h.1 holds)
  | acquire next ih | release next ih => exact ih h s holds

/-- An account that every operation extends by what it gives, a run extends by what its
trace gives. -/
theorem run_ledger {τ : Type} {E : Env I ε σ} {account : List τ → σ → Prop}
    {gives : (op : I.Op) → Except ε (I.Res op) → List τ}
    (each : ∀ op got w, account got w → account (got ++ gives op (E op w).1) (E op w).2)
    (c : Coro S I ε α) (s : S) {got : List τ} {w : σ} (holds : account got w) :
    account (got ++ (run E c s w).trace.flatMap fun event => gives event.op event.answer)
      (run E c s w).world := by
  induction c generalizing s got w with
  | ret _ | raise _ =>
      change account (got ++ []) w
      rw [List.append_nil]
      exact holds
  | act update next ih => exact ih s (update s) holds
  | await op next ih =>
      rw [run_await, Outcome.after_trace, List.singleton_append, List.flatMap_cons,
        ← List.append_assoc]
      exact ih _ s (each op got w holds)
  | acquire next ih | release next ih => exact ih s holds

theorem Awaits.settle {c : Coro S I ε α} (h : Awaits allowed c) (s : S) :
    Awaits allowed (Coroutine.settle c s).rest := by
  induction c generalizing s with
  | ret _ | raise _ | await _ _ _ | acquire _ _ => exact h
  | act update next ih => exact ih s (h s) (update s)
  | release next ih => exact ih h s

end Rules

section Interleaving

variable {ι : Type} {results : ι → Type} {allowed : ι → I.Op → Prop}

/-- Every task has awaited, and will await, only what it is allowed to. -/
structure Config.AwaitsOnly (allowed : ι → I.Op → Prop) (cfg : Config ι S I ε σ results) :
    Prop where
  tasks : ∀ i, Awaits (allowed i) (cfg.tasks i)
  trace : ∀ entry ∈ cfg.trace, allowed entry.1 entry.2.op

variable {cfg : Config ι S I ε σ results}

theorem Config.AwaitsOnly.answer (h : cfg.AwaitsOnly allowed) (E : Env I ε σ) (i : ι) {op : I.Op}
    (own : allowed i op) : (cfg.answer E i op).AwaitsOnly allowed := by
  refine ⟨h.tasks, fun entry member => ?_⟩
  rcases List.mem_append.mp member with earlier | last
  · exact h.trace entry earlier
  · rw [List.mem_singleton.mp last]
    exact own

variable [DecidableEq ι]

theorem Config.AwaitsOnly.resume (h : cfg.AwaitsOnly allowed) (i : ι)
    {c : Coro S I ε (results i)} (next : Awaits (allowed i) c) :
    (cfg.resume i c).AwaitsOnly allowed := by
  refine ⟨fun j => ?_, h.trace⟩
  change Awaits (allowed j) (Function.update cfg.tasks i c j)
  by_cases own : j = i
  · subst own
    rw [Function.update_self]
    exact next
  · rw [Function.update_of_ne own]
    exact h.tasks j

theorem Config.AwaitsOnly.advance (h : cfg.AwaitsOnly allowed) (i : ι) :
    (cfg.advance i).AwaitsOnly allowed := by
  have settled := h.resume i ((h.tasks i).settle cfg.host)
  exact ⟨settled.tasks, h.trace⟩

theorem Config.AwaitsOnly.step (h : cfg.AwaitsOnly allowed) (E : Env I ε σ) (i : ι)
    {next : Config ι S I ε σ results} (turn : cfg.step E i = some next) :
    next.AwaitsOnly allowed := by
  have own := h.tasks i
  unfold Config.step at turn
  cases task : cfg.tasks i with
  | ret _ | raise _ =>
      simp only [task] at turn
      exact nomatch turn
  | act _ _ | release _ =>
      simp only [task] at turn
      exact Option.some.inj turn ▸ h.advance i
  | acquire rest =>
      simp only [task] at turn
      rw [task] at own
      have inside : Awaits (allowed i) rest := own
      by_cases free : cfg.holder = none
      · rw [if_pos free] at turn
        have granted : (cfg.grant i).AwaitsOnly allowed := ⟨h.tasks, h.trace⟩
        exact Option.some.inj turn ▸ (granted.resume i inside).advance i
      · rw [if_neg free] at turn
        exact nomatch turn
  | await op rest =>
      simp only [task] at turn own
      exact Option.some.inj turn ▸ ((h.answer E i own.1).resume i (own.2 _)).advance i

/-- **A run among others.** -/
theorem Config.Reaches.awaited {E : Env I ε σ} {permitted : Config ι S I ε σ results → ι → Prop}
    {end_ : Config ι S I ε σ results} (reached : Config.Reaches E permitted cfg end_)
    (h : cfg.AwaitsOnly allowed) : end_.AwaitsOnly allowed := by
  induction reached with
  | refl => exact h
  | step i _ _ turn ih => exact ih.step E i turn

end Interleaving

/-! A program is taken apart by the rules, never by evaluating it. -/

attribute [irreducible] Awaits

end Coroutine
