import FlipperMcp.Coroutine.Precondition

/-! # Interruptions that pass through

An environment may interrupt a coroutine: it answers one of its operations with a certain
exception. A coroutine that lets the exception pass ends with it at once, so unless it ends
with it, it has run as if nothing had been interrupted (`Coroutine.Passes.run`).
-/

namespace Coroutine

variable {S : Type} {I : Signature} {ε σ α β : Type}

/-- An interruption of certain operations is raised at once. -/
def Passes (interrupts : I.Op → Prop) (interruption : ε) : Coro S I ε α → Prop
  | .ret _ | .raise _ => True
  | .act _ next => ∀ s, Passes interrupts interruption (next s)
  | .await op next => (interrupts op → next (.error interruption) = .raise interruption) ∧
      ∀ answer, Passes interrupts interruption (next answer)
  | .acquire next | .release next => Passes interrupts interruption next

/-- An environment that answers as another, or interrupts. -/
def MayInterrupt (interrupts : I.Op → Prop) (interruption : ε) (E calm : Env I ε σ) : Prop :=
  ∀ op w, E op w = calm op w ∨ interrupts op ∧ (E op w).1 = .error interruption

section Passes

variable {interrupts : I.Op → Prop} {interruption : ε}

theorem Passes.pure (value : α) : Passes interrupts interruption (Pure.pure value : Coro S I ε α) :=
  trivial

theorem Passes.raise (error : ε) :
    Passes interrupts interruption (.raise error : Coro S I ε α) := trivial

theorem Passes.get : Passes interrupts interruption (Coro.get : Coro S I ε S) := fun _ => trivial

theorem Passes.modify (update : S → S) :
    Passes interrupts interruption (Coro.modify update : Coro S I ε Unit) := fun _ => trivial

theorem Passes.perform (op : I.Op) :
    Passes interrupts interruption (Coro.perform op : Coro S I ε (I.Res op)) := by
  refine ⟨fun _ => rfl, fun answer => ?_⟩
  cases answer <;> trivial

theorem Passes.bind {c : Coro S I ε β} {k : β → Coro S I ε α}
    (first : Passes interrupts interruption c)
    (rest : ∀ value, Passes interrupts interruption (k value)) :
    Passes interrupts interruption (c >>= k) := by
  induction c with
  | ret value => exact rest value
  | raise _ => trivial
  | act _ next ih => exact fun s => ih s (first s)
  | acquire _ ih | release _ ih => exact ih first
  | await op next ih =>
      refine ⟨fun may => ?_, fun answer => ih answer (first.2 answer)⟩
      exact congrArg (· >>= k) (first.1 may)

/-- A result is handled, but not the interruption. -/
theorem Passes.attempt_bind {c : Coro S I ε β} {k : Except ε β → Coro S I ε α}
    (first : Passes interrupts interruption c)
    (rest : ∀ result, Passes interrupts interruption (k result))
    (uncaught : k (.error interruption) = .raise interruption) :
    Passes interrupts interruption (c.attempt >>= k) := by
  induction c with
  | ret value => exact rest _
  | raise _ => exact rest _
  | act _ next ih => exact fun s => ih s (first s)
  | acquire _ ih | release _ ih => exact ih first
  | await op next ih =>
      refine ⟨fun may => ?_, fun answer => ih answer (first.2 answer)⟩
      exact (congrArg (fun c => c.attempt >>= k) (first.1 may)).trans uncaught

theorem Passes.tryExcept {catches : ε → Bool} {body : Coro S I ε α} {handler : ε → Coro S I ε α}
    (uncaught : catches interruption = false) (tried : Passes interrupts interruption body)
    (handled : ∀ error, Passes interrupts interruption (handler error)) :
    Passes interrupts interruption (Coro.tryExcept catches body handler) := by
  apply tried.attempt_bind
  · intro result
    cases result with
    | ok value => trivial
    | error error =>
        by_cases caught : catches error = true
        · simp only [caught, ↓reduceIte]
          exact handled error
        · simp only [caught, Bool.false_eq_true, ↓reduceIte]
          trivial
  · simp only [uncaught, Bool.false_eq_true, ↓reduceIte]

/-- An operation that is not interrupted may be answered in any way. -/
theorem Passes.uninterrupted {op : I.Op} {k : Except ε (I.Res op) → Coro S I ε α}
    (own : ¬ interrupts op) (rest : ∀ answer, Passes interrupts interruption (k answer)) :
    Passes interrupts interruption ((Coro.perform op : Coro S I ε (I.Res op)).attempt >>= k) := by
  refine ⟨fun may => absurd may own, fun answer => ?_⟩
  cases answer with
  | ok value => exact rest _
  | error error => exact rest _

/-- **An interrupted run ends with the interruption**; any other is the run without. -/
theorem Passes.run {c : Coro S I ε α} (h : Passes interrupts interruption c) {E calm : Env I ε σ}
    (may : MayInterrupt interrupts interruption E calm) (s : S) (w : σ) :
    run E c s w = run calm c s w ∨ (run E c s w).result = .error interruption := by
  induction c generalizing s w with
  | ret _ | raise _ => exact .inl rfl
  | act update next ih => exact ih s (h s) (update s) w
  | acquire _ ih | release _ ih => exact ih h s w
  | await op next ih =>
      rw [run_await, run_await]
      rcases may op w with same | ⟨interrupted, answer⟩
      · rw [same]
        exact (ih _ (h.2 _) s _).imp (congrArg _) id
      · rw [answer, h.1 interrupted]
        exact .inr rfl

/-- So what is known of the run without interruptions is known of every run that does not
end with one. -/
theorem Passes.wp {c : Coro S I ε α} (h : Passes interrupts interruption c) {E calm : Env I ε σ}
    (may : MayInterrupt interrupts interruption E calm) {s : S} {w : σ}
    {post : Except ε α → S → σ → Prop} (known : wp calm (fun _ => True) c post s w) :
    wp E (fun _ => True) c (fun result s' w' => result = .error interruption ∨ post result s' w')
      s w := by
  refine ⟨fun _ _ => trivial, ?_⟩
  rcases h.run may s w with same | interrupted
  · rw [same]
    exact .inr known.2
  · exact .inl interrupted

end Passes

/-- Two environments that agree on what it awaits run it alike. -/
theorem Within.run_eq {allowed : I.Op → Prop} {changes : S → S → Prop} {c : Coro S I ε α}
    (h : Within allowed changes c) {E calm : Env I ε σ} {kept : σ → Prop}
    (same : ∀ op w, allowed op → kept w → E op w = calm op w)
    (keeps : ∀ op w, allowed op → kept w → kept (calm op w).2) (s : S) {w : σ} (now : kept w) :
    run E c s w = run calm c s w := by
  induction c generalizing s w with
  | ret _ | raise _ => rfl
  | act update next ih => exact ih s (h.2 s) (update s) now
  | await op next ih =>
      rw [run_await, run_await, same op w h.1 now]
      exact congrArg _ (ih _ (h.2 _) s (keeps op w h.1 now))
  | acquire _ _ | release _ _ => exact h.elim

end Coroutine
