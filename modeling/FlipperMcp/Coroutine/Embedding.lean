import FlipperMcp.Coroutine.Precondition

/-! # Components

A component answers operations by running a coroutine over its own state against an
environment of its own (`Coroutine.serve`). A coroutine over the state of a part runs on
the whole (`Coro.zoom`), and does there what it does on the part (`run_zoom`).

Two environments of which one embeds the other answer every coroutine alike
(`Embeds.run`).
-/

namespace Coroutine

variable {S T : Type} {I J : Signature} {ε σ τ α : Type}

/-- Run a coroutine of a part on the whole. -/
def Coro.zoom (view : S → T) (put : T → S → S) : Coro T I ε α → Coro S I ε α
  | ret value => ret value
  | raise error => raise error
  | act update next => act (fun s => put (update (view s)) s) fun s => (next (view s)).zoom view put
  | await op next => await op fun answer => (next answer).zoom view put
  | acquire next => acquire (next.zoom view put)
  | release next => release (next.zoom view put)

/-- Where a part was put it is seen, and the last one put stays. -/
structure IsPart (view : S → T) (put : T → S → S) : Prop where
  view_put : ∀ t s, view (put t s) = t
  put_put : ∀ t t' s, put t (put t' s) = put t s

/-- On the whole a coroutine of a part does what it does on the part. -/
theorem run_zoom {view : S → T} {put : T → S → S} (part : IsPart view put) (E : Env I ε σ)
    (c : Coro T I ε α) (t : T) (s : S) (w : σ) :
    (run E (c.zoom view put) (put t s) w).result = (run E c t w).result ∧
      (run E (c.zoom view put) (put t s) w).host = put (run E c t w).host s ∧
      (run E (c.zoom view put) (put t s) w).world = (run E c t w).world := by
  induction c generalizing t w with
  | ret _ | raise _ => exact ⟨rfl, rfl, rfl⟩
  | act update next ih =>
      rw [Coro.zoom, run_act, run_act, part.view_put, part.put_put]
      exact ih t (update t) w
  | acquire next ih => exact ih t w
  | release next ih => exact ih t w
  | await op next ih => exact ih (E op w).1 t (E op w).2

/-- Run a coroutine of an object that nobody else holds, and return the object with the
result. -/
def Coro.over (t : T) : Coro T I ε α → Coro S I ε (Except ε α × T)
  | ret value => ret (.ok value, t)
  | raise error => ret (.error error, t)
  | act update next => (next t).over (update t)
  | await op next => await op fun answer => (next answer).over t
  | acquire next => acquire (next.over t)
  | release next => release (next.over t)

/-- A coroutine that raises nothing, however it is answered. -/
def Coro.Returns : Coro S I ε α → Prop
  | ret _ => True
  | raise _ => False
  | act _ next => ∀ s, (next s).Returns
  | await _ next => ∀ answer, (next answer).Returns
  | acquire next | release next => next.Returns

theorem Coro.Returns.bind {β : Type} {c : Coro S I ε β} {k : β → Coro S I ε α} (h : c.Returns)
    (rest : ∀ value, (k value).Returns) : (c >>= k).Returns := by
  induction c with
  | ret value => exact rest value
  | raise _ => exact h.elim
  | act _ next ih => exact fun s => ih s (h s)
  | await _ next ih => exact fun answer => ih answer (h answer)
  | acquire _ ih | release _ ih => exact ih h

theorem Coro.get_returns : (Coro.get : Coro S I ε S).Returns := fun _ => trivial

theorem Coro.attempt_returns (c : Coro S I ε α) : c.attempt.Returns := by
  induction c with
  | ret _ | raise _ => trivial
  | act _ next ih => exact ih
  | await _ next ih => exact ih
  | acquire _ ih | release _ ih => exact ih

theorem Coro.Returns.zoom {view : S → T} {put : T → S → S} {c : Coro T I ε α} (h : c.Returns) :
    (c.zoom view put).Returns := by
  induction c with
  | ret _ => trivial
  | raise _ => exact h.elim
  | act _ next ih => exact fun s => ih _ (h _)
  | await _ next ih => exact fun answer => ih answer (h answer)
  | acquire _ ih | release _ ih => exact ih h

theorem Coro.Returns.run {c : Coro S I ε α} (h : c.Returns) (E : Env I ε σ) (s : S) (w : σ) :
    ∃ value, (run E c s w).result = .ok value := by
  induction c generalizing s w with
  | ret value => exact ⟨value, rfl⟩
  | raise _ => exact h.elim
  | act update next ih => exact ih s (h s) (update s) w
  | await op next ih => exact ih _ (h _) s _
  | acquire _ ih | release _ ih => exact ih h s w

theorem Coro.Returns.raises {c : Coro S I ε α} {allowed : ε → Prop} (h : c.Returns) :
    Raises allowed c := by
  induction c with
  | ret _ => trivial
  | raise _ => exact h.elim
  | act _ next ih => exact fun s => ih s (h s)
  | await _ next ih => exact fun answer _ => ih answer (h answer)
  | acquire _ ih | release _ ih => exact ih h

theorem Yields.zoom {view : S → T} {put : T → S → S} {c : Coro T I ε α} {allowed : ε → Prop}
    (h : Raises allowed c) : Raises allowed (c.zoom view put) := by
  induction c with
  | ret _ => trivial
  | raise _ => exact h
  | act _ next ih => exact fun s => ih _ (h _)
  | await _ next ih => exact fun answer answered => ih answer (h answer answered)
  | acquire _ ih | release _ ih => exact ih h

theorem Yields.over {c : Coro T I ε α} {allowed : ε → Prop} (h : Raises allowed c) (t : T) :
    Yields allowed (fun ended => ResultAllowed allowed ended.1)
      (c.over t : Coro S I ε (Except ε α × T)) := by
  induction c generalizing t with
  | ret value => exact .ok value
  | raise error => exact .error h
  | act update next ih => exact ih t (h t) (update t)
  | await _ next ih => exact fun answer answered => ih answer (h answer answered) t
  | acquire _ ih | release _ ih => exact ih h t

/-- The environment a component is for its users. -/
def serve (method : (op : I.Op) → Coro T J ε (I.Res op)) (E : Env J ε σ) : Env I ε (T × σ) :=
  fun op w =>
    let outcome := run E (method op) w.1 w.2
    (outcome.result, outcome.host, outcome.world)

/-- One environment answers some operations as the other does, in the worlds `embed`
relates. -/
def Embeds (allowed : I.Op → Prop) (embed : σ → τ) (E : Env I ε σ) (E' : Env I ε τ) : Prop :=
  ∀ op, allowed op → ∀ w, E' op (embed w) = ((E op w).1, embed (E op w).2)

theorem Embeds.trans {υ : Type} {allowed : I.Op → Prop} {inner : σ → τ} {outer : τ → υ}
    {E : Env I ε σ} {E' : Env I ε τ} {E'' : Env I ε υ} (first : Embeds allowed inner E E')
    (second : Embeds allowed outer E' E'') :
    Embeds allowed (fun w => outer (inner w)) E E'' := by
  intro op permitted w
  rw [second op permitted, first op permitted]

/-- A coroutine that awaits only these operations cannot tell the environments apart. -/
theorem Embeds.run {allowed : I.Op → Prop} {embed : σ → τ} {E : Env I ε σ} {E' : Env I ε τ}
    (embeds : Embeds allowed embed E E') {changes : S → S → Prop} {c : Coro S I ε α}
    (h : Within allowed changes c) (s : S) (w : σ) :
    (run E' c s (embed w)).result = (run E c s w).result ∧
      (run E' c s (embed w)).host = (run E c s w).host ∧
      (run E' c s (embed w)).world = embed (run E c s w).world := by
  induction c generalizing s w with
  | ret _ | raise _ => exact ⟨rfl, rfl, rfl⟩
  | act update next ih => exact ih s (h.2 s) (update s) w
  | await op next ih =>
      rw [run_await, run_await, embeds op h.1 w]
      exact ih _ (h.2 _) s (E op w).2
  | acquire _ _ | release _ _ => exact h.elim

end Coroutine
