import FlipperMcp.Coroutine.Basic

/-! # One coroutine after another

`Sessions` are the states and traces reached by running coroutines one after another,
each of them permitted where it starts. What every permitted run keeps holds of all of
them (`Sessions.invariant`).
-/

namespace Coroutine

variable {S : Type} {I : Signature} {ε σ ι : Type} {R : ι → Type}

/-- What is reached, and what was awaited, by permitted runs from a start. -/
inductive Sessions (E : Env I ε σ) (program : (i : ι) → Coro S I ε (R i))
    (permitted : ι → S → σ → Prop) (start : S → σ → Prop) : S → σ → List (Event S I ε σ) → Prop
  | start {s : S} {w : σ} (initial : start s w) : Sessions E program permitted start s w []
  | next {s : S} {w : σ} {trace : List (Event S I ε σ)} (i : ι)
      (reached : Sessions E program permitted start s w trace) (may : permitted i s w) :
      Sessions E program permitted start (run E (program i) s w).host (run E (program i) s w).world
        (trace ++ (run E (program i) s w).trace)

variable {E : Env I ε σ} {program : (i : ι) → Coro S I ε (R i)} {permitted : ι → S → σ → Prop}
  {start : S → σ → Prop} {s : S} {w : σ} {trace : List (Event S I ε σ)}

/-- What holds at the start and is kept by every permitted run holds throughout. -/
theorem Sessions.invariant {kept : S → σ → Prop}
    (reached : Sessions E program permitted start s w trace)
    (initial : ∀ s w, start s w → kept s w)
    (step : ∀ i s w, kept s w → permitted i s w →
      kept (run E (program i) s w).host (run E (program i) s w).world) : kept s w := by
  induction reached with
  | start first => exact initial _ _ first
  | next i _ may ih => exact step i _ _ ih may

/-- With an invariant of the states, what holds of the events of every permitted run holds
of all events. -/
theorem Sessions.events {kept : S → σ → Prop} {allowed : Event S I ε σ → Prop}
    (reached : Sessions E program permitted start s w trace)
    (initial : ∀ s w, start s w → kept s w)
    (step : ∀ i s w, kept s w → permitted i s w →
      kept (run E (program i) s w).host (run E (program i) s w).world ∧
        ∀ event ∈ (run E (program i) s w).trace, allowed event) :
    ∀ event ∈ trace, allowed event := by
  induction reached with
  | start _ => exact nofun
  | next i earlier may ih =>
      have before := earlier.invariant initial fun i s w holds may => (step i s w holds may).1
      intro event member
      rcases List.mem_append.mp member with old | new
      · exact ih event old
      · exact (step i _ _ before may).2 event new

end Coroutine
