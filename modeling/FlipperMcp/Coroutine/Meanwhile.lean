import FlipperMcp.Coroutine.Precondition

/-! # Running while others act

`Coroutine.runAmid` runs one coroutine while others change the shared state: wherever it is
suspended, they do to the state what `others` makes of the event. With nobody else it is
`Coroutine.run` (`runAmid_alone`).

A program that changes nothing itself leaves the state as the others have made it
(`Within.runAmid_host`), and one with so many suspensions meets as many events
(`Suspends.length`).
-/

namespace Coroutine

variable {S : Type} {I : Signature} {ε σ α β : Type}

/-- Run a coroutine against an environment; others act on the state at its suspensions. -/
def runAmid (E : Env I ε σ) (others : Event S I ε σ → S → S) :
    Coro S I ε α → S → σ → Outcome S I ε σ α
  | .ret value, s, w => ⟨.ok value, s, w, []⟩
  | .raise error, s, w => ⟨.error error, s, w, []⟩
  | .act update next, s, w => runAmid E others (next s) (update s) w
  | .await op next, s, w =>
      (runAmid E others (next (E op w).1) (others ⟨s, w, op, (E op w).1⟩ s) (E op w).2).after
        [⟨s, w, op, (E op w).1⟩]
  | .acquire next, s, w => runAmid E others next s w
  | .release next, s, w => runAmid E others next s w

section Rules

variable {E : Env I ε σ} {others : Event S I ε σ → S → S}

/-- Nobody else acts. -/
theorem runAmid_alone (c : Coro S I ε α) (s : S) (w : σ) :
    runAmid E (fun _ => id) c s w = run E c s w := by
  induction c generalizing s w with
  | ret _ | raise _ => rfl
  | act update next ih => exact ih s (update s) w
  | acquire next ih | release next ih => exact ih s w
  | await op next ih => exact congrArg (Outcome.after _) (ih _ s _)

@[simp] theorem runAmid_pure (value : α) (s : S) (w : σ) :
    runAmid E others (pure value) s w = ⟨.ok value, s, w, []⟩ := rfl

@[simp] theorem runAmid_get_bind (next : S → Coro S I ε α) (s : S) (w : σ) :
    runAmid E others (Coro.get >>= next) s w = runAmid E others (next s) s w := rfl

@[simp] theorem runAmid_modify (update : S → S) (s : S) (w : σ) :
    runAmid E others (Coro.modify update : Coro S I ε Unit) s w = ⟨.ok (), update s, w, []⟩ := rfl

@[simp] theorem runAmid_modify_bind (update : S → S) (next : Unit → Coro S I ε α) (s : S) (w : σ) :
    runAmid E others (Coro.modify update >>= next) s w = runAmid E others (next ()) (update s) w :=
  rfl

/-- After a value the second part runs where the first has ended. -/
theorem runAmid_bind {c : Coro S I ε β} {k : β → Coro S I ε α} {s : S} {w : σ} {value : β}
    (returned : (runAmid E others c s w).result = .ok value) :
    runAmid E others (c >>= k) s w =
      (runAmid E others (k value) (runAmid E others c s w).host (runAmid E others c s w).world).after
        (runAmid E others c s w).trace := by
  induction c generalizing s w with
  | ret _ =>
      obtain rfl := Except.ok.inj returned
      rfl
  | raise _ => exact nomatch returned
  | act update next ih => exact ih s returned
  | acquire next ih | release next ih => exact ih returned
  | await op next ih =>
      change ((runAmid E others (next (E op w).1 >>= k) _ _).after _) = _
      rw [ih (E op w).1 returned]
      exact Outcome.after_after ..

/-- Without exceptions every run ends in a value. -/
theorem runAmid_value (E : Env I Empty σ) (others : Event S I Empty σ → S → S)
    (c : Coro S I Empty α) (s : S) (w : σ) : ∃ value, (runAmid E others c s w).result = .ok value := by
  cases (runAmid E others c s w).result with
  | ok value => exact ⟨value, rfl⟩
  | error error => exact error.elim

/-- What a program that changes nothing leaves behind. -/
theorem Within.runAmid_host {allowed : I.Op → Prop} {c : Coro S I ε α}
    (h : Within allowed (fun s s' => s' = s) c) (E : Env I ε σ) (others : Event S I ε σ → S → S)
    (s : S) (w : σ) :
    (runAmid E others c s w).host =
      (runAmid E others c s w).trace.foldl (fun s event => others event s) s := by
  induction c generalizing s w with
  | ret _ | raise _ => rfl
  | act update next ih =>
      have same := ih s (h.2 s) (update s) w
      rw [h.1 s] at same
      change (runAmid E others (next s) (update s) w).host =
        (runAmid E others (next s) (update s) w).trace.foldl _ s
      rw [h.1 s]
      exact same
  | await op next ih => exact ih _ (h.2 _) _ _
  | acquire _ _ | release _ _ => exact h.elim

/-- It is suspended so many times at most. -/
def Suspends : ℕ → Coro S I ε α → Prop
  | _, .ret _ | _, .raise _ => True
  | n, .act _ next => ∀ s, Suspends n (next s)
  | n, .await _ next => 0 < n ∧ ∀ answer, Suspends (n - 1) (next answer)
  | n, .acquire next | n, .release next => Suspends n next

theorem Suspends.pure (value : α) : Suspends 0 (Pure.pure value : Coro S I ε α) := trivial

theorem Suspends.perform (op : I.Op) : Suspends 1 (Coro.perform op : Coro S I ε (I.Res op)) := by
  refine ⟨Nat.one_pos, fun answer => ?_⟩
  cases answer <;> trivial

theorem Suspends.mono {m n : ℕ} {c : Coro S I ε α} (h : Suspends m c) (le : m ≤ n) :
    Suspends n c := by
  induction c generalizing m n with
  | ret _ | raise _ => trivial
  | act _ next ih => exact fun s => ih s (h s) le
  | acquire next ih | release next ih => exact ih h le
  | await op next ih =>
      exact ⟨Nat.lt_of_lt_of_le h.1 le, fun answer => ih answer (h.2 answer) (Nat.sub_le_sub_right le 1)⟩

theorem Suspends.bind {m n : ℕ} {c : Coro S I ε β} {k : β → Coro S I ε α} (first : Suspends m c)
    (rest : ∀ value, Suspends n (k value)) : Suspends (m + n) (c >>= k) := by
  induction c generalizing m with
  | ret value => exact (rest value).mono (Nat.le_add_left n m)
  | raise _ => trivial
  | act _ next ih => exact fun s => ih s (first s)
  | acquire next ih | release next ih => exact ih first
  | await op next ih =>
      refine ⟨Nat.add_pos_left first.1 n, fun answer => ?_⟩
      rw [Nat.sub_add_comm first.1]
      exact ih answer (first.2 answer)

theorem Suspends.ite {condition : Prop} [Decidable condition] {n : ℕ} {c d : Coro S I ε α}
    (yes : Suspends n c) (no : Suspends n d) : Suspends n (if condition then c else d) := by
  by_cases holds : condition
  · rw [if_pos holds]
    exact yes
  · rw [if_neg holds]
    exact no

/-- So many events its run has. -/
theorem Suspends.length {n : ℕ} {c : Coro S I ε α} (h : Suspends n c) (E : Env I ε σ)
    (others : Event S I ε σ → S → S) (s : S) (w : σ) :
    (runAmid E others c s w).trace.length ≤ n := by
  induction c generalizing n s w with
  | ret _ | raise _ => exact Nat.zero_le n
  | act update next ih => exact ih s (h s) (update s) w
  | acquire next ih | release next ih => exact ih h s w
  | await op next ih =>
      have later := ih (E op w).1 (h.2 _) (others ⟨s, w, op, (E op w).1⟩ s) (E op w).2
      change (_ :: _).length ≤ n
      rw [List.length_cons]
      exact Nat.le_sub_one_iff_lt h.1 |>.mp later

end Rules

end Coroutine
