import FlipperMcp.Coroutine.Embedding
import FlipperMcp.Coroutine.Rely

/-! # One coroutine after the other

Where a coroutine takes a turn only while no other is under way, each runs as it runs alone. What
holds of the environment's state wherever a coroutine waits alone then holds at every moment, and
what each leaves as it found it holds whenever none is under way (`Config.Reaches.serial`).
-/

namespace Coroutine

variable {S : Type} {I : Signature} {ε σ : Type}

section Alone

variable {α : Type} {E : Env I ε σ} {guard : Event S I ε σ → Prop}
  {post : Except ε α → S → σ → Prop} {c : Coro S I ε α} {s : S} {w : σ}

theorem wp.settle (h : wp E guard c post s w) :
    wp E guard (settle c s).rest post (Coroutine.settle c s).host w := by
  unfold wp
  rw [run_settle]
  exact h

/-- Once what it awaits is answered. -/
theorem wp.answered {op : I.Op} {next : Except ε (I.Res op) → Coro S I ε α}
    (h : wp E guard (.await op next) post s w) :
    wp E guard (next (E op w).1) post s (E op w).2 :=
  ⟨fun event member => h.1 event (List.mem_append_right _ member), h.2⟩

/-- What the guard says of the environment holds from the beginning. -/
theorem wp.world {safe : σ → Prop} (h : wp E (fun event => safe event.world) c post s w)
    (ends : ∀ result s w, post result s w → safe w) : safe w := by
  induction c generalizing s with
  | ret _ | raise _ => exact ends _ _ _ h.2
  | act update next ih => exact ih s h
  | acquire next ih | release next ih => exact ih h
  | await op next ih => exact h.1 _ (List.mem_append_left _ (List.mem_singleton_self _))

theorem wp.ite {condition : Prop} [Decidable condition] {d : Coro S I ε α}
    (yes : condition → wp E guard c post s w) (no : ¬ condition → wp E guard d post s w) :
    wp E guard (if condition then c else d) post s w := by
  by_cases holds : condition
  · rw [if_pos holds]
    exact yes holds
  · rw [if_neg holds]
    exact no holds

/-- What a body keeps, its handlers keep too. -/
theorem wp.caught {kept : S → σ → Prop} {catches : ε → Bool} {handler : ε → Coro S I ε α}
    (body : wp E guard c (fun _ => kept) s w)
    (handled : ∀ e s w, catches e = true → kept s w → wp E guard (handler e) (fun _ => kept) s w) :
    wp E guard (Coro.tryExcept catches c handler) (fun _ => kept) s w := by
  apply wp_tryExcept.mpr
  refine body.mono fun result s w holds => ?_
  cases result with
  | ok value => exact holds
  | error e =>
      by_cases caught : catches e = true
      · simp only [caught, ↓reduceIte]
        exact handled e s w caught holds
      · simp only [caught, Bool.false_eq_true, ↓reduceIte]
        exact holds

/-- A coroutine of a part of `s`. -/
theorem wp.zoom {T : Type} {view : S → T} {put : T → S → S} (part : IsPart view put) (s : S)
    {safe : σ → Prop} {body : Coro T I ε α} {t : T}
    (h : wp E (fun event => safe event.world) body (fun result t w => post result (put t s) w) t w) :
    wp E (fun event => safe event.world) (body.zoom view put) post (put t s) w := by
  induction body generalizing t w with
  | ret _ | raise _ => exact ⟨nofun, h.2⟩
  | act update next ih =>
      apply wp_act.mpr
      rw [part.view_put, part.put_put]
      exact ih t h
  | acquire next ih | release next ih => exact ih h
  | await op next ih =>
      obtain ⟨events, ends⟩ := ih (E op w).1 h.answered
      refine ⟨fun event member => ?_, ends⟩
      rcases List.mem_append.mp member with first | later
      · rw [List.mem_singleton.mp first]
        exact h.1 _ (List.mem_append_left _ (List.mem_singleton_self _))
      · exact events event later

/-- A coroutine of an object that nobody else holds. -/
theorem wp.beyond {T : Type} {safe : σ → Prop} {body : Coro T I ε α} {t : T}
    {post : Except ε (Except ε α × T) → S → σ → Prop}
    (h : wp E (fun event => safe event.world) body (fun result t w => post (.ok (result, t)) s w) t w) :
    wp E (fun event => safe event.world) (Coro.over t body) post s w := by
  induction body generalizing t w with
  | ret _ | raise _ => exact ⟨nofun, h.2⟩
  | act update next ih => exact ih t h
  | acquire next ih | release next ih => exact ih h
  | await op next ih =>
      obtain ⟨events, ends⟩ := ih (E op w).1 h.answered
      refine ⟨fun event member => ?_, ends⟩
      rcases List.mem_append.mp member with first | later
      · rw [List.mem_singleton.mp first]
        exact h.1 _ (List.mem_append_left _ (List.mem_singleton_self _))
      · exact events event later

end Alone

section Serial

variable {ι : Type} [DecidableEq ι] {α : ι → Type} {E : Env I ε σ}

/-- It has not begun, or has ended: what has begun runs up to a suspension. -/
def Config.Idle (cfg : Config ι S I ε σ α) (i : ι) : Prop :=
  ¬ Suspended (cfg.tasks i) ∨ ∃ result, (cfg.tasks i).result? = some result

/-- No other is under way. -/
def Config.Alone (cfg : Config ι S I ε σ α) (i : ι) : Prop := ∀ j ≠ i, cfg.Idle j

/-- One is under way at most, and goes on as it does alone. -/
structure Config.Serial (E : Env I ε σ) (tasks : ∀ i, Coro S I ε (α i)) (safe : σ → Prop)
    (kept : S → σ → Prop) (cfg : Config ι S I ε σ α) : Prop where
  unbegun : ∀ i, ¬ Suspended (cfg.tasks i) → cfg.tasks i = tasks i
  turn : ((∀ i, cfg.Idle i) ∧ kept cfg.host cfg.world) ∨ ∃ i, cfg.Alone i ∧ ¬ cfg.Idle i ∧
    wp E (fun event => safe event.world) (cfg.tasks i) (fun _ => kept) cfg.host cfg.world

variable {tasks : ∀ i, Coro S I ε (α i)} {safe : σ → Prop} {kept : S → σ → Prop}
  {cfg next : Config ι S I ε σ α} {i : ι}

/-- What a turn leaves of what it does alone. -/
theorem Config.turn_wp {guard : Event S I ε σ → Prop} {post : Except ε (α i) → S → σ → Prop}
    (goes : wp E guard (cfg.tasks i) post cfg.host cfg.world) (taken : cfg.step E i = some next) :
    ∃ c : Coro S I ε (α i), Suspended c ∧ next.tasks = Function.update cfg.tasks i c ∧
      wp E guard c post next.host next.world := by
  cases Config.turn taken with
  | ran c resumed tasks host world =>
      have now : wp E guard c post cfg.host cfg.world := by
        rcases resumed with ⟨same, _⟩ | waited
        · exact same ▸ goes
        · rw [waited] at goes
          exact goes
      refine ⟨_, suspended_settle c cfg.host, tasks, ?_⟩
      rw [host, world]
      exact now.settle
  | answered op k awaits tasks host world =>
      rw [awaits] at goes
      refine ⟨_, suspended_settle _ cfg.host, tasks, ?_⟩
      rw [host, world]
      exact goes.answered.settle

/-- What is not idle has been resumed. -/
theorem Config.Serial.goes (h : cfg.Serial E tasks safe kept) (alone : cfg.Alone i)
    (each : ∀ i s w, kept s w → wp E (fun event => safe event.world) (tasks i) (fun _ => kept) s w)
    (taken : cfg.step E i = some next) :
    wp E (fun event => safe event.world) (cfg.tasks i) (fun _ => kept) cfg.host cfg.world := by
  rcases h.turn with ⟨idle, now⟩ | ⟨j, _, busy, goes⟩
  · rcases idle i with unbegun | ⟨result, ended⟩
    · rw [h.unbegun i unbegun]
      exact each i _ _ now
    · unfold Config.step at taken
      cases task : cfg.tasks i with
      | ret _ | raise _ =>
          rw [task] at taken
          exact nomatch taken
      | act _ _ | await _ _ | acquire _ | release _ =>
          rw [task] at ended
          exact nomatch ended
  · by_cases own : i = j
    · subst own
      exact goes
    · exact absurd (alone j (Ne.symm own)) busy

/-- One turn. -/
theorem Config.Serial.step (h : cfg.Serial E tasks safe kept) (alone : cfg.Alone i)
    (each : ∀ i s w, kept s w → wp E (fun event => safe event.world) (tasks i) (fun _ => kept) s w)
    (taken : cfg.step E i = some next) : next.Serial E tasks safe kept := by
  obtain ⟨c, suspended, tasks', goes⟩ := Config.turn_wp (h.goes alone each taken) taken
  have own : next.tasks i = c := by rw [tasks', Function.update_self]
  have others : ∀ j ≠ i, next.tasks j = cfg.tasks j := fun j apart => by
    rw [tasks', Function.update_of_ne apart]
  have alone' : next.Alone i := by
    intro j apart
    unfold Config.Idle
    rw [others j apart]
    exact alone j apart
  constructor
  · intro j unbegun
    by_cases same : j = i
    · subst same
      rw [own] at unbegun
      exact absurd suspended unbegun
    · rw [others j same] at unbegun ⊢
      exact h.unbegun j unbegun
  · rw [← own] at goes
    by_cases idle : next.Idle i
    · refine .inl ⟨fun j => ?_, ?_⟩
      · by_cases same : j = i
        · exact same ▸ idle
        · exact alone' j same
      · rcases idle with unbegun | ⟨result, ended⟩
        · rw [own] at unbegun
          exact absurd suspended unbegun
        · have done := goes.2
          rw [run_of_result? E ended] at done
          exact done
    · exact .inr ⟨i, alone', idle, goes⟩

/-- **One after the other.** -/
theorem Config.Reaches.serial (safe : σ → Prop) (kept : S → σ → Prop) {s : S} {w : σ}
    (reached : Config.Reaches E Config.Alone (.start tasks s w) cfg)
    (begins : ∀ i, ¬ Suspended (tasks i)) (starts : kept s w)
    (each : ∀ i s w, kept s w → wp E (fun event => safe event.world) (tasks i) (fun _ => kept) s w)
    (safely : ∀ s w, kept s w → safe w) :
    safe cfg.world ∧ ((∀ i, cfg.Idle i) → kept cfg.host cfg.world) := by
  have serial : cfg.Serial E tasks safe kept := by
    induction reached with
    | refl => exact ⟨fun i _ => rfl, .inl ⟨fun i => .inl (begins i), starts⟩⟩
    | step i _ alone taken ih => exact ih.step alone each taken
  rcases serial.turn with ⟨_, now⟩ | ⟨i, _, busy, goes⟩
  · exact ⟨safely _ _ now, fun _ => now⟩
  · exact ⟨goes.world fun _ s w => safely s w, fun idle => absurd (idle i) busy⟩

end Serial

end Coroutine
