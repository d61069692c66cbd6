import FlipperMcp.Coroutine.Rely
import FlipperMcp.Coroutine.Serializability

/-! # Linearizability of critical sections

Where each coroutine begins with its critical section, the order that explains an interleaving also
respects which of them ended before another began (`linearizable`). So coroutines that one task
runs one after another come in this order.
-/

namespace Coroutine

variable {S : Type} {I : Signature} {ε σ : Type} {ι : Type} [DecidableEq ι] {α : ι → Type}

/-- On a schedule one coroutine ends before another begins. -/
def Config.Precedes (E : Env I ε σ) (cfg : Config ι S I ε σ α) (schedule : List ι) (i j : ι) : Prop :=
  ∃ earlier later mid, schedule = earlier ++ later ∧ cfg.follow E earlier = some mid ∧
    (mid.tasks i).result?.isSome ∧ mid.tasks j = cfg.tasks j

/-- It begins with its critical section. -/
def Locks {β : Type} (c : Coro S I ε β) : Prop := ∃ next, c = .acquire next

variable {kept : S → Prop} {E : Env I ε σ} {tasks : ∀ i, Coro S I ε (α i)} {s : S} {w : σ}

/-- The order explains the configuration, and what is not in it still waits for the mutex. -/
structure Queued (kept : S → Prop) (E : Env I ε σ) (tasks : ∀ i, Coro S I ε (α i)) (s : S) (w : σ)
    (cfg : Config ι S I ε σ α) (order : List ι) : Prop where
  explained : Explained kept E tasks s w cfg order
  waits : ∀ i ∉ order, cfg.holder ≠ some i → cfg.tasks i = tasks i

namespace Queued

variable {cfg : Config ι S I ε σ α} {order : List ι} {i : ι}

/-- Only the holder of the mutex has a turn, or anyone while it is free. -/
theorem own_turn (locks : ∀ i, Locks (tasks i)) (h : Queued kept E tasks s w cfg order)
    {next : Config ι S I ε σ α} (turn : cfg.step E i = some next) :
    cfg.holder = none ∨ cfg.holder = some i := by
  by_contra outside
  obtain ⟨taken, others⟩ := not_or.mp outside
  obtain ⟨body, locked⟩ := locks i
  unfold Config.step at turn
  cases task : cfg.tasks i with
  | ret _ | raise _ =>
      rw [task] at turn
      cases turn
  | await op resumed => exact others (h.explained.answered task).1
  | acquire acquired =>
      rw [task] at turn
      simp only [taken, ↓reduceIte] at turn
      cases turn
  | act _ _ | release _ =>
      have waits := h.waits i (h.explained.not_mem (by rw [task]; rfl)) others
      rw [task, locked] at waits
      cases waits

theorem step (locks : ∀ i, Locks (tasks i)) (h : Queued kept E tasks s w cfg order)
    {next : Config ι S I ε σ α} (turn : cfg.step E i = some next) :
    ∃ ended, Queued kept E tasks s w next (order ++ ended) := by
  obtain ⟨ended, explained, which⟩ := h.explained.step turn
  refine ⟨ended, explained, ?_⟩
  intro j later free
  have before : j ∉ order := fun member => later (List.mem_append_left _ member)
  by_cases same : j = i
  · subst same
    rcases which with rfl | ⟨rfl, holds | ⟨outside, update, rest, task⟩⟩
    · exact absurd (List.mem_append_right _ (List.mem_singleton_self j)) later
    · exact absurd holds free
    · obtain ⟨body, locked⟩ := locks j
      have waits := h.waits j before outside
      rw [task, locked] at waits
      cases waits
  · rw [Config.turn_others turn same]
    apply h.waits j before
    intro holds
    rcases h.own_turn locks turn with none_ | own
    · exact nomatch none_.symm.trans holds
    · exact same (Option.some.inj (holds.symm.trans own))

/-- The orders along a schedule continue one another. -/
theorem run (locks : ∀ i, Locks (tasks i)) (serial : ∀ i, Serial kept (tasks i)) (initial : kept s)
    {schedule : List ι} (followed : (Config.start tasks s w).follow E schedule = some cfg) :
    ∃ order, Queued kept E tasks s w cfg order ∧ ∀ earlier later mid, schedule = earlier ++ later →
      (Config.start tasks s w).follow E earlier = some mid →
        ∃ ended, ended <+: order ∧ Queued kept E tasks s w mid ended := by
  induction schedule using List.reverseRecOn generalizing cfg with
  | nil =>
      obtain rfl := Option.some.inj followed
      have begun : Queued kept E tasks s w (.start tasks s w) [] :=
        ⟨.start serial initial, fun _ _ _ => rfl⟩
      refine ⟨[], begun, ?_⟩
      intro earlier later mid split reached
      obtain rfl := (List.append_eq_nil_iff.mp split.symm).1
      obtain rfl := Option.some.inj reached
      exact ⟨[], List.prefix_rfl, begun⟩
  | append_singleton schedule i ih =>
      have whole := followed
      unfold Config.follow at followed
      rw [List.foldlM_append] at followed
      obtain ⟨last, before, final⟩ := Option.bind_eq_some_iff.mp followed
      rw [List.foldlM_cons] at final
      obtain ⟨next, turn, same⟩ := Option.bind_eq_some_iff.mp final
      obtain rfl := Option.some.inj same
      obtain ⟨order, queued, along⟩ := ih before
      obtain ⟨ended, queued'⟩ := queued.step locks turn
      refine ⟨order ++ ended, queued', ?_⟩
      intro earlier later mid split reached
      rcases List.eq_nil_or_concat later with rfl | ⟨later, j, rfl⟩
      · rw [List.append_nil] at split
        rw [← split, whole] at reached
        obtain rfl := Option.some.inj reached
        exact ⟨_, List.prefix_rfl, queued'⟩
      · rw [List.concat_eq_append, ← List.append_assoc] at split
        obtain ⟨front, queuedMid⟩ := along earlier later mid (List.append_inj_left' split rfl) reached
        exact ⟨front, queuedMid.1.trans (List.prefix_append ..), queuedMid.2⟩

/-- What has ended is in the order. -/
theorem mem_of_ended (locks : ∀ i, Locks (tasks i)) (h : Queued kept E tasks s w cfg order)
    (ended : (cfg.tasks i).result?.isSome) : i ∈ order := by
  by_contra later
  obtain ⟨body, locked⟩ := locks i
  by_cases holds : cfg.holder = some i
  · have holding := (h.explained.held i holds).2.1
    cases task : cfg.tasks i with
    | ret _ | raise _ =>
        rw [task] at holding
        exact holding
    | act _ _ | await _ _ | acquire _ | release _ =>
        rw [task] at ended
        cases ended
  · rw [h.waits i later holds, locked] at ended
    cases ended

end Queued

/-- **Linearizability.** However coroutines that are each one critical section are interleaved, once
all have ended, their results, the shared state, the environment and the trace are those of running
them alone, one after another in some order, which respects who ended before another began. -/
theorem linearizable (locks : ∀ i, Locks (tasks i)) (serial : ∀ i, Serial kept (tasks i))
    (initial : kept s) {cfg : Config ι S I ε σ α} {schedule : List ι}
    (followed : (Config.start tasks s w).follow E schedule = some cfg)
    (ended : ∀ i, (cfg.tasks i).result?.isSome) :
    ∃ order : List ι, order.Nodup ∧ (∀ i, i ∈ order) ∧ cfg.final = serially E tasks order s w ∧
      ∀ i j, (Config.start tasks s w).Precedes E schedule i j → List.Sublist [i, j] order := by
  obtain ⟨order, queued, along⟩ := Queued.run locks serial initial followed
  have all : ∀ i, i ∈ order := fun i => queued.mem_of_ended locks (ended i)
  have free : cfg.holder = none := by
    cases holder : cfg.holder with
    | none => rfl
    | some i => exact absurd (all i) (queued.explained.held i holder).1
  obtain ⟨host, world, trace⟩ := queued.explained.free free
  refine ⟨order, queued.explained.nodup, all, ?_, ?_⟩
  · apply Final.ext
    · funext i
      obtain ⟨result, own, alone⟩ := queued.explained.ended i (all i)
      exact own.trans alone.symm
    · exact host
    · exact world
    · exact trace
  · rintro i j ⟨earlier, later, mid, split, reached, endedThere, unbegun⟩
    obtain ⟨front, ⟨rest, rfl⟩, queuedMid⟩ := along earlier later mid split reached
    have before : i ∈ front := queuedMid.mem_of_ended locks endedThere
    have behind : j ∈ rest := by
      apply (List.mem_append.mp (all j)).resolve_left
      apply queuedMid.explained.not_mem
      obtain ⟨body, locked⟩ := locks j
      rw [unbegun]
      exact congrArg Coro.result? locked
    exact (List.singleton_sublist.mpr before).append (List.singleton_sublist.mpr behind)

end Coroutine
