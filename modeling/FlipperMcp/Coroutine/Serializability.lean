import FlipperMcp.Coroutine.Interleaving
import Mathlib.Data.Fintype.Basic

/-! # Serializability of critical sections

A `Serial` coroutine awaits and changes the shared state in one critical section
only, and what it reads before that never changes. However such coroutines are
interleaved, the run is explained by an order: those that have ended ran one after
another, and the holder of the mutex is on its way behind them (`Explained`). So
once all have ended they ran as if alone, one after another (`serializable`).
-/

namespace Coroutine

variable {S : Type} {I : Signature} {ε σ : Type}

/-- What is seen of coroutines once they have ended. -/
@[ext] structure Final (ι S : Type) (I : Signature) (ε σ : Type) (α : ι → Type) where
  results : ∀ i, Option (Except ε (α i))
  host : S
  world : σ
  trace : List (ι × Event S I ε σ)

section Final

variable {ι : Type} [DecidableEq ι] {α : ι → Type}

/-- What is seen of a configuration whose coroutines have ended. -/
def Config.final (cfg : Config ι S I ε σ α) : Final ι S I ε σ α where
  results := fun i => (cfg.tasks i).result?
  host := cfg.host
  world := cfg.world
  trace := cfg.trace

/-- Run one more coroutine alone. -/
def Final.next (E : Env I ε σ) (tasks : ∀ i, Coro S I ε (α i)) (f : Final ι S I ε σ α) (i : ι) :
    Final ι S I ε σ α where
  results := Function.update f.results i (some (run E (tasks i) f.host f.world).result)
  host := (run E (tasks i) f.host f.world).host
  world := (run E (tasks i) f.host f.world).world
  trace := f.trace ++ (run E (tasks i) f.host f.world).trace.map (Prod.mk i)

/-- Run coroutines alone, one after another. -/
def serially (E : Env I ε σ) (tasks : ∀ i, Coro S I ε (α i)) (order : List ι) (s : S) (w : σ) :
    Final ι S I ε σ α :=
  order.foldl (Final.next E tasks) { results := fun _ => none, host := s, world := w, trace := [] }

theorem serially_concat (E : Env I ε σ) (tasks : ∀ i, Coro S I ε (α i)) (order : List ι) (i : ι)
    (s : S) (w : σ) :
    serially E tasks (order ++ [i]) s w = (serially E tasks order s w).next E tasks i :=
  List.foldl_concat ..

end Final

section Serial

variable (kept : S → Prop) {α : Type}

/-- Only local computations are left. -/
def Finishing : Coro S I ε α → Prop
  | .ret _ | .raise _ => True
  | .act update next => (∀ s, kept s → kept (update s)) ∧ ∀ s, Finishing (next s)
  | .await _ _ | .acquire _ | .release _ => False

/-- Inside the critical section: the mutex is freed at its end, and nothing is
awaited after it. -/
def Holding : Coro S I ε α → Prop
  | .act update next => (∀ s, kept s → kept (update s)) ∧ ∀ s, Holding (next s)
  | .await _ next => ∀ answer, Holding (next answer)
  | .release next => Finishing kept next
  | .ret _ | .raise _ | .acquire _ => False

/-- One critical section. What is read before it is the same in all states that are
`kept`, and the section keeps them. -/
def Serial : Coro S I ε α → Prop
  | .ret _ | .raise _ => True
  | .act update next => (∀ s, kept s → update s = s) ∧
      (∀ s s', kept s → kept s' → next s = next s') ∧ ∀ s, kept s → Serial (next s)
  | .acquire next => Holding kept next
  | .await _ _ | .release _ => False

end Serial

section Rules

variable {kept : S → Prop} {α β : Type}

theorem Finishing.bind {c : Coro S I ε β} {k : β → Coro S I ε α} (first : Finishing kept c)
    (rest : ∀ value, Finishing kept (k value)) : Finishing kept (c >>= k) := by
  induction c with
  | ret value => exact rest value
  | raise _ => trivial
  | act update next ih => exact ⟨first.1, fun s => ih s (first.2 s)⟩
  | await _ _ _ | acquire _ _ | release _ _ => exact first.elim

/-- A body that keeps to a footprint, under the mutex, and local computations. -/
theorem Holding.of_within {allowed : I.Op → Prop} {changes : S → S → Prop} {body : Coro S I ε β}
    {k : Except ε β → Coro S I ε α} (within : Within allowed changes body)
    (keeps : ∀ s s', changes s s' → kept s → kept s')
    (finish : ∀ result, Finishing kept (k result)) :
    Holding kept (body.attempt >>= fun result => .release (k result)) := by
  induction body with
  | ret value => exact finish (.ok value)
  | raise error => exact finish (.error error)
  | act update next ih => exact ⟨fun s => keeps _ _ (within.1 s), fun s => ih s (within.2 s)⟩
  | await op next ih => exact fun answer => ih answer (within.2 answer)
  | acquire _ _ | release _ _ => exact within.elim

/-- `async with lock: body`, followed by local computations. -/
theorem Serial.withLock_bind {allowed : I.Op → Prop} {changes : S → S → Prop}
    {body : Coro S I ε β} {k : β → Coro S I ε α} (within : Within allowed changes body)
    (keeps : ∀ s s', changes s s' → kept s → kept s')
    (finish : ∀ value, Finishing kept (k value)) : Serial kept (body.withLock >>= k) := by
  have section_ : Holding kept (body.attempt >>= fun result =>
      .release (Coro.ofExcept result >>= k)) := by
    apply Holding.of_within within keeps
    intro result
    cases result with
    | ok value => exact finish value
    | error error => trivial
  have same : body.withLock >>= k =
      .acquire (body.attempt >>= fun result => .release (Coro.ofExcept result >>= k)) := by
    unfold Coro.withLock
    rw [Coro.acquire_bind, bind_assoc]
    rfl
  rw [same]
  exact section_

/-- A read of the shared state, of what never changes in it. -/
theorem Serial.get_bind {k : S → Coro S I ε α}
    (same : ∀ s s', kept s → kept s' → k s = k s') (rest : ∀ s, kept s → Serial kept (k s)) :
    Serial kept (Coro.get >>= k) :=
  ⟨fun _ _ => rfl, same, rest⟩

end Rules

section Settling

variable {kept : S → Prop} {α : Type}

/-- Before its critical section a coroutine leaves no trace. -/
theorem Serial.settle {c : Coro S I ε α} (serial : Serial kept c) (E : Env I ε σ) {s : S}
    (holds : kept s) : Serial kept (settle c s).rest ∧ (Coroutine.settle c s).host = s ∧
      (Coroutine.settle c s).released = false ∧
      ∀ s' w, kept s' → run E (Coroutine.settle c s).rest s' w = run E c s' w := by
  induction c with
  | ret _ | raise _ | acquire _ _ => exact ⟨serial, rfl, rfl, fun _ _ _ => rfl⟩
  | act update next ih =>
      obtain ⟨idle, reads, rest⟩ := serial
      obtain ⟨later, host, unreleased, runs⟩ := ih s (rest s holds)
      rw [Coroutine.settle, idle s holds]
      refine ⟨later, host, unreleased, fun s' w holds' => ?_⟩
      rw [runs s' w holds', run_act, idle s' holds', reads s' s holds' holds]
  | await _ _ _ | release _ _ => exact serial.elim

/-- Local computations end. -/
theorem Finishing.settle {c : Coro S I ε α} (finishing : Finishing kept c) {s : S}
    (holds : kept s) : (∃ result, (settle c s).rest.result? = some result) ∧
      kept (Coroutine.settle c s).host := by
  induction c generalizing s with
  | ret value => exact ⟨⟨.ok value, rfl⟩, holds⟩
  | raise error => exact ⟨⟨.error error, rfl⟩, holds⟩
  | act update next ih => exact ih s (finishing.2 s) (finishing.1 s holds)
  | await _ _ _ | acquire _ _ | release _ _ => exact finishing.elim

/-- Inside its critical section a coroutine stays there or ends. -/
theorem Holding.settle {c : Coro S I ε α} (holding : Holding kept c) {s : S} (holds : kept s) :
    kept (settle c s).host ∧
      if (Coroutine.settle c s).released then
        ∃ result, (Coroutine.settle c s).rest.result? = some result
      else Holding kept (Coroutine.settle c s).rest := by
  induction c generalizing s with
  | ret _ | raise _ | acquire _ _ => exact holding.elim
  | await op next ih => exact ⟨holds, holding⟩
  | act update next ih => exact ih s (holding.2 s) (holding.1 s holds)
  | release next ih =>
      obtain ⟨ended, holds'⟩ := Finishing.settle holding holds
      exact ⟨holds', ended⟩

end Settling

section Serializability

variable {ι : Type} [DecidableEq ι] {α : ι → Type} {kept : S → Prop} {E : Env I ε σ}
  {tasks : ∀ i, Coro S I ε (α i)} {s : S} {w : σ}

/-- A configuration is that of the coroutines in `order` run one after another,
with the holder of the mutex on its way behind them. -/
structure Explained (kept : S → Prop) (E : Env I ε σ) (tasks : ∀ i, Coro S I ε (α i)) (s : S) (w : σ)
    (cfg : Config ι S I ε σ α) (order : List ι) : Prop where
  nodup : order.Nodup
  keeps : kept (serially E tasks order s w).host
  ended : ∀ i ∈ order, ∃ result, (cfg.tasks i).result? = some result ∧
    (serially E tasks order s w).results i = some result
  waiting : ∀ i ∉ order, cfg.holder ≠ some i → Serial kept (cfg.tasks i) ∧
    ∀ s' w', kept s' → run E (cfg.tasks i) s' w' = run E (tasks i) s' w'
  free : cfg.holder = none → cfg.host = (serially E tasks order s w).host ∧
    cfg.world = (serially E tasks order s w).world ∧ cfg.trace = (serially E tasks order s w).trace
  held : ∀ i, cfg.holder = some i → i ∉ order ∧ Holding kept (cfg.tasks i) ∧
    kept cfg.host ∧ ∃ events,
      cfg.trace = (serially E tasks order s w).trace ++ events.map (Prod.mk i) ∧
      run E (tasks i) (serially E tasks order s w).host (serially E tasks order s w).world =
        (run E (cfg.tasks i) cfg.host cfg.world).after events

namespace Explained

variable {cfg : Config ι S I ε σ α} {order : List ι} {i : ι}

theorem keeps_host (h : Explained kept E tasks s w cfg order) : kept cfg.host := by
  cases holder : cfg.holder with
  | none => rw [(h.free holder).1]; exact h.keeps
  | some i => exact (h.held i holder).2.2.1

/-- What has not ended has its turn still to come. -/
theorem not_mem (h : Explained kept E tasks s w cfg order) (going : (cfg.tasks i).result? = none) :
    i ∉ order := by
  intro member
  obtain ⟨result, ended, -⟩ := h.ended i member
  rw [going] at ended
  cases ended

/-- A coroutine that is not in its critical section changes nothing. -/
theorem advance_waiting (h : Explained kept E tasks s w cfg order) (later : i ∉ order)
    (outside : cfg.holder ≠ some i) : Explained kept E tasks s w (cfg.advance i) order := by
  obtain ⟨serial, runs⟩ := h.waiting i later outside
  obtain ⟨settled, host, held, same⟩ := serial.settle E h.keeps_host
  have holder : (cfg.advance i).holder = cfg.holder := by
    rw [Config.advance, held]
    rfl
  have others : ∀ j ≠ i, (cfg.advance i).tasks j = cfg.tasks j := fun j different =>
    Function.update_of_ne different ..
  have own : (cfg.advance i).tasks i = (Coroutine.settle (cfg.tasks i) cfg.host).rest :=
    Function.update_self ..
  refine ⟨h.nodup, h.keeps, ?_, ?_, ?_, ?_⟩
  · intro j member
    rw [others j fun same => later (same ▸ member)]
    exact h.ended j member
  · intro j waits free
    by_cases different : j = i
    · rw [different, own]
      refine ⟨settled, fun s' w' holds => ?_⟩
      rw [same s' w' holds]
      exact runs s' w' holds
    · rw [others j different]
      exact h.waiting j waits (holder ▸ free)
  · intro free
    obtain ⟨sameHost, sameWorld, sameTrace⟩ := h.free (holder ▸ free)
    exact ⟨host.trans sameHost, sameWorld, sameTrace⟩
  · intro j holds
    have different : j ≠ i := fun same => outside (by rw [← holder, holds, same])
    have sameHost : (cfg.advance i).host = cfg.host := host
    rw [others j different, sameHost]
    exact h.held j (holder ▸ holds)

/-- The holder of the mutex stays in its critical section, or ends. -/
theorem advance_held (h : Explained kept E tasks s w cfg order) (holds : cfg.holder = some i) :
    ∃ ended, Explained kept E tasks s w (cfg.advance i) (order ++ ended) ∧
      (ended = [i] ∨ ended = [] ∧ (cfg.advance i).holder = some i) := by
  obtain ⟨later, holding, keeps, events, trace, runs⟩ := h.held i holds
  have settled := holding.settle keeps
  have others : ∀ j ≠ i, (cfg.advance i).tasks j = cfg.tasks j := fun j different =>
    Function.update_of_ne different ..
  have own : (cfg.advance i).tasks i = (Coroutine.settle (cfg.tasks i) cfg.host).rest :=
    Function.update_self ..
  have host : kept (cfg.advance i).host := settled.1
  rw [← run_settle E (cfg.tasks i)] at runs
  have waiting : ∀ j ∉ order, j ≠ i → Serial kept ((cfg.advance i).tasks j) ∧
      ∀ s' w', kept s' →
        run E ((cfg.advance i).tasks j) s' w' = run E (tasks j) s' w' := by
    intro j waits different
    rw [others j different]
    exact h.waiting j waits fun same => different (Option.some.inj (holds.symm.trans same)).symm
  by_cases released : (Coroutine.settle (cfg.tasks i) cfg.host).released = true
  · have holder : (cfg.advance i).holder = none := by
      rw [Config.advance, released]
      rfl
    obtain ⟨result, ended⟩ : ∃ result,
        (Coroutine.settle (cfg.tasks i) cfg.host).rest.result? = some result := by
      have next := settled.2
      rwa [if_pos released] at next
    rw [run_of_result? E ended] at runs
    have last : serially E tasks (order ++ [i]) s w =
        { results := Function.update (serially E tasks order s w).results i (some result)
          host := (cfg.advance i).host
          world := cfg.world
          trace := cfg.trace } := by
      rw [serially_concat, Final.next, runs, trace]
      simp only [Outcome.after, List.append_nil, Config.advance]
    refine ⟨[i], ⟨?_, ?_, ?_, ?_, ?_, ?_⟩, .inl rfl⟩
    · exact h.nodup.append (List.nodup_singleton i)
        (List.disjoint_singleton.mpr later)
    · rw [last]
      exact host
    · intro j member
      rw [last]
      by_cases different : j = i
      · rw [different, own]
        exact ⟨result, ended, Function.update_self ..⟩
      · have earlier : j ∈ order := (List.mem_append.mp member).resolve_right fun single =>
          different (List.mem_singleton.mp single)
        rw [others j different]
        obtain ⟨result', ended', known⟩ := h.ended j earlier
        exact ⟨result', ended', (Function.update_of_ne different ..).trans known⟩
    · intro j waits _
      exact waiting j (fun member => waits (List.mem_append_left _ member))
        fun same => waits (List.mem_append_right _ (List.mem_singleton.mpr same))
    · intro _
      rw [last]
      exact ⟨rfl, rfl, rfl⟩
    · intro j holds'
      rw [holder] at holds'
      cases holds'
  · have holder : (cfg.advance i).holder = some i := by
      rw [Config.advance, Bool.eq_false_iff.mpr released]
      exact holds
    have inside := settled.2
    rw [if_neg released] at inside
    refine ⟨[], ?_, .inr ⟨rfl, holder⟩⟩
    rw [List.append_nil]
    refine ⟨h.nodup, h.keeps, ?_, ?_, ?_, ?_⟩
    · intro j member
      rw [others j fun same => later (same ▸ member)]
      exact h.ended j member
    · intro j waits free
      exact waiting j waits fun same => free (same ▸ holder)
    · intro free
      rw [holder] at free
      cases free
    · intro j holds'
      obtain rfl := Option.some.inj (holder.symm.trans holds')
      rw [own]
      exact ⟨later, inside, host, events, trace, runs⟩

/-- A coroutine enters its critical section. -/
theorem enter (h : Explained kept E tasks s w cfg order) {next : Coro S I ε (α i)}
    (task : cfg.tasks i = .acquire next) (free : cfg.holder = none) :
    Explained kept E tasks s w ((cfg.grant i).resume i next) order := by
  have later : i ∉ order := h.not_mem (by rw [task]; rfl)
  obtain ⟨serial, runs⟩ := h.waiting i later (by rw [free]; exact nofun)
  obtain ⟨host, world, trace⟩ := h.free free
  rw [task] at serial runs
  have others : ∀ j ≠ i, ((cfg.grant i).resume i next).tasks j = cfg.tasks j := fun j different =>
    Function.update_of_ne different ..
  have own : ((cfg.grant i).resume i next).tasks i = next := Function.update_self ..
  refine ⟨h.nodup, h.keeps, ?_, ?_, nofun, ?_⟩
  · intro j member
    rw [others j fun same => later (same ▸ member)]
    exact h.ended j member
  · intro j waits outside
    have different : j ≠ i := fun same => outside (congrArg some same.symm)
    rw [others j different]
    exact h.waiting j waits (by rw [free]; exact nofun)
  · intro j holds
    obtain rfl := Option.some.inj holds
    rw [own]
    refine ⟨later, serial, h.keeps_host, [], ?_, ?_⟩
    · rw [List.map_nil, List.append_nil]
      exact trace
    · rw [← runs _ _ h.keeps, run_acquire, Outcome.after_nil, ← host, ← world]
      rfl

/-- An operation is awaited in the critical section. -/
theorem answered (h : Explained kept E tasks s w cfg order) {op : I.Op}
    {next : Except ε (I.Res op) → Coro S I ε (α i)} (task : cfg.tasks i = .await op next) :
    cfg.holder = some i ∧ Explained kept E tasks s w
      ((cfg.answer E i op).resume i (next (E op cfg.world).1)) order := by
  have later : i ∉ order := h.not_mem (by rw [task]; rfl)
  have holds : cfg.holder = some i := by
    by_contra outside
    have serial := (h.waiting i later outside).1
    rw [task] at serial
    exact serial
  obtain ⟨-, holding, keeps, events, trace, runs⟩ := h.held i holds
  rw [task] at holding runs
  have others : ∀ j ≠ i, ((cfg.answer E i op).resume i (next (E op cfg.world).1)).tasks j =
      cfg.tasks j := fun j different => Function.update_of_ne different ..
  have own : ((cfg.answer E i op).resume i (next (E op cfg.world).1)).tasks i =
      next (E op cfg.world).1 := Function.update_self ..
  refine ⟨holds, h.nodup, h.keeps, ?_, ?_, ?_, ?_⟩
  · intro j member
    rw [others j fun same => later (same ▸ member)]
    exact h.ended j member
  · intro j waits outside
    have different : j ≠ i := fun same => outside (same ▸ holds)
    rw [others j different]
    exact h.waiting j waits outside
  · intro free
    exact absurd (holds.symm.trans free) nofun
  · intro j holds'
    obtain rfl := Option.some.inj (holds.symm.trans holds')
    rw [own]
    refine ⟨later, holding _, keeps, events ++ [⟨cfg.host, cfg.world, op, (E op cfg.world).1⟩],
      ?_, ?_⟩
    · rw [List.map_append, ← List.append_assoc, ← trace]
      rfl
    · rw [runs, run_await, Outcome.after_after]
      rfl

/-- One turn keeps a configuration explained. Who has its turn comes into the order when it ends. -/
theorem step (h : Explained kept E tasks s w cfg order) {next : Config ι S I ε σ α}
    (turn : cfg.step E i = some next) :
    ∃ ended, Explained kept E tasks s w next (order ++ ended) ∧ (ended = [i] ∨ ended = [] ∧
      (next.holder = some i ∨ cfg.holder ≠ some i ∧ ∃ update rest, cfg.tasks i = .act update rest)) := by
  have held : ∀ {mid : Config ι S I ε σ α}, Explained kept E tasks s w mid order → mid.holder = some i →
      ∃ ended, Explained kept E tasks s w (mid.advance i) (order ++ ended) ∧ (ended = [i] ∨ ended = [] ∧
        ((mid.advance i).holder = some i ∨
          cfg.holder ≠ some i ∧ ∃ update rest, cfg.tasks i = .act update rest)) := by
    intro mid explained holds
    obtain ⟨ended, later, which⟩ := explained.advance_held holds
    exact ⟨ended, later, which.imp_right fun stays => ⟨stays.1, .inl stays.2⟩⟩
  unfold Config.step at turn
  split at turn
  next value task => cases turn
  next error task => cases turn
  next acquired task =>
    by_cases free : cfg.holder = none
    · rw [if_pos free] at turn
      obtain rfl := Option.some.inj turn
      exact held (h.enter task free) rfl
    · rw [if_neg free] at turn
      cases turn
  next op resumed task =>
    obtain rfl := Option.some.inj turn
    obtain ⟨holds, answered⟩ := h.answered task
    exact held answered holds
  next update rest task =>
    obtain rfl := Option.some.inj turn
    by_cases holds : cfg.holder = some i
    · exact held h holds
    · refine ⟨[], ?_, .inr ⟨rfl, .inr ⟨holds, update, rest, task⟩⟩⟩
      rw [List.append_nil]
      exact h.advance_waiting (h.not_mem (by rw [task]; rfl)) holds
  next rest task =>
    obtain rfl := Option.some.inj turn
    by_cases holds : cfg.holder = some i
    · exact held h holds
    · have serial := (h.waiting i (h.not_mem (by rw [task]; rfl)) holds).1
      rw [task] at serial
      exact serial.elim

/-- Nothing has begun. -/
theorem start (serial : ∀ i, Serial kept (tasks i)) (initial : kept s) :
    Explained kept E tasks s w (.start tasks s w) [] := by
  refine ⟨List.nodup_nil, initial, nofun, ?_, ?_, nofun⟩
  · exact fun i _ _ => ⟨serial i, fun _ _ _ => rfl⟩
  · exact fun _ => ⟨rfl, rfl, rfl⟩

/-- A whole run stays explained. -/
theorem run (serial : ∀ i, Serial kept (tasks i)) (initial : kept s) {permitted : Config ι S I ε σ α → ι → Prop}
    (reached : Config.Reaches E permitted (.start tasks s w) cfg) :
    ∃ order, Explained kept E tasks s w cfg order := by
  induction reached with
  | refl => exact ⟨[], .start serial initial⟩
  | step i before permits turn ih =>
      obtain ⟨order, explained⟩ := ih
      obtain ⟨ended, later, -⟩ := explained.step turn
      exact ⟨order ++ ended, later⟩

end Explained

/-- Coroutines that do nothing alone leave a serial run where it is. -/
theorem serially_append_idle {order : List ι} {idle : List ι} {f : Final ι S I ε σ α}
    (ran : serially E tasks order s w = f) (results : ∀ i, Except ε (α i))
    (nothing : ∀ i ∈ idle, Coroutine.run E (tasks i) f.host f.world =
      ⟨results i, f.host, f.world, []⟩) :
    serially E tasks (order ++ idle) s w =
      { f with results := fun i => if i ∈ idle then some (results i) else f.results i } := by
  induction idle generalizing order f with
  | nil =>
      rw [List.append_nil, ran]
      simp only [List.not_mem_nil, ↓reduceIte]
  | cons i idle ih =>
      have first := nothing i (List.mem_cons_self ..)
      have next : serially E tasks (order ++ [i]) s w =
          { f with results := Function.update f.results i (some (results i)) } := by
        rw [serially_concat, ran, Final.next, first]
        simp only [List.map_nil, List.append_nil]
      have rest := ih next fun j member => nothing j (List.mem_cons_of_mem _ member)
      rw [List.append_assoc, List.singleton_append] at rest
      rw [rest]
      congr 1
      funext j
      by_cases same : j = i
      · subst same
        simp only [List.mem_cons, true_or, ↓reduceIte, Function.update_self, ite_self]
      · simp only [List.mem_cons, same, false_or, ne_eq, not_false_eq_true,
          Function.update_of_ne]

/-- **Serializability.** However coroutines with one critical section each are
interleaved, once all have ended, their results, the shared state, the environment
and the trace are those of running them alone, one after another in some order. -/
theorem serializable [Fintype ι] (serial : ∀ i, Serial kept (tasks i)) (initial : kept s)
    {permitted : Config ι S I ε σ α → ι → Prop} {cfg : Config ι S I ε σ α}
    (reached : Config.Reaches E permitted (.start tasks s w) cfg)
    (ended : ∀ i, (cfg.tasks i).result?.isSome) :
    ∃ order : List ι, order.Nodup ∧ (∀ i, i ∈ order) ∧
      cfg.final = serially E tasks order s w := by
  obtain ⟨order, explained⟩ := Explained.run serial initial reached
  have free : cfg.holder = none := by
    cases holder : cfg.holder with
    | none => rfl
    | some i =>
        obtain ⟨result, known⟩ := Option.isSome_iff_exists.mp (ended i)
        have holding := (explained.held i holder).2.1
        cases task : cfg.tasks i with
        | ret _ | raise _ =>
            rw [task] at holding
            exact holding.elim
        | act _ _ | await _ _ | acquire _ | release _ =>
            rw [task] at known
            cases known
  obtain ⟨host, world, trace⟩ := explained.free free
  let idle := (Finset.univ.filter fun i => i ∉ order).toList
  have idle_iff : ∀ i, i ∈ idle ↔ i ∉ order := by
    intro i
    simp only [idle, Finset.mem_toList, Finset.mem_filter, Finset.mem_univ, true_and]
  have nothing : ∀ i ∈ idle, Coroutine.run E (tasks i) (serially E tasks order s w).host
      (serially E tasks order s w).world = ⟨(cfg.tasks i).result?.get (ended i),
        (serially E tasks order s w).host, (serially E tasks order s w).world, []⟩ := by
    intro i member
    obtain ⟨-, runs⟩ := explained.waiting i ((idle_iff i).mp member) (by rw [free]; exact nofun)
    rw [← runs _ _ explained.keeps]
    exact run_of_result? E (Option.some_get _).symm _ _
  refine ⟨order ++ idle, ?_, ?_, ?_⟩
  · apply explained.nodup.append (Finset.nodup_toList _)
    intro i earlier later
    exact (idle_iff i).mp later earlier
  · intro i
    by_cases member : i ∈ order
    · exact List.mem_append_left _ member
    · exact List.mem_append_right _ ((idle_iff i).mpr member)
  · rw [serially_append_idle rfl _ nothing]
    apply Final.ext
    · funext i
      change (cfg.tasks i).result? = if i ∈ idle then some ((cfg.tasks i).result?.get (ended i))
        else (serially E tasks order s w).results i
      by_cases member : i ∈ order
      · obtain ⟨result, own, alone⟩ := explained.ended i member
        rw [if_neg fun later => (idle_iff i).mp later member, alone]
        exact own
      · rw [if_pos ((idle_iff i).mpr member)]
        exact (Option.some_get _).symm
    · exact host
    · exact world
    · exact trace

section Invariant

variable {guard : Event S I ε σ → Prop} {safe : S → σ → Prop}

/-- What each coroutine keeps alone, they keep one after another. -/
theorem serially_invariant
    (runs : ∀ i s w, safe s w → wp E guard (tasks i) (fun _ s' w' => safe s' w') s w)
    (initial : safe s w) (order : List ι) :
    safe (serially E tasks order s w).host (serially E tasks order s w).world ∧
      ∀ event ∈ (serially E tasks order s w).trace, guard event.2 := by
  induction order using List.reverseRecOn with
  | nil => exact ⟨initial, nofun⟩
  | append_singleton order i ih =>
      rw [serially_concat]
      obtain ⟨events, after⟩ := runs i _ _ ih.1
      refine ⟨after, fun event member => ?_⟩
      rcases List.mem_append.mp member with earlier | later
      · exact ih.2 event earlier
      · obtain ⟨own, among, rfl⟩ := List.mem_map.mp later
        exact events own among

/-- **Interleaved events.** What each coroutine guarantees of its events when it runs alone from a
safe state, it guarantees in every interleaving, also before all have ended. -/
theorem Explained.events {cfg : Config ι S I ε σ α} {order : List ι}
    (h : Explained kept E tasks s w cfg order)
    (runs : ∀ i s w, safe s w → wp E guard (tasks i) (fun _ s' w' => safe s' w') s w)
    (initial : safe s w) : ∀ event ∈ cfg.trace, guard event.2 := by
  obtain ⟨before, earlier⟩ := serially_invariant runs initial order
  cases holder : cfg.holder with
  | none =>
      rw [(h.free holder).2.2]
      exact earlier
  | some i =>
      obtain ⟨-, -, -, events, trace, resumed⟩ := h.held i holder
      rw [trace]
      intro event member
      rcases List.mem_append.mp member with old | later
      · exact earlier event old
      · obtain ⟨own, among, rfl⟩ := List.mem_map.mp later
        apply (runs i _ _ before).1
        rw [resumed, Outcome.after_trace]
        exact List.mem_append_left _ among

end Invariant

end Serializability

end Coroutine
