import FlipperMcp.Coroutine.Interleaving
import Mathlib.Logic.Relation

/-! # Atomicity of critical sections

A coroutine that awaits in critical sections only, each of which is one of some operations, carries
out a plan: a program of these operations in which each is one step (`CarriesOut`). However such
coroutines are interleaved, what they do is an interleaving of the steps of their plans, each taken
where its section ends (`atomic`).
-/

namespace Coroutine

variable {S : Type} {I J : Signature} {ε σ ω α β : Type}

/-- A program of operations. -/
inductive Plan (J : Signature) (ε α : Type)
  | ret (value : α)
  | raise (error : ε)
  | call (op : J.Op) (next : Except ε (J.Res op) → Plan J ε α)

namespace Plan

/-- The result of a plan that has ended. -/
def result? : Plan J ε α → Option (Except ε α)
  | ret value => some (.ok value)
  | raise error => some (.error error)
  | call _ _ => none

protected def bind : Plan J ε α → (α → Plan J ε β) → Plan J ε β
  | ret value, k => k value
  | raise error, _ => raise error
  | call op next, k => call op fun answer => (next answer).bind k

instance : Monad (Plan J ε) where
  pure := ret
  bind := Plan.bind

/-- One operation, raising the exception it is answered with. -/
def perform (op : J.Op) : Plan J ε (J.Res op) :=
  call op fun answer => match answer with
    | .ok value => ret value
    | .error error => raise error

/-- Return or raise a computed result. -/
def ofExcept : Except ε α → Plan J ε α
  | .ok value => ret value
  | .error error => raise error

/-- The result as a value, exception or not. -/
def attempt : Plan J ε α → Plan J ε (Except ε α)
  | ret value => ret (.ok value)
  | raise error => ret (.error error)
  | call op next => call op fun answer => (next answer).attempt

/-- `try: body except catches: handler`. -/
def tryExcept (catches : ε → Bool) (body : Plan J ε α) (handler : ε → Plan J ε α) : Plan J ε α := do
  match ← body.attempt with
  | .ok value => pure value
  | .error error => if catches error then handler error else raise error

/-- All its operations are among some. -/
def Among (allowed : J.Op → Prop) : Plan J ε α → Prop
  | ret _ | raise _ => True
  | call op next => allowed op ∧ ∀ answer, (next answer).Among allowed

variable {allowed : J.Op → Prop}

theorem Among.bind {plan : Plan J ε α} {k : α → Plan J ε β} (first : plan.Among allowed)
    (rest : ∀ value, (k value).Among allowed) : (plan >>= k).Among allowed := by
  induction plan with
  | ret value => exact rest value
  | raise _ => trivial
  | call op next ih => exact ⟨first.1, fun answer => ih answer (first.2 answer)⟩

theorem Among.perform {op : J.Op} (allows : allowed op) : (perform op : Plan J ε _).Among allowed :=
  ⟨allows, fun answer => by cases answer <;> trivial⟩

theorem Among.ofExcept (result : Except ε α) : (ofExcept result : Plan J ε α).Among allowed := by
  cases result <;> trivial

theorem Among.attempt {plan : Plan J ε α} (h : plan.Among allowed) : plan.attempt.Among allowed := by
  induction plan with
  | ret _ | raise _ => trivial
  | call op next ih => exact ⟨h.1, fun answer => ih answer (h.2 answer)⟩

theorem Among.tryExcept {catches : ε → Bool} {body : Plan J ε α} {handler : ε → Plan J ε α}
    (tried : body.Among allowed) (handled : ∀ error, (handler error).Among allowed) :
    (Plan.tryExcept catches body handler).Among allowed := by
  apply tried.attempt.bind
  intro result
  cases result with
  | ok value => trivial
  | error error =>
      by_cases caught : catches error = true
      · simp only [caught, ↓reduceIte]
        exact handled error
      · simp only [caught, Bool.false_eq_true, ↓reduceIte]
        trivial

end Plan

section CarriesOut

variable (E : Env I ε σ) (kept : S → Prop) (body : (op : J.Op) → Coro S I ε (J.Res op))

/-- A coroutine does what a plan says, and each operation of the plan in a critical section. Outside
it only reads the shared state and awaits what changes nothing. -/
inductive CarriesOut : Coro S I ε α → Plan J ε α → Prop
  | ret (value : α) : CarriesOut (.ret value) (.ret value)
  | raise (error : ε) : CarriesOut (.raise error) (.raise error)
  | read {update : S → S} {next : S → Coro S I ε α} {plan : Plan J ε α}
      (idle : ∀ s, kept s → update s = s) (rest : ∀ s, kept s → CarriesOut (next s) plan) :
      CarriesOut (.act update next) plan
  | quiet {op : I.Op} {next : Except ε (I.Res op) → Coro S I ε α} {plan : Plan J ε α}
      (idle : ∀ w, (E op w).2 = w) (rest : ∀ w, CarriesOut (next (E op w).1) plan) :
      CarriesOut (.await op next) plan
  | call {op : J.Op} {rest : Except ε (J.Res op) → Coro S I ε α}
      {next : Except ε (J.Res op) → Plan J ε α} (each : ∀ answer, CarriesOut (rest answer) (next answer)) :
      CarriesOut (.acquire ((body op).attempt >>= fun answer => .release (rest answer))) (.call op next)

end CarriesOut

namespace CarriesOut

variable {E : Env I ε σ} {kept : S → Prop} {body : (op : J.Op) → Coro S I ε (J.Res op)}

theorem ofExcept (result : Except ε α) :
    CarriesOut E kept body (Coro.ofExcept result) (Plan.ofExcept result) := by
  cases result with
  | ok value => exact .ret value
  | error error => exact .raise error

theorem bind {c : Coro S I ε α} {k : α → Coro S I ε β} {plan : Plan J ε α} {l : α → Plan J ε β}
    (first : CarriesOut E kept body c plan) (rest : ∀ value, CarriesOut E kept body (k value) (l value)) :
    CarriesOut E kept body (c >>= k) (plan >>= l) := by
  induction first with
  | ret value => exact rest value
  | raise error => exact .raise error
  | read idle _ ih => exact .read idle ih
  | quiet idle _ ih => exact .quiet idle ih
  | call _ ih =>
      rw [Coro.acquire_bind, bind_assoc]
      exact .call ih

/-- A first part that only computes a value. -/
theorem ret_bind {c : Coro S I ε α} {k : α → Coro S I ε β} {value : α} {plan : Plan J ε β}
    (first : CarriesOut E kept body c (.ret value)) (rest : CarriesOut E kept body (k value) plan) :
    CarriesOut E kept body (c >>= k) plan := by
  generalize returned : Plan.ret value = made at first
  induction first with
  | ret _ =>
      cases returned
      exact rest
  | read idle _ ih => exact .read idle fun s holds => ih s holds returned
  | quiet idle _ ih => exact .quiet idle fun w => ih w returned
  | raise _ | call => cases returned

theorem attempt_section {c : Coro S I ε α} {rest : Except ε α → Coro S I ε β} :
    (c.attempt >>= fun answer => .release (rest answer)).attempt =
      c.attempt >>= fun answer => .release (rest answer).attempt := by
  induction c with
  | ret _ | raise _ => rfl
  | act _ _ ih => exact congrArg _ (funext ih)
  | await _ _ ih => exact congrArg _ (funext ih)
  | acquire _ ih => exact congrArg _ ih
  | release _ ih => exact congrArg _ ih

theorem attempt {c : Coro S I ε α} {plan : Plan J ε α} (h : CarriesOut E kept body c plan) :
    CarriesOut E kept body c.attempt plan.attempt := by
  induction h with
  | ret value => exact .ret _
  | raise error => exact .ret _
  | read idle _ ih => exact .read idle ih
  | quiet idle _ ih => exact .quiet idle ih
  | call _ ih =>
      rw [Coro.attempt, attempt_section]
      exact .call ih

theorem tryExcept {catches : ε → Bool} {c : Coro S I ε α} {handler : ε → Coro S I ε α}
    {plan : Plan J ε α} {handled : ε → Plan J ε α} (tried : CarriesOut E kept body c plan)
    (caught : ∀ error, CarriesOut E kept body (handler error) (handled error)) :
    CarriesOut E kept body (Coro.tryExcept catches c handler) (Plan.tryExcept catches plan handled) := by
  apply tried.attempt.bind
  intro result
  cases result with
  | ok value => exact .ret value
  | error error =>
      by_cases catch_ : catches error = true
      · simp only [catch_, ↓reduceIte]
        exact caught error
      · simp only [catch_, Bool.false_eq_true, ↓reduceIte]
        exact .raise error

theorem get_bind {k : S → Coro S I ε α} {plan : Plan J ε α}
    (rest : ∀ s, kept s → CarriesOut E kept body (k s) plan) :
    CarriesOut E kept body (Coro.get >>= k) plan :=
  .read (fun _ _ => rfl) rest

/-- One section is one operation. -/
theorem withLock (op : J.Op) : CarriesOut E kept body (body op).withLock (Plan.perform op) :=
  .call fun answer => by
    cases answer with
    | ok value => exact .ret value
    | error error => exact .raise error

/-- Outside its sections a coroutine leaves no trace. -/
theorem settle {c : Coro S I ε α} {plan : Plan J ε α} (h : CarriesOut E kept body c plan) {s : S}
    (holds : kept s) : CarriesOut E kept body (settle c s).rest plan ∧
      (Coroutine.settle c s).host = s ∧ (Coroutine.settle c s).released = false := by
  induction h with
  | ret value => exact ⟨.ret value, rfl, rfl⟩
  | raise error => exact ⟨.raise error, rfl, rfl⟩
  | quiet idle rest => exact ⟨.quiet idle rest, rfl, rfl⟩
  | call each => exact ⟨.call each, rfl, rfl⟩
  | read idle rest ih =>
      rw [Coroutine.settle, idle s holds]
      exact ih s holds

/-- A coroutine that has ended has ended as its plan. -/
theorem result {c : Coro S I ε α} {plan : Plan J ε α} (h : CarriesOut E kept body c plan)
    {answer : Except ε α} (ended : c.result? = some answer) : plan.result? = some answer := by
  cases h with
  | ret _ | raise _ => exact ended
  | read | quiet | call => exact nomatch ended

end CarriesOut

/-- Each section is one step of another environment, wherever the two are in step. -/
structure Sections (E : Env I ε σ) (kept : S → Prop) (body : (op : J.Op) → Coro S I ε (J.Res op))
    (A : Env J ε ω) (sync : ω → S → σ → Prop) : Prop where
  within : ∀ op, Within (fun _ => True) (fun s s' => kept s → kept s') (body op)
  kept : ∀ {t s w}, sync t s w → kept s
  result : ∀ op {t s w}, sync t s w → (run E (body op) s w).result = (A op t).1
  sync : ∀ op {t s w}, sync t s w → sync (A op t).2 (run E (body op) s w).host (run E (body op) s w).world

section Simulation

variable {ι : Type} [DecidableEq ι] {R : ι → Type} (E : Env I ε σ) (kept : S → Prop)
  (body : (op : J.Op) → Coro S I ε (J.Res op)) (A : Env J ε ω) (sync : ω → S → σ → Prop)

/-- One plan takes one step. -/
inductive Plan.Step (A : Env J ε ω) : (∀ i, Plan J ε (R i)) × ω → (∀ i, Plan J ε (R i)) × ω → Prop
  | step {plans : ∀ i, Plan J ε (R i)} {t : ω} (i : ι) {op : J.Op}
      {next : Except ε (J.Res op) → Plan J ε (R i)} (calls : plans i = .call op next) :
      Plan.Step A (plans, t) (Function.update plans i (next (A op t).1), (A op t).2)

/-- A coroutine is on its way through a section, which will end as the step of its plan. -/
structure Underway (t : ω) (s : S) (w : σ) (task : Coro S I ε α) (op : J.Op)
    (next : Except ε (J.Res op) → Plan J ε α) (c : Coro S I ε (J.Res op))
    (rest : Except ε (J.Res op) → Coro S I ε α) : Prop where
  task : task = c.attempt >>= fun answer => .release (rest answer)
  within : Within (fun _ => True) (fun s s' => kept s → kept s') c
  each : ∀ answer, CarriesOut E kept body (rest answer) (next answer)
  result : (run E c s w).result = (A op t).1
  sync : sync (A op t).2 (run E c s w).host (run E c s w).world

/-- The coroutines carry out the plans: those outside their sections from where the plans are, and the
one in its section to where its plan will be. -/
structure Simulates (cfg : Config ι S I ε σ R) (plans : ∀ i, Plan J ε (R i)) (t : ω) : Prop where
  outside : ∀ i, cfg.holder ≠ some i → CarriesOut E kept body (cfg.tasks i) (plans i)
  holds : kept cfg.host
  free : cfg.holder = none → sync t cfg.host cfg.world
  held : ∀ i, cfg.holder = some i → ∃ op next c rest, plans i = .call op next ∧
    Underway E kept body A sync t cfg.host cfg.world (cfg.tasks i) op next c rest

variable {E kept body A sync}

/-- A section runs on to its next suspension: it is still under way, or it has ended. -/
theorem Underway.settle {t : ω} {s : S} {w : σ} {task : Coro S I ε α} {op : J.Op}
    {next : Except ε (J.Res op) → Plan J ε α} {c : Coro S I ε (J.Res op)}
    {rest : Except ε (J.Res op) → Coro S I ε α}
    (h : Underway E kept body A sync t s w task op next c rest) (holds : kept s) :
    kept (settle task s).host ∧
      (((settle task s).released = false ∧ ∃ c', Underway E kept body A sync t (Coroutine.settle task s).host w
          (Coroutine.settle task s).rest op next c' rest) ∨
        ((Coroutine.settle task s).released = true ∧
          CarriesOut E kept body (Coroutine.settle task s).rest (next (A op t).1) ∧
          sync (A op t).2 (Coroutine.settle task s).host w)) := by
  obtain ⟨rfl, within, each, result, synced⟩ := h
  have ended : ∀ {answer : Except ε (J.Res op)} {s : S}, kept s → answer = (A op t).1 →
      sync (A op t).2 s w →
      let settled := Coroutine.settle (.release (rest answer)) s
      kept settled.host ∧ settled.released = true ∧
        CarriesOut E kept body settled.rest (next (A op t).1) ∧ sync (A op t).2 settled.host w := by
    intro answer s holds same synced
    obtain ⟨behind, host, -⟩ := (each answer).settle holds
    rw [same] at behind
    refine ⟨?_, rfl, ?_, ?_⟩
    · change kept (Coroutine.settle (rest answer) s).host
      rw [host]
      exact holds
    · rw [← same] at behind ⊢
      exact behind
    · change sync _ (Coroutine.settle (rest answer) s).host w
      rw [host]
      exact synced
  induction c generalizing s with
  | ret value =>
      obtain ⟨keeps, released, behind, synced'⟩ := ended holds result synced
      exact ⟨keeps, .inr ⟨released, behind, synced'⟩⟩
  | raise error =>
      obtain ⟨keeps, released, behind, synced'⟩ := ended holds result synced
      exact ⟨keeps, .inr ⟨released, behind, synced'⟩⟩
  | act update k ih => exact ih s (within.1 s holds) (within.2 s) result synced
  | await op' k _ => exact ⟨holds, .inl ⟨rfl, _, rfl, within, each, result, synced⟩⟩
  | acquire _ _ | release _ _ => exact within.elim

namespace Simulates

variable {cfg next : Config ι S I ε σ R} {plans : ∀ i, Plan J ε (R i)} {t : ω} {i : ι}

/-- The holder of the mutex runs on in its section, or its plan takes the step. -/
theorem advance_held {op : J.Op} {behind : Except ε (J.Res op) → Plan J ε (R i)}
    {c : Coro S I ε (J.Res op)} {rest : Except ε (J.Res op) → Coro S I ε (R i)}
    (outside : ∀ j ≠ i, CarriesOut E kept body (cfg.tasks j) (plans j)) (holds : kept cfg.host)
    (holder : cfg.holder = some i) (calls : plans i = .call op behind)
    (underway : Underway E kept body A sync t cfg.host cfg.world (cfg.tasks i) op behind c rest) :
    ∃ plans' t', Relation.ReflTransGen (Plan.Step A) (plans, t) (plans', t') ∧
      Simulates E kept body A sync (cfg.advance i) plans' t' := by
  obtain ⟨keeps, settled⟩ := underway.settle holds
  have others : ∀ j ≠ i, (cfg.advance i).tasks j = cfg.tasks j := fun j different =>
    Function.update_of_ne different ..
  have own : (cfg.advance i).tasks i = (settle (cfg.tasks i) cfg.host).rest := Function.update_self ..
  rcases settled with ⟨unreleased, c', still⟩ | ⟨released, ended, synced⟩
  · have holder' : (cfg.advance i).holder = some i := by
      rw [Config.advance, unreleased]
      exact holder
    refine ⟨plans, t, .refl, ?_, keeps, ?_, ?_⟩
    · intro j away
      have different : j ≠ i := fun same => away (same ▸ holder')
      rw [others j different]
      exact outside j different
    · exact fun free => nomatch holder'.symm.trans free
    · intro j holds'
      obtain rfl := Option.some.inj (holder'.symm.trans holds')
      rw [own]
      exact ⟨op, behind, c', rest, calls, still⟩
  · have holder' : (cfg.advance i).holder = none := by
      rw [Config.advance, released]
      rfl
    refine ⟨_, _, .single (.step i calls), ?_, keeps, fun _ => synced, ?_⟩
    · intro j _
      by_cases same : j = i
      · subst same
        rw [own, Function.update_self]
        exact ended
      · rw [others j same, Function.update_of_ne same]
        exact outside j same
    · exact fun j holds' => nomatch holder'.symm.trans holds'

/-- Outside its sections a coroutine changes nothing. -/
theorem advance_outside (h : Simulates E kept body A sync cfg plans t) (away : cfg.holder ≠ some i) :
    Simulates E kept body A sync (cfg.advance i) plans t := by
  obtain ⟨settled, host, unreleased⟩ := (h.outside i away).settle h.holds
  have holder : (cfg.advance i).holder = cfg.holder := by
    rw [Config.advance, unreleased]
    rfl
  have host' : (cfg.advance i).host = cfg.host := host
  have others : ∀ j ≠ i, (cfg.advance i).tasks j = cfg.tasks j := fun j different =>
    Function.update_of_ne different ..
  have own : (cfg.advance i).tasks i = (settle (cfg.tasks i) cfg.host).rest := Function.update_self ..
  refine ⟨?_, ?_, ?_, ?_⟩
  · intro j free
    by_cases same : j = i
    · subst same
      rw [own]
      exact settled
    · rw [others j same]
      exact h.outside j (holder ▸ free)
  · rw [host']
    exact h.holds
  · intro free
    rw [host']
    exact h.free (holder ▸ free)
  · intro j holds
    have different : j ≠ i := fun same => away (holder ▸ same ▸ holds)
    rw [others j different, host']
    exact h.held j (holder ▸ holds)

/-- The coroutine in its section takes a turn. -/
theorem step_held (h : Simulates E kept body A sync cfg plans t) (holder : cfg.holder = some i)
    (turn : cfg.step E i = some next) :
    ∃ plans' t', Relation.ReflTransGen (Plan.Step A) (plans, t) (plans', t') ∧
      Simulates E kept body A sync next plans' t' := by
  obtain ⟨op, behind, c, rest, calls, underway⟩ := h.held i holder
  have outside : ∀ j ≠ i, CarriesOut E kept body (cfg.tasks j) (plans j) := fun j different =>
    h.outside j fun holds => different (Option.some.inj (holds.symm.trans holder))
  have task := underway.task
  cases c with
  | ret _ | raise _ | act _ _ =>
      unfold Config.step at turn
      rw [task] at turn
      obtain rfl := Option.some.inj turn
      exact advance_held outside h.holds holder calls underway
  | await op' k =>
      unfold Config.step at turn
      rw [task] at turn
      obtain rfl := Option.some.inj turn
      apply advance_held (c := k (E op' cfg.world).1)
      · intro j different
        rw [show ((cfg.answer E i op').resume i _).tasks j = cfg.tasks j from
          Function.update_of_ne different ..]
        exact outside j different
      · exact h.holds
      · exact holder
      · exact calls
      · exact ⟨Function.update_self .., underway.within.2 _, underway.each, underway.result, underway.sync⟩
  | acquire _ | release _ => exact underway.within.elim

/-- One outside its section takes a turn. -/
theorem step_outside (sections : Sections E kept body A sync) (h : Simulates E kept body A sync cfg plans t)
    (away : cfg.holder ≠ some i) (turn : cfg.step E i = some next) :
    ∃ plans' t', Relation.ReflTransGen (Plan.Step A) (plans, t) (plans', t') ∧
      Simulates E kept body A sync next plans' t' := by
  have carries := h.outside i away
  unfold Config.step at turn
  generalize task : cfg.tasks i = c at carries turn
  generalize calls : plans i = plan at carries
  cases carries with
  | ret _ | raise _ => cases turn
  | read _ _ =>
      obtain rfl := Option.some.inj turn
      exact ⟨plans, t, .refl, h.advance_outside away⟩
  | @quiet op k _ idle rest =>
      obtain rfl := Option.some.inj turn
      refine ⟨plans, t, .refl, advance_outside ⟨?_, h.holds, ?_, ?_⟩ away⟩
      · intro j free
        by_cases same : j = i
        · subst same
          rw [show ((cfg.answer E j op).resume j (k (E op cfg.world).1)).tasks j = _ from
            Function.update_self .., calls]
          exact rest cfg.world
        · rw [show ((cfg.answer E i op).resume i _).tasks j = cfg.tasks j from
            Function.update_of_ne same ..]
          exact h.outside j free
      · intro free
        rw [show ((cfg.answer E i op).resume i _).world = cfg.world from idle cfg.world]
        exact h.free free
      · intro j holds
        have different : j ≠ i := fun same => away (same ▸ holds)
        rw [show ((cfg.answer E i op).resume i _).tasks j = cfg.tasks j from
          Function.update_of_ne different ..,
          show ((cfg.answer E i op).resume i _).world = cfg.world from idle cfg.world]
        exact h.held j holds
  | @call op rest behind each =>
      by_cases free : cfg.holder = none
      · simp only [free, ↓reduceIte] at turn
        obtain rfl := Option.some.inj turn
        apply advance_held (c := body op)
        · intro j different
          rw [show ((cfg.grant i).resume i _).tasks j = cfg.tasks j from Function.update_of_ne different ..]
          exact h.outside j (by rw [free]; exact nofun)
        · exact h.holds
        · rfl
        · exact calls
        · exact ⟨Function.update_self .., sections.within op, each, sections.result op (h.free free),
            sections.sync op (h.free free)⟩
      · simp only [free, ↓reduceIte] at turn
        cases turn

/-- **One turn** is none or one step of the plans. -/
theorem step (sections : Sections E kept body A sync) (h : Simulates E kept body A sync cfg plans t)
    (turn : cfg.step E i = some next) :
    ∃ plans' t', Relation.ReflTransGen (Plan.Step A) (plans, t) (plans', t') ∧
      Simulates E kept body A sync next plans' t' := by
  by_cases holder : cfg.holder = some i
  · exact h.step_held holder turn
  · exact h.step_outside sections holder turn

end Simulates

/-- **Atomicity.** Coroutines carry out plans, each section of which is one step. However they are
interleaved, what they have done by any time is an interleaving of steps of the plans. -/
theorem atomic (sections : Sections E kept body A sync) {tasks : ∀ i, Coro S I ε (R i)}
    {plans : ∀ i, Plan J ε (R i)} (carries : ∀ i, CarriesOut E kept body (tasks i) (plans i)) {s : S}
    {w : σ} {t : ω} (initial : sync t s w) {permitted : Config ι S I ε σ R → ι → Prop}
    {cfg : Config ι S I ε σ R} (reached : Config.Reaches E permitted (.start tasks s w) cfg) :
    ∃ plans' t', Relation.ReflTransGen (Plan.Step A) (plans, t) (plans', t') ∧
      Simulates E kept body A sync cfg plans' t' := by
  induction reached with
  | refl => exact ⟨plans, t, .refl, fun i _ => carries i, sections.kept initial, fun _ => initial, nofun⟩
  | step i before permits turn ih =>
      obtain ⟨plans', t', earlier, simulates⟩ := ih
      obtain ⟨plans'', t'', later, simulates'⟩ := simulates.step sections turn
      exact ⟨plans'', t'', earlier.trans later, simulates'⟩

/-- What holds of the plans and the other environment at first and behind every step, holds behind
all of them. -/
theorem Plan.Step.invariant {inv : (∀ i, Plan J ε (R i)) → ω → Prop}
    (kept : ∀ {plans : ∀ i, Plan J ε (R i)} {t : ω} (i : ι) {op : J.Op}
      {next : Except ε (J.Res op) → Plan J ε (R i)}, plans i = .call op next → inv plans t →
        inv (Function.update plans i (next (A op t).1)) (A op t).2)
    {start end_ : (∀ i, Plan J ε (R i)) × ω} (steps : Relation.ReflTransGen (Plan.Step A) start end_)
    (initial : inv start.1 start.2) : inv end_.1 end_.2 := by
  induction steps with
  | refl => exact initial
  | tail _ last ih =>
      cases last with
      | step i calls => exact kept i calls ih

end Simulation

end Coroutine
