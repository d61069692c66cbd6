import FlipperMcp.Coroutine.Atomicity

/-! # A plan among others

Between the operations of a plan others take steps, of which it knows a relation that they stay in. What
it ensures whatever such steps come between (`Plan.Ensures`) is what its coroutine ends with, however
the coroutines are interleaved (`ensured`).
-/

namespace Coroutine

variable {S : Type} {I J : Signature} {ε σ ω α β : Type}

section Ensures

variable (A : Env J ε ω) (rely : ω → ω → Prop)

/-- It ends so, if what happens before and between its operations and behind them is as it relies on. -/
def Plan.Ensures (post : Except ε α → ω → Prop) : Plan J ε α → ω → Prop
  | ret value, t => ∀ t', rely t t' → post (.ok value) t'
  | raise error, t => ∀ t', rely t t' → post (.error error) t'
  | call op next, t => ∀ t', rely t t' → (next (A op t').1).Ensures post (A op t').2

end Ensures

theorem Plan.ofExcept_ok_bind {value : α} {k : α → Plan J ε β} :
    (Plan.ofExcept (.ok value) >>= k) = k value := rfl

namespace Plan.Ensures

variable {A : Env J ε ω} {rely : ω → ω → Prop} {mid post : Except ε α → ω → Prop}
  {after : Except ε β → ω → Prop} {plan : Plan J ε α} {t t' : ω}

/-- It does not depend on what happens before. -/
theorem stable (trans : ∀ t t' t'', rely t t' → rely t' t'' → rely t t'')
    (ensures : plan.Ensures A rely post t) (relied : rely t t') : plan.Ensures A rely post t' := by
  cases plan with
  | ret _ | raise _ | call _ _ => exact fun _ later => ensures _ (trans _ _ _ relied later)

theorem ended (refl : ∀ t, rely t t) (ensures : plan.Ensures A rely post t) {result : Except ε α}
    (ended : plan.result? = some result) : post result t := by
  cases plan with
  | ret _ | raise _ =>
      obtain rfl := Option.some.inj ended
      exact ensures t (refl t)
  | call _ _ => cases ended

theorem mono (ensures : plan.Ensures A rely mid t)
    (weaker : ∀ {result t}, mid result t → post result t) : plan.Ensures A rely post t := by
  induction plan generalizing t with
  | ret _ | raise _ => exact fun t' relied => weaker (ensures t' relied)
  | call op next ih => exact fun t' relied => ih _ (ensures t' relied)

/-- What always holds is ensured. -/
theorem always (holds : ∀ result t, post result t) : plan.Ensures A rely post t := by
  induction plan generalizing t with
  | ret _ | raise _ => exact fun _ _ => holds _ _
  | call op next ih => exact fun _ _ => ih _

/-- A part and what is behind it. -/
theorem bind {k : α → Plan J ε β} (first : plan.Ensures A rely mid t)
    (ok : ∀ {value t}, (∀ t', rely t t' → mid (.ok value) t') → (k value).Ensures A rely after t)
    (error : ∀ {error t}, mid (.error error) t → after (.error error) t) :
    (plan >>= k).Ensures A rely after t := by
  induction plan generalizing t with
  | ret value => exact ok first
  | raise _ => exact fun t' relied => error (first t' relied)
  | call op next ih => exact fun t' relied => ih _ (first t' relied)

theorem perform {op : J.Op} {post : Except ε (J.Res op) → ω → Prop}
    (ends : ∀ t', rely t t' → ∀ t'', rely (A op t').2 t'' → post (A op t').1 t'') :
    (Plan.perform op : Plan J ε _).Ensures A rely post t := by
  intro t' relied
  have behind := ends t' relied
  cases answer : (A op t').1 with
  | ok value => exact fun t'' later => answer ▸ behind t'' later
  | error error => exact fun t'' later => answer ▸ behind t'' later

theorem attempt (ensures : plan.Ensures A rely post t) :
    plan.attempt.Ensures A rely (fun result t => ∃ ended, result = .ok ended ∧ post ended t) t := by
  induction plan generalizing t with
  | ret value => exact fun t' relied => ⟨.ok value, rfl, ensures t' relied⟩
  | raise error => exact fun t' relied => ⟨.error error, rfl, ensures t' relied⟩
  | call op next ih => exact fun t' relied => ih _ (ensures t' relied)

/-- `try: plan except catches: handler`. -/
theorem tryExcept {catches : ε → Bool} {handler : ε → Plan J ε α} (tried : plan.Ensures A rely mid t)
    (ok : ∀ {value t}, mid (.ok value) t → post (.ok value) t)
    (missed : ∀ {error t}, catches error = false → mid (.error error) t → post (.error error) t)
    (caught : ∀ {error t}, catches error = true → (∀ t', rely t t' → mid (.error error) t') →
      (handler error).Ensures A rely post t) :
    (Plan.tryExcept catches plan handler).Ensures A rely post t := by
  apply tried.attempt.bind
  · intro result t held
    have held : ∀ t', rely t t' → mid result t' := fun t' relied => by
      obtain ⟨_, same, holds⟩ := held t' relied
      exact Except.ok.inj same ▸ holds
    cases result with
    | ok value => exact fun t' relied => ok (held t' relied)
    | error error =>
        cases catch_ : catches error with
        | true =>
            simp only [catch_, ↓reduceIte]
            exact caught catch_ held
        | false =>
            simp only [catch_, Bool.false_eq_true, ↓reduceIte]
            exact fun t' relied => missed catch_ (held t' relied)
  · rintro error t ⟨_, same, -⟩
    cases same

end Plan.Ensures

variable {ι : Type} [DecidableEq ι] {R : ι → Type} {E : Env I ε σ} {kept : S → Prop}
  {body : (op : J.Op) → Coro S I ε (J.Res op)} {A : Env J ε ω} {sync : ω → S → σ → Prop}
  {rely : ω → ω → Prop} {allowed : J.Op → Prop}

/-- What a plan ensures stays so while the others take steps as it relies on, and it takes its own. -/
theorem Plan.Step.ensures {i : ι} {post : Except ε (R i) → ω → Prop}
    (trans : ∀ t t' t'', rely t t' → rely t' t'' → rely t t'')
    (guarantee : ∀ op, allowed op → ∀ t, rely t (A op t).2)
    {start end_ : (∀ i, Plan J ε (R i)) × ω} (steps : Relation.ReflTransGen (Plan.Step A) start end_)
    (refl : ∀ t, rely t t) (others : ∀ j ≠ i, (start.1 j).Among allowed)
    (own : (start.1 i).Ensures A rely post start.2) :
    (∀ j ≠ i, (end_.1 j).Among allowed) ∧ (end_.1 i).Ensures A rely post end_.2 := by
  refine @Plan.Step.invariant J ε ω ι _ R A (fun plans t => (∀ j ≠ i, (plans j).Among allowed) ∧
    (plans i).Ensures A rely post t) ?_ _ _ steps ⟨others, own⟩
  intro plans t j op next calls ⟨others, own⟩
  by_cases same : j = i
  · subst same
    refine ⟨fun other different => ?_, ?_⟩
    · rw [Function.update_of_ne different]
      exact others other different
    · rw [calls] at own
      rw [Function.update_self]
      exact own t (refl t)
  · have among := others j same
    rw [calls] at among
    refine ⟨fun other different => ?_, ?_⟩
    · by_cases stepped : other = j
      · subst stepped
        rw [Function.update_self]
        exact among.2 _
      · rw [Function.update_of_ne stepped]
        exact others other different
    · rw [Function.update_of_ne (Ne.symm same)]
      exact own.stable trans (guarantee op among.1 t)

omit [DecidableEq ι] in
/-- A coroutine that has ended is in no section. -/
theorem Simulates.ended {cfg : Config ι S I ε σ R} {plans : ∀ i, Plan J ε (R i)} {t : ω}
    (h : Simulates E kept body A sync cfg plans t) {i : ι} {result : Except ε (R i)}
    (ended : (cfg.tasks i).result? = some result) : (plans i).result? = some result := by
  apply (h.outside i ?_).result ended
  intro holder
  obtain ⟨op, next, c, rest, -, underway⟩ := h.held i holder
  rw [underway.task] at ended
  have within := underway.within
  cases c with
  | ret _ | raise _ | act _ _ | await _ _ => cases ended
  | acquire _ | release _ => exact within.elim

/-- **Reliance.** A coroutine that has ended has ended as its plan ensures, if the others do only what
it relies on. -/
theorem ensured (sections : Sections E kept body A sync) {tasks : ∀ i, Coro S I ε (R i)}
    {plans : ∀ i, Plan J ε (R i)} (carries : ∀ i, CarriesOut E kept body (tasks i) (plans i)) {s : S}
    {w : σ} {t : ω} (initial : sync t s w) {i : ι} {post : Except ε (R i) → ω → Prop}
    (refl : ∀ t, rely t t) (trans : ∀ t t' t'', rely t t' → rely t' t'' → rely t t'')
    (guarantee : ∀ op, allowed op → ∀ t, rely t (A op t).2)
    (others : ∀ j ≠ i, (plans j).Among allowed) (own : (plans i).Ensures A rely post t)
    {permitted : Config ι S I ε σ R → ι → Prop} {cfg : Config ι S I ε σ R}
    (reached : Config.Reaches E permitted (.start tasks s w) cfg) {result : Except ε (R i)}
    (ended : (cfg.tasks i).result? = some result) :
    ∃ t', post result t' ∧ (cfg.holder = none → sync t' cfg.host cfg.world) := by
  obtain ⟨plans', t', steps, simulates⟩ := atomic sections carries initial reached
  obtain ⟨-, ensures⟩ := Plan.Step.ensures trans guarantee steps refl others own
  exact ⟨t', ensures.ended refl (simulates.ended ended), simulates.free⟩

end Coroutine
