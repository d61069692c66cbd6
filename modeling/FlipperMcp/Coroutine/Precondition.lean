import FlipperMcp.Coroutine.Basic

/-! # Preconditions and footprints of coroutines

`Coroutine.wp` is the weakest precondition of a coroutine run alone: every
recorded event satisfies a guard, and the run ends in a given postcondition. Its
rules follow the constructors, so a program is verified along its text.

`Coroutine.assuming` is the weaker statement about the runs whose events all meet a
condition: such a run ends in the postcondition.

`Coroutine.Within` bounds what a coroutine can do at all, in any environment and
under any interference: the operations it awaits and the updates it makes.
`Coroutine.Yields` bounds what it raises and returns by what it is answered with.
-/

namespace Coroutine

variable {S : Type} {I : Signature} {ε σ α β : Type}

/-- From `s` and `w` the run keeps `guard` at every event and ends in `post`. -/
def wp (E : Env I ε σ) (guard : Event S I ε σ → Prop) (c : Coro S I ε α)
    (post : Except ε α → S → σ → Prop) (s : S) (w : σ) : Prop :=
  (∀ event ∈ (run E c s w).trace, guard event) ∧
    post (run E c s w).result (run E c s w).host (run E c s w).world

section Rules

variable {E : Env I ε σ} {guard : Event S I ε σ → Prop} {post : Except ε α → S → σ → Prop}
  {s : S} {w : σ}

theorem wp_ret {value : α} : wp E guard (.ret value) post s w ↔ post (.ok value) s w := by
  simp only [wp, run_ret, List.not_mem_nil, false_implies, implies_true, true_and]

theorem wp_raise {error : ε} : wp E guard (.raise error) post s w ↔ post (.error error) s w := by
  simp only [wp, run_raise, List.not_mem_nil, false_implies, implies_true, true_and]

theorem wp_act {update : S → S} {next : S → Coro S I ε α} :
    wp E guard (.act update next) post s w ↔ wp E guard (next s) post (update s) w := Iff.rfl

theorem wp_perform {op : I.Op} {post : Except ε (I.Res op) → S → σ → Prop} :
    wp E guard (Coro.perform op) post s w ↔
      guard ⟨s, w, op, (E op w).1⟩ ∧ post (E op w).1 s (E op w).2 := by
  simp only [wp, run_perform, List.mem_singleton, forall_eq]

theorem wp_get {post : Except ε S → S → σ → Prop} :
    wp E guard Coro.get post s w ↔ post (.ok s) s w := by
  simp only [wp, run_get, List.not_mem_nil, false_implies, implies_true, true_and]

theorem wp_modify {update : S → S} {post : Except ε Unit → S → σ → Prop} :
    wp E guard (Coro.modify update) post s w ↔ post (.ok ()) (update s) w := by
  simp only [wp, run_modify, List.not_mem_nil, false_implies, implies_true, true_and]

theorem wp_bind {c : Coro S I ε β} {k : β → Coro S I ε α} :
    wp E guard (c >>= k) post s w ↔
      wp E guard c (fun result s w => match result with
        | .ok value => wp E guard (k value) post s w
        | .error error => post (.error error) s w) s w := by
  unfold wp
  rw [run_bind]
  rcases run E c s w with ⟨result, host, world, trace⟩
  cases result with
  | ok value =>
      simp only [Outcome.after_result, Outcome.after_host, Outcome.after_world,
        Outcome.after_trace, List.mem_append, or_imp, forall_and, and_assoc]
  | error error => rfl

theorem wp_attempt {c : Coro S I ε α} {post : Except ε (Except ε α) → S → σ → Prop} :
    wp E guard c.attempt post s w ↔
      wp E guard c (fun result s w => post (.ok result) s w) s w := by
  unfold wp
  rw [run_attempt]

theorem wp_tryExcept {catches : ε → Bool} {body : Coro S I ε α} {handler : ε → Coro S I ε α} :
    wp E guard (Coro.tryExcept catches body handler) post s w ↔
      wp E guard body (fun result s w => match result with
        | .ok value => post (.ok value) s w
        | .error error =>
            if catches error then wp E guard (handler error) post s w
            else post (.error error) s w) s w := by
  unfold Coro.tryExcept
  rw [wp_bind, wp_attempt]
  unfold wp
  rcases run E body s w with ⟨result, host, world, trace⟩
  cases result with
  | ok value =>
      simp only [Coro.pure_eq, run_ret, List.not_mem_nil, false_implies, implies_true, true_and]
  | error error =>
      by_cases caught : catches error = true
      · simp only [caught, ↓reduceIte]
      · simp only [caught, Bool.false_eq_true, ↓reduceIte, run_raise, List.not_mem_nil,
          false_implies, implies_true, true_and]

theorem wp_withLock {body : Coro S I ε α} :
    wp E guard body.withLock post s w ↔ wp E guard body post s w := by
  unfold wp
  rw [run_withLock]

theorem wp.mono {c : Coro S I ε α} {weaker : Except ε α → S → σ → Prop}
    (h : wp E guard c post s w) (weaken : ∀ result s w, post result s w → weaker result s w) :
    wp E guard c weaker s w :=
  ⟨h.1, weaken _ _ _ h.2⟩

theorem wp_congr {c : Coro S I ε α} {other : Except ε α → S → σ → Prop}
    (same : ∀ result s w, post result s w ↔ other result s w) :
    wp E guard c post s w ↔ wp E guard c other s w :=
  and_congr_right fun _ => same _ _ _

/-- Sequencing with a named intermediate condition. -/
theorem wp.bind {c : Coro S I ε β} {k : β → Coro S I ε α} {mid : Except ε β → S → σ → Prop}
    (first : wp E guard c mid s w)
    (value : ∀ a s w, mid (.ok a) s w → wp E guard (k a) post s w)
    (error : ∀ e s w, mid (.error e) s w → post (.error e) s w) :
    wp E guard (c >>= k) post s w :=
  wp_bind.mpr (first.mono fun result s w reached => match result with
    | .ok a => value a s w reached
    | .error e => error e s w reached)

theorem wp.and {c : Coro S I ε α} {other : Except ε α → S → σ → Prop}
    (h : wp E guard c post s w) (h' : wp E guard c other s w) :
    wp E guard c (fun result s w => post result s w ∧ other result s w) s w :=
  ⟨h.1, h.2, h'.2⟩

end Rules

/-- A run from `s` and `w` whose events all satisfy `assumed` ends in `post`. -/
def assuming (E : Env I ε σ) (assumed : Event S I ε σ → Prop) (c : Coro S I ε α)
    (post : Except ε α → S → σ → Prop) (s : S) (w : σ) : Prop :=
  (∀ event ∈ (run E c s w).trace, assumed event) →
    post (run E c s w).result (run E c s w).host (run E c s w).world

section Assumptions

variable {E : Env I ε σ} {assumed : Event S I ε σ → Prop} {post : Except ε α → S → σ → Prop}
  {s : S} {w : σ}

theorem assuming.mono {c : Coro S I ε α} {weaker : Except ε α → S → σ → Prop}
    (h : assuming E assumed c post s w) (weaken : ∀ result s w, post result s w → weaker result s w) :
    assuming E assumed c weaker s w :=
  fun met => weaken _ _ _ (h met)

theorem assuming_ret {value : α} (h : post (.ok value) s w) :
    assuming E assumed (.ret value) post s w :=
  fun _ => h

theorem assuming_raise {error : ε} (h : post (.error error) s w) :
    assuming E assumed (.raise error) post s w :=
  fun _ => h

theorem assuming_perform {op : I.Op} {post : Except ε (I.Res op) → S → σ → Prop}
    (h : assumed ⟨s, w, op, (E op w).1⟩ → post (E op w).1 s (E op w).2) :
    assuming E assumed (Coro.perform op) post s w := by
  intro met
  rw [run_perform] at met ⊢
  exact h (met _ (List.mem_cons_self ..))

theorem assuming.bind {c : Coro S I ε β} {k : β → Coro S I ε α} {mid : Except ε β → S → σ → Prop}
    (first : assuming E assumed c mid s w)
    (value : ∀ a s w, mid (.ok a) s w → assuming E assumed (k a) post s w)
    (error : ∀ e s w, mid (.error e) s w → post (.error e) s w) :
    assuming E assumed (c >>= k) post s w := by
  unfold assuming at first ⊢
  rw [run_bind]
  revert first
  rcases run E c s w with ⟨result, host, world, trace⟩
  intro first met
  cases result with
  | ok a =>
      simp only [Outcome.after_trace, List.mem_append, or_imp, forall_and] at met
      exact value a host world (first met.1) met.2
  | error e => exact error e host world (first met)

theorem assuming.attempt {c : Coro S I ε α} {post : Except ε (Except ε α) → S → σ → Prop}
    (h : assuming E assumed c (fun result s w => post (.ok result) s w) s w) :
    assuming E assumed c.attempt post s w := by
  intro met
  rw [run_attempt] at met ⊢
  exact h met

theorem assuming.tryExcept {catches : ε → Bool} {body : Coro S I ε α} {handler : ε → Coro S I ε α}
    {mid : Except ε α → S → σ → Prop} (first : assuming E assumed body mid s w)
    (value : ∀ a s w, mid (.ok a) s w → post (.ok a) s w)
    (caught : ∀ e s w, mid (.error e) s w → catches e = true →
      assuming E assumed (handler e) post s w)
    (uncaught : ∀ e s w, mid (.error e) s w → catches e = false → post (.error e) s w) :
    assuming E assumed (Coro.tryExcept catches body handler) post s w := by
  unfold Coro.tryExcept
  have attempted : assuming E assumed body.attempt (fun result s w => match result with
      | .ok result => mid result s w
      | .error _ => False) s w := assuming.attempt first
  refine attempted.bind ?_ (fun _ _ _ impossible => impossible.elim)
  intro result s w reached
  cases result with
  | ok a => exact assuming_ret (value a s w reached)
  | error e =>
      cases catching : catches e with
      | true =>
          simp only [catching, ↓reduceIte]
          exact caught e s w reached catching
      | false =>
          simp only [catching, Bool.false_eq_true, ↓reduceIte]
          exact assuming_raise (uncaught e s w reached catching)

end Assumptions

/-- Every awaited operation is `allowed` and every update of the shared state
stays in `changes`, whatever the answers and whatever other coroutines do to
the state in between. The mutex is neither taken nor freed. -/
def Within (allowed : I.Op → Prop) (changes : S → S → Prop) : Coro S I ε α → Prop
  | .ret _ | .raise _ => True
  | .act update next => (∀ s, changes s (update s)) ∧ ∀ s, Within allowed changes (next s)
  | .await op next => allowed op ∧ ∀ answer, Within allowed changes (next answer)
  | .acquire _ | .release _ => False

section Footprint

variable {allowed : I.Op → Prop} {changes : S → S → Prop}

theorem Within.pure (value : α) : Within allowed changes (pure value : Coro S I ε α) := trivial

theorem Within.raise (error : ε) : Within allowed changes (.raise error : Coro S I ε α) := trivial

theorem Within.get (refl : ∀ s, changes s s) :
    Within allowed changes (Coro.get : Coro S I ε S) :=
  ⟨refl, fun _ => trivial⟩

theorem Within.modify {update : S → S} (h : ∀ s, changes s (update s)) :
    Within allowed changes (Coro.modify update : Coro S I ε Unit) :=
  ⟨h, fun _ => trivial⟩

theorem Within.perform {op : I.Op} (h : allowed op) :
    Within allowed changes (Coro.perform op : Coro S I ε (I.Res op)) :=
  ⟨h, fun answer => by cases answer <;> trivial⟩

theorem Within.bind {c : Coro S I ε β} {k : β → Coro S I ε α} (first : Within allowed changes c)
    (rest : ∀ value, Within allowed changes (k value)) : Within allowed changes (c >>= k) := by
  induction c with
  | ret value => exact rest value
  | raise _ => trivial
  | act update next ih => exact ⟨first.1, fun s => ih s (first.2 s)⟩
  | await op next ih => exact ⟨first.1, fun answer => ih answer (first.2 answer)⟩
  | acquire _ _ | release _ _ => exact first.elim

theorem Within.ite {condition : Prop} [Decidable condition] {c d : Coro S I ε α}
    (yes : Within allowed changes c) (no : Within allowed changes d) :
    Within allowed changes (if condition then c else d) := by
  by_cases holds : condition
  · rw [if_pos holds]
    exact yes
  · rw [if_neg holds]
    exact no

theorem Within.attempt {c : Coro S I ε α} (h : Within allowed changes c) :
    Within allowed changes c.attempt := by
  induction c with
  | ret _ | raise _ => trivial
  | act update next ih => exact ⟨h.1, fun s => ih s (h.2 s)⟩
  | await op next ih => exact ⟨h.1, fun answer => ih answer (h.2 answer)⟩
  | acquire _ _ | release _ _ => exact h.elim

theorem Within.tryExcept {catches : ε → Bool} {body : Coro S I ε α}
    {handler : ε → Coro S I ε α} (h : Within allowed changes body)
    (handled : ∀ error, Within allowed changes (handler error)) :
    Within allowed changes (Coro.tryExcept catches body handler) := by
  refine h.attempt.bind fun result => ?_
  cases result with
  | ok _ => trivial
  | error error =>
      simp only
      split
      · exact handled error
      · trivial

theorem Within.mono {larger : I.Op → Prop} {wider : S → S → Prop} {c : Coro S I ε α}
    (h : Within allowed changes c) (ops : ∀ op, allowed op → larger op)
    (updates : ∀ s s', changes s s' → wider s s') : Within larger wider c := by
  induction c with
  | ret _ | raise _ => trivial
  | act update next ih => exact ⟨fun s => updates _ _ (h.1 s), fun s => ih s (h.2 s)⟩
  | await op next ih => exact ⟨ops _ h.1, fun answer => ih answer (h.2 answer)⟩
  | acquire _ _ | release _ _ => exact h.elim

/-- A run awaits only allowed operations. -/
theorem Within.trace {c : Coro S I ε α} (h : Within allowed changes c) (E : Env I ε σ) (s : S)
    (w : σ) : ∀ event ∈ (run E c s w).trace, allowed event.op := by
  induction c generalizing s w with
  | ret _ | raise _ => simp only [run_ret, run_raise, List.not_mem_nil, false_implies,
      implies_true]
  | act update next ih => exact ih s (h.2 s) (update s) w
  | await op next ih =>
      intro event member
      simp only [run_await, Outcome.after_trace, List.singleton_append, List.mem_cons] at member
      rcases member with rfl | member
      · exact h.1
      · exact ih _ (h.2 _) _ _ event member
  | acquire _ _ | release _ _ => exact h.elim

/-- A run changes the shared state only within its footprint. -/
theorem Within.host {c : Coro S I ε α} (h : Within allowed changes c)
    (refl : ∀ s, changes s s) (trans : ∀ {a b d}, changes a b → changes b d → changes a d)
    (E : Env I ε σ) (s : S) (w : σ) : changes s (run E c s w).host := by
  induction c generalizing s w with
  | ret _ | raise _ => exact refl s
  | act update next ih => exact trans (h.1 s) (ih s (h.2 s) (update s) w)
  | await op next ih => exact ih _ (h.2 _) s _
  | acquire _ _ | release _ _ => exact h.elim

/-- A footprint is kept by every run. -/
theorem Within.wp {c : Coro S I ε α} (h : Within allowed changes c) (refl : ∀ s, changes s s)
    (trans : ∀ {a b d}, changes a b → changes b d → changes a d) (E : Env I ε σ) (s : S) (w : σ) :
    wp E (fun event => allowed event.op) c (fun _ s' _ => changes s s') s w :=
  ⟨h.trace E s w, h.host refl trans E s w⟩

/-- What its updates and its operations keep, every run keeps throughout. -/
theorem Within.wp_kept {c : Coro S I ε α} (h : Within allowed changes c) {E : Env I ε σ}
    {guard : Event S I ε σ → Prop} {kept : S → σ → Prop}
    (own : ∀ s s' w, changes s s' → kept s w → kept s' w)
    (told : ∀ op s w, allowed op → kept s w → guard ⟨s, w, op, (E op w).1⟩ ∧ kept s (E op w).2)
    {s : S} {w : σ} (now : kept s w) : Coroutine.wp E guard c (fun _ s' w' => kept s' w') s w := by
  induction c generalizing s w with
  | ret _ => exact wp_ret.mpr now
  | raise _ => exact wp_raise.mpr now
  | act update next ih => exact wp_act.mpr (ih s (h.2 s) (own _ _ w (h.1 s) now))
  | await op next ih =>
      obtain ⟨holds, after⟩ := told op s w h.1 now
      obtain ⟨later, end_⟩ := ih (E op w).1 (h.2 _) after
      refine ⟨fun event member => ?_, ?_⟩
      · rw [run_await, Outcome.after_trace] at member
        rcases List.mem_append.mp member with first | rest
        · rw [List.mem_singleton.mp first]
          exact holds
        · exact later event rest
      · rw [run_await]
        exact end_
  | acquire _ _ | release _ _ => exact h.elim

end Footprint

/-- As long as it is answered only with allowed exceptions, it raises only such exceptions
and returns only values in `post`. -/
def Yields (allowed : ε → Prop) (post : α → Prop) : Coro S I ε α → Prop
  | .ret value => post value
  | .raise error => allowed error
  | .act _ next => ∀ s, Yields allowed post (next s)
  | .await _ next => ∀ answer, (∀ error, answer = .error error → allowed error) →
      Yields allowed post (next answer)
  | .acquire next | .release next => Yields allowed post next

/-- It raises only allowed exceptions. -/
abbrev Raises (allowed : ε → Prop) (c : Coro S I ε α) : Prop := Yields allowed (fun _ => True) c

/-- A result whose exception is allowed. -/
def ResultAllowed (allowed : ε → Prop) (result : Except ε α) : Prop :=
  ∀ error, result = .error error → allowed error

section Exceptions

variable {allowed : ε → Prop} {post : α → Prop}

theorem ResultAllowed.ok (value : α) : ResultAllowed allowed (.ok value : Except ε α) :=
  fun _ raised => nomatch raised

theorem ResultAllowed.error {error : ε} (h : allowed error) :
    ResultAllowed allowed (.error error : Except ε α) := by
  intro other same
  obtain rfl := Except.error.inj same
  exact h

theorem Yields.perform (op : I.Op) :
    Raises allowed (Coro.perform op : Coro S I ε (I.Res op)) := by
  intro answer answered
  cases answer with
  | ok value => trivial
  | error error => exact answered error rfl

theorem Yields.get : Raises allowed (Coro.get : Coro S I ε S) := fun _ => trivial

theorem Yields.modify (update : S → S) :
    Raises allowed (Coro.modify update : Coro S I ε Unit) :=
  fun _ => trivial

theorem Yields.ofExcept {result : Except ε α} (h : ResultAllowed allowed result) :
    Raises allowed (Coro.ofExcept result : Coro S I ε α) := by
  cases result with
  | ok value => trivial
  | error error => exact h error rfl

theorem Yields.bind {c : Coro S I ε β} {k : β → Coro S I ε α} {mid : β → Prop}
    (first : Yields allowed mid c) (rest : ∀ value, mid value → Yields allowed post (k value)) :
    Yields allowed post (c >>= k) := by
  induction c with
  | ret value => exact rest value first
  | raise _ => exact first
  | act _ next ih => exact fun s => ih s (first s)
  | await _ next ih => exact fun answer answered => ih answer (first answer answered)
  | acquire _ ih | release _ ih => exact ih first

theorem Yields.attempt {c : Coro S I ε α} (h : Raises allowed c) :
    Yields allowed (ResultAllowed allowed) c.attempt := by
  induction c with
  | ret value => exact .ok value
  | raise error => exact .error h
  | act _ next ih => exact fun s => ih s (h s)
  | await _ next ih => exact fun answer answered => ih answer (h answer answered)
  | acquire _ ih | release _ ih => exact ih h

theorem Yields.tryExcept {catches : ε → Bool} {body : Coro S I ε α} {handler : ε → Coro S I ε α}
    (tried : Raises allowed body) (handled : ∀ error, Raises allowed (handler error)) :
    Raises allowed (Coro.tryExcept catches body handler) := by
  apply tried.attempt.bind
  intro result ended
  cases result with
  | ok _ => trivial
  | error error =>
      by_cases caught : catches error = true
      · simp only [caught, ↓reduceIte]
        exact handled error
      · simp only [caught, Bool.false_eq_true, ↓reduceIte]
        exact ended error rfl

theorem Yields.withLock {body : Coro S I ε α} (h : Raises allowed body) :
    Raises allowed body.withLock :=
  h.attempt.bind fun _ ended => Yields.ofExcept ended

/-- What a run raises is allowed, in an environment whose exceptions are. -/
theorem Yields.run {c : Coro S I ε α} (h : Yields allowed post c) (E : Env I ε σ)
    (answered : ∀ op w, ResultAllowed allowed (E op w).1) (s : S) (w : σ) :
    ResultAllowed allowed (run E c s w).result := by
  induction c generalizing s w with
  | ret value => exact .ok value
  | raise error => exact .error h
  | act update next ih => exact ih s (h s) (update s) w
  | await op next ih => exact ih _ (h _ (answered op w)) s _
  | acquire _ ih | release _ ih => exact ih h s w

end Exceptions

end Coroutine
