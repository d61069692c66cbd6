import FlipperMcp.Coroutine.Serializability

/-! # Isolation of critical sections from unlocked interruptions

Coroutines that await nothing outside one critical section run beside coroutines
that never touch the mutex and may await an interruption at any time. As long as every
interruption is answered while the mutex is free, nothing interrupts between two
answers to one coroutine with a critical section (`Phase.isolated`), and nothing has
interrupted since its first answer when it has a turn (`Phase.uninterrupted`).
-/

namespace Coroutine

variable {S : Type} {I : Signature} {ε σ : Type}

section Sectioned

variable {α β : Type}

/-- Whatever is awaited is awaited in one critical section. -/
def Sectioned : Coro S I ε α → Prop
  | .ret _ | .raise _ => True
  | .act _ next => ∀ s, Sectioned (next s)
  | .acquire next => Holding (fun _ => True) next
  | .await _ _ | .release _ => False

theorem Holding.bind {kept : S → Prop} {c : Coro S I ε β} {k : β → Coro S I ε α}
    (first : Holding kept c) (rest : ∀ value, Finishing kept (k value)) :
    Holding kept (c >>= k) := by
  induction c with
  | ret _ | raise _ | acquire _ _ => exact first.elim
  | act update next ih => exact ⟨first.1, fun s => ih s (first.2 s)⟩
  | await op next ih => exact fun answer => ih answer (first answer)
  | release next ih => exact Finishing.bind first rest

theorem Finishing.attempt {kept : S → Prop} {c : Coro S I ε α} (h : Finishing kept c) :
    Finishing kept c.attempt := by
  induction c with
  | ret _ | raise _ => trivial
  | act update next ih => exact ⟨h.1, fun s => ih s (h.2 s)⟩
  | await _ _ _ | acquire _ _ | release _ _ => exact h.elim

theorem Holding.attempt {kept : S → Prop} {c : Coro S I ε α} (h : Holding kept c) :
    Holding kept c.attempt := by
  induction c with
  | ret _ | raise _ | acquire _ _ => exact h.elim
  | act update next ih => exact ⟨h.1, fun s => ih s (h.2 s)⟩
  | await op next ih => exact fun answer => ih answer (h answer)
  | release next ih => exact Finishing.attempt h

theorem Sectioned.bind {c : Coro S I ε β} {k : β → Coro S I ε α} (first : Sectioned c)
    (rest : ∀ value, Finishing (fun _ => True) (k value)) : Sectioned (c >>= k) := by
  have local_ : ∀ d : Coro S I ε α, Finishing (fun _ => True) d → Sectioned d := by
    intro d finishing
    induction d with
    | ret _ | raise _ => trivial
    | act update next ih => exact fun s => ih s (finishing.2 s)
    | await _ _ _ | acquire _ _ | release _ _ => exact finishing.elim
  induction c with
  | ret value => exact local_ _ (rest value)
  | raise _ => trivial
  | act update next ih => exact fun s => ih s (first s)
  | acquire next ih => exact Holding.bind first rest
  | await _ _ _ | release _ _ => exact first.elim

theorem Sectioned.get_bind {k : S → Coro S I ε α} (rest : ∀ s, Sectioned (k s)) :
    Sectioned (Coro.get >>= k) :=
  rest

theorem Sectioned.attempt {c : Coro S I ε α} (h : Sectioned c) : Sectioned c.attempt := by
  induction c with
  | ret _ | raise _ => trivial
  | act update next ih => exact fun s => ih s (h s)
  | acquire next ih => exact Holding.attempt h
  | await _ _ _ | release _ _ => exact h.elim

theorem Sectioned.tryExcept {catches : ε → Bool} {body : Coro S I ε α}
    {handler : ε → Coro S I ε α} (h : Sectioned body)
    (handled : ∀ error, Finishing (fun _ => True) (handler error)) :
    Sectioned (Coro.tryExcept catches body handler) := by
  apply h.attempt.bind
  intro result
  cases result with
  | ok value => trivial
  | error error =>
      simp only
      split
      · exact handled error
      · trivial

theorem Sectioned.withLock {allowed : I.Op → Prop} {changes : S → S → Prop} {body : Coro S I ε α}
    (within : Within allowed changes body) : Sectioned body.withLock := by
  apply Holding.of_within within fun _ _ _ _ => trivial
  intro result
  cases result with
  | ok value => trivial
  | error error => trivial

theorem Sectioned.settle {c : Coro S I ε α} (h : Sectioned c) (s : S) :
    Sectioned (settle c s).rest ∧ (Coroutine.settle c s).released = false := by
  induction c generalizing s with
  | ret _ | raise _ | acquire _ _ => exact ⟨h, rfl⟩
  | act update next ih => exact ih s (h s) (update s)
  | await _ _ _ | release _ _ => exact h.elim

theorem Within.settle {allowed : I.Op → Prop} {changes : S → S → Prop} {c : Coro S I ε α}
    (h : Within allowed changes c) (s : S) :
    Within allowed changes (settle c s).rest ∧ (Coroutine.settle c s).released = false := by
  induction c generalizing s with
  | ret _ | raise _ | await _ _ _ => exact ⟨h, rfl⟩
  | act update next ih => exact ih s (h.2 s) (update s)
  | acquire _ _ | release _ _ => exact h.elim

end Sectioned

section Traces

variable {ι : Type} (interrupts : I.Op → Prop) (i : ι) (trace : List (ι × Event S I ε σ))

/-- Coroutine `i` has had no answer. -/
def Unanswered : Prop := ∀ e, (i, e) ∉ trace

/-- Nothing has interrupted since an answer to coroutine `i`. -/
def Uninterrupted : Prop := ∀ before e after, trace = before ++ (i, e) :: after →
  ∀ later ∈ after, ¬ interrupts later.2.op

/-- Nothing interrupts between two answers to coroutine `i`. -/
def Isolated : Prop := ∀ before first between last after,
  trace = before ++ (i, first) :: (between ++ (i, last) :: after) →
    ∀ later ∈ between, ¬ interrupts later.2.op

variable {interrupts i trace}

theorem Unanswered.uninterrupted (h : Unanswered i trace) : Uninterrupted interrupts i trace := by
  intro before e after split
  refine absurd ?_ (h e)
  rw [split]
  exact List.mem_append_right _ (List.mem_cons_self ..)

theorem Unanswered.isolated (h : Unanswered i trace) : Isolated interrupts i trace := by
  intro before first between last after split later member
  exact h.uninterrupted before first _ split later (List.mem_append_left _ member)

variable {j : ι} {event : Event S I ε σ}

theorem Unanswered.append (h : Unanswered i trace) (foreign : j ≠ i) :
    Unanswered i (trace ++ [(j, event)]) := by
  intro e member
  rcases List.mem_append.mp member with earlier | last
  · exact h e earlier
  · exact foreign (Prod.mk.inj (List.mem_singleton.mp last)).1.symm

theorem Uninterrupted.append (h : Uninterrupted interrupts i trace)
    (quiet : ¬ interrupts event.op) : Uninterrupted interrupts i (trace ++ [(j, event)]) := by
  intro before e after split later member
  rcases List.eq_nil_or_concat after with rfl | ⟨rest, last, rfl⟩
  · cases member
  · rw [List.concat_eq_append, ← List.cons_append, ← List.append_assoc] at split
    obtain ⟨earlier, same⟩ := List.append_inj' split rfl
    rw [List.concat_eq_append] at member
    rcases List.mem_append.mp member with within | last
    · exact h before e rest earlier later within
    · obtain rfl := List.mem_singleton.mp last
      rw [← List.singleton_inj.mp same]
      exact quiet

theorem Isolated.append (h : Isolated interrupts i trace)
    (own : j = i → Uninterrupted interrupts i trace) :
    Isolated interrupts i (trace ++ [(j, event)]) := by
  intro before first between last after split
  rcases List.eq_nil_or_concat after with rfl | ⟨rest, final, rfl⟩
  · rw [← List.cons_append, ← List.append_assoc] at split
    obtain ⟨earlier, same⟩ := List.append_inj' split rfl
    exact own (Prod.mk.inj (List.singleton_inj.mp same)).1 before first between earlier
  · rw [List.concat_eq_append, ← List.cons_append, ← List.append_assoc, ← List.cons_append,
      ← List.append_assoc] at split
    obtain ⟨earlier, -⟩ := List.append_inj' split rfl
    rw [List.append_assoc, List.cons_append] at earlier
    exact h before first between last rest earlier

end Traces

section Runs

variable {ι : Type} {α : ι → Type}

/-- If the next turn is an interruption, the mutex is free. -/
def Config.Undisturbed (interrupts : I.Op → Prop) (cfg : Config ι S I ε σ α) (i : ι) : Prop :=
  ∀ op next, cfg.tasks i = .await op next → interrupts op → cfg.holder = none

/-- Where a coroutine with one critical section stands. -/
inductive Phase (interrupts : I.Op → Prop) (cfg : Config ι S I ε σ α) (i : ι) : Prop
  | waiting (outside : cfg.holder ≠ some i) (sectioned : Sectioned (cfg.tasks i))
      (nothing : Unanswered i cfg.trace)
  | inside (holds : cfg.holder = some i) (holding : Holding (fun _ => True) (cfg.tasks i))
      (isolated : Isolated interrupts i cfg.trace) (current : Uninterrupted interrupts i cfg.trace)
  | ended (outside : cfg.holder ≠ some i) (ended : ∃ result, (cfg.tasks i).result? = some result)
      (isolated : Isolated interrupts i cfg.trace)

/-- Every coroutine is in one of its phases, or never touches the mutex. -/
structure Phases (interrupts : I.Op → Prop) (sections : ι → Prop) (cfg : Config ι S I ε σ α) : Prop where
  sectioned : ∀ i, sections i → Phase interrupts cfg i
  free : ∀ i, ¬ sections i → cfg.holder ≠ some i ∧
    Within (fun _ => True) (fun _ _ => True) (cfg.tasks i)

variable {interrupts : I.Op → Prop} {sections : ι → Prop} {cfg : Config ι S I ε σ α} {i j : ι}

theorem Phase.isolated (h : Phase interrupts cfg i) : Isolated interrupts i cfg.trace := by
  cases h with
  | waiting _ _ nothing => exact nothing.isolated
  | inside _ _ isolated _ => exact isolated
  | ended _ _ isolated => exact isolated

/-- A coroutine that stands still is moved by the rest of the configuration only. -/
theorem Phase.transfer (h : Phase interrupts cfg i) {cfg' : Config ι S I ε σ α}
    (task : cfg'.tasks i = cfg.tasks i) (trace : cfg'.trace = cfg.trace)
    (holder : cfg'.holder = some i ↔ cfg.holder = some i) : Phase interrupts cfg' i := by
  cases h with
  | waiting outside sectioned nothing =>
      exact .waiting (fun holds => outside (holder.mp holds)) (task ▸ sectioned) (trace ▸ nothing)
  | inside holds holding isolated current =>
      exact .inside (holder.mpr holds) (task ▸ holding) (trace ▸ isolated) (trace ▸ current)
  | ended outside ended isolated =>
      exact .ended (fun holds => outside (holder.mp holds)) (task ▸ ended) (trace ▸ isolated)

variable [DecidableEq ι] {E : Env I ε σ}

/-- Whoever has a turn has not been interrupted since it exchanged. -/
theorem Phase.uninterrupted (h : Phase interrupts cfg i) {next : Config ι S I ε σ α}
    (turn : cfg.step E i = some next) : Uninterrupted interrupts i cfg.trace := by
  cases h with
  | waiting _ _ nothing => exact nothing.uninterrupted
  | inside _ _ _ current => exact current
  | ended _ ended _ =>
      obtain ⟨result, ended⟩ := ended
      unfold Config.step at turn
      cases task : cfg.tasks i with
      | ret _ | raise _ =>
          rw [task] at turn
          cases turn
      | act _ _ | await _ _ | acquire _ | release _ =>
          rw [task] at ended
          cases ended

/-- Running up to a suspension keeps the phases. -/
theorem Phases.advance (h : Phases interrupts sections cfg) (j : ι) :
    Phases interrupts sections (cfg.advance j) := by
  have others : ∀ i ≠ j, (cfg.advance j).tasks i = cfg.tasks i := fun i different =>
    Function.update_of_ne different ..
  have own : (cfg.advance j).tasks j = (settle (cfg.tasks j) cfg.host).rest :=
    Function.update_self ..
  have unreleased : (settle (cfg.tasks j) cfg.host).released = false →
      (cfg.advance j).holder = cfg.holder := by
    intro unreleased
    rw [Config.advance, unreleased]
    rfl
  -- only the holder of the mutex can free it
  have holder : ∀ i ≠ j, ((cfg.advance j).holder = some i ↔ cfg.holder = some i) := by
    intro i different
    by_cases section_ : sections j
    · cases h.sectioned j section_ with
      | waiting _ sectioned _ => rw [unreleased (sectioned.settle cfg.host).2]
      | ended _ ended _ =>
          obtain ⟨result, ended⟩ := ended
          have still : (settle (cfg.tasks j) cfg.host).released = false := by
            cases task : cfg.tasks j with
            | ret _ | raise _ => rfl
            | act _ _ | await _ _ | acquire _ | release _ =>
                rw [task] at ended
                cases ended
          rw [unreleased still]
      | inside holds _ _ _ =>
          have elsewhere : cfg.holder ≠ some i := by
            rw [holds]
            exact fun same => different (Option.some.inj same).symm
          refine iff_of_false ?_ elsewhere
          unfold Config.advance
          simp only
          split
          · exact (Option.some_ne_none i).symm
          · exact elsewhere
    · rw [unreleased ((h.free j section_).2.settle cfg.host).2]
  constructor
  · intro i section_
    by_cases different : i = j
    · subst different
      cases h.sectioned i section_ with
      | waiting outside sectioned nothing =>
          obtain ⟨rest, still⟩ := sectioned.settle cfg.host
          exact .waiting (unreleased still ▸ outside) (own ▸ rest) nothing
      | inside holds holding isolated current =>
          have settled := (holding.settle (s := cfg.host) trivial).2
          by_cases released : (settle (cfg.tasks i) cfg.host).released = true
          · rw [if_pos released] at settled
            have freed : (cfg.advance i).holder = none := by
              rw [Config.advance, released]
              rfl
            have outside : (cfg.advance i).holder ≠ some i := by
              rw [freed]
              exact (Option.some_ne_none i).symm
            exact .ended outside (own ▸ settled) isolated
          · rw [if_neg released] at settled
            have still := unreleased (Bool.eq_false_iff.mpr released)
            exact .inside (still.trans holds) (own ▸ settled) isolated current
      | ended outside ended isolated =>
          obtain ⟨result, ended⟩ := ended
          have still : (cfg.advance i).tasks i = cfg.tasks i ∧
              (cfg.advance i).holder = cfg.holder := by
            rw [own]
            cases task : cfg.tasks i with
            | ret _ | raise _ => exact ⟨rfl, unreleased (by rw [task]; rfl)⟩
            | act _ _ | await _ _ | acquire _ | release _ =>
                rw [task] at ended
                cases ended
          exact .ended (still.2 ▸ outside) ⟨result, still.1 ▸ ended⟩ isolated
    · exact (h.sectioned i section_).transfer (others i different) rfl (holder i different)
  · intro i unsectioned
    by_cases different : i = j
    · subst different
      obtain ⟨outside, within⟩ := h.free i unsectioned
      obtain ⟨rest, still⟩ := within.settle cfg.host
      exact ⟨unreleased still ▸ outside, own ▸ rest⟩
    · rw [others i different]
      exact ⟨fun holds => (h.free i unsectioned).1 ((holder i different).mp holds),
        (h.free i unsectioned).2⟩

/-- Entering a critical section keeps the phases. -/
theorem Phases.enter (h : Phases interrupts sections cfg) {next : Coro S I ε (α j)}
    (task : cfg.tasks j = .acquire next) (free : cfg.holder = none) :
    Phases interrupts sections ((cfg.grant j).resume j next) := by
  have others : ∀ i ≠ j, ((cfg.grant j).resume j next).tasks i = cfg.tasks i :=
    fun i different => Function.update_of_ne different ..
  have own : ((cfg.grant j).resume j next).tasks j = next := Function.update_self ..
  have elsewhere : ∀ i ≠ j, ((cfg.grant j).resume j next).holder ≠ some i :=
    fun i different same => different (Option.some.inj same).symm
  constructor
  · intro i section_
    by_cases different : i = j
    · subst different
      cases h.sectioned i section_ with
      | waiting _ sectioned nothing =>
          rw [task] at sectioned
          have inside : Holding (fun _ => True) (((cfg.grant i).resume i next).tasks i) := by
            rw [own]
            exact sectioned
          exact .inside rfl inside nothing.isolated nothing.uninterrupted
      | inside holds _ _ _ => exact absurd (free.symm.trans holds) nofun
      | ended _ ended _ =>
          rw [task] at ended
          exact nomatch ended
    · apply (h.sectioned i section_).transfer (others i different) rfl
      exact iff_of_false (elsewhere i different) (by rw [free]; exact nofun)
  · intro i unsectioned
    obtain ⟨-, within⟩ := h.free i unsectioned
    by_cases different : i = j
    · subst different
      rw [task] at within
      exact within.elim
    · rw [others i different]
      exact ⟨elsewhere i different, within⟩

/-- An answer keeps the phases, unless it interrupts an exchange. -/
theorem Phases.answered (h : Phases interrupts sections cfg) {op : I.Op}
    {next : Except ε (I.Res op) → Coro S I ε (α j)} (task : cfg.tasks j = .await op next)
    (undisturbed : cfg.Undisturbed interrupts j) :
    Phases interrupts sections ((cfg.answer E j op).resume j (next (E op cfg.world).1)) := by
  have others : ∀ i ≠ j, ((cfg.answer E j op).resume j (next (E op cfg.world).1)).tasks i =
      cfg.tasks i := fun i different => Function.update_of_ne different ..
  have own : ((cfg.answer E j op).resume j (next (E op cfg.world).1)).tasks j =
      next (E op cfg.world).1 := Function.update_self ..
  have still : ∀ i, cfg.holder = some i → Uninterrupted interrupts i cfg.trace →
      Uninterrupted interrupts i
        (cfg.trace ++ [(j, ⟨cfg.host, cfg.world, op, (E op cfg.world).1⟩)]) := by
    intro i holds current
    by_cases interrupting : interrupts op
    · have free := undisturbed op next task interrupting
      exact absurd (free.symm.trans holds) nofun
    · exact current.append interrupting
  constructor
  · intro i section_
    by_cases different : i = j
    · subst different
      cases h.sectioned i section_ with
      | waiting _ sectioned _ =>
          rw [task] at sectioned
          exact sectioned.elim
      | inside holds holding isolated current =>
          rw [task] at holding
          have inside : Holding (fun _ => True)
              (((cfg.answer E i op).resume i (next (E op cfg.world).1)).tasks i) := by
            rw [own]
            exact holding _
          exact .inside holds inside (isolated.append fun _ => current) (still i holds current)
      | ended _ ended _ =>
          rw [task] at ended
          exact nomatch ended
    · have foreign : ∀ {p : Prop}, j = i → p := fun same => absurd same.symm different
      cases h.sectioned i section_ with
      | waiting outside sectioned nothing =>
          exact .waiting outside (others i different ▸ sectioned) (nothing.append fun same => different same.symm)
      | inside holds holding isolated current =>
          exact .inside holds (others i different ▸ holding) (isolated.append foreign)
            (still i holds current)
      | ended outside ended isolated =>
          exact .ended outside (others i different ▸ ended) (isolated.append foreign)
  · intro i unsectioned
    obtain ⟨outside, within⟩ := h.free i unsectioned
    by_cases different : i = j
    · subst different
      rw [task] at within
      rw [own]
      exact ⟨outside, within.2 _⟩
    · exact ⟨outside, others i different ▸ within⟩

/-- One turn keeps the phases. -/
theorem Phases.step (h : Phases interrupts sections cfg) (undisturbed : cfg.Undisturbed interrupts j)
    {next : Config ι S I ε σ α} (turn : cfg.step E j = some next) :
    Phases interrupts sections next := by
  unfold Config.step at turn
  split at turn
  next value task => cases turn
  next error task => cases turn
  next acquired task =>
    by_cases free : cfg.holder = none
    · rw [if_pos free] at turn
      obtain rfl := Option.some.inj turn
      exact (h.enter task free).advance j
    · rw [if_neg free] at turn
      cases turn
  next op resumed task =>
    obtain rfl := Option.some.inj turn
    exact (h.answered task undisturbed).advance j
  next update rest task =>
    obtain rfl := Option.some.inj turn
    exact h.advance j
  next rest task =>
    obtain rfl := Option.some.inj turn
    exact h.advance j

/-- A whole run keeps the phases. -/
theorem Config.Reaches.phases {tasks : ∀ i, Coro S I ε (α i)} {s : S} {w : σ}
    (sectioned : ∀ i, sections i → Sectioned (tasks i))
    (free : ∀ i, ¬ sections i → Within (fun _ => True) (fun _ _ => True) (tasks i))
    (reached : Reaches E (Config.Undisturbed interrupts) (.start tasks s w) cfg) :
    Phases interrupts sections cfg := by
  induction reached with
  | refl =>
      refine ⟨fun i section_ => ?_, fun i unsectioned => ⟨nofun, free i unsectioned⟩⟩
      exact .waiting nofun (sectioned i section_) fun _ member => nomatch member
  | step i before permits turn ih => exact ih.step permits turn

end Runs

end Coroutine
