import FlipperMcp.Coroutine.Interleaving
import FlipperMcp.Coroutine.Recording

/-! # What one coroutine among others goes through

Between two turns of a coroutine the others may leave the shared state as they like. What it
has awaited so far, and what is left of it, is then read off its text, one rule for each
construct, with the shared state arbitrary at every turn
(`Coroutine.Config.Reaches.proceeds`).
-/

namespace Coroutine

variable {S : Type} {I : Signature} {ε σ α β : Type}

/-- Behind these operations with these answers, the second coroutine is left of the first. -/
inductive Proceeds : Coro S I ε α → List (Observation I ε) → Coro S I ε α → Prop
  | refl {c : Coro S I ε α} : Proceeds c [] c
  | act {update : S → S} {next : S → Coro S I ε α} {seen : List (Observation I ε)}
      {rest : Coro S I ε α} (s : S) (later : Proceeds (next s) seen rest) :
      Proceeds (.act update next) seen rest
  | await {op : I.Op} {next : Except ε (I.Res op) → Coro S I ε α} {seen : List (Observation I ε)}
      {rest : Coro S I ε α} (answer : Except ε (I.Res op)) (later : Proceeds (next answer) seen rest) :
      Proceeds (.await op next) (⟨op, answer⟩ :: seen) rest
  | acquire {next : Coro S I ε α} {seen : List (Observation I ε)} {rest : Coro S I ε α}
      (later : Proceeds next seen rest) : Proceeds (.acquire next) seen rest
  | release {next : Coro S I ε α} {seen : List (Observation I ε)} {rest : Coro S I ε α}
      (later : Proceeds next seen rest) : Proceeds (.release next) seen rest

section Rules

variable {c rest : Coro S I ε α} {seen : List (Observation I ε)}

theorem Proceeds.trans {mid : Coro S I ε α} {later : List (Observation I ε)}
    (first : Proceeds c seen mid) (second : Proceeds mid later rest) :
    Proceeds c (seen ++ later) rest := by
  induction first with
  | refl => exact second
  | act s _ ih => exact .act s (ih second)
  | await answer _ ih => exact .await answer (ih second)
  | acquire _ ih => exact .acquire (ih second)
  | release _ ih => exact .release (ih second)

/-- What has ended does not go on. -/
theorem proceeds_ret {value : α} (h : Proceeds (.ret value : Coro S I ε α) seen rest) :
    seen = [] ∧ rest = .ret value := by
  cases h
  exact ⟨rfl, rfl⟩

theorem proceeds_raise {error : ε} (h : Proceeds (.raise error : Coro S I ε α) seen rest) :
    seen = [] ∧ rest = .raise error := by
  cases h
  exact ⟨rfl, rfl⟩

/-- An operation is still awaited, or it has been answered with a value or an exception. -/
theorem proceeds_perform_bind {op : I.Op} {k : I.Res op → Coro S I ε α}
    (h : Proceeds (Coro.perform op >>= k) seen rest) :
    (seen = [] ∧ rest = Coro.perform op >>= k) ∨
      (∃ value later, seen = ⟨op, .ok value⟩ :: later ∧ Proceeds (k value) later rest) ∨
      ∃ error, seen = [⟨op, .error error⟩] ∧ rest = .raise error := by
  cases h with
  | refl => exact .inl ⟨rfl, rfl⟩
  | await answer later =>
      cases answer with
      | ok value => exact .inr (.inl ⟨value, _, rfl, later⟩)
      | error error =>
          obtain ⟨rfl, rfl⟩ := proceeds_raise later
          exact .inr (.inr ⟨error, rfl, rfl⟩)

/-- Up to its next suspension a coroutine awaits nothing. -/
theorem proceeds_settle (c : Coro S I ε α) (s : S) : Proceeds c [] (settle c s).rest := by
  induction c generalizing s with
  | ret _ | raise _ | await _ _ _ | acquire _ _ => exact .refl
  | act update next ih => exact .act s (ih s (update s))
  | release next ih => exact .release (ih s)

end Rules

section Interleaving

variable {ι : Type} [DecidableEq ι] {α : ι → Type}

namespace Config

/-- What one coroutine has awaited so far, with the answers. -/
def seen (cfg : Config ι S I ε σ α) (i : ι) : List (Observation I ε) :=
  cfg.trace.filterMap fun entry => if entry.1 = i then some entry.2.observed else none

theorem seen_answer (E : Env I ε σ) (cfg : Config ι S I ε σ α) (i : ι) (op : I.Op) :
    (cfg.answer E i op).seen i = cfg.seen i ++ [⟨op, (E op cfg.world).1⟩] := by
  simp only [seen, answer, List.filterMap_append, List.filterMap_cons, ↓reduceIte,
    List.filterMap_nil, Event.observed]

theorem seen_answer_of_ne (E : Env I ε σ) (cfg : Config ι S I ε σ α) {i j : ι} (other : j ≠ i)
    (op : I.Op) : (cfg.answer E j op).seen i = cfg.seen i := by
  simp only [seen, answer, List.filterMap_append, List.filterMap_cons, other, ↓reduceIte,
    List.filterMap_nil, List.append_nil]

/-- Every coroutine has gone on from one configuration to the other. -/
def Proceeds (cfg end_ : Config ι S I ε σ α) : Prop :=
  ∀ i, ∃ seen, end_.seen i = cfg.seen i ++ seen ∧
    Coroutine.Proceeds (cfg.tasks i) seen (end_.tasks i)

theorem Proceeds.refl (cfg : Config ι S I ε σ α) : cfg.Proceeds cfg := fun _ =>
  ⟨[], (List.append_nil _).symm, .refl⟩

theorem Proceeds.trans {cfg mid end_ : Config ι S I ε σ α} (first : cfg.Proceeds mid)
    (second : mid.Proceeds end_) : cfg.Proceeds end_ := by
  intro i
  obtain ⟨earlier, split, began⟩ := first i
  obtain ⟨later, behind, ended⟩ := second i
  refine ⟨earlier ++ later, ?_, began.trans ended⟩
  rw [behind, split, List.append_assoc]

/-- One coroutine has gone on, and nothing was awaited. -/
theorem proceeds_resume {cfg : Config ι S I ε σ α} {i : ι} {c : Coro S I ε (α i)}
    (own : Coroutine.Proceeds (cfg.tasks i) [] c) : cfg.Proceeds (cfg.resume i c) := by
  intro j
  refine ⟨[], (List.append_nil _).symm, ?_⟩
  by_cases same : j = i
  · subst same
    simp only [resume, Function.update_self]
    exact own
  · simp only [resume, Function.update_of_ne same]
    exact .refl

theorem proceeds_advance (cfg : Config ι S I ε σ α) (i : ι) : cfg.Proceeds (cfg.advance i) :=
  proceeds_resume (proceeds_settle (cfg.tasks i) cfg.host)

/-- What one coroutine awaits has been answered. -/
theorem proceeds_answer {cfg : Config ι S I ε σ α} (E : Env I ε σ) {i : ι} {op : I.Op}
    {k : Except ε (I.Res op) → Coro S I ε (α i)} (awaits : cfg.tasks i = .await op k) :
    cfg.Proceeds ((cfg.answer E i op).resume i (k (E op cfg.world).1)) := by
  intro j
  by_cases same : j = i
  · subst same
    refine ⟨[⟨op, (E op cfg.world).1⟩], seen_answer E cfg j op, ?_⟩
    simp only [resume, Function.update_self, awaits]
    exact .await _ .refl
  · refine ⟨[], ?_, ?_⟩
    · exact (seen_answer_of_ne E cfg (Ne.symm same) op).trans (List.append_nil _).symm
    · simp only [resume, Function.update_of_ne same]
      exact .refl

theorem Proceeds.step {E : Env I ε σ} {cfg next : Config ι S I ε σ α} {i : ι}
    (turn : cfg.step E i = some next) : cfg.Proceeds next := by
  unfold Config.step at turn
  cases task : cfg.tasks i with
  | ret _ | raise _ =>
      simp only [task] at turn
      exact nomatch turn
  | act _ _ | release _ =>
      simp only [task] at turn
      exact Option.some.inj turn ▸ proceeds_advance cfg i
  | acquire later =>
      simp only [task] at turn
      by_cases free : cfg.holder = none
      · rw [if_pos free] at turn
        have granted : cfg.Proceeds ((cfg.grant i).resume i later) :=
          @proceeds_resume _ _ _ _ _ _ _ (cfg.grant i) i later (task ▸ .acquire .refl)
        exact Option.some.inj turn ▸ granted.trans (proceeds_advance _ i)
      · rw [if_neg free] at turn
        exact nomatch turn
  | await op k =>
      simp only [task] at turn
      exact Option.some.inj turn ▸ (proceeds_answer E task).trans (proceeds_advance _ i)

/-- **A run among others.** -/
theorem Reaches.proceeds {E : Env I ε σ} {permitted : Config ι S I ε σ α → ι → Prop}
    {cfg end_ : Config ι S I ε σ α} (reached : Reaches E permitted cfg end_) :
    cfg.Proceeds end_ := by
  induction reached with
  | refl => exact .refl cfg
  | step _ _ _ turn ih => exact ih.trans (.step turn)

end Config

end Interleaving

end Coroutine
