import FlipperMcp.Coroutine.Embedding
import FlipperMcp.Coroutine.Outline

/-! # Ghost state

A ghost is state that the updates of a program keep beside the shared state and that nothing
reads. A program with a ghost (`Ghosts`) does what the program does without it: every schedule
of such programs is a schedule of the programs without their ghosts, and leads to the same
configuration (`Config.Ghosts.follow`).
-/

namespace Coroutine

variable {S G : Type} {I : Signature} {ε σ α β : Type}

/-- The first program is the second with a ghost. -/
inductive Ghosts : Coro (S × G) I ε α → Coro S I ε α → Prop
  | ret (value : α) : Ghosts (.ret value) (.ret value)
  | raise (error : ε) : Ghosts (.raise error) (.raise error)
  | act {update' : S × G → S × G} {update : S → S} {next' : S × G → Coro (S × G) I ε α}
      {next : S → Coro S I ε α} (same : ∀ p, (update' p).1 = update p.1)
      (rest : ∀ p, Ghosts (next' p) (next p.1)) : Ghosts (.act update' next') (.act update next)
  | await (op : I.Op) {next' : Except ε (I.Res op) → Coro (S × G) I ε α}
      {next : Except ε (I.Res op) → Coro S I ε α} (rest : ∀ answer, Ghosts (next' answer) (next answer)) :
      Ghosts (.await op next') (.await op next)
  | acquire {next' : Coro (S × G) I ε α} {next : Coro S I ε α} (rest : Ghosts next' next) :
      Ghosts (.acquire next') (.acquire next)
  | release {next' : Coro (S × G) I ε α} {next : Coro S I ε α} (rest : Ghosts next' next) :
      Ghosts (.release next') (.release next)

/-- A program that leaves the ghost as it is. -/
abbrev Coro.plainly (c : Coro S I ε α) : Coro (S × G) I ε α :=
  c.zoom Prod.fst fun s p => (s, p.2)

section Programs

theorem Ghosts.plainly (c : Coro S I ε α) : Ghosts (c.plainly : Coro (S × G) I ε α) c := by
  induction c with
  | ret value => exact .ret value
  | raise error => exact .raise error
  | act update next ih => exact .act (fun _ => rfl) fun p => ih p.1
  | await op next ih => exact .await op ih
  | acquire next ih => exact .acquire ih
  | release next ih => exact .release ih

theorem Ghosts.pure (value : α) :
    Ghosts (Pure.pure value : Coro (S × G) I ε α) (Pure.pure value : Coro S I ε α) :=
  .ret value

theorem Ghosts.modify {update' : S × G → S × G} {update : S → S}
    (same : ∀ p, (update' p).1 = update p.1) :
    Ghosts (Coro.modify update' : Coro (S × G) I ε Unit) (Coro.modify update) :=
  .act same fun _ => .ret ()

theorem Ghosts.get_bind {next' : S × G → Coro (S × G) I ε α} {next : S → Coro S I ε α}
    (rest : ∀ p, Ghosts (next' p) (next p.1)) : Ghosts (Coro.get >>= next') (Coro.get >>= next) :=
  .act (fun _ => rfl) rest

theorem Ghosts.bind {c' : Coro (S × G) I ε β} {c : Coro S I ε β} {next' : β → Coro (S × G) I ε α}
    {next : β → Coro S I ε α} (first : Ghosts c' c) (rest : ∀ value, Ghosts (next' value) (next value)) :
    Ghosts (c' >>= next') (c >>= next) := by
  induction first with
  | ret value => exact rest value
  | raise error => exact .raise error
  | act same _ ih => exact .act same ih
  | await op _ ih => exact .await op ih
  | acquire _ ih => exact .acquire ih
  | release _ ih => exact .release ih

theorem Ghosts.ite {condition : Prop} [Decidable condition] {c' d' : Coro (S × G) I ε α}
    {c d : Coro S I ε α} (yes : Ghosts c' c) (no : Ghosts d' d) :
    Ghosts (if condition then c' else d') (if condition then c else d) := by
  by_cases holds : condition
  · rw [if_pos holds, if_pos holds]
    exact yes
  · rw [if_neg holds, if_neg holds]
    exact no

/-- Both run up to the same suspension. -/
theorem Ghosts.settle {c' : Coro (S × G) I ε α} {c : Coro S I ε α} (h : Ghosts c' c) (p : S × G) :
    Ghosts (Coroutine.settle c' p).rest (Coroutine.settle c p.1).rest ∧
      (Coroutine.settle c' p).host.1 = (Coroutine.settle c p.1).host ∧
      (Coroutine.settle c' p).released = (Coroutine.settle c p.1).released := by
  induction h generalizing p with
  | ret value => exact ⟨.ret value, rfl, rfl⟩
  | raise error => exact ⟨.raise error, rfl, rfl⟩
  | await op rest _ => exact ⟨.await op rest, rfl, rfl⟩
  | acquire rest _ => exact ⟨.acquire rest, rfl, rfl⟩
  | act same _ ih =>
      simp only [Coroutine.settle, ← same p]
      exact ih p _
  | release _ ih => exact ⟨(ih p).1, (ih p).2.1, rfl⟩

/-- Leaving the ghost as it is, it awaits and changes what it awaits and changes without. -/
theorem Within.plainly {allowed : I.Op → Prop} {changes : S → S → Prop} {c : Coro S I ε α}
    (h : Within allowed changes c) :
    Within allowed (fun p p' => changes p.1 p'.1 ∧ p'.2 = p.2) (c.plainly : Coro (S × G) I ε α) := by
  induction c with
  | ret _ | raise _ => trivial
  | act update next ih => exact ⟨fun p => ⟨h.1 p.1, rfl⟩, fun p => ih p.1 (h.2 p.1)⟩
  | await op next ih => exact ⟨h.1, fun answer => ih answer (h.2 answer)⟩
  | acquire _ _ | release _ _ => exact h.elim

theorem Updates.plainly {changes : S → S → Prop} {c : Coro S I ε α} (h : Updates changes c) :
    Updates (fun p p' => changes p.1 p'.1 ∧ p'.2 = p.2) (c.plainly : Coro (S × G) I ε α) := by
  induction c with
  | ret _ | raise _ => trivial
  | act update next ih => exact ⟨fun p => ⟨h.1 p.1, rfl⟩, fun p => ih p.1 (h.2 p.1)⟩
  | await op next ih => exact fun answer => ih answer (h answer)
  | acquire next ih | release next ih => exact ih h

theorem plainly_perform (op : I.Op) :
    ((Coro.perform op : Coro S I ε (I.Res op)).plainly : Coro (S × G) I ε (I.Res op)) = Coro.perform op := by
  unfold Coro.perform Coro.plainly Coro.zoom
  congr 1
  funext answer
  cases answer <;> rfl

theorem plainly_modify (update : S → S) :
    ((Coro.modify update : Coro S I ε Unit).plainly : Coro (S × G) I ε Unit) =
      Coro.modify fun p => (update p.1, p.2) :=
  rfl

theorem plainly_bind (c : Coro S I ε β) (k : β → Coro S I ε α) :
    ((c >>= k).plainly : Coro (S × G) I ε α) = c.plainly >>= fun value => (k value).plainly := by
  induction c with
  | ret _ | raise _ => rfl
  | act update next ih =>
      change Coro.act _ (fun p => ((next p.1 >>= k).plainly : Coro (S × G) I ε α)) = _
      simp only [ih]
      rfl
  | await op next ih =>
      change Coro.await op (fun answer => ((next answer >>= k).plainly : Coro (S × G) I ε α)) = _
      simp only [ih]
      rfl
  | acquire next ih =>
      change Coro.acquire ((next >>= k).plainly : Coro (S × G) I ε α) = _
      rw [ih]
      rfl
  | release next ih =>
      change Coro.release ((next >>= k).plainly : Coro (S × G) I ε α) = _
      rw [ih]
      rfl

section Outlines

variable {o : Outline (S × G) I ε} {post : α → S × G → Prop} {p : S × G}

theorem Upholds.plainly_bind {c : Coro S I ε β} {k : β → Coro S I ε α} {mid : β → S × G → Prop}
    (first : Upholds o c.plainly mid p)
    (rest : ∀ value p, mid value p → Upholds o (k value).plainly post p) :
    Upholds o (c >>= k).plainly post p := by
  rw [Coroutine.plainly_bind]
  exact first.bind rest

theorem Upholds.plainly_get_bind {k : S → Coro S I ε α} (rest : Upholds o (k p.1).plainly post p) :
    Upholds o (Coro.get >>= k).plainly post p :=
  rest

theorem Upholds.plainly_ite {condition : Prop} [Decidable condition] {c d : Coro S I ε α}
    (yes : condition → Upholds o c.plainly post p) (no : ¬ condition → Upholds o d.plainly post p) :
    Upholds o (if condition then c else d).plainly post p := by
  by_cases holds : condition
  · rw [if_pos holds]
    exact yes holds
  · rw [if_neg holds]
    exact no holds

theorem Upholds.plainly_modify {update : S → S} {post : Unit → S × G → Prop}
    (reached : post () (update p.1, p.2)) :
    Upholds o (Coro.modify update : Coro S I ε Unit).plainly post p :=
  reached

end Outlines

/-- Both stand at the same suspension. -/
theorem Ghosts.standsAt {c' : Coro (S × G) I ε α} {c : Coro S I ε α} (h : Ghosts c' c) {point : Point I}
    (stands : c'.StandsAt point) : c.StandsAt point := by
  cases h with
  | ret _ | raise _ | await _ _ | acquire _ => exact stands
  | act _ _ | release _ => exact stands.elim

theorem suspended_plainly {c : Coro S I ε α} (h : Suspended c) :
    Suspended (c.plainly : Coro (S × G) I ε α) := by
  cases c with
  | ret _ | raise _ | await _ _ | acquire _ => trivial
  | act _ _ | release _ => exact h.elim

end Programs

section Configurations

variable {ι : Type} [DecidableEq ι] {α : ι → Type} {E : Env I ε σ}
  {cfg' : Config ι (S × G) I ε σ α} {cfg next : Config ι S I ε σ α}

/-- Where programs are under way with a ghost, and without. -/
structure Config.Ghosts (cfg' : Config ι (S × G) I ε σ α) (cfg : Config ι S I ε σ α) : Prop where
  tasks : ∀ i, Coroutine.Ghosts (cfg'.tasks i) (cfg.tasks i)
  host : cfg'.host.1 = cfg.host
  world : cfg'.world = cfg.world
  holder : cfg'.holder = cfg.holder

theorem Config.Ghosts.resume (h : cfg'.Ghosts cfg) (i : ι) {c' : Coro (S × G) I ε (α i)}
    {c : Coro S I ε (α i)} (goes : Coroutine.Ghosts c' c) : (cfg'.resume i c').Ghosts (cfg.resume i c) := by
  refine ⟨fun j => ?_, h.host, h.world, h.holder⟩
  by_cases same : j = i
  · subst same
    simp only [Config.resume, Function.update_self]
    exact goes
  · simp only [Config.resume, Function.update_of_ne same]
    exact h.tasks j

theorem Config.Ghosts.advance (h : cfg'.Ghosts cfg) (i : ι) : (cfg'.advance i).Ghosts (cfg.advance i) := by
  obtain ⟨rest, host, released⟩ := (h.tasks i).settle cfg'.host
  rw [h.host] at rest host released
  refine ⟨(h.resume i rest).tasks, host, h.world, ?_⟩
  simp only [Config.advance, released, h.holder]

/-- A turn without the ghost is a turn with it. -/
theorem Config.Ghosts.step {i : ι} (h : cfg'.Ghosts cfg) (taken : cfg.step E i = some next) :
    ∃ next', cfg'.step E i = some next' ∧ next'.Ghosts next := by
  have task := h.tasks i
  unfold Config.step at taken ⊢
  generalize cfg'.tasks i = c' at task ⊢
  generalize cfg.tasks i = c at task taken
  cases task with
  | ret _ | raise _ => exact nomatch taken
  | act _ _ | release _ =>
      obtain rfl := Option.some.inj taken
      exact ⟨_, rfl, h.advance i⟩
  | await op rest =>
      obtain rfl := Option.some.inj taken
      have answered : (cfg'.answer E i op).Ghosts (cfg.answer E i op) :=
        ⟨h.tasks, h.host, by simp only [Config.answer, h.world], h.holder⟩
      refine ⟨_, rfl, (answered.resume i ?_).advance i⟩
      rw [h.world]
      exact rest _
  | acquire rest =>
      by_cases free : cfg.holder = none
      · simp only [free, ↓reduceIte] at taken
        obtain rfl := Option.some.inj taken
        have granted : (cfg'.grant i).Ghosts (cfg.grant i) := ⟨h.tasks, h.host, h.world, rfl⟩
        exact ⟨_, if_pos (h.holder.trans free), (granted.resume i rest).advance i⟩
      · simp only [free, ↓reduceIte] at taken
        exact nomatch taken

/-- **The ghost changes nothing.** -/
theorem Config.Ghosts.follow (h : cfg'.Ghosts cfg) {schedule : List ι} {end_ : Config ι S I ε σ α}
    (followed : cfg.follow E schedule = some end_) :
    ∃ end', cfg'.follow E schedule = some end' ∧ end'.Ghosts end_ := by
  induction schedule generalizing cfg cfg' with
  | nil => exact ⟨cfg', rfl, Option.some.inj followed ▸ h⟩
  | cons i schedule ih =>
      unfold Config.follow at followed ih ⊢
      rw [List.foldlM_cons] at followed
      obtain ⟨next, taken, later⟩ := Option.bind_eq_some_iff.mp followed
      obtain ⟨next', taken', ghosts⟩ := h.step taken
      obtain ⟨end', led, last⟩ := ih ghosts later
      refine ⟨end', ?_, last⟩
      rw [List.foldlM_cons, taken']
      exact led

/-- What is permitted with the ghost as without it is permitted all along. -/
theorem Config.Ghosts.permits {permitted : Config ι S I ε σ α → ι → Prop}
    {permitted' : Config ι (S × G) I ε σ α → ι → Prop}
    (same : ∀ {cfg' next' : Config ι (S × G) I ε σ α} {cfg next : Config ι S I ε σ α} {i},
      cfg'.Ghosts cfg → next'.Ghosts next → cfg.step E i = some next → cfg'.step E i = some next' →
      permitted cfg i → permitted' cfg' i)
    (h : cfg'.Ghosts cfg) {schedule : List ι} {end_ : Config ι S I ε σ α}
    (followed : cfg.follow E schedule = some end_) (permits : cfg.Permits E permitted schedule) :
    cfg'.Permits E permitted' schedule := by
  induction schedule generalizing cfg cfg' with
  | nil => trivial
  | cons i schedule ih =>
      unfold Config.follow at followed ih
      rw [List.foldlM_cons] at followed
      obtain ⟨next, taken, later⟩ := Option.bind_eq_some_iff.mp followed
      obtain ⟨next', taken', ghosts⟩ := h.step taken
      refine ⟨same h ghosts taken taken' permits.1, fun other turn => ?_⟩
      obtain rfl := Option.some.inj (taken'.symm.trans turn)
      exact ih ghosts later (permits.2 next taken)

end Configurations

end Coroutine
