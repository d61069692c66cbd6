import FlipperMcp.Coroutine.Interleaving

/-! # Rely and guarantee

Coroutines that run beside each other keep an invariant of the state they share when each
of them tolerates what the others do between its suspensions. `Secure` is the weakest
precondition of one coroutine under interference, `Updates` bounds what another coroutine
changes. If the turns of the others are within what the one relies on, the invariant holds
in every configuration that is reached (`Config.Reaches.secure`).
-/

namespace Coroutine

variable {S : Type} {I : Signature} {ε σ : Type}

section Predicates

variable {α β : Type}

/-- It awaits something, waits for the mutex, or has ended. -/
def Suspended : Coro S I ε α → Prop
  | .act _ _ | .release _ => False
  | _ => True

/-- Under interference within `rely` it keeps `inv` and ends in `post`. -/
def Secure (rely : S → S → Prop) (inv : S → Prop) : Coro S I ε α → (α → S → Prop) → S → Prop
  | .ret value, post, s => post value s
  | .raise _, _, _ => True
  | .act update next, post, s => inv (update s) ∧ Secure rely inv (next s) post (update s)
  | .await _ next, post, s => ∀ answer s', rely s s' → Secure rely inv (next answer) post s'
  | .acquire next, post, s => ∀ s', rely s s' → Secure rely inv next post s'
  | .release next, post, s => Secure rely inv next post s

/-- Every update stays in `changes`. -/
def Updates (changes : S → S → Prop) : Coro S I ε α → Prop
  | .ret _ | .raise _ => True
  | .act update next => (∀ s, changes s (update s)) ∧ ∀ s, Updates changes (next s)
  | .await _ next => ∀ answer, Updates changes (next answer)
  | .acquire next | .release next => Updates changes next

section Secure

variable {rely : S → S → Prop} {inv : S → Prop} {post : α → S → Prop} {s : S}

theorem Secure.mono {c : Coro S I ε α} {weaker : α → S → Prop} (h : Secure rely inv c post s)
    (weaken : ∀ value s, post value s → weaker value s) : Secure rely inv c weaker s := by
  induction c generalizing s with
  | ret value => exact weaken value s h
  | raise _ => trivial
  | act update next ih => exact ⟨h.1, ih s h.2⟩
  | await op next ih => exact fun answer s' relied => ih answer (h answer s' relied)
  | acquire next ih => exact fun s' relied => ih (h s' relied)
  | release next ih => exact ih h

theorem Secure.bind {c : Coro S I ε β} {k : β → Coro S I ε α} {mid : β → S → Prop}
    (first : Secure rely inv c mid s)
    (rest : ∀ value s, mid value s → Secure rely inv (k value) post s) :
    Secure rely inv (c >>= k) post s := by
  induction c generalizing s with
  | ret value => exact rest value s first
  | raise _ => trivial
  | act update next ih => exact ⟨first.1, ih s first.2⟩
  | await op next ih => exact fun answer s' relied => ih answer (first answer s' relied)
  | acquire next ih => exact fun s' relied => ih (first s' relied)
  | release next ih => exact ih first

theorem Secure.get_bind {k : S → Coro S I ε α} (holds : inv s) (rest : Secure rely inv (k s) post s) :
    Secure rely inv (Coro.get >>= k) post s :=
  ⟨holds, rest⟩

theorem Secure.ite {condition : Prop} [Decidable condition] {c d : Coro S I ε α}
    (yes : condition → Secure rely inv c post s) (no : ¬ condition → Secure rely inv d post s) :
    Secure rely inv (if condition then c else d) post s := by
  by_cases holds : condition
  · rw [if_pos holds]
    exact yes holds
  · rw [if_neg holds]
    exact no holds

theorem Secure.modify {update : S → S} {post : Unit → S → Prop} (holds : inv (update s))
    (reached : post () (update s)) :
    Secure rely inv (Coro.modify update : Coro S I ε Unit) post s :=
  ⟨holds, reached⟩

theorem Secure.perform {op : I.Op} {post : I.Res op → S → Prop}
    (answered : ∀ value s', rely s s' → post value s') :
    Secure rely inv (Coro.perform op : Coro S I ε (I.Res op)) post s := by
  intro answer s' relied
  cases answer with
  | ok value => exact answered value s' relied
  | error _ => trivial

/-- What keeps an assertion that the others keep too. -/
theorem Secure.of_updates {kept : S → Prop} {changes : S → S → Prop} {c : Coro S I ε α}
    (h : Updates changes c) (own : ∀ s s', changes s s' → kept s → kept s')
    (stable : ∀ s s', rely s s' → kept s → kept s') (holds : ∀ s, kept s → inv s) (now : kept s) :
    Secure rely inv c (fun _ s' => kept s') s := by
  induction c generalizing s with
  | ret _ => exact now
  | raise _ => trivial
  | act update next ih =>
      have then_ := own _ _ (h.1 s) now
      exact ⟨holds _ then_, ih s (h.2 s) then_⟩
  | await op next ih => exact fun answer s' relied => ih answer (h answer) (stable _ _ relied now)
  | acquire next ih => exact fun s' relied => ih h (stable _ _ relied now)
  | release next ih => exact ih h now

/-- Running up to a suspension. -/
theorem Secure.settle {c : Coro S I ε α} (h : Secure rely inv c post s) (holds : inv s) :
    Secure rely inv (settle c s).rest post (Coroutine.settle c s).host ∧
      inv (Coroutine.settle c s).host := by
  induction c generalizing s with
  | ret _ | raise _ | await _ _ _ | acquire _ _ => exact ⟨h, holds⟩
  | act update next ih => exact ih s h.2 h.1
  | release next ih => exact ih h holds

/-- What is suspended tolerates the others. -/
theorem Secure.interfered (trans : ∀ {a b d}, rely a b → rely b d → rely a d) {c : Coro S I ε α}
    (suspended : Suspended c) (h : Secure rely inv c (fun _ _ => True) s) {s' : S}
    (relied : rely s s') : Secure rely inv c (fun _ _ => True) s' := by
  cases c with
  | ret _ | raise _ => trivial
  | await op next => exact fun answer s'' later => h answer s'' (trans relied later)
  | acquire next => exact fun s'' later => h s'' (trans relied later)
  | act _ _ | release _ => exact suspended.elim

theorem suspended_settle (c : Coro S I ε α) (s : S) : Suspended (settle c s).rest := by
  induction c generalizing s with
  | ret _ | raise _ | await _ _ _ | acquire _ _ => trivial
  | act update next ih => exact ih s (update s)
  | release next ih => exact ih s

end Secure

section Updates

variable {changes : S → S → Prop}

theorem Updates.pure (value : α) : Updates changes (pure value : Coro S I ε α) := trivial

theorem Updates.get (refl : ∀ s, changes s s) : Updates changes (Coro.get : Coro S I ε S) :=
  ⟨refl, fun _ => trivial⟩

theorem Updates.modify {update : S → S} (h : ∀ s, changes s (update s)) :
    Updates changes (Coro.modify update : Coro S I ε Unit) :=
  ⟨h, fun _ => trivial⟩

theorem Updates.perform (op : I.Op) :
    Updates changes (Coro.perform op : Coro S I ε (I.Res op)) :=
  fun answer => by cases answer <;> trivial

theorem Updates.bind {c : Coro S I ε β} {k : β → Coro S I ε α} (first : Updates changes c)
    (rest : ∀ value, Updates changes (k value)) : Updates changes (c >>= k) := by
  induction c with
  | ret value => exact rest value
  | raise _ => trivial
  | act update next ih => exact ⟨first.1, fun s => ih s (first.2 s)⟩
  | await op next ih => exact fun answer => ih answer (first answer)
  | acquire next ih | release next ih => exact ih first

theorem Updates.ite {condition : Prop} [Decidable condition] {c d : Coro S I ε α}
    (yes : Updates changes c) (no : Updates changes d) :
    Updates changes (if condition then c else d) := by
  by_cases holds : condition
  · rw [if_pos holds]
    exact yes
  · rw [if_neg holds]
    exact no

theorem Updates.attempt {c : Coro S I ε α} (h : Updates changes c) : Updates changes c.attempt := by
  induction c with
  | ret _ | raise _ => trivial
  | act update next ih => exact ⟨h.1, fun s => ih s (h.2 s)⟩
  | await op next ih => exact fun answer => ih answer (h answer)
  | acquire next ih | release next ih => exact ih h

theorem Updates.withLock {body : Coro S I ε α} (h : Updates changes body) :
    Updates changes body.withLock :=
  h.attempt.bind fun result => by cases result <;> trivial

theorem Updates.mono {wider : S → S → Prop} {c : Coro S I ε α} (h : Updates changes c)
    (updates : ∀ s s', changes s s' → wider s s') : Updates wider c := by
  induction c with
  | ret _ | raise _ => trivial
  | act update next ih => exact ⟨fun s => updates _ _ (h.1 s), fun s => ih s (h.2 s)⟩
  | await op next ih => exact fun answer => ih answer (h answer)
  | acquire next ih | release next ih => exact ih h

/-- A footprint bounds the updates. -/
theorem Within.updates {allowed : I.Op → Prop} {c : Coro S I ε α} (h : Within allowed changes c) :
    Updates changes c := by
  induction c with
  | ret _ | raise _ => trivial
  | act update next ih => exact ⟨h.1, fun s => ih s (h.2 s)⟩
  | await op next ih => exact fun answer => ih answer (h.2 answer)
  | acquire _ _ | release _ _ => exact h.elim

theorem Updates.settle (refl : ∀ s, changes s s)
    (trans : ∀ {a b d}, changes a b → changes b d → changes a d) {c : Coro S I ε α}
    (h : Updates changes c) (s : S) :
    Updates changes (settle c s).rest ∧ changes s (Coroutine.settle c s).host := by
  induction c generalizing s with
  | ret _ | raise _ | await _ _ _ | acquire _ _ => exact ⟨h, refl s⟩
  | act update next ih =>
      obtain ⟨rest, later⟩ := ih s (h.2 s) (update s)
      exact ⟨rest, trans (h.1 s) later⟩
  | release next ih => exact ih h s

end Updates

end Predicates

section Runs

variable {ι : Type} [DecidableEq ι] {α : ι → Type} {E : Env I ε σ}

/-- What a turn does: the coroutine runs on by itself, or with the answer to what it awaits. -/
inductive Config.Turn (E : Env I ε σ) (cfg next : Config ι S I ε σ α) (i : ι) : Prop
  | ran (c : Coro S I ε (α i))
      (resumed : (cfg.tasks i = c ∧ ¬ Suspended c) ∨ cfg.tasks i = .acquire c)
      (tasks : next.tasks = Function.update cfg.tasks i (settle c cfg.host).rest)
      (host : next.host = (settle c cfg.host).host) (world : next.world = cfg.world)
  | answered (op : I.Op) (k : Except ε (I.Res op) → Coro S I ε (α i))
      (awaits : cfg.tasks i = .await op k)
      (tasks : next.tasks =
        Function.update cfg.tasks i (settle (k (E op cfg.world).1) cfg.host).rest)
      (host : next.host = (settle (k (E op cfg.world).1) cfg.host).host)
      (world : next.world = (E op cfg.world).2)

/-- **Every turn is one of these.** -/
theorem Config.turn {cfg next : Config ι S I ε σ α} {i : ι} (taken : cfg.step E i = some next) :
    Config.Turn E cfg next i := by
  have resumed : ∀ (cfg' : Config ι S I ε σ α) (c : Coro S I ε (α i)), cfg'.tasks = cfg.tasks →
      cfg'.host = cfg.host → ((cfg'.resume i c).advance i).tasks =
          Function.update cfg.tasks i (settle c cfg.host).rest ∧
        ((cfg'.resume i c).advance i).host = (settle c cfg.host).host := by
    intro cfg' c tasks host
    simp only [Config.advance, Config.resume, Function.update_self, Function.update_idem, tasks,
      host, and_self]
  unfold Config.step at taken
  cases task : cfg.tasks i with
  | ret _ | raise _ =>
      rw [task] at taken
      exact nomatch taken
  | act update next' =>
      rw [task] at taken
      obtain rfl := Option.some.inj taken
      exact .ran _ (.inl ⟨rfl, by rw [task]; exact id⟩) rfl rfl rfl
  | release next' =>
      rw [task] at taken
      obtain rfl := Option.some.inj taken
      exact .ran _ (.inl ⟨rfl, by rw [task]; exact id⟩) rfl rfl rfl
  | acquire next' =>
      rw [task] at taken
      by_cases free : cfg.holder = none
      · simp only [free, ↓reduceIte] at taken
        obtain rfl := Option.some.inj taken
        obtain ⟨tasks, host⟩ := resumed (cfg.grant i) next' rfl rfl
        exact .ran next' (.inr task) tasks host rfl
      · simp only [free, ↓reduceIte] at taken
        exact nomatch taken
  | await op k =>
      rw [task] at taken
      obtain rfl := Option.some.inj taken
      obtain ⟨tasks, host⟩ := resumed (cfg.answer E i op) (k (E op cfg.world).1) rfl rfl
      exact .answered op k task tasks host rfl

variable {rely changes : S → S → Prop} {inv : S → Prop}

/-- The others stay where they are. -/
theorem Config.turn_others {cfg next : Config ι S I ε σ α} {i j : ι} (taken : cfg.step E i = some next)
    (other : j ≠ i) : next.tasks j = cfg.tasks j := by
  cases Config.turn taken with
  | ran _ _ tasks _ _ | answered _ _ _ tasks _ _ => rw [tasks, Function.update_of_ne other]

/-- Where the coroutine `i` is secure and the others keep to their changes. -/
structure Config.Secured (rely changes : S → S → Prop) (inv : S → Prop)
    (cfg : Config ι S I ε σ α) (i : ι) : Prop where
  suspended : Suspended (cfg.tasks i)
  secure : Secure rely inv (cfg.tasks i) (fun _ _ => True) cfg.host
  holds : inv cfg.host
  others : ∀ j ≠ i, Updates changes (cfg.tasks j)

/-- One turn keeps it so, if another's turn is within what `i` relies on. -/
theorem Config.Secured.step {cfg next : Config ι S I ε σ α} {i j : ι}
    (h : cfg.Secured rely changes inv i) (refl : ∀ s, rely s s)
    (trans : ∀ {a b d}, rely a b → rely b d → rely a d) (changesRefl : ∀ s, changes s s)
    (changesTrans : ∀ {a b d}, changes a b → changes b d → changes a d)
    (stable : ∀ s s', rely s s' → inv s → inv s') (taken : cfg.step E j = some next)
    (relied : j ≠ i → changes cfg.host next.host → rely cfg.host next.host) :
    next.Secured rely changes inv i := by
  obtain ⟨c, goes, tasks, host⟩ : ∃ c : Coro S I ε (α j),
      ((j = i → Secure rely inv c (fun _ _ => True) cfg.host) ∧
        (j ≠ i → Updates changes c)) ∧
      next.tasks = Function.update cfg.tasks j (settle c cfg.host).rest ∧
      next.host = (settle c cfg.host).host := by
    cases Config.turn taken with
    | ran c resumed tasks host _ =>
        refine ⟨c, ⟨?_, ?_⟩, tasks, host⟩
        · rintro rfl
          have secure := h.secure
          rcases resumed with ⟨same, _⟩ | waited
          · exact same ▸ secure
          · rw [waited] at secure
            exact secure _ (refl _)
        · intro different
          have updates := h.others j different
          rcases resumed with ⟨same, _⟩ | waited
          · exact same ▸ updates
          · rw [waited] at updates
            exact updates
    | answered op k awaits tasks host _ =>
        refine ⟨k (E op cfg.world).1, ⟨?_, ?_⟩, tasks, host⟩
        · rintro rfl
          have secure := h.secure
          rw [awaits] at secure
          exact secure _ _ (refl _)
        · intro different
          have updates := h.others j different
          rw [awaits] at updates
          exact updates _
  by_cases own : j = i
  · subst own
    obtain ⟨secure, holds⟩ := (goes.1 rfl).settle h.holds
    constructor
    · rw [tasks, Function.update_self]
      exact suspended_settle c cfg.host
    · rw [tasks, host, Function.update_self]
      exact secure
    · rw [host]
      exact holds
    · intro other different
      rw [tasks, Function.update_of_ne different]
      exact h.others other different
  · obtain ⟨updates, changed⟩ := (goes.2 own).settle changesRefl changesTrans cfg.host
    have tolerated : rely cfg.host next.host := relied own (host ▸ changed)
    constructor
    · rw [tasks, Function.update_of_ne (Ne.symm own)]
      exact h.suspended
    · rw [tasks, Function.update_of_ne (Ne.symm own)]
      exact @Secure.interfered _ _ _ _ rely inv cfg.host @trans _ h.suspended h.secure _ tolerated
    · exact stable _ _ tolerated h.holds
    · intro other different
      rw [tasks]
      by_cases same : other = j
      · subst same
        rw [Function.update_self]
        exact updates
      · rw [Function.update_of_ne same]
        exact h.others other different

/-- **Rely and guarantee.** -/
theorem Config.Reaches.secure {permitted : Config ι S I ε σ α → ι → Prop}
    {cfg end_ : Config ι S I ε σ α} {i : ι} (reaches : Reaches E permitted cfg end_)
    (h : cfg.Secured rely changes inv i) (refl : ∀ s, rely s s)
    (trans : ∀ {a b d}, rely a b → rely b d → rely a d) (changesRefl : ∀ s, changes s s)
    (changesTrans : ∀ {a b d}, changes a b → changes b d → changes a d)
    (stable : ∀ s s', rely s s' → inv s → inv s')
    (relied : ∀ {mid next : Config ι S I ε σ α} {j}, permitted mid j → mid.step E j = some next →
      j ≠ i → changes mid.host next.host → rely mid.host next.host) :
    end_.Secured rely changes inv i := by
  induction reaches with
  | refl => exact h
  | step j _ permits taken ih =>
      exact ih.step refl trans changesRefl changesTrans stable taken
        (relied permits taken)

end Runs

end Coroutine
