import FlipperMcp.Coroutine.Rely

/-! # Proof outlines

An outline asserts something wherever a program is suspended: an invariant, and more by what
is awaited there. A program upholds it (`Upholds`) when it runs from each suspension to an
assertion at the next, whatever the others do meanwhile within what it relies on. If all
programs uphold their outlines, and their turns are within what the others rely on, the
assertions hold in every configuration that is reached (`Config.Outlined.reaches`).
-/

namespace Coroutine

variable {S : Type} {I : Signature} {ε σ α β : Type}

/-- Where a program can be suspended, and its end. -/
inductive Point (I : Signature)
  | awaits (op : I.Op)
  | mutex
  | ended

/-- What is asserted where a program is suspended or has ended, what it relies on there, and how
it is answered. -/
structure Outline (S : Type) (I : Signature) (ε : Type) where
  inv : S → Prop
  guard : Point I → S → Prop
  rely : Point I → S → S → Prop
  answers : (op : I.Op) → Except ε (I.Res op) → Prop

/-- What is asserted at the end. -/
def Outline.Ended (o : Outline S I ε) (s : S) : Prop := o.inv s ∧ o.guard .ended s

/-- Nothing is asserted, and anything may happen. -/
def Outline.any : Outline S I ε where
  inv _ := True
  guard _ _ := True
  rely _ _ _ := True
  answers _ _ := True

/-- It keeps the outline and ends in `post`. -/
def Upholds (o : Outline S I ε) : Coro S I ε α → (α → S → Prop) → S → Prop
  | .ret value, post, s => post value s
  | .raise _, _, s => o.Ended s
  | .act update next, post, s => Upholds o (next s) post (update s)
  | .await op next, post, s => o.inv s ∧ o.guard (.awaits op) s ∧ ∀ answer s', o.answers op answer →
      o.rely (.awaits op) s s' → o.inv s' → Upholds o (next answer) post s'
  | .acquire next, post, s => o.inv s ∧ o.guard .mutex s ∧ ∀ s', o.rely .mutex s s' → o.inv s' →
      Upholds o next post s'
  | .release next, post, s => Upholds o next post s

/-- Where it stands. -/
def Coro.StandsAt (c : Coro S I ε α) (point : Point I) : Prop :=
  match c with
  | .await op _ => point = .awaits op
  | .acquire _ => point = .mutex
  | .ret _ | .raise _ => point = .ended
  | .act _ _ | .release _ => False

section Programs

variable {o : Outline S I ε} {post : α → S → Prop} {s : S}

theorem Upholds.mono {c : Coro S I ε α} {weaker : α → S → Prop} (h : Upholds o c post s)
    (weaken : ∀ value s, post value s → weaker value s) : Upholds o c weaker s := by
  induction c generalizing s with
  | ret value => exact weaken value s h
  | raise _ => exact h
  | act update next ih => exact ih s h
  | release next ih => exact ih h
  | await op next ih =>
      exact ⟨h.1, h.2.1, fun answer s' answered relied inv => ih answer (h.2.2 answer s' answered relied inv)⟩
  | acquire next ih => exact ⟨h.1, h.2.1, fun s' relied inv => ih (h.2.2 s' relied inv)⟩

theorem Upholds.bind {c : Coro S I ε β} {k : β → Coro S I ε α} {mid : β → S → Prop}
    (first : Upholds o c mid s) (rest : ∀ value s, mid value s → Upholds o (k value) post s) :
    Upholds o (c >>= k) post s := by
  induction c generalizing s with
  | ret value => exact rest value s first
  | raise _ => exact first
  | act update next ih => exact ih s first
  | release next ih => exact ih first
  | await op next ih =>
      exact ⟨first.1, first.2.1, fun answer s' answered relied inv =>
        ih answer (first.2.2 answer s' answered relied inv)⟩
  | acquire next ih => exact ⟨first.1, first.2.1, fun s' relied inv => ih (first.2.2 s' relied inv)⟩

theorem Upholds.get_bind {k : S → Coro S I ε α} (rest : Upholds o (k s) post s) :
    Upholds o (Coro.get >>= k) post s :=
  rest

theorem Upholds.ite {condition : Prop} [Decidable condition] {c d : Coro S I ε α}
    (yes : condition → Upholds o c post s) (no : ¬ condition → Upholds o d post s) :
    Upholds o (if condition then c else d) post s := by
  by_cases holds : condition
  · rw [if_pos holds]
    exact yes holds
  · rw [if_neg holds]
    exact no holds

theorem Upholds.modify {update : S → S} {post : Unit → S → Prop} (reached : post () (update s)) :
    Upholds o (Coro.modify update : Coro S I ε Unit) post s :=
  reached

/-- What it is afterwards. -/
theorem Upholds.modified {update : S → S} :
    Upholds o (Coro.modify update : Coro S I ε Unit) (fun _ s' => s' = update s) s :=
  rfl

theorem Upholds.perform {op : I.Op} {post : I.Res op → S → Prop} (inv : o.inv s)
    (asserted : o.guard (.awaits op) s)
    (answered : ∀ value s', o.answers op (.ok value) → o.rely (.awaits op) s s' → o.inv s' → post value s')
    (raised : ∀ error s', o.answers op (.error error) → o.rely (.awaits op) s s' → o.inv s' →
      o.Ended s') :
    Upholds o (Coro.perform op : Coro S I ε (I.Res op)) post s := by
  refine ⟨inv, asserted, fun answer s' accepted relied inv => ?_⟩
  cases answer with
  | ok value => exact answered value s' accepted relied inv
  | error error => exact raised error s' accepted relied inv

/-- What keeps an assertion that the others keep too. -/
theorem Upholds.of_within {allowed : I.Op → Prop} {changes : S → S → Prop} (kept : S → Prop)
    {c : Coro S I ε α} (h : Within allowed changes c)
    (own : ∀ s s', changes s s' → kept s → kept s')
    (stable : ∀ op s s', allowed op → o.rely (.awaits op) s s' → o.inv s' → kept s → kept s')
    (asserted : ∀ op s, allowed op → kept s → o.inv s ∧ o.guard (.awaits op) s)
    (ends : ε → ∀ s, kept s → o.Ended s) (now : kept s) :
    Upholds o c (fun _ s' => kept s') s := by
  induction c generalizing s with
  | ret _ => exact now
  | raise error => exact ends error s now
  | act update next ih => exact ih s (h.2 s) (own _ _ (h.1 s) now)
  | await op next ih =>
      obtain ⟨inv, guard⟩ := asserted op s h.1 now
      exact ⟨inv, guard, fun answer s' _ relied inv =>
        ih answer (h.2 answer) (stable op _ _ h.1 relied inv now)⟩
  | acquire _ _ | release _ _ => exact h.elim

/-- So it is with what may await anything, where the assertion is enough everywhere. -/
theorem Upholds.of_updates {changes : S → S → Prop} {kept : S → Prop} {c : Coro S I ε α}
    (h : Updates changes c) (own : ∀ s s', changes s s' → kept s → kept s')
    (stable : ∀ point s s', o.rely point s s' → o.inv s' → kept s → kept s')
    (asserted : ∀ point s, kept s → o.inv s ∧ o.guard point s) (now : kept s) :
    Upholds o c (fun _ s' => kept s') s := by
  induction c generalizing s with
  | ret _ => exact now
  | raise _ => exact asserted .ended s now
  | act update next ih => exact ih s (h.2 s) (own _ _ (h.1 s) now)
  | release next ih => exact ih h now
  | await op next ih =>
      obtain ⟨inv, guard⟩ := asserted (.awaits op) s now
      exact ⟨inv, guard, fun answer s' _ relied inv =>
        ih answer (h answer) (stable _ _ _ relied inv now)⟩
  | acquire next ih =>
      obtain ⟨inv, guard⟩ := asserted .mutex s now
      exact ⟨inv, guard, fun s' relied inv => ih h (stable _ _ _ relied inv now)⟩

theorem Upholds.any (c : Coro S I ε α) (s : S) : Upholds Outline.any c (fun _ _ => True) s := by
  induction c generalizing s with
  | ret _ => trivial
  | raise _ => exact ⟨trivial, trivial⟩
  | act update next ih => exact ih s (update s)
  | release next ih => exact ih s
  | await op next ih => exact ⟨trivial, trivial, fun answer s' _ _ _ => ih answer s'⟩
  | acquire next ih => exact ⟨trivial, trivial, fun s' _ _ => ih s'⟩

theorem Updates.any (c : Coro S I ε α) : Updates (fun _ _ => True) c := by
  induction c with
  | ret _ | raise _ => trivial
  | act update next ih => exact ⟨fun _ => trivial, ih⟩
  | await op next ih => exact ih
  | acquire next ih | release next ih => exact ih

/-- Alone, it ends as it says. -/
theorem Upholds.run {E : Env I ε σ} {c : Coro S I ε α} (h : Upholds o c post s)
    (answered : ∀ op w, o.answers op (E op w).1) (refl : ∀ point s, o.rely point s s) (w : σ)
    {value : α} (returned : (run E c s w).result = .ok value) :
    post value (Coroutine.run E c s w).host := by
  induction c generalizing s w with
  | ret _ =>
      obtain rfl := Except.ok.inj returned
      exact h
  | raise _ => exact nomatch returned
  | act update next ih => exact ih s h w returned
  | release next ih => exact ih h w returned
  | await op next ih => exact ih _ (h.2.2 _ s (answered op w) (refl _ s) h.1) _ returned
  | acquire next ih => exact ih (h.2.2 s (refl _ s) h.1) w returned

/-- Running up to a suspension. -/
theorem Upholds.settle {c : Coro S I ε α} (h : Upholds o c post s) :
    Upholds o (settle c s).rest post (Coroutine.settle c s).host := by
  induction c generalizing s with
  | ret _ | raise _ | await _ _ _ | acquire _ _ => exact h
  | act update next ih => exact ih s h
  | release next ih => exact ih h

/-- Where it is suspended or has ended, the invariant holds. -/
theorem Upholds.holds {c : Coro S I ε α} (suspended : Suspended c)
    (h : Upholds o c (fun _ => o.Ended) s) : o.inv s := by
  cases c with
  | ret _ | raise _ => exact h.1
  | await op next => exact h.1
  | acquire next => exact h.1
  | act _ _ | release _ => exact suspended.elim

/-- So does the assertion. -/
theorem Upholds.asserted {c : Coro S I ε α} (h : Upholds o c (fun _ => o.Ended) s) {point : Point I}
    (stands : c.StandsAt point) : o.guard point s := by
  cases c with
  | ret _ | raise _ =>
      obtain rfl : point = .ended := stands
      exact h.2
  | await op next =>
      obtain rfl : point = .awaits op := stands
      exact h.2.1
  | acquire next =>
      obtain rfl : point = .mutex := stands
      exact h.2.1
  | act _ _ | release _ => exact stands.elim

/-- What the others do within what it relies on keeps it so. -/
theorem Upholds.interfered {c : Coro S I ε α} (suspended : Suspended c)
    (h : Upholds o c (fun _ => o.Ended) s) {s' : S} (inv : o.inv s')
    (stable : ∀ point, c.StandsAt point → o.guard point s → o.guard point s')
    (trans : ∀ point s'', c.StandsAt point → o.rely point s' s'' → o.rely point s s'') :
    Upholds o c (fun _ => o.Ended) s' := by
  cases c with
  | ret _ | raise _ => exact ⟨inv, stable _ rfl h.2⟩
  | await op next =>
      exact ⟨inv, stable _ rfl h.2.1, fun answer s'' answered later =>
        h.2.2 answer s'' answered (trans _ s'' rfl later)⟩
  | acquire next =>
      exact ⟨inv, stable _ rfl h.2.1, fun s'' later => h.2.2 s'' (trans _ s'' rfl later)⟩
  | act _ _ | release _ => exact suspended.elim

end Programs

section Runs

variable {ι : Type} [DecidableEq ι] {α : ι → Type} {E : Env I ε σ}

/-- Where every program upholds its outline, and changes no more than it may. -/
structure Config.Outlined (o : ι → Outline S I ε) (changes : ι → S → S → Prop)
    (cfg : Config ι S I ε σ α) : Prop where
  suspended : ∀ i, Suspended (cfg.tasks i)
  upholds : ∀ i, Upholds (o i) (cfg.tasks i) (fun _ => (o i).Ended) cfg.host
  updates : ∀ i, Updates (changes i) (cfg.tasks i)

/-- What a turn of `j` is to the others: it keeps their invariant and is within what each of
them relies on where it is suspended. -/
structure Config.Tolerates (o : ι → Outline S I ε) (cfg next : Config ι S I ε σ α) (j : ι) :
    Prop where
  inv : ∀ i ≠ j, (o i).inv next.host
  guard : ∀ i ≠ j, ∀ point, (cfg.tasks i).StandsAt point → (o i).guard point cfg.host →
    (o i).guard point next.host
  rely : ∀ i ≠ j, ∀ point s, (cfg.tasks i).StandsAt point → (o i).rely point next.host s →
    (o i).rely point cfg.host s

/-- One turn. -/
theorem Config.Outlined.step {o : ι → Outline S I ε} {changes : ι → S → S → Prop}
    {cfg next : Config ι S I ε σ α} {j : ι} (h : cfg.Outlined o changes)
    (answered : ∀ op w, (o j).answers op (E op w).1) (refl : ∀ point s, (o j).rely point s s)
    (changesRefl : ∀ s, changes j s s)
    (changesTrans : ∀ {a b d}, changes j a b → changes j b d → changes j a d)
    (taken : cfg.step E j = some next)
    (tolerated : (o j).inv next.host → changes j cfg.host next.host → cfg.Tolerates o next j) :
    next.Outlined o changes := by
  have inv := (h.upholds j).holds (h.suspended j)
  obtain ⟨c, upholds, updates, tasks, host⟩ : ∃ c : Coro S I ε (α j),
      Upholds (o j) c (fun _ => (o j).Ended) cfg.host ∧ Updates (changes j) c ∧
      next.tasks = Function.update cfg.tasks j (settle c cfg.host).rest ∧
      next.host = (settle c cfg.host).host := by
    have upholds := h.upholds j
    have updates := h.updates j
    cases Config.turn taken with
    | ran c resumed tasks host _ =>
        rcases resumed with ⟨same, _⟩ | waited
        · exact ⟨c, same ▸ upholds, same ▸ updates, tasks, host⟩
        · rw [waited] at upholds updates
          exact ⟨c, upholds.2.2 _ (refl _ _) inv, updates, tasks, host⟩
    | answered op k awaits tasks host _ =>
        rw [awaits] at upholds updates
        exact ⟨_, upholds.2.2 _ _ (answered op cfg.world) (refl _ _) inv, updates _, tasks, host⟩
  have settled := upholds.settle
  obtain ⟨kept, changed⟩ := updates.settle changesRefl changesTrans cfg.host
  rw [← host] at settled changed
  have tolerates := tolerated (settled.holds (suspended_settle c cfg.host)) changed
  constructor
  · intro i
    rw [tasks]
    by_cases own : i = j
    · subst own
      rw [Function.update_self]
      exact suspended_settle c cfg.host
    · rw [Function.update_of_ne own]
      exact h.suspended i
  · intro i
    rw [tasks]
    by_cases own : i = j
    · subst own
      rw [Function.update_self]
      exact settled
    · rw [Function.update_of_ne own]
      exact (h.upholds i).interfered (h.suspended i) (tolerates.inv i own)
        (tolerates.guard i own) (tolerates.rely i own)
  · intro i
    rw [tasks]
    by_cases own : i = j
    · subst own
      rw [Function.update_self]
      exact kept
    · rw [Function.update_of_ne own]
      exact h.updates i

/-- **Proof outlines.** -/
theorem Config.Outlined.reaches {o : ι → Outline S I ε} {changes : ι → S → S → Prop}
    {permitted : Config ι S I ε σ α → ι → Prop} {cfg end_ : Config ι S I ε σ α}
    (reaches : Config.Reaches E permitted cfg end_) (h : cfg.Outlined o changes)
    (answered : ∀ i op w, (o i).answers op (E op w).1) (refl : ∀ i point s, (o i).rely point s s)
    (changesRefl : ∀ i s, changes i s s)
    (changesTrans : ∀ i {a b d}, changes i a b → changes i b d → changes i a d)
    (tolerated : ∀ {mid next : Config ι S I ε σ α} {j}, mid.Outlined o changes → permitted mid j →
      mid.step E j = some next → (o j).inv next.host → changes j mid.host next.host →
      mid.Tolerates o next j) :
    end_.Outlined o changes := by
  induction reaches with
  | refl => exact h
  | step j _ permits taken ih =>
      exact ih.step (answered j) (refl j) (changesRefl j) (changesTrans j) taken
        (tolerated ih permits taken)

/-- **One proof outline.** The others do no more than it tolerates. -/
theorem Config.Reaches.upholds {o : Outline S I ε} (changes : S → S → Prop)
    {permitted : Config ι S I ε σ α → ι → Prop} {cfg end_ : Config ι S I ε σ α} {i : ι}
    (reaches : Config.Reaches E permitted cfg end_) (suspended : ∀ j, Suspended (cfg.tasks j))
    (upholds : Upholds o (cfg.tasks i) (fun _ => o.Ended) cfg.host)
    (others : ∀ j ≠ i, Updates changes (cfg.tasks j)) (answered : ∀ op w, o.answers op (E op w).1)
    (refl : ∀ point s, o.rely point s s) (changesRefl : ∀ s, changes s s)
    (changesTrans : ∀ {a b d}, changes a b → changes b d → changes a d)
    (inv : ∀ {s s'}, changes s s' → o.inv s → o.inv s')
    (guard : ∀ point {s s'}, changes s s' → o.guard point s → o.guard point s')
    (rely : ∀ point {s s' s''}, changes s s' → o.rely point s' s'' → o.rely point s s'') :
    Upholds o (end_.tasks i) (fun _ => o.Ended) end_.host := by
  let outlines : ι → Outline S I ε := fun j => if j = i then o else Outline.any
  let bounds : ι → S → S → Prop := fun j => if j = i then fun _ _ => True else changes
  have own : outlines i = o := if_pos rfl
  have other : ∀ j ≠ i, outlines j = Outline.any := fun j different => if_neg different
  have outlined : cfg.Outlined outlines bounds := by
    refine ⟨suspended, fun j => ?_, fun j => ?_⟩
    · by_cases same : j = i
      · subst same
        rw [own]
        exact upholds
      · rw [other j same]
        exact (Upholds.any _ _).mono fun _ _ _ => ⟨trivial, trivial⟩
    · by_cases same : j = i
      · subst same
        simp only [bounds, ↓reduceIte]
        exact Updates.any _
      · simp only [bounds, same, ↓reduceIte]
        exact others j same
  have reached : end_.Outlined outlines bounds := by
    apply Config.Outlined.reaches reaches outlined
    · intro j op w
      by_cases same : j = i
      · rw [same, own]
        exact answered op w
      · rw [other j same]
        trivial
    · intro j point s
      by_cases same : j = i
      · rw [same, own]
        exact refl point s
      · rw [other j same]
        trivial
    · intro j s
      by_cases same : j = i
      · simp only [bounds, same, ↓reduceIte]
      · simp only [bounds, same, ↓reduceIte]
        exact changesRefl s
    · intro j a b d first second
      by_cases same : j = i
      · simp only [bounds, same, ↓reduceIte]
      · simp only [bounds, same, ↓reduceIte] at first second ⊢
        exact changesTrans first second
    · intro mid next j before _ _ _ changed
      have holds := (before.upholds i).holds (before.suspended i)
      rw [own] at holds
      have changed : j ≠ i → changes mid.host next.host := by
        intro different
        simp only [bounds, different, ↓reduceIte] at changed
        exact changed
      refine ⟨fun k apart => ?_, fun k apart => ?_, fun k apart => ?_⟩
      · by_cases same : k = i
        · subst same
          rw [own]
          exact inv (changed (Ne.symm apart)) holds
        · rw [other k same]
          trivial
      · by_cases same : k = i
        · subst same
          rw [own]
          exact fun point _ => guard point (changed (Ne.symm apart))
        · rw [other k same]
          exact fun _ _ _ => trivial
      · by_cases same : k = i
        · subst same
          rw [own]
          exact fun point _ _ => rely point (changed (Ne.symm apart))
        · rw [other k same]
          exact fun _ _ _ _ => trivial
  exact own ▸ reached.upholds i

end Runs

end Coroutine
