import FlipperMcp.Coroutine.Precondition

/-! # Walks that may raise

A computation in `Except` that mirrors a lookup in `Option`. `Walks` says under which
condition it raises allowed exceptions only, and that it then finds what the lookup finds.
The rules follow the way such computations are written, so the condition of a long walk is
assembled from the conditions of its steps.
-/

namespace Python

open Coroutine (ResultAllowed)

variable {ε α β : Type} {allowed : ε → Prop}

theorem resultAllowed_bind {x : Except ε α} {f : α → Except ε β} :
    ResultAllowed allowed (x >>= f) ↔
      ResultAllowed allowed x ∧ ∀ a, x = .ok a → ResultAllowed allowed (f a) := by
  cases x with
  | ok a =>
      refine ⟨fun h => ⟨.ok a, fun b same => ?_⟩, fun h => h.2 a rfl⟩
      obtain rfl := Except.ok.inj same
      exact h
  | error e =>
      refine ⟨fun h => ⟨fun e' same => ?_, nofun⟩, fun h e' same => ?_⟩
      · obtain rfl := Except.error.inj same
        exact h _ rfl
      · obtain rfl := Except.error.inj same
        exact h.1 _ rfl

/-- Under a condition, and only then, the computation raises allowed exceptions only; and
then it returns what the lookup finds. -/
structure Walks (allowed : ε → Prop) (result : Except ε α) (sound : Prop) (lookup : Option α) :
    Prop where
  contained : ResultAllowed allowed result ↔ sound
  value : sound → ∀ a, result = .ok a ↔ lookup = some a

/-- What must have been found. -/
def required (e : ε) : Option α → Except ε α
  | some a => .ok a
  | none => .error e

/-- What must hold. -/
def require (condition : Prop) [Decidable condition] (e : ε) : Except ε Unit :=
  if condition then .ok () else .error e

namespace Walks

variable {x : Except ε α} {sound : Prop} {lookup : Option α}

theorem ok (a : α) : Walks allowed (.ok a : Except ε α) True (some a) where
  contained := ⟨fun _ => trivial, fun _ => .ok a⟩
  value := fun _ _ => ⟨fun same => congrArg some (Except.ok.inj same),
    fun same => congrArg Except.ok (Option.some.inj same)⟩

theorem error {e : ε} (h : allowed e) : Walks allowed (.error e : Except ε α) True none where
  contained := ⟨fun _ => trivial, fun _ => .error h⟩
  value := fun _ _ => ⟨nofun, nofun⟩

theorem of_required {e : ε} (h : allowed e) (found : Option α) :
    Walks allowed (required e found) True found := by
  cases found with
  | some a => exact ok a
  | none => exact error h

/-- An exception that is not allowed. -/
theorem escape {e : ε} (h : ¬ allowed e) (lookup : Option α) :
    Walks allowed (.error e : Except ε α) False lookup where
  contained := ⟨fun contained => h (contained e rfl), False.elim⟩
  value := False.elim

/-- What must be found, or an exception that is not allowed is raised. -/
theorem of_demanded {e : ε} (h : ¬ allowed e) (found : Option α) :
    Walks allowed (required e found) (found.isSome = true) found := by
  cases found with
  | some a => exact ⟨⟨fun _ => rfl, fun _ => .ok a⟩, fun _ => (@ok _ _ allowed a).value trivial⟩
  | none => exact ⟨⟨fun contained => absurd (contained e rfl) h, nofun⟩, nofun⟩

/-- What is not mirrored by a lookup. -/
theorem of_result (x : Except ε α) : Walks allowed x (ResultAllowed allowed x) x.toOption where
  contained := Iff.rfl
  value := by
    intro _ a
    cases x with
    | ok b => exact ⟨fun same => congrArg some (Except.ok.inj same),
        fun same => congrArg Except.ok (Option.some.inj same)⟩
    | error e => exact ⟨nofun, nofun⟩

theorem congr {sound' : Prop} (h : Walks allowed x sound lookup) (same : sound ↔ sound') :
    Walks allowed x sound' lookup where
  contained := h.contained.trans same
  value := fun holds => h.value (same.mpr holds)

/-- The lookup matters only where the walk is sound. -/
theorem relookup {lookup' : Option α} (h : Walks allowed x sound lookup)
    (same : sound → lookup = lookup') : Walks allowed x sound lookup' where
  contained := h.contained
  value := fun holds => same holds ▸ h.value holds

theorem bind {f : α → Except ε β} {sound' : α → Prop} {lookup' : α → Option β}
    (first : Walks allowed x sound lookup)
    (rest : ∀ a, lookup = some a → Walks allowed (f a) (sound' a) (lookup' a)) :
    Walks allowed (x >>= f) (sound ∧ ∀ a ∈ lookup, sound' a) (lookup.bind lookup') where
  contained := by
    rw [resultAllowed_bind, first.contained]
    refine and_congr_right fun holds => ?_
    refine forall_congr' fun a => ?_
    rw [first.value holds a]
    exact forall_congr' fun found => (rest a found).contained
  value := by
    intro holds b
    cases found : lookup with
    | none =>
        cases returned : x with
        | ok a => exact nomatch found.symm.trans ((first.value holds.1 a).mp returned)
        | error e => exact ⟨nofun, nofun⟩
    | some a =>
        rw [(first.value holds.1 a).mpr found]
        exact (rest a found).value (holds.2 a found) b

/-- After a step whose value is known. -/
theorem bind_value {a : α} {f : α → Except ε β} {sound' : Prop} {lookup' : Option β}
    (first : Walks allowed x sound (some a)) (rest : Walks allowed (f a) sound' lookup') :
    Walks allowed (x >>= f) (sound ∧ sound') lookup' := by
  have walked := @bind _ _ _ _ _ _ _ f (fun _ => sound') (fun _ => lookup') first
    fun b same => by
      obtain rfl := Option.some.inj same
      exact rest
  exact walked.congr (and_congr_right fun _ => ⟨fun holds => holds a rfl, fun holds _ _ => holds⟩)

/-- A search that raises an allowed exception when it finds nothing. -/
theorem found {x : Except ε (Option α)} {o : Option α} {e : ε}
    (searched : Walks allowed x sound (some o)) (missing : allowed e) :
    Walks allowed (x >>= required e) sound o := by
  have walked := searched.bind (f := required e) fun found _ => of_required missing found
  exact walked.congr (and_iff_left fun _ _ => trivial)

/-- A check that raises an allowed exception. -/
theorem check {condition : Prop} [Decidable condition] {e : ε} (raised : allowed e)
    (rest : condition → Walks allowed x sound lookup) :
    Walks allowed (require condition e >>= fun _ => x) (condition → sound)
      ((guard condition : Option Unit).bind fun _ => lookup) := by
  unfold require guard
  by_cases passed : condition
  · rw [if_pos passed, if_pos passed]
    exact (rest passed).congr ⟨fun holds _ => holds, fun holds => holds passed⟩
  · rw [if_neg passed, if_neg passed]
    exact (error raised).congr ⟨fun _ holds => absurd holds passed, fun _ => trivial⟩

end Walks

end Python
