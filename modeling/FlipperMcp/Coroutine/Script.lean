import FlipperMcp.Coroutine.Recording

/-! # Coroutines played on a script

A script is a list of operations with their answers. A coroutine plays on a script when it
awaits exactly these operations in this order and ends, whatever environment gave the
answers (`Coroutine.plays_run`). What a program can do is then read off its text, one
inversion rule for each construct.
-/

namespace Coroutine

variable {S : Type} {I : Signature} {ε σ α β : Type}

/-- The operations a coroutine awaits, in order, with their answers. -/
abbrev Script (I : Signature) (ε : Type) := List (Observation I ε)

/-- A coroutine started in one state plays on a script, and ends in another. -/
inductive Plays : Coro S I ε α → S → Script I ε → Except ε α → S → Prop
  | ret {value : α} {s : S} : Plays (.ret value) s [] (.ok value) s
  | raise {error : ε} {s : S} : Plays (.raise error) s [] (.error error) s
  | act {update : S → S} {next : S → Coro S I ε α} {s s' : S} {script : Script I ε}
      {result : Except ε α} (rest : Plays (next s) (update s) script result s') :
      Plays (.act update next) s script result s'
  | await {op : I.Op} {next : Except ε (I.Res op) → Coro S I ε α} {s s' : S} {script : Script I ε}
      {result : Except ε α} (answer : Except ε (I.Res op))
      (rest : Plays (next answer) s script result s') :
      Plays (.await op next) s (⟨op, answer⟩ :: script) result s'
  | acquire {next : Coro S I ε α} {s s' : S} {script : Script I ε} {result : Except ε α}
      (rest : Plays next s script result s') : Plays (.acquire next) s script result s'
  | release {next : Coro S I ε α} {s s' : S} {script : Script I ε} {result : Except ε α}
      (rest : Plays next s script result s') : Plays (.release next) s script result s'

/-- Every run plays on the script of its trace. -/
theorem plays_run (E : Env I ε σ) (c : Coro S I ε α) (s : S) (w : σ) :
    Plays c s ((run E c s w).trace.map Event.observed) (run E c s w).result (run E c s w).host := by
  induction c generalizing s w with
  | ret _ => exact .ret
  | raise _ => exact .raise
  | act update next ih => exact .act (ih s (update s) w)
  | await op next ih => exact .await (E op w).1 (ih _ s _)
  | acquire next ih => exact .acquire (ih s w)
  | release next ih => exact .release (ih s w)

section Inversion

variable {s s' : S} {script : Script I ε}

theorem plays_ret {value : α} {result : Except ε α}
    (played : Plays (.ret value : Coro S I ε α) s script result s') :
    script = [] ∧ result = .ok value ∧ s' = s := by
  cases played
  exact ⟨rfl, rfl, rfl⟩

theorem plays_raise {error : ε} {result : Except ε α}
    (played : Plays (.raise error : Coro S I ε α) s script result s') :
    script = [] ∧ result = .error error ∧ s' = s := by
  cases played
  exact ⟨rfl, rfl, rfl⟩

theorem plays_perform {op : I.Op} {result : Except ε (I.Res op)}
    (played : Plays (Coro.perform op : Coro S I ε (I.Res op)) s script result s') :
    script = [⟨op, result⟩] ∧ s' = s := by
  cases played with
  | await answer rest =>
      cases answer <;> cases rest <;> exact ⟨rfl, rfl⟩

/-- A sequence plays its first part, and its second part only behind a value. -/
theorem plays_bind {c : Coro S I ε β} {k : β → Coro S I ε α} {result : Except ε α}
    (played : Plays (c >>= k) s script result s') :
    (∃ value between first rest, script = first ++ rest ∧ Plays c s first (.ok value) between ∧
        Plays (k value) between rest result s') ∨
      ∃ error, result = .error error ∧ Plays c s script (.error error) s' := by
  induction c generalizing s script with
  | ret value => exact .inl ⟨value, s, [], script, rfl, .ret, played⟩
  | raise error =>
      obtain ⟨rfl, rfl, rfl⟩ := plays_raise played
      exact .inr ⟨error, rfl, .raise⟩
  | act update next ih =>
      cases played with
      | act rest =>
          rcases ih s rest with ⟨value, between, first, later, split, before, behind⟩ | ⟨error, same, ended⟩
          · exact .inl ⟨value, between, first, later, split, .act before, behind⟩
          · exact .inr ⟨error, same, .act ended⟩
  | await op next ih =>
      cases played with
      | await answer rest =>
          rcases ih answer rest with ⟨value, between, first, later, rfl, before, behind⟩ | ⟨error, same, ended⟩
          · exact .inl ⟨value, between, _ :: first, later, rfl, .await answer before, behind⟩
          · exact .inr ⟨error, same, .await answer ended⟩
  | acquire next ih =>
      cases played with
      | acquire rest =>
          rcases ih rest with ⟨value, between, first, later, split, before, behind⟩ | ⟨error, same, ended⟩
          · exact .inl ⟨value, between, first, later, split, .acquire before, behind⟩
          · exact .inr ⟨error, same, .acquire ended⟩
  | release next ih =>
      cases played with
      | release rest =>
          rcases ih rest with ⟨value, between, first, later, split, before, behind⟩ | ⟨error, same, ended⟩
          · exact .inl ⟨value, between, first, later, split, .release before, behind⟩
          · exact .inr ⟨error, same, .release ended⟩

theorem plays_attempt {c : Coro S I ε α} {result : Except ε (Except ε α)}
    (played : Plays c.attempt s script result s') :
    ∃ inner, result = .ok inner ∧ Plays c s script inner s' := by
  induction c generalizing s script with
  | ret value =>
      obtain ⟨rfl, rfl, rfl⟩ := plays_ret played
      exact ⟨_, rfl, .ret⟩
  | raise error =>
      obtain ⟨rfl, rfl, rfl⟩ := plays_ret played
      exact ⟨_, rfl, .raise⟩
  | act update next ih =>
      cases played with
      | act rest =>
          obtain ⟨inner, same, ended⟩ := ih s rest
          exact ⟨inner, same, .act ended⟩
  | await op next ih =>
      cases played with
      | await answer rest =>
          obtain ⟨inner, same, ended⟩ := ih answer rest
          exact ⟨inner, same, .await answer ended⟩
  | acquire next ih =>
      cases played with
      | acquire rest =>
          obtain ⟨inner, same, ended⟩ := ih rest
          exact ⟨inner, same, .acquire ended⟩
  | release next ih =>
      cases played with
      | release rest =>
          obtain ⟨inner, same, ended⟩ := ih rest
          exact ⟨inner, same, .release ended⟩

/-- A handler plays behind a caught exception; any other result is that of the body. -/
theorem plays_tryExcept {catches : ε → Bool} {body : Coro S I ε α} {handler : ε → Coro S I ε α}
    {result : Except ε α} (played : Plays (Coro.tryExcept catches body handler) s script result s') :
    (Plays body s script result s' ∧ ∀ error, result = .error error → catches error = false) ∨
      ∃ error between first rest, catches error = true ∧ script = first ++ rest ∧
        Plays body s first (.error error) between ∧ Plays (handler error) between rest result s' := by
  rcases plays_bind played with ⟨reified, between, first, rest, split, tried, behind⟩ | ⟨_, _, failed⟩
  · obtain ⟨inner, same, ended⟩ := plays_attempt tried
    obtain rfl := Except.ok.inj same
    cases reified with
    | ok value =>
        obtain ⟨rfl, rfl, rfl⟩ := plays_ret behind
        rw [List.append_nil] at split
        exact .inl ⟨split ▸ ended, nofun⟩
    | error error =>
        by_cases caught : catches error = true
        · simp only [caught, ↓reduceIte] at behind
          exact .inr ⟨error, between, first, rest, caught, split, ended, behind⟩
        · simp only [caught, Bool.false_eq_true, ↓reduceIte] at behind
          obtain ⟨rfl, rfl, rfl⟩ := plays_raise behind
          rw [List.append_nil] at split
          refine .inl ⟨split ▸ ended, fun other raised => ?_⟩
          rw [← Except.error.inj raised]
          exact Bool.not_eq_true _ ▸ caught
  · obtain ⟨inner, same, -⟩ := plays_attempt failed
    exact nomatch same

end Inversion

end Coroutine
