import FlipperMcp.Tools.CliTyped

/-! # Colours

`_strip_ansi` takes exactly the colour sequences out of a text (`coloured_iff`). Another
escape sequence, or one that breaks off, stays.
-/

namespace FlipperMcp

namespace CliTyped

/-- A colour sequence without its escape. -/
def IsSgr (tail : List Char) : Prop :=
  ∃ codes : List Char, (∀ c ∈ codes, isSgrCode c = true) ∧ tail = '[' :: (codes ++ ['m'])

/-- The output is a text with colour sequences at any places. -/
inductive Coloured : List Char → List Char → Prop
  | nil : Coloured [] []
  | plain {c : Char} {text output : List Char}
      (single : c = escape → ∀ tail rest, IsSgr tail → output ≠ tail ++ rest)
      (coloured : Coloured text output) : Coloured (c :: text) (c :: output)
  | colour {tail text output : List Char} (sgr : IsSgr tail) (coloured : Coloured text output) :
      Coloured text (escape :: (tail ++ output))

/-- Another character begins no colour sequence. -/
theorem Coloured.letter {c : Char} {text output : List Char} (other : c ≠ escape)
    (coloured : Coloured text output) : Coloured (c :: text) (c :: output) :=
  .plain (fun same => absurd same other) coloured

theorem sgrTail?_append {tail : List Char} (sgr : IsSgr tail) (rest : List Char) :
    sgrTail? (tail ++ rest) = some tail.length := by
  obtain ⟨codes, plain, rfl⟩ := sgr
  have taken : (codes ++ 'm' :: rest).takeWhile isSgrCode = codes := by
    rw [List.takeWhile_append_of_pos plain, List.takeWhile_cons_of_neg (by decide), List.append_nil]
  rw [List.cons_append, List.append_assoc, List.singleton_append]
  simp only [sgrTail?, taken, List.drop_left, List.head?_cons, ↓reduceIte, List.length_cons,
    List.length_append, List.length_nil]

theorem isSgr_of_sgrTail? {text : List Char} {length : ℕ} (found : sgrTail? text = some length) :
    ∃ tail rest, IsSgr tail ∧ text = tail ++ rest ∧ length = tail.length := by
  unfold sgrTail? at found
  split at found
  · rename_i rest
    dsimp only at found
    split_ifs at found with ends
    obtain ⟨later, behind⟩ := List.head?_eq_some_iff.mp ends
    have whole : rest = rest.takeWhile isSgrCode ++ 'm' :: later := by
      conv_lhs => rw [← List.take_append_drop (rest.takeWhile isSgrCode).length rest]
      rw [behind, ← List.prefix_iff_eq_take.mp (List.takeWhile_prefix isSgrCode)]
    refine ⟨'[' :: (rest.takeWhile isSgrCode ++ ['m']), later, ⟨_, ?_, rfl⟩, ?_, ?_⟩
    · exact fun c member => List.all_eq_true.mp List.all_takeWhile c member
    · rw [List.cons_append, List.append_assoc, List.singleton_append, ← whole]
    · rw [List.length_cons, List.length_append, List.length_singleton]
      exact (Option.some.inj found).symm
  · exact nomatch found

theorem stripFrom_skip (tail rest : List Char) : stripFrom tail.length (tail ++ rest) = stripFrom 0 rest := by
  induction tail with
  | nil => rfl
  | cons c tail ih => exact ih

theorem stripFrom_colour {tail : List Char} (sgr : IsSgr tail) (rest : List Char) :
    stripFrom 0 (escape :: (tail ++ rest)) = stripFrom 0 rest := by
  rw [stripFrom, if_pos rfl, sgrTail?_append sgr]
  exact stripFrom_skip tail rest

/-- A character that begins no colour sequence stays. -/
theorem stripFrom_plain {c : Char} {rest : List Char}
    (single : c = escape → ∀ tail rest', IsSgr tail → rest ≠ tail ++ rest') :
    stripFrom 0 (c :: rest) = c :: stripFrom 0 rest := by
  have none_ : (if c = escape then sgrTail? rest else none) = none := by
    by_cases begins : c = escape
    · rw [if_pos begins, Option.eq_none_iff_forall_ne_some]
      intro length found
      obtain ⟨tail, rest', sgr, same, -⟩ := isSgr_of_sgrTail? found
      exact single begins tail rest' sgr same
    · exact if_neg begins
  rw [stripFrom, none_]

/-- **What `_strip_ansi` takes out.** -/
theorem coloured_iff {text output : List Char} : Coloured text output ↔ stripFrom 0 output = text := by
  constructor
  · intro coloured
    induction coloured with
    | nil => rfl
    | plain single _ ih => rw [stripFrom_plain single, ih]
    | colour sgr _ ih => rw [stripFrom_colour sgr, ih]
  · rintro rfl
    induction length : output.length using Nat.strongRecOn generalizing output with
    | ind n ih =>
        cases output with
        | nil => exact .nil
        | cons c output =>
            rw [List.length_cons] at length
            by_cases colour : c = escape ∧ ∃ tail rest, IsSgr tail ∧ output = tail ++ rest
            · obtain ⟨rfl, tail, rest, sgr, rfl⟩ := colour
              rw [List.length_append] at length
              rw [stripFrom_colour sgr]
              exact .colour sgr (ih rest.length (by omega) rfl)
            · have single : c = escape → ∀ tail rest, IsSgr tail → output ≠ tail ++ rest :=
                fun begins tail rest sgr same => colour ⟨begins, tail, rest, sgr, same⟩
              rw [stripFrom_plain single]
              exact .plain single (ih output.length (by omega) rfl)

end CliTyped

end FlipperMcp
