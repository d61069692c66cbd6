import Mathlib.Data.List.Basic
import Mathlib.Tactic.Common

/-! # Greedy parsing

A recogniser takes the item at the front of a stream, or nothing while the front is
incomplete. What it takes does not depend on what follows. Applied again and again it cuts a
stream into items and an incomplete rest (`Recogniser.parse`), and a stream that arrives in
pieces is cut as if it had arrived at once (`Recogniser.feed_flatten`).
-/

/-- How the item at the front of a stream is recognised. -/
structure Recogniser (α ι : Type) where
  next : List α → Option (ι × List α)
  /-- An item takes an element at least. -/
  shrinks : ∀ {stream item rest}, next stream = some (item, rest) → rest.length < stream.length
  /-- What follows does not change it. -/
  stable : ∀ {stream item rest}, next stream = some (item, rest) →
    ∀ later, next (stream ++ later) = some (item, rest ++ later)

namespace Recogniser

variable {α ι : Type} (r : Recogniser α ι)

/-- Take as many items as the fuel allows. -/
def take : ℕ → List α → List ι × List α
  | 0, stream => ([], stream)
  | fuel + 1, stream =>
      match r.next stream with
      | none => ([], stream)
      | some (item, rest) => (item :: (take fuel rest).1, (take fuel rest).2)

/-- Cut a stream into items and an incomplete rest; it has at most as many items as elements. -/
def parse (stream : List α) : List ι × List α := r.take stream.length stream

variable {r} {stream rest : List α} {item : ι}

theorem next_nil : r.next [] = none := by
  cases found : r.next [] with
  | none => rfl
  | some cut => exact absurd (r.shrinks found) (Nat.not_lt_zero _)

theorem take_of_none (incomplete : r.next stream = none) (fuel : ℕ) :
    r.take fuel stream = ([], stream) := by
  cases fuel with
  | zero => rfl
  | succ fuel => rw [take, incomplete]

/-- More fuel than elements makes no difference. -/
theorem take_of_le {fuel : ℕ} (enough : stream.length ≤ fuel) : r.take fuel stream = r.parse stream := by
  suffices general : ∀ first second stream, stream.length ≤ first → stream.length ≤ second →
      r.take first stream = r.take second stream from general _ _ stream enough (Nat.le_refl _)
  intro first
  induction first with
  | zero =>
      intro second stream none_ _
      obtain rfl : stream = [] := List.length_eq_zero_iff.mp (Nat.le_zero.mp none_)
      rw [take_of_none next_nil, take_of_none next_nil]
  | succ first ih =>
      intro second stream below below'
      cases found : r.next stream with
      | none => rw [take_of_none found, take_of_none found]
      | some cut =>
          obtain ⟨item, rest⟩ := cut
          have shorter := r.shrinks found
          cases second with
          | zero => omega
          | succ second => simp only [take, found, ih second rest (by omega) (by omega)]

theorem parse_of_none (incomplete : r.next stream = none) : r.parse stream = ([], stream) :=
  take_of_none incomplete _

theorem parse_nil : r.parse [] = ([], []) := parse_of_none next_nil

theorem parse_of_some (found : r.next stream = some (item, rest)) :
    r.parse stream = (item :: (r.parse rest).1, (r.parse rest).2) := by
  have shorter := r.shrinks found
  cases length : stream.length with
  | zero => omega
  | succ fuel =>
      have enough : rest.length ≤ fuel := by omega
      rw [parse, length, take, found]
      simp only [take_of_le enough]

/-- Nothing more can be taken of the rest. -/
theorem next_parse (stream : List α) : r.next (r.parse stream).2 = none := by
  induction length : stream.length using Nat.strongRecOn generalizing stream with
  | ind n ih =>
      cases found : r.next stream with
      | none =>
          rw [parse_of_none found]
          exact found
      | some cut =>
          obtain ⟨item, rest⟩ := cut
          rw [parse_of_some found]
          exact ih rest.length (length ▸ r.shrinks found) rest rfl

/-- What follows is parsed behind the rest. -/
theorem parse_append (stream later : List α) :
    r.parse (stream ++ later) = ((r.parse stream).1 ++ (r.parse ((r.parse stream).2 ++ later)).1,
      (r.parse ((r.parse stream).2 ++ later)).2) := by
  induction length : stream.length using Nat.strongRecOn generalizing stream with
  | ind n ih =>
      cases found : r.next stream with
      | none =>
          rw [parse_of_none found]
          rfl
      | some cut =>
          obtain ⟨item, rest⟩ := cut
          rw [parse_of_some found, parse_of_some (r.stable found later),
            ih rest.length (length ▸ r.shrinks found) rest rfl]
          rfl

/-- Nothing is lost: the items and the rest are the stream. -/
theorem parse_bytes (bytes : ι → List α)
    (whole : ∀ {stream item rest}, r.next stream = some (item, rest) → bytes item ++ rest = stream)
    (stream : List α) : (r.parse stream).1.flatMap bytes ++ (r.parse stream).2 = stream := by
  induction length : stream.length using Nat.strongRecOn generalizing stream with
  | ind n ih =>
      cases found : r.next stream with
      | none =>
          rw [parse_of_none found]
          rfl
      | some cut =>
          obtain ⟨item, rest⟩ := cut
          have later := ih rest.length (length ▸ r.shrinks found) rest rfl
          rw [parse_of_some found, List.flatMap_cons, List.append_assoc, later]
          exact whole found

/-- Complete items, one after another. -/
theorem parse_flatMap {items : List ι} (write : ι → List α)
    (written : ∀ item ∈ items, r.next (write item) = some (item, [])) :
    r.parse (items.flatMap write) = (items, []) := by
  induction items with
  | nil => exact parse_nil
  | cons item items ih =>
      have first := r.stable (written item (List.mem_cons_self ..)) (items.flatMap write)
      have later := ih fun item member => written item (List.mem_cons_of_mem _ member)
      rw [List.flatMap_cons, parse_of_some first, List.nil_append, later]

variable (r)

/-- Parse what is left over together with the next piece. -/
def feed (state : List ι × List α) (piece : List α) : List ι × List α :=
  (state.1 ++ (r.parse (state.2 ++ piece)).1, (r.parse (state.2 ++ piece)).2)

/-- **A stream in pieces** is parsed as a whole. -/
theorem feed_flatten (pieces : List (List α)) {items : List ι} {left : List α}
    (incomplete : r.next left = none) :
    pieces.foldl r.feed (items, left) =
      (items ++ (r.parse (left ++ pieces.flatten)).1, (r.parse (left ++ pieces.flatten)).2) := by
  induction pieces generalizing items left with
  | nil =>
      rw [List.flatten_nil, List.append_nil, parse_of_none incomplete, List.append_nil]
      rfl
  | cons piece pieces ih =>
      rw [List.foldl_cons, feed, ih (next_parse _), List.flatten_cons, ← List.append_assoc,
        parse_append (left ++ piece), List.append_assoc]

end Recogniser
