import Mathlib.Algebra.Ring.Nat
import Mathlib.Data.List.Infix
import Mathlib.Logic.Function.Basic

/-! # A table of descriptors

Objects are numbered in the order they were opened. Each gets a descriptor that is free, and
closing a descriptor frees it for another object. The journal keeps, for each use of a
descriptor, the object it was meant for and the object it met. Whatever is called, an object
is closed once or is still open (`Sound`).
-/

namespace Kernel

/-- A use of a descriptor: the object it is meant for, and the one it meets. -/
structure Use where
  closes : Bool
  object : ℕ
  owner : Option ℕ
  deriving DecidableEq

/-- Whose each descriptor is, how many objects were opened, and the uses so far. -/
structure Table where
  owner : ℤ → Option ℕ
  opened : ℕ
  journal : List Use

namespace Table

/-- Nothing is open. -/
def empty : Table := ⟨fun _ => none, 0, []⟩

/-- Open the next object. -/
def allot (table : Table) (descriptor : ℤ) : Table :=
  { table with
    owner := Function.update table.owner descriptor (some table.opened)
    opened := table.opened + 1 }

/-- Close a descriptor, which fails when it is free. -/
def close (table : Table) (descriptor : ℤ) (object : ℕ) : Table :=
  { table with
    owner := Function.update table.owner descriptor none
    journal := table.journal ++ [⟨true, object, table.owner descriptor⟩] }

/-- Receive from a descriptor, which fails when it is free. -/
def receive (table : Table) (descriptor : ℤ) (object : ℕ) : Table :=
  { table with journal := table.journal ++ [⟨false, object, table.owner descriptor⟩] }

/-- Some descriptor is the object's. -/
def IsOpen (table : Table) (object : ℕ) : Prop := ∃ descriptor, table.owner descriptor = some object

/-- How often an object was closed. -/
def closings (table : Table) (object : ℕ) : ℕ :=
  table.journal.countP fun use => use.closes && use.owner == some object

/-- Each use met nothing, or the object it was meant for. -/
def Apart (table : Table) : Prop := ∀ use ∈ table.journal, use.owner = none ∨ use.owner = some use.object

/-- What holds of every table. -/
structure Sound (table : Table) : Prop where
  issued : ∀ descriptor object, table.owner descriptor = some object → 0 ≤ descriptor ∧ object < table.opened
  single : ∀ descriptor descriptor' object, table.owner descriptor = some object →
    table.owner descriptor' = some object → descriptor = descriptor'
  past : ∀ use ∈ table.journal, ∀ object, use.owner = some object → object < table.opened
  counted : ∀ object < table.opened, (table.IsOpen object ∧ table.closings object = 0) ∨
    (¬ table.IsOpen object ∧ table.closings object = 1)

theorem sound_empty : empty.Sound where
  issued _ _ held := nomatch held
  single _ _ _ held := nomatch held
  past _ member := nomatch member
  counted _ below := absurd below (Nat.not_lt_zero _)

variable {table : Table} {descriptor : ℤ} {object : ℕ}

@[simp] theorem allot_opened : (table.allot descriptor).opened = table.opened + 1 := rfl

@[simp] theorem close_opened : (table.close descriptor object).opened = table.opened := rfl

@[simp] theorem receive_opened : (table.receive descriptor object).opened = table.opened := rfl

@[simp] theorem receive_owner : (table.receive descriptor object).owner = table.owner := rfl

theorem allot_owner : (table.allot descriptor).owner descriptor = some table.opened :=
  Function.update_self ..

theorem allot_owner_of_ne {other : ℤ} (ne : other ≠ descriptor) :
    (table.allot descriptor).owner other = table.owner other :=
  Function.update_of_ne ne ..

theorem close_owner : (table.close descriptor object).owner descriptor = none :=
  Function.update_self ..

theorem close_owner_of_ne {other : ℤ} (ne : other ≠ descriptor) :
    (table.close descriptor object).owner other = table.owner other :=
  Function.update_of_ne ne ..

/-- What is open after closing was open before. -/
theorem owner_of_close {other : ℤ} {client : ℕ}
    (held : (table.close descriptor object).owner other = some client) :
    other ≠ descriptor ∧ table.owner other = some client := by
  by_cases same : other = descriptor
  · rw [same, close_owner] at held
    exact nomatch held
  · rw [close_owner_of_ne same] at held
    exact ⟨same, held⟩

/-- Closing a descriptor gives none of the others away. -/
theorem close_meets {other : ℤ} {client : ℕ}
    (meets : table.owner other = none ∨ table.owner other = some client) :
    (table.close descriptor object).owner other = none ∨
      (table.close descriptor object).owner other = some client := by
  by_cases same : other = descriptor
  · exact .inl (same ▸ close_owner)
  · rw [close_owner_of_ne same]
    exact meets

/-- Closing a free descriptor does nothing. -/
theorem close_free (free : table.owner descriptor = none) :
    (table.close descriptor object).owner = table.owner :=
  Function.update_eq_self_iff.mpr free.symm

theorem Apart.close (apart : table.Apart)
    (meets : table.owner descriptor = none ∨ table.owner descriptor = some object) :
    (table.close descriptor object).Apart := fun use member =>
  (List.mem_append.mp member).elim (apart use) fun last => List.mem_singleton.mp last ▸ meets

theorem Apart.receive (apart : table.Apart)
    (meets : table.owner descriptor = none ∨ table.owner descriptor = some object) :
    (table.receive descriptor object).Apart := fun use member =>
  (List.mem_append.mp member).elim (apart use) fun last => List.mem_singleton.mp last ▸ meets

namespace Sound

/-- An object that was not opened yet has no descriptor, and no use met it. -/
theorem closings_new (sound : table.Sound) : table.closings table.opened = 0 := by
  unfold closings
  rw [List.countP_eq_zero]
  intro use member
  rw [Bool.and_eq_true, beq_iff_eq, not_and]
  intro _ met
  exact Nat.lt_irrefl _ (sound.past use member _ met)

theorem allot (sound : table.Sound) (valid : 0 ≤ descriptor) (free : table.owner descriptor = none) :
    (table.allot descriptor).Sound where
  issued other client held := by
    by_cases same : other = descriptor
    · rw [same, allot_owner] at held
      obtain rfl := Option.some.inj held
      exact ⟨same ▸ valid, Nat.lt_succ_self _⟩
    · rw [allot_owner_of_ne same] at held
      obtain ⟨bound, below⟩ := sound.issued other client held
      exact ⟨bound, Nat.lt_succ_of_lt below⟩
  single first second client held held' := by
    have new : ∀ other, other ≠ descriptor → table.owner other ≠ some table.opened :=
      fun other _ held => Nat.lt_irrefl _ (sound.issued other _ held).2
    by_cases same : first = descriptor
    · by_cases same' : second = descriptor
      · rw [same, same']
      · rw [same, allot_owner] at held
        rw [allot_owner_of_ne same', ← held] at held'
        exact absurd held' (new second same')
    · rw [allot_owner_of_ne same] at held
      by_cases same' : second = descriptor
      · rw [same', allot_owner] at held'
        rw [← held'] at held
        exact absurd held (new first same)
      · rw [allot_owner_of_ne same'] at held'
        exact sound.single first second client held held'
  past use member client met := Nat.lt_succ_of_lt (sound.past use member client met)
  counted client below := by
    rcases Nat.lt_or_eq_of_le (Nat.le_of_lt_succ below) with older | rfl
    · have kept : (table.allot descriptor).IsOpen client ↔ table.IsOpen client := by
        constructor
        · rintro ⟨other, held⟩
          by_cases same : other = descriptor
          · rw [same, allot_owner] at held
            exact absurd (Option.some.inj held) (Nat.ne_of_gt older)
          · exact ⟨other, allot_owner_of_ne same ▸ held⟩
        · rintro ⟨other, held⟩
          have ne : other ≠ descriptor := by
            intro same
            rw [same, free] at held
            exact nomatch held
          exact ⟨other, (allot_owner_of_ne ne).trans held⟩
      rw [kept]
      exact sound.counted client older
    · exact .inl ⟨⟨descriptor, allot_owner⟩, sound.closings_new⟩

theorem close (sound : table.Sound) : (table.close descriptor object).Sound where
  issued other client held := sound.issued other client (owner_of_close held).2
  single first second client held held' :=
    sound.single first second client (owner_of_close held).2 (owner_of_close held').2
  past use member client met := by
    rcases List.mem_append.mp member with earlier | last
    · exact sound.past use earlier client met
    · obtain rfl := List.mem_singleton.mp last
      exact (sound.issued descriptor client met).2
  counted client below := by
    have counts : (table.close descriptor object).closings client =
        table.closings client + if table.owner descriptor = some client then 1 else 0 := by
      unfold closings Table.close
      rw [List.countP_append, List.countP_singleton]
      simp only [Bool.true_and, beq_iff_eq]
    by_cases met : table.owner descriptor = some client
    · rw [counts, if_pos met]
      have gone : ¬ (table.close descriptor object).IsOpen client := by
        rintro ⟨other, held⟩
        obtain ⟨ne, held⟩ := owner_of_close held
        exact ne (sound.single other descriptor client held met)
      rcases sound.counted client below with ⟨-, none_⟩ | ⟨closed, -⟩
      · exact .inr ⟨gone, by rw [none_]⟩
      · exact absurd ⟨descriptor, met⟩ closed
    · have kept : (table.close descriptor object).IsOpen client ↔ table.IsOpen client := by
        constructor
        · rintro ⟨other, held⟩
          exact ⟨other, (owner_of_close held).2⟩
        · rintro ⟨other, held⟩
          have ne : other ≠ descriptor := fun same => met (same ▸ held)
          exact ⟨other, (close_owner_of_ne ne).trans held⟩
      rw [counts, if_neg met, kept]
      exact sound.counted client below

theorem receive (sound : table.Sound) : (table.receive descriptor object).Sound where
  issued := sound.issued
  single := sound.single
  past use member client met := by
    rcases List.mem_append.mp member with earlier | last
    · exact sound.past use earlier client met
    · obtain rfl := List.mem_singleton.mp last
      exact (sound.issued descriptor client met).2
  counted client below := by
    have counts : (table.receive descriptor object).closings client = table.closings client := by
      unfold closings Table.receive
      rw [List.countP_append, List.countP_singleton]
      rfl
    rw [counts]
    exact sound.counted client below

end Sound

end Table

end Kernel
