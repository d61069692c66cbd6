import FlipperMcp.Coroutine.Recording
import FlipperMcp.Rpc.Footprint

/-! # What a run writes

The data a run sends, one `transport.send` after the other. What only reads writes nothing
(`wp_listens`).
-/

namespace FlipperMcp

open Coroutine

/-- What an operation writes to the transport. -/
def LinkOp.written : LinkOp → Option Bytes
  | send _ data => some data
  | _ => none

theorem LinkOp.written_of_isRead {op : LinkOp} (read : op.IsRead) : op.written = none := by
  cases op with
  | send _ _ => exact read.elim
  | _ => rfl

/-- An awaited operation with its answer. -/
abbrev LinkObservation := Observation linkSignature Exn

/-- The data written, one `transport.send` after the other. -/
def writes (observed : List LinkObservation) : List Bytes :=
  observed.filterMap fun observation => LinkOp.written observation.1

theorem writes_append (first second : List LinkObservation) :
    writes (first ++ second) = writes first ++ writes second :=
  List.filterMap_append ..

/-- An environment with the record of what it answered. -/
abbrev Recorded (σ : Type) := σ × List LinkObservation

section Rules

variable {σ : Type} {E : LinkEnv σ} {s : Host} {w : Recorded σ}

/-- What only reads writes nothing, and leaves the host as it was but for what reads change. -/
theorem wp_listens {α : Type} {c : Link α} (listens : ProtobufRPC.Listens c) :
    wp (recording E) (fun _ => True) c
      (fun _ s' w' => SameButBuffer s s' ∧ writes w'.2 = writes w.2) s w := by
  obtain ⟨world, earlier⟩ := w
  have reads := listens.trace E s world
  refine ⟨fun _ _ => trivial, listens.host SameButBuffer.refl SameButBuffer.trans _ _ _, ?_⟩
  rw [run_recording]
  simp only [writes_append]
  have silent : writes ((run E c s world).trace.map Event.observed) = [] := by
    apply List.filterMap_eq_nil_iff.mpr
    intro observation member
    obtain ⟨event, during, rfl⟩ := List.mem_map.mp member
    exact LinkOp.written_of_isRead (reads event during)
  rw [silent, List.append_nil]

/-- A run that returns has written `data`. -/
def Writes {α : Type} (E : LinkEnv σ) (c : Link α) (data : List Bytes) : Prop :=
  ∀ s w, wp (recording E) (fun _ => True) c
    (fun result _ w' => ∀ value, result = .ok value → writes w'.2 = writes w.2 ++ data) s w

namespace Writes

variable {α β : Type} {c : Link α} {k : α → Link β} {first rest data : List Bytes}

theorem pure (value : α) : Writes E (Pure.pure value : Link α) [] :=
  fun _ _ => wp_ret.mpr fun _ _ => (List.append_nil _).symm

theorem modify (update : Host → Host) : Writes E (Coro.modify update) [] :=
  fun _ _ => wp_modify.mpr fun _ _ => (List.append_nil _).symm

theorem send (origin : Origin) (data : Bytes) : Writes E (Link.send origin data) [data] :=
  fun _ _ => Link.wp_send.mpr ⟨trivial, fun _ _ => writes_append ..⟩

theorem listens (reads : ProtobufRPC.Listens c) : Writes E c [] := by
  intro s w
  apply (wp_listens reads).mono
  intro _ _ _ reached _ _
  rw [reached.2, List.append_nil]

theorem bind (before : Writes E c first) (after : ∀ value, Writes E (k value) rest) :
    Writes E (c >>= k) (first ++ rest) := by
  intro s w
  apply (before s w).bind
  · intro a s₁ w₁ reached
    apply (after a s₁ w₁).mono
    intro result _ _ ended value returned
    rw [ended value returned, reached a rfl, List.append_assoc]
  · exact fun _ _ _ _ _ returned => nomatch returned

theorem withLock (h : Writes E c data) : Writes E c.withLock data :=
  fun s w => wp_withLock.mpr (h s w)

/-- A run against the environment itself. -/
theorem run (h : Writes E c data) (s : Host) (w : σ) {value : α}
    (returned : (Coroutine.run E c s w).result = .ok value) :
    writes ((Coroutine.run E c s w).trace.map Event.observed) = data :=
  (h s (w, [])).recorded.2 value returned

end Writes

end Rules

end FlipperMcp
