import FlipperMcp.Rpc.Handlers

/-! # Streamed answers

The device answers some requests with several frames, each announcing whether another
follows. A method that reads them hears a sequence of events: a frame, or nothing where a
frame did not arrive in time (`Answered`). The loops over such a stream differ only in what they make
of its frames and of its end (`StreamLoop`), and end as the sequence of events says
(`StreamLoop.result`).
-/

namespace FlipperMcp

open Coroutine

namespace ProtobufRPC

/-- What the receiving calls of one method return, one after another. -/
abbrev Events := ℕ → Option Main

/-- An OK frame. -/
def Accepted (event : Option Main) : Prop :=
  ∃ frame, event = some frame ∧ frame.commandStatus = CommandStatus.ok

/-- An OK frame that announces another. -/
def Continues (event : Option Main) : Prop :=
  ∃ frame, event = some frame ∧ frame.commandStatus = CommandStatus.ok ∧ frame.hasNext = true

/-- An OK frame that announces no other. -/
def Finishes (event : Option Main) : Prop :=
  ∃ frame, event = some frame ∧ frame.commandStatus = CommandStatus.ok ∧ frame.hasNext = false

theorem Continues.accepted {event : Option Main} (h : Continues event) : Accepted event := by
  obtain ⟨frame, same, ok, -⟩ := h
  exact ⟨frame, same, ok⟩

theorem Finishes.not_continues {event : Option Main} (h : Finishes event) : ¬ Continues event := by
  rintro ⟨_, same, -, announced⟩
  obtain ⟨frame, rfl, -, final⟩ := h
  obtain rfl := Option.some.inj same
  exact Bool.false_ne_true (final.symm.trans announced)

namespace Events

/-- The events behind the first. -/
def tail (events : Events) : Events := fun i => events (i + 1)

/-- The frames among the first `n` events. -/
def frames (events : Events) (n : ℕ) : List Main := (List.range n).filterMap events

/-- The first `n` events announce another each. -/
def ContinuesFor (events : Events) (n : ℕ) : Prop := ∀ i < n, Continues (events i)

/-- The stream is whole at event `k`. -/
def WholeAt (events : Events) (k : ℕ) : Prop := events.ContinuesFor k ∧ Finishes (events k)

variable {events : Events} {n : ℕ}

theorem frames_succ {first : Main} (h : events 0 = some first) (n : ℕ) :
    events.frames (n + 1) = first :: events.tail.frames n := by
  unfold frames
  rw [List.range_succ_eq_map, List.filterMap_cons_some h, List.filterMap_map]
  rfl

theorem frames_succ_last {last : Main} (h : events n = some last) :
    events.frames (n + 1) = events.frames n ++ [last] := by
  unfold frames
  rw [List.range_succ, List.filterMap_append, List.filterMap_cons_some h, List.filterMap_nil]

theorem continuesFor_zero (events : Events) : events.ContinuesFor 0 :=
  fun _ below => absurd below (Nat.not_lt_zero _)

theorem continuesFor_succ :
    events.ContinuesFor (n + 1) ↔ Continues (events 0) ∧ events.tail.ContinuesFor n := by
  constructor
  · intro h
    exact ⟨h 0 (Nat.succ_pos n), fun i below => h (i + 1) (Nat.succ_lt_succ below)⟩
  · rintro ⟨first, later⟩ i below
    cases i with
    | zero => exact first
    | succ i => exact later i (Nat.lt_of_succ_lt_succ below)

/-- The first `n` events all announce another, or one of them is the first that does not. -/
theorem ended_or_continuesFor (events : Events) (n : ℕ) :
    events.ContinuesFor n ∨ ∃ k < n, events.ContinuesFor k ∧ ¬ Continues (events k) := by
  induction n with
  | zero => exact .inl (continuesFor_zero events)
  | succ n ih =>
      rcases ih with all | ⟨k, below, ended⟩
      · by_cases more : Continues (events n)
        · refine .inl fun i below => ?_
          rcases Nat.lt_succ_iff_lt_or_eq.mp below with earlier | rfl
          · exact all i earlier
          · exact more
        · exact .inr ⟨n, Nat.lt_succ_self n, all, more⟩
      · exact .inr ⟨k, Nat.lt_succ_of_lt below, ended⟩

/-- A stream has one end. -/
theorem ends_unique {k l : ℕ} (first : events.ContinuesFor k) (ended : ¬ Continues (events k))
    (second : events.ContinuesFor l) (ended' : ¬ Continues (events l)) : k = l := by
  rcases Nat.lt_trichotomy k l with below | same | below
  · exact absurd (second k below) ended
  · exact same
  · exact absurd (first l below) ended'

end Events

section

variable {σ β ι : Type}

/-- What at most `n` successive calls of `_receive_main_message` return. A call is made only
behind a frame that announces another, and none is cancelled. -/
def Hears (pb : Protobuf) (E : LinkEnv σ) : ℕ → Events → Host → σ → Prop
  | 0, _, _, _ => True
  | n + 1, events, s, w =>
      let o := run E (receiveMainMessage pb defaultTimeout) s w
      o.result = .ok (events 0) ∧ (Continues (events 0) → Hears pb E n events.tail o.host o.world)

/-- What a request and the receiving calls behind it return, up to the hundredth of these. -/
def Answered (pb : Protobuf) (E : LinkEnv σ) (request : Link (Option Main)) (events : Events)
    (s : Host) (w : σ) : Prop :=
  let o := run E request s w
  o.result = .ok (events 0) ∧ (Continues (events 0) → Hears pb E 100 events.tail o.host o.world)

/-- A loop over a stream. Behind a frame that announces another it receives the next and
collects it, until an event ends it or the ceiling is reached. -/
structure StreamLoop (pb : Protobuf) (collect : Main → ι → ι) (ending : Option Main → ι → Except Exn β)
    (beyond : ι → Except Exn β) (loop : ℕ → Main → ι → Link β) : Prop where
  finish : ∀ limit frame info, frame.commandStatus = CommandStatus.ok → frame.hasNext = false →
    loop limit frame (collect frame info) = Coro.ofExcept (ending (some frame) info)
  ceiling : ∀ frame info, frame.hasNext = true → loop 0 frame info = Coro.ofExcept (beyond info)
  more : ∀ limit frame info, frame.hasNext = true → loop (limit + 1) frame info =
    receiveMainMessage pb defaultTimeout >>= fun event => match event with
      | none => Coro.ofExcept (ending none info)
      | some next =>
          if next.commandStatus = CommandStatus.ok then loop limit next (collect next info)
          else Coro.ofExcept (ending (some next) info)

namespace StreamLoop

variable {pb : Protobuf} {E : LinkEnv σ} {collect : Main → ι → ι}
  {ending : Option Main → ι → Except Exn β} {beyond : ι → Except Exn β} {loop : ℕ → Main → ι → Link β}
  {events : Events} {frame : Main} {s : Host} {w : σ}

/-- What is collected of the first `k` events. -/
def collected (collect : Main → ι → ι) (events : Events) (k : ℕ) (info : ι) : ι :=
  (events.frames k).foldl (fun info frame => collect frame info) info

theorem collected_succ {first : Main} (h : events 0 = some first) (k : ℕ) (info : ι) :
    collected collect events (k + 1) info = collected collect events.tail k (collect first info) := by
  unfold collected
  rw [Events.frames_succ h, List.foldl_cons]

/-- An event that is no OK frame ends the loop. -/
theorem result_refused (h : StreamLoop pb collect ending beyond loop) {limit : ℕ} {info : ι}
    (announced : frame.hasNext = true) (hears : Hears pb E (limit + 1) events s w)
    (refused : ¬ Accepted (events 0)) :
    (run E (loop (limit + 1) frame info) s w).result = ending (events 0) info := by
  rw [h.more _ _ _ announced, run_bind, hears.1]
  cases event : events 0 with
  | none => simp only [run_ofExcept, Outcome.after_result]
  | some next =>
      have status : next.commandStatus ≠ CommandStatus.ok :=
        fun ok => refused ⟨next, event, ok⟩
      simp only [status, ↓reduceIte, run_ofExcept, Outcome.after_result]

/-- An OK frame is collected, and the loop goes on. -/
theorem result_accepted (h : StreamLoop pb collect ending beyond loop) {limit : ℕ} {info : ι} {next : Main}
    (announced : frame.hasNext = true) (hears : Hears pb E (limit + 1) events s w)
    (event : events 0 = some next) (ok : next.commandStatus = CommandStatus.ok) :
    let o := run E (receiveMainMessage pb defaultTimeout) s w
    (run E (loop (limit + 1) frame info) s w).result =
      (run E (loop limit next (collect next info)) o.host o.world).result := by
  rw [h.more _ _ _ announced, run_bind, hears.1, event]
  simp only [ok, ↓reduceIte, Outcome.after_result]

/-- What a loop ends with behind an OK frame, by the first event that does not announce another. -/
structure Ends (collect : Main → ι → ι) (ending : Option Main → ι → Except Exn β)
    (beyond : ι → Except Exn β) (limit : ℕ) (events : Events) (info : ι) (result : Except Exn β) :
    Prop where
  ended : ∀ k ≤ limit, events.ContinuesFor k → ¬ Continues (events k) →
    result = ending (events k) (collected collect events k info)
  beyond : events.ContinuesFor (limit + 1) →
    result = beyond (collected collect events (limit + 1) info)

/-- A stream that ends with its first frame. -/
theorem Ends.first {limit : ℕ} {info : ι} {result : Except Exn β} (ended : ¬ Continues (events 0))
    (same : result = ending (events 0) info) :
    Ends collect ending beyond limit events info result := by
  constructor
  · intro k _ before last
    obtain rfl := Events.ends_unique before last (Events.continuesFor_zero events) ended
    exact same
  · intro all
    exact absurd (all 0 (Nat.succ_pos _)) ended

/-- A stream that goes on behind its first frame. -/
theorem Ends.cons {limit : ℕ} {info : ι} {result : Except Exn β} (event : events 0 = some frame)
    (first : Continues (events 0))
    (later : Ends collect ending beyond limit events.tail (collect frame info) result) :
    Ends collect ending beyond (limit + 1) events info result := by
  constructor
  · intro k bounded before last
    cases k with
    | zero => exact absurd first last
    | succ k =>
        rw [collected_succ event]
        exact later.ended k (Nat.le_of_succ_le_succ bounded) (Events.continuesFor_succ.mp before).2 last
  · intro all
    rw [collected_succ event]
    exact later.beyond (Events.continuesFor_succ.mp all).2

/-- Behind the last frame nothing is received. -/
theorem ends_last (h : StreamLoop pb collect ending beyond loop) {limit : ℕ} {info : ι}
    (event : events 0 = some frame) (ok : frame.commandStatus = CommandStatus.ok)
    (final : frame.hasNext = false) :
    Ends collect ending beyond limit events info
      (run E (loop limit frame (collect frame info)) s w).result := by
  apply Ends.first (Finishes.not_continues ⟨frame, event, ok, final⟩)
  rw [h.finish limit frame info ok final, run_ofExcept, event]

/-- **The end of a stream.** The loop ends with the first event that does not announce another,
having collected the frames before it, or at the ceiling. -/
theorem ends (h : StreamLoop pb collect ending beyond loop) {limit : ℕ} {info : ι}
    (event : events 0 = some frame) (ok : frame.commandStatus = CommandStatus.ok)
    (hears : Continues (events 0) → Hears pb E limit events.tail s w) :
    Ends collect ending beyond limit events info
      (run E (loop limit frame (collect frame info)) s w).result := by
  induction limit generalizing events frame info s w with
  | zero =>
      by_cases announced : frame.hasNext = true
      · have first : Continues (events 0) := ⟨frame, event, ok, announced⟩
        constructor
        · intro k bounded _ ended
          obtain rfl := Nat.le_zero.mp bounded
          exact absurd first ended
        · intro _
          rw [h.ceiling _ _ announced, run_ofExcept, collected_succ event]
          rfl
      · exact h.ends_last event ok (Bool.eq_false_iff.mpr announced)
  | succ limit ih =>
      by_cases announced : frame.hasNext = true
      · have first : Continues (events 0) := ⟨frame, event, ok, announced⟩
        replace hears := hears first
        apply Ends.cons event first
        by_cases accepted : Accepted (events.tail 0)
        · obtain ⟨next, event', ok'⟩ := accepted
          rw [result_accepted h announced hears event' ok']
          exact ih event' ok' hears.2
        · rw [result_refused h announced hears accepted]
          exact .first (fun more => accepted more.accepted) rfl
      · exact h.ends_last event ok (Bool.eq_false_iff.mpr announced)

/-- A loop whose result is wrapped up. -/
theorem map {γ : Type} (h : StreamLoop pb collect ending beyond loop) (make : β → γ) :
    StreamLoop pb collect (fun event info => (ending event info).map make)
      (fun info => (beyond info).map make)
      (fun limit frame info => loop limit frame info >>= fun value => pure (make value)) where
  finish limit frame info ok final := by
    rw [h.finish limit frame info ok final]
    cases ending (some frame) info <;> rfl
  ceiling frame info announced := by
    rw [h.ceiling frame info announced]
    cases beyond info <;> rfl
  more limit frame info announced := by
    rw [h.more limit frame info announced, bind_assoc]
    congr 1
    funext event
    cases event with
    | none => cases ending none info <;> rfl
    | some next =>
        by_cases ok : next.commandStatus = CommandStatus.ok
        · simp only [ok, ↓reduceIte]
        · simp only [ok, ↓reduceIte]
          cases ending (some next) info <;> rfl

variable {request : Link (Option Main)} {body : Option Main → Link β}

/-- A request whose answer is streamed. -/
theorem ends_request (h : StreamLoop pb collect ending beyond loop) {info : ι}
    (answered : Answered pb E request events s w) (accepted : Accepted (events 0))
    (streamed : ∀ first, first.commandStatus = CommandStatus.ok →
      body (some first) = loop 100 first (collect first info)) :
    Ends collect ending beyond 100 events info (run E (request >>= body) s w).result := by
  obtain ⟨first, event, ok⟩ := accepted
  obtain ⟨returned, hears⟩ := answered
  rw [run_bind, returned, event]
  simp only [streamed first ok, Outcome.after_result]
  exact h.ends event ok hears

/-- A request that is not answered by an OK frame. -/
theorem result_request (answered : Answered pb E request events s w) (start : Except Exn β)
    (refused : body (events 0) = Coro.ofExcept start) :
    (run E (request >>= body) s w).result = start := by
  rw [run_bind, answered.1]
  simp only [refused, run_ofExcept, Outcome.after_result]

end StreamLoop

end

end ProtobufRPC

end FlipperMcp
