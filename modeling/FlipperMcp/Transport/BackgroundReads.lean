import FlipperMcp.Coroutine.Alphabet
import FlipperMcp.Rpc.Handlers
import FlipperMcp.Rpc.Session
import FlipperMcp.Transport.Base
import FlipperMcp.Transport.Drivers

/-! # Reads in the executor

`USBTransport.receive` awaits a `_blocking_read` that runs in the executor. Cancelling the
receive does not end the read: it runs until it has data or its time is up, and meanwhile
the lock of the client is free.

`PortReads` are a serial port and the reads running on it, and `readingPort` answers the
reads of a `USBTransport` with them. While no receive is started and no byte arrives
before the read of a cancelled receive has ended, and no receive is cancelled with bytes
waiting for it (`PortReads.Permits`), one read runs at a time and no byte is lost, in every
sequence of RPC methods (`RpcCall.reads_lossless`).
-/

namespace FlipperMcp

open Coroutine

/-- A `_blocking_read` in the executor. -/
structure ReadJob where
  number : ℕ
  size : ℕ
  deriving DecidableEq

/-- A serial port and the reads that run on it. -/
structure PortReads where
  /-- The bytes that have arrived and that no read has taken. -/
  port : Bytes := []
  running : List ReadJob := []
  /-- The read whose receive is waiting. -/
  awaited : Option ReadJob := none
  /-- The number of the next read. -/
  next : ℕ := 0
  /-- The bytes the reads have taken from the port. -/
  taken : Bytes := []
  /-- The bytes that receives have returned. -/
  returned : Bytes := []

/-- What happens to the port on its own. -/
inductive Happening
  | arrive (data : Bytes)
  /-- A read finds bytes, takes them and ends. -/
  | take (job : ReadJob)
  /-- The time of a read is up. -/
  | expire (job : ReadJob)
  /-- The waiting receive is cancelled. -/
  | cancel
  deriving DecidableEq

/-- A change of the port: a receive starts a read, or something happens. -/
inductive PortMove
  | start (size : ℕ)
  | happen (happening : Happening)

namespace PortReads

/-- A read takes what is there, up to its size. Only a receive that still waits for it
returns the bytes. -/
def take (reads : PortReads) (job : ReadJob) : PortReads :=
  if job ∈ reads.running ∧ reads.port ≠ [] then
    { reads with
      port := reads.port.drop job.size
      running := reads.running.erase job
      awaited := if reads.awaited = some job then none else reads.awaited
      taken := reads.taken ++ reads.port.take job.size
      returned := if reads.awaited = some job then reads.returned ++ reads.port.take job.size
        else reads.returned }
  else reads

/-- A read whose receive has been cancelled returns nothing. -/
theorem take_of_not_awaited {reads : PortReads} {job : ReadJob}
    (not_ : reads.awaited ≠ some job) :
    (reads.take job).awaited = reads.awaited ∧ (reads.take job).returned = reads.returned := by
  unfold take
  by_cases takes : job ∈ reads.running ∧ reads.port ≠ []
  · rw [if_pos takes]
    exact ⟨if_neg not_, if_neg not_⟩
  · rw [if_neg takes]
    exact ⟨rfl, rfl⟩

/-- What a change makes of the port. -/
def move (reads : PortReads) : PortMove → PortReads
  | .start size =>
      { reads with
        running := reads.running ++ [⟨reads.next, size⟩]
        awaited := some ⟨reads.next, size⟩
        next := reads.next + 1 }
  | .happen (.arrive data) => { reads with port := reads.port ++ data }
  | .happen (.take job) => reads.take job
  | .happen (.expire job) =>
      { reads with
        running := reads.running.erase job
        awaited := if reads.awaited = some job then none else reads.awaited }
  | .happen .cancel => { reads with awaited := none }

/-- A read runs on although its receive has been cancelled. -/
def LeftOver (reads : PortReads) : Prop := ∃ job ∈ reads.running, reads.awaited ≠ some job

instance (reads : PortReads) : Decidable reads.LeftOver :=
  inferInstanceAs (Decidable (∃ job ∈ reads.running, reads.awaited ≠ some job))

/-- No receive is started and no byte arrives before a leftover read has ended, and no
receive is cancelled with bytes waiting for it. -/
def Permits (reads : PortReads) : PortMove → Prop
  | .start _ => ¬ reads.LeftOver
  | .happen (.arrive data) => data = [] ∨ ¬ reads.LeftOver
  | .happen .cancel => reads.awaited = none ∨ reads.port = []
  | .happen (.take _) | .happen (.expire _) => True

instance (reads : PortReads) : DecidablePred reads.Permits
  | .start _ => inferInstanceAs (Decidable (¬ _))
  | .happen (.arrive _) | .happen .cancel => inferInstanceAs (Decidable (_ ∨ _))
  | .happen (.take _) | .happen (.expire _) => inferInstanceAs (Decidable True)

/-- At most one read runs, and every byte taken from the port has been returned, in
order. -/
def Lossless (reads : PortReads) : Prop :=
  reads.running.length ≤ 1 ∧ reads.taken = reads.returned

/-- What the permitted changes keep: the one read that may run is waited for, or else has
nothing to take. -/
structure Orderly (reads : PortReads) : Prop where
  same : reads.taken = reads.returned
  jobs : (reads.running = [] ∧ reads.awaited = none) ∨
    ∃ job, reads.running = [job] ∧
      (reads.awaited = some job ∨ reads.awaited = none ∧ reads.port = [])

theorem Orderly.lossless {reads : PortReads} (orderly : reads.Orderly) : reads.Lossless := by
  refine ⟨?_, orderly.same⟩
  rcases orderly.jobs with ⟨idle, -⟩ | ⟨job, one, -⟩
  · rw [idle]
    exact Nat.zero_le 1
  · rw [one]
    exact le_rfl

/-- Without a leftover read the one that runs is waited for. -/
theorem Orderly.waiting {reads : PortReads} (orderly : reads.Orderly) (none_ : ¬ reads.LeftOver) :
    (reads.running = [] ∧ reads.awaited = none) ∨
      ∃ job, reads.running = [job] ∧ reads.awaited = some job := by
  rcases orderly.jobs with idle | ⟨job, one, waiting | ⟨unawaited, -⟩⟩
  · exact .inl idle
  · exact .inr ⟨job, one, waiting⟩
  · refine absurd ⟨job, ?_, ?_⟩ none_
    · rw [one]
      exact List.mem_singleton_self job
    · rw [unawaited]
      exact nofun

theorem Orderly.take {reads : PortReads} (orderly : reads.Orderly) (job : ReadJob) :
    (reads.take job).Orderly := by
  unfold PortReads.take
  by_cases takes : job ∈ reads.running ∧ reads.port ≠ []
  · rw [if_pos takes]
    rcases orderly.jobs with ⟨idle, -⟩ | ⟨other, one, waits⟩
    · rw [idle] at takes
      exact absurd takes.1 List.not_mem_nil
    · rw [one, List.mem_singleton] at takes
      obtain ⟨rfl, nonempty⟩ := takes
      have waiting : reads.awaited = some job :=
        waits.resolve_right fun unawaited => nonempty unawaited.2
      refine ⟨?_, .inl ⟨?_, ?_⟩⟩
      · simp only [waiting, ↓reduceIte, orderly.same]
      · simp only [one, List.erase_cons_head]
      · simp only [waiting, ↓reduceIte]
  · rw [if_neg takes]
    exact orderly

/-- The end of a read that found nothing. -/
theorem Orderly.expire {reads : PortReads} (orderly : reads.Orderly) (job : ReadJob) :
    (reads.move (.happen (.expire job))).Orderly := by
  refine ⟨orderly.same, ?_⟩
  rcases orderly.jobs with ⟨idle, unawaited⟩ | ⟨other, one, waits⟩
  · refine .inl ⟨?_, ?_⟩
    · simp only [PortReads.move, idle, List.erase_nil]
    · simp only [PortReads.move, unawaited, ite_self]
  · by_cases same : other = job
    · subst same
      refine .inl ⟨?_, ?_⟩
      · simp only [PortReads.move, one, List.erase_cons_head]
      · rcases waits with waiting | ⟨unawaited, -⟩
        · simp only [PortReads.move, waiting, ↓reduceIte]
        · simp only [PortReads.move, unawaited, ite_self]
    · have kept : (if reads.awaited = some job then none else reads.awaited) = reads.awaited := by
        refine if_neg fun awaited => ?_
        rcases waits with waiting | ⟨unawaited, -⟩
        · exact same (Option.some.inj (waiting.symm.trans awaited))
        · exact nomatch unawaited.symm.trans awaited
      refine .inr ⟨other, ?_, ?_⟩
      · simp only [PortReads.move, one]
        exact List.erase_of_not_mem (List.mem_singleton.not.mpr (Ne.symm same))
      · simp only [PortReads.move, kept]
        exact waits

/-- **One change.** A receive starts only when no other one waits. -/
theorem Orderly.move {reads : PortReads} (orderly : reads.Orderly) {move : PortMove}
    (permitted : reads.Permits move) (single : ∀ size, move = .start size → reads.awaited = none) :
    (reads.move move).Orderly := by
  cases move with
  | start size =>
      have unawaited := single size rfl
      rcases orderly.waiting permitted with ⟨idle, -⟩ | ⟨job, -, waiting⟩
      · refine ⟨orderly.same, .inr ⟨⟨reads.next, size⟩, ?_, .inl rfl⟩⟩
        simp only [PortReads.move, idle, List.nil_append]
      · exact nomatch unawaited.symm.trans waiting
  | happen happening =>
      cases happening with
      | arrive data =>
          rcases permitted with rfl | none_
          · have same : reads.move (.happen (.arrive [])) = reads := by
              simp only [PortReads.move, List.append_nil]
            rw [same]
            exact orderly
          · refine ⟨orderly.same, ?_⟩
            rcases orderly.waiting none_ with idle | ⟨job, one, waiting⟩
            · exact .inl idle
            · exact .inr ⟨job, one, .inl waiting⟩
      | take job => exact orderly.take job
      | expire job => exact orderly.expire job
      | cancel =>
          refine ⟨orderly.same, ?_⟩
          rcases orderly.jobs with ⟨idle, -⟩ | ⟨job, one, waits⟩
          · exact .inl ⟨idle, rfl⟩
          · refine .inr ⟨job, one, .inr ⟨rfl, ?_⟩⟩
            rcases permitted with unawaited | empty
            · rcases waits with waiting | ⟨-, empty⟩
              · exact nomatch unawaited.symm.trans waiting
              · exact empty
            · exact empty

end PortReads

/-- The serial port of a `USBTransport`, with what is about to happen to it while the
host awaits each operation, and what has happened. -/
structure UsbWorld (σ : Type) where
  reads : PortReads
  moves : List (List Happening)
  /-- Every change, with the port it met. -/
  history : List (PortReads × PortMove) := []
  rest : σ

namespace UsbWorld

variable {σ : Type}

def move (w : UsbWorld σ) (move : PortMove) : UsbWorld σ :=
  { w with reads := w.reads.move move, history := w.history ++ [(w.reads, move)] }

def happen (w : UsbWorld σ) (happenings : List Happening) : UsbWorld σ :=
  happenings.foldl (fun w happening => w.move (.happen happening)) w

/-- The world when an operation begins: what happens during it is due. -/
def due (w : UsbWorld σ) : UsbWorld σ := { w with moves := w.moves.tail }

/-- Await a read. When nothing more happens, its time is up. -/
def awaitRead (job : ReadJob) : List Happening → UsbWorld σ → Except Exn Bytes × UsbWorld σ
  | [], w => (.ok [], w.move (.happen (.expire job)))
  | happening :: happenings, w =>
      let next := w.move (.happen happening)
      if next.reads.awaited = some job then awaitRead job happenings next
      else if happening = .cancel then (.error .cancelledError, next.happen happenings)
      else (.ok (next.reads.returned.drop w.reads.returned.length), next.happen happenings)

/-- A port that has just been opened. -/
def opened (port : Bytes) (moves : List (List Happening)) (rest : σ) : UsbWorld σ :=
  { reads := { port }, moves, rest }

/-- Every change met a port that permits it. -/
def Permitted (w : UsbWorld σ) : Prop := ∀ entry ∈ w.history, entry.1.Permits entry.2

/-- The port loses nothing now, and has lost nothing before. -/
def Lossless (w : UsbWorld σ) : Prop :=
  (∀ entry ∈ w.history, entry.1.Lossless) ∧ w.reads.Lossless

/-- If every change was permitted, the port has been orderly throughout. -/
def Safe (w : UsbWorld σ) : Prop :=
  w.Permitted → (∀ entry ∈ w.history, entry.1.Orderly) ∧ w.reads.Orderly

theorem Safe.lossless {w : UsbWorld σ} (safe : w.Safe) (permitted : w.Permitted) : w.Lossless :=
  ⟨fun entry met => ((safe permitted).1 entry met).lossless, (safe permitted).2.lossless⟩

theorem Safe.move {w : UsbWorld σ} (safe : w.Safe) {move : PortMove}
    (single : ∀ size, move = .start size → w.reads.awaited = none) : (w.move move).Safe := by
  intro permitted
  have earlier : w.Permitted := fun entry met => permitted entry (List.mem_append_left _ met)
  have last : w.reads.Permits move :=
    permitted (w.reads, move) (List.mem_append_right _ (List.mem_singleton_self _))
  obtain ⟨before, now⟩ := safe earlier
  refine ⟨fun entry met => ?_, now.move last single⟩
  rcases List.mem_append.mp met with old | new
  · exact before entry old
  · rw [List.mem_singleton.mp new]
    exact now

theorem Safe.happens {w : UsbWorld σ} (safe : w.Safe) (happening : Happening) :
    (w.move (.happen happening)).Safe :=
  safe.move fun _ impossible => nomatch impossible

theorem Safe.happen {w : UsbWorld σ} (safe : w.Safe) (happenings : List Happening) :
    (w.happen happenings).Safe := by
  induction happenings generalizing w with
  | nil => exact safe
  | cons happening happenings ih => exact ih (safe.happens happening)

theorem Safe.awaitRead {w : UsbWorld σ} (safe : w.Safe) (job : ReadJob)
    (happenings : List Happening) : (awaitRead job happenings w).2.Safe := by
  induction happenings generalizing w with
  | nil => exact safe.happens _
  | cons happening happenings ih =>
      unfold UsbWorld.awaitRead
      simp only
      split
      · exact ih (safe.happens happening)
      · split
        · exact (safe.happens happening).happen happenings
        · exact (safe.happens happening).happen happenings

/-- No receive waits, and all those that have returned have returned these bytes. -/
structure Unawaited (w : UsbWorld σ) (returned : Bytes) : Prop where
  awaited : w.reads.awaited = none
  returned : w.reads.returned = returned

/-- Nothing is returned while no receive waits. -/
theorem Unawaited.happens {w : UsbWorld σ} {returned : Bytes} (unawaited : w.Unawaited returned)
    (happening : Happening) : (w.move (.happen happening)).Unawaited returned := by
  have none_ : ∀ job, w.reads.awaited ≠ some job := fun job waiting =>
    nomatch unawaited.awaited.symm.trans waiting
  cases happening with
  | arrive data => exact ⟨unawaited.awaited, unawaited.returned⟩
  | cancel => exact ⟨rfl, unawaited.returned⟩
  | expire job => exact ⟨(if_neg (none_ job)).trans unawaited.awaited, unawaited.returned⟩
  | take job =>
      obtain ⟨awaited, returned⟩ := PortReads.take_of_not_awaited (none_ job)
      exact ⟨awaited.trans unawaited.awaited, returned.trans unawaited.returned⟩

theorem Unawaited.happen {w : UsbWorld σ} {returned : Bytes} (unawaited : w.Unawaited returned)
    (happenings : List Happening) : (w.happen happenings).Unawaited returned := by
  induction happenings generalizing w with
  | nil => exact unawaited
  | cons happening happenings ih => exact ih (unawaited.happens happening)

/-- What can happen to a receive that waits: it waits on; it is cancelled; or it ends with
what its read has found. -/
theorem happens_awaited {w : UsbWorld σ} {job : ReadJob} (waiting : w.reads.awaited = some job)
    (happening : Happening) :
    ((w.move (.happen happening)).reads.awaited = some job ∧
        (w.move (.happen happening)).reads.returned = w.reads.returned) ∨
      (happening = .cancel ∧ (w.move (.happen happening)).Unawaited w.reads.returned) ∨
      (happening ≠ .cancel ∧ ∃ found,
        (w.move (.happen happening)).Unawaited (w.reads.returned ++ found)) := by
  cases happening with
  | arrive data => exact .inl ⟨waiting, rfl⟩
  | cancel => exact .inr (.inl ⟨rfl, rfl, rfl⟩)
  | expire other =>
      by_cases own : w.reads.awaited = some other
      · refine .inr (.inr ⟨nofun, [], if_pos own, ?_⟩)
        rw [List.append_nil]
        rfl
      · exact .inl ⟨(if_neg own).trans waiting, rfl⟩
  | take other =>
      by_cases own : w.reads.awaited = some other
      · by_cases takes : other ∈ w.reads.running ∧ w.reads.port ≠ []
        · have took : w.reads.take other = _ := if_pos takes
          refine .inr (.inr ⟨nofun, w.reads.port.take other.size, ?_, ?_⟩)
          · simp only [UsbWorld.move, PortReads.move, took, if_pos own]
          · simp only [UsbWorld.move, PortReads.move, took, if_pos own]
        · have same : w.reads.take other = w.reads := if_neg takes
          refine .inl ⟨?_, ?_⟩
          · simp only [UsbWorld.move, PortReads.move, same, waiting]
          · simp only [UsbWorld.move, PortReads.move, same]
      · obtain ⟨awaited, returned⟩ := PortReads.take_of_not_awaited own
        exact .inl ⟨awaited.trans waiting, returned⟩

/-- **A receive returns what its read took while it waited.** -/
theorem awaitRead_returned {w : UsbWorld σ} {job : ReadJob} (waiting : w.reads.awaited = some job)
    (happenings : List Happening) : (awaitRead job happenings w).2.Unawaited
      (w.reads.returned ++ chunkOf (awaitRead job happenings w).1) := by
  induction happenings generalizing w with
  | nil =>
      refine ⟨if_pos waiting, ?_⟩
      exact (List.append_nil w.reads.returned).symm
  | cons happening happenings ih =>
      unfold awaitRead
      simp only
      rcases happens_awaited waiting happening with
        ⟨waits, same⟩ | ⟨rfl, unawaited⟩ | ⟨other, found, unawaited⟩
      · rw [if_pos waits, ← same]
        exact ih waits
      · have ended : ¬ (w.move (.happen .cancel)).reads.awaited = some job := fun waits =>
          nomatch unawaited.awaited.symm.trans waits
        rw [if_neg ended, if_pos rfl]
        have nothing : chunkOf (.error .cancelledError) = [] := rfl
        rw [nothing, List.append_nil]
        exact unawaited.happen happenings
      · have ended : ¬ (w.move (.happen happening)).reads.awaited = some job := fun waits =>
          nomatch unawaited.awaited.symm.trans waits
        rw [if_neg ended, if_neg other, unawaited.returned, List.drop_left]
        exact unawaited.happen happenings

end UsbWorld

/-- A host whose serial port is read in the background; `B` answers all other
operations. -/
def readingPort {σ : Type} (B : PortEnv σ) : PortEnv (UsbWorld σ)
  | .readSerial _ size _, w =>
      w.due.move (.start size) |>.awaitRead ⟨w.reads.next, size⟩ (w.moves.headD [])
  | op, w =>
      let after := w.due.happen (w.moves.headD [])
      ((B op after.rest).1, { after with rest := (B op after.rest).2 })

/-- The bytes an operation of the port has returned. -/
def PortOp.returned : (op : PortOp) → Except Exn op.Res → Bytes
  | .readSerial _ _ _, answer => chunkOf answer
  | _, _ => []

/-- The bytes an operation of the link has returned. -/
def LinkOp.returned : (op : LinkOp) → Except Exn op.Res → Bytes
  | .receive _, answer => chunkOf answer
  | _, _ => []

/-- The operations that do not read the serial port. -/
def PortOp.ReadsNothing : PortOp → Prop
  | readSerial _ _ _ => False
  | _ => True

theorem PortOp.ReadsNothing.returned {op : PortOp} (nothing : op.ReadsNothing)
    (answer : Except Exn op.Res) : op.returned answer = [] := by
  cases op with
  | readSerial serial size wait => exact nothing.elim
  | _ => rfl

section Ledger

variable {σ : Type}

/-- The account of the reads: nothing has been lost, and these bytes have been returned. -/
structure UsbWorld.Accounted (got : Bytes) (w : UsbWorld σ) : Prop where
  safe : w.Safe
  unawaited : w.Unawaited got

theorem UsbWorld.Accounted.opened (port : Bytes) (moves : List (List Happening)) (rest : σ) :
    (UsbWorld.opened port moves rest).Accounted [] where
  safe := fun _ => ⟨fun _ impossible => absurd impossible List.not_mem_nil, rfl, .inl ⟨rfl, rfl⟩⟩
  unawaited := ⟨rfl, rfl⟩

/-- What happens while another operation is awaited. -/
theorem UsbWorld.Accounted.during {got : Bytes} {w : UsbWorld σ} (account : w.Accounted got)
    (happenings : List Happening) : (w.due.happen happenings).Accounted got where
  safe := Safe.happen (w := w.due) account.safe happenings
  unawaited := Unawaited.happen (w := w.due) ⟨account.unawaited.awaited, account.unawaited.returned⟩
    happenings

theorem readingPort_ledger (B : PortEnv σ) (op : PortOp) (got : Bytes) (w : UsbWorld σ)
    (account : w.Accounted got) :
    (readingPort B op w).2.Accounted (got ++ op.returned (readingPort B op w).1) := by
  cases op with
  | readSerial serial size wait =>
      have started : (w.due.move (.start size)).Safe :=
        UsbWorld.Safe.move (w := w.due) account.safe fun _ _ => account.unawaited.awaited
      refine ⟨started.awaitRead _ _, ?_⟩
      have returned := UsbWorld.awaitRead_returned (w := w.due.move (.start size)) rfl
        (w.moves.headD [])
      rw [← account.unawaited.returned]
      exact returned
  | _ =>
      have after := account.during (w.moves.headD [])
      change UsbWorld.Accounted (got ++ []) _
      rw [List.append_nil]
      exact ⟨after.safe, after.unawaited.awaited, after.unawaited.returned⟩

section Method

open USBTransport

theorem serialIsOpen_awaits : Awaits PortOp.ReadsNothing serialIsOpen := by
  refine Awaits.get.bind fun self => ?_
  cases self.serial with
  | none => exact .pure false
  | some serial => exact .bind (.attempt (.perform trivial)) fun _ => .pure _

/-- Only a receive reads the port. -/
theorem usbTransport_awaits {op : LinkOp} (other : ∀ wait, op ≠ .receive wait) :
    Awaits PortOp.ReadsNothing (usbTransport.method op) := by
  cases op with
  | receive wait => exact absurd rfl (other wait)
  | connect =>
      refine .bind (.tryExcept ?_ fun _ => ?_) fun ok => .bind .get fun self => .pure _
      · refine .bind .get fun self => .bind (.perform trivial) fun serial => ?_
        exact .bind (.modify _) fun _ => .bind (.perform trivial) fun _ =>
          .bind (.modify _) fun _ => .pure true
      · exact .bind (.modify _) fun _ => .pure false
  | disconnect =>
      refine .bind .get fun self => .bind serialIsOpen_awaits fun isOpen => ?_
      cases isOpen with
      | false => exact .modify _
      | true =>
          cases self.serial with
          | none => exact .modify _
          | some serial => exact .bind (.perform trivial) fun _ => .modify _
  | isConnected =>
      refine .bind .get fun self => ?_
      exact .ite (fun _ => serialIsOpen_awaits) fun _ => .pure false
  | send origin data =>
      refine .bind .get fun self => .bind serialIsOpen_awaits fun isOpen => ?_
      cases self.serial with
      | none => exact .raise _
      | some serial => exact .ite (fun _ => .perform trivial) fun _ => .raise _
  | sleep _ | monotonic | deadline _ | patience | startTimeout _ | stopTimeout =>
      exact .perform trivial

variable {P : PortEnv σ}

theorem returned_of_awaits {T α : Type} {c : Method T α} (h : Awaits PortOp.ReadsNothing c) (t : T)
    (w : σ) : ((run P c t w).trace.flatMap fun event => event.op.returned event.answer) = [] :=
  List.flatMap_eq_nil_iff.mpr fun event member => (h.trace P t w event member).returned event.answer

theorem perform_returned {T : Type} (op : PortOp) (t : T) (w : σ) :
    ((run P (Method.perform op) t w).trace.flatMap fun event => event.op.returned event.answer) =
      op.returned (run P (Method.perform op) t w).result := by
  unfold Method.perform
  rw [run_perform]
  exact List.append_nil _

/-- What a receive takes from the port it returns. -/
theorem receive_returned (wait : Wait) (usb : USBTransport) (w : σ) :
    ((run P (receive wait) usb w).trace.flatMap fun event => event.op.returned event.answer) =
      chunkOf (run P (receive wait) usb w).result := by
  have asked := returned_of_awaits (P := P) serialIsOpen_awaits usb w
  change (run P (serialIsOpen >>= _) usb w).trace.flatMap _ =
    chunkOf (run P (serialIsOpen >>= _) usb w).result
  rw [run_bind]
  revert asked
  rcases run P serialIsOpen usb w with ⟨result, usb', w', trace⟩
  intro asked
  cases result with
  | error e => exact asked
  | ok isOpen =>
      simp only [Outcome.after_trace, Outcome.after_result, List.flatMap_append, asked,
        List.nil_append]
      cases usb.serial with
      | none => rfl
      | some serial =>
          cases isOpen with
          | false => rfl
          | true => exact perform_returned (.readSerial serial 4096 wait) usb' w'

/-- What an operation of the link takes from the port it returns. -/
theorem usbTransport_returned (op : LinkOp) (usb : USBTransport) (w : σ) :
    ((run P (usbTransport.method op) usb w).trace.flatMap fun event =>
      event.op.returned event.answer) = op.returned (run P (usbTransport.method op) usb w).result := by
  by_cases reads : ∃ wait, op = .receive wait
  · obtain ⟨wait, rfl⟩ := reads
    exact receive_returned wait usb w
  · have other : ∀ wait, op ≠ .receive wait := fun wait same => reads ⟨wait, same⟩
    rw [returned_of_awaits (usbTransport_awaits other)]
    cases op with
    | receive wait => exact absurd rfl (other wait)
    | _ => rfl

end Method

theorem usbTransport_ledger (B : PortEnv σ) (op : LinkOp) (got : Bytes)
    (w : USBTransport × UsbWorld σ) (account : w.2.Accounted got) :
    (usbTransport.env (readingPort B) op w).2.2.Accounted
      (got ++ op.returned (usbTransport.env (readingPort B) op w).1) := by
  have ran := run_ledger (readingPort_ledger B)
    (usbTransport.method op) w.1 account
  rw [usbTransport_returned] at ran
  exact ran

end Ledger

/-- The RPC methods of a `ProtobufRPC`, one after another, whatever becomes of each. -/
def ProtobufRPC.callAll (pb : Protobuf) (self : Handle) (calls : List RpcCall) : Link Unit :=
  calls.forM fun call => do
    let _ ← (call.method pb self).attempt
    pure ()

/-- **Reads lose nothing while no leftover read is in the way.** -/
theorem RpcCall.reads_lossless {σ : Type} (B : PortEnv σ) (pb : Protobuf) (self : Handle)
    (calls : List RpcCall) (s : Host) (usb : USBTransport) (port : Bytes)
    (moves : List (List Happening)) (rest : σ) :
    let o := run (usbTransport.env (readingPort B)) (ProtobufRPC.callAll pb self calls) s
      (usb, UsbWorld.opened port moves rest)
    o.world.2.Permitted → o.world.2.Lossless ∧
      o.world.2.reads.taken = o.trace.flatMap fun event => event.op.returned event.answer := by
  intro o permitted
  have account := run_ledger (usbTransport_ledger B) (ProtobufRPC.callAll pb self calls) s (w := (usb, _))
    (UsbWorld.Accounted.opened port moves rest)
  have lossless := account.safe.lossless permitted
  refine ⟨lossless, lossless.2.2.trans ?_⟩
  exact account.unawaited.returned

namespace UsbWorld

/-- A host whose serial port stays open. Every deadline leaves time for one read. -/
def openPort : PortEnv Unit := fun op w => match op with
  | .platform => (.ok (⟨"Linux", [], fun _ => false⟩ : Platform), w)
  | .openSerial _ _ _ => (.ok (0 : ℕ), w)
  | .openConnection _ _ _ => (.error (.osError "no bridge"), w)
  | .isOpen _ => (.ok true, w)
  | .isClosing _ => (.ok false, w)
  | .readSerial _ _ _ | .read _ _ _ => (.ok ([] : List UInt8), w)
  | .closeSerial _ | .writeSerial _ _ | .write _ _ | .drain _ | .closeStream _ | .waitClosed _
  | .sleep _ | .startTimeout _ | .stopTimeout => (.ok (), w)
  | .monotonic => (.ok (0 : ℚ), w)
  | .deadline _ | .patience => (.ok (1 : ℕ), w)

/-- A connected `USBTransport`. -/
def connectedUsb : USBTransport where
  port := "/dev/ttyACM0"
  baudrate := 115200
  timeout := 1
  serial := some 0
  connected := true

/-- The answer to a ping, the second request. -/
def pong : Bytes := ProtobufRPC.framed { commandId := 2, content := .systemPingResponse [1, 2] }

/-- The receive of `get_property` is cancelled at its sixth operation, by its timer; then
happens what is given, and at last the receive of the ping meets the rest. -/
def afterCancel (then_ last : List Happening) : List (List Happening) :=
  [[], [], [], [], [], [.cancel], then_, [], [], [], [], last]

end UsbWorld

open ProtobufRPC UsbWorld

theorem RpcCall.reads_lossless_expired :
    let moves := afterCancel [.expire ⟨0, 4096⟩] [.arrive pong, .take ⟨1, 4096⟩]
    let o := run (usbTransport.env (readingPort openPort))
      (callAll Protobuf.wire 0 [.getProperty "devinfo_name", .ping [1, 2]]) sessionUp
      (connectedUsb, UsbWorld.opened [] moves ())
    o.world.2.Lossless ∧
      o.world.2.reads.taken = o.trace.flatMap fun event => event.op.returned event.answer :=
  RpcCall.reads_lossless openPort Protobuf.wire 0 [.getProperty "devinfo_name", .ping [1, 2]]
    sessionUp connectedUsb [] (afterCancel [.expire ⟨0, 4096⟩] [.arrive pong, .take ⟨1, 4096⟩]) ()
    (by unfold UsbWorld.Permitted; decide +kernel)

/-- The read that `get_property` left behind takes the answer to the ping. -/
theorem RpcCall.reads_lost :
    let moves := afterCancel [] [.arrive pong, .take ⟨0, 4096⟩]
    let o := run (usbTransport.env (readingPort openPort))
      (callAll Protobuf.wire 0 [.getProperty "devinfo_name", .ping [1, 2]]) sessionUp
      (connectedUsb, UsbWorld.opened [] moves ())
    (∃ entry ∈ o.world.2.history, entry.1.running = [⟨0, 4096⟩, ⟨1, 4096⟩]) ∧
      o.world.2.reads.taken = pong ∧
      (o.trace.flatMap fun event => event.op.returned event.answer) = [] := by
  decide +kernel

end FlipperMcp
