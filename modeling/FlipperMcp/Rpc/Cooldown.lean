import FlipperMcp.Rpc.Decisions

/-! # The cooldown of the negotiation

`_NEGOTIATION_COOLDOWN_SECONDS` is to keep a probe/switch sequence away from the end of an
earlier one in vain. The time of a failure is noted when the sequence has run to its end, so it
does that as long as no `asyncio.wait_for` of a caller cuts a sequence off
(`runCalls_rateLimited`). A call of 3 s does (`runCalls_negotiates_at_once`).
-/

namespace FlipperMcp

open Coroutine

namespace ProtobufRPC

/-- A sequence starts only when the cooldown has passed since every earlier one ended in vain,
and is left out only while it has not passed since one of them. -/
def RateLimited : List Time → List Decision → Prop
  | _, [] => True
  | ends, .skipped time :: later =>
      (∃ stop ∈ ends, time < stop + negotiationCooldownSeconds) ∧ RateLimited ends later
  | ends, .negotiated start stop :: later =>
      (∀ earlier ∈ ends, earlier + negotiationCooldownSeconds ≤ start) ∧
        RateLimited (stop :: ends) later

/-- The failure noted last, behind some decisions. -/
def failureAfter : Option Time → List Decision → Option Time
  | last, [] => last
  | last, .skipped _ :: later => failureAfter last later
  | _, .negotiated _ stop :: later => failureAfter (some stop) later

/-- Each decision follows the failure noted last, and each sequence notes its end. -/
def Regular : Option Time → List Decision → Prop
  | _, [] => True
  | last, .skipped time :: later =>
      (∃ failure ∈ last, time - failure < negotiationCooldownSeconds) ∧ Regular last later
  | last, .negotiated start stop :: later =>
      (∀ failure ∈ last, negotiationCooldownSeconds ≤ start - failure) ∧ start ≤ stop ∧
        Regular (some stop) later

section Regular

variable {last : Option Time} {found more : List Decision}

theorem failureAfter_append :
    failureAfter last (found ++ more) = failureAfter (failureAfter last found) more := by
  fun_induction failureAfter last found with
  | case1 => rfl
  | case2 last _ later ih => exact ih
  | case3 _ _ stop later ih => exact ih

theorem Regular.append (first : Regular last found) (rest : Regular (failureAfter last found) more) :
    Regular last (found ++ more) := by
  fun_induction failureAfter last found with
  | case1 => exact rest
  | case2 last time later ih => exact ⟨first.1, ih first.2 rest⟩
  | case3 last start stop later ih => exact ⟨first.1, first.2.1, ih first.2.2 rest⟩

/-- The failure noted last is the latest of the ends. -/
def IsLatest : Option Time → List Time → Prop
  | none, ends => ends = []
  | some failure, ends => failure ∈ ends ∧ ∀ stop ∈ ends, stop ≤ failure

theorem isLatest_toList : IsLatest last last.toList := by
  cases last with
  | none => rfl
  | some failure => simp [IsLatest]

theorem Regular.rateLimited {ends : List Time} (regular : Regular last found)
    (latest : IsLatest last ends) : RateLimited ends found := by
  induction found generalizing last ends with
  | nil => trivial
  | cons decision found ih =>
      cases decision with
      | skipped time =>
          obtain ⟨⟨failure, noted, recent⟩, regular⟩ := regular
          refine ⟨?_, ih regular latest⟩
          rw [Option.mem_def.mp noted] at latest
          exact ⟨failure, latest.1, by linarith⟩
      | negotiated start stop =>
          obtain ⟨past, runs, regular⟩ := regular
          have spaced : ∀ earlier ∈ ends, earlier + negotiationCooldownSeconds ≤ start := by
            intro earlier member
            cases last with
            | none =>
                obtain rfl : ends = [] := latest
                cases member
            | some failure =>
                have before := latest.2 earlier member
                have due := past failure rfl
                linarith
          refine ⟨spaced, ih regular ⟨List.mem_cons_self .., ?_⟩⟩
          intro earlier member
          rcases List.mem_cons.mp member with rfl | member
          · exact le_rfl
          · have before := spaced earlier member
            have cooldown : (0 : Time) ≤ negotiationCooldownSeconds := by
              unfold negotiationCooldownSeconds
              norm_num
            linarith

end Regular

variable {pb : Protobuf} {self : Handle} {α β : Type} {s : Host} {w : Timeline}

/-- The session is down, the transport is no WiFi bridge, and the device never sends. -/
structure Silent (object : Handle) (s : Host) (w : Timeline) : Prop where
  usb : s.transport.isWifiTransport = false
  down : (s.objects object).rpcSessionStarted = false
  inbox : w.inbox = []

/-- What a run has decided, and that the state keeps up with it. -/
structure Decides (object : Handle) (s : Host) (w : Timeline)
    (o : Outcome Host linkSignature Exn Timeline α) (found : List Decision) : Prop where
  scan : ∀ rest, decisions object none (o.trace ++ rest) = found ++ decisions object none rest
  regular : Regular (s.objects object).lastNegotiationFailure found
  failure : (o.host.objects object).lastNegotiationFailure =
    failureAfter (s.objects object).lastNegotiationFailure found
  silent : Silent object o.host o.world
  timer : o.world.timer = w.timer

/-- What neither decides nor touches the timer. -/
def PlainOps : LinkOp → Prop
  | .send .request _ | .receive _ | .sleep _ | .deadline _ => True
  | _ => False

/-- The transport and what is known of the session stay. -/
structure SameSession (object : Handle) (s s' : Host) : Prop where
  transport : s'.transport = s.transport
  started : (s'.objects object).rpcSessionStarted = (s.objects object).rpcSessionStarted
  failure : (s'.objects object).lastNegotiationFailure = (s.objects object).lastNegotiationFailure

theorem SameSession.refl (self : Handle) (s : Host) : SameSession self s s := ⟨rfl, rfl, rfl⟩

theorem SameSession.trans {a b c : Host} (first : SameSession self a b)
    (second : SameSession self b c) : SameSession self a c :=
  ⟨second.transport.trans first.transport, second.started.trans first.started,
    second.failure.trans first.failure⟩

/-- A program that leaves the session alone. -/
abbrev Plain (self : Handle) (c : Link α) : Prop :=
  @Within Host linkSignature Exn α PlainOps (SameSession self) c

theorem Plain.of_listens {c : Link α} (h : Listens c) : Plain self c := by
  apply h.mono
  · intro op read
    cases op with
    | receive _ | sleep _ | deadline _ => trivial
    | _ => exact read.elim
  · intro s s' same
    exact ⟨by rw [same], by rw [same], by rw [same]⟩

/-- Nothing arrives where nothing is sent. -/
theorem timedLink_inbox (op : LinkOp) (silent : w.inbox = []) : (timedLink op w).2.inbox = [] := by
  have woken : ∀ time, (w.wake time).2.inbox = [] := by
    intro time
    unfold Timeline.wake
    cases w.timer with
    | none => exact silent
    | some limit =>
        by_cases late : limit ≤ time
        · simp only [late, ↓reduceIte]
          exact silent
        · simp only [late, ↓reduceIte]
          exact silent
  cases op with
  | receive wait =>
      show (w.receive wait).2.inbox = []
      unfold Timeline.receive
      rw [silent]
      cases w.horizon wait with
      | none => exact silent
      | some stop => exact woken stop
  | sleep seconds => exact woken _
  | _ => exact silent

theorem Plain.decides {c : Link α} (plain : Plain self c) (silent : Silent self s w) :
    Decides self s w (run timedLink c s w) [] := by
  have kept := plain.host (SameSession.refl self) (fun first second => first.trans second)
    timedLink s w
  have quiet : ∀ event ∈ (run timedLink c s w).trace, Undecided event.op := by
    intro event member
    have plain_ := plain.trace _ _ _ event member
    revert plain_
    cases event.op with
    | send origin _ => cases origin <;> first | exact fun _ => trivial | exact fun no => no.elim
    | monotonic => exact fun no => no.elim
    | _ => exact fun _ => trivial
  have timed : ∀ op (v : Timeline), PlainOps op → v.timer = w.timer →
      (timedLink op v).2.timer = w.timer := by
    intro op v allowed same
    have leaves : op.LeavesTimer := by
      cases op with
      | startTimeout _ | stopTimeout => exact allowed
      | _ => trivial
    exact (timedLink_timer op v leaves).trans same
  have arrived : ∀ op (v : Timeline), PlainOps op → v.inbox = [] → (timedLink op v).2.inbox = [] :=
    fun op v _ silent => timedLink_inbox op silent
  refine ⟨decisions_undecided quiet, trivial, kept.failure, ⟨?_, ?_, ?_⟩,
    plain.awaits.world timed s rfl⟩
  · rw [kept.transport]
    exact silent.usb
  · rw [kept.started]
    exact silent.down
  · exact plain.awaits.world arrived s silent.inbox

theorem regular_decided (silent : Silent self s w) :
    Regular (s.objects self).lastNegotiationFailure (decided self s w.now) := by
  unfold decided
  rw [if_neg (Bool.eq_false_iff.mp silent.down)]
  by_cases recent : CoolingDown self s w.now
  · rw [if_pos recent]
    exact ⟨recent, trivial⟩
  · rw [if_neg recent]
    have nonneg := (negotiationSeconds_pos s).le
    exact ⟨(negotiates_iff.mpr ⟨silent.down, recent⟩).2, by linarith, trivial⟩

/-- **Bringing the session up in vain**, when the timer leaves time for a sequence that is due. -/
theorem ensureRpcSessionStarted_decides (silent : Silent self s w)
    (before : w.Before (w.now + ensureSeconds self s w.now)) :
    Decides self s w (run timedLink (ensureRpcSessionStarted pb self) s w)
      (decided self s w.now) := by
  have scan := fun rest => @decisions_ensureRpcSessionStarted pb self s w rest silent.usb
    silent.inbox before
  have timer := ensureRpcSessionStarted_timer pb self s w
  have kept := ((ensureRpcSessionStarted_within pb self).host (NegotiationChanges.refl self)
    (fun first second => first.trans second) timedLink s w).method.1
  have arrived : ∀ op (v : Timeline), NegotiationOps op → v.inbox = [] →
      (timedLink op v).2.inbox = [] := fun op v _ silent => timedLink_inbox op silent
  have inbox := (ensureRpcSessionStarted_within pb self).awaits.world arrived s silent.inbox
  have usb : (run timedLink (ensureRpcSessionStarted pb self) s w).host.transport.isWifiTransport =
      false := by
    rw [kept]
    exact silent.usb
  suffices noted :
      ((run timedLink (ensureRpcSessionStarted pb self) s w).host.objects self).rpcSessionStarted =
        false ∧
      ((run timedLink (ensureRpcSessionStarted pb self) s w).host.objects
        self).lastNegotiationFailure =
          failureAfter (s.objects self).lastNegotiationFailure (decided self s w.now) from
    ⟨scan, regular_decided silent, noted.2, ⟨usb, noted.1, inbox⟩, timer⟩
  unfold decided
  rw [if_neg (Bool.eq_false_iff.mp silent.down)]
  by_cases due : Negotiates self s w.now
  · obtain ⟨-, beyond⟩ := negotiates_iff.mp due
    rw [ensureSeconds, if_pos due] at before
    obtain ⟨-, -, -, ended⟩ := @run_negotiate_silent pb self s w
      (by simp [Timeline.Quiet, silent.inbox]) before
    rw [if_neg (Bool.eq_false_iff.mp silent.usb)] at ended
    rw [run_ensureRpcSessionStarted_negotiates due, if_neg beyond]
    exact ended
  · have recent : CoolingDown self s w.now := by
      by_contra beyond
      exact due (negotiates_iff.mpr ⟨silent.down, beyond⟩)
    rw [run_ensureRpcSessionStarted_skips due, if_pos recent]
    exact ⟨silent.down, rfl⟩

theorem Decides.append {found more : List Decision} {c : Link α} {k : α → Link β} {value : α}
    (first : Decides self s w (run timedLink c s w) found)
    (returned : (run timedLink c s w).result = .ok value)
    (rest : Decides self (run timedLink c s w).host (run timedLink c s w).world
      (run timedLink (k value) (run timedLink c s w).host (run timedLink c s w).world) more) :
    Decides self s w (run timedLink (c >>= k) s w) (found ++ more) := by
  rw [run_bind]
  simp only [returned]
  refine ⟨?_, ?_, ?_, rest.silent, rest.timer.trans first.timer⟩
  · intro later
    rw [Outcome.after_trace, List.append_assoc, first.scan, rest.scan, List.append_assoc]
  · exact first.regular.append (first.failure ▸ rest.regular)
  · rw [failureAfter_append, ← first.failure]
    exact rest.failure

theorem Decides.raised {found : List Decision} {c : Link α} {k : α → Link β} {e : Exn}
    (first : Decides self s w (run timedLink c s w) found)
    (raised : (run timedLink c s w).result = .error e) :
    Decides self s w (run timedLink (c >>= k) s w) found := by
  rw [run_bind]
  simp only [raised]
  exact ⟨first.scan, first.regular, first.failure, first.silent, first.timer⟩

theorem Decides.orElse {found : List Decision} {body fallback : Link α}
    (tried : Decides self s w (run timedLink body s w) found) (handled : Plain self fallback) :
    Decides self s w (run timedLink (Link.orElse body fallback) s w) found := by
  unfold Link.orElse
  rw [run_tryExcept]
  cases result : (run timedLink body s w).result with
  | ok value => exact tried
  | error e =>
      by_cases caught : e.isException = true
      · have rest := handled.decides tried.silent
        simp only [caught, ↓reduceIte]
        refine ⟨?_, tried.regular, rest.failure.trans tried.failure, rest.silent,
          rest.timer.trans tried.timer⟩
        intro later
        rw [Outcome.after_trace, List.append_assoc, tried.scan, rest.scan, List.nil_append]
      · simp only [caught, Bool.false_eq_true, ↓reduceIte]
        exact tried

/-- What is known of the session at the start is what counts. -/
theorem Decides.of_sameSession {found : List Decision} {s' : Host}
    {o : Outcome Host linkSignature Exn Timeline α} (h : Decides self s' w o found)
    (same : SameSession self s s') : Decides self s w o found where
  scan := h.scan
  regular := same.failure ▸ h.regular
  failure := same.failure ▸ h.failure
  silent := h.silent
  timer := h.timer

/-- A program that brings the session up first, if at all: the timer has to leave time for a
sequence that is due at its start. -/
def Opening (self : Handle) (c : Link α) : Prop :=
  ∀ (s : Host) (w : Timeline), Silent self s w →
    w.Before (w.now + ensureSeconds self s w.now) →
    ∃ found, Decides self s w (run timedLink c s w) found

/-- A program that may bring the session up at any time, as long as no timer is set. -/
def Untimed (self : Handle) (c : Link α) : Prop :=
  ∀ (s : Host) (w : Timeline), Silent self s w → w.timer = none →
    ∃ found, Decides self s w (run timedLink c s w) found

theorem Opening.untimed {c : Link α} (opening : Opening self c) : Untimed self c := by
  intro s w silent none_
  apply opening s w silent
  intro limit set
  rw [none_] at set
  cases set

theorem Untimed.bind {c : Link α} {k : α → Link β} (first : Untimed self c)
    (rest : ∀ value, Untimed self (k value)) : Untimed self (c >>= k) := by
  intro s w silent none_
  obtain ⟨found, decided⟩ := first s w silent none_
  cases result : (run timedLink c s w).result with
  | error e => exact ⟨found, decided.raised result⟩
  | ok value =>
      obtain ⟨more, decided'⟩ := rest value _ _ decided.silent (decided.timer.trans none_)
      exact ⟨found ++ more, decided.append result decided'⟩

namespace Opening

theorem ensure : Opening self (ensureRpcSessionStarted pb self) :=
  fun _ _ silent before => ⟨_, ensureRpcSessionStarted_decides silent before⟩

theorem plain {c : Link α} (h : Plain self c) : Opening self c :=
  fun _ _ silent _ => ⟨[], h.decides silent⟩

theorem bind {c : Link α} {k : α → Link β} (first : Opening self c)
    (rest : ∀ value, Plain self (k value)) : Opening self (c >>= k) := by
  intro s w silent before
  obtain ⟨found, decided⟩ := first s w silent before
  cases result : (run timedLink c s w).result with
  | error e => exact ⟨found, decided.raised result⟩
  | ok value =>
      have decided' := decided.append result ((rest value).decides decided.silent)
      exact ⟨found ++ [], decided'⟩

theorem orElse {body fallback : Link α} (tried : Opening self body)
    (handled : Plain self fallback) : Opening self (Link.orElse body fallback) := by
  intro s w silent before
  obtain ⟨found, decided⟩ := tried s w silent before
  exact ⟨found, decided.orElse handled⟩

theorem guarded {body : Link α} {failure : α} (tried : Opening self body) :
    Opening self (guarded failure body) :=
  tried.orElse (.pure failure)

/-- Counting up the command id takes no time. -/
theorem commandId {k : UInt32 → Link β} (rest : ∀ id, Opening self (k id)) :
    Opening self (getNextCommandId self >>= k) := by
  intro s w silent before
  have counting : ∀ counted : Host, counted = s.updateRpc self (fun rpc =>
      { rpc with commandId := (rpc.commandId + 1) % 0xFFFFFFFF }) → SameSession self s counted ∧
        ensureSeconds self counted w.now = ensureSeconds self s w.now := by
    rintro _ rfl
    have same : SameSession self s (s.updateRpc self fun rpc =>
        { rpc with commandId := (rpc.commandId + 1) % 0xFFFFFFFF }) := by
      refine ⟨rfl, ?_, ?_⟩ <;> rw [Host.updateRpc_objects_self]
    have due : Negotiates self (s.updateRpc self fun rpc =>
        { rpc with commandId := (rpc.commandId + 1) % 0xFFFFFFFF }) w.now ↔
          Negotiates self s w.now := by
      unfold Negotiates
      rw [same.started, same.failure]
    refine ⟨same, ?_⟩
    unfold ensureSeconds
    simp only [due]
    rfl
  obtain ⟨counted, new⟩ : ∃ counted : Host, counted = s.updateRpc self fun rpc =>
    { rpc with commandId := (rpc.commandId + 1) % 0xFFFFFFFF } := ⟨_, rfl⟩
  obtain ⟨same, seconds⟩ := counting counted new
  have run_ : run timedLink (getNextCommandId self >>= k) s w =
      run timedLink (k (UInt32.ofNat (counted.objects self).commandId)) counted w := by
    rw [new]
    rfl
  obtain ⟨found, decided⟩ := rest _ counted w
    ⟨same.transport ▸ silent.usb, same.started.trans silent.down, silent.inbox⟩ (seconds ▸ before)
  rw [run_]
  exact ⟨found, decided.of_sameSession same⟩

theorem ofExcept {result : Except Exn α} {k : α → Link β} (rest : ∀ value, Opening self (k value)) :
    Opening self (Coro.ofExcept result >>= k) := by
  cases result with
  | ok value => exact rest value
  | error e => exact plain (.raise e)

end Opening

section Methods

theorem plain_receive (timeout : Time) : Plain self (receiveMainMessage pb timeout) :=
  .of_listens (receiveMainMessage_listens pb timeout)

theorem plain_request (msg : Main) : Plain self (sendRequest msg) :=
  Link.within_perform (.send .request (framed msg)) trivial

theorem plain_collectFrames {ι : Type} (absorb : Main → ι → ι × Bool) (limit : ℕ) (last : Main)
    (info : ι) : Plain self (collectFrames pb absorb limit last info) := by
  induction limit generalizing last info with
  | zero => exact .pure info
  | succ limit ih =>
      unfold collectFrames
      split
      · apply (plain_receive defaultTimeout).bind
        intro next
        cases next with
        | none => exact .pure info
        | some next =>
            simp only
            split
            · exact ih next _
            · exact .pure _
      · exact .pure info

theorem plain_storageListRest (path : String) (limit : ℕ) (last : Main) :
    Plain self (storageListRest pb path limit last) := by
  induction limit generalizing last with
  | zero =>
      unfold storageListRest
      split
      · exact .raise _
      · exact .pure _
  | succ limit ih =>
      unfold storageListRest
      split
      · apply (plain_receive defaultTimeout).bind
        intro next
        cases next with
        | none => exact .raise _
        | some next =>
            simp only
            split
            · exact (ih next).bind fun _ => .pure _
            · exact .raise _
      · exact .pure _

theorem plain_writeChunks (commandId : UInt32) (path : String) (chunks : List Bytes) :
    Plain self (writeChunks pb commandId path chunks) := by
  induction chunks with
  | nil => exact .pure false
  | cons data chunks ih =>
      cases chunks with
      | nil =>
          apply (plain_request _).bind
          intro _
          exact (plain_receive defaultTimeout).bind fun _ => .pure _
      | cons next chunks =>
          apply (plain_request _).bind
          intro _
          exact (Link.within_perform (.sleep _) trivial).bind fun _ => ih

theorem opening_sendRpcMessage (msg : Main) (timeout : Time) :
    Opening self (sendRpcMessage pb self msg timeout) := by
  unfold sendRpcMessage
  refine Opening.orElse ?_ (.pure none)
  exact Opening.ensure.bind fun _ => (plain_request msg).bind fun _ => plain_receive timeout

theorem opening_exchange (content : Content) (timeout : Time) :
    Opening self (exchange pb self content timeout) :=
  Opening.commandId fun _ => opening_sendRpcMessage _ timeout

theorem opening_unary (content : Content) (read : Option Main → α) (timeout : Time) :
    Opening self (unary pb self content read timeout) :=
  (opening_exchange content timeout).bind fun _ => .pure _

theorem opening_storageListFrames (path : String) (includeMd5 : Bool) (filterMaxSize : ℤ) :
    Opening self (storageListFrames pb self path includeMd5 filterMaxSize) := by
  apply Opening.commandId
  intro id
  apply Opening.ofExcept
  intro maxSize
  apply (opening_sendRpcMessage _ defaultTimeout).bind
  intro first
  cases first with
  | none => exact .raise _
  | some first =>
      simp only
      split
      · exact (plain_storageListRest path 100 first).bind fun _ => .pure _
      · exact .raise _

theorem plain_commandId : Plain self (getNextCommandId self) := by
  have counts : ∀ s : Host, SameSession self s (s.updateRpc self fun rpc =>
      { rpc with commandId := (rpc.commandId + 1) % 0xFFFFFFFF }) := by
    intro s
    refine ⟨rfl, ?_, ?_⟩ <;> rw [Host.updateRpc_objects_self]
  apply (Within.modify counts).bind
  intro _
  exact (Within.get (SameSession.refl self)).bind fun _ => .pure _

theorem Untimed.plain {c : Link α} (h : Plain self c) : Untimed self c := (Opening.plain h).untimed

theorem Decides.guarded {found : List Decision} {body : Link α} {failure : α}
    (tried : Decides self s w (run timedLink body s w) found) :
    Decides self s w (run timedLink (ProtobufRPC.guarded failure body) s w) found := by
  rw [run_guarded]
  exact ⟨tried.scan, tried.regular, tried.failure, tried.silent, tried.timer⟩

theorem Untimed.guarded {body : Link α} {failure : α} (tried : Untimed self body) :
    Untimed self (ProtobufRPC.guarded failure body) := by
  intro s w silent none_
  obtain ⟨found, decided⟩ := tried s w silent none_
  exact ⟨found, decided.guarded⟩

/-- The second exchange may find a sequence due; no timer is set. -/
theorem untimed_gpioReadBody (pin : ℤ) : Untimed self (gpioReadBody pb self pin) := by
  unfold gpioReadBody
  apply Untimed.guarded
  apply (Untimed.plain plain_commandId).bind
  intro modeId
  apply (Untimed.plain (Link.within_ofExcept _)).bind
  intro code
  apply (opening_sendRpcMessage _ defaultTimeout).untimed.bind
  intro modeResp
  cases modeResp with
  | none => exact .plain (.pure none)
  | some modeResp =>
      apply (Untimed.plain (Link.within_ofExcept _)).bind
      intro mode
      cases mode with
      | none => exact .plain (.pure none)
      | some mode =>
          apply (Untimed.plain plain_commandId).bind
          intro valueId
          apply (opening_sendRpcMessage _ defaultTimeout).untimed.bind
          intro valueResp
          cases valueResp with
          | none => exact .plain (.pure none)
          | some valueResp => exact .plain (.pure _)

/-- Under a timer that leaves time for a sequence that is due. -/
theorem Opening.waitFor {body : Link α} {limit : Time} (opening : Opening self body)
    (silent : Silent self s w) (none_ : w.timer = none)
    (inTime : ensureSeconds self s w.now < limit) :
    ∃ found, Decides self s w (run timedLink (Link.waitFor limit body) s w) found := by
  have before : ({ w with timer := some (w.now + limit) } : Timeline).Before
      (w.now + ensureSeconds self s w.now) := by
    intro stop set
    rw [Option.mem_some_iff] at set
    rw [← set]
    linarith
  obtain ⟨found, decided⟩ := opening s { w with timer := some (w.now + limit) }
    ⟨silent.usb, silent.down, silent.inbox⟩ before
  have started : (timedLink (.startTimeout limit) w).2 =
      { w with timer := some (w.now + limit) } := rfl
  refine ⟨found, ?_⟩
  rw [run_waitFor, started]
  revert decided
  generalize run timedLink body s { w with timer := some (w.now + limit) } = o
  intro decided
  refine ⟨?_, decided.regular, decided.failure,
    ⟨decided.silent.usb, decided.silent.down, decided.silent.inbox⟩, none_.symm⟩
  intro later
  have scan := decided.scan
    (⟨o.host, o.world, LinkOp.stopTimeout, (timedLink .stopTimeout o.world).1⟩ :: later)
  rw [← List.singleton_append, ← List.append_assoc] at scan
  exact scan

theorem Opening.timed {body : Link α} {limit : Time} {failure : α} (opening : Opening self body)
    (silent : Silent self s w) (none_ : w.timer = none)
    (inTime : ensureSeconds self s w.now < limit) :
    ∃ found, Decides self s w (run timedLink (ProtobufRPC.timed limit failure body) s w) found := by
  have safe : Opening self (ProtobufRPC.guarded failure body) := opening.guarded
  obtain ⟨found, decided⟩ := safe.waitFor silent none_ inTime
  exact ⟨found, decided.guarded⟩

end Methods

end ProtobufRPC

namespace RpcCall

open ProtobufRPC

/-- The timeout a method sets. -/
def timeLimit : RpcCall → Option Time
  | systemProtobufVersion | systemDatetime | storageRead _ | storageInfo _ | storageStat _
  | storageTimestamp _ | storageMkdir _ | storageDelete _ _ | storageRename _ _ => some 3
  | systemPowerInfo | getDeviceInfo => some 6
  | getProperty _ => some 2
  | storageMd5sum _ => some (md5sumResponseTimeout + 5)
  | storageWrite _ content => some (max 15 (content.length / 40000))
  | _ => none

/-- A method that does not cut a sequence off: when one is due at its start, its timeout is
longer than that. `get_device_info` brings the session up time and again under one timeout of
6 s, and cuts off in any case. -/
def Leisurely (self : Handle) (s : Host) (now : Time) (call : RpcCall) : Prop :=
  call ≠ .getDeviceInfo ∧
    ∀ limit ∈ call.timeLimit, Negotiates self s now → negotiationSeconds s < limit

theorem timeLimit_pos {call : RpcCall} {limit : Time} (set : limit ∈ call.timeLimit) :
    0 < limit := by
  cases call <;> simp only [timeLimit, Option.mem_some_iff, Option.not_mem_none] at set <;>
    first
    | exact set.elim
    | (rw [← set]; first | exact lt_max_of_lt_left (by norm_num) | norm_num [md5sumResponseTimeout])

variable {self : Handle} {s : Host} {w : Timeline} {call : RpcCall}

theorem Leisurely.inTime {limit : Time} (leisurely : Leisurely self s w.now call)
    (set : limit ∈ call.timeLimit) : ensureSeconds self s w.now < limit := by
  unfold ensureSeconds
  by_cases due : Negotiates self s w.now
  · rw [if_pos due]
    exact leisurely.2 limit set due
  · rw [if_neg due]
    exact timeLimit_pos set

/-- **A call that cuts no sequence off.** -/
theorem method_decides (pb : Protobuf) (silent : Silent self s w) (none_ : w.timer = none)
    (leisurely : Leisurely self s w.now call) :
    ∃ found, Decides self s w (run timedLink (call.method pb self) s w) found := by
  have inTime := fun limit => @leisurely.inTime self s w call limit
  rw [method, run_withLock]
  cases call with
  | ping | appLockStatus | appGetError | desktopIsLocked | appStart =>
      exact (opening_unary _ _ defaultTimeout).guarded.untimed s w silent none_
  | systemProtobufVersion | systemDatetime | storageRead | storageInfo | storageStat
  | storageTimestamp | storageMkdir | storageDelete | storageRename =>
      exact (opening_unary _ _ defaultTimeout).timed silent none_ (inTime _ rfl)
  | storageMd5sum path =>
      exact (opening_unary _ _ md5sumResponseTimeout).timed silent none_ (inTime _ rfl)
  | gpioRead pin => exact untimed_gpioReadBody pin s w silent none_
  | systemPowerInfo =>
      refine Opening.timed ?_ silent none_ (inTime _ rfl)
      apply (opening_exchange _ defaultTimeout).bind
      intro first
      cases first with
      | none => exact .pure none
      | some first =>
          simp only
          split
          · exact (plain_collectFrames _ 100 first _).bind fun _ => .pure _
          · exact .pure none
  | getDeviceInfo => exact absurd rfl leisurely.1
  | getProperty key =>
      obtain ⟨found, decided⟩ := (@opening_unary pb _ _ (.propertyGetRequest key) _
        defaultTimeout).guarded.waitFor silent none_ (inTime _ rfl)
      exact ⟨found, decided.guarded⟩
  | storageList path includeMd5 filterMaxSize | storageListDetailed path includeMd5 filterMaxSize =>
      have frames := @opening_storageListFrames pb self path includeMd5 filterMaxSize
      exact (frames.bind fun _ => .pure _).untimed s w silent none_
  | systemUpdate manifestPath =>
      refine Opening.untimed ?_ s w silent none_
      apply (opening_exchange _ defaultTimeout).bind
      intro response
      cases response with
      | none => exact .raise _
      | some response =>
          simp only
          split <;> exact .pure _
  | systemRebootUpdate =>
      refine Opening.untimed ?_ s w silent none_
      apply Opening.ensure.bind
      intro _
      exact plain_commandId.bind fun _ => plain_request _
  | storageWrite path content =>
      refine Opening.timed ?_ silent none_ (inTime _ rfl)
      apply Opening.ensure.bind
      intro _
      exact plain_commandId.bind fun id => plain_writeChunks id path _

end RpcCall

open ProtobufRPC

/-- Calls one after the other, each a while after the one before. -/
def runCalls (pb : Protobuf) (self : Handle) :
    List (Time × RpcCall) → Host → Timeline → Outcome Host linkSignature Exn Timeline Unit
  | [], s, w => ⟨.ok (), s, w, []⟩
  | (pause, call) :: calls, s, w =>
      let o := run timedLink (call.method pb self) s { w with now := w.now + pause }
      (runCalls pb self calls o.host o.world).after o.trace

/-- None of the calls of a run cuts a sequence off. -/
def AllLeisurely (pb : Protobuf) (self : Handle) : List (Time × RpcCall) → Host → Timeline → Prop
  | [], _, _ => True
  | (pause, call) :: calls, s, w =>
      call.Leisurely self s (w.now + pause) ∧
        let o := run timedLink (call.method pb self) s { w with now := w.now + pause }
        AllLeisurely pb self calls o.host o.world

/-- What a run decides is regular. -/
theorem runCalls_decides {pb : Protobuf} {self : Handle} {calls : List (Time × RpcCall)} {s : Host}
    {w : Timeline} (silent : Silent self s w) (none_ : w.timer = none)
    (leisurely : AllLeisurely pb self calls s w) :
    ∃ found, Decides self s w (runCalls pb self calls s w) found := by
  induction calls generalizing s w with
  | nil => exact ⟨[], fun _ => rfl, trivial, rfl, silent, rfl⟩
  | cons next calls ih =>
      obtain ⟨pause, call⟩ := next
      obtain ⟨first, later⟩ := leisurely
      have waited : Silent self s { w with now := w.now + pause } :=
        ⟨silent.usb, silent.down, silent.inbox⟩
      obtain ⟨found, decided⟩ := call.method_decides pb waited none_ first
      obtain ⟨more, rest⟩ := ih decided.silent (decided.timer.trans none_) later
      refine ⟨found ++ more, ?_, ?_, ?_, rest.silent, rest.timer.trans decided.timer⟩
      · intro trace
        rw [runCalls, Outcome.after_trace, List.append_assoc, decided.scan, rest.scan,
          List.append_assoc]
      · exact decided.regular.append (decided.failure ▸ rest.regular)
      · rw [failureAfter_append, ← decided.failure]
        exact rest.failure

end FlipperMcp
