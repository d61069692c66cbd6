import FlipperMcp.Coroutine.Sessions
import FlipperMcp.Rpc.Footprint
import FlipperMcp.Rpc.Handlers

/-! # Which request an answer belongs to

A request carries a command id, and the device repeats it in its answer. The host never
looks at it: a method takes the next frame of the stream for the answer to the request it
wrote last. So an answer that comes after its method gave up is returned by the next method
(`RpcCall.late_answer`). As long as each request is written with nothing left to read, and
nothing still to come, that answers another, every frame a method takes carries the id of
its own request (`RpcCall.correlated`).
-/

namespace FlipperMcp

open Coroutine

namespace ProtobufRPC

/-- How a device goes on answering requests, the oldest first: it sends frames for the
oldest and at some time is done with it. Nothing has to be sent for the first frames of a
chunked write. -/
inductive Answers : List UInt32 → List Main → List UInt32 → Prop
  | nothing {asked : List UInt32} : Answers asked [] asked
  | frame {asked asked' : List UInt32} {frame : Main} {frames : List Main}
      (rest : Answers (frame.commandId :: asked) frames asked') :
      Answers (frame.commandId :: asked) (frame :: frames) asked'
  | done {id : UInt32} {asked asked' : List UInt32} {frames : List Main}
      (rest : Answers asked frames asked') : Answers (id :: asked) frames asked'

/-- A device that answers each request with frames that carry the request's command id, in
the order of the requests, after any delay. The transport delivers what it sends, cut in any
way. -/
structure AnsweringDevice {σ : Type} (E : LinkEnv σ) where
  /-- The bytes delivered so far. -/
  delivered : σ → Bytes
  /-- The frames sent so far. -/
  sent : σ → List Main
  /-- The ids of the requests that the device is not done with. -/
  asked : σ → List UInt32
  receive : ∀ wait w, delivered (E (.receive wait) w).2 =
    delivered w ++ chunkOf (E (.receive wait) w).1
  other : ∀ op w, (∀ wait, op ≠ .receive wait) → delivered (E op w).2 = delivered w
  wellFormed : ∀ w, delivered w <+: (sent w).flatMap framed
  request : ∀ msg w, ∃ frames,
    sent (E (.send .request (framed msg)) w).2 = sent w ++ frames ∧
      Answers (asked w ++ [msg.commandId]) frames (asked (E (.send .request (framed msg)) w).2)
  answers : ∀ op w, ¬ LinkOp.IsRequest op → ∃ frames,
    sent (E op w).2 = sent w ++ frames ∧ Answers (asked w) frames (asked (E op w).2)

/-- What was taken from the stream between two states answers one request. -/
def Took (current : Option UInt32) (s s' : Host) : Prop :=
  ∃ frames : List Main, s'.rxLog = s.rxLog ++ frames.map Main.serializeToString ∧
    ∀ frame ∈ frames, current = some frame.commandId

/-- Everything taken from the stream in a run with the given requests answers the request
written last. -/
inductive Correlated {σ : Type} :
    Option UInt32 → Host → List (LinkEvent σ) → Host → Option UInt32 → Prop
  | taken {current : Option UInt32} {s final : Host} (took : Took current s final) :
      Correlated current s [] final current
  | request {current last : Option UInt32} {s final : Host} {event : LinkEvent σ}
      {later : List (LinkEvent σ)} {msg : Main} (op : event.op = .send .request (framed msg))
      (took : Took current s event.host)
      (rest : Correlated (some msg.commandId) event.host later final last) :
      Correlated current s (event :: later) final last

/-- The own requests of a run. -/
def requests {σ : Type} (trace : List (LinkEvent σ)) : List (LinkEvent σ) :=
  trace.filter fun event => LinkOp.IsRequest event.op

section Correlated

variable {σ : Type} {current last : Option UInt32} {s final : Host} {trace : List (LinkEvent σ)}

theorem Took.refl (current : Option UInt32) (s : Host) : Took current s s :=
  ⟨[], by rw [List.map_nil, List.append_nil], fun _ member => absurd member List.not_mem_nil⟩

theorem Took.trans {middle : Host} (first : Took current s middle)
    (second : Took current middle final) : Took current s final := by
  obtain ⟨frames, logged, own⟩ := first
  obtain ⟨frames', logged', own'⟩ := second
  refine ⟨frames ++ frames', ?_, fun frame member => ?_⟩
  · rw [logged', logged, List.map_append, List.append_assoc]
  · exact (List.mem_append.mp member).elim (own frame) (own' frame)

theorem Took.of_log {s' : Host} (same : s'.rxLog = s.rxLog) : Took current s s' :=
  ⟨[], by rw [same, List.map_nil, List.append_nil], fun _ member => absurd member List.not_mem_nil⟩

theorem Correlated.behind {middle : Host} (first : Took current s middle)
    (second : Correlated current middle trace final last) : Correlated current s trace final last := by
  cases second with
  | taken took => exact .taken (first.trans took)
  | request op took rest => exact .request op (first.trans took) rest

theorem Correlated.append {middle : Option UInt32} {between : Host} {later : List (LinkEvent σ)}
    (first : Correlated current s trace between middle)
    (second : Correlated middle between later final last) :
    Correlated current s (trace ++ later) final last := by
  induction first with
  | taken took => exact second.behind took
  | request op took _ ih => exact .request op took (ih second)

/-- What is taken behind one request answers it. -/
theorem Correlated.answer {event : LinkEvent σ} {msg frame : Main}
    (h : Correlated current s [event] final last) (op : event.op = .send .request (framed msg))
    (logged : final.rxLog = event.host.rxLog ++ [frame.serializeToString]) :
    frame.commandId = msg.commandId := by
  cases h with
  | request op' took rest =>
      cases rest with
      | taken took' =>
          obtain ⟨frames, logged', own⟩ := took'
          rw [logged] at logged'
          have only := List.append_cancel_left logged'
          obtain ⟨frame', rfl, same⟩ := List.map_eq_singleton_iff.mp only.symm
          have asked := framed_inj (LinkOp.send.inj (op.symm.trans op')).2
          have id := Option.some.inj (own frame' (List.mem_singleton.mpr rfl))
          rw [← serializeToString_inj same, ← id, asked]

theorem requests_append (first second : List (LinkEvent σ)) :
    requests (first ++ second) = requests first ++ requests second :=
  List.filter_append ..

theorem requests_nil : requests ([] : List (LinkEvent σ)) = [] := rfl

theorem requests_cons {event : LinkEvent σ} (other : ¬ LinkOp.IsRequest event.op) :
    requests (event :: trace) = requests trace :=
  List.filter_cons_of_neg (by simpa using other)

theorem requests_eq_nil (others : ∀ event ∈ trace, ¬ LinkOp.IsRequest event.op) :
    requests trace = [] :=
  List.filter_eq_nil_iff.mpr fun event member => by simpa using others event member

end Correlated

section Device

variable {σ : Type} {E : LinkEnv σ} (device : AnsweringDevice E) {commandId : UInt32}

theorem Answers.asked {asked asked' : List UInt32} {frames : List Main}
    (h : Answers asked frames asked') : ∀ i ∈ asked', i ∈ asked := by
  induction h with
  | nothing => exact fun _ member => member
  | frame _ ih => exact ih
  | done _ ih => exact fun i member => List.mem_cons_of_mem _ (ih i member)

theorem Answers.sent {asked asked' : List UInt32} {frames : List Main}
    (h : Answers asked frames asked') : ∀ frame ∈ frames, frame.commandId ∈ asked := by
  induction h with
  | nothing => exact fun _ member => absurd member List.not_mem_nil
  | frame _ ih =>
      intro frame member
      rcases List.mem_cons.mp member with rfl | later
      · exact List.mem_cons_self ..
      · exact ih frame later
  | done _ ih => exact fun frame member => List.mem_cons_of_mem _ (ih frame member)

namespace AnsweringDevice

/-- The device has sent these frames, beside them only such that answer one request, and it
is asked for nothing else. -/
def AnswersOnly (commandId : UInt32) (read : List Main) (w : σ) : Prop :=
  ∃ unread, device.sent w = read ++ unread ∧ (∀ frame ∈ unread, frame.commandId = commandId) ∧
    ∀ other ∈ device.asked w, other = commandId

/-- It answers each request at once, if not the transport. -/
def AnswersEach : Prop :=
  ∀ msg w, ∃ frames, frames ≠ [] ∧
    device.sent (E (.send .request (framed msg)) w).2 = device.sent w ++ frames ∧
      ∀ frame ∈ frames, frame.commandId = msg.commandId

/-- The host has read the stream up to the end of a frame, and what is left, or still to
come, answers one request. -/
def InStep (commandId : UInt32) (s : Host) (w : σ) : Prop :=
  ∃ read, device.AnswersOnly commandId read w ∧ device.delivered w = read.flatMap framed ++ s.rxBuffer

variable {device}

/-- Going on answering keeps to the requests asked. -/
theorem AnswersOnly.go_on {read frames : List Main} {w w' : σ} {asked : List UInt32}
    (h : device.AnswersOnly commandId read w) (same : ∀ other ∈ asked, other = commandId)
    (sent : device.sent w' = device.sent w ++ frames)
    (answers : Answers asked frames (device.asked w')) : device.AnswersOnly commandId read w' := by
  obtain ⟨unread, before, own, -⟩ := h
  refine ⟨unread ++ frames, ?_, fun frame member => ?_, fun other member => ?_⟩
  · rw [sent, before, List.append_assoc]
  · rcases List.mem_append.mp member with old | new
    · exact own frame old
    · exact same _ (answers.sent frame new)
  · exact same other (answers.asked other member)

theorem AnswersOnly.other {read : List Main} {w : σ} (h : device.AnswersOnly commandId read w)
    {op : LinkOp} (own : ¬ LinkOp.IsRequest op) : device.AnswersOnly commandId read (E op w).2 := by
  obtain ⟨frames, sent, answers⟩ := device.answers op w own
  exact h.go_on h.choose_spec.2.2 sent answers

/-- A request with the same id. -/
theorem InStep.request {s : Host} {w : σ} {msg : Main} (h : device.InStep msg.commandId s w) :
    device.InStep msg.commandId s (E (.send .request (framed msg)) w).2 := by
  obtain ⟨read, only, account⟩ := h
  obtain ⟨frames, sent, answers⟩ := device.request msg w
  refine ⟨read, only.go_on ?_ sent answers, ?_⟩
  · intro other member
    rcases List.mem_append.mp member with old | new
    · exact only.choose_spec.2.2 other old
    · exact List.mem_singleton.mp new
  · rw [device.other (.send .request (framed msg)) w fun _ => nofun]
    exact account

/-- Neither a request nor a receive. -/
theorem InStep.idle {s s' : Host} {w : σ} (h : device.InStep commandId s w) {op : LinkOp}
    (own : ¬ LinkOp.IsRequest op) (reads : ∀ wait, op ≠ .receive wait)
    (buffer : s'.rxBuffer = s.rxBuffer) : device.InStep commandId s' (E op w).2 := by
  obtain ⟨read, only, account⟩ := h
  refine ⟨read, only.other own, ?_⟩
  rw [device.other op w reads, buffer]
  exact account

/-- What is delivered while a message is read. -/
theorem AnswersOnly.ledger (read : List Main) :
    Ledger E fun got w => device.delivered w = got ∧ device.AnswersOnly commandId read w where
  receive h := ⟨(device.receive _ _).trans (congrArg (· ++ _) h.1), h.2.other not_false⟩
  sleep seconds h := ⟨(device.other (.sleep seconds) _ fun _ => nofun).trans h.1, h.2.other not_false⟩
  deadline seconds h := ⟨(device.other (.deadline seconds) _ fun _ => nofun).trans h.1, h.2.other not_false⟩

/-- The frame at the front of what is left. -/
theorem AnswersOnly.front {read : List Main} {w : σ} (h : device.AnswersOnly commandId read w)
    {taken buffer payload : Bytes} (front : frontPayload taken = some (payload, []))
    (account : device.delivered w = read.flatMap framed ++ (taken ++ buffer)) :
    ∃ frame, payload = frame.serializeToString ∧ frame.commandId = commandId ∧
      device.AnswersOnly commandId (read ++ [frame]) w ∧
      device.delivered w = (read ++ [frame]).flatMap framed ++ buffer := by
  obtain ⟨unread, sent, own, asked⟩ := h
  have taken_ := unframe_of_frontPayload front
  obtain ⟨tail, stream⟩ := device.wellFormed w
  rw [account, sent, List.flatMap_append, List.append_assoc, List.append_assoc] at stream
  have behind := List.append_cancel_left stream
  have whole := Base128.unframe_append taken_ (buffer ++ tail)
  rw [behind, List.nil_append] at whole
  cases unread with
  | nil => exact nomatch whole
  | cons frame unread =>
      rw [List.flatMap_cons, framed, delimited_eq] at whole behind
      obtain ⟨rfl, rest⟩ := Base128.unframe_frame_append whole
      rw [← rest] at behind
      have exact_ := List.append_cancel_right behind
      refine ⟨frame, rfl, own frame (List.mem_cons_self ..), ⟨unread, ?_, ?_, asked⟩, ?_⟩
      · rw [sent, List.append_assoc, List.singleton_append]
      · exact fun later member => own later (List.mem_cons_of_mem _ member)
      · rw [account, exact_, List.flatMap_append, List.append_assoc, List.flatMap_singleton, framed,
          delimited_eq]

/-- **A message is received in step.** It answers the request, and the host is in step again
if it came. -/
theorem InStep.receive (pb : Protobuf) (timeout : Time) {s : Host} {w : σ}
    (h : device.InStep commandId s w) :
    let o := run E (receiveMainMessage pb timeout) s w
    SameButBuffer s o.host ∧ Took (some commandId) s o.host ∧
      ∀ msg, o.result = .ok (some msg) → device.InStep commandId o.host o.world := by
  obtain ⟨read, only, account⟩ := h
  obtain ⟨same, taken, ⟨delivered, only'⟩, found⟩ :=
    (wp_receiveMainMessage pb (AnswersOnly.ledger read) (fun _ _ => trivial : Quiet fun _ => True)
      timeout (read.flatMap framed) ⟨account, only⟩).2
  refine ⟨same, ?_⟩
  rcases found with ⟨payload, -, logged, front⟩ | ⟨missing, logged, -⟩
  · obtain ⟨frame, rfl, own, only'', delivered'⟩ := only'.front front delivered
    refine ⟨⟨[frame], logged, fun other member => ?_⟩, fun msg _ => ⟨_, only'', delivered'⟩⟩
    rw [List.mem_singleton.mp member, own]
  · exact ⟨.of_log logged, fun msg returned => absurd returned (missing msg)⟩

end AnsweringDevice

end Device

/-- A request is written with nothing left to read, and nothing still to come, that answers
another. -/
def Undisturbed {σ : Type} {E : LinkEnv σ} (device : AnsweringDevice E) (event : LinkEvent σ) :
    Prop :=
  ∀ msg, event.op = .send .request (framed msg) →
    device.InStep msg.commandId event.host event.world

section Runs

variable {σ : Type} {E : LinkEnv σ} {device : AnsweringDevice E} {pb : Protobuf} {self : Handle}

/-- With the session up nothing is negotiated. -/
theorem run_ensure_started {s : Host} (started : (s.objects self).rpcSessionStarted = true) (w : σ) :
    run E (ensureRpcSessionStarted pb self) s w = ⟨.ok (), s, w, []⟩ := by
  unfold ensureRpcSessionStarted
  rw [run_bind, run_get]
  simp only [started, ↓reduceIte]
  rfl

/-- The session stays up. -/
theorem Conversation.staysUp {α : Type} {before : Bool} {after : α → Bool} {c : Link α}
    (described : Conversation pb self before c after) {s : Host}
    (started : (s.objects self).rpcSessionStarted = true) (w : σ) :
    ((run E c s w).host.objects self).rpcSessionStarted = true := by
  induction described generalizing s w with
  | ret | raise => exact started
  | commandId =>
      unfold getNextCommandId
      simp only [run_bind, run_modify, run_get, Coro.pure_eq, run_ret, Outcome.after_host,
        Host.updateRpc_objects_self]
      exact started
  | ensure =>
      rw [run_ensure_started started]
      exact started
  | request msg =>
      unfold sendRequest
      rw [Link.run_send]
      exact started
  | receive timeout =>
      have same : SameButBuffer s (run E (receiveMainMessage pb timeout) s w).host :=
        (receiveMainMessage_listens pb timeout).host SameButBuffer.refl SameButBuffer.trans E s w
      rw [same.objects]
      exact started
  | sleep seconds =>
      rw [Link.run_sleep]
      exact started
  | bind _ _ first rest =>
      have up := first started w
      rw [run_bind]
      cases (run E _ s w).result with
      | ok value => exact rest value up _
      | error error => exact up
  | orElse _ _ tried handled =>
      have up := tried started w
      unfold Link.orElse
      rw [run_tryExcept]
      cases (run E _ s w).result with
      | ok value => exact up
      | error error =>
          by_cases caught : error.isException = true
          · simp only [caught, ↓reduceIte]
            exact handled up _
          · simp only [caught, Bool.false_eq_true, ↓reduceIte]
            exact up
  | waitFor timeout _ awaited =>
      rw [run_waitFor]
      exact awaited started _
  | weaken _ _ _ described => exact described started w

/-- A run whose frames answer the request written last, that leaves the host in step if it
claims so. -/
def KeepsStep (device : AnsweringDevice E) (current : Option UInt32) (s : Host) {α : Type}
    (after : α → Bool) (o : Outcome Host linkSignature Exn σ α) : Prop :=
  ∃ last, Correlated current s (requests o.trace) o.host last ∧
    ∀ value, o.result = .ok value → after value = true →
      ∃ commandId, last = some commandId ∧ device.InStep commandId o.host o.world

namespace KeepsStep

variable {α : Type} {current : Option UInt32} {s : Host} {w : σ}

/-- Nothing is taken, and nothing changes in the stream. -/
theorem quiet {before : Bool} {after : α → Bool} {o : Outcome Host linkSignature Exn σ α}
    (step : before = true → ∃ commandId, current = some commandId ∧ device.InStep commandId s w)
    (log : o.host.rxLog = s.rxLog) (own : requests o.trace = [])
    (kept : ∀ value, o.result = .ok value → after value = true → before = true)
    (world : ∀ commandId, device.InStep commandId s w → device.InStep commandId o.host o.world) :
    KeepsStep device current s after o := by
  refine ⟨current, ?_, fun value returned now => ?_⟩
  · rw [own]
    exact .taken (.of_log log)
  · obtain ⟨commandId, same, inStep⟩ := step (kept value returned now)
    exact ⟨commandId, same, world commandId inStep⟩

/-- A step behind a step. -/
theorem bind {β : Type} {middle : α → Bool} {after : β → Bool} {c : Link α} {k : α → Link β}
    (first : KeepsStep device current s middle (run E c s w))
    (rest : ∀ value (current' : Option UInt32), (run E c s w).result = .ok value →
      (middle value = true → ∃ commandId, current' = some commandId ∧
        device.InStep commandId (run E c s w).host (run E c s w).world) →
      KeepsStep device current' (run E c s w).host after
        (run E (k value) (run E c s w).host (run E c s w).world)) :
    KeepsStep device current s after (run E (c >>= k) s w) := by
  obtain ⟨last, correlated, now⟩ := first
  rw [run_bind]
  cases ended : (run E c s w).result with
  | error error => exact ⟨last, correlated, fun value returned => nomatch returned⟩
  | ok value =>
      obtain ⟨last', correlated', now'⟩ := rest value last ended (now value ended)
      refine ⟨last', ?_, now'⟩
      simp only [Outcome.after_trace, Outcome.after_host, requests_append]
      exact correlated.append correlated'

/-- A handler behind an exception. -/
theorem orElse {after : α → Bool} {body fallback : Link α}
    (tried : KeepsStep device current s after (run E body s w))
    (handled : ∀ (current' : Option UInt32) (error : Exn), (run E body s w).result = .error error →
      error.isException = true →
      KeepsStep device current' (run E body s w).host after
        (run E fallback (run E body s w).host (run E body s w).world)) :
    KeepsStep device current s after (run E (Link.orElse body fallback) s w) := by
  obtain ⟨last, correlated, now⟩ := tried
  unfold Link.orElse
  rw [run_tryExcept]
  cases ended : (run E body s w).result with
  | ok value => exact ⟨last, correlated, now⟩
  | error error =>
      by_cases caught : error.isException = true
      · simp only [caught, ↓reduceIte]
        obtain ⟨last', correlated', now'⟩ := handled last error ended caught
        refine ⟨last', ?_, now'⟩
        simp only [Outcome.after_trace, Outcome.after_host, requests_append]
        exact correlated.append correlated'
      · simp only [caught, Bool.false_eq_true, ↓reduceIte]
        exact ⟨last, correlated, now⟩

/-- A request is written. -/
theorem request (msg : Main)
    (met : ∀ event ∈ (run E (sendRequest msg) s w).trace, Undisturbed device event) :
    KeepsStep device current s (fun _ => true) (run E (sendRequest msg) s w) := by
  unfold sendRequest at met ⊢
  rw [Link.run_send] at met ⊢
  refine ⟨some msg.commandId, ?_, fun value _ _ => ⟨msg.commandId, rfl, ?_⟩⟩
  · exact .request rfl (.refl current s) (.taken (.refl _ s))
  · exact (met _ (List.mem_singleton.mpr rfl) msg rfl).request

/-- A message is waited for. -/
theorem receive (pb : Protobuf) (timeout : Time)
    (step : ∃ commandId, current = some commandId ∧ device.InStep commandId s w) :
    KeepsStep device current s Option.isSome (run E (receiveMainMessage pb timeout) s w) := by
  obtain ⟨commandId, rfl, inStep⟩ := step
  obtain ⟨-, took, again⟩ := inStep.receive pb timeout
  have own : requests (run E (receiveMainMessage pb timeout) s w).trace = [] := by
    apply requests_eq_nil
    intro event member
    have read := (receiveMainMessage_listens pb timeout).trace E s w event member
    exact LinkOp.not_isRequest_of_isRead read
  refine ⟨some commandId, ?_, fun value returned now => ⟨commandId, rfl, ?_⟩⟩
  · rw [own]
    exact .taken took
  · obtain ⟨msg, rfl⟩ := Option.isSome_iff_exists.mp now
    exact again msg returned

/-- A timer runs beside a step. -/
theorem waitFor {after : α → Bool} {body : Link α} (timeout : Time)
    (awaited : KeepsStep device current s after (run E body s (E (.startTimeout timeout) w).2)) :
    KeepsStep device current s after (run E (Link.waitFor timeout body) s w) := by
  obtain ⟨last, correlated, now⟩ := awaited
  rw [run_waitFor]
  refine ⟨last, ?_, fun value returned left => ?_⟩
  · dsimp only
    rw [List.cons_append, requests_cons id, requests_append, requests_cons id,
      requests_nil, List.append_nil]
    exact correlated
  · obtain ⟨commandId, same, inStep⟩ := now value (Link.timedOut_ok returned) left
    exact ⟨commandId, same, inStep.idle id (fun _ => nofun) rfl⟩

end KeepsStep

/-- **Every conversation keeps step.** -/
theorem Conversation.keepsStep {α : Type} {before : Bool} {after : α → Bool} {c : Link α}
    (described : Conversation pb self before c after) {current : Option UInt32} {s : Host} {w : σ}
    (started : (s.objects self).rpcSessionStarted = true)
    (step : before = true → ∃ commandId, current = some commandId ∧ device.InStep commandId s w)
    (met : ∀ event ∈ (run E c s w).trace, Undisturbed device event) :
    KeepsStep device current s after (run E c s w) := by
  induction described generalizing current s w with
  | ret kept =>
      refine KeepsStep.quiet step rfl rfl (fun value returned now => kept ?_) fun _ => id
      rw [Except.ok.inj returned]
      exact now
  | raise => exact KeepsStep.quiet step rfl rfl (fun _ returned => nomatch returned) fun _ => id
  | commandId => exact KeepsStep.quiet step rfl rfl (fun _ _ => id) fun _ => id
  | ensure =>
      rw [run_ensure_started started]
      exact KeepsStep.quiet step rfl rfl (fun _ _ now => nomatch now) fun _ => id
  | request msg => exact KeepsStep.request msg met
  | receive timeout => exact KeepsStep.receive pb timeout (step rfl)
  | sleep seconds =>
      rw [Link.run_sleep]
      exact KeepsStep.quiet step rfl rfl (fun _ _ => id) fun _ inStep =>
        inStep.idle id (fun _ => nofun) rfl
  | bind described _ first rest =>
      apply KeepsStep.bind
      · exact first started step fun event member => met event (run_bind_first E _ _ s w member)
      · intro value current' returned now
        exact rest value (described.staysUp started w) now fun event member =>
          met event (run_bind_rest E _ returned member)
  | orElse described _ tried handled =>
      apply KeepsStep.orElse
      · exact tried started step fun event member =>
          met event (run_tryExcept_body E _ _ _ s w member)
      · intro current' error raised caught
        exact handled (described.staysUp started w) (fun impossible => nomatch impossible)
          fun event member => met event (run_tryExcept_handler E (fun _ => _) raised caught member)
  | waitFor timeout _ awaited =>
      rw [run_waitFor] at met
      apply KeepsStep.waitFor
      refine awaited started (fun now => ?_) fun event member => met event ?_
      · obtain ⟨commandId, same, inStep⟩ := step now
        exact ⟨commandId, same, inStep.idle id (fun _ => nofun) rfl⟩
      · exact List.mem_append_left _ (List.mem_cons_of_mem _ member)
  | weaken _ needed left described =>
      obtain ⟨last, correlated, now⟩ := described started (fun now => step (needed now)) met
      exact ⟨last, correlated, fun value returned claimed => now value returned (left value claimed)⟩

end Runs

section Delayed

/-- Every request is answered by one frame with its id, a ping with its data. -/
def answerTo (msg : Main) : Main where
  commandId := msg.commandId
  content := match msg.content with
    | .systemPingRequest data => .systemPingResponse data
    | _ => .unset

/-- The request in the data of one send. -/
def requestIn (data : Bytes) : Option Main :=
  match Base128.unframe (data.length + 1) data with
  | some (payload, []) => Protobuf.wire.parseFromString payload
  | _ => none

theorem requestIn_framed (msg : Main) : requestIn (framed msg) = some msg := by
  have grows := @Nat.lt_pow_self msg.serializeToString.length 128 (by decide)
  have fits : msg.serializeToString.length < 128 ^ ((framed msg).length + 1) := by
    refine grows.trans_le (Nat.pow_le_pow_right (by decide) ?_)
    rw [framed, delimited, List.length_append]
    omega
  have taken := Base128.unframe_frame fits []
  rw [List.append_nil, ← delimited_eq] at taken
  unfold requestIn
  rw [show Base128.unframe ((framed msg).length + 1) (framed msg) = _ from taken]
  exact Protobuf.wire.parse_serialize msg

/-- The frames a device has sent: those delivered, and those still on their way. -/
structure Delayed where
  delivered : List Main := []
  waiting : List Main := []
  deriving DecidableEq

namespace Delayed

/-- All frames sent. -/
def sent (w : Delayed) : List Main := w.delivered ++ w.waiting

/-- The device answers what is written at once. -/
def written (data : Bytes) (w : Delayed) : Delayed :=
  { w with waiting := w.waiting ++ ((requestIn data).map answerTo).toList }

/-- The next frame is delivered, once more than a number of requests are written. -/
def deliver (delay : ℕ) (w : Delayed) : Bytes × Delayed :=
  match w.waiting with
  | [] => ([], w)
  | frame :: waiting =>
      if delay < w.sent.length then (framed frame, ⟨w.delivered ++ [frame], waiting⟩) else ([], w)

theorem written_framed (msg : Main) (w : Delayed) :
    (w.written (framed msg)).sent = w.sent ++ [answerTo msg] := by
  unfold written sent
  rw [requestIn_framed, List.append_assoc]
  rfl

theorem deliver_sent (delay : ℕ) (w : Delayed) : (w.deliver delay).2.sent = w.sent := by
  obtain ⟨delivered, waiting⟩ := w
  cases waiting with
  | nil => rfl
  | cons frame waiting =>
      unfold deliver
      by_cases due : delay < (Delayed.mk delivered (frame :: waiting)).sent.length
      · simp only [due, ↓reduceIte]
        exact List.append_assoc ..
      · simp only [due, ↓reduceIte]

theorem deliver_delivered (delay : ℕ) (w : Delayed) :
    (w.deliver delay).2.delivered.flatMap framed =
      w.delivered.flatMap framed ++ (w.deliver delay).1 := by
  obtain ⟨delivered, waiting⟩ := w
  cases waiting with
  | nil => exact (List.append_nil _).symm
  | cons frame waiting =>
      unfold deliver
      by_cases due : delay < (Delayed.mk delivered (frame :: waiting)).sent.length
      · simp only [due, ↓reduceIte, List.flatMap_append, List.flatMap_singleton]
      · simp only [due, ↓reduceIte, List.append_nil]

end Delayed

/-- Such a device behind a transport that delivers the answers one by one. Each wait lasts
for three passes. -/
def delayedDevice (delay : ℕ) : LinkEnv Delayed
  | .send .request data, w => (.ok (), w.written data)
  | .receive _, w => (.ok (w.deliver delay).1, (w.deliver delay).2)
  | .deadline _, w | .patience, w => (.ok (3 : ℕ), w)
  | .connect, w => (.ok (some TransportFacts.usb), w)
  | .isConnected, w => (.ok true, w)
  | .monotonic, w => (.ok (0 : ℚ), w)
  | .disconnect, w | .send _ _, w | .sleep _, w | .startTimeout _, w | .stopTimeout, w =>
      (.ok (), w)

/-- It answers every request, in order. -/
def delayedDevice_answering (delay : ℕ) : AnsweringDevice (delayedDevice delay) where
  delivered w := w.delivered.flatMap framed
  sent := Delayed.sent
  asked _ := []
  receive _ w := w.deliver_delivered delay
  other op w reads := by
    cases op with
    | receive wait => exact absurd rfl (reads wait)
    | send origin data => cases origin <;> rfl
    | _ => rfl
  wellFormed w := by
    unfold Delayed.sent
    rw [List.flatMap_append]
    exact List.prefix_append ..
  request msg w := ⟨[answerTo msg], w.written_framed msg,
    show Answers [(answerTo msg).commandId] [answerTo msg] [] from .frame (.done .nothing)⟩
  answers op w own := by
    refine ⟨[], ?_, .nothing⟩
    rw [List.append_nil]
    cases op with
    | send origin data => cases origin <;> first | rfl | exact absurd trivial own
    | receive wait => exact w.deliver_sent delay
    | _ => rfl

theorem delayedDevice_answersEach (delay : ℕ) : (delayedDevice_answering delay).AnswersEach :=
  fun msg w => ⟨[answerTo msg], nofun, w.written_framed msg, fun frame member => by
    rw [List.mem_singleton.mp member]
    rfl⟩

end Delayed

end ProtobufRPC

open ProtobufRPC

/-- **A method takes the answers to its own requests**, if each of these is written with
nothing left to read, and nothing still to come, that answers another: in every sequence of
methods on an object whose session is up. -/
theorem RpcCall.correlated {σ : Type} {E : LinkEnv σ} (device : AnsweringDevice E) (pb : Protobuf)
    (self : Handle) {s : Host} {w : σ} {trace : List (LinkEvent σ)}
    (reached : Sessions E (fun call : RpcCall => call.method pb self) (fun _ _ _ => True)
      (fun s _ => (s.objects self).rpcSessionStarted = true) s w trace)
    (call : RpcCall)
    (undisturbed : ∀ event ∈ (run E (call.method pb self) s w).trace, Undisturbed device event) :
    ∃ last, Correlated none s (requests (run E (call.method pb self) s w).trace)
      (run E (call.method pb self) s w).host last := by
  have started : (s.objects self).rpcSessionStarted = true := by
    apply reached.invariant
    · exact fun _ _ => id
    · intro call s w up _
      unfold RpcCall.method
      rw [run_withLock]
      exact (call.conversation pb self).staysUp up w
  unfold RpcCall.method at undisturbed ⊢
  rw [run_withLock] at undisturbed ⊢
  have kept : KeepsStep device none _ _ _ := (call.conversation pb self).keepsStep started
    (fun impossible => nomatch impossible) undisturbed
  obtain ⟨last, correlated, -⟩ := kept
  exact ⟨last, correlated⟩

/-- A ping that is answered at once. -/
theorem RpcCall.correlated_prompt :
    ∃ last, Correlated none sessionUp
      (requests (run (delayedDevice 0) (RpcCall.method .wire 0 (.ping [0x61])) sessionUp {}).trace)
      (run (delayedDevice 0) (RpcCall.method .wire 0 (.ping [0x61])) sessionUp {}).host last := by
  refine RpcCall.correlated (delayedDevice_answering 0) .wire 0 (.start rfl) (.ping [0x61]) ?_
  have first : ((run (delayedDevice 0) (RpcCall.method .wire 0 (.ping [0x61])) sessionUp {}).trace.all
      fun event => !(LinkOp.IsRequest event.op : Bool) ||
        (event.world = {} : Bool) && (event.host.rxBuffer = [] : Bool)) = true := by
    decide +kernel
  intro event member msg op
  have fresh := List.all_eq_true.mp first event member
  have request : LinkOp.IsRequest event.op := op ▸ trivial
  simp only [request, decide_true, Bool.not_true, Bool.false_or, Bool.and_eq_true,
    decide_eq_true_eq] at fresh
  obtain ⟨world, buffer⟩ := fresh
  unfold AnsweringDevice.InStep AnsweringDevice.AnswersOnly
  rw [world, buffer]
  exact ⟨[], ⟨[], rfl, nofun, nofun⟩, rfl⟩

/-- A ping whose answer is not delivered before the method gives up. -/
def latePing : Outcome Host linkSignature Exn Delayed (Option Bytes) :=
  run (delayedDevice 1) (RpcCall.method .wire 0 (.ping [0x61])) sessionUp {}

/-- The next ping. -/
def nextPing : Outcome Host linkSignature Exn Delayed (Option Bytes) :=
  run (delayedDevice 1) (RpcCall.method .wire 0 (.ping [0x62])) latePing.host latePing.world

/-- The next ping takes the late answer for its own. -/
theorem RpcCall.late_answer :
    nextPing.result.toOption = some (some [0x61]) ∧
      ¬ ∀ (σ : Type) (E : LinkEnv σ) (device : AnsweringDevice E) (pb : Protobuf) (self : Handle)
        (s : Host) (w : σ) (trace : List (LinkEvent σ)), device.AnswersEach →
        Sessions E (fun call : RpcCall => call.method pb self) (fun _ _ _ => True)
          (fun s _ => (s.objects self).rpcSessionStarted = true) s w trace →
        ∀ call : RpcCall, ∃ last, Correlated none s
          (requests (run E (call.method pb self) s w).trace)
          (run E (call.method pb self) s w).host last := by
  refine ⟨by decide +kernel, fun claimed => ?_⟩
  have reached : Sessions (delayedDevice 1) (fun call : RpcCall => call.method .wire 0)
      (fun _ _ _ => True) (fun s _ => (s.objects 0).rpcSessionStarted = true)
      latePing.host latePing.world _ :=
    .next (RpcCall.ping [0x61]) (.start (s := sessionUp) (w := Delayed.mk [] []) rfl) trivial
  obtain ⟨last, correlated⟩ := claimed Delayed (delayedDevice 1) (delayedDevice_answering 1) .wire 0
    _ _ _ (delayedDevice_answersEach 1) reached (.ping [0x62])
  have written : (requests nextPing.trace).map (fun event => (event.op, event.host.rxLog)) =
      [(.send .request (framed { commandId := 2, content := .systemPingRequest [0x62] }), [])] := by
    decide +kernel
  have taken : nextPing.host.rxLog =
      [(answerTo { commandId := 1, content := .systemPingRequest [0x61] }).serializeToString] := by
    decide +kernel
  obtain ⟨event, only, same⟩ := List.map_eq_singleton_iff.mp written
  obtain ⟨op, log⟩ := Prod.mk.inj same
  change Correlated none latePing.host (requests nextPing.trace) nextPing.host last at correlated
  rw [only] at correlated
  have logged : nextPing.host.rxLog = event.host.rxLog ++
      [(answerTo { commandId := 1, content := .systemPingRequest [0x61] }).serializeToString] := by
    rw [log]
    exact taken
  exact absurd (correlated.answer op logged) (by decide)

end FlipperMcp
