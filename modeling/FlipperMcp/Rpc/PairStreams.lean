import FlipperMcp.Rpc.Streams

/-! # Streamed key/value reads

`system_power_info` and the streamed part of `get_device_info` fold a stream of frames, with
one pair each, into a dictionary. Neither raises when the stream breaks off: it returns the
pairs it has. So a dictionary is that of the whole stream exactly when the stream ends by
itself in time, or what was missed changes no value (`pairStreams_whole_iff`).
-/

namespace FlipperMcp

open Coroutine

namespace ProtobufRPC

/-- The value last entered for a key. -/
def entered (pairs : List (String × String)) (key : String) : Option String :=
  (pairs.filter fun pair => pair.1 = key).getLast?.map Prod.snd

/-- A dictionary holds the values last entered. -/
def Holds (pairs : List (String × String)) (info : Dict) : Prop :=
  ∀ key, info.lookup key = entered pairs key

/-- Enter the pair of a frame. -/
def enter (pair : Main → Option (String × String)) (frame : Main) (info : Dict) : Dict :=
  match pair frame with
  | some (key, value) => info.insert key value
  | none => info

/-- A pair with a key and a value. -/
def wholePair (key value : String) : Option (String × String) :=
  if key ≠ "" ∧ value ≠ "" then some (key, value) else none

/-- The pair of a power info frame. -/
def powerPair (frame : Main) : Option (String × String) :=
  match frame.content with
  | .systemPowerInfoResponse key value => wholePair key value
  | _ => none

/-- The pair of a device info frame. -/
def devicePair (frame : Main) : Option (String × String) :=
  match frame.content with
  | .systemDeviceInfoResponse key value => wholePair key value
  | _ => none

/-- The pairs of the first `n` events. -/
def Events.pairs (events : Events) (pair : Main → Option (String × String)) (n : ℕ) :
    List (String × String) := (events.frames n).filterMap pair

section Pairs

variable {pairs : List (String × String)} {pair : Main → Option (String × String)}

theorem entered_concat (last : String × String) (key : String) :
    entered (pairs ++ [last]) key = if last.1 = key then some last.2 else entered pairs key := by
  unfold entered
  rw [List.filter_append, List.filter_singleton]
  by_cases same : last.1 = key
  · simp only [same, decide_true, ↓reduceIte, cond_true, List.getLast?_concat, Option.map_some]
  · simp only [same, decide_false, ↓reduceIte, cond_false, List.append_nil]

theorem Holds.insert {info : Dict} (h : Holds pairs info) (last : String × String) :
    Holds (pairs ++ [last]) (info.insert last.1 last.2) := by
  intro key
  rw [entered_concat]
  by_cases same : last.1 = key
  · rw [if_pos same, ← same, AList.lookup_insert]
  · rw [if_neg same, AList.lookup_insert_ne (Ne.symm same), h key]

/-- **The fold holds the values last entered.** -/
theorem holds_foldl (frames : List Main) :
    Holds (frames.filterMap pair) (frames.foldl (fun info frame => enter pair frame info) ∅) := by
  induction frames using List.reverseRecOn with
  | nil => exact fun key => AList.lookup_empty key
  | append_singleton frames last ih =>
      rw [List.foldl_concat, List.filterMap_append]
      unfold enter
      cases found : pair last with
      | none =>
          rw [List.filterMap_cons_none found, List.filterMap_nil, List.append_nil]
          exact ih
      | some entry =>
          rw [List.filterMap_cons_some found, List.filterMap_nil]
          exact ih.insert entry

/-- A dictionary that holds a pair is not empty. -/
theorem Holds.eq_nil (h : Holds pairs ∅) : pairs = [] := by
  rcases List.eq_nil_or_concat pairs with none_ | ⟨earlier, last, rfl⟩
  · exact none_
  · have found := h last.1
    rw [List.concat_eq_append, entered_concat, if_pos rfl, AList.lookup_empty] at found
    exact nomatch found

theorem holds_iff {other : List (String × String)} {info : Dict} (h : Holds pairs info) :
    Holds other info ↔ ∀ key, entered other key = entered pairs key :=
  forall_congr' fun key => by rw [h key, eq_comm]

end Pairs

theorem collectPower_eq : collectPower = enter powerPair := by
  funext frame info
  unfold collectPower enter powerPair addPair wholePair
  cases frame.content with
  | systemPowerInfoResponse key value =>
      simp only
      by_cases whole : key ≠ "" ∧ value ≠ ""
      · rw [if_pos whole, if_pos whole]
      · rw [if_neg whole, if_neg whole]
  | _ => rfl

theorem collectDevice_eq : collectDevice = enter devicePair := by
  funext frame info
  unfold collectDevice enter devicePair addPair wholePair
  cases frame.content with
  | systemDeviceInfoResponse key value =>
      simp only
      by_cases whole : key ≠ "" ∧ value ≠ ""
      · rw [if_pos whole, if_pos whole]
      · rw [if_neg whole, if_neg whole]
  | _ => rfl

/-- A fold of `collectFrames` that enters the pairs of OK frames, and stops behind others. -/
structure Absorbs (pair : Main → Option (String × String)) (absorb : Main → Dict → Dict × Bool) :
    Prop where
  more : ∀ frame info, (absorb frame info).2 = decide (frame.commandStatus = CommandStatus.ok)
  ok : ∀ frame info, frame.commandStatus = CommandStatus.ok →
    (absorb frame info).1 = enter pair frame info

section Run

variable {σ : Type} {E : LinkEnv σ} {pb : Protobuf} {pair : Main → Option (String × String)}
  {absorb : Main → Dict → Dict × Bool} {events : Events}

theorem collectFrames_loop (absorbs : Absorbs pair absorb) :
    StreamLoop pb (fun frame info => (absorb frame info).1)
      (fun event info => .ok (match event with
        | none => info
        | some frame => (absorb frame info).1)) .ok (collectFrames pb absorb) where
  finish limit frame info _ final := by
    cases limit <;> simp only [collectFrames, final, Bool.false_eq_true, ↓reduceIte] <;> rfl
  ceiling _ _ _ := rfl
  more limit frame info announced := by
    simp only [collectFrames, announced, ↓reduceIte]
    congr 1
    funext event
    cases event with
    | none => rfl
    | some next =>
        simp only [absorbs.more]
        by_cases ok : next.commandStatus = CommandStatus.ok
        · simp only [ok, decide_true, ↓reduceIte]
        · simp only [ok, decide_false, Bool.false_eq_true, ↓reduceIte]
          rfl

/-- The dictionary a stream leaves. -/
inductive Gathered (pair : Main → Option (String × String)) (absorb : Main → Dict → Dict × Bool)
    (events : Events) (info : Dict) : Prop
  | whole (k : ℕ) (bounded : k ≤ 100) (whole : events.WholeAt k)
      (holds : Holds (events.pairs pair (k + 1)) info)
  | broken (k : ℕ) (bounded : k ≤ 100) (before : events.ContinuesFor k)
      (ended : ¬ Continues (events k)) (unfinished : ¬ Finishes (events k))
      (holds : (∀ frame info, (absorb frame info).1 = enter pair frame info) →
        Holds (events.pairs pair (k + 1)) info)
  | beyond (all : events.ContinuesFor 101) (holds : Holds (events.pairs pair 101) info)

theorem collected_eq (absorbs : Absorbs pair absorb) {k : ℕ} (before : events.ContinuesFor k) :
    StreamLoop.collected (fun frame info => (absorb frame info).1) events k ∅ =
      (events.frames k).foldl (fun info frame => enter pair frame info) ∅ := by
  unfold StreamLoop.collected
  apply List.foldl_ext
  intro info frame member
  obtain ⟨i, below, event⟩ := List.mem_filterMap.mp member
  obtain ⟨_, same, ok, -⟩ := before i (List.mem_range.mp below)
  obtain rfl := Option.some.inj (event.symm.trans same)
  exact absorbs.ok frame info ok

/-- **One streamed read** whose request is answered by an OK frame. -/
theorem gathered_request {β : Type} {request : Link (Option Main)} {body : Option Main → Link β}
    {s : Host} {w : σ} (make : Dict → β) (absorbs : Absorbs pair absorb)
    (answered : Answered pb E request events s w) (accepted : Accepted (events 0))
    (streamed : ∀ first, first.commandStatus = CommandStatus.ok → body (some first) =
      collectFrames pb absorb 100 first (absorb first ∅).1 >>= fun info => pure (make info)) :
    ∃ info, (run E (request >>= body) s w).result = .ok (make info) ∧
      Gathered pair absorb events info := by
  have ends := ((collectFrames_loop absorbs).map make).ends_request answered accepted streamed
  have holds : ∀ n, Holds (events.pairs pair n)
      ((events.frames n).foldl (fun info frame => enter pair frame info) ∅) :=
    fun n => holds_foldl _
  rcases events.ended_or_continuesFor 101 with all | ⟨k, below, before, ended⟩
  · refine ⟨_, ends.beyond all, .beyond all ?_⟩
    rw [collected_eq absorbs all]
    exact holds 101
  · have bounded := Nat.le_of_lt_succ below
    refine ⟨_, ends.ended k bounded before ended, ?_⟩
    rw [collected_eq absorbs before]
    cases event : events k with
    | none =>
        apply Gathered.broken k bounded before ended
        · rintro ⟨_, same, -⟩
          exact nomatch event.symm.trans same
        · intro _
          have same : events.frames (k + 1) = events.frames k := by
            unfold Events.frames
            rw [List.range_succ, List.filterMap_append, List.filterMap_cons_none event,
              List.filterMap_nil, List.append_nil]
          unfold Events.pairs
          rw [same]
          exact holds k
    | some last =>
        have next : (∀ info, (absorb last info).1 = enter pair last info) →
            Holds (events.pairs pair (k + 1)) (absorb last
              ((events.frames k).foldl (fun info frame => enter pair frame info) ∅)).1 := by
          intro enters
          have all := holds (k + 1)
          rw [Events.frames_succ_last event, List.foldl_concat] at all
          rw [enters]
          exact all
        by_cases finished : Finishes (events k)
        · obtain ⟨_, same, ok, -⟩ := id finished
          obtain rfl := Option.some.inj (event.symm.trans same)
          exact .whole k bounded ⟨before, finished⟩ (next fun info => absorbs.ok _ info ok)
        · exact .broken k bounded before ended finished fun enters => next (enters last)

/-- The frames up to event `k` hold the same as the first hundred and one. -/
def MissesNothing (pair : Main → Option (String × String)) (events : Events) (k : ℕ) : Prop :=
  ∀ key, entered (events.pairs pair (k + 1)) key = entered (events.pairs pair 101) key

/-- A dictionary is that of the whole stream exactly when the stream ends in time, or what is
missed changes nothing. -/
theorem Gathered.whole_iff {info : Dict} (h : Gathered pair absorb events info) :
    (∃ k, events.WholeAt k ∧ Holds (events.pairs pair (k + 1)) info) ↔
      ∃ k, events.WholeAt k ∧ (k ≤ 100 ∨ MissesNothing pair events k) := by
  have unique : ∀ {k l}, events.WholeAt k → events.ContinuesFor l → ¬ Continues (events l) → k = l :=
    fun whole before ended => Events.ends_unique whole.1 whole.2.not_continues before ended
  cases h with
  | whole k bounded whole holds =>
      exact ⟨fun _ => ⟨k, whole, .inl bounded⟩, fun _ => ⟨k, whole, holds⟩⟩
  | broken k bounded before ended unfinished holds =>
      constructor
      · rintro ⟨l, whole, -⟩
        obtain rfl := unique whole before ended
        exact absurd whole.2 unfinished
      · rintro ⟨l, whole, -⟩
        obtain rfl := unique whole before ended
        exact absurd whole.2 unfinished
  | beyond all holds =>
      apply exists_congr
      intro k
      apply and_congr_right
      intro whole
      have late : ¬ k ≤ 100 := by
        intro early
        exact absurd (all k (Nat.lt_succ_of_le early)) whole.2.not_continues
      rw [holds_iff holds]
      exact ⟨.inr, fun same => same.resolve_left late⟩

/-- No event the loop reaches holds a pair. -/
def HoldsNothing (pair : Main → Option (String × String)) (events : Events) : Prop :=
  ∀ i ≤ 100, events.ContinuesFor i → ∀ frame, events i = some frame → pair frame = none

theorem pairs_eq_nil_iff {n : ℕ} : events.pairs pair n = [] ↔
    ∀ i < n, ∀ frame, events i = some frame → pair frame = none := by
  unfold Events.pairs Events.frames
  simp only [List.filterMap_eq_nil_iff, List.mem_filterMap, List.mem_range, forall_exists_index,
    and_imp]
  exact ⟨fun h i below frame event => h frame i below event,
    fun h frame i below event => h i below frame event⟩

theorem Holds.keys_eq_nil_iff {pairs : List (String × String)} {info : Dict} (h : Holds pairs info) :
    info.keys = [] ↔ pairs = [] := by
  constructor
  · intro empty
    apply Holds.eq_nil
    intro key
    rw [← h key, AList.lookup_empty, eq_comm, AList.lookup_eq_none, AList.mem_keys, empty]
    exact List.not_mem_nil
  · rintro rfl
    apply List.eq_nil_iff_forall_not_mem.mpr
    intro key member
    rw [← AList.mem_keys, ← AList.lookup_isSome, h key] at member
    exact Bool.false_ne_true member

/-- Where the frame that ends a stream enters its pair too, the dictionary can also be empty:
when no frame holds a pair. -/
theorem Gathered.empty_or_whole_iff {info : Dict} (h : Gathered pair absorb events info)
    (enters : ∀ frame info, (absorb frame info).1 = enter pair frame info) :
    (info.keys = [] ∨ ∃ k, events.WholeAt k ∧ Holds (events.pairs pair (k + 1)) info) ↔
      (∃ k, events.WholeAt k ∧ (k ≤ 100 ∨ MissesNothing pair events k)) ∨
        HoldsNothing pair events := by
  rw [h.whole_iff, or_comm]
  cases h with
  | whole k bounded whole _ =>
      exact ⟨fun _ => .inl ⟨k, whole, .inl bounded⟩, fun _ => .inl ⟨k, whole, .inl bounded⟩⟩
  | broken k bounded before ended _ holds =>
      apply or_congr_right
      rw [(holds enters).keys_eq_nil_iff, pairs_eq_nil_iff]
      constructor
      · intro nothing i _ reached
        apply nothing i
        by_contra beyond
        exact ended (reached k (Nat.lt_of_succ_le (Nat.le_of_not_lt beyond)))
      · intro nothing i below
        apply nothing i ((Nat.le_of_lt_succ below).trans bounded)
        exact fun j earlier => before j (earlier.trans_le (Nat.le_of_lt_succ below))
  | beyond all holds =>
      apply or_congr_right
      rw [holds.keys_eq_nil_iff, pairs_eq_nil_iff]
      constructor
      · exact fun nothing i bounded _ => nothing i (Nat.lt_succ_of_le bounded)
      · intro nothing i below
        exact nothing i (Nat.le_of_lt_succ below) fun j earlier => all j (earlier.trans below)

variable (pb : Protobuf) (self : Handle)

/-- What `_system_power_info_internal` makes of the first answer. -/
def powerAnswer : Option Main → Link (Option Dict)
  | none => pure none
  | some first =>
      if first.commandStatus = CommandStatus.ok then do
        let info ← collectFrames pb (fun next info =>
          if next.commandStatus = CommandStatus.ok then (collectPower next info, true)
          else (info, false)) 100 first (collectPower first ∅)
        pure (some info)
      else pure none

theorem systemPowerInfoBody_eq : systemPowerInfoBody pb self =
    timed 6 none (exchange pb self .systemPowerInfoRequest defaultTimeout >>= powerAnswer pb) := rfl

/-- What the streamed part of `_get_device_info_internal` makes of the first answer. -/
def deviceAnswer : Option Main → Link Dict
  | none => pure ∅
  | some first =>
      if first.commandStatus = CommandStatus.ok then
        collectFrames pb (fun next info =>
          (collectDevice next info, next.commandStatus = CommandStatus.ok))
          100 first (collectDevice first ∅)
      else pure ∅

/-- The streamed part of `_get_device_info_internal`. -/
def deviceInfoStream : Link Dict :=
  guarded ∅ (exchange pb self .systemDeviceInfoRequest defaultTimeout >>= deviceAnswer pb)

theorem power_absorbs : Absorbs powerPair fun next info =>
    if next.commandStatus = CommandStatus.ok then (collectPower next info, true)
    else (info, false) where
  more frame info := by
    by_cases ok : frame.commandStatus = CommandStatus.ok
    · simp only [ok, ↓reduceIte, decide_true]
    · simp only [ok, ↓reduceIte, decide_false]
  ok frame info ok := by
    simp only [ok, ↓reduceIte, collectPower_eq]

theorem device_absorbs : Absorbs devicePair fun next info =>
    (collectDevice next info, next.commandStatus = CommandStatus.ok) where
  more _ _ := rfl
  ok frame info _ := by rw [collectDevice_eq]

variable {s : Host} {w : σ}

/-- The power info is no dictionary, or the one its stream leaves. -/
theorem run_systemPowerInfo (answered : Answered pb E
      (exchange pb self .systemPowerInfoRequest defaultTimeout) events s (E (.startTimeout 6) w).2) :
    (¬ Accepted (events 0) ∧ (run E (systemPowerInfoBody pb self) s w).result = .ok none) ∨
      Accepted (events 0) ∧ ∃ info absorb, Gathered powerPair absorb events info ∧
        (run E (systemPowerInfoBody pb self) s w).result = .ok (some info) := by
  rw [systemPowerInfoBody_eq, (run_timed ..).1]
  by_cases accepted : Accepted (events 0)
  · have streamed : ∀ first, first.commandStatus = CommandStatus.ok → powerAnswer pb (some first) =
        collectFrames pb (fun next info =>
          if next.commandStatus = CommandStatus.ok then (collectPower next info, true)
          else (info, false)) 100 first (if first.commandStatus = CommandStatus.ok then
            (collectPower first ∅, true) else (∅, false)).1 >>= fun info => pure (some info) := by
      intro first ok
      simp only [powerAnswer, ok, ↓reduceIte]
    obtain ⟨info, returned, gathered⟩ :=
      gathered_request some power_absorbs answered accepted streamed
    exact .inr ⟨accepted, info, _, gathered, by rw [returned]; rfl⟩
  · have refused : powerAnswer pb (events 0) = Coro.ofExcept (.ok none) := by
      unfold powerAnswer
      cases event : events 0 with
      | none => rfl
      | some first => exact if_neg fun ok => accepted ⟨first, event, ok⟩
    exact .inl ⟨accepted, by rw [StreamLoop.result_request answered _ refused]; rfl⟩

/-- The streamed part of the device info is empty, or what its stream leaves. -/
theorem run_deviceInfoStream (answered : Answered pb E
      (exchange pb self .systemDeviceInfoRequest defaultTimeout) events s w) :
    (¬ Accepted (events 0) ∧ (run E (deviceInfoStream pb self) s w).result = .ok ∅) ∨
      Accepted (events 0) ∧ ∃ info, Gathered devicePair (fun next info =>
          (collectDevice next info, decide (next.commandStatus = CommandStatus.ok))) events info ∧
        (run E (deviceInfoStream pb self) s w).result = .ok info := by
  unfold deviceInfoStream
  rw [run_guarded]
  by_cases accepted : Accepted (events 0)
  · have streamed : ∀ first, first.commandStatus = CommandStatus.ok → deviceAnswer pb (some first) =
        collectFrames pb (fun next info =>
          (collectDevice next info, next.commandStatus = CommandStatus.ok)) 100 first
          (collectDevice first ∅) >>= fun info => pure (id info) := by
      intro first ok
      simp only [deviceAnswer, ok, ↓reduceIte, id, bind_pure]
    obtain ⟨info, returned, gathered⟩ :=
      gathered_request id device_absorbs answered accepted streamed
    exact .inr ⟨accepted, info, gathered, by rw [returned]; rfl⟩
  · have refused : deviceAnswer pb (events 0) = Coro.ofExcept (.ok ∅) := by
      unfold deviceAnswer
      cases event : events 0 with
      | none => rfl
      | some first => exact if_neg fun ok => accepted ⟨first, event, ok⟩
    exact .inl ⟨accepted, by rw [StreamLoop.result_request answered _ refused]; rfl⟩

/-- **When a streamed read is not cut short.** The power info is none or the dictionary of the
whole stream exactly when the request is not accepted, or the stream ends in time, or what is
missed changes nothing. The streamed part of the device info is empty or the dictionary of the
whole stream in the same cases, and when no frame it reaches holds a pair. -/
theorem pairStreams_whole_iff :
    (∀ events, Answered pb E (exchange pb self .systemPowerInfoRequest defaultTimeout) events s
        (E (.startTimeout 6) w).2 →
      let result : Except Exn (Option Dict) :=
        (run E (RpcCall.systemPowerInfo.method pb self) s w).result
      (result = .ok none ∨ ∃ info k, result = .ok (some info) ∧ events.WholeAt k ∧
          Holds (events.pairs powerPair (k + 1)) info) ↔
        ¬ Accepted (events 0) ∨
          ∃ k, events.WholeAt k ∧ (k ≤ 100 ∨ MissesNothing powerPair events k)) ∧
    ∀ events, Answered pb E (exchange pb self .systemDeviceInfoRequest defaultTimeout) events s w →
      let result := (run E (deviceInfoStream pb self) s w).result
      (∃ info, result = .ok info ∧ (info.keys = [] ∨ ∃ k, events.WholeAt k ∧
          Holds (events.pairs devicePair (k + 1)) info)) ↔
        ¬ Accepted (events 0) ∨
          (∃ k, events.WholeAt k ∧ (k ≤ 100 ∨ MissesNothing devicePair events k)) ∨
          HoldsNothing devicePair events := by
  constructor
  · intro events answered
    unfold RpcCall.method
    rw [run_withLock]
    rcases run_systemPowerInfo pb self answered with
      ⟨refused, returned⟩ | ⟨accepted, info, absorb, gathered, returned⟩
    · exact ⟨fun _ => .inl refused, fun _ => .inl returned⟩
    · rw [← gathered.whole_iff]
      constructor
      · rintro (none_ | ⟨_, k, same, whole⟩)
        · exact nomatch Except.ok.inj (returned.symm.trans none_)
        · obtain rfl := Option.some.inj (Except.ok.inj (returned.symm.trans same))
          exact .inr ⟨k, whole⟩
      · rintro (refused | ⟨k, whole⟩)
        · exact absurd accepted refused
        · exact .inr ⟨info, k, returned, whole⟩
  · intro events answered
    rcases run_deviceInfoStream pb self answered with
      ⟨refused, returned⟩ | ⟨accepted, info, gathered, returned⟩
    · exact ⟨fun _ => .inl refused, fun _ => ⟨∅, returned, .inl rfl⟩⟩
    · have entered := gathered.empty_or_whole_iff fun frame info => by rw [collectDevice_eq]
      rw [← entered]
      constructor
      · rintro ⟨_, same, whole⟩
        obtain rfl := Except.ok.inj (returned.symm.trans same)
        exact .inr whole
      · rintro (refused | whole)
        · exact absurd accepted refused
        · exact ⟨info, returned, whole⟩

end Run

/-- A power info frame. -/
def powerFrame (key value : String) (hasNext : Bool) : Main where
  hasNext := hasNext
  content := .systemPowerInfoResponse key value

/-- Two frames that arrive: the dictionary is whole. -/
theorem pairStreams_whole_two :
    let events : Events := fun i =>
      [powerFrame "charge_level" "95" true, powerFrame "charge_state" "charging" false][i]?
    let result : Except Exn (Option Dict) := (run chunkQueue
      (RpcCall.systemPowerInfo.method Protobuf.wire 0) sessionUp ((events.frames 2).map framed)).result
    result = .ok none ∨ ∃ info k, result = .ok (some info) ∧ events.WholeAt k ∧
      Holds (events.pairs powerPair (k + 1)) info := by
  intro events
  have final : Finishes (events 1) := ⟨_, rfl, rfl, rfl⟩
  have answered : Answered Protobuf.wire chunkQueue
      (exchange Protobuf.wire 0 .systemPowerInfoRequest defaultTimeout) events sessionUp
      ((events.frames 2).map framed) :=
    ⟨by decide +kernel, fun _ => ⟨by decide +kernel, fun more => absurd more final.not_continues⟩⟩
  have whole : events.WholeAt 1 := by
    refine ⟨fun i below => ?_, final⟩
    obtain rfl := Nat.lt_one_iff.mp below
    exact ⟨_, rfl, rfl, rfl⟩
  exact ((pairStreams_whole_iff Protobuf.wire 0).1 events answered).mpr
    (.inr ⟨1, whole, .inl (by decide)⟩)

/-- One frame that announces another, and then nothing: its pair is returned. -/
theorem pairStreams_cut_short :
    ¬ ∀ (pb : Protobuf) (self : Handle) (events : Events) (s : Host) (w : List Bytes),
      Answered pb chunkQueue (exchange pb self .systemPowerInfoRequest defaultTimeout) events s w →
      let result : Except Exn (Option Dict) :=
        (run chunkQueue (RpcCall.systemPowerInfo.method pb self) s w).result
      result = .ok none ∨ ∃ info k, result = .ok (some info) ∧ events.WholeAt k ∧
        Holds (events.pairs powerPair (k + 1)) info := by
  intro claimed
  have nothing : ¬ Continues none := by
    rintro ⟨_, same, -⟩
    exact nomatch same
  have partial_ := claimed Protobuf.wire 0 (fun i => [powerFrame "charge_level" "95" true][i]?)
    sessionUp [framed (powerFrame "charge_level" "95" true)]
    ⟨by decide +kernel, fun _ => ⟨by decide +kernel, fun more => absurd more nothing⟩⟩
  have returned : (run chunkQueue (RpcCall.systemPowerInfo.method Protobuf.wire 0) sessionUp
      [framed (powerFrame "charge_level" "95" true)]).result.map Option.isSome = .ok true := by
    decide +kernel
  rcases partial_ with none_ | ⟨_, k, -, ⟨before, finished⟩, -⟩
  · rw [none_] at returned
    exact nomatch Except.ok.inj returned
  · rcases k with - | k
    · obtain ⟨_, same, -, final⟩ := finished
      obtain rfl := Option.some.inj same
      exact nomatch final
    · cases k with
      | zero =>
          obtain ⟨_, same, -⟩ := finished
          exact nomatch same
      | succ k => exact nothing (before 1 (Nat.succ_lt_succ (Nat.succ_pos k)))

end ProtobufRPC

end FlipperMcp
