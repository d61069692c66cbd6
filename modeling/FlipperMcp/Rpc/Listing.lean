import FlipperMcp.Rpc.Streams

/-! # Directory listings

`storage_list` and `storage_list_detailed` read one stream of frames. A listing is complete or
an error: it names the files of every frame up to the one that announces no other, and a
stream that is cut short, refused or too long raises (`storageList_complete`).
-/

namespace FlipperMcp

open Coroutine

namespace ProtobufRPC

variable {σ : Type} {E : LinkEnv σ}

/-- The request of a listing, with its first answer. -/
def listRequest (pb : Protobuf) (self : Handle) (path : String) (includeMd5 : Bool)
    (filterMaxSize : ℤ) : Link (Option Main) := do
  let commandId ← getNextCommandId self
  let maxSize ← Coro.ofExcept (maxSizeCode filterMaxSize)
  sendRpcMessage pb self
    { commandId := commandId, content := .storageListRequest path includeMd5 maxSize }
    defaultTimeout

/-- What the generator makes of the first answer. -/
def listAnswer (pb : Protobuf) (path : String) : Option Main → Link (List Main)
  | none => .raise (.flipperTimeoutError s!"storage_list({path}): no response from device")
  | some first =>
      if first.commandStatus = CommandStatus.ok then do
        let frames ← storageListRest pb path 100 first
        pure (first :: frames)
      else .raise (.flipperProtocolError
        s!"storage_list({path}): device returned status {first.commandStatus.toInt}")

theorem storageListFrames_eq (pb : Protobuf) (self : Handle) (path : String) (includeMd5 : Bool)
    (filterMaxSize : ℤ) : storageListFrames pb self path includeMd5 filterMaxSize =
      listRequest pb self path includeMd5 filterMaxSize >>= listAnswer pb path := by
  unfold listRequest
  rw [bind_assoc]
  simp only [bind_assoc]
  rfl

/-- What a listing ends with at an event that does not announce another. -/
def listEnding (path : String) (event : Option Main) (frames : List Main) : Except Exn (List Main) :=
  match event with
  | none => .error (.flipperTimeoutError
      s!"storage_list({path}): truncated; a continuation frame never arrived")
  | some frame =>
      if frame.commandStatus = CommandStatus.ok then .ok (frames ++ [frame])
      else .error (.flipperProtocolError
        s!"storage_list({path}): status {frame.commandStatus.toInt} mid-stream")

/-- The loop of `_storage_list_frames`, with the frames it has yielded. -/
theorem storageListRest_loop (pb : Protobuf) (path : String) :
    StreamLoop pb (fun frame frames => frames ++ [frame]) (listEnding path)
      (fun _ => .error (.flipperProtocolError
        s!"storage_list({path}): exceeded 100 continuation frames"))
      (fun limit last frames => do
        let rest ← storageListRest pb path limit last
        pure (frames ++ rest)) where
  finish limit frame frames ok final := by
    unfold storageListRest listEnding
    simp only [final, ok, Bool.false_eq_true, ↓reduceIte, pure_bind, List.append_nil]
    rfl
  ceiling frame frames announced := by
    unfold storageListRest
    simp only [announced, ↓reduceIte]
    rfl
  more limit frame frames announced := by
    rw [storageListRest]
    simp only [announced, ↓reduceIte, bind_assoc]
    congr 1
    funext event
    cases event with
    | none => rfl
    | some next =>
        by_cases ok : next.commandStatus = CommandStatus.ok
        · simp only [ok, ↓reduceIte, bind_assoc, pure_bind, List.append_assoc,
            List.singleton_append]
        · simp only [ok, listEnding, ↓reduceIte]
          rfl

theorem collected_frames (events : Events) (k : ℕ) :
    StreamLoop.collected (fun frame frames => frames ++ [frame]) events k [] = events.frames k := by
  have all : ∀ (frames collected : List Main),
      frames.foldl (fun info frame => info ++ [frame]) collected = collected ++ frames := by
    intro frames
    induction frames with
    | nil => exact fun collected => (List.append_nil collected).symm
    | cons frame frames ih =>
        intro collected
        rw [List.foldl_cons, ih, List.append_assoc, List.singleton_append]
  exact all _ []

/-- What a listing of frames returns or raises. -/
structure ListsAll (events : Events) (result : Except Exn (List Main)) : Prop where
  whole : ∀ k ≤ 100, events.WholeAt k → result = .ok (events.frames (k + 1))
  missing : ∀ k ≤ 100, events.ContinuesFor k → events k = none →
    ∃ text, result = .error (.flipperTimeoutError text)
  refused : ∀ k ≤ 100, ∀ frame, events.ContinuesFor k → events k = some frame →
    frame.commandStatus ≠ CommandStatus.ok → ∃ text, result = .error (.flipperProtocolError text)
  beyond : events.ContinuesFor 101 → ∃ text, result = .error (.flipperProtocolError text)

variable (pb : Protobuf) (self : Handle) (path : String) (includeMd5 : Bool) (filterMaxSize : ℤ)
  {events : Events} {s : Host} {w : σ}

/-- A listing whose first answer is an OK frame. -/
theorem listsAll_accepted
    (answered : Answered pb E (listRequest pb self path includeMd5 filterMaxSize) events s w)
    (accepted : Accepted (events 0)) :
    ListsAll events (run E (storageListFrames pb self path includeMd5 filterMaxSize) s w).result := by
  have streamed : ∀ first, first.commandStatus = CommandStatus.ok → listAnswer pb path (some first) =
      storageListRest pb path 100 first >>= fun rest => pure ([] ++ [first] ++ rest) := by
    intro first ok
    unfold listAnswer
    simp only [ok, ↓reduceIte]
    rfl
  have ends := (storageListRest_loop pb path).ends_request answered accepted streamed
  rw [← storageListFrames_eq] at ends
  constructor
  · intro k bounded whole
    have ended := whole.2.not_continues
    obtain ⟨last, event, ok, -⟩ := whole.2
    rw [ends.ended k bounded whole.1 ended, collected_frames, event, Events.frames_succ_last event,
      listEnding, if_pos ok]
  · intro k bounded before missing
    have ended : ¬ Continues (events k) := by
      rintro ⟨frame, same, -⟩
      exact nomatch missing.symm.trans same
    exact ⟨_, by rw [ends.ended k bounded before ended, missing, listEnding]⟩
  · intro k bounded frame before event status
    have ended : ¬ Continues (events k) := by
      rintro ⟨_, same, ok, -⟩
      obtain rfl := Option.some.inj (event.symm.trans same)
      exact status ok
    exact ⟨_, by rw [ends.ended k bounded before ended, event, listEnding, if_neg status]⟩
  · intro all
    exact ⟨_, ends.beyond all⟩

/-- A listing whose first answer is no OK frame. -/
theorem listsAll_refused
    (answered : Answered pb E (listRequest pb self path includeMd5 filterMaxSize) events s w)
    (refused : ¬ Accepted (events 0)) :
    ListsAll events (run E (storageListFrames pb self path includeMd5 filterMaxSize) s w).result := by
  have first : ∀ k, events.ContinuesFor k → k = 0 := by
    intro k before
    by_contra later
    exact refused (before 0 (Nat.pos_of_ne_zero later)).accepted
  rw [storageListFrames_eq]
  constructor
  · intro k _ whole
    obtain rfl := first k whole.1
    obtain ⟨last, event, ok, -⟩ := whole.2
    exact absurd ⟨last, event, ok⟩ refused
  · intro k _ before missing
    obtain rfl := first k before
    refine ⟨_, StreamLoop.result_request answered (.error (.flipperTimeoutError
      s!"storage_list({path}): no response from device")) ?_⟩
    rw [missing]
    rfl
  · intro k _ frame before event status
    obtain rfl := first k before
    refine ⟨_, StreamLoop.result_request answered (.error (.flipperProtocolError
      s!"storage_list({path}): device returned status {frame.commandStatus.toInt}")) ?_⟩
    rw [event, listAnswer, if_neg status]
    rfl
  · exact fun all => absurd (first 101 all) (by decide)

/-- **One listing.** -/
theorem run_storageListFrames
    (answered : Answered pb E (listRequest pb self path includeMd5 filterMaxSize) events s w) :
    ListsAll events (run E (storageListFrames pb self path includeMd5 filterMaxSize) s w).result := by
  by_cases accepted : Accepted (events 0)
  · exact listsAll_accepted pb self path includeMd5 filterMaxSize answered accepted
  · exact listsAll_refused pb self path includeMd5 filterMaxSize answered accepted

/-- **A listing is complete or an error.** Let event `k` be the first that does not announce
another frame. An OK frame there completes the listing, and nothing else does; a hundred and
one frames that announce another are too many. Both listings agree. -/
theorem storageList_complete
    (answered : Answered pb E (listRequest pb self path includeMd5 filterMaxSize) events s w) :
    let detailed : Except Exn (List StorageEntry) :=
      (run E ((RpcCall.storageListDetailed path includeMd5 filterMaxSize).method pb self) s w).result
    let names : Except Exn (List String) :=
      (run E ((RpcCall.storageList path includeMd5 filterMaxSize).method pb self) s w).result
    (∀ k ≤ 100, events.ContinuesFor k →
      (Finishes (events k) → detailed =
        .ok (((events.frames (k + 1)).flatMap listedFiles).map (entryOf includeMd5))) ∧
      (events k = none → ∃ text, detailed = .error (.flipperTimeoutError text)) ∧
      ∀ frame, events k = some frame → frame.commandStatus ≠ CommandStatus.ok →
        ∃ text, detailed = .error (.flipperProtocolError text)) ∧
    (events.ContinuesFor 101 → ∃ text, detailed = .error (.flipperProtocolError text)) ∧
    names = detailed.map (List.map StorageEntry.name) := by
  have listed := run_storageListFrames pb self path includeMd5 filterMaxSize answered
  have detailed : (run E ((RpcCall.storageListDetailed path includeMd5 filterMaxSize).method pb self)
      s w).result = (run E (storageListFrames pb self path includeMd5 filterMaxSize) s w).result.map
        fun frames => (frames.flatMap listedFiles).map (entryOf includeMd5) := by
    unfold RpcCall.method
    rw [run_withLock]
    exact congrArg Outcome.result (run_bind_pure ..)
  have names : (run E ((RpcCall.storageList path includeMd5 filterMaxSize).method pb self)
      s w).result = (run E (storageListFrames pb self path includeMd5 filterMaxSize) s w).result.map
        fun frames => (frames.flatMap listedFiles).map File.name := by
    unfold RpcCall.method
    rw [run_withLock]
    exact congrArg Outcome.result (run_bind_pure ..)
  dsimp only
  rw [names, detailed]
  generalize (run E (storageListFrames pb self path includeMd5 filterMaxSize) s w).result = result
    at listed
  refine ⟨fun k bounded before => ⟨?_, ?_, ?_⟩, ?_, ?_⟩
  · intro finished
    rw [listed.whole k bounded ⟨before, finished⟩]
    rfl
  · intro missing
    obtain ⟨text, rfl⟩ := listed.missing k bounded before missing
    exact ⟨text, rfl⟩
  · intro frame event status
    obtain ⟨text, rfl⟩ := listed.refused k bounded frame before event status
    exact ⟨text, rfl⟩
  · intro all
    obtain ⟨text, rfl⟩ := listed.beyond all
    exact ⟨text, rfl⟩
  · cases result with
    | error e => rfl
    | ok frames =>
        simp only [Except.map, List.map_map]
        rfl

/-- A directory and a file, in two frames. -/
theorem storageList_complete_two :
    let frames : List Main :=
      [{ hasNext := true, content := .storageListResponse [{ name := "dir", type := fileTypeDir }] },
        { content := .storageListResponse [{ name := "" }, { name := "file", size := 3 }] }]
    (run chunkQueue ((RpcCall.storageListDetailed "/ext" false 0).method Protobuf.wire 0) sessionUp
      (frames.map framed)).result =
      .ok [⟨"dir", "DIR", 0, none⟩, ⟨"file", "FILE", 3, none⟩] := by
  intro frames
  have final : Finishes frames[1]? := ⟨_, rfl, rfl, rfl⟩
  have answered : Answered Protobuf.wire chunkQueue (listRequest Protobuf.wire 0 "/ext" false 0)
      (fun i => frames[i]?) sessionUp (frames.map framed) :=
    ⟨by decide +kernel, fun _ => ⟨by decide +kernel, fun more => absurd more final.not_continues⟩⟩
  have before : Events.ContinuesFor (fun i => frames[i]?) 1 := by
    intro i below
    obtain rfl := Nat.lt_one_iff.mp below
    exact ⟨_, rfl, rfl, rfl⟩
  exact ((storageList_complete Protobuf.wire 0 "/ext" false 0 answered).1 1 (by decide) before).1 final

end ProtobufRPC

end FlipperMcp
