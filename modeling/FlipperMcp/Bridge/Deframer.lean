import FlipperMcp.Bridge.Frames
import FlipperMcp.Bridge.Journal
import FlipperMcp.Bridge.ReceiveBuffer
import FlipperMcp.Coroutine.Outline
import FlipperMcp.Wire.Greedy

/-! # The deframer of the bridge

The receive task cuts what it reads into frames and skipped bytes as `get_frame_size` says. It
is a greedy parser: between two reads, what it has handed on and what is left in the buffer are
the parse of everything read, however it arrived, and the rest is too short to fill the buffer
(`deframer_greedy`).
-/

namespace FlipperMcp

open Coroutine

/-- What the receive task finds in front of the stream. -/
inductive Item
  | frame (bytes : List UInt8)
  | skipped (byte : UInt8)
  deriving DecidableEq

/-- The bytes it takes. -/
def Item.bytes : Item → List UInt8
  | frame bytes => bytes
  | skipped byte => [byte]

namespace Bridge

/-- The item in front of a stream, by `get_frame_size`. -/
def nextItem : List UInt8 → Option (Item × List UInt8)
  | [] => none
  | first :: later =>
      let stream := first :: later
      let frameSize := getFrameSize first (fun i => stream.getD i 0) stream.length
      if frameSize = -1 then none
      else if frameSize = -2 then some (.skipped first, later)
      else if frameSize.toNat ≤ stream.length then
        some (.frame (stream.take frameSize.toNat), stream.drop frameSize.toNat)
      else none

section Sizes

variable {frameType : UInt8} {data : ℕ → UInt8} {available : ℕ}

/-- More bytes are needed, or one is skipped, or the frame has at most 67 bytes. -/
theorem getFrameSize_cases (frameType : UInt8) (data : ℕ → UInt8) (available : ℕ) :
    (getFrameSize frameType data available = -1 ∧ available < 2) ∨
      getFrameSize frameType data available = -2 ∨
      (2 ≤ getFrameSize frameType data available ∧ getFrameSize frameType data available ≤ 67) := by
  have payload : expDataMaxPayload = 64 := rfl
  unfold getFrameSize
  split_ifs <;> omega

/-- What follows does not change the size. -/
theorem getFrameSize_congr {data' : ℕ → UInt8} {available' : ℕ}
    (complete : getFrameSize frameType data available ≠ -1) (more : available ≤ available')
    (same : 2 ≤ available → data' 1 = data 1) :
    getFrameSize frameType data' available' = getFrameSize frameType data available := by
  unfold getFrameSize at complete ⊢
  by_cases isData : frameType = expFrameData
  · subst isData
    by_cases known : 2 ≤ available
    · simp only [known, Nat.le_trans known more, same known, ↓reduceIte]
    · simp [expFrameData, expFrameHeartbeat, expFrameStatus, expFrameBaudRate, expFrameControl,
        known] at complete
  · simp only [isData, ↓reduceIte]

/-- The size of a DATA frame. -/
theorem getFrameSize_data (known : 2 ≤ available) (small : (data 1).toNat ≤ expDataMaxPayload) :
    getFrameSize expFrameData data available = ((data 1).toNat + 3 : ℕ) := by
  unfold getFrameSize
  rw [if_neg (by decide), if_neg (by decide), if_neg (by decide), if_neg (by decide), if_pos rfl,
    if_pos known, if_neg (Nat.not_lt.mpr small)]
  omega

end Sizes

section Greedy

variable {stream rest : List UInt8} {item : Item}

theorem nextItem_bytes (found : nextItem stream = some (item, rest)) : item.bytes ++ rest = stream := by
  cases stream with
  | nil => exact nomatch found
  | cons first later =>
      simp only [nextItem] at found
      split_ifs at found with _ _ fits
      · obtain ⟨rfl, rfl⟩ := Prod.mk.inj (Option.some.inj found)
        rfl
      · obtain ⟨rfl, rfl⟩ := Prod.mk.inj (Option.some.inj found)
        exact List.take_append_drop ..

theorem nextItem_shrinks (found : nextItem stream = some (item, rest)) :
    rest.length < stream.length := by
  have whole := congrArg List.length (nextItem_bytes found)
  rw [List.length_append] at whole
  suffices item.bytes ≠ [] by
    have := List.length_pos_iff.mpr this
    omega
  cases stream with
  | nil => exact nomatch found
  | cons first later =>
      simp only [nextItem] at found
      split_ifs at found with waits skips fits
      · obtain ⟨rfl, -⟩ := Prod.mk.inj (Option.some.inj found)
        exact List.cons_ne_nil _ _
      · obtain ⟨rfl, -⟩ := Prod.mk.inj (Option.some.inj found)
        rcases getFrameSize_cases first (fun i => (first :: later).getD i 0) (first :: later).length
          with ⟨waits', _⟩ | skips' | ⟨two, _⟩
        · exact absurd waits' waits
        · exact absurd skips' skips
        · rw [Item.bytes, ← List.length_pos_iff, List.length_take]
          omega

theorem nextItem_stable (found : nextItem stream = some (item, rest)) (later : List UInt8) :
    nextItem (stream ++ later) = some (item, rest ++ later) := by
  cases stream with
  | nil => exact nomatch found
  | cons first tail =>
      have same : getFrameSize first (fun i => (first :: tail).getD i 0) (first :: tail).length ≠ -1 →
          getFrameSize first (fun i => (first :: (tail ++ later)).getD i 0)
            (first :: (tail ++ later)).length =
          getFrameSize first (fun i => (first :: tail).getD i 0) (first :: tail).length := by
        intro complete
        apply getFrameSize_congr complete
        · rw [List.length_cons, List.length_cons, List.length_append]
          omega
        · intro two
          change (tail ++ later).getD 0 0 = tail.getD 0 0
          cases tail with
          | nil => exact absurd two (Nat.lt_irrefl 1)
          | cons second tail => rfl
      rw [List.cons_append]
      simp only [nextItem] at found ⊢
      split_ifs at found with waits skips fits
      · obtain ⟨rfl, rfl⟩ := Prod.mk.inj (Option.some.inj found)
        rw [same waits, if_neg waits, if_pos skips]
      · obtain ⟨rfl, rfl⟩ := Prod.mk.inj (Option.some.inj found)
        have longer := Nat.le_trans fits (List.sublist_append_left (first :: tail) later).length_le
        rw [List.cons_append] at longer
        rw [same waits, if_neg waits, if_neg skips, if_pos longer, ← List.cons_append,
          List.take_append_of_le_length fits, List.drop_append_of_le_length fits]

/-- Where no item is complete, the rest of the largest frame is missing at least. -/
theorem length_le_of_incomplete (incomplete : nextItem stream = none) : stream.length ≤ 66 := by
  cases stream with
  | nil => exact Nat.zero_le _
  | cons first later =>
      simp only [nextItem] at incomplete
      split_ifs at incomplete with waits skips fits
      · rcases getFrameSize_cases first (fun i => (first :: later).getD i 0) (first :: later).length
          with ⟨_, few⟩ | skips' | ⟨two, _⟩
        · omega
        · exact absurd (waits.symm.trans skips') (by decide)
        · omega
      · rcases getFrameSize_cases first (fun i => (first :: later).getD i 0) (first :: later).length
          with ⟨waits', _⟩ | skips' | ⟨_, most⟩
        · exact absurd waits' waits
        · exact absurd skips' skips
        · omega

/-- The receive task's parser. -/
def deframer : Recogniser UInt8 Item where
  next := nextItem
  shrinks := nextItem_shrinks
  stable := nextItem_stable

/-- A complete frame is an item. -/
theorem nextItem_sealed {frame : List UInt8} (whole : IsFrame frame) :
    nextItem (sealed frame) = some (.frame (sealed frame), []) := by
  cases whole with
  | heartbeat | status _ | baudRate _ _ _ _ | control _ => rfl
  | data payload small =>
      have most : expDataMaxPayload = 64 := rfl
      have length : (UInt8.ofNat payload.length).toNat = payload.length :=
        Nat.mod_eq_of_lt (by omega)
      let frame := sealed (expFrameData :: UInt8.ofNat payload.length :: payload)
      have total : frame.length = payload.length + 3 := by
        simp only [frame, sealed, List.length_append, List.length_cons, List.length_nil]
      have size : getFrameSize expFrameData (fun i => frame.getD i 0) frame.length =
          (payload.length + 3 : ℕ) := by
        have known : (UInt8.ofNat payload.length).toNat ≤ expDataMaxPayload := by
          rw [length]
          exact small
        rw [getFrameSize_data (by omega) known]
        exact congrArg (fun n : ℕ => ((n + 3 : ℕ) : ℤ)) length
      change (let frameSize := getFrameSize expFrameData (fun i => frame.getD i 0) frame.length
        if frameSize = -1 then none
        else if frameSize = -2 then some (Item.skipped expFrameData, frame.tail)
        else if frameSize.toNat ≤ frame.length then
          some (Item.frame (frame.take frameSize.toNat), frame.drop frameSize.toNat)
        else none) = some (Item.frame frame, [])
      simp only [size, Int.toNat_natCast]
      rw [if_neg (by omega), if_neg (by omega), if_pos (Nat.le_of_eq total.symm), ← total,
        List.take_length, List.drop_length]

end Greedy

section Buffer

variable {s s' : Expansion}

theorem length_received (s : Expansion) : (received s).length = s.rxLen := by
  rw [received, List.length_map, List.length_range]

theorem received_eq (bytes : s'.rxBuf = s.rxBuf) (length : s'.rxLen = s.rxLen) :
    received s' = received s := by
  rw [received, received, bytes, length]

theorem getD_received {i : ℕ} (inside : i < s.rxLen) : (received s).getD i 0 = s.rxBuf i := by
  rw [received, List.getD_eq_getElem?_getD, List.getElem?_map, List.getElem?_range inside]
  rfl

theorem take_received {size : ℕ} (fits : size ≤ s.rxLen) :
    (received s).take size = (List.range size).map s.rxBuf := by
  rw [received, ← List.map_take, List.take_range, Nat.min_eq_left fits]

theorem drop_received (size : ℕ) :
    (received s).drop size = (List.range (s.rxLen - size)).map fun i => s.rxBuf (size + i) := by
  apply List.ext_getElem
  · rw [List.length_drop, length_received, List.length_map, List.length_range]
  · intro i _ _
    simp only [received, List.getElem_drop, List.getElem_map, List.getElem_range]

theorem received_appendBytes {buf : List UInt8} (fits : s.rxLen + buf.length ≤ rxBufSize) :
    received (appendBytes buf s) = received s ++ buf := by
  have size : rxBufSize = 256 := rfl
  have sum : sizeAdd s.rxLen buf.length = s.rxLen + buf.length := by
    unfold sizeAdd
    omega
  apply List.ext_getElem
  · simp only [length_received, List.length_append, appendBytes, sum, Nat.not_lt.mpr fits, ↓reduceIte]
  · intro i inside inside'
    rw [length_received] at inside
    simp only [appendBytes, sum, Nat.not_lt.mpr fits, ↓reduceIte] at inside
    simp only [received, appendBytes, sum, Nat.not_lt.mpr fits, ↓reduceIte, List.getElem_map,
      List.getElem_range]
    by_cases old : i < s.rxLen
    · rw [if_neg (by omega), List.getElem_append_left (by simpa using old), List.getElem_map,
        List.getElem_range]
    · rw [if_pos (by omega), List.getElem_append_right (by simpa using Nat.le_of_not_lt old),
        List.getD_eq_getElem?_getD]
      simp only [List.length_map, List.length_range]
      rw [List.getElem?_eq_getElem (by omega)]
      rfl

theorem received_skipByte (present : s.rxLen ≠ 0) (bounded : s.rxLen ≤ rxBufSize) :
    (skipByte s).rxLen = s.rxLen - 1 ∧ received (skipByte s) = (received s).drop 1 := by
  have less : sizeSub s.rxLen 1 = s.rxLen - 1 := sizeSub_eq bounded (Nat.one_le_iff_ne_zero.mpr present)
  refine ⟨less, ?_⟩
  rw [drop_received]
  simp only [received, skipByte, moveBytes, less]
  apply List.map_congr_left
  intro i member
  exact if_pos (List.mem_range.mp member)

theorem received_removeFrame {size : ℕ} (fits : size ≤ s.rxLen) (bounded : s.rxLen ≤ rxBufSize) :
    (removeFrame size s).rxLen = s.rxLen - size ∧
      received (removeFrame size s) = (received s).drop size := by
  have less : sizeSub s.rxLen size = s.rxLen - size := sizeSub_eq bounded fits
  refine ⟨less, ?_⟩
  rw [drop_received]
  simp only [received, removeFrame, moveBytes, less]
  apply List.map_congr_left
  intro i member
  exact if_pos (List.mem_range.mp member)

/-- The size the receive task computes is that of the item in front. -/
theorem nextItem_received (present : s.rxLen ≠ 0) :
    nextItem (received s) =
      (let frameSize := getFrameSize (s.rxBuf 0) s.rxBuf s.rxLen
      if frameSize = -1 then none
      else if frameSize = -2 then some (.skipped (s.rxBuf 0), (received s).drop 1)
      else if frameSize.toNat ≤ s.rxLen then
        some (.frame ((received s).take frameSize.toNat), (received s).drop frameSize.toNat)
      else none) := by
  cases stream : received s with
  | nil =>
      have length := length_received s
      rw [stream] at length
      exact absurd length.symm present
  | cons first later =>
      have length := length_received s
      have front := @getD_received s 0 (Nat.pos_of_ne_zero present)
      rw [stream] at length front
      obtain rfl : first = s.rxBuf 0 := front
      have same : getFrameSize (s.rxBuf 0) (fun i => (s.rxBuf 0 :: later).getD i 0) s.rxLen =
          getFrameSize (s.rxBuf 0) s.rxBuf s.rxLen := by
        by_cases known : 2 ≤ s.rxLen
        · have second := @getD_received s 1 known
          rw [stream] at second
          unfold getFrameSize
          simp only [second]
        · unfold getFrameSize
          simp only [known, ↓reduceIte]
      simp only [nextItem, length, same, List.drop_succ_cons, List.drop_zero]

end Buffer

section Journals

/-- What has been read. -/
def streamOf (journal : List Entry) : List UInt8 :=
  journal.flatMap fun
    | .read bytes => bytes
    | _ => []

/-- What has been handed to `process_frame`, and skipped. -/
def itemsOf (journal : List Entry) : List Item :=
  journal.filterMap fun
    | .frame bytes => some (.frame bytes)
    | .skipped byte => some (.skipped byte)
    | _ => none

/-- Behind `earlier`, the journal has read `stream`, and its items and those of `left` are the
items of the stream. -/
def Parsed (earlier : List Entry) (stream left : List UInt8) (journal : List Entry) : Prop :=
  ∃ recent, journal = earlier ++ recent ∧ streamOf recent = stream ∧
    deframer.parse stream = (itemsOf recent ++ (deframer.parse left).1, (deframer.parse left).2)

variable {earlier journal : List Entry} {stream left : List UInt8}

theorem Parsed.start (earlier : List Entry) : Parsed earlier [] [] earlier :=
  ⟨[], (List.append_nil _).symm, rfl, rfl⟩

/-- Taking an item of what is left. -/
theorem Parsed.take (h : Parsed earlier stream left journal) {item : Item} {rest : List UInt8}
    (found : nextItem left = some (item, rest)) {entry : Entry} (silent : streamOf [entry] = [])
    (entered : itemsOf [entry] = [item]) : Parsed earlier stream rest (journal ++ [entry]) := by
  obtain ⟨recent, rfl, rfl, parse⟩ := h
  refine ⟨recent ++ [entry], List.append_assoc .., ?_, ?_⟩
  · rw [streamOf, List.flatMap_append]
    rw [streamOf] at silent
    rw [silent, List.append_nil, streamOf]
  · rw [parse, Recogniser.parse_of_some (r := deframer) found, itemsOf, itemsOf, List.filterMap_append]
    rw [itemsOf] at entered
    rw [entered, List.append_assoc]
    rfl

/-- Reading more, when nothing more can be taken. -/
theorem Parsed.read (h : Parsed earlier stream left journal) (incomplete : nextItem left = none)
    (buf : List UInt8) :
    Parsed earlier (stream ++ buf) (left ++ buf) (journal ++ [.read buf]) := by
  obtain ⟨recent, rfl, rfl, parse⟩ := h
  rw [Recogniser.parse_of_none (r := deframer) incomplete, List.append_nil] at parse
  refine ⟨recent ++ [.read buf], List.append_assoc .., ?_, ?_⟩
  · rw [streamOf, List.flatMap_append, streamOf, List.flatMap_singleton]
  · rw [Recogniser.parse_append, parse, itemsOf, itemsOf, List.filterMap_append]
    simp only [List.filterMap_cons, List.filterMap_nil, List.append_nil]

end Journals

section Receiving

/-- Between two passes: what has been read is parsed, and no item is complete. -/
structure Between (earlier : List Entry) (stream : List UInt8) (p : Expansion × List Entry) :
    Prop where
  parsed : Parsed earlier stream (received p.1) p.2
  incomplete : nextItem (received p.1) = none

/-- So it is since the start, or since the watchdog has expired. -/
def Pausing (p : Expansion × List Entry) : Prop :=
  ∃ earlier stream, (earlier = [] ∨ Entry.expired ∈ earlier) ∧ Between earlier stream p

/-- The receive buffer and the journal are left alone. -/
structure Apart (p p' : Expansion × List Entry) : Prop where
  bytes : p'.1.rxBuf = p.1.rxBuf
  length : p'.1.rxLen = p.1.rxLen
  journal : p'.2 = p.2

/-- The outline of the receive task: before each read it is between two passes, and nobody
else touches the receive buffer. -/
def receiving : Outline (Expansion × List Entry) uartSignature Empty where
  inv _ := True
  guard point p := point = .awaits .readBytes → Pausing p
  rely _ p p' := Apart p p'
  answers _ _ := True

variable {p p' : Expansion × List Entry} {earlier : List Entry} {stream : List UInt8}

theorem Apart.refl (p : Expansion × List Entry) : Apart p p := ⟨rfl, rfl, rfl⟩

theorem Apart.trans {a b c : Expansion × List Entry} (first : Apart a b) (second : Apart b c) :
    Apart a c :=
  ⟨second.bytes.trans first.bytes, second.length.trans first.length,
    second.journal.trans first.journal⟩

theorem Between.apart (h : Between earlier stream p) (apart : Apart p p') :
    Between earlier stream p' := by
  have same := received_eq apart.bytes apart.length
  constructor
  · rw [same, apart.journal]
    exact h.parsed
  · rw [same]
    exact h.incomplete

theorem Pausing.apart (h : Pausing p) (apart : Apart p p') : Pausing p' := by
  obtain ⟨earlier, stream, since, between⟩ := h
  exact ⟨earlier, stream, since, between.apart apart⟩

theorem Between.length (h : Between earlier stream p) : p.1.rxLen ≤ 66 := by
  rw [← length_received]
  exact length_le_of_incomplete h.incomplete

/-- What works beside the receive buffer. -/
theorem upholds_aside {c : Bridge Unit} (h : Aside c) (p : Expansion × List Entry) :
    Upholds receiving c.plainly (fun _ => Apart p) p := by
  apply Upholds.of_within (Apart p) h.plainly
  · exact fun _ _ changed apart => apart.trans ⟨changed.1.bytes, changed.1.length, changed.2⟩
  · exact fun _ _ _ _ relied _ apart => apart.trans relied
  · intro op p' other _
    refine ⟨trivial, fun reads => ?_⟩
    obtain rfl := Point.awaits.inj reads
    exact nomatch other
  · exact fun error => error.elim
  · exact Apart.refl p

/-- Dispatching the frame in front, and removing it. -/
theorem upholds_dispatch {size : ℕ} {next : Journalled Unit} (fits : size ≤ p.1.rxLen)
    (bounded : p.1.rxLen ≤ rxBufSize)
    (parsed : Parsed earlier stream ((received p.1).drop size)
      (p.2 ++ [.frame ((List.range size).map p.1.rxBuf)]))
    (rest : ∀ q : Expansion × List Entry, q.1.rxLen = p.1.rxLen - size →
      Parsed earlier stream (received q.1) q.2 →
      Upholds receiving next (fun _ => Between earlier stream) q) :
    Upholds receiving (do
      noted (fun s => { s with dispatching := true }) (.frame ((List.range size).map p.1.rxBuf))
      (processFrame size).plainly
      (Coro.modify (removeFrame size) : Bridge Unit).plainly
      next) (fun _ => Between earlier stream) p := by
  let entered : Expansion × List Entry :=
    ({ p.1 with dispatching := true }, p.2 ++ [.frame ((List.range size).map p.1.rxBuf)])
  apply Upholds.modified.bind
  intro _ q same
  subst same
  apply (upholds_aside (aside_processFrame _) entered).bind
  intro _ q apart
  have kept : received q.1 = received p.1 := received_eq apart.bytes apart.length
  have length : q.1.rxLen = p.1.rxLen := apart.length
  obtain ⟨shorter, removed⟩ := received_removeFrame (s := q.1) (length ▸ fits) (length ▸ bounded)
  rw [plainly_modify]
  apply Upholds.modified.bind
  intro _ q' same
  subst same
  apply rest
  · rw [shorter, length]
  · rw [removed, kept, apart.journal]
    exact parsed

/-- **The loop that extracts frames.** As many passes as bytes are enough. -/
theorem upholds_extractFrames {passes : ℕ} (enough : p.1.rxLen ≤ passes)
    (bounded : p.1.rxLen ≤ rxBufSize)
    (parsed : Parsed earlier stream (received p.1) p.2) :
    Upholds receiving (extractFramesNoted passes) (fun _ => Between earlier stream) p := by
  induction passes generalizing p with
  | zero =>
      have empty : received p.1 = [] := by
        rw [← List.length_eq_zero_iff, length_received]
        exact Nat.le_zero.mp enough
      exact ⟨parsed, by rw [empty]; rfl⟩
  | succ passes ih =>
      apply Upholds.get_bind
      apply Upholds.ite
      · intro none_
        have empty : received p.1 = [] := by rw [← List.length_eq_zero_iff, length_received, none_]
        exact ⟨parsed, by rw [empty]; rfl⟩
      · intro present
        have front := nextItem_received present
        dsimp only at front
        apply Upholds.ite
        · intro waits
          rw [if_pos waits] at front
          exact ⟨parsed, front⟩
        · intro known
          rw [if_neg known] at front
          apply Upholds.ite
          · intro skips
            rw [if_pos skips] at front
            obtain ⟨shorter, rest⟩ := received_skipByte present bounded
            rw [← rest] at front
            apply Upholds.modified.bind
            rintro _ _ rfl
            exact ih (by rw [shorter]; omega) (by rw [shorter]; omega)
              (parsed.take front rfl rfl)
          · intro sized
            rw [if_neg sized] at front
            apply Upholds.ite
            · intro fits
              rw [if_pos fits, take_received fits] at front
              have two := getFrameSize_cases (p.1.rxBuf 0) p.1.rxBuf p.1.rxLen
              apply upholds_dispatch fits bounded (parsed.take front rfl rfl)
              intro q shorter parsed
              exact ih (by omega) (by omega) parsed
            · intro short
              rw [if_neg short] at front
              exact ⟨parsed, front⟩

theorem upholds_takeBytes {buf : List UInt8} (read : buf.length ≤ readSize)
    (h : Between earlier stream p) :
    Upholds receiving (takeBytesNoted buf) (fun _ => Between earlier (stream ++ buf)) p := by
  apply Upholds.ite
  · intro empty
    rw [empty, List.append_nil]
    exact h
  · intro _
    have fits : p.1.rxLen + buf.length ≤ rxBufSize := by
      have length := h.length
      unfold readSize at read
      unfold rxBufSize
      omega
    have appended := received_appendBytes fits
    have length : (appendBytes buf p.1).rxLen = p.1.rxLen + buf.length := by
      rw [← length_received, appended, List.length_append, length_received]
    have parsed := h.parsed.read h.incomplete buf
    rw [← appended] at parsed
    apply Upholds.modified.bind
    intro _ q same
    subst same
    exact upholds_extractFrames (length ▸ fits) (length ▸ fits) parsed

/-- One pass of the receive task. -/
theorem upholds_uartRxPass (h : Pausing p) :
    Upholds receiving uartRxPassNoted (fun _ => Pausing) p := by
  have read : Upholds receiving (perform .readBytes).plainly (fun _ => Pausing) p := by
    unfold perform
    rw [plainly_perform]
    exact Upholds.perform trivial (fun _ => h) (fun _ _ _ relied _ => h.apart relied)
      fun error => error.elim
  apply read.bind
  intro (buf : List UInt8) q pausing
  obtain ⟨earlier, stream, since, between⟩ := pausing
  apply (upholds_takeBytes (List.length_take_le ..) between).bind
  intro _ q between
  have watched : Upholds receiving watchdogNoted (fun _ => Pausing) q := by
    apply Upholds.modify
    by_cases expires : Expires q.1
    · rw [if_pos expires, watchdog_of_expires expires]
      exact ⟨q.2 ++ [.expired], [], .inr (List.mem_append_right _ (List.mem_singleton_self _)),
        .start _, rfl⟩
    · rw [if_neg expires, watchdog_of_not_expires expires]
      exact ⟨earlier, _, since, between⟩
  apply watched.bind
  intro _ q pausing
  exact (upholds_aside aside_sendDueHeartbeat q).mono fun _ _ apart => pausing.apart apart

/-- **The receive task.** -/
theorem upholds_uartRxTask (passes : ℕ) (h : Pausing p) :
    Upholds receiving (uartRxTaskNoted passes) (fun _ => Pausing) p := by
  induction passes generalizing p with
  | zero => exact h
  | succ passes ih => exact (upholds_uartRxPass h).bind fun _ _ pausing => ih pausing

end Receiving

section Termination

variable {σ : Type}

/-- What is left in the buffer behind the item in front. -/
theorem left_of_nextItem {s : Expansion} {item : Item} {rest : List UInt8}
    (found : nextItem (received s) = some (item, rest)) :
    item.bytes.length ≤ s.rxLen ∧ (List.range item.bytes.length).map s.rxBuf = item.bytes ∧
      (received s).drop item.bytes.length = rest := by
  have whole := nextItem_bytes found
  have fits : item.bytes.length ≤ s.rxLen := by
    rw [← length_received, ← whole, List.length_append]
    exact Nat.le_add_right _ _
  refine ⟨fits, ?_, ?_⟩
  · rw [← take_received fits, ← whole, List.take_left]
  · rw [← whole, List.drop_left]

/-- One pass of the loop, by the item in front. -/
theorem run_extractFrames_succ (E : Env uartSignature Empty σ) (passes : ℕ) (s : Expansion) (w : σ) :
    run E (extractFrames (passes + 1)) s w =
      run E (match nextItem (received s) with
        | none => pure ()
        | some (.skipped _, _) => do
            Coro.modify skipByte
            extractFrames passes
        | some (.frame bytes, _) => do
            Coro.modify fun s => { s with dispatching := true }
            processFrame bytes.length
            Coro.modify (removeFrame bytes.length)
            extractFrames passes) s w := by
  simp only [extractFrames]
  change run E (ite _ _ (ite _ _ (ite _ _ (ite _ _ _)))) s w = _
  by_cases empty : s.rxLen = 0
  · have none_ : received s = [] := by rw [← List.length_eq_zero_iff, length_received, empty]
    rw [if_pos empty, none_]
    rfl
  · rw [if_neg empty, nextItem_received empty]
    dsimp only
    by_cases waits : getFrameSize (s.rxBuf 0) s.rxBuf s.rxLen = -1
    · rw [if_pos waits, if_pos waits]
    · rw [if_neg waits, if_neg waits]
      by_cases skips : getFrameSize (s.rxBuf 0) s.rxBuf s.rxLen = -2
      · rw [if_pos skips, if_pos skips]
      · rw [if_neg skips, if_neg skips]
        by_cases fits : (getFrameSize (s.rxBuf 0) s.rxBuf s.rxLen).toNat ≤ s.rxLen
        · have length : ((received s).take (getFrameSize (s.rxBuf 0) s.rxBuf s.rxLen).toNat).length =
              (getFrameSize (s.rxBuf 0) s.rxBuf s.rxLen).toNat := by
            rw [List.length_take, length_received, Nat.min_eq_left fits]
          rw [if_pos fits, if_pos fits]
          simp only [length]
        · rw [if_neg fits, if_neg fits]

/-- Where no item is complete the loop has ended. -/
theorem run_extractFrames_incomplete (E : Env uartSignature Empty σ) (passes : ℕ) {s : Expansion}
    (w : σ) (incomplete : nextItem (received s) = none) :
    run E (extractFrames passes) s w = ⟨.ok (), s, w, []⟩ := by
  cases passes with
  | zero => rfl
  | succ passes =>
      rw [run_extractFrames_succ, incomplete]
      rfl

/-- **The loop ends.** More passes than bytes in the buffer make no difference. -/
theorem run_extractFrames_enough (E : Env uartSignature Empty σ) {first second : ℕ} (s : Expansion)
    (w : σ) (enough : s.rxLen ≤ first) (enough' : s.rxLen ≤ second) (bounded : s.rxLen ≤ rxBufSize) :
    run E (extractFrames first) s w = run E (extractFrames second) s w := by
  induction first generalizing second s w with
  | zero =>
      have incomplete : nextItem (received s) = none := by
        rw [List.length_eq_zero_iff.mp ((length_received s).trans (Nat.le_zero.mp enough))]
        rfl
      rw [run_extractFrames_incomplete E _ w incomplete, run_extractFrames_incomplete E _ w incomplete]
  | succ first ih =>
      cases found : nextItem (received s) with
      | none => rw [run_extractFrames_incomplete E _ w found, run_extractFrames_incomplete E _ w found]
      | some cut =>
          obtain ⟨item, rest⟩ := cut
          obtain ⟨fits, -, -⟩ := left_of_nextItem found
          have shorter := nextItem_shrinks found
          have whole := congrArg List.length (nextItem_bytes found)
          rw [length_received] at shorter
          rw [List.length_append, length_received] at whole
          cases second with
          | zero => omega
          | succ second =>
              rw [run_extractFrames_succ, run_extractFrames_succ, found]
              cases item with
              | skipped byte =>
                  obtain ⟨fewer, -⟩ := received_skipByte (by omega) bounded
                  apply run_bind_congr
                  intro _ _
                  exact ih (skipByte s) w (by omega) (by omega) (by omega)
              | frame bytes =>
                  have kept : (run E (processFrame bytes.length)
                      { s with dispatching := true } w).host.rxLen = s.rxLen :=
                    ((aside_processFrame _).host Beside.refl Beside.trans E _ w).length
                  have fewer := (received_removeFrame (Nat.le_trans fits (Nat.le_of_eq kept.symm))
                    (Nat.le_trans (Nat.le_of_eq kept) bounded)).1
                  rw [kept, Item.bytes] at fewer
                  rw [Item.bytes] at whole
                  have less := Nat.le_of_eq fewer
                  apply run_bind_congr
                  intro _ _
                  apply run_bind_congr
                  intro _ _
                  apply run_bind_congr
                  intro _ _
                  exact ih _ _ (Nat.le_trans less (by omega)) (Nat.le_trans less (by omega))
                    (Nat.le_trans less (by omega))

end Termination

section Runs

variable {ι σ : Type} [DecidableEq ι]

/-- What has been read, against what was made of it and what is left in the buffer. -/
structure Deframed (journal : List Entry) (s : Expansion) : Prop where
  parse : deframer.parse (streamOf journal) = (itemsOf journal, received s)
  kept : (itemsOf journal).flatMap Item.bytes ++ received s = streamOf journal
  length : s.rxLen ≤ 66
  incomplete : nextItem (received s) = none
  frames : ∀ frames : List (List UInt8), (∀ frame ∈ frames, IsFrame frame) →
    streamOf journal = frames.flatMap sealed →
    itemsOf journal = frames.map fun frame => .frame (sealed frame)

/-- Everything is parsed that was read since the start. -/
theorem Between.deframed {p : Expansion × List Entry} {stream : List UInt8} (h : Between [] stream p) :
    Deframed p.2 p.1 := by
  obtain ⟨⟨recent, journal, rfl, parse⟩, incomplete⟩ := h
  rw [Recogniser.parse_of_none (r := deframer) incomplete, List.append_nil] at parse
  rw [List.nil_append] at journal
  subst journal
  refine ⟨parse, ?_, ?_, incomplete, fun frames whole stream => ?_⟩
  · have kept := deframer.parse_bytes Item.bytes nextItem_bytes (streamOf p.2)
    rw [parse] at kept
    exact kept
  · rw [← length_received]
    exact length_le_of_incomplete incomplete
  · have front : ∀ item ∈ frames.map fun frame => Item.frame (sealed frame),
        deframer.next item.bytes = some (item, []) := by
      intro item member
      obtain ⟨frame, present, rfl⟩ := List.mem_map.mp member
      exact nextItem_sealed (whole frame present)
    have cut := Recogniser.parse_flatMap Item.bytes front
    rw [List.flatMap_map] at cut
    rw [stream] at parse
    exact congrArg Prod.fst (parse.symm.trans cut)

/-- Between two passes, without an expiry. -/
theorem Pausing.deframed {p : Expansion × List Entry} (h : Pausing p) (lives : Entry.expired ∉ p.2) :
    Deframed p.2 p.1 := by
  obtain ⟨earlier, stream, since, between⟩ := h
  rcases since with rfl | expired
  · exact between.deframed
  · obtain ⟨recent, journal, -⟩ := between.parsed
    exact absurd (journal ▸ List.mem_append_left recent expired) lives

/-- **The deframer.** The loop of the receive task ends. Whatever arrives, in whatever pieces,
and whatever the other tasks send meanwhile: before each read, what has been handed to
`process_frame` or skipped and what is left in the buffer are the greedy parse of everything
read, unless the watchdog has expired. The journal is that of the same schedule. -/
theorem deframer_greedy (E : Env uartSignature Empty σ) (tasks : ι → BridgeTask) (rx : ι)
    (passes : ℕ) (receives : tasks rx = .uartRx passes)
    (others : ∀ i ≠ rx, (tasks i).KeepsConnection) (s : Expansion) (fresh : s.rxLen = 0) (w : σ) :
    (∀ s' w' more, s'.rxLen ≤ rxBufSize →
      run E (extractFrames (rxBufSize + more)) s' w' = run E (extractFrames rxBufSize) s' w') ∧
    ∀ (schedule : List ι) (end_ : Config ι Expansion uartSignature Empty σ fun _ => Unit) next,
      (Config.start (fun i => (tasks i).program) s w).follow E schedule = some end_ →
      end_.tasks rx = .await .readBytes next →
      ∃ journalled,
        (Config.start (fun i => (tasks i).journalled) (s, []) w).follow E schedule =
          some journalled ∧
        journalled.Ghosts end_ ∧
        (Entry.expired ∉ journalled.host.2 → Deframed journalled.host.2 end_.host) := by
  refine ⟨fun s' w' more bounded => run_extractFrames_enough E s' w' (by omega) bounded bounded, ?_⟩
  intro schedule end_ next followed pauses
  have ghosts : (Config.start (fun i => (tasks i).journalled) (s, []) w :
      Config ι (Expansion × List Entry) uartSignature Empty σ fun _ => Unit).Ghosts
      (Config.start (fun i => (tasks i).program) s w) :=
    ⟨fun i => (tasks i).ghosts, rfl, rfl, rfl⟩
  obtain ⟨journalled, led, same⟩ := ghosts.follow followed
  refine ⟨journalled, led, same, fun lives => ?_⟩
  have begins : received s = [] := by rw [← List.length_eq_zero_iff, length_received, fresh]
  have pausing : Pausing (s, []) := by
    refine ⟨[], [], .inl rfl, ?_, ?_⟩
    · rw [begins]
      exact .start []
    · rw [begins]
      rfl
  have upholds := (Config.reaches_of_follow E schedule led).upholds (i := rx) (o := receiving)
    Apart ?_ ?_ ?_ (fun _ _ => trivial) (fun _ => Apart.refl) Apart.refl Apart.trans
    (fun _ _ => trivial) (fun _ _ _ apart asserted reads => (asserted reads).apart apart)
    (fun _ _ _ _ => Apart.trans)
  · have awaits : (journalled.tasks rx).StandsAt (.awaits .readBytes) := by
      have task := same.tasks rx
      rw [pauses] at task
      generalize journalled.tasks rx = c at task ⊢
      cases task
      rfl
    have holds : Pausing journalled.host := upholds.asserted awaits rfl
    exact same.host ▸ holds.deframed lives
  · intro j
    change Suspended (tasks j).journalled
    by_cases own : j = rx
    · rw [own, receives]
      cases passes <;> trivial
    · have other := others j own
      generalize tasks j = task at other ⊢
      cases task with
      | uartRx _ | flipperConnect _ | reconnectHandler => exact other.elim
      | tcpRx data | sender data | clock data => cases data <;> trivial
  · change Upholds receiving (tasks rx).journalled _ (s, [])
    rw [receives]
    exact (upholds_uartRxTask passes pausing).mono fun _ _ _ => ⟨trivial, nofun⟩
  · intro j different
    change Updates Apart (tasks j).journalled
    have other := others j different
    have plain : (tasks j).journalled = (tasks j).program.plainly := by
      generalize tasks j = task at other ⊢
      cases task with
      | uartRx _ => exact other.elim
      | _ => rfl
    rw [plain]
    refine (ticks_program _ other).plainly.mono fun p p' moved => ?_
    obtain ⟨⟨tick, same⟩, journal⟩ := moved
    exact ⟨by rw [same], by rw [same], journal⟩

/-- The receive task alone reads four bytes, which are two heartbeats. -/
theorem deframer_greedy_heartbeats :
    ∃ journalled : Config Unit (Expansion × List Entry) uartSignature Empty Unit fun _ => Unit,
      (Config.start (fun _ : Unit => (BridgeTask.uartRx 2).journalled) ({}, []) ()).follow heartbeats
        [()] = some journalled ∧
      itemsOf journalled.host.2 = [.frame [1, 1], .frame [1, 1]] := by
  obtain ⟨end_, next, led, pauses⟩ : ∃ end_ next,
      (Config.start (fun _ : Unit => (BridgeTask.uartRx 2).program) {} ()).follow heartbeats [()] =
        some end_ ∧ end_.tasks () = .await .readBytes next :=
    ⟨_, _, rfl, rfl⟩
  obtain ⟨journalled, led', _, deframed⟩ := (deframer_greedy heartbeats (fun _ : Unit => .uartRx 2) () 2
    rfl (fun _ other => absurd rfl other) {} rfl ()).2 [()] end_ next led pauses
  have entries : ((Config.start (fun _ : Unit => (BridgeTask.uartRx 2).journalled) ({}, []) ()).follow
      heartbeats [()]).map (fun c => c.host.2) =
      some [.read [1, 1, 1, 1], .frame [1, 1], .frame [1, 1]] := by
    decide +kernel
  rw [led'] at entries
  have journal := Option.some.inj entries
  have lives : Entry.expired ∉ journalled.host.2 := by
    rw [show journalled.host.2 = _ from journal]
    decide
  refine ⟨journalled, led', (deframed lives).frames [[1], [1]] ?_ ?_⟩
  · intro frame member
    obtain rfl : frame = [1] := by simpa using member
    exact .heartbeat
  · rw [show journalled.host.2 = _ from journal]
    rfl

end Runs

end Bridge

end FlipperMcp
