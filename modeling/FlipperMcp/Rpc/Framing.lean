import FlipperMcp.Transport.Base
import Mathlib.Data.Nat.Bitwise

/-! # Delimited frames on the link

`_encode_varint`, `_read_varint` and `_receive_main_message` of `ProtobufRPC`:
every message travels behind its length in base 128.

Whatever the transport does, a call takes the frame at the front of the bytes
delivered to it, or takes none when no whole frame is there
(`wp_receiveMainMessage`). So a call that finds the next frame whole takes it
(`wp_receiveMainMessage_frame`), and a call that finds nothing takes nothing
(`wp_receiveMainMessage_silent`).
-/

namespace FlipperMcp

open Coroutine

namespace ProtobufRPC

/-- The loop of `_encode_varint`. -/
def encodeVarintLoop : ℕ → ℕ → Bytes
  | 0, n => [UInt8.ofNat (n &&& 0x7F)]
  | fuel + 1, n =>
      if n >>> 7 ≠ 0 then UInt8.ofNat (n &&& 0x7F ||| 0x80) :: encodeVarintLoop fuel (n >>> 7)
      else [UInt8.ofNat (n &&& 0x7F)]

/-- `_encode_varint(n)`; a number has at most as many groups as its own value. -/
def encodeVarint (n : ℕ) : Bytes := encodeVarintLoop n n

/-- `_encode_varint(len(payload)) + payload`. -/
def delimited (payload : Bytes) : Bytes := encodeVarint payload.length ++ payload

/-- The loop of `_read_varint`. -/
def readVarintLoop (timeout : Time) : ℕ → ℕ → ℕ → Link (Option ℕ)
  | 0, _, _ => pure none
  | tries + 1, value, shift => do
      match ← FlipperTransport.receiveExact 1 timeout with
      | [] => pure none
      | byte :: _ =>
          if byte.toNat &&& 0x80 = 0 then
            pure (some (value ||| (byte.toNat &&& 0x7F) <<< shift))
          else readVarintLoop timeout tries (value ||| (byte.toNat &&& 0x7F) <<< shift) (shift + 7)

/-- `_read_varint(timeout)`: at most five bytes. -/
def readVarint (timeout : Time) : Link (Option ℕ) :=
  Link.orElse (readVarintLoop timeout 5 0 0) (pure none)

/-- `_receive_main_message(timeout)`. -/
def receiveMainMessage (pb : Protobuf) (timeout : Time) : Link (Option Main) :=
  (Link.orElse · (pure none)) do
    match ← readVarint timeout with
    | none => pure none
    | some payloadLen =>
        if payloadLen = 0 ∨ 1000000 < payloadLen then pure none
        else do
          let payload ← FlipperTransport.receiveExact payloadLen timeout
          if payload = [] ∨ payload.length ≠ payloadLen then pure none
          else do
            Coro.modify fun s => { s with rxLog := s.rxLog ++ [payload] }
            match pb.parseFromString payload with
            | none => .raise .decodeError
            | some msg => pure (some msg)

/-! ## Writing and reading lengths -/

/-- The lowest seven bits of a byte and its continuation bit. -/
theorem and_0x80_eq_zero_iff {n : ℕ} (byte : n < 256) : n &&& 0x80 = 0 ↔ n < 128 := by
  have bit : n &&& 0x80 = (n.testBit 7).toNat * 2 ^ 7 := Nat.and_two_pow n 7
  rw [bit, Nat.testBit_eq_decide_div_mod_eq]
  by_cases low : n < 128
  · simp only [low, iff_true]
    rw [decide_eq_false (by omega)]
    rfl
  · simp only [low, iff_false]
    rw [decide_eq_true (by omega)]
    decide

theorem and_0x7F (n : ℕ) : n &&& 0x7F = n % 128 := Nat.and_two_pow_sub_one_eq_mod n 7

theorem or_0x80 {n : ℕ} (low : n < 128) : n ||| 0x80 = n + 128 := by
  have sum : 128 + n = 128 ||| n := @Nat.two_pow_add_eq_or_of_lt 7 n low 1
  rw [Nat.or_comm, ← sum, Nat.add_comm]

/-- `_encode_varint` writes base 128. -/
theorem encodeVarint_eq (n : ℕ) : encodeVarint n = Base128.encode n := by
  have loop : ∀ fuel n, encodeVarintLoop fuel n = Base128.groups fuel n := by
    intro fuel
    induction fuel with
    | zero =>
        intro n
        rw [encodeVarintLoop, Base128.groups, and_0x7F]
    | succ fuel ih =>
        intro n
        have shifted : n >>> 7 = n / 128 := Nat.shiftRight_eq_div_pow n 7
        rw [encodeVarintLoop, Base128.groups, shifted, and_0x7F, or_0x80 (Nat.mod_lt n (by decide)),
          ih]
        by_cases small : n < 128
        · rw [if_neg (not_not.mpr (Nat.div_eq_of_lt small)), if_pos small, Nat.mod_eq_of_lt small]
        · rw [if_pos (by omega), if_neg small]
  exact loop n n

theorem delimited_eq (payload : Bytes) : delimited payload = Base128.frame payload := by
  rw [delimited, encodeVarint_eq, Base128.frame]

/-- A group shifted into place adds to the groups below it. -/
theorem or_shiftLeft {value group shift : ℕ} (below : value < 2 ^ shift) :
    value ||| group <<< shift = value + group * 2 ^ shift := by
  have sum := Nat.two_pow_add_eq_or_of_lt below group
  rw [Nat.or_comm, Nat.shiftLeft_eq, Nat.mul_comm group, ← sum, Nat.add_comm]

/-- A group more stays below the next power. -/
theorem add_lt_pow {value group shift : ℕ} (below : value < 2 ^ shift) (low : group < 128) :
    value + group * 2 ^ shift < 2 ^ (shift + 7) := by
  have scaled : (group + 1) * 2 ^ shift ≤ 128 * 2 ^ shift := Nat.mul_le_mul_right _ low
  rw [pow_add, Nat.mul_comm (2 ^ shift)]
  rw [Nat.add_one_mul] at scaled
  exact (Nat.add_lt_add_right below _).trans_le ((Nat.add_comm _ _).trans_le scaled)

/-- The frame `_receive_main_message` takes off the front of a stream. -/
def frontPayload (stream : Bytes) : Option (Bytes × Bytes) :=
  match Base128.unframe 5 stream with
  | none => none
  | some (payload, later) =>
      if payload = [] ∨ 1000000 < payload.length then none else some (payload, later)

/-- A whole frame is taken as the payload it carries. -/
theorem frontPayload_delimited {payload : Bytes} (nonempty : payload ≠ [])
    (sized : payload.length ≤ 1000000) (later : Bytes) :
    frontPayload (delimited payload ++ later) = some (payload, later) := by
  have fits : payload.length < 128 ^ (4 + 1) := sized.trans_lt (by decide)
  rw [frontPayload, delimited_eq, Base128.unframe_frame fits]
  exact if_neg (not_or.mpr ⟨nonempty, not_lt.mpr sized⟩)

/-- The frame at the front is a frame. -/
theorem unframe_of_frontPayload {stream payload left : Bytes}
    (front : frontPayload stream = some (payload, left)) :
    Base128.unframe 5 stream = some (payload, left) := by
  unfold frontPayload at front
  cases framed : Base128.unframe 5 stream with
  | none =>
      rw [framed] at front
      cases front
  | some found =>
      rw [framed] at front
      simp only at front
      split at front
      · cases front
      · exact front

/-- What follows does not change the frame at the front. -/
theorem frontPayload_append {stream payload left : Bytes}
    (front : frontPayload stream = some (payload, left)) (later : Bytes) :
    frontPayload (stream ++ later) = some (payload, left ++ later) := by
  unfold frontPayload at front ⊢
  cases framed : Base128.unframe 5 stream with
  | none =>
      rw [framed] at front
      cases front
  | some found =>
      rw [framed] at front
      rw [Base128.unframe_append framed later]
      simp only at front ⊢
      split at front
      · cases front
      next bounded =>
        obtain ⟨rfl, rfl⟩ := Prod.mk.inj (Option.some.inj front)
        rw [if_neg bounded]

/-- A number that is no length has no frame behind it. -/
theorem frontPayload_eq_none_of_unfit {stream behind : Bytes} {n : ℕ}
    (decoded : Base128.decode 5 stream = some (n, behind)) (unfit : n = 0 ∨ 1000000 < n) :
    frontPayload stream = none := by
  rw [frontPayload, Base128.unframe, decoded]
  by_cases whole : n ≤ behind.length
  · have refused : behind.take n = [] ∨ 1000000 < (behind.take n).length := by
      rw [List.length_take_of_le whole]
      exact unfit.imp_left fun zero => by rw [zero, List.take_zero]
    simp only [if_pos whole, if_pos refused]
  · simp only [if_neg whole]

/-- A payload cut short is no frame. -/
theorem frontPayload_eq_none_of_short {stream behind : Bytes} {n : ℕ}
    (decoded : Base128.decode 5 stream = some (n, behind)) (short : behind.length < n) :
    frontPayload stream = none := by
  rw [frontPayload, Base128.unframe, decoded]
  simp only [if_neg (not_le.mpr short)]

/-- A length and its payload are a frame. -/
theorem frontPayload_of_decode {read payload : Bytes}
    (decoded : Base128.decode 5 (read ++ payload) = some (payload.length, payload))
    (nonempty : payload ≠ []) (sized : payload.length ≤ 1000000) :
    frontPayload (read ++ payload) = some (payload, []) := by
  rw [frontPayload, Base128.unframe, decoded]
  simp only [le_refl, ↓reduceIte, List.take_length, List.drop_length]
  exact if_neg (not_or.mpr ⟨nonempty, not_lt.mpr sized⟩)

section Ledger

variable {σ : Type} {E : LinkEnv σ} {delivered : Bytes → σ → Prop} {guard : LinkEvent σ → Prop}

/-- `_read_varint` returns the number it has read, and none exactly when the bytes
delivered to it hold no number. -/
theorem wp_readVarintLoop (ledger : Ledger E delivered) (quiet : Quiet guard) (timeout : Time)
    {tries value shift : ℕ} (below : value < 2 ^ shift) (taken : Bytes) {s : Host} {w : σ}
    (account : delivered (taken ++ s.rxBuffer) w) :
    wp E guard (readVarintLoop timeout tries value shift) (fun result s' w' =>
      SameButBuffer s s' ∧ s'.rxLog = s.rxLog ∧
        ∃ read, delivered (taken ++ (read ++ s'.rxBuffer)) w' ∧
        ((∃ n, result = .ok (some (value + n * 2 ^ shift)) ∧
            Base128.decode tries read = some (n, [])) ∨
          ((∀ n, result ≠ .ok (some n)) ∧ Base128.decode tries (read ++ s'.rxBuffer) = none)))
      s w := by
  induction tries generalizing value shift taken s w with
  | zero =>
      exact wp_ret.mpr ⟨.refl s, rfl, [], account, .inr ⟨fun n same => (by cases same), rfl⟩⟩
  | succ tries ih =>
      unfold readVarintLoop
      refine wp.bind (FlipperTransport.wp_receiveExact ledger quiet Nat.one_pos timeout taken account)
        ?_ ?_
      · intro out s' w' reached
        obtain ⟨buffer, log, read⟩ := reached
        rcases read with ⟨_, same, length, account⟩ | ⟨nothing, short, account⟩
        · obtain rfl := Except.ok.inj same
          obtain ⟨byte, rfl⟩ := List.length_eq_one_iff.mp length
          have fits := byte.toNat_lt
          simp only [and_0x80_eq_zero_iff fits, and_0x7F, or_shiftLeft below]
          split
          next last =>
            refine wp_ret.mpr ⟨buffer, log, [byte], account, .inl ⟨byte.toNat, ?_, ?_⟩⟩
            · rw [Nat.mod_eq_of_lt last]
            · rw [Base128.decode, if_pos last]
          next continued =>
            have account' : delivered ((taken ++ [byte]) ++ s'.rxBuffer) w' := by
              rw [List.append_assoc]
              exact account
            have higher := add_lt_pow below (Nat.mod_lt byte.toNat (show 0 < 128 by decide))
            refine (ih higher (taken ++ [byte]) account').mono ?_
            intro result s'' w'' reached
            obtain ⟨buffer', log', read, account'', found⟩ := reached
            rw [List.append_assoc, List.singleton_append] at account''
            refine ⟨buffer.trans buffer', log'.trans log, byte :: read, account'', ?_⟩
            rw [List.cons_append, Base128.decode, Base128.decode, if_neg continued, if_neg continued]
            refine found.imp ?_ ?_
            · intro number
              obtain ⟨high, returned, decoded⟩ := number
              refine ⟨byte.toNat - 128 + 128 * high, ?_, by rw [decoded, Option.map_some]⟩
              have group : byte.toNat % 128 = byte.toNat - 128 := by omega
              have sum : value + byte.toNat % 128 * 2 ^ shift + high * 2 ^ (shift + 7) =
                  value + (byte.toNat - 128 + 128 * high) * 2 ^ shift := by
                rw [group, pow_add]
                ring
              rw [returned, sum]
            · intro missing
              exact ⟨missing.1, by rw [missing.2, Option.map_none]⟩
        · obtain rfl := nothing out rfl
          have empty : s'.rxBuffer = [] := List.length_eq_zero_iff.mp (Nat.lt_one_iff.mp short)
          refine wp_ret.mpr ⟨buffer, log, [], account, .inr ⟨fun n same => (by cases same), ?_⟩⟩
          rw [empty]
          rfl
      · intro e s' w' reached
        obtain ⟨buffer, log, read⟩ := reached
        rcases read with ⟨_, same, -⟩ | ⟨-, short, account⟩
        · cases same
        · have empty : s'.rxBuffer = [] := List.length_eq_zero_iff.mp (Nat.lt_one_iff.mp short)
          refine ⟨buffer, log, [], account, .inr ⟨fun n same => (by cases same), ?_⟩⟩
          rw [empty]
          rfl

theorem wp_readVarint (ledger : Ledger E delivered) (quiet : Quiet guard) (timeout : Time)
    (taken : Bytes) {s : Host} {w : σ} (account : delivered (taken ++ s.rxBuffer) w) :
    wp E guard (readVarint timeout) (fun result s' w' =>
      SameButBuffer s s' ∧ s'.rxLog = s.rxLog ∧
        ∃ read, delivered (taken ++ (read ++ s'.rxBuffer)) w' ∧
        ((∃ n, result = .ok (some n) ∧ Base128.decode 5 read = some (n, [])) ∨
          ((∀ n, result ≠ .ok (some n)) ∧ Base128.decode 5 (read ++ s'.rxBuffer) = none))) s w := by
  have start : 0 < 2 ^ 0 := Nat.one_pos
  unfold readVarint
  refine Link.wp_orElse_of _ (wp_readVarintLoop ledger quiet timeout start taken account) ?_ ?_ ?_
  · intro value s' w' reached
    obtain ⟨buffer, log, read, account, found⟩ := reached
    refine ⟨buffer, log, read, account, found.imp_left ?_⟩
    intro number
    obtain ⟨n, returned, decoded⟩ := number
    rw [pow_zero, Nat.mul_one, Nat.zero_add] at returned
    exact ⟨n, returned, decoded⟩
  · intro e s' w' reached _
    obtain ⟨buffer, log, read, account, found⟩ := reached
    rcases found with ⟨n, returned, -⟩ | ⟨-, missing⟩
    · cases returned
    · exact wp_ret.mpr ⟨buffer, log, read, account, .inr ⟨fun n => nofun, missing⟩⟩
  · intro e s' w' reached _
    obtain ⟨buffer, log, read, account, found⟩ := reached
    rcases found with ⟨n, returned, -⟩ | ⟨-, missing⟩
    · cases returned
    · exact ⟨buffer, log, read, account, .inr ⟨fun n => nofun, missing⟩⟩

/-- **`_receive_main_message` takes the frame at the front.** However the transport
cuts the stream and wherever time runs out, a call takes bytes off the front of
what is delivered to it: either exactly one frame, whose message it returns, or
bytes that are no whole frame, and it returns none. -/
theorem wp_receiveMainMessage (pb : Protobuf) (ledger : Ledger E delivered) (quiet : Quiet guard)
    (timeout : Time) (taken : Bytes) {s : Host} {w : σ}
    (account : delivered (taken ++ s.rxBuffer) w) :
    wp E guard (receiveMainMessage pb timeout) (fun result s' w' =>
      SameButBuffer s s' ∧ ∃ read, delivered (taken ++ (read ++ s'.rxBuffer)) w' ∧
        ((∃ payload, result = .ok (pb.parseFromString payload) ∧
            s'.rxLog = s.rxLog ++ [payload] ∧ frontPayload read = some (payload, [])) ∨
          ((∀ msg, result ≠ .ok (some msg)) ∧ s'.rxLog = s.rxLog ∧
            frontPayload (read ++ s'.rxBuffer) = none))) s w := by
  have body : wp E guard (do
      match ← readVarint timeout with
      | none => pure none
      | some payloadLen =>
          if payloadLen = 0 ∨ 1000000 < payloadLen then pure none
          else do
            let payload ← FlipperTransport.receiveExact payloadLen timeout
            if payload = [] ∨ payload.length ≠ payloadLen then pure none
            else do
              Coro.modify fun s => { s with rxLog := s.rxLog ++ [payload] }
              match pb.parseFromString payload with
              | none => .raise .decodeError
              | some msg => pure (some msg)) (fun result s' w' =>
      SameButBuffer s s' ∧ ∃ read, delivered (taken ++ (read ++ s'.rxBuffer)) w' ∧
        ((∃ payload, (result = .ok (pb.parseFromString payload) ∨
              (result = .error .decodeError ∧ pb.parseFromString payload = none)) ∧
            s'.rxLog = s.rxLog ++ [payload] ∧ frontPayload read = some (payload, [])) ∨
          ((∀ msg, result ≠ .ok (some msg)) ∧ s'.rxLog = s.rxLog ∧
            frontPayload (read ++ s'.rxBuffer) = none))) s w := by
    refine wp.bind (wp_readVarint ledger quiet timeout taken account) ?_ ?_
    · intro payloadLen s' w' reached
      obtain ⟨buffer, log, read, account, found⟩ := reached
      rcases found with ⟨n, returned, decoded⟩ | ⟨missing, decoded⟩
      · obtain rfl := Except.ok.inj returned
        have framed : ∀ later, Base128.decode 5 (read ++ later) = some (n, later) :=
          fun later => Base128.decode_append decoded later
        simp only
        split
        next unfit =>
          refine wp_ret.mpr ⟨buffer, read, account, .inr ⟨fun msg => nofun, log, ?_⟩⟩
          exact frontPayload_eq_none_of_unfit (framed _) unfit
        next bounded =>
          obtain ⟨nonzero, sized⟩ := not_or.mp bounded
          have account' : delivered ((taken ++ read) ++ s'.rxBuffer) w' := by
            rw [List.append_assoc]
            exact account
          refine wp.bind (FlipperTransport.wp_receiveExact ledger quiet
            (Nat.pos_of_ne_zero nonzero) timeout (taken ++ read) account') ?_ ?_
          · intro payload s'' w'' reached
            obtain ⟨buffer', log', got⟩ := reached
            rcases got with ⟨_, same, length, account⟩ | ⟨nothing, short, account⟩
            · obtain rfl := Except.ok.inj same
              subst length
              have nonempty : payload ≠ [] := List.length_pos_iff.mp (Nat.pos_of_ne_zero nonzero)
              have front := frontPayload_of_decode (framed payload) nonempty (not_lt.mp sized)
              have logged : s''.rxLog ++ [payload] = s.rxLog ++ [payload] := by rw [log', log]
              have changed : SameButBuffer s { s'' with rxLog := s''.rxLog ++ [payload] } :=
                (buffer.trans buffer').trans rfl
              rw [if_neg (not_or.mpr ⟨nonempty, not_not.mpr rfl⟩), wp_bind, wp_modify]
              rw [List.append_assoc, ← List.append_assoc read] at account
              simp only
              cases parsed : pb.parseFromString payload with
              | none =>
                  exact wp_raise.mpr ⟨changed, read ++ payload, account,
                    .inl ⟨payload, .inr ⟨rfl, parsed⟩, logged, front⟩⟩
              | some msg =>
                  have returned : (.ok (some msg) : Except Exn (Option Main)) =
                      .ok (pb.parseFromString payload) := by rw [parsed]
                  exact wp_ret.mpr ⟨changed, read ++ payload, account,
                    .inl ⟨payload, .inl returned, logged, front⟩⟩
            · obtain rfl := nothing payload rfl
              rw [if_pos (.inl rfl)]
              rw [List.append_assoc] at account
              refine wp_ret.mpr ⟨buffer.trans buffer', read, account,
                .inr ⟨fun msg => nofun, log'.trans log, ?_⟩⟩
              exact frontPayload_eq_none_of_short (framed _) short
          · intro e s'' w'' reached
            obtain ⟨buffer', log', got⟩ := reached
            rcases got with ⟨_, same, -⟩ | ⟨-, short, account⟩
            · cases same
            · rw [List.append_assoc] at account
              refine ⟨buffer.trans buffer', read, account,
                .inr ⟨fun msg => nofun, log'.trans log, ?_⟩⟩
              exact frontPayload_eq_none_of_short (framed _) short
      · cases payloadLen with
        | some n => exact absurd rfl (missing n)
        | none =>
            refine wp_ret.mpr ⟨buffer, read, account, .inr ⟨fun msg => nofun, log, ?_⟩⟩
            rw [frontPayload, Base128.unframe, decoded]
    · intro e s' w' reached
      obtain ⟨buffer, log, read, account, found⟩ := reached
      rcases found with ⟨n, returned, -⟩ | ⟨-, decoded⟩
      · cases returned
      · refine ⟨buffer, read, account, .inr ⟨fun msg => nofun, log, ?_⟩⟩
        rw [frontPayload, Base128.unframe, decoded]
  unfold receiveMainMessage
  refine Link.wp_orElse_of _ body ?_ ?_ ?_
  · intro value s' w' reached
    obtain ⟨buffer, read, account, found⟩ := reached
    refine ⟨buffer, read, account, found.imp_left ?_⟩
    intro took
    obtain ⟨payload, returned, log⟩ := took
    exact ⟨payload, returned.resolve_right (fun failed => nomatch failed.1), log⟩
  · intro e s' w' reached _
    obtain ⟨buffer, read, account, found⟩ := reached
    refine wp_ret.mpr ⟨buffer, read, account, found.imp ?_ ?_⟩
    · intro took
      obtain ⟨payload, returned, log⟩ := took
      have unparsed := (returned.resolve_left nofun).2
      exact ⟨payload, by rw [unparsed], log⟩
    · intro missing
      exact ⟨fun msg => nofun, missing.2⟩
  · intro e s' w' reached uncaught
    obtain ⟨buffer, read, account, found⟩ := reached
    rcases found with ⟨payload, returned, -⟩ | missing
    · obtain rfl := Except.error.inj (returned.resolve_left nofun).1
      cases uncaught
    · exact ⟨buffer, read, account, .inr missing⟩

end Ledger

section Arrivals

variable {σ ρ : Type} {E : LinkEnv σ} {chunks : σ → List Bytes} {rest : σ → ρ}
  {guard : LinkEvent σ → Prop}

/-- A length that is there is read. -/
theorem wp_readVarintLoop_arrivals (arrivals : Arrivals E chunks rest) (quiet : Quiet guard)
    (timeout : Time) {tries value shift : ℕ} (below : value < 2 ^ shift) {s : Host} {w : σ} {m : ℕ}
    {left : Bytes} (decoded : Base128.decode tries (unread chunks s w) = some (m, left)) :
    wp E guard (readVarintLoop timeout tries value shift) (fun result s' w' =>
      result = .ok (some (value + m * 2 ^ shift)) ∧ unread chunks s' w' = left) s w := by
  induction tries generalizing value shift s w m left with
  | zero => cases decoded
  | succ tries ih =>
      unfold readVarintLoop
      rcases stream : unread chunks s w with - | ⟨byte, later⟩
      · rw [stream, Base128.decode] at decoded
        cases decoded
      · have fits := byte.toNat_lt
        have enough : 1 ≤ (unread chunks s w).length := by
          rw [stream, List.length_cons]
          exact Nat.le_add_left 1 _
        rw [stream, Base128.decode] at decoded
        refine wp.bind (FlipperTransport.wp_receiveExact_arrivals arrivals quiet Nat.one_pos
          timeout s w) ?_ ?_
        · rintro out s' w' ⟨-, -, taken⟩
          rw [if_pos enough, stream] at taken
          obtain ⟨returned, after⟩ := taken
          obtain rfl : out = [byte] := Except.ok.inj returned
          replace after : unread chunks s' w' = later := after
          simp only [and_0x80_eq_zero_iff fits, and_0x7F, or_shiftLeft below]
          split at decoded
          next last =>
            obtain ⟨rfl, rfl⟩ := Prod.mk.inj (Option.some.inj decoded)
            rw [if_pos last, Nat.mod_eq_of_lt last]
            exact wp_ret.mpr ⟨rfl, after⟩
          next continued =>
            obtain ⟨⟨high, left'⟩, inner, same⟩ := Option.map_eq_some_iff.mp decoded
            obtain ⟨rfl, rfl⟩ := Prod.mk.inj same
            rw [if_neg continued]
            rw [← after] at inner
            refine (ih (add_lt_pow below (Nat.mod_lt _ (by decide))) inner).mono ?_
            rintro result s'' w'' ⟨rfl, end_⟩
            have group : byte.toNat % 128 = byte.toNat - 128 := by omega
            have sum : value + byte.toNat % 128 * 2 ^ shift + high * 2 ^ (shift + 7) =
                value + (byte.toNat - 128 + 128 * high) * 2 ^ shift := by
              rw [group, pow_add]
              ring
            exact ⟨by rw [sum], end_⟩
        · rintro e s' w' ⟨-, -, taken⟩
          rw [if_pos enough] at taken
          cases taken.1

/-- A call takes bytes off the front of what is unread and disturbs nothing else;
a message it returns is that of the frame at the front. -/
theorem wp_receiveMainMessage_quiet (pb : Protobuf) (arrivals : Arrivals E chunks rest)
    (quiet : Quiet guard) (timeout : Time) (s : Host) (w : σ) :
    wp E guard (receiveMainMessage pb timeout) (fun result s' w' =>
      SameButBuffer s s' ∧ rest w' = rest w ∧
        (∃ taken, unread chunks s w = taken ++ unread chunks s' w') ∧
        ∀ msg, result = .ok (some msg) → ∃ payload, pb.parseFromString payload = some msg ∧
          frontPayload (unread chunks s w) = some (payload, unread chunks s' w')) s w := by
  have account : unread chunks s w = ([] ++ s.rxBuffer) ++ arriving chunks w ∧ rest w = rest w :=
    ⟨rfl, rfl⟩
  refine (wp_receiveMainMessage pb (arrivals.ledger (unread chunks s w) (rest w)) quiet timeout []
    account).mono ?_
  intro result s' w' reached
  obtain ⟨buffer, read, ⟨stream, kept⟩, found⟩ := reached
  rw [List.nil_append, List.append_assoc] at stream
  replace stream : unread chunks s w = read ++ unread chunks s' w' := stream
  refine ⟨buffer, kept, ⟨read, stream⟩, fun msg returned => ?_⟩
  rcases found with ⟨payload, returned', -, front⟩ | ⟨missing, -⟩
  · rw [returned] at returned'
    refine ⟨payload, (Except.ok.inj returned').symm, ?_⟩
    rw [stream]
    exact frontPayload_append front _
  · exact absurd returned (missing msg)

/-- The message a call makes of a whole frame; an empty frame is passed over. -/
def messageIn (pb : Protobuf) (payload : Bytes) : Option Main :=
  if payload = [] then none else pb.parseFromString payload

theorem messageIn_nil (pb : Protobuf) : messageIn pb [] = none := rfl

theorem messageIn_of_ne_nil (pb : Protobuf) {payload : Bytes} (nonempty : payload ≠ []) :
    messageIn pb payload = pb.parseFromString payload :=
  if_neg nonempty

/-- What reading a frame ends with: its message, or the error of a payload that is none. -/
def FrameRead (pb : Protobuf) (payload : Bytes) : Except Exn (Option Main) → Prop
  | .ok found => found = messageIn pb payload
  | .error e => e = .decodeError ∧ payload ≠ [] ∧ pb.parseFromString payload = none

/-- **A frame that is there is messageIn.** -/
theorem wp_receiveMainMessage_frame (pb : Protobuf) (arrivals : Arrivals E chunks rest)
    (quiet : Quiet guard) (timeout : Time) {s : Host} {w : σ} {payload later : Bytes}
    (sized : payload.length ≤ 1000000)
    (stream : unread chunks s w = delimited payload ++ later) :
    wp E guard (receiveMainMessage pb timeout) (fun result s' w' =>
      SameButBuffer s s' ∧ rest w' = rest w ∧
        result = .ok (messageIn pb payload) ∧
        unread chunks s' w' = later) s w := by
  have fits : payload.length < 128 ^ (4 + 1) := sized.trans_lt (by decide)
  have decoded : Base128.decode 5 (unread chunks s w) =
      some (payload.length, payload ++ later) := by
    rw [stream, delimited_eq, Base128.frame, List.append_assoc]
    exact Base128.decode_encode fits _
  have conserved := wp_receiveMainMessage_quiet pb arrivals quiet timeout s w
  have found : wp E guard (receiveMainMessage pb timeout) (fun result s' w' =>
      result = .ok (messageIn pb payload) ∧
        unread chunks s' w' = later) s w := by
    unfold receiveMainMessage
    refine Link.wp_orElse_of (fun result s' w' =>
      unread chunks s' w' = later ∧ FrameRead pb payload result) ?_ ?_ ?_ ?_
    · have length : wp E guard (readVarint timeout) (fun result s' w' =>
          result = .ok (some payload.length) ∧
            unread chunks s' w' = payload ++ later) s w := by
        have loop := wp_readVarintLoop_arrivals arrivals quiet timeout
          (show 0 < 2 ^ 0 by decide) decoded
        refine Link.wp_orElse_of _ loop ?_ ?_ ?_
        · rintro value s' w' ⟨returned, after⟩
          rw [returned, pow_zero, Nat.mul_one, Nat.zero_add]
          exact ⟨rfl, after⟩
        · rintro e s' w' ⟨returned, -⟩
          cases returned
        · rintro e s' w' ⟨returned, -⟩
          cases returned
      refine wp.bind length ?_ ?_
      · rintro _ s' w' ⟨returned, after⟩
        obtain rfl := Except.ok.inj returned
        simp only
        by_cases empty : payload = []
        · subst empty
          rw [if_pos (.inl List.length_nil)]
          exact wp_ret.mpr ⟨after, rfl⟩
        · have positive := List.length_pos_iff.mpr empty
          have enough : payload.length ≤ (unread chunks s' w').length := by
            rw [after, List.length_append]
            exact Nat.le_add_right _ _
          rw [if_neg (not_or.mpr ⟨positive.ne', not_lt.mpr sized⟩)]
          refine wp.bind (FlipperTransport.wp_receiveExact_arrivals arrivals quiet positive
            timeout s' w') ?_ ?_
          · rintro out s'' w'' ⟨-, -, taken⟩
            rw [if_pos enough, after, List.take_left, List.drop_left] at taken
            obtain ⟨returned, after'⟩ := taken
            obtain rfl := Except.ok.inj returned
            rw [if_neg (not_or.mpr ⟨empty, not_not.mpr rfl⟩), wp_bind, wp_modify]
            simp only
            cases parsed : pb.parseFromString out with
            | none => exact wp_raise.mpr ⟨after', rfl, empty, parsed⟩
            | some msg =>
                have made := (messageIn_of_ne_nil pb empty).trans parsed
                exact wp_ret.mpr ⟨after', made.symm⟩
          · rintro e s'' w'' ⟨-, -, taken⟩
            rw [if_pos enough] at taken
            cases taken.1
      · rintro e s' w' ⟨returned, -⟩
        cases returned
    · rintro value s' w' ⟨after, rfl⟩
      exact ⟨rfl, after⟩
    · rintro e s' w' ⟨after, -, nonempty, parsed⟩ -
      rw [messageIn_of_ne_nil pb nonempty, parsed]
      exact wp_ret.mpr ⟨rfl, after⟩
    · rintro e s' w' ⟨-, rfl, -⟩ uncaught
      cases uncaught
  refine (conserved.and found).mono ?_
  intro result s' w' reached
  obtain ⟨⟨buffer, kept, -⟩, found⟩ := reached
  exact ⟨buffer, kept, found⟩

/-- A call that finds nothing takes nothing. -/
theorem wp_receiveMainMessage_silent (pb : Protobuf) (arrivals : Arrivals E chunks rest)
    (quiet : Quiet guard) (timeout : Time) {s : Host} {w : σ}
    (silent : unread chunks s w = []) :
    wp E guard (receiveMainMessage pb timeout) (fun result s' w' =>
      SameButBuffer s s' ∧ rest w' = rest w ∧ result = .ok none ∧
        unread chunks s' w' = []) s w := by
  have conserved := wp_receiveMainMessage_quiet pb arrivals quiet timeout s w
  have nothing : wp E guard (receiveMainMessage pb timeout) (fun result _ _ =>
      result = .ok none) s w := by
    have loop : wp E guard (readVarintLoop timeout 5 0 0) (fun result _ _ =>
        result = .ok none) s w := by
      unfold readVarintLoop
      refine wp.bind (FlipperTransport.wp_receiveExact_arrivals arrivals quiet Nat.one_pos
        timeout s w) ?_ ?_
      · rintro out s' w' ⟨-, -, taken⟩
        rw [silent, if_neg (by decide)] at taken
        obtain rfl := Except.ok.inj taken.1
        exact wp_ret.mpr rfl
      · rintro e s' w' ⟨-, -, taken⟩
        rw [silent, if_neg (by decide)] at taken
        cases taken.1
    have length : wp E guard (readVarint timeout) (fun result _ _ => result = .ok none) s w := by
      refine Link.wp_orElse_of _ loop (fun _ _ _ returned => returned) ?_ ?_ <;>
        exact fun e s' w' returned => by cases returned
    unfold receiveMainMessage
    refine Link.wp_orElse_of (fun result _ _ => result = .ok none) ?_
      (fun _ _ _ returned => returned) ?_ ?_
    · refine wp.bind length ?_ ?_
      · rintro _ s' w' returned
        obtain rfl := Except.ok.inj returned
        exact wp_ret.mpr rfl
      · exact fun e s' w' returned => by cases returned
    · exact fun e s' w' returned => by cases returned
    · exact fun e s' w' returned => by cases returned
  refine (conserved.and nothing).mono ?_
  intro result s' w' reached
  obtain ⟨⟨buffer, kept, ⟨taken, split⟩, -⟩, returned⟩ := reached
  rw [silent] at split
  exact ⟨buffer, kept, returned, (List.append_eq_nil_iff.mp split.symm).2⟩

end Arrivals

end ProtobufRPC

end FlipperMcp
