import FlipperMcp.Bridge.CaptivePortal
import FlipperMcp.Wire.FormEncoding
import Mathlib.Data.List.TakeDrop

/-! # The credentials in the captive portal

What a browser posts reaches the storage and the driver through five buffers. `url_decode`
undoes the encoding character by character (`decodeLoop_encode`) and stays inside its buffer.
Of the other four, the copy of the encoded password and the fields of the driver are too small
for what the form takes; the exact condition is `credentials_survive_iff`.
-/

namespace FlipperMcp.CaptivePortal

open CString FormEncoding

section Decoding

variable {room : ℕ} {rest : List UInt8}

theorem strtol16_escape : ∀ high < 16, ∀ low < 16,
    toChar (strtol16 [hexDigit high, hexDigit low]) = UInt8.ofNat (16 * high + low) := by
  decide +kernel

/-- A character that was encoded is decoded, whatever stands behind it. -/
theorem decodeLoop_encodeByte (b : UInt8) :
    decodeLoop (room + 1) (encodeByte b ++ rest) = b :: decodeLoop room rest := by
  unfold encodeByte
  by_cases itself : plain b = true
  · rw [if_pos itself, List.singleton_append, decodeLoop]
    have percent : ¬ (b = 37 ∧ 2 ≤ rest.length) := fun both => by
      rw [both.1] at itself
      exact absurd itself (by decide)
    have plus : b ≠ 43 := fun same => by
      rw [same] at itself
      exact absurd itself (by decide)
    rw [if_neg percent, if_neg plus]
  rw [if_neg itself]
  by_cases space : b = 32
  · rw [if_pos space, List.singleton_append, decodeLoop, space]
    rfl
  · rw [if_neg space]
    change decodeLoop (room + 1) (37 :: hexDigit _ :: hexDigit _ :: rest) = _
    rw [decodeLoop, if_pos ⟨rfl, Nat.le_add_left 2 rest.length⟩]
    change toChar (strtol16 [hexDigit _, hexDigit _]) :: _ = _
    rw [strtol16_escape _ (high_digit b) _ (low_digit b), Nat.div_add_mod]
    exact congrArg (· :: decodeLoop room rest) UInt8.ofNat_toNat

/-- So is a text that there is room for. -/
theorem decodeLoop_encode {bytes : List UInt8} (fits : bytes.length ≤ room) :
    decodeLoop room (encode bytes ++ rest) = bytes ++ decodeLoop (room - bytes.length) rest := by
  induction bytes generalizing room with
  | nil => rfl
  | cons b bytes ih =>
      obtain ⟨left, rfl⟩ : ∃ left, room = left + 1 :=
        Nat.exists_eq_add_of_le' (Nat.le_trans (Nat.le_add_left 1 _) fits)
      rw [encode_cons, List.append_assoc, decodeLoop_encodeByte, ih (Nat.le_of_succ_le_succ fits),
        List.length_cons, Nat.add_sub_add_right]
      rfl

theorem decodeLoop_nil (room : ℕ) : decodeLoop room [] = [] := by
  cases room <;> rfl

theorem decodeLoop_encode_all {bytes : List UInt8} (fits : bytes.length ≤ room) :
    decodeLoop room (encode bytes) = bytes := by
  have decoded : decodeLoop room (encode bytes ++ []) = _ := decodeLoop_encode fits
  rw [decodeLoop_nil, List.append_nil, List.append_nil] at decoded
  exact decoded

/-- What a cut leaves of one encoded byte. -/
theorem take_encodeByte {b : UInt8} {k : ℕ} (inside : k < (encodeByte b).length) :
    (encodeByte b).take k = [] ∨ (k = 1 ∧ (encodeByte b).take k = [37]) ∨
      (k = 2 ∧ (encodeByte b).take k = [37, hexDigit (b.toNat / 16)]) := by
  have bound := Nat.lt_of_lt_of_le inside (length_encodeByte b).2
  unfold encodeByte at inside ⊢
  split at inside
  next itself =>
    obtain rfl := Nat.lt_one_iff.mp inside
    exact .inl rfl
  next escaped =>
    split at inside
    next space =>
      obtain rfl := Nat.lt_one_iff.mp inside
      exact .inl rfl
    next other =>
      rw [if_neg escaped, if_neg other]
      obtain rfl | rfl | rfl : k = 0 ∨ k = 1 ∨ k = 2 := by omega
      · exact .inl rfl
      · exact .inr (.inl ⟨rfl, rfl⟩)
      · exact .inr (.inr ⟨rfl, rfl⟩)

theorem decodeLoop_plain {b : UInt8} (itself : plain b = true) :
    decodeLoop (room + 1) (b :: rest) = b :: decodeLoop room rest := by
  have decoded : decodeLoop (room + 1) (encodeByte b ++ rest) = _ := decodeLoop_encodeByte b
  unfold encodeByte at decoded
  rw [if_pos itself] at decoded
  exact decoded

/-- An escape that is cut off is taken as it stands. -/
theorem decodeLoop_cut {b : UInt8} {k : ℕ} (inside : k < (encodeByte b).length) :
    decodeLoop (room + 2) ((encodeByte b).take k) = (encodeByte b).take k := by
  rcases take_encodeByte inside with none_ | ⟨-, percent⟩ | ⟨-, digit⟩
  · rw [none_, decodeLoop_nil]
  · rw [percent]
    rfl
  · rw [digit]
    change 37 :: decodeLoop (room + 1) [hexDigit _] = _
    rw [decodeLoop_plain (plain_hexDigit _ (high_digit b)), decodeLoop_nil]

theorem length_decodeLoop (room : ℕ) (src : List UInt8) : (decodeLoop room src).length ≤ room := by
  induction room generalizing src with
  | zero => exact Nat.le_of_eq rfl
  | succ room ih =>
      cases src with
      | nil => exact Nat.zero_le _
      | cons c rest =>
          rw [decodeLoop]
          split
          · exact Nat.succ_le_succ (ih _)
          · split
            · exact Nat.succ_le_succ (ih _)
            · exact Nat.succ_le_succ (ih _)

/-- **`url_decode` stays inside its buffer.** -/
theorem length_urlDecode (src : List UInt8) {dstSize : ℕ} (positive : 0 < dstSize)
    (size : dstSize < 2 ^ 32) : (urlDecode src dstSize).length ≤ dstSize := by
  have written := length_decodeLoop (Bridge.sizeSub dstSize 1) src
  have room : Bridge.sizeSub dstSize 1 = dstSize - 1 := by
    unfold Bridge.sizeSub
    omega
  unfold urlDecode
  rw [List.length_append, List.length_singleton]
  omega

end Decoding

/-- What a browser posts from the served page. -/
def formBody (ssid password : List UInt8) : List UInt8 :=
  ascii "ssid=" ++ encode ssid ++ ascii "&password=" ++ encode password

section Form

variable {ssid : List UInt8} (password : List UInt8)

theorem zero_not_mem_encode (bytes : List UInt8) : (0 : UInt8) ∉ encode bytes :=
  not_mem_encode (by decide) bytes

theorem ampersand_not_mem_encode (bytes : List UInt8) : (38 : UInt8) ∉ encode bytes :=
  not_mem_encode (by decide) bytes

/-- The request buffer cuts nothing but the password, and that behind 127 characters. -/
theorem received_formBody (short : ssid.length ≤ 32) : ∃ n, 127 ≤ n ∧
    text (httpdReqRecv (formBody ssid password) 255) =
      ascii "ssid=" ++ (encode ssid ++ 38 :: (ascii "password=" ++ (encode password).take n)) := by
  have bound := length_encode_le ssid
  have lead : (ascii "ssid=" ++ encode ssid ++ ascii "&password=").length ≤ 111 := by
    rw [List.length_append, List.length_append]
    change 5 + _ + 10 ≤ 111
    omega
  refine ⟨255 - (ascii "ssid=" ++ encode ssid ++ ascii "&password=").length, by omega, ?_⟩
  have cut : httpdReqRecv (formBody ssid password) 255 = ascii "ssid=" ++ encode ssid ++
      ascii "&password=" ++ (encode password).take _ :=
    (List.take_append).trans (congrArg (· ++ _) (List.take_of_length_le (Nat.le_trans lead (by decide))))
  rw [cut, text, before_eq]
  · simp only [List.append_assoc]
    rfl
  · intro present
    rcases List.mem_append.mp present with present | present
    · rcases List.mem_append.mp present with present | present
      · rcases List.mem_append.mp present with present | present
        · exact absurd present (by decide)
        · exact zero_not_mem_encode ssid present
      · exact absurd present (by decide)
    · exact zero_not_mem_encode password (List.mem_of_mem_take present)

theorem formField_ssid (later : List UInt8) :
    formField "ssid=" (ascii "ssid=" ++ (encode ssid ++ 38 :: later)) = some ((encode ssid).take 127) := by
  unfold formField
  rw [strstr_of_front (List.prefix_append _ _), Option.map_some, List.drop_left,
    before_append (ampersand_not_mem_encode ssid)]

theorem formField_password (value : List UInt8) (free : (38 : UInt8) ∉ value) :
    formField "password=" (ascii "ssid=" ++ (encode ssid ++ 38 :: (ascii "password=" ++ value))) =
      some (value.take 127) := by
  have equals : (61 : UInt8) ∉ encode ssid ++ [38] := fun present =>
    (List.mem_append.mp present).elim (not_mem_encode (by decide) ssid) (by decide)
  have found : strstr (ascii "password=")
      (ascii "ssid=" ++ (encode ssid ++ 38 :: (ascii "password=" ++ value))) =
        some (ascii "password=" ++ value) := by
    calc strstr (ascii "password=") (ascii "ssid=" ++ (encode ssid ++ 38 :: (ascii "password=" ++ value)))
        = strstr (ascii "password=") (encode ssid ++ 38 :: (ascii "password=" ++ value)) :=
          strstr_append_of_head (by decide) _
      _ = strstr (ascii "password=") (ascii "password=" ++ value) :=
          strstr_append_of_stop (c := 61) (by decide) equals (by decide) _
      _ = some (ascii "password=" ++ value) := strstr_of_front (List.prefix_append _ _)
  unfold formField
  rw [found, Option.map_some, List.drop_left, before_eq free]

/-- The fields as the handler decodes them. -/
theorem decodedFields (short : ssid.length ≤ 32) (free : (0 : UInt8) ∉ ssid) :
    decodedField "ssid=" 33 (text (httpdReqRecv (formBody ssid password) 255)) = ssid ∧
    decodedField "password=" 65 (text (httpdReqRecv (formBody ssid password) 255)) =
      text (decodeLoop 64 ((encode password).take 127) ++ [0]) := by
  obtain ⟨n, enough, received⟩ := received_formBody password short
  have cut : (38 : UInt8) ∉ (encode password).take n :=
    fun present => ampersand_not_mem_encode password (List.mem_of_mem_take present)
  have whole : (encode ssid).length ≤ 127 := by
    have bound := length_encode_le ssid
    omega
  rw [received]
  unfold decodedField
  rw [formField_ssid, formField_password _ cut, List.take_of_length_le whole, List.take_take,
    Nat.min_eq_left enough]
  refine ⟨?_, rfl⟩
  change text (decodeLoop 32 (encode ssid) ++ [0]) = ssid
  rw [decodeLoop_encode_all short, text, before_append free]

end Form

/-- The copy of the encoded password, cut behind 127 characters, still decodes to the password: it
is whole, or the cut goes through the escape of a `%` that the password ends in, with what is left
of the escape standing for the end itself. -/
def Uncut (password : List UInt8) : Prop :=
  (encode password).length ≤ 127 ∨
    (∃ front, password = front ++ [37] ∧ (encode front).length = 126) ∨
    (∃ front, password = front ++ [37, 50] ∧ (encode front).length = 125)

section Password

variable {password : List UInt8}

/-- The cut password, decoded. -/
theorem decodeLoop_take (short : password.length ≤ 63) :
    ((encode password).length ≤ 127 ∧ decodeLoop 64 ((encode password).take 127) = password) ∨
      ∃ front b rest k, password = front ++ b :: rest ∧ (encode front).length + k = 127 ∧
        k < (encodeByte b).length ∧
        decodeLoop 64 ((encode password).take 127) = front ++ (encodeByte b).take k := by
  rcases encode_take_cases password 127 with whole | ⟨front, b, rest, k, split, count, inside, cut⟩
  · left
    rw [List.take_of_length_le whole]
    exact ⟨whole, decodeLoop_encode_all (Nat.le_succ_of_le short)⟩
  · refine .inr ⟨front, b, rest, k, split, count, inside, ?_⟩
    have less : front.length ≤ 62 := by
      have length := congrArg List.length split
      rw [List.length_append, List.length_cons] at length
      omega
    obtain ⟨room, left⟩ : ∃ room, 64 - front.length = room + 2 :=
      ⟨62 - front.length, by omega⟩
    rw [cut, decodeLoop_encode (Nat.le_trans less (by decide)), left, decodeLoop_cut inside]

/-- **The password survives the copy** exactly when the cut does no harm. -/
theorem decodeLoop_take_iff (short : password.length ≤ 63) :
    decodeLoop 64 ((encode password).take 127) = password ↔ Uncut password := by
  constructor
  · intro kept
    rcases decodeLoop_take short with ⟨whole, -⟩ | ⟨front, b, rest, k, split, count, inside, decoded⟩
    · exact .inl whole
    rw [kept, split] at decoded
    have tail := (List.append_cancel_left decoded).symm
    rcases take_encodeByte inside with none_ | ⟨one, percent⟩ | ⟨two, digit⟩
    · rw [none_] at tail
      exact nomatch tail
    · rw [percent] at tail
      obtain ⟨rfl, rfl⟩ := List.cons.inj tail
      exact .inr (.inl ⟨front, split, by omega⟩)
    · rw [digit] at tail
      obtain ⟨rfl, rfl⟩ := List.cons.inj tail
      exact .inr (.inr ⟨front, split, by omega⟩)
  · rintro (whole | ⟨front, rfl, length⟩ | ⟨front, rfl, length⟩)
    · rcases decodeLoop_take short with ⟨-, decoded⟩ | ⟨front, b, rest, k, rfl, count, inside, -⟩
      · exact decoded
      · rw [encode_append, encode_cons, List.length_append, List.length_append] at whole
        omega
    · have cut : (encode (front ++ [37])).take 127 = encode front ++ [37] := by
        rw [encode_append, List.take_append, List.take_of_length_le (by omega), length]
        rfl
      rw [List.length_append, List.length_singleton] at short
      rw [cut, decodeLoop_encode (by omega)]
      obtain ⟨room, left⟩ : ∃ room, 64 - front.length = room + 1 := ⟨63 - front.length, by omega⟩
      rw [left]
      cases room <;> rfl
    · have cut : (encode (front ++ [37, 50])).take 127 = encode front ++ [37, 50] := by
        rw [encode_append, List.take_append, List.take_of_length_le (by omega), length]
        rfl
      rw [List.length_append] at short
      replace short : front.length + 2 ≤ 63 := short
      rw [cut, decodeLoop_encode (by omega)]
      obtain ⟨room, left⟩ : ∃ room, 64 - front.length = room + 3 := ⟨61 - front.length, by omega⟩
      rw [left]
      rfl

/-- The password as the handler has it. -/
theorem text_decoded (short : password.length ≤ 63) (free : (0 : UInt8) ∉ password) :
    text (decodeLoop 64 ((encode password).take 127) ++ [0]) =
      decodeLoop 64 ((encode password).take 127) := by
  apply before_append
  rcases decodeLoop_take short with ⟨-, decoded⟩ | ⟨front, b, rest, k, rfl, -, -, decoded⟩
  · rw [decoded]
    exact free
  · rw [decoded]
    intro present
    rcases List.mem_append.mp present with present | present
    · exact free (List.mem_append_left _ present)
    · have encoded : (0 : UInt8) ∈ encode [b] := by
        rw [encode_cons]
        exact List.mem_append_left _ (List.mem_of_mem_take present)
      exact zero_not_mem_encode [b] encoded

end Password

/-- What the calls store, under its keys. -/
def stored (calls : List PortalCall) : List (String × List UInt8) :=
  calls.filterMap fun
    | .nvsSetStr key value => some (key, value)
    | _ => none

/-- What the driver reads from the configurations it is passed. -/
def configured (calls : List PortalCall) : List (List UInt8 × List UInt8) :=
  calls.filterMap fun
    | .setConfig config => some (text config.ssid, text config.password)
    | _ => none

/-- The posted credentials are stored and passed to the driver, where the storage accepts them. -/
def Survive (ssid password : List UInt8) : Prop :=
  ∀ connected, (fun calls : List PortalCall =>
    stored calls = [("ssid", ssid), ("password", password)] ∧ PortalCall.nvsCommit ∈ calls ∧
      configured calls = [(ssid, password)])
    (httpConnectHandler (fun _ => true) connected (formBody ssid password)).1

section Handler

variable {ssid : List UInt8} (password : List UInt8)

theorem mem_saveCredentials (ssid decoded : List UInt8) :
    PortalCall.nvsCommit ∈ saveCredentials (fun _ => true) ssid decoded := by
  simp [saveCredentials]

/-- What the handler does with a posted form. -/
theorem httpConnectHandler_formBody (named : 1 ≤ ssid.length) (short : ssid.length ≤ 32)
    (free : (0 : UInt8) ∉ ssid) (connected : Bool) :
    (fun (decoded : List UInt8) (calls : List PortalCall) =>
      stored calls = [("ssid", ssid), ("password", decoded)] ∧ PortalCall.nvsCommit ∈ calls ∧
        configured calls = [(text (strncpy 32 31 ssid), text (strncpy 64 63 decoded))])
      (text (decodeLoop 64 ((encode password).take 127) ++ [0]))
      (httpConnectHandler (fun _ => true) connected (formBody ssid password)).1 := by
  obtain ⟨decodedSsid, decodedPassword⟩ := decodedFields password short free
  have some_ : httpdReqRecv (formBody ssid password) 255 ≠ [] := fun none_ => nomatch none_
  have given : ssid ≠ [] := List.ne_nil_of_length_pos named
  unfold httpConnectHandler
  simp only [if_neg some_, decodedSsid, decodedPassword, if_neg given]
  have committed := mem_saveCredentials ssid (text (decodeLoop 64 ((encode password).take 127) ++ [0]))
  cases connected <;>
    exact ⟨rfl, List.mem_append_left _ (List.mem_append_left _ committed), rfl⟩

/-- **When the credentials survive.** The name fits in 31 bytes, the password in 63, and its copy is
not cut in a way that changes it. `url_decode` keeps to its buffer for every text. -/
theorem credentials_survive_iff (ssid password : List UInt8) (named : 1 ≤ ssid.length)
    (short : ssid.length ≤ 32) (free : (0 : UInt8) ∉ ssid) (free' : (0 : UInt8) ∉ password) :
    (Survive ssid password ↔ ssid.length ≤ 31 ∧ password.length ≤ 63 ∧ Uncut password) ∧
      ∀ src dstSize, 0 < dstSize → dstSize < 2 ^ 32 → (urlDecode src dstSize).length ≤ dstSize := by
  refine ⟨⟨fun survive => ?_, fun ⟨ssidShort, passwordShort, uncut⟩ connected => ?_⟩,
    fun src dstSize positive size => length_urlDecode src positive size⟩
  · obtain ⟨storedAs, -, passed⟩ := httpConnectHandler_formBody password named short free true
    obtain ⟨kept, -, read⟩ := survive true
    rw [kept] at storedAs
    rw [read] at passed
    have decoded : text (decodeLoop 64 ((encode password).take 127) ++ [0]) = password := by
      injection storedAs with _ later
      injection later with same _
      exact (congrArg Prod.snd same).symm
    rw [decoded, text_strncpy free, text_strncpy free'] at passed
    have same := List.singleton_inj.mp passed
    have ssidShort := (List.take_eq_self_iff ssid).mp (congrArg Prod.fst same).symm
    have passwordShort := (List.take_eq_self_iff password).mp (congrArg Prod.snd same).symm
    rw [text_decoded passwordShort free'] at decoded
    exact ⟨ssidShort, passwordShort, (decodeLoop_take_iff passwordShort).mp decoded⟩
  · have handled := httpConnectHandler_formBody password named short free connected
    rw [text_decoded passwordShort free', (decodeLoop_take_iff passwordShort).mpr uncut,
      text_strncpy free, text_strncpy free', List.take_of_length_le ssidShort,
      List.take_of_length_le passwordShort] at handled
    exact handled

/-- A short network and its password. -/
theorem credentials_survive_short :
    Survive (ascii "home") (ascii "a%b c&d") ∧ (urlDecode (ascii "a%25b") 33).length ≤ 33 := by
  have survives := credentials_survive_iff (ascii "home") (ascii "a%b c&d") (by decide) (by decide)
    (by decide) (by decide)
  exact ⟨survives.1.mpr ⟨by decide, by decide, .inl (by decide)⟩,
    survives.2 _ 33 (by decide) (by decide)⟩

/-- A name of 32 bytes loses its last one on the way to the driver. -/
theorem credentials_long_ssid :
    ¬ ∀ ssid password : List UInt8, 1 ≤ ssid.length → ssid.length ≤ 32 → password.length ≤ 64 →
      (0 : UInt8) ∉ ssid → (0 : UInt8) ∉ password → Survive ssid password := by
  intro survive
  have read := (survive (List.replicate 32 97) [] (by decide) (by decide) (by decide) (by decide)
    (by decide) true).2.2
  exact absurd read (by decide +kernel)

end Handler

end FlipperMcp.CaptivePortal
