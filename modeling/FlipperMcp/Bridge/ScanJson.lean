import FlipperMcp.Bridge.CaptivePortal
import FlipperMcp.Lexical.JsonText
import FlipperMcp.Python.Utf8

/-! # The list of networks

`http_scan_handler` prints each record into its buffer and appends it to the text, and neither
buffer cuts anything off (`httpScanHandler_eq`). The name stands between the quotes as it is, so
the text reads back as the list of the records exactly when no name needs an escape
(`scan_json_iff`).
-/

namespace FlipperMcp.CaptivePortal

open CString JsonText

/-- UTF-8. -/
def utf8 (text : List Char) : List UInt8 := text.flatMap String.utf8EncodeChar

/-- A network in range: its name, which is broadcast in at most 32 bytes of UTF-8, and the strength
of its signal. -/
structure Network where
  name : List Char
  rssi : Int8
  short : (utf8 name).length ≤ 32
  free : (0 : UInt8) ∉ utf8 name

/-- The record the scan returns for it. -/
def Network.record (network : Network) : ApRecord := ⟨strncpy 33 32 (utf8 network.name), network.rssi⟩

/-- The decimal notation of the signal strength. -/
def Network.strength (network : Network) : List Char := (toString network.rssi.toInt).toList

/-- What is printed for it. -/
def Network.printed (network : Network) : List Char :=
  "\x7b\"ssid\":\"".toList ++ network.name ++ "\",\"rssi\":".toList ++ network.strength ++ ['\x7d']

/-- The object that should stand for it. -/
def Network.value (network : Network) : Value :=
  .object [("ssid".toList.map Char.toNat, .string (network.name.map Char.toNat)),
    ("rssi".toList.map Char.toNat, .number network.rssi.toInt 0)]

/-- A name that needs no escape. -/
def Network.Plain (network : Network) : Prop := ∀ c ∈ network.name, Clean c

section Printing

theorem utf8_append (front rest : List Char) : utf8 (front ++ rest) = utf8 front ++ utf8 rest :=
  List.flatMap_append

/-- The notations of all strengths. -/
theorem strengths : ∀ n < 256, (fun text : List Char =>
    text.length ≤ 4 ∧ text.map Char.toUInt8 = utf8 text ∧
      (if text.head? = some '-' then IsNatural text.tail (Int8.ofNat n).toInt.natAbs ∧ (Int8.ofNat n).toInt ≤ 0
      else IsNatural text (Int8.ofNat n).toInt.natAbs ∧ 0 ≤ (Int8.ofNat n).toInt))
    (toString (Int8.ofNat n).toInt).toList := by
  decide +kernel

theorem exists_ofNat (r : Int8) : ∃ n < 256, Int8.ofNat n = r :=
  ⟨r.toBitVec.toNat, r.toBitVec.isLt, Int8.toBitVec_inj.mp (BitVec.ofNat_toNat ..)⟩

variable {network : Network}

theorem length_strength (network : Network) : network.strength.length ≤ 4 := by
  obtain ⟨n, small, same⟩ := exists_ofNat network.rssi
  have notation_ := (strengths n small).1
  rw [same] at notation_
  exact notation_

theorem ascii_strength (network : Network) :
    ascii (toString network.rssi.toInt) = utf8 network.strength := by
  obtain ⟨n, small, same⟩ := exists_ofNat network.rssi
  have notation_ := (strengths n small).2.1
  rw [same] at notation_
  exact notation_

/-- It reads back as the number, and begins as a number does. -/
theorem number_strength (network : Network) (rest : List Char) :
    number (network.strength ++ '\x7d' :: rest) = some (.number network.rssi.toInt 0, '\x7d' :: rest) ∧
      ∃ c text, network.strength = c :: text ∧ (c.isDigit = true ∨ c = '-') := by
  obtain ⟨n, small, same⟩ := exists_ofNat network.rssi
  have notation_ := (strengths n small).2.2
  rw [same] at notation_
  change (if network.strength.head? = some '-' then _ else _) at notation_
  split at notation_
  next negative =>
    obtain ⟨natural, sign⟩ := notation_
    change IsNatural network.strength.tail _ at natural
    cases shape : network.strength with
    | nil => exact nomatch (congrArg List.head? shape).symm.trans negative
    | cons c text =>
        rw [shape] at negative natural
        obtain rfl := Option.some.inj negative
        refine ⟨?_, '-', text, rfl, .inr rfl⟩
        have value : -(network.rssi.toInt.natAbs : ℤ) = network.rssi.toInt := by omega
        exact (number_negative natural rest).trans (by rw [value])
  next positive =>
    obtain ⟨natural, sign⟩ := notation_
    change IsNatural network.strength _ at natural
    refine ⟨?_, ?_⟩
    · have value : (network.rssi.toInt.natAbs : ℤ) = network.rssi.toInt := by omega
      exact (number_natural natural rest).trans (by rw [value])
    · obtain ⟨all, some_, -, -⟩ := natural
      obtain ⟨c, text, shape⟩ := List.exists_cons_of_ne_nil some_
      refine ⟨c, text, shape, .inl ?_⟩
      rw [shape] at all
      exact List.all_eq_true.mp all c (List.mem_cons_self ..)

/-- What is printed for a network is 56 bytes at most. -/
theorem length_printed (network : Network) : (utf8 network.printed).length ≤ 55 := by
  have strength := length_strength network
  have short := network.short
  have bytes : (utf8 network.strength).length = network.strength.length := by
    rw [← ascii_strength]
    exact List.length_map ..
  unfold Network.printed
  simp only [utf8_append, List.length_append]
  rw [bytes]
  change 9 + _ + 9 + _ + 1 ≤ 55
  omega

/-- Printing one cuts nothing off. -/
theorem scanEntry_record (index : ℕ) (network : Network) :
    scanEntry index network.record = (if 0 < index then [44] else []) ++ utf8 network.printed := by
  have bound := length_printed network
  have name : text network.record.ssid = utf8 network.name :=
    (text_strncpy network.free).trans (List.take_of_length_le network.short)
  have lead : (if 0 < index then ascii "," else []) = if 0 < index then [44] else [] := by
    split <;> rfl
  have comma : (if 0 < index then [(44 : UInt8)] else []).length ≤ 1 := by
    split
    · exact Nat.le_refl 1
    · exact Nat.zero_le 1
  have whole : (if 0 < index then ascii "," else []) ++ ascii "\x7b\"ssid\":\"" ++
      text network.record.ssid ++ ascii "\",\"rssi\":" ++ ascii (toString network.record.rssi.toInt) ++ ascii "\x7d" =
        (if 0 < index then [44] else []) ++ utf8 network.printed := by
    unfold Network.printed
    simp only [utf8_append, List.append_assoc]
    rw [lead, name, ← ascii_strength]
    rfl
  unfold scanEntry
  rw [whole, List.take_of_length_le]
  rw [List.length_append]
  omega

end Printing

/-- The items of the list, one after the other. -/
def printedItems : List Network → List Char
  | [] => []
  | network :: networks => network.printed ++ networks.flatMap fun network => ',' :: network.printed

/-- The whole text. -/
def printedList (networks : List Network) : List Char := '[' :: (printedItems networks ++ [']'])

section Handler

variable {networks : List Network}

/-- Behind the first record each is printed with a comma. -/
theorem mapIdx_scanEntry (networks : List Network) (k : ℕ) :
    (networks.map Network.record).mapIdx (fun index => scanEntry (index + k + 1)) =
      networks.map fun network => utf8 (',' :: network.printed) := by
  induction networks generalizing k with
  | nil => rfl
  | cons network networks ih =>
      have later := ih (k + 1)
      rw [List.map_cons, List.mapIdx_cons, scanEntry_record,
        if_pos (Nat.succ_pos _), List.map_cons]
      have shifted : (fun index => scanEntry (index + 1 + k + 1)) =
          fun index => scanEntry (index + (k + 1) + 1) := by
        funext index
        rw [Nat.add_right_comm index 1 k, Nat.add_assoc index k 1]
      rw [shifted, later]
      rfl

theorem flatten_scanEntry (networks : List Network) :
    ((networks.map Network.record).mapIdx scanEntry).flatten = utf8 (printedItems networks) := by
  cases networks with
  | nil => rfl
  | cons network networks =>
      have later := mapIdx_scanEntry networks 0
      rw [List.map_cons, List.mapIdx_cons, scanEntry_record,
        List.flatten_cons, if_neg (Nat.lt_irrefl 0), List.nil_append]
      change _ ++ ((networks.map Network.record).mapIdx fun index => scanEntry (index + 0 + 1)).flatten = _
      rw [later, printedItems, utf8_append, ← List.flatMap_def]
      unfold utf8
      rw [List.flatMap_assoc]

theorem length_printedItems (networks : List Network) :
    (utf8 (printedItems networks)).length ≤ 56 * networks.length := by
  have later : ∀ networks : List Network,
      (utf8 (networks.flatMap fun network => ',' :: network.printed)).length ≤ 56 * networks.length := by
    intro networks
    induction networks with
    | nil => exact Nat.zero_le _
    | cons network networks ih =>
        have here := length_printed network
        rw [List.flatMap_cons, utf8_append, List.length_append, List.length_cons]
        change (utf8 network.printed).length + 1 + _ ≤ _
        omega
  cases networks with
  | nil => exact Nat.zero_le _
  | cons network networks =>
      have here := length_printed network
      have rest := later networks
      rw [printedItems, utf8_append, List.length_append, List.length_cons]
      omega

/-- Appending what there is room for. -/
theorem appendJson_eq {json string : List UInt8} (room : json.length + string.length ≤ 1023) :
    appendJson json string = json ++ string := by
  have size : Bridge.sizeSub (Bridge.sizeSub 1024 json.length) 1 = 1023 - json.length := by
    unfold Bridge.sizeSub
    omega
  unfold appendJson
  rw [size, List.take_of_length_le (by omega)]

theorem foldl_appendJson {json : List UInt8} {entries : List (List UInt8)}
    (room : json.length + entries.flatten.length ≤ 1023) :
    entries.foldl appendJson json = json ++ entries.flatten := by
  induction entries generalizing json with
  | nil => exact (List.append_nil json).symm
  | cons entry entries ih =>
      rw [List.flatten_cons, List.length_append] at room
      rw [List.foldl_cons, appendJson_eq (by omega), ih (by rw [List.length_append]; omega),
        List.flatten_cons, List.append_assoc]

/-- **The buffers cut nothing off.** -/
theorem httpScanHandler_eq (few : networks.length ≤ 10) :
    httpScanHandler (networks.map Network.record) = utf8 (printedList networks) := by
  have bound := length_printedItems networks
  have all : (networks.map Network.record).take 10 = networks.map Network.record :=
    List.take_of_length_le (by rw [List.length_map]; exact few)
  have lead : (ascii "[").length = 1 := rfl
  unfold httpScanHandler
  simp only
  rw [all, foldl_appendJson, flatten_scanEntry, appendJson_eq]
  · unfold printedList
    rw [← List.cons_append, utf8_append]
    rfl
  · rw [List.length_append, lead]
    change 1 + _ + 1 ≤ 1023
    omega
  · rw [flatten_scanEntry, lead]
    omega

end Handler

section Reading

variable {network : Network} {networks : List Network} {fuel : ℕ} {rest : List Char}

/-- The object printed for a network, up to its name. -/
theorem value_printed (fuel : ℕ) (rest : List Char) :
    value (fuel + 4) (network.printed ++ rest) =
      (((string (quote :: (network.name ++ quote :: ',' :: quote ::
          ("rssi".toList ++ quote :: ':' :: (network.strength ++ '\x7d' :: rest))))).map
            fun read => (Value.string read.1, read.2)).bind fun first =>
        separated '\x7d' (members (fuel + 2)) ("ssid".toList.map Char.toNat, first.1) first.2).map
          fun read => (.object read.1, read.2) := by
  have key : string (quote :: ("ssid".toList ++ quote :: ':' :: quote :: (network.name ++ quote :: ',' :: quote ::
      ("rssi".toList ++ quote :: ':' :: (network.strength ++ '\x7d' :: rest))))) = some _ :=
    string_clean (clean_of_all (by decide)) _
  have shape : network.printed ++ rest = '\x7b' :: quote :: ("ssid".toList ++ quote :: ':' :: quote ::
      (network.name ++ quote :: ',' :: quote ::
        ("rssi".toList ++ quote :: ':' :: (network.strength ++ '\x7d' :: rest)))) := by
    unfold Network.printed
    simp only [List.append_assoc]
    rfl
  rw [shape, value_object, members, key, Option.bind_some, expect_self (by decide), Option.bind_some,
    value_string]

/-- The member behind the name. -/
theorem members_strength (network : Network) (fuel : ℕ) (rest : List Char) :
    members (fuel + 2) (quote :: ("rssi".toList ++ quote :: ':' :: (network.strength ++ '\x7d' :: rest))) =
      some ([("rssi".toList.map Char.toNat, .number network.rssi.toInt 0)], rest) := by
  obtain ⟨reads, c, text, shape, begins⟩ := number_strength network rest
  have key : string (quote :: ("rssi".toList ++ quote :: ':' :: (network.strength ++ '\x7d' :: rest))) =
      some _ := string_clean (clean_of_all (by decide)) _
  have strength : value (fuel + 1) (network.strength ++ '\x7d' :: rest) =
      some (.number network.rssi.toInt 0, '\x7d' :: rest) := by
    rw [← reads, shape, List.cons_append]
    exact value_number begins
  rw [members, key, Option.bind_some, expect_self (by decide), Option.bind_some, strength,
    Option.bind_some, separated_close _ _ (by decide) (by decide)]

/-- **A name that needs no escape reads back.** -/
theorem value_printed_plain (plain : network.Plain) (fuel : ℕ) (rest : List Char) :
    value (fuel + 4) (network.printed ++ rest) = some (network.value, rest) := by
  rw [value_printed, string_clean plain, Option.map_some, Option.bind_some, separated_comma,
    members_strength]
  rfl

/-- **A name that reads back needs no escape.** -/
theorem plain_of_value {read : Value × List Char} (same : read.1 = network.value)
    (found : value (fuel + 4) (network.printed ++ rest) = some read) : network.Plain ∧ read.2 = rest := by
  have plain : network.Plain := by
    rw [value_printed] at found
    obtain ⟨object, inner, rfl⟩ := Option.map_eq_some_iff.mp found
    obtain ⟨first, isFirst, behind⟩ := Option.bind_eq_some_iff.mp inner
    obtain ⟨name, isName, rfl⟩ := Option.map_eq_some_iff.mp isFirst
    obtain ⟨later, members_⟩ := separated_first behind
    have listed := Value.object.inj same
    rw [members_] at listed
    have named := Value.string.inj (Prod.mk.inj (List.cons.inj listed).1).2
    exact ((stringTail_quoted isName).whole named).1
  refine ⟨plain, ?_⟩
  rw [value_printed_plain plain] at found
  exact (congrArg Prod.snd (Option.some.inj found)).symm

/-- What stands behind the first network of a list. -/
theorem printedItems_cons (network : Network) (networks : List Network) :
    printedItems (network :: networks) ++ [']'] = network.printed ++
      (if networks = [] then [']'] else ',' :: (printedItems networks ++ [']'])) := by
  cases networks with
  | nil => rw [if_pos rfl, printedItems, List.flatMap_nil, List.append_nil]
  | cons next networks =>
      rw [if_neg (List.cons_ne_nil _ _), printedItems, printedItems, List.flatMap_cons, List.append_assoc]
      simp only [List.cons_append, List.append_assoc]

/-- The items of the list, read up to its end. -/
theorem elements_printed (plain : ∀ network ∈ networks, network.Plain) (some_ : networks ≠ [])
    (fuel : ℕ) : elements (networks.length + fuel + 4) (printedItems networks ++ [']']) =
      some (networks.map Network.value, []) := by
  induction networks with
  | nil => exact absurd rfl some_
  | cons network networks ih =>
      have count : (network :: networks).length + fuel + 4 = networks.length + fuel + 4 + 1 := by
        rw [List.length_cons]
        omega
      rw [count, elements, printedItems_cons, value_printed_plain (plain network (List.mem_cons_self ..)),
        Option.bind_some]
      by_cases last : networks = []
      · subst last
        exact separated_close _ _ (by decide) (by decide)
      · rw [if_neg last, separated_comma,
          ih (fun other present => plain other (List.mem_cons_of_mem _ present)) last]
        rfl

/-- If they are the values of the networks, no name needs an escape. -/
theorem plain_of_elements {read : List Value × List Char}
    (same : read.1 = networks.map Network.value)
    (found : elements (networks.length + fuel + 4) (printedItems networks ++ [']']) = some read) :
    ∀ network ∈ networks, network.Plain := by
  induction networks generalizing read with
  | nil => exact fun _ present => absurd present List.not_mem_nil
  | cons network networks ih =>
      have count : (network :: networks).length + fuel + 4 = networks.length + fuel + 4 + 1 := by
        rw [List.length_cons]
        omega
      rw [count, elements, printedItems_cons] at found
      obtain ⟨first, isFirst, behind⟩ := Option.bind_eq_some_iff.mp found
      obtain ⟨later, items⟩ := separated_first behind
      rw [items] at same
      obtain ⟨plain, left⟩ := plain_of_value (List.cons.inj same).1 isFirst
      rw [left] at behind
      intro other present
      rcases List.mem_cons.mp present with rfl | present
      · exact plain
      · have more : networks ≠ [] := List.ne_nil_of_mem present
        rw [if_neg more, separated_comma] at behind
        obtain ⟨rest, isRest, rfl⟩ := Option.map_eq_some_iff.mp behind
        exact ih ((List.cons.inj items).2.trans (List.cons.inj same).2) isRest other present

theorem length_networks (network : Network) (networks : List Network) :
    networks.length + 19 ≤ (printedItems (network :: networks)).length := by
  have later : networks.length ≤ (networks.flatMap fun network => ',' :: network.printed).length := by
    induction networks with
    | nil => exact Nat.zero_le _
    | cons network networks ih =>
        rw [List.flatMap_cons, List.length_append, List.length_cons, List.length_cons]
        omega
  have here : 19 ≤ network.printed.length := by
    unfold Network.printed
    simp only [List.length_append]
    change 19 ≤ 9 + _ + 9 + _ + 1
    omega
  rw [printedItems, List.length_append]
  omega

/-- Any list, read as a whole. -/
theorem parse_printedList_iff (networks : List Network) :
    parse (printedList networks) = some (.array (networks.map Network.value)) ↔
      ∀ network ∈ networks, network.Plain := by
  cases networks with
  | nil =>
      have empty : parse (printedList []) = some (.array []) := by
        unfold parse
        rw [show printedList [] = '[' :: ']' :: [] from rfl, value_empty]
        rfl
      exact iff_of_true empty fun _ present => absurd present List.not_mem_nil
  | cons network networks =>
      obtain ⟨fuel, length⟩ : ∃ fuel, (printedList (network :: networks)).length =
          (network :: networks).length + fuel + 4 := by
        have enough := length_networks network networks
        refine ⟨(printedList (network :: networks)).length - ((network :: networks).length + 4), ?_⟩
        have whole : (printedList (network :: networks)).length =
            (printedItems (network :: networks)).length + 1 + 1 := by
          unfold printedList
          rw [List.length_cons, List.length_append]
          rfl
        rw [whole, List.length_cons]
        omega
      have items : value ((printedList (network :: networks)).length + 1) (printedList (network :: networks)) =
          (elements ((network :: networks).length + fuel + 4) (printedItems (network :: networks) ++ [']'])).map
            fun read => (.array read.1, read.2) := by
        rw [length]
        exact value_array
      unfold parse
      rw [items]
      constructor
      · intro read
        obtain ⟨whole, isWhole, ended⟩ := Option.bind_eq_some_iff.mp read
        obtain ⟨listed, isListed, rfl⟩ := Option.map_eq_some_iff.mp isWhole
        split at ended
        next =>
          exact plain_of_elements (Value.array.inj (Option.some.inj ended)) isListed
        next => exact nomatch ended
      · intro plain
        rw [elements_printed plain (List.cons_ne_nil _ _)]
        rfl

end Reading

/-- **When the list of networks is read back:** when no name holds a quote, a backslash or a control
character. -/
theorem scan_json_iff (networks : List Network) (few : networks.length ≤ 10) :
    parse (Python.decodeFrom 0 (httpScanHandler (networks.map Network.record))) =
        some (.array (networks.map Network.value)) ↔
      ∀ network ∈ networks, ∀ c ∈ network.name, c ≠ quote ∧ c ≠ backslash ∧ 0x20 ≤ c.toNat := by
  rw [httpScanHandler_eq few, utf8, Python.decodeFrom_encode]
  exact parse_printedList_iff networks

/-- Two networks, the second with a name beyond ASCII. -/
def twoNetworks : List Network :=
  [⟨['h', 'o', 'm', 'e'], -40, by decide, by decide⟩, ⟨['c', 'a', 'f', 'é'], -87, by decide, by decide⟩]

theorem scan_json_two : parse (Python.decodeFrom 0 (httpScanHandler (twoNetworks.map Network.record))) =
    some (.array (twoNetworks.map Network.value)) := by
  have clean : (twoNetworks.all fun network => network.name.all fun c => decide (Clean c)) = true := by decide
  exact (scan_json_iff twoNetworks (by decide)).mpr fun network member =>
    clean_of_all (List.all_eq_true.mp clean network member)

/-- A name with a quote in it breaks the text. -/
theorem scan_json_quote : ¬ ∀ networks : List Network, networks.length ≤ 10 →
    parse (Python.decodeFrom 0 (httpScanHandler (networks.map Network.record))) =
      some (.array (networks.map Network.value)) := by
  intro valid
  have quoted : parse (Python.decodeFrom 0 (httpScanHandler
      ([(⟨['a', quote, 'b'], -40, by decide, by decide⟩ : Network)].map Network.record))) = none := by
    decide +kernel
  exact nomatch quoted.symm.trans (valid _ (by decide))

end FlipperMcp.CaptivePortal
