import FlipperMcp.Python.Words
import FlipperMcp.Rpc.CliRisk
import Mathlib.Data.List.Forall2

/-! # What the denylist matches

`classify` looks at nothing but the words of the lowered command line: it is gated when its
first two are those of a rule (`classify_tokens`).
-/

namespace FlipperMcp

namespace CliRisk

open Lexical Python

/-- The words of the lowered command line. -/
def tokens (command : String) : List String := split (lower command)

/-- A text of spaces. -/
def IsGap (gap : String) : Prop := Blank isSpace gap.toList

instance : DecidablePred IsGap := fun gap => inferInstanceAs (Decidable (Blank isSpace gap.toList))

/-- The texts differ in the case of ASCII letters at most. -/
def SameLetters (command other : String) : Prop :=
  List.Forall₂ (fun c d : Char => c.toLower = d.toLower) command.toList other.toList

section Words

theorem isWord_of_mem_split {text word : String} (member : word ∈ split text) :
    IsWord isSpace word.toList := by
  rw [split_eq] at member
  obtain ⟨letters, inside, rfl⟩ := List.mem_map.mp member
  rw [String.toList_ofList]
  exact isWord_of_mem inside

/-- Spaces between two texts divide their words. -/
theorem split_gap {gap : String} (blank : IsGap gap) (some_ : gap ≠ "") (front rest : String) :
    split (front ++ gap ++ rest) = split front ++ split rest := by
  have some_' : gap.toList ≠ [] := fun empty => some_ (String.toList_eq_nil_iff.mp empty)
  rw [split_eq, split_eq, split_eq, String.toList_append, String.toList_append,
    words_gap blank some_', List.map_append]

theorem split_word_eq {word : String} (h : IsWord isSpace word.toList) : split word = [word] := by
  rw [split_eq, h.words, List.map_singleton, String.ofList_toList]

theorem isGap_space : IsGap " " := by decide

/-- Splitting undoes joining. -/
theorem split_intercalate {parts : List String} (plain : ∀ word ∈ parts, IsWord isSpace word.toList) :
    split (" ".intercalate parts) = parts := by
  have joined : words isSpace (" ".intercalate parts).toList = parts.map String.toList := by
    rw [String.toList_intercalate]
    refine words_intercalate (by decide) (by decide) fun letters member => ?_
    obtain ⟨word, inside, rfl⟩ := List.mem_map.mp member
    exact plain word inside
  rw [split_eq, joined, List.map_map]
  exact (List.map_congr_left fun word _ => String.ofList_toList).trans (List.map_id _)

end Words

section Rules

variable {first second : String}

/-- A rule of two words matches the texts whose first two words they are. -/
theorem matchesRule_iff (one : IsWord isSpace first.toList) (two : IsWord isSpace second.toList)
    (category : Category) {parts : List String} (plain : ∀ word ∈ parts, IsWord isSpace word.toList) :
    matchesRule (" ".intercalate parts) (first ++ " " ++ second, category) = true ↔
      parts.take 2 = [first, second] := by
  have pair : split (first ++ " " ++ second) = [first, second] := by
    rw [split_gap isGap_space (by decide), split_word_eq one, split_word_eq two]
    rfl
  unfold matchesRule
  rw [Bool.or_eq_true, decide_eq_true_eq, startsWith_iff]
  constructor
  · intro starts
    have same := split_intercalate plain
    rcases starts with whole | ⟨rest, longer⟩
    · rw [whole, pair] at same
      rw [← same]
      rfl
    · rw [longer, split_gap isGap_space (by decide), pair] at same
      rw [← same]
      rfl
  · intro two_
    obtain ⟨rest, rfl⟩ : ∃ rest, parts = first :: second :: rest :=
      ⟨parts.drop 2, by rw [← List.take_append_drop 2 parts, two_]; rfl⟩
    rw [String.intercalate_cons_cons]
    cases rest with
    | nil =>
        rw [String.intercalate_singleton]
        exact .inl rfl
    | cons third rest =>
        refine .inr ⟨" ".intercalate (third :: rest), ?_⟩
        rw [String.intercalate_cons_cons]
        simp only [String.append_assoc]

/-- Every rule is two words with a space between them. -/
theorem rule_words {rule : String × Category} (member : rule ∈ denylist) :
    ∃ first second, split rule.1 = [first, second] ∧ rule.1 = first ++ " " ++ second := by
  have checked : denylist.all (fun rule => (split rule.1).length = 2 ∧
      " ".intercalate (split rule.1) = rule.1) = true := by decide +kernel
  have two := of_decide_eq_true (List.all_eq_true.mp checked rule member)
  obtain ⟨first, second, words⟩ := List.length_eq_two.mp two.1
  refine ⟨first, second, words, ?_⟩
  have joined := two.2
  rw [words, String.intercalate_cons_cons, String.intercalate_singleton] at joined
  exact joined.symm

/-- Different rules have different words. -/
theorem rule_unique {rule other : String × Category} (member : rule ∈ denylist)
    (member' : other ∈ denylist) (same : split rule.1 = split other.1) : rule = other := by
  have checked : denylist.all (fun rule => denylist.all fun other =>
      split rule.1 = split other.1 → rule = other) = true := by decide +kernel
  have first := List.all_eq_true.mp checked rule member
  exact of_decide_eq_true (List.all_eq_true.mp first other member') same

end Rules

section Classification

variable {command other : String}

theorem tokens_strip (command : String) : split (lower (strip command)) = tokens command := by
  unfold tokens
  rw [split_eq, split_eq, words_lower, words_lower, strip_eq, String.toList_ofList, words_trim]

theorem normalize_eq (command : String) : normalize command = " ".intercalate (tokens command) := by
  unfold normalize
  rw [tokens_strip]

/-- A rule matches by the first two words. -/
theorem matchesRule_tokens {rule : String × Category} (member : rule ∈ denylist) :
    matchesRule (normalize command) rule = true ↔ (tokens command).take 2 = split rule.1 := by
  obtain ⟨first, second, words, joined⟩ := rule_words member
  have whole : rule = (first ++ " " ++ second, rule.2) := Prod.ext joined rfl
  have parts : ∀ word ∈ split rule.1, IsWord isSpace word.toList := fun _ => isWord_of_mem_split
  rw [words] at parts
  rw [normalize_eq, words, whole]
  exact matchesRule_iff (parts first (by simp)) (parts second (by simp)) rule.2
    fun _ => isWord_of_mem_split

/-- The words decide. -/
theorem classify_congr (same : tokens command = tokens other) : classify command = classify other := by
  unfold classify
  rw [normalize_eq, normalize_eq, same]

/-- What a matching rule decides. -/
theorem classify_of_rule {rule : String × Category} (member : rule ∈ denylist)
    (starts : (tokens command).take 2 = split rule.1) :
    classify command = { category := rule.2, gated := true, warning := warnings rule.2 } := by
  unfold classify
  cases found : denylist.find? (matchesRule (normalize command)) with
  | none =>
      have missed := List.find?_eq_none.mp found rule member
      exact absurd ((matchesRule_tokens member).mpr starts) missed
  | some first =>
      have inside := List.mem_of_find?_eq_some found
      have matched := (matchesRule_tokens inside).mp (List.find?_some found)
      rw [rule_unique inside member (matched.symm.trans starts)]

/-- Without a matching rule it is benign. -/
theorem classify_of_no_rule (none_ : ∀ rule ∈ denylist, (tokens command).take 2 ≠ split rule.1) :
    classify command = { category := .benign, gated := false, warning := none } := by
  have missed : denylist.find? (matchesRule (normalize command)) = none := by
    refine List.find?_eq_none.mpr fun rule member matched => ?_
    exact none_ rule member ((matchesRule_tokens member).mp matched)
  unfold classify
  rw [missed]

theorem gated_iff : (classify command).gated = true ↔
    ∃ rule ∈ denylist, (tokens command).take 2 = split rule.1 := by
  constructor
  · intro gated
    by_contra none_
    push Not at none_
    rw [classify_of_no_rule none_] at gated
    exact nomatch gated
  · intro ⟨rule, member, starts⟩
    rw [classify_of_rule member starts]

/-- The case of ASCII letters does not matter. -/
theorem tokens_sameLetters (same : SameLetters command other) : tokens command = tokens other := by
  have letter : ∀ c d : Char, c.toLower = d.toLower → lowerChar c = lowerChar d := by
    intro c d equal
    have code : ∀ n, 128 ≤ n → (c.toNat = n ↔ d.toNat = n) := by
      intro n beyond
      have numbers := congrArg Char.toNat equal
      rcases toLower_cases c with ⟨low, high, small⟩ | ⟨-, kept⟩ <;>
        rcases toLower_cases d with ⟨low', high', small'⟩ | ⟨-, kept'⟩
      · omega
      · rw [kept', small] at numbers
        omega
      · rw [kept, small'] at numbers
        omega
      · rw [kept, kept'] at equal
        rw [equal]
    unfold lowerChar
    simp only [code 0x130 (by decide), code 0x212A (by decide), equal]
  have lowered : lower command = lower other := by
    unfold lower
    unfold SameLetters at same
    congr 1
    generalize command.toList = letters at same ⊢
    generalize other.toList = letters' at same ⊢
    induction same with
    | nil => rfl
    | cons first _ ih => rw [List.flatMap_cons, List.flatMap_cons, letter _ _ first, ih]
  unfold tokens
  rw [lowered]

theorem tokens_eq (command : String) : tokens command =
    (words isSpace command.toList).map fun word => String.ofList (word.flatMap lowerChar) := by
  unfold tokens
  rw [split_eq, words_lower, List.map_map]
  rfl

/-- Spaces between two texts divide the words of the command line. -/
theorem tokens_gap {gap : String} (blank : IsGap gap) (some_ : gap ≠ "") (front rest : String) :
    tokens (front ++ gap ++ rest) = tokens front ++ tokens rest := by
  have some_' : gap.toList ≠ [] := fun empty => some_ (String.toList_eq_nil_iff.mp empty)
  simp only [tokens_eq, String.toList_append, words_gap blank some_', List.map_append]

theorem tokens_front {gap : String} (blank : IsGap gap) (command : String) :
    tokens (gap ++ command) = tokens command := by
  rw [tokens_eq, tokens_eq, String.toList_append, words_blank_append blank]

theorem tokens_back {gap : String} (blank : IsGap gap) (command : String) :
    tokens (command ++ gap) = tokens command := by
  rw [tokens_eq, tokens_eq, String.toList_append, words_append_blank blank]

end Classification

/-- **Classification by two words.** A command line is gated when the first two words of it,
lowered, are the two words of a rule, and is then of the rule's category. So neither the case of
its letters nor the spaces around and between its words matter, and a second word that goes on
behind a rule's does not match the rule. -/
theorem classify_tokens (command : String) :
    ((classify command).gated = true ↔
      ∃ rule ∈ denylist, ∃ first second, split rule.1 = [first, second] ∧
        (split (lower command)).take 2 = [first, second]) ∧
    (∀ rule ∈ denylist, (split (lower command)).take 2 = split rule.1 →
      (classify command).category = rule.2) ∧
    (∀ other, SameLetters command other → classify other = classify command) ∧
    (∀ gap, IsGap gap →
      classify (gap ++ command) = classify command ∧ classify (command ++ gap) = classify command) ∧
    (∀ front gap gap' rest, command = front ++ gap ++ rest → IsGap gap → gap ≠ "" → IsGap gap' →
      gap' ≠ "" → classify (front ++ gap' ++ rest) = classify command) ∧
    ∀ rule ∈ denylist, ∀ first second more others, split rule.1 = [first, second] → more ≠ "" →
      split (lower command) = first :: (second ++ more) :: others →
      matchesRule (normalize command) rule = false := by
  refine ⟨?_, ?_, ?_, ?_, ?_, ?_⟩
  · rw [gated_iff]
    constructor
    · intro ⟨rule, member, starts⟩
      obtain ⟨first, second, words, -⟩ := rule_words member
      exact ⟨rule, member, first, second, words, starts.trans words⟩
    · intro ⟨rule, member, first, second, words, starts⟩
      exact ⟨rule, member, starts.trans words.symm⟩
  · intro rule member starts
    rw [classify_of_rule member starts]
  · exact fun other same => (classify_congr (tokens_sameLetters same)).symm
  · exact fun gap blank => ⟨classify_congr (tokens_front blank command),
      classify_congr (tokens_back blank command)⟩
  · intro front gap gap' rest whole blank some_ blank' some_'
    apply classify_congr
    rw [whole, tokens_gap blank some_, tokens_gap blank' some_']
  · intro rule member first second more others words longer extended
    rw [Bool.eq_false_iff, ne_eq, matchesRule_tokens member, words]
    intro starts
    have extends_ : (tokens command).take 2 = [first, second ++ more] := congrArg (List.take 2) extended
    obtain ⟨same, -⟩ := List.cons.inj (List.cons.inj (extends_.symm.trans starts)).2
    have lengths := congrArg String.length same
    rw [String.length_append] at lengths
    exact longer (String.length_eq_zero_iff.mp (by omega))

/-- Capitals, a tab and a longer word. -/
theorem classify_tokens_power :
    (classify " Power\toff now").category = .destructive ∧
      matchesRule (normalize "power offer") ("power off", .destructive) = false := by
  have member : (("power off", .destructive) : String × Category) ∈ denylist := by decide
  exact ⟨(classify_tokens " Power\toff now").2.1 _ member (by decide +kernel),
    (classify_tokens "power offer").2.2.2.2.2 _ member "power" "off" "er" [] (by decide +kernel)
      (by decide) (by decide +kernel)⟩

end CliRisk

end FlipperMcp
