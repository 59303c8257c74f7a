import DispatchCache.Config.Source
import Mathlib.Data.List.Basic

/-! # Flags in words

A flag is set by one of eight words. Blanks around the word do not matter, nor does the case of its
letters, and nothing else is a flag. -/

namespace DispatchCache

namespace Text

theorem dropWhile_isBlank_of_dark {chars : List Char} (dark : ∀ c ∈ chars, isBlank c = false) :
    chars.dropWhile isBlank = chars := by
  cases chars with
  | nil => rfl
  | cons c rest => exact List.dropWhile_cons_of_neg (by simp [dark c List.mem_cons_self])

theorem trimmed_append {left core right : List Char} (blank_left : ∀ c ∈ left, isBlank c = true)
    (blank_right : ∀ c ∈ right, isBlank c = true) (dark : ∀ c ∈ core, isBlank c = false) :
    trimmed (left ++ core ++ right) = core := by
  have dark_reverse : ∀ c ∈ core.reverse, isBlank c = false := by simpa using dark
  have blank_reverse : ∀ c ∈ right.reverse, isBlank c = true := by simpa using blank_right
  rw [trimmed, List.append_assoc, List.dropWhile_append_of_pos blank_left]
  cases core with
  | nil =>
    rw [List.nil_append, ← List.append_nil right, List.dropWhile_append_of_pos blank_right]
    rfl
  | cons c rest =>
    rw [List.cons_append, List.dropWhile_cons_of_neg (by simp [dark c List.mem_cons_self]),
      ← List.cons_append, List.reverse_append, List.dropWhile_append_of_pos blank_reverse,
      dropWhile_isBlank_of_dark dark_reverse, List.reverse_reverse]

/-- What trimming takes off is blank. -/
theorem exists_trimmed (chars : List Char) :
    ∃ left right, chars = left ++ trimmed chars ++ right ∧ (∀ c ∈ left, isBlank c = true) ∧
      ∀ c ∈ right, isBlank c = true := by
  let middle := chars.dropWhile isBlank
  have front : chars.takeWhile isBlank ++ middle = chars := List.takeWhile_append_dropWhile
  have back : trimmed chars ++ (middle.reverse.takeWhile isBlank).reverse = middle := by
    rw [trimmed, ← List.reverse_append, List.takeWhile_append_dropWhile, List.reverse_reverse]
  refine ⟨chars.takeWhile isBlank, (middle.reverse.takeWhile isBlank).reverse, ?_, ?_, ?_⟩
  · rw [List.append_assoc, back, front]
  · exact List.all_eq_true.mp List.all_takeWhile
  · intro c member
    exact List.all_eq_true.mp List.all_takeWhile c (List.mem_reverse.mp member)

/-- Blanks have no case. -/
theorem toLower_of_isBlank {c : Char} (blank : isBlank c = true) : c.toLower = c := by
  have point : ¬ (65 ≤ c.toNat ∧ c.toNat ≤ 90) := by
    simp only [isBlank, Bool.or_eq_true, Bool.and_eq_true, decide_eq_true_eq] at blank
    omega
  refine dif_neg fun upper => point ?_
  have low : 'A'.val.toNat ≤ c.val.toNat := UInt32.le_iff_toNat_le.mp upper.1
  have high : c.val.toNat ≤ 'Z'.val.toNat := UInt32.le_iff_toNat_le.mp upper.2
  exact ⟨low, high⟩

end Text

/-- The words for a flag. -/
def flagWords : Bool → List String
  | true => ["1", "true", "yes", "on"]
  | false => ["0", "false", "no", "off"]

theorem dark_of_mem_flagWords {word : String} {flag : Bool} (member : word ∈ flagWords flag) :
    ∀ c ∈ word.toList, Text.isBlank c = false := by
  have dark : ∀ word ∈ flagWords flag, word.toList.all (!Text.isBlank ·) := by
    cases flag <;> decide
  intro c there
  simpa using List.all_eq_true.mp (dark word member) c there

/-- No word is a word for both flags. -/
theorem flag_unique {word : String} {flag other : Bool} (member : word ∈ flagWords flag)
    (member' : word ∈ flagWords other) : flag = other := by
  revert word
  cases flag <;> cases other <;> decide

/-- The text is the word in letters of either case, with nothing but blanks around it. -/
def Spells (text word : String) : Prop :=
  ∃ left core right : List Char, text.toList = left ++ core ++ right ∧
    (∀ c ∈ left, Text.isBlank c = true) ∧ (∀ c ∈ right, Text.isBlank c = true) ∧
    core.map Char.toLower = word.toList

theorem spells_iff {text word : String} (dark : ∀ c ∈ word.toList, Text.isBlank c = false) :
    Spells text word ↔ (Text.trimmed text.toList).map Char.toLower = word.toList := by
  constructor
  · rintro ⟨left, core, right, text_eq, blank_left, blank_right, lowered⟩
    have dark_core : ∀ c ∈ core, Text.isBlank c = false := by
      intro c member
      by_contra blank
      rw [Bool.not_eq_false] at blank
      have same := Text.toLower_of_isBlank blank
      have listed : c ∈ word.toList := by
        rw [← lowered, ← same]
        exact List.mem_map_of_mem member
      rw [dark c listed] at blank
      cases blank
    rw [text_eq, Text.trimmed_append blank_left blank_right dark_core, lowered]
  · intro lowered
    obtain ⟨left, right, text_eq, blank_left, blank_right⟩ := Text.exists_trimmed text.toList
    exact ⟨left, _, right, text_eq, blank_left, blank_right, lowered⟩

theorem flag?_eq_some_iff {text : String} {flag : Bool} :
    flag? text = some flag ↔ ∃ word ∈ flagWords flag, Spells text word := by
  let word := String.ofList ((Text.trimmed text.toList).map Char.toLower)
  have spelled : (∃ word ∈ flagWords flag, Spells text word) ↔ word ∈ flagWords flag := by
    constructor
    · rintro ⟨word', member, spells⟩
      have lowered := (spells_iff (dark_of_mem_flagWords member)).mp spells
      have same : word = word' := by rw [← String.toList_inj, String.toList_ofList, lowered]
      rwa [same]
    · intro member
      refine ⟨word, member, (spells_iff (dark_of_mem_flagWords member)).mpr ?_⟩
      exact (String.toList_ofList).symm
  rw [spelled]
  show (if word ∈ flagWords true then some true else if word ∈ flagWords false then some false
    else none) = some flag ↔ _
  split_ifs with yes no
  · cases flag with
    | true => exact iff_of_true rfl yes
    | false => exact iff_of_false (by decide) fun no => absurd (flag_unique yes no) (by decide)
  · cases flag with
    | true => exact iff_of_false (by decide) yes
    | false => exact iff_of_true rfl no
  · cases flag with
    | true => exact iff_of_false (by decide) yes
    | false => exact iff_of_false (by decide) no

end DispatchCache
