import Mathlib.Data.List.DropRight
import TokenAuthority.Text.Blank

/-!
# Trimmed text and words

What is left of a text without the blanks at its ends has no blanks at its ends, so trimming it again changes
nothing.  The texts that trimming leaves as they are are therefore those that it can lead to.

A text is cut into the only words that it spells: runs without blanks, with blanks between them.  How many
blanks there are, and which, makes no difference.
-/

namespace TokenAuthority
namespace Text

theorem trimChars_eq_rdropWhile (text : List Char) :
    trimChars text = (text.dropWhile isBlank).rdropWhile isBlank :=
  rfl

/-- What trimming leaves does not start with a blank. -/
theorem dropWhile_trimChars (text : List Char) :
    (trimChars text).dropWhile isBlank = trimChars text := by
  have starts : trimChars text <+: text.dropWhile isBlank := List.rdropWhile_prefix isBlank _
  cases left : trimChars text with
  | nil => rfl
  | cons character characters =>
      rw [left] at starts
      rcases starts with ⟨rest, whole⟩
      have notBlank : isBlank character = false := by
        have head := List.head?_dropWhile_not isBlank text
        rw [← whole] at head
        simpa using head
      exact List.dropWhile_cons_of_neg (Bool.eq_false_iff.mp notBlank)

theorem trimChars_trimChars (text : List Char) : trimChars (trimChars text) = trimChars text := by
  rw [trimChars_eq_rdropWhile (trimChars text), dropWhile_trimChars, trimChars_eq_rdropWhile,
    List.rdropWhile_idempotent]

@[simp] theorem trim_trim (text : String) : trim (trim text) = trim text := by
  rw [trim, trim, String.toList_ofList, trimChars_trimChars]

/-! ## Words -/

/-- A text has the given words in order, with blanks between them and, it may be, around them. -/
inductive Spells : List (List Char) → List Char → Prop where
  | blanks {gap : List Char} (blank : ∀ character ∈ gap, isBlank character = true) : Spells [] gap
  | word {gap word rest : List Char} {words : List (List Char)}
      (blank : ∀ character ∈ gap, isBlank character = true) (nonempty : word ≠ [])
      (visible : ∀ character ∈ word, isBlank character = false)
      (ends : ∀ character ∈ rest.head?, isBlank character = true) (others : Spells words rest) :
      Spells (word :: words) (gap ++ word ++ rest)

theorem wordsFrom_blanks {gap : List Char} (blank : ∀ character ∈ gap, isBlank character = true)
    (rest : List Char) : wordsFrom [] (gap ++ rest) = wordsFrom [] rest := by
  induction gap with
  | nil => rfl
  | cons character gap ih =>
      rw [List.cons_append, wordsFrom, if_pos (blank character List.mem_cons_self), if_pos List.isEmpty_nil]
      exact ih fun other member => blank other (List.mem_cons_of_mem character member)

theorem wordsFrom_visible {word : List Char} (visible : ∀ character ∈ word, isBlank character = false)
    (before rest : List Char) : wordsFrom before (word ++ rest) = wordsFrom (before ++ word) rest := by
  induction word generalizing before with
  | nil => rw [List.nil_append, List.append_nil]
  | cons character word ih =>
      have others := ih fun other member => visible other (List.mem_cons_of_mem character member)
      rw [List.cons_append, wordsFrom, if_neg (Bool.eq_false_iff.mp (visible character List.mem_cons_self)),
        others, List.append_assoc, List.singleton_append]

theorem wordsFrom_ends {word rest : List Char} (nonempty : word ≠ [])
    (ends : ∀ character ∈ rest.head?, isBlank character = true) :
    wordsFrom word rest = word :: wordsFrom [] rest := by
  have notEmpty : ¬word.isEmpty = true := fun empty => nonempty (List.isEmpty_iff.mp empty)
  cases rest with
  | nil => rw [wordsFrom, if_neg notEmpty, wordsFrom, if_pos List.isEmpty_nil]
  | cons character rest =>
      have blank := ends character rfl
      rw [wordsFrom, if_pos blank, if_neg notEmpty, wordsFrom, if_pos blank, if_pos List.isEmpty_nil]

theorem Spells.wordsFrom_eq {words : List (List Char)} {text : List Char} (spells : Spells words text) :
    wordsFrom [] text = words := by
  induction spells with
  | @blanks gap blank =>
      rw [← List.append_nil gap, wordsFrom_blanks blank]
      rfl
  | word blank nonempty visible ends _ ih =>
      rw [List.append_assoc, wordsFrom_blanks blank, wordsFrom_visible visible, List.nil_append,
        wordsFrom_ends nonempty ends, ih]

theorem Spells.cons {words : List (List Char)} {text : List Char} (spells : Spells words text)
    {character : Char} (blank : isBlank character = true) : Spells words (character :: text) := by
  cases spells with
  | blanks others => exact .blanks (List.forall_mem_cons.mpr ⟨blank, others⟩)
  | word others nonempty visible ends rest =>
      exact .word (List.forall_mem_cons.mpr ⟨blank, others⟩) nonempty visible ends rest

/-- Cutting a text after the start of a word. -/
theorem spells_wordsFrom {word : List Char} (visible : ∀ character ∈ word, isBlank character = false)
    (text : List Char) : Spells (wordsFrom word text) (word ++ text) := by
  induction text generalizing word with
  | nil =>
      by_cases empty : word = []
      · rw [empty]
        exact .blanks (List.forall_mem_nil _)
      · have none := List.forall_mem_nil fun character => isBlank character = true
        have ends : ∀ first ∈ ([] : List Char).head?, isBlank first = true := by
          rintro first ⟨⟩
        rw [wordsFrom_ends empty ends]
        exact @Spells.word [] word [] [] none empty visible ends (.blanks none)
  | cons character text ih =>
      by_cases blank : isBlank character = true
      · have onwards : Spells (wordsFrom [] (character :: text)) (character :: text) := by
          rw [wordsFrom, if_pos blank, if_pos List.isEmpty_nil]
          exact (@ih [] (List.forall_mem_nil _)).cons blank
        by_cases empty : word = []
        · rw [empty]
          exact onwards
        · have ends : ∀ first ∈ (character :: text).head?, isBlank first = true := by
            rintro first ⟨⟩
            exact blank
          rw [wordsFrom_ends empty ends]
          exact @Spells.word [] word _ _ (List.forall_mem_nil _) empty visible ends onwards
      · have longer : ∀ other ∈ word ++ [character], isBlank other = false := by
          intro other member
          rcases List.mem_append.mp member with before | last
          · exact visible other before
          · rw [List.mem_singleton.mp last]
            exact Bool.eq_false_iff.mpr blank
        have onwards := ih longer
        rw [wordsFrom, if_neg blank]
        rwa [List.append_assoc, List.singleton_append] at onwards

/-- The words of a text are the only ones that it spells. -/
theorem words_eq_iff {text : String} {values : List String} :
    words text = values ↔ Spells (values.map String.toList) text.toList := by
  constructor
  · rintro rfl
    have back : (words text).map String.toList = wordsFrom [] text.toList := by
      rw [words, List.map_map]
      exact (List.map_congr_left fun _ _ => String.toList_ofList).trans (List.map_id _)
    rw [back]
    exact spells_wordsFrom (List.forall_mem_nil _) text.toList
  · intro spells
    rw [words, spells.wordsFrom_eq, List.map_map]
    exact (List.map_congr_left fun _ _ => String.ofList_toList).trans (List.map_id values)

end Text
end TokenAuthority
