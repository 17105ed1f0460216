import Mathlib.Data.List.Basic
import TokenAuthority.Text.Split

/-!
# Cutting what was joined

Cutting text at a separator gives back the parts that were joined with it, as far as these do not hold
the separator themselves: all parts when it is cut everywhere, the first part when it is cut at the first
separator, the last part when it is cut at the last.
-/

namespace TokenAuthority
namespace Text

theorem splitAllChars_of_not_mem {separator : Char} {part : List Char} (absent : separator ∉ part) :
    splitAllChars separator part = [part] := by
  induction part with
  | nil => rfl
  | cons character part ih =>
      have parts := List.ne_and_not_mem_of_not_mem_cons absent
      rw [splitAllChars, if_neg (Ne.symm parts.1), ih parts.2]

/-- Cutting everywhere takes the part in front of the first separator off. -/
theorem splitAllChars_append {separator : Char} {part : List Char} (absent : separator ∉ part)
    (rest : List Char) :
    splitAllChars separator (part ++ separator :: rest) = part :: splitAllChars separator rest := by
  induction part with
  | nil => rw [List.nil_append, splitAllChars, if_pos rfl]
  | cons character part ih =>
      have parts := List.ne_and_not_mem_of_not_mem_cons absent
      rw [List.cons_append, splitAllChars, if_neg (Ne.symm parts.1), ih parts.2]

theorem splitAllChars_ne_nil (separator : Char) (text : List Char) : splitAllChars separator text ≠ [] := by
  cases text with
  | nil => exact List.cons_ne_nil [] []
  | cons character rest =>
      rw [splitAllChars]
      split
      · exact List.cons_ne_nil _ _
      · split <;> exact List.cons_ne_nil _ _

/-- The parts of two texts with a separator between them are those of the one and those of the other. -/
theorem splitAllChars_append_cons (separator : Char) (left right : List Char) :
    splitAllChars separator (left ++ separator :: right) =
      splitAllChars separator left ++ splitAllChars separator right := by
  induction left with
  | nil => simp only [List.nil_append, splitAllChars, if_true, List.singleton_append]
  | cons character left ih =>
      rw [List.cons_append, splitAllChars, splitAllChars, ih]
      split
      · rw [List.cons_append]
      · cases parts : splitAllChars separator left with
        | nil => exact absurd parts (splitAllChars_ne_nil separator left)
        | cons part parts => rfl

theorem splitLastChars?_of_not_mem {separator : Char} {part : List Char} (absent : separator ∉ part) :
    splitLastChars? separator part = none := by
  induction part with
  | nil => rfl
  | cons character part ih =>
      have parts := List.ne_and_not_mem_of_not_mem_cons absent
      rw [splitLastChars?, ih parts.2]
      exact if_neg (Ne.symm parts.1)

/-- Cutting at the last separator leaves everything before it together, separators included. -/
theorem splitLastChars?_append {separator : Char} (before : List Char) {after : List Char}
    (absent : separator ∉ after) :
    splitLastChars? separator (before ++ separator :: after) = some (before, after) := by
  induction before with
  | nil =>
      rw [List.nil_append, splitLastChars?, splitLastChars?_of_not_mem absent]
      exact if_pos rfl
  | cons character before ih => rw [List.cons_append, splitLastChars?, ih]

theorem not_mem_of_splitLastChars?_eq_none {separator : Char} {text : List Char}
    (uncut : splitLastChars? separator text = none) : separator ∉ text := by
  induction text with
  | nil => exact List.not_mem_nil
  | cons character text ih =>
      rw [splitLastChars?] at uncut
      split at uncut
      · cases uncut
      next rest =>
        split at uncut
        · cases uncut
        next different =>
          intro member
          rcases List.mem_cons.mp member with same | later
          · exact different same.symm
          · exact ih rest later

/-- Joining the two parts again gives the text that was cut, and the last part has no separator. -/
theorem eq_append_of_splitLastChars? {separator : Char} {text before after : List Char}
    (cut : splitLastChars? separator text = some (before, after)) :
    text = before ++ separator :: after ∧ separator ∉ after := by
  induction text generalizing before with
  | nil => cases cut
  | cons character text ih =>
      rw [splitLastChars?] at cut
      split at cut
      next earlier later found =>
        cases cut
        rcases ih found with ⟨joined, absent⟩
        exact ⟨by rw [joined, List.cons_append], absent⟩
      next rest =>
        split at cut
        next same =>
          cases cut
          exact ⟨by rw [same, List.nil_append], not_mem_of_splitLastChars?_eq_none rest⟩
        · cases cut

theorem splitFirstChars?_append {separator : Char} {before : List Char} (absent : separator ∉ before)
    (after : List Char) :
    splitFirstChars? separator (before ++ separator :: after) = some (before, after) := by
  induction before with
  | nil =>
      rw [List.nil_append, splitFirstChars?]
      exact if_pos rfl
  | cons character before ih =>
      have parts := List.ne_and_not_mem_of_not_mem_cons absent
      rw [List.cons_append, splitFirstChars?, if_neg (Ne.symm parts.1), ih parts.2]
      rfl

/-- Joining the two parts again gives the text that was cut. -/
theorem eq_append_of_splitFirstChars? {separator : Char} {text before after : List Char}
    (cut : splitFirstChars? separator text = some (before, after)) :
    text = before ++ separator :: after := by
  induction text generalizing before with
  | nil => cases cut
  | cons character text ih =>
      rw [splitFirstChars?] at cut
      split at cut
      next same =>
        cases cut
        rw [same, List.nil_append]
      · rcases Option.map_eq_some_iff.mp cut with ⟨⟨earlier, later⟩, found, joined⟩
        cases joined
        rw [ih found, List.cons_append]

/-! ## Known beginnings and ends -/

theorem dropFront?_append (start rest : List Char) : dropFront? start (start ++ rest) = some rest := by
  induction start with
  | nil => rfl
  | cons character start ih => rw [List.cons_append, dropFront?, if_pos rfl, ih]

/-- What is taken off the front was there. -/
theorem eq_append_of_dropFront? {start text rest : List Char} (taken : dropFront? start text = some rest) :
    text = start ++ rest := by
  induction start generalizing text with
  | nil => exact Option.some.inj taken
  | cons expected start ih =>
      cases text with
      | nil => cases taken
      | cons character text =>
          rw [dropFront?] at taken
          split at taken
          next same => rw [same, ih taken, List.cons_append]
          · cases taken

theorem dropBack?_append (text finish : List Char) : dropBack? finish (text ++ finish) = some text := by
  rw [dropBack?, List.reverse_append, dropFront?_append, Option.map_some, List.reverse_reverse]

/-- What is taken off the back was there. -/
theorem eq_append_of_dropBack? {finish text rest : List Char} (taken : dropBack? finish text = some rest) :
    text = rest ++ finish := by
  rcases Option.map_eq_some_iff.mp taken with ⟨before, dropped, rfl⟩
  rw [← List.reverse_inj, eq_append_of_dropFront? dropped, List.reverse_append, List.reverse_reverse]

end Text
end TokenAuthority
