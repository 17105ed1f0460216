import TokenAuthority.Bytes.Pem
import TokenAuthority.Proofs.Bytes.Base64
import TokenAuthority.Proofs.Bytes.Der
import TokenAuthority.Proofs.Text.Separators

/-!
# Textual keys, written and read

A block is written with lines of 64 characters and one line end after it, and is read back from that text.
The label has to be one that reading knows where to end, and the content has to be one sequence, as the
content of every key is.
-/

namespace TokenAuthority
namespace Pem

/-- Characters in lines of 64. -/
def lines (characters : List Char) : List Char :=
  if characters.length ≤ 64 then characters
  else characters.take 64 ++ '\n' :: lines (characters.drop 64)
termination_by characters.length
decreasing_by
  rw [List.length_drop]
  omega

/-- The line that closes a block. -/
def boundary (label : String) : List Char :=
  closing ++ label.toList ++ dashes

/-- The content of a block in base64. -/
def body (block : Pem) : List Char :=
  Base64.filled (Base64.encodeChars .standard block.content)

/-- The characters of a text in which a block stands alone. -/
def chars (block : Pem) : List Char :=
  opening ++ (block.label.toList ++ dashes ++
    '\n' :: (lines block.body ++ ['\n'] ++ boundary block.label ++ ['\n']))

/-- A label that is read up to the dashes after it. -/
def IsLabel (label : String) : Prop :=
  ∀ rest, readLabel? true (label.toList ++ dashes ++ rest) = some (label.toList, rest)

/-! ## Lines -/

theorem length_le_length_lines (characters : List Char) :
    characters.length ≤ (lines characters).length := by
  induction characters using lines.induct with
  | case1 characters short => rw [lines, if_pos short]
  | case2 characters long ih =>
      rw [lines, if_neg long]
      simp only [List.length_append, List.length_cons, List.length_take, List.length_drop] at ih ⊢
      omega

theorem mem_of_mem_lines {characters : List Char} {character : Char} (different : character ≠ '\n')
    (member : character ∈ lines characters) : character ∈ characters := by
  induction characters using lines.induct with
  | case1 characters short =>
      rw [lines, if_pos short] at member
      exact member
  | case2 characters long ih =>
      rw [lines, if_neg long, List.mem_append, List.mem_cons] at member
      rcases member with first | same | later
      · exact List.mem_of_mem_take first
      · exact absurd same different
      · exact List.mem_of_mem_drop (ih later)

/-- Lines are joined again, if there is fuel for each of them. -/
theorem joinLines?_lines {fuel : Nat} {characters : List Char} (whole : characters.length % 4 = 0)
    (positive : 0 < characters.length) (enough : characters.length ≤ 64 * fuel) :
    joinLines? fuel (lines characters) = some characters := by
  induction fuel generalizing characters with
  | zero => omega
  | succ fuel ih =>
      rw [lines]
      by_cases short : characters.length ≤ 64
      · have atLeast : 4 ≤ characters.length := by omega
        rw [if_pos short, joinLines?, if_pos short, if_pos atLeast]
      · have first : (characters.take 64).length = 64 := by
          rw [List.length_take]
          omega
        have left : (characters.drop 64).length = characters.length - 64 := List.length_drop
        have others : joinLines? fuel (lines (characters.drop 64)) = some (characters.drop 64) :=
          ih (by omega) (by omega) (by omega)
        have long : ¬ (characters.take 64 ++ '\n' :: lines (characters.drop 64)).length ≤ 64 := by
          rw [List.length_append, first, List.length_cons]
          omega
        rw [if_neg short, joinLines?, if_neg long, List.drop_left' first, List.take_left' first]
        simp only [skipLineEnd?, Option.bind_eq_bind, Option.bind_some, others, List.take_append_drop]
        rfl

/-! ## Blocks -/

/-- One line end is dropped from a text that does not end in a return. -/
theorem dropLineEnd?_append {text : List Char} (noReturn : text.getLast? ≠ some '\r') :
    dropLineEnd? (text ++ ['\n']) = some text := by
  have ends : (text ++ ['\n']).reverse = '\n' :: text.reverse := List.reverse_append
  rw [dropLineEnd?, ends]
  split
  next rest same =>
    have last : text.reverse.head? = some '\r' := by
      rw [(List.cons.inj same).2]
      rfl
    exact absurd (List.head?_reverse ▸ last) noReturn
  next rest _ same => rw [← (List.cons.inj same).2, List.reverse_reverse]
  next rest same => cases same
  next other _ => exact absurd rfl (other text.reverse)

theorem afterOpening?_opening (rest : List Char) :
    afterOpening? true (opening ++ rest) = some rest := by
  have starts : opening ++ rest = '-' :: (opening.tail ++ rest) := rfl
  have opened := Text.dropFront?_append opening rest
  rw [starts] at opened ⊢
  rw [afterOpening?]
  simp only [if_true, opened]

theorem character_ne_return : ∀ value < 64, Base64.Alphabet.standard.character value ≠ '\r' := by
  decide

theorem return_not_mem_body (block : Pem) : '\r' ∉ block.body := by
  rw [body, Base64.filled, List.mem_append, List.mem_replicate]
  rintro (written | ⟨_, same⟩)
  · exact Base64.not_mem_encodeChars character_ne_return block.content written
  · exact absurd same (by decide)

theorem getLast?_boundary (before : List Char) (label : String) :
    (before ++ boundary label).getLast? = some '-' := by
  have dashesEnd : dashes = ['-', '-', '-', '-'] ++ ['-'] := rfl
  rw [boundary, dashesEnd, ← List.append_assoc, ← List.append_assoc, List.getLast?_concat]

/-- A block is what its text states. -/
theorem ofText?_chars {block : Pem} (isLabel : IsLabel block.label)
    {parts : List Der.Element} (sequence : Der.element? block.content = some (.sequence parts)) :
    ofText? (String.ofList block.chars) = some block := by
  have label := isLabel ('\n' :: (lines block.body ++ ['\n'] ++ boundary block.label ++ ['\n']))
  have ended : dropLineEnd? (lines block.body ++ ['\n'] ++ boundary block.label ++ ['\n']) =
      some (lines block.body ++ ['\n'] ++ boundary block.label) := by
    apply dropLineEnd?_append
    rw [getLast?_boundary]
    decide
  have closed : Text.dropBack? (closing ++ block.label.toList ++ dashes)
      (lines block.body ++ ['\n'] ++ boundary block.label) = some (lines block.body ++ ['\n']) :=
    Text.dropBack?_append _ (boundary block.label)
  have lineEnded : dropLineEnd? (lines block.body ++ ['\n']) = some (lines block.body) := by
    apply dropLineEnd?_append
    intro last
    have member := mem_of_mem_lines (by decide) (List.mem_of_getLast? last)
    exact block.return_not_mem_body member
  have read : Base64.decodeFilled? .standard block.body = some block.content :=
    Base64.decodeFilled?_filled .standard block.content
  have whole : block.body.length % 4 = 0 := Base64.length_filled_mod _
  have positive : 0 < block.body.length := by
    apply List.length_pos_iff.mpr
    intro none
    -- nothing decodes to nothing, which is no sequence
    rw [none] at read
    have empty : [] = block.content := Option.some.inj read
    rw [← empty] at sequence
    cases sequence
  have atLeast := length_le_length_lines block.body
  have joined : joinLines? (lines block.body).length (lines block.body) = some block.body :=
    joinLines?_lines whole positive (by omega)
  have isSequence : (Der.Element.sequence parts).contentOf? Der.sequenceTag =
      some (parts.flatMap Der.Element.bytes) := if_pos rfl
  rw [ofText?, String.toList_ofList, chars, afterOpening?_opening]
  simp only [Option.bind_eq_bind, Option.bind_some, label, skipLineEnd?, ended, Option.getD_some, closed,
    lineEnded, joined, read, sequence, isSequence, String.ofList_toList]
  rfl

end Pem
end TokenAuthority
