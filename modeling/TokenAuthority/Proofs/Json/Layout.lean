import TokenAuthority.Proofs.Json.RoundTrip

/-!
# Indented documents read back

What is printed over indented lines is read as the document that was printed, under the same conditions as its
compact text.  The two layouts differ in blanks, and the reader skips blanks wherever one of them stands: in
front of values and names, and in front of commas and closing brackets.
-/

namespace TokenAuthority
namespace Json

open Text

/-! ## Blanks -/

/-- Bytes that the reader skips. -/
def AreBlanks (bytes : List UInt8) : Prop :=
  ∀ byte ∈ bytes, isBlankByte byte = true

theorem areBlanks_newline (level : Nat) : AreBlanks (utf8 (newline level)) := by
  intro byte member
  have spaces : utf8 (List.replicate (2 * level) ' ') = List.replicate (2 * level) 0x20 := by
    induction 2 * level with
    | zero => rfl
    | succ count ih =>
        rw [List.replicate_succ, utf8_cons, ih]
        rfl
  rw [newline, utf8_cons, spaces, List.mem_append] at member
  rcases member with lineEnd | space
  · rw [List.mem_singleton.mp lineEnd]
    rfl
  · rw [List.eq_of_mem_replicate space]
    rfl

section

variable {blanks bytes rest : List UInt8} (areBlanks : AreBlanks blanks) (fuel : Nat)

include areBlanks

theorem skipBlanks_append (bytes : List UInt8) : skipBlanks (blanks ++ bytes) = skipBlanks bytes := by
  induction blanks with
  | nil => rfl
  | cons blank blanks ih =>
      rw [List.cons_append, skipBlanks, areBlanks blank List.mem_cons_self, if_pos rfl]
      exact ih fun byte member => areBlanks byte (List.mem_cons_of_mem blank member)

theorem readValue?_blanks (bytes : List UInt8) :
    readValue? fuel (blanks ++ bytes) = readValue? fuel bytes := by
  cases fuel with
  | zero => rfl
  | succ fuel => rw [readValue?, readValue?, skipBlanks_append areBlanks]

theorem readItems?_blanks (bytes : List UInt8) :
    readItems? fuel (blanks ++ bytes) = readItems? fuel bytes := by
  cases fuel with
  | zero => rfl
  | succ fuel => rw [readItems?, readItems?, readValue?_blanks areBlanks]

theorem readMembers?_blanks (bytes : List UInt8) :
    readMembers? fuel (blanks ++ bytes) = readMembers? fuel bytes := by
  cases fuel with
  | zero => rfl
  | succ fuel => rw [readMembers?, readMembers?, skipBlanks_append areBlanks]

theorem readValue?_array_blanks {byte : UInt8} (start : startsValue byte = true) :
    readValue? (fuel + 1) (0x5b :: (blanks ++ byte :: bytes)) = readItems? fuel (byte :: bytes) := by
  simp only [startsValue, Bool.and_eq_true, Bool.not_eq_true', bne_iff_ne] at start
  rw [readValue?, skipBlanks_cons rfl]
  simp only [skipBlanks_append areBlanks, skipBlanks_cons start.1, if_neg start.2]
  rfl

theorem readValue?_object_blanks :
    readValue? (fuel + 1) (0x7b :: (blanks ++ 0x22 :: bytes)) = readMembers? fuel (0x22 :: bytes) := by
  have visible : isBlankByte 0x22 = false := rfl
  rw [readValue?, skipBlanks_cons rfl]
  simp only [skipBlanks_append areBlanks, skipBlanks_cons visible]
  rfl

variable {fuel}

theorem readItems?_last_blanks {item : Json}
    (read : readValue? fuel bytes = some (item, blanks ++ 0x5d :: rest)) :
    readItems? (fuel + 1) bytes = some (.array [item], rest) := by
  have visible : isBlankByte 0x5d = false := rfl
  rw [readItems?, read]
  simp only [skipBlanks_append areBlanks, skipBlanks_cons visible, if_true]

theorem readMembers?_last_blanks {value : Json} (name : String)
    (read : readValue? fuel bytes = some (value, blanks ++ 0x7d :: rest)) :
    readMembers? (fuel + 1) (memberBytes name bytes) = some (.object [(name, value)], rest) := by
  have colon : isBlankByte 0x3a = false := rfl
  have brace : isBlankByte 0x7d = false := rfl
  rw [memberBytes, readMembers?, skipBlanks_cons rfl]
  simp only [if_true, readContent?_escapeChars, skipBlanks_cons colon, read, skipBlanks_append areBlanks,
    skipBlanks_cons brace, contentText?_utf8, addMember]

end

/-! ## The bytes of indented documents -/

/-- A value and what precedes it on its line in an object. -/
theorem readValue?_space (fuel : Nat) (bytes : List UInt8) :
    readValue? fuel (0x20 :: bytes) = readValue? fuel bytes := by
  have areBlanks : AreBlanks [0x20] := fun byte member => by
    rw [List.mem_singleton.mp member]
    rfl
  exact readValue?_blanks areBlanks fuel bytes

section

variable (level : Nat)

theorem utf8_indentedArray (item : Json) (items : List Json) :
    utf8 ((Json.array (item :: items)).indentedChars level) = 0x5b :: (utf8 (newline (level + 1)) ++
      (utf8 (item.indentedChars (level + 1)) ++ utf8 (indentedItems level items))) := by
  rw [indentedChars, List.cons_append, List.cons_append, utf8_cons, utf8_append, utf8_append,
    List.append_assoc]
  rfl

theorem utf8_indentedItems (item : Json) (items : List Json) :
    utf8 (indentedItems level (item :: items)) = 0x2c :: (utf8 (newline (level + 1)) ++
      (utf8 (item.indentedChars (level + 1)) ++ utf8 (indentedItems level items))) := by
  rw [indentedItems, List.cons_append, List.cons_append, utf8_cons, utf8_append, utf8_append,
    List.append_assoc]
  rfl

theorem utf8_indentedItems_nil :
    utf8 (indentedItems level []) = utf8 (newline level) ++ [0x5d] := by
  rw [indentedItems, utf8_append]
  rfl

theorem utf8_indentedMember (name : String) (value : Json) (rest : List Char) :
    utf8 (quoteChars name ++ ':' :: ' ' :: value.indentedChars (level + 1) ++ rest) =
      memberBytes name (0x20 :: (utf8 (value.indentedChars (level + 1)) ++ utf8 rest)) := by
  rw [utf8_append, utf8_member, memberBytes_append, utf8_cons]
  rfl

theorem utf8_indentedObject (name : String) (value : Json) (members : List (String × Json)) :
    utf8 ((Json.object ((name, value) :: members)).indentedChars level) =
      0x7b :: (utf8 (newline (level + 1)) ++ memberBytes name (0x20 ::
        (utf8 (value.indentedChars (level + 1)) ++ utf8 (indentedMembers level members)))) := by
  rw [← utf8_indentedMember, indentedChars]
  simp only [List.cons_append, List.append_assoc, utf8_cons, utf8_append]
  rfl

theorem utf8_indentedMembers (name : String) (value : Json) (members : List (String × Json)) :
    utf8 (indentedMembers level ((name, value) :: members)) =
      0x2c :: (utf8 (newline (level + 1)) ++ memberBytes name (0x20 ::
        (utf8 (value.indentedChars (level + 1)) ++ utf8 (indentedMembers level members)))) := by
  rw [← utf8_indentedMember, indentedMembers]
  simp only [List.cons_append, List.append_assoc, utf8_cons, utf8_append]
  rfl

theorem utf8_indentedMembers_nil :
    utf8 (indentedMembers level []) = utf8 (newline level) ++ [0x7d] := by
  rw [indentedMembers, utf8_append]
  rfl

end

/-- A document that is neither a filled array nor a filled object is written on one line. -/
def isFlat : Json → Bool
  | .array (_ :: _) => false
  | .object (_ :: _) => false
  | _ => true

theorem indentedChars_of_isFlat {document : Json} (flat : document.isFlat = true) (level : Nat) :
    document.indentedChars level = document.compactChars := by
  cases document with
  | array items =>
      cases items with
      | nil => rw [indentedChars] <;> nofun
      | cons => cases flat
  | object members =>
      cases members with
      | nil => rw [indentedChars] <;> nofun
      | cons => cases flat
  | _ => rw [indentedChars] <;> nofun

/-- What is written for a document starts with a byte that starts a value. -/
theorem utf8_indentedChars_cons (level : Nat) (document : Json) (writable : document.isWritable = true) :
    ∃ byte bytes, utf8 (document.indentedChars level) = byte :: bytes ∧ startsValue byte = true := by
  cases flat : document.isFlat with
  | true =>
      rw [indentedChars_of_isFlat flat]
      exact utf8_compactChars_cons document writable
  | false =>
      unfold isFlat at flat
      split at flat
      · exact ⟨0x5b, _, utf8_indentedArray .., rfl⟩
      next member members => exact ⟨0x7b, _, utf8_indentedObject level member.1 member.2 members, rfl⟩
      · cases flat

/-- What follows an item or a member's value is a comma or a line break, which ends a number. -/
theorem endsNumber_indentedItems (level : Nat) (items : List Json) (rest : List UInt8) :
    endsNumber (utf8 (indentedItems level items) ++ rest) = true := by
  cases items with
  | nil => rfl
  | cons item items =>
      rw [utf8_indentedItems]
      rfl

theorem endsNumber_indentedMembers (level : Nat) (members : List (String × Json)) (rest : List UInt8) :
    endsNumber (utf8 (indentedMembers level members) ++ rest) = true := by
  cases members with
  | nil => rfl
  | cons member members =>
      rw [utf8_indentedMembers level member.1 member.2]
      rfl

/-! ## Whole documents -/

theorem exists_fuel_indented (level : Nat) (document : Json) (writable : document.isWritable = true)
    {fuel : Nat} (enough : (utf8 (document.indentedChars level)).length ≤ fuel) :
    ∃ less, fuel = less + 1 := by
  rcases utf8_indentedChars_cons level document writable with ⟨byte, bytes, first, _⟩
  rw [first, List.length_cons] at enough
  exact ⟨fuel - 1, by omega⟩

mutual

/-- Reading what is written for a document gives the document, and leaves the bytes after it. -/
theorem readValue?_indentedChars (level : Nat) (document : Json) (fuel : Nat) (rest : List UInt8)
    (writable : document.isWritable = true)
    (enough : (utf8 (document.indentedChars level)).length ≤ fuel) (ends : endsNumber rest = true) :
    readValue? fuel (utf8 (document.indentedChars level) ++ rest) = some (document, rest) := by
  match same : document with
  | .array (item :: items) =>
      rcases exists_fuel_indented level _ writable enough with ⟨fuel, rfl⟩
      rw [isWritable, areItemsWritable, Bool.and_eq_true] at writable
      rw [utf8_indentedArray, List.length_cons, List.length_append] at enough
      have read := readItems?_indentedItems level item items fuel rest writable.1 writable.2 (by omega)
      rcases utf8_indentedChars_cons (level + 1) item writable.1 with ⟨byte, bytes, first, start⟩
      rw [utf8_indentedArray, List.cons_append, List.append_assoc]
      rw [first, List.cons_append, List.cons_append] at read ⊢
      exact (readValue?_array_blanks (areBlanks_newline _) fuel start).trans read
  | .object ((name, value) :: members) =>
      rcases exists_fuel_indented level _ writable enough with ⟨fuel, rfl⟩
      rw [isWritable, areMembersWritable, Bool.and_eq_true] at writable
      rw [utf8_indentedObject, List.length_cons, List.length_append] at enough
      have read := readMembers?_indentedMembers level name value members fuel rest writable.1 writable.2
        (by omega)
      rw [utf8_indentedObject, List.cons_append, List.append_assoc]
      exact (readValue?_object_blanks (areBlanks_newline _) fuel).trans read
  | .null | .bool _ | .integer _ | .real _ | .string _ | .array [] | .object [] | .unreadable _ =>
      rw [indentedChars_of_isFlat rfl] at enough ⊢
      exact readValue?_compactChars _ fuel rest writable enough ends
termination_by sizeOf document
decreasing_by
  all_goals
    subst same
    decreasing_tactic

/-- Reading one or more written items and the bracket after them gives the items. -/
theorem readItems?_indentedItems (level : Nat) (item : Json) (items : List Json) (fuel : Nat)
    (rest : List UInt8) (writable : item.isWritable = true) (others : areItemsWritable items = true)
    (enough : (utf8 (item.indentedChars (level + 1)) ++ utf8 (indentedItems level items)).length ≤ fuel) :
    readItems? fuel (utf8 (item.indentedChars (level + 1)) ++ utf8 (indentedItems level items) ++ rest) =
      some (.array (item :: items), rest) := by
  rw [List.length_append] at enough
  have enoughForItem : (utf8 (item.indentedChars (level + 1))).length ≤ fuel := by omega
  rcases exists_fuel_indented _ item writable enoughForItem with ⟨fuel, rfl⟩
  rw [List.append_assoc]
  match same : items with
  | [] =>
      rw [utf8_indentedItems_nil, List.length_append, List.length_singleton] at enough
      have read := readValue?_indentedChars (level + 1) item fuel
        (utf8 (indentedItems level []) ++ rest) writable (by omega) (endsNumber_indentedItems level [] rest)
      rw [utf8_indentedItems_nil, List.append_assoc] at read ⊢
      exact readItems?_last_blanks (areBlanks_newline level) read
  | next :: items =>
      rw [areItemsWritable, Bool.and_eq_true] at others
      rw [utf8_indentedItems, List.length_cons, List.length_append] at enough
      have read := readValue?_indentedChars (level + 1) item fuel
        (utf8 (indentedItems level (next :: items)) ++ rest) writable (by omega)
        (endsNumber_indentedItems level (next :: items) rest)
      have tail := readItems?_indentedItems level next items fuel rest others.1 others.2 (by omega)
      rw [← readItems?_blanks (areBlanks_newline (level + 1))] at tail
      rw [utf8_indentedItems, List.cons_append, List.append_assoc] at read ⊢
      exact readItems?_more read tail
termination_by sizeOf item + sizeOf items
decreasing_by
  all_goals
    subst same
    decreasing_tactic

/-- Reading one or more written members and the brace after them gives the members. -/
theorem readMembers?_indentedMembers (level : Nat) (name : String) (value : Json)
    (members : List (String × Json)) (fuel : Nat) (rest : List UInt8) (writable : value.isWritable = true)
    (others : areMembersWritable members = true)
    (enough : (memberBytes name (0x20 :: (utf8 (value.indentedChars (level + 1)) ++
      utf8 (indentedMembers level members)))).length ≤ fuel) :
    readMembers? fuel (memberBytes name (0x20 :: (utf8 (value.indentedChars (level + 1)) ++
        utf8 (indentedMembers level members))) ++ rest) =
      some (.object ((name, value) :: members), rest) := by
  have enoughInside := Nat.le_trans (length_memberBytes name _) enough
  rw [List.length_cons, List.length_append] at enoughInside
  have positive : ∃ less, fuel = less + 1 := ⟨fuel - 1, by omega⟩
  rcases positive with ⟨fuel, rfl⟩
  rw [memberBytes_append, List.cons_append, List.append_assoc]
  match same : members with
  | [] =>
      rw [utf8_indentedMembers_nil, List.length_append, List.length_singleton] at enoughInside
      have read := readValue?_indentedChars (level + 1) value fuel
        (utf8 (indentedMembers level []) ++ rest) writable (by omega)
        (endsNumber_indentedMembers level [] rest)
      rw [← readValue?_space] at read
      rw [utf8_indentedMembers_nil, List.append_assoc] at read ⊢
      exact readMembers?_last_blanks (areBlanks_newline level) name read
  | (other, next) :: members =>
      rw [areMembersWritable, Bool.and_eq_true] at others
      rw [utf8_indentedMembers, List.length_cons, List.length_append] at enoughInside
      have read := readValue?_indentedChars (level + 1) value fuel
        (utf8 (indentedMembers level ((other, next) :: members)) ++ rest) writable (by omega)
        (endsNumber_indentedMembers level ((other, next) :: members) rest)
      have tail := readMembers?_indentedMembers level other next members fuel rest others.1 others.2
        (by omega)
      rw [← readMembers?_blanks (areBlanks_newline (level + 1))] at tail
      rw [← readValue?_space] at read
      rw [utf8_indentedMembers, List.cons_append, List.append_assoc] at read ⊢
      exact readMembers?_more name read tail
termination_by sizeOf value + sizeOf members
decreasing_by
  all_goals
    subst same
    decreasing_tactic

end

/-- A document is what its indented text is read as, with a line end after it. -/
theorem ofText?_indented (document : Json) (writable : document.isWritable = true) :
    ofText? (document.indented ++ "\n") = some document := by
  have bytes : (document.indented ++ "\n").toUTF8.data.toList =
      utf8 (document.indentedChars 0) ++ [0x0a] := by
    rw [toUTF8_toList, indented, String.toList_append, String.toList_ofList, utf8_append]
    rfl
  have read := readValue?_indentedChars 0 document
    (2 * (utf8 (document.indentedChars 0) ++ [0x0a]).length + 2) [0x0a] writable
    (by rw [List.length_append]; omega) rfl
  rw [ofText?, bytes, ofBytes?, read]
  rfl

end Json
end TokenAuthority
