import TokenAuthority.Proofs.Json.Numbers
import TokenAuthority.Proofs.Json.Strings

/-!
# Documents read back from their text

A document of strings, integers, truth values and null, nested in any way, is what its compact text is
read as.  Left out are numbers that are not integers, whose text is the shortest decimal that rounds to
them, and parts that denote nothing.

The reader spends fuel on every nesting and on every further item or member.  The writer spends at least
one byte on each of them, so the length of the text bounds the fuel that its reading needs.
-/

namespace TokenAuthority
namespace Json

open Text

instance (value : Int) : Decidable (IsWritableInteger value) :=
  inferInstanceAs (Decidable (IsSigned64 value ∨ IsUnsigned64 value))

mutual

/-- A document that its compact text determines. -/
def isWritable : Json → Bool
  | .integer value => decide (IsWritableInteger value)
  | .real _ => false
  | .array items => areItemsWritable items
  | .object members => areMembersWritable members
  | .unreadable _ => false
  | _ => true

/-- Every item of an array is determined by its text. -/
def areItemsWritable : List Json → Bool
  | [] => true
  | item :: items => item.isWritable && areItemsWritable items

/-- Every value of a member is determined by its text. -/
def areMembersWritable : List (String × Json) → Bool
  | [] => true
  | (_, value) :: members => value.isWritable && areMembersWritable members

end

/-- An array is determined by its text if its items are. -/
theorem isWritable_array {items : List Json} (each : ∀ item ∈ items, item.isWritable = true) :
    (array items).isWritable = true := by
  rw [isWritable]
  induction items with
  | nil => rfl
  | cons item items ih =>
      have others := ih fun other member => each other (List.mem_cons_of_mem item member)
      rw [areItemsWritable, each item List.mem_cons_self, others]
      rfl

/-- An array of strings is determined by its text. -/
theorem isWritable_strings (values : List String) : (strings values).isWritable = true := by
  apply isWritable_array
  intro item member
  rcases List.mem_map.mp member with ⟨value, _, rfl⟩
  rfl

theorem areMembersWritable_append (left right : List (String × Json)) :
    areMembersWritable (left ++ right) = (areMembersWritable left && areMembersWritable right) := by
  induction left with
  | nil => rfl
  | cons member members ih =>
      rcases member with ⟨name, value⟩
      rw [List.cons_append, areMembersWritable, ih, areMembersWritable, Bool.and_assoc]

/-! ## The bytes at the front -/

theorem skipBlanks_cons {byte : UInt8} (visible : isBlankByte byte = false) (rest : List UInt8) :
    skipBlanks (byte :: rest) = byte :: rest := by
  rw [skipBlanks, visible, if_neg Bool.false_ne_true]

/-- A byte with which a value can start: neither a blank nor the bracket that closes an array. -/
def startsValue (byte : UInt8) : Bool :=
  !isBlankByte byte && byte != 0x5d

/-- The bytes that start an integer are the digits and the minus sign. -/
theorem utf8_integerChars_cons (value : Int) : ∃ byte bytes,
    utf8 (integerChars value) = byte :: bytes ∧ (isDigitByte byte = true ∨ byte = 0x2d) := by
  unfold integerChars
  split_ifs with sign
  · rcases utf8_naturalChars_cons value.toNat with ⟨byte, bytes, first, digit⟩
    exact ⟨byte, bytes, first, Or.inl digit⟩
  · exact ⟨0x2d, utf8 (naturalChars value.natAbs), rfl, Or.inr rfl⟩

theorem startsNumber_bounds {byte : UInt8} (start : isDigitByte byte = true ∨ byte = 0x2d) :
    0x2d ≤ byte.toNat ∧ byte.toNat ≤ 0x39 := by
  rcases start with digit | rfl
  · rw [isDigitByte, Bool.and_eq_true, decide_eq_true_eq, decide_eq_true_eq, UInt8.le_iff_toNat_le,
      UInt8.le_iff_toNat_le] at digit
    exact ⟨Nat.le_trans (by decide) digit.1, digit.2⟩
  · decide

/-- A byte that starts a number starts nothing else. -/
theorem ne_of_startsNumber {byte : UInt8} (start : isDigitByte byte = true ∨ byte = 0x2d)
    (other : UInt8) (outside : other.toNat < 0x2d ∨ 0x39 < other.toNat) : byte ≠ other := by
  have bounds := startsNumber_bounds start
  rintro rfl
  omega

theorem startsValue_of_startsNumber {byte : UInt8} (start : isDigitByte byte = true ∨ byte = 0x2d) :
    startsValue byte = true := by
  have other (byte' : UInt8) (outside : byte'.toNat < 0x2d ∨ 0x39 < byte'.toNat) :
      (byte == byte') = false := beq_false_of_ne (ne_of_startsNumber start byte' outside)
  simp only [startsValue, isBlankByte, bne, other 0x20 (by decide), other 0x9 (by decide),
    other 0xa (by decide), other 0xd (by decide), other 0x5d (by decide), Bool.or_false, Bool.not_false,
    Bool.and_true]

/-- What is written for a document starts with a byte that starts a value. -/
theorem utf8_compactChars_cons (document : Json) (writable : document.isWritable = true) :
    ∃ byte bytes, utf8 document.compactChars = byte :: bytes ∧ startsValue byte = true := by
  cases document with
  | null => exact ⟨0x6e, [0x75, 0x6c, 0x6c], by rw [compactChars]; decide, rfl⟩
  | bool value =>
      cases value with
      | true => exact ⟨0x74, [0x72, 0x75, 0x65], by rw [compactChars]; decide, rfl⟩
      | false => exact ⟨0x66, [0x61, 0x6c, 0x73, 0x65], by rw [compactChars]; decide, rfl⟩
  | integer value =>
      rcases utf8_integerChars_cons value with ⟨byte, bytes, first, start⟩
      exact ⟨byte, bytes, by rw [compactChars, first], startsValue_of_startsNumber start⟩
  | real bits => cases writable
  | string value => exact ⟨0x22, _, by rw [compactChars, utf8_quoteChars], rfl⟩
  | array items =>
      cases items with
      | nil => exact ⟨0x5b, [0x5d], by rw [compactChars]; decide, rfl⟩
      | cons item items =>
          exact ⟨0x5b, _, by rw [compactChars, List.cons_append, utf8_cons]; rfl, rfl⟩
  | object members =>
      cases members with
      | nil => exact ⟨0x7b, [0x7d], by rw [compactChars]; decide, rfl⟩
      | cons member members =>
          rcases member with ⟨name, value⟩
          exact ⟨0x7b, _, by rw [compactChars, List.cons_append, List.cons_append, utf8_cons]; rfl, rfl⟩
  | unreadable => cases writable

/-! ## One step of the reader -/

theorem readValue?_string (fuel : Nat) (value : String) (rest : List UInt8) :
    readValue? (fuel + 1) (utf8 (quoteChars value) ++ rest) = some (.string value, rest) := by
  rw [utf8_quoteChars, List.cons_append, List.append_assoc, List.singleton_append, readValue?,
    skipBlanks_cons rfl]
  simp only [if_true, readContent?_escapeChars, Option.map_some, contentValue, contentText?_utf8]

theorem readValue?_integer (fuel : Nat) {value : Int} (bound : IsWritableInteger value)
    {rest : List UInt8} (ends : endsNumber rest = true) :
    readValue? (fuel + 1) (utf8 (integerChars value) ++ rest) = some (.integer value, rest) := by
  rcases utf8_integerChars_cons value with ⟨byte, bytes, first, start⟩
  have visible : isBlankByte byte = false := by
    have value := startsValue_of_startsNumber start
    rw [startsValue, Bool.and_eq_true, Bool.not_eq_true'] at value
    exact value.1
  have read := readNumber?_integerChars bound ends
  rw [first, List.cons_append] at read ⊢
  rw [readValue?, skipBlanks_cons visible]
  simp only [if_neg (ne_of_startsNumber start 0x22 (by decide)),
    if_neg (ne_of_startsNumber start 0x5b (by decide)),
    if_neg (ne_of_startsNumber start 0x7b (by decide)),
    if_neg (ne_of_startsNumber start 0x6e (by decide)),
    if_neg (ne_of_startsNumber start 0x74 (by decide)),
    if_neg (ne_of_startsNumber start 0x66 (by decide)), read]

/-- An array that is not empty is read by its items. -/
theorem readValue?_array (fuel : Nat) {byte : UInt8} (start : startsValue byte = true)
    (bytes : List UInt8) :
    readValue? (fuel + 1) (0x5b :: byte :: bytes) = readItems? fuel (byte :: bytes) := by
  simp only [startsValue, Bool.and_eq_true, Bool.not_eq_true', bne_iff_ne] at start
  rw [readValue?, skipBlanks_cons rfl]
  simp only [skipBlanks_cons start.1, if_neg start.2]
  rfl

/-- An object that is not empty is read by its members. -/
theorem readValue?_object (fuel : Nat) (bytes : List UInt8) :
    readValue? (fuel + 1) (0x7b :: 0x22 :: bytes) = readMembers? fuel (0x22 :: bytes) := by
  have visible : isBlankByte 0x22 = false := rfl
  rw [readValue?, skipBlanks_cons rfl]
  simp only [skipBlanks_cons visible]
  rfl

theorem readItems?_last {fuel : Nat} {bytes rest : List UInt8} {item : Json}
    (read : readValue? fuel bytes = some (item, 0x5d :: rest)) :
    readItems? (fuel + 1) bytes = some (.array [item], rest) := by
  rw [readItems?, read]
  rfl

theorem readItems?_more {fuel : Nat} {bytes next rest : List UInt8} {item : Json} {items : List Json}
    (read : readValue? fuel bytes = some (item, 0x2c :: next))
    (others : readItems? fuel next = some (.array items, rest)) :
    readItems? (fuel + 1) bytes = some (.array (item :: items), rest) := by
  have visible : isBlankByte 0x2c = false := rfl
  have notBracket : ¬ (0x2c : UInt8) = 0x5d := by decide
  rw [readItems?, read]
  simp only [skipBlanks_cons visible, if_neg notBracket, if_true, others]
  rfl

/-- The bytes of a member: its name in quotes, a colon and its value. -/
def memberBytes (name : String) (value : List UInt8) : List UInt8 :=
  0x22 :: (utf8 (name.toList.flatMap escapeChar) ++ 0x22 :: 0x3a :: value)

theorem readMembers?_last {fuel : Nat} {bytes rest : List UInt8} {value : Json} (name : String)
    (read : readValue? fuel bytes = some (value, 0x7d :: rest)) :
    readMembers? (fuel + 1) (memberBytes name bytes) = some (.object [(name, value)], rest) := by
  have colon : isBlankByte 0x3a = false := rfl
  have brace : isBlankByte 0x7d = false := rfl
  rw [memberBytes, readMembers?, skipBlanks_cons rfl]
  simp only [if_true, readContent?_escapeChars, skipBlanks_cons colon, read, skipBlanks_cons brace,
    contentText?_utf8, addMember]

theorem readMembers?_more {fuel : Nat} {bytes next rest : List UInt8} {value : Json} (name : String)
    {members : List (String × Json)} (read : readValue? fuel bytes = some (value, 0x2c :: next))
    (others : readMembers? fuel next = some (.object members, rest)) :
    readMembers? (fuel + 1) (memberBytes name bytes) =
      some (.object ((name, value) :: members), rest) := by
  have colon : isBlankByte 0x3a = false := rfl
  have comma : isBlankByte 0x2c = false := rfl
  have notBrace : ¬ (0x2c : UInt8) = 0x7d := by decide
  rw [memberBytes, readMembers?, skipBlanks_cons rfl]
  simp only [if_true, readContent?_escapeChars, skipBlanks_cons colon, read, skipBlanks_cons comma,
    if_neg notBrace, others, Option.map_some, contentText?_utf8, addMember]

/-! ## The bytes of arrays and objects -/

theorem utf8_array (item : Json) (items : List Json) :
    utf8 (Json.array (item :: items)).compactChars =
      0x5b :: (utf8 item.compactChars ++ utf8 (compactItems items)) := by
  rw [compactChars, List.cons_append, utf8_cons, utf8_append]
  rfl

theorem utf8_compactItems (item : Json) (items : List Json) :
    utf8 (compactItems (item :: items)) =
      0x2c :: (utf8 item.compactChars ++ utf8 (compactItems items)) := by
  rw [compactItems, List.cons_append, utf8_cons, utf8_append]
  rfl

theorem utf8_member (name : String) (value : List Char) :
    utf8 (quoteChars name ++ ':' :: value) = memberBytes name (utf8 value) := by
  rw [utf8_append, utf8_quoteChars, utf8_cons, memberBytes, List.cons_append, List.append_assoc]
  rfl

theorem memberBytes_append (name : String) (value rest : List UInt8) :
    memberBytes name value ++ rest = memberBytes name (value ++ rest) := by
  rw [memberBytes, memberBytes, List.cons_append, List.append_assoc]
  rfl

theorem utf8_object (name : String) (value : Json) (members : List (String × Json)) :
    utf8 (Json.object ((name, value) :: members)).compactChars =
      0x7b :: memberBytes name (utf8 value.compactChars ++ utf8 (compactMembers members)) := by
  rw [compactChars, List.cons_append, List.cons_append, utf8_cons, utf8_append, utf8_member,
    memberBytes_append]
  rfl

theorem utf8_compactMembers (name : String) (value : Json) (members : List (String × Json)) :
    utf8 (compactMembers ((name, value) :: members)) =
      0x2c :: memberBytes name (utf8 value.compactChars ++ utf8 (compactMembers members)) := by
  rw [compactMembers, List.cons_append, List.cons_append, utf8_cons, utf8_append, utf8_member,
    memberBytes_append]
  rfl

theorem length_memberBytes (name : String) (value : List UInt8) :
    value.length + 3 ≤ (memberBytes name value).length := by
  simp only [memberBytes, List.length_cons, List.length_append]
  omega

/-! ## Whole documents -/

/-- What follows an item or a member's value is a comma or a closing bracket, which ends a number. -/
theorem endsNumber_compactItems (items : List Json) (rest : List UInt8) :
    endsNumber (utf8 (compactItems items) ++ rest) = true := by
  cases items with
  | nil => rfl
  | cons item items =>
      rw [utf8_compactItems]
      rfl

theorem endsNumber_compactMembers (members : List (String × Json)) (rest : List UInt8) :
    endsNumber (utf8 (compactMembers members) ++ rest) = true := by
  cases members with
  | nil => rfl
  | cons member members =>
      rcases member with ⟨name, value⟩
      rw [utf8_compactMembers]
      rfl

/-- What is written has at least one byte, so fuel that is enough for it is not used up. -/
theorem exists_fuel (document : Json) (writable : document.isWritable = true) {fuel : Nat}
    (enough : (utf8 document.compactChars).length ≤ fuel) : ∃ less, fuel = less + 1 := by
  rcases utf8_compactChars_cons document writable with ⟨byte, bytes, first, _⟩
  rw [first, List.length_cons] at enough
  exact ⟨fuel - 1, by omega⟩

mutual

/-- Reading what is written for a document gives the document, and leaves the bytes after it. -/
theorem readValue?_compactChars (document : Json) (fuel : Nat) (rest : List UInt8)
    (writable : document.isWritable = true) (enough : (utf8 document.compactChars).length ≤ fuel)
    (ends : endsNumber rest = true) :
    readValue? fuel (utf8 document.compactChars ++ rest) = some (document, rest) := by
  rcases exists_fuel document writable enough with ⟨fuel, rfl⟩
  match same : document with
  | .null =>
      rw [compactChars, readValue?]
      rfl
  | .bool true =>
      rw [compactChars, readValue?]
      rfl
  | .bool false =>
      rw [compactChars, readValue?]
      rfl
  | .integer value =>
      rw [compactChars]
      rw [isWritable, decide_eq_true_eq] at writable
      exact readValue?_integer fuel writable ends
  | .string value =>
      rw [compactChars]
      exact readValue?_string fuel value rest
  | .array [] =>
      rw [compactChars, readValue?]
      rfl
  | .object [] =>
      rw [compactChars, readValue?]
      rfl
  | .array (item :: items) =>
      rw [isWritable, areItemsWritable, Bool.and_eq_true] at writable
      rw [utf8_array, List.length_cons] at enough
      have read := readItems?_compactItems item items fuel rest writable.1 writable.2 (by omega)
      rcases utf8_compactChars_cons item writable.1 with ⟨byte, bytes, first, start⟩
      rw [utf8_array, List.cons_append]
      rw [first, List.cons_append, List.cons_append] at read ⊢
      exact (readValue?_array fuel start _).trans read
  | .object ((name, value) :: members) =>
      rw [isWritable, areMembersWritable, Bool.and_eq_true] at writable
      rw [utf8_object, List.length_cons] at enough
      have read := readMembers?_compactMembers name value members fuel rest writable.1 writable.2
        (by omega)
      rw [utf8_object, List.cons_append]
      exact (readValue?_object fuel _).trans read
termination_by sizeOf document
decreasing_by
  all_goals
    subst same
    decreasing_tactic

/-- Reading one or more written items and the bracket after them gives the items. -/
theorem readItems?_compactItems (item : Json) (items : List Json) (fuel : Nat) (rest : List UInt8)
    (writable : item.isWritable = true) (others : areItemsWritable items = true)
    (enough : (utf8 item.compactChars ++ utf8 (compactItems items)).length ≤ fuel) :
    readItems? fuel (utf8 item.compactChars ++ utf8 (compactItems items) ++ rest) =
      some (.array (item :: items), rest) := by
  rw [List.length_append] at enough
  have enoughForItem : (utf8 item.compactChars).length ≤ fuel := by omega
  rcases exists_fuel item writable enoughForItem with ⟨fuel, rfl⟩
  match same : items with
  | [] =>
      have spent : (utf8 (compactItems [])).length = 1 := rfl
      have read := readValue?_compactChars item fuel (utf8 (compactItems []) ++ rest) writable
        (by omega) (endsNumber_compactItems [] rest)
      rw [List.append_assoc]
      exact readItems?_last read
  | next :: items =>
      rw [areItemsWritable, Bool.and_eq_true] at others
      rw [utf8_compactItems, List.length_cons] at enough
      have read := readValue?_compactChars item fuel (utf8 (compactItems (next :: items)) ++ rest)
        writable (by omega) (endsNumber_compactItems (next :: items) rest)
      have tail := readItems?_compactItems next items fuel rest others.1 others.2 (by omega)
      rw [List.append_assoc]
      rw [utf8_compactItems, List.cons_append] at read ⊢
      exact readItems?_more read tail
termination_by sizeOf item + sizeOf items
decreasing_by
  all_goals
    subst same
    decreasing_tactic

/-- Reading one or more written members and the brace after them gives the members. -/
theorem readMembers?_compactMembers (name : String) (value : Json) (members : List (String × Json))
    (fuel : Nat) (rest : List UInt8) (writable : value.isWritable = true)
    (others : areMembersWritable members = true)
    (enough : (memberBytes name
      (utf8 value.compactChars ++ utf8 (compactMembers members))).length ≤ fuel) :
    readMembers? fuel
        (memberBytes name (utf8 value.compactChars ++ utf8 (compactMembers members)) ++ rest) =
      some (.object ((name, value) :: members), rest) := by
  have shorter := length_memberBytes name (utf8 value.compactChars ++ utf8 (compactMembers members))
  rw [List.length_append] at shorter
  have positive : ∃ less, fuel = less + 1 := ⟨fuel - 1, by omega⟩
  rcases positive with ⟨fuel, rfl⟩
  rw [memberBytes_append, List.append_assoc]
  match same : members with
  | [] =>
      have read := readValue?_compactChars value fuel (utf8 (compactMembers []) ++ rest) writable
        (by omega) (endsNumber_compactMembers [] rest)
      exact readMembers?_last name read
  | (other, next) :: members =>
      rw [areMembersWritable, Bool.and_eq_true] at others
      have spent := congrArg List.length (utf8_compactMembers other next members)
      rw [List.length_cons] at spent
      have read := readValue?_compactChars value fuel
        (utf8 (compactMembers ((other, next) :: members)) ++ rest) writable (by omega)
        (endsNumber_compactMembers ((other, next) :: members) rest)
      have tail := readMembers?_compactMembers other next members fuel rest others.1 others.2
        (by omega)
      rw [utf8_compactMembers, List.cons_append] at read ⊢
      exact readMembers?_more name read tail
termination_by sizeOf value + sizeOf members
decreasing_by
  all_goals
    subst same
    decreasing_tactic

end

/-- A document is what the bytes of its compact text are read as. -/
theorem ofBytes?_compact (document : Json) (writable : document.isWritable = true) :
    ofBytes? (utf8 document.compactChars) = some document := by
  have read := readValue?_compactChars document (2 * (utf8 document.compactChars).length + 2) []
    writable (by omega) rfl
  rw [List.append_nil] at read
  rw [ofBytes?, read]
  rfl

/-- A document is what its compact text is read as. -/
theorem ofText?_compact (document : Json) (writable : document.isWritable = true) :
    ofText? document.compact = some document := by
  rw [ofText?, toUTF8_toList, compact, String.toList_ofList]
  exact ofBytes?_compact document writable

/-- Nesting, an empty array, an escape, a control and a sign in one document. -/
example : ofText? "\x7b\"a\":[[],-1],\"\\u0001\\n\":\"é\"\x7d" =
    some (.object [("a", .array [.array [], .integer (-1)]), ("\x01\n", .string "é")]) := by
  rfl

end Json
end TokenAuthority
