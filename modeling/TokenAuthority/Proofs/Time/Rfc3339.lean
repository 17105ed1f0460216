import Mathlib.Tactic.SplitIfs
import TokenAuthority.Proofs.Time.Calendar
import TokenAuthority.Time.Rfc3339

/-!
# Instants, written and read

An instant that some text denotes is denoted by its own text, to the nanosecond.  Such instants are the ones whose
second is representable and whose leap second, if it lies in one, follows the last second of a minute; a minute has
room for one second more than sixty, and no text says more.  The time line has other instants as well, with a leap
second in the middle of a minute.  Such an instant is written like the one that lies as far into the next second, so
its text denotes that one, and the two cannot be told apart any more.

A number ends where no digit follows.  So each number of a text is read back from the digits in front of its
separator, and a text is read by its numbers from left to right.  Nothing else is asked of the numbers than that
they fit into their digits, and of the date and the time than that they exist.
-/

namespace TokenAuthority
namespace Time

/-! ## Digits -/

/-- The digits are the characters of core's class. -/
theorem digitValue?_of_isDigit {character : Char} (digit : character.isDigit = true) :
    digitValue? character = some (character.toNat - 48) := by
  rw [Char.isDigit, Bool.and_eq_true, decide_eq_true_eq, decide_eq_true_eq] at digit
  exact if_pos digit

theorem lt_ten_of_digitValue? {character : Char} {value : Nat}
    (digit : digitValue? character = some value) : value < 10 := by
  unfold digitValue? at digit
  split at digit
  next within =>
    have last : character.toNat ≤ 57 := within.2
    have same := Option.some.inj digit
    omega
  · cases digit

theorem isDigit_of_mem_padded {width value : Nat} {character : Char}
    (member : character ∈ padded width value) : character.isDigit = true := by
  rcases List.mem_append.mp member with zero | digit
  · rw [List.eq_of_mem_replicate zero]
    rfl
  · exact Nat.isDigit_of_mem_toDigits (by decide) (by decide) digit

theorem exists_padded_eq_cons (width value : Nat) : ∃ digit digits,
    padded width value = digit :: digits ∧ ∀ character ∈ digit :: digits, character.isDigit = true := by
  cases front : padded width value with
  | nil => exact absurd (List.append_eq_nil_iff.mp front).2 Nat.toDigits_ne_nil
  | cons digit digits =>
      exact ⟨digit, digits, rfl, fun character member => isDigit_of_mem_padded (front ▸ member)⟩

theorem length_padded {width value : Nat} (pos : 0 < width) (fits : value < 10 ^ width) :
    (padded width value).length = width := by
  have short := (Nat.length_toDigits_le_iff (by decide) pos).mpr fits
  rw [padded, List.length_append, List.length_replicate]
  omega

/-- Zeros in front do not change the value. -/
theorem ofDigitChars_padded (width value : Nat) : Nat.ofDigitChars 10 (padded width value) 0 = value := by
  unfold padded
  dsimp only
  generalize width - (Nat.toDigits 10 value).length = zeros
  induction zeros with
  | zero => exact Nat.ofDigitChars_ten_toDigits
  | succ zeros ih =>
      rw [List.replicate_succ, List.cons_append, Nat.ofDigitChars_cons]
      exact ih

section

variable {digits : List Char} (areDigits : ∀ character ∈ digits, character.isDigit = true)
  {mark : Char} (ends : digitValue? mark = none)

include areDigits ends

theorem readDigitsFrom_append (value : Nat) {limit : Nat} (long : digits.length ≤ limit) (rest : List Char) :
    readDigitsFrom value limit (digits ++ mark :: rest) =
      (Nat.ofDigitChars 10 digits value, mark :: rest) := by
  induction digits generalizing value limit with
  | nil =>
      cases limit with
      | zero => rfl
      | succ limit => rw [List.nil_append, readDigitsFrom, ends, Nat.ofDigitChars_nil]
  | cons digit digits ih =>
      cases limit with
      | zero => exact absurd long (Nat.not_succ_le_zero _)
      | succ limit =>
          rw [List.cons_append, readDigitsFrom, digitValue?_of_isDigit (areDigits digit List.mem_cons_self)]
          exact ih (fun other member => areDigits other (List.mem_cons_of_mem digit member)) _
            (Nat.le_of_succ_le_succ long)

/-- A fraction that ends early is filled up with zeros. -/
theorem readFractionFrom_append (value : Nat) {missing : Nat} (long : digits.length ≤ missing)
    (rest : List Char) :
    readFractionFrom value missing (digits ++ mark :: rest) =
      (Nat.ofDigitChars 10 digits value * 10 ^ (missing - digits.length), mark :: rest) := by
  induction digits generalizing value missing with
  | nil =>
      cases missing with
      | zero =>
          rw [List.nil_append, readFractionFrom, List.dropWhile_cons_of_neg (by rw [ends]; decide),
            Nat.ofDigitChars_nil, Nat.zero_sub, Nat.pow_zero, Nat.mul_one]
      | succ missing =>
          rw [List.nil_append, readFractionFrom, ends]
          rfl
  | cons digit digits ih =>
      cases missing with
      | zero => exact absurd long (Nat.not_succ_le_zero _)
      | succ missing =>
          have others := ih (fun other member => areDigits other (List.mem_cons_of_mem digit member))
            (10 * value + (digit.toNat - 48)) (Nat.le_of_succ_le_succ long)
          rw [List.cons_append, readFractionFrom, digitValue?_of_isDigit (areDigits digit List.mem_cons_self),
            List.length_cons, Nat.succ_sub_succ]
          exact others

end

/-- A digit is no blank. -/
theorem isBlank_of_isDigit {character : Char} (digit : character.isDigit = true) :
    Text.isBlank character = false := by
  rw [Char.isDigit, Bool.and_eq_true, decide_eq_true_eq, decide_eq_true_eq] at digit
  have first : 48 ≤ character.toNat := digit.1
  have last : character.toNat ≤ 57 := digit.2
  simp only [Text.isBlank, Bool.or_eq_false_iff, Bool.and_eq_false_iff, decide_eq_false_iff_not, beq_eq_false_iff_ne]
  omega

theorem dropWhile_isBlank_cons {character : Char} (visible : Text.isBlank character = false)
    (rest : List Char) : (character :: rest).dropWhile Text.isBlank = character :: rest := by
  rw [List.dropWhile_cons_of_neg (by rw [visible]; exact Bool.false_ne_true)]

/-! ## The parts of a text -/

/-- A padded number is read back in front of anything that is no digit. -/
theorem readNumber?_padded {width value limit : Nat} (long : (padded width value).length ≤ limit)
    {mark : Char} (ends : digitValue? mark = none) (rest : List Char) :
    readNumber? limit (padded width value ++ mark :: rest) = some (value, mark :: rest) := by
  have denotes := ofDigitChars_padded width value
  rcases exists_padded_eq_cons width value with ⟨digit, digits, front, areDigits⟩
  have first := areDigits digit List.mem_cons_self
  have others := fun (other : Char) member => areDigits other (List.mem_cons_of_mem digit member)
  rw [front] at denotes long
  rw [Nat.ofDigitChars_cons, Nat.mul_zero, Nat.zero_add] at denotes
  rw [front, List.cons_append, readNumber?, dropWhile_isBlank_cons (isBlank_of_isDigit first)]
  simp only [digitValue?_of_isDigit first]
  rw [readDigitsFrom_append others ends _ (Nat.le_sub_one_of_lt long)]
  exact congrArg (fun value => some (value, mark :: rest)) denotes

theorem readNumber?_two {value : Nat} (fits : value < 100) {mark : Char} (ends : digitValue? mark = none)
    (rest : List Char) : readNumber? 2 (padded 2 value ++ mark :: rest) = some (value, mark :: rest) :=
  readNumber?_padded (length_padded (by decide) fits).le ends rest

theorem readSeparator?_cons {separator : Char} (visible : Text.isBlank separator = false) (rest : List Char) :
    readSeparator? separator (separator :: rest) = some rest := by
  rw [readSeparator?, dropWhile_isBlank_cons visible]
  exact if_pos rfl

/-- A year without a sign is read by four digits, and any number of digits may follow a sign. -/
theorem readYear?_padded {value : Nat} (fits : value < 10000) (rest : List Char) :
    readYear? (padded 4 value ++ '-' :: rest) = some ((value : Int), '-' :: rest) := by
  have hyphen : digitValue? '-' = none := rfl
  have read := readNumber?_padded (length_padded (Nat.succ_pos 3) fits).le hyphen rest
  rcases exists_padded_eq_cons 4 value with ⟨digit, digits, front, areDigits⟩
  have first := areDigits digit List.mem_cons_self
  have unsigned : ¬ (digit = '-' ∨ digit = '+') := by
    rintro (rfl | rfl)
    all_goals exact absurd first (by decide)
  rw [front, List.cons_append] at read ⊢
  rw [readYear?, dropWhile_isBlank_cons (isBlank_of_isDigit first)]
  simp only [if_neg unsigned, read, Option.map_some]

theorem readYear?_signed {sign : Char} (signed : sign = '-' ∨ sign = '+') (value : Nat) (rest : List Char) :
    readYear? (sign :: padded 4 value ++ '-' :: rest) =
      some (if sign = '-' then -(value : Int) else (value : Int), '-' :: rest) := by
  have visible : Text.isBlank sign = false := by
    rcases signed with rfl | rfl <;> rfl
  have long : (padded 4 value).length ≤ (padded 4 value ++ '-' :: rest).length := by
    rw [List.length_append]
    exact Nat.le_add_right _ _
  have hyphen : digitValue? '-' = none := rfl
  have read := readNumber?_padded long hyphen rest
  rcases exists_padded_eq_cons 4 value with ⟨digit, digits, front, areDigits⟩
  have first := digitValue?_of_isDigit (areDigits digit List.mem_cons_self)
  rw [front, List.cons_append] at read
  rw [front, List.cons_append, List.cons_append, readYear?, dropWhile_isBlank_cons visible]
  simp only [if_pos signed, first, Option.isSome_some, if_true, read, Option.map_some]

/-- A year is read back, with its sign where it has one. -/
theorem readYear?_yearChars (year : Int) (rest : List Char) :
    readYear? (yearChars year ++ '-' :: rest) = some (year, '-' :: rest) := by
  unfold yearChars
  split
  next plain =>
    rw [readYear?_padded (by omega), Int.toNat_of_nonneg plain.1]
  next outside =>
    by_cases negative : year < 0
    · have value : -(year.natAbs : Int) = year := by omega
      rw [if_pos negative, readYear?_signed (Or.inl rfl), if_pos rfl, value]
    · have value : (year.natAbs : Int) = year := by omega
      rw [if_neg negative, readYear?_signed (Or.inr rfl), if_neg (by decide), value]

/-- Three, six or nine digits of a fraction are read as the nanoseconds that they leave out no digit of. -/
theorem readFraction?_padded {width value : Nat} (pos : 0 < width) (le : width ≤ 9) (fits : value < 10 ^ width)
    {mark : Char} (ends : digitValue? mark = none) (rest : List Char) :
    readFraction? ('.' :: padded width value ++ mark :: rest) =
      some (value * 10 ^ (9 - width), mark :: rest) := by
  have long := length_padded pos fits
  have denotes := ofDigitChars_padded width value
  rcases exists_padded_eq_cons width value with ⟨digit, digits, front, areDigits⟩
  have others := fun (other : Char) member => areDigits other (List.mem_cons_of_mem digit member)
  rw [front] at denotes long
  rw [Nat.ofDigitChars_cons, Nat.mul_zero, Nat.zero_add] at denotes
  rw [List.length_cons] at long
  have left : 8 - digits.length = 9 - width := by omega
  rw [front, List.cons_append, List.cons_append, readFraction?, if_pos rfl]
  simp only [digitValue?_of_isDigit (areDigits digit List.mem_cons_self)]
  rw [readFractionFrom_append others ends _ (by omega), left]
  exact congrArg (fun value => some (value * 10 ^ (9 - width), mark :: rest)) denotes

/-- A fraction is read back. -/
theorem readFraction?_fractionChars {nanoseconds : Nat} (fits : nanoseconds < 1000000000) (rest : List Char) :
    readFraction? (fractionChars nanoseconds ++ 'Z' :: rest) = some (nanoseconds, 'Z' :: rest) := by
  unfold fractionChars
  split_ifs with none millis micros
  · rw [none]
    rfl
  · rw [readFraction?_padded (by decide) (by decide) (by omega) rfl]
    have value : nanoseconds / 1000000 * 10 ^ (9 - 3) = nanoseconds := by omega
    rw [value]
  · rw [readFraction?_padded (by decide) (by decide) (by omega) rfl]
    have value : nanoseconds / 1000 * 10 ^ (9 - 6) = nanoseconds := by omega
    rw [value]
  · rw [readFraction?_padded (by decide) (by decide) fits rfl, Nat.sub_self, Nat.pow_zero, Nat.mul_one]

/-- What follows the seconds of a text is no digit. -/
theorem exists_fractionChars_eq_cons (nanoseconds : Nat) : ∃ mark rest,
    fractionChars nanoseconds ++ ['Z'] = mark :: rest ∧ digitValue? mark = none := by
  unfold fractionChars
  split_ifs <;> exact ⟨_, _, rfl, rfl⟩

/-! ## Whole texts -/

namespace Instant

/-- An instant of the time line: its second is representable, and a leap second is at most one second long. -/
structure IsInRange (instant : Instant) : Prop where
  representable : isRepresentable instant.seconds = true
  nanoseconds_lt : instant.nanoseconds < 2000000000

/-- An instant that can be written: only the last second of a minute is followed by a leap second. -/
structure IsProper (instant : Instant) : Prop extends instant.IsInRange where
  leap : 1000000000 ≤ instant.nanoseconds → instant.seconds % 60 = 59

instance (instant : Instant) : Decidable instant.IsInRange :=
  decidable_of_iff (isRepresentable instant.seconds = true ∧ instant.nanoseconds < 2000000000)
    ⟨fun ⟨representable, lt⟩ => ⟨representable, lt⟩, fun range => ⟨range.representable, range.nanoseconds_lt⟩⟩

instance (instant : Instant) : Decidable instant.IsProper :=
  decidable_of_iff (instant.IsInRange ∧ (1000000000 ≤ instant.nanoseconds → instant.seconds % 60 = 59))
    ⟨fun ⟨range, leap⟩ => ⟨range, leap⟩, fun proper => ⟨proper.toIsInRange, proper.leap⟩⟩

/-- The parts of an instant that can be written make it up again. -/
theorem ofParts?_eq_some {instant : Instant} (proper : instant.IsProper) {second leap : Nat}
    (ofDay : second = (instant.seconds % 86400).toNat) (ofLeap : leap = instant.nanoseconds / 1000000000) :
    ofParts? (Date.ofDays (instant.seconds / 86400)) (second / 3600) (second / 60 % 60) (second % 60 + leap)
      (instant.nanoseconds % 1000000000) 0 = some instant := by
  have bounds := isRepresentable_iff.mp proper.representable
  have firstDay : -96465292 ≤ instant.seconds / 86400 := by omega
  have lastDay : instant.seconds / 86400 ≤ 95026236 := by omega
  have year := Date.year_ofDays_bounds firstDay lastDay
  have lt := proper.nanoseconds_lt
  have last := proper.leap
  have units : (Date.ofDays (instant.seconds / 86400)).isValid = true ∧
      -262143 ≤ (Date.ofDays (instant.seconds / 86400)).year ∧
      (Date.ofDays (instant.seconds / 86400)).year ≤ 262142 ∧
      second / 3600 < 24 ∧ second / 60 % 60 < 60 ∧ second % 60 + leap ≤ 60 :=
    ⟨Date.isValid_ofDays _, year.1, year.2, by omega, by omega, by omega⟩
  have whole : instant.seconds / 86400 * 86400 + (second / 3600 : Nat) * 3600 + (second / 60 % 60 : Nat) * 60 +
      (min (second % 60 + leap) 59 : Nat) - 0 = instant.seconds := by omega
  rw [ofParts?, if_pos units, Date.toDays_ofDays, whole, if_pos proper.representable]
  congr 2
  split <;> omega

/-- The instant of a text is found from its numbers, from left to right. -/
theorem ofChars?_parts {date : Date} {hour minute second nanoseconds : Nat} {instant : Instant}
    (month : date.month < 100) (day : date.day < 100) (hours : hour < 100) (minutes : minute < 100)
    (seconds : second < 100) (fits : nanoseconds < 1000000000)
    (made : ofParts? date hour minute second nanoseconds 0 = some instant) :
    ofChars? (yearChars date.year ++ '-' :: padded 2 date.month ++ '-' :: padded 2 date.day ++
      'T' :: padded 2 hour ++ ':' :: padded 2 minute ++ ':' :: padded 2 second ++
      fractionChars nanoseconds ++ ['Z']) = some instant := by
  rcases exists_fractionChars_eq_cons nanoseconds with ⟨mark, rest, front, ends⟩
  have fraction := readFraction?_fractionChars fits []
  rw [front] at fraction
  have hyphen : digitValue? '-' = none := rfl
  have letter : digitValue? 'T' = none := rfl
  have colon : digitValue? ':' = none := rfl
  simp only [List.append_assoc, List.cons_append, front]
  refine Option.bind_eq_some_iff.mpr ⟨_, readYear?_yearChars _ _, ?_⟩
  refine Option.bind_eq_some_iff.mpr ⟨_, readSeparator?_cons rfl _, ?_⟩
  refine Option.bind_eq_some_iff.mpr ⟨_, readNumber?_two month hyphen _, ?_⟩
  refine Option.bind_eq_some_iff.mpr ⟨_, readSeparator?_cons rfl _, ?_⟩
  refine Option.bind_eq_some_iff.mpr ⟨_, readNumber?_two day letter _, ?_⟩
  refine Option.bind_eq_some_iff.mpr ⟨_, readNumber?_two hours colon _, ?_⟩
  refine Option.bind_eq_some_iff.mpr ⟨_, readSeparator?_cons rfl _, ?_⟩
  refine Option.bind_eq_some_iff.mpr ⟨_, readNumber?_two minutes colon _, ?_⟩
  refine Option.bind_eq_some_iff.mpr ⟨_, readSeparator?_cons rfl _, ?_⟩
  refine Option.bind_eq_some_iff.mpr ⟨_, readNumber?_two seconds ends _, ?_⟩
  refine Option.bind_eq_some_iff.mpr ⟨_, fraction, ?_⟩
  exact made

theorem ofChars?_toChars {instant : Instant} (proper : instant.IsProper) :
    ofChars? instant.toChars = some instant := by
  have units := Date.lt_hundred_of_isValid (Date.isValid_ofDays (instant.seconds / 86400))
  have lt := proper.nanoseconds_lt
  exact ofChars?_parts units.1 units.2 (by omega) (by omega) (by omega) (by omega)
    (ofParts?_eq_some proper rfl rfl)

/-- An instant that can be written is what its text denotes. -/
theorem ofText?_text {instant : Instant} (proper : instant.IsProper) :
    ofText? instant.text = some instant := by
  rw [ofText?, text, String.toList_ofList, ofChars?_toChars proper]

example : Instant.text ⟨-62198755201, 1000000001⟩ = "-0002-12-31T23:59:60.000000001Z" := by
  decide +kernel

end Instant

/-! ## What a text denotes -/

/-- A fraction is below the unit of its first missing place. -/
theorem readFractionFrom_lt {value places : Nat} (lt : value < 10 ^ places) (missing : Nat) (text : List Char) :
    (readFractionFrom value missing text).1 < 10 ^ (places + missing) := by
  induction missing generalizing value places text with
  | zero => exact lt
  | succ missing ih =>
      have filled : value * Nat.pow 10 (missing + 1) < 10 ^ (places + (missing + 1)) := by
        rw [Nat.pow_add]
        exact Nat.mul_lt_mul_of_pos_right lt (Nat.pow_pos (by decide))
      cases text with
      | nil => exact filled
      | cons character rest =>
          rw [readFractionFrom]
          split
          next digit isDigit =>
            have small := lt_ten_of_digitValue? isDigit
            have longer : 10 * value + digit < 10 ^ (places + 1) := by
              rw [Nat.pow_succ]
              omega
            have more := ih longer rest
            rwa [Nat.add_assoc, Nat.add_comm 1 missing] at more
          · exact filled

theorem readFraction?_lt {text rest : List Char} {nanoseconds : Nat}
    (read : readFraction? text = some (nanoseconds, rest)) : nanoseconds < 1000000000 := by
  unfold readFraction? at read
  split at read
  · cases read
    decide
  · split at read
    · split at read
      · cases read
      · split at read
        next characters _ digit isDigit =>
          have one : digit < 10 ^ 1 := lt_ten_of_digitValue? isDigit
          have bound := readFractionFrom_lt one 8 characters
          rwa [Option.some.inj read] at bound
        · cases read
    · cases read
      decide

/-- The offset of a text has no seconds. -/
theorem readOffsetSize?_emod {text rest : List Char} {size : Nat}
    (read : readOffsetSize? text = some (size, rest)) : size % 60 = 0 := by
  unfold readOffsetSize? at read
  dsimp only at read
  repeat' split at read
  all_goals cases read
  omega

theorem readOffset?_emod {text rest : List Char} {offset : Int}
    (read : readOffset? text = some (offset, rest)) : offset % 60 = 0 := by
  have signed {text : List Char} (read : readOffset?.signed text = some (offset, rest)) : offset % 60 = 0 := by
    unfold readOffset?.signed at read
    split at read
    · cases read
    · split_ifs at read
      · cases read
        rfl
      · rcases Option.map_eq_some_iff.mp read with ⟨⟨size, _⟩, sized, same⟩
        have minutes := readOffsetSize?_emod sized
        cases same
        omega
      · rcases Option.map_eq_some_iff.mp read with ⟨⟨size, _⟩, sized, same⟩
        have minutes := readOffsetSize?_emod sized
        cases same
        omega
  unfold readOffset? at read
  split at read
  · split at read
    · cases read
      rfl
    · exact signed read
  · exact signed read

namespace Instant

theorem isProper_of_ofParts? {date : Date} {hour minute second nanoseconds : Nat} {offset : Int}
    {instant : Instant} (fits : nanoseconds < 1000000000) (minutes : offset % 60 = 0)
    (made : ofParts? date hour minute second nanoseconds offset = some instant) : instant.IsProper := by
  unfold ofParts? at made
  split at made
  next units =>
    dsimp only at made
    split at made
    next representable =>
      cases made
      have seconds := units.2.2.2.2.2
      refine ⟨⟨representable, ?_⟩, ?_⟩
      · dsimp only
        split <;> omega
      · dsimp only
        split <;> omega
    · cases made
  · cases made

theorem isProper_of_ofText? {text : String} {instant : Instant} (read : ofText? text = some instant) :
    instant.IsProper := by
  rw [ofText?, ofChars?] at read
  rcases Option.bind_eq_some_iff.mp read with ⟨⟨year, _⟩, _, read⟩
  rcases Option.bind_eq_some_iff.mp read with ⟨_, _, read⟩
  rcases Option.bind_eq_some_iff.mp read with ⟨⟨month, _⟩, _, read⟩
  rcases Option.bind_eq_some_iff.mp read with ⟨_, _, read⟩
  rcases Option.bind_eq_some_iff.mp read with ⟨⟨day, _⟩, _, read⟩
  dsimp only at read
  split at read
  · split at read
    · rcases Option.bind_eq_some_iff.mp read with ⟨_, _, read⟩
      rcases Option.bind_eq_some_iff.mp read with ⟨⟨hour, _⟩, _, read⟩
      rcases Option.bind_eq_some_iff.mp read with ⟨_, _, read⟩
      rcases Option.bind_eq_some_iff.mp read with ⟨⟨minute, _⟩, _, read⟩
      rcases Option.bind_eq_some_iff.mp read with ⟨_, _, read⟩
      rcases Option.bind_eq_some_iff.mp read with ⟨⟨second, _⟩, _, read⟩
      rcases Option.bind_eq_some_iff.mp read with ⟨⟨nanoseconds, _⟩, fraction, read⟩
      rcases Option.bind_eq_some_iff.mp read with ⟨⟨offset, _⟩, zone, read⟩
      dsimp only at read
      split at read
      · exact isProper_of_ofParts? (readFraction?_lt fraction) (readOffset?_emod zone) read
      · cases read
    · cases read
  · cases read

/-! ## Leap seconds in the middle of a minute -/

/-- The instant that a text of this one denotes: out of a leap second in the middle of a minute, as far into the next
second. -/
def carry (instant : Instant) : Instant :=
  if 1000000000 ≤ instant.nanoseconds ∧ instant.seconds % 60 ≠ 59 then
    { seconds := instant.seconds + 1, nanoseconds := instant.nanoseconds - 1000000000 }
  else instant

/-- Nothing is carried into another minute, so hour and day are those of before. -/
theorem toChars_carry (instant : Instant) : instant.carry.toChars = instant.toChars := by
  unfold carry
  split
  next carried =>
    have day : (instant.seconds + 1) / 86400 = instant.seconds / 86400 := by omega
    have hour : ((instant.seconds + 1) % 86400).toNat / 3600 = (instant.seconds % 86400).toNat / 3600 := by omega
    have minute : ((instant.seconds + 1) % 86400).toNat / 60 % 60 =
        (instant.seconds % 86400).toNat / 60 % 60 := by omega
    have second : ((instant.seconds + 1) % 86400).toNat % 60 + (instant.nanoseconds - 1000000000) / 1000000000 =
        (instant.seconds % 86400).toNat % 60 + instant.nanoseconds / 1000000000 := by omega
    have fraction : (instant.nanoseconds - 1000000000) % 1000000000 = instant.nanoseconds % 1000000000 := by omega
    simp only [toChars, day, hour, minute, second, fraction]
  · rfl

theorem text_carry (instant : Instant) : instant.carry.text = instant.text :=
  congrArg String.ofList instant.toChars_carry

theorem isProper_carry {instant : Instant} (range : instant.IsInRange) : instant.carry.IsProper := by
  have bounds := isRepresentable_iff.mp range.representable
  have lt := range.nanoseconds_lt
  unfold carry
  split
  next carried =>
    -- The last representable second is the last of a minute, so nothing is carried out of the time line.
    have next : isRepresentable (instant.seconds + 1) = true := isRepresentable_iff.mpr (by omega)
    have short : instant.nanoseconds - 1000000000 < 1000000000 := by omega
    exact ⟨⟨next, short.trans (by decide)⟩, fun leap => absurd leap short.not_ge⟩
  next whole =>
    exact ⟨range, fun leap => Decidable.not_not.mp fun middle => whole ⟨leap, middle⟩⟩

end Instant
end Time
end TokenAuthority
