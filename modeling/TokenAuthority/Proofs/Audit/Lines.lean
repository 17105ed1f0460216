import TokenAuthority.Audit.Sink
import TokenAuthority.Proofs.Json.Records
import TokenAuthority.Proofs.Text.Identifiers
import TokenAuthority.Proofs.Text.Separators
import TokenAuthority.Proofs.Time.Rfc3339

/-!
# The lines of audit events

The events that a sink keeps are written one a line.  No text in an event can break out of its line: the line feed
and the other controls are escaped inside quotes, and what stands outside of quotes is punctuation, digits and
letters.  So there are as many lines as events, whatever the events hold, and each of them stands for one event.

A line is read back as its event, to the nanosecond of both times, if these can be written at all.  Of the times on
the time line only those cannot that have a leap second in the middle of a minute.  No text denotes such a time, but
an event can be made with one.  Its line is that of the event with as much of the next second in its place, and is
read as this other event.
-/

namespace TokenAuthority

/-! ## Documents on one line -/

namespace Json

/-- Characters that are no controls of ASCII, so no line feeds either. -/
def AreVisible (text : List Char) : Prop :=
  ∀ character ∈ text, 0x20 ≤ character.toNat

instance (text : List Char) : Decidable (AreVisible text) :=
  List.decidableBAll (fun character : Char => 0x20 ≤ character.toNat) text

theorem areVisible_append {left right : List Char} (first : AreVisible left) (second : AreVisible right) :
    AreVisible (left ++ right) :=
  List.forall_mem_append.mpr ⟨first, second⟩

theorem areVisible_cons {character : Char} {text : List Char} (first : 0x20 ≤ character.toNat)
    (rest : AreVisible text) : AreVisible (character :: text) :=
  List.forall_mem_cons.mpr ⟨first, rest⟩

theorem AreVisible.not_mem_newline {text : List Char} (visible : AreVisible text) : '\n' ∉ text :=
  fun member => absurd (visible '\n' member) (by decide)

theorem areVisible_hexDigits : ∀ code < 0x20,
    AreVisible ['\\', 'u', '0', '0', hexDigit (code / 16), hexDigit (code % 16)] := by
  decide

/-- A control is written by other characters. -/
theorem areVisible_escapeChar (character : Char) : AreVisible (escapeChar character) := by
  unfold escapeChar
  split_ifs with quote backslash visible
  any_goals decide
  · exact areVisible_cons visible (by decide)
  · exact areVisible_hexDigits character.toNat (Nat.lt_of_not_le visible)

theorem areVisible_quoteChars (value : String) : AreVisible (quoteChars value) := by
  refine areVisible_append (areVisible_cons (by decide) ?_) (by decide)
  intro other member
  rcases List.mem_flatMap.mp member with ⟨character, _, escaped⟩
  exact areVisible_escapeChar character other escaped

theorem areVisible_naturalChars (value : Nat) : AreVisible (naturalChars value) := by
  intro character member
  have digit := Nat.isDigit_of_mem_toDigits (by decide) (by decide) member
  rw [Char.isDigit, Bool.and_eq_true, decide_eq_true_eq, decide_eq_true_eq] at digit
  have first : 48 ≤ character.toNat := digit.1
  omega

theorem areVisible_integerChars (value : Int) : AreVisible (integerChars value) := by
  unfold integerChars
  split
  · exact areVisible_naturalChars _
  · exact areVisible_cons (by decide) (areVisible_naturalChars _)

section

variable {mark : Char} (visible : 0x20 ≤ mark.toNat) {value rest : List Char} (first : AreVisible value)
  (others : AreVisible rest)

include visible first others

theorem areVisible_item : AreVisible (mark :: value ++ rest) :=
  areVisible_append (areVisible_cons visible first) others

theorem areVisible_member (name : String) : AreVisible (mark :: quoteChars name ++ ':' :: value ++ rest) :=
  areVisible_append (areVisible_item visible (areVisible_quoteChars name) (areVisible_cons (by decide) first))
    others

end

mutual

/-- What is written for a document has no controls, whatever strings it holds. -/
theorem areVisible_compactChars : ∀ document : Json, document.isWritable = true →
    AreVisible document.compactChars
  | .null, _ => by rw [compactChars]; decide
  | .bool true, _ => by rw [compactChars]; decide
  | .bool false, _ => by rw [compactChars]; decide
  | .integer value, _ => by
      rw [compactChars]
      exact areVisible_integerChars value
  | .string value, _ => by
      rw [compactChars]
      exact areVisible_quoteChars value
  | .array [], _ => by rw [compactChars]; decide
  | .array (item :: items), writable => by
      rw [isWritable, areItemsWritable, Bool.and_eq_true] at writable
      rw [compactChars]
      exact areVisible_item (by decide) (areVisible_compactChars item writable.1)
        (areVisible_compactItems items writable.2)
  | .object [], _ => by rw [compactChars]; decide
  | .object ((name, value) :: members), writable => by
      rw [isWritable, areMembersWritable, Bool.and_eq_true] at writable
      rw [compactChars]
      exact areVisible_member (by decide) (areVisible_compactChars value writable.1)
        (areVisible_compactMembers members writable.2) name
  | .real _, writable => by cases writable
  | .unreadable _, writable => by cases writable

theorem areVisible_compactItems : ∀ items : List Json, areItemsWritable items = true →
    AreVisible (compactItems items)
  | [], _ => by rw [compactItems]; decide
  | item :: items, writable => by
      rw [areItemsWritable, Bool.and_eq_true] at writable
      rw [compactItems]
      exact areVisible_item (by decide) (areVisible_compactChars item writable.1)
        (areVisible_compactItems items writable.2)

theorem areVisible_compactMembers : ∀ members : List (String × Json), areMembersWritable members = true →
    AreVisible (compactMembers members)
  | [], _ => by rw [compactMembers]; decide
  | (name, value) :: members, writable => by
      rw [areMembersWritable, Bool.and_eq_true] at writable
      rw [compactMembers]
      exact areVisible_member (by decide) (areVisible_compactChars value writable.1)
        (areVisible_compactMembers members writable.2) name

end

end Json

namespace Audit

/-! ## Events read back -/

namespace Event

/-- What is written for each member, in order. -/
def slots (event : Event) : List (String × Option Json) :=
  [("id", some (.string event.id.text)), ("timestamp", some (.string event.timestamp.text)),
    ("action", some (.string event.action)), ("principal", some (Json.stringOrNull event.principal)),
    ("token_type", some (.string event.tokenType)), ("scope", some (Json.strings event.scope)),
    ("expires_at", some (.string event.expiresAt.text)),
    ("client_id", some (Json.stringOrNull event.clientId)),
    ("grant_type", some (Json.stringOrNull event.grantType))]

theorem toJson_eq_sparse (event : Event) : event.toJson = .object (Json.sparse event.slots) :=
  rfl

theorem names_slots (event : Event) : event.slots.map Prod.fst = fields.map Json.Field.name :=
  rfl

/-- Each member is read as what was written for it. -/
theorem fields?_toJson (event : Event) :
    event.toJson.fields? fields = some (event.slots.map Prod.snd) := by
  have distinct : (event.slots.map Prod.fst).Nodup := by
    rw [names_slots]
    decide
  rw [toJson_eq_sparse]
  exact Json.fields?_sparse event.names_slots.symm distinct

theorem isWritable_toJson (event : Event) : event.toJson.isWritable = true := by
  rw [toJson_eq_sparse]
  apply Json.isWritable_sparse
  intro slot listed
  simp only [slots, List.mem_cons, List.not_mem_nil, or_false] at listed
  rcases listed with rfl | rfl | rfl | rfl | rfl | rfl | rfl | rfl | rfl
  all_goals rintro _ ⟨⟩
  all_goals first
    | exact Json.isWritable_strings _
    | exact Json.isWritable_stringOrNull _
    | rfl

/-- Both times of an event are on the time line. -/
structure HasTimesInRange (event : Event) : Prop where
  timestamp : event.timestamp.IsInRange
  expiresAt : event.expiresAt.IsInRange

/-- Both times of an event can be written. -/
structure HasProperTimes (event : Event) : Prop where
  timestamp : event.timestamp.IsProper
  expiresAt : event.expiresAt.IsProper

/-- The event without leap seconds in the middle of a minute: such a time is as far into the next second. -/
def carry (event : Event) : Event :=
  { event with timestamp := event.timestamp.carry, expiresAt := event.expiresAt.carry }

theorem hasProperTimes_carry {event : Event} (times : event.HasTimesInRange) : event.carry.HasProperTimes :=
  ⟨Time.Instant.isProper_carry times.timestamp, Time.Instant.isProper_carry times.expiresAt⟩

theorem toJson_carry (event : Event) : event.carry.toJson = event.toJson := by
  have timestamp : event.carry.timestamp.text = event.timestamp.text := event.timestamp.text_carry
  have expiresAt : event.carry.expiresAt.text = event.expiresAt.text := event.expiresAt.text_carry
  rw [toJson, toJson, timestamp, expiresAt]
  rfl

theorem ofJson?_toJson {event : Event} (times : event.HasProperTimes) : ofJson? event.toJson = some event := by
  have id : Json.required? identifierOf? (some (.string event.id.text)) = some event.id := by
    rw [Json.required?, Option.bind_some, identifierOf?, Json.asString?, Option.bind_some, Uuid.ofText?_text]
  have instant {time : Time.Instant} (proper : time.IsProper) :
      Json.required? instantOf? (some (.string time.text)) = some time := by
    rw [Json.required?, Option.bind_some, instantOf?, Json.asString?, Option.bind_some,
      Time.Instant.ofText?_text proper]
  have scope : Json.required? Json.asStrings? (some (Json.strings event.scope)) = some event.scope :=
    Json.asStrings?_strings event.scope
  have text (value : String) : Json.required? Json.asString? (some (.string value)) = some value := rfl
  have values : event.slots.map Prod.snd = [some (.string event.id.text), some (.string event.timestamp.text),
      some (.string event.action), some (Json.stringOrNull event.principal), some (.string event.tokenType),
      some (Json.strings event.scope), some (.string event.expiresAt.text),
      some (Json.stringOrNull event.clientId), some (Json.stringOrNull event.grantType)] := rfl
  rw [ofJson?, fields?_toJson, values]
  dsimp only [Option.bind_eq_bind, Option.bind_some]
  rw [id, instant times.timestamp, text event.action, Json.optional?_stringOrNull event.principal,
    text event.tokenType, scope, instant times.expiresAt, Json.optional?_stringOrNull event.clientId,
    Json.optional?_stringOrNull event.grantType]
  rfl

/-- An event that is read has times that can be written. -/
theorem hasProperTimes_of_ofJson? {document : Json} {event : Event} (read : ofJson? document = some event) :
    event.HasProperTimes := by
  have proper {slot : Option Json} {instant : Time.Instant}
      (given : Json.required? instantOf? slot = some instant) : instant.IsProper := by
    rcases Option.bind_eq_some_iff.mp given with ⟨document, _, isInstant⟩
    rcases Option.bind_eq_some_iff.mp isInstant with ⟨text, _, denoted⟩
    exact Time.Instant.isProper_of_ofText? denoted
  unfold ofJson? at read
  rcases Option.bind_eq_some_iff.mp read with ⟨values, _, read⟩
  split at read
  · rcases Option.bind_eq_some_iff.mp read with ⟨_, _, read⟩
    rcases Option.bind_eq_some_iff.mp read with ⟨timestamp, isTimestamp, read⟩
    iterate 4 rcases Option.bind_eq_some_iff.mp read with ⟨_, _, read⟩
    rcases Option.bind_eq_some_iff.mp read with ⟨expiresAt, isExpiresAt, read⟩
    iterate 2 rcases Option.bind_eq_some_iff.mp read with ⟨_, _, read⟩
    cases read
    exact ⟨proper isTimestamp, proper isExpiresAt⟩
  · cases read

/-- The event of a line without its end. -/
def ofText? (text : String) : Option Event :=
  (Json.ofText? text).bind ofJson?

/-- A line is read as its event exactly if the times of the event can be written. -/
theorem ofText?_compact_iff {event : Event} :
    ofText? event.toJson.compact = some event ↔ event.HasProperTimes := by
  rw [ofText?, Json.ofText?_compact _ event.isWritable_toJson, Option.bind_some]
  exact ⟨hasProperTimes_of_ofJson?, ofJson?_toJson⟩

/-- The line of any event is read as the event after its carry. -/
theorem ofText?_compact {event : Event} (times : event.HasTimesInRange) :
    ofText? event.toJson.compact = some event.carry := by
  rw [← toJson_carry]
  exact ofText?_compact_iff.mpr (hasProperTimes_carry times)

end Event

/-! ## All lines -/

theorem toList_line (event : Event) : event.line.toList = event.toJson.compactChars ++ ['\n'] := by
  rw [Event.line, String.toList_append, Json.compact, String.toList_ofList]
  rfl

theorem toList_lines_cons (event : Event) (events : List Event) :
    (lines (event :: events)).toList = event.toJson.compactChars ++ '\n' :: (lines events).toList := by
  rw [lines, List.map_cons, String.join_cons, String.toList_append, toList_line, List.append_assoc]
  rfl

/-- Between the line feeds stand the documents of the events, and nothing after the last one. -/
theorem splitAll_lines (events : List Event) :
    Text.splitAll '\n' (lines events) = events.map (fun event => event.toJson.compact) ++ [""] := by
  induction events with
  | nil => rfl
  | cons event events ih =>
      have oneLine := (Json.areVisible_compactChars event.toJson event.isWritable_toJson).not_mem_newline
      rw [Text.splitAll, toList_lines_cons, Text.splitAllChars_append oneLine, List.map_cons]
      exact congrArg _ ih

namespace Sink

/-- A sink that keeps events holds those that it was offered, in their order. -/
theorem foldl_offer_memory (events published : List Event) :
    published.foldl offer (memory events) = memory (events ++ published) := by
  induction published generalizing events with
  | nil => rw [List.foldl_nil, List.append_nil]
  | cons event published ih =>
      have kept : (memory events).offer event = memory (events ++ [event]) := rfl
      rw [List.foldl_cons, kept, ih, List.append_assoc, List.singleton_append]

end Sink

/-- Events that are published one after the other are written on as many lines, each with its end, whatever the
events hold.  The line of an event is read as this event exactly if its times can be written, and otherwise as the
event that has each leap second in the middle of a minute replaced by the second after it. -/
theorem lines_of_published (events : List Event) :
    ∃ texts, Text.splitAll '\n' (lines (events.foldl Sink.offer (.memory [])).events) = texts ++ [""] ∧
      texts.length = events.length ∧
      List.Forall₂ (fun text event =>
        (Event.ofText? text = some event ↔ event.HasProperTimes) ∧
        (event.HasTimesInRange → Event.ofText? text = some event.carry)) texts events := by
  refine ⟨events.map fun event => event.toJson.compact, ?_, List.length_map _, ?_⟩
  · rw [Sink.foldl_offer_memory, List.nil_append]
    exact splitAll_lines events
  · rw [List.forall₂_map_left_iff]
    exact List.forall₂_same.mpr fun event _ => ⟨Event.ofText?_compact_iff, Event.ofText?_compact⟩

/-- An event in a leap second, with texts that look like the ends of lines, strings and documents. -/
def hostile : Event where
  id := ⟨1⟩
  timestamp := ⟨59, 1000000001⟩
  action := "\n\"\x7d\n"
  principal := some "null"
  tokenType := ""
  scope := ["a\r\nb", "\\n"]
  expiresAt := ⟨-1, 500000000⟩
  clientId := none
  grantType := some "\u0000"

/-- The event in a leap second that follows the second 30 of a minute. -/
def midMinute : Event :=
  { hostile with timestamp := ⟨30, 1500000000⟩ }

theorem hasTimesInRange_midMinute : midMinute.HasTimesInRange :=
  ⟨by decide, by decide⟩

theorem midMinute_ne_carry : midMinute ≠ midMinute.carry := by
  intro same
  exact absurd (congrArg Event.timestamp same) (by decide)

theorem lines_of_published_hostile :
    ∃ first second,
      Text.splitAll '\n' (lines ([hostile, midMinute].foldl Sink.offer (.memory [])).events) =
        [first, second, ""] ∧
      Event.ofText? first = some hostile ∧ Event.ofText? second = some midMinute.carry := by
  have times : hostile.HasProperTimes := ⟨by decide, by decide⟩
  rcases lines_of_published [hostile, midMinute] with ⟨texts, split, _, read⟩
  rcases read with _ | ⟨first, _ | ⟨second, _ | _⟩⟩
  exact ⟨_, _, split, first.1.mpr times, second.2 hasTimesInRange_midMinute⟩

/-- Two events with times on the time line are written on one and the same line, so no reader tells them apart. -/
theorem exists_lines_eq_of_ne :
    ∃ first second : Event, first.HasTimesInRange ∧ second.HasTimesInRange ∧ first ≠ second ∧
      lines ([first].foldl Sink.offer (.memory [])).events =
        lines ([second].foldl Sink.offer (.memory [])).events ∧
      Event.ofText? first.toJson.compact = some second := by
  have times := hasTimesInRange_midMinute
  have proper := Event.hasProperTimes_carry times
  refine ⟨midMinute, midMinute.carry, times, ⟨proper.timestamp.toIsInRange, proper.expiresAt.toIsInRange⟩,
    midMinute_ne_carry, ?_, Event.ofText?_compact times⟩
  have same : midMinute.carry.line = midMinute.line := by
    rw [Event.line, Event.line, Event.toJson_carry]
  rw [Sink.foldl_offer_memory, Sink.foldl_offer_memory]
  exact congrArg (fun line => String.join [line]) same.symm

end Audit
end TokenAuthority
