import Mathlib.Data.List.Nodup
import TokenAuthority.Json.Record
import TokenAuthority.Proofs.Failure
import TokenAuthority.Proofs.Json.RoundTrip

/-!
# Records written as objects

A record is written as an object that has a member for each field with a value.  When the names of the
fields are distinct, reading gives each field what was written for it, and nothing to a field without a
value.  Further lemmas hold of any document: a list is dealt out whole, an object gives to each field what
it gives to the name, and where a name stands once, the reader of records and the look up of the last value
of a name agree.
-/

namespace TokenAuthority
namespace Json

/-- The members for those names that have a value, in order. -/
def sparse (slots : List (String × Option Json)) : List (String × Json) :=
  slots.flatMap fun slot => member? slot.1 slot.2

theorem sparse_cons (name : String) (value : Option Json) (slots : List (String × Option Json)) :
    sparse ((name, value) :: slots) = member? name value ++ sparse slots :=
  rfl

theorem filter_member?_of_ne {name other : String} (different : other ≠ name) (value : Option Json) :
    ((member? other value).filter fun member => member.1 == name) = [] := by
  have unlike : (other == name) = false := beq_false_of_ne different
  cases value with
  | none => rfl
  | some value => simp only [member?, List.filter_cons, unlike, Bool.false_eq_true, if_false,
      List.filter_nil]

theorem filter_sparse_of_not_mem {name : String} {slots : List (String × Option Json)}
    (absent : name ∉ slots.map Prod.fst) :
    ((sparse slots).filter fun member => member.1 == name) = [] := by
  induction slots with
  | nil => rfl
  | cons slot slots ih =>
      rcases slot with ⟨other, value⟩
      rw [List.map_cons] at absent
      have parts := List.ne_and_not_mem_of_not_mem_cons absent
      rw [sparse_cons, List.filter_append, ih parts.2, filter_member?_of_ne (Ne.symm parts.1)]
      rfl

/-- What an object gives to a name is read off the values of that name. -/
theorem onlyMember?_eq_some_iff {members : List (String × Json)} {name : String} {slot : Option Json} :
    onlyMember? members name = some slot ↔
      (members.filter fun member => member.1 == name).map Prod.snd = slot.toList := by
  unfold onlyMember?
  split
  next empty =>
    have none : (members.filter fun member => member.1 == name) = [] := empty
    rw [none]
    cases slot <;> simp
  next value single =>
    have one : (members.filter fun member => member.1 == name) = [(_, value)] := single
    rw [one]
    cases slot <;> simp
  next notEmpty notSingle =>
    constructor
    · intro same
      cases same
    · intro same
      cases slot with
      | none => exact absurd (List.map_eq_nil_iff.mp same) notEmpty
      | some value =>
          rcases List.map_eq_singleton_iff.mp same with ⟨⟨key, other⟩, one, _⟩
          exact absurd one (notSingle key other)

theorem map_snd_member? (name : String) (value : Option Json) :
    (member? name value).map Prod.snd = value.toList := by
  cases value <;> rfl

/-- A name without a field is absent. -/
theorem onlyMember?_sparse_of_not_mem {name : String} {slots : List (String × Option Json)}
    (absent : name ∉ slots.map Prod.fst) : onlyMember? (sparse slots) name = some none := by
  rw [onlyMember?_eq_some_iff, filter_sparse_of_not_mem absent]
  rfl

theorem filter_sparse {name : String} {value : Option Json} {slots : List (String × Option Json)}
    (distinct : (slots.map Prod.fst).Nodup) (listed : (name, value) ∈ slots) :
    ((sparse slots).filter fun member => member.1 == name) = member? name value := by
  induction slots with
  | nil => cases listed
  | cons slot slots ih =>
      rcases slot with ⟨other, first⟩
      rw [List.map_cons, List.nodup_cons] at distinct
      rw [sparse_cons, List.filter_append]
      rcases List.mem_cons.mp listed with same | later
      · rw [Prod.mk.injEq] at same
        rcases same with ⟨rfl, rfl⟩
        rw [filter_sparse_of_not_mem distinct.1, List.append_nil]
        cases value with
        | none => rfl
        | some value => simp [member?]
      · have different : other ≠ name := by
          rintro rfl
          exact distinct.1 (List.mem_map.mpr ⟨(other, value), later, rfl⟩)
        rw [filter_member?_of_ne different, ih distinct.2 later, List.nil_append]

/-- A field is read as what was written for it. -/
theorem onlyMember?_sparse {name : String} {value : Option Json} {slots : List (String × Option Json)}
    (distinct : (slots.map Prod.fst).Nodup) (listed : (name, value) ∈ slots) :
    onlyMember? (sparse slots) name = some value := by
  rw [onlyMember?_eq_some_iff, filter_sparse distinct listed, map_snd_member?]

/-- The fields of a record are what an object gives to their names. -/
theorem fields?_of_onlyMember? {members : List (String × Json)} {fields : List Field}
    {slots : List (String × Option Json)} (names : fields.map Field.name = slots.map Prod.fst)
    (given : ∀ slot ∈ slots, onlyMember? members slot.1 = some slot.2) :
    (Json.object members).fields? fields = some (slots.map Prod.snd) := by
  rw [fields?]
  induction slots generalizing fields with
  | nil =>
      rw [List.map_eq_nil_iff.mp names]
      rfl
  | cons slot slots ih =>
      rcases List.map_eq_cons_iff.mp names with ⟨field, others, rfl, first, rest⟩
      have tail := ih rest fun other member => given other (List.mem_cons_of_mem slot member)
      rw [List.mapM_cons, first, given slot List.mem_cons_self, tail]
      rfl

/-- A record is read as what was written for its fields. -/
theorem fields?_sparse {fields : List Field} {slots : List (String × Option Json)}
    (names : fields.map Field.name = slots.map Prod.fst) (distinct : (slots.map Prod.fst).Nodup) :
    (Json.object (sparse slots)).fields? fields = some (slots.map Prod.snd) :=
  fields?_of_onlyMember? names fun _ listed => onlyMember?_sparse distinct listed

/-- What an object gives to the fields of a record is what it gives to their names. -/
theorem map_onlyMember?_of_fields? {members : List (String × Json)} {fields : List Field}
    {values : List (Option Json)} (given : (Json.object members).fields? fields = some values) :
    fields.map (fun field => onlyMember? members field.name) = values.map some := by
  rw [fields?] at given
  induction fields generalizing values with
  | nil =>
      rw [← Option.some.inj given]
      rfl
  | cons field fields ih =>
      rw [List.mapM_cons] at given
      rcases Option.bind_eq_some_iff.mp given with ⟨first, head, others⟩
      rcases Option.bind_eq_some_iff.mp others with ⟨rest, tail, same⟩
      rw [List.map_cons, head, ih tail, ← Option.some.inj same, List.map_cons]

/-- A list gives its items to fields without defaults when there are as many of them. -/
theorem dealItems?_of_required {fields : List Field}
    (required : ∀ field ∈ fields, field.hasDefault = false) (items : List Json) :
    dealItems? fields items = if fields.length = items.length then some (items.map some) else none := by
  induction fields generalizing items with
  | nil => cases items <;> rfl
  | cons field fields ih =>
      have others := ih fun other member => required other (List.mem_cons_of_mem field member)
      cases items with
      | nil =>
          rw [dealItems?, required field List.mem_cons_self]
          rfl
      | cons item items =>
          rw [dealItems?, others, List.length_cons, List.length_cons]
          by_cases same : fields.length = items.length
          · rw [if_pos same, if_pos (congrArg Nat.succ same)]
            rfl
          · rw [if_neg same, if_neg (same ∘ Nat.succ.inj)]
            rfl

/-- What an object gives to fields depends only on the members with their names. -/
theorem fields?_congr {left right : List (String × Json)} {fields : List Field}
    (same : ∀ field ∈ fields, onlyMember? left field.name = onlyMember? right field.name) :
    (object left).fields? fields = (object right).fields? fields := by
  rw [fields?, fields?]
  induction fields with
  | nil => rfl
  | cons field fields ih =>
      rw [List.mapM_cons, List.mapM_cons, same field List.mem_cons_self,
        ih fun other member => same other (List.mem_cons_of_mem field member)]

/-- A field among others is given its own member. -/
theorem fields?_append_cons (members : List (String × Json)) (before : List Field) (field : Field)
    (after : List Field) :
    (object members).fields? (before ++ field :: after) =
      ((object members).fields? before).bind fun first =>
        ((object members).fields? after).bind fun last =>
          (onlyMember? members field.name).map fun slot => first ++ slot :: last := by
  rw [fields?, fields?, fields?, List.mapM_append, List.mapM_cons]
  cases before.mapM fun field => onlyMember? members field.name with
  | none => rfl
  | some first =>
      cases onlyMember? members field.name <;>
        cases after.mapM fun field => onlyMember? members field.name <;> rfl

theorem length_of_fields? {members : List (String × Json)} {fields : List Field}
    {slots : List (Option Json)} (given : (object members).fields? fields = some slots) :
    slots.length = fields.length := by
  have sized := congrArg List.length (map_onlyMember?_of_fields? given)
  rw [List.length_map, List.length_map] at sized
  exact sized.symm

/-- Where a name stands once or not at all, its last value is its only one. -/
theorem get?_of_onlyMember? {members : List (String × Json)} {name : String} {slot : Option Json}
    (only : onlyMember? members name = some slot) : (Json.object members).get? name = slot := by
  have last : (Json.object members).get? name =
      (members.filter fun member => member.1 == name).getLast?.map Prod.snd := by
    rw [get?, ← List.head?_filter, List.filter_reverse, List.head?_reverse]
  rw [last, ← List.getLast?_map, onlyMember?_eq_some_iff.mp only]
  cases slot <;> rfl

/-- A record is determined by its text if the value of each field is. -/
theorem isWritable_sparse {slots : List (String × Option Json)}
    (writable : ∀ slot ∈ slots, ∀ value ∈ slot.2, value.isWritable = true) :
    (Json.object (sparse slots)).isWritable = true := by
  rw [isWritable]
  induction slots with
  | nil => rfl
  | cons slot slots ih =>
      rcases slot with ⟨name, value⟩
      have others := ih fun other member => writable other (List.mem_cons_of_mem (name, value) member)
      rw [sparse_cons, areMembersWritable_append, others, Bool.and_true]
      cases value with
      | none => rfl
      | some value =>
          have first := writable (name, some value) List.mem_cons_self value rfl
          rw [member?, areMembersWritable, first]
          rfl

/-! ## Values of fields -/

@[simp] theorem optional?_string (value : Option String) :
    optional? asString? (value.map Json.string) = some value := by
  cases value <;> rfl

theorem optional?_stringOrNull (value : Option String) :
    optional? asString? (some (stringOrNull value)) = some value := by
  cases value <;> rfl

theorem isWritable_stringOrNull (value : Option String) : (stringOrNull value).isWritable = true := by
  cases value <;> rfl

@[simp] theorem asStrings?_strings (values : List String) : asStrings? (strings values) = some values :=
  mapM_map_of_read fun _ _ => rfl

theorem asInt64?_integer {value : Int} (signed : IsSigned64 value) :
    asInt64? (.integer value) = some value :=
  if_pos signed

theorem optional?_int64 {value : Option Int} (signed : ∀ number ∈ value, IsSigned64 number) :
    optional? asInt64? (value.map Json.integer) = some value := by
  cases value with
  | none => rfl
  | some number =>
      rw [Option.map_some, optional?, orNull?, asInt64?_integer (signed number rfl)]
      · rfl
      · exact nofun

theorem isSigned64_of_asInt64? {document : Json} {value : Int} (read : asInt64? document = some value) :
    IsSigned64 value := by
  unfold asInt64? at read
  split at read
  · split at read
    next signed => exact Option.some.inj read ▸ signed
    · cases read
  · cases read

theorem isSigned64_of_optional? {slot : Option Json} {value : Option Int}
    (read : optional? asInt64? slot = some value) : ∀ number ∈ value, IsSigned64 number := by
  rintro number rfl
  unfold optional? orNull? at read
  split at read
  · cases read
  · split at read
    · cases read
    · rcases Option.map_eq_some_iff.mp read with ⟨other, isNumber, same⟩
      exact Option.some.inj same ▸ isSigned64_of_asInt64? isNumber

end Json
end TokenAuthority
