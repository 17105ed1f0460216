import Mathlib.Data.List.Nodup
import TokenAuthority.CommandLine.Invocation
import TokenAuthority.Proofs.Text.Separators

/-!
# Words that are taken apart

The options of a command can be written so that each value is joined to its option, and the operand after two
hyphens.  Whatever the values hold, they cannot be taken for anything else then, and the options and the
operand are found again.

A check is therefore asked for by words, whatever its token, its permission and its names are, provided that
a source has its subject and a subject has its project.  None of them is lost, and none stands for another.
-/

namespace TokenAuthority
namespace CommandLine

/-- The word of an option with its value. -/
def optionWord (name value : String) : String :=
  "--" ++ name ++ "=" ++ value

namespace Words

/-- The options that have a value. -/
def given (slots : List (String × Option String)) : List (String × String) :=
  slots.filterMap fun (name, value) => value.map fun value => (name, value)

theorem given_cons (name : String) (value : Option String) (slots : List (String × Option String)) :
    given ((name, value) :: slots) = (value.map fun value => (name, value)).toList ++ given slots := by
  cases value <;> rfl

theorem name_mem_of_mem_given {slots : List (String × Option String)} {name : String}
    (member : name ∈ (given slots).map Prod.fst) : name ∈ slots.map Prod.fst := by
  rcases List.mem_map.mp member with ⟨pair, listed, rfl⟩
  rcases List.mem_filterMap.mp listed with ⟨⟨name, value⟩, slot, present⟩
  rcases Option.map_eq_some_iff.mp present with ⟨text, _, rfl⟩
  exact List.mem_map_of_mem slot

theorem nodup_given {slots : List (String × Option String)} (distinct : (slots.map Prod.fst).Nodup) :
    ((given slots).map Prod.fst).Nodup := by
  induction slots with
  | nil => exact List.nodup_nil
  | cons slot slots ih =>
      rcases slot with ⟨name, value⟩
      rw [List.map_cons, List.nodup_cons] at distinct
      rw [given_cons]
      cases value with
      | none => exact ih distinct.2
      | some value => exact List.nodup_cons.mpr ⟨mt name_mem_of_mem_given distinct.1, ih distinct.2⟩

theorem values_eq_nil_iff {words : Words} {name : String} :
    words.values name = [] ↔ name ∉ words.options.map Prod.fst := by
  simp only [values, List.map_eq_nil_iff, List.filter_eq_nil_iff, beq_iff_eq, List.mem_map, not_exists,
    not_and]

theorem has_eq_false_iff {words : Words} {name : String} :
    words.has name = false ↔ name ∉ words.options.map Prod.fst := by
  rw [← values_eq_nil_iff, has, value?, Option.isSome_eq_false_iff, Option.isNone_iff_eq_none,
    List.head?_eq_none_iff]

theorem values_cons (other value name : String) (options : List (String × String)) :
    values { options := (other, value) :: options } name =
      if other = name then value :: values { options } name else values { options } name := by
  by_cases same : other = name <;> simp [values, same]

/-- An option has the value in its slot and no other. -/
theorem values_given {slots : List (String × Option String)} (distinct : (slots.map Prod.fst).Nodup)
    {name : String} {value : Option String} (listed : (name, value) ∈ slots) :
    values { options := given slots } name = value.toList := by
  induction slots with
  | nil => cases listed
  | cons slot slots ih =>
      rcases slot with ⟨other, first⟩
      rw [List.map_cons, List.nodup_cons] at distinct
      rw [given_cons]
      rcases List.mem_cons.mp listed with same | later
      · cases same
        have missing : values { options := given slots } name = [] :=
          values_eq_nil_iff.mpr (mt name_mem_of_mem_given distinct.1)
        cases value with
        | none => exact missing
        | some value =>
            change values { options := (name, value) :: given slots } name = [value]
            rw [values_cons, if_pos rfl, missing]
      · have different : other ≠ name := by
          rintro rfl
          exact distinct.1 (List.mem_map.mpr ⟨(other, value), later, rfl⟩)
        cases first with
        | none => exact ih distinct.2 later
        | some first =>
            change values { options := (other, first) :: given slots } name = _
            rw [values_cons, if_neg different]
            exact ih distinct.2 later

/-- The value of an option is the one in its slot. -/
theorem value?_given {slots : List (String × Option String)} (distinct : (slots.map Prod.fst).Nodup)
    {words : Words} (options : words.options = given slots) {name : String} {value : Option String}
    (listed : (name, value) ∈ slots) : words.value? name = value := by
  have found : words.values name = value.toList := by
    rw [← values_given distinct listed, values, options]
    rfl
  rw [value?, found]
  cases value <;> rfl

/-! ## Taking the words -/

/-- The rules know an option with a value. -/
structure Know (rules : List OptionRule) (name : String) : Prop where
  plain : '=' ∉ name.toList
  found : rules.find? (fun rule => rule.name == name) = some ⟨name, none, .value⟩

variable {rules : List OptionRule}

/-- The word of an option that is not there yet adds the option. -/
theorem take_optionWord {name : String} (known : Know rules name) {options : List (String × String)}
    (fresh : name ∉ options.map Prod.fst) (value : String) :
    take rules { options } (optionWord name value) = .ok { options := options ++ [(name, value)] } := by
  have characters : (optionWord name value).toList =
      '-' :: '-' :: (name.toList ++ '=' :: value.toList) := by
    simp only [optionWord, String.toList_append, List.append_assoc]
    rfl
  have absent : has { options } name = false := has_eq_false_iff.mpr fresh
  have filled : name.toList ++ '=' :: value.toList ≠ [] := by simp
  rw [take]
  simp only [characters, Bool.false_eq_true, if_false, Text.splitFirstChars?_append known.plain,
    String.ofList_toList]
  simp only [takeName, known.found, add, absent]
  rfl

/-- Options that are not there yet are added one after the other. -/
theorem foldlM_take_optionWord {added : List (String × String)}
    (known : ∀ name ∈ added.map Prod.fst, Know rules name)
    {options : List (String × String)} (distinct : ((options ++ added).map Prod.fst).Nodup) :
    (added.map fun (name, value) => optionWord name value).foldlM (take rules) { options } =
      .ok { options := options ++ added } := by
  induction added generalizing options with
  | nil => rw [List.append_nil]; rfl
  | cons option added ih =>
      rcases option with ⟨name, value⟩
      have fresh : name ∉ options.map Prod.fst := by
        rw [List.map_append, List.nodup_append] at distinct
        exact fun member => distinct.2.2 name member name List.mem_cons_self rfl
      rw [List.map_cons, List.foldlM_cons, take_optionWord (known name List.mem_cons_self) fresh]
      rw [List.append_cons] at distinct
      rw [List.append_cons options (name, value) added]
      exact ih (fun other member => known other (List.mem_cons_of_mem name member)) distinct

/-- The words of the options that have a value, and an operand after two hyphens. -/
def written (slots : List (String × Option String)) (operand : String) : List String :=
  ((given slots).map fun (name, value) => optionWord name value) ++ ["--", operand]

/-- The options and the operand that were written are found again. -/
theorem ofArguments_written {slots : List (String × Option String)} (distinct : (slots.map Prod.fst).Nodup)
    (known : ∀ name ∈ slots.map Prod.fst, Know rules name) (operand : String) :
    ofArguments rules (written slots operand) =
      .ok { onlyOperands := true, options := given slots, operands := [operand] } := by
  have taken : ((given slots).map fun (name, value) => optionWord name value).foldlM (take rules) {} =
      .ok { options := [] ++ given slots } :=
    foldlM_take_optionWord (fun name member => known name (name_mem_of_mem_given member))
      (nodup_given distinct)
  rw [ofArguments, written, List.foldlM_append, taken]
  rfl

end Words

namespace CheckArguments

/-- The options of a check, with their values. -/
def slots (arguments : CheckArguments) : List (String × Option String) :=
  [("permission", some arguments.permission), ("organization", arguments.organization),
    ("project", arguments.project), ("subject", arguments.subject), ("source", arguments.source)]

theorem names_slots (arguments : CheckArguments) :
    arguments.slots.map Prod.fst = ["permission", "organization", "project", "subject", "source"] :=
  rfl

theorem nodup_names_slots (arguments : CheckArguments) : (arguments.slots.map Prod.fst).Nodup := by
  rw [names_slots]
  decide

theorem know_slots (arguments : CheckArguments) :
    ∀ name ∈ arguments.slots.map Prod.fst, Words.Know checkRules name := by
  intro name listed
  simp only [names_slots, List.mem_cons, List.not_mem_nil, or_false] at listed
  rcases listed with rfl | rfl | rfl | rfl | rfl <;> exact ⟨by decide, rfl⟩

/-- Words that ask for a check. -/
def words (arguments : CheckArguments) : List String :=
  "check" :: Words.written arguments.slots arguments.token

/-- A source has its subject, and a subject has its project. -/
structure IsChained (arguments : CheckArguments) : Prop where
  subject : arguments.subject.isSome = true → arguments.project.isSome = true
  source : arguments.source.isSome = true → arguments.subject.isSome = true

/-- Each name of a check is the value of its own option. -/
theorem ofCheck_slots {arguments : CheckArguments} (chained : arguments.IsChained) {words : Words}
    (options : words.options = Words.given arguments.slots) (operands : words.operands = [arguments.token]) :
    Command.ofCheck words = .ok (.check arguments) := by
  have value : ∀ slot ∈ arguments.slots, words.value? slot.1 = slot.2 := fun slot listed =>
    Words.value?_given arguments.nodup_names_slots options listed
  simp only [slots, List.forall_mem_cons] at value
  rcases value with ⟨permission, organization, project, subject, source, _⟩
  have complete : ¬(arguments.subject.isSome = true ∧ (!arguments.project.isSome) = true ∨
      arguments.source.isSome = true ∧ (!arguments.subject.isSome) = true) := by
    rintro (⟨named, missing⟩ | ⟨named, missing⟩)
    · rw [chained.subject named] at missing
      cases missing
    · rw [chained.source named] at missing
      cases missing
  rw [Command.ofCheck, operands, permission]
  simp only [Words.has, organization, project, subject, source, if_neg complete]

/-- Every check whose names are chained is asked for by its words. -/
theorem ofArguments_words (arguments : CheckArguments) (chained : arguments.IsChained)
    {environment : Config.Environment} (filled : environment.get? Invocation.configVariable ≠ some "") :
    Invocation.ofArguments environment arguments.words =
      .ok { config := environment.get? Invocation.configVariable, command := .check arguments } := by
  have taken := Words.ofArguments_written arguments.nodup_names_slots arguments.know_slots arguments.token
  have command : Command.ofArguments "check" (Words.written arguments.slots arguments.token) =
      .ok (.check arguments) := by
    change Words.ofArguments checkRules _ >>= Command.ofCheck = _
    simp only [taken, bind, Except.bind]
    exact ofCheck_slots chained rfl rfl
  have first : Words.upToCommand mainRules {} arguments.words =
      .ok ({}, "check", Words.written arguments.slots arguments.token) := rfl
  rw [Invocation.ofArguments, first]
  simp only [bind, Except.bind, command]
  cases config : environment.get? Invocation.configVariable with
  | none => rfl
  | some path =>
      have named : path.isEmpty = false := by
        rw [Bool.eq_false_iff, Ne, String.isEmpty_iff]
        rintro rfl
        exact filled config
      simp only [Words.value?, Words.values, List.filter_nil, List.map_nil, List.head?_nil, named,
        Bool.false_eq_true, if_false]
      rfl

end CheckArguments
end CommandLine
end TokenAuthority
