import TokenAuthority.Proofs.Text.Blanks
import TokenAuthority.Proofs.Token.ClaimSets

/-!
# Spellings of a claim set

A claim set is written in one way and read in several.  Scopes that are words may be written one after the other
in a string, one audience may be written without the list, and no scopes or no audience may be null or left out.
Whichever of these is chosen, and wherever the members of the object stand, the same claim set is read.

Hence writing what was read, and reading it again, changes nothing: the text that is written is one that all
texts of the claim set lead to.
-/

namespace TokenAuthority
namespace ClaimSet

/-- What a member for the scopes may hold to state them.  A string states the words in it. -/
inductive SpellsScopes : List String → Option Json → Prop where
  | list (scopes : List String) : SpellsScopes scopes (some (Json.strings scopes))
  | words {scopes : List String} {text : String}
      (spells : Text.Spells (scopes.map String.toList) text.toList) : SpellsScopes scopes (some (.string text))
  | null : SpellsScopes [] (some .null)
  | absent : SpellsScopes [] none

/-- What a member for the audience may hold to state it.  A string states itself. -/
inductive SpellsAudience : List String → Option Json → Prop where
  | list (audience : List String) : SpellsAudience audience (some (Json.strings audience))
  | single (value : String) : SpellsAudience [value] (some (.string value))
  | null : SpellsAudience [] (some .null)
  | absent : SpellsAudience [] none

theorem eq_strings_of_asStrings? {document : Json} {values : List String}
    (read : document.asStrings? = some values) : document = Json.strings values := by
  cases document with
  | array items =>
      refine congrArg Json.array (eq_map_of_mapM ?_ read)
      intro item value isString
      cases item with
      | string text => exact congrArg Json.string (Option.some.inj isString)
      | _ => cases isString
  | _ => cases read

/-- Scopes are read from nothing else. -/
theorem withDefault?_scopesOf?_iff {scopes : List String} {slot : Option Json} :
    Json.withDefault? [] scopesOf? slot = some scopes ↔ SpellsScopes scopes slot := by
  constructor
  · intro read
    rcases slot with _ | document
    · cases read
      exact .absent
    · rw [Json.withDefault?, scopesOf?.eq_def] at read
      split at read
      · exact .words (Text.words_eq_iff.mp (Option.some.inj read))
      · cases read
        exact .null
      · rw [eq_strings_of_asStrings? read]
        exact .list scopes
  · intro spells
    cases spells with
    | list => exact withDefault?_scopes scopes
    | words spells => exact congrArg some (Text.words_eq_iff.mpr spells)
    | null | absent => rfl

/-- An audience is read from nothing else. -/
theorem withDefault?_audienceOf?_iff {audience : List String} {slot : Option Json} :
    Json.withDefault? [] audienceOf? slot = some audience ↔ SpellsAudience audience slot := by
  constructor
  · intro read
    rcases slot with _ | document
    · cases read
      exact .absent
    · rw [Json.withDefault?, audienceOf?.eq_def] at read
      split at read
      · cases read
        exact .single _
      · cases read
        exact .null
      · rw [eq_strings_of_asStrings? read]
        exact .list audience
  · intro spells
    cases spells with
    | list => exact withDefault?_audience audience
    | single | null | absent => rfl

/-- The members of an object spell a claim set: there is one for each field that has a value, wherever it
stands, and scopes and audience are spelled in any way. -/
def IsSpelledBy (claimSet : ClaimSet) (members : List (String × Json)) : Prop :=
  ∃ scopes audience, SpellsScopes claimSet.scopes scopes ∧ SpellsAudience claimSet.audience audience ∧
    ∀ slot ∈ claimSet.slotsWith scopes audience, Json.onlyMember? members slot.1 = some slot.2

theorem ofJson?_of_isSpelledBy {claimSet : ClaimSet} (times : claimSet.HasSignedTimes)
    {members : List (String × Json)} (spelled : claimSet.IsSpelledBy members) :
    ofJson? (.object members) = some claimSet := by
  rcases spelled with ⟨scopes, audience, spellsScopes, spellsAudience, given⟩
  have names : fields.map Json.Field.name = (claimSet.slotsWith scopes audience).map Prod.fst := rfl
  exact ofJson?_of_fields? times (Json.fields?_of_onlyMember? names given)
    (withDefault?_scopesOf?_iff.mpr spellsScopes) (withDefault?_audienceOf?_iff.mpr spellsAudience)

theorem isSpelledBy_sparse {claimSet : ClaimSet} {scopes audience : Option Json}
    (spellsScopes : SpellsScopes claimSet.scopes scopes)
    (spellsAudience : SpellsAudience claimSet.audience audience) :
    claimSet.IsSpelledBy (Json.sparse (claimSet.slotsWith scopes audience)) := by
  refine ⟨scopes, audience, spellsScopes, spellsAudience, fun slot listed => ?_⟩
  have distinct : ((claimSet.slotsWith scopes audience).map Prod.fst).Nodup := claimSet.nodup_names_slots
  exact Json.onlyMember?_sparse distinct listed

theorem SpellsScopes.isWritable {scopes : List String} {slot : Option Json}
    (spells : SpellsScopes scopes slot) : ∀ document ∈ slot, document.isWritable = true := by
  cases spells with
  | list => exact isWritable_of_mem_strings scopes
  | words | null =>
      rintro _ ⟨⟩
      simp [Json.isWritable]
  | absent => rintro _ ⟨⟩

theorem SpellsAudience.isWritable {audience : List String} {slot : Option Json}
    (spells : SpellsAudience audience slot) : ∀ document ∈ slot, document.isWritable = true := by
  cases spells with
  | list => exact isWritable_of_mem_strings audience
  | single | null =>
      rintro _ ⟨⟩
      simp [Json.isWritable]
  | absent => rintro _ ⟨⟩

/-! ## Texts -/

/-- The text of a claim set. -/
def text (claimSet : ClaimSet) : String :=
  claimSet.toJson.compact

/-- The text of a claim set with something else for the scopes and the audience. -/
def textWith (claimSet : ClaimSet) (scopes audience : Option Json) : String :=
  (Json.object (Json.sparse (claimSet.slotsWith scopes audience))).compact

/-- The claim set that a text states. -/
def ofText? (text : String) : Option ClaimSet :=
  (Json.ofText? text).bind ofJson?

/-- What a text becomes when it is read and written again. -/
def rewrite? (text : String) : Option String :=
  (ofText? text).map ClaimSet.text

theorem ofText?_of_isSpelledBy {claimSet : ClaimSet} (times : claimSet.HasSignedTimes) {text : String}
    {members : List (String × Json)} (read : Json.ofText? text = some (.object members))
    (spelled : claimSet.IsSpelledBy members) : ofText? text = some claimSet := by
  rw [ofText?, read]
  exact ofJson?_of_isSpelledBy times spelled

theorem ofText?_textWith {claimSet : ClaimSet} (times : claimSet.HasSignedTimes)
    {scopes audience : Option Json} (spellsScopes : SpellsScopes claimSet.scopes scopes)
    (spellsAudience : SpellsAudience claimSet.audience audience) :
    ofText? (claimSet.textWith scopes audience) = some claimSet := by
  have writable := isWritable_slotsWith times spellsScopes.isWritable spellsAudience.isWritable
  exact ofText?_of_isSpelledBy times (Json.ofText?_compact _ writable)
    (isSpelledBy_sparse spellsScopes spellsAudience)

theorem text_eq_textWith (claimSet : ClaimSet) : claimSet.text =
    claimSet.textWith (some (Json.strings claimSet.scopes)) (some (Json.strings claimSet.audience)) := by
  rw [text, toJson_eq_sparse, slots_eq_slotsWith, textWith]

theorem ofText?_text {claimSet : ClaimSet} (times : claimSet.HasSignedTimes) :
    ofText? claimSet.text = some claimSet := by
  rw [text_eq_textWith]
  exact ofText?_textWith times (.list claimSet.scopes) (.list claimSet.audience)

/-- A claim set whose times fit is read from its text, from the text with scopes and audience spelled in another
way, and from every text of an object that spells it.  A text that is read, and written again, is read as the same
claim set, and does not change any more. -/
theorem ofText?_eq_of_spelled :
    (∀ claimSet : ClaimSet, claimSet.HasSignedTimes →
      ofText? claimSet.text = some claimSet ∧
        (∀ scopes audience, SpellsScopes claimSet.scopes scopes →
          SpellsAudience claimSet.audience audience →
          ofText? (claimSet.textWith scopes audience) = some claimSet) ∧
        ∀ text members, Json.ofText? text = some (.object members) → claimSet.IsSpelledBy members →
          ofText? text = some claimSet) ∧
      ∀ text rewritten, rewrite? text = some rewritten →
        ofText? rewritten = ofText? text ∧ rewrite? rewritten = some rewritten := by
  constructor
  · intro claimSet times
    exact ⟨ofText?_text times, fun _ _ => ofText?_textWith times, fun _ _ => ofText?_of_isSpelledBy times⟩
  · intro text rewritten rewrites
    rcases Option.map_eq_some_iff.mp rewrites with ⟨claimSet, stated, rfl⟩
    rcases Option.bind_eq_some_iff.mp stated with ⟨document, _, isClaimSet⟩
    have again := ofText?_text (hasSignedTimes_of_ofJson? isClaimSet)
    exact ⟨again.trans stated.symm, congrArg (Option.map ClaimSet.text) again⟩

/-- A claim set with two scopes and one audience. -/
def spelledClaimSet : ClaimSet where
  subject := some "S"
  scopes := ["SUBJECT.READ", "PROJECT.READ"]
  audience := ["res_ManagementPortal"]
  expiry := 1

/-- Scopes in a string, with blanks of three kinds, and an audience without a list. -/
theorem ofText?_eq_of_spelled_words :
    spelledClaimSet.HasSignedTimes ∧
      spelledClaimSet.textWith (some (.string " SUBJECT.READ\u2003PROJECT.READ\n"))
          (some (.string "res_ManagementPortal")) =
        "\x7b\"sub\":\"S\",\"scope\":\" SUBJECT.READ\u2003PROJECT.READ\\n\",\"authorities\":[]," ++
          "\"roles\":[],\"sources\":[],\"aud\":\"res_ManagementPortal\",\"exp\":1\x7d" ∧
      ofText? (spelledClaimSet.textWith (some (.string " SUBJECT.READ\u2003PROJECT.READ\n"))
        (some (.string "res_ManagementPortal"))) = some spelledClaimSet ∧
      rewrite? spelledClaimSet.text = some spelledClaimSet.text := by
  have times : spelledClaimSet.HasSignedTimes := ⟨nofun, by decide⟩
  rcases ofText?_eq_of_spelled.1 spelledClaimSet times with ⟨written, respelled, _⟩
  have words : SpellsScopes spelledClaimSet.scopes (some (.string " SUBJECT.READ\u2003PROJECT.READ\n")) :=
    .words (Text.words_eq_iff.mp (by decide))
  refine ⟨times, by decide +kernel, respelled _ _ words (.single "res_ManagementPortal"), ?_⟩
  exact (ofText?_eq_of_spelled.2 _ _ (congrArg (Option.map text) written)).2

end ClaimSet
end TokenAuthority
