import TokenAuthority.Proofs.Token.Signing

/-!
# Headers up to the name of the key

A header may name the key that has signed, under `kid`.  The reader of headers wants this to be a string, null
or nothing, and then forgets it.  Two headers that agree on everything else are therefore read as the same,
or neither is a header at all, provided that the name is well formed in both or in neither.

A header is an object, whose members may stand in any order and include ones that no reader knows, or the
list of its ten fields, of which the name of the key is the sixth.
-/

namespace TokenAuthority

namespace TokenHeader

/-- What may stand for the name of a key: a string, null or nothing. -/
def isKeyId (slot : Option Json) : Bool :=
  (Json.optional? Json.asString? slot).isSome

/-- The name of a key is well formed: it does not stand twice, and what stands there may. -/
def hasKeyId (members : List (String × Json)) : Bool :=
  (Json.onlyMember? members "kid").any isKeyId

/-- Two headers that state the same but for the name of the key, which is well formed in both or in
neither. -/
inductive AgreeButForKeyId : Json → Json → Prop
  | object {left right : List (String × Json)}
      (others : ∀ name, name ≠ "kid" → Json.onlyMember? left name = Json.onlyMember? right name)
      (alike : hasKeyId left = hasKeyId right) :
      AgreeButForKeyId (.object left) (.object right)
  | array {before after : List Json} {keyId otherKeyId : Json} (place : before.length = 5)
      (alike : isKeyId (some keyId) = isKeyId (some otherKeyId)) :
      AgreeButForKeyId (.array (before ++ keyId :: after)) (.array (before ++ otherKeyId :: after))

/-- Headers that are written alike but for the name of the key. -/
theorem AgreeButForKeyId.of_append_cons (before after : List (String × Json)) {keyId otherKeyId : Json}
    (fresh : "kid" ∉ (before ++ after).map Prod.fst)
    (alike : isKeyId (some keyId) = isKeyId (some otherKeyId)) :
    AgreeButForKeyId (.object (before ++ ("kid", keyId) :: after))
      (.object (before ++ ("kid", otherKeyId) :: after)) := by
  have only : ∀ value : Json, hasKeyId (before ++ ("kid", value) :: after) = isKeyId (some value) := by
    intro value
    have none : (before ++ after).filter (fun member => member.1 == "kid") = [] := by
      rw [List.filter_eq_nil_iff]
      intro member listed
      rw [beq_iff_eq]
      intro same
      exact fresh (List.mem_map.mpr ⟨member, listed, same⟩)
    rw [List.filter_append, List.append_eq_nil_iff] at none
    have single : Json.onlyMember? (before ++ ("kid", value) :: after) "kid" = some (some value) := by
      rw [Json.onlyMember?_eq_some_iff, List.filter_append, List.filter_cons_of_pos (by rfl), none.1,
        none.2]
      rfl
    rw [hasKeyId, single]
    rfl
  apply AgreeButForKeyId.object
  · intro name different
    have unlike : ("kid" == name) = false := beq_false_of_ne (Ne.symm different)
    simp only [Json.onlyMember?, List.filter_append, List.filter_cons, unlike, Bool.false_eq_true,
      if_false]
  · rw [only, only, alike]

/-- The header that the values of the fields make. -/
def ofSlots? : List (Option Json) → Option TokenHeader
  | [type, algorithm, contentType, keySet, key, keyId, url, chain, thumbprint, thumbprint256] => do
    let algorithm ← Json.required? (choiceAmong? algorithms) algorithm
    let _ ← [type, contentType, keySet, keyId, url, thumbprint, thumbprint256].mapM
      (Json.optional? Json.asString?)
    let _ ← Json.optional? (fun key => if isKey key then some () else none) key
    let _ ← Json.optional? Json.asStrings? chain
    return ⟨algorithm⟩
  | _ => none

theorem ofJson?_eq_bind (document : Json) :
    ofJson? document = (document.fields? fields).bind ofSlots? := by
  rw [ofJson?]
  cases document.fields? fields with
  | none => rfl
  | some slots => rfl

/-- The name of the key is the sixth field.  It has to be well formed, and might as well be absent. -/
theorem ofSlots?_append_cons {before : List (Option Json)} (place : before.length = 5)
    (keyId : Option Json) (after : List (Option Json)) :
    ofSlots? (before ++ keyId :: after) =
      if isKeyId keyId then ofSlots? (before ++ none :: after) else none := by
  have absent : Json.optional? Json.asString? none = some none := rfl
  rw [isKeyId]
  match before, place, after with
  | [type, algorithm, contentType, keySet, key], _, [url, chain, thumbprint, thumbprint256] =>
      cases read : Json.optional? Json.asString? keyId <;>
        simp [ofSlots?, read, absent, Option.bind_assoc]
  | [_, _, _, _, _], _, [] => exact (ite_self none).symm
  | [_, _, _, _, _], _, [_] => exact (ite_self none).symm
  | [_, _, _, _, _], _, [_, _] => exact (ite_self none).symm
  | [_, _, _, _, _], _, [_, _, _] => exact (ite_self none).symm
  | [_, _, _, _, _], _, _ :: _ :: _ :: _ :: _ :: _ => exact (ite_self none).symm

/-- Of the member that names the key, an object has to state only that it is well formed. -/
theorem bind_onlyMember?_eq_ite {before : List (Option Json)} (place : before.length = 5)
    (members : List (String × Json)) (after : List (Option Json)) :
    ((Json.onlyMember? members "kid").bind fun keyId => ofSlots? (before ++ keyId :: after)) =
      if hasKeyId members then ofSlots? (before ++ none :: after) else none := by
  rw [hasKeyId]
  cases Json.onlyMember? members "kid" with
  | none => rfl
  | some keyId => exact ofSlots?_append_cons place keyId after

/-- Headers that agree but for the name of the key are read alike, as a header or as none. -/
theorem ofJson?_congr {left right : Json} (agree : AgreeButForKeyId left right) :
    ofJson? left = ofJson? right := by
  rw [ofJson?_eq_bind, ofJson?_eq_bind]
  cases agree with
  | @object left right others alike =>
      have split : fields = fields.take 5 ++ ⟨"kid", false⟩ :: fields.drop 6 := rfl
      have front : ∀ field ∈ fields.take 5, field.name ≠ "kid" := by decide
      have back : ∀ field ∈ fields.drop 6, field.name ≠ "kid" := by decide
      rw [split, Json.fields?_append_cons, Json.fields?_append_cons,
        Json.fields?_congr fun field member => others field.name (front field member),
        Json.fields?_congr fun field member => others field.name (back field member)]
      cases given : (Json.object right).fields? (fields.take 5) with
      | none => rfl
      | some before =>
          cases (Json.object right).fields? (fields.drop 6) with
          | none => rfl
          | some after =>
              have place := Json.length_of_fields? given
              rw [Option.bind_some, Option.bind_some, Option.bind_some, Option.bind_some,
                Option.bind_map, Option.bind_map]
              have read := bind_onlyMember?_eq_ite place left after
              rw [alike, ← bind_onlyMember?_eq_ite place right after] at read
              exact read
  | @array before after keyId otherKeyId place alike =>
      have required : ∀ field ∈ fields, field.hasDefault = false := by decide
      rw [Json.fields?, Json.fields?, Json.dealItems?_of_required required,
        Json.dealItems?_of_required required, List.length_append, List.length_append, List.length_cons,
        List.length_cons]
      split
      · have place : (before.map some).length = 5 := by rw [List.length_map, place]
        rw [List.map_append, List.map_append, List.map_cons, List.map_cons, Option.bind_some,
          Option.bind_some, ofSlots?_append_cons place (some keyId),
          ofSlots?_append_cons place (some otherKeyId), alike]
      · rfl

end TokenHeader
end TokenAuthority
