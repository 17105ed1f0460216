import Mathlib.Logic.Relation
import TokenAuthority.Proofs.Keys.Demotion

/-!
# Which keys are loaded

A ring is loaded from the first location that opens, and the others are not looked at.  Which names are loaded
can be said without the loop that loads them: of the names that are listed for checking, those that do not sign
and that the store does not lack, each once.  They are loaded in this order, and the first of them that does not
load decides how loading fails.

So a name that the store lacks, or that is listed or signs already, may be added to the list without any
effect: what is loaded is the same, and so is the failure.
-/

namespace TokenAuthority

namespace StoreOpener

variable {opener : StoreOpener} {password : Config.Secret} {locations : List String} {lookup : PairLookup}

/-- No location opens. -/
def Closed (opener : StoreOpener) (password : Config.Secret) (locations : List String) : Prop :=
  ∀ location ∈ locations, ∃ error, opener location password = .error error

/-- A store is what the first location that opens has. -/
def IsFirst (opener : StoreOpener) (password : Config.Secret) (locations : List String)
    (lookup : PairLookup) : Prop :=
  ∃ before location after, locations = before ++ location :: after ∧
    opener.Closed password before ∧ opener location password = .ok lookup

theorem first?_append_of_closed {before : List String} (closed : opener.Closed password before)
    (after : List String) : opener.first? password (before ++ after) = opener.first? password after := by
  induction before with
  | nil => rfl
  | cons location before ih =>
      rcases closed location List.mem_cons_self with ⟨error, refused⟩
      rw [List.cons_append, first?, refused]
      exact ih fun other member => closed other (List.mem_cons_of_mem location member)

theorem first?_eq_none_of_closed (closed : opener.Closed password locations) :
    opener.first? password locations = none := by
  rw [← List.append_nil locations, first?_append_of_closed closed]
  rfl

theorem first?_of_isFirst (first : opener.IsFirst password locations lookup) :
    opener.first? password locations = some lookup := by
  rcases first with ⟨before, location, after, rfl, closed, opens⟩
  rw [first?_append_of_closed closed, first?, opens]

/-- Either no location opens, or one of those that open is the first. -/
theorem closed_or_exists_isFirst (opener : StoreOpener) (password : Config.Secret) (locations : List String) :
    opener.Closed password locations ∨ ∃ lookup, opener.IsFirst password locations lookup := by
  induction locations with
  | nil => exact Or.inl nofun
  | cons location locations ih =>
      cases opens : opener location password with
      | ok lookup => exact Or.inr ⟨lookup, [], location, locations, rfl, nofun, opens⟩
      | error error =>
          have alsoClosed {others : List String} (closed : opener.Closed password others) :
              opener.Closed password (location :: others) := by
            intro other member
            rcases List.mem_cons.mp member with rfl | later
            · exact ⟨error, opens⟩
            · exact closed other later
          refine ih.imp alsoClosed ?_
          rintro ⟨lookup, before, first, after, rfl, closed, found⟩
          exact ⟨lookup, location :: before, first, after, rfl, alsoClosed closed, found⟩

end StoreOpener

namespace PairLookup

/-- The store says that it does not have a name. -/
def lacks (lookup : PairLookup) (name : String) : Bool :=
  match lookup name with
  | .error (.nameNotFound _) => true
  | _ => false

/-- The names that are to be loaded when some are known: the others that the store does not lack, each at its
first place in the list. -/
def selected (lookup : PairLookup) (known names : List String) : List String :=
  (names.filter fun name => name ∉ known ∧ lookup.lacks name = false).eraseDups

/-- A name of the store does not load, either because the store fails or because of what it has. -/
inductive Fails (lookup : PairLookup) (name : String) : KeyError → Prop where
  | ofStore {cause : StoreError} (refused : lookup name = .error cause) : Fails lookup name (.store cause)
  | ofMaterial {encoded : EncodedPair} {error : KeyError} (stored : lookup name = .ok encoded)
      (refused : KeyPair.ofEncoded name encoded = .error error) : Fails lookup name error

variable {lookup : PairLookup} {known names : List String} {name : String}

theorem selected_cons (fresh : name ∉ known) (present : lookup.lacks name = false) (names : List String) :
    lookup.selected known (name :: names) = name :: lookup.selected (known ++ [name]) names := by
  rw [selected, List.filter_cons_of_pos (by simp [fresh, present]), List.eraseDups_cons, List.filter_filter,
    selected]
  congr 2
  apply List.filter_congr
  intro other _
  by_cases same : other = name <;> simp [same, present]

/-- A name that is known, lacking or listed before makes no difference. -/
theorem selected_insert {before : List String}
    (idle : name ∈ known ∨ lookup.lacks name = true ∨ name ∈ before) (after : List String) :
    lookup.selected known (before ++ name :: after) = lookup.selected known (before ++ after) := by
  unfold selected
  by_cases taken : name ∉ known ∧ lookup.lacks name = false
  · have listed : name ∈ before := by simpa [taken.1, taken.2] using idle
    rw [List.filter_append, List.filter_append, List.filter_cons_of_pos (by simpa using taken),
      List.eraseDups_append, List.eraseDups_append, List.cons_removeAll, if_neg]
    simp [listed, taken]
  · rw [List.filter_append, List.filter_append, List.filter_cons_of_neg (by simpa using taken)]

theorem selected_cons_of_skipped (skipped : name ∈ known ∨ lookup.lacks name = true)
    (names : List String) : lookup.selected known (name :: names) = lookup.selected known names :=
  @selected_insert lookup known name [] (skipped.imp_right Or.inl) names

end PairLookup

/-- The settings with another list of names for checking. -/
def Config.KeystoreSettings.withChecking (settings : Config.KeystoreSettings) (names : List String) :
    Config.KeystoreSettings :=
  { settings with checkingAliases := names }

namespace Keyring

/-- The key pair with a name, for checking, from a store that does not lack it. -/
def pairNamed (lookup : PairLookup) (name : String) : Except KeyError NamedKey :=
  match lookup name with
  | .error cause => .error (.store cause)
  | .ok encoded => (KeyPair.ofEncoded name encoded).map fun pair => ⟨name, pair⟩

section

variable {lookup : PairLookup} {name : String} {error : KeyError}

theorem pairNamed_eq_ok_iff {key : NamedKey} :
    pairNamed lookup name = .ok key ↔ key.name = name ∧ key.IsIn lookup := by
  unfold pairNamed
  constructor
  · intro found
    split at found
    · cases found
    next encoded stored =>
      rcases exists_ok_of_map found with ⟨pair, formed, rfl⟩
      exact ⟨rfl, encoded, stored, formed⟩
  · rintro ⟨rfl, encoded, stored, formed⟩
    rw [stored]
    simp only [formed]
    rfl

theorem pairNamed_eq_error_iff : pairNamed lookup name = .error error ↔ lookup.Fails name error := by
  unfold pairNamed
  constructor
  · intro failed
    split at failed
    next cause refused =>
      cases failed
      exact .ofStore refused
    next encoded stored => exact .ofMaterial stored (error_of_map failed)
  · intro fails
    cases fails with
    | ofStore refused => rw [refused]
    | ofMaterial stored refused =>
        rw [stored]
        simp only [refused]
        rfl

theorem loadChecking_of_lacks (absent : lookup.lacks name = true) : loadChecking lookup name = .ok none := by
  unfold PairLookup.lacks at absent
  split at absent
  next refused => rw [loadChecking, refused]
  · cases absent

theorem loadChecking_of_not_lacks (present : lookup.lacks name = false) :
    loadChecking lookup name = (pairNamed lookup name).map some := by
  unfold loadChecking pairNamed
  cases found : lookup name with
  | ok encoded =>
      simp only
      cases KeyPair.ofEncoded name encoded <;> rfl
  | error cause =>
      cases cause with
      | nameNotFound => simp [PairLookup.lacks, found] at present
      | notAStore | passwordRejected | wrongPassword | malformed | unreadable => rfl

end

/-- Loading one name after the other comes to loading those that are selected. -/
theorem loadAll_eq_mapM (lookup : PairLookup) (loaded : List NamedKey) (names : List String) :
    loadAll lookup loaded names =
      ((lookup.selected (loaded.map NamedKey.name) names).mapM (pairNamed lookup)).map (loaded ++ ·) := by
  induction names generalizing loaded with
  | nil => exact congrArg Except.ok (List.append_nil loaded).symm
  | cons name names ih =>
      rw [loadAll]
      by_cases known : name ∈ loaded.map NamedKey.name
      · rw [if_pos ((any_name_eq loaded name).mpr known), ih,
          PairLookup.selected_cons_of_skipped (Or.inl known)]
      · rw [if_neg fun present => known ((any_name_eq loaded name).mp present)]
        cases absent : lookup.lacks name with
        | true =>
            rw [loadChecking_of_lacks absent, PairLookup.selected_cons_of_skipped (Or.inr absent)]
            exact ih loaded
        | false =>
            rw [loadChecking_of_not_lacks absent, PairLookup.selected_cons known absent, List.mapM_cons]
            cases found : pairNamed lookup name with
            | error error => rfl
            | ok key =>
                have onwards := ih (loaded ++ [key])
                rw [List.map_append, List.map_singleton, (pairNamed_eq_ok_iff.mp found).1] at onwards
                refine onwards.trans ?_
                cases (lookup.selected (loaded.map NamedKey.name ++ [name]) names).mapM (pairNamed lookup) with
                | error error => rfl
                | ok keys => exact congrArg Except.ok (List.append_assoc loaded [key] keys)

theorem mapM_pairNamed_eq_ok_iff {lookup : PairLookup} {names : List String} {keys : List NamedKey} :
    names.mapM (pairNamed lookup) = .ok keys ↔
      keys.map NamedKey.name = names ∧ ∀ key ∈ keys, key.IsIn lookup := by
  constructor
  · intro success
    induction names generalizing keys with
    | nil =>
        cases success
        exact ⟨rfl, nofun⟩
    | cons name names ih =>
        rw [List.mapM_cons] at success
        rcases exists_ok_of_bind success with ⟨key, found, success⟩
        rcases exists_ok_of_bind success with ⟨others, foundAll, success⟩
        cases success
        rcases pairNamed_eq_ok_iff.mp found with ⟨named, isIn⟩
        rcases ih foundAll with ⟨othersNamed, othersAreIn⟩
        exact ⟨by rw [List.map_cons, named, othersNamed], List.forall_mem_cons.mpr ⟨isIn, othersAreIn⟩⟩
  · rintro ⟨rfl, areIn⟩
    induction keys with
    | nil => rfl
    | cons key keys ih =>
        have found := pairNamed_eq_ok_iff.mpr ⟨rfl, areIn key List.mem_cons_self⟩
        have foundAll := ih fun other member => areIn other (List.mem_cons_of_mem key member)
        rw [List.map_cons, List.mapM_cons, found, foundAll]
        rfl

theorem loadSigning_eq_ok_iff {lookup : PairLookup} {name : String} {key : NamedKey} :
    loadSigning lookup name = .ok key ↔ key.name = name ∧ key.IsIn lookup := by
  refine ⟨isIn_of_loadSigning, ?_⟩
  rintro ⟨rfl, encoded, stored, formed⟩
  rw [loadSigning, stored]
  simp only [formed]
  rfl

/-! ## Rings -/

variable {opener : StoreOpener} {settings : Config.KeystoreSettings} {audience : String} {leeway : UInt64}

/-- The names that are loaded for checking, by settings from a store. -/
def checkingOrder (settings : Config.KeystoreSettings) (lookup : PairLookup) : List String :=
  lookup.selected [settings.signingAlias] settings.checkingAliases

theorem loadWith_of_closed (closed : opener.Closed settings.password settings.locations) :
    loadWith opener settings audience leeway = .error (.storeUnavailable settings.locations) := by
  rw [loadWith, StoreOpener.first?_eq_none_of_closed closed]

theorem loadWith_of_isFirst {lookup : PairLookup}
    (first : opener.IsFirst settings.password settings.locations lookup) :
    loadWith opener settings audience leeway = do
      let signing ← loadSigning lookup settings.signingAlias
      let checking ← (checkingOrder settings lookup).mapM (pairNamed lookup)
      return { signing, checking, audience, leeway } := by
  rw [loadWith, StoreOpener.first?_of_isFirst first]
  cases signs : loadSigning lookup settings.signingAlias with
  | error error => simp only [signs, bind, Except.bind]
  | ok signing =>
      have all := loadAll_eq_mapM lookup [signing] settings.checkingAliases
      rw [List.map_singleton, (isIn_of_loadSigning signs).1] at all
      simp only [signs, all, bind, Except.bind, checkingOrder]
      cases (lookup.selected [settings.signingAlias] settings.checkingAliases).mapM (pairNamed lookup) <;> rfl

/-- What is loaded for settings, or why nothing is. -/
inductive Loads (opener : StoreOpener) (settings : Config.KeystoreSettings) (audience : String)
    (leeway : UInt64) : Except KeyError Keyring → Prop where
  | unavailable (closed : opener.Closed settings.password settings.locations) :
      Loads opener settings audience leeway (.error (.storeUnavailable settings.locations))
  /-- The store fails on the name that signs. -/
  | signingMissing {lookup : PairLookup} {cause : StoreError}
      (first : opener.IsFirst settings.password settings.locations lookup)
      (refused : lookup settings.signingAlias = .error cause) :
      Loads opener settings audience leeway (.error (.signingKeyMissing settings.signingAlias cause))
  /-- The store has no usable key under the name that signs. -/
  | signingUnusable {lookup : PairLookup} {encoded : EncodedPair} {error : KeyError}
      (first : opener.IsFirst settings.password settings.locations lookup)
      (stored : lookup settings.signingAlias = .ok encoded)
      (refused : KeyPair.ofEncoded settings.signingAlias encoded = .error error) :
      Loads opener settings audience leeway (.error error)
  /-- The first of the names for checking that does not load. -/
  | checkingFails {lookup : PairLookup} {signing : NamedKey} {before after : List String} {name : String}
      {error : KeyError} (first : opener.IsFirst settings.password settings.locations lookup)
      (signs : signing.name = settings.signingAlias) (signingIsIn : signing.IsIn lookup)
      (order : checkingOrder settings lookup = before ++ name :: after)
      (beforeAreIn : ∀ other ∈ before, ∃ key : NamedKey, key.name = other ∧ key.IsIn lookup)
      (fails : lookup.Fails name error) : Loads opener settings audience leeway (.error error)
  | loaded {lookup : PairLookup} {ring : Keyring}
      (first : opener.IsFirst settings.password settings.locations lookup)
      (names : ring.keys.map NamedKey.name = settings.signingAlias :: checkingOrder settings lookup)
      (areIn : ∀ key ∈ ring.keys, key.IsIn lookup)
      (forAudience : ring.audience = audience) (withLeeway : ring.leeway = leeway) :
      Loads opener settings audience leeway (.ok ring)

theorem loads_loadWith (opener : StoreOpener) (settings : Config.KeystoreSettings) (audience : String)
    (leeway : UInt64) : Loads opener settings audience leeway (loadWith opener settings audience leeway) := by
  rcases opener.closed_or_exists_isFirst settings.password settings.locations with closed | ⟨lookup, first⟩
  · rw [loadWith_of_closed closed]
    exact .unavailable closed
  · rw [loadWith_of_isFirst first]
    cases signs : loadSigning lookup settings.signingAlias with
    | error error =>
        unfold loadSigning at signs
        split at signs
        next cause refused =>
          cases signs
          exact .signingMissing first refused
        next encoded stored => exact .signingUnusable first stored (error_of_map signs)
    | ok signing =>
        rcases isIn_of_loadSigning signs with ⟨named, isIn⟩
        cases checks : (checkingOrder settings lookup).mapM (pairNamed lookup) with
        | error error =>
            rcases exists_first_of_mapM_eq_error checks with ⟨before, name, after, order, found, fails⟩
            refine .checkingFails first named isIn order ?_ (pairNamed_eq_error_iff.mp fails)
            exact fun other member => (found other member).imp fun key => pairNamed_eq_ok_iff.mp
        | ok checking =>
            rcases mapM_pairNamed_eq_ok_iff.mp checks with ⟨checkingNamed, areIn⟩
            refine .loaded first ?_ (List.forall_mem_cons.mpr ⟨isIn, areIn⟩) rfl rfl
            rw [keys, List.map_cons, named, checkingNamed]

/-- Nothing else is loaded, and for no other reason is nothing loaded. -/
theorem Loads.eq {result : Except KeyError Keyring} (loads : Loads opener settings audience leeway result) :
    loadWith opener settings audience leeway = result := by
  cases loads with
  | unavailable closed => exact loadWith_of_closed closed
  | signingMissing first refused =>
      rw [loadWith_of_isFirst first, loadSigning, refused]
      rfl
  | signingUnusable first stored refused =>
      rw [loadWith_of_isFirst first, loadSigning, stored]
      simp only [refused]
      rfl
  | checkingFails first signs signingIsIn order beforeAreIn fails =>
      have load := fun other member => (beforeAreIn other member).imp fun key => pairNamed_eq_ok_iff.mpr
      rw [loadWith_of_isFirst first, loadSigning_eq_ok_iff.mpr ⟨signs, signingIsIn⟩, order,
        mapM_eq_error_of_first load (pairNamed_eq_error_iff.mpr fails)]
      rfl
  | @loaded lookup ring first names areIn forAudience withLeeway =>
      rcases List.cons.inj names with ⟨signs, checks⟩
      rcases List.forall_mem_cons.mp areIn with ⟨signingIsIn, checkingAreIn⟩
      rw [loadWith_of_isFirst first, loadSigning_eq_ok_iff.mpr ⟨signs, signingIsIn⟩,
        mapM_pairNamed_eq_ok_iff.mpr ⟨checks, checkingAreIn⟩, ← forAudience, ← withLeeway]
      rfl

/-- A list of names for checking in which one more stands: a name that the store lacks, the one that signs, or
one that is listed before. -/
inductive IsPadded (opener : StoreOpener) (settings : Config.KeystoreSettings) :
    List String → List String → Prop where
  | lacking {before after : List String} {name : String}
      (absent : ∀ lookup, opener.IsFirst settings.password settings.locations lookup →
        lookup.lacks name = true) : IsPadded opener settings (before ++ after) (before ++ name :: after)
  | signing {before after : List String} :
      IsPadded opener settings (before ++ after) (before ++ settings.signingAlias :: after)
  | again {before after : List String} {name : String} (listed : name ∈ before) :
      IsPadded opener settings (before ++ after) (before ++ name :: after)

theorem IsPadded.checkingOrder_eq {names padded : List String} {lookup : PairLookup}
    (isPadded : IsPadded opener settings names padded)
    (first : opener.IsFirst settings.password settings.locations lookup) :
    checkingOrder (settings.withChecking padded) lookup =
      checkingOrder (settings.withChecking names) lookup := by
  cases isPadded with
  | lacking absent => exact PairLookup.selected_insert (Or.inr (Or.inl (absent lookup first))) _
  | signing => exact PairLookup.selected_insert (Or.inl List.mem_cons_self) _
  | again listed => exact PairLookup.selected_insert (Or.inr (Or.inr listed)) _

theorem IsPadded.loadWith_eq {names padded : List String} (isPadded : IsPadded opener settings names padded)
    (audience : String) (leeway : UInt64) :
    loadWith opener (settings.withChecking padded) audience leeway =
      loadWith opener (settings.withChecking names) audience leeway := by
  rcases opener.closed_or_exists_isFirst settings.password settings.locations with closed | ⟨lookup, first⟩
  · have ofNames (names : List String) : loadWith opener (settings.withChecking names) audience leeway =
        .error (.storeUnavailable settings.locations) := loadWith_of_closed closed
    rw [ofNames padded, ofNames names]
  · have ofNames (names : List String) : loadWith opener (settings.withChecking names) audience leeway = do
        let signing ← loadSigning lookup settings.signingAlias
        let checking ← (checkingOrder (settings.withChecking names) lookup).mapM (pairNamed lookup)
        return { signing, checking, audience, leeway } := loadWith_of_isFirst first
    rw [ofNames padded, ofNames names, isPadded.checkingOrder_eq first]

/-- What is loaded, or why nothing is, follows from the settings and from the first location that opens as it is
said above.  Names that are lacking, that sign or that are listed already may be added to those for checking, in
any number, and nothing changes. -/
theorem loadWith_eq_iff_loads (opener : StoreOpener) (settings : Config.KeystoreSettings) (audience : String)
    (leeway : UInt64) :
    (∀ result, loadWith opener settings audience leeway = result ↔
        Loads opener settings audience leeway result) ∧
      ∀ names, Relation.ReflTransGen (IsPadded opener settings) settings.checkingAliases names →
        loadWith opener (settings.withChecking names) audience leeway =
          loadWith opener settings audience leeway := by
  refine ⟨fun result => ⟨?_, Loads.eq⟩, fun names padded => ?_⟩
  · rintro rfl
    exact loads_loadWith opener settings audience leeway
  · induction padded with
    | refl => rfl
    | tail _ last ih => exact (last.loadWith_eq audience leeway).trans ih

end Keyring

/-- A store with two pairs opens at every location but one. -/
def StoreOpener.unlessGone : StoreOpener := fun location _ =>
  if location = "gone" then .error (.notAStore location) else .ok (.ofTwo "main")

/-- The location that does not open comes first.  The second pair signs, and the first one is to be kept. -/
def Config.KeystoreSettings.goneFirst : Config.KeystoreSettings where
  locations := ["gone", "keys"]
  password := ⟨"secret"⟩
  signingAlias := "next"
  checkingAliases := ["main"]

namespace Keyring

/-- Both pairs are loaded from the second location.  They still are when a name is listed that the store does
not have, and when their own names are listed again. -/
theorem loadWith_eq_iff_loads_goneFirst :
    Loads .unlessGone .goneFirst "res_ManagementPortal" 10 (.ok (after [⟨"main", KeyPair.proth⟩])) ∧
      loadWith .unlessGone (Config.KeystoreSettings.goneFirst.withChecking ["lost", "main", "next", "main"])
        "res_ManagementPortal" 10 = .ok (after [⟨"main", KeyPair.proth⟩]) := by
  have spec := loadWith_eq_iff_loads .unlessGone .goneFirst "res_ManagementPortal" 10
  have opens : StoreOpener.unlessGone.IsFirst ⟨"secret"⟩ ["gone", "keys"] (.ofTwo "main") := by
    refine ⟨["gone"], "keys", [], rfl, ?_, rfl⟩
    exact List.forall_mem_singleton.mpr ⟨.notAStore "gone", rfl⟩
  have loads : Loads .unlessGone .goneFirst "res_ManagementPortal" 10
      (.ok (after [⟨"main", KeyPair.proth⟩])) := by
    refine .loaded opens (by decide) ?_ rfl rfl
    exact List.forall_mem_cons.mpr ⟨⟨_, rfl, KeyPair.ofEncoded_generatorKey "next"⟩,
      List.forall_mem_singleton.mpr ⟨_, rfl, ofEncoded_prothKey "main"⟩⟩
  have lost : IsPadded .unlessGone .goneFirst ["main"] ["lost", "main"] := by
    refine @IsPadded.lacking _ _ [] ["main"] "lost" fun lookup first => ?_
    cases (StoreOpener.first?_of_isFirst opens).symm.trans (StoreOpener.first?_of_isFirst first)
    rfl
  have signs : IsPadded .unlessGone .goneFirst ["lost", "main"] ["lost", "main", "next"] :=
    @IsPadded.signing _ _ ["lost", "main"] []
  have again : IsPadded .unlessGone .goneFirst ["lost", "main", "next"] ["lost", "main", "next", "main"] :=
    @IsPadded.again _ _ ["lost", "main", "next"] [] "main" (by decide)
  have padded := ((Relation.ReflTransGen.single lost).tail signs).tail again
  exact ⟨loads, (spec.2 _ padded).trans ((spec.1 _).mpr loads)⟩

end Keyring
end TokenAuthority
