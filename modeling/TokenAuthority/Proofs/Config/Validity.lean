import Mathlib.Tactic.SplitIfs
import TokenAuthority.Config.Settings

/-!
# Valid settings

A layer is resolved by filling in the defaults and checking what comes out.  The two are taken apart here:
the settings that a layer gives, whether they are good or not, and the conditions under which they are valid.
A layer is resolved to the settings that it gives if they are valid, and to a fault otherwise.
-/

namespace TokenAuthority
namespace Config

/-- A store can be opened and a key chosen: the password is not empty, the signing alias has more than blanks,
and there is a location. -/
structure KeystoreSettings.IsValid (settings : KeystoreSettings) : Prop where
  password : settings.password.expose ≠ ""
  signingAlias : ∃ character ∈ settings.signingAlias.toList, Text.isBlank character = false
  locations : settings.locations ≠ []

/-- Tokens are for someone and for some time, refresh tokens for no shorter time than access tokens. -/
structure TokenSettings.IsValid (settings : TokenSettings) : Prop where
  resource : settings.resource ≠ ""
  accessValidity : 0 < settings.accessValidity
  refreshValidity : 0 < settings.refreshValidity
  ordered : settings.accessValidity ≤ settings.refreshValidity

structure Settings.IsValid (settings : Settings) : Prop where
  keystore : settings.keystore.IsValid
  token : settings.token.IsValid

/-- The result of a check: the settings if they are valid, and a fault otherwise. -/
structure Checks {α : Type} (valid : Prop) (settings : α) (result : Except ConfigError α) : Prop where
  passes : valid → result = .ok settings
  fails : ¬ valid → ∃ fault, result = .error (.invalid fault)

theorem Checks.valid_of_ok {α : Type} {valid : Prop} {settings other : α} {result : Except ConfigError α}
    (checks : Checks valid settings result) (success : result = .ok other) :
    valid ∧ other = settings := by
  by_cases holds : valid
  · exact ⟨holds, Except.ok.inj (success.symm.trans (checks.passes holds))⟩
  · rcases checks.fails holds with ⟨fault, failed⟩
    cases success.symm.trans failed

/-! ## What a layer gives -/

/-- The key store settings that a layer gives.  The password, which has no default, is empty if the layer has
none. -/
def KeystoreLayer.settings (layer : KeystoreLayer) : KeystoreSettings where
  locations := layer.locations.getD defaultLocations
  password := layer.password.getD ⟨""⟩
  signingAlias := layer.signingAlias.getD defaultSigningAlias
  checkingAliases := ((layer.checkingAliases.getD []).map Text.trim).filter fun name => !name.isEmpty

/-- The token settings that a layer gives. -/
def TokenLayer.settings (layer : TokenLayer) : TokenSettings where
  issuer := layer.issuer.getD "radar-auth"
  resource := layer.resource.getD "res_ManagementPortal"
  accessValidity := layer.accessValidity.getD 900
  refreshValidity := layer.refreshValidity.getD 86400
  leeway := layer.leeway.getD 60

/-- The settings that a layer gives. -/
def Layer.settings (layer : Layer) : Settings where
  keystore := (layer.keystore.getD {}).settings
  token := (layer.token.getD {}).settings
  logging := (layer.logging.getD {}).resolve

theorem exists_not_isBlank_iff (text : String) :
    (∃ character ∈ text.toList, Text.isBlank character = false) ↔ Text.isAllBlank text = false := by
  simp [Text.isAllBlank]

theorem KeystoreLayer.resolve_of_isValid {layer : KeystoreLayer} (valid : layer.settings.IsValid) :
    layer.resolve = .ok layer.settings := by
  have named := (exists_not_isBlank_iff _).mp valid.signingAlias
  have password := valid.password
  have somewhere := valid.locations
  rw [resolve]
  cases given : layer.password with
  | none =>
      rw [settings, given] at password
      exact absurd rfl password
  | some secret =>
      rw [settings, given] at password
      have notEmpty : ¬ secret.expose.isEmpty = true := fun empty => password (String.isEmpty_iff.mp empty)
      have notNowhere : ¬ (layer.locations.getD defaultLocations).isEmpty = true :=
        fun nowhere => somewhere (List.isEmpty_iff.mp nowhere)
      rw [settings] at named
      simp only [notEmpty, named, notNowhere, Bool.false_eq_true, if_false]
      rw [settings, given]
      rfl

theorem KeystoreLayer.checks (layer : KeystoreLayer) :
    Checks layer.settings.IsValid layer.settings layer.resolve where
  passes := resolve_of_isValid
  fails := by
    intro invalid
    unfold resolve
    split
    · exact ⟨.passwordMissing, rfl⟩
    next secret given =>
      by_cases empty : secret.expose.isEmpty = true
      · exact ⟨.passwordMissing, if_pos empty⟩
      rw [if_neg empty]
      by_cases blank : Text.isAllBlank (layer.signingAlias.getD defaultSigningAlias) = true
      · exact ⟨.signingAliasBlank, if_pos blank⟩
      rw [if_neg blank]
      by_cases nowhere : (layer.locations.getD defaultLocations).isEmpty = true
      · exact ⟨.locationsMissing, if_pos nowhere⟩
      refine absurd ?_ invalid
      exact {
        password := by
          rw [settings, given]
          exact fun same => empty (String.isEmpty_iff.mpr same)
        signingAlias := (exists_not_isBlank_iff _).mpr (Bool.eq_false_iff.mpr blank)
        locations := fun same => nowhere (List.isEmpty_iff.mpr same) }

theorem TokenSettings.fault?_eq_none_iff (settings : TokenSettings) :
    settings.fault? = none ↔ settings.IsValid := by
  unfold fault?
  constructor
  · intro sound
    split_ifs at sound with empty zero shorter
    have positive := not_or.mp zero
    exact {
      resource := fun same => empty (String.isEmpty_iff.mpr same)
      accessValidity := UInt64.pos_iff_ne_zero.mpr positive.1
      refreshValidity := UInt64.pos_iff_ne_zero.mpr positive.2
      ordered := UInt64.not_lt.mp shorter }
  · intro valid
    have named : ¬ settings.resource.isEmpty = true :=
      fun empty => valid.resource (String.isEmpty_iff.mp empty)
    have positive : ¬ (settings.accessValidity = 0 ∨ settings.refreshValidity = 0) :=
      not_or.mpr ⟨UInt64.pos_iff_ne_zero.mp valid.accessValidity,
        UInt64.pos_iff_ne_zero.mp valid.refreshValidity⟩
    rw [if_neg named, if_neg positive, if_neg (UInt64.not_lt.mpr valid.ordered)]

theorem TokenLayer.resolve_eq_error {layer : TokenLayer} {fault : Fault}
    (found : layer.settings.fault? = some fault) : layer.resolve = .error (.invalid fault) := by
  rw [settings] at found
  simp only [resolve, found]

theorem TokenLayer.resolve_eq_ok {layer : TokenLayer} (sound : layer.settings.fault? = none) :
    layer.resolve = .ok layer.settings := by
  rw [settings] at sound ⊢
  simp only [resolve, sound]

theorem TokenLayer.checks (layer : TokenLayer) :
    Checks layer.settings.IsValid layer.settings layer.resolve := by
  have sound := layer.settings.fault?_eq_none_iff
  cases found : layer.settings.fault? with
  | none => exact ⟨fun _ => resolve_eq_ok found, fun invalid => absurd (sound.mp found) invalid⟩
  | some fault =>
      refine ⟨fun valid => ?_, fun _ => ⟨fault, resolve_eq_error found⟩⟩
      rw [sound.mpr valid] at found
      cases found

/-- A layer is resolved to the settings that it gives if they are valid, and to a fault otherwise. -/
theorem Layer.checks (layer : Layer) : Checks layer.settings.IsValid layer.settings layer.resolve := by
  have keystore := (layer.keystore.getD {}).checks
  have token := (layer.token.getD {}).checks
  constructor
  · intro valid
    rw [resolve, keystore.passes valid.keystore, token.passes valid.token]
    rfl
  · intro invalid
    by_cases valid : (layer.keystore.getD {}).settings.IsValid
    · rcases token.fails fun alsoValid => invalid ⟨valid, alsoValid⟩ with ⟨fault, failed⟩
      rw [resolve, keystore.passes valid, failed]
      exact ⟨fault, rfl⟩
    · rcases keystore.fails valid with ⟨fault, failed⟩
      rw [resolve, failed]
      exact ⟨fault, rfl⟩

/-! ## The first fault -/

/-- What is wrong with key store settings, if anything is. -/
def KeystoreSettings.fault? (settings : KeystoreSettings) : Option Fault :=
  if settings.password.expose.isEmpty then some .passwordMissing
  else if Text.isAllBlank settings.signingAlias then some .signingAliasBlank
  else if settings.locations.isEmpty then some .locationsMissing
  else none

/-- What is wrong with settings.  The key store comes before the tokens. -/
def Settings.fault? (settings : Settings) : Option Fault :=
  settings.keystore.fault?.or settings.token.fault?

/-- Settings, unless there is a fault in them. -/
def unlessFault {α : Type} (fault? : Option Fault) (settings : α) : Except ConfigError α :=
  match fault? with
  | some fault => .error (.invalid fault)
  | none => .ok settings

theorem unlessFault_eq_error_iff {α : Type} {fault? : Option Fault} {settings : α} {fault : Fault} :
    unlessFault fault? settings = .error (.invalid fault) ↔ fault? = some fault := by
  cases fault? <;> simp [unlessFault]

theorem KeystoreLayer.resolve_eq_unlessFault (layer : KeystoreLayer) :
    layer.resolve = unlessFault layer.settings.fault? layer.settings := by
  rw [resolve, settings, KeystoreSettings.fault?]
  cases layer.password with
  | none => rfl
  | some password =>
      simp only [Option.getD_some]
      split_ifs <;> rfl

/-- What a layer resolves to is decided by the settings that it gives, and by nothing else in it. -/
theorem Layer.resolve_eq_unlessFault (layer : Layer) :
    layer.resolve = unlessFault layer.settings.fault? layer.settings := by
  have token : (layer.token.getD {}).resolve =
      unlessFault (layer.token.getD {}).settings.fault? (layer.token.getD {}).settings := rfl
  rw [resolve, KeystoreLayer.resolve_eq_unlessFault, token, settings, Settings.fault?]
  cases (layer.keystore.getD {}).settings.fault? with
  | some fault => rfl
  | none => cases (layer.token.getD {}).settings.fault? <;> rfl

/-- No other fault is taken for a missing password, and none is found before it. -/
theorem Settings.fault?_eq_passwordMissing_iff (settings : Settings) :
    settings.fault? = some .passwordMissing ↔ settings.keystore.password = ⟨""⟩ := by
  have empty : settings.keystore.password = ⟨""⟩ ↔ settings.keystore.password.expose.isEmpty = true := by
    rw [String.isEmpty_iff]
    exact ⟨fun same => by rw [same], fun same => congrArg Secret.mk same⟩
  rw [empty, fault?, KeystoreSettings.fault?, TokenSettings.fault?]
  split_ifs <;> simp_all

end Config
end TokenAuthority
