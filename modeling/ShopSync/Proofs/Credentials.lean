import Mathlib.Tactic
import ShopSync.Config
import ShopSync.Proofs.Text.Truncate

/-!
Where credentials come from.

A credential has two variables, that of its setting and one to fall back on, and a blank text is no
credential.  But the first of the two that is set is taken, and only then are its blanks cut: a
setting that is blank still stands before its fallback and hides it (`Hides`).  A credential is the
one that the variables were meant to give exactly when nothing is hidden
(`isChosen_credential_iff`), and that is all that a blank text can do (`ofEnvironment_credentials`).
-/

namespace ShopSync.Config

/-- A variable gives a value when it is set, and not to a blank text. -/
def HasValue (lookup : String → Option String) (key : String) : Prop :=
  ∃ value, lookup key = some value ∧ Text.isBlankText value = false

/-- The value that two variables are meant to give: that of the first one that has a value, without
the blanks around it, and no text when neither has. -/
inductive IsChosen (lookup : String → Option String) (setting fallback : String) :
    String → Prop where
  | setting {value : String} (hset : lookup setting = some value)
      (hvalue : Text.isBlankText value = false) : IsChosen lookup setting fallback (Text.trim value)
  | fallback {value : String} (hnone : ¬ HasValue lookup setting)
      (hset : lookup fallback = some value) (hvalue : Text.isBlankText value = false) :
      IsChosen lookup setting fallback (Text.trim value)
  | missing (hsetting : ¬ HasValue lookup setting) (hfallback : ¬ HasValue lookup fallback) :
      IsChosen lookup setting fallback ""

/-- A variable that is set to a blank text stands before one that has a value. -/
def Hides (lookup : String → Option String) (setting fallback : String) : Prop :=
  (∃ value, lookup setting = some value ∧ Text.isBlankText value = true) ∧ HasValue lookup fallback

/-- The names of the credentials. -/
def credentialNames : List String := ["ACCESS_TOKEN", "API_KEY", "SHOP_ID"]

/-- The credentials of a configuration, by their names. -/
def credentials (config : Config) : List (String × String) :=
  credentialNames.zip [config.accessToken, config.apiKey, config.shopId]

/-! ### One credential -/

section Credential

variable {lookup : String → Option String} {setting fallback envTag name key value : String}

theorem not_hasValue_of_blank (hset : lookup key = some value)
    (hblank : Text.isBlankText value = true) : ¬ HasValue lookup key := by
  rintro ⟨other, hother, hvalue⟩
  obtain rfl : value = other := Option.some.inj (hset.symm.trans hother)
  rw [hblank] at hvalue
  cases hvalue

theorem not_hasValue_of_unset (hunset : lookup key = none) : ¬ HasValue lookup key := by
  rintro ⟨value, hset, -⟩
  rw [hunset] at hset
  cases hset

theorem trim_getD_of_not_hasValue (h : ¬ HasValue lookup key) :
    Text.trim ((lookup key).getD "") = "" := by
  rw [Text.trim_eq_empty_iff]
  cases hset : lookup key with
  | none => rfl
  | some value => exact Bool.of_not_eq_false fun hvalue => h ⟨value, hset, hvalue⟩

theorem IsChosen.isBlankText_eq_false_iff (h : IsChosen lookup setting fallback value) :
    Text.isBlankText value = false ↔ HasValue lookup setting ∨ HasValue lookup fallback := by
  cases h with
  | setting hset hvalue =>
    exact iff_of_true ((Text.isBlankText_trim _).trans hvalue) (.inl ⟨_, hset, hvalue⟩)
  | fallback _ hset hvalue =>
    exact iff_of_true ((Text.isBlankText_trim _).trans hvalue) (.inr ⟨_, hset, hvalue⟩)
  | missing hsetting hfallback => exact iff_of_false (by decide) (not_or_intro hsetting hfallback)

theorem credential_of_set (hset : lookup (settingVariable envTag name) = some value) :
    credential lookup envTag name = Text.trim value := by
  rw [credential, hset]
  rfl

theorem credential_of_unset (hunset : lookup (settingVariable envTag name) = none) :
    credential lookup envTag name =
      Text.trim ((lookup (fallbackVariable envTag name)).getD "") := by
  rw [credential, hunset]
  rfl

theorem credential_of_hides
    (h : Hides lookup (settingVariable envTag name) (fallbackVariable envTag name)) :
    credential lookup envTag name = "" := by
  obtain ⟨⟨value, hset, hblank⟩, -⟩ := h
  rw [credential_of_set hset, Text.trim_eq_empty_iff, hblank]

theorem isChosen_credential
    (h : ¬ Hides lookup (settingVariable envTag name) (fallbackVariable envTag name)) :
    IsChosen lookup (settingVariable envTag name) (fallbackVariable envTag name)
      (credential lookup envTag name) := by
  cases hsetting : lookup (settingVariable envTag name) with
  | none =>
    have hnone := not_hasValue_of_unset hsetting
    rw [credential_of_unset hsetting]
    by_cases hfallback : HasValue lookup (fallbackVariable envTag name)
    · obtain ⟨value, hset, hvalue⟩ := hfallback
      rw [hset]
      exact .fallback hnone hset hvalue
    · rw [trim_getD_of_not_hasValue hfallback]
      exact .missing hnone hfallback
  | some value =>
    rw [credential_of_set hsetting]
    cases hvalue : Text.isBlankText value with
    | false => exact .setting hsetting hvalue
    | true =>
      rw [Text.trim_eq_empty_iff.2 hvalue]
      exact .missing (not_hasValue_of_blank hsetting hvalue) fun hfallback =>
        h ⟨⟨value, hsetting, hvalue⟩, hfallback⟩

/-- A credential is the one that was meant exactly when none is hidden. -/
theorem isChosen_credential_iff :
    IsChosen lookup (settingVariable envTag name) (fallbackVariable envTag name)
        (credential lookup envTag name) ↔
      ¬ Hides lookup (settingVariable envTag name) (fallbackVariable envTag name) := by
  refine ⟨fun hchosen hhides => ?_, isChosen_credential⟩
  have hvalue := hchosen.isBlankText_eq_false_iff.2 (.inr hhides.2)
  rw [credential_of_hides hhides] at hvalue
  exact absurd hvalue (by decide)

/-- In a fallback a blank text is as good as none. -/
theorem credential_update_fallback {blank : String}
    (hapart : settingVariable envTag name ≠ fallbackVariable envTag name)
    (hblank : Text.isBlankText blank = true) :
    credential (Function.update lookup (fallbackVariable envTag name) (some blank)) envTag name =
      credential (Function.update lookup (fallbackVariable envTag name) none) envTag name := by
  rw [credential, credential, Function.update_of_ne hapart, Function.update_of_ne hapart,
    Function.update_self, Function.update_self]
  cases lookup (settingVariable envTag name) with
  | some value => rfl
  | none => exact Text.trim_eq_empty_iff.2 hblank

/-- In a setting a blank text is as good as none when there is nothing that it could hide. -/
theorem credential_update_setting_iff {blank : String}
    (hapart : settingVariable envTag name ≠ fallbackVariable envTag name)
    (hblank : Text.isBlankText blank = true) :
    credential (Function.update lookup (settingVariable envTag name) (some blank)) envTag name =
        credential (Function.update lookup (settingVariable envTag name) none) envTag name ↔
      ¬ HasValue lookup (fallbackVariable envTag name) := by
  rw [credential_of_set (Function.update_self _ _ _),
    credential_of_unset (Function.update_self _ _ _), Function.update_of_ne hapart.symm,
    Text.trim_eq_empty_iff.2 hblank, eq_comm]
  refine ⟨?_, trim_getD_of_not_hasValue⟩
  rintro hempty ⟨value, hset, hvalue⟩
  rw [hset, Option.getD_some, Text.trim_eq_empty_iff, hvalue] at hempty
  cases hempty

theorem isBlankText_credential_eq_false_iff :
    Text.isBlankText (credential lookup envTag name) = false ↔
      (HasValue lookup (settingVariable envTag name) ∨
        HasValue lookup (fallbackVariable envTag name)) ∧
      ¬ Hides lookup (settingVariable envTag name) (fallbackVariable envTag name) := by
  by_cases hhides : Hides lookup (settingVariable envTag name) (fallbackVariable envTag name)
  · rw [credential_of_hides hhides]
    exact iff_of_false (by decide) fun h => h.2 hhides
  · rw [(isChosen_credential hhides).isBlankText_eq_false_iff, and_iff_left hhides]

end Credential

/-! ### All of them -/

section Environment

variable {marketplace : MarketplaceId} {lookup other : String → Option String} {config : Config}
  {name blank : String}

/-- The variables of the settings that are no credentials. -/
def settingNames : List String := ["BASE_URL", "CURRENCY", "PRICE_MARKUP", "RPS"]

/-- A configuration with the credentials of an environment. -/
def withCredentials (config : Config) (envTag : String) (lookup : String → Option String) :
    Config :=
  { config with
    accessToken := credential lookup envTag "ACCESS_TOKEN"
    apiKey := credential lookup envTag "API_KEY"
    shopId := credential lookup envTag "SHOP_ID" }

theorem credentials_withCredentials (config : Config) (envTag : String)
    (lookup : String → Option String) :
    (config.withCredentials envTag lookup).credentials =
      credentialNames.map fun name => (name, credential lookup envTag name) := rfl

theorem hasCredentials_withCredentials_iff {envTag : String} :
    (config.withCredentials envTag lookup).hasCredentials = true ↔
      ∀ name ∈ credentialNames, Text.isBlankText (credential lookup envTag name) = false := by
  simp [hasCredentials, withCredentials, credentialNames, and_assoc]

/-- A configuration takes all its credentials from the environment, and nothing else of it. -/
theorem withCredentials_eq_iff {envTag : String} :
    config.withCredentials envTag lookup = config.withCredentials envTag other ↔
      ∀ name ∈ credentialNames, credential lookup envTag name = credential other envTag name := by
  simp [withCredentials, credentialNames]

/-- Whether an environment is refused, and with which error, does not depend on the credentials. -/
theorem ofEnvironment_eq_map
    (h : ∀ name ∈ settingNames, other (settingVariable marketplace.envTag name) =
      lookup (settingVariable marketplace.envTag name)) :
    ofEnvironment marketplace other =
      (ofEnvironment marketplace lookup).map
        (·.withCredentials marketplace.envTag other) := by
  simp only [settingNames, List.forall_mem_cons] at h
  obtain ⟨hbase, hcurrency, hmarkup, hbudget, -⟩ := h
  -- once the numbers are read, both configurations are as valid as each other
  have hchecked {config config' : Config} (hvalid : config'.validate = config.validate)
      (hconfig : config' = config.withCredentials marketplace.envTag other) :
      (do config'.validate; pure config') =
        (do config.validate; pure config : Except ConfigError Config).map
          (·.withCredentials marketplace.envTag other) := by
    rw [hvalid, hconfig]
    cases config.validate with
    | error e => rfl
    | ok u => rfl
  rw [ofEnvironment, ofEnvironment]
  simp only [pure_bind]
  rw [hbase, hcurrency, hmarkup, hbudget]
  generalize lookup (settingVariable marketplace.envTag "RPS") = budget
  cases lookup (settingVariable marketplace.envTag "PRICE_MARKUP") with
  | none =>
    cases budget with
    | none => exact hchecked rfl rfl
    | some value =>
      dsimp only
      cases Number.uint32? (Text.trim value) with
      | none => rfl
      | some n => exact hchecked rfl rfl
  | some markup =>
    dsimp only
    cases Number.decimal? (Text.trim markup) with
    | none => rfl
    | some x =>
      cases budget with
      | none => exact hchecked rfl rfl
      | some value =>
        dsimp only
        cases Number.uint32? (Text.trim value) with
        | none => rfl
        | some n => exact hchecked rfl rfl

theorem variables_apart (marketplace : MarketplaceId) :
    ∀ name ∈ credentialNames,
      settingVariable marketplace.envTag name ≠ fallbackVariable marketplace.envTag name ∧
      ∀ key ∈ [settingVariable marketplace.envTag name, fallbackVariable marketplace.envTag name],
        (∀ setting ∈ settingNames, settingVariable marketplace.envTag setting ≠ key) ∧
        ∀ other ∈ credentialNames, other ≠ name →
          settingVariable marketplace.envTag other ≠ key ∧
          fallbackVariable marketplace.envTag other ≠ key := by
  cases marketplace
  decide +kernel

/-- Two ways to set a variable of a credential make a difference for that credential alone. -/
theorem ofEnvironment_update_eq_iff {key : String} {value value' : Option String}
    (h : ofEnvironment marketplace lookup = .ok config) (hname : name ∈ credentialNames)
    (hkey : key ∈
      [settingVariable marketplace.envTag name, fallbackVariable marketplace.envTag name]) :
    ofEnvironment marketplace (Function.update lookup key value) =
        ofEnvironment marketplace (Function.update lookup key value') ↔
      credential (Function.update lookup key value) marketplace.envTag name =
        credential (Function.update lookup key value') marketplace.envTag name := by
  obtain ⟨hsettings, hothers⟩ := (variables_apart marketplace name hname).2 key hkey
  have hresult (value : Option String) :
      ofEnvironment marketplace (Function.update lookup key value) =
        .ok (config.withCredentials marketplace.envTag (Function.update lookup key value)) := by
    rw [ofEnvironment_eq_map fun setting hsetting =>
      Function.update_of_ne (hsettings setting hsetting) value lookup, h]
    rfl
  rw [hresult, hresult, Except.ok.injEq, withCredentials_eq_iff]
  refine ⟨fun hall => hall name hname, fun hone other hother => ?_⟩
  by_cases hsame : other = name
  · rw [hsame, hone]
  · obtain ⟨hsetting, hfallback⟩ := hothers other hother hsame
    simp only [credential, Function.update_of_ne hsetting, Function.update_of_ne hfallback]

/-- **Credentials of the environment.**  A credential is that of its setting when this has a value,
else that of its fallback when this has one, and else there is none: except that a setting which is
blank hides a fallback that has a value.  So all credentials are there exactly when each has a value
that is not hidden; and a blank text is as good as nothing in a fallback, but in a setting only when
its fallback has no value. -/
theorem ofEnvironment_credentials (h : ofEnvironment marketplace lookup = .ok config) :
    (∀ found ∈ config.credentials,
      (IsChosen lookup (settingVariable marketplace.envTag found.1)
          (fallbackVariable marketplace.envTag found.1) found.2 ↔
        ¬ Hides lookup (settingVariable marketplace.envTag found.1)
          (fallbackVariable marketplace.envTag found.1))) ∧
    (config.hasCredentials = true ↔ ∀ name ∈ credentialNames,
      (HasValue lookup (settingVariable marketplace.envTag name) ∨
        HasValue lookup (fallbackVariable marketplace.envTag name)) ∧
      ¬ Hides lookup (settingVariable marketplace.envTag name)
        (fallbackVariable marketplace.envTag name)) ∧
    ∀ name ∈ credentialNames, ∀ blank, Text.isBlankText blank = true →
      ofEnvironment marketplace
          (Function.update lookup (fallbackVariable marketplace.envTag name) (some blank)) =
        ofEnvironment marketplace
          (Function.update lookup (fallbackVariable marketplace.envTag name) none) ∧
      (ofEnvironment marketplace
            (Function.update lookup (settingVariable marketplace.envTag name) (some blank)) =
          ofEnvironment marketplace
            (Function.update lookup (settingVariable marketplace.envTag name) none) ↔
        ¬ HasValue lookup (fallbackVariable marketplace.envTag name)) := by
  have hconfig : config = config.withCredentials marketplace.envTag lookup := by
    have hself := @ofEnvironment_eq_map marketplace lookup lookup fun _ _ => rfl
    rw [h] at hself
    exact Except.ok.inj hself
  refine ⟨?chosen, ?complete, fun name hname blank hblank => ⟨?fallback, ?setting⟩⟩
  case chosen =>
    rw [hconfig, credentials_withCredentials]
    intro found hfound
    obtain ⟨name, -, rfl⟩ := List.mem_map.1 hfound
    exact isChosen_credential_iff
  case complete =>
    rw [hconfig, hasCredentials_withCredentials_iff]
    simp only [isBlankText_credential_eq_false_iff]
  case fallback =>
    rw [ofEnvironment_update_eq_iff h hname (by simp)]
    exact credential_update_fallback (variables_apart marketplace name hname).1 hblank
  case setting =>
    rw [ofEnvironment_update_eq_iff h hname (by simp)]
    exact credential_update_setting_iff (variables_apart marketplace name hname).1 hblank

/-- An environment where the setting of the token is blank and its fallback is not. -/
def blankToken : String → Option String := fun key =>
  [("MARKETSYNC_ETSY_ACCESS_TOKEN", " "), ("ETSY_ACCESS_TOKEN", "token"), ("ETSY_API_KEY", "key"),
    ("MARKETSYNC_ETSY_SHOP_ID", " 42 ")].lookup key

theorem ofEnvironment_credentials_blankToken :
    ∃ config, ofEnvironment .etsy blankToken = .ok config ∧
      (∀ found ∈ config.credentials,
        (IsChosen blankToken (settingVariable "ETSY" found.1) (fallbackVariable "ETSY" found.1)
            found.2 ↔
          ¬ Hides blankToken (settingVariable "ETSY" found.1)
            (fallbackVariable "ETSY" found.1))) ∧
      config.hasCredentials = false ∧
      "SHOP_ID" ∈ credentialNames ∧ Text.isBlankText "\t" = true ∧
      ofEnvironment .etsy (Function.update blankToken (settingVariable "ETSY" "SHOP_ID")
          (some "\t")) =
        ofEnvironment .etsy
          (Function.update blankToken (settingVariable "ETSY" "SHOP_ID") none) := by
  have hread : ofEnvironment .etsy blankToken =
      .ok { marketplace := .etsy, accessToken := "", apiKey := "key", shopId := "42" } := by
    decide +kernel
  obtain ⟨hchosen, -, hblank⟩ := ofEnvironment_credentials hread
  refine ⟨_, hread, hchosen, rfl, by decide, by decide,
    (hblank "SHOP_ID" (by decide) "\t" (by decide)).2.2 ?_⟩
  exact not_hasValue_of_unset rfl

/-- The blank setting hides the token: the marketplace counts as unconfigured, though all its
credentials have a value, and it would be configured if the setting was left out. -/
theorem ofEnvironment_hides_token :
    ∃ config, ofEnvironment .etsy blankToken = .ok config ∧
      ¬ IsChosen blankToken (settingVariable "ETSY" "ACCESS_TOKEN")
        (fallbackVariable "ETSY" "ACCESS_TOKEN") config.accessToken ∧
      (∀ name ∈ credentialNames, HasValue blankToken (settingVariable "ETSY" name) ∨
        HasValue blankToken (fallbackVariable "ETSY" name)) ∧
      config.hasCredentials = false ∧
      (∃ other, ofEnvironment .etsy
          (Function.update blankToken (settingVariable "ETSY" "ACCESS_TOKEN") none) = .ok other ∧
        other.hasCredentials = true) := by
  have hread : ofEnvironment .etsy blankToken =
      .ok { marketplace := .etsy, accessToken := "", apiKey := "key", shopId := "42" } := by
    decide +kernel
  have hunset : ofEnvironment .etsy
      (Function.update blankToken (settingVariable "ETSY" "ACCESS_TOKEN") none) =
      .ok { marketplace := .etsy, accessToken := "token", apiKey := "key", shopId := "42" } := by
    decide +kernel
  have htoken : HasValue blankToken (fallbackVariable "ETSY" "ACCESS_TOKEN") :=
    ⟨"token", by decide, by decide⟩
  have hvalues : ∀ name ∈ credentialNames, HasValue blankToken (settingVariable "ETSY" name) ∨
      HasValue blankToken (fallbackVariable "ETSY" name) := by
    simp only [credentialNames, List.forall_mem_cons]
    exact ⟨.inr htoken, .inr ⟨"key", by decide, by decide⟩, .inl ⟨" 42 ", by decide, by decide⟩,
      List.forall_mem_nil _⟩
  refine ⟨_, hread, fun hchosen => ?_, hvalues, rfl, _, hunset, by decide⟩
  have hempty := hchosen.isBlankText_eq_false_iff.2 (.inr htoken)
  exact absurd hempty (by decide)

end Environment

end ShopSync.Config
