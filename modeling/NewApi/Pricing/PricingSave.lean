import NewApi.Pricing.PricingConfig

/-!
# Saved pricing and previewed pricing

A save replaces the entries of one model and then forgets a mode and an
expression that only repeat a built-in one.  The second step changes what was
previewed exactly when a price or a ratio stands beside them.
-/

namespace NewApi.Pricing

open GoStrings Transactions PricingValues

variable {key other builtin : String} {previous : PricingValues} {maps' : PricingMaps}

theorem validPluginKey_noColon (valid : validPluginKey key = true) :
    ':' ∉ key.toList := by
  unfold validPluginKey at valid
  cases chars : key.toList with
  | nil => simp
  | cons first rest =>
    rw [chars] at valid
    simp only [Bool.and_eq_true, List.all_eq_true] at valid
    intro member
    rcases List.mem_cons.mp member with atFirst | later
    · have firstValid := valid.2.1
      rw [← atFirst] at firstValid
      exact absurd firstValid (by decide)
    · exact absurd (valid.2.2 ':' later) (by decide)

theorem cutColons_append {before : List Char} (after : List Char) (noColon : ':' ∉ before) :
    cutColons (before ++ ':' :: ':' :: after) = some (before, after) := by
  induction before with
  | nil => rfl
  | cons char rest ih =>
    have charOther : char ≠ ':' := by
      intro equal
      exact noColon (by simp [equal])
    have restColonless : ':' ∉ rest := by
      intro member
      exact noColon (List.mem_cons_of_mem char member)
    rw [List.cons_append, cutColons.eq_def]
    split
    · rename_i first
      injection first with equal
      exact absurd equal charOther
    · rename_i equal
      injection equal with charEq restEq
      subst charEq restEq
      rw [ih restColonless]
      rfl
    · rename_i empty
      cases empty

theorem splitPluginBillingExprKey_key {plugin name : String}
    (valid : validPluginKey plugin = true) (named : trimSpace name ≠ "") :
    splitPluginBillingExprKey (pluginBillingExprKey plugin name) = some (plugin, name) := by
  unfold splitPluginBillingExprKey pluginBillingExprKey
  rw [String.toList_ofList, cutColons_append name.toList (validPluginKey_noColon valid)]
  simp [valid, named]

theorem splitPluginBillingExprKey_valid {plugin model : String}
    (split : splitPluginBillingExprKey key = some (plugin, model)) :
    validPluginKey plugin = true := by
  unfold splitPluginBillingExprKey at split
  cases cut : cutColons key.toList with
  | none => simp [cut] at split
  | some parts =>
    simp only [cut, Option.bind_eq_bind, Option.bind_some] at split
    split at split
    · rename_i accepted
      injection split with pair
      injection pair with pluginEq _
      rw [← pluginEq]
      exact (Bool.and_eq_true_iff.mp accepted).1
    · cases split

theorem filterMap_kerase {β : Type} {select : Sigma (fun _ : String => PricingValue) → Option β}
    (ignored : ∀ value, select ⟨key, value⟩ = none)
    (entries : List (Sigma (fun _ : String => PricingValue))) :
    (List.kerase key entries).filterMap select = entries.filterMap select := by
  induction entries with
  | nil => rfl
  | cons entry rest ih =>
    obtain ⟨entryKey, value⟩ := entry
    by_cases same : key = entryKey
    · subst same
      rw [List.kerase_cons_eq (by rfl), List.filterMap_cons_none (ignored value)]
    · rw [List.kerase_cons_ne same, List.filterMap_cons, List.filterMap_cons, ih]

theorem modelVariants_erase (pluginExprs : PricingMap) (elsewhere : isVariantOf other key = false) :
    modelVariants (pluginExprs.erase key) other = modelVariants pluginExprs other := by
  apply filterMap_kerase
  intro value
  unfold isVariantOf at elsewhere
  split
  · rename_i plugin model split
    rw [split] at elsewhere
    simpa using elsewhere
  · rfl

theorem modelVariants_insert (pluginExprs : PricingMap) (value : PricingValue)
    (elsewhere : isVariantOf other key = false) :
    modelVariants (pluginExprs.insert key value) other = modelVariants pluginExprs other := by
  have erased := modelVariants_erase pluginExprs elsewhere
  unfold modelVariants at erased ⊢
  rw [AList.entries_insert, List.filterMap_cons_none]
  · exact erased
  · unfold isVariantOf at elsewhere
    split
    · rename_i plugin model split
      rw [split] at elsewhere
      simpa using elsewhere
    · rfl

theorem isVariantOf_other {name : String} (different : other ≠ name)
    (variant : isVariantOf name key = true) :
    isVariantOf other key = false := by
  unfold isVariantOf at variant ⊢
  split
  · rename_i plugin model split
    rw [split] at variant
    have modelEq : model = name := by simpa using variant
    simp [modelEq, Ne.symm different]
  · rfl

theorem modelVariants_replaceVariants {name : String} (pluginExprs : PricingMap)
    {variants : List (String × PricingValue)} (different : other ≠ name)
    (named : trimSpace name ≠ "") (valid : ∀ variant ∈ variants, validPluginKey variant.1 = true) :
    modelVariants (replaceVariants pluginExprs name variants) other =
      modelVariants pluginExprs other := by
  have dropped (entries : List (Sigma (fun _ : String => PricingValue))) (kept : PricingMap) :
      modelVariants
          (entries.foldl
            (fun kept entry => if isVariantOf name entry.1 then kept.erase entry.1 else kept)
            kept)
          other =
        modelVariants kept other := by
    induction entries generalizing kept with
    | nil => rfl
    | cons entry rest ih =>
      rw [List.foldl_cons, ih]
      split_ifs with variant
      · exact modelVariants_erase kept (isVariantOf_other different variant)
      · rfl
  have stored (kept : PricingMap) :
      modelVariants
          (variants.foldl
            (fun stored variant => stored.insert (pluginBillingExprKey variant.1 name) variant.2)
            kept)
          other =
        modelVariants kept other := by
    induction variants generalizing kept with
    | nil => rfl
    | cons variant rest ih =>
      have elsewhere : isVariantOf other (pluginBillingExprKey variant.1 name) = false := by
        unfold isVariantOf
        rw [splitPluginBillingExprKey_key (valid variant List.mem_cons_self) named]
        simp [Ne.symm different]
      rw [List.foldl_cons, ih (fun later member => valid later (List.mem_cons_of_mem _ member))]
      exact modelVariants_insert kept variant.2 elsewhere
  unfold replaceVariants
  rw [stored, dropped]

theorem lookup_replaceModelPricing_self
    (maps : PricingMaps) (name : String) (draft : PricingValues) (key : PricingKey) :
    ((replaceModelPricing maps name draft).entries key).lookup name = draft.value key := by
  unfold replaceModelPricing
  dsimp only
  cases drafted : draft.value key with
  | none => simp
  | some value => simp

theorem lookup_replaceModelPricing_other {name : String} (maps : PricingMaps)
    (draft : PricingValues) (key : PricingKey) (different : other ≠ name) :
    ((replaceModelPricing maps name draft).entries key).lookup other =
      (maps.entries key).lookup other := by
  unfold replaceModelPricing
  dsimp only
  cases drafted : draft.value key with
  | none => simp [AList.lookup_erase_ne different]
  | some value => simp [AList.lookup_insert_ne different, AList.lookup_erase_ne different]

/-! ## Forgetting what repeats a built-in expression -/

/-- The entries of a model only repeat its built-in expression, and none was
stored before. -/
structure RepeatsBuiltin (previous maps : PricingMaps) (name builtin : String) : Prop where
  modeNew : (previous.entries .billingMode).lookup name = none
  exprNew : (previous.entries .billingExpr).lookup name = none
  mode :
    let mode := PricingValue.textOf ((maps.entries .billingMode).lookup name)
    mode = "" ∨ mode = billingModeTieredExpr
  expr :
    let expr := PricingValue.textOf ((maps.entries .billingExpr).lookup name)
    expr = "" ∨ expr = builtin

section

variable {previous maps : PricingMaps} {name : String}

theorem RepeatsBuiltin.congr
    (same : ∀ key, (maps.entries key).lookup name = (maps'.entries key).lookup name) :
    RepeatsBuiltin previous maps name builtin ↔ RepeatsBuiltin previous maps' name builtin := by
  constructor
  · rintro ⟨modeNew, exprNew, mode, expr⟩
    rw [same] at mode expr
    exact ⟨modeNew, exprNew, mode, expr⟩
  · rintro ⟨modeNew, exprNew, mode, expr⟩
    rw [← same] at mode expr
    exact ⟨modeNew, exprNew, mode, expr⟩

theorem stripBuiltin_of_repeats (repeats : RepeatsBuiltin previous maps name builtin) :
    stripBuiltin previous maps name builtin =
      { maps with
        entries := fun key =>
          if key.numeric then maps.entries key
          else (maps.entries key).erase name } := by
  unfold stripBuiltin
  rw [repeats.modeNew, repeats.exprNew]
  rw [if_neg (by simp), if_neg (by simp),
    if_neg (not_and_or.mpr (repeats.mode.imp not_not.mpr not_not.mpr)),
    if_neg (not_and_or.mpr (repeats.expr.imp not_not.mpr not_not.mpr))]

theorem stripBuiltin_of_not_repeats (differs : ¬ RepeatsBuiltin previous maps name builtin) :
    stripBuiltin previous maps name builtin = maps := by
  unfold stripBuiltin
  dsimp only
  split
  · rfl
  rename_i modeNew
  split
  · rfl
  rename_i exprNew
  split
  · rfl
  rename_i mode
  split
  · rfl
  rename_i expr
  refine absurd ⟨?_, ?_, ?_, ?_⟩ differs
  · simpa using modeNew
  · simpa using exprNew
  · exact (not_and_or.mp mode).imp not_not.mp not_not.mp
  · exact (not_and_or.mp expr).imp not_not.mp not_not.mp

end

theorem stripBuiltin_pluginExprs (previous maps : PricingMaps) (name builtin : String) :
    (stripBuiltin previous maps name builtin).pluginExprs = maps.pluginExprs := by
  by_cases repeats : RepeatsBuiltin previous maps name builtin
  · rw [stripBuiltin_of_repeats repeats]
  · rw [stripBuiltin_of_not_repeats repeats]

theorem lookup_stripBuiltin_other {name : String} (previous maps : PricingMaps) (builtin : String)
    (key : PricingKey) (different : other ≠ name) :
    ((stripBuiltin previous maps name builtin).entries key).lookup other =
      (maps.entries key).lookup other := by
  by_cases repeats : RepeatsBuiltin previous maps name builtin
  · rw [stripBuiltin_of_repeats repeats]
    dsimp only
    split
    · rfl
    · exact AList.lookup_erase_ne different
  · rw [stripBuiltin_of_not_repeats repeats]

theorem lookup_stripFold {entries : List (Sigma (fun _ : String => String))}
    (nodup : entries.NodupKeys) (previous maps : PricingMaps) (name : String) (key : PricingKey) :
    ((entries.foldl (fun maps entry => stripBuiltin previous maps entry.1 entry.2)
          maps).entries key).lookup name =
      match entries.dlookup name with
      | some builtin => ((stripBuiltin previous maps name builtin).entries key).lookup name
      | none => (maps.entries key).lookup name := by
  induction entries generalizing maps with
  | nil => rfl
  | cons entry rest ih =>
    obtain ⟨entryName, builtin⟩ := entry
    obtain ⟨absent, restNodup⟩ := List.nodupKeys_cons.mp nodup
    rw [List.foldl_cons, ih restNodup]
    by_cases same : name = entryName
    · subst same
      rw [List.dlookup_eq_none.mpr absent, List.dlookup_cons_eq]
    · rw [List.dlookup_cons_ne _ _ same]
      have unseen (key : PricingKey) := lookup_stripBuiltin_other previous maps builtin key same
      cases found : rest.dlookup name with
      | none => exact unseen key
      | some ownBuiltin =>
        dsimp only
        by_cases repeats : RepeatsBuiltin previous maps name ownBuiltin
        · rw [stripBuiltin_of_repeats repeats,
            stripBuiltin_of_repeats ((RepeatsBuiltin.congr unseen).mpr repeats)]
          dsimp only
          split
          · exact unseen key
          · rw [AList.lookup_erase, AList.lookup_erase]
        · rw [stripBuiltin_of_not_repeats repeats,
            stripBuiltin_of_not_repeats
              (fun later => repeats ((RepeatsBuiltin.congr unseen).mp later)),
            unseen]

theorem stripDisplayOnlyBuiltinPricing_pluginExprs
    (env : PricingEnv) (previous maps : PricingMaps) :
    (stripDisplayOnlyBuiltinPricing env previous maps).pluginExprs = maps.pluginExprs := by
  unfold stripDisplayOnlyBuiltinPricing
  induction env.builtinBillingExpr.entries generalizing maps with
  | nil => rfl
  | cons entry rest ih => rw [List.foldl_cons, ih, stripBuiltin_pluginExprs]

/-- What the stripping leaves of a model: everything, or everything but a mode
and an expression that repeat its built-in expression. -/
theorem lookup_stripDisplayOnlyBuiltinPricing
    (env : PricingEnv) (previous maps : PricingMaps) (name : String) (key : PricingKey) :
    (((∃ builtin, env.builtinBillingExpr.lookup name = some builtin ∧
          RepeatsBuiltin previous maps name builtin) ∧ !key.numeric) →
      ((stripDisplayOnlyBuiltinPricing env previous maps).entries key).lookup name = none) ∧
    (¬ ((∃ builtin, env.builtinBillingExpr.lookup name = some builtin ∧
          RepeatsBuiltin previous maps name builtin) ∧ !key.numeric) →
      ((stripDisplayOnlyBuiltinPricing env previous maps).entries key).lookup
          name = (maps.entries key).lookup name) := by
  have seen := lookup_stripFold env.builtinBillingExpr.nodupKeys previous maps name key
  change ((stripDisplayOnlyBuiltinPricing env previous maps).entries key).lookup name = _ at seen
  rw [seen]
  constructor
  · rintro ⟨⟨builtin, found, repeats⟩, textual⟩
    have lookupEq : env.builtinBillingExpr.entries.dlookup name = some builtin := found
    rw [lookupEq]
    dsimp only
    rw [stripBuiltin_of_repeats repeats]
    dsimp only
    rw [if_neg (by simpa using textual), AList.lookup_erase]
  · intro kept
    cases found : env.builtinBillingExpr.entries.dlookup name with
    | none => rfl
    | some builtin =>
      dsimp only
      by_cases repeats : RepeatsBuiltin previous maps name builtin
      · rw [stripBuiltin_of_repeats repeats]
        have numeric : key.numeric = true := by
          by_contra textual
          exact kept ⟨⟨builtin, found, repeats⟩, by simpa using textual⟩
        simp [numeric]
      · rw [stripBuiltin_of_not_repeats repeats]

theorem aliasedPricingValues_congr {maps : PricingMaps} {name : String}
    (own : ∀ key, (maps.entries key).lookup name = (maps'.entries key).lookup name)
    (wildcard : ∀ key : PricingKey, key.numeric = true →
      (maps.entries key).lookup (formatMatchingModelName name) =
        (maps'.entries key).lookup (formatMatchingModelName name))
    (variants : modelVariants maps.pluginExprs name = modelVariants maps'.pluginExprs name) :
    aliasedPricingValues maps name = aliasedPricingValues maps' name := by
  unfold aliasedPricingValues modelPricingValues
  rw [variants]
  simp only [mk.injEq, and_true]
  funext key
  rw [own key]
  cases numeric : key.numeric with
  | false => rfl
  | true => rw [wildcard key numeric]

theorem effectiveModelPricing_congr (env : PricingEnv) {maps : PricingMaps} {name : String}
    (same : aliasedPricingValues maps name = aliasedPricingValues maps' name) :
    effectiveModelPricing env maps name = effectiveModelPricing env maps' name := by
  unfold effectiveModelPricing
  rw [same]

/-! ## What a validated draft is -/

theorem forM_eq_ok {α : Type} {check : α → Except String Unit} {items : List α}
    (passed : items.forM check = .ok ()) :
    ∀ item ∈ items, check item = .ok () := by
  induction items with
  | nil => simp
  | cons first rest ih =>
    obtain ⟨_, firstPassed, restPassed⟩ := bind_ok_iff.mp passed
    intro item member
    rcases List.mem_cons.mp member with rfl | later
    · exact firstPassed
    · exact ih restPassed item later

structure Validated (env : PricingEnv) (name : String) (values previous : PricingValues) :
    Prop where
  named : trimSpace name ≠ ""
  variants : ∀ variant ∈ values.variants.variants,
    validateVariant env name previous variant = .ok ()
  fields : ∀ key ∈ PricingKey.all, validateField env name values previous key = .ok ()

theorem validateModelPricing_validated {env : PricingEnv} {name : String} {values : PricingValues}
    (passed : validateModelPricing env name values previous = .ok ()) :
    Validated env name values previous := by
  unfold validateModelPricing at passed
  split at passed
  · cases passed
  rename_i named
  split at passed
  · cases passed
  obtain ⟨_, variants, passed⟩ := bind_ok_iff.mp passed
  obtain ⟨_, _, passed⟩ := bind_ok_iff.mp passed
  obtain ⟨_, fields, _⟩ := bind_ok_iff.mp passed
  exact ⟨named, forM_eq_ok variants, forM_eq_ok fields⟩

section

variable {env : PricingEnv} {name : String} {values : PricingValues}
  (validated : Validated env name values previous)
include validated

theorem Validated.field (key : PricingKey) :
    validateField env name values previous key = .ok () :=
  validated.fields key (by cases key <;> decide)

theorem Validated.mode {value : PricingValue} (drafted : values.value .billingMode = some value) :
    (canonicalBillingMode value).isSome = true := by
  have passed := validated.field .billingMode
  unfold validateField at passed
  rw [drafted] at passed
  dsimp only at passed
  split at passed
  · rename_i known
    exact known
  · cases passed

theorem Validated.expr {value : PricingValue} (drafted : values.value .billingExpr = some value) :
    ∃ expression, value = .text expression ∧ expression ≠ "" := by
  have passed := validated.field .billingExpr
  unfold validateField at passed
  rw [drafted] at passed
  dsimp only at passed
  split at passed
  · cases passed
  rename_i notBlank
  cases value with
  | text expression =>
    refine ⟨expression, rfl, ?_⟩
    intro blank
    rw [blank] at notBlank
    exact notBlank trimSpace_empty
  | number _ | other _ => exact absurd trimSpace_empty notBlank

end

theorem modelPricingValues_variants (maps : PricingMaps) (name : String) :
    (modelPricingValues maps name).variants.variants = modelVariants maps.pluginExprs name := by
  unfold modelPricingValues
  split
  · rename_i empty
    exact empty.symm
  · rfl

theorem modelVariants_validKey {pluginExprs : PricingMap} {name : String}
    {variant : String × PricingValue} (member : variant ∈ modelVariants pluginExprs name) :
    validPluginKey variant.1 = true := by
  obtain ⟨entry, _, selected⟩ := List.mem_filterMap.mp member
  split at selected
  · rename_i plugin model split
    split at selected
    · injection selected with equal
      rw [← equal]
      exact splitPluginBillingExprKey_valid split
    · cases selected
  · cases selected

theorem Validated.variantKey {env : PricingEnv} {maps : PricingMaps} {name : String}
    {values : PricingValues} (validated : Validated env name values (modelPricingValues maps name))
    {variant : String × PricingValue} (member : variant ∈ values.variants.variants) :
    validPluginKey variant.1 = true := by
  have passed := validated.variants variant member
  unfold validateVariant at passed
  dsimp only at passed
  split at passed
  · cases passed
  split at passed
  · rename_i unchanged
    have stored := unchanged.1
    rw [modelPricingValues_variants] at stored
    obtain ⟨before, after, listed, _⟩ := List.lookup_eq_some_iff.mp stored
    refine @modelVariants_validKey maps.pluginExprs name
      (variant.1, .text (PricingValue.textOf (some variant.2))) ?_
    rw [listed]
    simp
  · split at passed
    · cases passed
    rename_i plugin declaring
    obtain ⟨found, _⟩ := Option.filter_eq_some_iff.mp declaring
    have pluginKey : plugin.key = variant.1 := by simpa using List.find?_some found
    rw [← pluginKey]
    exact env.registry.keysValid plugin (List.mem_of_find?_eq_some found)

def savedMaps (env : PricingEnv) (maps : PricingMaps) (name : String)
    (draft : PricingValues) : PricingMaps :=
  stripDisplayOnlyBuiltinPricing env maps (replaceModelPricing maps name draft)

theorem updateModelPricing_single
    {env : PricingEnv} {faults : StatementFaults} {rows saved : OptionRows}
    {change : ModelPricingChange}
    (accepted : updateModelPricing env faults rows [change] = .ok saved) :
    let maps := readModelPricingMaps env rows
    validateModelPricing env change.modelName (change.target env)
        (modelPricingValues maps change.modelName) = .ok () ∧
      readModelPricingMaps env saved = savedMaps env maps change.modelName (change.target env) := by
  intro maps
  unfold updateModelPricing at accepted
  obtain ⟨_, _, accepted⟩ := bind_ok_iff.mp accepted
  obtain ⟨_, _, accepted⟩ := bind_ok_iff.mp accepted
  obtain ⟨changed, applied, accepted⟩ := bind_ok_iff.mp accepted
  obtain ⟨_, _, accepted⟩ := bind_ok_iff.mp accepted
  cases accepted
  obtain ⟨replaced, applied, last⟩ := bind_ok_iff.mp applied
  cases last
  unfold applyChange at applied
  dsimp only at applied
  split at applied
  · cases applied
  obtain ⟨_, validated, applied⟩ := bind_ok_iff.mp applied
  obtain ⟨_, _, applied⟩ := bind_ok_iff.mp applied
  cases applied
  exact ⟨validated, rfl⟩

theorem effectiveModelPricing_savedMaps_other {env : PricingEnv} {maps : PricingMaps}
    {name : String} {draft : PricingValues}
    (validated : Validated env name draft (modelPricingValues maps name)) (otherName : other ≠ name)
    (otherWildcard : formatMatchingModelName other ≠ name) :
    effectiveModelPricing env (savedMaps env maps name draft) other =
      effectiveModelPricing env maps other := by
  have kept {model : String} (different : model ≠ name) (key : PricingKey) :
      ((savedMaps env maps name draft).entries key).lookup model =
        (maps.entries key).lookup model := by
    have replaced (key : PricingKey) := lookup_replaceModelPricing_other maps draft key different
    obtain ⟨forgotten, untouched⟩ :=
      lookup_stripDisplayOnlyBuiltinPricing env maps (replaceModelPricing maps name draft) model key
    unfold savedMaps
    by_cases strips : (∃ builtin, env.builtinBillingExpr.lookup model = some builtin ∧
          RepeatsBuiltin maps (replaceModelPricing maps name draft) model builtin) ∧ !key.numeric
    · rw [forgotten strips]
      obtain ⟨⟨builtin, _, repeats⟩, textual⟩ := strips
      cases key with
      | billingMode => exact repeats.modeNew.symm
      | billingExpr => exact repeats.exprNew.symm
      | _ => cases textual
    · rw [untouched strips, replaced]
  apply effectiveModelPricing_congr
  apply aliasedPricingValues_congr
  · exact kept otherName
  · exact fun key _ => kept otherWildcard key
  · unfold savedMaps
    rw [stripDisplayOnlyBuiltinPricing_pluginExprs]
    exact modelVariants_replaceVariants maps.pluginExprs otherName
        validated.named (fun variant member => validated.variantKey member)

/-! ## The changed model -/

/-- The draft has nothing but the built-in expression for mode and expression,
and neither was stored before. -/
structure DraftRepeatsBuiltin (env : PricingEnv) (maps : PricingMaps) (name : String)
    (draft : PricingValues) (builtin : String) : Prop where
  isBuiltin : env.builtinBillingExpr.lookup name = some builtin
  modeNew : (maps.entries .billingMode).lookup name = none
  exprNew : (maps.entries .billingExpr).lookup name = none
  mode :
    draft.value .billingMode = none ∨ draft.value .billingMode = some (.text billingModeTieredExpr)
  expr : draft.value .billingExpr = none ∨ draft.value .billingExpr = some (.text builtin)

/-- A model price or ratio is drafted, or stored under the wildcard name. -/
def HasLegacyPrice (maps : PricingMaps) (name : String) (draft : PricingValues) : Prop :=
  ∃ key, (key = PricingKey.modelPrice ∨ key = PricingKey.modelRatio) ∧
    ((draft.value key).isSome ∨
      (formatMatchingModelName name ≠ name ∧
        ((maps.entries key).lookup (formatMatchingModelName name)).isSome))

/-- The save forgets a drafted mode or expression that a price or ratio stands
beside. -/
def ForgetsDraftedMode (env : PricingEnv) (maps : PricingMaps) (name : String)
    (draft : PricingValues) : Prop :=
  (∃ builtin, DraftRepeatsBuiltin env maps name draft builtin) ∧
    ((draft.value .billingMode).isSome ∨ (draft.value .billingExpr).isSome) ∧
    HasLegacyPrice maps name draft

section ChangedModel

variable {env : PricingEnv} {maps : PricingMaps} {name : String} {draft : PricingValues}

theorem aliasedPricingValues_replace_textual {key : PricingKey} (textual : key.numeric = false) :
    (aliasedPricingValues (replaceModelPricing maps name draft) name).value key =
      draft.value key := by
  unfold aliasedPricingValues
  simp only [textual, Bool.false_eq_true, if_false]
  exact lookup_replaceModelPricing_self maps name draft key

theorem aliasedPricingValues_replace_isSome {key : PricingKey} (numeric : key.numeric = true) :
    ((aliasedPricingValues (replaceModelPricing maps name draft) name).value key).isSome ↔
      (draft.value key).isSome ∨
        (formatMatchingModelName name ≠ name ∧
          ((maps.entries key).lookup (formatMatchingModelName name)).isSome) := by
  have own := lookup_replaceModelPricing_self maps name draft key
  unfold aliasedPricingValues modelPricingValues
  simp only [numeric, if_true, own, Option.isSome_or, Bool.or_eq_true]
  by_cases same : formatMatchingModelName name = name
  · rw [same, own]
    simp
  · rw [lookup_replaceModelPricing_other maps draft key same]
    simp [same, or_comm]

theorem hasLegacyPrice_iff : HasLegacyPrice maps name draft ↔
      ((aliasedPricingValues (replaceModelPricing maps name draft) name).value .modelPrice).isSome ∨
        ((aliasedPricingValues (replaceModelPricing maps name draft)
          name).value .modelRatio).isSome := by
  rw [aliasedPricingValues_replace_isSome rfl, aliasedPricingValues_replace_isSome rfl]
  constructor
  · rintro ⟨key, rfl | rfl, present⟩
    · exact Or.inl present
    · exact Or.inr present
  · rintro (present | present)
    · exact ⟨.modelPrice, Or.inl rfl, present⟩
    · exact ⟨.modelRatio, Or.inr rfl, present⟩

/-- For a validated draft with a canonical mode the stripping test reads the
draft. -/
theorem repeatsBuiltin_iff_draft {builtin : String}
    (validated : Validated env name draft (modelPricingValues maps name))
    (isBuiltin : env.builtinBillingExpr.lookup name = some builtin) :
    RepeatsBuiltin maps (replaceModelPricing maps name draft) name builtin ↔
      DraftRepeatsBuiltin env maps name draft builtin := by
  have modeEq := lookup_replaceModelPricing_self maps name draft .billingMode
  have exprEq := lookup_replaceModelPricing_self maps name draft .billingExpr
  constructor
  · rintro ⟨modeNew, exprNew, mode, expr⟩
    rw [modeEq] at mode
    rw [exprEq] at expr
    refine ⟨isBuiltin, modeNew, exprNew, ?_, ?_⟩
    · cases drafted : draft.value .billingMode with
      | none => exact Or.inl rfl
      | some value =>
        have known := validated.mode drafted
        rw [drafted] at mode
        cases value with
        | text content =>
          rcases mode with empty | tiered
          · change content = "" at empty
            rw [empty] at known
            exact absurd known (by decide)
          · change content = billingModeTieredExpr at tiered
            exact Or.inr (by rw [tiered])
        | number _ => cases known
        | other _ => cases known
    · cases drafted : draft.value .billingExpr with
      | none => exact Or.inl rfl
      | some value =>
        obtain ⟨expression, rfl, notEmpty⟩ := validated.expr drafted
        rw [drafted] at expr
        rcases expr with empty | repeated
        · exact absurd empty notEmpty
        · change expression = builtin at repeated
          exact Or.inr (by rw [repeated])
  · rintro ⟨_, modeNew, exprNew, mode, expr⟩
    refine ⟨modeNew, exprNew, ?_, ?_⟩
    · rw [modeEq]
      rcases mode with absent | tiered
      · exact Or.inl (by rw [absent]; rfl)
      · exact Or.inr (by rw [tiered]; rfl)
    · rw [exprEq]
      rcases expr with absent | repeated
      · exact Or.inl (by rw [absent]; rfl)
      · exact Or.inr (by rw [repeated]; rfl)

def PricingValues.withoutExpression (values : PricingValues) :
    PricingValues :=
  { values with value := fun key => if key.numeric then values.value key else none }

theorem aliasedPricingValues_savedMaps
    (validated : Validated env name draft (modelPricingValues maps name)) :
    ((∃ builtin, DraftRepeatsBuiltin env maps name draft builtin) →
      aliasedPricingValues (savedMaps env maps name draft) name =
        (aliasedPricingValues (replaceModelPricing maps name draft) name).withoutExpression) ∧
    (¬ (∃ builtin, DraftRepeatsBuiltin env maps name draft builtin) →
      aliasedPricingValues (savedMaps env maps name draft) name =
        aliasedPricingValues (replaceModelPricing maps name draft) name) := by
  have draftIff : (∃ builtin, env.builtinBillingExpr.lookup name = some builtin ∧
          RepeatsBuiltin maps (replaceModelPricing maps name draft) name builtin) ↔
        ∃ builtin, DraftRepeatsBuiltin env maps name draft builtin := by
    constructor
    · rintro ⟨builtin, isBuiltin, repeats⟩
      exact ⟨builtin, (repeatsBuiltin_iff_draft validated isBuiltin).mp repeats⟩
    · rintro ⟨builtin, repeats⟩
      exact ⟨builtin, repeats.isBuiltin,
        (repeatsBuiltin_iff_draft validated repeats.isBuiltin).mpr repeats⟩
  have stripped (model : String) (key : PricingKey) :=
    lookup_stripDisplayOnlyBuiltinPricing env maps (replaceModelPricing maps name draft) model key
  have numericKept (model : String) {key : PricingKey} (numeric : key.numeric = true) :
      ((savedMaps env maps name draft).entries key).lookup model =
        ((replaceModelPricing maps name draft).entries key).lookup model :=
    (stripped model key).2 (by simp [numeric])
  have variants : modelVariants (savedMaps env maps name draft).pluginExprs name =
        modelVariants (replaceModelPricing maps name draft).pluginExprs name := by
    unfold savedMaps
    rw [stripDisplayOnlyBuiltinPricing_pluginExprs]
  constructor
  · intro repeats
    unfold withoutExpression aliasedPricingValues modelPricingValues
    rw [variants]
    simp only [mk.injEq, and_true]
    funext key
    cases numeric : key.numeric with
    | false => exact (stripped name key).1 ⟨draftIff.mpr repeats, by simp [numeric]⟩
    | true =>
      rw [numericKept name numeric, numericKept _ numeric]
      rfl
  · intro differs
    apply aliasedPricingValues_congr
    · intro key
      exact (stripped name key).2 (fun strips => differs (draftIff.mp strips.1))
    · exact fun key numeric => numericKept _ numeric
    · exact variants

theorem effectiveValues_textual {values : PricingValues} (key : PricingKey)
    (textual : key.numeric = false)
    (legacy : effectiveMode env name values ≠ billingModeTieredExpr) :
    (effectiveValues env name values).value key = values.value key := by
  unfold effectiveValues
  rw [if_neg legacy]
  split
  · rfl
  · cases key with
    | billingMode => rfl
    | billingExpr => rfl
    | _ => cases textual

/-- Forgetting what repeats the built-in expression shows exactly when a price
or a ratio stands beside it. -/
theorem effectiveValues_withoutExpression_iff {values : PricingValues} {builtin : String}
    (isBuiltin : env.builtinBillingExpr.lookup name = some builtin)
    (mode : values.value .billingMode = none ∨
        values.value .billingMode = some (.text billingModeTieredExpr))
    (expr : values.value .billingExpr = none ∨ values.value .billingExpr = some (.text builtin)) :
    effectiveValues env name values.withoutExpression = effectiveValues env name values ↔
      ¬ (((values.value .billingMode).isSome ∨ (values.value .billingExpr).isSome) ∧
        ((values.value .modelPrice).isSome ∨ (values.value .modelRatio).isSome)) := by
  have strippedMode : values.withoutExpression.value .billingMode = none := rfl
  have strippedExpr : values.withoutExpression.value .billingExpr = none := rfl
  by_cases priced : (values.value .modelPrice).isSome ∨ (values.value .modelRatio).isSome
  · have unpricedFalse :
        ¬ ((values.value .modelPrice).isNone ∧ (values.value .modelRatio).isNone) := by
      rintro ⟨noPrice, noRatio⟩
      simp_all
    have strippedLegacy :
        effectiveMode env name values.withoutExpression ≠ billingModeTieredExpr := by
      have modeEq : effectiveMode env name values.withoutExpression = "" := by
        unfold effectiveMode
        rw [if_neg (fun all => unpricedFalse all.2.2)]
        rfl
      rw [modeEq]
      decide
    have forgotten (key : PricingKey) (textual : key.numeric = false) :
        (effectiveValues env name values.withoutExpression).value key = none := by
      rw [effectiveValues_textual key textual strippedLegacy]
      simp [withoutExpression, textual]
    constructor
    · rintro equal ⟨drafted, _⟩
      rcases mode with noMode | tiered
      · have legacy : effectiveMode env name values ≠ billingModeTieredExpr := by
          have modeEq : effectiveMode env name values = "" := by
            unfold effectiveMode
            rw [noMode]
            rw [if_neg (fun all => unpricedFalse all.2.2)]
            rfl
          rw [modeEq]
          decide
        have lost := forgotten .billingExpr rfl
        rw [equal, effectiveValues_textual .billingExpr rfl legacy] at lost
        simp [noMode, lost] at drafted
      · have lost := forgotten .billingMode rfl
        rw [equal] at lost
        unfold effectiveValues at lost
        have tieredMode : effectiveMode env name values = billingModeTieredExpr := by
          unfold effectiveMode
          rw [tiered]
          rfl
        rw [if_pos tieredMode] at lost
        cases lost
    · intro undrafted
      have same : values.withoutExpression = values := by
        have none_ : values.value .billingMode = none ∧ values.value .billingExpr = none := by
          by_contra present
          apply undrafted
          refine ⟨?_, priced⟩
          rw [Option.isSome_iff_ne_none, Option.isSome_iff_ne_none]
          exact not_and_or.mp present
        unfold withoutExpression
        congr 1
        funext key
        cases key with
        | billingMode => exact none_.1.symm
        | billingExpr => exact none_.2.symm
        | _ => rfl
      rw [same]
  · refine iff_of_true ?_ (fun both => priced both.2)
    have unpriced :
        (values.value .modelPrice).isNone = true ∧ (values.value .modelRatio).isNone = true := by
      simpa using priced
    have tieredBefore : effectiveMode env name values = billingModeTieredExpr := by
      unfold effectiveMode
      rcases mode with noMode | tiered
      · rw [noMode, isBuiltin]
        exact if_pos ⟨rfl, rfl, unpriced⟩
      · rw [tiered]
        rfl
    have tieredAfter : effectiveMode env name values.withoutExpression = billingModeTieredExpr := by
      unfold effectiveMode
      rw [strippedMode, isBuiltin]
      exact if_pos ⟨rfl, rfl, unpriced⟩
    unfold effectiveValues
    rw [if_pos tieredBefore, if_pos tieredAfter]
    unfold withExpression
    rw [strippedExpr, isBuiltin]
    congr 1
    funext key
    cases key with
    | billingExpr =>
      rcases expr with absent | repeated
      · rw [absent]
      · rw [repeated]
        rfl
    | _ => rfl

/-- A save shows what was drafted unless it forgets the mode. -/
theorem effectiveModelPricing_savedMaps_iff
    (validated : Validated env name draft (modelPricingValues maps name)) :
    effectiveModelPricing env (savedMaps env maps name draft) name =
        effectiveModelPricing env (replaceModelPricing maps name draft) name ↔
      ¬ ForgetsDraftedMode env maps name draft := by
  obtain ⟨stripped, kept⟩ := aliasedPricingValues_savedMaps validated
  unfold ForgetsDraftedMode effectiveModelPricing
  by_cases repeats : ∃ builtin, DraftRepeatsBuiltin env maps name draft builtin
  · rw [stripped repeats, hasLegacyPrice_iff]
    obtain ⟨builtin, draftRepeats⟩ := repeats
    have modeEq := @aliasedPricingValues_replace_textual maps name draft .billingMode rfl
    have exprEq := @aliasedPricingValues_replace_textual maps name draft .billingExpr rfl
    rw [effectiveValues_withoutExpression_iff draftRepeats.isBuiltin
      (by rw [modeEq]; exact draftRepeats.mode)
      (by rw [exprEq]; exact draftRepeats.expr), modeEq, exprEq]
    exact not_congr (iff_and_self.mpr (fun _ => ⟨builtin, draftRepeats⟩))
  · rw [kept repeats]
    exact iff_of_true rfl (fun forgets => repeats forgets.1)

end ChangedModel

/-- A draft is saved as it was previewed, with every other model left alone,
exactly when the save does not forget its mode or expression beside a price.
A rejected change leaves the rows as they were. -/
theorem savedPricing_previewed_iff {env : PricingEnv} {faults : StatementFaults} {rows : OptionRows}
    {change : ModelPricingChange} {draft : PricingValues}
    (drafted : change.pricing = some draft) (noReset : change.reset = false)
    (canonical : canonicalizePricingValues draft = draft) :
    (∀ saved, updateModelPricing env faults rows [change] = .ok saved →
      ((previewModelPricing env rows change.modelName (some draft) =
            .ok (effectiveModelPricing env (readModelPricingMaps env saved) change.modelName) ∧
          ∀ other, other ≠ change.modelName → formatMatchingModelName other ≠ change.modelName →
            effectiveModelPricing env (readModelPricingMaps env saved) other =
              effectiveModelPricing env (readModelPricingMaps env rows) other) ↔
        ¬ ForgetsDraftedMode env (readModelPricingMaps env rows) change.modelName draft)) ∧
    (∀ err, updateModelPricing env faults rows [change] = .error err →
      rowsAfterUpdate env faults rows [change] = rows) := by
  have target : change.target env = draft := by
    simp [ModelPricingChange.target, noReset, drafted, canonical]
  constructor
  · intro saved accepted
    obtain ⟨passed, savedEq⟩ := updateModelPricing_single accepted
    rw [target] at passed savedEq
    have validated := validateModelPricing_validated passed
    have previewEq : previewModelPricing env rows change.modelName (some draft) =
          .ok (effectiveModelPricing env
            (replaceModelPricing (readModelPricingMaps env rows) change.modelName draft)
            change.modelName) := by
      unfold previewModelPricing
      dsimp only
      rw [passed]
      rfl
    rw [savedEq, previewEq, ← effectiveModelPricing_savedMaps_iff validated]
    constructor
    · rintro ⟨shown, _⟩
      exact (Except.ok.inj shown).symm
    · intro equal
      refine ⟨by rw [equal], ?_⟩
      intro other otherName otherWildcard
      exact effectiveModelPricing_savedMaps_other validated otherName otherWildcard
  · intro err rejected
    unfold rowsAfterUpdate
    rw [rejected, commit_error]

def astraBuiltin : String :=
  "len <= 272000 ? tier(\"standard\", p * 10 + c * 50 + cr * 1 + cc * 12.5)" ++
    " : tier(\"long_context\", p * 20 + c * 75 + cr * 2 + cc * 25)"

def freshEnv : PricingEnv where
  builtinBillingExpr := AList.singleton "gpt-6-astra" astraBuiltin
  defaultPricingMaps := { entries := fun _ => ∅, pluginExprs := ∅ }
  selfUseModeEnabled := false
  registry := { plugins := [], keysValid := by simp }
  modelPricingVersion := fun _ => "v1"
  compileFromCache := fun _ => .ok ()
  usesUsageKeys := fun _ => false
  smokeTestExpr := fun _ => .ok ()
  smokeTestTaskExpr := fun _ _ _ => .ok ()
  resolveTaskModelAlias := fun _ => none
  sprintValue := fun _ => ""

def freshRows : OptionRows where
  entries _ := none
  pluginExprs := none

def astraDraft (ratio : Option PricingValue) : PricingValues where
  value
    | .billingMode => some (.text "tiered_expr")
    | .modelRatio => ratio
    | _ => none

def astraChange (ratio : Option PricingValue) : ModelPricingChange where
  modelName := "gpt-6-astra"
  expectedVersion := "v1"
  pricing := some (astraDraft ratio)

theorem astraDraft_canonical (ratio : Option PricingValue) :
    canonicalizePricingValues (astraDraft ratio) = astraDraft ratio := by
  change mk _ _ _ = _
  congr 1
  funext key
  cases key <;> rfl

theorem savedPricing_previewed_builtin :
    ∃ saved,
      updateModelPricing freshEnv {} freshRows [astraChange none] = .ok saved ∧
        previewModelPricing freshEnv freshRows "gpt-6-astra" (some (astraDraft none)) =
          .ok (effectiveModelPricing freshEnv
            (readModelPricingMaps freshEnv saved) "gpt-6-astra") := by
  refine exists_ok (by decide +kernel) fun saved accepted => ?_
  have saveIff :=
    (@savedPricing_previewed_iff freshEnv {} freshRows (astraChange none)
      (astraDraft none) rfl rfl (astraDraft_canonical none)).1 saved accepted
  refine (saveIff.mpr ?_).1
  rintro ⟨_, _, key, rfl | rfl, present | ⟨renamed, _⟩⟩
  · cases present
  · exact renamed (by decide)
  · cases present
  · exact renamed (by decide)

/-- The preview shows the expression, the save bills by the ratio. -/
theorem savedPricing_differs_besideRatio :
    canonicalizePricingValues (astraDraft (some (.number 5))) = astraDraft (some (.number 5)) ∧
      ∃ saved shown,
        updateModelPricing freshEnv {} freshRows [astraChange (some (.number 5))] = .ok saved ∧
          previewModelPricing freshEnv freshRows "gpt-6-astra"
            (some (astraDraft (some (.number 5)))) = .ok shown ∧
          shown.value .billingMode = some (.text "tiered_expr") ∧
          (effectiveModelPricing freshEnv (readModelPricingMaps freshEnv saved)
            "gpt-6-astra").value .billingMode = none := by
  have billed :
      (updateModelPricing freshEnv {} freshRows [astraChange (some (.number 5))]).map (fun saved =>
        (effectiveModelPricing freshEnv (readModelPricingMaps freshEnv saved)
          "gpt-6-astra").value .billingMode) = .ok none := by
    decide +kernel
  obtain ⟨saved, accepted, byRatio⟩ := map_eq_ok_iff.mp billed
  have displayed :
      (previewModelPricing freshEnv freshRows "gpt-6-astra"
        (some (astraDraft (some (.number 5))))).map (fun shown => shown.value .billingMode) =
          .ok (some (.text "tiered_expr")) := by
    decide +kernel
  obtain ⟨shown, previewed, byExpression⟩ := map_eq_ok_iff.mp displayed
  exact ⟨astraDraft_canonical _, saved, shown, accepted, previewed, byExpression, byRatio⟩

end NewApi.Pricing
