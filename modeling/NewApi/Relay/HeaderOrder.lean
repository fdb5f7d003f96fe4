import NewApi.Lib.Transactions
import NewApi.Relay.HeaderOverride

/-!
# The order of header maps

A call ranges over the configured headers in an order of its own.  It shows
only where two names of the map are the same once they are trimmed and in lower
case.  The header map of a context has normalised names, whatever operations
have been applied to it, so that it is read back the same in every order.
-/

namespace NewApi.Relay

open GoStrings SortedMaps Transactions

section Order

variable {β : Type} (engine : OverrideEngine β)

/-- No two names of a map are the same once they are normalised. -/
def NamesDistinct {α : Type} (entries : List (String × α)) : Prop :=
  (entries.map fun entry => normalizeHeaderContextKey engine entry.1).Nodup

/-- A header map of a context: in the order of its names, which are normalised. -/
structure Headers.Normal (headers : Headers) : Prop where
  sorted : Sorted headers
  normalized : ∀ entry ∈ headers, normalizeHeaderContextKey engine entry.1 = entry.1

theorem normalize_normalize (key : String) :
    normalizeHeaderContextKey engine (normalizeHeaderContextKey engine key) =
      normalizeHeaderContextKey engine key := by
  have lowered : toLower engine.mapping (normalizeHeaderContextKey engine key) =
      normalizeHeaderContextKey engine key := by
    have fixed : ∀ char ∈ (normalizeHeaderContextKey engine key).toList,
        engine.mapping.lower char = char := by
      intro char member
      rw [normalizeHeaderContextKey, trimSpace_eq, String.toList_ofList] at member
      have kept : char ∈ (toLower engine.mapping key).toList :=
        (List.dropWhile_sublist _).subset ((List.rdropWhile_prefix _ _).subset member)
      rw [toLower, String.toList_ofList] at kept
      obtain ⟨source, _, rfl⟩ := List.mem_map.mp kept
      exact engine.lower_lower source
    rw [toLower, List.map_congr_left fixed, List.map_id', String.ofList_toList]
  conv_lhs => rw [normalizeHeaderContextKey, lowered]
  exact trimSpace_trimSpace _

theorem sanitizeEntry_name {entry : String × JsonValue} {found : String × String}
    (read : sanitizeEntry engine entry = some found) :
    found.1 = normalizeHeaderContextKey engine entry.1 := by
  unfold sanitizeEntry at read
  dsimp only at read
  split_ifs at read
  all_goals
    obtain rfl := Option.some.inj read
    rfl

theorem requestHeaderEntry_name {entry found : String × String}
    (read : requestHeaderEntry engine entry = some found) :
    found.1 = normalizeHeaderContextKey engine entry.1 := by
  unfold requestHeaderEntry at read
  dsimp only at read
  split_ifs at read
  obtain rfl := Option.some.inj read
  rfl

variable {engine} {headers : Headers} {name value : String}

theorem nodup_read_names {α : Type} {read : String × α → Option (String × String)}
    (names : ∀ entry found, read entry = some found →
      found.1 = normalizeHeaderContextKey engine entry.1)
    {entries : List (String × α)} (distinct : NamesDistinct engine entries) :
    ((entries.filterMap read).map Prod.fst).Nodup := by
  have sub : ((entries.filterMap read).map Prod.fst).Sublist
      (entries.map fun entry => normalizeHeaderContextKey engine entry.1) := by
    clear distinct
    induction entries with
    | nil => exact List.Sublist.refl _
    | cons entry entries ih =>
      cases found : read entry with
      | none =>
        rw [List.filterMap_cons_none found]
        exact ih.cons _
      | some kept =>
        rw [List.filterMap_cons_some found, List.map_cons, List.map_cons, names entry kept found]
        exact ih.cons_cons _
  exact sub.nodup distinct

/-- The sanitised map of distinct names does not depend on the order. -/
theorem sanitize_ranging {source : List (String × JsonValue)}
    (distinct : NamesDistinct engine source) (first second : Ranging) :
    sanitizeHeaderOverrideMap engine first source =
      sanitizeHeaderOverrideMap engine second source := by
  have own : (first.order source).Perm (second.order source) :=
    (first.perm source).trans (second.perm source).symm
  refine collect_eq_of_perm (nodup_read_names (fun _ _ => sanitizeEntry_name engine) ?_) own
  exact ((first.perm source).map _).nodup_iff.mpr distinct

theorem Headers.Normal.namesDistinct (normal : headers.Normal engine) :
    NamesDistinct engine headers.values := by
  have same : headers.values.map (fun entry => normalizeHeaderContextKey engine entry.1) =
      headers.map Prod.fst := by
    rw [Headers.values, List.map_map]
    exact List.map_congr_left normal.normalized
  unfold NamesDistinct
  rw [same]
  exact normal.sorted.nodup_keys

theorem sanitize_normal (ranging : Ranging) (source : List (String × JsonValue)) :
    (sanitizeHeaderOverrideMap engine ranging source).Normal engine where
  sorted := sorted_collect _ _
  normalized := by
    intro entry member
    obtain ⟨item, _, read⟩ := mem_collect member
    rw [sanitizeEntry_name engine read]
    exact normalize_normalize engine item.1

/-! ## Request headers -/

theorem normalize_token (tokens : ∀ char ∈ name.toList, char.toNat < 128 ∧ isSpace char = false) :
    normalizeHeaderContextKey engine name = String.ofList (name.toList.map Char.toLower) := by
  have lowered : name.toList.map engine.mapping.lower = name.toList.map Char.toLower :=
    List.map_congr_left fun char listed => engine.lower_ascii char (tokens char listed).1
  have solid : ∀ char ∈ name.toList.map Char.toLower, isSpace char = false := by
    have ascii : ∀ code < 128, isSpace (Char.ofNat code) = false →
        isSpace (Char.ofNat code).toLower = false := by decide +kernel
    intro char member
    obtain ⟨source, listed, rfl⟩ := List.mem_map.mp member
    have token := tokens source listed
    have checked := ascii source.toNat token.1
    rw [Char.ofNat_toNat] at checked
    exact checked token.2
  rw [normalizeHeaderContextKey, toLower, lowered, trimSpace_eq, String.toList_ofList,
    trimFunc_eq_self]
  · intro char first
    exact solid char (List.mem_of_mem_head? first)
  · intro char last
    exact solid char (List.mem_of_getLast? last)

theorem ClientRequest.namesDistinct (client : ClientRequest) :
    NamesDistinct engine client.requestHeaders := by
  have same : client.requestHeaders.map (fun entry => normalizeHeaderContextKey engine entry.1) =
      (client.requestHeaders.map fun entry => entry.1.toList.map Char.toLower).map
        String.ofList := by
    rw [List.map_map]
    exact List.map_congr_left fun entry listed => normalize_token (client.tokens entry listed)
  unfold NamesDistinct
  rw [same]
  refine client.oneSpelling.map ?_
  intro left right equal
  simpa using congrArg String.toList equal

theorem requestHeaders_ranging (client : ClientRequest) (first second : Ranging) :
    buildRequestHeadersContext engine first client.requestHeaders =
      buildRequestHeadersContext engine second client.requestHeaders := by
  have own : (first.order client.requestHeaders).Perm (second.order client.requestHeaders) :=
    (first.perm _).trans (second.perm _).symm
  refine collect_eq_of_perm (nodup_read_names (fun _ _ => requestHeaderEntry_name engine) ?_) own
  exact ((first.perm _).map _).nodup_iff.mpr client.namesDistinct

/-- A context is the same in every order of ranging when the names of the
headers in force are distinct. -/
theorem buildParamOverrideContext_ranging {info : RelayInfo}
    (distinct : NamesDistinct engine (headersInForce info)) (first second : Ranging) :
    buildParamOverrideContext engine first info = buildParamOverrideContext engine second info := by
  have effective : getEffectiveHeaderOverride engine first info =
      getEffectiveHeaderOverride engine second info := sanitize_ranging distinct first second
  have normal : (getEffectiveHeaderOverride engine second info).Normal engine :=
    sanitize_normal second _
  unfold buildParamOverrideContext
  rw [effective, requestHeaders_ranging info.client first second,
    sanitize_ranging normal.namesDistinct first second]

theorem buildParamOverrideContext_normal (ranging : Ranging) (info : RelayInfo) :
    (buildParamOverrideContext engine ranging info).headerOverride.Normal engine :=
  sanitize_normal ranging _

/-! ## Operations keep normalised names -/

theorem Headers.Normal.remove (normal : headers.Normal engine) (name : String) :
    (headers.remove name).Normal engine where
  sorted := normal.sorted.erase name
  normalized entry member := normal.normalized entry (List.mem_of_mem_filter member)

theorem Headers.Normal.set (normal : headers.Normal engine)
    (own : normalizeHeaderContextKey engine name = name) (value : String) :
    (headers.set name value).Normal engine where
  sorted := normal.sorted.set name value
  normalized := by
    intro entry member
    rcases mem_set member with rfl | old
    · exact own
    · exact normal.normalized entry old

variable {context next : OverrideContext} (normal : context.headerOverride.Normal engine)
include normal

theorem setHeader_normal {item : JsonValue} {keepOrigin : Bool}
    (done : setHeaderOverrideInContext engine context name item keepOrigin = .ok next) :
    next.headerOverride.Normal engine := by
  unfold setHeaderOverrideInContext at done
  dsimp only at done
  split_ifs at done
  · obtain rfl := Except.ok.inj done
    exact normal
  · obtain ⟨text, _, rfl⟩ := map_eq_ok_iff.mp done
    cases text with
    | none => exact normal.remove _
    | some text => exact normal.set (normalize_normalize engine name) text

theorem deleteHeader_normal
    (done : deleteHeaderOverrideInContext engine context name = .ok next) :
    next.headerOverride.Normal engine := by
  unfold deleteHeaderOverrideInContext at done
  dsimp only at done
  split_ifs at done
  obtain rfl := Except.ok.inj done
  exact normal.remove _

theorem copyHeader_normal {fromHeader toHeader : String} {keepOrigin : Bool}
    {copied : Option OverrideContext}
    (done : copyHeaderInContext engine context fromHeader toHeader keepOrigin = .ok copied) :
    (copied.getD context).headerOverride.Normal engine := by
  unfold copyHeaderInContext at done
  dsimp only at done
  split_ifs at done
  split at done
  · obtain rfl := Except.ok.inj done
    exact normal
  · obtain ⟨next, written, rfl⟩ := map_eq_ok_iff.mp done
    exact setHeader_normal normal written

theorem moveHeader_normal {fromHeader toHeader : String} {keepOrigin : Bool}
    {moved : Option OverrideContext}
    (done : moveHeaderInContext engine context fromHeader toHeader keepOrigin = .ok moved) :
    (moved.getD context).headerOverride.Normal engine := by
  unfold moveHeaderInContext at done
  dsimp only at done
  by_cases missing : normalizeHeaderContextKey engine fromHeader = "" ∨
      normalizeHeaderContextKey engine toHeader = ""
  · rw [if_pos missing] at done
    cases done
  rw [if_neg missing] at done
  obtain ⟨copied, copies, done⟩ := bind_ok_iff.mp done
  cases copied with
  | none =>
    obtain rfl := Except.ok.inj done
    exact normal
  | some reached =>
    have kept : reached.headerOverride.Normal engine := copyHeader_normal normal copies
    dsimp only at done
    split at done
    · obtain rfl := Except.ok.inj done
      exact kept
    · obtain ⟨next, deleted, rfl⟩ := map_eq_ok_iff.mp done
      exact deleteHeader_normal kept deleted

omit normal in
theorem passHeaders_normal {keepOrigin : Bool} {names : List String} :
    ∀ {context next : OverrideContext}, context.headerOverride.Normal engine →
      passHeaders engine keepOrigin context names = .ok next →
        next.headerOverride.Normal engine := by
  induction names with
  | nil =>
    intro context next normal done
    obtain rfl := Except.ok.inj done
    exact normal
  | cons name names ih =>
    intro context next normal done
    obtain ⟨copied, copies, later⟩ := bind_ok_iff.mp done
    exact ih (copyHeader_normal normal copies) later

theorem syncFields_normal {body : β} {fromSpec toSpec : String} {reached : β × OverrideContext}
    (done : syncFieldsBetweenTargets engine body context fromSpec toSpec = .ok reached) :
    reached.2.headerOverride.Normal engine := by
  have written : ∀ {item : JsonValue} {target : SyncTarget},
      writeSyncTargetValue engine body context item target = .ok reached →
        reached.2.headerOverride.Normal engine := by
    intro item target wrote
    cases target with
    | json path =>
      rw [writeSyncTargetValue] at wrote
      obtain ⟨_, _, rfl⟩ := map_eq_ok_iff.mp wrote
      exact normal
    | header name =>
      rw [writeSyncTargetValue] at wrote
      obtain ⟨_, set, rfl⟩ := map_eq_ok_iff.mp wrote
      exact setHeader_normal normal set
  unfold syncFieldsBetweenTargets at done
  obtain ⟨fromTarget, _, done⟩ := bind_ok_iff.mp done
  obtain ⟨toTarget, _, done⟩ := bind_ok_iff.mp done
  split at done
  · exact written done
  · exact written done
  · obtain rfl := Except.ok.inj done
    exact normal

theorem headerOperation_normal {mode : String} {body : β} {operation : ParamOperation}
    {reached : β × OverrideContext}
    (done : headerOperation engine mode body context operation = some (.ok reached)) :
    reached.2.headerOverride.Normal engine := by
  unfold headerOperation at done
  dsimp only at done
  split_ifs at done
  · obtain ⟨_, set, rfl⟩ := map_eq_ok_iff.mp (Option.some.inj done)
    exact setHeader_normal normal set
  · obtain ⟨_, deleted, rfl⟩ := map_eq_ok_iff.mp (Option.some.inj done)
    exact deleteHeader_normal normal deleted
  · obtain ⟨_, copied, rfl⟩ := map_eq_ok_iff.mp (Option.some.inj done)
    exact copyHeader_normal normal copied
  · obtain ⟨_, moved, rfl⟩ := map_eq_ok_iff.mp (Option.some.inj done)
    exact moveHeader_normal normal moved
  · obtain ⟨_, _, named⟩ := bind_ok_iff.mp (Option.some.inj done)
    obtain ⟨_, passed, rfl⟩ := map_eq_ok_iff.mp named
    exact passHeaders_normal normal passed
  · exact syncFields_normal normal (Option.some.inj done)

omit normal in
/-- Every operation of a run leaves normalised names. -/
theorem applyOperations_normal {recorded : Bool} {operations : List ParamOperation} :
    ∀ {body : β} {context : OverrideContext} {reached : β × OverrideContext},
      context.headerOverride.Normal engine →
        applyOperations engine recorded body context operations = .ok reached →
          reached.2.headerOverride.Normal engine := by
  induction operations with
  | nil =>
    intro body context reached normal done
    obtain rfl := Except.ok.inj done
    exact normal
  | cons operation operations ih =>
    intro body context reached normal done
    obtain ⟨holds, _, done⟩ := bind_ok_iff.mp done
    split at done
    · obtain ⟨next, applied, later⟩ := bind_ok_iff.mp done
      refine ih ?_ later
      cases found : headerOperation engine operation.mode body context operation with
      | none =>
        rw [found] at applied
        obtain ⟨_, _, rfl⟩ := map_eq_ok_iff.mp applied
        exact normal
      | some changed =>
        rw [found] at applied
        exact headerOperation_normal normal (found.trans (congrArg some applied))
    · exact ih normal done

omit normal in
theorem applyHeaderOperations_normal {operations : List ParamOperation} :
    ∀ {context next : OverrideContext}, context.headerOverride.Normal engine →
      applyHeaderOperations engine context operations = .ok next →
        next.headerOverride.Normal engine := by
  induction operations with
  | nil =>
    intro context next normal done
    obtain rfl := Except.ok.inj done
    exact normal
  | cons operation operations ih =>
    intro context next normal done
    obtain ⟨holds, _, done⟩ := bind_ok_iff.mp done
    split at done
    · obtain ⟨reached, applied, later⟩ := bind_ok_iff.mp done
      refine ih ?_ later
      split at applied
      · obtain ⟨fromTarget, _, applied⟩ := bind_ok_iff.mp applied
        obtain ⟨toTarget, _, applied⟩ := bind_ok_iff.mp applied
        split at applied
        · obtain ⟨_, synced, rfl⟩ := map_eq_ok_iff.mp applied
          exact syncFields_normal normal synced
        · obtain rfl := Except.ok.inj applied
          exact normal
      · split at applied
        · rename_i changed found
          obtain ⟨result, ended, rfl⟩ := map_eq_ok_iff.mp applied
          exact headerOperation_normal normal (found.trans (congrArg some ended))
        · obtain rfl := Except.ok.inj applied
          exact normal
    · exact ih normal done

theorem applyParamOverride_normal {body : β} {override : ParamOverride}
    {reached : β × OverrideContext}
    (done : applyParamOverride engine body override context = .ok reached) :
    reached.2.headerOverride.Normal engine := by
  unfold applyParamOverride at done
  split at done
  · obtain ⟨_, _, done⟩ := bind_ok_iff.mp done
    exact applyOperations_normal normal done
  · obtain ⟨_, _, rfl⟩ := map_eq_ok_iff.mp done
    exact normal

/-! ## The two functions of an attempt -/

theorem syncRuntime_ranging (info : RelayInfo) (first second : Ranging) :
    syncRuntimeHeaderOverrideFromContext engine first info context =
      syncRuntimeHeaderOverrideFromContext engine second info context := by
  unfold syncRuntimeHeaderOverrideFromContext
  rw [sanitize_ranging normal.namesDistinct first second]

omit normal in
theorem syncRuntime_namesDistinct (info : RelayInfo) (ranging : Ranging) :
    NamesDistinct engine
      (headersInForce (syncRuntimeHeaderOverrideFromContext engine ranging info context)) :=
  (sanitize_normal ranging _).namesDistinct

omit normal

section Attempt

variable {info : RelayInfo} (distinct : NamesDistinct engine (headersInForce info))
include distinct

/-- The function with a body leaves the same info in every order of ranging,
and the headers then in force have distinct names. -/
theorem applyParamOverride_ranging (body : β) (first second : Ranging) :
    applyParamOverrideWithRelayInfo engine first body info =
        applyParamOverrideWithRelayInfo engine second body info ∧
      NamesDistinct engine
        (headersInForce (applyParamOverrideWithRelayInfo engine first body info).1) := by
  unfold applyParamOverrideWithRelayInfo
  dsimp only
  rw [buildParamOverrideContext_ranging distinct first second]
  split
  · exact ⟨rfl, distinct⟩
  · cases outcome : applyParamOverride engine body (getParamOverrideMap info)
        (buildParamOverrideContext engine second info) with
    | error message => exact ⟨rfl, distinct⟩
    | ok reached =>
      have normal :=
        applyParamOverride_normal (buildParamOverrideContext_normal second info) outcome
      refine ⟨?_, syncRuntime_namesDistinct info first⟩
      dsimp only
      rw [syncRuntime_ranging normal info first second]

theorem applyHeaderOverride_ranging (first second : Ranging) :
    applyHeaderOverrideOperationsWithRelayInfo engine first info =
        applyHeaderOverrideOperationsWithRelayInfo engine second info ∧
      NamesDistinct engine
        (headersInForce (applyHeaderOverrideOperationsWithRelayInfo engine first info).1) := by
  unfold applyHeaderOverrideOperationsWithRelayInfo
  rw [buildParamOverrideContext_ranging distinct first second]
  split
  · exact ⟨rfl, distinct⟩
  · exact ⟨rfl, distinct⟩
  · rename_i operations _ _
    cases outcome : applyHeaderOperations engine
        (buildParamOverrideContext engine second info) operations with
    | error message => exact ⟨rfl, distinct⟩
    | ok context =>
      have normal :=
        applyHeaderOperations_normal (buildParamOverrideContext_normal second info) outcome
      refine ⟨?_, syncRuntime_namesDistinct info first⟩
      dsimp only
      rw [syncRuntime_ranging normal info first second]

end Attempt

end Order

end NewApi.Relay
