import Mathlib.Data.List.Induction
import Mathlib.Tactic.SplitIfs
import NewApi.Pricing.TextQuota

/-!
# The usage of a Claude stream

`FormatClaudeResponseInfo` keeps a flattened usage of the stream, in which later
positive counts replace earlier ones.  Raw usages are merged by
`MergeClaudeUsageNonZero`, where a later `cache_creation` object replaces the
earlier one.
-/

namespace NewApi.Pricing

def refreshed (current incoming : Int) : Int := if 0 < incoming then incoming else current

namespace ClaudeUsage

def noTokens : ClaudeUsage := ⟨0, 0, 0, 0, none, 0, 0⟩

def getCacheCreation5mTokens (usage : ClaudeUsage) : Int :=
  usage.cacheCreation.elim 0 (·.ephemeral5mInputTokens)

def getCacheCreation1hTokens (usage : ClaudeUsage) : Int :=
  usage.cacheCreation.elim 0 (·.ephemeral1hInputTokens)

def hasClaudeUsageTokens (usage : ClaudeUsage) : Bool :=
  decide (usage.inputTokens ≠ 0 ∨ usage.outputTokens ≠ 0 ∨ usage.cacheCreationInputTokens ≠ 0 ∨
    usage.cacheReadInputTokens ≠ 0 ∨ usage.claudeCacheCreation5mTokens ≠ 0 ∨
    usage.claudeCacheCreation1hTokens ≠ 0 ∨ usage.getCacheCreation5mTokens ≠ 0 ∨
    usage.getCacheCreation1hTokens ≠ 0)

/-- `NewClaudeMessagesBillingUsage`, of which only the Claude usage varies. -/
def newClaudeMessagesBillingUsage (usage : ClaudeUsage) : Option ClaudeUsage :=
  if usage.hasClaudeUsageTokens then some usage else none

def mergeClaudeUsageNonZero (current incoming : ClaudeUsage) : ClaudeUsage where
  inputTokens := refreshed current.inputTokens incoming.inputTokens
  cacheCreationInputTokens :=
    refreshed current.cacheCreationInputTokens incoming.cacheCreationInputTokens
  cacheReadInputTokens := refreshed current.cacheReadInputTokens incoming.cacheReadInputTokens
  outputTokens := refreshed current.outputTokens incoming.outputTokens
  cacheCreation := incoming.cacheCreation <|> current.cacheCreation
  -- The flat fields follow the object, with its zeros.
  claudeCacheCreation5mTokens := incoming.cacheCreation.elim
    (refreshed current.claudeCacheCreation5mTokens incoming.claudeCacheCreation5mTokens)
    (·.ephemeral5mInputTokens)
  claudeCacheCreation1hTokens := incoming.cacheCreation.elim
    (refreshed current.claudeCacheCreation1hTokens incoming.claudeCacheCreation1hTokens)
    (·.ephemeral1hInputTokens)

end ClaudeUsage

open ClaudeUsage

def normalizeCacheCreationSplit (totalTokens tokens5m tokens1h : Int) : Int × Int :=
  (tokens5m + max (totalTokens - tokens5m - tokens1h) 0, tokens1h)

/-- The usage of a stream and its billing snapshot. -/
structure ClaudeResponseInfo where
  usage : Usage := { promptTokens := 0, completionTokens := 0 }
  billingUsage : Option ClaudeUsage := none
  billingUsageSynthesized : Bool := false

def claudeBillingUsageFromSemanticUsage (usage : Usage) : Option ClaudeUsage :=
  let creation := usage.promptTokensDetails.cachedCreationTokens
  let split := normalizeCacheCreationSplit creation usage.claudeCacheCreation5mTokens
    usage.claudeCacheCreation1hTokens
  newClaudeMessagesBillingUsage
    { inputTokens := usage.promptTokens
      cacheCreationInputTokens := creation
      cacheReadInputTokens := usage.promptTokensDetails.cachedTokens
      outputTokens := usage.completionTokens
      cacheCreation := if 0 < split.1 ∨ 0 < split.2 then some ⟨split.1, split.2⟩ else none
      claudeCacheCreation5mTokens := 0
      claudeCacheCreation1hTokens := 0 }

/-- Of a usage without a sidecar. -/
def updateClaudeStreamBillingUsage (info : ClaudeResponseInfo) : ClaudeResponseInfo :=
  if info.billingUsage.isSome && !info.billingUsageSynthesized then info
  else
    let billingUsage :=
      match claudeBillingUsageFromSemanticUsage info.usage, info.billingUsage with
      | some synthesized, some current => some (mergeClaudeUsageNonZero current synthesized)
      | synthesized, _ => synthesized
    { info with
      billingUsage := billingUsage
      billingUsageSynthesized := billingUsage.isSome }

/-- The events that carry usage; others leave the counts alone. -/
inductive ClaudeEvent where
  | messageStart (usage : ClaudeUsage)
  | messageDelta (usage : ClaudeUsage)

def formatClaudeResponseInfo (info : ClaudeResponseInfo) : ClaudeEvent → ClaudeResponseInfo
  | .messageStart incoming =>
    updateClaudeStreamBillingUsage
      { info with
        usage :=
          { info.usage with
            promptTokens := incoming.inputTokens
            completionTokens := incoming.outputTokens
            usageSemantic := "anthropic"
            promptTokensDetails :=
              { info.usage.promptTokensDetails with
                cachedTokens := incoming.cacheReadInputTokens
                cachedCreationTokens := incoming.cacheCreationInputTokens }
            claudeCacheCreation5mTokens := incoming.getCacheCreation5mTokens
            claudeCacheCreation1hTokens := incoming.getCacheCreation1hTokens } }
  | .messageDelta incoming =>
    let usage := info.usage
    let details := usage.promptTokensDetails
    updateClaudeStreamBillingUsage
      { info with
        usage :=
          { usage with
            promptTokens := refreshed usage.promptTokens incoming.inputTokens
            completionTokens := refreshed usage.completionTokens incoming.outputTokens
            usageSemantic := "anthropic"
            promptTokensDetails :=
              { details with
                cachedTokens := refreshed details.cachedTokens incoming.cacheReadInputTokens
                cachedCreationTokens :=
                  refreshed details.cachedCreationTokens incoming.cacheCreationInputTokens }
            claudeCacheCreation5mTokens :=
              refreshed usage.claudeCacheCreation5mTokens incoming.getCacheCreation5mTokens
            claudeCacheCreation1hTokens :=
              refreshed usage.claudeCacheCreation1hTokens incoming.getCacheCreation1hTokens } }

/-- The snapshot kept after a stream. -/
def streamBillingUsage (start : ClaudeUsage) (deltas : List ClaudeUsage) : Option ClaudeUsage :=
  (((deltas.map .messageDelta).foldl formatClaudeResponseInfo
    (formatClaudeResponseInfo {} (.messageStart start))).billingUsage)

def rawBillingUsage (start : ClaudeUsage) (deltas : List ClaudeUsage) : Option ClaudeUsage :=
  newClaudeMessagesBillingUsage ((start :: deltas).foldl mergeClaudeUsageNonZero noTokens)

/-! ## Agreement -/

/-- What a usage is billed by, with the split normalised. -/
structure BilledCounts where
  input : Int
  output : Int
  cacheRead : Int
  cacheCreation : Int
  split : Int × Int
  deriving DecidableEq

def Usage.billedCounts (usage : Usage) : BilledCounts where
  input := usage.promptTokens
  output := usage.completionTokens
  cacheRead := usage.promptTokensDetails.cachedTokens
  cacheCreation := usage.promptTokensDetails.cachedCreationTokens
  split := normalizeCacheCreationSplit usage.promptTokensDetails.cachedCreationTokens
    usage.claudeCacheCreation5mTokens usage.claudeCacheCreation1hTokens

def snapshotCounts (snapshot : Option ClaudeUsage) : BilledCounts :=
  (snapshot.getD noTokens).canonicalClaudeUsage.billedCounts

structure ClaudeUsage.Nonneg (usage : ClaudeUsage) : Prop where
  input : 0 ≤ usage.inputTokens
  output : 0 ≤ usage.outputTokens
  cacheRead : 0 ≤ usage.cacheReadInputTokens
  cacheCreation : 0 ≤ usage.cacheCreationInputTokens
  split5m : 0 ≤ usage.getCacheCreation5mTokens
  split1h : 0 ≤ usage.getCacheCreation1hTokens
  flat5m : 0 ≤ usage.claudeCacheCreation5mTokens
  flat1h : 0 ≤ usage.claudeCacheCreation1hTokens

def lastPositive (count : ClaudeUsage → Int) (usages : List ClaudeUsage) : Int :=
  usages.foldl (fun current usage => refreshed current (count usage)) 0

def lastObject (usages : List ClaudeUsage) : Option ClaudeCacheCreationUsage :=
  usages.foldl (fun current usage => usage.cacheCreation <|> current) none

/-- The split that a stream leaves: that of its last object, or the flat fields
where no object came. -/
def reportedSplit (usages : List ClaudeUsage) : Int × Int :=
  (lastObject usages).elim
    (lastPositive claudeCacheCreation5mTokens usages,
      lastPositive claudeCacheCreation1hTokens usages)
    fun split => (split.ephemeral5mInputTokens, split.ephemeral1hInputTokens)

/-- No object lowers a count to zero, except 5-minute tokens that the rest of the
cache creation makes up for, and none is reported in flat fields alone. -/
def SplitStands (usages : List ClaudeUsage) : Prop :=
  let seen5m := lastPositive getCacheCreation5mTokens usages
  let rest := lastPositive cacheCreationInputTokens usages - (reportedSplit usages).2
  lastPositive getCacheCreation1hTokens usages = (reportedSplit usages).2 ∧
    (seen5m = (reportedSplit usages).1 ∨ seen5m ≤ rest ∧ (reportedSplit usages).1 ≤ rest)

section Stream

theorem refreshed_zero {count : Int} (nonneg : 0 ≤ count) : refreshed 0 count = count := by
  unfold refreshed
  split_ifs <;> omega

theorem eq_of_newClaudeMessagesBillingUsage {usage made : ClaudeUsage}
    (done : newClaudeMessagesBillingUsage usage = some made) : made = usage := by
  unfold newClaudeMessagesBillingUsage at done
  split at done
  · exact (Option.some.inj done).symm
  cases done

theorem snapshotCounts_new (usage : ClaudeUsage) :
    snapshotCounts (newClaudeMessagesBillingUsage usage) =
      usage.canonicalClaudeUsage.billedCounts := by
  unfold newClaudeMessagesBillingUsage
  split
  · rfl
  rename_i empty
  simp only [hasClaudeUsageTokens, decide_eq_true_eq, not_or, not_not] at empty
  obtain ⟨input, output, creation, read, flat5m, flat1h, split5m, split1h⟩ := empty
  have nothing : usage.cacheCreationSplit = (0, 0) := by
    unfold cacheCreationSplit
    unfold getCacheCreation5mTokens at split5m
    unfold getCacheCreation1hTokens at split1h
    cases object : usage.cacheCreation with
    | none => exact Prod.ext flat5m flat1h
    | some split =>
      rw [object] at split5m split1h
      exact Prod.ext split5m split1h
  simp only [snapshotCounts, Usage.billedCounts, canonicalClaudeUsage, nothing, input, output,
    creation, read]
  rfl

/-- The counts of the flattened usage are counts. -/
structure Usage.Counted (usage : Usage) : Prop where
  input : 0 ≤ usage.promptTokens
  output : 0 ≤ usage.completionTokens
  cacheRead : 0 ≤ usage.promptTokensDetails.cachedTokens
  cacheCreation : 0 ≤ usage.promptTokensDetails.cachedCreationTokens
  split5m : 0 ≤ usage.claudeCacheCreation5mTokens
  split1h : 0 ≤ usage.claudeCacheCreation1hTokens

theorem normalize_normalize (total tokens5m tokens1h : Int) :
    normalizeCacheCreationSplit total (normalizeCacheCreationSplit total tokens5m tokens1h).1
        (normalizeCacheCreationSplit total tokens5m tokens1h).2 =
      normalizeCacheCreationSplit total tokens5m tokens1h := by
  refine Prod.ext ?_ rfl
  simp only [normalizeCacheCreationSplit]
  omega

theorem snapshotCounts_synthesized {usage : Usage} (counted : usage.Counted) :
    snapshotCounts (claudeBillingUsageFromSemanticUsage usage) = usage.billedCounts := by
  obtain ⟨-, -, -, creation, split5m, split1h⟩ := counted
  have twice := normalize_normalize usage.promptTokensDetails.cachedCreationTokens
    usage.claudeCacheCreation5mTokens usage.claudeCacheCreation1hTokens
  rw [claudeBillingUsageFromSemanticUsage, snapshotCounts_new]
  simp only [Usage.billedCounts, canonicalClaudeUsage, cacheCreationSplit]
  generalize within : normalizeCacheCreationSplit usage.promptTokensDetails.cachedCreationTokens
    usage.claudeCacheCreation5mTokens usage.claudeCacheCreation1hTokens = split at twice ⊢
  by_cases written : 0 < split.1 ∨ 0 < split.2
  · simp only [if_pos written, twice]
  · -- A split without tokens is left out.
    have empty : split = (0, 0) := by
      obtain rfl := within
      simp only [normalizeCacheCreationSplit] at written ⊢
      refine Prod.ext ?_ ?_ <;> simp only <;> omega
    rw [empty] at twice
    simp only [if_neg written]
    rw [empty, twice]

/-- The snapshot counts what the flattened usage counts. -/
structure Mirrors (info : ClaudeResponseInfo) : Prop where
  counted : info.usage.Counted
  counts : snapshotCounts info.billingUsage = info.usage.billedCounts
  synthesized : info.billingUsageSynthesized = info.billingUsage.isSome

theorem usage_update (info : ClaudeResponseInfo) :
    (updateClaudeStreamBillingUsage info).usage = info.usage := by
  unfold updateClaudeStreamBillingUsage
  split <;> rfl

theorem refreshed_nonneg {current incoming : Int} (nonneg : 0 ≤ current) :
    0 ≤ refreshed current incoming := by
  unfold refreshed
  split_ifs <;> omega

theorem refreshed_refreshed (current incoming : Int) :
    refreshed current (refreshed current incoming) = refreshed current incoming := by
  unfold refreshed
  split_ifs <;> omega

/-- Every positive old count has been replaced or kept. -/
structure Refreshes (old new : Usage) : Prop where
  input : refreshed old.promptTokens new.promptTokens = new.promptTokens
  output : refreshed old.completionTokens new.completionTokens = new.completionTokens
  cacheRead : refreshed old.promptTokensDetails.cachedTokens new.promptTokensDetails.cachedTokens =
    new.promptTokensDetails.cachedTokens
  cacheCreation :
    refreshed old.promptTokensDetails.cachedCreationTokens
      new.promptTokensDetails.cachedCreationTokens = new.promptTokensDetails.cachedCreationTokens
  split5m : refreshed old.claudeCacheCreation5mTokens new.claudeCacheCreation5mTokens =
    new.claudeCacheCreation5mTokens
  split1h : refreshed old.claudeCacheCreation1hTokens new.claudeCacheCreation1hTokens =
    new.claudeCacheCreation1hTokens

theorem refreshed_self_zero {current incoming : Int}
    (refreshes : refreshed current incoming = incoming) (zero : incoming = 0) : current = 0 := by
  rw [zero] at refreshes
  exact refreshes

/-- A snapshot merged with a later one counts like the later one. -/
theorem snapshotCounts_merge {old new : Usage} {current incoming : ClaudeUsage}
    (counted : new.Counted) (refreshes : Refreshes old new)
    (before : snapshotCounts (some current) = old.billedCounts)
    (made : claudeBillingUsageFromSemanticUsage new = some incoming) :
    snapshotCounts (some (mergeClaudeUsageNonZero current incoming)) = new.billedCounts := by
  have after := snapshotCounts_synthesized counted
  rw [made] at after
  obtain ⟨-, -, -, creation, split5m, split1h⟩ := counted
  simp only [snapshotCounts, Option.getD_some, Usage.billedCounts, canonicalClaudeUsage,
    BilledCounts.mk.injEq] at before after ⊢
  obtain ⟨oldInput, oldOutput, oldRead, oldCreation, oldSplit⟩ := before
  obtain ⟨newInput, newOutput, newRead, newCreation, newSplit⟩ := after
  simp only [mergeClaudeUsageNonZero, oldInput, oldOutput, oldRead, oldCreation, newInput,
    newOutput, newRead, newCreation, refreshes.input, refreshes.output, refreshes.cacheRead,
    refreshes.cacheCreation, true_and]
  rw [newCreation] at newSplit
  cases object : incoming.cacheCreation with
  | some split =>
    rw [← newSplit]
    simp [cacheCreationSplit, object]
  | none =>
    -- No split is written: there has been no cache creation so far.
    have unwritten : new.promptTokensDetails.cachedCreationTokens = 0 ∧
        new.claudeCacheCreation5mTokens = 0 ∧ new.claudeCacheCreation1hTokens = 0 := by
      obtain rfl := eq_of_newClaudeMessagesBillingUsage made
      change (if _ then some _ else none) = none at object
      have empty := (ite_eq_right_iff.mp object).mt (by simp)
      simp only [normalizeCacheCreationSplit] at empty
      omega
    obtain ⟨noCreation, no5m, no1h⟩ := unwritten
    rw [refreshed_self_zero refreshes.cacheCreation noCreation,
      refreshed_self_zero refreshes.split5m no5m,
      refreshed_self_zero refreshes.split1h no1h] at oldSplit
    rw [oldCreation, refreshed_self_zero refreshes.cacheCreation noCreation] at oldSplit
    rw [noCreation, no5m, no1h, ← oldSplit]
    obtain rfl := eq_of_newClaudeMessagesBillingUsage made
    rfl

theorem Mirrors.update {info : ClaudeResponseInfo} {usage : Usage} (mirrors : Mirrors info)
    (counted : usage.Counted) (refreshes : Refreshes info.usage usage) :
    Mirrors (updateClaudeStreamBillingUsage { info with usage := usage }) := by
  have provisional : ¬ (info.billingUsage.isSome && !info.billingUsageSynthesized) = true := by
    rw [mirrors.synthesized, Bool.and_not_self]
    exact Bool.false_ne_true
  refine ⟨by rw [usage_update]; exact counted, ?_, ?_⟩
  · rw [usage_update, updateClaudeStreamBillingUsage, if_neg provisional]
    have made := snapshotCounts_synthesized counted
    cases before : info.billingUsage with
    | none =>
      rw [← made]
      cases claudeBillingUsageFromSemanticUsage usage <;> rfl
    | some current =>
      cases after : claudeBillingUsageFromSemanticUsage usage with
      | none => rw [← made, after]
      | some incoming =>
        exact snapshotCounts_merge counted refreshes (before ▸ mirrors.counts) after
  · rw [updateClaudeStreamBillingUsage, if_neg provisional]

def stream (usages : List ClaudeUsage) : ClaudeResponseInfo :=
  (usages.map .messageDelta).foldl formatClaudeResponseInfo {}

theorem stream_concat (usages : List ClaudeUsage) (usage : ClaudeUsage) :
    stream (usages ++ [usage]) =
      formatClaudeResponseInfo (stream usages) (.messageDelta usage) := by
  simp [stream]

@[simp] theorem lastPositive_concat (count : ClaudeUsage → Int) (usages : List ClaudeUsage)
    (usage : ClaudeUsage) :
    lastPositive count (usages ++ [usage]) =
      refreshed (lastPositive count usages) (count usage) := by
  simp [lastPositive]

theorem lastObject_concat (usages : List ClaudeUsage) (usage : ClaudeUsage) :
    lastObject (usages ++ [usage]) = (usage.cacheCreation <|> lastObject usages) := by
  simp [lastObject]

/-- The flattened usage holds the last positive counts. -/
structure Holds (usages : List ClaudeUsage) (usage : Usage) : Prop where
  input : usage.promptTokens = lastPositive inputTokens usages
  output : usage.completionTokens = lastPositive outputTokens usages
  cacheRead : usage.promptTokensDetails.cachedTokens = lastPositive cacheReadInputTokens usages
  cacheCreation : usage.promptTokensDetails.cachedCreationTokens =
    lastPositive cacheCreationInputTokens usages
  split5m : usage.claudeCacheCreation5mTokens = lastPositive getCacheCreation5mTokens usages
  split1h : usage.claudeCacheCreation1hTokens = lastPositive getCacheCreation1hTokens usages

theorem holds_stream (usages : List ClaudeUsage) :
    Holds usages (stream usages).usage ∧ Mirrors (stream usages) := by
  induction usages using List.reverseRecOn with
  | nil => exact ⟨by constructor <;> rfl, by constructor <;> simp [stream], rfl, rfl⟩
  | append_singleton usages usage ih =>
    obtain ⟨held, mirrors⟩ := ih
    rw [stream_concat, formatClaudeResponseInfo]
    refine ⟨?_, mirrors.update ?_ ?_⟩
    · rw [usage_update]
      constructor <;> simp [held.input, held.output, held.cacheRead, held.cacheCreation,
        held.split5m, held.split1h]
    · obtain ⟨input, output, read, creation, split5m, split1h⟩ := mirrors.counted
      constructor <;> exact refreshed_nonneg (by assumption)
    · constructor <;> exact refreshed_refreshed _ _

structure Merges (usages : List ClaudeUsage) (raw : ClaudeUsage) : Prop where
  input : raw.inputTokens = lastPositive inputTokens usages
  output : raw.outputTokens = lastPositive outputTokens usages
  cacheRead : raw.cacheReadInputTokens = lastPositive cacheReadInputTokens usages
  cacheCreation : raw.cacheCreationInputTokens = lastPositive cacheCreationInputTokens usages
  object : raw.cacheCreation = lastObject usages
  flat : lastObject usages = none →
    raw.claudeCacheCreation5mTokens = lastPositive claudeCacheCreation5mTokens usages ∧
      raw.claudeCacheCreation1hTokens = lastPositive claudeCacheCreation1hTokens usages

theorem merges_raw (usages : List ClaudeUsage) :
    Merges usages (usages.foldl mergeClaudeUsageNonZero noTokens) := by
  induction usages using List.reverseRecOn with
  | nil => exact ⟨rfl, rfl, rfl, rfl, rfl, fun _ => ⟨rfl, rfl⟩⟩
  | append_singleton usages usage ih =>
    constructor
    all_goals
      simp [mergeClaudeUsageNonZero, ih.input, ih.output, ih.cacheRead, ih.cacheCreation,
        ih.object, lastObject_concat]
    intro absent earlier
    simp [absent, (ih.flat earlier).1, (ih.flat earlier).2]

variable {start : ClaudeUsage} {deltas : List ClaudeUsage}

theorem formatClaudeResponseInfo_start (nonneg : start.Nonneg) :
    formatClaudeResponseInfo {} (.messageStart start) =
      formatClaudeResponseInfo {} (.messageDelta start) := by
  simp only [formatClaudeResponseInfo, refreshed_zero nonneg.input, refreshed_zero nonneg.output,
    refreshed_zero nonneg.cacheRead, refreshed_zero nonneg.cacheCreation,
    refreshed_zero nonneg.split5m, refreshed_zero nonneg.split1h]

/-- A stream is billed by its merged raw usages exactly when its split stands. -/
theorem stream_billed_raw_iff (nonneg : ∀ usage ∈ start :: deltas, usage.Nonneg) :
    snapshotCounts (streamBillingUsage start deltas) =
        snapshotCounts (rawBillingUsage start deltas) ↔
      SplitStands (start :: deltas) := by
  have kept : streamBillingUsage start deltas = (stream (start :: deltas)).billingUsage := by
    rw [streamBillingUsage, formatClaudeResponseInfo_start (nonneg start List.mem_cons_self)]
    rfl
  obtain ⟨held, mirrors⟩ := holds_stream (start :: deltas)
  have merged := merges_raw (start :: deltas)
  have split : ((start :: deltas).foldl mergeClaudeUsageNonZero noTokens).cacheCreationSplit =
      reportedSplit (start :: deltas) := by
    rw [cacheCreationSplit, reportedSplit, merged.object]
    cases object : lastObject (start :: deltas) with
    | none => exact Prod.ext (merged.flat object).1 (merged.flat object).2
    | some split => rfl
  rw [kept, mirrors.counts, rawBillingUsage, snapshotCounts_new]
  simp only [Usage.billedCounts, canonicalClaudeUsage, split, held.input, held.output,
    held.cacheRead, held.cacheCreation, held.split5m, held.split1h, merged.input, merged.output,
    merged.cacheRead, merged.cacheCreation, BilledCounts.mk.injEq, true_and, SplitStands,
    normalizeCacheCreationSplit, Prod.mk.injEq]
  omega

def sampleStart : ClaudeUsage := ⟨100, 15, 0, 1, some ⟨10, 5⟩, 0, 0⟩

def sampleDelta (object : Option ClaudeCacheCreationUsage) : ClaudeUsage :=
  ⟨0, 0, 0, 20, object, 0, 0⟩

/-- A later object that raises both counts replaces the first one. -/
theorem raised_object_keeps_split :
    snapshotCounts (streamBillingUsage sampleStart [sampleDelta none, sampleDelta (some ⟨12, 8⟩)]) =
      snapshotCounts
        (rawBillingUsage sampleStart [sampleDelta none, sampleDelta (some ⟨12, 8⟩)]) := by
  refine (stream_billed_raw_iff ?_).mpr ⟨by decide, Or.inl (by decide)⟩
  simp only [List.forall_mem_cons]
  exact ⟨by constructor <;> decide, by constructor <;> decide, by constructor <;> decide, by simp⟩

/-- An object that moves all the tokens to 5 minutes leaves the 1-hour ones. -/
theorem later_object_keeps_hour_tokens :
    (∀ usage ∈ [sampleStart, sampleDelta (some ⟨15, 0⟩)], usage.Nonneg) ∧
      snapshotCounts (streamBillingUsage sampleStart [sampleDelta (some ⟨15, 0⟩)]) ≠
        snapshotCounts (rawBillingUsage sampleStart [sampleDelta (some ⟨15, 0⟩)]) := by
  refine ⟨?_, by decide⟩
  simp only [List.forall_mem_cons]
  exact ⟨by constructor <;> decide, by constructor <;> decide, by simp⟩

end Stream

end NewApi.Pricing
