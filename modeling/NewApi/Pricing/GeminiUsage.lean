import Mathlib.Algebra.Order.BigOperators.Group.List
import NewApi.Lib.GoStrings

/-!
# Gemini usage metadata

The usage metadata of a Gemini response is decoded twice: into the usage that
is shown and logged (`UsageFromGeminiMetadata`), and, out of the billing
snapshot, into the usage that is settled (`canonicalGeminiUsage`).  The second
decoder reads the modalities in any spelling and never counts below zero.
-/

namespace NewApi.GeminiUsage

open GoStrings

structure GeminiPromptTokensDetails where
  modality : String
  tokenCount : Int

/-- Metadata without a billing sidecar. -/
structure GeminiUsageMetadata where
  promptTokenCount : Int := 0
  toolUsePromptTokenCount : Int := 0
  candidatesTokenCount : Int := 0
  totalTokenCount : Int := 0
  thoughtsTokenCount : Int := 0
  cachedContentTokenCount : Int := 0
  promptTokensDetails : List GeminiPromptTokensDetails := []
  toolUsePromptTokensDetails : List GeminiPromptTokensDetails := []
  candidatesTokensDetails : List GeminiPromptTokensDetails := []

@[ext]
structure ModalityTokens where
  textTokens : Int := 0
  imageTokens : Int := 0
  audioTokens : Int := 0

/-- The counts of `dto.Usage` that the decoders set. -/
structure Usage where
  promptTokens : Int := 0
  completionTokens : Int := 0
  totalTokens : Int := 0
  reasoningTokens : Int := 0
  cachedTokens : Int := 0
  promptTokensDetails : ModalityTokens := {}
  completionTokenDetails : ModalityTokens := {}

/-- One entry of a list of modalities; `spelling` is what the decoder makes of a
modality before it compares it. -/
def addTokenDetail (spelling : String → String) (details : ModalityTokens)
    (detail : GeminiPromptTokensDetails) : ModalityTokens :=
  if spelling detail.modality = "AUDIO" then
    { details with audioTokens := details.audioTokens + detail.tokenCount }
  else if spelling detail.modality = "IMAGE" then
    { details with imageTokens := details.imageTokens + detail.tokenCount }
  else if spelling detail.modality = "TEXT" then
    { details with textTokens := details.textTokens + detail.tokenCount }
  else details

/-- A prompt of unknown modality is text. -/
def ModalityTokens.orText (promptTokens : Int) (details : ModalityTokens) : ModalityTokens :=
  if 0 < promptTokens ∧ details.textTokens = 0 ∧ details.audioTokens = 0 then
    { details with textTokens := promptTokens }
  else details

@[simp] theorem ModalityTokens.orText_imageTokens (promptTokens : Int) (details : ModalityTokens) :
    (details.orText promptTokens).imageTokens = details.imageTokens := by
  unfold orText
  split <;> rfl

@[simp] theorem ModalityTokens.orText_audioTokens (promptTokens : Int) (details : ModalityTokens) :
    (details.orText promptTokens).audioTokens = details.audioTokens := by
  unfold orText
  split <;> rfl

theorem ModalityTokens.orText_textTokens (promptTokens : Int) (details : ModalityTokens) :
    (details.orText promptTokens).textTokens =
      if 0 < promptTokens ∧ details.textTokens = 0 ∧ details.audioTokens = 0 then promptTokens
      else details.textTokens := by
  unfold orText
  split <;> rfl

def usageFromGeminiMetadata (metadata : Option GeminiUsageMetadata)
    (fallbackPromptTokens : Int) : Option Usage :=
  match metadata with
  | none =>
    if fallbackPromptTokens ≤ 0 then none
    else some
      { promptTokens := fallbackPromptTokens
        promptTokensDetails := { textTokens := fallbackPromptTokens } }
  | some metadata =>
    let promptTokens := metadata.promptTokenCount + metadata.toolUsePromptTokenCount
    let promptTokens :=
      if promptTokens ≤ 0 ∧ 0 < fallbackPromptTokens then fallbackPromptTokens
      else promptTokens
    let completionTokens := metadata.candidatesTokenCount + metadata.thoughtsTokenCount
    let inputs := metadata.promptTokensDetails ++ metadata.toolUsePromptTokensDetails
    some
      { promptTokens := promptTokens
        completionTokens :=
          if 0 < metadata.totalTokenCount ∧ completionTokens ≤ 0 then
            metadata.totalTokenCount - promptTokens
          else completionTokens
        totalTokens := metadata.totalTokenCount
        reasoningTokens := metadata.thoughtsTokenCount
        cachedTokens := metadata.cachedContentTokenCount
        promptTokensDetails := (inputs.foldl (addTokenDetail id) {}).orText promptTokens
        completionTokenDetails := metadata.candidatesTokensDetails.foldl (addTokenDetail id) {} }

section Canonical

variable (mapping : CaseMapping)

def normalizeGeminiModality (modality : String) : String := toUpper mapping (trimSpace modality)

def hasGeminiUsageMetadataTokens (metadata : GeminiUsageMetadata) : Bool :=
  decide (metadata.promptTokenCount ≠ 0 ∨ metadata.toolUsePromptTokenCount ≠ 0 ∨
    metadata.candidatesTokenCount ≠ 0 ∨ metadata.totalTokenCount ≠ 0 ∨
    metadata.thoughtsTokenCount ≠ 0 ∨ metadata.cachedContentTokenCount ≠ 0) ||
  (metadata.promptTokensDetails ++ metadata.toolUsePromptTokensDetails ++
    metadata.candidatesTokensDetails).any fun detail => detail.tokenCount ≠ 0

def canonicalGeminiUsage (metadata : GeminiUsageMetadata) : Usage :=
  let promptTokens := metadata.promptTokenCount + metadata.toolUsePromptTokenCount
  let completionTokens := metadata.candidatesTokenCount + metadata.thoughtsTokenCount
  let inputs := metadata.promptTokensDetails ++ metadata.toolUsePromptTokensDetails
  let add := addTokenDetail (normalizeGeminiModality mapping)
  { promptTokens := promptTokens
    completionTokens :=
      if metadata.totalTokenCount ≠ 0 ∧ completionTokens ≤ 0 then
        max (metadata.totalTokenCount - promptTokens) 0
      else completionTokens
    totalTokens :=
      if metadata.totalTokenCount = 0 then promptTokens + completionTokens
      else metadata.totalTokenCount
    reasoningTokens := metadata.thoughtsTokenCount
    cachedTokens := metadata.cachedContentTokenCount
    promptTokensDetails := (inputs.foldl add {}).orText promptTokens
    completionTokenDetails := metadata.candidatesTokensDetails.foldl add {} }

def canonicalUsage (metadata : GeminiUsageMetadata) : Option Usage :=
  if hasGeminiUsageMetadataTokens metadata then some (canonicalGeminiUsage mapping metadata)
  else none

end Canonical

/-! ## Agreement -/

structure ModalityTokens.Nonneg (details : ModalityTokens) : Prop where
  text : 0 ≤ details.textTokens
  image : 0 ≤ details.imageTokens
  audio : 0 ≤ details.audioTokens

structure GeminiUsageMetadata.Nonneg (metadata : GeminiUsageMetadata) : Prop where
  prompt : 0 ≤ metadata.promptTokenCount
  toolUse : 0 ≤ metadata.toolUsePromptTokenCount
  candidates : 0 ≤ metadata.candidatesTokenCount
  total : 0 ≤ metadata.totalTokenCount
  thoughts : 0 ≤ metadata.thoughtsTokenCount
  cached : 0 ≤ metadata.cachedContentTokenCount
  inputs : ∀ detail ∈ metadata.promptTokensDetails ++ metadata.toolUsePromptTokensDetails,
    0 ≤ detail.tokenCount
  outputs : ∀ detail ∈ metadata.candidatesTokensDetails, 0 ≤ detail.tokenCount

/-- Equal counts, none of them negative.  The total is not compared. -/
structure SameCounts (shown settled : Usage) : Prop where
  prompt : shown.promptTokens = settled.promptTokens
  completion : shown.completionTokens = settled.completionTokens
  reasoning : shown.reasoningTokens = settled.reasoningTokens
  cached : shown.cachedTokens = settled.cachedTokens
  inputs : shown.promptTokensDetails = settled.promptTokensDetails
  outputs : shown.completionTokenDetails = settled.completionTokenDetails
  nonneg :
    0 ≤ shown.promptTokens ∧ 0 ≤ shown.completionTokens ∧ 0 ≤ shown.reasoningTokens ∧
      0 ≤ shown.cachedTokens ∧ shown.promptTokensDetails.Nonneg ∧
      shown.completionTokenDetails.Nonneg

def modalities : List String := ["AUDIO", "IMAGE", "TEXT"]

section Spelling

variable (mapping : CaseMapping)

/-- The entry is read as the modality, and spelled otherwise. -/
def Misspells (name : String) (detail : GeminiPromptTokensDetails) : Prop :=
  normalizeGeminiModality mapping detail.modality = name ∧ detail.modality ≠ name

instance (name : String) (detail : GeminiPromptTokensDetails) :
    Decidable (Misspells mapping name detail) :=
  inferInstanceAs (Decidable (_ ∧ _))

def tokensWhere (property : GeminiPromptTokensDetails → Prop) [DecidablePred property]
    (details : List GeminiPromptTokensDetails) : Int :=
  ((details.filter fun detail => property detail).map GeminiPromptTokensDetails.tokenCount).sum

/-- The tokens of a modality as the spelling reads it. -/
def tokensOf (spelling : String → String) (name : String)
    (details : List GeminiPromptTokensDetails) : Int :=
  tokensWhere (fun detail => spelling detail.modality = name) details

/-- No entry with tokens is misspelled. -/
def Spelled (name : String) (details : List GeminiPromptTokensDetails) : Prop :=
  ∀ detail ∈ details, Misspells mapping name detail → detail.tokenCount = 0

variable {mapping} {details : List GeminiPromptTokensDetails}

theorem foldl_addTokenDetail (spelling : String → String)
    (details : List GeminiPromptTokensDetails) (start : ModalityTokens) :
    details.foldl (addTokenDetail spelling) start =
      { textTokens := start.textTokens + tokensOf spelling "TEXT" details
        imageTokens := start.imageTokens + tokensOf spelling "IMAGE" details
        audioTokens := start.audioTokens + tokensOf spelling "AUDIO" details } := by
  induction details generalizing start with
  | nil => simp [tokensOf, tokensWhere]
  | cons detail details ih =>
    rw [List.foldl_cons, ih]
    simp only [addTokenDetail, tokensOf, tokensWhere, List.filter_cons]
    split_ifs <;> simp_all [Int.add_assoc]

theorem tokensWhere_nonneg {property : GeminiPromptTokensDetails → Prop}
    [DecidablePred property] (nonneg : ∀ detail ∈ details, 0 ≤ detail.tokenCount) :
    0 ≤ tokensWhere property details := by
  refine List.sum_nonneg ?_
  intro count listed
  obtain ⟨detail, member, rfl⟩ := List.mem_map.mp listed
  exact nonneg detail (List.mem_of_mem_filter member)

theorem foldl_addTokenDetail_nonneg (spelling : String → String)
    (nonneg : ∀ detail ∈ details, 0 ≤ detail.tokenCount) :
    (details.foldl (addTokenDetail spelling) {}).Nonneg := by
  rw [foldl_addTokenDetail]
  have counted (name : String) : 0 ≤ 0 + tokensOf spelling name details := by
    rw [Int.zero_add]
    exact tokensWhere_nonneg nonneg
  exact ⟨counted _, counted _, counted _⟩

theorem ModalityTokens.Nonneg.orText {tokens : ModalityTokens} (nonneg : tokens.Nonneg)
    (promptTokens : Int) : (tokens.orText promptTokens).Nonneg := by
  unfold ModalityTokens.orText
  split
  next unknown => exact ⟨unknown.1.le, nonneg.image, nonneg.audio⟩
  exact nonneg

/-- What the second decoder counts and the first one misses. -/
theorem tokensOf_normalize
    (capitals : ∀ name ∈ modalities, normalizeGeminiModality mapping name = name)
    {name : String} (known : name ∈ modalities) (details : List GeminiPromptTokensDetails) :
    tokensOf (normalizeGeminiModality mapping) name details =
      tokensOf id name details + tokensWhere (Misspells mapping name) details := by
  induction details with
  | nil => rfl
  | cons detail details ih =>
    simp only [tokensOf, tokensWhere, List.filter_cons] at ih ⊢
    by_cases exact : detail.modality = name
    · have read := capitals name known
      simp [exact, read, Misspells, ih, Int.add_assoc]
    · by_cases read : normalizeGeminiModality mapping detail.modality = name
      · simp [exact, read, Misspells, ih, Int.add_left_comm]
      · simp [exact, read, Misspells, ih]

theorem misspelled_eq_zero_iff (nonneg : ∀ detail ∈ details, 0 ≤ detail.tokenCount)
    (name : String) :
    tokensWhere (Misspells mapping name) details = 0 ↔ Spelled mapping name details := by
  induction details with
  | nil => simp [tokensWhere, Spelled]
  | cons detail details ih =>
    obtain ⟨first, others⟩ := List.forall_mem_cons.mp nonneg
    have rest := @tokensWhere_nonneg details (Misspells mapping name) _ others
    have below := ih others
    simp only [Spelled, List.forall_mem_cons] at below ⊢
    rw [← below]
    simp only [tokensWhere, List.filter_cons] at rest ⊢
    by_cases wrong : Misspells mapping name detail
    · simp only [wrong, decide_true, if_true, List.map_cons, List.sum_cons, forall_const]
      omega
    · simp [wrong]

end Spelling

section Agreement

variable {mapping : CaseMapping} {metadata : GeminiUsageMetadata}

def GeminiUsageMetadata.inputs (metadata : GeminiUsageMetadata) :
    List GeminiPromptTokensDetails :=
  metadata.promptTokensDetails ++ metadata.toolUsePromptTokensDetails

/-- When the two decoders count alike.  A misspelled text prompt does no harm
where it is the whole prompt: the first decoder takes it for text anyway. -/
structure DecodesAlike (mapping : CaseMapping) (metadata : GeminiUsageMetadata) : Prop where
  outputs : ∀ name ∈ modalities, Spelled mapping name metadata.candidatesTokensDetails
  audio : Spelled mapping "AUDIO" metadata.inputs
  image : Spelled mapping "IMAGE" metadata.inputs
  text : Spelled mapping "TEXT" metadata.inputs ∨
    tokensOf id "TEXT" metadata.inputs = 0 ∧ tokensOf id "AUDIO" metadata.inputs = 0 ∧
      tokensOf (normalizeGeminiModality mapping) "TEXT" metadata.inputs =
        metadata.promptTokenCount + metadata.toolUsePromptTokenCount
  total : 0 < metadata.totalTokenCount →
    metadata.candidatesTokenCount + metadata.thoughtsTokenCount = 0 →
      metadata.promptTokenCount + metadata.toolUsePromptTokenCount ≤ metadata.totalTokenCount

theorem normalize_modality
    (capitals : ∀ char, 'A' ≤ char → char ≤ 'Z' → mapping.upper char = char) :
    ∀ name ∈ modalities, normalizeGeminiModality mapping name = name := by
  have kept (name : String) (trimmed : trimSpace name = name)
      (capital : name.toList.all (fun char => 'A' ≤ char ∧ char ≤ 'Z') = true) :
      normalizeGeminiModality mapping name = name := by
    simp only [List.all_eq_true, decide_eq_true_eq] at capital
    have same : name.toList.map mapping.upper = name.toList :=
      (List.map_congr_left fun char member =>
        capitals char (capital char member).1 (capital char member).2).trans (List.map_id _)
    rw [normalizeGeminiModality, trimmed, toUpper, same, String.ofList_toList]
  simp only [modalities, List.forall_mem_cons]
  refine ⟨kept _ ?_ ?_, kept _ ?_ ?_, kept _ ?_ ?_, fun _ none => (List.not_mem_nil none).elim⟩ <;>
    decide +kernel

theorem canonicalUsage_getD (mapping : CaseMapping) (metadata : GeminiUsageMetadata) :
    (canonicalUsage mapping metadata).getD {} = canonicalGeminiUsage mapping metadata := by
  unfold canonicalUsage
  split
  · rfl
  rename_i empty
  simp only [hasGeminiUsageMetadataTokens, Bool.or_eq_true, decide_eq_true_eq,
    List.any_eq_true, not_or, not_exists, not_and, not_not, List.mem_append] at empty
  obtain ⟨⟨prompt, toolUse, candidates, total, thoughts, cached⟩, details⟩ := empty
  have nothing {list : List GeminiPromptTokensDetails} (name : String)
      (zero : ∀ detail ∈ list, detail.tokenCount = 0) :
      tokensOf (normalizeGeminiModality mapping) name list = 0 := by
    refine List.sum_eq_zero ?_
    intro count listed
    obtain ⟨detail, member, rfl⟩ := List.mem_map.mp listed
    exact zero detail (List.mem_of_mem_filter member)
  have inputs (name : String) :=
    nothing name fun detail member => details detail (Or.inl (List.mem_append.mp member))
  have outputs (name : String) := nothing name fun detail member => details detail (Or.inr member)
  simp [-List.foldl_append, canonicalGeminiUsage, foldl_addTokenDetail, inputs, outputs,
    ModalityTokens.orText, prompt, toolUse, candidates, total, thoughts, cached]

section Counts

variable {details : List GeminiPromptTokensDetails}
variable (capitals : ∀ name ∈ modalities, normalizeGeminiModality mapping name = name)
  (nonneg : ∀ detail ∈ details, 0 ≤ detail.tokenCount)
include capitals nonneg

theorem tokensOf_eq_iff {name : String} (known : name ∈ modalities) :
    tokensOf id name details = tokensOf (normalizeGeminiModality mapping) name details ↔
      Spelled mapping name details := by
  rw [tokensOf_normalize capitals known, ← misspelled_eq_zero_iff nonneg]
  omega

theorem outputs_eq_iff :
    details.foldl (addTokenDetail id) {} =
        details.foldl (addTokenDetail (normalizeGeminiModality mapping)) {} ↔
      ∀ name ∈ modalities, Spelled mapping name details := by
  have counted {name : String} (known : name ∈ modalities) := tokensOf_eq_iff capitals nonneg known
  rw [foldl_addTokenDetail, foldl_addTokenDetail, ModalityTokens.ext_iff]
  simp only [modalities, List.forall_mem_cons, Int.zero_add]
  rw [counted (by decide), counted (by decide), counted (by decide)]
  exact ⟨fun ⟨text, image, audio⟩ => ⟨audio, image, text, fun _ none =>
    (List.not_mem_nil none).elim⟩, fun ⟨audio, image, text, _⟩ => ⟨text, image, audio⟩⟩

/-- The text of an input may also be misspelled where it is the whole prompt. -/
theorem inputs_eq_iff (promptTokens : Int) (prompted : 0 ≤ promptTokens) :
    (details.foldl (addTokenDetail id) {}).orText promptTokens =
        (details.foldl (addTokenDetail (normalizeGeminiModality mapping)) {}).orText promptTokens ↔
      Spelled mapping "AUDIO" details ∧ Spelled mapping "IMAGE" details ∧
        (Spelled mapping "TEXT" details ∨
          tokensOf id "TEXT" details = 0 ∧ tokensOf id "AUDIO" details = 0 ∧
            tokensOf (normalizeGeminiModality mapping) "TEXT" details = promptTokens) := by
  have counted {name : String} (known : name ∈ modalities) := tokensOf_eq_iff capitals nonneg known
  have text := tokensOf_normalize capitals (by decide : "TEXT" ∈ modalities) details
  have missed : 0 ≤ tokensWhere (Misspells mapping "TEXT") details := tokensWhere_nonneg nonneg
  have read : 0 ≤ tokensOf id "TEXT" details := tokensWhere_nonneg nonneg
  rw [foldl_addTokenDetail, foldl_addTokenDetail, ModalityTokens.ext_iff]
  simp only [ModalityTokens.orText_textTokens, ModalityTokens.orText_imageTokens,
    ModalityTokens.orText_audioTokens, Int.zero_add]
  rw [← counted (by decide : "AUDIO" ∈ modalities), ← counted (by decide : "IMAGE" ∈ modalities),
    ← counted (by decide : "TEXT" ∈ modalities)]
  constructor
  · rintro ⟨text, image, audio⟩
    refine ⟨audio, image, ?_⟩
    split_ifs at text <;> omega
  · rintro ⟨audio, image, text⟩
    refine ⟨?_, image, audio⟩
    split_ifs <;> omega

end Counts

/-- The decoders agree exactly on metadata whose modalities are spelled in
capitals and whose total, where it stands for the completion, is not below the
prompt. -/
theorem gemini_decoders_agree_iff
    (capitals : ∀ char, 'A' ≤ char → char ≤ 'Z' → mapping.upper char = char)
    (nonneg : metadata.Nonneg) :
    (∃ shown, usageFromGeminiMetadata (some metadata) 0 = some shown ∧
      SameCounts shown ((canonicalUsage mapping metadata).getD {})) ↔
      DecodesAlike mapping metadata := by
  obtain ⟨prompt, toolUse, candidates, total, thoughts, cached, inputs, outputs⟩ := nonneg
  have spelled := normalize_modality capitals
  have inputsAlike := inputs_eq_iff spelled inputs
    (metadata.promptTokenCount + metadata.toolUsePromptTokenCount) (by omega)
  have outputsAlike := outputs_eq_iff spelled outputs
  rw [canonicalUsage_getD]
  constructor
  · rintro ⟨shown, decoded, same⟩
    obtain rfl := Option.some.inj decoded
    obtain ⟨-, completion, -, -, promptDetails, completionDetails, -, counts, -⟩ := same
    simp only [canonicalGeminiUsage, lt_irrefl, and_false, if_false] at *
    obtain ⟨audio, image, text⟩ := inputsAlike.mp promptDetails
    refine ⟨outputsAlike.mp completionDetails, audio, image, text, ?_⟩
    intro positive nothing
    rw [if_pos ⟨positive, by omega⟩] at counts
    omega
  · intro alike
    obtain ⟨spelledOut, audio, image, text, covered⟩ := alike
    refine ⟨_, rfl, ?_⟩
    have promptDetails := inputsAlike.mpr ⟨audio, image, text⟩
    have completionDetails := outputsAlike.mpr spelledOut
    have inputsNonneg := (foldl_addTokenDetail_nonneg id inputs).orText
      (metadata.promptTokenCount + metadata.toolUsePromptTokenCount)
    have outputsNonneg := foldl_addTokenDetail_nonneg id outputs
    simp only [GeminiUsageMetadata.inputs, lt_irrefl, and_false, if_false] at *
    -- The total stands for the completion in both decoders or in neither.
    have completion :
        0 ≤ (if 0 < metadata.totalTokenCount ∧
            metadata.candidatesTokenCount + metadata.thoughtsTokenCount ≤ 0 then
          metadata.totalTokenCount - (metadata.promptTokenCount + metadata.toolUsePromptTokenCount)
        else metadata.candidatesTokenCount + metadata.thoughtsTokenCount) := by
      split_ifs <;> omega
    refine ⟨rfl, ?_, rfl, rfl, promptDetails, completionDetails,
      Int.add_nonneg prompt toolUse, completion, thoughts, cached, inputsNonneg, outputsNonneg⟩
    simp only [canonicalGeminiUsage]
    split_ifs at completion ⊢ <;> omega

/-- Entries of one modality add up, and the total covers the prompt. -/
theorem capitals_decode_alike :
    ∃ shown,
      usageFromGeminiMetadata
        (some
          { promptTokenCount := 25
            totalTokenCount := 30
            promptTokensDetails := [⟨"AUDIO", 10⟩, ⟨"AUDIO", 15⟩] })
        0 = some shown ∧
      SameCounts shown
        ((canonicalUsage CaseMapping.ascii
          { promptTokenCount := 25
            totalTokenCount := 30
            promptTokensDetails := [⟨"AUDIO", 10⟩, ⟨"AUDIO", 15⟩] }).getD {}) := by
  refine (gemini_decoders_agree_iff ?_ ?_).mpr ?_
  · intro char _ capital
    exact dif_neg fun small => absurd (UInt32.le_trans small.1 capital) (by decide)
  · constructor <;> simp
  · constructor <;> simp only [Spelled] <;> decide +kernel

/-- Audio in small letters is shown as text and settled as audio. -/
theorem small_letters_split_decoders :
    ¬ ∃ shown,
      usageFromGeminiMetadata
        (some
          { promptTokenCount := 40
            promptTokensDetails := [⟨"audio", 40⟩] })
        0 = some shown ∧
      SameCounts shown
        ((canonicalUsage CaseMapping.ascii
          { promptTokenCount := 40
            promptTokensDetails := [⟨"audio", 40⟩] }).getD {}) := by
  rintro ⟨shown, decoded, same⟩
  obtain rfl := Option.some.inj decoded
  have audio := congrArg ModalityTokens.audioTokens same.inputs
  revert audio
  decide +kernel

end Agreement

end NewApi.GeminiUsage
