import Mathlib.Algebra.Order.Field.Rat
import NewApi.Lib.GoStrings

/-!
# Model names and completion ratios

Wildcard names that several models share, and the completion ratios the engine
has for models without a configured one.
-/

namespace NewApi.Pricing

open GoStrings

def handleThinkingBudgetModel (name start wildcard : String) : String :=
  if hasPrefix name start && contains name "-thinking-" then wildcard else name

def formatMatchingModelName (name : String) : String :=
  let name :=
    if hasPrefix name "gemini-2.5-flash-lite" then
      handleThinkingBudgetModel name "gemini-2.5-flash-lite" "gemini-2.5-flash-lite-thinking-*"
    else if hasPrefix name "gemini-2.5-flash" then
      handleThinkingBudgetModel name "gemini-2.5-flash" "gemini-2.5-flash-thinking-*"
    else if hasPrefix name "gemini-2.5-pro" then
      handleThinkingBudgetModel name "gemini-2.5-pro" "gemini-2.5-pro-thinking-*"
    else name
  let name := if hasPrefix name "gpt-4-gizmo" then "gpt-4-gizmo-*" else name
  if hasPrefix name "gpt-4o-gizmo" then "gpt-4o-gizmo-*" else name

/-- A completion ratio, and whether a configured one is ignored in its
favour. -/
structure CompletionRatioInfo where
  ratio : Rat
  locked : Bool
  deriving DecidableEq, Repr

def gptCompletionRatio (name : String) : CompletionRatioInfo :=
  if hasPrefix name "gpt-4o" then
    if name = "gpt-4o-2024-05-13" then ⟨3, true⟩
    else if hasPrefix name "gpt-4o-mini-tts" then ⟨20, false⟩
    else ⟨4, false⟩
  else if hasPrefix name "gpt-5" then
    if !contains name "." then ⟨8, true⟩
    else if hasPrefix name "gpt-5.4" then
      if hasPrefix name "gpt-5.4-nano" then ⟨6.25, true⟩ else ⟨6, true⟩
    else ⟨6, false⟩
  else if hasPrefix name "gpt-4.5-preview" then ⟨2, true⟩
  else if hasPrefix name "gpt-4-turbo" || hasSuffix name "gpt-4-1106" ||
      hasSuffix name "gpt-4-1105" then ⟨3, true⟩
  else ⟨2, false⟩

def geminiCompletionRatio (name : String) : CompletionRatioInfo :=
  if hasPrefix name "gemini-1.5" then ⟨4, true⟩
  else if hasPrefix name "gemini-2.0" then ⟨4, true⟩
  else if hasPrefix name "gemini-2.5-pro" then ⟨8, false⟩
  else if hasPrefix name "gemini-2.5-flash" then
    if hasPrefix name "gemini-2.5-flash-preview" then ⟨3.5 / 0.15, false⟩
    else if hasPrefix name "gemini-2.5-flash-lite" then ⟨4, false⟩
    else ⟨2.5 / 0.3, false⟩
  else if hasPrefix name "gemini-robotics-er-1.5" then ⟨2.5 / 0.3, false⟩
  else if hasPrefix name "gemini-3-pro" then
    if hasPrefix name "gemini-3-pro-image" then ⟨60, false⟩ else ⟨6, false⟩
  else ⟨4, false⟩

def commandCompletionRatio (name : String) : CompletionRatioInfo :=
  if name = "command-r" then ⟨3, true⟩
  else if name = "command-r-plus" then ⟨5, true⟩
  else if name = "command-r-08-2024" then ⟨4, true⟩
  else if name = "command-r-plus-08-2024" then ⟨4, true⟩
  else ⟨4, false⟩

/-- The source also has a branch for `gpt-3.5` names, after the one that takes
every `gpt-` name. -/
def getHardcodedCompletionModelRatio (name : String) : CompletionRatioInfo :=
  if hasSuffix name "-all" || hasSuffix name "-gizmo-*" then ⟨2, false⟩
  else if hasPrefix name "gpt-" then gptCompletionRatio name
  else if hasPrefix name "o1" || hasPrefix name "o3" then ⟨4, true⟩
  else if name = "chatgpt-4o-latest" then ⟨3, true⟩
  else if contains name "claude-3" then ⟨5, true⟩
  else if contains name "claude-sonnet-4" || contains name "claude-opus-4" ||
      contains name "claude-haiku-4" then ⟨5, true⟩
  else if hasPrefix name "mistral-" then ⟨3, true⟩
  else if hasPrefix name "gemini-" then geminiCompletionRatio name
  else if hasPrefix name "command" then commandCompletionRatio name
  else if hasPrefix name "ERNIE-Speed-" || hasPrefix name "ERNIE-Lite-" ||
      hasPrefix name "ERNIE-Character" || hasPrefix name "ERNIE-Functions"
  then ⟨2, true⟩
  else if name = "llama2-70b-4096" then ⟨0.8 / 0.64, true⟩
  else if name = "llama3-8b-8192" then ⟨2, true⟩
  else if name = "llama3-70b-8192" then ⟨0.79 / 0.59, true⟩
  else ⟨1, false⟩

def resolveCompletionRatio (name : String) (configured : Option Rat) : CompletionRatioInfo :=
  let name := formatMatchingModelName name
  let hardCoded := getHardcodedCompletionModelRatio name
  match configured with
  | some ratio =>
    if contains name "/" then ⟨ratio, false⟩
    else if hardCoded.locked then hardCoded
    else ⟨ratio, false⟩
  | none => hardCoded

def defaultCacheRatio : Rat := 1

def defaultCreateCacheRatio : Rat := 1.25

def defaultImageRatio : Rat := 1

end NewApi.Pricing
