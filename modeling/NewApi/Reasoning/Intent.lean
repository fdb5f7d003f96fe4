import NewApi.Lib.GoStrings

/-!
# Reasoning intents

`relaykit/relayconvert/reasoning/intent.go`: what a request asks of a model's
reasoning, apart from any protocol.
-/

namespace NewApi.Reasoning

open GoStrings

def efforts : List String := ["none", "minimal", "low", "medium", "high", "xhigh", "max"]

inductive Mode where
  | unset
  | enabled
  | adaptive
  | disabled
  | unsupported (text : String)
deriving DecidableEq

structure Intent where
  mode : Mode := .unset
  effort : String := ""
  budgetTokens : Option Int := none
  includeThoughts : Option Bool := none
deriving DecidableEq

def Intent.hasStrength (intent : Intent) : Bool :=
  intent.mode ≠ .unset || intent.effort ≠ "" || intent.budgetTokens.isSome

def Intent.isEmpty (intent : Intent) : Bool := !intent.hasStrength && intent.includeThoughts.isNone

/-- The part of `normalizeIntent` that settles a budget against the mode and
the effort. -/
def settleBudget (intent : Intent) (budget : Int) : Intent :=
  if budget = 0 then
    { intent with budgetTokens := some budget, mode := .disabled, effort := "none" }
  else if intent.mode = .disabled ∨ intent.effort = "none" then
    { intent with budgetTokens := some budget, mode := .enabled, effort := "" }
  else if intent.mode = .unset then
    { intent with budgetTokens := some budget, mode := .enabled }
  else { intent with budgetTokens := some budget }

def effortFromBudget (budget : Int) : String :=
  if budget = 0 then "none"
  else if budget < 0 then "high"
  else if budget ≤ 1024 then "low"
  else if budget ≤ 8192 then "medium"
  else "high"

variable (mapping : CaseMapping)

def parseEffort (text : String) : Option String :=
  let effort := toLower mapping (trimSpace text)
  if effort = "" ∨ effort ∈ efforts then some effort else none

def normalizeIntent (intent : Intent) : Option Intent :=
  (parseEffort mapping intent.effort).bind fun effort =>
    match intent.mode with
    | .unsupported _ => none
    | _ =>
      let parsed := { intent with effort }
      let settled :=
        match intent.budgetTokens with
        | none => parsed
        | some budget => settleBudget parsed (if budget < -1 then -1 else budget)
      some (if settled.effort = "none" then { settled with mode := .disabled } else settled)

def effectiveEffort (intent : Intent) : String :=
  match normalizeIntent mapping intent with
  | none => ""
  | some intent =>
    if intent.mode = .disabled then "none"
    else if intent.effort ≠ "" then intent.effort
    else
      match intent.budgetTokens with
      | some budget => effortFromBudget budget
      | none => if intent.mode = .enabled ∨ intent.mode = .adaptive then "high" else ""

end NewApi.Reasoning
