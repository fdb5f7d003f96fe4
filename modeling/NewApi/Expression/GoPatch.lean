import NewApi.Expression.GoRun

/-!
# Patching request rules

`requestRulePatcher` replaces every request rule by a call that records whether
it matched.  The patcher visits the parts of a node before the node, so that a
rule is numbered behind the rules of its parts.
-/

namespace NewApi.Expression

variable {φ : Type} [GoFloat φ]

namespace GoNode

def traceCall (exp1 exp2 : GoNode φ) (multiplier : φ) : String × GoNode φ :=
  match exp1, exp2 with
  | .integer value, .integer _ => ("_trace_int", .integer value)
  | _, _ => ("_trace", .float multiplier)

def visitConditional (ternary : Bool) (cond exp1 exp2 : GoNode φ)
    (rules : List (RequestRuleTrace φ)) :
    GoNode φ × List (RequestRuleTrace φ) :=
  match requestRule ternary cond exp1 exp2 with
  | some multiplier =>
    (.call (.identifier (traceCall exp1 exp2 multiplier).1)
      [.integer rules.length, cond, (traceCall exp1 exp2 multiplier).2],
      rules ++ [⟨cond, multiplier, false⟩])
  | none => (.conditional ternary cond exp1 exp2, rules)

mutual

def patch :
    GoNode φ → List (RequestRuleTrace φ) → GoNode φ × List (RequestRuleTrace φ)
  | .unary operator node, rules => (.unary operator (node.patch rules).1, (node.patch rules).2)
  | .binary operator left right, rules =>
    let x := left.patch rules
    let y := right.patch x.2
    (.binary operator x.1 y.1, y.2)
  | .conditional ternary cond exp1 exp2, rules =>
    let test := cond.patch rules
    let yes := exp1.patch test.2
    let no := exp2.patch yes.2
    visitConditional ternary test.1 yes.1 no.1 no.2
  | .call callee arguments, rules =>
    let function := callee.patch rules
    let passed := patchAll arguments function.2
    (.call function.1 passed.1, passed.2)
  | .builtin name arguments, rules =>
    (.builtin name (patchAll arguments rules).1, (patchAll arguments rules).2)
  | node, rules => (node, rules)

def patchAll :
    List (GoNode φ) → List (RequestRuleTrace φ) → List (GoNode φ) × List (RequestRuleTrace φ)
  | [], rules => ([], rules)
  | first :: others, rules =>
    let argument := first.patch rules
    let rest := patchAll others argument.2
    (argument.1 :: rest.1, rest.2)

end

def isReserved (value : String) : Bool := value = "_trace" || value = "_trace_int"

/-- `compileEntryFromCacheByHash` on a parsed tree: the tree of the program and
its rules. -/
def compileEntry (node : GoNode φ) :
    Option (GoNode φ × List (RequestRuleTrace φ)) :=
  if "fixed" ∈ node.identifiers ∧ node.validateFixedPricingTree = false then none
  else if node.identifiers.any isReserved then none
  else some (node.patch [])

theorem requestRule_eq_some {ternary : Bool} {cond exp1 exp2 : GoNode φ} {multiplier : φ}
    (rule : requestRule ternary cond exp1 exp2 = some multiplier) :
    ternary = true ∧ cond.usesRequestProbe = true ∧ exp1.requestRuleNumber = some multiplier ∧
      ∃ fallback, exp2.requestRuleNumber = some fallback ∧ GoFloat.isOne fallback = true := by
  unfold requestRule at rule
  split_ifs at rule with probed
  simp only [Bool.and_eq_true] at probed
  split at rule
  · next found fallback hexp1 hexp2 =>
      split_ifs at rule with one
      cases rule
      exact ⟨probed.1, probed.2, hexp1, fallback, hexp2, one⟩
  · cases rule

theorem identifiers_of_number {node : GoNode φ} {number : φ}
    (literal : node.requestRuleNumber = some number) :
    node.identifiers = [] := by
  cases node with
  | integer value | float value => rfl
  | _ => cases literal

omit [GoFloat φ] in
theorem traceCall_cases (exp1 exp2 : GoNode φ) (multiplier : φ) :
    (∃ value other, exp1 = .integer value ∧ exp2 = .integer other ∧
      traceCall exp1 exp2 multiplier = ("_trace_int", .integer value)) ∨
    traceCall exp1 exp2 multiplier = ("_trace", .float multiplier) := by
  unfold traceCall
  split
  · next value other => exact .inl ⟨value, other, rfl, rfl, rfl⟩
  · exact .inr rfl

variable {wanted : String → Bool}

theorem identifiers_visitConditional
    (unreserved : ∀ value, isReserved value = true → wanted value = false) (ternary : Bool)
    (cond exp1 exp2 : GoNode φ) (rules : List (RequestRuleTrace φ)) :
    (visitConditional ternary cond exp1 exp2 rules).1.identifiers.any wanted =
      (cond.identifiers ++ exp1.identifiers ++ exp2.identifiers).any wanted := by
  unfold visitConditional
  split
  · next multiplier rule =>
      obtain ⟨-, -, hexp1, fallback, hexp2, -⟩ := requestRule_eq_some rule
      rw [identifiers_of_number hexp1, identifiers_of_number hexp2]
      rcases traceCall_cases exp1 exp2 multiplier with ⟨value, other, -, -, traced⟩ | traced
      · rw [traced]
        simp [identifiers, identifiersOf, unreserved "_trace_int" rfl]
      · rw [traced]
        simp [identifiers, identifiersOf, unreserved "_trace" rfl]
  · rfl

theorem identifiers_patchAll {arguments : List (GoNode φ)}
    (each : ∀ argument ∈ arguments, ∀ rules,
      (argument.patch rules).1.identifiers.any wanted = argument.identifiers.any wanted)
    (rules : List (RequestRuleTrace φ)) :
    (identifiersOf (patchAll arguments rules).1).any wanted =
      (identifiersOf arguments).any wanted := by
  induction arguments generalizing rules with
  | nil => rfl
  | cons argument others ih =>
    simp only [patchAll, identifiersOf, List.any_append]
    rw [each argument (by simp), ih fun other member => each other (by simp [member])]

theorem identifiers_patch (unreserved : ∀ value, isReserved value = true → wanted value = false)
    (node : GoNode φ) (rules : List (RequestRuleTrace φ)) :
    (node.patch rules).1.identifiers.any wanted = node.identifiers.any wanted := by
  induction node generalizing rules with
  | nil | boolean | integer | float | string | identifier => rfl
  | unary operator node ih => exact ih rules
  | binary operator left right ihLeft ihRight =>
    simp only [patch, identifiers, List.any_append]
    rw [ihLeft, ihRight]
  | conditional ternary cond exp1 exp2 ihCond ihExp1 ihExp2 =>
    simp only [patch]
    rw [identifiers_visitConditional unreserved]
    simp only [identifiers, List.any_append]
    rw [ihCond, ihExp1, ihExp2]
  | call callee arguments ihCallee ihArguments =>
    simp only [patch, identifiers, List.any_append]
    rw [ihCallee, identifiers_patchAll ihArguments]
  | builtin name arguments ihArguments => exact identifiers_patchAll ihArguments rules

theorem containsPricingMarker_patch (node : GoNode φ) (rules : List (RequestRuleTrace φ)) :
    (node.patch rules).1.containsPricingMarker = node.containsPricingMarker :=
  identifiers_patch (by
    intro value reserved
    simp only [isReserved, Bool.or_eq_true, decide_eq_true_eq] at reserved
    rcases reserved with rfl | rfl
    · decide
    · decide) node rules

theorem usesRequestProbe_patch (node : GoNode φ) (rules : List (RequestRuleTrace φ)) :
    (node.patch rules).1.usesRequestProbe = node.usesRequestProbe :=
  identifiers_patch (by
    intro value reserved
    simp only [isReserved, Bool.or_eq_true, decide_eq_true_eq] at reserved
    rcases reserved with rfl | rfl
    · decide
    · decide) node rules

theorem patch_of_number {node : GoNode φ} {number : φ} (rules : List (RequestRuleTrace φ))
    (literal : node.requestRuleNumber = some number) :
    node.patch rules = (node, rules) := by
  cases node with
  | integer value | float value => rfl
  | _ => cases literal

theorem requestRuleNumber_patch (node : GoNode φ) (rules : List (RequestRuleTrace φ)) :
    (node.patch rules).1.requestRuleNumber = node.requestRuleNumber := by
  cases node with
  | conditional ternary cond exp1 exp2 =>
    simp only [patch, visitConditional]
    split
    · rfl
    · rfl
  | _ => rfl

theorem requestRule_patch (ternary : Bool) (cond exp1 exp2 : GoNode φ)
    (rules rules' rules'' : List (RequestRuleTrace φ)) :
    requestRule ternary (cond.patch rules).1 (exp1.patch rules').1
      (exp2.patch rules'').1 = requestRule ternary cond exp1 exp2 := by
  simp only [requestRule, usesRequestProbe_patch, requestRuleNumber_patch]

end GoNode

end NewApi.Expression
