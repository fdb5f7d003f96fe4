import Mathlib.Data.List.Infix
import NewApi.Expression.GoTree

/-!
# Running an expression of the billing engine

The evaluation of a tree in the environment of `runProgram`, with the events by
which its closures write the trace.  The runtime of the expression language
and the functions that read the request are parameters.
-/

namespace NewApi.Expression

open GoNode

inductive GoData (φ : Type) where
  | nil
  | boolean (value : Bool)
  | integer (value : Int)
  | float (value : φ)
  | string (value : String)
  | other (index : Nat)
deriving DecidableEq

/-- The values of the runtime.  No function of the environment returns a
function, so that one is reached through its identifier only. -/
inductive GoValue (φ : Type) where
  | data (data : GoData φ)
  | function (name : String)
deriving DecidableEq

/-- What a run does besides computing.  `tested` is no action of the program:
it marks that the conditional of a request rule was reached, with the number of
the rule and the condition found. -/
inductive GoEvent (φ : Type) where
  | tier (name : String) (value : φ)
  | fixed (amount : φ)
  | rule (index : Int) (matched : Bool)
  | tested (index : Nat) (holds : Bool)
deriving DecidableEq

def environmentFunctions : List String :=
  ["tier", "fixed", "_trace", "_trace_int", "header", "param", "u", "has",
    "hour", "minute", "weekday", "month", "day", "max", "min", "abs", "ceil",
    "floor"]

/-- The functions that have a node of their own when they are parsed without
the environment. -/
def builtinFunctions : List String := ["max", "min", "abs", "ceil", "floor"]

def environmentNumbers : List String :=
  ["image_count", "p", "c", "len", "cr", "cc", "cc1h", "img", "img_cr", "img_o", "ai", "ao"]

def arithmeticOperators : List String := ["+", "-", "*", "/"]

def comparisonOperators : List String := ["<", "<=", ">", ">=", "==", "!="]

inductive LeftOutcome where
  | done | next | refused
deriving DecidableEq

/-- A request in front of the runtime: the token counts and the number of
images, the functions that read the request and the time, how an argument is
passed as text and as number, the operators on floating point numbers besides
the product, and the operators on all other operands. -/
structure GoEnvironment (φ : Type) where
  tokens : String → φ
  imageCount : Option Int
  apply : String → List (GoValue φ) → Option (GoData φ)
  text : GoValue φ → Option String
  number : GoValue φ → Option φ
  unary : String → GoValue φ → Option (GoData φ)
  floatArithmetic : String → φ → φ → φ
  floatCompare : String → φ → φ → Bool
  otherBinary : String → GoValue φ → GoValue φ → Option (GoData φ)

variable {φ : Type} [GoFloat φ]

/-- The jump behind the left operand of `&&`, `||` and `??`; none for the
operators that evaluate both operands. -/
def jump (operator : String) (left : GoValue φ) : Option LeftOutcome :=
  if operator = "&&" ∨ operator = "and" then
    match left with
    | .data (.boolean holds) => some (if holds then .next else .done)
    | _ => some .refused
  else if operator = "||" ∨ operator = "or" then
    match left with
    | .data (.boolean holds) => some (if holds then .done else .next)
    | _ => some .refused
  else if operator = "??" then
    match left with
    | .data .nil => some .next
    | _ => some .done
  else none

namespace GoEnvironment

def maxImageN : Int := 128

def lookup (env : GoEnvironment φ) (name : String) : Option (GoValue φ) :=
  if name ∈ environmentFunctions then some (.function name)
  else if name = "image_count" then some (.data (.float (GoFloat.ofInt (env.imageCount.getD 1))))
  else if name ∈ environmentNumbers then some (.data (.float (env.tokens name)))
  else none

def onFloats (env : GoEnvironment φ) (operator : String) (left right : φ) : GoData φ :=
  if operator = "*" then .float (GoFloat.mul left right)
  else if operator ∈ arithmeticOperators then .float (env.floatArithmetic operator left right)
  else .boolean (env.floatCompare operator left right)

def strict (env : GoEnvironment φ) (operator : String) (left right : GoValue φ) :
    Option (GoData φ) :=
  if operator ∈ arithmeticOperators ∨ operator ∈ comparisonOperators then
    match left, right with
    | .data (.float x), .data (.float y) => some (env.onFloats operator x y)
    | .data (.float x), .data (.integer n) => some (env.onFloats operator x (GoFloat.ofInt n))
    | .data (.integer n), .data (.float y) => some (env.onFloats operator (GoFloat.ofInt n) y)
    | _, _ => env.otherBinary operator left right
  else env.otherBinary operator left right

def applyFunction (env : GoEnvironment φ) (name : String) (arguments : List (GoValue φ)) :
    Option (GoData φ × List (GoEvent φ)) :=
  if name = "tier" then
    match arguments with
    | [label, value] =>
      (env.text label).bind fun label =>
        (env.number value).map fun value => (.float value, [.tier label value])
    | _ => none
  else if name = "fixed" then
    match arguments with
    | [amount] =>
      (env.number amount).map fun amount =>
        (.float (GoFloat.mul amount (GoFloat.ofInt 1000000)), [.fixed amount])
    | _ => none
  else if name = "_trace" then
    match arguments with
    | [.data (.integer index), .data (.boolean matched),
        .data (.float multiplier)] =>
        some (.float (if matched then multiplier else GoFloat.ofInt 1), [.rule index matched])
    | _ => none
  else if name = "_trace_int" then
    match arguments with
    | [.data (.integer index), .data (.boolean matched),
        .data (.integer multiplier)] =>
        some (.integer (if matched then multiplier else 1), [.rule index matched])
    | _ => none
  else (env.apply name arguments).map fun result => (result, [])

def callValue (env : GoEnvironment φ) (callee : GoValue φ) (arguments : List (GoValue φ)) :
    Option (GoData φ × List (GoEvent φ)) :=
  match callee with
  | .function name => env.applyFunction name arguments
  | .data _ => none

end GoEnvironment

namespace GoNode

/-- The multiplier of a conditional that is a request rule to
`requestRulePatcher`. -/
def requestRule (ternary : Bool) (cond exp1 exp2 : GoNode φ) : Option φ :=
  if ternary && cond.usesRequestProbe then
    match exp1.requestRuleNumber, exp2.requestRuleNumber with
    | some multiplier, some fallback =>
      if GoFloat.isOne fallback then some multiplier else none
    | _, _ => none
  else none

mutual

def ruleCount : GoNode φ → Nat
  | .unary _ node => node.ruleCount
  | .binary _ left right => left.ruleCount + right.ruleCount
  | .conditional ternary cond exp1 exp2 =>
    cond.ruleCount + exp1.ruleCount + exp2.ruleCount +
      (requestRule ternary cond exp1 exp2).toList.length
  | .call callee arguments => callee.ruleCount + ruleCountOf arguments
  | .builtin _ arguments => ruleCountOf arguments
  | _ => 0

def ruleCountOf : List (GoNode φ) → Nat
  | [] => 0
  | first :: others => first.ruleCount + ruleCountOf others

end

end GoNode

/-! ## Evaluation -/

/-- The mark of a reached conditional: that of a rule is numbered behind the
rules of its parts. -/
def testedEvents (first : Nat) (ternary : Bool) (cond exp1 exp2 : GoNode φ) (holds : Bool) :
    List (GoEvent φ) :=
  if (GoNode.requestRule ternary cond exp1 exp2).isSome then
    [.tested (first + cond.ruleCount + exp1.ruleCount + exp2.ruleCount) holds]
  else []

namespace GoNode

mutual

def eval (env : GoEnvironment φ) :
    (first : Nat) → GoNode φ → Option (GoValue φ × List (GoEvent φ))
  | _, .nil => some (.data .nil, [])
  | _, .boolean value => some (.data (.boolean value), [])
  | _, .integer value => some (.data (.integer value), [])
  | _, .float value => some (.data (.float value), [])
  | _, .string value => some (.data (.string value), [])
  | _, .identifier value => (env.lookup value).map fun value => (value, [])
  | first, .unary operator node =>
    (node.eval env first).bind fun operand =>
      (env.unary operator operand.1).map fun result => (.data result, operand.2)
  | first, .binary operator left right =>
    (left.eval env first).bind fun x =>
      match jump operator x.1 with
      | some .done => some x
      | some .refused => none
      | some .next =>
        (right.eval env (first + left.ruleCount)).map fun y => (y.1, x.2 ++ y.2)
      | none =>
        (right.eval env (first + left.ruleCount)).bind fun y =>
          (env.strict operator x.1 y.1).map fun result => (.data result, x.2 ++ y.2)
  | first, .conditional ternary cond exp1 exp2 =>
    (cond.eval env first).bind fun tested =>
      match tested.1 with
      | .data (.boolean true) =>
        (exp1.eval env (first + cond.ruleCount)).map fun result =>
          (result.1, tested.2 ++ testedEvents first ternary cond exp1 exp2 true ++ result.2)
      | .data (.boolean false) =>
        (exp2.eval env (first + cond.ruleCount + exp1.ruleCount)).map
          fun result =>
            (result.1, tested.2 ++ testedEvents first ternary cond exp1 exp2 false ++ result.2)
      | _ => none
  | first, .call callee arguments =>
    (evalOf env (first + callee.ruleCount) arguments).bind fun values =>
      (callee.eval env first).bind fun function =>
        (env.callValue function.1 values.1).map fun result =>
          (.data result.1, values.2 ++ function.2 ++ result.2)
  | first, .builtin name arguments =>
    (evalOf env first arguments).bind fun values =>
      if name ∈ builtinFunctions then
        (env.apply name values.1).map fun result => (.data result, values.2)
      else none

def evalOf (env : GoEnvironment φ) :
    (first : Nat) → List (GoNode φ) → Option (List (GoValue φ) × List (GoEvent φ))
  | _, [] => some ([], [])
  | first, argument :: others =>
    (argument.eval env first).bind fun value =>
      (evalOf env (first + argument.ruleCount) others).map fun values =>
        (value.1 :: values.1, value.2 ++ values.2)

end

@[simp]
theorem eval_identifier (env : GoEnvironment φ) (first : Nat) (name : String) :
    (identifier name).eval env first = (env.lookup name).map fun value => (value, []) := by
  rw [eval]

end GoNode

structure RequestRuleTrace (φ : Type) where
  cond : GoNode φ
  multiplier : φ
  matched : Bool

inductive GoBillingUnit where
  | token | request
deriving DecidableEq

structure TraceResult (φ : Type) where
  imageCount : Option Int
  billingUnit : GoBillingUnit
  fixedPrice : Option φ
  matchedTier : String
  requestRules : List (RequestRuleTrace φ)
  cost : φ

def TraceResult.record (trace : TraceResult φ) : GoEvent φ → TraceResult φ
  | .tier name value => { trace with matchedTier := name, cost := value }
  | .fixed amount =>
    { trace with billingUnit := .request, fixedPrice := some amount }
  | .rule index matched =>
    if matched ∧ 0 ≤ index ∧ index < trace.requestRules.length then
      { trace with
        requestRules := trace.requestRules.modify index.toNat fun rule =>
          { rule with matched := true } }
    else trace
  | .tested _ _ => trace

def asFloat64 : GoValue φ → Option φ
  | .data (.float value) => some value
  | .data (.integer value) => some (GoFloat.ofInt value)
  | _ => none

def TraceResult.start (requestRules : List (RequestRuleTrace φ)) (imageCount : Option Int) :
    TraceResult φ :=
  ⟨imageCount, .token, none, "", requestRules, GoFloat.ofInt 0⟩

def tracedImageCount (node : GoNode φ) (env : GoEnvironment φ) : Option Int :=
  if "image_count" ∈ node.identifiers then some (env.imageCount.getD 1)
  else none

def runProgram (node : GoNode φ) (requestRules : List (RequestRuleTrace φ))
    (env : GoEnvironment φ) : Option (φ × TraceResult φ) :=
  if (tracedImageCount node env).any fun imageCount =>
      imageCount < 1 || GoEnvironment.maxImageN < imageCount then none
  else
    (node.eval env 0).bind fun out =>
      (asFloat64 out.1).map fun result =>
        (result, out.2.foldl TraceResult.record (.start requestRules (tracedImageCount node env)))

namespace GoNode

/-! What an evaluation that yields a value has gone through. -/

section Inversion

variable {env : GoEnvironment φ} {first : Nat} {value : GoValue φ} {events : List (GoEvent φ)}

theorem eval_unary {operator : String} {node : GoNode φ}
    (ran : (unary operator node).eval env first = some (value, events)) :
    ∃ x, node.eval env first = some (x, events) ∧
      ∃ result, env.unary operator x = some result ∧ value = .data result := by
  simp only [eval, Option.bind_eq_some_iff, Option.map_eq_some_iff, Prod.mk.injEq] at ran
  obtain ⟨operand, hoperand, result, hresult, rfl, rfl⟩ := ran
  exact ⟨operand.1, hoperand, result, hresult, rfl⟩

theorem eval_binary {operator : String} {left right : GoNode φ}
    (ran : (binary operator left right).eval env first = some (value, events)) :
    ∃ x xs, left.eval env first = some (x, xs) ∧
      ((jump operator x = some .done ∧ value = x ∧ events = xs) ∨
        ∃ y ys, right.eval env (first + left.ruleCount) = some (y, ys) ∧ events = xs ++ ys ∧
          ((jump operator x = some .next ∧ value = y) ∨
            (jump operator x = none ∧
              ∃ result, env.strict operator x y = some result ∧ value = .data result))) := by
  simp only [eval, Option.bind_eq_some_iff] at ran
  obtain ⟨⟨x, xs⟩, hleft, ran⟩ := ran
  refine ⟨x, xs, hleft, ?_⟩
  cases hjump : jump operator x with
  | none =>
    simp only [hjump, Option.bind_eq_some_iff, Option.map_eq_some_iff, Prod.mk.injEq] at ran
    obtain ⟨⟨y, ys⟩, hright, result, hresult, rfl, rfl⟩ := ran
    exact .inr ⟨y, ys, hright, rfl, .inr ⟨rfl, result, hresult, rfl⟩⟩
  | some outcome =>
    cases outcome with
    | done =>
      simp only [hjump, Option.some.injEq, Prod.mk.injEq] at ran
      exact .inl ⟨rfl, ran.1.symm, ran.2.symm⟩
    | next =>
      simp only [hjump, Option.map_eq_some_iff, Prod.mk.injEq] at ran
      obtain ⟨⟨y, ys⟩, hright, rfl, rfl⟩ := ran
      exact .inr ⟨y, ys, hright, rfl, .inl ⟨rfl, rfl⟩⟩
    | refused => simp [hjump] at ran

def branch (first : Nat) (cond exp1 exp2 : GoNode φ) (holds : Bool) :
    GoNode φ × Nat :=
  if holds then (exp1, first + cond.ruleCount)
  else (exp2, first + cond.ruleCount + exp1.ruleCount)

theorem eval_conditional {ternary : Bool} {cond exp1 exp2 : GoNode φ}
    (ran : (conditional ternary cond exp1 exp2).eval env first = some (value, events)) :
    ∃ holds condEvents branchEvents,
      cond.eval env first = some (.data (.boolean holds), condEvents) ∧
      (branch first cond exp1 exp2 holds).1.eval env (branch first cond exp1 exp2 holds).2 =
        some (value, branchEvents) ∧
      events = condEvents ++ testedEvents first ternary cond exp1 exp2 holds ++ branchEvents := by
  simp only [eval, Option.bind_eq_some_iff] at ran
  obtain ⟨⟨tested, condEvents⟩, hcond, ran⟩ := ran
  split at ran
  · next htested =>
      obtain rfl : tested = .data (.boolean true) := htested
      simp only [Option.map_eq_some_iff, Prod.mk.injEq] at ran
      obtain ⟨⟨y, ys⟩, hbranch, rfl, rfl⟩ := ran
      exact ⟨true, condEvents, ys, hcond, hbranch, rfl⟩
  · next htested =>
      obtain rfl : tested = .data (.boolean false) := htested
      simp only [Option.map_eq_some_iff, Prod.mk.injEq] at ran
      obtain ⟨⟨y, ys⟩, hbranch, rfl, rfl⟩ := ran
      exact ⟨false, condEvents, ys, hcond, hbranch, rfl⟩
  · cases ran

variable {arguments : List (GoNode φ)}

theorem eval_call {callee : GoNode φ}
    (ran : (call callee arguments).eval env first = some (value, events)) :
    ∃ values valueEvents function calleeEvents result resultEvents,
      evalOf env (first + callee.ruleCount) arguments = some (values, valueEvents) ∧
      callee.eval env first = some (function, calleeEvents) ∧
      env.callValue function values = some (result, resultEvents) ∧
      value = .data result ∧
      events = valueEvents ++ calleeEvents ++ resultEvents := by
  simp only [eval, Option.bind_eq_some_iff, Option.map_eq_some_iff, Prod.mk.injEq] at ran
  obtain ⟨⟨values, valueEvents⟩, hvalues, ⟨function, calleeEvents⟩, hcallee,
    ⟨result, resultEvents⟩, hresult, rfl, rfl⟩ := ran
  exact ⟨values, valueEvents, function, calleeEvents, result, resultEvents,
    hvalues, hcallee, hresult, rfl, rfl⟩

theorem eval_builtin {name : String}
    (ran : (builtin name arguments).eval env first = some (value, events)) :
    ∃ values result, evalOf env first arguments = some (values, events) ∧
      name ∈ builtinFunctions ∧ env.apply name values = some result ∧
      value = .data result := by
  simp only [eval, Option.bind_eq_some_iff] at ran
  obtain ⟨⟨values, valueEvents⟩, hvalues, ran⟩ := ran
  split_ifs at ran with known
  simp only [Option.map_eq_some_iff, Prod.mk.injEq] at ran
  obtain ⟨result, hresult, rfl, rfl⟩ := ran
  exact ⟨values, result, hvalues, known, hresult, rfl⟩

theorem evalOf_cons {argument : GoNode φ} {others : List (GoNode φ)} {values : List (GoValue φ)}
    (ran : evalOf env first (argument :: others) = some (values, events)) :
    ∃ x xs ys yEvents, argument.eval env first = some (x, xs) ∧
      evalOf env (first + argument.ruleCount) others = some (ys, yEvents) ∧
      values = x :: ys ∧ events = xs ++ yEvents := by
  simp only [evalOf, Option.bind_eq_some_iff, Option.map_eq_some_iff, Prod.mk.injEq] at ran
  obtain ⟨⟨x, xs⟩, hx, ⟨ys, yEvents⟩, hys, rfl, rfl⟩ := ran
  exact ⟨x, xs, ys, yEvents, hx, hys, rfl, rfl⟩

end Inversion

/-! A tree without the identifiers of some functions does not call these. -/

section Avoidance

variable {env : GoEnvironment φ} {avoided : String → Bool} {harmless : GoEvent φ → Prop}

theorem evalOf_avoids {arguments : List (GoNode φ)}
    (each : ∀ argument ∈ arguments, ∀ first value events,
      argument.eval env first = some (value, events) → ∀ event ∈ events, harmless event) :
    ∀ {first values events},
      evalOf env first arguments = some (values, events) → ∀ event ∈ events, harmless event := by
  induction arguments with
  | nil =>
    intro first values events ran event member
    simp only [evalOf, Option.some.injEq, Prod.mk.injEq] at ran
    rw [← ran.2] at member
    cases member
  | cons argument others ih =>
    intro first values events ran event member
    obtain ⟨x, xs, ys, yEvents, hx, hys, -, rfl⟩ := evalOf_cons ran
    rcases List.mem_append.mp member with inFirst | inOthers
    · exact each argument (by simp) _ _ _ hx event inFirst
    · exact ih (fun other found => each other (by simp [found])) hys event inOthers

theorem testedEvents_harmless (marks : ∀ index holds, harmless (.tested index holds))
    (first : Nat) (ternary : Bool) (cond exp1 exp2 : GoNode φ) (holds : Bool) :
    ∀ event ∈ testedEvents first ternary cond exp1 exp2 holds, harmless event := by
  unfold testedEvents
  split_ifs
  · simpa using marks _ holds
  · simp

/-- When every function that is not avoided is harmless, so is a tree without
the avoided identifiers, whatever it evaluates; and it yields no avoided
function. -/
theorem eval_avoids
    (calls : ∀ name arguments result events, avoided name = false →
      env.applyFunction name arguments = some (result, events) → ∀ event ∈ events, harmless event)
    (marks : ∀ index holds, harmless (.tested index holds)) (node : GoNode φ)
    (absent : ∀ value ∈ node.identifiers, avoided value = false) :
    ∀ first value events, node.eval env first = some (value, events) →
      (∀ event ∈ events, harmless event) ∧
        ∀ name, value = .function name → avoided name = false := by
  induction node with
  | nil | boolean | integer | float | string =>
    intro first value events ran
    obtain ⟨rfl, rfl⟩ := ran
    simp
  | identifier name =>
    intro first value events ran
    simp only [eval, Option.map_eq_some_iff, Prod.mk.injEq] at ran
    obtain ⟨found, hfound, rfl, rfl⟩ := ran
    refine ⟨by simp, ?_⟩
    unfold GoEnvironment.lookup at hfound
    rintro other rfl
    split_ifs at hfound
    · cases hfound
      exact absent _ (by simp [identifiers])
    · cases hfound
    · cases hfound
  | unary operator node ih =>
    intro first value events ran
    obtain ⟨x, hx, result, -, rfl⟩ := eval_unary ran
    exact ⟨(ih absent _ _ _ hx).1, by simp⟩
  | binary operator left right ihLeft ihRight =>
    simp only [identifiers, List.mem_append] at absent
    have ofLeft := ihLeft fun value member => absent value (.inl member)
    have ofRight := ihRight fun value member => absent value (.inr member)
    intro first value events ran
    obtain ⟨x, xs, hx, ⟨-, rfl, rfl⟩ | ⟨y, ys, hy, rfl, outcome⟩⟩ := eval_binary ran
    · exact ofLeft _ _ _ hx
    · refine ⟨List.forall_mem_append.mpr ⟨(ofLeft _ _ _ hx).1, (ofRight _ _ _ hy).1⟩, ?_⟩
      rcases outcome with ⟨-, rfl⟩ | ⟨-, result, -, rfl⟩
      · exact (ofRight _ _ _ hy).2
      · simp
  | conditional ternary cond exp1 exp2 ihCond ihExp1 ihExp2 =>
    simp only [identifiers, List.mem_append] at absent
    intro first value events ran
    obtain ⟨holds, condEvents, branchEvents, hcond, hbranch, rfl⟩ := eval_conditional ran
    have ofCond := (ihCond (fun value member => absent value (.inl (.inl member))) _ _ _ hcond).1
    have ofBranch : (∀ event ∈ branchEvents, harmless event) ∧
        ∀ name, value = .function name → avoided name = false := by
      cases holds with
      | true => exact ihExp1 (fun value member => absent value (.inl (.inr member))) _ _ _ hbranch
      | false => exact ihExp2 (fun value member => absent value (.inr member)) _ _ _ hbranch
    exact ⟨List.forall_mem_append.mpr ⟨List.forall_mem_append.mpr
      ⟨ofCond, testedEvents_harmless marks _ _ _ _ _ _⟩, ofBranch.1⟩,
      ofBranch.2⟩
  | call callee arguments ihCallee ihArguments =>
    simp only [identifiers, List.mem_append, mem_identifiersOf] at absent
    intro first value events ran
    obtain ⟨values, valueEvents, function, calleeEvents, result,
      resultEvents, hvalues, hcallee, hresult, rfl, rfl⟩ := eval_call ran
    have ofValues := evalOf_avoids
      (fun argument member first value events ran =>
        (ihArguments argument member
          (fun value found => absent value (.inr ⟨argument, member, found⟩))
          first value events ran).1) hvalues
    have ofCallee := ihCallee (fun value member => absent value (.inl member)) _ _ _ hcallee
    have ofResult : ∀ event ∈ resultEvents, harmless event := by
      cases function with
      | data data => cases hresult
      | function name => exact calls _ _ _ _ (ofCallee.2 name rfl) hresult
    exact ⟨List.forall_mem_append.mpr
      ⟨List.forall_mem_append.mpr ⟨ofValues, ofCallee.1⟩, ofResult⟩, by simp⟩
  | builtin name arguments ihArguments =>
    simp only [identifiers, mem_identifiersOf] at absent
    intro first value events ran
    obtain ⟨values, result, hvalues, -, -, rfl⟩ := eval_builtin ran
    exact ⟨evalOf_avoids
      (fun argument member first value events ran =>
        (ihArguments argument member (fun value found => absent value ⟨argument, member, found⟩)
          first value events ran).1) hvalues, by simp⟩

end Avoidance

end GoNode

/-- `fmt.Sprint` of texts and of whole numbers up to a million. -/
def sprint : GoValue Rat → Option String
  | .data (.string value) => some value
  | .data (.integer value) => some (toString value)
  | .data (.float value) =>
    if value = 1000000 then some "1e+06"
    else if value.den = 1 ∧ 0 ≤ value ∧ value < 1000000 then some (toString value.num)
    else none
  | _ => none

def headerRequest : GoEnvironment Rat where
  tokens _ := 1000
  imageCount := some 2
  apply name arguments :=
    if name = "header" then
      if arguments = [.data (.string "a")] then some (.string "b")
      else some (.string "")
    else if name = "has" then
      match arguments with
      | [source, .data (.string part)] =>
        (sprint source).map fun text => .boolean (part ≠ "" ∧ part.toList <:+: text.toList)
      | _ => none
    else none
  text
    | .data (.string value) => some value
    | _ => none
  number := asFloat64
  unary _ _ := none
  floatArithmetic operator x y :=
    if operator = "+" then x + y
    else if operator = "-" then x - y
    else x / y
  floatCompare operator x y :=
    if operator = "<" then x < y
    else if operator = "<=" then x ≤ y
    else if operator = ">" then y < x
    else if operator = ">=" then y ≤ x
    else if operator = "==" then x = y
    else x ≠ y
  otherBinary operator x y :=
    match x, y with
    | .data (.integer n), .data (.integer m) =>
      if operator = "%" then
        if m = 0 then none else some (.integer (n.tmod m))
      else none
    | .data (.string a), .data (.string b) =>
      if operator = "==" then some (.boolean (a = b)) else none
    | _, _ => none

theorem runProgram_eq_some {node : GoNode φ} {rules : List (RequestRuleTrace φ)}
    {env : GoEnvironment φ} {result : φ} {trace : TraceResult φ}
    (ran : runProgram node rules env = some (result, trace)) :
    ∃ value events, node.eval env 0 = some (value, events) ∧ asFloat64 value = some result ∧
      trace = events.foldl TraceResult.record (.start rules (tracedImageCount node env)) := by
  unfold runProgram at ran
  split_ifs at ran
  simp only [Option.bind_eq_some_iff, Option.map_eq_some_iff, Prod.mk.injEq] at ran
  obtain ⟨⟨value, events⟩, heval, out, hout, rfl, rfl⟩ := ran
  exact ⟨value, events, heval, hout, rfl⟩

end NewApi.Expression
