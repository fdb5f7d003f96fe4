import NewApi.Expression.GoPatch

/-!
# Tracing request rules

What the patched tree evaluates to, beside the source.  A rule between two
literals of one kind keeps its value; a rule between an integer and a floating
point number always yields the latter, which changes the result where the kind
of a number is seen.
-/

namespace NewApi.Expression

open GoEnvironment GoNode TraceResult GoFloat GoEvent

variable {φ : Type} [GoFloat φ]

/-- What is known of the value of a tree: a floating point number, a number, or
nothing. -/
inductive NumberKind where
  | float | number | unknown
deriving DecidableEq

/-- What a patched tree keeps of a value: the value, the number alone, or
perhaps neither. -/
inductive Kept where
  | value | number | nothing
deriving DecidableEq

namespace GoNode

def kind : GoNode φ → NumberKind
  | .integer _ => .number
  | .float _ => .float
  | .identifier name =>
    if name ∈ environmentNumbers then .float else .unknown
  | .binary operator left right =>
    if operator ∈ arithmeticOperators ∧
        (left.kind = .float ∧ right.kind ≠ .unknown ∨
          right.kind = .float ∧ left.kind ≠ .unknown) then .float
    else .unknown
  | .conditional _ _ exp1 exp2 =>
    if exp1.kind = .float ∧ exp2.kind = .float then .float
    else if exp1.kind ≠ .unknown ∧ exp2.kind ≠ .unknown then .number
    else .unknown
  | .call (.identifier name) _ =>
    if name = "tier" ∨ name = "fixed" then .float else .unknown
  | _ => .unknown

/-- One literal is an integer and the other a floating point number. -/
def mixedLiterals (exp1 exp2 : GoNode φ) : Bool :=
  match exp1, exp2 with
  | .integer _, .float _ => true
  | .float _, .integer _ => true
  | _, _ => false

mutual

/-- What patching keeps of the value of a tree.  The value of a rule with mixed
literals is kept as a number; a floating point number on the other side of an
arithmetic operator or a comparison makes up for that, and so does nothing
else. -/
def kept : GoNode φ → Kept
  | .unary _ node => if node.kept = .value then .value else .nothing
  | .binary operator left right =>
    if left.kept = .value ∧ right.kept = .value then .value
    else if (operator ∈ arithmeticOperators ∨
          operator ∈ comparisonOperators) ∧
        (left.kept = .value ∧ left.kind = .float ∧ right.kept = .number ∨
          left.kept = .number ∧ right.kept = .value ∧ right.kind = .float) then .value
    else .nothing
  | .conditional ternary cond exp1 exp2 =>
    if cond.kept ≠ .value then .nothing
    else if (requestRule ternary cond exp1 exp2).isSome then
      if mixedLiterals exp1 exp2 then .number else .value
    else if exp1.kept = .value ∧ exp2.kept = .value then .value
    else if exp1.kept ≠ .nothing ∧ exp2.kept ≠ .nothing then .number
    else .nothing
  | .call callee arguments =>
    if callee.kept = .value ∧ keepsAll arguments then .value else .nothing
  | .builtin _ arguments => if keepsAll arguments then .value else .nothing
  | _ => .value

def keepsAll : List (GoNode φ) → Bool
  | [] => true
  | first :: others => decide (first.kept = .value) && keepsAll others

end

end GoNode

def NumberKind.Holds : NumberKind → GoValue φ → Prop
  | .float, value => ∃ x, value = .data (.float x)
  | .number, value => (∃ x, value = .data (.float x)) ∨ ∃ n, value = .data (.integer n)
  | .unknown, _ => True

variable {value : GoValue φ}

omit [GoFloat φ] in
theorem NumberKind.Holds.number {kind : NumberKind}
    (holds : kind.Holds value) (known : kind ≠ .unknown) :
    (∃ x, value = .data (.float x)) ∨ ∃ n, value = .data (.integer n) := by
  cases kind with
  | float => exact .inl holds
  | number => exact holds
  | unknown => exact absurd rfl known

variable {env : GoEnvironment φ} {operator : String}

theorem GoEnvironment.strict_arithmetic {x y : GoValue φ} {result : GoData φ}
    (arithmetic : operator ∈ arithmeticOperators)
    (numbers : (∃ a, x = .data (.float a)) ∧
        ((∃ b, y = .data (.float b)) ∨ ∃ n, y = .data (.integer n)) ∨
      (∃ b, y = .data (.float b)) ∧ ((∃ a, x = .data (.float a)) ∨ ∃ n, x = .data (.integer n)))
    (computed : env.strict operator x y = some result) :
    ∃ z, result = .float z := by
  have onFloats (a b : φ) : ∃ z, env.onFloats operator a b = .float z := by
    unfold onFloats
    split_ifs
    · exact ⟨_, rfl⟩
    · exact ⟨_, rfl⟩
  simp only [strict, arithmetic, true_or, if_true] at computed
  rcases numbers with ⟨⟨a, rfl⟩, ⟨b, rfl⟩ | ⟨n, rfl⟩⟩ | ⟨⟨b, rfl⟩, ⟨a, rfl⟩ | ⟨n, rfl⟩⟩
  all_goals
    simp only [Option.some.injEq] at computed
    obtain ⟨z, float⟩ := onFloats _ _
    exact ⟨z, computed.symm.trans float⟩

theorem environmentNumbers_noFunction :
    ∀ name ∈ environmentNumbers, name ∉ environmentFunctions := by
  decide

omit [GoFloat φ] in
theorem jump_strict
    (strict : operator ∈ arithmeticOperators ∨ operator ∈ comparisonOperators) (left : GoValue φ) :
    jump operator left = none := by
  have noLogic : ∀ other ∈ arithmeticOperators ++ comparisonOperators,
      ¬(other = "&&" ∨ other = "and") ∧ ¬(other = "||" ∨ other = "or") ∧ other ≠ "??" := by
    decide
  obtain ⟨noAnd, noOr, noDefault⟩ := noLogic operator (List.mem_append.mpr strict)
  simp only [jump, if_neg noAnd, if_neg noOr, if_neg noDefault]

namespace GoNode

/-- The static kind of a node holds of its value. -/
theorem kind_holds {env : GoEnvironment φ} (node : GoNode φ) :
    ∀ first value events, node.eval env first = some (value, events) → node.kind.Holds value := by
  induction node with
  | integer n | float x =>
    intro first value events ran
    simp only [eval, Option.some.injEq, Prod.mk.injEq] at ran
    rw [← ran.1]
    simp [kind, NumberKind.Holds]
  | identifier name =>
    intro first value events ran
    simp only [eval, Option.map_eq_some_iff, Prod.mk.injEq] at ran
    obtain ⟨found, hfound, rfl, -⟩ := ran
    simp only [kind]
    split_ifs with number
    · unfold lookup at hfound
      rw [if_neg (environmentNumbers_noFunction name number)] at hfound
      split_ifs at hfound
      · exact ⟨_, (Option.some.inj hfound).symm⟩
      · exact ⟨_, (Option.some.inj hfound).symm⟩
    · trivial
  | binary operator left right ihLeft ihRight =>
    intro first value events ran
    simp only [kind]
    split_ifs with known
    · obtain ⟨arithmetic, kinds⟩ := known
      obtain ⟨x, xs, hx, ⟨jumped, -⟩ | ⟨y, ys, hy, -, outcome⟩⟩ := eval_binary ran
      · simp [jump_strict (.inl arithmetic)] at jumped
      rcases outcome with ⟨jumped, -⟩ | ⟨-, result, computed, rfl⟩
      · simp [jump_strict (.inl arithmetic)] at jumped
      have ofLeft := ihLeft _ _ _ hx
      have ofRight := ihRight _ _ _ hy
      have float : ∃ z, result = .float z := by
        refine strict_arithmetic arithmetic ?_ computed
        rcases kinds with ⟨leftFloat, rightKnown⟩ | ⟨rightFloat, leftKnown⟩
        · rw [leftFloat] at ofLeft
          exact .inl ⟨ofLeft, ofRight.number rightKnown⟩
        · rw [rightFloat] at ofRight
          exact .inr ⟨ofRight, ofLeft.number leftKnown⟩
      obtain ⟨z, rfl⟩ := float
      exact ⟨z, rfl⟩
    · trivial
  | conditional ternary cond exp1 exp2 ihCond ihExp1 ihExp2 =>
    intro first value events ran
    obtain ⟨holds, condEvents, branchEvents, -, hbranch, -⟩ := eval_conditional ran
    have ofBranch : exp1.kind.Holds value ∨ exp2.kind.Holds value := by
      cases holds with
      | true => exact .inl (ihExp1 _ _ _ hbranch)
      | false => exact .inr (ihExp2 _ _ _ hbranch)
    simp only [kind]
    split_ifs with floats numbers
    · rw [floats.1, floats.2, or_self] at ofBranch
      exact ofBranch
    · rcases ofBranch with ofExp1 | ofExp2
      · exact ofExp1.number numbers.1
      · exact ofExp2.number numbers.2
    · trivial
  | call callee arguments ihCallee ihArguments =>
    intro first value events ran
    obtain ⟨values, valueEvents, function, calleeEvents, result,
      resultEvents, -, hcallee, hresult, rfl, -⟩ := eval_call ran
    cases callee with
    | identifier name =>
      simp only [kind]
      split_ifs with pricing
      · rcases pricing with rfl | rfl
        · cases hcallee
          simp only [callValue, applyFunction, if_pos] at hresult
          split at hresult
          · simp only [Option.bind_eq_some_iff, Option.map_eq_some_iff, Prod.mk.injEq] at hresult
            obtain ⟨text, -, cost, -, rfl, -⟩ := hresult
            exact ⟨cost, rfl⟩
          · cases hresult
        · cases hcallee
          simp only [callValue, applyFunction,
            if_neg (show ¬"fixed" = "tier" by decide), if_pos] at hresult
          split at hresult
          · simp only [Option.map_eq_some_iff, Prod.mk.injEq] at hresult
            obtain ⟨amount, -, rfl, -⟩ := hresult
            exact ⟨_, rfl⟩
          · cases hresult
      · trivial
    | _ => trivial
  | _ => intros; trivial

end GoNode

/-- What the patched tree does for an event of the source: a reached rule is
traced. -/
def GoEvent.traced : GoEvent φ → GoEvent φ
  | .tested index holds => .rule index holds
  | event => event

/-- The number is the same; an integer may have become a floating point
number. -/
def SameNumber (value other : GoValue φ) : Prop :=
  other = value ∨ ∃ n, value = .data (.integer n) ∧ other = .data (.float (GoFloat.ofInt n))

/-- The outcome of the patched tree beside that of the source, by what is kept
of the value.  Either both fail or none does. -/
def Kept.Relates :
    Kept → Option (GoValue φ × List (GoEvent φ)) → Option (GoValue φ × List (GoEvent φ)) → Prop
  | .value, source, patched => patched = source.map fun run => (run.1, run.2.map GoEvent.traced)
  | .number, source, patched =>
    Option.Rel (fun run traced => SameNumber run.1 traced.1 ∧
      traced.2 = run.2.map GoEvent.traced) source patched
  | .nothing, _, _ => True

variable {source patched : Option (GoValue φ × List (GoEvent φ))}

theorem Kept.Relates.number {kept : Kept} (relates : kept.Relates source patched)
    (keeps : kept ≠ .nothing) :
    Kept.number.Relates source patched := by
  cases kept with
  | number => exact relates
  | nothing => exact absurd rfl keeps
  | value =>
    obtain rfl := relates
    cases source with
    | none => exact .none
    | some run => exact .some ⟨.inl rfl, rfl⟩

theorem Kept.relates_none (kept : Kept) :
    kept.Relates (none : Option (GoValue φ × List (GoEvent φ))) none := by
  cases kept with
  | value => rfl
  | number => exact .none
  | nothing => trivial

theorem Kept.Relates.behind {kept : Kept} (relates : kept.Relates source patched)
    (events : List (GoEvent φ)) :
    kept.Relates (source.map fun result => (result.1, events ++ result.2))
      (patched.map fun result =>
        (result.1, events.map traced ++ result.2)) := by
  cases kept with
  | value =>
    simp only [Kept.Relates] at relates ⊢
    rw [relates]
    cases source with
    | none => rfl
    | some run => simp
  | number =>
    cases relates with
    | none => exact .none
    | some both => exact .some ⟨both.1, by simp [both.2]⟩
  | nothing => trivial

variable {events : List (GoEvent φ)}

theorem GoEnvironment.callValue_traced {function : GoValue φ}
    {arguments : List (GoValue φ)} {result : GoData φ}
    (called : env.callValue function arguments = some (result, events)) :
    events.map traced = events := by
  cases function with
  | data data => cases called
  | function name =>
    simp only [callValue, applyFunction] at called
    split_ifs at called
    · split at called
      · simp only [Option.bind_eq_some_iff, Option.map_eq_some_iff, Prod.mk.injEq] at called
        obtain ⟨text, -, cost, -, -, rfl⟩ := called
        rfl
      · cases called
    · split at called
      · simp only [Option.map_eq_some_iff, Prod.mk.injEq] at called
        obtain ⟨amount, -, -, rfl⟩ := called
        rfl
      · cases called
    · split at called
      · obtain ⟨-, rfl⟩ := called
        rfl
      · cases called
    · split at called
      · obtain ⟨-, rfl⟩ := called
        rfl
      · cases called
    · simp only [Option.map_eq_some_iff, Prod.mk.injEq] at called
      obtain ⟨data, -, -, rfl⟩ := called
      rfl

variable {other : GoValue φ}

theorem GoEnvironment.strict_sameNumber (env : GoEnvironment φ)
    (strict : operator ∈ arithmeticOperators ∨ operator ∈ comparisonOperators)
    {x x' y y' : GoValue φ} (left : SameNumber x x') (right : SameNumber y y')
    (float : (∃ z, x = .data (.float z)) ∨ ∃ z, y = .data (.float z)) :
    env.strict operator x' y' = env.strict operator x y := by
  rcases left with rfl | ⟨n, rfl, rfl⟩
  · rcases right with rfl | ⟨m, rfl, rfl⟩
    · rfl
    · obtain ⟨z, rfl⟩ : ∃ z, x' = .data (.float z) := float.resolve_right (by simp)
      simp [GoEnvironment.strict, strict]
  · obtain ⟨z, rfl⟩ : ∃ z, y = .data (.float z) := float.resolve_left (by simp)
    obtain rfl : y' = .data (.float z) := by simpa [SameNumber] using right
    simp [GoEnvironment.strict, strict]

namespace GoNode

theorem visitConditional_length (ternary : Bool) (cond exp1 exp2 : GoNode φ)
    (rules : List (RequestRuleTrace φ)) :
    (visitConditional ternary cond exp1 exp2 rules).2.length =
      rules.length + (requestRule ternary cond exp1 exp2).toList.length := by
  unfold visitConditional
  split
  · next multiplier rule => simp [rule]
  · next rule => simp [rule]

theorem patchAll_length {arguments : List (GoNode φ)}
    (each : ∀ argument ∈ arguments, ∀ rules,
      (argument.patch rules).2.length = rules.length + argument.ruleCount)
    (rules : List (RequestRuleTrace φ)) :
    (patchAll arguments rules).2.length = rules.length + ruleCountOf arguments := by
  induction arguments generalizing rules with
  | nil => rfl
  | cons argument others ih =>
    simp only [patchAll, ruleCountOf]
    rw [ih fun other member => each other (by simp [member]),
      each argument (by simp), Nat.add_assoc]

theorem patch_length (node : GoNode φ) (rules : List (RequestRuleTrace φ)) :
    (node.patch rules).2.length = rules.length + node.ruleCount := by
  induction node generalizing rules with
  | nil | boolean | integer | float | string | identifier => rfl
  | unary operator node ih => exact ih rules
  | binary operator left right ihLeft ihRight =>
    simp only [patch, ruleCount]
    rw [ihRight, ihLeft, Nat.add_assoc]
  | conditional ternary cond exp1 exp2 ihCond ihExp1 ihExp2 =>
    simp only [patch, ruleCount]
    rw [visitConditional_length, requestRule_patch, ihExp2, ihExp1, ihCond]
    omega
  | call callee arguments ihCallee ihArguments =>
    simp only [patch, ruleCount]
    rw [patchAll_length ihArguments, ihCallee, Nat.add_assoc]
  | builtin name arguments ihArguments => exact patchAll_length ihArguments rules

/-! ## One node -/

section Steps

variable {env : GoEnvironment φ} {first k : Nat}

variable {operator : String}

theorem unary_relates {node node' : GoNode φ}
    (ih : node.kept.Relates (node.eval env first) (node'.eval env k)) :
    (unary operator node).kept.Relates ((unary operator node).eval env first)
      ((unary operator node').eval env k) := by
  simp only [kept]
  split_ifs with keeps
  · rw [keeps] at ih
    simp only [Kept.Relates] at ih ⊢
    simp only [eval, ih]
    cases node.eval env first with
    | none => rfl
    | some run =>
      simp only [Option.map_some, Option.bind_some]
      cases env.unary operator run.1 with
      | none => rfl
      | some result => rfl
  · trivial

variable {left right left' right' : GoNode φ}

theorem binary_values (ofLeft : Kept.value.Relates (left.eval env first) (left'.eval env k))
    (ofRight : Kept.value.Relates (right.eval env (first + left.ruleCount))
      (right'.eval env (k + left'.ruleCount))) :
    Kept.value.Relates ((binary operator left right).eval env first)
      ((binary operator left' right').eval env k) := by
  simp only [Kept.Relates] at ofLeft ofRight ⊢
  simp only [eval, ofLeft, ofRight]
  cases left.eval env first with
  | none => rfl
  | some x =>
    simp only [Option.map_some, Option.bind_some]
    cases jump operator x.1 with
    | none =>
      cases right.eval env (first + left.ruleCount) with
      | none => rfl
      | some y =>
        simp only [Option.map_some, Option.bind_some]
        cases env.strict operator x.1 y.1 with
        | none => rfl
        | some result => simp
    | some outcome =>
      cases outcome with
      | done => rfl
      | refused => rfl
      | next =>
        cases right.eval env (first + left.ruleCount) with
        | none => rfl
        | some y => simp

theorem binary_float (strict : operator ∈ arithmeticOperators ∨ operator ∈ comparisonOperators)
    (float : left.kind = .float ∨ right.kind = .float)
    (ofLeft : Kept.number.Relates (left.eval env first) (left'.eval env k))
    (ofRight : Kept.number.Relates (right.eval env (first + left.ruleCount))
      (right'.eval env (k + left'.ruleCount))) :
    Kept.value.Relates ((binary operator left right).eval env first)
      ((binary operator left' right').eval env k) := by
  simp only [Kept.Relates, eval] at ofLeft ofRight ⊢
  generalize leftRan : left.eval env first = ran at ofLeft ⊢
  generalize left'.eval env k = ran' at ofLeft ⊢
  cases ofLeft with
  | none => rfl
  | @some x x' both =>
    obtain ⟨sameLeft, tracedLeft⟩ := both
    simp only [Option.bind_some, jump_strict strict]
    generalize rightRan : right.eval env (first + left.ruleCount) = ran at ofRight ⊢
    generalize right'.eval env (k + left'.ruleCount) = ran' at ofRight ⊢
    cases ofRight with
    | none => rfl
    | @some y y' both =>
      obtain ⟨sameRight, tracedRight⟩ := both
      have floats : (∃ z, x.1 = .data (.float z)) ∨ ∃ z, y.1 = .data (.float z) := by
        rcases float with float | float
        · have holds := kind_holds left first x.1 x.2 leftRan
          rw [float] at holds
          exact .inl holds
        · have holds := kind_holds right _ y.1 y.2 rightRan
          rw [float] at holds
          exact .inr holds
      simp only [Option.bind_some, env.strict_sameNumber strict sameLeft sameRight floats]
      cases env.strict operator x.1 y.1 with
      | none => rfl
      | some result => simp [tracedLeft, tracedRight]

theorem binary_relates (ofLeft : left.kept.Relates (left.eval env first) (left'.eval env k))
    (ofRight : right.kept.Relates (right.eval env (first + left.ruleCount))
      (right'.eval env (k + left'.ruleCount))) :
    (binary operator left right).kept.Relates
      ((binary operator left right).eval env first)
      ((binary operator left' right').eval env k) := by
  simp only [kept]
  split_ifs with values madeUp
  · rw [values.1] at ofLeft
    rw [values.2] at ofRight
    exact binary_values ofLeft ofRight
  · obtain ⟨strict, ⟨keptLeft, float, keptRight⟩ | ⟨keptLeft, keptRight, float⟩⟩ := madeUp
    · exact binary_float strict (.inl float) (ofLeft.number (by simp [keptLeft]))
        (ofRight.number (by simp [keptRight]))
    · exact binary_float strict (.inr float) (ofLeft.number (by simp [keptLeft]))
        (ofRight.number (by simp [keptRight]))
  · trivial

variable {exp1 exp2 : GoNode φ}

theorem conditional_relates {outcome : Kept} {ternary : Bool} {cond cond' exp1' exp2' : GoNode φ}
    (noRule : requestRule ternary cond exp1 exp2 = none)
    (noRule' : requestRule ternary cond' exp1' exp2' = none)
    (ofCond : Kept.value.Relates (cond.eval env first) (cond'.eval env k))
    (ofExp1 : outcome.Relates (exp1.eval env (first + cond.ruleCount))
      (exp1'.eval env (k + cond'.ruleCount)))
    (ofExp2 : outcome.Relates (exp2.eval env (first + cond.ruleCount + exp1.ruleCount))
      (exp2'.eval env (k + cond'.ruleCount + exp1'.ruleCount))) :
    outcome.Relates ((conditional ternary cond exp1 exp2).eval env first)
      ((conditional ternary cond' exp1' exp2').eval env k) := by
  simp only [Kept.Relates] at ofCond
  simp only [eval, ofCond, testedEvents, noRule, noRule', Option.isSome_none,
    Bool.false_eq_true, if_false, List.append_nil]
  cases cond.eval env first with
  | none => exact outcome.relates_none
  | some tested =>
    simp only [Option.map_some, Option.bind_some]
    split
    · exact ofExp1.behind tested.2
    · exact ofExp2.behind tested.2
    · exact outcome.relates_none

def tracedValue (exp1 exp2 : GoNode φ) (multiplier : φ) (matched : Bool) :
    GoData φ :=
  match exp1, exp2 with
  | .integer value, .integer _ => .integer (if matched then value else 1)
  | _, _ => .float (if matched then multiplier else GoFloat.ofInt 1)

theorem eval_traceCall (cond exp1 exp2 : GoNode φ) (multiplier : φ) (index : Nat) :
    (call (.identifier (traceCall exp1 exp2 multiplier).1)
        [.integer index, cond, (traceCall exp1 exp2 multiplier).2]).eval env k =
      (cond.eval env k).bind fun tested =>
        match tested.1 with
        | .data (.boolean matched) =>
          some (.data (tracedValue exp1 exp2 multiplier matched), tested.2 ++ [.rule index matched])
        | _ => none := by
  have callValue (function : String) (value : GoNode φ) (data : GoValue φ)
      (known : function ∈ environmentFunctions)
      (literal : ∀ start, value.eval env start = some (data, [])) :
      (call (.identifier function) [.integer index, cond, value]).eval env k =
        (cond.eval env k).bind fun tested =>
          (env.applyFunction function [.data (.integer index), tested.1, data]).map fun result =>
            (.data result.1, tested.2 ++ result.2) := by
    simp only [eval, evalOf, ruleCount, lookup, known, literal, if_true, Nat.add_zero,
      Option.bind_some, Option.map_some, Option.bind_map, callValue, List.nil_append,
      List.append_nil, Function.comp_def]
    cases cond.eval env k with
    | none => rfl
    | some tested => rfl
  rcases traceCall_cases exp1 exp2 multiplier with ⟨value, other, rfl, rfl, traced⟩ | traced
  · rw [traced, callValue "_trace_int" _ (.data (.integer value)) (by decide) (fun _ => rfl)]
    congr 1
    funext tested
    rcases tested with ⟨tested, events⟩
    rcases tested with (_ | matched | _ | _ | _ | _) | name
    case data.boolean => cases matched <;> rfl
    all_goals rfl
  · have float (matched : Bool) : tracedValue exp1 exp2 multiplier matched =
          .float (if matched then multiplier else ofInt 1) := by
      unfold tracedValue
      split
      · exact absurd (show "_trace_int" = "_trace" from congrArg Prod.fst traced) (by decide)
      · rfl
    rw [traced, callValue "_trace" _ (.data (.float multiplier)) (by decide) (fun _ => rfl)]
    congr 1
    funext tested
    rcases tested with ⟨tested, events⟩
    rcases tested with (_ | matched | _ | _ | _ | _) | name
    case data.boolean => simp only [float]; rfl
    all_goals rfl

theorem requestRuleNumber_cases {node : GoNode φ} {number : φ}
    (literal : node.requestRuleNumber = some number) :
    (∃ n, node = .integer n ∧ number = ofInt n) ∨ node = .float number := by
  cases node with
  | integer n => exact .inl ⟨n, rfl, (Option.some.inj literal).symm⟩
  | float x =>
    obtain rfl := Option.some.inj literal
    exact .inr rfl
  | _ => cases literal

theorem literal_relates {multiplier fallback : φ} (hexp1 : exp1.requestRuleNumber = some multiplier)
    (hexp2 : exp2.requestRuleNumber = some fallback)
    (one : isOne fallback = true) (matched : Bool) (start : Nat) :
    (if mixedLiterals exp1 exp2 then Kept.number else .value).Relates
      ((if matched then exp1 else exp2).eval env start)
      (some (.data (tracedValue exp1 exp2 multiplier matched), [])) := by
  rcases requestRuleNumber_cases hexp1 with ⟨n, rfl, rfl⟩ | rfl
  · rcases requestRuleNumber_cases hexp2 with ⟨m, rfl, rfl⟩ | rfl
    · obtain rfl := ofInt_eq_one one
      cases matched with
      | true => rfl
      | false => rfl
    · obtain rfl := eq_one one
      cases matched with
      | true => exact .some ⟨.inr ⟨n, rfl, rfl⟩, rfl⟩
      | false => exact .some ⟨.inl rfl, rfl⟩
  · rcases requestRuleNumber_cases hexp2 with ⟨m, rfl, rfl⟩ | rfl
    · obtain rfl := ofInt_eq_one one
      cases matched with
      | true => exact .some ⟨.inl rfl, rfl⟩
      | false => exact .some ⟨.inr ⟨1, rfl, rfl⟩, rfl⟩
    · obtain rfl := eq_one one
      cases matched with
      | true => rfl
      | false => rfl

theorem rule_relates {ternary : Bool} {cond cond' : GoNode φ} {multiplier : φ}
    {index : Nat} (rule : requestRule ternary cond exp1 exp2 = some multiplier)
    (numbered : index = first + cond.ruleCount + exp1.ruleCount + exp2.ruleCount)
    (ofCond : Kept.value.Relates (cond.eval env first) (cond'.eval env k)) :
    (if mixedLiterals exp1 exp2 then Kept.number else .value).Relates
      ((conditional ternary cond exp1 exp2).eval env first)
      ((call (.identifier (traceCall exp1 exp2 multiplier).1)
        [.integer index, cond', (traceCall exp1 exp2 multiplier).2]).eval env k) := by
  have marked : (requestRule ternary cond exp1 exp2).isSome = true := by
    rw [rule]
    rfl
  obtain ⟨-, -, hexp1, fallback, hexp2, one⟩ := requestRule_eq_some rule
  rw [eval_traceCall, ofCond]
  simp only [eval, testedEvents, marked, if_true]
  cases cond.eval env first with
  | none => exact Kept.relates_none _
  | some tested =>
    -- the mark of the reached rule stands where its trace is recorded
    have behind (matched : Bool) (start : Nat) :=
      (@literal_relates _ _ env _ _ _ _ hexp1 hexp2 one matched start).behind
        (tested.2 ++ [.tested index matched])
    rcases tested with ⟨tested, events⟩
    rcases tested with (_ | matched | _ | _ | _ | _) | name
    case data.boolean =>
      subst numbered
      cases matched with
      | true => simpa [traced] using behind true _
      | false => simpa [traced] using behind false _
    all_goals exact Kept.relates_none _

variable {arguments : List (GoNode φ)}

theorem evalOf_relates (keeps : keepsAll arguments = true)
    (each : ∀ argument ∈ arguments, ∀ rules k,
      argument.kept.Relates (argument.eval env rules.length)
        ((argument.patch rules).1.eval env k)) :
    ∀ rules k, evalOf env k (patchAll arguments rules).1 =
      (evalOf env rules.length arguments).map fun run =>
        (run.1, run.2.map traced) := by
  induction arguments with
  | nil => exact fun rules k => rfl
  | cons argument others ih =>
    intro rules k
    simp only [keepsAll, Bool.and_eq_true, decide_eq_true_eq] at keeps
    have ofFirst := each argument (by simp) rules k
    rw [keeps.1] at ofFirst
    simp only [Kept.Relates] at ofFirst
    have ofOthers := ih keeps.2 (fun other member =>
      each other (by simp [member])) (argument.patch rules).2
    rw [patch_length] at ofOthers
    simp only [patchAll, evalOf, ofFirst, ofOthers]
    cases argument.eval env rules.length with
    | none => rfl
    | some value =>
      cases evalOf env (rules.length + argument.ruleCount) others with
      | none => rfl
      | some values => simp

variable {arguments' : List (GoNode φ)}

theorem call_values {callee callee' : GoNode φ}
    (ofCallee : Kept.value.Relates (callee.eval env first) (callee'.eval env k))
    (ofArguments : evalOf env (k + callee'.ruleCount) arguments' =
      (evalOf env (first + callee.ruleCount) arguments).map fun run =>
        (run.1, run.2.map traced)) :
    Kept.value.Relates ((call callee arguments).eval env first)
      ((call callee' arguments').eval env k) := by
  simp only [Kept.Relates] at ofCallee ⊢
  simp only [eval, ofCallee, ofArguments]
  cases evalOf env (first + callee.ruleCount) arguments with
  | none => rfl
  | some values =>
    cases callee.eval env first with
    | none => rfl
    | some function =>
      simp only [Option.map_some, Option.bind_some]
      cases hcalled : env.callValue function.1 values.1 with
      | none => rfl
      | some result =>
        have traced : result.2.map traced = result.2 := callValue_traced hcalled
        simp [traced]

theorem builtin_values {name : String}
    (ofArguments : evalOf env k arguments' = (evalOf env first arguments).map fun run =>
        (run.1, run.2.map traced)) :
    Kept.value.Relates ((builtin name arguments).eval env first)
      ((builtin name arguments').eval env k) := by
  simp only [eval, ofArguments]
  cases evalOf env first arguments with
  | none => rfl
  | some values =>
    simp only [Option.map_some, Option.bind_some]
    split_ifs
    · cases env.apply name values.1 with
      | none => rfl
      | some result => rfl
    · rfl

end Steps

theorem ruleCount_of_number {node : GoNode φ} {number : φ}
    (literal : node.requestRuleNumber = some number) : node.ruleCount = 0 := by
  cases node with
  | integer value | float value => rfl
  | _ => cases literal

theorem patched_rule_relates {env : GoEnvironment φ} {ternary : Bool} {cond exp1 exp2 : GoNode φ}
    {multiplier : φ} {rules : List (RequestRuleTrace φ)} {k : Nat}
    (rule : requestRule ternary cond exp1 exp2 = some multiplier)
    (ofCond : Kept.value.Relates (cond.eval env rules.length) ((cond.patch rules).1.eval env k)) :
    (if mixedLiterals exp1 exp2 then Kept.number else .value).Relates
      ((conditional ternary cond exp1 exp2).eval env rules.length)
      (((conditional ternary cond exp1 exp2).patch rules).1.eval env k) := by
  obtain ⟨-, -, hexp1, fallback, hexp2, -⟩ := requestRule_eq_some rule
  have patched := requestRule_patch ternary cond exp1 exp2 rules
    (cond.patch rules).2 (exp1.patch (cond.patch rules).2).2
  simp only [rule, patch_of_number _ hexp1, patch_of_number _ hexp2] at patched
  simp only [patch, patch_of_number _ hexp1, patch_of_number _ hexp2, visitConditional, patched]
  refine rule_relates rule ?_ ofCond
  rw [patch_length, ruleCount_of_number hexp1, ruleCount_of_number hexp2]
  rfl

/-- The patched tree evaluates to what is kept of the source, with its reached
rules traced. -/
theorem patch_relates (env : GoEnvironment φ) (node : GoNode φ)
    (rules : List (RequestRuleTrace φ)) (k : Nat) :
    node.kept.Relates (node.eval env rules.length) ((node.patch rules).1.eval env k) := by
  induction node generalizing rules k with
  | nil | boolean | integer | float | string => rfl
  | identifier name =>
    simp only [kept, Kept.Relates, patch, eval]
    cases env.lookup name with
    | none => rfl
    | some value => rfl
  | unary operator node ih => exact unary_relates (ih rules k)
  | binary operator left right ihLeft ihRight =>
    refine binary_relates (ihLeft rules k) ?_
    rw [← patch_length]
    exact ihRight _ _
  | conditional ternary cond exp1 exp2 ihCond ihExp1 ihExp2 =>
    simp only [kept]
    by_cases condKept : cond.kept = .value
    · rw [if_neg (not_not.mpr condKept)]
      have ofCond := ihCond rules k
      rw [condKept] at ofCond
      cases rule : requestRule ternary cond exp1 exp2 with
      | some multiplier =>
        exact patched_rule_relates rule ofCond
      | none =>
        have behind {outcome : Kept}
            (ofExp1 : ∀ rules k, outcome.Relates
              (exp1.eval env rules.length) ((exp1.patch rules).1.eval env k))
            (ofExp2 : ∀ rules k, outcome.Relates (exp2.eval env rules.length)
              ((exp2.patch rules).1.eval env k)) :
            outcome.Relates ((conditional ternary cond exp1 exp2).eval env rules.length)
              (((conditional ternary cond exp1 exp2).patch rules).1.eval env k) := by
          simp only [patch, visitConditional, requestRule_patch, rule]
          refine conditional_relates rule ?_ ofCond ?_ ?_
          · rw [requestRule_patch, rule]
          · rw [← patch_length]
            exact ofExp1 _ _
          · rw [← patch_length, ← patch_length]
            exact ofExp2 _ _
        simp only [Option.isSome_none, Bool.false_eq_true, if_false]
        split_ifs with values numbers
        · refine behind (fun rules k => ?_) (fun rules k => ?_)
          · rw [← values.1]
            exact ihExp1 rules k
          · rw [← values.2]
            exact ihExp2 rules k
        · exact behind (fun rules k => (ihExp1 rules k).number numbers.1)
            (fun rules k => (ihExp2 rules k).number numbers.2)
        · trivial
    · rw [if_pos condKept]
      trivial
  | call callee arguments ihCallee ihArguments =>
    simp only [kept]
    split_ifs with keeps
    · refine call_values ?_ ?_
      · have ofCallee := ihCallee rules k
        rw [keeps.1] at ofCallee
        exact ofCallee
      · rw [← patch_length]
        exact evalOf_relates keeps.2 ihArguments _ _
    · trivial
  | builtin name arguments ihArguments =>
    simp only [kept]
    split_ifs with keeps
    · exact builtin_values (evalOf_relates keeps ihArguments rules k)
    · trivial

end GoNode

/-! ## Which rules matched -/

def TraceResult.isMatched (trace : TraceResult φ) (index : Nat) : Bool :=
  trace.requestRules[index]?.any (·.matched)

omit [GoFloat φ] in
@[simp] theorem TraceResult.length_record (trace : TraceResult φ) (event : GoEvent φ) :
    (trace.record event).requestRules.length = trace.requestRules.length := by
  cases event with
  | rule index matched =>
    simp only [record]
    split_ifs
    · simp
    · rfl
  | _ => rfl

variable {index : Nat}

omit [GoFloat φ] in
theorem TraceResult.isMatched_record (trace : TraceResult φ) (event : GoEvent φ)
    (listed : index < trace.requestRules.length) :
    (trace.record event).isMatched index = true ↔
      trace.isMatched index = true ∨ event = .rule index true := by
  cases event with
  | tier name value | fixed amount | tested other holds => simp [record, isMatched]
  | rule other matched =>
    simp only [record, rule.injEq]
    split_ifs with marks
    · obtain ⟨rfl, nonnegative, -⟩ := marks
      simp only [isMatched, List.getElem?_modify, List.getElem?_eq_getElem listed]
      by_cases own : other.toNat = index
      · have same : other = index := by omega
        simp [same]
      · have away : other ≠ index := by omega
        simp [own, away]
    · constructor
      · exact .inl
      · rintro (before | ⟨rfl, rfl⟩)
        · exact before
        · exact absurd ⟨rfl, by omega, by omega⟩ marks

omit [GoFloat φ] in
theorem TraceResult.length_recorded (events : List (GoEvent φ)) (trace : TraceResult φ) :
    (events.foldl record trace).requestRules.length = trace.requestRules.length := by
  induction events generalizing trace with
  | nil => rfl
  | cons event events ih => rw [List.foldl_cons, ih, length_record]

omit [GoFloat φ] in
theorem isMatched_recorded (events : List (GoEvent φ)) {trace : TraceResult φ}
    (listed : index < trace.requestRules.length) :
    (events.foldl record trace).isMatched index = true ↔
      trace.isMatched index = true ∨ .rule index true ∈ events := by
  induction events generalizing trace with
  | nil => simp
  | cons event events ih =>
    rw [List.foldl_cons, ih (by rwa [trace.length_record]), trace.isMatched_record event listed,
      List.mem_cons, or_assoc, eq_comm (a := event)]

namespace GoNode

variable {rules : List (RequestRuleTrace φ)}

theorem visitConditional_unmatched {ternary : Bool} {cond exp1 exp2 : GoNode φ}
    (unmatched : ∀ rule ∈ rules, rule.matched = false) :
    ∀ rule ∈ (visitConditional ternary cond exp1 exp2 rules).2, rule.matched = false := by
  unfold visitConditional
  split
  · simpa [or_imp, forall_and] using unmatched
  · exact unmatched

theorem patchAll_unmatched {arguments : List (GoNode φ)}
    (each : ∀ argument ∈ arguments, ∀ rules : List (RequestRuleTrace φ),
      (∀ rule ∈ rules, rule.matched = false) →
        ∀ rule ∈ (argument.patch rules).2, rule.matched = false)
    (unmatched : ∀ rule ∈ rules, rule.matched = false) :
    ∀ rule ∈ (patchAll arguments rules).2, rule.matched = false := by
  induction arguments generalizing rules with
  | nil => exact unmatched
  | cons argument others ih =>
    exact ih (fun other member => each other (by simp [member]))
      (each argument (by simp) rules unmatched)

theorem patch_unmatched (node : GoNode φ) (rules : List (RequestRuleTrace φ))
    (unmatched : ∀ rule ∈ rules, rule.matched = false) :
    ∀ rule ∈ (node.patch rules).2, rule.matched = false := by
  induction node generalizing rules with
  | nil | boolean | integer | float | string | identifier => exact unmatched
  | unary operator node ih => exact ih rules unmatched
  | binary operator left right ihLeft ihRight => exact ihRight _ (ihLeft rules unmatched)
  | conditional ternary cond exp1 exp2 ihCond ihExp1 ihExp2 =>
    exact visitConditional_unmatched (ihExp2 _ (ihExp1 _ (ihCond rules unmatched)))
  | call callee arguments ihCallee ihArguments =>
    exact patchAll_unmatched ihArguments (ihCallee rules unmatched)
  | builtin name arguments ihArguments => exact patchAll_unmatched ihArguments unmatched

end GoNode

theorem isMatched_iff_traced {node : GoNode φ} {price : φ} {trace : TraceResult φ}
    (ran : runProgram (node.patch []).1 (node.patch []).2 env = some (price, trace)) :
    ∃ value events, (node.patch []).1.eval env 0 = some (value, events) ∧
      asFloat64 value = some price ∧
      trace.requestRules.length = node.ruleCount ∧
      ∀ index < node.ruleCount, (trace.isMatched index = true ↔ .rule index true ∈ events) := by
  obtain ⟨value, events, heval, hprice, rfl⟩ := runProgram_eq_some ran
  have found : (node.patch []).2.length = node.ruleCount := by simp [patch_length]
  refine ⟨value, events, heval, hprice, (length_recorded events _).trans found,
    fun index listed => ?_⟩
  have length : index < (node.patch []).2.length := found ▸ listed
  have fresh : (start (node.patch []).2
      (tracedImageCount (node.patch []).1 env)).isMatched index = false := by
    have unmatched := node.patch_unmatched [] (by simp)
      (node.patch []).2[index] (List.getElem_mem _)
    simp [isMatched, start, length, unmatched]
  rw [isMatched_recorded events length, fresh]
  simp

theorem tracedImageCount_patch (env : GoEnvironment φ) (node : GoNode φ) :
    tracedImageCount (node.patch []).1 env = tracedImageCount node env := by
  have unwanted (value : String) (reserved : isReserved value = true) :
      decide (value = "image_count") = false := by
    simp only [isReserved, Bool.or_eq_true, decide_eq_true_eq] at reserved
    rcases reserved with rfl | rfl
    · decide
    · decide
  have search := identifiers_patch unwanted node []
  have same : "image_count" ∈ (node.patch []).1.identifiers ↔ "image_count" ∈ node.identifiers := by
    rw [Bool.eq_iff_iff] at search
    simpa using search
  simp only [tracedImageCount, same]

theorem unreserved_traces_nothing {node : GoNode φ}
    (unreserved : node.identifiers.any isReserved = false) {first : Nat}
    (ran : node.eval env first = some (value, events)) :
    ∀ event ∈ events, ∀ index matched, event ≠ .rule index matched := by
  have absent : ∀ name ∈ node.identifiers, isReserved name = false := by
    simpa using unreserved
  refine (eval_avoids ?_ ?_ node absent first value events ran).1
  · intro name arguments result events plain called
    simp only [isReserved, Bool.or_eq_false_iff, decide_eq_false_iff_not] at plain
    simp only [applyFunction, if_neg plain.1, if_neg plain.2] at called
    split_ifs at called
    · split at called
      · simp only [Option.bind_eq_some_iff, Option.map_eq_some_iff, Prod.mk.injEq] at called
        obtain ⟨text, -, cost, -, -, rfl⟩ := called
        simp
      · cases called
    · split at called
      · simp only [Option.map_eq_some_iff, Prod.mk.injEq] at called
        obtain ⟨amount, -, -, rfl⟩ := called
        simp
      · cases called
    · simp only [Option.map_eq_some_iff, Prod.mk.injEq] at called
      obtain ⟨data, -, -, rfl⟩ := called
      simp
  · intro index holds other matched same
    cases same

theorem asFloat64_sameNumber
    (same : SameNumber value other) : asFloat64 other = asFloat64 value := by
  rcases same with rfl | ⟨n, rfl, rfl⟩
  · rfl
  · rfl

omit [GoFloat φ] in
theorem mem_traced_iff (noTrace : ∀ event ∈ events, ∀ index matched, event ≠ .rule index matched) :
    .rule index true ∈ events.map traced ↔ .tested index true ∈ events := by
  rw [List.mem_map]
  constructor
  · rintro ⟨event, member, traced⟩
    cases event with
    | tested other holds =>
      obtain ⟨rfl, rfl⟩ := traced
      exact member
    | rule other matched => exact absurd rfl (noTrace _ member other matched)
    | tier name value | fixed amount => cases traced
  · intro member
    exact ⟨_, member, rfl⟩

/-- Where no rule with mixed literals stands at a place that sees the kind of a
number, the program has a price exactly when the source has one, the price is
the same, and the rules that matched are those that were reached with a true
condition. -/
theorem tracing_keeps_price (env : GoEnvironment φ) (node : GoNode φ)
    (unreserved : node.identifiers.any GoNode.isReserved = false) (unseen : node.kept ≠ .nothing) :
    (runProgram (node.patch []).1 (node.patch []).2 env).map (·.1) =
        (runProgram node [] env).map (·.1) ∧
      ∀ price trace, runProgram (node.patch []).1 (node.patch []).2 env = some (price, trace) →
        ∃ value events, node.eval env 0 = some (value, events) ∧
          trace.requestRules.length = node.ruleCount ∧
          ∀ index < node.ruleCount,
            (trace.isMatched index = true ↔ .tested index true ∈ events) := by
  have relates := (node.patch_relates env [] 0).number unseen
  simp only [Kept.Relates, List.length_nil] at relates
  refine ⟨?_, ?_⟩
  · simp only [runProgram, tracedImageCount_patch]
    split_ifs
    · rfl
    · cases hsource : node.eval env 0 with
      | none =>
        rw [hsource] at relates
        cases hpatched : (node.patch []).1.eval env 0 with
        | none => rfl
        | some traced =>
          rw [hpatched] at relates
          cases relates
      | some run =>
        rw [hsource] at relates
        cases hpatched : (node.patch []).1.eval env 0 with
        | none =>
          rw [hpatched] at relates
          cases relates
        | some traced =>
          rw [hpatched] at relates
          cases relates with
          | some both => simp [asFloat64_sameNumber both.1, Option.map_map, Function.comp_def]
  · intro price trace ran
    obtain ⟨value, events, heval, -, found, matched⟩ := isMatched_iff_traced ran
    rw [heval] at relates
    cases hsource : node.eval env 0 with
    | none =>
      rw [hsource] at relates
      cases relates
    | some run =>
      rw [hsource] at relates
      have traced : events = run.2.map GoEvent.traced := by
        cases relates with
        | some both => exact both.2
      refine ⟨run.1, run.2, rfl, found, fun index listed => ?_⟩
      rw [matched index listed, traced]
      exact mem_traced_iff (unreserved_traces_nothing unreserved hsource)

def doubledTokenPrice : GoNode Rat :=
  .binary "*"
    (.call (.identifier "tier") [.string "base", .identifier "p"])
    (.conditional true
      (.binary "==" (.call (.identifier "header") [.string "a"]) (.string "b"))
      (.integer 2) (.float 1))

/-- A rule with mixed literals may be a factor of a price. -/
theorem doubled_price_traced :
    (runProgram (doubledTokenPrice.patch []).1 (doubledTokenPrice.patch []).2
        headerRequest).map (·.1) =
      (runProgram doubledTokenPrice [] headerRequest).map (·.1) :=
  (tracing_keeps_price headerRequest doubledTokenPrice (by decide +kernel) (by decide +kernel)).1

/-- The price depends on how a rule between `1000000` and `1.0` is printed:
`tier("base", has(header("a") == "b" ? 1000000 : 1.0, "00") ? 2.0 : 3.0)`. -/
def printedRulePrice : GoNode Rat :=
  .call (.identifier "tier")
    [.string "base",
      .conditional true
        (.call (.identifier "has")
          [.conditional true
            (.binary "==" (.call (.identifier "header") [.string "a"]) (.string "b"))
            (.integer 1000000) (.float 1),
            .string "00"])
        (.float 2) (.float 3)]

/-- The source charges two and the program three. -/
theorem printed_rule_price_changes : printedRulePrice.identifiers.any GoNode.isReserved = false ∧
      (runProgram printedRulePrice [] headerRequest).map (·.1) = some 2 ∧
      (runProgram (printedRulePrice.patch []).1 (printedRulePrice.patch []).2
        headerRequest).map (·.1) = some 3 := by
  refine ⟨?_, ?_, ?_⟩
  · decide +kernel
  · decide +kernel
  · decide +kernel

end NewApi.Expression
