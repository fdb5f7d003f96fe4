import NewApi.Expression.GoTree
import NewApi.Expression.ParserSoundness
import NewApi.Expression.Runtime

/-!
# The editor and the engine check fixed prices alike

A tree of the editor's parser is mapped node by node to the tree the engine
parses, and the two checks of fixed prices agree on it.  What the two sides
classify on their own, the names, the literals and the factors, is compared
first.
-/

namespace NewApi.Expression

open Doubles JsStrings Node BillingFunction GoFloat

structure WrittenNumber (value : Rat) (integer : Bool) : Prop where
  nonnegative : 0 ≤ value
  finite : value < infiniteFrom
  whole : integer = true → value.den = 1

def Node.Written : Node → Prop
  | .literal _ (.number value integer) => WrittenNumber value integer
  | .literal _ _ => True
  | .tokenVariable _ _ => True
  | .call1 _ _ argument => argument.Written
  | .call2 _ _ first second => first.Written ∧ second.Written
  | .unary _ _ operand => operand.Written
  | .binary _ _ left right => left.Written ∧ right.Written
  | .conditional _ condition yes no => condition.Written ∧ yes.Written ∧ no.Written

theorem decimalValue_nonneg (text : Text) : 0 ≤ decimalValue text := by
  exact mul_nonneg (Nat.cast_nonneg _) (zpow_nonneg (by norm_num) _)

theorem decimalValue_integer {text : Text} (own : matchNumber text = some text)
    (integer : isIntegerText text = true) :
    decimalValue text = digitsValue text := by
  obtain ⟨mantissa, exponent, rest, split, mantissaShape, exponentShape, -⟩ := matchNumber_shape own
  simp only [isIntegerText, List.all_eq_true, Bool.and_eq_true, bne_iff_ne, ne_eq] at integer
  have noExponent : exponent = [] := by
    rcases exponentShape with rfl | ⟨marker, sign, digits, rfl, markerEq, -⟩
    · rfl
    · have away := integer marker (by simp [split])
      rcases markerEq with rfl | rfl
      · exact absurd rfl away.1.2
      · exact absurd rfl away.2
  obtain ⟨whole, allDigits, ⟨rfl, -⟩ | ⟨fraction, -, rfl, -⟩⟩ := mantissaShape
  · rw [noExponent, List.append_nil] at split
    subst split
    have taken : text.takeWhile isDigit = text := List.takeWhile_eq_self_iff.2 allDigits
    simp [decimalValue, taken, exponentValue]
  · exact absurd rfl (integer 46 (by simp [split])).1.1

theorem writtenNumber_of_legal {text : Text} (legal : (Token.number text).Legal) :
    WrittenNumber (numberValue text) (isIntegerText text) where
  nonnegative := roundDouble_nonneg (decimalValue_nonneg text)
  finite := by
    have accepted := legal.2
    simp only [acceptsNumber, Bool.and_eq_true, decide_eq_true_eq] at accepted
    exact roundDouble_lt (decimalValue_nonneg text) accepted.1
  whole integer := by
    obtain ⟨whole, rounded⟩ := roundDouble_natCast (digitsValue text)
    rw [numberValue, decimalValue_integer legal.1 integer, rounded]
    exact Rat.den_intCast _

variable {node : Node} {wanted : BillingFunction → Bool}

theorem written_withSpan {span : Span} (written : node.Written) :
    (node.withSpan span).Written := by
  cases node with
  | literal _ value => cases value <;> exact written
  | _ => exact written

theorem SourceTree.node_written {tree : SourceTree} (wellFormed : tree.WellFormed) (offset : Nat) :
    (tree.node offset).Written := by
  induction tree generalizing offset with
  | number text => exact writtenNumber_of_legal wellFormed
  | string quote body value => trivial
  | named word value =>
    rcases literalNamed_cases wellFormed with ⟨-, rfl⟩ | ⟨-, rfl⟩ | ⟨-, rfl⟩
    · trivial
    · trivial
    · trivial
  | tokenVariable name => trivial
  | call1 function gap₁ gap₂ argument gap₃ comma ih => exact ih wellFormed.2.2.1 _
  | call2 function gap₁ gap₂ first gap₃ gap₄ second gap₅ comma ih₁ ih₂ =>
    obtain ⟨-, -, formed₁, -, -, formed₂, -⟩ := wellFormed
    exact ⟨ih₁ formed₁ _, ih₂ formed₂ _⟩
  | paren gap₁ inner gap₂ ih => exact written_withSpan (ih wellFormed.2.1 _)
  | unary operator gap operand ih => exact ih wellFormed.2.1 _
  | binary left gap₁ operator gap₂ right ih₁ ih₂ =>
    obtain ⟨formed₁, -, -, -, formed₂, -⟩ := wellFormed
    exact ⟨ih₁ formed₁ _, ih₂ formed₂ _⟩
  | conditional condition gap₁ gap₂ yes gap₃ gap₄ no ih₁ ih₂ ih₃ =>
    obtain ⟨formed₁, -, -, -, formed₂, -, -, formed₃⟩ := wellFormed
    exact ⟨ih₁ formed₁ _, ih₂ formed₂ _, ih₃ formed₃ _⟩

theorem parse_written {source : Text} {ast : Node} (parsed : parse source = some ast) :
    ast.Written := by
  obtain ⟨head, tree, trail, -, -, -, wellFormed, rfl⟩ := parse_sound parsed
  exact SourceTree.node_written wellFormed _

def TokenVariable.goName : TokenVariable → String
  | .p => "p"
  | .c => "c"
  | .len => "len"
  | .cr => "cr"
  | .cc => "cc"
  | .cc1h => "cc1h"
  | .img => "img"
  | .imgO => "img_o"
  | .imgCr => "img_cr"
  | .imageCount => "image_count"
  | .ai => "ai"
  | .ao => "ao"

def TimeFunction.goName : TimeFunction → String
  | .hour => "hour"
  | .minute => "minute"
  | .weekday => "weekday"
  | .month => "month"
  | .day => "day"

def UnaryFunction.goName : UnaryFunction → String
  | .fixed => "fixed"
  | .param => "param"
  | .header => "header"
  | .u => "u"
  | .time part => part.goName
  | .abs => "abs"
  | .ceil => "ceil"
  | .floor => "floor"

def BinaryFunction.goName : BinaryFunction → String
  | .tier => "tier"
  | .has => "has"
  | .min => "min"
  | .max => "max"

def BillingFunction.goName : BillingFunction → String
  | .unary function => function.goName
  | .binary function => function.goName

def BillingFunction.isBuiltin : BillingFunction → Bool
  | .unary .abs => true
  | .unary .ceil => true
  | .unary .floor => true
  | .binary .min => true
  | .binary .max => true
  | _ => false

def UnaryOp.goName : UnaryOp → String
  | .not => "!"
  | .plus => "+"
  | .minus => "-"

def BinaryOp.goName : BinaryOp → String
  | .or => "||"
  | .and => "&&"
  | .eq => "=="
  | .ne => "!="
  | .lt => "<"
  | .le => "<="
  | .gt => ">"
  | .ge => ">="
  | .add => "+"
  | .sub => "-"
  | .mul => "*"
  | .div => "/"
  | .mod => "%"

def goCall (function : BillingFunction) (arguments : List (GoNode Rat)) :
    GoNode Rat :=
  if function.isBuiltin then .builtin function.goName arguments
  else .call (.identifier function.goName) arguments

/-- The tree of the engine for a tree of the editor.  The text of a string is
decoded from its code units. -/
def Node.toGo (decode : Text → String) : Node → GoNode Rat
  | .literal _ (.number value integer) =>
    if integer then .integer value.num else .float value
  | .literal _ (.string value) => .string (decode value)
  | .literal _ (.boolean value) => .boolean value
  | .literal _ .nil => .nil
  | .tokenVariable _ name => .identifier name.goName
  | .call1 _ function argument => goCall (.unary function) [argument.toGo decode]
  | .call2 _ function first second =>
    goCall (.binary function) [first.toGo decode, second.toGo decode]
  | .unary _ operator operand => .unary operator.goName (operand.toGo decode)
  | .binary _ operator left right => .binary operator.goName (left.toGo decode) (right.toGo decode)
  | .conditional _ condition yes no =>
    .conditional true (condition.toGo decode) (yes.toGo decode) (no.toGo decode)

/-- A search for functions on one side and for identifiers on the other look
for the same names. -/
structure SameSearch (wanted : BillingFunction → Bool) (name : String → Bool) : Prop where
  function : ∀ function : BillingFunction, function.isBuiltin = false →
    name function.goName = wanted function
  builtin : ∀ function : BillingFunction, function.isBuiltin = true → wanted function = false
  tokenVariable : ∀ other : TokenVariable, name other.goName = false

theorem SameSearch.goCall {name : String → Bool} (same : SameSearch wanted name)
    (function : BillingFunction) (arguments : List (GoNode Rat)) :
    (goCall function arguments).identifiers.any name =
      (wanted function || (GoNode.identifiersOf arguments).any name) := by
  unfold Expression.goCall
  split_ifs with isBuiltin
  · simp [GoNode.identifiers, same.builtin function isBuiltin]
  · simp [GoNode.identifiers, same.function function (by simpa using isBuiltin)]

theorem SameSearch.toGo {name : String → Bool} (same : SameSearch wanted name)
    (decode : Text → String) (node : Node) :
    (node.toGo decode).identifiers.any name = node.functions.any wanted := by
  induction node with
  | literal span value =>
    cases value with
    | number value integer =>
      cases integer with
      | true => rfl
      | false => rfl
    | _ => rfl
  | tokenVariable span other =>
    simp [Node.toGo, Node.functions, GoNode.identifiers, same.tokenVariable other]
  | call1 span function argument ih =>
    simp only [Node.toGo, Node.functions, same.goCall, GoNode.identifiersOf, List.append_nil, ih,
      List.any_append, List.any_cons, List.any_nil, Bool.or_false]
    exact Bool.or_comm _ _
  | call2 span function first second ih₁ ih₂ =>
    simp only [Node.toGo, Node.functions, same.goCall, GoNode.identifiersOf, List.append_nil, ih₁,
      ih₂, List.any_append, List.any_cons, List.any_nil, Bool.or_false]
    exact Bool.or_comm _ _
  | unary span operator operand ih => exact ih
  | binary span operator left right ih₁ ih₂ =>
    simp only [Node.toGo, Node.functions, GoNode.identifiers, List.any_append, ih₁, ih₂]
  | conditional span condition yes no ih₁ ih₂ ih₃ =>
    simp only [Node.toGo, Node.functions, GoNode.identifiers, List.any_append, ih₁, ih₂, ih₃]

theorem sameSearch_marker :
    SameSearch (fun function => function = .binary .tier || function = .unary .fixed)
      isPricingMarker where
  function := by
    rintro ((_ | _ | _ | _ | part | _ | _ | _) | function) notBuiltin
    case unary.time => cases part <;> decide
    case binary => cases function <;> decide
    all_goals decide
  builtin := by
    rintro ((_ | _ | _ | _ | part | _ | _ | _) | function) isBuiltin
    case binary => cases function <;> first | rfl | cases isBuiltin
    all_goals first | rfl | cases isBuiltin
  tokenVariable := by
    intro other
    cases other <;> decide

theorem sameSearch_probe : SameSearch readsRequest isRequestProbe where
  function := by
    rintro ((_ | _ | _ | _ | part | _ | _ | _) | function) notBuiltin
    case unary.time => cases part <;> decide
    case binary => cases function <;> decide
    all_goals decide
  builtin := by
    rintro ((_ | _ | _ | _ | part | _ | _ | _) | function) isBuiltin
    case binary => cases function <;> rfl
    all_goals first | rfl | cases isBuiltin
  tokenVariable := by
    intro other
    cases other <;> decide

theorem containsPricingMarker_toGo (decode : Text → String) (node : Node) :
    (node.toGo decode).containsPricingMarker = containsPricingMarker node :=
  sameSearch_marker.toGo decode node

theorem usesRequestProbe_toGo (decode : Text → String) (node : Node) :
    (node.toGo decode).usesRequestProbe = node.functions.any (·.readsRequest) :=
  sameSearch_probe.toGo decode node

def Node.number : Node → Option Rat
  | .literal _ (.number value _) => some value
  | _ => none

theorem requestRuleNumber_toGo (decode : Text → String) (written : node.Written) :
    (node.toGo decode).requestRuleNumber = node.number := by
  cases node with
  | literal span value =>
    cases value with
    | number value integer =>
      cases integer with
      | true =>
        have whole := written.whole rfl
        simp only [toGo, if_true, GoNode.requestRuleNumber, number, Option.some.injEq]
        exact Rat.coe_int_num_of_den_eq_one whole
      | false => rfl
    | _ => rfl
  | call1 span function argument | call2 span function first second =>
    simp only [toGo, goCall]
    split_ifs
    · rfl
    · rfl
  | _ => rfl

theorem written_of_number {value : Rat} (written : node.Written)
    (number : node.number = some value) :
    0 ≤ value ∧ value < infiniteFrom := by
  cases node with
  | literal span literal =>
    cases literal with
    | number found integer =>
      cases number
      exact ⟨written.nonnegative, written.finite⟩
    | _ => cases number
  | _ => cases number

theorem isInf_eq_false {value : Rat} (nonnegative : 0 ≤ value) (finite : value < infiniteFrom) :
    isInf value = false := by
  simp only [isInf, Bool.or_eq_false_iff, decide_eq_false_iff_not, not_le]
  exact ⟨finite, by linarith⟩

theorem isInf_price {amount : Rat} (nonnegative : 0 ≤ amount) :
    isInf (mul amount (ofInt 1000000)) = !isFinitePrice amount := by
  have scaled : 0 ≤ amount * 1000000 := mul_nonneg nonnegative (by norm_num)
  change isInf (amount * ((1000000 : Int) : Rat)) = _
  rw [show ((1000000 : Int) : Rat) = 1000000 by norm_num]
  by_cases finite : amount * 1000000 < infiniteFrom
  · rw [isInf_eq_false scaled finite]
    simp [isFinitePrice, finite]
  · simp [isFinitePrice, finite, isInf, not_lt.1 finite]

theorem requestRuleMultiplier_conditional (span : Span) (condition yes no : Node) :
    requestRuleMultiplier (.conditional span condition yes no) = yes.number.bind fun multiplier =>
        no.number.bind fun otherwise =>
          if otherwise = 1 ∧ condition.functions.any (·.readsRequest) then some multiplier
          else none := by
  cases hyes : yes.number with
  | none =>
    cases yes with
    | literal yesSpan value =>
      cases value with
      | number value integer => cases hyes
      | _ => rfl
    | _ => rfl
  | some multiplier =>
    cases yes with
    | literal yesSpan value =>
      cases value with
      | number value integer =>
        cases hyes
        cases no with
        | literal noSpan other =>
          cases other with
          | number other integer' => rfl
          | _ => rfl
        | _ => rfl
      | _ => cases hyes
    | _ => cases hyes

theorem isRequestPriceMultiplier_toGo (decode : Text → String) (written : node.Written) :
    (node.toGo decode).isRequestPriceMultiplier = isPricingFactor node := by
  cases node with
  | literal span value =>
    cases value with
    | number value integer =>
      cases integer with
      | true => rfl
      | false => rfl
    | _ => rfl
  | tokenVariable span name => cases name <;> rfl
  | call1 span function argument | call2 span function first second =>
    simp only [toGo, goCall]
    split_ifs
    · rfl
    · rfl
  | unary | binary => rfl
  | conditional span condition yes no =>
    obtain ⟨-, writtenYes, writtenNo⟩ := written
    simp only [toGo, GoNode.isRequestPriceMultiplier, isPricingFactor, usesRequestProbe_toGo,
      containsPricingMarker_toGo, requestRuleNumber_toGo decode writtenYes,
      requestRuleNumber_toGo decode writtenNo, requestRuleMultiplier_conditional]
    cases hyes : yes.number with
    | none => simp
    | some multiplier =>
      cases hno : no.number with
      | none => simp
      | some otherwise =>
        have finite := written_of_number writtenYes hyes
        have noInf := isInf_eq_false finite.1 finite.2
        simp only [Option.bind_some, noInf]
        by_cases one : otherwise = 1
        · cases condition.functions.any (·.readsRequest) with
          | true =>
            cases containsPricingMarker condition with
            | true => simp [one]
            | false => simp [one, isOne, nonnegative, isNaN]
          | false => simp
        · simp [one, isOne]

theorem validatePrice_toGo (decode : Text → String) {price : Node} (written : price.Written) :
    (price.toGo decode).validatePrice =
      match price with
      | .call1 _ .fixed argument =>
        match argument.number with
        | some amount => 0 ≤ amount && isFinitePrice amount
        | none => false
      | price => !containsPricingMarker price := by
  have plain (other : Node) (noFixed : (other.toGo decode).fixedArgument = none) :
      (other.toGo decode).validatePrice = !containsPricingMarker other := by
    simp only [GoNode.validatePrice, noFixed, containsPricingMarker_toGo]
  cases price with
  | literal span value =>
    cases value with
    | number value integer =>
      cases integer with
      | true => rfl
      | false => rfl
    | _ => rfl
  | tokenVariable span name => exact plain _ rfl
  | call1 span function argument =>
    cases function with
    | fixed =>
      have number : (argument.toGo decode).requestRuleNumber = argument.number :=
        requestRuleNumber_toGo decode written
      simp only [toGo, goCall, isBuiltin, goName,
        UnaryFunction.goName, GoNode.validatePrice, GoNode.fixedArgument, number, if_true,
        Bool.false_eq_true, if_false]
      cases hnumber : argument.number with
      | none => rfl
      | some amount =>
        by_cases nonnegative : 0 ≤ amount
        · simp [GoFloat.nonnegative, GoFloat.isNaN, nonnegative, isInf_price nonnegative]
        · simp [GoFloat.nonnegative, nonnegative]
    | time part => exact plain _ (by cases part <;> rfl)
    | _ => exact plain _ rfl
  | call2 span function first second => exact plain _ (by cases function <;> rfl)
  | unary span operator operand | binary span operator left right
  | conditional span condition yes no => exact plain _ rfl

theorem validateFixedPricingTree_toGo (decode : Text → String) (written : node.Written) :
    (node.toGo decode).validateFixedPricingTree = validateFixedPricingTree node := by
  induction node with
  | literal span value =>
    cases value with
    | number value integer =>
      cases integer with
      | true => rfl
      | false => rfl
    | _ => rfl
  | tokenVariable span name => rfl
  | unary span operator operand ih => rfl
  | call1 span function argument ih =>
    simp only [toGo, goCall]
    split_ifs
    · rfl
    · rfl
  | call2 span function first second ih₁ ih₂ =>
    cases function with
    | tier =>
      simp only [toGo, goCall, isBuiltin, goName,
        BinaryFunction.goName, Bool.false_eq_true, if_false, GoNode.validateFixedPricingTree,
        containsPricingMarker_toGo, validatePrice_toGo decode written.2, validateFixedPricingTree]
      congr 1
      cases second with
      | call1 span' function argument =>
        cases function with
        | fixed =>
          cases argument with
          | literal span'' value => cases value <;> rfl
          | _ => rfl
        | _ => rfl
      | _ => rfl
    | has =>
      simp [toGo, goCall, isBuiltin, goName,
        BinaryFunction.goName, GoNode.validateFixedPricingTree, validateFixedPricingTree]
    | _ => rfl
  | conditional span condition yes no ih₁ ih₂ ih₃ =>
    simp only [toGo, GoNode.validateFixedPricingTree, validateFixedPricingTree,
      containsPricingMarker_toGo, ih₂ written.2.1, ih₃ written.2.2]
  | binary span operator left right ih₁ ih₂ =>
    by_cases product : operator = .mul
    · subst product
      simp only [toGo, BinaryOp.goName, GoNode.validateFixedPricingTree,
        validateFixedPricingTree, if_true, isRequestPriceMultiplier_toGo decode written.1,
        isRequestPriceMultiplier_toGo decode written.2, ih₁ written.1, ih₂ written.2]
    · have noProduct : operator.goName ≠ "*" := by
        cases operator <;> first | decide | exact absurd rfl product
      cases operator <;> first | rfl | exact absurd rfl product

/-- The check of the editor accepts the tree of an expression exactly when the
check of the engine accepts the tree it is mapped to. -/
theorem editor_accepts_iff_engine_accepts (decode : Text → String) (source : Text) (ast : Node)
    (parsed : parse source = some ast) :
    validateFixedPricingTree ast = true ↔ (ast.toGo decode).validateFixedPricingTree = true := by
  rw [validateFixedPricingTree_toGo decode (parse_written parsed)]

def imagePriceTree : Node :=
  .binary ⟨0, 33⟩ .mul
    (.call2 ⟨0, 19⟩ .tier (.literal ⟨5, 8⟩ (.string (units "a")))
      (.call1 ⟨10, 18⟩ .fixed (.literal ⟨16, 17⟩ (.number 2 true))))
    (.tokenVariable ⟨22, 33⟩ .imageCount)

theorem image_price_accepted_alike : validateFixedPricingTree imagePriceTree = true ↔
      (imagePriceTree.toGo fun text =>
        String.ofList (text.map Char.ofNat)).validateFixedPricingTree = true :=
  editor_accepts_iff_engine_accepts _ (units "tier(\"a\", fixed(2)) * image_count") imagePriceTree
    (by decide +kernel)

end NewApi.Expression
