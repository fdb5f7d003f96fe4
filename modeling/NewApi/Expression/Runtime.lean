import Mathlib.Algebra.Order.Floor.Ring
import NewApi.Expression.Syntax

/-!
# Compiling billing expressions

The type check and the shape check of fixed prices that follow parsing.  A
failure stands for the error that is thrown.
-/

namespace NewApi.Expression

open JsStrings

inductive ExpressionType where
  | number | string | boolean | nil | dynamic
deriving DecidableEq

def ExpressionType.admits (expected actual : ExpressionType) : Bool :=
  actual = expected || actual = .dynamic

def Literal.type : Literal → ExpressionType
  | .number _ _ => .number
  | .string _ => .string
  | .boolean _ => .boolean
  | .nil => .nil

/-- The type of an operator applied to operands of the given types. -/
def BinaryOp.type (operator : BinaryOp) (left right : ExpressionType) :
    Option ExpressionType :=
  match operator with
  | .and | .or =>
    if ExpressionType.boolean.admits left ∧
        ExpressionType.boolean.admits right then
      some .boolean
    else none
  | .eq | .ne | .lt | .le | .gt | .ge => some .boolean
  | .add =>
    if left = .string ∧ right = .string then some .string
    else if ExpressionType.number.admits left ∧
        ExpressionType.number.admits right then
      some .number
    else none
  | .sub | .mul | .div | .mod =>
    if ExpressionType.number.admits left ∧
        ExpressionType.number.admits right then
      some .number
    else none

/-- What a function of one argument asks of it, and its own type. -/
def UnaryFunction.type : UnaryFunction → ExpressionType × ExpressionType
  | .param => (.string, .dynamic)
  | .header => (.string, .string)
  | .u => (.string, .dynamic)
  | .time _ => (.string, .number)
  | .fixed | .abs | .ceil | .floor => (.number, .number)

def BinaryFunction.type
    (function : BinaryFunction) (first second : ExpressionType) :
    Option ExpressionType :=
  match function with
  | .has =>
    if ExpressionType.string.admits second then some .boolean else none
  | .tier =>
    if ExpressionType.string.admits first ∧
        ExpressionType.number.admits second then
      some .number
    else none
  | .min | .max =>
    if ExpressionType.number.admits first ∧
        ExpressionType.number.admits second then
      some .number
    else none

/-- The type that `checkExpressionTypes` records for a node; `none` is a type
error in it. -/
def checkExpressionTypes : Node → Option ExpressionType
  | .literal _ value => some value.type
  | .tokenVariable _ _ => some .number
  | .unary _ operator operand =>
    let expected : ExpressionType := if operator = .not then .boolean else .number
    (checkExpressionTypes operand).bind fun actual =>
      if expected.admits actual then some expected else none
  | .conditional _ condition yes no =>
    (checkExpressionTypes condition).bind fun conditionType =>
      (checkExpressionTypes yes).bind fun yesType =>
        (checkExpressionTypes no).bind fun noType =>
          if ExpressionType.boolean.admits conditionType then
            some (if yesType = noType then yesType else .dynamic)
          else none
  | .binary _ operator left right =>
    (checkExpressionTypes left).bind fun leftType =>
      (checkExpressionTypes right).bind fun rightType => operator.type leftType rightType
  | .call1 _ function argument =>
    (checkExpressionTypes argument).bind fun actual =>
      if function.type.1.admits actual then some function.type.2 else none
  | .call2 _ function first second =>
    (checkExpressionTypes first).bind fun firstType =>
      (checkExpressionTypes second).bind fun secondType => function.type firstType secondType

def Node.functions : Node → List BillingFunction
  | .literal _ _ => []
  | .tokenVariable _ _ => []
  | .call1 _ function argument => argument.functions ++ [.unary function]
  | .call2 _ function first second => first.functions ++ second.functions ++ [.binary function]
  | .unary _ _ operand => operand.functions
  | .binary _ _ left right => left.functions ++ right.functions
  | .conditional _ condition yes no => condition.functions ++ yes.functions ++ no.functions

def BillingFunction.readsRequest : BillingFunction → Bool
  | .unary .param => true
  | .unary .header => true
  | .unary (.time _) => true
  | _ => false

/-- The multiplier of a request rule: a conditional between a number and one,
whose condition reads the request or the time. -/
def requestRuleMultiplier : Node → Option Rat
  | .conditional _ condition (.literal _ (.number multiplier _))
      (.literal _ (.number otherwise _)) =>
      if otherwise = 1 ∧ condition.functions.any (·.readsRequest) then some multiplier
      else none
  | _ => none

def containsPricingMarker (node : Node) : Bool :=
  node.functions.any fun function => function = .binary .tier || function = .unary .fixed

def isPricingFactor : Node → Bool
  | .tokenVariable _ .imageCount => true
  | .conditional span condition yes no =>
    match requestRuleMultiplier (.conditional span condition yes no) with
    | some multiplier => 0 ≤ multiplier && !containsPricingMarker condition
    | none => false
  | _ => false

def isFinitePrice (amount : Rat) : Bool := amount * 1000000 < infiniteFrom

def validateFixedPricingTree : Node → Bool
  | .conditional _ condition yes no =>
    !containsPricingMarker condition && validateFixedPricingTree yes && validateFixedPricingTree no
  | .binary _ .mul left right =>
    if isPricingFactor right then validateFixedPricingTree left
    else if isPricingFactor left then validateFixedPricingTree right
    else false
  | .call2 _ .tier name price =>
    !containsPricingMarker name &&
      match price with
      | .call1 _ .fixed (.literal _ (.number amount _)) => 0 ≤ amount && isFinitePrice amount
      | .call1 _ .fixed _ => false
      | price => !containsPricingMarker price
  | _ => false

def compileBillingExpression (source : Text) : Option Node :=
  (parse source).bind fun ast =>
    if (checkExpressionTypes ast).isSome ∧
        (.unary .fixed ∈ ast.functions → validateFixedPricingTree ast) then
      some ast
    else none

end NewApi.Expression
