import NewApi.Expression.Lexer

/-!
# Expression trees of the billing engine

The syntax trees the engine walks and the checks it makes before it runs one:
what a request rule is, what a request multiplier is, and whether each branch
has one pricing leaf.  Floating point numbers are an arbitrary type with the
operations the engine uses.
-/

namespace NewApi.Expression

/-- `float64`, as far as the engine computes with it. -/
class GoFloat (φ : Type) where
  /-- `float64(n)`. -/
  ofInt : Int → φ
  mul : φ → φ → φ
  /-- `x >= 0`. -/
  nonnegative : φ → Bool
  /-- `x == 1`. -/
  isOne : φ → Bool
  isNaN : φ → Bool
  /-- `math.IsInf(x, 0)`. -/
  isInf : φ → Bool
  mul_comm : ∀ x y, mul x y = mul y x
  eq_one : ∀ {x}, isOne x = true → x = ofInt 1
  ofInt_eq_one : ∀ {n}, isOne (ofInt n) = true → n = 1

/-- Exact rationals in place of floating point numbers.  A literal from
`infiniteFrom` on is infinite. -/
instance : GoFloat Rat where
  ofInt n := n
  mul x y := x * y
  nonnegative x := 0 ≤ x
  isOne x := x = 1
  isNaN _ := false
  isInf x := infiniteFrom ≤ x || infiniteFrom ≤ -x
  mul_comm := mul_comm
  eq_one one := by simpa using one
  ofInt_eq_one one := by simpa using one

/-- `ast.Node`.  A builtin has a node of its own when the source is parsed
without the functions of the environment. -/
inductive GoNode (φ : Type) where
  | nil
  | boolean (value : Bool)
  | integer (value : Int)
  | float (value : φ)
  | string (value : String)
  | identifier (value : String)
  | unary (operator : String) (node : GoNode φ)
  | binary (operator : String) (left right : GoNode φ)
  | conditional (ternary : Bool) (cond exp1 exp2 : GoNode φ)
  | call (callee : GoNode φ) (arguments : List (GoNode φ))
  | builtin (name : String) (arguments : List (GoNode φ))

namespace GoNode

variable {φ : Type}

@[induction_eliminator]
theorem inductionOn {motive : GoNode φ → Prop} (nil : motive .nil)
    (boolean : ∀ value, motive (.boolean value))
    (integer : ∀ value, motive (.integer value)) (float : ∀ value, motive (.float value))
    (string : ∀ value, motive (.string value)) (identifier : ∀ value, motive (.identifier value))
    (unary : ∀ operator node, motive node → motive (.unary operator node))
    (binary : ∀ operator left right,
      motive left → motive right → motive (.binary operator left right))
    (conditional : ∀ ternary cond exp1 exp2,
      motive cond → motive exp1 → motive exp2 → motive (.conditional ternary cond exp1 exp2))
    (call : ∀ callee arguments,
      motive callee → (∀ argument ∈ arguments, motive argument) → motive (.call callee arguments))
    (builtin : ∀ name arguments,
      (∀ argument ∈ arguments, motive argument) → motive (.builtin name arguments))
    (node : GoNode φ) : motive node :=
  @GoNode.rec φ motive (fun arguments => ∀ argument ∈ arguments, motive argument)
    nil boolean integer float string identifier unary binary conditional call
    builtin (by simp)
    (fun first others ofFirst ofOthers => by
      simpa using And.intro ofFirst ofOthers)
    node

mutual

def identifiers : GoNode φ → List String
  | .identifier value => [value]
  | .unary _ node => node.identifiers
  | .binary _ left right => left.identifiers ++ right.identifiers
  | .conditional _ cond exp1 exp2 => cond.identifiers ++ exp1.identifiers ++ exp2.identifiers
  | .call callee arguments => callee.identifiers ++ identifiersOf arguments
  | .builtin _ arguments => identifiersOf arguments
  | _ => []

def identifiersOf : List (GoNode φ) → List String
  | [] => []
  | first :: others => first.identifiers ++ identifiersOf others

end

theorem mem_identifiersOf {value : String} {arguments : List (GoNode φ)} :
    value ∈ identifiersOf arguments ↔ ∃ argument ∈ arguments, value ∈ argument.identifiers := by
  induction arguments with
  | nil => simp [identifiersOf]
  | cons first others ih => simp [identifiersOf, ih]

end GoNode

section Validation

variable {φ : Type} [GoFloat φ]

def isPricingMarker (value : String) : Bool := value = "tier" || value = "fixed"

def isRequestProbe (value : String) : Bool :=
  value ∈ ["param", "header", "hour", "minute", "weekday", "month", "day"]

namespace GoNode

def containsPricingMarker (node : GoNode φ) : Bool := node.identifiers.any isPricingMarker

def usesRequestProbe (node : GoNode φ) : Bool := node.identifiers.any isRequestProbe

def requestRuleNumber : GoNode φ → Option φ
  | .integer value => some (GoFloat.ofInt value)
  | .float value => some value
  | _ => none

def isRequestPriceMultiplier : GoNode φ → Bool
  | .identifier value => value = "image_count"
  | .conditional _ cond exp1 exp2 =>
    if !cond.usesRequestProbe || cond.containsPricingMarker then false
    else
      match exp1.requestRuleNumber, exp2.requestRuleNumber with
      | some multiplier, some fallback =>
        GoFloat.isOne fallback && GoFloat.nonnegative multiplier &&
          !GoFloat.isNaN multiplier && !GoFloat.isInf multiplier
      | _, _ => false
  | _ => false

def fixedArgument : GoNode φ → Option (GoNode φ)
  | .call (.identifier function) [amount] =>
    if function = "fixed" then some amount else none
  | _ => none

def validatePrice (price : GoNode φ) : Bool :=
  match price.fixedArgument with
  | some argument =>
    match argument.requestRuleNumber with
    | some amount =>
      GoFloat.nonnegative amount && !GoFloat.isNaN amount &&
        !GoFloat.isInf (GoFloat.mul amount (GoFloat.ofInt 1000000))
    | none => false
  | none => !price.containsPricingMarker

def validateFixedPricingTree : GoNode φ → Bool
  | .conditional _ cond exp1 exp2 =>
    !cond.containsPricingMarker && exp1.validateFixedPricingTree && exp2.validateFixedPricingTree
  | .binary operator left right =>
    if operator = "*" then
      if right.isRequestPriceMultiplier then left.validateFixedPricingTree
      else if left.isRequestPriceMultiplier then right.validateFixedPricingTree
      else false
    else false
  | .call callee arguments =>
    match callee, arguments with
    | .identifier function, [name, price] =>
      function = "tier" && !name.containsPricingMarker && price.validatePrice
    | _, _ => false
  | _ => false

end GoNode

end Validation

end NewApi.Expression
