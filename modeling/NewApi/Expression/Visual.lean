import Mathlib.Data.List.Sort
import NewApi.Expression.Runtime

/-!
# Visual billing documents

A tree of pricing branches and tiers that keeps, for every part read from a
source, the expression node it was read from.  Writing the tree back patches the
spans of those nodes.
-/

namespace NewApi.Expression

open JsStrings

/-- The language runtime: `String(number)` of a double, and whether
`Intl.DateTimeFormat` knows a time zone. -/
structure VisualRuntime where
  numberText : Rat → Text
  knownTimezone : Text → Bool

inductive Probe where
  | p | c | len
  | time (part : TimeFunction)
deriving DecidableEq

def Probe.word : Probe → Text
  | .p => TokenVariable.p.word
  | .c => TokenVariable.c.word
  | .len => TokenVariable.len.word
  | .time part => part.word

inductive Comparison where
  | lt | le | gt | ge | eq | ne
deriving DecidableEq

def Comparison.operator : Comparison → BinaryOp
  | .lt => .lt
  | .le => .le
  | .gt => .gt
  | .ge => .ge
  | .eq => .eq
  | .ne => .ne

def BinaryOp.comparison : BinaryOp → Option Comparison
  | .lt => some .lt
  | .le => some .le
  | .gt => some .gt
  | .ge => some .ge
  | .eq => some .eq
  | .ne => some .ne
  | _ => none

inductive GroupKind where
  | all | any
deriving DecidableEq

def GroupKind.operator : GroupKind → BinaryOp
  | .all => .and
  | .any => .or

inductive VisualCondition where
  | comparison (id : Text) (origin : Option Node) (probe : Probe)
      (timezone : Text) (operator : Comparison) (value : Text)
  | group (id : Text) (origin : Option Node) (kind : GroupKind) (children : List VisualCondition)
  | not (id : Text) (origin : Option Node) (child : VisualCondition)

structure VisualPrice where
  name : TokenVariable
  value : Text
  origin : Option Node
deriving DecidableEq

inductive BillingUnit where
  | token | request
deriving DecidableEq

inductive VisualPricingNode where
  | tier (id : Text) (origin : Option Node) (label : Text)
      (prices : List VisualPrice) (billingUnit : BillingUnit)
      (fixedPrice : Text)
  | branch (id : Text) (origin : Option Node) (condition : VisualCondition)
      (yes no : VisualPricingNode)

structure VisualBillingDocument where
  source : Text
  root : VisualPricingNode

def VisualCondition.origin : VisualCondition → Option Node
  | .comparison _ origin _ _ _ _ => origin
  | .group _ origin _ _ => origin
  | .not _ origin _ => origin

def VisualPricingNode.id : VisualPricingNode → Text
  | .tier id _ _ _ _ _ => id
  | .branch id _ _ _ _ => id

inductive IssueMessage where
  /-- Add at least one condition to this group. -/
  | emptyGroup
  /-- Enter a valid condition value. -/
  | conditionValue
  /-- Choose a valid IANA timezone. -/
  | timezone
  /-- Enter a finite, non-negative price. -/
  | price
  /-- Include at least one price variable. -/
  | noPrice
  /-- This expression cannot be edited visually without losing
  information. -/
  | notEditable
deriving DecidableEq

structure VisualBillingIssue where
  id : Text
  message : IssueMessage
deriving DecidableEq

def flattenBinary (operator : BinaryOp) : Node → List Node
  | .binary span found left right =>
    if found = operator then flattenBinary operator left ++ flattenBinary operator right
    else [.binary span found left right]
  | node => [node]

def identity (kind : String) (node : Node) : Text :=
  units (kind ++ "-" ++ toString node.span.start ++ "-" ++ toString node.span.stop)

def Node.size : Node → Nat
  | .literal _ _ => 1
  | .tokenVariable _ _ => 1
  | .call1 _ _ argument => argument.size + 1
  | .call2 _ _ first second => first.size + second.size + 1
  | .unary _ _ operand => operand.size + 1
  | .binary _ _ left right => left.size + right.size + 1
  | .conditional _ condition yes no => condition.size + yes.size + no.size + 1

/-- The probe and time zone of the left side of a comparison. -/
def readProbe : Node → Option (Probe × Text)
  | .tokenVariable _ .p => some (.p, [])
  | .tokenVariable _ .c => some (.c, [])
  | .tokenVariable _ .len => some (.len, [])
  | .call1 _ (.time part) (.literal _ (.string timezone)) => some (.time part, timezone)
  | _ => none

/-- `readVisualCondition`, for conditions of at most `fuel` nodes. -/
def readVisualConditionWithin (runtime : VisualRuntime) :
    (fuel : Nat) → Node → Option VisualCondition
  | 0, _ => none
  | fuel + 1, node =>
    let id := identity "condition" node
    match node with
    | .unary _ .not operand =>
      (readVisualConditionWithin runtime fuel operand).map fun child => .not id (some node) child
    | .binary _ .and _ _ =>
      ((flattenBinary .and node).mapM
        (readVisualConditionWithin runtime fuel)).map fun children =>
          .group id (some node) .all children
    | .binary _ .or _ _ =>
      ((flattenBinary .or node).mapM
        (readVisualConditionWithin runtime fuel)).map fun children =>
          .group id (some node) .any children
    | .binary _ operator left (.literal _ (.number value _)) =>
      operator.comparison.bind fun comparison =>
        (readProbe left).map fun (probe, timezone) =>
          .comparison id (some node) probe timezone comparison (runtime.numberText value)
    | _ => none

def readVisualCondition (runtime : VisualRuntime) (node : Node) : Option VisualCondition :=
  readVisualConditionWithin runtime node.size node

/-- `String(value)` of a literal. -/
def literalText (runtime : VisualRuntime) : Literal → Text
  | .number value _ => runtime.numberText value
  | .string value => value
  | .boolean true => units "true"
  | .boolean false => units "false"
  | .nil => units "null"

/-- The price of one term of a tier, `variable * number`. -/
def readPrice (runtime : VisualRuntime) : Node → Option VisualPrice
  | .binary span .mul (.tokenVariable left name)
      (.literal right (.number value integer)) =>
      if name = .len ∨ value < 0 then none
      else
        some ⟨name, runtime.numberText value,
          some (.binary span .mul (.tokenVariable left name)
            (.literal right (.number value integer)))⟩
  | _ => none

def readPrices (runtime : VisualRuntime) :
    List VisualPrice → List Node → Option (List VisualPrice)
  | prices, [] => some prices
  | prices, term :: terms =>
    (readPrice runtime term).bind fun price =>
      if prices.any (·.name = price.name) then none
      else readPrices runtime (prices ++ [price]) terms

def readVisualPricing (runtime : VisualRuntime) :
    Node → Option VisualPricingNode
  | .conditional span condition yes no =>
    let node := Node.conditional span condition yes no
    (readVisualCondition runtime condition).bind fun condition =>
      (readVisualPricing runtime yes).bind fun yes =>
        (readVisualPricing runtime no).map fun no =>
          .branch (identity "pricing" node) (some node) condition yes no
  | .call2 span .tier (.literal labelSpan (.string label)) body =>
    let node := Node.call2 span .tier (.literal labelSpan (.string label)) body
    let id := identity "pricing" node
    match body with
    | .call1 _ .fixed (.literal _ amount) =>
      some (.tier id (some node) label [] .request (literalText runtime amount))
    | body =>
      (readPrices runtime [] (flattenBinary .add body)).map fun prices =>
        .tier id (some node) label prices .token []
  | _ => none

/-! ## Writing a document -/

structure Patch where
  node : Node
  text : Text
deriving DecidableEq

def sortPatches (patches : List Patch) : List Patch :=
  patches.insertionSort fun a b => b.node.span.start ≤ a.node.span.start

def applyPatch (offset : Nat) (result : Text) (patch : Patch) : Text :=
  result.take (patch.node.span.start - offset) ++ patch.text ++
    result.drop (patch.node.span.stop - offset)

def sourceText (source : Text) (node : Node) : Text := slice source node.span.start node.span.stop

def patchSource (source : Text) (origin : Node) (patches : List Patch) : Text :=
  (sortPatches patches).foldl (applyPatch origin.span.start) (sourceText source origin)

def parseNonNegativeNumber (value : Text) : Option Rat :=
  if matchNumber (trim value) = some (trim value) ∧
      decimalValue (trim value) < infiniteFrom then
    some (numberValue (trim value))
  else none

def equalsLiteral (value : Option Rat) : Literal → Bool
  | .number number _ => value = some number
  | .nil => value = none
  | _ => false

def TimeFunction.domain : TimeFunction → Nat × Nat
  | .hour => (0, 23)
  | .minute => (0, 59)
  | .weekday => (0, 6)
  | .month => (1, 12)
  | .day => (1, 31)

/-- Whether the value of a comparison is one that can be saved. -/
def validConditionValue (probe : Probe) (operator : Comparison) (value : Option Rat) : Bool :=
  match value, probe with
  | none, _ => false
  | some value, .time part =>
    value.den = 1 && (part.domain.1 : Rat) ≤ value &&
      value ≤ (part.domain.2 : Rat) + (if operator = .lt then 1 else 0)
  | some _, _ => true

def probeText (probe : Probe) (timezone : Text) : Text :=
  match probe with
  | .time part => part.word ++ [40] ++ jsonStringify timezone ++ [41]
  | probe => probe.word

def literalArgument : Node → Option Literal
  | .call1 _ _ (.literal _ value) => some value
  | .call2 _ _ (.literal _ value) _ => some value
  | _ => none

/-- The time zone of the comparison a condition was read from. -/
def originalZone : Option Node → Option Literal
  | some (.binary _ _ left _) => literalArgument left
  | _ => none

def sameProbe (probe : Probe) (timezone : Text) : Node → Bool
  | .tokenVariable _ name => name.word = probe.word
  | .call1 _ function (.literal _ value) => function.word = probe.word && value = .string timezone
  | .call2 _ function (.literal _ value) _ => function.word = probe.word && value = .string timezone
  | _ => false

def joinTexts (separator : Text) : List Text → Text
  | [] => []
  | [text] => text
  | text :: texts => text ++ separator ++ joinTexts separator texts

def parenthesised (text : Text) : Text := 40 :: (text ++ [41])

def writeComparison (runtime : VisualRuntime) (source id : Text) (origin : Option Node)
    (probe : Probe) (timezone : Text) (operator : Comparison) (value : Text) :
    Text × List VisualBillingIssue :=
  let number := parseNonNegativeNumber value
  let valueIssues : List VisualBillingIssue :=
    if validConditionValue probe operator number then []
    else [⟨id, .conditionValue⟩]
  let zoneIssues : List VisualBillingIssue :=
    match probe with
    | .time _ =>
      if originalZone origin = some (.string timezone) then []
      else if trim timezone = [] ∨ ¬runtime.knownTimezone (trim timezone) then [⟨id, .timezone⟩]
      else []
    | _ => []
  let issues := valueIssues ++ zoneIssues
  let fresh :=
    parenthesised (probeText probe timezone ++ [32] ++ operator.operator.text ++ [32] ++ value)
  match origin with
  | some (.binary span found left right) =>
    if found = operator.operator then
      let probePatch :=
        if sameProbe probe timezone left then sourceText source left
        else probeText probe timezone
      let valuePatch :=
        match right with
        | .literal _ literal =>
          if equalsLiteral number literal then sourceText source right
          else value
        | _ => value
      (patchSource source (.binary span found left right)
        [⟨left, probePatch⟩, ⟨right, valuePatch⟩], issues)
    else (fresh, issues)
  | _ => (fresh, issues)

def groupText (source : Text) (origin : Option Node) (kind : GroupKind)
    (children : List VisualCondition) (texts : List Text) : Text :=
  let fresh :=
    parenthesised (joinTexts ([32] ++ kind.operator.text ++ [32]) (texts.map parenthesised))
  match origin with
  | some (.binary span found left right) =>
    let node := Node.binary span found left right
    if found = kind.operator ∧
        (flattenBinary kind.operator node).map some = children.map VisualCondition.origin then
      patchSource source node (List.zipWith Patch.mk (flattenBinary kind.operator node) texts)
    else fresh
  | _ => fresh

def notText (source : Text) (origin : Option Node) (child : VisualCondition) (text : Text) : Text :=
  match origin with
  | some (.unary span operator operand) =>
    if child.origin = some operand then
      patchSource source (.unary span operator operand) [⟨operand, text⟩]
    else 33 :: parenthesised text
  | _ => 33 :: parenthesised text

mutual

/-- `writeVisualCondition`: the text, and the issues it reports. -/
def writeVisualCondition (runtime : VisualRuntime) (source : Text) :
    VisualCondition → Text × List VisualBillingIssue
  | .not _ origin child =>
    let (text, issues) := writeVisualCondition runtime source child
    (notText source origin child text, issues)
  | .group id origin kind children =>
    let empty : List VisualBillingIssue := if children.isEmpty then [⟨id, .emptyGroup⟩] else []
    let (texts, issues) := writeVisualConditions runtime source children
    (groupText source origin kind children texts, empty ++ issues)
  | .comparison id origin probe timezone operator value =>
    writeComparison runtime source id origin probe timezone operator value

def writeVisualConditions (runtime : VisualRuntime) (source : Text) :
    List VisualCondition → List Text × List VisualBillingIssue
  | [] => ([], [])
  | child :: children =>
    let (text, issues) := writeVisualCondition runtime source child
    let (texts, others) := writeVisualConditions runtime source children
    (text :: texts, issues ++ others)

end

/-- The text of a number that may have been edited: the source text of the
literal it was read from when it still has its value. -/
def amountText (source : Text) (value : Text) (literal : Node) (old : Literal) : Text :=
  if equalsLiteral (parseNonNegativeNumber value) old then sourceText source literal
  else value

def pricePatch (source : Text) (price : VisualPrice) : Option (Node × Patch) :=
  match price.origin with
  | some (.binary span operator left (.literal literalSpan old)) =>
    let right := Node.literal literalSpan old
    some (.binary span operator left right, ⟨right, amountText source price.value right old⟩)
  | _ => none

def priceTerm (source : Text) (price : VisualPrice) : Text :=
  match pricePatch source price with
  | some (origin, patch) => patchSource source origin [patch]
  | none => price.name.word ++ units " * " ++ price.value

def priceIssues (id : Text) (price : VisualPrice) : List VisualBillingIssue :=
  if parseNonNegativeNumber price.value = none then [⟨id ++ units ":" ++ price.name.word, .price⟩]
  else []

def labelText (source : Text) (label : Text) : Node → Text
  | .literal span (.string old) =>
    if old = label then sourceText source (.literal span (.string old))
    else jsonStringify label
  | _ => jsonStringify label

def requestTierText (source : Text) (origin : Option Node) (label fixedPrice : Text) : Text :=
  match origin with
  | some (.call2 span .tier first second) =>
    let priceText :=
      match second with
      | .call1 priceSpan .fixed (.literal amountSpan old) =>
        let amount := Node.literal amountSpan old
        patchSource source (.call1 priceSpan .fixed amount)
          [⟨amount, amountText source fixedPrice amount old⟩]
      | _ => units "fixed(" ++ fixedPrice ++ units ")"
    patchSource source (.call2 span .tier first second)
      [⟨first, labelText source label first⟩, ⟨second, priceText⟩]
  | _ =>
    units "tier(" ++ jsonStringify label ++ units ", fixed(" ++ fixedPrice ++ units "))"

def tokenTierText (source : Text) (origin : Option Node) (label : Text)
    (prices : List VisualPrice) : Text :=
  let terms := joinTexts (units " + ") (prices.map (priceTerm source))
  match origin with
  | some (.call2 span .tier first second) =>
    let node := Node.call2 span .tier first second
    let labelPatch : Patch := ⟨first, labelText source label first⟩
    if (flattenBinary .add second).map some =
        prices.map VisualPrice.origin then
      patchSource source node (labelPatch :: (prices.filterMap (pricePatch source)).map Prod.snd)
    else patchSource source node [labelPatch, ⟨second, terms⟩]
  | _ => units "tier(" ++ jsonStringify label ++ units ", " ++ terms ++ units ")"

def writeVisualPricing (runtime : VisualRuntime) (source : Text) :
    VisualPricingNode → Text × List VisualBillingIssue
  | .branch _ origin condition yes no =>
    let (conditionText, conditionIssues) := writeVisualCondition runtime source condition
    let (yesText, yesIssues) := writeVisualPricing runtime source yes
    let (noText, noIssues) := writeVisualPricing runtime source no
    let issues := conditionIssues ++ yesIssues ++ noIssues
    match origin with
    | some (.conditional span oldCondition oldYes oldNo) =>
      (patchSource source (.conditional span oldCondition oldYes oldNo)
        [⟨oldCondition, conditionText⟩, ⟨oldYes, yesText⟩, ⟨oldNo, noText⟩], issues)
    | _ =>
      (parenthesised conditionText ++ units " ? " ++
        parenthesised yesText ++ units " : " ++ parenthesised noText,
        issues)
  | .tier id origin label _ .request fixedPrice =>
    let issues : List VisualBillingIssue :=
      match parseNonNegativeNumber fixedPrice with
      | some value =>
        if isFinitePrice value then []
        else [⟨id ++ units ":fixed", .price⟩]
      | none => [⟨id ++ units ":fixed", .price⟩]
    (requestTierText source origin label fixedPrice, issues)
  | .tier id origin label prices .token _ =>
    let empty : List VisualBillingIssue := if prices.isEmpty then [⟨id, .noPrice⟩] else []
    (tokenTierText source origin label prices, empty ++ prices.flatMap (priceIssues id))

def serializeVisualBillingDocument (runtime : VisualRuntime) (document : VisualBillingDocument) :
    Except (List VisualBillingIssue) Text :=
  let (body, issues) := writeVisualPricing runtime document.source document.root
  if issues ≠ [] then .error issues
  else
    match compileBillingExpression document.source with
    | none => .error [⟨document.root.id, .notEditable⟩]
    | some ast =>
      let source :=
        document.source.take ast.span.start ++ body ++ document.source.drop ast.span.stop
      if (compileBillingExpression source).isSome then .ok source
      else .error [⟨document.root.id, .conditionValue⟩]

def parseVisualBillingDocument (runtime : VisualRuntime) (source : Text) :
    Option VisualBillingDocument :=
  (compileBillingExpression source).bind fun ast =>
    (readVisualPricing runtime ast).bind fun root =>
      match serializeVisualBillingDocument runtime ⟨source, root⟩ with
      | .ok _ => some ⟨source, root⟩
      | .error _ => none

end NewApi.Expression
