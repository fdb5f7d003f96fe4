import NewApi.Expression.ParserSoundness
import NewApi.Expression.Visual

/-!
# Visual documents round-trip untouched

Every part of a document that was read from a source and not edited writes
back the source text of the node it was read from, so that all patches of the
serializer are void.
-/

namespace NewApi.Expression

open Doubles JsStrings Node UnaryFunction

def Span.Within (inner outer : Span) : Prop :=
  outer.start ≤ inner.start ∧ inner.start ≤ inner.stop ∧ inner.stop ≤ outer.stop

theorem Span.Within.trans {first second third : Span} (inSecond : first.Within second)
    (inThird : second.Within third) : first.Within third :=
  ⟨Nat.le_trans inThird.1 inSecond.1, inSecond.2.1, Nat.le_trans inSecond.2.2 inThird.2.2⟩

/-- The span of every node lies in the span of its parent. -/
def Node.Nested : Node → Prop
  | .literal _ _ => True
  | .tokenVariable _ _ => True
  | .call1 span _ argument => argument.span.Within span ∧ argument.Nested
  | .call2 span _ first second =>
    first.span.Within span ∧ second.span.Within span ∧ first.Nested ∧ second.Nested
  | .unary span _ operand => operand.span.Within span ∧ operand.Nested
  | .binary span _ left right =>
    left.span.Within span ∧ right.span.Within span ∧ left.Nested ∧ right.Nested
  | .conditional span condition yes no =>
    condition.span.Within span ∧ yes.span.Within span ∧
      no.span.Within span ∧ condition.Nested ∧ yes.Nested ∧ no.Nested

variable {node : Node} {span : Span}

theorem Node.Nested.withSpan (nested : node.Nested)
    (wider : node.span.Within span) : (node.withSpan span).Nested := by
  cases node with
  | literal => trivial
  | tokenVariable => trivial
  | call1 => exact ⟨nested.1.trans wider, nested.2⟩
  | call2 =>
    obtain ⟨first, second, rest⟩ := nested
    exact ⟨first.trans wider, second.trans wider, rest⟩
  | unary => exact ⟨nested.1.trans wider, nested.2⟩
  | binary =>
    obtain ⟨left, right, rest⟩ := nested
    exact ⟨left.trans wider, right.trans wider, rest⟩
  | conditional =>
    obtain ⟨condition, yes, no, rest⟩ := nested
    exact ⟨condition.trans wider, yes.trans wider, no.trans wider, rest⟩

theorem SourceTree.node_nested (tree : SourceTree) (offset : Nat) : (tree.node offset).Nested := by
  have within {inner : SourceTree} {start : Nat} {span : Span} (startsAfter : span.start ≤ start)
      (endsBefore : start + inner.text.length ≤ span.stop) :
      (inner.node start).span.Within span := by
    rw [node_span]
    exact ⟨startsAfter, Nat.le_add_right _ _, endsBefore⟩
  induction tree generalizing offset with
  | number | string | named | tokenVariable => trivial
  | call1 function gap₁ gap₂ argument gap₃ comma argumentNested =>
    refine ⟨within ?_ ?_, argumentNested _⟩ <;> dsimp only
    · omega
    · simp only [text, List.length_append, List.length_cons]
      omega
  | call2 function gap₁ gap₂ first gap₃ gap₄ second gap₅ comma firstNested
      secondNested =>
    refine ⟨within ?_ ?_, within ?_ ?_, firstNested _, secondNested _⟩ <;>
      simp only [text, List.length_append, List.length_cons] <;> omega
  | paren gap₁ inner gap₂ innerNested =>
    refine (innerNested _).withSpan (within ?_ ?_) <;> dsimp only
    · omega
    · simp only [text, List.length_append, List.length_cons]
      omega
  | unary operator gap operand operandNested =>
    refine ⟨within ?_ ?_, operandNested _⟩ <;> dsimp only
    · omega
    · simp only [text, List.length_append]
      omega
  | binary left gap₁ operator gap₂ right leftNested rightNested =>
    refine ⟨within ?_ ?_, within ?_ ?_, leftNested _, rightNested _⟩ <;>
      simp only [text, List.length_append] <;> omega
  | conditional condition gap₁ gap₂ yes gap₃ gap₄ no conditionNested yesNested
      noNested =>
    refine ⟨within ?_ ?_, within ?_ ?_, within ?_ ?_, conditionNested _,
      yesNested _, noNested _⟩ <;>
      simp only [text, List.length_append, List.length_cons] <;> omega

variable {operator : BinaryOp}

theorem flattenBinary_nested (nested : node.Nested) (ordered : node.span.start ≤ node.span.stop) :
    ∀ leaf ∈ flattenBinary operator node, leaf.span.Within node.span ∧ leaf.Nested := by
  have itself : node.span.Within node.span := ⟨Nat.le_refl _, ordered, Nat.le_refl _⟩
  induction node with
  | binary span found left right leftLeaves rightLeaves =>
    obtain ⟨leftIn, rightIn, leftNested, rightNested⟩ := nested
    intro leaf member
    rw [flattenBinary] at member
    split at member
    next =>
      rcases List.mem_append.1 member with inLeft | inRight
      · obtain ⟨within, leafNested⟩ :=
          leftLeaves leftNested leftIn.2.1 ⟨Nat.le_refl _, leftIn.2.1, Nat.le_refl _⟩ leaf inLeft
        exact ⟨within.trans leftIn, leafNested⟩
      · obtain ⟨within, leafNested⟩ :=
          rightLeaves rightNested rightIn.2.1
            ⟨Nat.le_refl _, rightIn.2.1, Nat.le_refl _⟩ leaf inRight
        exact ⟨within.trans rightIn, leafNested⟩
    next =>
      rw [List.mem_singleton.1 member]
      exact ⟨itself, leftIn, rightIn, leftNested, rightNested⟩
  | _ =>
    intro leaf member
    obtain rfl : leaf = _ := List.mem_singleton.1 member
    exact ⟨itself, nested⟩

def Patch.Void (source : Text) (origin : Node) (patch : Patch) : Prop :=
  patch.text = sourceText source patch.node ∧ patch.node.span.Within origin.span

variable {source : Text} {origin : Node}

theorem applyPatch_void {patch : Patch} (isVoid : patch.Void source origin) :
    applyPatch origin.span.start (sourceText source origin) patch = sourceText source origin := by
  obtain ⟨textEq, startsAfter, ordered, endsBefore⟩ := isVoid
  rw [applyPatch, textEq]
  exact slice_overwrite startsAfter ordered endsBefore

theorem patchSource_void {patches : List Patch}
    (allVoid : ∀ patch ∈ patches, patch.Void source origin) :
    patchSource source origin patches = sourceText source origin := by
  have sorted : ∀ patch ∈ sortPatches patches, patch.Void source origin := by
    intro patch member
    exact allVoid patch ((List.mem_insertionSort _).1 member)
  unfold patchSource
  generalize sortPatches patches = ordered at sorted
  induction ordered with
  | nil => rfl
  | cons patch rest ih =>
    rw [List.foldl_cons, applyPatch_void (sorted patch (by simp))]
    exact ih fun other member => sorted other (by simp [member])

def Node.numbers : Node → List Rat
  | .literal _ (.number value _) => [value]
  | .literal _ _ => []
  | .tokenVariable _ _ => []
  | .call1 _ _ argument => argument.numbers
  | .call2 _ _ first second => first.numbers ++ second.numbers
  | .unary _ _ operand => operand.numbers
  | .binary _ _ left right => left.numbers ++ right.numbers
  | .conditional _ condition yes no => condition.numbers ++ yes.numbers ++ no.numbers

/-- `Number(String(value)) === value` for the doubles of the number literals of
a tree, with `String(value)` a plain number. -/
def VisualRuntime.ReadsBack (runtime : VisualRuntime) (node : Node) : Prop :=
  ∀ value ∈ node.numbers, parseNonNegativeNumber (runtime.numberText value) = some value

variable {runtime : VisualRuntime}

theorem flattenBinary_readsBack (readsBack : runtime.ReadsBack node) :
    ∀ leaf ∈ flattenBinary operator node, runtime.ReadsBack leaf := by
  induction node with
  | binary span found left right leftLeaves rightLeaves =>
    intro leaf member
    rw [flattenBinary] at member
    split at member
    next =>
      rcases List.mem_append.1 member with inLeft | inRight
      · exact leftLeaves (fun value inNode => readsBack value (List.mem_append_left _ inNode))
          leaf inLeft
      · exact rightLeaves (fun value inNode => readsBack value (List.mem_append_right _ inNode))
          leaf inRight
    next =>
      rw [List.mem_singleton.1 member]
      exact readsBack
  | _ =>
    intro leaf member
    obtain rfl : leaf = _ := List.mem_singleton.1 member
    exact readsBack

/-- A condition that was read from a node and writes its source text. -/
def WritesBack (runtime : VisualRuntime) (source : Text) (node : Node)
    (condition : VisualCondition) : Prop :=
  (writeVisualCondition runtime source condition).1 = sourceText source node ∧
    condition.origin = some node

theorem comparison_operator {comparison : Comparison}
    (compares : operator.comparison = some comparison) :
    operator = comparison.operator := by
  cases operator <;> cases compares <;> rfl

theorem readProbe_same {probe : Probe} {timezone : Text}
    (read : readProbe node = some (probe, timezone)) :
    sameProbe probe timezone node = true := by
  unfold readProbe at read
  split at read <;> cases read <;> simp [sameProbe, Probe.word, word]

theorem writeComparison_back {id timezone value : Text}
    {rightSpan : Span} {left : Node} {probe : Probe}
    {comparison : Comparison} {number : Rat} {integer : Bool}
    (nested : (binary span comparison.operator left
      (.literal rightSpan (.number number integer))).Nested)
    (same : sameProbe probe timezone left = true)
    (reads : parseNonNegativeNumber value = some number) :
    (writeComparison runtime source id
      (some (.binary span comparison.operator left
        (.literal rightSpan (.number number integer)))) probe timezone
      comparison value).1 =
      sourceText source (.binary span comparison.operator left
        (.literal rightSpan (.number number integer))) := by
  simp only [writeComparison, if_true, same, reads, equalsLiteral, decide_true]
  apply patchSource_void
  intro patch member
  simp only [List.mem_cons, List.not_mem_nil, or_false] at member
  rcases member with rfl | rfl
  · exact ⟨rfl, nested.1⟩
  · exact ⟨rfl, nested.2.1⟩

variable {children : List VisualCondition} {pricing : VisualPricingNode}

theorem writeVisualConditions_back {leaves : List Node}
    (back : List.Forall₂ (WritesBack runtime source) leaves children) :
    (writeVisualConditions runtime source children).1 = leaves.map (sourceText source) ∧
      leaves.map some = children.map VisualCondition.origin := by
  induction back with
  | nil => exact ⟨rfl, rfl⟩
  | cons first _ ih =>
    obtain ⟨textEq, originEq⟩ := first
    obtain ⟨textsEq, originsEq⟩ := ih
    simp only [writeVisualConditions, List.map_cons, textEq, textsEq, originEq, originsEq, and_self]

theorem mapM_forall₂ {α β : Type} {read : α → Option β} {related : α → β → Prop} {items : List α}
    {results : List β} (mapped : items.mapM read = some results)
    (each : ∀ item ∈ items, ∀ result, read item = some result → related item result) :
    List.Forall₂ related items results := by
  induction items generalizing results with
  | nil =>
    rw [List.mapM_nil] at mapped
    cases mapped
    exact .nil
  | cons item items ih =>
    rw [List.mapM_cons] at mapped
    obtain ⟨result, resultEq, mapped⟩ := Option.bind_eq_some_iff.1 mapped
    obtain ⟨others, othersEq, pairEq⟩ := Option.bind_eq_some_iff.1 mapped
    cases pairEq
    exact .cons (each item (by simp) result resultEq)
      (ih othersEq fun other member => each other (by simp [member]))

theorem groupText_back {id : Text} (kind : GroupKind) {left right : Node}
    (nested : (binary span kind.operator left right).Nested) (ordered : span.start ≤ span.stop)
    (back : List.Forall₂ (WritesBack runtime source)
      (flattenBinary kind.operator (.binary span kind.operator left right))
      children) :
    WritesBack runtime source (.binary span kind.operator left right)
      (.group id (some (.binary span kind.operator left right)) kind children) := by
  obtain ⟨textsEq, originsEq⟩ := writeVisualConditions_back back
  refine ⟨?_, rfl⟩
  simp only [writeVisualCondition, groupText, textsEq, originsEq, true_and, if_true]
  apply patchSource_void
  intro patch member
  rw [List.zipWith_map_right] at member
  obtain ⟨index, bound, rfl⟩ := List.mem_iff_getElem.1 member
  have inLeaves := List.getElem_mem (l := flattenBinary kind.operator
    (.binary span kind.operator left right)) (n := index) (by simpa using bound)
  obtain ⟨within, _⟩ := flattenBinary_nested nested ordered _ inLeaves
  simpa [Patch.Void] using within

theorem readVisualCondition_back (source : Text) {fuel : Nat} {condition : VisualCondition}
    (read : readVisualConditionWithin runtime fuel node = some condition)
    (nested : node.Nested) (ordered : node.span.start ≤ node.span.stop)
    (readsBack : runtime.ReadsBack node) :
    WritesBack runtime source node condition := by
  induction fuel generalizing node condition with
  | zero => cases read
  | succ fuel ih =>
    unfold readVisualConditionWithin at read
    dsimp only at read
    split at read
    next span operand =>
      obtain ⟨child, childRead, rfl⟩ := Option.map_eq_some_iff.1 read
      obtain ⟨within, operandNested⟩ := nested
      obtain ⟨textEq, originEq⟩ := ih childRead operandNested within.2.1 readsBack
      refine ⟨?_, rfl⟩
      simp only [writeVisualCondition, notText, originEq, if_true, textEq]
      apply patchSource_void
      intro patch member
      rw [List.mem_singleton.1 member]
      exact ⟨rfl, within⟩
    next span left right =>
      obtain ⟨children, childrenRead, rfl⟩ := Option.map_eq_some_iff.1 read
      exact groupText_back .all nested ordered
        (mapM_forall₂ childrenRead fun leaf member child childRead =>
          ih childRead (flattenBinary_nested nested ordered leaf member).2
            (flattenBinary_nested nested ordered leaf member).1.2.1
            (flattenBinary_readsBack readsBack leaf member))
    next span left right =>
      obtain ⟨children, childrenRead, rfl⟩ := Option.map_eq_some_iff.1 read
      exact groupText_back .any nested ordered
        (mapM_forall₂ childrenRead fun leaf member child childRead =>
          ih childRead (flattenBinary_nested nested ordered leaf member).2
            (flattenBinary_nested nested ordered leaf member).1.2.1
            (flattenBinary_readsBack readsBack leaf member))
    next span operator left rightSpan value integer _ _ =>
      obtain ⟨comparison, comparisonEq, read⟩ := Option.bind_eq_some_iff.1 read
      obtain ⟨⟨probe, timezone⟩, probeEq, rfl⟩ := Option.map_eq_some_iff.1 read
      obtain rfl := comparison_operator comparisonEq
      have reads := readsBack value (by simp [numbers])
      exact ⟨writeComparison_back nested (readProbe_same probeEq) reads, rfl⟩
    next => cases read

/-! ## Tiers and branches -/

theorem readPrices_forall₂ {terms : List Node} {prices found : List VisualPrice}
    (read : readPrices runtime prices terms = some found) :
    ∃ added, found = prices ++ added ∧
      List.Forall₂ (fun term price => readPrice runtime term = some price) terms added := by
  induction terms generalizing prices with
  | nil =>
    cases read
    exact ⟨[], (List.append_nil _).symm, .nil⟩
  | cons term terms ih =>
    rw [readPrices] at read
    obtain ⟨price, priceEq, read⟩ := Option.bind_eq_some_iff.1 read
    split at read
    next => cases read
    next =>
      obtain ⟨added, foundEq, others⟩ := ih read
      exact ⟨price :: added, by rw [foundEq]; simp, .cons priceEq others⟩

theorem readPrice_back (source : Text) {term : Node}
    {price : VisualPrice} (read : readPrice runtime term = some price)
    (nested : term.Nested) (within : term.span.Within origin.span)
    (readsBack : runtime.ReadsBack term) :
    price.origin = some term ∧
      ∃ patch, pricePatch source price = some (term, patch) ∧ patch.Void source origin := by
  unfold readPrice at read
  split at read
  next span leftSpan name rightSpan value integer =>
    split at read
    next => cases read
    next =>
      cases read
      have reads := readsBack value (by simp [numbers])
      refine ⟨rfl, _, rfl, ?_, nested.2.1.trans within⟩
      simp [amountText, reads, equalsLiteral]
  next => cases read

theorem readPrices_back (source : Text) (origin : Node)
    {terms : List Node} {prices : List VisualPrice}
    (read : List.Forall₂ (fun term price => readPrice runtime term = some price) terms prices)
    (each : ∀ term ∈ terms, term.Nested ∧ term.span.Within origin.span ∧ runtime.ReadsBack term) :
    terms.map some = prices.map VisualPrice.origin ∧
      ∀ patch ∈ (prices.filterMap (pricePatch source)).map Prod.snd, patch.Void source origin := by
  induction read with
  | nil => exact ⟨rfl, by simp⟩
  | @cons term price terms prices first _ ih =>
    obtain ⟨termNested, termWithin, termReads⟩ := each term (by simp)
    obtain ⟨originEq, patch, patchEq, patchVoid⟩ :=
      readPrice_back source first termNested termWithin termReads
    obtain ⟨originsEq, othersVoid⟩ := ih fun other member => each other (by simp [member])
    refine ⟨by rw [List.map_cons, List.map_cons, originEq, originsEq], ?_⟩
    intro other member
    simp only [List.filterMap_cons, patchEq, List.map_cons, List.mem_cons] at member
    rcases member with rfl | inOthers
    · exact patchVoid
    · exact othersVoid other inOthers

theorem fixed_number {literalSpan : Span} {amount : Literal}
    (typed : (checkExpressionTypes (.call1 span .fixed (.literal literalSpan amount))).isSome) :
    ∃ value integer, amount = .number value integer := by
  cases amount with
  | number value integer => exact ⟨value, integer, rfl⟩
  | _ =>
    simp [checkExpressionTypes, Literal.type, type, ExpressionType.admits] at typed

theorem readTier_back (source : Text) {labelSpan : Span} {label : Text} {body : Node}
    (read : readVisualPricing runtime
      (.call2 span .tier (.literal labelSpan (.string label)) body) = some pricing)
    (nested : (call2 span .tier (.literal labelSpan (.string label)) body).Nested)
    (typed : (checkExpressionTypes body).isSome) (readsBack : runtime.ReadsBack body) :
    (writeVisualPricing runtime source pricing).1 =
      sourceText source (.call2 span .tier (.literal labelSpan (.string label)) body) := by
  obtain ⟨labelWithin, bodyWithin, _, bodyNested⟩ := nested
  unfold readVisualPricing at read
  dsimp only at read
  split at read
  next priceSpan amountSpan amount =>
    cases read
    obtain ⟨value, integer, rfl⟩ := fixed_number typed
    have reads := readsBack value (by simp [numbers])
    have amountVoid : patchSource source
        (.call1 priceSpan .fixed (.literal amountSpan (.number value integer)))
        [⟨.literal amountSpan (.number value integer),
          amountText source (runtime.numberText value) (.literal amountSpan (.number value integer))
            (.number value integer)⟩] =
        sourceText source (.call1 priceSpan .fixed
          (.literal amountSpan (.number value integer))) := by
      apply patchSource_void
      intro patch member
      rw [List.mem_singleton.1 member]
      refine ⟨?_, bodyNested.1⟩
      simp [amountText, reads, equalsLiteral]
    simp only [writeVisualPricing, requestTierText, literalText, amountVoid, labelText, if_true]
    apply patchSource_void
    intro patch member
    simp only [List.mem_cons, List.not_mem_nil, or_false] at member
    rcases member with rfl | rfl
    · exact ⟨rfl, labelWithin⟩
    · exact ⟨rfl, bodyWithin⟩
  next =>
    obtain ⟨prices, pricesRead, rfl⟩ := Option.map_eq_some_iff.1 read
    obtain ⟨added, pricesEq, each⟩ := readPrices_forall₂ pricesRead
    rw [List.nil_append] at pricesEq
    subst pricesEq
    obtain ⟨originsEq, patchesVoid⟩ := readPrices_back source
      (.call2 span .tier (.literal labelSpan (.string label)) body) each fun term member =>
        have leaf := flattenBinary_nested bodyNested bodyWithin.2.1 term member
        ⟨leaf.2, leaf.1.trans bodyWithin, flattenBinary_readsBack readsBack term member⟩
    simp only [writeVisualPricing, tokenTierText, originsEq, if_true]
    apply patchSource_void
    intro patch member
    rcases List.mem_cons.1 member with rfl | inPrices
    · exact ⟨by simp [labelText], labelWithin⟩
    · exact patchesVoid patch inPrices

theorem readVisualPricing_back (source : Text)
    (read : readVisualPricing runtime node = some pricing) (nested : node.Nested)
    (typed : (checkExpressionTypes node).isSome) (readsBack : runtime.ReadsBack node) :
    (writeVisualPricing runtime source pricing).1 = sourceText source node := by
  induction node generalizing pricing with
  | conditional span condition yes no _ yesBack noBack =>
    rw [readVisualPricing] at read
    obtain ⟨conditionTree, conditionRead, read⟩ := Option.bind_eq_some_iff.1 read
    obtain ⟨yesTree, yesRead, read⟩ := Option.bind_eq_some_iff.1 read
    obtain ⟨noTree, noRead, rfl⟩ := Option.map_eq_some_iff.1 read
    obtain ⟨conditionWithin, yesWithin, noWithin, conditionNested, yesNested, noNested⟩ := nested
    rw [checkExpressionTypes] at typed
    obtain ⟨found, typed⟩ := Option.isSome_iff_exists.1 typed
    obtain ⟨_, _, typed⟩ := Option.bind_eq_some_iff.1 typed
    obtain ⟨yesType, yesTyped, typed⟩ := Option.bind_eq_some_iff.1 typed
    obtain ⟨noType, noTyped, _⟩ := Option.bind_eq_some_iff.1 typed
    obtain ⟨conditionText, _⟩ :=
      readVisualCondition_back source conditionRead conditionNested
        conditionWithin.2.1 fun value member => readsBack value (by simp [numbers, member])
    have yesText := yesBack yesRead yesNested (by rw [yesTyped]; rfl)
      fun value member => readsBack value (by simp [numbers, member])
    have noText := noBack noRead noNested (by rw [noTyped]; rfl)
      fun value member => readsBack value (by simp [numbers, member])
    simp only [writeVisualPricing, conditionText, yesText, noText]
    apply patchSource_void
    intro patch member
    simp only [List.mem_cons, List.not_mem_nil, or_false] at member
    rcases member with rfl | rfl | rfl
    · exact ⟨rfl, conditionWithin⟩
    · exact ⟨rfl, yesWithin⟩
    · exact ⟨rfl, noWithin⟩
  | call2 span function first second _ _ =>
    cases function with
    | tier =>
      cases first with
      | literal labelSpan literal =>
        cases literal with
        | string label =>
          rw [checkExpressionTypes] at typed
          obtain ⟨found, typed⟩ := Option.isSome_iff_exists.1 typed
          obtain ⟨_, _, typed⟩ := Option.bind_eq_some_iff.1 typed
          obtain ⟨bodyType, bodyTyped, _⟩ := Option.bind_eq_some_iff.1 typed
          exact readTier_back source read nested (by rw [bodyTyped]; rfl)
            fun value member => readsBack value (by simpa [numbers])
        | _ => cases read
      | _ => cases read
    | _ => cases read
  | _ =>
    unfold readVisualPricing at read
    cases read

theorem compile_placed {ast : Node} (compiled : compileBillingExpression source = some ast) :
    ast.Nested ∧ (checkExpressionTypes ast).isSome ∧
      ast.span.start ≤ ast.span.stop ∧ ast.span.stop ≤ source.length := by
  unfold compileBillingExpression at compiled
  obtain ⟨found, parsed, compiled⟩ := Option.bind_eq_some_iff.1 compiled
  split at compiled
  case isFalse => cases compiled
  case isTrue valid =>
  cases compiled
  obtain ⟨head, tree, trail, _, _, rfl, _, rfl⟩ := parse_sound parsed
  refine ⟨tree.node_nested _, valid.1, ?_, ?_⟩
  · simp
  · simp only [SourceTree.node_span, List.length_append]
    omega

theorem take_slice_drop (text : Text) {start stop : Nat} (ordered : start ≤ stop) :
    text.take start ++ slice text start stop ++ text.drop stop = text := by
  obtain ⟨length, rfl⟩ := Nat.exists_eq_add_of_le ordered
  rw [slice, Nat.add_sub_cancel_left, ← List.take_add, List.take_append_drop]

/-- Serializing an untouched document returns its source. -/
theorem serialize_parsed (runtime : VisualRuntime) {source : Text}
    {document : VisualBillingDocument}
    (readsBack : ∀ ast ∈ compileBillingExpression source, runtime.ReadsBack ast)
    (parsed : parseVisualBillingDocument runtime source = some document) :
    serializeVisualBillingDocument runtime document = .ok source := by
  unfold parseVisualBillingDocument at parsed
  obtain ⟨ast, compiled, parsed⟩ := Option.bind_eq_some_iff.1 parsed
  obtain ⟨root, rootRead, parsed⟩ := Option.bind_eq_some_iff.1 parsed
  obtain ⟨nested, typed, ordered, _⟩ := compile_placed compiled
  have bodyText := readVisualPricing_back source rootRead nested typed (readsBack ast compiled)
  split at parsed
  case h_2 => cases parsed
  case h_1 written serialized =>
  cases parsed
  rw [serialized]
  unfold serializeVisualBillingDocument at serialized
  dsimp only at serialized
  split at serialized
  next => cases serialized
  next =>
    rw [compiled] at serialized
    dsimp only at serialized
    split at serialized
    next =>
      cases serialized
      rw [bodyText, sourceText, take_slice_drop source ordered]
    next => cases serialized

/-- The price of `c` is written with more digits than its double has. -/
def spacedSource : Text :=
  units "v1: (len<100 ? tier('a', (p*3)+ c * 0.10000000000000001) :tier(\"b\", fixed(2) ))  "

/-- `String` of the whole numbers and of the double `0.1`. -/
def sampleRuntime : VisualRuntime where
  numberText value :=
    if value = roundDouble (1 / 10) then units "0.1"
    else (Nat.toDigits 10 value.num.toNat).map Char.toNat
  knownTimezone _ := true

theorem serialize_parsed_spaced :
    ∃ document,
      parseVisualBillingDocument sampleRuntime spacedSource = some document ∧
        serializeVisualBillingDocument sampleRuntime document = .ok spacedSource := by
  have accepted : (parseVisualBillingDocument sampleRuntime spacedSource).isSome =
        true := by decide +kernel
  have readsBack : ((compileBillingExpression spacedSource).all fun ast =>
        ast.numbers.all fun value =>
          parseNonNegativeNumber (sampleRuntime.numberText value) =
            some value) = true := by decide +kernel
  obtain ⟨document, parsed⟩ := Option.isSome_iff_exists.1 accepted
  refine ⟨document, parsed, serialize_parsed sampleRuntime ?_ parsed⟩
  intro ast compiled value member
  have compiledEq : compileBillingExpression spacedSource = some ast := compiled
  rw [compiledEq] at readsBack
  simpa using List.all_eq_true.1 readsBack value member

end NewApi.Expression
