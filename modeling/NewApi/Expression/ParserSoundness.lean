import NewApi.Expression.Grammar

/-!
# Soundness of the parser

Whatever the parser accepts is a well-formed tree, and the node it returns is
the node of that tree at its place.
-/

namespace NewApi.Expression

open JsStrings SourceTree Expression

/-- A tree stands at the head of a text, behind white space; the cursor is on
the lexeme behind it. -/
structure Reads (position : Nat) (text : Text) (tree : SourceTree) (node : Node)
    (cursor : Cursor) : Prop where
  intro ::
  placed : ∃ layout behind, Blank layout ∧
    text = layout ++ (tree.text ++ behind) ∧
    next (position + layout.length + tree.text.length) behind = some cursor ∧
    node = tree.node (position + layout.length)
  wellFormed : tree.WellFormed

/-- The lexeme is an operator that an expression of this level takes in. -/
def Continues (minimum : Nat) (token : Token) : Prop :=
  ∃ operator : BinaryOp, token = .symbol (.binary operator) ∧ minimum ≤ operator.precedence

inductive ReadsArguments : Nat → Text → List Node → Cursor → Prop where
  | empty {position text cursor} :
      next position text = some cursor →
      ReadsArguments position text [] cursor
  | last {position text tree node cursor} :
      Reads position text tree node cursor →
      ReadsArguments position text [node] cursor
  | more {position text tree node comma others cursor} :
      Reads position text tree node comma →
      comma.token = .symbol .comma →
      ReadsArguments comma.stop comma.rest others cursor →
      ReadsArguments position text (node :: others) cursor

theorem BinaryOp.precedence_pos (operator : BinaryOp) : 1 ≤ operator.precedence := by
  cases operator <;> decide

theorem BinaryOp.precedence_le (operator : BinaryOp) : operator.precedence ≤ 6 := by
  cases operator <;> decide

/-! ## Trees from what the cursor passed -/

attribute [local simp] SourceTree.text Token.text Symbol.text SourceTree.node

variable {position : Nat} {text : Text} {node : Node} {cursor : Cursor}

theorem Reads.behind {tree : SourceTree} (reads : Reads position text tree node cursor) :
    ∃ layout gap, Blank layout ∧ Blank gap ∧
      text = layout ++ (tree.text ++ (gap ++ (cursor.token.text ++ cursor.rest))) ∧
      cursor.stop = position + layout.length + tree.text.length +
        gap.length + cursor.token.text.length ∧
      node = tree.node (position + layout.length) := by
  obtain ⟨⟨layout, behind, blank, textEq, nextEq, nodeEq⟩, _⟩ := reads
  obtain ⟨gap, gapBlank, behindEq, startEq, stopEq, _, _⟩ := next_sound nextEq
  refine ⟨layout, gap, blank, gapBlank, ?_, ?_, nodeEq⟩
  · rw [textEq, behindEq]
  · rw [stopEq, startEq]

variable {after : Cursor}

theorem Reads.leaf (tree : SourceTree) (placed : next position text = some cursor)
    (textEq : tree.text = cursor.token.text) (wellFormed : tree.WellFormed)
    (advanced : cursor.advance = some after) :
    Reads position text tree (tree.node cursor.start) after := by
  obtain ⟨layout, blank, sourceEq, startEq, stopEq, _, _⟩ := next_sound placed
  refine ⟨⟨layout, cursor.rest, blank, ?_, ?_, ?_⟩, wellFormed⟩
  · rw [sourceEq, textEq]
  · rw [textEq, ← startEq, ← stopEq]
    exact advanced
  · rw [startEq]

theorem Reads.binary {leftTree rightTree : SourceTree} {left right : Node} {operator : BinaryOp}
    (leftReads : Reads position text leftTree left cursor)
    (atOperator : cursor.token = .symbol (.binary operator))
    (rightReads : Reads cursor.stop cursor.rest rightTree right after)
    (leftFits : operator.precedence ≤ leftTree.strength)
    (rightFits : operator.precedence + 1 ≤ rightTree.strength) :
    ∃ tree, Reads position text tree (binaryNode operator left right) after ∧
      tree.strength = operator.precedence := by
  obtain ⟨layout, gap₁, blank, blank₁, textEq, stopEq, leftEq⟩ := leftReads.behind
  obtain ⟨⟨gap₂, behind, blank₂, restEq, nextEq, rightEq⟩, rightForm⟩ := rightReads
  have operatorText : cursor.token.text = operator.text := by rw [atOperator]; rfl
  rw [operatorText] at textEq stopEq
  refine ⟨.binary leftTree gap₁ operator gap₂ rightTree,
    ⟨⟨layout, behind, blank, ?_, ?_, ?_⟩, leftReads.wellFormed, leftFits,
      blank₁, blank₂, rightForm, rightFits⟩, rfl⟩
  · rw [textEq, restEq]
    simp
  · rw [← nextEq, stopEq]
    congr 1
    simp only [SourceTree.text, List.length_append]
    omega
  · subst leftEq rightEq
    rw [binaryNode, SourceTree.node, SourceTree.node_span, SourceTree.node_span, stopEq]
    simp only [SourceTree.text, List.length_append, Node.binary.injEq,
      Span.mk.injEq, true_and, and_true]
    omega

theorem Reads.conditional {conditionTree yesTree noTree : SourceTree}
    {condition yes no : Node} {question colon : Cursor}
    (conditionReads : Reads position text conditionTree condition question)
    (atQuestion : question.token = .symbol .question)
    (yesReads : Reads question.stop question.rest yesTree yes colon)
    (atColon : colon.token = .symbol .colon) (noReads : Reads colon.stop colon.rest noTree no after)
    (conditionFits : 1 ≤ conditionTree.strength) :
    ∃ tree, Reads position text tree (conditionalNode condition yes no) after := by
  obtain ⟨layout, gap₁, blank, blank₁, textEq, questionStop, conditionEq⟩ := conditionReads.behind
  obtain ⟨gap₂, gap₃, blank₂, blank₃, yesText, colonStop, yesEq⟩ := yesReads.behind
  obtain ⟨⟨gap₄, behind, blank₄, noText, nextEq, noEq⟩, noForm⟩ := noReads
  rw [atQuestion] at textEq questionStop
  rw [atColon] at yesText colonStop
  refine ⟨.conditional conditionTree gap₁ gap₂ yesTree gap₃ gap₄ noTree,
    ⟨layout, behind, blank, ?_, ?_, ?_⟩, conditionReads.wellFormed,
      conditionFits, blank₁, blank₂, yesReads.wellFormed, blank₃, blank₄,
      noForm⟩
  · rw [textEq, yesText, noText]
    simp
  · rw [← nextEq, colonStop, questionStop]
    congr 1
    simp only [SourceTree.text, Token.text, Symbol.text, List.length_append,
      List.length_cons, List.length_nil]
    omega
  · subst conditionEq yesEq noEq
    rw [conditionalNode, SourceTree.node, SourceTree.node_span, SourceTree.node_span, colonStop,
      questionStop]
    simp only [SourceTree.text, Token.text, Symbol.text, List.length_append, List.length_cons,
      List.length_nil, Node.conditional.injEq, Span.mk.injEq, true_and, and_true, Nat.zero_add]
    omega

variable {opening closing : Cursor}

theorem Reads.paren {innerTree : SourceTree} {inner : Node}
    (placed : next position text = some opening) (atOpening : opening.token = .symbol .opening)
    (innerReads : Reads opening.stop opening.rest innerTree inner closing)
    (atClosing : closing.token = .symbol .closing) (advanced : closing.advance = some after) :
    ∃ tree, Reads position text tree
      (inner.withSpan ⟨opening.start, closing.stop⟩) after ∧ tree.strength = 7 := by
  obtain ⟨layout, blank, sourceEq, startEq, stopEq, _, _⟩ := next_sound placed
  obtain ⟨gap₁, gap₂, blank₁, blank₂, textEq, closingStop, innerEq⟩ := innerReads.behind
  rw [atOpening] at sourceEq stopEq
  rw [atClosing] at textEq closingStop
  simp only [Token.text, Symbol.text, List.length_cons, List.length_nil] at stopEq closingStop
  refine ⟨.paren gap₁ innerTree gap₂, ⟨⟨layout, closing.rest, blank, ?_, ?_,
    ?_⟩, blank₁, innerReads.wellFormed, blank₂⟩, rfl⟩
  · rw [sourceEq, textEq]
    simp
  · have positionEq : position + layout.length +
        (SourceTree.paren gap₁ innerTree gap₂).text.length = closing.stop := by
      simp only [SourceTree.text, List.length_append, List.length_cons, List.length_nil]
      omega
    rw [positionEq]
    exact advanced
  · subst innerEq
    have spanEq : closing.stop = opening.start +
        (SourceTree.paren gap₁ innerTree gap₂).text.length := by
      simp only [SourceTree.text, List.length_append, List.length_cons, List.length_nil]
      omega
    rw [SourceTree.node, spanEq, stopEq, startEq]

theorem Reads.unary {operandTree : SourceTree} {operand : Node} {operator : UnaryOp}
    (placed : next position text = some cursor)
    (atOperator : cursor.token = .symbol operator.symbol)
    (operandReads : Reads cursor.stop cursor.rest operandTree operand after)
    (operandFits : 7 ≤ operandTree.strength) :
    ∃ tree, Reads position text tree
      (.unary ⟨cursor.start, operand.span.stop⟩ operator operand) after ∧ tree.strength = 7 := by
  obtain ⟨layout, blank, sourceEq, startEq, stopEq, _, _⟩ := next_sound placed
  obtain ⟨⟨gap, behind, blankGap, restEq, nextEq, operandEq⟩, operandForm⟩ := operandReads
  rw [atOperator] at sourceEq stopEq
  simp only [Token.text] at sourceEq stopEq
  refine ⟨.unary operator gap operandTree, ⟨⟨layout, behind, blank, ?_, ?_,
    ?_⟩, blankGap, operandForm, operandFits⟩, rfl⟩
  · rw [sourceEq, restEq]
    simp
  · rw [← nextEq, stopEq, startEq]
    congr 1
    simp only [SourceTree.text, List.length_append]
    omega
  · subst operandEq
    rw [SourceTree.node, SourceTree.node_span, stopEq, startEq]
    simp only [SourceTree.text, List.length_append, Node.unary.injEq, Span.mk.injEq,
      true_and, and_true]
    omega

theorem ReadsArguments.single {argument : Node}
    (read : ReadsArguments position text [argument] closing)
    (atClosing : closing.token = .symbol .closing) :
    ∃ (tree : SourceTree) (gap₁ gap₂ : Text) (comma : Option Text),
      tree.WellFormed ∧ Blank gap₁ ∧ Blank gap₂ ∧
      (∀ gap ∈ comma, Blank gap) ∧
      text = gap₁ ++ (tree.text ++ (gap₂ ++ (commaText comma ++ 41 :: closing.rest))) ∧
      closing.stop = position + gap₁.length + tree.text.length + gap₂.length +
        (commaText comma).length + 1 ∧
      argument = tree.node (position + gap₁.length) := by
  cases read with
  | last reads =>
    obtain ⟨gap₁, gap₂, blank₁, blank₂, textEq, stopEq, nodeEq⟩ := reads.behind
    rw [atClosing] at textEq stopEq
    refine ⟨_, gap₁, gap₂, none, reads.wellFormed, blank₁, blank₂, by simp, ?_, ?_, nodeEq⟩
    · rw [textEq]
      rfl
    · simpa [Token.text, Symbol.text, commaText] using stopEq
  | more reads atComma others =>
    cases others with
    | empty closingEq =>
      obtain ⟨gap₁, gap₂, blank₁, blank₂, textEq, stopEq, nodeEq⟩ := reads.behind
      obtain ⟨gap₃, blank₃, restEq, startEq, closingStop, _, _⟩ := next_sound closingEq
      rw [atComma] at textEq stopEq
      rw [atClosing] at restEq closingStop
      refine ⟨_, gap₁, gap₂, some gap₃, reads.wellFormed, blank₁, blank₂, ?_, ?_, ?_, nodeEq⟩
      · simpa using blank₃
      · rw [textEq, restEq]
        simp [commaText]
      · rw [closingStop, startEq, stopEq]
        simp only [Token.text, Symbol.text, commaText, List.length_cons, List.length_nil]
        omega

theorem Reads.call1 {argument : Node} {function : UnaryFunction}
    (placed : next position text = some cursor) (atName : cursor.token = .name function.word)
    (openingEq : cursor.advance = some opening) (atOpening : opening.token = .symbol .opening)
    (read : ReadsArguments opening.stop opening.rest [argument] closing)
    (atClosing : closing.token = .symbol .closing) (advanced : closing.advance = some after) :
    ∃ tree, Reads position text tree
      (.call1 ⟨cursor.start, closing.stop⟩ function argument) after ∧ tree.strength = 7 := by
  obtain ⟨layout, blank, sourceEq, startEq, stopEq, _, _⟩ := next_sound placed
  obtain ⟨gap₁, blank₁, restEq, openingStart, openingStop, _, _⟩ := next_sound openingEq
  obtain ⟨tree, gap₂, gap₃, comma, form, blank₂, blank₃, commaBlank, textEq,
    closingStop, argumentEq⟩ := read.single atClosing
  rw [atName] at sourceEq stopEq
  rw [atOpening] at restEq openingStop
  simp only [Token.text, Symbol.text, List.length_cons, List.length_nil]
    at sourceEq stopEq restEq openingStop
  have textLength : closing.stop = cursor.start +
      (SourceTree.call1 function gap₁ gap₂ tree gap₃ comma).text.length := by
    simp only [SourceTree.text, List.length_append, List.length_cons, List.length_nil]
    omega
  refine ⟨.call1 function gap₁ gap₂ tree gap₃ comma,
    ⟨⟨layout, closing.rest, blank, ?_, ?_, ?_⟩, blank₁, blank₂, form, blank₃, commaBlank⟩, rfl⟩
  · rw [sourceEq, restEq, textEq]
    simp
  · rw [← startEq, ← textLength]
    exact advanced
  · subst argumentEq
    rw [SourceTree.node, ← startEq, ← textLength, openingStop, openingStart, stopEq]

theorem Reads.call2 {first second : Node} {function : BinaryFunction}
    (placed : next position text = some cursor) (atName : cursor.token = .name function.word)
    (openingEq : cursor.advance = some opening) (atOpening : opening.token = .symbol .opening)
    (read : ReadsArguments opening.stop opening.rest [first, second] closing)
    (atClosing : closing.token = .symbol .closing) (advanced : closing.advance = some after) :
    ∃ tree, Reads position text tree
      (.call2 ⟨cursor.start, closing.stop⟩ function first second) after ∧ tree.strength = 7 := by
  obtain ⟨layout, blank, sourceEq, startEq, stopEq, _, _⟩ := next_sound placed
  obtain ⟨gap₁, blank₁, restEq, openingStart, openingStop, _, _⟩ := next_sound openingEq
  cases read with
  | more firstReads atComma others =>
    obtain ⟨gap₂, gap₃, blank₂, blank₃, firstText, commaStop, firstEq⟩ := firstReads.behind
    obtain ⟨secondTree, gap₄, gap₅, comma, form, blank₄, blank₅, commaBlank,
      secondText, closingStop, secondEq⟩ := others.single atClosing
    rename_i firstTree _
    rw [atName] at sourceEq stopEq
    rw [atOpening] at restEq openingStop
    rw [atComma] at firstText commaStop
    simp only [Token.text, Symbol.text, List.length_cons, List.length_nil]
      at sourceEq stopEq restEq openingStop firstText commaStop
    have textLength : closing.stop = cursor.start +
        (SourceTree.call2 function gap₁ gap₂ firstTree gap₃ gap₄ secondTree gap₅
          comma).text.length := by
      simp only [SourceTree.text, List.length_append, List.length_cons, List.length_nil]
      omega
    refine ⟨.call2 function gap₁ gap₂ firstTree gap₃ gap₄ secondTree gap₅
      comma, ⟨⟨layout, closing.rest, blank, ?_, ?_, ?_⟩, blank₁, blank₂,
        firstReads.wellFormed, blank₃, blank₄, form, blank₅, commaBlank⟩, rfl⟩
    · rw [sourceEq, restEq, firstText, secondText]
      simp
    · rw [← startEq, ← textLength]
      exact advanced
    · subst firstEq secondEq
      rw [SourceTree.node, ← startEq, ← textLength, commaStop, openingStop, openingStart, stopEq]

/-! ## Soundness of the parser -/

/-- What the four functions of the parser return at a given fuel. -/
structure Sound (fuel : Nat) : Prop where
  expression :
    ∀ {minimum position text cursor node after},
      minimum ≤ 7 → next position text = some cursor →
      expression fuel minimum cursor = some (node, after) →
      ∃ tree, Reads position text tree node after ∧
        minimum ≤ tree.strength ∧ ¬Continues minimum after.token
  binaries :
    ∀ {minimum position text cursor tree left node after},
      Reads position text tree left cursor →
      1 ≤ tree.strength → minimum ≤ tree.strength →
      (∀ operator, cursor.token = .symbol (.binary operator) →
        operator.precedence ≤ tree.strength) →
      binaries fuel minimum left cursor = some (node, after) →
      ∃ tree, Reads position text tree node after ∧
        1 ≤ tree.strength ∧ minimum ≤ tree.strength ∧
        ¬Continues minimum after.token
  primary :
    ∀ {position text cursor node after},
      next position text = some cursor →
      primary fuel cursor = some (node, after) →
      ∃ tree, Reads position text tree node after ∧ 7 ≤ tree.strength
  arguments :
    ∀ {position text cursor args after},
      next position text = some cursor →
      arguments fuel cursor = some (args, after) →
      ReadsArguments position text args after

theorem expect_eq_some {mark : Symbol} {stop : Nat}
    (expected : expect mark cursor = some (stop, after)) :
    cursor.token = .symbol mark ∧ stop = cursor.stop ∧ cursor.advance = some after := by
  unfold expect at expected
  split at expected
  next atMark =>
    obtain ⟨following, advanced, pairEq⟩ := Option.map_eq_some_iff.1 expected
    cases pairEq
    exact ⟨atMark, rfl, advanced⟩
  next => cases expected

variable {fuel : Nat}

/-- What is read is a derivation, read on as far as it goes. -/
theorem expression_sound (sound : Sound fuel) {minimum : Nat} (bounded : minimum ≤ 7)
    (placed : next position text = some cursor)
    (parsed : expression (fuel + 1) minimum cursor = some (node, after)) :
    ∃ tree, Reads position text tree node after ∧
      minimum ≤ tree.strength ∧ ¬Continues minimum after.token := by
  rw [expression] at parsed
  rw [Option.bind_eq_some_iff] at parsed
  obtain ⟨⟨first, middle⟩, firstEq, parsed⟩ := parsed
  obtain ⟨firstTree, firstReads, firstFits⟩ := sound.primary placed firstEq
  rw [Option.bind_eq_some_iff] at parsed
  obtain ⟨⟨left, question⟩, leftEq, parsed⟩ := parsed
  obtain ⟨leftTree, leftReads, leftOperand, leftFits, stopped⟩ :=
    sound.binaries firstReads (by omega) (by omega)
      (fun operator _ => by have := operator.precedence_le; omega) leftEq
  dsimp only at parsed
  split at parsed
  next atQuestion =>
    obtain ⟨rfl, atQuestion⟩ := atQuestion
    obtain ⟨second, secondEq, parsed⟩ := Option.bind_eq_some_iff.1 parsed
    obtain ⟨⟨yes, colon⟩, yesEq, parsed⟩ := Option.bind_eq_some_iff.1 parsed
    obtain ⟨yesTree, yesReads, _, _⟩ := sound.expression bounded secondEq yesEq
    obtain ⟨⟨_, third⟩, colonEq, parsed⟩ := Option.bind_eq_some_iff.1 parsed
    obtain ⟨atColon, _, thirdEq⟩ := expect_eq_some colonEq
    obtain ⟨⟨no, last⟩, noEq, pairEq⟩ := Option.map_eq_some_iff.1 parsed
    cases pairEq
    obtain ⟨noTree, noReads, _, ended⟩ := sound.expression bounded thirdEq noEq
    obtain ⟨tree, reads⟩ := leftReads.conditional atQuestion yesReads atColon noReads leftOperand
    exact ⟨tree, reads, Nat.zero_le _, ended⟩
  next =>
    cases parsed
    exact ⟨leftTree, leftReads, leftFits, stopped⟩

/-- An operand is extended by what binds tightly enough. -/
theorem binaries_sound (sound : Sound fuel) {minimum : Nat} {tree : SourceTree} {left : Node}
    (leftReads : Reads position text tree left cursor)
    (operand : 1 ≤ tree.strength) (fits : minimum ≤ tree.strength)
    (takes : ∀ operator, cursor.token = .symbol (.binary operator) →
      operator.precedence ≤ tree.strength)
    (parsed : binaries (fuel + 1) minimum left cursor = some (node, after)) :
    ∃ tree, Reads position text tree node after ∧ 1 ≤ tree.strength ∧ minimum ≤ tree.strength ∧
      ¬Continues minimum after.token := by
  rw [binaries] at parsed
  split at parsed
  next operator atOperator =>
    split at parsed
    next taken =>
      obtain ⟨following, followingEq, parsed⟩ := Option.bind_eq_some_iff.1 parsed
      obtain ⟨⟨right, behind⟩, rightEq, parsed⟩ := Option.bind_eq_some_iff.1 parsed
      have small := operator.precedence_le
      obtain ⟨rightTree, rightReads, rightFits, ended⟩ :=
        sound.expression (by omega) followingEq rightEq
      obtain ⟨whole, wholeReads, wholeStrength⟩ :=
        leftReads.binary atOperator rightReads (takes operator atOperator) rightFits
      -- The right operand took in every operator that binds tighter.
      have wholeTakes : ∀ following,
          behind.token = .symbol (.binary following) → following.precedence ≤ whole.strength := by
        intro following atFollowing
        by_contra tighter
        exact ended ⟨following, atFollowing, by omega⟩
      have positive := operator.precedence_pos
      exact sound.binaries wholeReads (by omega) (by omega) wholeTakes parsed
    next refused =>
      cases parsed
      refine ⟨tree, leftReads, operand, fits, ?_⟩
      rintro ⟨other, atOther, taken⟩
      rw [atOperator] at atOther
      cases atOther
      exact refused taken
  next notOperator =>
    cases parsed
    refine ⟨tree, leftReads, operand, fits, ?_⟩
    rintro ⟨operator, atOperator, _⟩
    exact notOperator operator atOperator

theorem arguments_sound (sound : Sound fuel) {args : List Node}
    (placed : next position text = some cursor)
    (parsed : arguments (fuel + 1) cursor = some (args, after)) :
    ReadsArguments position text args after := by
  rw [arguments] at parsed
  split at parsed
  next =>
    cases parsed
    exact .empty placed
  next =>
    obtain ⟨⟨argument, comma⟩, argumentEq, parsed⟩ := Option.bind_eq_some_iff.1 parsed
    obtain ⟨tree, reads, _, _⟩ := sound.expression (by omega) placed argumentEq
    dsimp only at parsed
    split at parsed
    next atComma =>
      obtain ⟨following, followingEq, parsed⟩ := Option.bind_eq_some_iff.1 parsed
      obtain ⟨⟨others, last⟩, othersEq, pairEq⟩ := Option.map_eq_some_iff.1 parsed
      cases pairEq
      exact .more reads atComma (sound.arguments followingEq othersEq)
    next =>
      cases parsed
      exact .last reads

theorem functionNamed_word {word : Text} {function : BillingFunction}
    (named : functionNamed word = some function) :
    function.word = word := by
  simpa using List.find?_some named

theorem variableNamed_word {word : Text} {name : TokenVariable}
    (named : variableNamed word = some name) :
    name.word = word := by
  simpa using List.find?_some named

theorem unaryOp_symbol {mark : Symbol} {operator : UnaryOp}
    (prefixed : mark.unaryOp = some operator) :
    mark = operator.symbol := by
  cases mark with
  | bang => cases prefixed; rfl
  | binary binaryOperator => cases binaryOperator <;> cases prefixed <;> rfl
  | _ => cases prefixed

theorem callNode_cases {span : Span} {function : BillingFunction} {args : List Node}
    {call : Node} (made : callNode span function args = some call) :
    (∃ unaryFunction argument, function = .unary unaryFunction ∧
      args = [argument] ∧ call = .call1 span unaryFunction argument) ∨
    (∃ binaryFunction first second, function = .binary binaryFunction ∧ args = [first, second] ∧
      call = .call2 span binaryFunction first second) := by
  unfold callNode at made
  split at made
  next function argument =>
    cases made
    exact .inl ⟨function, argument, rfl, rfl, rfl⟩
  next function first second =>
    cases made
    exact .inr ⟨function, first, second, rfl, rfl, rfl⟩
  next => cases made

/-- A primary binds tightest. -/
theorem primary_sound (sound : Sound fuel) (placed : next position text = some cursor)
    (parsed : primary (fuel + 1) cursor = some (node, after)) :
    ∃ tree, Reads position text tree node after ∧ 7 ≤ tree.strength := by
  obtain ⟨layout, _, _, startEq, stopEq, legal, _⟩ := next_sound placed
  obtain ⟨following, advanced, parsed⟩ := Option.bind_eq_some_iff.1 parsed
  split at parsed
  next number atNumber =>
    cases parsed
    rw [atNumber] at legal stopEq
    have reads := Reads.leaf (.number number) placed (by rw [atNumber]; rfl) legal advanced
    rw [stopEq]
    exact ⟨_, reads, Nat.le_refl 7⟩
  next quote body value atString =>
    cases parsed
    rw [atString] at legal stopEq
    have reads := Reads.leaf (.string quote body value) placed
      (by rw [atString]; rfl) legal advanced
    rw [stopEq]
    exact ⟨_, reads, Nat.le_refl 7⟩
  next atOpening =>
    obtain ⟨⟨inner, closing⟩, innerEq, parsed⟩ := Option.bind_eq_some_iff.1 parsed
    obtain ⟨innerTree, innerReads, _, _⟩ := sound.expression (by omega) advanced innerEq
    obtain ⟨⟨stop, last⟩, closingEq, pairEq⟩ := Option.map_eq_some_iff.1 parsed
    cases pairEq
    obtain ⟨atClosing, rfl, lastEq⟩ := expect_eq_some closingEq
    obtain ⟨tree, reads, strengthEq⟩ := Reads.paren placed atOpening innerReads atClosing lastEq
    exact ⟨tree, reads, strengthEq.ge⟩
  next mark _ atMark =>
    obtain ⟨operator, operatorEq, parsed⟩ := Option.bind_eq_some_iff.1 parsed
    obtain ⟨⟨operand, last⟩, operandEq, pairEq⟩ := Option.map_eq_some_iff.1 parsed
    cases pairEq
    rw [unaryOp_symbol operatorEq] at atMark
    obtain ⟨operandTree, operandReads, operandFits, _⟩ :=
      sound.expression (Nat.le_refl 7) advanced operandEq
    obtain ⟨tree, reads, strengthEq⟩ := Reads.unary placed atMark operandReads operandFits
    exact ⟨tree, reads, strengthEq.ge⟩
  next word atName =>
    split at parsed
    next value valueEq =>
      cases parsed
      rw [atName] at stopEq
      have reads := Reads.leaf (.named word value) placed (by rw [atName]; rfl) valueEq advanced
      rw [stopEq]
      exact ⟨_, reads, Nat.le_refl 7⟩
    next =>
      split at parsed
      next atOpening =>
        obtain ⟨function, functionEq, parsed⟩ := Option.bind_eq_some_iff.1 parsed
        obtain ⟨inside, insideEq, parsed⟩ := Option.bind_eq_some_iff.1 parsed
        obtain ⟨⟨args, closing⟩, argsEq, parsed⟩ := Option.bind_eq_some_iff.1 parsed
        have argsRead := sound.arguments insideEq argsEq
        obtain ⟨⟨stop, last⟩, closingEq, parsed⟩ := Option.bind_eq_some_iff.1 parsed
        obtain ⟨atClosing, rfl, lastEq⟩ := expect_eq_some closingEq
        obtain ⟨call, callEq, pairEq⟩ := Option.map_eq_some_iff.1 parsed
        cases pairEq
        have wordEq := functionNamed_word functionEq
        subst wordEq
        rcases callNode_cases callEq with
          ⟨function, argument, rfl, rfl, rfl⟩ |
          ⟨function, first, second, rfl, rfl, rfl⟩
        · obtain ⟨tree, reads, strengthEq⟩ := Reads.call1 placed atName
            advanced atOpening argsRead atClosing lastEq
          exact ⟨tree, reads, strengthEq.ge⟩
        · obtain ⟨tree, reads, strengthEq⟩ := Reads.call2 placed atName
            advanced atOpening argsRead atClosing lastEq
          exact ⟨tree, reads, strengthEq.ge⟩
      next =>
        obtain ⟨name, nameEq, pairEq⟩ := Option.map_eq_some_iff.1 parsed
        cases pairEq
        have wordEq := variableNamed_word nameEq
        subst wordEq
        rw [atName] at stopEq
        have reads := Reads.leaf (.tokenVariable name) placed (by rw [atName]; rfl) trivial advanced
        rw [stopEq]
        exact ⟨_, reads, Nat.le_refl 7⟩
  next => cases parsed

theorem sound (fuel : Nat) : Sound fuel := by
  induction fuel with
  | zero =>
    refine ⟨fun _ _ parsed => ?_, fun _ _ _ _ parsed => ?_, fun _ parsed => ?_, fun _ parsed => ?_⟩
    · simp at parsed
    · simp at parsed
    · simp at parsed
    · simp at parsed
  | succ fuel sound =>
    exact ⟨expression_sound sound, binaries_sound sound, primary_sound sound, arguments_sound sound⟩

/-- What stands before the expression of a source: white space, or a version
tag between white space. -/
def Heading (head : Text) : Prop :=
  Blank head ∨
    ∃ before after, Blank before ∧ Blank after ∧ head = before ++ 118 :: 49 :: 58 :: after

theorem versionTag_sound {source version behind : Text}
    (tagged : versionTag source = some (version, behind)) :
    ∃ before, Blank before ∧ source = before ++ 118 :: (version ++ 58 :: behind) := by
  unfold versionTag at tagged
  split at tagged
  next rest restEq =>
    split at tagged
    next behind' behindEq =>
      split at tagged
      next => cases tagged
      next =>
        cases tagged
        refine ⟨source.takeWhile isSpace, fun _ member => List.mem_takeWhile_imp member, ?_⟩
        rw [← behindEq, List.takeWhile_append_dropWhile, ← restEq, List.takeWhile_append_dropWhile]
    next => cases tagged
  next => cases tagged

/-- Whatever the parser returns is the node of a well-formed tree that the
source spells out. -/
theorem parse_sound {source : Text} (parsed : parse source = some node) :
    ∃ (head : Text) (tree : SourceTree) (trail : Text),
      Heading head ∧ Blank trail ∧ source = head ++ (tree.text ++ trail) ∧
      tree.WellFormed ∧ node = tree.node head.length := by
  obtain ⟨cursor, cursorEq, parsed⟩ := Option.bind_eq_some_iff.1 parsed
  obtain ⟨⟨found, last⟩, foundEq, parsed⟩ := Option.bind_eq_some_iff.1 parsed
  dsimp only at parsed
  split at parsed
  case isFalse => cases parsed
  case isTrue atEnd =>
  cases parsed
  have trailing {position : Nat} {text : Text}
      (placed : next position text = some last) : Blank text := by
    obtain ⟨layout, blank, textEq, _, _, _, finished⟩ := next_sound placed
    rw [textEq, atEnd, finished atEnd]
    simpa [Token.text] using blank
  unfold openCursor at cursorEq
  split at cursorEq
  next version behind tagged =>
    split at cursorEq
    case isFalse => cases cursorEq
    case isTrue versionEq =>
    obtain ⟨before, blank, sourceEq⟩ := versionTag_sound tagged
    have oneEq : version = [49] := versionEq
    subst oneEq
    obtain ⟨tree, ⟨⟨layout, trail, layoutBlank, behindEq, lastEq, nodeEq⟩,
      form⟩, _, _⟩ := (sound _).expression (Nat.zero_le 7) cursorEq foundEq
    refine ⟨before ++ 118 :: 49 :: 58 :: layout, tree, trail,
      .inr ⟨before, layout, blank, layoutBlank, rfl⟩, trailing lastEq, ?_,
      form, ?_⟩
    · rw [sourceEq, behindEq]
      simp
    · rw [nodeEq]
      congr 1
      rw [sourceEq]
      simp only [List.length_append, List.length_cons, List.cons_append, List.nil_append]
      omega
  next =>
    obtain ⟨tree, ⟨⟨layout, trail, layoutBlank, behindEq, lastEq, nodeEq⟩,
      form⟩, _, _⟩ := (sound _).expression (Nat.zero_le 7) cursorEq foundEq
    refine ⟨layout, tree, trail, .inl layoutBlank, trailing lastEq, behindEq, form, ?_⟩
    rw [nodeEq, Nat.zero_add]

end NewApi.Expression
