import NewApi.Expression.Syntax

/-!
# The grammar the parser accepts

A concrete syntax tree keeps everything a source spells out: the spelling of
its literals, its parentheses, its trailing commas and the white space between
its lexemes.  The parser returns a node exactly for the texts of well-formed
trees, and the node is the one of the tree.
-/

namespace NewApi.Expression

open JsStrings

def UnaryOp.symbol : UnaryOp → Symbol
  | .not => .bang
  | .plus => .binary .add
  | .minus => .binary .sub

inductive SourceTree where
  | number (text : Text)
  | string (quote : Nat) (body value : Text)
  | named (word : Text) (value : Literal)
  | tokenVariable (name : TokenVariable)
  | call1 (function : UnaryFunction) (gap₁ gap₂ : Text) (argument : SourceTree)
      (gap₃ : Text) (comma : Option Text)
  | call2 (function : BinaryFunction) (gap₁ gap₂ : Text) (first : SourceTree)
      (gap₃ gap₄ : Text) (second : SourceTree) (gap₅ : Text) (comma : Option Text)
  | paren (gap₁ : Text) (inner : SourceTree) (gap₂ : Text)
  | unary (operator : UnaryOp) (gap : Text) (operand : SourceTree)
  | binary (left : SourceTree) (gap₁ : Text) (operator : BinaryOp) (gap₂ : Text)
      (right : SourceTree)
  | conditional (condition : SourceTree) (gap₁ gap₂ : Text) (yes : SourceTree)
      (gap₃ gap₄ : Text) (no : SourceTree)
deriving DecidableEq

namespace SourceTree

def commaText : Option Text → Text
  | none => []
  | some gap => 44 :: gap

def text : SourceTree → Text
  | .number text => text
  | .string quote body _ => quote :: (body ++ [quote])
  | .named word _ => word
  | .tokenVariable name => name.word
  | .call1 function gap₁ gap₂ argument gap₃ comma =>
    function.word ++ (gap₁ ++ 40 :: (gap₂ ++ (argument.text ++
      (gap₃ ++ (commaText comma ++ [41])))))
  | .call2 function gap₁ gap₂ first gap₃ gap₄ second gap₅ comma =>
    function.word ++ (gap₁ ++ 40 :: (gap₂ ++ (first.text ++
      (gap₃ ++ 44 :: (gap₄ ++ (second.text ++ (gap₅ ++ (commaText comma ++ [41]))))))))
  | .paren gap₁ inner gap₂ => 40 :: (gap₁ ++ (inner.text ++ (gap₂ ++ [41])))
  | .unary operator gap operand => operator.symbol.text ++ (gap ++ operand.text)
  | .binary left gap₁ operator gap₂ right =>
    left.text ++ (gap₁ ++ (operator.text ++ (gap₂ ++ right.text)))
  | .conditional condition gap₁ gap₂ yes gap₃ gap₄ no =>
    condition.text ++ (gap₁ ++ 63 :: (gap₂ ++ (yes.text ++ (gap₃ ++ 58 :: (gap₄ ++ no.text)))))

def strength : SourceTree → Nat
  | .conditional .. => 0
  | .binary _ _ operator _ _ => operator.precedence
  | _ => 7

/-- The lexemes are legal, the gaps are white space, and every operand binds
as tightly as its place asks. -/
def WellFormed : SourceTree → Prop
  | .number text => (Token.number text).Legal
  | .string quote body value => (Token.string quote body value).Legal
  | .named word value => literalNamed word = some value
  | .tokenVariable _ => True
  | .call1 _ gap₁ gap₂ argument gap₃ comma =>
    Blank gap₁ ∧ Blank gap₂ ∧ argument.WellFormed ∧ Blank gap₃ ∧ ∀ gap ∈ comma, Blank gap
  | .call2 _ gap₁ gap₂ first gap₃ gap₄ second gap₅ comma =>
    Blank gap₁ ∧ Blank gap₂ ∧ first.WellFormed ∧ Blank gap₃ ∧ Blank gap₄ ∧
      second.WellFormed ∧ Blank gap₅ ∧ ∀ gap ∈ comma, Blank gap
  | .paren gap₁ inner gap₂ => Blank gap₁ ∧ inner.WellFormed ∧ Blank gap₂
  | .unary _ gap operand => Blank gap ∧ operand.WellFormed ∧ 7 ≤ operand.strength
  | .binary left gap₁ operator gap₂ right =>
    left.WellFormed ∧ operator.precedence ≤ left.strength ∧ Blank gap₁ ∧
      Blank gap₂ ∧ right.WellFormed ∧
      operator.precedence + 1 ≤ right.strength
  | .conditional condition gap₁ gap₂ yes gap₃ gap₄ no =>
    condition.WellFormed ∧ 1 ≤ condition.strength ∧ Blank gap₁ ∧
      Blank gap₂ ∧ yes.WellFormed ∧ Blank gap₃ ∧ Blank gap₄ ∧ no.WellFormed

def node (offset : Nat) : SourceTree → Node
  | .number text =>
    .literal ⟨offset, offset + text.length⟩ (.number (numberValue text) (isIntegerText text))
  | .string quote body value =>
    .literal ⟨offset, offset + (quote :: (body ++ [quote])).length⟩ (.string value)
  | .named word value => .literal ⟨offset, offset + word.length⟩ value
  | .tokenVariable name => .tokenVariable ⟨offset, offset + name.word.length⟩ name
  | .call1 function gap₁ gap₂ argument gap₃ comma =>
    .call1 ⟨offset, offset +
        (call1 function gap₁ gap₂ argument gap₃ comma).text.length⟩ function
      (argument.node (offset + function.word.length + gap₁.length + 1 + gap₂.length))
  | .call2 function gap₁ gap₂ first gap₃ gap₄ second gap₅ comma =>
    .call2 ⟨offset, offset + (call2 function gap₁ gap₂ first gap₃ gap₄
        second gap₅ comma).text.length⟩ function
      (first.node (offset + function.word.length + gap₁.length + 1 + gap₂.length))
      (second.node
        (offset + function.word.length + gap₁.length + 1 + gap₂.length +
          first.text.length + gap₃.length + 1 + gap₄.length))
  | .paren gap₁ inner gap₂ =>
    (inner.node (offset + 1 + gap₁.length)).withSpan
      ⟨offset, offset + (paren gap₁ inner gap₂).text.length⟩
  | .unary operator gap operand =>
    .unary ⟨offset, offset + (unary operator gap operand).text.length⟩
      operator
      (operand.node (offset + operator.symbol.text.length + gap.length))
  | .binary left gap₁ operator gap₂ right =>
    .binary ⟨offset,
        offset + (binary left gap₁ operator gap₂ right).text.length⟩ operator
      (left.node offset)
      (right.node (offset + left.text.length + gap₁.length + operator.text.length + gap₂.length))
  | .conditional condition gap₁ gap₂ yes gap₃ gap₄ no =>
    .conditional ⟨offset, offset + (conditional condition gap₁ gap₂ yes
        gap₃ gap₄ no).text.length⟩
      (condition.node offset)
      (yes.node (offset + condition.text.length + gap₁.length + 1 + gap₂.length))
      (no.node
        (offset + condition.text.length + gap₁.length + 1 + gap₂.length +
          yes.text.length + gap₃.length + 1 + gap₄.length))

@[simp] theorem withSpan_span (span : Span) (node : Node) : (node.withSpan span).span = span := by
  cases node <;> rfl

@[simp] theorem node_span (tree : SourceTree) (offset : Nat) :
    (tree.node offset).span = ⟨offset, offset + tree.text.length⟩ := by
  cases tree with
  | paren gap₁ inner gap₂ => exact withSpan_span _ _
  | _ => rfl

end SourceTree

theorem literalNamed_cases
    {word : Text} {value : Literal} (named : literalNamed word = some value) :
    word = units "nil" ∧ value = .nil ∨ word = units "true" ∧ value = .boolean true ∨
      word = units "false" ∧ value = .boolean false := by
  unfold literalNamed at named
  split at named
  next isNil => exact .inl ⟨isNil, by simpa using named.symm⟩
  next =>
    split at named
    next isTrue => exact .inr (.inl ⟨isTrue, by simpa using named.symm⟩)
    next =>
      split at named
      next isFalse => exact .inr (.inr ⟨isFalse, by simpa using named.symm⟩)
      next => cases named

end NewApi.Expression
