import NewApi.Expression.Lexer

/-!
# The parser of billing expressions

Precedence climbing over the lexemes of a source.  Every node carries its span;
a parenthesised expression takes the span of its parentheses.  The limit on the
nesting depth, which can only refuse, is not modelled.
-/

namespace NewApi.Expression

open JsStrings

inductive TokenVariable where
  | p | c | len | cr | cc | cc1h | img | imgO | imgCr | imageCount | ai | ao
deriving DecidableEq

def TokenVariable.all : List TokenVariable :=
  [.p, .c, .len, .cr, .cc, .cc1h, .img, .imgO, .imgCr, .imageCount, .ai, .ao]

def TokenVariable.word : TokenVariable → Text
  | .p => units "p"
  | .c => units "c"
  | .len => units "len"
  | .cr => units "cr"
  | .cc => units "cc"
  | .cc1h => units "cc1h"
  | .img => units "img"
  | .imgO => units "img_o"
  | .imgCr => units "img_cr"
  | .imageCount => units "image_count"
  | .ai => units "ai"
  | .ao => units "ao"

inductive TimeFunction where
  | hour | minute | weekday | month | day
deriving DecidableEq

inductive UnaryFunction where
  | fixed | param | header | u
  | time (part : TimeFunction)
  | abs | ceil | floor
deriving DecidableEq

inductive BinaryFunction where
  | tier | has | min | max
deriving DecidableEq

inductive BillingFunction where
  | unary (function : UnaryFunction)
  | binary (function : BinaryFunction)
deriving DecidableEq

def TimeFunction.word : TimeFunction → Text
  | .hour => units "hour"
  | .minute => units "minute"
  | .weekday => units "weekday"
  | .month => units "month"
  | .day => units "day"

def UnaryFunction.word : UnaryFunction → Text
  | .fixed => units "fixed"
  | .param => units "param"
  | .header => units "header"
  | .u => units "u"
  | .time part => part.word
  | .abs => units "abs"
  | .ceil => units "ceil"
  | .floor => units "floor"

def BinaryFunction.word : BinaryFunction → Text
  | .tier => units "tier"
  | .has => units "has"
  | .min => units "min"
  | .max => units "max"

def BillingFunction.word : BillingFunction → Text
  | .unary function => function.word
  | .binary function => function.word

def BillingFunction.all : List BillingFunction :=
  [.binary .tier, .unary .fixed, .unary .param, .unary .header, .binary .has,
    .unary .u, .unary (.time .hour), .unary (.time .minute),
    .unary (.time .weekday), .unary (.time .month), .unary (.time .day),
    .binary .min, .binary .max, .unary .abs, .unary .ceil, .unary .floor]

def variableNamed (word : Text) : Option TokenVariable :=
  TokenVariable.all.find? fun name => name.word = word

def functionNamed (word : Text) : Option BillingFunction :=
  BillingFunction.all.find? fun function => function.word = word

structure Span where
  start : Nat
  stop : Nat
deriving DecidableEq

inductive UnaryOp where
  | not | plus | minus
deriving DecidableEq

inductive Literal where
  | number (value : Rat) (integer : Bool)
  | string (value : Text)
  | boolean (value : Bool)
  | nil
deriving DecidableEq

/-- `ExpressionNode`.  Two nodes of one source are the same object exactly
when they are equal here, since no two of them share a span. -/
inductive Node where
  | literal (span : Span) (value : Literal)
  | tokenVariable (span : Span) (name : TokenVariable)
  | call1 (span : Span) (function : UnaryFunction) (argument : Node)
  | call2 (span : Span) (function : BinaryFunction) (first second : Node)
  | unary (span : Span) (operator : UnaryOp) (operand : Node)
  | binary (span : Span) (operator : BinaryOp) (left right : Node)
  | conditional (span : Span) (condition yes no : Node)
deriving DecidableEq

def Node.span : Node → Span
  | .literal span _ => span
  | .tokenVariable span _ => span
  | .call1 span _ _ => span
  | .call2 span _ _ _ => span
  | .unary span _ _ => span
  | .binary span _ _ _ => span
  | .conditional span _ _ _ => span

def Node.withSpan (span : Span) : Node → Node
  | .literal _ value => .literal span value
  | .tokenVariable _ name => .tokenVariable span name
  | .call1 _ function argument => .call1 span function argument
  | .call2 _ function first second => .call2 span function first second
  | .unary _ operator operand => .unary span operator operand
  | .binary _ operator left right => .binary span operator left right
  | .conditional _ condition yes no => .conditional span condition yes no

def binaryNode (operator : BinaryOp) (left right : Node) : Node :=
  .binary ⟨left.span.start, right.span.stop⟩ operator left right

def conditionalNode (condition yes no : Node) : Node :=
  .conditional ⟨condition.span.start, no.span.stop⟩ condition yes no

def Symbol.unaryOp : Symbol → Option UnaryOp
  | .bang => some .not
  | .binary .add => some .plus
  | .binary .sub => some .minus
  | _ => none

/-- The call of a function, which refuses a wrong number of arguments. -/
def callNode (span : Span) : BillingFunction → List Node → Option Node
  | .unary function, [argument] => some (.call1 span function argument)
  | .binary function, [first, second] => some (.call2 span function first second)
  | _, _ => none

def expect (mark : Symbol) (cursor : Cursor) : Option (Nat × Cursor) :=
  if cursor.token = .symbol mark then cursor.advance.map fun following => (cursor.stop, following)
  else none

def literalNamed (word : Text) : Option Literal :=
  if word = units "nil" then some .nil
  else if word = units "true" then some (.boolean true)
  else if word = units "false" then some (.boolean false)
  else none

mutual

def expression :
    (fuel minimum : Nat) → Cursor → Option (Node × Cursor)
  | 0, _, _ => none
  | fuel + 1, minimum, cursor =>
    (primary fuel cursor).bind fun (first, cursor) =>
      (binaries fuel minimum first cursor).bind fun (left, cursor) =>
        if minimum = 0 ∧ cursor.token = .symbol .question then
          cursor.advance.bind fun cursor =>
            (expression fuel 0 cursor).bind fun (yes, cursor) =>
              (expect .colon cursor).bind fun (_, cursor) =>
                (expression fuel 0 cursor).map fun (no, cursor) =>
                  (conditionalNode left yes no, cursor)
        else some (left, cursor)

def binaries :
    (fuel minimum : Nat) → Node → Cursor → Option (Node × Cursor)
  | 0, _, _, _ => none
  | fuel + 1, minimum, left, cursor =>
    match cursor.token with
    | .symbol (.binary operator) =>
      if minimum ≤ operator.precedence then
        cursor.advance.bind fun cursor =>
          (expression fuel (operator.precedence + 1) cursor).bind
            fun (right, cursor) => binaries fuel minimum (binaryNode operator left right) cursor
      else some (left, cursor)
    | _ => some (left, cursor)

def primary : (fuel : Nat) → Cursor → Option (Node × Cursor)
  | 0, _ => none
  | fuel + 1, cursor =>
    cursor.advance.bind fun following =>
      let span : Span := ⟨cursor.start, cursor.stop⟩
      match cursor.token with
      | .number text =>
        some (.literal span (.number (numberValue text) (isIntegerText text)), following)
      | .string _ _ value => some (.literal span (.string value), following)
      | .symbol .opening =>
        (expression fuel 0 following).bind fun (inner, cursor') =>
          (expect .closing cursor').map fun (stop, cursor'') =>
            (inner.withSpan ⟨cursor.start, stop⟩, cursor'')
      | .symbol mark =>
        mark.unaryOp.bind fun operator =>
          (expression fuel 7 following).map fun (operand, cursor') =>
            (.unary ⟨cursor.start, operand.span.stop⟩ operator operand, cursor')
      | .name word =>
        match literalNamed word with
        | some value => some (.literal span value, following)
        | none =>
          if following.token = .symbol .opening then
            (functionNamed word).bind fun function =>
              following.advance.bind fun inside =>
                (arguments fuel inside).bind fun (args, cursor') =>
                  (expect .closing cursor').bind fun (stop, cursor'') =>
                    (callNode ⟨cursor.start, stop⟩ function args).map fun node => (node, cursor'')
          else
            (variableNamed word).map fun name => (.tokenVariable span name, following)
      | .finish => none

def arguments : (fuel : Nat) → Cursor → Option (List Node × Cursor)
  | 0, _ => none
  | fuel + 1, cursor =>
    if cursor.token = .symbol .closing then some ([], cursor)
    else
      (expression fuel 0 cursor).bind fun (argument, cursor) =>
        if cursor.token = .symbol .comma then
          cursor.advance.bind fun cursor =>
            (arguments fuel cursor).map fun (others, cursor) => (argument :: others, cursor)
        else some ([argument], cursor)

end

@[simp]
theorem expression_zero (minimum : Nat) (cursor : Cursor) : expression 0 minimum cursor = none := by
  simp [expression]

@[simp]
theorem binaries_zero (minimum : Nat) (left : Node) (cursor : Cursor) :
    binaries 0 minimum left cursor = none := by
  simp [binaries]

@[simp]
theorem primary_zero (cursor : Cursor) : primary 0 cursor = none := by
  simp [primary]

@[simp]
theorem arguments_zero (cursor : Cursor) : arguments 0 cursor = none := by
  simp [arguments]

/-- `source.match(/^\s*v(\d+):/)`: the digits, and the text behind. -/
def versionTag (source : Text) : Option (Text × Text) :=
  match source.dropWhile isSpace with
  | 118 :: rest =>
    match rest.dropWhile isDigit with
    | 58 :: behind =>
      if rest.takeWhile isDigit = [] then none
      else some (rest.takeWhile isDigit, behind)
    | _ => none
  | _ => none

/-- The lexeme the constructor of the parser starts at: the version tag, which
must be `v1:`, is skipped. -/
def openCursor (source : Text) : Option Cursor :=
  match versionTag source with
  | some (version, behind) =>
    if version = units "1" then next (source.length - behind.length) behind
    else none
  | none => next 0 source

def parse (source : Text) : Option Node :=
  (openCursor source).bind fun cursor =>
    (expression (2 * source.length) 0 cursor).bind fun (node, cursor) =>
      if cursor.token = .finish then some node else none

end NewApi.Expression
