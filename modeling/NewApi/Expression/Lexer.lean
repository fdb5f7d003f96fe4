import Mathlib.Algebra.Order.Field.Rat
import Mathlib.Data.Rat.Floor
import NewApi.Lib.Doubles
import NewApi.Lib.JsStrings

/-!
# Lexemes of billing expressions

The scanner of the billing-expression parser: number, string, name and symbol
lexemes between runs of white space.  A number literal stands for the double
nearest to the rational it writes.  The limits on the length of an expression and on its number of
tokens are not modelled: they can only refuse an expression.
-/

namespace NewApi.Expression

open Doubles JsStrings

def signPart : Text → Text
  | unit :: _ => if unit = 43 ∨ unit = 45 then [unit] else []
  | [] => []

def exponentPart : Text → Text
  | unit :: rest =>
    if unit = 101 ∨ unit = 69 then
      let sign := signPart rest
      let digits := (rest.drop sign.length).takeWhile isDigit
      if digits = [] then [] else unit :: (sign ++ digits)
    else []
  | [] => []

def mantissaPart (text : Text) : Option Text :=
  let whole := text.takeWhile isDigit
  match text.dropWhile isDigit with
  | [] => if whole = [] then none else some whole
  | unit :: rest =>
    let fraction := rest.takeWhile isDigit
    if unit = 46 then
      if whole = [] ∧ fraction = [] then none
      else some (whole ++ 46 :: fraction)
    else if whole = [] then none
    else some whole

def matchNumber (text : Text) : Option Text :=
  (mantissaPart text).map fun mantissa => mantissa ++ exponentPart (text.drop mantissa.length)

def digitsValue (digits : Text) : Nat := digits.foldl (fun value unit => 10 * value + (unit - 48)) 0

def exponentValue : Text → Int
  | _ :: rest =>
    let digits := digitsValue (rest.drop (signPart rest).length)
    if signPart rest = [45] then -(digits : Int) else digits
  | [] => 0

/-- The rational that a text of the number pattern writes. -/
def decimalValue (text : Text) : Rat :=
  let whole := text.takeWhile isDigit
  let afterWhole := text.drop whole.length
  let fraction :=
    match afterWhole with
    | 46 :: rest => rest.takeWhile isDigit
    | _ => []
  let mantissaLength :=
    match afterWhole with
    | 46 :: _ => whole.length + 1 + fraction.length
    | _ => whole.length
  (digitsValue (whole ++ fraction) : Rat) *
    (10 : Rat) ^ (exponentValue (text.drop mantissaLength) - fraction.length)

/-- `Number(text)` of a text that matches the number pattern and writes a
rational below `infiniteFrom`. -/
def numberValue (text : Text) : Rat := roundDouble (decimalValue text)

def isIntegerText (text : Text) : Bool :=
  text.all fun unit => unit != 46 && unit != 101 && unit != 69

def infiniteFrom : Rat := 2 ^ 1024 - 2 ^ 970

def maxSafeInteger : Rat := 2 ^ 53 - 1

/-- The checks on a number literal: finite, and exact when it is written as
an integer. -/
def acceptsNumber (text : Text) : Bool :=
  decimalValue text < infiniteFrom && (!isIntegerText text || numberValue text ≤ maxSafeInteger)

def simpleEscape (unit : Nat) : Option Nat :=
  if unit = 110 then some 10
  else if unit = 114 then some 13
  else if unit = 116 then some 9
  else if unit = 98 then some 8
  else if unit = 102 then some 12
  else if unit = 118 then some 11
  else if unit = 92 ∨ unit = 34 ∨ unit = 39 ∨ unit = 47 then some unit
  else none

def hexDigit (unit : Nat) : Nat :=
  if unit ≤ 57 then unit - 48
  else if unit ≤ 70 then unit - 55
  else unit - 87

def hexValue (digits : Text) : Nat := digits.foldl (fun value unit => 16 * value + hexDigit unit) 0

/-- What a scanned string literal leaves: the text between the quotes, the
string it stands for, and the text behind the closing quote. -/
structure ScannedString where
  body : Text
  value : Text
  rest : Text
deriving DecidableEq

def ScannedString.after (written : Text) (unit : Nat) (scanned : ScannedString) : ScannedString :=
  { scanned with
    body := written ++ scanned.body
    value := unit :: scanned.value }

/-- The loop over a string literal behind its opening quote; `none` is an
unterminated string or an unsupported escape. -/
def scanString (quote : Nat) : Text → Option ScannedString
  | [] => none
  | unit :: rest =>
    if unit = quote then some ⟨[], [], rest⟩
    else if unit = 10 ∨ unit = 13 then none
    else if unit ≠ 92 then (scanString quote rest).map (.after [unit] unit)
    else
      match rest with
      | [] => none
      | escaped :: rest =>
        match simpleEscape escaped with
        | some meant => (scanString quote rest).map (.after [92, escaped] meant)
        | none =>
          if escaped = 117 then
            match rest with
            | a :: b :: c :: d :: rest =>
              if [a, b, c, d].all isHex then
                (scanString quote rest).map (.after [92, 117, a, b, c, d] (hexValue [a, b, c, d]))
              else none
            | _ => none
          else if escaped = 120 then
            match rest with
            | a :: b :: rest =>
              if [a, b].all isHex then
                (scanString quote rest).map
                  (.after [92, 120, a, b] (hexValue [a, b]))
              else none
            | _ => none
          else none

inductive BinaryOp where
  | or | and
  | eq | ne
  | lt | le | gt | ge
  | add | sub
  | mul | div | mod
deriving DecidableEq

def BinaryOp.precedence : BinaryOp → Nat
  | .or => 1
  | .and => 2
  | .eq | .ne => 3
  | .lt | .le | .gt | .ge => 4
  | .add | .sub => 5
  | .mul | .div | .mod => 6

def BinaryOp.text : BinaryOp → Text
  | .or => [124, 124]
  | .and => [38, 38]
  | .eq => [61, 61]
  | .ne => [33, 61]
  | .lt => [60]
  | .le => [60, 61]
  | .gt => [62]
  | .ge => [62, 61]
  | .add => [43]
  | .sub => [45]
  | .mul => [42]
  | .div => [47]
  | .mod => [37]

inductive Symbol where
  | binary (operator : BinaryOp)
  | opening | closing | bang | question | colon | comma
deriving DecidableEq

def Symbol.text : Symbol → Text
  | .binary operator => operator.text
  | .opening => [40]
  | .closing => [41]
  | .bang => [33]
  | .question => [63]
  | .colon => [58]
  | .comma => [44]

inductive Token where
  | number (text : Text)
  | string (quote : Nat) (body value : Text)
  | name (word : Text)
  | symbol (symbol : Symbol)
  | finish
deriving DecidableEq

def Token.text : Token → Text
  | .number text => text
  | .string quote body _ => quote :: (body ++ [quote])
  | .name word => word
  | .symbol mark => mark.text
  | .finish => []

def symbols : List Symbol :=
  [.binary .and, .binary .or, .binary .eq, .binary .ne, .binary .le,
    .binary .ge, .binary .add, .binary .sub, .binary .mul, .binary .div,
    .binary .mod, .binary .lt, .binary .gt, .opening, .closing, .bang,
    .question, .colon, .comma]

def matchSymbol (text : Text) : Option Symbol := symbols.find? fun mark => mark.text.isPrefixOf text

/-- The lexeme at the head of a text without leading white space, and the
text behind it. -/
def readToken (text : Text) : Option (Token × Text) :=
  match text with
  | [] => some (.finish, [])
  | unit :: rest =>
    match matchNumber text with
    | some number =>
      if acceptsNumber number then some (.number number, text.drop number.length)
      else none
    | none =>
      if unit = 34 ∨ unit = 39 then
        (scanString unit rest).map fun scanned =>
          (.string unit scanned.body scanned.value, scanned.rest)
      else if isWordStart unit then
        some (.name (text.takeWhile isWord), text.drop (text.takeWhile isWord).length)
      else
        (matchSymbol text).map fun symbol => (.symbol symbol, text.drop symbol.text.length)

/-- The state of the parser: the lexeme under the cursor with its place, and
the text behind it. -/
structure Cursor where
  start : Nat
  token : Token
  stop : Nat
  rest : Text
deriving DecidableEq

def next (position : Nat) (text : Text) : Option Cursor :=
  let start := position + (text.takeWhile isSpace).length
  (readToken (text.dropWhile isSpace)).map fun (token, rest) =>
    ⟨start, token, start + token.text.length, rest⟩

def Cursor.advance (cursor : Cursor) : Option Cursor := next cursor.stop cursor.rest

/-! ## Number literals end where their pattern ends -/

/-- The text goes on with nothing that a number or a name would take in. -/
def Stops (rest : Text) : Prop := ∀ unit ∈ rest.head?, isWord unit = false ∧ unit ≠ 46

def ExponentShape (exponent : Text) : Prop :=
  exponent = [] ∨
    ∃ marker sign digits,
      exponent = marker :: (sign ++ digits) ∧
        (marker = 101 ∨ marker = 69) ∧
        (sign = [] ∨ sign = [43] ∨ sign = [45]) ∧
        digits ≠ [] ∧ ∀ unit ∈ digits, isDigit unit = true

def MantissaShape (mantissa : Text) : Prop :=
  ∃ whole, (∀ unit ∈ whole, isDigit unit = true) ∧
    ((mantissa = whole ∧ whole ≠ []) ∨
      ∃ fraction, (∀ unit ∈ fraction, isDigit unit = true) ∧
        mantissa = whole ++ 46 :: fraction ∧ ¬(whole = [] ∧ fraction = []))

variable {text : Text}

theorem isDigit_of_mem_takeWhile : ∀ unit ∈ text.takeWhile isDigit, isDigit unit = true :=
  fun _ member => List.mem_takeWhile_imp member

theorem exponentPart_shape (text : Text) : ExponentShape (exponentPart text) := by
  cases text with
  | nil => exact .inl rfl
  | cons unit rest =>
    by_cases marker : unit = 101 ∨ unit = 69
    · by_cases empty : (rest.drop (signPart rest).length).takeWhile isDigit = []
      · exact .inl (by simp [exponentPart, marker, empty])
      · refine .inr ⟨unit, signPart rest, (rest.drop (signPart rest).length).takeWhile isDigit,
          by simp [exponentPart, marker, empty], marker, ?_, empty,
          isDigit_of_mem_takeWhile⟩
        cases rest with
        | nil => exact .inl rfl
        | cons next more =>
          by_cases plus : next = 43
          · exact .inr (.inl (by simp [signPart, plus]))
          · by_cases minus : next = 45
            · exact .inr (.inr (by simp [signPart, minus]))
            · exact .inl (by simp [signPart, plus, minus])
    · exact .inl (by simp [exponentPart, marker])

theorem exponentPart_append (text : Text) : ∃ rest, text = exponentPart text ++ rest := by
  cases text with
  | nil => exact ⟨[], rfl⟩
  | cons unit rest =>
    by_cases marker : unit = 101 ∨ unit = 69
    · by_cases empty : (rest.drop (signPart rest).length).takeWhile isDigit = []
      · exact ⟨unit :: rest, by simp [exponentPart, marker, empty]⟩
      · have signed : rest = signPart rest ++ rest.drop (signPart rest).length := by
          cases rest with
          | nil => rfl
          | cons next more => by_cases sign : next = 43 ∨ next = 45 <;> simp [signPart, sign]
        refine ⟨(rest.drop (signPart rest).length).dropWhile isDigit, ?_⟩
        conv_lhs => rw [signed, ← List.takeWhile_append_dropWhile
          (p := isDigit) (l := rest.drop (signPart rest).length)]
        simp [exponentPart, marker, empty]
    · exact ⟨unit :: rest, by simp [exponentPart, marker]⟩

theorem mantissaPart_shape {mantissa : Text} (found : mantissaPart text = some mantissa) :
    MantissaShape mantissa ∧ ∃ rest, text = mantissa ++ rest := by
  have split := (List.takeWhile_append_dropWhile (p := isDigit) (l := text)).symm
  have digits : ∀ unit ∈ text.takeWhile isDigit, isDigit unit = true := isDigit_of_mem_takeWhile
  dsimp only [mantissaPart] at found
  generalize text.takeWhile isDigit = whole at found split digits
  generalize text.dropWhile isDigit = rest at found split
  cases rest with
  | nil =>
    by_cases empty : whole = []
    · simp [empty] at found
    · simp only [empty, if_false, Option.some.injEq] at found
      subst found
      exact ⟨⟨whole, digits, .inl ⟨rfl, empty⟩⟩, [], split⟩
  | cons unit more =>
    by_cases dot : unit = 46
    · by_cases bare : whole = [] ∧ more.takeWhile isDigit = []
      · simp [dot, bare] at found
      simp only [dot, if_true, bare, if_false, Option.some.injEq] at found
      subst found
      refine ⟨⟨whole, digits, .inr ⟨more.takeWhile isDigit, isDigit_of_mem_takeWhile, rfl, bare⟩⟩,
        more.dropWhile isDigit, ?_⟩
      rw [split, dot]
      simp [List.takeWhile_append_dropWhile]
    · by_cases empty : whole = []
      · simp [dot, empty] at found
      · simp only [dot, if_false, empty, Option.some.injEq] at found
        subst found
        exact ⟨⟨whole, digits, .inl ⟨rfl, empty⟩⟩, unit :: more, split⟩

theorem matchNumber_shape {number : Text} (found : matchNumber text = some number) :
    ∃ mantissa exponent rest,
      number = mantissa ++ exponent ∧ MantissaShape mantissa ∧
        ExponentShape exponent ∧ text = number ++ rest := by
  obtain ⟨mantissa, mantissaFound, numberEq⟩ := Option.map_eq_some_iff.1 found
  obtain ⟨shape, behind, textEq⟩ := mantissaPart_shape mantissaFound
  have behindEq : text.drop mantissa.length = behind := by rw [textEq, List.drop_left]
  obtain ⟨rest, exponentEq⟩ := exponentPart_append behind
  rw [behindEq] at numberEq
  refine ⟨mantissa, exponentPart behind, rest, numberEq.symm, shape, exponentPart_shape behind, ?_⟩
  rw [← numberEq, List.append_assoc, ← exponentEq, textEq]

variable {rest : Text}

theorem not_digit_of_stops (stops : Stops rest) : ∀ unit ∈ rest.head?, isDigit unit = false := by
  intro unit head
  have outside := (stops unit head).1
  simp only [isWord, Bool.or_eq_false_iff] at outside
  exact outside.2

theorem exponentPart_exact {exponent : Text} (shape : ExponentShape exponent) (stops : Stops rest) :
    exponentPart (exponent ++ rest) = exponent := by
  rcases shape with rfl | ⟨marker, sign, digits, rfl, markerEq, signEq, nonempty, allDigits⟩
  · cases rest with
    | nil => rfl
    | cons unit more =>
      have outside := (stops unit rfl).1
      have noMarker : ¬(unit = 101 ∨ unit = 69) := by
        rintro (rfl | rfl) <;> exact absurd outside (by decide)
      simp [exponentPart, noMarker]
  · have signPartEq : signPart (sign ++ digits ++ rest) = sign := by
      rcases signEq with rfl | rfl | rfl
      · obtain ⟨first, others, rfl⟩ := List.exists_cons_of_ne_nil nonempty
        have firstDigit := allDigits first (by simp)
        have unsigned : ¬(first = 43 ∨ first = 45) := by
          rintro (rfl | rfl) <;> exact absurd firstDigit (by decide)
        simp [signPart, unsigned]
      · simp [signPart]
      · simp [signPart]
    have digitsEq : ((sign ++ digits ++ rest).drop sign.length).takeWhile isDigit = digits := by
      rw [List.append_assoc, List.drop_left]
      exact takeWhile_run allDigits (not_digit_of_stops stops)
    have unfolded : marker :: (sign ++ digits) ++ rest = marker :: (sign ++ digits ++ rest) := rfl
    rw [unfolded, exponentPart, if_pos markerEq]
    simp only [signPartEq, digitsEq]
    rw [if_neg nonempty]

theorem mantissaPart_exact {mantissa : Text} (shape : MantissaShape mantissa)
    (outside : ∀ unit ∈ rest.head?, isDigit unit = false ∧ unit ≠ 46) :
    mantissaPart (mantissa ++ rest) = some mantissa := by
  obtain ⟨whole, allDigits, ⟨rfl, nonempty⟩ | ⟨fraction, fractionDigits, rfl, written⟩⟩ := shape
  · have wholeEq : (mantissa ++ rest).takeWhile isDigit = mantissa :=
      takeWhile_run allDigits fun unit head => (outside unit head).1
    have restEq : (mantissa ++ rest).dropWhile isDigit = rest :=
      dropWhile_run allDigits fun unit head => (outside unit head).1
    dsimp only [mantissaPart]
    rw [wholeEq, restEq]
    cases rest with
    | nil => simp [nonempty]
    | cons unit more => simp [nonempty, (outside unit rfl).2]
  · have wholeEq : (whole ++ 46 :: fraction ++ rest).takeWhile isDigit = whole := by
      rw [List.append_assoc]
      exact takeWhile_run allDigits (by simp [isDigit])
    have restEq :
        (whole ++ 46 :: fraction ++ rest).dropWhile isDigit = 46 :: (fraction ++ rest) := by
      rw [List.append_assoc]
      exact dropWhile_run allDigits (by simp [isDigit])
    have fractionEq : (fraction ++ rest).takeWhile isDigit = fraction :=
      takeWhile_run fractionDigits fun unit head => (outside unit head).1
    dsimp only [mantissaPart]
    rw [wholeEq, restEq]
    dsimp only
    rw [fractionEq, if_pos rfl, if_neg written]

theorem matchNumber_self {number : Text} (found : matchNumber text = some number) :
    matchNumber number = some number := by
  obtain ⟨mantissa, exponent, _, rfl, mantissaShape, exponentShape, _⟩ := matchNumber_shape found
  have nothing : Stops [] := by simp [Stops]
  have outside : ∀ unit ∈ exponent.head?, isDigit unit = false ∧ unit ≠ 46 := by
    intro unit head
    rcases exponentShape with rfl | ⟨marker, sign, digits, rfl, markerEq, _, _, _⟩
    · simp at head
    · simp only [List.head?_cons, Option.mem_def, Option.some.injEq] at head
      subst head
      rcases markerEq with rfl | rfl <;> exact ⟨by decide, by decide⟩
  have exponentEq := exponentPart_exact exponentShape nothing
  rw [List.append_nil] at exponentEq
  unfold matchNumber
  rw [mantissaPart_exact mantissaShape outside]
  simp [exponentEq]

/-- A scanned literal is the text it was scanned from, and it is scanned the
same whatever follows its closing quote. -/
def Closed (quote : Nat) (text : Text) (scanned : ScannedString) : Prop :=
  text = scanned.body ++ quote :: scanned.rest ∧
    ∀ more, scanString quote (scanned.body ++ quote :: more) = some { scanned with rest := more }

theorem closed_after {quote unit : Nat} {written : Text} {scanned : ScannedString}
    (step : ∀ more, scanString quote (written ++ more) =
      (scanString quote more).map (.after written unit))
    (closedRest : ∀ inner, scanString quote rest = some inner → Closed quote rest inner)
    (found : (scanString quote rest).map (.after written unit) = some scanned) :
    Closed quote (written ++ rest) scanned := by
  obtain ⟨inner, innerFound, rfl⟩ := Option.map_eq_some_iff.1 found
  obtain ⟨restEq, again⟩ := closedRest inner innerFound
  refine ⟨?_, fun more => ?_⟩
  · simp only [ScannedString.after, List.append_assoc]
    rw [← restEq]
  · have unfolded : (inner.after written unit).body ++ quote :: more =
          written ++ (inner.body ++ quote :: more) := by
      simp [ScannedString.after]
    rw [unfolded, step, again more]
    rfl

theorem scanString_closed {quote : Nat} {scanned : ScannedString}
    (found : scanString quote text = some scanned) :
    Closed quote text scanned := by
  fun_induction scanString quote text generalizing scanned with
  | case2 rest =>
    cases found
    exact ⟨rfl, fun more => by rw [scanString.eq_def]; simp⟩
  | case4 unit rest notQuote notBreak notEscape ih =>
    refine closed_after (fun more => ?_) (fun inner => ih) found
    have plain : ¬unit = 92 := notEscape
    rw [scanString.eq_def]
    simp [notQuote, notBreak, plain]
  | case6 unit notQuote _ escape escaped rest meant meantEq ih =>
    obtain rfl : unit = 92 := not_not.1 escape
    refine closed_after (fun more => ?_) (fun inner => ih) found
    rw [scanString.eq_def]
    simp [notQuote, meantEq]
  | case7 unit notQuote _ escape a b c d rest hex noSimple ih =>
    obtain rfl : unit = 92 := not_not.1 escape
    refine closed_after (fun more => ?_) (fun inner => ih) found
    have hexDigits : ((isHex a = true ∧ isHex b = true) ∧ isHex c = true) ∧ isHex d = true := by
      simpa [and_assoc] using hex
    rw [scanString.eq_def]
    simp [notQuote, noSimple, hexDigits]
  | case10 unit notQuote _ escape a b rest hex noSimple _ ih =>
    obtain rfl : unit = 92 := not_not.1 escape
    refine closed_after (fun more => ?_) (fun inner => ih) found
    have hexDigits : isHex a = true ∧ isHex b = true := by simpa using hex
    rw [scanString.eq_def]
    simp [notQuote, noSimple, hexDigits]
  | _ => cases found

def Token.Legal : Token → Prop
  | .number text => matchNumber text = some text ∧ acceptsNumber text = true
  | .string quote body value =>
    (quote = 34 ∨ quote = 39) ∧
      ∀ more, scanString quote (body ++ quote :: more) = some ⟨body, value, more⟩
  | .name word => (∃ unit ∈ word.head?, isWordStart unit = true) ∧ ∀ unit ∈ word, isWord unit = true
  | .symbol _ => True
  | .finish => True

theorem matchSymbol_text {mark : Symbol} (found : matchSymbol text = some mark) :
    ∃ rest, text = mark.text ++ rest := by
  have isPart := List.find?_some found
  obtain ⟨rest, textEq⟩ := List.isPrefixOf_iff_prefix.1 isPart
  exact ⟨rest, textEq.symm⟩

/-- A token is read from the text that it stands for. -/
theorem readToken_sound {token : Token} (read : readToken text = some (token, rest)) :
    text = token.text ++ rest ∧ token.Legal ∧ (token = .finish → rest = []) := by
  cases text with
  | nil =>
    cases read
    exact ⟨rfl, trivial, fun _ => rfl⟩
  | cons unit more =>
    simp only [readToken] at read
    split at read
    next number found =>
      split at read
      next accepted =>
        cases read
        obtain ⟨_, _, behind, _, _, _, textEq⟩ := matchNumber_shape found
        refine ⟨?_, ⟨matchNumber_self found, accepted⟩, nofun⟩
        simp only [Token.text]
        conv_lhs => rw [textEq]
        rw [textEq, List.drop_left]
      next => cases read
    next =>
      split at read
      next quoted =>
        obtain ⟨scanned, scannedEq, pairEq⟩ := Option.map_eq_some_iff.1 read
        cases pairEq
        obtain ⟨moreEq, again⟩ := scanString_closed scannedEq
        refine ⟨?_, ⟨quoted, again⟩, nofun⟩
        simp only [Token.text]
        rw [moreEq]
        simp
      next =>
        split at read
        next start =>
          cases read
          have isWordUnit : isWord unit = true := by simp [isWord, start]
          refine ⟨?_, ⟨⟨unit, ?_, start⟩, ?_⟩, nofun⟩
          · have isPart := List.takeWhile_prefix isWord (l := unit :: more)
            exact (List.prefix_iff_eq_append.1 isPart).symm
          · simp [isWordUnit]
          · exact fun _ member => List.mem_takeWhile_imp member
        next =>
          obtain ⟨mark, markEq, pairEq⟩ := Option.map_eq_some_iff.1 read
          cases pairEq
          obtain ⟨behind, textEq⟩ := matchSymbol_text markEq
          refine ⟨?_, trivial, nofun⟩
          simp only [Token.text]
          conv_lhs => rw [textEq]
          rw [textEq, List.drop_left]

def Blank (layout : Text) : Prop := ∀ unit ∈ layout, isSpace unit = true

theorem next_sound {position : Nat} {cursor : Cursor} (read : next position text = some cursor) :
    ∃ layout, Blank layout ∧ text = layout ++ (cursor.token.text ++ cursor.rest) ∧
      cursor.start = position + layout.length ∧
      cursor.stop = cursor.start + cursor.token.text.length ∧
      cursor.token.Legal ∧ (cursor.token = .finish → cursor.rest = []) := by
  obtain ⟨⟨token, rest⟩, tokenRead, rfl⟩ := Option.map_eq_some_iff.1 read
  obtain ⟨textEq, legal, finished⟩ := readToken_sound tokenRead
  refine ⟨text.takeWhile isSpace, fun _ member => List.mem_takeWhile_imp member,
    ?_, rfl, rfl, legal, finished⟩
  rw [← textEq, List.takeWhile_append_dropWhile]

end NewApi.Expression
