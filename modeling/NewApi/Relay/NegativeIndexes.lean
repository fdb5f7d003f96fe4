import NewApi.Relay.JsonPaths

/-!
# Negative indexes in a path

`processNegativeIndex` replaces every `.-k` of a path by the index that counts
from the end of an array.  It finds the array by the text before the first place
where `-k` occurs in the path, and it replaces the first `.-k` that is left.
-/

namespace NewApi.Relay

def beforeFirst (part : List Char) : List Char → List Char
  | [] => []
  | char :: text =>
    if part <+: char :: text then [] else char :: beforeFirst part text

def replaceFirst (old new : List Char) : List Char → List Char
  | [] => []
  | char :: text =>
    if old <+: char :: text then new ++ (char :: text).drop old.length
    else char :: replaceFirst old new text

def indexAt : List Char → Option (List Char)
  | '-' :: text =>
    if text.takeWhile Char.isDigit = [] then none
    else some ('-' :: text.takeWhile Char.isDigit)
  | _ => none

def negativeIndexes : List Char → List (List Char)
  | [] => []
  | char :: text =>
    if char = '.' then (indexAt text).toList ++ negativeIndexes text
    else negativeIndexes text

def indexDepth (negIndex : List Char) : Nat := Nat.ofDigitChars 10 (negIndex.drop 1) 0

def arrayPath (path negIndex : List Char) : List Char :=
  let start := beforeFirst negIndex path
  if start.getLast? = some '.' then start.dropLast else start

def arrayLength : Option JsonValue → Option Nat
  | some (.array items) => some items.length
  | _ => none

section

variable (library : PathLibrary) (doc : JsonValue)

def actualIndex (path negIndex : List Char) : Option Nat :=
  (arrayLength (library.get doc (String.ofList (arrayPath path negIndex)))).bind
    fun length =>
      let index : Int := length - indexDepth negIndex
      if 0 ≤ index ∧ index < length then some index.toNat else none

def replaceIndex (path result negIndex : List Char) : List Char :=
  match actualIndex library doc path negIndex with
  | some index => replaceFirst ('.' :: negIndex) ('.' :: (toString index).toList) result
  | none => result

def processNegativeIndex (path : String) : String :=
  String.ofList
    ((negativeIndexes path.toList).foldl (replaceIndex library doc path.toList) path.toList)

end

def negativeIndex? (segment : String) : Option Nat :=
  if indexAt segment.toList = some segment.toList ∧
      0 < indexDepth segment.toList then
    some (indexDepth segment.toList)
  else none

/-- Every negative index counts from the end of the array that the resolved
segments before it reach; `none` where they reach no array of that depth. -/
def resolveIndexes (doc : JsonValue) :
    List String → List String → Option (List String)
  | _, [] => some []
  | before, segment :: segments =>
    match negativeIndex? segment with
    | none =>
      (resolveIndexes doc (before ++ [segment]) segments).map fun rest => segment :: rest
    | some depth =>
      (arrayLength (doc.get before)).bind fun length =>
        if depth ≤ length then
          (resolveIndexes doc (before ++ [toString (length - depth)])
            segments).map fun rest => toString (length - depth) :: rest
        else none

/-- A segment that is no negative index but begins like one. -/
def looksNegative (segment : String) : Bool :=
  (negativeIndex? segment).isNone && (indexAt segment.toList).isSome

/-- Every negative index is counted in an array as long as its own.  A segment
that only begins like one is not replaced, and no later index is a part of it. -/
def CountsInOwnArray (library : PathLibrary) (doc : JsonValue) (path : String) :
    List String → List String → Prop
  | _, [] => True
  | before, segment :: segments =>
    match negativeIndex? segment with
    | none =>
      (∀ text, indexAt segment.toList = some text →
        actualIndex library doc path.toList text = none ∧
          ∀ later ∈ segments, negativeIndex? later ≠ none → ¬later.toList <+: segment.toList) ∧
        CountsInOwnArray library doc path (before ++ [segment]) segments
    | some depth =>
      ∀ length, arrayLength (doc.get before) = some length →
        arrayLength (library.get doc
            (String.ofList (arrayPath path.toList segment.toList))) =
          some length ∧
          CountsInOwnArray library doc path (before ++ [toString (length - depth)]) segments

def IndexesCountInOwnArrays (library : PathLibrary) (doc : JsonValue) (path : String) : Prop :=
  match pathSegments path with
  | [] => True
  | first :: segments =>
    negativeIndex? first = none ∧ CountsInOwnArray library doc path [first] segments

/-! ## The loop on segments -/

def dotted (segments : List (List Char)) : List Char :=
  segments.flatMap fun segment => '.' :: segment

@[simp]
theorem dotted_cons (segment : List Char) (segments : List (List Char)) :
    dotted (segment :: segments) = '.' :: (segment ++ dotted segments) :=
  rfl

theorem intercalate_dotted (first : List Char) (segments : List (List Char)) :
    ['.'].intercalate (first :: segments) = first ++ dotted segments := by
  induction segments generalizing first with
  | nil => simp [dotted]
  | cons segment segments ih =>
    rw [List.intercalate_cons_cons, ih, dotted_cons]
    simp

theorem indexAt_cons_of_ne {char : Char} (different : char ≠ '-') (text : List Char) :
    indexAt (char :: text) = none := by
  unfold indexAt
  split
  case h_1 heading => exact absurd (List.cons.inj heading).1 different
  case h_2 => rfl

theorem takeWhile_append_dotted (segment : List Char) (segments : List (List Char)) :
    (segment ++ dotted segments).takeWhile Char.isDigit = segment.takeWhile Char.isDigit := by
  have stops : (dotted segments).takeWhile Char.isDigit = [] := by cases segments <;> rfl
  rw [List.takeWhile_append, stops, List.append_nil]
  split
  case isTrue whole => exact ((List.takeWhile_prefix Char.isDigit).eq_of_length whole).symm
  · rfl

theorem indexAt_append_dotted (segment : List Char) (segments : List (List Char)) :
    indexAt (segment ++ dotted segments) = indexAt segment := by
  cases segment with
  | nil => cases segments <;> rfl
  | cons char segment =>
    by_cases dash : char = '-'
    · subst dash
      simp only [List.cons_append, indexAt, takeWhile_append_dotted]
    · rw [List.cons_append, indexAt_cons_of_ne dash, indexAt_cons_of_ne dash]

theorem negativeIndexes_append {start : List Char} (noDots : '.' ∉ start) (text : List Char) :
    negativeIndexes (start ++ text) = negativeIndexes text := by
  induction start with
  | nil => rfl
  | cons char start ih =>
    have notDot : char ≠ '.' := fun same => noDots (by simp [same])
    rw [List.cons_append, negativeIndexes, if_neg notDot]
    exact ih fun member => noDots (List.mem_cons_of_mem _ member)

variable {segments : List (List Char)}

theorem negativeIndexes_dotted (noDots : ∀ segment ∈ segments, '.' ∉ segment) :
    negativeIndexes (dotted segments) = segments.filterMap indexAt := by
  induction segments with
  | nil => rfl
  | cons segment segments ih =>
    have rest := ih fun other member => noDots other (List.mem_cons_of_mem _ member)
    rw [dotted_cons, negativeIndexes, if_pos rfl, indexAt_append_dotted,
      negativeIndexes_append (noDots segment List.mem_cons_self), rest]
    cases found : indexAt segment with
    | none => rw [List.filterMap_cons_none found]; rfl
    | some text => rw [List.filterMap_cons_some found]; rfl

def replaceStart (old new : List Char) : List (List Char) → List (List Char)
  | [] => []
  | segment :: segments =>
    if old <+: segment then (new ++ segment.drop old.length) :: segments
    else segment :: replaceStart old new segments

variable {old : List Char}

theorem prefix_append_dotted_iff (noDots : '.' ∉ old) (segment : List Char)
    (segments : List (List Char)) :
    old <+: segment ++ dotted segments ↔ old <+: segment := by
  constructor
  · intro starts
    rcases List.prefix_or_prefix_of_prefix starts
        (List.prefix_append segment _) with shorter | ⟨rest, rfl⟩
    · exact shorter
    · -- What is left of the text would start with the dot.
      have begins : rest <+: dotted segments := (List.prefix_append_right_inj segment).mp starts
      cases rest with
      | nil => rw [List.append_nil]
      | cons char rest =>
        cases segments with
        | nil => cases List.prefix_nil.mp begins
        | cons next segments =>
          rw [(List.cons_prefix_cons.mp begins).1] at noDots
          exact absurd (List.mem_append_right segment List.mem_cons_self) noDots
  · intro starts
    exact starts.trans (List.prefix_append _ _)

theorem replaceFirst_append {start : List Char} (noDots : '.' ∉ start) (new text : List Char) :
    replaceFirst ('.' :: old) new (start ++ text) =
      start ++ replaceFirst ('.' :: old) new text := by
  induction start with
  | nil => rfl
  | cons char start ih =>
    have notHere : ¬('.' :: old) <+: char :: (start ++ text) := by
      intro starts
      exact noDots ((List.cons_prefix_cons.mp starts).1 ▸ List.mem_cons_self)
    rw [List.cons_append, replaceFirst, if_neg notHere, List.cons_append,
      ih fun member => noDots (List.mem_cons_of_mem _ member)]

theorem replaceFirst_dotted (noDot : '.' ∉ old) (new : List Char)
    (noDots : ∀ segment ∈ segments, '.' ∉ segment) :
    replaceFirst ('.' :: old) ('.' :: new) (dotted segments) =
      dotted (replaceStart old new segments) := by
  induction segments with
  | nil => rfl
  | cons segment segments ih =>
    rw [dotted_cons, replaceFirst, replaceStart]
    by_cases starts : old <+: segment
    · have found : '.' :: old <+: '.' :: (segment ++ dotted segments) :=
        List.cons_prefix_cons.mpr
          ⟨rfl, (prefix_append_dotted_iff noDot segment segments).mpr starts⟩
      rw [if_pos found, if_pos starts, dotted_cons, List.length_cons, List.drop_succ_cons,
        List.drop_append_of_le_length starts.length_le]
      simp
    · have missing : ¬('.' :: old) <+: '.' :: (segment ++ dotted segments) := by
        intro found
        exact starts ((prefix_append_dotted_iff noDot segment segments).mp
          (List.cons_prefix_cons.mp found).2)
      rw [if_neg missing, if_neg starts, dotted_cons,
        replaceFirst_append (noDots segment List.mem_cons_self),
        ih fun other member => noDots other (List.mem_cons_of_mem _ member)]

variable {segment text : List Char}

theorem exists_of_indexAt (found : indexAt segment = some text) :
    ∃ tail, segment = '-' :: tail ∧ tail.takeWhile Char.isDigit ≠ [] ∧
      text = '-' :: tail.takeWhile Char.isDigit := by
  cases segment with
  | nil => cases found
  | cons char tail =>
    by_cases dash : char = '-'
    · subst dash
      rw [indexAt] at found
      by_cases empty : tail.takeWhile Char.isDigit = []
      · rw [if_pos empty] at found
        cases found
      · rw [if_neg empty] at found
        exact ⟨tail, rfl, empty, (Option.some.inj found).symm⟩
    · rw [indexAt_cons_of_ne dash] at found
      cases found

theorem prefix_of_indexAt (found : indexAt segment = some text) : text <+: segment := by
  obtain ⟨tail, rfl, -, rfl⟩ := exists_of_indexAt found
  exact List.cons_prefix_cons.mpr ⟨rfl, List.takeWhile_prefix _⟩

theorem indexAt_isSome_of_prefix {other : List Char} (found : indexAt segment = some text)
    (starts : text <+: other) : indexAt other ≠ none := by
  obtain ⟨tail, -, nonempty, rfl⟩ := exists_of_indexAt found
  obtain ⟨rest, rfl⟩ := starts
  obtain ⟨digit, digits, split⟩ := List.exists_cons_of_ne_nil nonempty
  have isDigit : digit.isDigit = true := by
    have member : digit ∈ tail.takeWhile Char.isDigit := by
      rw [split]
      exact List.mem_cons_self
    exact List.mem_takeWhile_imp member
  rw [split, List.cons_append, List.cons_append, indexAt,
    List.takeWhile_cons_of_pos isDigit, if_neg (List.cons_ne_nil _ _)]
  rintro ⟨⟩

theorem digits_of_number (number : Nat) :
    ∃ digit digits, (toString number).toList = digit :: digits ∧
      (digit :: digits).all Char.isDigit = true := by
  have chars : (toString number).toList = Nat.toDigits 10 number := Nat.toList_repr
  obtain ⟨digit, digits, split⟩ :=
    List.exists_cons_of_ne_nil (Nat.toDigits_ne_nil (n := number) (b := 10))
  refine ⟨digit, digits, chars.trans split, ?_⟩
  rw [← split, List.all_eq_true]
  intro char member
  exact Nat.isDigit_of_mem_toDigits (by decide) (by decide) member

theorem indexAt_number (number : Nat) (rest : List Char) :
    indexAt ((toString number).toList ++ rest) = none := by
  obtain ⟨digit, digits, split, areDigits⟩ := digits_of_number number
  rw [split, List.cons_append]
  refine indexAt_cons_of_ne ?_ _
  rintro rfl
  rw [List.all_cons, Bool.and_eq_true] at areDigits
  exact absurd areDigits.1 (by decide)

theorem number_noDots (number : Nat) : '.' ∉ (toString number).toList := by
  obtain ⟨digit, digits, split, areDigits⟩ := digits_of_number number
  rw [split]
  intro member
  exact absurd (List.all_eq_true.mp areDigits '.' member) (by decide)

theorem negativeIndex?_eq_some_iff {segment : String} {depth : Nat} :
    negativeIndex? segment = some depth ↔ indexAt segment.toList = some segment.toList ∧ 0 < depth ∧
        indexDepth segment.toList = depth := by
  unfold negativeIndex?
  split
  case isTrue holds =>
      constructor
      · intro same
        obtain rfl := Option.some.inj same
        exact ⟨holds.1, holds.2, rfl⟩
      · rintro ⟨-, -, rfl⟩
        rfl
  case isFalse fails =>
      constructor
      · rintro ⟨⟩
      · rintro ⟨whole, positive, rfl⟩
        exact absurd ⟨whole, positive⟩ fails

/-! ### The run of the loop -/

section Runs

variable (library : PathLibrary) (doc : JsonValue) (path : List Char)

def replaceStep (segments : List (List Char)) (text : List Char) :
    List (List Char) :=
  match actualIndex library doc path text with
  | some index => replaceStart text (toString index).toList segments
  | none => segments

def replacedSegment (segment : List Char) : List Char :=
  match indexAt segment with
  | some text =>
    match actualIndex library doc path text with
    | some index => (toString index).toList ++ segment.drop text.length
    | none => segment
  | none => segment

variable {library doc path}

variable {segments : List (List Char)}

theorem replaceStart_noDots {old new : List Char} (numberNoDots : '.' ∉ new)
    (noDots : ∀ segment ∈ segments, '.' ∉ segment) :
    ∀ segment ∈ replaceStart old new segments, '.' ∉ segment := by
  induction segments with
  | nil => exact noDots
  | cons head segments ih =>
    intro segment member
    rw [replaceStart] at member
    by_cases starts : old <+: head
    · rw [if_pos starts] at member
      rcases List.mem_cons.mp member with rfl | member
      · intro dot
        rcases List.mem_append.mp dot with dot | dot
        · exact numberNoDots dot
        · exact noDots head List.mem_cons_self (List.mem_of_mem_drop dot)
      · exact noDots segment (List.mem_cons_of_mem _ member)
    · rw [if_neg starts] at member
      rcases List.mem_cons.mp member with rfl | member
      · exact noDots segment List.mem_cons_self
      · exact ih (fun other there => noDots other (List.mem_cons_of_mem _ there)) segment member

theorem replaceStep_noDots (text : List Char) (noDots : ∀ segment ∈ segments, '.' ∉ segment) :
    ∀ segment ∈ replaceStep library doc path segments text, '.' ∉ segment := by
  unfold replaceStep
  split
  · exact replaceStart_noDots (number_noDots _) noDots
  · exact noDots

theorem replaceIndex_segments {first text : List Char}
    (firstNoDots : '.' ∉ first) (textNoDots : '.' ∉ text)
    (noDots : ∀ segment ∈ segments, '.' ∉ segment) :
    replaceIndex library doc path (first ++ dotted segments) text =
      first ++ dotted (replaceStep library doc path segments text) := by
  unfold replaceIndex replaceStep
  split
  · rw [replaceFirst_append firstNoDots, replaceFirst_dotted textNoDots _ noDots]
  · rfl

theorem replaceIndex_run {first : List Char} (firstNoDots : '.' ∉ first) {texts : List (List Char)}
    (textsNoDots : ∀ text ∈ texts, '.' ∉ text) (noDots : ∀ segment ∈ segments, '.' ∉ segment) :
    texts.foldl (replaceIndex library doc path) (first ++ dotted segments) =
      first ++ dotted (texts.foldl (replaceStep library doc path) segments) := by
  induction texts generalizing segments with
  | nil => rfl
  | cons text texts ih =>
    rw [List.foldl_cons, List.foldl_cons,
      replaceIndex_segments firstNoDots (textsNoDots text List.mem_cons_self) noDots]
    exact ih (fun other member => textsNoDots other (List.mem_cons_of_mem _ member))
      (replaceStep_noDots text noDots)

theorem replaceStart_append {old new segment : List Char} {before after : List (List Char)}
    (absent : ∀ other ∈ before, ¬old <+: other) (starts : old <+: segment) :
    replaceStart old new (before ++ segment :: after) =
      before ++ (new ++ segment.drop old.length) :: after := by
  induction before with
  | nil => rw [List.nil_append, replaceStart, if_pos starts, List.nil_append]
  | cons other before ih =>
    rw [List.cons_append, replaceStart, if_neg (absent other List.mem_cons_self), List.cons_append,
      ih fun item member => absent item (List.mem_cons_of_mem _ member)]

variable (library doc path)

/-- The index text of the later segment, if it is replaced, is not the start of
the earlier one. -/
def LeavesAlone (earlier later : List Char) : Prop :=
  ∀ text, indexAt later = some text → actualIndex library doc path text ≠ none → ¬text <+: earlier

variable {library doc path}

/-- Where no index text starts an earlier segment, every segment has its own
index text replaced. -/
theorem replaceStep_run {done todo : List (List Char)}
    (doneAlone : ∀ earlier ∈ done, ∀ later ∈ todo, LeavesAlone library doc path earlier later)
    (alone : todo.Pairwise fun earlier later =>
        LeavesAlone library doc path (replacedSegment library doc path earlier) later) :
    (todo.filterMap indexAt).foldl (replaceStep library doc path) (done ++ todo) =
      done ++ todo.map (replacedSegment library doc path) := by
  induction todo generalizing done with
  | nil => rfl
  | cons segment todo ih =>
    rw [List.pairwise_cons] at alone
    have nextAlone :
        ∀ earlier ∈ done ++ [replacedSegment library doc path segment],
          ∀ later ∈ todo, LeavesAlone library doc path earlier later := by
      intro earlier placed later member
      rcases List.mem_append.mp placed with placed | placed
      · exact doneAlone earlier placed later (List.mem_cons_of_mem _ member)
      · rw [List.mem_singleton.mp placed]
        exact alone.1 later member
    have rest := ih nextAlone alone.2
    rw [List.append_assoc, List.append_assoc, List.singleton_append, List.singleton_append] at rest
    rw [List.map_cons, ← rest]
    cases found : indexAt segment with
    | none =>
      rw [List.filterMap_cons_none found]
      simp only [replacedSegment, found]
    | some text =>
      rw [List.filterMap_cons_some found, List.foldl_cons]
      congr 1
      cases actual : actualIndex library doc path text with
      | none => simp only [replaceStep, replacedSegment, found, actual]
      | some index =>
        simp only [replaceStep, replacedSegment, found, actual]
        refine replaceStart_append ?_ (prefix_of_indexAt found)
        intro earlier member
        exact doneAlone earlier member segment List.mem_cons_self text
          found (by rw [actual]; rintro ⟨⟩)

theorem replaceStep_run_all
    (alone : segments.Pairwise fun earlier later =>
        LeavesAlone library doc path (replacedSegment library doc path earlier) later) :
    (segments.filterMap indexAt).foldl (replaceStep library doc path) segments =
      segments.map (replacedSegment library doc path) := by
  have none : ∀ earlier ∈ ([] : List (List Char)), ∀ later ∈ segments,
      LeavesAlone library doc path earlier later := by
    intro earlier member
    cases member
  exact replaceStep_run none alone

def countIndexes (segments : List (List Char)) : Nat :=
  segments.countP fun segment => (indexAt segment).isSome

theorem countIndexes_replaceStart (old : List Char) (number : Nat) (segments : List (List Char)) :
    countIndexes segments ≤
      countIndexes (replaceStart old (toString number).toList segments) + 1 := by
  induction segments with
  | nil => exact Nat.zero_le _
  | cons segment segments ih =>
    rw [replaceStart]
    unfold countIndexes at ih ⊢
    split
    · rw [List.countP_cons, List.countP_cons, indexAt_number]
      split <;> omega
    · rw [List.countP_cons, List.countP_cons]
      omega

theorem countIndexes_run (texts segments : List (List Char)) : countIndexes segments ≤
      countIndexes (texts.foldl (replaceStep library doc path) segments) +
        texts.countP fun text => (actualIndex library doc path text).isSome := by
  induction texts generalizing segments with
  | nil => exact Nat.le_add_right _ _
  | cons text texts ih =>
    have step : countIndexes segments ≤ countIndexes (replaceStep library doc path segments text) +
            if (actualIndex library doc path text).isSome = true then 1
            else 0 := by
      unfold replaceStep
      cases actualIndex library doc path text with
      | none => exact Nat.le_add_right _ _
      | some index => exact countIndexes_replaceStart text index segments
    have rest := ih (replaceStep library doc path segments text)
    rw [List.foldl_cons, List.countP_cons]
    omega

theorem replaced_of_run {final : List (List Char)}
    (ended : (segments.filterMap indexAt).foldl (replaceStep library doc path) segments = final)
    (noneLeft : countIndexes final = 0) :
    ∀ text ∈ segments.filterMap indexAt, actualIndex library doc path text ≠ none := by
  have counted := @countIndexes_run library doc path (segments.filterMap indexAt) segments
  rw [ended, noneLeft, Nat.zero_add, countIndexes, ← List.length_filterMap_eq_countP] at counted
  have all := List.countP_eq_length.mp (Nat.le_antisymm List.countP_le_length counted)
  intro text member
  exact Option.isSome_iff_ne_none.mp (all text member)

end Runs

/-! ## Resolved paths -/

section Resolved

variable {library : PathLibrary} {doc : JsonValue} {path : String}

variable {text : List Char}

theorem actualIndex_eq_some_iff {index : Nat} :
    actualIndex library doc path.toList text = some index ↔
      ∃ length,
        arrayLength (library.get doc (String.ofList (arrayPath path.toList text))) = some length ∧
          0 < indexDepth text ∧ indexDepth text ≤ length ∧ index = length - indexDepth text := by
  unfold actualIndex
  rw [Option.bind_eq_some_iff]
  constructor
  · rintro ⟨length, found, inside⟩
    dsimp only at inside
    split at inside
    case isTrue within =>
        have same := Option.some.inj inside
        exact ⟨length, found, by omega, by omega, by omega⟩
    · cases inside
  · rintro ⟨length, found, positive, within, rfl⟩
    refine ⟨length, found, ?_⟩
    rw [if_pos (by omega)]
    congr 1
    omega

variable {segment : String}

theorem replacedSegment_negative {depth : Nat} (negative : negativeIndex? segment = some depth)
    {index : Nat} (actual : actualIndex library doc path.toList segment.toList = some index) :
    replacedSegment library doc path.toList segment.toList = (toString index).toList := by
  obtain ⟨whole, -, -⟩ := negativeIndex?_eq_some_iff.mp negative
  simp only [replacedSegment, whole, actual, List.drop_length, List.append_nil]

theorem replacedSegment_plain (plain : indexAt segment.toList = none) :
    replacedSegment library doc path.toList segment.toList = segment.toList := by
  simp only [replacedSegment, plain]

theorem replacedSegment_kept (found : indexAt segment.toList = some text)
    (kept : actualIndex library doc path.toList text = none) :
    replacedSegment library doc path.toList segment.toList = segment.toList := by
  simp only [replacedSegment, found, kept]

theorem notPrefix_number {segment : List Char} (found : indexAt segment = some text)
    (number : Nat) : ¬text <+: (toString number).toList := by
  intro starts
  have none := indexAt_number number []
  rw [List.append_nil] at none
  exact indexAt_isSome_of_prefix found starts none

variable {before segments out : List String}

theorem resolveIndexes_cons
    (resolved : resolveIndexes doc before (segment :: segments) = some out) :
    (negativeIndex? segment = none ∧
        ∃ rest, resolveIndexes doc (before ++ [segment]) segments = some rest ∧
          out = segment :: rest) ∨
      ∃ depth length rest, negativeIndex? segment = some depth ∧
        arrayLength (doc.get before) = some length ∧ depth ≤ length ∧
          resolveIndexes doc (before ++ [toString (length - depth)]) segments = some rest ∧
            out = toString (length - depth) :: rest := by
  rw [resolveIndexes] at resolved
  cases negative : negativeIndex? segment with
  | none =>
    simp only [negative] at resolved
    obtain ⟨rest, below, rfl⟩ := Option.map_eq_some_iff.mp resolved
    exact Or.inl ⟨rfl, rest, below, rfl⟩
  | some depth =>
    simp only [negative] at resolved
    obtain ⟨length, measured, inside⟩ := Option.bind_eq_some_iff.mp resolved
    by_cases within : depth ≤ length
    · rw [if_pos within] at inside
      obtain ⟨rest, below, rfl⟩ := Option.map_eq_some_iff.mp inside
      exact Or.inr ⟨depth, length, rest, rfl, measured, within, below, rfl⟩
    · rw [if_neg within] at inside
      cases inside

section

variable (resolved : resolveIndexes doc before segments = some out)
  (counts : CountsInOwnArray library doc path before segments)
include resolved counts

theorem replacedSegment_of_counts :
    (segments.map String.toList).map
        (replacedSegment library doc path.toList) = out.map String.toList := by
  induction segments generalizing before out with
  | nil =>
    rw [← Option.some.inj resolved]
    rfl
  | cons segment segments ih =>
    rcases resolveIndexes_cons resolved with
      ⟨negative, rest, below, rfl⟩ | ⟨depth, length, rest, negative, measured, within, below, rfl⟩
    · simp only [CountsInOwnArray, negative] at counts
      have tail := ih below counts.2
      rw [List.map_cons, List.map_cons, List.map_cons, tail]
      congr 1
      cases found : indexAt segment.toList with
      | none => exact replacedSegment_plain found
      | some text => exact replacedSegment_kept found (counts.1 text found).1
    · simp only [CountsInOwnArray, negative] at counts
      obtain ⟨own, countsBelow⟩ := counts length measured
      have tail := ih below countsBelow
      obtain ⟨whole, positive, value⟩ := negativeIndex?_eq_some_iff.mp negative
      have actual : actualIndex library doc path.toList segment.toList = some (length - depth) :=
        actualIndex_eq_some_iff.mpr ⟨length, own, by omega, by omega, by rw [value]⟩
      rw [List.map_cons, List.map_cons, List.map_cons, tail,
        replacedSegment_negative negative actual]

theorem kept_of_counts {later : String} (member : later ∈ segments)
    (notNegative : negativeIndex? later = none) (found : indexAt later.toList = some text) :
    actualIndex library doc path.toList text = none := by
  induction segments generalizing before out with
  | nil => cases member
  | cons segment segments ih =>
    rcases resolveIndexes_cons resolved with
      ⟨negative, rest, below, rfl⟩ | ⟨depth, length, rest, negative, measured, within, below, rfl⟩
    · simp only [CountsInOwnArray, negative] at counts
      rcases List.mem_cons.mp member with rfl | member
      · exact (counts.1 text found).1
      · exact ih below counts.2 member
    · simp only [CountsInOwnArray, negative] at counts
      rcases List.mem_cons.mp member with rfl | member
      · rw [notNegative] at negative
        cases negative
      · exact ih below (counts length measured).2 member

theorem leavesAlone_of_counts :
    (segments.map String.toList).Pairwise fun earlier later =>
      LeavesAlone library doc path.toList
        (replacedSegment library doc path.toList earlier) later := by
  induction segments generalizing before out with
  | nil => exact List.Pairwise.nil
  | cons segment segments ih =>
    rw [List.map_cons, List.pairwise_cons]
    rcases resolveIndexes_cons resolved with
      ⟨negative, rest, below, rfl⟩ | ⟨depth, length, rest, negative, measured, within, below, rfl⟩
    · simp only [CountsInOwnArray, negative] at counts
      refine ⟨?_, ih below counts.2⟩
      intro laterText placed text found replaced
      obtain ⟨later, member, rfl⟩ := List.mem_map.mp placed
      cases starting : indexAt segment.toList with
      | none =>
        rw [replacedSegment_plain starting]
        intro starts
        exact indexAt_isSome_of_prefix found starts starting
      | some own =>
        obtain ⟨kept, notStart⟩ := counts.1 own starting
        rw [replacedSegment_kept starting kept]
        have isNegative : negativeIndex? later ≠ none := by
          intro plain
          exact replaced (kept_of_counts below counts.2 member plain found)
        obtain ⟨laterDepth, laterNegative⟩ := Option.ne_none_iff_exists'.mp isNegative
        obtain ⟨whole, -, -⟩ := negativeIndex?_eq_some_iff.mp laterNegative
        obtain rfl := Option.some.inj (found.symm.trans whole)
        exact notStart later member isNegative
    · simp only [CountsInOwnArray, negative] at counts
      obtain ⟨own, countsBelow⟩ := counts length measured
      refine ⟨?_, ih below countsBelow⟩
      intro laterText placed text found _
      obtain ⟨-, positive, value⟩ := negativeIndex?_eq_some_iff.mp negative
      have actual : actualIndex library doc path.toList segment.toList = some (length - depth) :=
        actualIndex_eq_some_iff.mpr ⟨length, own, by omega, by omega, by rw [value]⟩
      rw [replacedSegment_negative negative actual]
      exact notPrefix_number found _

end

theorem counts_of_replaced (resolved : resolveIndexes doc before segments = some out)
    (noLooks : ∀ segment ∈ segments, looksNegative segment = false)
    (same :
      (segments.map String.toList).map
          (replacedSegment library doc path.toList) = out.map String.toList)
    (replaced : ∀ segment ∈ segments, negativeIndex? segment ≠ none →
        actualIndex library doc path.toList segment.toList ≠ none) :
    CountsInOwnArray library doc path before segments := by
  induction segments generalizing before out with
  | nil => trivial
  | cons segment segments ih =>
    have tailLooks : ∀ other ∈ segments, looksNegative other = false :=
      fun other member => noLooks other (List.mem_cons_of_mem _ member)
    have tailReplaced : ∀ other ∈ segments, negativeIndex? other ≠ none →
          actualIndex library doc path.toList other.toList ≠ none :=
      fun other member => replaced other (List.mem_cons_of_mem _ member)
    rcases resolveIndexes_cons resolved with
      ⟨negative, rest, below, rfl⟩ | ⟨depth, length, rest, negative, measured, within, below, rfl⟩
    · rw [List.map_cons, List.map_cons, List.map_cons] at same
      simp only [CountsInOwnArray, negative]
      refine ⟨?_, ih below tailLooks (List.cons.inj same).2 tailReplaced⟩
      intro text found
      have looks := noLooks segment List.mem_cons_self
      simp [looksNegative, negative, found] at looks
    · obtain ⟨headSame, tailSame⟩ := List.cons.inj same
      obtain ⟨index, actual⟩ := Option.ne_none_iff_exists'.mp
        (replaced segment List.mem_cons_self (by rw [negative]; rintro ⟨⟩))
      rw [replacedSegment_negative negative actual] at headSame
      have indexes : index = length - depth := by
        have values := congrArg (fun text => Nat.ofDigitChars 10 text 0) headSame
        have chars (number : Nat) : (toString number).toList = Nat.toDigits 10 number :=
          Nat.toList_repr
        simpa only [chars, Nat.ofDigitChars_ten_toDigits] using values
      obtain ⟨counted, own, positive, inside, value⟩ := actualIndex_eq_some_iff.mp actual
      obtain ⟨-, -, depthOf⟩ := negativeIndex?_eq_some_iff.mp negative
      simp only [CountsInOwnArray, negative]
      intro other otherMeasured
      obtain rfl := Option.some.inj (measured.symm.trans otherMeasured)
      have lengths : counted = length := by omega
      rw [lengths] at own
      exact ⟨own, ih below tailLooks tailSame tailReplaced⟩

/-- Where every index is replaced, no replacement meets an earlier segment. -/
theorem leavesAlone_of_replaced (noLooks : ∀ segment ∈ segments, looksNegative segment = false)
    (replaced :
      ∀ text ∈ (segments.map String.toList).filterMap indexAt,
        actualIndex library doc path.toList text ≠ none) :
    (segments.map String.toList).Pairwise fun earlier later =>
      LeavesAlone library doc path.toList
        (replacedSegment library doc path.toList earlier) later := by
  refine List.pairwise_of_forall_mem_list ?_
  intro earlier member later _ text found _ starts
  refine indexAt_isSome_of_prefix found starts ?_
  obtain ⟨segment, there, rfl⟩ := List.mem_map.mp member
  cases starting : indexAt segment.toList with
  | none => rw [replacedSegment_plain starting, starting]
  | some own =>
    have isNegative : (negativeIndex? segment).isSome = true := by
      simpa [looksNegative, starting] using noLooks segment there
    obtain ⟨depth, negative⟩ := Option.isSome_iff_exists.mp isNegative
    obtain ⟨whole, -, -⟩ := negativeIndex?_eq_some_iff.mp negative
    obtain ⟨index, actual⟩ := Option.ne_none_iff_exists'.mp
      (replaced segment.toList (List.mem_filterMap.mpr ⟨segment.toList, member, whole⟩))
    rw [replacedSegment_negative negative actual]
    simpa using indexAt_number index []

theorem noDots_resolved (resolved : resolveIndexes doc before segments = some out)
    (noDots : ∀ segment ∈ segments, '.' ∉ segment.toList) :
    ∀ segment ∈ out, '.' ∉ segment.toList := by
  induction segments generalizing before out with
  | nil =>
    rw [← Option.some.inj resolved]
    exact noDots
  | cons segment segments ih =>
    have tail : ∀ other ∈ segments, '.' ∉ other.toList :=
      fun other member => noDots other (List.mem_cons_of_mem _ member)
    intro other member
    rcases resolveIndexes_cons resolved with
      ⟨-, rest, below, rfl⟩ | ⟨depth, length, rest, -, -, -, below, rfl⟩
    · rcases List.mem_cons.mp member with rfl | member
      · exact noDots other List.mem_cons_self
      · exact ih below tail other member
    · rcases List.mem_cons.mp member with rfl | member
      · exact number_noDots _
      · exact ih below tail other member

/-- Where no segment looks like an index, no resolved segment begins with
one. -/
theorem countIndexes_resolved (resolved : resolveIndexes doc before segments = some out)
    (noLooks : ∀ segment ∈ segments, looksNegative segment = false) :
    countIndexes (out.map String.toList) = 0 := by
  induction segments generalizing before out with
  | nil =>
    rw [← Option.some.inj resolved]
    rfl
  | cons segment segments ih =>
    have tailLooks : ∀ other ∈ segments, looksNegative other = false :=
      fun other member => noLooks other (List.mem_cons_of_mem _ member)
    rcases resolveIndexes_cons resolved with
      ⟨negative, rest, below, rfl⟩ | ⟨depth, length, rest, -, -, -, below, rfl⟩
    · have none : indexAt segment.toList = none := by
        have looks := noLooks segment List.mem_cons_self
        simpa [looksNegative, negative] using looks
      have tail := ih below tailLooks
      unfold countIndexes at tail ⊢
      rw [List.map_cons, List.countP_cons, tail, none]
      rfl
    · have none := indexAt_number (length - depth) []
      rw [List.append_nil] at none
      have tail := ih below tailLooks
      unfold countIndexes at tail ⊢
      rw [List.map_cons, List.countP_cons, tail, none]
      rfl

end Resolved

/-! ## The paths that are resolved -/

theorem joinSegments_cons (first : String) (segments : List String) :
    joinSegments (first :: segments) =
      String.ofList (first.toList ++ dotted (segments.map String.toList)) := by
  rw [joinSegments, List.map_cons, intercalate_dotted]

theorem processNegativeIndex_eq (library : PathLibrary) (doc : JsonValue) {path first : String}
    {segments : List String} (split : pathSegments path = first :: segments) :
    processNegativeIndex library doc path =
      joinSegments (first ::
        (((segments.map String.toList).filterMap indexAt).foldl
          (replaceStep library doc path.toList)
            (segments.map String.toList)).map String.ofList) := by
  have noDots : ∀ segment ∈ first :: segments, '.' ∉ segment.toList := by
    intro segment member
    rw [← split] at member
    exact noDots_of_mem_pathSegments member
  have firstNoDots := noDots first List.mem_cons_self
  have partsNoDots : ∀ part ∈ segments.map String.toList, '.' ∉ part := by
    intro part member
    obtain ⟨segment, there, rfl⟩ := List.mem_map.mp member
    exact noDots segment (List.mem_cons_of_mem _ there)
  have textsNoDots : ∀ text ∈ (segments.map String.toList).filterMap indexAt, '.' ∉ text := by
    intro text member dot
    obtain ⟨part, there, found⟩ := List.mem_filterMap.mp member
    exact partsNoDots part there ((prefix_of_indexAt found).subset dot)
  have chars : path.toList = first.toList ++ dotted (segments.map String.toList) := by
    conv_lhs => rw [← joinSegments_pathSegments path, split, joinSegments_cons]
    exact String.toList_ofList
  have texts : negativeIndexes path.toList = (segments.map String.toList).filterMap indexAt := by
    rw [chars, negativeIndexes_append firstNoDots, negativeIndexes_dotted partsNoDots]
  rw [joinSegments_cons, processNegativeIndex, texts]
  conv_lhs =>
    arg 1
    arg 2
    rw [chars]
  rw [replaceIndex_run firstNoDots textsNoDots partsNoDots, map_toList_ofList]

theorem replaceStep_noDots_run {library : PathLibrary} {doc : JsonValue} {path : List Char}
    (texts : List (List Char)) (noDots : ∀ segment ∈ segments, '.' ∉ segment) :
    ∀ segment ∈ texts.foldl (replaceStep library doc path) segments, '.' ∉ segment := by
  induction texts generalizing segments with
  | nil => exact noDots
  | cons text texts ih => exact ih (replaceStep_noDots text noDots)

theorem joinSegments_inj {left right : List String} (leftNonempty : left ≠ [])
    (rightNonempty : right ≠ []) (leftNoDots : ∀ segment ∈ left, '.' ∉ segment.toList)
    (rightNoDots : ∀ segment ∈ right, '.' ∉ segment.toList)
    (same : joinSegments left = joinSegments right) : left = right := by
  rw [← pathSegments_joinSegments leftNonempty leftNoDots, same,
    pathSegments_joinSegments rightNonempty rightNoDots]

section Paths

variable {library : PathLibrary} {doc : JsonValue} {path : String} {out : List String}

theorem resolved_of_counts (resolved : resolveIndexes doc [] (pathSegments path) = some out)
    (counts : IndexesCountInOwnArrays library doc path) :
    processNegativeIndex library doc path = joinSegments out := by
  obtain ⟨first, segments, split⟩ := List.exists_cons_of_ne_nil (pathSegments_ne_nil path)
  rw [IndexesCountInOwnArrays, split] at counts
  rw [split] at resolved
  obtain ⟨notNegative, countsBelow⟩ := counts
  rcases resolveIndexes_cons resolved with
    ⟨-, rest, below, rfl⟩ | ⟨depth, length, rest, negative, -, -, -, -⟩
  · rw [processNegativeIndex_eq library doc split,
      replaceStep_run_all (leavesAlone_of_counts below countsBelow),
      replacedSegment_of_counts below countsBelow, map_ofList_toList]
  · rw [notNegative] at negative
    cases negative

/-- Where no segment looks like an index without being one, a resolved path
satisfies the condition. -/
theorem counts_of_resolved (resolved : resolveIndexes doc [] (pathSegments path) = some out)
    (noLooks : ∀ segment ∈ (pathSegments path).tail, looksNegative segment = false)
    (same : processNegativeIndex library doc path = joinSegments out) :
    IndexesCountInOwnArrays library doc path := by
  obtain ⟨first, segments, split⟩ := List.exists_cons_of_ne_nil (pathSegments_ne_nil path)
  have noDots : ∀ segment ∈ first :: segments, '.' ∉ segment.toList := by
    intro segment member
    rw [← split] at member
    exact noDots_of_mem_pathSegments member
  rw [split] at resolved noLooks
  rw [List.tail_cons] at noLooks
  rw [IndexesCountInOwnArrays, split]
  have outNoDots := noDots_resolved resolved noDots
  rw [processNegativeIndex_eq library doc split] at same
  have ended :
      ∀ part ∈ ((segments.map String.toList).filterMap indexAt).foldl
          (replaceStep library doc path.toList) (segments.map String.toList),
        '.' ∉ part := by
    refine replaceStep_noDots_run _ ?_
    intro part member
    obtain ⟨segment, there, rfl⟩ := List.mem_map.mp member
    exact noDots segment (List.mem_cons_of_mem _ there)
  have equal := joinSegments_inj (List.cons_ne_nil _ _)
    (by
      rintro rfl
      rcases resolveIndexes_cons resolved with
        ⟨-, rest, -, empty⟩ | ⟨depth, length, rest, -, -, -, -, empty⟩
      · cases empty
      · cases empty)
    (by
      intro segment member
      rcases List.mem_cons.mp member with rfl | member
      · exact noDots segment List.mem_cons_self
      · obtain ⟨part, there, rfl⟩ := List.mem_map.mp member
        rw [String.toList_ofList]
        exact ended part there)
    outNoDots same
  rcases resolveIndexes_cons resolved with
    ⟨notNegative, rest, below, rfl⟩ | ⟨depth, length, rest, negative, -, -, -, rfl⟩
  · refine ⟨notNegative, ?_⟩
    have final := congrArg (List.map String.toList) (List.cons.inj equal).2
    rw [map_toList_ofList] at final
    have replaced := replaced_of_run (final.trans rfl) (countIndexes_resolved below noLooks)
    rw [replaceStep_run_all (leavesAlone_of_replaced noLooks replaced)] at final
    refine counts_of_replaced below noLooks final ?_
    intro segment there isNegative
    obtain ⟨depth, negative⟩ := Option.ne_none_iff_exists'.mp isNegative
    obtain ⟨whole, -, -⟩ := negativeIndex?_eq_some_iff.mp negative
    exact replaced segment.toList (List.mem_filterMap.mpr
      ⟨segment.toList, List.mem_map_of_mem there, whole⟩)
  · -- A path that begins with an index keeps it.
    have head := (List.cons.inj equal).1
    obtain ⟨whole, -, -⟩ := negativeIndex?_eq_some_iff.mp negative
    have none := indexAt_number (length - depth) []
    rw [List.append_nil, ← head, whole] at none
    cases none

end Paths

/-- A path whose indexes reach arrays is resolved if each index is counted in
its own array, and only then where no segment looks like an index without being
one. -/
theorem negative_indexes_resolved
    (library : PathLibrary) (doc : JsonValue) (path : String) (out : List String)
    (resolved : resolveIndexes doc [] (pathSegments path) = some out) :
    (IndexesCountInOwnArrays library doc path →
        processNegativeIndex library doc path = joinSegments out) ∧
      ((∀ segment ∈ (pathSegments path).tail, looksNegative segment = false) →
        processNegativeIndex library doc path = joinSegments out →
          IndexesCountInOwnArrays library doc path) :=
  ⟨resolved_of_counts resolved, counts_of_resolved resolved⟩

/-- One index at the end of a path. -/
theorem last_item_resolved :
    let doc : JsonValue := .object [("messages", .array [.null, .null])]
    processNegativeIndex PathLibrary.dotted doc "messages.-1" = "messages.1" := by
  intro doc
  have split : pathSegments "messages.-1" = ["messages", "-1"] := by decide
  have own :
      arrayLength (PathLibrary.dotted.get doc
        (String.ofList (arrayPath "messages.-1".toList "-1".toList))) = some 2 := by
    decide
  refine (negative_indexes_resolved PathLibrary.dotted doc "messages.-1"
    ["messages", "1"] (by rfl)).1 ?_
  rw [IndexesCountInOwnArrays, split]
  refine ⟨by decide, ?_⟩
  intro length measured
  obtain rfl := Option.some.inj measured
  exact ⟨own, trivial⟩

/-- Two last items of arrays of two and of three items. -/
theorem second_index_counts_in_first_array :
    let doc : JsonValue :=
      .object [("messages", .array [.null, .object [("content", .array [.null, .null, .null])]])]
    resolveIndexes doc [] (pathSegments "messages.-1.content.-1") =
        some ["messages", "1", "content", "2"] ∧
      processNegativeIndex PathLibrary.dotted doc "messages.-1.content.-1" =
          "messages.1.content.1" ∧
        joinSegments ["messages", "1", "content", "2"] ≠ "messages.1.content.1" := by
  refine ⟨by rfl, by decide, by decide⟩

end NewApi.Relay
