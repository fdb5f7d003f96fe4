import Mathlib.Data.List.Dedup
import Mathlib.Data.List.Sort

/-!
# Fair dispatch

Items wait in a list, each under a key.  A call takes the next keys after a
cursor, in cyclic order, a few items of each, and hands out their good ones by
turns: one of every key, then a second one of every key, and so on.  The cursor
moves to the key of the last item that was handed out.
-/

universe u

namespace FairDispatch

/-- After the cursor the keys above it come first, then the others. -/
def Before (cursor first second : Int) : Prop :=
  (cursor < first ∧ second ≤ cursor) ∨ ((cursor < first ↔ cursor < second) ∧ first < second)

instance (cursor first second : Int) : Decidable (Before cursor first second) :=
  inferInstanceAs (Decidable (_ ∨ _))

def afterCursor (cursor : Int) (keys : List Int) : List Int :=
  keys.filter (cursor < ·) ++ keys.filter (· ≤ cursor)

theorem mem_afterCursor {cursor key : Int} {keys : List Int} :
    key ∈ afterCursor cursor keys ↔ key ∈ keys := by
  simp only [afterCursor, List.mem_append, List.mem_filter, decide_eq_true_eq]
  constructor
  · rintro (⟨listed, -⟩ | ⟨listed, -⟩)
    · exact listed
    · exact listed
  · intro listed
    rcases lt_or_ge cursor key with above | below
    · exact Or.inl ⟨listed, above⟩
    · exact Or.inr ⟨listed, below⟩

theorem pairwise_afterCursor (cursor : Int) {keys : List Int} (ascending : keys.Pairwise (· < ·)) :
    (afterCursor cursor keys).Pairwise (Before cursor) := by
  rw [afterCursor, List.pairwise_append]
  refine ⟨?_, ?_, ?_⟩
  · refine (ascending.filter _).imp_of_mem ?_
    intro first second firstListed secondListed less
    have firstAbove := of_decide_eq_true (List.mem_filter.mp firstListed).2
    have secondAbove := of_decide_eq_true (List.mem_filter.mp secondListed).2
    exact Or.inr ⟨iff_of_true firstAbove secondAbove, less⟩
  · refine (ascending.filter _).imp_of_mem ?_
    intro first second firstListed secondListed less
    have firstBelow := of_decide_eq_true (List.mem_filter.mp firstListed).2
    have secondBelow := of_decide_eq_true (List.mem_filter.mp secondListed).2
    exact Or.inr ⟨iff_of_false (not_lt.mpr firstBelow) (not_lt.mpr secondBelow), less⟩
  · intro first firstListed second secondListed
    exact Or.inl ⟨of_decide_eq_true (List.mem_filter.mp firstListed).2,
      of_decide_eq_true (List.mem_filter.mp secondListed).2⟩

/-! ## Taking turns -/

section Turns

variable {α : Type u}

/-- One item of every bucket, then a second one of every bucket, and so on,
until there is no room.  Every turn but the last hands out something, so there
are at most as many as there is room. -/
def takeTurns : (turns room : Nat) → List (List α) → List α
  | 0, _, _ => []
  | turns + 1, room, buckets =>
    let heads := (buckets.filterMap List.head?).take room
    if heads.isEmpty then []
    else
      heads ++ takeTurns turns (room - heads.length) (buckets.map List.tail)

/-- `takeTurns` with as many turns as there is room. -/
def interleave (room : Nat) (buckets : List (List α)) : List α := takeTurns room room buckets

theorem takeTurns_filter (turns room : Nat) (buckets : List (List α)) :
    takeTurns turns room (buckets.filter fun bucket => !bucket.isEmpty) =
      takeTurns turns room buckets := by
  have heads : ∀ buckets : List (List α),
      (buckets.filter fun bucket => !bucket.isEmpty).filterMap List.head? =
        buckets.filterMap List.head? := by
    intro buckets
    induction buckets with
    | nil => rfl
    | cons bucket rest ih =>
      cases bucket with
      | nil => simpa [List.filterMap_cons] using ih
      | cons item items => simpa [List.filterMap_cons] using ih
  have tails : ∀ buckets : List (List α),
      ((buckets.filter fun bucket => !bucket.isEmpty).map List.tail).filter
          (fun bucket => !bucket.isEmpty) =
        (buckets.map List.tail).filter fun bucket => !bucket.isEmpty := by
    intro buckets
    induction buckets with
    | nil => rfl
    | cons bucket rest ih =>
      cases bucket with
      | nil => simpa using ih
      | cons item items => simp [List.filter_cons, ih]
  induction turns generalizing room buckets with
  | zero => rfl
  | succ turns ih =>
    simp only [takeTurns, heads]
    rw [← ih _ (List.map _ (List.filter _ _)), tails, ih]

variable {key : α → Int} {cursor : Int} {keys : List Int} {bucket : Int → List α}

theorem before_ne {first second : Int} (before : Before cursor first second) : first ≠ second := by
  unfold Before at before
  omega

theorem before_asymm {first second : Int}
    (before : Before cursor first second) : ¬ Before cursor second first := by
  unfold Before at before ⊢
  omega

theorem key_of_head (keyed : ∀ name ∈ keys, ∀ item ∈ bucket name,
      key item = name) {room : Nat} {item : α}
    (listed : item ∈ (keys.filterMap fun name => (bucket name).head?).take
      room) : key item ∈ keys := by
  obtain ⟨name, named, head⟩ := List.mem_filterMap.mp (List.mem_of_mem_take listed)
  rw [keyed name named item (List.mem_of_mem_head? head)]
  exact named

theorem turn_shares (cyclic : keys.Pairwise (Before cursor))
    (keyed : ∀ name ∈ keys, ∀ item ∈ bucket name, key item = name) (room : Nat)
    (nonempty : (keys.filterMap fun name => (bucket name).head?).take room ≠ []) :
    ∃ last ∈ keys,
      ((keys.filterMap fun name => (bucket name).head?).take room).getLast?.map
        key = some last ∧ bucket last ≠ [] ∧
      ∀ name ∈ keys,
        ((keys.filterMap fun name => (bucket name).head?).take room).filter
            (fun item => key item = name) =
          (bucket name).take (if name = last ∨ Before cursor name last then 1 else 0) := by
  induction keys generalizing room with
  | nil => exact absurd (by simp) nonempty
  | cons first rest ih =>
    obtain ⟨firstBefore, restCyclic⟩ := List.pairwise_cons.mp cyclic
    have restKeyed : ∀ name ∈ rest, ∀ item ∈ bucket name, key item = name :=
      fun name named => keyed name (List.mem_cons_of_mem _ named)
    have noFirst : ∀ room, ((rest.filterMap fun name =>
        (bucket name).head?).take room).filter (fun item => key item = first) = [] := by
      intro room
      rw [List.filter_eq_nil_iff]
      intro item listed isFirst
      have named := key_of_head restKeyed listed
      rw [of_decide_eq_true isFirst] at named
      exact before_ne (firstBefore first named) rfl
    cases filled : bucket first with
    | nil =>
      simp only [List.filterMap_cons, filled, List.head?_nil] at nonempty ⊢
      obtain ⟨last, listed, isLast, lastFilled, shares⟩ := ih restCyclic restKeyed room nonempty
      refine ⟨last, List.mem_cons_of_mem _ listed, isLast, lastFilled, ?_⟩
      intro name named
      rcases List.mem_cons.mp named with rfl | later
      · rw [noFirst, filled, List.take_nil]
      · exact shares name later
    | cons item items =>
      simp only [List.filterMap_cons, filled, List.head?_cons] at nonempty ⊢
      cases room with
      | zero => exact absurd (List.take_zero ..) nonempty
      | succ room =>
        have isFirst : key item = first := keyed first
          (List.mem_cons_self ..) item (by rw [filled]; exact List.mem_cons_self ..)
        rw [List.take_succ_cons]
        by_cases alone : (rest.filterMap fun name => (bucket name).head?).take room = []
        · refine ⟨first, List.mem_cons_self .., ?_, by simp [filled], ?_⟩
          · simp [alone, isFirst]
          · intro name named
            rw [alone]
            rcases List.mem_cons.mp named with rfl | later
            · simp [isFirst, filled]
            · have isOther := before_ne (firstBefore name later)
              have notBefore := before_asymm (firstBefore name later)
              simp [isFirst, isOther, isOther.symm, notBefore]
        · obtain ⟨last, listed, isLast, lastFilled, shares⟩ := ih restCyclic restKeyed room alone
          refine ⟨last, List.mem_cons_of_mem _ listed, ?_, lastFilled, ?_⟩
          · rw [List.getLast?_cons_of_ne_nil alone]
            exact isLast
          · intro name named
            rcases List.mem_cons.mp named with rfl | later
            · rw [List.filter_cons_of_pos (by simpa using isFirst),
                noFirst, if_pos (Or.inr (firstBefore last listed)), filled]
              rfl
            · have isOther := before_ne (firstBefore name later)
              rw [List.filter_cons_of_neg (by simpa [isFirst] using isOther)]
              exact shares name later

theorem takeTurns_zero (turns : Nat) (buckets : List (List α)) :
    takeTurns turns 0 buckets = [] := by
  cases turns with
  | zero => rfl
  | succ turns => simp [takeTurns]

/-- After any number of turns every bucket has given equally many items, but
for one more up to the bucket that comes last. -/
theorem takeTurns_shares (cyclic : keys.Pairwise (Before cursor))
    (keyed : ∀ name ∈ keys, ∀ item ∈ bucket name, key item = name) (turns room : Nat)
    (nonempty : takeTurns turns room (keys.map bucket) ≠ []) :
    ∃ share, ∃ last ∈ keys, (takeTurns turns room (keys.map bucket)).getLast?.map key = some last ∧
      share < (bucket last).length ∧
      ∀ name ∈ keys,
        (takeTurns turns room (keys.map bucket)).filter (fun item => key item = name) =
          (bucket name).take (share +
            if name = last ∨ Before cursor name last then 1 else 0) := by
  induction turns generalizing room bucket with
  | zero => exact absurd rfl nonempty
  | succ turns ih =>
    let heads := (keys.filterMap fun name => (bucket name).head?).take room
    let rest := takeTurns turns (room - heads.length) (keys.map fun name => (bucket name).tail)
    have unfolded : takeTurns (turns + 1) room (keys.map bucket) =
        if heads.isEmpty then [] else heads ++ rest := by
      simp only [takeTurns, List.filterMap_map, List.map_map, Function.comp_def, heads, rest]
    rw [unfolded] at nonempty ⊢
    have headsNonempty : heads ≠ [] := by
      rintro none
      simp [none] at nonempty
    rw [if_neg (by simpa using headsNonempty)]
    obtain ⟨first, firstListed, isFirst, firstFilled, firstShares⟩ :=
      turn_shares cyclic keyed room headsNonempty
    by_cases ended : rest = []
    · refine ⟨0, first, firstListed, ?_, ?_, ?_⟩
      · rw [ended, List.append_nil]
        exact isFirst
      · exact List.length_pos_iff.mpr firstFilled
      · intro name named
        rw [ended, List.append_nil, Nat.zero_add]
        exact firstShares name named
    · have tailKeyed : ∀ name ∈ keys, ∀ item ∈ (bucket name).tail,
          key item = name := fun name named item listed =>
        keyed name named item (List.mem_of_mem_tail listed)
      obtain ⟨share, last, lastListed, isLast, lastShare, shares⟩ :=
        ih tailKeyed (room - heads.length) ended
      -- There was room left after this turn, so it was a whole one.
      have whole : heads = keys.filterMap fun name => (bucket name).head? := by
        refine List.take_of_length_le ?_
        by_contra more
        have full : heads.length = room := by
          rw [List.length_take]
          omega
        refine ended ?_
        simp only [rest, full, Nat.sub_self, takeTurns_zero]
      have wholeTurn : ∀ name ∈ keys,
          heads.filter (fun item => key item = name) = (bucket name).take 1 := by
        intro name named
        rw [firstShares name named]
        split
        · rfl
        case isFalse after =>
          cases filled : bucket name with
          | nil => rfl
          | cons item items =>
            have listed : item ∈ heads := by
              rw [whole]
              refine List.mem_filterMap.mpr ⟨name, named, ?_⟩
              rw [filled, List.head?_cons]
            have isNamed : key item = name := keyed name named item (by
              rw [filled]
              exact List.mem_cons_self ..)
            have among : item ∈ heads.filter fun item =>
                key item = name :=
              List.mem_filter.mpr ⟨listed, decide_eq_true isNamed⟩
            rw [firstShares name named, if_neg after] at among
            simp at among
      refine ⟨share + 1, last, lastListed, ?_, ?_, ?_⟩
      · rw [List.getLast?_append_of_ne_nil _ ended]
        exact isLast
      · rw [List.length_tail] at lastShare
        omega
      · intro name named
        rw [List.filter_append, wholeTurn name named, shares name named]
        cases bucket name with
        | nil => simp
        | cons item items =>
          rw [Nat.add_right_comm, List.take_succ_cons]
          rfl

end Turns

/-! ## Queues -/

section Dispatch

variable {α : Type u} (key : α → Int) (good : α → Bool)

/-- The keys under which something waits, in ascending order. -/
def keysOf (waiting : List α) : List Int := (waiting.map key).dedup.insertionSort (· ≤ ·)

def perKey (limit count : Nat) : Nat := max 1 (limit / count + if limit % count = 0 then 0 else 1)

def bucketOf (waiting : List α) (share : Nat) (name : Int) : List α :=
  ((waiting.filter fun item => key item = name).take share).filter good

def dispatch (limit : Nat) (cursor : Int) (waiting : List α) : List α :=
  let names := (afterCursor cursor (keysOf key waiting)).take limit
  interleave limit (names.map (bucketOf key good waiting (perKey limit names.length)))

def goods (waiting : List α) (name : Int) : List α :=
  waiting.filter fun item => key item = name ∧ good item = true

def GoodFirst (waiting : List α) : Prop :=
  waiting.Pairwise fun first second =>
    key first = key second → good second = true → good first = true

variable {key good} {waiting : List α} {cursor : Int} {limit : Nat}

variable {name : Int} {item : α}

theorem mem_keysOf :
    name ∈ keysOf key waiting ↔ ∃ item ∈ waiting, key item = name := by
  rw [keysOf, List.mem_insertionSort, List.mem_dedup, List.mem_map]

theorem keysOf_ascending : (keysOf key waiting).Pairwise (· < ·) := by
  have sorted := List.pairwise_insertionSort (· ≤ ·) (waiting.map key).dedup
  have distinct : (keysOf key waiting).Nodup :=
    (List.perm_insertionSort (· ≤ ·) _).nodup_iff.mpr (List.nodup_dedup _)
  exact sorted.imp₂ (fun _ _ => lt_of_le_of_ne) distinct

theorem cyclic_names (key : α → Int) (cursor : Int) (waiting : List α) :
    (afterCursor cursor (keysOf key waiting)).Pairwise (Before cursor) :=
  pairwise_afterCursor cursor keysOf_ascending

theorem mem_goods :
    item ∈ goods key good waiting name ↔ item ∈ waiting ∧ key item = name ∧ good item = true := by
  rw [goods, List.mem_filter, decide_eq_true_eq]

theorem key_of_mem_bucketOf {share : Nat} (listed : item ∈ bucketOf key good waiting share name) :
    key item = name := by
  have taken := List.mem_of_mem_take (List.mem_filter.mp listed).1
  exact of_decide_eq_true (List.mem_filter.mp taken).2

theorem bucketOf_eq (goodFirst : GoodFirst key good waiting) (share : Nat)
    (name : Int) : bucketOf key good waiting share name =
      (goods key good waiting name).take share := by
  have sameKey : (waiting.filter fun item => key item = name).Pairwise
      fun first second => good second = true → good first = true := by
    refine (goodFirst.filter _).imp_of_mem ?_
    intro first second firstListed secondListed ordered
    refine ordered ?_
    rw [of_decide_eq_true (List.mem_filter.mp firstListed).2,
      of_decide_eq_true (List.mem_filter.mp secondListed).2]
  have ofGoods : goods key good waiting name =
      (waiting.filter fun item => key item = name).filter good := by
    rw [goods, List.filter_filter]
    congr 1
    funext item
    simp [Bool.and_comm]
  rw [bucketOf, ofGoods]
  generalize (waiting.filter fun item => key item = name) = items at sameKey
  induction items generalizing share with
  | nil => simp
  | cons item items ih =>
    obtain ⟨before, rest⟩ := List.pairwise_cons.mp sameKey
    cases share with
    | zero => simp
    | succ share =>
      cases isGood : good item with
      | true => simp [List.take_succ_cons, isGood, ih share rest]
      | false =>
        have noGood : items.filter good = [] := by
          rw [List.filter_eq_nil_iff]
          intro other listed otherGood
          rw [before other listed otherGood] at isGood
          cases isGood
        have noneTaken : (items.take share).filter good = [] := by
          rw [ih share rest, noGood, List.take_nil]
        simp [List.take_succ_cons, isGood, noGood, noneTaken]

theorem mem_bucket_of_mem_takeTurns {names : List Int} {bucket : Int → List α} {turns room : Nat}
    (listed : item ∈ takeTurns turns room (names.map bucket)) :
    ∃ name ∈ names, item ∈ bucket name := by
  induction turns generalizing room bucket with
  | zero => cases listed
  | succ turns ih =>
    simp only [takeTurns] at listed
    split at listed
    · cases listed
    rcases List.mem_append.mp listed with head | later
    · obtain ⟨items, filled, isHead⟩ := List.mem_filterMap.mp (List.mem_of_mem_take head)
      obtain ⟨name, named, rfl⟩ := List.mem_map.mp filled
      exact ⟨name, named, List.mem_of_mem_head? isHead⟩
    · rw [List.map_map] at later
      obtain ⟨name, named, tail⟩ := ih later
      exact ⟨name, named, List.mem_of_mem_tail tail⟩

theorem mem_of_mem_dispatch (listed : item ∈ dispatch key good limit cursor waiting) :
    item ∈ waiting ∧ good item = true ∧
      key item ∈ (afterCursor cursor (keysOf key waiting)).take limit := by
  obtain ⟨name, named, inBucket⟩ := mem_bucket_of_mem_takeTurns listed
  have ofKey := key_of_mem_bucketOf inBucket
  obtain ⟨taken, isGood⟩ := List.mem_filter.mp inBucket
  have waits := (List.mem_filter.mp (List.mem_of_mem_take taken)).1
  exact ⟨waits, isGood, ofKey ▸ named⟩

/-- A key that is not looked at although something waits under it comes after
all that are, and only one item of each is looked at. -/
theorem after_of_not_mem_window {last : Int} (waits : name ∈ keysOf key waiting)
    (unseen : name ∉ (afterCursor cursor (keysOf key waiting)).take limit)
    (seen : last ∈ (afterCursor cursor (keysOf key waiting)).take limit) :
    Before cursor last name ∧
      ((afterCursor cursor (keysOf key waiting)).take limit).length = limit := by
  have listed : name ∈ afterCursor cursor (keysOf key waiting) := mem_afterCursor.mpr waits
  rw [← List.take_append_drop limit (afterCursor cursor (keysOf key waiting)),
    List.mem_append] at listed
  have later := listed.resolve_left unseen
  have cyclic := cyclic_names key cursor waiting
  rw [← List.take_append_drop limit (afterCursor cursor (keysOf key waiting)),
    List.pairwise_append] at cyclic
  refine ⟨cyclic.2.2 last seen name later, ?_⟩
  rw [List.length_take]
  have longer := List.length_pos_of_mem later
  rw [List.length_drop] at longer
  omega

theorem perKey_self (limit : Nat) : perKey limit limit = 1 := by
  unfold perKey
  rcases Nat.eq_zero_or_pos limit with rfl | positive
  · rfl
  · rw [Nat.div_self positive, Nat.mod_self]
    rfl

/-- Every key has given the same number of good items, but for one more up to
the key of the last item. -/
theorem dispatch_shares (goodFirst : GoodFirst key good waiting)
    (nonempty : dispatch key good limit cursor waiting ≠ []) :
    ∃ share last, (dispatch key good limit cursor waiting).getLast?.map key = some last ∧
      last ∈ keysOf key waiting ∧
      share < (goods key good waiting last).length ∧
      ∀ name, (dispatch key good limit cursor waiting).filter (fun item => key item = name) =
        (goods key good waiting name).take (share +
          if name = last ∨ Before cursor name last then 1 else 0) := by
  let names := (afterCursor cursor (keysOf key waiting)).take limit
  let each := perKey limit names.length
  have cyclic : names.Pairwise (Before cursor) :=
    (cyclic_names key cursor waiting).sublist (List.take_sublist _ _)
  have keyed : ∀ name ∈ names, ∀ item ∈ bucketOf key good waiting each name,
      key item = name := fun _ _ _ => key_of_mem_bucketOf
  obtain ⟨share, last, seen, isLast, below, shares⟩ :=
    takeTurns_shares cyclic keyed limit limit nonempty
  have atMost : share < each := by
    have bound : (bucketOf key good waiting each last).length ≤ each := by
      rw [bucketOf_eq goodFirst]
      exact List.length_take_le _ _
    omega
  refine ⟨share, last, isLast, ?_, ?_, ?_⟩
  · exact mem_afterCursor.mp (List.mem_of_mem_take seen)
  · rw [bucketOf_eq goodFirst, List.length_take] at below
    omega
  · intro name
    by_cases isSeen : name ∈ names
    · refine (shares name isSeen).trans ?_
      rw [bucketOf_eq goodFirst, List.take_take]
      congr 1
      split <;> omega
    · have nothing : (dispatch key good limit cursor waiting).filter
          (fun item => key item = name) = [] := by
        rw [List.filter_eq_nil_iff]
        intro item listed isNamed
        rw [← of_decide_eq_true isNamed] at isSeen
        exact isSeen (mem_of_mem_dispatch listed).2.2
      rw [nothing]
      by_cases waits : name ∈ keysOf key waiting
      · obtain ⟨after, whole⟩ := after_of_not_mem_window waits isSeen seen
        have single : share = 0 := by
          have one : each = 1 := by simp only [each, names, whole, perKey_self]
          omega
        have isOther := (before_ne after).symm
        rw [single, if_neg (by
          rintro (same | before)
          · exact isOther same
          · exact before_asymm after before)]
        rfl
      · have none : goods key good waiting name = [] := by
          rw [goods, List.filter_eq_nil_iff]
          intro item listed isGood
          exact waits (mem_keysOf.mpr ⟨item, listed, (of_decide_eq_true isGood).1⟩)
        rw [none, List.take_nil]

end Dispatch

end FairDispatch
