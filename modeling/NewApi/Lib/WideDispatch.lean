import NewApi.Lib.FairQueues

/-!
# Dispatch with a limit for every key

Where the limit is not below the number of keys, every call looks at every key,
and at more items of each the fewer keys there are.  Keys without bad items are
used up, so in the end the limit is shared by the keys that have some.
-/

universe u

namespace FairDispatch

variable {α : Type u} {key : α → Int} {good : α → Bool} {ident : α → Int} {limit : Nat}

def Ascending (ident : α → Int) (waiting : List α) : Prop :=
  waiting.Pairwise fun first second => ident first < ident second

theorem Ascending.distinct {waiting : List α} (ascending : Ascending ident waiting) :
    Distinct ident waiting :=
  List.pairwise_map.mpr (ascending.imp fun less => ne_of_lt less)

/-- The bad items of a key that are before an item. -/
def badsBefore (key : α → Int) (good : α → Bool) (ident : α → Int) (waiting : List α)
    (item : α) : List α :=
  waiting.filter fun other => good other = false ∧ key other = key item ∧ ident other < ident item

def badKeys (key : α → Int) (good : α → Bool) (waiting : List α) : List Int :=
  keysOf key (waiting.filter fun item => good item = false)

theorem mem_badKeys {waiting : List α} {name : Int} :
    name ∈ badKeys key good waiting ↔ ∃ item ∈ waiting, good item = false ∧ key item = name := by
  simp only [badKeys, mem_keysOf, List.mem_filter, decide_eq_true_eq, and_assoc]

theorem keysOf_nodup (key : α → Int) (waiting : List α) : (keysOf key waiting).Nodup :=
  keysOf_ascending.imp fun less => ne_of_lt less

theorem badKeys_subset (waiting : List α) :
    badKeys key good waiting ⊆ keysOf key waiting := by
  intro name listed
  obtain ⟨item, waits, -, named⟩ := mem_badKeys.mp listed
  exact mem_keysOf.mpr ⟨item, waits, named⟩

theorem badKeys_length_le (key : α → Int) (good : α → Bool) (waiting : List α) :
    (badKeys key good waiting).length ≤ (keysOf key waiting).length :=
  (List.subperm_of_subset (keysOf_nodup key _) (badKeys_subset waiting)).length_le

/-- In an ascending list the place of an item is the number of items before
it. -/
theorem mem_take_iff {items : List α} (ascending : Ascending ident items) {item : α}
    (listed : item ∈ items) (count : Nat) : item ∈ items.take count ↔
      (items.filter fun other => ident other < ident item).length < count := by
  induction items generalizing count with
  | nil => cases listed
  | cons first rest ih =>
    obtain ⟨least, restAscending⟩ := List.pairwise_cons.mp ascending
    cases count with
    | zero => simp
    | succ count =>
      rw [List.take_succ_cons, List.mem_cons]
      rcases List.mem_cons.mp listed with rfl | later
      · have none : (item :: rest).filter (fun other => ident other < ident item) = [] := by
          rw [List.filter_eq_nil_iff]
          intro other listed less
          have below := of_decide_eq_true less
          rcases List.mem_cons.mp listed with rfl | later
          · exact lt_irrefl _ below
          · exact lt_asymm below (least other later)
        rw [none]
        exact iff_of_true (Or.inl rfl) (Nat.succ_pos count)
      · have before := least item later
        have isOther : item ≠ first := fun same => lt_irrefl _ (same ▸ before)
        rw [List.filter_cons_of_pos (by simpa using before), List.length_cons,
          Nat.add_lt_add_iff_right, ← ih restAscending later]
        exact or_iff_right isOther

theorem lt_perKey_iff {count : Nat} (some : 1 ≤ count) (wide : count ≤ limit) (before : Nat) :
    before < perKey limit count ↔ before * count < limit := by
  have split := Nat.div_add_mod limit count
  have less := Nat.mod_lt limit some
  have atLeast : 1 ≤ limit / count := Nat.div_pos wide some
  rw [perKey, max_eq_right (by omega)]
  constructor
  · intro inside
    split at inside
    · have most : (before + 1) * count ≤ limit / count * count :=
        Nat.mul_le_mul_right count (by omega)
      have expands := Nat.add_mul before 1 count
      have swaps := Nat.mul_comm count (limit / count)
      omega
    · have most : before * count ≤ limit / count * count :=
        Nat.mul_le_mul_right count (by omega)
      have swaps := Nat.mul_comm count (limit / count)
      omega
  · intro below
    by_contra outside
    split at outside
    · have least : limit / count * count ≤ before * count :=
        Nat.mul_le_mul_right count (by omega)
      have swaps := Nat.mul_comm count (limit / count)
      omega
    · have least : (limit / count + 1) * count ≤ before * count :=
        Nat.mul_le_mul_right count (by omega)
      have expands := Nat.add_mul (limit / count) 1 count
      have swaps := Nat.mul_comm count (limit / count)
      omega

/-! ## One call -/

section Calls

variable {queue : Queue α}

structure Queue.Wide (key : α → Int) (ident : α → Int) (limit : Nat) (queue : Queue α) : Prop where
  ascending : Ascending ident queue.waiting
  wide : (keysOf key queue.waiting).length ≤ limit

theorem wide_next (isWide : queue.Wide key ident limit) :
    (queue.next key good ident limit).Wide key ident limit where
  ascending := isWide.ascending.sublist (next_sublist queue)
  wide := by
    refine le_trans (List.subperm_of_subset (keysOf_nodup key _) ?_).length_le isWide.wide
    intro name listed
    obtain ⟨item, waits, named⟩ := mem_keysOf.mp listed
    exact mem_keysOf.mpr ⟨item, (next_sublist queue).subset waits, named⟩

/-- Every call looks at every key. -/
theorem call_wide (isWide : queue.Wide key ident limit) :
    queue.call key good limit = interleave limit
      ((afterCursor queue.cursor (keysOf key queue.waiting)).map
        (bucketOf key good queue.waiting (perKey limit (keysOf key queue.waiting).length))) := by
  have sameLength : (afterCursor queue.cursor (keysOf key queue.waiting)).length =
      (keysOf key queue.waiting).length := by
    have perm : (afterCursor queue.cursor (keysOf key queue.waiting)).Perm
        (keysOf key queue.waiting) := by
      rw [List.perm_ext_iff_of_nodup ((cyclic_names key queue.cursor queue.waiting).imp before_ne)
        (keysOf_nodup key _)]
      exact fun _ => mem_afterCursor
    exact perm.length_eq
  have whole : (afterCursor queue.cursor (keysOf key queue.waiting)).take limit =
      afterCursor queue.cursor (keysOf key queue.waiting) :=
    List.take_of_length_le (sameLength ▸ isWide.wide)
  simp only [Queue.call, dispatch, whole, sameLength]

theorem mem_bucketOf_iff (ascending : Ascending ident queue.waiting) {item : α}
    (waits : item ∈ queue.waiting) (isGood : good item = true) (share : Nat) :
    item ∈ bucketOf key good queue.waiting share (key item) ↔
      ((queue.waiting.filter fun other => key other = key item).filter fun other =>
        ident other < ident item).length < share := by
  have listed : item ∈ queue.waiting.filter fun other => key other = key item :=
    List.mem_filter.mpr ⟨waits, decide_eq_true rfl⟩
  rw [← mem_take_iff (ascending.filter _) listed, bucketOf, List.mem_filter]
  exact and_iff_left isGood

theorem badsBefore_length_le (good : α → Bool) (item : α) :
    (badsBefore key good ident queue.waiting item).length ≤
      ((queue.waiting.filter fun other => key other = key item).filter fun other =>
        ident other < ident item).length := by
  rw [List.filter_filter, badsBefore]
  refine (List.monotone_filter_right _ ?_).length_le
  intro other isBad
  have before := (of_decide_eq_true isBad).2
  simp [before.1, before.2]

/-- A good item behind too many bad ones is not looked at. -/
theorem not_called_behind (isWide : queue.Wide key ident limit) {item : α}
    (waits : item ∈ queue.waiting) (isGood : good item = true)
    (behind : limit ≤ (badsBefore key good ident queue.waiting item).length *
      (badKeys key good queue.waiting).length) : item ∉ queue.call key good limit := by
  intro called
  rw [call_wide isWide] at called
  obtain ⟨name, -, inBucket⟩ := mem_bucket_of_mem_takeTurns called
  obtain rfl := key_of_mem_bucketOf inBucket
  have inside := lt_of_le_of_lt (badsBefore_length_le good item)
    ((mem_bucketOf_iff isWide.ascending waits isGood _).mp inBucket)
  have some : 1 ≤ (keysOf key queue.waiting).length :=
    List.length_pos_of_mem (mem_keysOf.mpr ⟨item, waits, rfl⟩)
  rw [lt_perKey_iff some isWide.wide] at inside
  have fewer := Nat.mul_le_mul_left (badsBefore key good ident queue.waiting item).length
    (badKeys_length_le key good queue.waiting)
  omega

/-- Of the good items of a key, one is only behind bad ones. -/
theorem exists_firstGood (ascending : Ascending ident queue.waiting) {item : α}
    (waits : item ∈ queue.waiting) (isGood : good item = true) :
    ∃ first ∈ queue.waiting, good first = true ∧ key first = key item ∧
      ((queue.waiting.filter fun other => key other = key first).filter fun other =>
        ident other < ident first).length ≤
          (badsBefore key good ident queue.waiting first).length := by
  cases ofKey : goods key good queue.waiting (key item) with
  | nil =>
    have listed : item ∈ goods key good queue.waiting (key item) :=
      mem_goods.mpr ⟨waits, rfl, isGood⟩
    rw [ofKey] at listed
    cases listed
  | cons first rest =>
    have least : Ascending ident (first :: rest) := by
      rw [← ofKey]
      exact ascending.filter _
    have listed : first ∈ goods key good queue.waiting (key item) := by
      rw [ofKey]
      exact List.mem_cons_self ..
    obtain ⟨firstWaits, sameKey, firstGood⟩ := mem_goods.mp listed
    refine ⟨first, firstWaits, firstGood, sameKey, ?_⟩
    rw [List.filter_filter, badsBefore, ← List.countP_eq_length_filter,
      ← List.countP_eq_length_filter]
    refine List.countP_mono_left ?_
    intro other otherWaits before
    rw [Bool.and_eq_true, decide_eq_true_eq, decide_eq_true_eq] at before
    refine decide_eq_true ⟨?_, before.2, before.1⟩
    by_contra otherGood
    have among : other ∈ first :: rest := by
      rw [← ofKey, mem_goods]
      exact ⟨otherWaits, before.2.trans sameKey, by simpa using otherGood⟩
    rcases List.mem_cons.mp among with rfl | later
    · exact lt_irrefl _ before.1
    · exact lt_asymm before.1 ((List.pairwise_cons.mp least).1 other later)

theorem call_of_bucket (isWide : queue.Wide key ident limit) (positive : 1 ≤ limit) {item : α}
    (listed : item ∈ bucketOf key good queue.waiting
      (perKey limit (keysOf key queue.waiting).length) (key item))
    (waits : item ∈ queue.waiting) : queue.call key good limit ≠ [] := by
  obtain ⟨room, rfl⟩ : ∃ room, limit = room + 1 := ⟨limit - 1, by omega⟩
  rw [call_wide isWide]
  have named : key item ∈ afterCursor queue.cursor (keysOf key queue.waiting) :=
    mem_afterCursor.mpr (mem_keysOf.mpr ⟨item, waits, rfl⟩)
  obtain ⟨head, rest, shape⟩ := List.exists_cons_of_ne_nil (List.ne_nil_of_mem listed)
  have heads : ((afterCursor queue.cursor (keysOf key queue.waiting)).map
      (bucketOf key good queue.waiting
        (perKey (room + 1) (keysOf key queue.waiting).length))).filterMap List.head? ≠ [] := by
    rw [List.filterMap_map]
    exact List.ne_nil_of_mem (List.mem_filterMap.mpr ⟨_, named, congrArg List.head? shape⟩)
  obtain ⟨first, others, isFirst⟩ := List.exists_cons_of_ne_nil heads
  simp [interleave, takeTurns, isFirst]

/-- Every good item has room behind the bad ones of its key, if the limit is
shared by the keys that have some. -/
def Queue.Roomy (key : α → Int) (good : α → Bool) (ident : α → Int) (limit : Nat)
    (queue : Queue α) : Prop :=
  ∀ item ∈ queue.waiting, good item = true →
    (badsBefore key good ident queue.waiting item).length *
      (badKeys key good queue.waiting).length < limit

/-- Either all keys have bad items, or one that has none is looked at. -/
theorem call_of_roomy (isWide : queue.Wide key ident limit)
    (roomy : queue.Roomy key good ident limit) (positive : 1 ≤ limit) {item : α}
    (waits : item ∈ queue.waiting) (isGood : good item = true) :
    queue.call key good limit ≠ [] := by
  have looksAt : ∀ item ∈ queue.waiting, good item = true →
      (∀ first ∈ queue.waiting, good first = true → key first = key item →
        (badsBefore key good ident queue.waiting first).length *
          (keysOf key queue.waiting).length < limit) →
      queue.call key good limit ≠ [] := by
    intro item waits isGood fits
    obtain ⟨first, firstWaits, firstGood, sameKey, before⟩ :=
      exists_firstGood isWide.ascending waits isGood
    refine call_of_bucket isWide positive ?_ firstWaits
    rw [mem_bucketOf_iff isWide.ascending firstWaits firstGood]
    have some : 1 ≤ (keysOf key queue.waiting).length :=
      List.length_pos_of_mem (mem_keysOf.mpr ⟨item, waits, rfl⟩)
    refine lt_of_le_of_lt before ((lt_perKey_iff some isWide.wide _).mpr ?_)
    exact fits first firstWaits firstGood sameKey
  by_cases allBad : keysOf key queue.waiting ⊆ badKeys key good queue.waiting
  · have same : (keysOf key queue.waiting).length ≤ (badKeys key good queue.waiting).length :=
      (List.subperm_of_subset (keysOf_nodup key _) allBad).length_le
    refine looksAt item waits isGood fun first firstWaits firstGood _ => ?_
    exact lt_of_le_of_lt (Nat.mul_le_mul_left _ same) (roomy first firstWaits firstGood)
  · obtain ⟨name, named, clean⟩ := Set.not_subset.mp allBad
    obtain ⟨other, otherWaits, rfl⟩ := mem_keysOf.mp named
    have allGood : ∀ third ∈ queue.waiting, key third = key other → good third = true := by
      intro third thirdWaits sameKey
      by_contra isBad
      exact clean (mem_badKeys.mpr ⟨third, thirdWaits, by simpa using isBad, sameKey⟩)
    refine looksAt other otherWaits (allGood other otherWaits rfl) fun first _ _ sameKey => ?_
    have none : badsBefore key good ident queue.waiting first = [] := by
      rw [badsBefore, List.filter_eq_nil_iff]
      intro third thirdWaits isBad
      obtain ⟨bad, ofKey, -⟩ := of_decide_eq_true isBad
      rw [allGood third thirdWaits (ofKey.trans sameKey)] at bad
      cases bad
    rw [none, List.length_nil, Nat.zero_mul]
    exact positive

/-! ## Runs -/

/-- Bad items never leave. -/
theorem filter_bad_next (limit : Nat) (distinct : Distinct ident queue.waiting) {keeps : α → Bool}
    (onlyBad : ∀ item, keeps item = true → good item = false) :
    (queue.next key good ident limit).waiting.filter keeps = queue.waiting.filter keeps := by
  rw [Queue.next, List.filter_filter]
  refine List.filter_congr fun item waits => ?_
  cases kept : keeps item with
  | false => rfl
  | true =>
    have goesOn : item ∈ (queue.next key good ident limit).waiting :=
      bad_waits distinct waits (onlyBad item kept) 1
    exact (List.mem_filter.mp goesOn).2

theorem badsBefore_next (limit : Nat) (distinct : Distinct ident queue.waiting) (item : α) :
    badsBefore key good ident (queue.next key good ident limit).waiting item =
      badsBefore key good ident queue.waiting item :=
  filter_bad_next limit distinct fun _ kept => (of_decide_eq_true kept).1

theorem badKeys_next (limit : Nat) (distinct : Distinct ident queue.waiting) :
    badKeys key good (queue.next key good ident limit).waiting =
      badKeys key good queue.waiting :=
  congrArg (keysOf key) (filter_bad_next limit distinct fun _ kept => of_decide_eq_true kept)

theorem roomy_next (isWide : queue.Wide key ident limit)
    (roomy : queue.Roomy key good ident limit) :
    (queue.next key good ident limit).Roomy key good ident limit := by
  intro item waits isGood
  rw [badsBefore_next limit isWide.ascending.distinct, badKeys_next limit isWide.ascending.distinct]
  exact roomy item ((next_sublist queue).subset waits) isGood

theorem behind_waits (isWide : queue.Wide key ident limit) {item : α}
    (waits : item ∈ queue.waiting) (isGood : good item = true)
    (behind : limit ≤ (badsBefore key good ident queue.waiting item).length *
      (badKeys key good queue.waiting).length) (calls : Nat) :
    item ∉ Queue.call key good limit ((Queue.next key good ident limit)^[calls] queue) := by
  induction calls generalizing queue with
  | zero => exact not_called_behind isWide waits isGood behind
  | succ calls ih =>
    have distinct := isWide.ascending.distinct
    rw [Function.iterate_succ_apply]
    refine ih (wide_next isWide) ?_ ?_
    · exact (mem_next limit distinct).mpr
        ⟨waits, not_called_behind isWide waits isGood behind⟩
    · rw [badsBefore_next limit distinct, badKeys_next limit distinct]
      exact behind

/-- With a limit for every key, the calls serve all good items exactly where
each has room behind the bad ones of its key. -/
theorem serves_iff_roomy (isWide : queue.Wide key ident limit) (positive : 1 ≤ limit) :
    queue.Serves key good ident limit ↔ queue.Roomy key good ident limit := by
  constructor
  · intro serves item waits isGood
    by_contra behind
    obtain ⟨calls, called⟩ := serves item waits isGood
    exact behind_waits isWide waits isGood (not_lt.mp behind) calls called
  · intro roomy
    let Holds (queue : Queue α) : Prop :=
      queue.Wide key ident limit ∧ queue.Roomy key good ident limit
    have distinct : ∀ {queue : Queue α}, Holds queue → Distinct ident queue.waiting :=
      fun holds => holds.1.ascending.distinct
    exact serves_of_progress distinct
      (fun holds _ waits isGood => call_of_roomy holds.1 holds.2 positive waits isGood)
      (fun holds _ => ⟨wide_next holds.1, roomy_next holds.1 holds.2⟩) ⟨isWide, roomy⟩

end Calls

end FairDispatch
