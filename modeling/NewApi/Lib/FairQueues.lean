import NewApi.Lib.FairDispatch

/-!
# Repeated dispatch

Items that have been handed out leave the queue, and calls go on until there is
nothing to hand out.  An item that is looked at but not good stays where it is,
and may be looked at for ever.
-/

universe u v

namespace FairDispatch

open List.Nodup

variable {α : Type u} {ι : Type v} [DecidableEq ι]

structure Queue (α : Type u) where
  waiting : List α
  cursor : Int

section Calls

variable (key : α → Int) (good : α → Bool) (ident : α → ι) (limit : Nat)

def Queue.call (queue : Queue α) : List α := dispatch key good limit queue.cursor queue.waiting

def Queue.next (queue : Queue α) : Queue α where
  waiting := queue.waiting.filter fun item => ident item ∉ (queue.call key good limit).map ident
  cursor := ((queue.call key good limit).getLast?.map key).getD queue.cursor

def Queue.Serves (queue : Queue α) : Prop :=
  ∀ item ∈ queue.waiting, good item = true →
    ∃ calls, item ∈ Queue.call key good limit ((Queue.next key good ident limit)^[calls] queue)

end Calls

/-! ## The invariant of taking turns -/

section Invariants

variable {key : α → Int} {good : α → Bool} {ident : α → ι} {limit : Nat} {queue : Queue α}

def Distinct (ident : α → ι) (waiting : List α) : Prop := (waiting.map ident).Nodup

/-- A key with items that are not good has as many good ones as any other, up
to the one that others may be ahead within a round. -/
structure Queue.InTurn (key : α → Int) (good : α → Bool) (ident : α → ι)
    (queue : Queue α) : Prop where
  goodFirst : GoodFirst key good queue.waiting
  distinct : Distinct ident queue.waiting
  most : ∀ item ∈ queue.waiting, good item = false → ∀ name,
    (goods key good queue.waiting name).length ≤
      (goods key good queue.waiting (key item)).length +
        if Before queue.cursor name (key item) then 1 else 0

omit [DecidableEq ι] in
theorem eq_of_ident (distinct : Distinct ident queue.waiting) {first second : α}
    (firstListed : first ∈ queue.waiting) (secondListed : second ∈ queue.waiting)
    (same : ident first = ident second) : first = second :=
  List.inj_on_of_nodup_map distinct firstListed secondListed same

theorem mem_next (limit : Nat) (distinct : Distinct ident queue.waiting) {item : α} :
    item ∈ (queue.next key good ident limit).waiting ↔
      item ∈ queue.waiting ∧ item ∉ queue.call key good limit := by
  simp only [Queue.next, List.mem_filter, decide_eq_true_eq]
  refine and_congr_right fun waits => not_congr ?_
  constructor
  · intro handed
    obtain ⟨other, called, same⟩ := List.mem_map.mp handed
    have otherWaits := (mem_of_mem_dispatch called).1
    exact eq_of_ident distinct otherWaits waits same ▸ called
  · exact List.mem_map_of_mem

theorem next_sublist (queue : Queue α) :
    (queue.next key good ident limit).waiting.Sublist queue.waiting :=
  List.filter_sublist

theorem next_distinct (distinct : Distinct ident queue.waiting) :
    Distinct ident (queue.next key good ident limit).waiting :=
  sublist ((next_sublist queue).map ident) distinct

theorem next_goodFirst (goodFirst : GoodFirst key good queue.waiting) :
    GoodFirst key good (queue.next key good ident limit).waiting :=
  goodFirst.sublist (next_sublist queue)

omit [DecidableEq ι] in
theorem goods_nodup (distinct : Distinct ident queue.waiting) (name : Int) :
    (goods key good queue.waiting name).Nodup :=
  (of_map ident distinct).filter _

omit [DecidableEq ι] in
theorem filter_eq_drop {items : List α} (distinct : items.Nodup) {keeps : α → Bool} {count : Nat}
    (others : ∀ item ∈ items, keeps item = true ↔ item ∉ items.take count) :
    items.filter keeps = items.drop count := by
  have first : (items.take count).filter keeps = [] := by
    rw [List.filter_eq_nil_iff]
    intro item listed kept
    exact (others item (List.mem_of_mem_take listed)).mp kept listed
  have rest : (items.drop count).filter keeps = items.drop count := by
    rw [List.filter_eq_self]
    intro item listed
    refine (others item (List.mem_of_mem_drop listed)).mpr ?_
    exact fun taken => List.disjoint_take_drop distinct le_rfl taken listed
  calc items.filter keeps
      = (items.take count ++ items.drop count).filter keeps := by
        rw [List.take_append_drop]
    _ = items.drop count := by rw [List.filter_append, first, rest, List.nil_append]

/-- The first good items of a key have left after a call that has handed out
these. -/
theorem goods_next (distinct : Distinct ident queue.waiting) {name : Int} {count : Nat}
    (handed : (queue.call key good limit).filter (fun item => key item = name) =
      (goods key good queue.waiting name).take count) :
    goods key good (queue.next key good ident limit).waiting name =
      (goods key good queue.waiting name).drop count := by
  have leftOver : goods key good (queue.next key good ident limit).waiting name =
      (goods key good queue.waiting name).filter fun item =>
        ident item ∉ (queue.call key good limit).map ident := by
    simp only [goods, Queue.next, List.filter_filter, Bool.and_comm]
  have isHanded : ∀ item ∈ goods key good queue.waiting name,
      ident item ∈ (queue.call key good limit).map ident ↔
        item ∈ (goods key good queue.waiting name).take count := by
    intro item listed
    obtain ⟨waits, isNamed, -⟩ := mem_goods.mp listed
    rw [← handed, List.mem_filter, decide_eq_true_eq]
    constructor
    · intro inCall
      by_contra notCalled
      have goesOn := (mem_next limit distinct).mpr
        ⟨waits, fun called => notCalled ⟨called, isNamed⟩⟩
      exact of_decide_eq_true (List.mem_filter.mp goesOn).2 inCall
    · exact fun called => List.mem_map_of_mem called.1
  rw [leftOver]
  refine filter_eq_drop (goods_nodup distinct name) ?_
  intro item listed
  rw [decide_eq_true_eq, isHanded item listed]

omit [DecidableEq ι] in
theorem turn_balance (cursor last first second : Int) :
    (if Before cursor first second then 1 else 0) +
        (if second = last ∨ Before cursor second last then 1 else 0) =
      (if Before last first second then 1 else 0) +
        if first = last ∨ Before cursor first last then 1 else 0 := by
  by_cases ahead : Before cursor first second <;>
    by_cases secondTurn : second = last ∨ Before cursor second last <;>
    by_cases after : Before last first second <;>
    by_cases firstTurn : first = last ∨ Before cursor first last <;>
    simp only [if_pos, if_neg, ahead, secondTurn, after, firstTurn, not_false_eq_true] <;>
    unfold Before at ahead secondTurn after firstTurn <;>
    omega

theorem inTurn_next (inTurn : queue.InTurn key good ident)
    (nonempty : queue.call key good limit ≠ []) :
    (queue.next key good ident limit).InTurn key good ident := by
  obtain ⟨share, last, isLast, -, -, shares⟩ := dispatch_shares inTurn.goodFirst nonempty
  refine ⟨next_goodFirst inTurn.goodFirst, next_distinct inTurn.distinct, ?_⟩
  intro item waits isBad name
  have waited := (next_sublist queue).subset waits
  have most := inTurn.most item waited isBad name
  have cursor : (queue.next key good ident limit).cursor = last := by
    simp only [Queue.next, Queue.call, isLast, Option.getD_some]
  rw [goods_next inTurn.distinct (shares name), goods_next inTurn.distinct (shares (key item)),
    cursor, List.length_drop, List.length_drop]
  generalize key item = blocked at most ⊢
  have balance := turn_balance queue.cursor last name blocked
  omega

omit [DecidableEq ι] in
theorem exists_first (queue : Queue α) (key : α → Int) {item : α} (waits : item ∈ queue.waiting) :
    ∃ first others row rows, afterCursor queue.cursor (keysOf key queue.waiting) = first :: others ∧
      (queue.waiting.filter fun other => key other = first) = row :: rows ∧
      ∀ other ∈ queue.waiting, ¬ Before queue.cursor (key other) first := by
  have listed : ∀ other ∈ queue.waiting,
      key other ∈ afterCursor queue.cursor (keysOf key queue.waiting) :=
    fun other otherWaits => mem_afterCursor.mpr (mem_keysOf.mpr ⟨other, otherWaits, rfl⟩)
  have cyclic := cyclic_names key queue.cursor queue.waiting
  cases order : afterCursor queue.cursor (keysOf key queue.waiting) with
  | nil =>
    have absurdly := listed item waits
    rw [order] at absurdly
    cases absurdly
  | cons first others =>
    rw [order] at listed cyclic
    have isKey : first ∈ keysOf key queue.waiting := by
      have ahead : first ∈ afterCursor queue.cursor (keysOf key queue.waiting) := by
        rw [order]
        exact List.mem_cons_self ..
      exact mem_afterCursor.mp ahead
    obtain ⟨row, rowWaits, isFirst⟩ := mem_keysOf.mp isKey
    have among : row ∈ queue.waiting.filter fun other => key other = first :=
      List.mem_filter.mpr ⟨rowWaits, decide_eq_true isFirst⟩
    obtain ⟨head, rows, shape⟩ := List.exists_cons_of_ne_nil (List.ne_nil_of_mem among)
    refine ⟨first, others, head, rows, rfl, shape, ?_⟩
    intro other otherWaits before
    rcases List.mem_cons.mp (listed other otherWaits) with same | later
    · exact before_ne before same
    · exact before_asymm ((List.pairwise_cons.mp cyclic).1 _ later) before

omit [DecidableEq ι] in
theorem call_first {first : Int} {others : List Int} {row : α} {rows : List α}
    (order : afterCursor queue.cursor (keysOf key queue.waiting) = first :: others)
    (shape : (queue.waiting.filter fun other => key other = first) = row :: rows)
    (isGood : good row = true) (positive : 1 ≤ limit) :
    queue.call key good limit ≠ [] := by
  obtain ⟨room, rfl⟩ : ∃ room, limit = room + 1 := ⟨limit - 1, by omega⟩
  simp only [Queue.call, dispatch, interleave, order, List.take_succ_cons, List.map_cons]
  obtain ⟨share, each⟩ : ∃ share, perKey (room + 1)
      (first :: others.take room).length = share + 1 := by
    refine ⟨perKey (room + 1) (first :: others.take room).length - 1, ?_⟩
    have atLeast : 1 ≤ perKey (room + 1) (first :: others.take room).length := le_max_left _ _
    omega
  rw [each]
  have filled : bucketOf key good queue.waiting (share + 1) first =
      row :: (rows.take share).filter good := by
    rw [bucketOf, shape, List.take_succ_cons, List.filter_cons_of_pos isGood]
  simp only [takeTurns, filled, List.filterMap_cons, List.head?_cons,
    List.take_succ_cons, List.isEmpty_cons, Bool.false_eq_true, if_false]
  exact List.append_ne_nil_of_left_ne_nil (List.cons_ne_nil _ _) _

omit [DecidableEq ι] in
theorem call_nonempty (inTurn : queue.InTurn key good ident)
    (positive : 1 ≤ limit) {item : α} (waits : item ∈ queue.waiting)
    (isGood : good item = true) : queue.call key good limit ≠ [] := by
  obtain ⟨first, others, row, rows, order, shape, isFirst⟩ := exists_first queue key waits
  cases rowGood : good row with
  | true => exact call_first order shape rowGood positive
  | false =>
    have among : row ∈ queue.waiting.filter fun other => key other = first := by
      rw [shape]
      exact List.mem_cons_self ..
    obtain ⟨rowWaits, rowKey⟩ := List.mem_filter.mp among
    have ofFirst := of_decide_eq_true rowKey
    -- No good item waits under the first key, so none waits at all.
    have noGoods : goods key good queue.waiting first = [] := by
      have bucket := bucketOf_eq inTurn.goodFirst 1 first
      rw [bucketOf, shape, List.take_succ_cons, List.take_zero,
        List.filter_cons_of_neg (by simp [rowGood])] at bucket
      cases remaining : goods key good queue.waiting first with
      | nil => rfl
      | cons other rest =>
        rw [remaining] at bucket
        cases bucket
    have most := inTurn.most row rowWaits rowGood (key item)
    rw [ofFirst, noGoods, if_neg (isFirst item waits)] at most
    have present : item ∈ goods key good queue.waiting (key item) :=
      mem_goods.mpr ⟨waits, rfl, isGood⟩
    have positiveLength := List.length_pos_of_mem present
    simp only [List.length_nil] at most
    omega

/-- As long as an invariant makes every call hand out something, the queue
empties. -/
theorem serves_of_progress {Holds : Queue α → Prop}
    (distinct : ∀ {queue}, Holds queue → Distinct ident queue.waiting)
    (nonempty : ∀ {queue}, Holds queue → ∀ item ∈ queue.waiting, good item = true →
      queue.call key good limit ≠ [])
    (goesOn : ∀ {queue}, Holds queue → queue.call key good limit ≠ [] →
      Holds (queue.next key good ident limit))
    (holds : Holds queue) : queue.Serves key good ident limit := by
  generalize waitingGoods : (queue.waiting.filter good).length = count
  induction count using Nat.strong_induction_on generalizing queue with
  | _ count ih =>
    intro item waits isGood
    by_cases called : item ∈ queue.call key good limit
    · exact ⟨0, called⟩
    have some := nonempty holds item waits isGood
    obtain ⟨handed, handedOut⟩ := List.exists_mem_of_ne_nil _ some
    obtain ⟨handedWaits, handedGood, -⟩ := mem_of_mem_dispatch handedOut
    have fewer : ((queue.next key good ident limit).waiting.filter good).length < count := by
      rw [← waitingGoods]
      refine lt_of_le_of_ne ((next_sublist queue).filter good).length_le ?_
      intro same
      have fewerItems : (queue.next key good ident limit).waiting.Sublist
          queue.waiting := next_sublist queue
      have unchanged := (fewerItems.filter good).eq_of_length same
      have remains : handed ∈ (queue.next key good ident limit).waiting.filter good := by
        rw [unchanged]
        exact List.mem_filter.mpr ⟨handedWaits, handedGood⟩
      have stays := (mem_next limit (distinct holds)).mp (List.mem_filter.mp remains).1
      exact stays.2 handedOut
    have stays := (mem_next limit (distinct holds)).mpr ⟨waits, called⟩
    obtain ⟨calls, later⟩ := ih _ fewer (goesOn holds some) rfl item stays isGood
    exact ⟨calls + 1, by rwa [Function.iterate_succ_apply]⟩

theorem serves_of_inTurn (positive : 1 ≤ limit) (inTurn : queue.InTurn key good ident) :
    queue.Serves key good ident limit :=
  serves_of_progress (fun holds => holds.distinct)
    (fun holds _ waits isGood => call_nonempty holds positive waits isGood)
    (fun holds some => inTurn_next holds some) inTurn

end Invariants

/-! ## Calls for one item -/

section Single

variable {key : α → Int} {good : α → Bool} {ident : α → ι} {queue : Queue α}

omit [DecidableEq ι] in
theorem call_one (queue : Queue α) (key : α → Int) (good : α → Bool) : queue.call key good 1 = [] ∨
      ∃ row rows, good row = true ∧ queue.call key good 1 = [row] ∧
        (queue.waiting.filter fun other => key other = key row) = row :: rows ∧
        ∀ other ∈ queue.waiting, ¬ Before queue.cursor (key other) (key row) := by
  cases waits : queue.waiting with
  | nil =>
    left
    simp [Queue.call, dispatch, waits, keysOf, afterCursor, interleave, takeTurns]
  | cons item items =>
    rw [← waits]
    have listed : item ∈ queue.waiting := by
      rw [waits]
      exact List.mem_cons_self ..
    obtain ⟨first, others, row, rows, order, shape, isFirst⟩ := exists_first queue key listed
    have among : row ∈ queue.waiting.filter fun other => key other = first := by
      rw [shape]
      exact List.mem_cons_self ..
    have rowKey : key row = first := of_decide_eq_true (List.mem_filter.mp among).2
    have single : queue.call key good 1 = [row].filter good := by
      simp only [Queue.call, dispatch, interleave, order, List.take_succ_cons, List.take_zero,
        List.map_cons, List.map_nil, List.length_singleton, perKey_self, bucketOf, shape]
      cases isGood : good row <;> simp [takeTurns, isGood]
    cases isGood : good row with
    | false =>
      left
      rw [single]
      simp [isGood]
    | true =>
      right
      refine ⟨row, rows, isGood, ?_, ?_, ?_⟩
      · rw [single]
        simp [isGood]
      · rw [rowKey]
        exact shape
      · rw [rowKey]
        exact isFirst

variable {limit : Nat} {blocker : α}

theorem next_of_empty (empty : queue.call key good limit = []) :
    queue.next key good ident limit = queue := by
  simp [Queue.next, empty]

theorem iterate_sublist (limit calls : Nat) (queue : Queue α) :
    ((Queue.next key good ident limit)^[calls] queue).waiting.Sublist queue.waiting := by
  induction calls with
  | zero => exact List.Sublist.refl _
  | succ calls ih =>
    rw [Function.iterate_succ_apply']
    exact (next_sublist _).trans ih

theorem iterate_distinct (calls : Nat) (distinct : Distinct ident queue.waiting) :
    Distinct ident ((Queue.next key good ident limit)^[calls] queue).waiting :=
  sublist ((iterate_sublist limit calls queue).map ident) distinct

theorem bad_waits (distinct : Distinct ident queue.waiting) {item : α}
    (waits : item ∈ queue.waiting) (isBad : good item = false) (calls : Nat) :
    item ∈ ((Queue.next key good ident limit)^[calls] queue).waiting := by
  induction calls with
  | zero => exact waits
  | succ calls ih =>
    rw [Function.iterate_succ_apply']
    refine (mem_next limit (iterate_distinct calls distinct)).mpr ⟨ih, ?_⟩
    intro called
    have isGood := (mem_of_mem_dispatch called).2.1
    rw [isBad] at isGood
    cases isGood

/-- What has left does not come back, so there is a call after which none of
finitely many items waits. -/
theorem exists_served (distinct : Distinct ident queue.waiting)
    (serves : queue.Serves key good ident limit) (items : List α)
    (waitFor : ∀ item ∈ items, item ∈ queue.waiting ∧ good item = true) :
    ∃ calls, ∀ item ∈ items, item ∉ ((Queue.next key good ident limit)^[calls] queue).waiting := by
  induction items with
  | nil => exact ⟨0, nofun⟩
  | cons item items ih =>
    obtain ⟨calls, served⟩ := ih fun other listed => waitFor other (List.mem_cons_of_mem _ listed)
    obtain ⟨waits, isGood⟩ := waitFor item (List.mem_cons_self ..)
    obtain ⟨more, called⟩ := serves item waits isGood
    refine ⟨more + 1 + calls, ?_⟩
    intro other listed waitsStill
    rcases List.mem_cons.mp listed with rfl | later
    · have gone : other ∉ ((Queue.next key good ident limit)^[more + 1] queue).waiting := by
        rw [Function.iterate_succ_apply', mem_next limit (iterate_distinct more distinct)]
        exact fun goesOn => goesOn.2 called
      rw [Nat.add_comm, Function.iterate_add_apply] at waitsStill
      exact gone ((iterate_sublist limit calls _).subset waitsStill)
    · rw [Function.iterate_add_apply] at waitsStill
      exact served other later ((iterate_sublist limit (more + 1) _).subset waitsStill)

omit [DecidableEq ι] in
theorem not_served_behind (distinct : Distinct ident queue.waiting)
    {blocker item : α} (behind : [blocker, item].Sublist queue.waiting)
    (sameKey : key blocker = key item) : item ∉ queue.call key good 1 := by
  intro called
  rcases call_one queue key good with empty | ⟨row, rows, -, single, shape, -⟩
  · rw [empty] at called
    cases called
  rw [single, List.mem_singleton] at called
  subst called
  have ofKey : [blocker, item].Sublist (item :: rows) := by
    have filtered := behind.filter fun other => key other = key item
    rw [shape] at filtered
    simpa [sameKey] using filtered
  have nodup : (item :: rows).Nodup := by
    rw [← shape]
    exact (of_map ident distinct).filter _
  cases ofKey with
  | cons _ later =>
    have again : item ∈ rows := later.subset (by simp)
    exact (List.nodup_cons.mp nodup).1 again
  | cons_cons _ later =>
    have again : blocker ∈ rows := later.subset (by simp)
    exact (List.nodup_cons.mp nodup).1 again

theorem behind_iterate (distinct : Distinct ident queue.waiting) {item : α}
    (behind : [blocker, item].Sublist queue.waiting) (sameKey : key blocker = key item)
    (isBad : good blocker = false) (calls : Nat) : [blocker, item].Sublist
      ((Queue.next key good ident 1)^[calls] queue).waiting := by
  induction calls with
  | zero => exact behind
  | succ calls ih =>
    rw [Function.iterate_succ_apply']
    generalize reached : (Queue.next key good ident 1)^[calls] queue = later at ih ⊢
    have laterDistinct : Distinct ident later.waiting := reached ▸ iterate_distinct calls distinct
    have goesOn : ∀ other ∈ [blocker, item], other ∈ (later.next key good ident 1).waiting := by
      intro other listed
      refine (mem_next 1 laterDistinct).mpr ⟨ih.subset listed, ?_⟩
      simp only [List.mem_cons, List.not_mem_nil, or_false] at listed
      rcases listed with rfl | rfl
      · intro called
        have isGood := (mem_of_mem_dispatch called).2.1
        rw [isBad] at isGood
        cases isGood
      · exact not_served_behind laterDistinct ih sameKey
    have kept : [blocker, item].filter (fun other =>
        ident other ∉ (later.call key good 1).map ident) = [blocker, item] := by
      rw [List.filter_eq_self]
      intro other listed
      exact (List.mem_filter.mp (goesOn other listed)).2
    rw [← kept]
    exact ih.filter _

theorem goodFirst_of_serves (distinct : Distinct ident queue.waiting)
    (serves : queue.Serves key good ident 1) :
    GoodFirst key good queue.waiting := by
  rw [GoodFirst, List.pairwise_iff_forall_sublist]
  intro blocker item behind sameKey isGood
  by_contra isBad
  have blocked : good blocker = false := by simpa using isBad
  obtain ⟨calls, called⟩ := serves item (behind.subset (by simp)) isGood
  exact not_served_behind (iterate_distinct calls distinct)
    (behind_iterate distinct behind sameKey blocked calls) sameKey called

theorem goods_of_first {row : α} {rows : List α}
    (shape : (queue.waiting.filter fun other => key other = key row) =
      row :: rows) (isGood : good row = true) :
    goods key good queue.waiting (key row) = row :: rows.filter good := by
  have ofGoods : goods key good queue.waiting (key row) =
      (queue.waiting.filter fun other => key other = key row).filter good := by
    rw [goods, List.filter_filter]
    congr 1
    funext item
    simp [Bool.and_comm]
  rw [ofGoods, shape, List.filter_cons_of_pos isGood]

/-- Between two turns of a key, every key under which something waits for ever
has one. -/
theorem behind_next {name : Int} {ahead : Nat}
    (distinct : Distinct ident queue.waiting) (waits : blocker ∈ queue.waiting)
    (remains : goods key good queue.waiting name ≠ [])
    (balance : ahead + (goods key good queue.waiting (key blocker)).length +
        (if Before queue.cursor name (key blocker) then 1 else 0) ≤
      (goods key good queue.waiting name).length) :
    ahead + (goods key good (queue.next key good ident 1).waiting (key blocker)).length +
        (if Before (queue.next key good ident 1).cursor name (key blocker) then 1 else 0) ≤
      (goods key good (queue.next key good ident 1).waiting name).length := by
  rcases call_one queue key good with empty | ⟨row, rows, isGood, single, shape, isFirst⟩
  · rw [next_of_empty empty]
    exact balance
  have cursor : (queue.next key good ident 1).cursor = key row := by simp [Queue.next, single]
  have handed : ∀ other, (queue.call key good 1).filter (fun item => key item = other) =
      (goods key good queue.waiting other).take (if other = key row then 1 else 0) := by
    intro other
    rw [single]
    by_cases same : other = key row
    · subst same
      rw [goods_of_first shape isGood]
      simp
    · simp [same, Ne.symm same]
  obtain ⟨item, itemListed⟩ := List.exists_mem_of_ne_nil _ remains
  obtain ⟨itemWaits, itemKey, -⟩ := mem_goods.mp itemListed
  have nameLater := isFirst item itemWaits
  have blockerLater := isFirst blocker waits
  rw [itemKey] at nameLater
  have turn := turn_balance queue.cursor (key row) name (key blocker)
  have rowRemains : key blocker = key row →
      1 ≤ (goods key good queue.waiting (key blocker)).length := by
    intro same
    rw [same, goods_of_first shape isGood]
    simp
  rw [goods_next distinct (handed (key blocker)), goods_next distinct (handed name), cursor,
    List.length_drop, List.length_drop]
  simp only [nameLater, blockerLater, or_false] at turn
  by_cases ofBlocker : key blocker = key row
  · have present := rowRemains ofBlocker
    simp only [ofBlocker, if_true] at turn present balance ⊢
    omega
  · simp only [ofBlocker, if_false] at turn ⊢
    omega

section

variable {waiting : List α} {name : Int} (distinct : Distinct ident waiting)
  (waits : blocker ∈ waiting) (isBad : good blocker = false)
include distinct waits isBad

/-- A key under which something waits for ever stays behind a key that starts
with more good items and has just had its turn. -/
theorem behind_run
    (more : (goods key good waiting (key blocker)).length < (goods key good waiting name).length)
    (calls : Nat) :
    1 + (goods key good ((Queue.next key good ident 1)^[calls]
            ⟨waiting, name⟩).waiting (key blocker)).length +
        (if Before ((Queue.next key good ident 1)^[calls]
            ⟨waiting, name⟩).cursor name (key blocker) then 1 else 0) ≤
      (goods key good ((Queue.next key good ident 1)^[calls]
        ⟨waiting, name⟩).waiting name).length := by
  induction calls with
  | zero =>
    have notAhead : ¬ Before name name (key blocker) := by
      unfold Before
      omega
    change 1 + (goods key good waiting (key blocker)).length +
        (if Before name name (key blocker) then 1 else 0) ≤
      (goods key good waiting name).length
    rw [if_neg notAhead]
    omega
  | succ calls ih =>
    rw [Function.iterate_succ_apply']
    refine behind_next (iterate_distinct calls distinct)
      (bad_waits distinct waits isBad calls) ?_ ih
    intro none
    rw [none, List.length_nil] at ih
    omega

/-- A key with items that are not good has the most good ones where every call
serves all. -/
theorem most_of_serves (serves : Queue.Serves key good ident 1 ⟨waiting, name⟩) :
    (goods key good waiting name).length ≤ (goods key good waiting (key blocker)).length := by
  by_contra fewer
  obtain ⟨calls, served⟩ := exists_served distinct serves
    (goods key good waiting name) (fun item listed =>
      ⟨(mem_goods.mp listed).1, (mem_goods.mp listed).2.2⟩)
  have remains := behind_run distinct waits isBad (not_le.mp fewer) calls
  have positive : 0 < (goods key good ((Queue.next key good ident 1)^[calls]
      ⟨waiting, name⟩).waiting name).length := by
    omega
  obtain ⟨item, listed⟩ := List.exists_mem_of_length_pos positive
  obtain ⟨itemWaits, itemKey, isGood⟩ := mem_goods.mp listed
  have waited := (iterate_sublist 1 calls _).subset itemWaits
  exact served item (mem_goods.mpr ⟨waited, itemKey, isGood⟩) itemWaits

end

end Single

end FairDispatch
