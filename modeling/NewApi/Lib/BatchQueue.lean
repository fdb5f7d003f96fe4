import Mathlib.Logic.Function.Iterate
import Mathlib.Data.List.Nodup

/-!
# Queues that are worked off in batches

A pass takes the first `limit` entries of a queue, removes those that succeed
and leaves the stuck ones where they are.  `served` lists the entries with fewer
than `limit` stuck ones ahead of them, `residue` what remains forever.
-/

universe u

namespace BatchQueue

variable {α : Type u} (stuck : α → Bool)

def drain (limit : Nat) (queue : List α) : List α :=
  (queue.take limit).filter stuck ++ queue.drop limit

def residue : Nat → List α → List α
  | 0, queue => queue
  | _ + 1, [] => []
  | room + 1, entry :: rest =>
    if stuck entry then entry :: residue room rest
    else residue (room + 1) rest

def served : Nat → List α → List α
  | 0, _ => []
  | _ + 1, [] => []
  | room + 1, entry :: rest =>
    if stuck entry then served room rest
    else entry :: served (room + 1) rest

/-- The entry succeeds and has fewer than `limit` stuck entries ahead. -/
def Reached (limit : Nat) (queue : List α) (entry : α) : Prop :=
  ∃ ahead behind,
    queue = ahead ++ entry :: behind ∧ stuck entry = false ∧ ahead.countP stuck < limit

variable {stuck}

@[simp]
theorem residue_zero (queue : List α) : residue stuck 0 queue = queue := by
  cases queue <;> rfl

@[simp]
theorem served_zero (queue : List α) : served stuck 0 queue = [] := by
  cases queue <;> rfl

theorem residue_filter_append (batch : List α) :
    ∀ {room : Nat} (behind : List α), batch.length ≤ room →
      residue stuck room (batch.filter stuck ++ behind) = residue stuck room (batch ++ behind) := by
  induction batch with
  | nil =>
    intro room behind _
    rfl
  | cons entry rest ih =>
    intro room behind fits
    rw [List.length_cons] at fits
    cases room with
    | zero => omega
    | succ room =>
      cases fails : stuck entry with
      | true =>
        rw [List.filter_cons_of_pos fails]
        simp only [List.cons_append, residue, fails, if_true]
        rw [ih behind (by omega)]
      | false =>
        rw [List.filter_cons_of_neg (by simp [fails])]
        simp only [List.cons_append, residue, fails, Bool.false_eq_true, if_false]
        exact ih behind (by omega)

theorem served_filter_append (batch : List α) :
    ∀ {room : Nat} (behind : List α), batch.length ≤ room →
      batch.filter (fun entry => !stuck entry) ++ served stuck room (batch.filter stuck ++ behind) =
        served stuck room (batch ++ behind) := by
  induction batch with
  | nil =>
    intro room behind _
    rfl
  | cons entry rest ih =>
    intro room behind fits
    rw [List.length_cons] at fits
    cases room with
    | zero => omega
    | succ room =>
      cases fails : stuck entry with
      | true =>
        rw [List.filter_cons_of_pos fails, List.filter_cons_of_neg (by simp [fails])]
        simp only [List.cons_append, served, fails, if_true]
        exact ih behind (by omega)
      | false =>
        simp only [List.filter_cons, fails, Bool.not_false, if_true,
          Bool.false_eq_true, if_false, List.cons_append, served]
        rw [ih behind (by omega)]

/-- A pass leaves the residue alone, also of a queue that grows behind it. -/
theorem residue_drain_append (limit : Nat) (queue arrivals : List α) :
    residue stuck limit (drain stuck limit queue ++ arrivals) =
      residue stuck limit (queue ++ arrivals) := by
  rw [drain, List.append_assoc,
    residue_filter_append (queue.take limit) (queue.drop limit ++ arrivals)
      (List.length_take_le limit queue),
    ← List.append_assoc, List.take_append_drop]

theorem served_drain (limit : Nat) (queue : List α) :
    (queue.take limit).filter (fun entry => !stuck entry) ++
        served stuck limit (drain stuck limit queue) =
      served stuck limit queue := by
  rw [drain,
    served_filter_append (queue.take limit) (queue.drop limit) (List.length_take_le limit queue),
    List.take_append_drop]

theorem drain_subset (limit : Nat) (queue : List α) : drain stuck limit queue ⊆ queue := by
  intro entry member
  rcases List.mem_append.mp member with batch | behind
  · exact List.mem_of_mem_take (List.mem_filter.mp batch).1
  · exact List.mem_of_mem_drop behind

variable {limit : Nat} {queue : List α}

theorem mem_drain (distinct : queue.Nodup) {entry : α} : entry ∈ drain stuck limit queue ↔
      entry ∈ queue ∧ (entry ∈ queue.take limit → stuck entry = true) := by
  have split := List.take_append_drop limit queue
  have disjoint :=
    List.disjoint_of_nodup_append (split.symm ▸ distinct :
      (queue.take limit ++ queue.drop limit).Nodup)
  rw [drain, List.mem_append, List.mem_filter]
  constructor
  · rintro (⟨batch, fails⟩ | behind)
    · exact ⟨List.mem_of_mem_take batch, fun _ => fails⟩
    · exact ⟨List.mem_of_mem_drop behind, fun batch => absurd behind (disjoint batch)⟩
  · rintro ⟨listed, fails⟩
    rw [← split] at listed
    rcases List.mem_append.mp listed with batch | behind
    · exact Or.inl ⟨batch, fails batch⟩
    · exact Or.inr behind

theorem drain_append (limit : Nat) (first second : List α) : drain stuck limit (first ++ second) =
      drain stuck limit first ++ drain stuck (limit - first.length) second := by
  simp only [drain, List.take_append, List.drop_append, List.filter_append, List.append_assoc]
  by_cases within : limit ≤ first.length
  · simp [Nat.sub_eq_zero_of_le within]
  · rw [List.drop_eq_nil_of_le (by omega)]
    simp

theorem length_drain_le (limit : Nat) (queue : List α) :
    (drain stuck limit queue).length ≤ queue.length := by
  have batch := List.length_filter_le stuck (queue.take limit)
  have split := congrArg List.length (List.take_append_drop limit queue)
  rw [List.length_append] at split
  rw [drain, List.length_append]
  omega

theorem stuck_of_drain_length (idle : (drain stuck limit queue).length = queue.length) :
    ∀ entry ∈ queue.take limit, stuck entry = true := by
  have split := congrArg List.length (List.take_append_drop limit queue)
  rw [List.length_append] at split
  rw [drain, List.length_append] at idle
  exact List.length_filter_eq_length_iff.mp (by omega)

theorem drain_of_stuck (batch : ∀ entry ∈ queue.take limit, stuck entry = true) :
    drain stuck limit queue = queue := by
  rw [drain, List.filter_eq_self.mpr batch, List.take_append_drop]

theorem residue_of_stuck :
    ∀ {limit : Nat} {queue : List α},
      (∀ entry ∈ queue.take limit, stuck entry = true) → residue stuck limit queue = queue
  | 0, queue, _ => residue_zero queue
  | _ + 1, [], _ => rfl
  | limit + 1, entry :: rest, batch => by
      rw [List.take_succ_cons] at batch
      rw [residue, if_pos (batch entry List.mem_cons_self),
        residue_of_stuck (fun other member => batch other (List.mem_cons_of_mem _ member))]

theorem served_of_stuck :
    ∀ {limit : Nat} {queue : List α},
      (∀ entry ∈ queue.take limit, stuck entry = true) → served stuck limit queue = []
  | 0, queue, _ => served_zero queue
  | _ + 1, [], _ => rfl
  | limit + 1, entry :: rest, batch => by
      rw [List.take_succ_cons] at batch
      rw [served, if_pos (batch entry List.mem_cons_self),
        served_of_stuck (fun other member => batch other (List.mem_cons_of_mem _ member))]

section

variable {queue : Nat → List α} (passes : ∀ n, queue (n + 1) = drain stuck limit (queue n))
include passes

/-- Pass after pass, a queue without arrivals comes to rest on a batch of stuck
entries. -/
theorem exists_batch_stuck :
    ∃ n, ∀ entry ∈ (queue n).take limit, stuck entry = true := by
  by_contra moving
  push Not at moving
  have shrinks : ∀ n, (queue n).length + n ≤ (queue 0).length := by
    intro n
    induction n with
    | zero => simp
    | succ n ih =>
      have shorter := @length_drain_le _ stuck limit (queue n)
      obtain ⟨entry, member, succeeds⟩ := moving n
      have moved : (drain stuck limit (queue n)).length ≠ (queue n).length := by
        intro idle
        exact succeeds (stuck_of_drain_length idle entry member)
      rw [passes n]
      omega
  have bound := shrinks ((queue 0).length + 1)
  omega

theorem eq_of_batch_stuck {rest : Nat}
    (batch : ∀ entry ∈ (queue rest).take limit, stuck entry = true) :
    ∀ n, queue (rest + n) = queue rest := by
  intro n
  induction n with
  | zero => rfl
  | succ n ih => rw [Nat.add_succ, passes, ih, drain_of_stuck batch]

end

theorem Reached.cons_of_stuck {head entry : α} (reached : Reached stuck limit queue entry) :
    Reached stuck (limit + 1) (head :: queue) entry := by
  obtain ⟨ahead, behind, rfl, succeeds, few⟩ := reached
  refine ⟨head :: ahead, behind, rfl, succeeds, ?_⟩
  rw [List.countP_cons]
  split <;> omega

theorem Reached.cons_of_success {head entry : α} (passes : stuck head = false)
    (reached : Reached stuck limit queue entry) :
    Reached stuck limit (head :: queue) entry := by
  obtain ⟨ahead, behind, rfl, succeeds, few⟩ := reached
  refine ⟨head :: ahead, behind, rfl, succeeds, ?_⟩
  rw [List.countP_cons_of_neg (by simp [passes])]
  exact few

theorem reached_of_mem_served :
    ∀ {limit : Nat} {queue : List α} {entry : α},
      entry ∈ served stuck limit queue → Reached stuck limit queue entry
  | 0, queue, entry, member => by
      rw [served_zero] at member
      cases member
  | limit + 1, head :: rest, entry, member => by
      rw [served] at member
      split at member
      · exact (reached_of_mem_served member).cons_of_stuck
      · rename_i passes
        have passes : stuck head = false := by simpa using passes
        rcases List.mem_cons.mp member with rfl | later
        · exact ⟨[], rest, rfl, passes, by simp⟩
        · exact (reached_of_mem_served later).cons_of_success passes

theorem mem_served_of_reached :
    ∀ {limit : Nat} {queue : List α} {entry : α},
      Reached stuck limit queue entry → entry ∈ served stuck limit queue := by
  rintro limit _ entry ⟨ahead, behind, rfl, succeeds, few⟩
  induction ahead generalizing limit with
  | nil =>
    cases limit with
    | zero => simp at few
    | succ limit => simp [served, succeeds]
  | cons head rest ih =>
    cases limit with
    | zero => simp at few
    | succ limit =>
      rw [List.countP_cons] at few
      cases fails : stuck head with
      | true =>
        simp only [fails, if_true] at few
        simp only [List.cons_append, served, fails, if_true]
        exact ih (by omega)
      | false =>
        simp only [fails, Bool.false_eq_true, if_false] at few
        simp only [List.cons_append, served, fails, Bool.false_eq_true, if_false]
        exact List.mem_cons_of_mem head (ih few)

theorem mem_served_iff {entry : α} :
    entry ∈ served stuck limit queue ↔ Reached stuck limit queue entry :=
  ⟨reached_of_mem_served, mem_served_of_reached⟩

theorem perm_served_residue :
    ∀ (limit : Nat) (queue : List α),
      (served stuck limit queue ++ residue stuck limit queue).Perm queue
  | 0, queue => by simp
  | _ + 1, [] => .refl []
  | limit + 1, head :: rest => by
      rw [served, residue]
      split
      · exact List.perm_middle.trans ((perm_served_residue limit rest).cons head)
      · exact (perm_served_residue (limit + 1) rest).cons head

/-- Only stuck entries remain exactly when every other entry is reached. -/
theorem residue_stuck_iff (distinct : queue.Nodup) :
    (∀ entry ∈ residue stuck limit queue, stuck entry = true) ↔
      ∀ entry ∈ queue, stuck entry = false → Reached stuck limit queue entry := by
  have shuffle := @perm_served_residue _ stuck limit queue
  constructor
  · intro remaining entry member succeeds
    rcases List.mem_append.mp (shuffle.mem_iff.mpr member) with done | left
    · exact mem_served_iff.mp done
    · rw [remaining entry left] at succeeds
      cases succeeds
  · intro reached entry left
    by_contra notStuck
    have succeeds : stuck entry = false := by simpa using notStuck
    have member : entry ∈ queue := shuffle.mem_iff.mp (List.mem_append_right _ left)
    have disjoint := List.disjoint_of_nodup_append (shuffle.nodup_iff.mpr distinct)
    exact disjoint (mem_served_iff.mpr (reached entry member succeeds)) left

theorem filter_drain (limit : Nat) (queue : List α) :
    (drain stuck limit queue).filter stuck = queue.filter stuck := by
  rw [drain, List.filter_append, List.filter_filter]
  simp only [Bool.and_self]
  rw [← List.filter_append, List.take_append_drop]

theorem mem_take_filter {entry : α}
    (member : entry ∈ queue.take limit) (fails : stuck entry = true) :
    entry ∈ (queue.filter stuck).take limit := by
  induction queue generalizing limit with
  | nil => simp at member
  | cons head rest ih =>
    cases limit with
    | zero => simp at member
    | succ limit =>
      cases headFails : stuck head with
      | true =>
        rw [List.filter_cons_of_pos headFails, List.take_succ_cons]
        rcases List.mem_cons.mp member with rfl | later
        · exact List.mem_cons_self
        · exact List.mem_cons_of_mem head (ih later)
      | false =>
        rw [List.filter_cons_of_neg (by simp [headFails])]
        rcases List.mem_cons.mp member with rfl | later
        · rw [fails] at headFails
          cases headFails
        · exact (List.take_sublist_take_left (Nat.le_succ limit)).subset (ih later)

/-- Without arrivals, only stuck entries remain at some time exactly when every
other entry is reached. -/
theorem exists_all_stuck_iff {queue : Nat → List α}
    (passes : ∀ n, queue (n + 1) = drain stuck limit (queue n)) (distinct : (queue 0).Nodup) :
    (∃ n, ∀ entry ∈ queue n, stuck entry = true) ↔
      ∀ entry ∈ queue 0, stuck entry = false → Reached stuck limit (queue 0) entry := by
  have sameResidue : ∀ n, residue stuck limit (queue n) = residue stuck limit (queue 0) := by
    intro n
    induction n with
    | zero => rfl
    | succ n ih =>
      have pass := @residue_drain_append _ stuck limit (queue n) []
      rw [List.append_nil, List.append_nil] at pass
      rw [passes, pass, ih]
  rw [← residue_stuck_iff distinct]
  constructor
  · rintro ⟨n, rest⟩
    rw [← sameResidue n,
      residue_of_stuck (fun entry member => rest entry (List.mem_of_mem_take member))]
    exact rest
  · intro remaining
    obtain ⟨n, batch⟩ := exists_batch_stuck passes
    rw [← sameResidue n, residue_of_stuck batch] at remaining
    exact ⟨n, remaining⟩

section Blocking

variable (stuck)

/-- How many entries of the queue the first passes look at: each pass goes as
much further as the stuck entries before leave of the limit. -/
def reach (limit : Nat) (queue : List α) : Nat → Nat
  | 0 => 0
  | passes + 1 =>
    reach limit queue passes + (limit - (queue.take (reach limit queue passes)).countP stuck)

def passed (limit : Nat) (queue : List α) (passes : Nat) : List α :=
  (queue.take (reach stuck limit queue passes)).filter stuck ++
    queue.drop (reach stuck limit queue passes)

variable {stuck} {limit : Nat} {queue : List α}

theorem countP_reach_le (passes : Nat) :
    (queue.take (reach stuck limit queue passes)).countP stuck ≤ limit := by
  induction passes with
  | zero => simp [reach]
  | succ passes ih =>
    rw [reach, List.take_add, List.countP_append]
    have further :=
      List.countP_le_length (p := stuck)
        (l := (queue.drop (reach stuck limit queue passes)).take
          (limit - (queue.take (reach stuck limit queue passes)).countP stuck))
    rw [List.length_take] at further
    omega

theorem drain_passed (passes : Nat) : drain stuck limit (passed stuck limit queue passes) =
      passed stuck limit queue (passes + 1) := by
  have behind : (queue.take (reach stuck limit queue passes)).filter stuck =
        drain stuck limit ((queue.take (reach stuck limit queue passes)).filter stuck) := by
    rw [drain_of_stuck]
    intro entry member
    exact (List.mem_filter.mp (List.mem_of_mem_take member)).2
  rw [passed, drain_append, ← behind, ← List.countP_eq_length_filter, passed, reach, List.take_add,
    List.filter_append, List.append_assoc, drain, List.drop_drop]

/-- A pass looks at the stuck entries that the earlier ones have left and at
the entries up to its reach. -/
theorem take_passed (passes : Nat) : (passed stuck limit queue passes).take limit =
      (queue.take (reach stuck limit queue passes)).filter stuck ++
        (queue.drop (reach stuck limit queue passes)).take
          (limit - (queue.take (reach stuck limit queue passes)).countP stuck) := by
  have fits := @countP_reach_le _ stuck limit queue passes
  rw [List.countP_eq_length_filter] at fits ⊢
  rw [passed, List.take_append, List.take_of_length_le fits]

variable {blocks : α → Bool}

theorem free_take_passed_iff (blocked : ∀ entry, blocks entry = true → stuck entry = true)
    (passes : Nat) :
    (∀ entry ∈ (passed stuck limit queue passes).take limit, blocks entry = false) ↔
      ∀ entry ∈ queue.take (reach stuck limit queue (passes + 1)), blocks entry = false := by
  rw [take_passed, reach, List.take_add]
  simp only [List.mem_append, List.mem_filter]
  constructor
  · rintro free entry (before | further)
    · by_contra blocking
      have blocking : blocks entry = true := by simpa using blocking
      rw [free entry (Or.inl ⟨before, blocked entry blocking⟩)] at blocking
      cases blocking
    · exact free entry (Or.inr further)
  · rintro free entry (⟨before, _⟩ | further)
    · exact free entry (Or.inl before)
    · exact free entry (Or.inr further)

theorem reach_mono {first second : Nat} (le : first ≤ second) :
    reach stuck limit queue first ≤ reach stuck limit queue second := by
  induction le with
  | refl => exact Nat.le_refl _
  | step _ ih => exact Nat.le_trans ih (Nat.le_add_right _ _)

variable {queue : Nat → List α}

section

variable (blocked : ∀ entry, blocks entry = true → stuck entry = true)
  (passes : ∀ n, queue (n + 1) =
    if ((queue n).take limit).any blocks then queue n else drain stuck limit (queue n))
include blocked passes

/-- The queue of passes that an entry of the batch may block has been passed
up to some reach, and found free of blocking entries up to there. -/
theorem exists_eq_passed (n : Nat) :
    ∃ k,
      queue n = passed stuck limit (queue 0) k ∧
        ∀ entry ∈ (queue 0).take (reach stuck limit (queue 0) k), blocks entry = false := by
  induction n with
  | zero => exact ⟨0, by simp [passed, reach], by simp [reach]⟩
  | succ n ih =>
    obtain ⟨k, same, free⟩ := ih
    cases window : ((queue n).take limit).any blocks with
    | true =>
      refine ⟨k, ?_, free⟩
      rw [passes, window, if_pos rfl]
      exact same
    | false =>
      refine ⟨k + 1, ?_, ?_⟩
      · rw [passes, window, if_neg Bool.false_ne_true, same, drain_passed]
      · rw [← free_take_passed_iff blocked, ← same]
        simpa [List.any_eq_false] using window

theorem eq_passed_of_free (n : Nat)
    (free : ∀ entry ∈ (queue 0).take (reach stuck limit (queue 0) n), blocks entry = false) :
    queue n = passed stuck limit (queue 0) n := by
  induction n with
  | zero => simp [passed, reach]
  | succ n ih =>
    have shorter :
        ((queue 0).take (reach stuck limit (queue 0) n)).Sublist
          ((queue 0).take (reach stuck limit (queue 0) (n + 1))) :=
      List.take_sublist_take_left (reach_mono (Nat.le_succ n))
    have before : queue n = passed stuck limit (queue 0) n :=
      ih (fun entry member => free entry (shorter.subset member))
    have window : ((queue n).take limit).any blocks = false := by
      rw [before]
      simpa [List.any_eq_false] using (free_take_passed_iff blocked n).mpr free
    rw [passes, window, if_neg Bool.false_ne_true, before, drain_passed]

/-- When an entry of the batch can block the pass, only stuck entries remain at
some time exactly when some reach holds every other entry and no blocking
one. -/
theorem exists_all_stuck_iff_of_blocks :
    (∃ n, ∀ entry ∈ queue n, stuck entry = true) ↔
      ∃ n, (∀ entry ∈ (queue 0).take (reach stuck limit (queue 0) n), blocks entry = false) ∧
        ∀ entry ∈ (queue 0).drop (reach stuck limit (queue 0) n), stuck entry = true := by
  constructor
  · rintro ⟨n, rest⟩
    obtain ⟨k, same, free⟩ := exists_eq_passed blocked passes n
    refine ⟨k, free, ?_⟩
    intro entry member
    apply rest
    rw [same]
    exact List.mem_append_right _ member
  · rintro ⟨n, free, rest⟩
    refine ⟨n, ?_⟩
    rw [eq_passed_of_free blocked passes n free]
    intro entry member
    rcases List.mem_append.mp member with before | behind
    · exact (List.mem_filter.mp before).2
    · exact rest entry behind

end

end Blocking

section Throughout

variable {σ : Type u} {next : σ → σ} {goes holds : σ → Prop} {start : σ}

/-- `holds` at every state of the iteration of `next` that goes on from a state
where it does so. -/
def Throughout (next : σ → σ) (goes holds : σ → Prop) (start : σ) : Prop :=
  ∀ n, (∀ m < n, goes (next^[m] start)) → holds (next^[n] start)

theorem throughout_iff : Throughout next goes holds start ↔
      holds start ∧ (goes start → Throughout next goes holds (next start)) := by
  constructor
  · intro always
    refine ⟨always 0 (by simp), fun first n later => always (n + 1) ?_⟩
    intro m below
    cases m with
    | zero => exact first
    | succ m => exact later m (Nat.lt_of_succ_lt_succ below)
  · rintro ⟨now, later⟩ n goesOn
    cases n with
    | zero => exact now
    | succ n =>
      exact later (goesOn 0 (Nat.succ_pos n)) n
        (fun m below => goesOn (m + 1) (Nat.succ_lt_succ below))

end Throughout

section Loop

variable {σ : Type u} {step : Nat → σ → Option (Nat × σ)} {batch : Nat}

/-- Repeat `step` until it reports nothing or less than a batch; `none` when
the fuel is used up first, by the loop or by a step. -/
def repeatBatch (step : Nat → σ → Option (Nat × σ)) (batch : Nat) : Nat → σ → Option σ
  | 0, _ => none
  | fuel + 1, state =>
    match step fuel state with
    | none => none
    | some (reported, next) =>
      if reported = 0 then some next
      else if reported < batch then some next
      else repeatBatch step batch fuel next

def LoopEnds (step : Nat → σ → Option (Nat × σ)) (batch : Nat) (state : σ) : Prop :=
  ∃ fuel final, repeatBatch step batch fuel state = some final

/-- A step that ends gives the same with more fuel. -/
def Settles (step : Nat → σ → Option (Nat × σ)) : Prop :=
  ∀ fuel state ended, step fuel state = some ended →
    ∀ more, step (fuel + more) state = some ended

/-- A full batch is followed by another one. -/
theorem repeatBatch_succ_iff (positive : 0 < batch) {fuel : Nat} {state final : σ} :
    repeatBatch step batch (fuel + 1) state = some final ↔
      ∃ reported next, step fuel state = some (reported, next) ∧
        (reported < batch ∧ next = final ∨
          batch ≤ reported ∧ repeatBatch step batch fuel next = some final) := by
  rw [repeatBatch]
  cases ran : step fuel state with
  | none => simp
  | some ended =>
    obtain ⟨reported, next⟩ := ended
    dsimp only
    by_cases short : reported < batch
    · have stops : (if reported = 0 then some next
          else if reported < batch then some next
          else repeatBatch step batch fuel next) = some next := by
        rw [if_pos short, ite_self]
      rw [stops, Option.some_inj]
      constructor
      · exact fun same => ⟨reported, next, rfl, Or.inl ⟨short, same⟩⟩
      · rintro ⟨_, _, same, ⟨_, ended⟩ | ⟨full, _⟩⟩
        · obtain ⟨rfl, rfl⟩ := Prod.mk.inj (Option.some.inj same)
          exact ended
        · obtain ⟨rfl, rfl⟩ := Prod.mk.inj (Option.some.inj same)
          omega
    · rw [if_neg (by omega), if_neg short]
      constructor
      · exact fun done => ⟨reported, next, rfl, Or.inr ⟨Nat.le_of_not_lt short, done⟩⟩
      · rintro ⟨_, _, same, ⟨less, _⟩ | ⟨_, done⟩⟩
        · obtain ⟨rfl, rfl⟩ := Prod.mk.inj (Option.some.inj same)
          exact absurd less short
        · obtain ⟨rfl, rfl⟩ := Prod.mk.inj (Option.some.inj same)
          exact done

variable (positive : 0 < batch)
include positive

theorem repeatBatch_add (settles : Settles step) {fuel : Nat} {state final : σ}
    (done : repeatBatch step batch fuel state = some final) (more : Nat) :
    repeatBatch step batch (fuel + more) state = some final := by
  induction fuel generalizing state with
  | zero => cases done
  | succ fuel ih =>
    obtain ⟨reported, next, ran, outcome⟩ := (repeatBatch_succ_iff positive).mp done
    rw [Nat.succ_add, repeatBatch_succ_iff positive]
    refine ⟨reported, next, settles _ _ _ ran more, ?_⟩
    rcases outcome with stopped | ⟨full, later⟩
    · exact Or.inl stopped
    · exact Or.inr ⟨full, ih later⟩

theorem repeatBatch_unique (settles : Settles step) {first second : Nat} {state final other : σ}
    (done : repeatBatch step batch first state = some final)
    (again : repeatBatch step batch second state = some other) :
    final = other := by
  have left := repeatBatch_add positive settles done second
  have right := repeatBatch_add positive settles again first
  rw [Nat.add_comm, right] at left
  exact (Option.some.inj left).symm

/-- What every full batch keeps holds before the last step, which reports a
short one. -/
theorem repeatBatch_last {holds : σ → Prop} {fuel : Nat} {state final : σ}
    (kept : ∀ {fuel state reported next}, holds state →
      step fuel state = some (reported, next) → batch ≤ reported → holds next)
    (initially : holds state) (done : repeatBatch step batch fuel state = some final) :
    ∃ fuel last reported, holds last ∧ step fuel last = some (reported, final) ∧
      reported < batch := by
  induction fuel generalizing state with
  | zero => cases done
  | succ fuel ih =>
    obtain ⟨reported, next, ran, ⟨short, rfl⟩ | ⟨full, later⟩⟩ :=
      (repeatBatch_succ_iff positive).mp done
    · exact ⟨fuel, state, reported, initially, ran, short⟩
    · exact ih (kept initially ran full) later

theorem loopEnds_of_measure {holds : σ → Prop} (settles : Settles step) (measure : σ → Nat)
    (ends : ∀ state, holds state → ∃ fuel reported next,
      step fuel state = some (reported, next) ∧
        (batch ≤ reported → holds next ∧ measure next < measure state))
    {state : σ} (initially : holds state) :
    LoopEnds step batch state := by
  induction size : measure state using Nat.strongRecOn generalizing state with
  | ind size ih =>
    obtain ⟨fuel, reported, next, ran, smaller⟩ := ends state initially
    by_cases full : batch ≤ reported
    · obtain ⟨kept, less⟩ := smaller full
      obtain ⟨later, final, done⟩ := ih _ (size ▸ less) kept rfl
      -- One fuel serves this step and the rest of the loop.
      refine ⟨fuel + later + 1, final, (repeatBatch_succ_iff positive).mpr ?_⟩
      refine ⟨reported, next, settles _ _ _ ran later, Or.inr ⟨full, ?_⟩⟩
      rw [Nat.add_comm]
      exact repeatBatch_add positive settles done fuel
    · refine ⟨fuel + 1, next, (repeatBatch_succ_iff positive).mpr ?_⟩
      exact ⟨reported, next, ran, Or.inl ⟨Nat.lt_of_not_le full, rfl⟩⟩

theorem not_loopEnds_of_full {holds : σ → Prop}
    (full : ∀ {fuel state reported next}, holds state →
      step fuel state = some (reported, next) → batch ≤ reported ∧ holds next)
    {state : σ} (initially : holds state) :
    ¬LoopEnds step batch state := by
  rintro ⟨fuel, final, done⟩
  obtain ⟨_, last, _, holdsLast, ran, short⟩ :=
    repeatBatch_last positive (fun now ran _ => (full now ran).2) initially done
  exact absurd (full holdsLast ran).1 (Nat.not_le.mpr short)

end Loop

end BatchQueue
