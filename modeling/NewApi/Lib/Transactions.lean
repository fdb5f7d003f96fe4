import Mathlib.Logic.Basic

/-!
# Transactions and guarded runs

Inversion rules for transactions in `Except`, and runs: lists of actions, each of
them subject to a guard on the state it starts from.  The run rule reduces an
invariant of whole runs to one action.
-/

universe u v w

namespace Transactions

section Sequencing

variable {ε : Type u} {α β : Type v}

theorem bind_ok_iff {first : Except ε α} {next : α → Except ε β} {result : β} :
    (first >>= next) = .ok result ↔ ∃ value, first = .ok value ∧ next value = .ok result := by
  cases first with
  | error err | ok value => simp [bind, Except.bind]

theorem guard_ok_iff {refused : Prop} [Decidable refused] {err : ε} {rest : Except ε α}
    {result : α} :
    (if refused then .error err else rest) = .ok result ↔ ¬ refused ∧ rest = .ok result := by
  by_cases condition : refused <;> simp [condition]

theorem map_eq_ok_iff {transaction : Except ε α} {report : α → β} {result : β} :
    transaction.map report = .ok result ↔
      ∃ value, transaction = .ok value ∧ report value = result := by
  cases transaction with
  | error err | ok value => simp [Except.map]

/-- The state left behind by a transaction: its result when it commits, the
old state when it fails. -/
def commit (state : α) : Except ε α → α
  | .ok next => next
  | .error _ => state

@[simp]
theorem commit_ok (state next : α) : commit state (.ok next : Except ε α) = next := rfl

@[simp]
theorem commit_error (state : α) (err : ε) : commit state (.error err : Except ε α) = state := rfl

theorem commit_invariant {holds : α → Prop} {state : α} {transaction : Except ε α}
    (before : holds state) (after : ∀ next, transaction = .ok next → holds next) :
    holds (commit state transaction) := by
  cases outcome : transaction with
  | ok next => exact after next outcome
  | error err => exact before

section

variable {γ : Type w} {step : α → γ → Except ε α} {items : List γ} {start result : α}

theorem foldlM_invariant (holds : α → Prop)
    (preserved : ∀ state item next, item ∈ items →
      step state item = .ok next → holds state → holds next)
    (done : items.foldlM step start = .ok result) (initially : holds start) :
    holds result := by
  induction items generalizing start with
  | nil =>
    cases done
    exact initially
  | cons item rest ih =>
    obtain ⟨next, first, remaining⟩ := bind_ok_iff.mp done
    refine ih ?_ remaining ?_
    · intro state later next member
      exact preserved state later next (List.mem_cons_of_mem item member)
    · exact preserved start item next List.mem_cons_self first initially

/-- The same for a property that also speaks of the items still to come. -/
theorem foldlM_remaining_invariant (holds : List γ → α → Prop)
    (preserved : ∀ state item rest next,
      step state item = .ok next → holds (item :: rest) state → holds rest next)
    (done : items.foldlM step start = .ok result) (initially : holds items start) :
    holds [] result := by
  induction items generalizing start with
  | nil =>
    cases done
    exact initially
  | cons item rest ih =>
    obtain ⟨next, first, remaining⟩ := bind_ok_iff.mp done
    exact ih remaining (preserved start item rest next first initially)

end

end Sequencing

section Runs

variable {σ : Type u} {α : Type v}

def execute (step : σ → α → σ) (start : σ) (actions : List α) : σ := actions.foldl step start

/-- Every action of the run meets the guard in the state it starts from. -/
def GuardedRun (step : σ → α → σ) (guard : σ → α → Prop) : σ → List α → Prop
  | _, [] => True
  | state, action :: rest => guard state action ∧ GuardedRun step guard (step state action) rest

instance decidableGuardedRun
    (step : σ → α → σ) (guard : σ → α → Prop)
    [∀ state action, Decidable (guard state action)] :
    ∀ start actions, Decidable (GuardedRun step guard start actions)
  | _, [] => isTrue trivial
  | start, action :: rest =>
    haveI := decidableGuardedRun step guard (step start action) rest
    inferInstanceAs (Decidable (_ ∧ _))

/-- A computation that is known to succeed has a result. -/
theorem exists_ok {ε α : Type} {outcome : Except ε α} {holds : α → Prop}
    (ok : outcome.toBool = true) (then_ : ∀ value, outcome = .ok value → holds value) :
    ∃ value, outcome = .ok value ∧ holds value := by
  cases outcome with
  | error err => cases ok
  | ok value => exact ⟨value, rfl, then_ value rfl⟩

@[simp]
theorem execute_nil (step : σ → α → σ) (start : σ) : execute step start [] = start := rfl

@[simp]
theorem execute_cons (step : σ → α → σ) (start : σ) (action : α) (rest : List α) :
    execute step start (action :: rest) = execute step (step start action) rest :=
  rfl

theorem execute_append (step : σ → α → σ) (start : σ) (first second : List α) :
    execute step start (first ++ second) = execute step (execute step start first) second :=
  List.foldl_append

variable {step : σ → α → σ} {guard : σ → α → Prop}

theorem GuardedRun.invariant {holds : σ → Prop}
    (preserved : ∀ state action, guard state action → holds state → holds (step state action)) :
    ∀ {actions : List α} {start : σ},
      GuardedRun step guard start actions → holds start → holds (execute step start actions)
  | [], _, _, initially => initially
  | action :: rest, start, run, initially => by
      obtain ⟨allowed, restRun⟩ := run
      rw [execute_cons]
      exact GuardedRun.invariant preserved restRun (preserved start action allowed initially)

theorem GuardedRun.mono {strict lax : σ → α → Prop}
    (weaker : ∀ state action, strict state action → lax state action) :
    ∀ {actions : List α} {start : σ},
      GuardedRun step strict start actions → GuardedRun step lax start actions
  | [], _, _ => trivial
  | action :: _, start, run => ⟨weaker start action run.1, GuardedRun.mono weaker run.2⟩

theorem guardedRun_append :
    ∀ {first second : List α} {start : σ},
      GuardedRun step guard start (first ++ second) ↔
        GuardedRun step guard start first ∧ GuardedRun step guard (execute step start first) second
  | [], _, _ => by
      simp [GuardedRun]
  | action :: rest, second, start => by
      rw [List.cons_append, GuardedRun, GuardedRun, execute_cons, guardedRun_append, and_assoc]

/-- A run is guarded when every action of it meets the guard after the actions
before it. -/
theorem guardedRun_iff_prefixes :
    ∀ {actions : List α} {start : σ},
      GuardedRun step guard start actions ↔ ∀ initial action, initial ++ [action] <+: actions →
          guard (execute step start initial) action
  | [], start => by
      refine ⟨fun _ initial action isPrefix => ?_, fun _ => trivial⟩
      have length := isPrefix.length_le
      simp at length
  | first :: rest, start => by
      rw [GuardedRun, guardedRun_iff_prefixes]
      constructor
      · rintro ⟨allowed, restAllowed⟩ initial action isPrefix
        cases initial with
        | nil =>
          obtain ⟨rfl, _⟩ := List.cons_prefix_cons.mp isPrefix
          exact allowed
        | cons other others =>
          obtain ⟨rfl, restPrefix⟩ := List.cons_prefix_cons.mp isPrefix
          exact restAllowed others action restPrefix
      · intro allowed
        refine ⟨allowed [] first (List.prefix_append [first] rest), ?_⟩
        intro initial action isPrefix
        exact allowed (first :: initial) action (List.cons_prefix_cons.mpr ⟨rfl, isPrefix⟩)

end Runs

end Transactions
