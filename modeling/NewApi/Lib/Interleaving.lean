import NewApi.Lib.Transactions

/-!
# Programs of atomic steps

Concurrent calls run programs whose steps are operations on one shared state;
between two operations of a call other calls may take any number of steps.  A
contract says what a call relies on, guarantees and achieves.  `Meets` is
checked for one program at a time; `Kept` then holds along every run.
-/

namespace Interleaving

open Transactions

/-- A program: operations, each continued by what it answers. -/
inductive Program {Op : Type} (Answer : Op → Type) (α : Type) where
  | done (result : α)
  | call (op : Op) (next : Answer op → Program Answer α)

namespace Program

variable {Op : Type} {Answer : Op → Type} {α β : Type}

def bind : Program Answer α → (α → Program Answer β) → Program Answer β
  | .done result, rest => rest result
  | .call op next, rest => .call op fun answer => (next answer).bind rest

instance : Monad (Program Answer) where
  pure := .done
  bind := bind

def returned : Program Answer α → Option α
  | .done result => some result
  | .call _ _ => none

def perform (op : Op) : Program Answer (Answer op) := .call op .done

theorem returned_eq_some {program : Program Answer α} {result : α} :
    program.returned = some result ↔ program = .done result := by
  cases program with
  | done other | call op next => simp [returned]

end Program

section Machines

variable {Op : Type} (Answer : Op → Type) (C E S R : Type)

/-- The operations that a call has performed, with the states they met. -/
abbrev Trace (Op S : Type) := List (Op × S)

/-- A call in progress, or returned when its program is done. -/
structure Thread where
  call : C
  program : Program Answer R
  trace : Trace Op S

/-- The shared state and the calls so far, in the order they were started. -/
structure Config where
  shared : S
  threads : List (Thread Answer C S R)

inductive Action where
  | start (call : C)
  | step (thread : Nat)
  | outside (event : E)
deriving DecidableEq

/-- The code of the calls, what the operations do and what happens outside. -/
structure Machine where
  code : C → Program Answer R
  perform : (op : Op) → S → S × Answer op
  outside : E → S → S

variable {Answer C E S R}

def Machine.advance (machine : Machine Answer C E S R) (shared : S)
    (thread : Thread Answer C S R) : S × Thread Answer C S R :=
  match thread.program with
  | .done _ => (shared, thread)
  | .call op next =>
    ((machine.perform op shared).1,
      { thread with
        program := next (machine.perform op shared).2
        trace := thread.trace ++ [(op, shared)] })

def Machine.act (machine : Machine Answer C E S R) (config : Config Answer C S R) :
    Action C E → Config Answer C S R
  | .start call =>
    { config with threads := config.threads ++ [⟨call, machine.code call, []⟩] }
  | .step thread =>
    match config.threads[thread]? with
    | none => config
    | some running =>
      ⟨(machine.advance config.shared running).1,
        config.threads.set thread (machine.advance config.shared running).2⟩
  | .outside event =>
    { config with shared := machine.outside event config.shared }

def Machine.run (machine : Machine Answer C E S R) (config : Config Answer C S R)
    (actions : List (Action C E)) : Config Answer C S R :=
  execute machine.act config actions

end Machines

section Contracts

variable {Op : Type} {Answer : Op → Type} {C E S R α β : Type}

/-- What a call relies on, may assume at its operations, ensures of them and
guarantees to the others. -/
structure Contract (Op S : Type) where
  rely : S → S → Prop
  guarantee : S → S → Prop
  assume : Trace Op S → Op → S → Prop
  ensure : Trace Op S → Op → S → Prop

variable (perform : (op : Op) → S → S × Answer op) (invariant : S → Prop) (contract : Contract Op S)

def Meets (post : Trace Op S → α → S → Prop) :
    Program Answer α → Trace Op S → S → Prop
  | .done result, trace, state => ∀ later, contract.rely state later →
      invariant later → post trace result later
  | .call op next, trace, state => ∀ later, contract.rely state later →
      invariant later → contract.assume trace op later →
        contract.ensure trace op later ∧
          contract.guarantee later (perform op later).1 ∧
          invariant (perform op later).1 ∧
          Meets post (next (perform op later).2) (trace ++ [(op, later)]) (perform op later).1

variable {perform invariant contract}

variable {post : Trace Op S → α → S → Prop} {program : Program Answer α}
  {trace : Trace Op S} {state : S}

/-- A program that keeps its contract does so after steps of the others. -/
theorem Meets.later
    (transitive : ∀ {first second third}, contract.rely first second →
      contract.rely second third → contract.rely first third) {next : S}
    (meets : Meets perform invariant contract post program trace state)
    (relied : contract.rely state next) :
    Meets perform invariant contract post program trace next := by
  cases program with
  | done result | call op rest =>
    intro later step
    exact meets later (transitive relied step)

theorem meets_bind (reflexive : ∀ state, contract.rely state state)
    {post : Trace Op S → β → S → Prop} {rest : α → Program Answer β}
    (invariantNow : invariant state)
    (meets : Meets perform invariant contract
      (fun trace result state => Meets perform invariant contract post (rest result) trace state)
      program trace state) :
    Meets perform invariant contract post (program >>= rest) trace state := by
  induction program generalizing trace state with
  | done result => exact meets state (reflexive state) invariantNow
  | call op next ih =>
    intro later relied invariantLater assumed
    obtain ⟨ensured, guaranteed, kept, remaining⟩ := meets later relied invariantLater assumed
    exact ⟨ensured, guaranteed, kept, ih _ kept remaining⟩

variable {strong loose : Trace Op S → α → S → Prop}

theorem Meets.mono_step {other : Contract Op S}
    (meets : Meets perform invariant contract strong program trace state)
    (rely : ∀ first second, other.rely first second → contract.rely first second)
    (assume : ∀ trace op state, other.assume trace op state → contract.assume trace op state)
    (step : ∀ trace op state, other.assume trace op state →
      contract.ensure trace op state →
        contract.guarantee state (perform op state).1 →
          other.ensure trace op state ∧ other.guarantee state (perform op state).1)
    (post : ∀ trace result state, invariant state →
      strong trace result state → loose trace result state) :
    Meets perform invariant other loose program trace state := by
  induction program generalizing trace state with
  | done result =>
    intro later relied invariantLater
    exact post trace result later invariantLater (meets later (rely _ _ relied) invariantLater)
  | call op next ih =>
    intro later relied invariantLater assumed
    obtain ⟨ensured, guaranteed, kept, remaining⟩ :=
      meets later (rely _ _ relied) invariantLater (assume _ _ _ assumed)
    obtain ⟨ensuredOther, guaranteedOther⟩ := step trace op later assumed ensured guaranteed
    exact ⟨ensuredOther, guaranteedOther, kept, ih _ remaining⟩

theorem Meets.mono {weak : Contract Op S}
    (meets : Meets perform invariant contract strong program trace state)
    (rely : ∀ first second, weak.rely first second → contract.rely first second)
    (assume : ∀ trace op state, weak.assume trace op state → contract.assume trace op state)
    (ensure : ∀ trace op state, contract.ensure trace op state → weak.ensure trace op state)
    (guarantee : ∀ first second, contract.guarantee first second → weak.guarantee first second)
    (post : ∀ trace result state, invariant state →
      strong trace result state → loose trace result state) :
    Meets perform invariant weak loose program trace state :=
  meets.mono_step rely assume
    (fun trace op later _ ensured guaranteed =>
      ⟨ensure trace op later ensured, guarantee _ _ guaranteed⟩)
    post

theorem Meets.weaken (meets : Meets perform invariant contract strong program trace state)
    (post : ∀ trace result state, invariant state →
      strong trace result state → loose trace result state) :
    Meets perform invariant contract loose program trace state :=
  meets.mono (fun _ _ step => step) (fun _ _ _ assumed => assumed)
    (fun _ _ _ ensured => ensured) (fun _ _ step => step) post

theorem Meets.restrict {stronger : S → Prop} (implies : ∀ state, stronger state → invariant state)
    (kept : ∀ first second, stronger first → contract.guarantee first second →
      invariant second → stronger second)
    (meets : Meets perform invariant contract post program trace state) :
    Meets perform stronger contract post program trace state := by
  induction program generalizing trace state with
  | done result =>
    intro later relied strong
    exact meets later relied (implies later strong)
  | call op next ih =>
    intro later relied strong assumed
    obtain ⟨ensured, guarantees, holds, remaining⟩ :=
      meets later relied (implies later strong) assumed
    exact ⟨ensured, guarantees, kept later _ strong guarantees holds, ih _ remaining⟩

/-- What the steps of a program and of the others keep holds of the state in
which the program returns. -/
theorem Meets.progress (progress : S → S → Prop)
    (transitive : ∀ {first second third}, progress first second →
      progress second third → progress first third)
    (relied : ∀ first second, contract.rely first second → progress first second)
    (guaranteed : ∀ first second, contract.guarantee first second →
      progress first second) {origin : S}
    (meets : Meets perform invariant contract post program trace state)
    (sofar : progress origin state) :
    Meets perform invariant contract
      (fun trace result later => post trace result later ∧ progress origin later)
      program trace state := by
  induction program generalizing trace state with
  | done result =>
    intro later step invariantLater
    exact ⟨meets later step invariantLater, transitive sofar (relied state later step)⟩
  | call op next ih =>
    intro later step invariantLater assumed
    obtain ⟨ensured, guarantees, kept, remaining⟩ := meets later step invariantLater assumed
    refine ⟨ensured, guarantees, kept, ih _ remaining ?_⟩
    exact transitive (transitive sofar (relied state later step)) (guaranteed _ _ guarantees)

end Contracts

/-! ## Runs -/

/-- An item of a list with one more item is an old one or the new one. -/
theorem append_singleton_eq_split {α : Type} {items before after : List α} {last item : α}
    (split : items ++ [last] = before ++ item :: after) :
    (∃ rest, after = rest ++ [last] ∧ items = before ++ item :: rest) ∨
      (after = [] ∧ item = last ∧ before = items) := by
  rcases List.eq_nil_or_concat after with rfl | ⟨rest, lastAfter, rfl⟩
  · obtain ⟨same, lastSame⟩ := List.append_inj' split rfl
    cases lastSame
    exact Or.inr ⟨rfl, rfl, same.symm⟩
  · have split' : items ++ [last] = (before ++ item :: rest) ++ [lastAfter] := by
      rw [split]
      simp
    obtain ⟨same, lastSame⟩ := List.append_inj' split' rfl
    cases lastSame
    exact Or.inl ⟨rest, by simp, same⟩

section Runs

variable {Op : Type} {Answer : Op → Type} {C E S R : Type}
variable (machine : Machine Answer C E S R) (invariant : S → Prop)
  (begins : Nat → C → S → Prop)
  (contract : Nat → C → Contract Op S)
  (post : Nat → C → Trace Op S → R → S → Prop)

/-- Every call in progress keeps its contract from here on, and what each of
them guarantees the others may rely on. -/
structure Kept (config : Config Answer C S R) : Prop where
  shared : invariant config.shared
  threads : ∀ number thread, config.threads[number]? = some thread →
    Meets machine.perform invariant (contract number thread.call)
      (post number thread.call) thread.program thread.trace config.shared
  ensured : ∀ number thread, config.threads[number]? = some thread →
    ∀ before op state after, thread.trace = before ++ (op, state) :: after →
      (contract number thread.call).ensure before op state
  compatible : ∀ number thread other otherThread,
    config.threads[number]? = some thread →
      config.threads[other]? = some otherThread → number ≠ other →
        ∀ first second, invariant first → invariant second →
          (contract number thread.call).guarantee first second →
            (contract other otherThread.call).rely first second

/-- What a run has to respect: a call is started where it may begin and its
contract fits those in progress, and an operation is performed when it may be
assumed. -/
def Respects (config : Config Answer C S R) : Action C E → Prop
  | .start call => begins config.threads.length call config.shared ∧
      ∀ other otherThread,
      config.threads[other]? = some otherThread →
        ∀ first second, invariant first → invariant second →
          ((contract config.threads.length call).guarantee first second →
            (contract other otherThread.call).rely first second) ∧
          ((contract other otherThread.call).guarantee first second →
            (contract config.threads.length call).rely first second)
  | .step number => ∀ thread op next,
      config.threads[number]? = some thread →
        thread.program = .call op next →
          (contract number thread.call).assume thread.trace op config.shared
  | .outside _ => True

variable {machine invariant begins contract post}

section Steps

variable
  (transitive : ∀ number call {first second third},
    (contract number call).rely first second →
      (contract number call).rely second third → (contract number call).rely first third)
  (reflexive : ∀ number call state, (contract number call).rely state state)

variable {config : Config Answer C S R}

include transitive reflexive in
/-- The step rule: the own call advances, the others rely on it. -/
theorem Kept.step {number : Nat} (kept : Kept machine invariant contract post config)
    (respects : Respects invariant begins contract config (.step number : Action C E)) :
    Kept machine invariant contract post (machine.act config (.step number)) := by
  cases found : config.threads[number]? with
  | none => simpa only [Machine.act, found] using kept
  | some thread =>
    cases code : thread.program with
    | done result =>
      have same : config.threads.set number thread = config.threads := by
        obtain ⟨inRange, entry⟩ := List.getElem?_eq_some_iff.mp found
        rw [← entry, List.set_getElem_self]
      simpa only [Machine.act, found, Machine.advance, code, same] using kept
    | call op next =>
      have meets := kept.threads number thread found
      rw [code] at meets
      obtain ⟨ensuredNow, guaranteed, keptShared, remaining⟩ :=
        meets config.shared (reflexive number thread.call _) kept.shared
          (respects thread op next found code)
      simp only [Machine.act, found, Machine.advance, code]
      refine ⟨keptShared, ?_, ?_, ?_⟩
      · intro other otherThread otherFound
        rcases eq_or_ne number other with rfl | different
        · obtain ⟨inRange, _⟩ := List.getElem?_eq_some_iff.mp found
          rw [List.getElem?_set_self inRange] at otherFound
          cases otherFound
          exact remaining
        · rw [List.getElem?_set_ne different] at otherFound
          -- The others rely on what this operation guarantees.
          exact
            (kept.threads other otherThread otherFound).later (transitive other otherThread.call)
              (kept.compatible number thread other otherThread found
                otherFound different _ _ kept.shared keptShared guaranteed)
      · intro other otherThread otherFound before otherOp state after split
        rcases eq_or_ne number other with rfl | different
        · obtain ⟨inRange, _⟩ := List.getElem?_eq_some_iff.mp found
          rw [List.getElem?_set_self inRange] at otherFound
          cases otherFound
          rcases append_singleton_eq_split split with ⟨rest, _, old⟩ | ⟨_, same, rfl⟩
          · exact kept.ensured number thread found before otherOp state rest old
          · cases same
            exact ensuredNow
        · rw [List.getElem?_set_ne different] at otherFound
          exact kept.ensured other otherThread otherFound before otherOp state after split
      · intro first firstThread second secondThread firstFound secondFound
        have calls : ∀ (index : Nat) (entry : Thread Answer C S R),
            (config.threads.set number
              { thread with
                program := next (machine.perform op config.shared).2
                trace := thread.trace ++ [(op, config.shared)]
              })[index]? = some entry →
              ∃ old : Thread Answer C S R, config.threads[index]? = some old ∧
                old.call = entry.call := by
          intro index entry entryFound
          rcases eq_or_ne number index with rfl | different
          · obtain ⟨inRange, _⟩ := List.getElem?_eq_some_iff.mp found
            rw [List.getElem?_set_self inRange] at entryFound
            cases entryFound
            exact ⟨thread, found, rfl⟩
          · rw [List.getElem?_set_ne different] at entryFound
            exact ⟨entry, entryFound, rfl⟩
        obtain ⟨firstOld, firstOldFound, firstCall⟩ := calls first firstThread firstFound
        obtain ⟨secondOld, secondOldFound, secondCall⟩ := calls second secondThread secondFound
        rw [← firstCall, ← secondCall]
        exact kept.compatible first firstOld second secondOld firstOldFound secondOldFound

theorem Kept.start {call : C} (kept : Kept machine invariant contract post config)
    (respects : Respects invariant begins contract config (.start call : Action C E))
    (meets : Meets machine.perform invariant
      (contract config.threads.length call) (post config.threads.length call)
      (machine.code call) [] config.shared) :
    Kept machine invariant contract post (machine.act config (.start call)) := by
  have entries : ∀ index (entry : Thread Answer C S R),
      (config.threads ++ [⟨call, machine.code call, []⟩])[index]? = some entry →
        config.threads[index]? = some entry ∨
          (index = config.threads.length ∧ entry = ⟨call, machine.code call, []⟩) := by
    intro index entry found
    rcases Nat.lt_or_ge index config.threads.length with inRange | beyond
    · rw [List.getElem?_append_left inRange] at found
      exact Or.inl found
    · rw [List.getElem?_append_right beyond] at found
      obtain ⟨position, same⟩ := List.getElem?_eq_some_iff.mp found
      simp only [List.length_singleton, Nat.lt_one_iff] at position
      refine Or.inr ⟨by omega, ?_⟩
      rw [← same, List.getElem_singleton]
  refine ⟨kept.shared, ?_, ?_, ?_⟩
  · intro index entry found
    rcases entries index entry found with old | ⟨rfl, rfl⟩
    · exact kept.threads index entry old
    · exact meets
  · intro index entry found before op state after split
    rcases entries index entry found with old | ⟨rfl, rfl⟩
    · exact kept.ensured index entry old before op state after split
    · simp at split
  · intro first firstThread second secondThread firstFound secondFound
      different start stop invariantStart invariantStop
    rcases entries first firstThread firstFound with old | ⟨rfl, rfl⟩ <;>
      rcases entries second secondThread secondFound with secondOld | ⟨rfl, rfl⟩
    · exact kept.compatible first firstThread second secondThread old secondOld
          different start stop invariantStart invariantStop
    · exact (respects.2 first firstThread old start stop invariantStart invariantStop).2
    · exact (respects.2 second secondThread secondOld start stop invariantStart invariantStop).1
    · exact absurd rfl different

include transitive in
theorem Kept.outside {event : E} (kept : Kept machine invariant contract post config)
    (moved : invariant (machine.outside event config.shared))
    (relied : ∀ number call, (contract number call).rely config.shared
      (machine.outside event config.shared)) :
    Kept machine invariant contract post (machine.act config (.outside event)) := by
  refine ⟨moved, ?_, kept.ensured, kept.compatible⟩
  intro index entry found
  exact
    (kept.threads index entry found).later (transitive index entry.call) (relied index entry.call)

include transitive reflexive in
/-- Contracts that every call's code meets are kept along every run that
respects them. -/
theorem Kept.run
    (code : ∀ number call state, invariant state → begins number call state →
      Meets machine.perform invariant (contract number call)
        (post number call) (machine.code call) [] state)
    (outside : ∀ event state, invariant state →
      invariant (machine.outside event state) ∧
        ∀ number call,
          (contract number call).rely state (machine.outside event state))
    {actions : List (Action C E)}
    (respects : GuardedRun machine.act (Respects invariant begins contract) config actions)
    (kept : Kept machine invariant contract post config) :
    Kept machine invariant contract post (machine.run config actions) := by
  refine respects.invariant ?_ kept
  intro state action respected keptHere
  cases action with
  | start call => exact keptHere.start respected (code _ _ _ keptHere.shared respected.1)
  | step number => exact keptHere.step transitive reflexive respected
  | outside event =>
    obtain ⟨moved, relied⟩ := outside event state.shared keptHere.shared
    exact keptHere.outside transitive moved relied

end Steps

theorem calls_act (machine : Machine Answer C E S R) (config : Config Answer C S R)
    (action : Action C E) :
    (machine.act config action).threads.map Thread.call = config.threads.map Thread.call ++
        match action with
        | .start call => [call]
        | _ => [] := by
  cases action with
  | start call => simp only [Machine.act, List.map_append, List.map_singleton]
  | outside event => simp only [Machine.act, List.append_nil]
  | step number =>
    cases found : config.threads[number]? with
    | none => simp only [Machine.act, found, List.append_nil]
    | some thread =>
      have sameCall : (machine.advance config.shared thread).2.call = thread.call := by
        unfold Machine.advance
        split <;> rfl
      obtain ⟨inRange, entry⟩ := List.getElem?_eq_some_iff.mp found
      simp only [Machine.act, found, List.append_nil, List.map_set, sameCall]
      rw [← entry, ← List.getElem_map Thread.call, List.set_getElem_self]
      simpa using inRange

end Runs

end Interleaving
