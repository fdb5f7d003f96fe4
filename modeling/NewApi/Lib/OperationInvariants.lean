import NewApi.Lib.Interleaving

/-!
# Invariants of the operations

When every operation keeps an invariant of the shared state, all runs do,
whatever the programs are.  A program restricts which operations are performed,
and a guard the states in which they are.
-/

namespace Interleaving

open Transactions Machine

variable {Op : Type} {Answer : Op → Type} {C E S R α β : Type}

namespace Program

/-- Every operation that the program may perform is allowed. -/
def Every (allowed : Op → Prop) : Program Answer α → Prop
  | .done _ => True
  | .call op next => allowed op ∧ ∀ answer, (next answer).Every allowed

def Next (test : Op → Prop) : Program Answer α → Prop
  | .done _ => True
  | .call op _ => test op

instance decidableNext (test : Op → Prop) [DecidablePred test] :
    (program : Program Answer α) → Decidable (program.Next test)
  | .done _ => isTrue trivial
  | .call op _ => inferInstanceAs (Decidable (test op))

variable {allowed : Op → Prop}

theorem every_bind {program : Program Answer α} {rest : α → Program Answer β}
    (first : program.Every allowed) (second : ∀ result, (rest result).Every allowed) :
    (program >>= rest).Every allowed := by
  induction program with
  | done result => exact second result
  | call op next ih =>
    obtain ⟨isAllowed, continues⟩ := first
    exact ⟨isAllowed, fun answer => ih answer (continues answer)⟩

end Program

/-- The operation that is performed next passes in the state it meets. -/
def OnStep (test : Op → S → Prop) (config : Config Answer C S R) :
    Action C E → Prop
  | .start _ => True
  | .outside _ => True
  | .step number => ∀ thread ∈ config.threads[number]?,
      thread.program.Next fun op => test op config.shared

instance decidableOnStep (test : Op → S → Prop)
    [∀ op shared, Decidable (test op shared)] (config : Config Answer C S R) :
    (action : Action C E) → Decidable (OnStep test config action)
  | .start _ => isTrue trivial
  | .outside _ => isTrue trivial
  | .step _ => inferInstanceAs (Decidable (∀ thread ∈ _, _))

section Runs

variable {machine : Machine Answer C E S R} {allowed : Op → Prop}
  {test : Op → S → Prop} {invariant : S → Prop}

/-- The programs of the calls perform allowed operations only. -/
def Allowed (allowed : Op → Prop) (config : Config Answer C S R) : Prop :=
  ∀ thread ∈ config.threads, thread.program.Every allowed

variable {config : Config Answer C S R}

theorem allowed_act (code : ∀ call, (machine.code call).Every allowed)
    (programs : Allowed allowed config) (action : Action C E) :
    Allowed allowed (machine.act config action) := by
  cases action with
  | start call =>
    intro thread listed
    rcases List.mem_append.mp listed with old | new
    · exact programs thread old
    · rw [List.mem_singleton.mp new]
      exact code call
  | outside event => exact programs
  | step number =>
    cases found : config.threads[number]? with
    | none => simpa only [act, found] using programs
    | some running =>
      have runs := programs running (List.mem_of_getElem? found)
      simp only [act, found]
      intro thread listed
      rcases List.mem_or_eq_of_mem_set listed with old | new
      · exact programs thread old
      cases code : running.program with
      | done result =>
        rw [new, advance, code]
        exact runs
      | call op next =>
        rw [code] at runs
        simp only [new, advance, code]
        exact runs.2 _

theorem shared_act (perform : ∀ op shared, allowed op → test op shared → invariant shared →
      invariant (machine.perform op shared).1)
    (outside : ∀ event shared, invariant shared → invariant (machine.outside event shared))
    (programs : Allowed allowed config)
    (keeps : invariant config.shared) {action : Action C E} (passes : OnStep test config action) :
    invariant (machine.act config action).shared := by
  cases action with
  | start call => exact keeps
  | outside event => exact outside event config.shared keeps
  | step number =>
    cases found : config.threads[number]? with
    | none => simpa only [act, found] using keeps
    | some running =>
      have runs := programs running (List.mem_of_getElem? found)
      have next := passes running found
      simp only [act, found]
      cases code : running.program with
      | done result =>
        rw [advance, code]
        exact keeps
      | call op rest =>
        rw [code] at runs next
        simp only [advance, code]
        exact perform op config.shared runs.1 next keeps

/-- What the allowed operations keep in the states that pass, all runs keep. -/
theorem shared_run (code : ∀ call, (machine.code call).Every allowed)
    (perform : ∀ op shared, allowed op → test op shared → invariant shared →
      invariant (machine.perform op shared).1)
    (outside : ∀ event shared, invariant shared → invariant (machine.outside event shared))
    {actions : List (Action C E)}
    (programs : Allowed allowed config) (keeps : invariant config.shared)
    (passes : GuardedRun machine.act (OnStep test) config actions) :
    invariant (machine.run config actions).shared := by
  let keepsBoth : Config Answer C S R → Prop := fun config =>
    Allowed allowed config ∧ invariant config.shared
  have both : keepsBoth (machine.run config actions) := by
    apply passes.invariant
    · rintro state action passesHere ⟨programsHere, keepsHere⟩
      exact ⟨allowed_act code programsHere action,
          shared_act perform outside programsHere keepsHere passesHere⟩
    · exact ⟨programs, keeps⟩
  exact both.2

end Runs

end Interleaving
