import NewApi.Referral.Bindings

/-!
# The inviter graph

The chain of inviters that a binding checks can only change at its end before
the insert.  In every run in which no such row gets its binding between a check
and the insert it allows, the inviter graph stays a forest; otherwise four calls
with disjoint pairs of locks close a cycle.
-/

namespace NewApi.Referral

open Forest GoStrings Transactions BindState

/-- The inviter relation: at most one inviter per user, and no user above
itself. -/
structure InviterForest (state : BindState) : Prop where
  single : ∀ first ∈ state.bindings.rows, ∀ second ∈ state.bindings.rows,
    first.inviteeUserId = second.inviteeUserId → first = second
  acyclic : Acyclic state.inviter

/-- The rows of the table are well formed: every inviter is a user id. -/
def PositiveInviters (state : BindState) : Prop :=
  ∀ user above, state.inviter user = some above → 0 < above

/-- The user at whom the walk of a call that has not inserted yet found the
end of the chain. -/
def Binder.chainEnd (binder : Binder) : Option Int :=
  match binder.phase with
  | .inserting _ current => some current
  | _ => none

/-- The step does not bind a user at whom the walk of another call, which has
not inserted yet, found the end of the chain. -/
def KeepsChainEnds (state : BindState) : BindAction → Prop
  | .advance index =>
    ∀ binder ∈ state.binders[index]?, binder.chainEnd ≠ none →
      ∀ other ∈ state.binders, other.chainEnd ≠ some binder.call.inviteeUserId
  | _ => True

instance (state : BindState) : (action : BindAction) →
    Decidable (KeepsChainEnds state action)
  | .advance index =>
    match found : state.binders[index]? with
    | none => isTrue (by simp [KeepsChainEnds, found])
    | some binder =>
      decidable_of_iff
        (binder.chainEnd ≠ none → ∀ other ∈ state.binders,
          other.chainEnd ≠ some binder.call.inviteeUserId)
        (by simp [KeepsChainEnds, found])
  | .call _ => isTrue trivial
  | .fail _ => isTrue trivial

section Invariant

variable {mapping : CaseMapping} {affiliates : List ReferralAffiliate}
  {users : List Int} {state : BindState}

/-- What a call knows of the committed chain in each phase. -/
def ChainKnown (state : BindState) (binder : Binder) : Prop :=
  match binder.phase with
  | .lockingFirst affiliate
  | .lockingSecond affiliate
  | .checkingExisting affiliate => 0 < affiliate.userId
  | .walking affiliate current _ =>
    0 < affiliate.userId ∧ 0 < current ∧ Leads state.inviter affiliate.userId current
  | .inserting affiliate current =>
    0 < affiliate.userId ∧ Leads state.inviter affiliate.userId current ∧
      state.inviter current = none ∧ binder.call.inviteeUserId ≠ current
  | .started | .returned _ => True

structure BindInvariant (state : BindState) : Prop where
  acyclic : Acyclic state.inviter
  positive : PositiveInviters state
  known : ∀ binder ∈ state.binders, ChainKnown state binder

theorem inviter_committed (mapping : CaseMapping) (state : BindState) (binder : Binder)
    (binders : List Binder) (user : Int) :
    let later : BindState :=
      { bindings := committedBindings mapping state binder, binders := binders }
    later.inviter user = state.inviter user ∨
      ∃ affiliate current, binder.phase = .inserting affiliate current ∧
        state.inviter user = none ∧ user = binder.call.inviteeUserId ∧
          later.inviter user = some affiliate.userId := by
  intro later
  cases phase : binder.phase with
  | inserting affiliate current =>
    have table : later.bindings =
        state.bindings.insertIgnore (newBinding mapping binder.call affiliate) := by
      simp only [later, committedBindings, phase]
    simp only [inviter, table, KeyedTable.lookup_insertIgnore]
    cases found : state.bindings.lookup user with
    | some old => exact Or.inl rfl
    | none =>
      by_cases target : binder.call.inviteeUserId = user
      · right
        refine ⟨affiliate, current, rfl, rfl, target.symm, ?_⟩
        simp [newBinding, target]
      · left
        simp [newBinding, target]
  | started | lockingFirst _ | lockingSecond _ | checkingExisting _ =>
    exact Or.inl (by simp [later, committedBindings, phase, inviter])
  | walking _ _ _ | returned _ => exact Or.inl (by simp [later, committedBindings, phase, inviter])

variable {binder : Binder}

theorem ChainKnown.later {later : BindState} (known : ChainKnown state binder)
    (kept : ∀ user above, state.inviter user = some above → later.inviter user = some above)
    (ends : ∀ last, binder.chainEnd = some last →
      state.inviter last = none → later.inviter last = none) :
    ChainKnown later binder := by
  obtain ⟨call, phase⟩ := binder
  cases phase with
  | started => trivial
  | lockingFirst affiliate | lockingSecond affiliate | checkingExisting affiliate => exact known
  | walking affiliate current visited => exact ⟨known.1, known.2.1, Leads.mono kept known.2.2⟩
  | inserting affiliate current =>
    have bare : state.inviter current = none := known.2.2.1
    exact ⟨known.1, Leads.mono kept known.2.1, ends current rfl bare, known.2.2.2⟩
  | returned error => trivial

theorem startBinding_cases (mapping : CaseMapping) (affiliates : List ReferralAffiliate)
    (call : BindCall) :
    (∃ error, startBinding mapping affiliates call = .returned error) ∨
      ∃ affiliate, startBinding mapping affiliates call = .lockingFirst affiliate ∧
        0 < affiliate.userId := by
  simp only [startBinding]
  by_cases skipped : call.inviteeUserId ≤ 0 ∨ call.enabled = false
  · exact Or.inl ⟨none, if_pos skipped⟩
  rw [if_neg skipped]
  by_cases blank : toUpper mapping (trimSpace call.code) = ""
  · exact Or.inl ⟨none, if_pos blank⟩
  rw [if_neg blank]
  cases affiliates.find? (fun affiliate =>
      affiliate.inviteCode = toUpper mapping (trimSpace call.code)) with
  | none => exact Or.inl ⟨none, rfl⟩
  | some affiliate =>
    simp only
    by_cases unfit : affiliate.status ≠ .approved ∨ affiliate.acquisitionEnabled = false
    · exact Or.inl ⟨none, if_pos unfit⟩
    rw [if_neg unfit]
    by_cases same : affiliate.userId = call.inviteeUserId
    · exact Or.inl ⟨some .selfInvite, if_pos same⟩
    rw [if_neg same]
    by_cases invalid : affiliate.userId ≤ 0
    · exact Or.inl ⟨some .invalidUsers, if_pos invalid⟩
    · exact Or.inr ⟨affiliate, if_neg invalid, lt_of_not_ge invalid⟩

theorem chainKnown_startBinding (call : BindCall) :
    ChainKnown state { call := call, phase := startBinding mapping affiliates call } := by
  rcases startBinding_cases mapping affiliates call
    with ⟨error, ended⟩ | ⟨affiliate, locking, positive⟩
  · rw [ended]
    trivial
  · rw [locking]
    exact positive

/-- A round of the walk moves one pointer up, or finds the end of the chain. -/
theorem chainKnown_hasBindingCycle {call : BindCall} {affiliate : ReferralAffiliate} {current : Int}
    {visited : List Int} (positives : PositiveInviters state)
    (inviter : 0 < affiliate.userId) (positive : 0 < current)
    (chain : Leads state.inviter affiliate.userId current) :
    ChainKnown state
      { call := call
        phase := hasBindingCycle state affiliate call.inviteeUserId current visited } := by
  unfold hasBindingCycle
  rw [if_neg (not_le.mpr positive)]
  by_cases atInvitee : current = call.inviteeUserId
  · rw [if_pos atInvitee]
    trivial
  · rw [if_neg atInvitee]
    by_cases seen : current ∈ visited
    · rw [if_pos seen]
      trivial
    · rw [if_neg seen]
      cases found : state.bindings.lookup current with
      | none =>
        have bare : state.inviter current = none := by simp [BindState.inviter, found]
        exact ⟨inviter, chain, bare, Ne.symm atInvitee⟩
      | some binding =>
        have pointer : state.inviter current = some binding.inviterUserId := by
          simp [BindState.inviter, found]
        exact ⟨inviter, positives current _ pointer, chain.tail pointer⟩

/-- The next phase of a call knows its part of the chain in the table that the
call read. -/
theorem chainKnown_nextPhase {index : Nat} (positives : PositiveInviters state)
    (known : ChainKnown state binder) :
    ChainKnown state
      { binder with
        phase := nextPhase mapping affiliates users state index binder } := by
  obtain ⟨call, phase⟩ := binder
  cases phase with
  | started => exact chainKnown_startBinding call
  | lockingFirst affiliate =>
    simp only [nextPhase]
    split
    · exact known
    · exact known
  | lockingSecond affiliate =>
    simp only [nextPhase]
    split
    · exact known
    · split
      · exact known
      · trivial
  | checkingExisting affiliate =>
    simp only [nextPhase]
    split
    · trivial
    · exact ⟨known, known, Relation.ReflTransGen.refl⟩
  | walking affiliate current visited =>
    exact chainKnown_hasBindingCycle positives known.1 known.2.1 known.2.2
  | inserting affiliate current => trivial
  | returned error => trivial

/-- One statement of a call keeps the invariant when it spares the chain ends
of the others. -/
theorem BindInvariant.advance {index : Nat}
    (invariant : BindInvariant state) (present : state.binders[index]? = some binder)
    (spares : KeepsChainEnds state (.advance index)) :
    BindInvariant
      { bindings := committedBindings mapping state binder
        binders :=
          state.binders.set index
            { binder with
              phase := nextPhase mapping affiliates users state index binder } } := by
  have member : binder ∈ state.binders := List.mem_of_getElem? present
  have table := fun binders user => inviter_committed mapping state binder binders user
  have kept : ∀ binders user above, state.inviter user = some above →
      ({ bindings := committedBindings mapping state binder,
         binders := binders } : BindState).inviter user = some above := by
    intro binders user above pointer
    rcases table binders user with same | ⟨_, _, _, bare, _⟩
    · rw [same]
      exact pointer
    · rw [bare] at pointer
      cases pointer
  refine ⟨?_, ?_, ?_⟩
  · -- Either no pointer is new, or the one of an inserting call is.
    by_cases unchanged : ∀ user,
        (BindState.mk (committedBindings mapping state binder)
          (state.binders.set index
            { binder with phase := nextPhase mapping affiliates users state index binder })).inviter
            user = state.inviter user
    · rw [funext unchanged]
      exact invariant.acyclic
    · obtain ⟨user, changed⟩ := not_forall.mp unchanged
      rcases table _ user with same | ⟨affiliate, current, phase, bare, target, _⟩
      · exact absurd same changed
      have known := invariant.known binder member
      simp only [ChainKnown, phase] at known
      obtain ⟨_, chain, ends, elsewhere⟩ := known
      rw [target] at bare
      apply invariant.acyclic.link ?_ bare chain ends elsewhere
      intro other
      rcases table _ other with same | ⟨_, _, phase', _, target', linked⟩
      · exact Or.inl same
      · rw [phase] at phase'
        cases phase'
        exact Or.inr ⟨target', linked⟩
  · intro user above pointer
    rcases table _ user with same | ⟨affiliate, current, phase, _, _, linked⟩
    · rw [same] at pointer
      exact invariant.positive user above pointer
    · have known := invariant.known binder member
      simp only [ChainKnown, phase] at known
      have target : affiliate.userId = above := Option.some.inj (linked.symm.trans pointer)
      rw [← target]
      exact known.1
  · intro later listed
    rcases List.mem_or_eq_of_mem_set listed with old | new
    · apply (invariant.known later old).later (kept _)
      intro last chainEnd bare
      rcases table _ last with same | ⟨_, current, inserting, _, target, _⟩
      · rw [same]
        exact bare
      · have inserts : binder.chainEnd ≠ none := by simp [Binder.chainEnd, inserting]
        rw [target] at chainEnd
        exact absurd chainEnd (spares binder present inserts later old)
    · rw [new]
      have next : ChainKnown state
          { binder with phase := nextPhase mapping affiliates users state index binder } :=
        chainKnown_nextPhase invariant.positive (invariant.known binder member)
      apply next.later (kept _)
      intro last chainEnd bare
      rcases table _ last with same | ⟨_, _, inserting, _⟩
      · rw [same]
        exact bare
      · simp [Binder.chainEnd, nextPhase, inserting] at chainEnd

/-- A call that waits for nothing and inserts nothing leaves the table as it
is, and what the others know of it. -/
theorem BindInvariant.frame {binders : List Binder} (invariant : BindInvariant state)
    (known : ∀ binder ∈ binders, ChainKnown state binder) :
    BindInvariant { state with binders := binders } where
  acyclic := invariant.acyclic
  positive := invariant.positive
  known := fun binder listed =>
    (known binder listed).later (fun _ _ pointer => pointer) (fun _ _ bare => bare)

/-- One statement of a call keeps the forest, whatever the other calls do. -/
theorem BindInvariant.step {action : BindAction}
    (spares : KeepsChainEnds state action) (invariant : BindInvariant state) :
    BindInvariant (bindStep mapping affiliates users state action) := by
  cases action with
  | call call =>
    apply invariant.frame
    intro binder listed
    rcases List.mem_append.mp listed with old | new
    · exact invariant.known binder old
    · rw [List.mem_singleton.mp new]
      trivial
  | advance index =>
    cases present : state.binders[index]? with
    | none =>
      simp only [bindStep, present]
      exact invariant
    | some binder =>
      simp only [bindStep, present]
      exact invariant.advance present spares
  | fail index =>
    cases present : state.binders[index]? with
    | none =>
      simp only [bindStep, present]
      exact invariant
    | some binder =>
      have rolledBack : BindInvariant
          { state with
            binders :=
              state.binders.set index { binder with phase := .returned (some .database) } } := by
        apply invariant.frame
        intro other listed
        rcases List.mem_or_eq_of_mem_set listed with old | new
        · exact invariant.known other old
        · rw [new]
          trivial
      simp only [bindStep, present]
      cases binder.phase with
      | returned error => exact invariant
      | _ => exact rolledBack

end Invariant

theorem InviterForest.of_invariant {state : BindState} (invariant : BindInvariant state) :
    InviterForest state where
  single := fun _ firstRow _ secondRow same =>
    List.inj_on_of_nodup_map state.bindings.unique firstRow secondRow same
  acyclic := invariant.acyclic

/-- In every run whose inserts spare the chain ends that other calls rely on,
the inviter graph is a forest after every step. -/
theorem inviters_stay_forest (mapping : CaseMapping) (affiliates : List ReferralAffiliate)
    (users : List Int) (start : BindState) (noCalls : start.binders = [])
    (forest : InviterForest start) (positive : PositiveInviters start) (done rest : List BindAction)
    (spares : GuardedRun (bindStep mapping affiliates users) KeepsChainEnds start (done ++ rest)) :
    InviterForest (execute (bindStep mapping affiliates users) start done) := by
  have initially : BindInvariant start := by
    refine ⟨forest.acyclic, positive, ?_⟩
    intro binder listed
    rw [noCalls] at listed
    cases listed
  have doneSpares := (guardedRun_append.mp spares).1
  apply InviterForest.of_invariant
  exact doneSpares.invariant (fun _ _ allowed invariant => BindInvariant.step allowed invariant)
      initially

def crossedAffiliates : List ReferralAffiliate :=
  [(1, "A"), (2, "B"), (3, "C"), (4, "D")].map fun (user, code) =>
    { id := user
      userId := user
      inviteCode := code
      status := .approved
      acquisitionEnabled := true
      settlementEnabled := true
      withdrawalEnabled := true }

def bindCall (inviteeUserId : Int) (code : String) : BindAction :=
  .call
    { inviteeUserId := inviteeUserId
      code := code
      bindSource := "code"
      enabled := true }

def bindAlone (index : Nat) : List BindAction := List.replicate 6 (.advance index)

def BindState.empty : BindState where
  bindings := .empty
  binders := []

/-- Users 1 and 3 bind in turns, user 2 joins their chains, and user 4, at the
end of the chain, asks for user 1 above it. -/
def chainedBindings : List BindAction :=
  [bindCall 1 "B", bindCall 3 "D"] ++ (List.range 12).map (fun turn => .advance (turn % 2)) ++
    [bindCall 2 "C"] ++ bindAlone 2 ++ [.advance 2, bindCall 4 "A"] ++ bindAlone 3 ++ bindAlone 3

theorem inviters_stay_forest_of_chain :
    InviterForest
        (execute (bindStep CaseMapping.ascii crossedAffiliates [1, 2, 3, 4]) BindState.empty
          chainedBindings) ∧
      [1, 2, 3, 4].map (execute (bindStep CaseMapping.ascii crossedAffiliates [1, 2, 3, 4])
        BindState.empty chainedBindings).inviter = [some 2, some 3, some 4, none] := by
  refine ⟨?_, by decide +kernel⟩
  apply inviters_stay_forest CaseMapping.ascii crossedAffiliates [1, 2, 3, 4]
    BindState.empty rfl _ _ chainedBindings []
  · decide +kernel
  · refine ⟨?_, acyclic_of_no_pointer (fun _ => rfl)⟩
    intro first listed
    cases listed
  · intro user above bound
    cases bound

/-- Users 1 and 3 are bound first.  Users 2 and 4 then bind at the same time:
their rows are disjoint, and each walk ends at the other one. -/
def crossedBindings : List BindAction :=
  [bindCall 1 "B", bindCall 3 "D", bindCall 2 "C", bindCall 4 "A"] ++
    bindAlone 0 ++ bindAlone 1 ++ bindAlone 2 ++ bindAlone 3 ++
      [.advance 2, .advance 3]

def crossedEnd : BindState :=
  execute (bindStep CaseMapping.ascii crossedAffiliates [1, 2, 3, 4])
    BindState.empty crossedBindings

/-- The four bindings are committed and close a cycle. -/
theorem crossed_bindings_close_cycle : ¬InviterForest crossedEnd := by
  intro forest
  have pointer : ∀ user above : Int, crossedEnd.inviter user = some above →
      Points crossedEnd.inviter user above := fun _ _ bound => bound
  have first := pointer 1 2 (by decide +kernel)
  have second := pointer 2 3 (by decide +kernel)
  have third := pointer 3 4 (by decide +kernel)
  have fourth := pointer 4 1 (by decide +kernel)
  apply forest.acyclic 1
  exact (((Relation.TransGen.single first).tail second).tail third).tail fourth

end NewApi.Referral
