import NewApi.Channels.AbilityRows

/-!
# Abilities mirror channels

`Reflects` says that the abilities of every channel are those a rebuild from its
row would create.  Every operation keeps it, and adds only the group and model
texts that it writes.
-/

namespace NewApi.Channels

open Distinct Transactions KeyedTable

namespace RoutingTables

def ReflectsAt (tables : RoutingTables) (id : Nat) : Prop :=
  ∀ group model, tables.abilityAt group model id =
    (tables.channels.lookup id).bind fun row => row.abilityFor group model

def Reflects (tables : RoutingTables) : Prop := ∀ id, tables.ReflectsAt id

def NamesFrom (written : List (String × String)) (tables next : RoutingTables) : Prop :=
  ∀ id row, next.channels.lookup id = some row →
    (∃ old, tables.channels.lookup id = some old ∧ row.names = old.names) ∨ row.names ∈ written

/-- What every operation does: it keeps the abilities in step with the rows
and writes no other names than `written`. -/
structure Maintains (written : List (String × String)) (tables next : RoutingTables) :
    Prop where
  reflects : tables.Reflects → next.Reflects
  names : NamesFrom written tables next

theorem reflects_empty : Reflects RoutingTables.empty := fun _ _ _ => rfl

theorem Maintains.refl (tables : RoutingTables) : Maintains [] tables tables where
  reflects := id
  names := fun _ row found => Or.inl ⟨row, found, rfl⟩

variable {tables next : RoutingTables}

theorem Maintains.trans {middle : RoutingTables} {first second : List (String × String)}
    (before : Maintains first tables middle) (after : Maintains second middle next) :
    Maintains (first ++ second) tables next where
  reflects := after.reflects ∘ before.reflects
  names := by
    intro id row found
    rcases after.names id row found with ⟨old, located, same⟩ | written
    · rcases before.names id old located with ⟨oldest, earliest, earlier⟩ | written
      · exact Or.inl ⟨oldest, earliest, same.trans earlier⟩
      · rw [← same] at written
        exact Or.inr (List.mem_append_left _ written)
    · exact Or.inr (List.mem_append_right _ written)

variable {written : List (String × String)}

theorem Maintains.weaken (maintained : Maintains [] tables next) :
    Maintains written tables next where
  reflects := maintained.reflects
  names := by
    intro id row found
    rcases maintained.names id row found with kept | contrary
    · exact Or.inl kept
    · cases contrary

theorem updateAbilities_ok {id : Nat} (rebuilt : tables.updateAbilities id = .ok next) :
    next.channels = tables.channels ∧ next.ReflectsAt id ∧
      ∀ other, other ≠ id → ∀ group model,
        next.abilityAt group model other = tables.abilityAt group model other := by
  unfold updateAbilities at rebuilt
  cases found : tables.channels.lookup id with
  | none => simp [found] at rebuilt
  | some stored =>
    have result : (tables.deleteAbilities [id]).addAbilities stored = next := by
      simpa [found] using rebuilt
    have storedId : stored.id = id := key_of_lookup found
    have rows : next.channels = tables.channels := by
      rw [← result]
      rfl
    refine ⟨rows, ?_, ?_⟩
    · intro group model
      rw [← result, abilityAt_addAbilities, abilityAt_deleteAbilities, result, rows, found]
      simp [storedId]
    · intro other different group model
      have foreign : stored.id ≠ other := by
        rw [storedId]
        exact Ne.symm different
      rw [← result, abilityAt_addAbilities, abilityAt_deleteAbilities]
      simp [foreign, different]

theorem updateAbilitiesOf_ok (ids : List Nat) :
    ∀ {tables next : RoutingTables}, tables.updateAbilitiesOf ids = .ok next →
      next.channels = tables.channels ∧
        ((∀ id, id ∉ ids → tables.ReflectsAt id) → next.Reflects) := by
  induction ids with
  | nil =>
    intro tables next done
    have same : tables = next := by simpa [updateAbilitiesOf] using done
    rw [← same]
    exact ⟨rfl, fun outside id => outside id (by simp)⟩
  | cons id ids ih =>
    intro tables next done
    obtain ⟨middle, rebuilt, rest⟩ := bind_ok_iff.mp done
    obtain ⟨rows, reflected, others⟩ := updateAbilities_ok rebuilt
    obtain ⟨restRows, reflects⟩ := ih rest
    refine ⟨restRows.trans rows, fun outside => reflects ?_⟩
    intro other absent
    by_cases same : other = id
    · rw [same]
      exact reflected
    · intro group model
      rw [others other same, rows]
      exact outside other (by simp [same, absent]) group model

theorem updateAbilities_eq_of (tables : RoutingTables) (id : Nat) :
    tables.updateAbilities id = tables.updateAbilitiesOf [id] := by
  cases outcome : tables.updateAbilities id with
  | error err | ok next => simp [updateAbilitiesOf, outcome, Except.bind]

variable {change : Channel → Channel}

section

variable {test : Channel → Bool} {sameId : ∀ row, (change row).id = row.id}

theorem ReflectsAt.updateChannels {id : Nat} (before : tables.ReflectsAt id)
    (untouched : ∀ row, tables.channels.lookup id = some row → test row = false) :
    (tables.updateChannels test change sameId).ReflectsAt id := by
  intro group model
  have abilities : (tables.updateChannels test change sameId).abilityAt group
      model id = tables.abilityAt group model id := rfl
  rw [abilities, before group model, lookup_updateChannels]
  cases found : tables.channels.lookup id with
  | none => rfl
  | some row => simp [untouched row found]

theorem update_then_rebuild {ids : List Nat}
    (covered : ∀ row, tables.channels.lookup row.id = some row → test row = true → row.id ∈ ids)
    (named : ∀ row, tables.channels.lookup row.id = some row → test row = true →
      (change row).names = row.names ∨ (change row).names ∈ written)
    (rebuilt : (tables.updateChannels test change sameId).updateAbilitiesOf ids = .ok next) :
    Maintains written tables next := by
  obtain ⟨rows, reflects⟩ := updateAbilitiesOf_ok ids rebuilt
  constructor
  · intro before
    apply reflects
    intro id absent
    refine (before id).updateChannels ?_
    intro row found
    have rowId : row.id = id := key_of_lookup found
    by_cases tested : test row = true
    · rw [← rowId] at found absent
      exact absurd (covered row found tested) absent
    · simpa using tested
  · intro id row found
    rw [rows, lookup_updateChannels] at found
    obtain ⟨old, located, result⟩ := Option.map_eq_some_iff.mp found
    have oldId : old.id = id := key_of_lookup located
    by_cases tested : test old = true
    · rw [if_pos tested] at result
      rw [← result]
      rcases named old (by rw [oldId]; exact located) tested with same | listed
      · exact Or.inl ⟨old, located, same⟩
      · exact Or.inr listed
    · rw [if_neg tested] at result
      rw [← result]
      exact Or.inl ⟨old, located, rfl⟩

end

theorem Maintains.follow (change : Ability → Ability)
    (gone : ∀ id, tables.channels.lookup id = none → next.channels.lookup id = none)
    (kept : ∀ id row, tables.channels.lookup id = some row →
      ∃ new, next.channels.lookup id = some new ∧ new.names = row.names ∧
        ∀ group model, change (row.ability group model) = new.ability group model)
    (abilities : ∀ group model id, next.abilityAt group model id =
      (tables.abilityAt group model id).map change) :
    Maintains [] tables next where
  reflects := by
    intro before id group model
    rw [abilities, before id group model]
    cases found : tables.channels.lookup id with
    | none => rw [gone id found]; rfl
    | some row =>
      obtain ⟨new, located, same, changed⟩ := kept id row found
      rw [located]
      exact (abilityFor_map same changed group model).symm
  names := by
    intro id new located
    cases found : tables.channels.lookup id with
    | none =>
      rw [gone id found] at located
      cases located
    | some row =>
      obtain ⟨other, otherLocated, same, _⟩ := kept id row found
      have equal : other = new := Option.some.inj (otherLocated.symm.trans located)
      exact Or.inl ⟨row, rfl, equal ▸ same⟩

theorem Maintains.update (abilityChange : Ability → Ability)
    (rows : ∀ id, next.channels.lookup id = (tables.channels.lookup id).map change)
    (named : ∀ row, (change row).names = row.names)
    (agrees : ∀ row, tables.channels.lookup row.id = some row →
      ∀ group model, abilityChange (row.ability group model) = (change row).ability group model)
    (abilities : ∀ group model id, next.abilityAt group model id =
      (tables.abilityAt group model id).map abilityChange) :
    Maintains [] tables next := by
  refine Maintains.follow abilityChange ?_ ?_ abilities
  · intro id absent
    rw [rows, absent]
    rfl
  · intro id row found
    have rowId : row.id = id := key_of_lookup found
    refine ⟨change row, ?_, named row, ?_⟩
    · rw [rows, found]
      rfl
    · exact agrees row (by rw [rowId]; exact found)

end RoutingTables

end NewApi.Channels
