import NewApi.Lib.Persistence
import NewApi.Sessions.Tombstones

/-!
# The history of a session row

Whatever calls run, the row stays, and it is final once it is not active.
-/

namespace NewApi.Sessions

open Interleaving UserSession Shared

def SessionFollows (before after : UserSession) : Prop :=
  after.userID = before.userID ∧ after.expiresAt = before.expiresAt ∧
    before.version ≤ after.version ∧ (before.status ≠ .active → after = before)

def Shared.Follows (shared later : Shared) : Prop :=
  RowsStay SessionFollows (fun _ : Unit => shared.row) fun _ => later.row

variable {shared later : Shared} {row next : UserSession}

theorem follows_of_row (same : later.row = shared.row) : shared.Follows later :=
  .of_eq (fun _ => ⟨rfl, rfl, le_refl _, fun _ => rfl⟩) (funext fun _ => same)

theorem follows_write (found : shared.row = some row) (active : row.status = .active)
    (written : later.row = some next) (userID : next.userID = row.userID)
    (expiresAt : next.expiresAt = row.expiresAt) (version : row.version ≤ next.version) :
    shared.Follows later := by
  intro _ old oldFound
  cases found.symm.trans oldFound
  exact ⟨next, written, userID, expiresAt, version, fun inactive => absurd active inactive⟩

theorem follows_perform (ttlSeconds : Int) (op : Op) (shared : Shared) :
    shared.Follows (perform ttlSeconds op shared).1 := by
  have same : shared.Follows shared := follows_of_row rfl
  cases op with
  | eval entry expiration => exact follows_of_row (eval_frame shared entry expiration).1
  | create session =>
    simp only [perform]
    split
    · exact same
    · rename_i absent
      intro _ row found
      cases absent.symm.trans found
  | exchange userID now presentedHash nextHash limit =>
    simp only [perform]
    split
    · exact same
    rename_i found
    split_ifs with guarded
    · exact follows_write found (status_of_inactiveAt guarded.2.1) rfl rfl rfl (le_refl _)
    · exact same
  | revokeReused userID now =>
    simp only [perform]
    split
    · exact same
    rename_i found
    split_ifs with guarded
    · exact follows_write found (status_of_inactiveAt guarded.2) rfl rfl rfl (le_refl _)
    · exact same
  | advance userID now expectedSession expectedUser nextUser =>
    simp only [perform]
    split
    · exact same
    rename_i found
    split_ifs with guarded
    · exact same
    · push Not at guarded
      exact follows_write (Option.filter_eq_some_iff.mp found).1 guarded.1 rfl rfl rfl (by simp)
  | revokeOwned userID now reason =>
    simp only [perform]
    split
    · exact same
    rename_i found
    split_ifs with guarded
    · exact same
    · exact follows_write (Option.filter_eq_some_iff.mp found).1
        (status_of_inactiveAt (by simpa using guarded)) rfl rfl rfl (le_refl _)
  | revokePresented presentedHash now reason =>
    rcases perform_revokePresented ttlSeconds shared presentedHash now reason with
      done | ⟨row, fence, found, active, rfl, done | done⟩ <;> rw [done]
    · exact same
    · exact follows_of_row (eval_frame _ _ _).1
    · exact follows_write found active rfl rfl rfl (le_refl _)
  | revokeLocked now reason =>
    simp only [perform]
    split
    · exact same
    rename_i found
    obtain ⟨stored, active⟩ := Option.filter_eq_some_iff.mp found
    exact follows_write stored (of_decide_eq_true active) rfl rfl rfl (le_refl _)
  | _ => exact same

theorem session_history (ttlSeconds : Int) (config : Config Answer Call Shared (Option Outcome))
    (actions : List (Action Call Nat)) :
    config.shared.Follows ((machine ttlSeconds).run config actions).shared := by
  refine Machine.run_related (fun _ => follows_of_row rfl) ?_ (follows_perform ttlSeconds)
    (fun _ _ => follows_of_row rfl) _ _
  intro one two three first
  refine first.trans ?_
  rintro a b c ⟨user, expires, version, final⟩ ⟨user', expires', version', final'⟩
  refine ⟨user'.trans user, expires'.trans expires, version.trans version', fun inactive => ?_⟩
  have same := final inactive
  rw [final' (same ▸ inactive), same]

end NewApi.Sessions
