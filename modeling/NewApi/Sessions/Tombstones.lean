import Mathlib.Algebra.Order.Ring.Int
import NewApi.Sessions.UserSessions

/-!
# Snapshots and tombstones

An active snapshot lives until its deadline, which was fixed before the row was
read as active.  A tombstone lives as long from when it is written.  So a
tombstone that is written after the row is revoked outlives every snapshot that
was read before, and the login is sealed.
-/

namespace NewApi.Sessions

open Interleaving Shared

variable (ttlSeconds : Int)

/-- Before this time every active snapshot of the revoked row is gone, or the
session has expired. -/
def Shared.quietFrom (shared : Shared) (row : UserSession) : Int :=
  min ((shared.revokedSince + ttlSeconds * second) / millisecond + 1) (row.expiresAt * 1000)

def Shared.Sealed (shared : Shared) : Prop :=
  ∃ row, shared.row = some row ∧ row.status ≠ .active ∧
    (shared.quietFrom ttlSeconds row ≤ shared.clock / millisecond ∨
      ∃ item, shared.cache = some item ∧ item.entry.status ≠ .active ∧
        shared.quietFrom ttlSeconds row ≤ item.expireAt + 1)

def Shared.Timely (shared : Shared) (deadline : Int) : Prop :=
  ∀ row, shared.row = some row →
    (row.status = .active → deadline ≤ shared.clock + ttlSeconds * second) ∧
      (row.status ≠ .active → deadline ≤ shared.revokedSince + ttlSeconds * second)

def Shared.Bounded (shared : Shared) (expiresAt expireAt : Int) : Prop :=
  expireAt ≤ expiresAt * 1000 ∧
    ∃ deadline, shared.Timely ttlSeconds deadline ∧ expireAt ≤ deadline / millisecond

def Shared.Fits (shared : Shared) (entry : UserSessionCacheEntry) : Prop :=
  ∃ row, shared.row = some row ∧ entry.version ≤ row.version ∧ entry.expiresAt = row.expiresAt

/-- What holds of the row, its entry and the clock at all times. -/
structure Shared.Sound (shared : Shared) : Prop where
  revokedSince : shared.revokedSince ≤ shared.clock
  positive : ∀ row, shared.row = some row → 0 < row.version
  fits : ∀ item, shared.cache = some item → shared.Fits item.entry
  bounded : ∀ item, shared.cache = some item →
    item.entry.status = .active → shared.Bounded ttlSeconds item.entry.expiresAt item.expireAt

/-- What becomes of a state: time passes, a row stays and keeps its expiry, its
version grows, a revocation is final and so is a seal. -/
structure Evolves (first second : Shared) : Prop where
  clock : first.clock ≤ second.clock
  row : ∀ row, first.row = some row → ∃ next, second.row = some next ∧
    next.expiresAt = row.expiresAt ∧ row.version ≤ next.version ∧
      (row.status ≠ .active →
        next.status ≠ .active ∧ next.version = row.version ∧
          second.revokedSince = first.revokedSince) ∧
      (row.status = .active → next.status ≠ .active → first.clock ≤ second.revokedSince)
  isSealed : first.Sealed ttlSeconds → second.Sealed ttlSeconds

variable {ttlSeconds}

theorem Evolves.refl (shared : Shared) : Evolves ttlSeconds shared shared where
  clock := le_refl _
  row := by
    intro row found
    exact ⟨row, found, rfl, le_refl _, fun revoked => ⟨revoked, rfl, rfl⟩,
        fun active revoked => absurd active revoked⟩
  isSealed := id

variable {first : Shared}

theorem Evolves.trans {second third : Shared} (start : Evolves ttlSeconds first second)
    (rest : Evolves ttlSeconds second third) :
    Evolves ttlSeconds first third where
  clock := le_trans start.clock rest.clock
  row := by
    intro row found
    obtain ⟨next, nextFound, nextExpiry, nextVersion, nextFinal, nextSince⟩ := start.row row found
    obtain ⟨last, lastFound, lastExpiry, lastVersion, lastFinal, lastSince⟩ :=
      rest.row next nextFound
    refine ⟨last, lastFound, lastExpiry.trans nextExpiry, le_trans nextVersion lastVersion, ?_, ?_⟩
    · intro revoked
      obtain ⟨nextRevoked, sameVersion, sameSince⟩ := nextFinal revoked
      obtain ⟨lastRevoked, lastSame, lastSameSince⟩ := lastFinal nextRevoked
      exact ⟨lastRevoked, lastSame.trans sameVersion, lastSameSince.trans sameSince⟩
    · intro active revoked
      rcases eq_or_ne next.status .active with stillActive | nextRevoked
      · exact le_trans start.clock (lastSince stillActive revoked)
      · rw [(lastFinal nextRevoked).2.2]
        exact nextSince active nextRevoked
  isSealed := fun isSealed => rest.isSealed (start.isSealed isSealed)

theorem Shared.Fits.later {second : Shared} {entry : UserSessionCacheEntry}
    (fits : first.Fits entry) (evolves : Evolves ttlSeconds first second) : second.Fits entry := by
  obtain ⟨row, found, version, expiry⟩ := fits
  obtain ⟨next, nextFound, nextExpiry, nextVersion, _⟩ := evolves.row row found
  exact ⟨next, nextFound, le_trans version nextVersion, expiry.trans nextExpiry.symm⟩

theorem Shared.Timely.later {second : Shared} {deadline : Int}
    (timely : first.Timely ttlSeconds deadline) (present : first.row ≠ none)
    (evolves : Evolves ttlSeconds first second) :
    second.Timely ttlSeconds deadline := by
  obtain ⟨row, found⟩ := Option.ne_none_iff_exists'.mp present
  obtain ⟨next, nextFound, _, _, final, since⟩ := evolves.row row found
  obtain ⟨whileActive, onceRevoked⟩ := timely row found
  intro other otherFound
  rw [nextFound] at otherFound
  cases otherFound
  rcases eq_or_ne row.status .active with active | revoked
  · have early := whileActive active
    have clock := evolves.clock
    refine ⟨fun _ => by omega, fun nextRevoked => ?_⟩
    have late := since active nextRevoked
    omega
  · obtain ⟨nextRevoked, _, sameSince⟩ := final revoked
    refine ⟨fun nextActive => absurd nextActive nextRevoked, fun _ => ?_⟩
    rw [sameSince]
    exact onceRevoked revoked

theorem timely_now {shared : Shared} {deadline : Int} {row : UserSession}
    (found : shared.row = some row) (active : row.status = .active)
    (early : deadline ≤ shared.clock + ttlSeconds * second) :
    shared.Timely ttlSeconds deadline := by
  intro other otherFound
  rw [found] at otherFound
  cases otherFound
  exact ⟨fun _ => early, fun revoked => absurd active revoked⟩

theorem Shared.Bounded.later {second : Shared} {expiresAt expireAt : Int}
    (bounded : first.Bounded ttlSeconds expiresAt expireAt) (present : first.row ≠ none)
    (evolves : Evolves ttlSeconds first second) :
    second.Bounded ttlSeconds expiresAt expireAt := by
  obtain ⟨expiry, deadline, timely, limit⟩ := bounded
  exact ⟨expiry, deadline, timely.later present evolves, limit⟩

theorem Shared.Fits.present {shared : Shared} {entry : UserSessionCacheEntry}
    (fits : shared.Fits entry) : shared.row ≠ none := by
  obtain ⟨row, found, _⟩ := fits
  simp [found]

theorem Shared.Sound.later {second : Shared} (sound : first.Sound ttlSeconds)
    (evolves : Evolves ttlSeconds first second) (since : second.revokedSince ≤ second.clock)
    (positive : ∀ row, second.row = some row → 0 < row.version)
    (sameCache : second.cache = first.cache) : second.Sound ttlSeconds where
  revokedSince := since
  positive := positive
  fits := by
    intro item found
    rw [sameCache] at found
    exact (sound.fits item found).later evolves
  bounded := by
    intro item found active
    rw [sameCache] at found
    exact (sound.bounded item found active).later (sound.fits item found).present evolves

theorem not_sealed_of_active {shared : Shared} {row : UserSession}
    (found : shared.row = some row) (active : row.status = .active) :
    ¬ shared.Sealed ttlSeconds := by
  rintro ⟨other, otherFound, revoked, _⟩
  rw [found] at otherFound
  cases otherFound
  exact revoked active

theorem evolves_update {shared next : Shared} {row updated : UserSession}
    (found : shared.row = some row) (active : row.status = .active)
    (nextFound : next.row = some updated) (sameClock : next.clock = shared.clock)
    (expiry : updated.expiresAt = row.expiresAt) (version : row.version ≤ updated.version)
    (stillActive : updated.status = .active) :
    Evolves ttlSeconds shared next where
  clock := le_of_eq sameClock.symm
  row := by
    intro other otherFound
    rw [found] at otherFound
    cases otherFound
    exact ⟨updated, nextFound, expiry, version, fun revoked => absurd active revoked,
        fun _ revoked => absurd stillActive revoked⟩
  isSealed := fun isSealed => absurd isSealed (not_sealed_of_active found active)

theorem evolves_revokeRow {shared : Shared} {row stored : UserSession}
    (found : shared.row = some row) (active : row.status = .active)
    (expiry : stored.expiresAt = row.expiresAt)
    (version : stored.version = row.version) (now : Int) (reason : String) :
    Evolves ttlSeconds shared (shared.revokeRow stored now reason) where
  clock := le_refl _
  row := by
    intro other otherFound
    rw [found] at otherFound
    cases otherFound
    exact ⟨stored.revoke now reason, rfl, expiry, le_of_eq version.symm,
        fun revoked => absurd active revoked, fun _ _ => le_refl _⟩
  isSealed := fun isSealed => absurd isSealed (not_sealed_of_active found active)

theorem evolves_create {shared next : Shared} (absent : shared.row = none)
    (sameClock : next.clock = shared.clock) :
    Evolves ttlSeconds shared next where
  clock := le_of_eq sameClock.symm
  row := by
    intro row found
    rw [absent] at found
    cases found
  isSealed := by
    rintro ⟨row, found, _⟩
    rw [absent] at found
    cases found

theorem evolves_outside (shared : Shared) (elapsed : Nat) :
    Evolves ttlSeconds shared { shared with clock := shared.clock + elapsed }
    where
  clock := by simp
  row := by
    intro row found
    exact ⟨row, found, rfl, le_refl _, fun revoked => ⟨revoked, rfl, rfl⟩,
        fun active revoked => absurd active revoked⟩
  isSealed := by
    rintro ⟨row, found, revoked, quiet | covered⟩
    · refine ⟨row, found, revoked, Or.inl (le_trans quiet ?_)⟩
      simp only [millisecond]
      omega
    · exact ⟨row, found, revoked, Or.inr covered⟩

/-! ## The script -/

/-- A deny entry with this expiry, written from `now` on, outlives every
snapshot of a row that is revoked by then. -/
def Lasting (ttlSeconds expiresAt now redisExpiration : Int) : Prop :=
  expiresAt * second ≤ now ∨ ttlSeconds * 1000 ≤ redisExpiration ∨
    expiresAt * 1000 ≤ now / millisecond + redisExpiration + 1

theorem lasting_denyExpiration (expiresAt now : Int) :
    Lasting ttlSeconds expiresAt now (denyExpiration ttlSeconds expiresAt now) := by
  unfold Lasting denyExpiration
  simp only [second, millisecond]
  rcases le_total (expiresAt * 1000000000 - now) (ttlSeconds * 1000000000) with short | long
  · split <;> split <;> omega
  · split <;> split <;> omega

/-- A deny entry written at a time outlives every snapshot of a row that is
revoked by then. -/
theorem Lasting.quiet {shared : Shared} {row : UserSession}
    {now redisExpiration : Int} (sound : shared.Sound ttlSeconds)
    (lasting : Lasting ttlSeconds row.expiresAt now redisExpiration) (before : now ≤ shared.clock) :
    shared.quietFrom ttlSeconds row ≤ shared.clock / millisecond ∨
      shared.quietFrom ttlSeconds row ≤ shared.clock / millisecond + redisExpiration + 1 := by
  have since := sound.revokedSince
  unfold quietFrom
  simp only [Lasting, second, millisecond] at lasting ⊢
  rcases lasting with expired | long | short
  · left
    exact le_trans (min_le_right _ _) (by omega)
  · right
    exact le_trans (min_le_left _ _) (by omega)
  · right
    exact le_trans (min_le_right _ _) (by omega)

theorem stored_of_visible {shared : Shared} {cached : UserSessionCacheEntry}
    (shown : shared.visible = some cached) :
    ∃ item, shared.cache = some item ∧ item.entry = cached := by
  unfold visible at shown
  cases stored : shared.cache with
  | none =>
    rw [stored] at shown
    cases shown
  | some item =>
    simp only [stored] at shown
    split at shown
    · exact ⟨item, rfl, Option.some.inj shown⟩
    · cases shown

/-- The script refuses older and reactivating entries, and writes the others. -/
theorem eval_cases (shared : Shared) (entry : UserSessionCacheEntry) (redisExpiration : Int) :
    (shared.eval entry redisExpiration = (shared, false) ∧
        ((entry.status = .active ∧ ∃ cached, shared.visible = some cached ∧
            cached.status ≠ .active) ∨
          (∃ cached, shared.visible = some cached ∧
            entry.version < cached.version) ∨ entry.version < 0)) ∨
      (entry.status = .active ∧ (∀ cached, shared.visible = some cached → cached.status = .active) ∧
        ((redisExpiration ≤ shared.clock / millisecond ∧
            shared.eval entry redisExpiration = ({ shared with cache := none }, true)) ∨
          (shared.clock / millisecond < redisExpiration ∧
            shared.eval entry redisExpiration =
              ({ shared with cache := some ⟨entry, redisExpiration⟩ }, true)))) ∨
      (entry.status ≠ .active ∧
        shared.eval entry redisExpiration =
          ({ shared with
              cache := some ⟨entry, shared.clock / millisecond + redisExpiration⟩ },
            true)) := by
  by_cases blocked : entry.status = .active ∧
      (shared.visible.map (·.status) = some .revoking ∨
        shared.visible.map (·.status) = some .revoked)
  · left
    refine ⟨by simp only [eval, if_pos blocked], Or.inl ⟨blocked.1, ?_⟩⟩
    rcases blocked.2 with revoking | revoked
    · obtain ⟨cached, shown, status⟩ := Option.map_eq_some_iff.mp revoking
      exact ⟨cached, shown, by simp [status]⟩
    · obtain ⟨cached, shown, status⟩ := Option.map_eq_some_iff.mp revoked
      exact ⟨cached, shown, by simp [status]⟩
  · by_cases older : entry.version < (shared.visible.map (·.version)).getD 0
    · left
      refine ⟨by simp only [eval, if_neg blocked, gt_iff_lt, if_pos older], Or.inr ?_⟩
      cases shown : shared.visible with
      | none =>
        rw [shown] at older
        exact Or.inr older
      | some cached =>
        rw [shown] at older
        exact Or.inl ⟨cached, rfl, older⟩
    · right
      rcases eq_or_ne entry.status .active with active | denied
      · left
        refine ⟨active, ?_, ?_⟩
        · intro cached shown
          by_contra inactive
          apply blocked
          refine ⟨active, ?_⟩
          rw [shown]
          cases status : cached.status with
          | active => exact absurd status inactive
          | revoking => exact Or.inl (by simp [status])
          | revoked => exact Or.inr (by simp [status])
        · rcases le_or_gt redisExpiration (shared.clock / millisecond) with past | future
          · refine Or.inl ⟨past, ?_⟩
            simp only [eval, if_neg blocked, gt_iff_lt, if_neg older, if_pos active, if_pos past]
          · refine Or.inr ⟨future, ?_⟩
            simp only [eval, if_neg blocked, gt_iff_lt, if_neg older,
              if_pos active, if_neg (not_le.mpr future)]
      · refine Or.inr ⟨denied, ?_⟩
        simp only [eval, if_neg blocked, gt_iff_lt, if_neg older, if_neg denied]

theorem Shared.Sealed.visible {shared : Shared}
    (sound : shared.Sound ttlSeconds) (isSealed : shared.Sealed ttlSeconds)
    {cached : UserSessionCacheEntry} (shown : shared.visible = some cached) :
    cached.status ≠ .active ∨ cached.expiresAt * second ≤ shared.clock := by
  obtain ⟨row, found, revoked, quiet⟩ := isSealed
  cases stored : shared.cache with
  | none => simp [Shared.visible, stored] at shown
  | some item =>
    simp only [Shared.visible, stored] at shown
    split at shown
    case isFalse => cases shown
    case isTrue visibleNow =>
      cases shown
      rcases eq_or_ne item.entry.status .active with active | denied
      · right
        obtain ⟨expiry, deadline, timely, limit⟩ := sound.bounded item stored active
        obtain ⟨other, otherFound, _, sameExpiry⟩ := sound.fits item stored
        rw [found] at otherFound
        cases otherFound
        have early := (timely row found).2 revoked
        rcases quiet with past | ⟨denial, denialStored, denied, _⟩
        · unfold quietFrom at past
          simp only [second, millisecond] at past limit visibleNow early ⊢
          rcases min_le_iff.mp past with gone | expired
          · omega
          · omega
        · rw [stored] at denialStored
          cases denialStored
          exact absurd active denied
      · exact Or.inl denied

/-- What an entry has to satisfy for the script to keep the state sound. -/
structure Shared.Writable (shared : Shared) (ttlSeconds : Int)
    (entry : UserSessionCacheEntry) (redisExpiration : Int) : Prop where
  fits : shared.Fits entry
  active : entry.status = .active → shared.Bounded ttlSeconds entry.expiresAt redisExpiration
  denied : entry.status ≠ .active → ∃ now, now ≤ shared.clock ∧
    Lasting ttlSeconds entry.expiresAt now redisExpiration

theorem eval_frame (shared : Shared) (entry : UserSessionCacheEntry) (redisExpiration : Int) :
    (shared.eval entry redisExpiration).1.row = shared.row ∧
      (shared.eval entry redisExpiration).1.clock = shared.clock ∧
      (shared.eval entry redisExpiration).1.revokedSince = shared.revokedSince ∧
      (shared.eval entry redisExpiration).1.exchanges = shared.exchanges := by
  rcases eval_cases shared entry redisExpiration with
    ⟨same, _⟩ | ⟨_, _, ⟨_, same⟩ | ⟨_, same⟩⟩ | ⟨_, same⟩ <;>
  · rw [same]
    exact ⟨rfl, rfl, rfl, rfl⟩

theorem evolves_of_frame {second : Shared} (row : second.row = first.row)
    (clock : second.clock = first.clock) (since : second.revokedSince = first.revokedSince)
    (isSealed : first.Sealed ttlSeconds → second.Sealed ttlSeconds) :
    Evolves ttlSeconds first second where
  clock := le_of_eq clock.symm
  row := by
    intro stored found
    exact ⟨stored, row.trans found, rfl, le_refl _, fun revoked => ⟨revoked, rfl, since⟩,
        fun active revoked => absurd active revoked⟩
  isSealed := isSealed

theorem sealed_of_denied {shared next : Shared} {row : UserSession}
    {entry : UserSessionCacheEntry} {redisExpiration : Int}
    (sound : shared.Sound ttlSeconds) (found : shared.row = some row)
    (revoked : row.status ≠ .active) (denied : entry.status ≠ .active)
    (writable : shared.Writable ttlSeconds entry redisExpiration)
    (same : next = { shared with
      cache := some ⟨entry, shared.clock / millisecond + redisExpiration⟩ }) :
    next.Sealed ttlSeconds := by
  obtain ⟨other, otherFound, _, sameExpiry⟩ := writable.fits
  rw [found] at otherFound
  cases otherFound
  obtain ⟨now, before, lasting⟩ := writable.denied denied
  rw [sameExpiry] at lasting
  subst same
  refine ⟨row, found, revoked, ?_⟩
  exact (lasting.quiet sound before).imp id fun covered => ⟨_, rfl, denied, covered⟩

section

variable {shared : Shared} {entry : UserSessionCacheEntry} {redisExpiration : Int}
  (sound : shared.Sound ttlSeconds) (writable : shared.Writable ttlSeconds entry redisExpiration)
include sound writable

theorem eval_keeps_seal (isSealed : shared.Sealed ttlSeconds) :
    (shared.eval entry redisExpiration).1.Sealed ttlSeconds := by
  obtain ⟨row, found, revoked, quiet⟩ := isSealed
  rcases eval_cases shared entry redisExpiration with
    ⟨same, _⟩ | ⟨active, unblocked, written⟩ | ⟨denied, same⟩
  · rw [same]
    exact ⟨row, found, revoked, quiet⟩
  · have past : shared.quietFrom ttlSeconds row ≤ shared.clock / millisecond := by
      rcases quiet with past | ⟨item, stored, denied, covered⟩
      · exact past
      -- A tombstone that still shows would have blocked the snapshot.
      by_contra early
      have shown : shared.visible = some item.entry := by
        simp only [visible, stored]
        rw [if_pos (by omega)]
      exact denied (unblocked item.entry shown)
    rcases written with ⟨_, same⟩ | ⟨_, same⟩
    · rw [same]
      exact ⟨row, found, revoked, Or.inl past⟩
    · rw [same]
      exact ⟨row, found, revoked, Or.inl past⟩
  · rw [same]
    exact sealed_of_denied sound found revoked denied writable rfl

theorem evolves_eval :
    Evolves ttlSeconds shared (shared.eval entry redisExpiration).1 := by
  obtain ⟨row, clock, since, _⟩ := eval_frame shared entry redisExpiration
  exact evolves_of_frame row clock since (eval_keeps_seal sound writable)

theorem sound_eval :
    (shared.eval entry redisExpiration).1.Sound ttlSeconds := by
  have evolves := evolves_eval sound writable
  obtain ⟨row, clock, since, _⟩ := eval_frame shared entry redisExpiration
  have sinceClock : (shared.eval entry redisExpiration).1.revokedSince ≤
        (shared.eval entry redisExpiration).1.clock := by
    rw [clock, since]
    exact sound.revokedSince
  have positive : ∀ stored,
      (shared.eval entry redisExpiration).1.row = some stored → 0 < stored.version := by
    rw [row]
    exact sound.positive
  rcases eval_cases shared entry redisExpiration with
    ⟨same, _⟩ | ⟨active, _, ⟨_, same⟩ | ⟨_, same⟩⟩ | ⟨denied, same⟩
  · rw [same]
    exact sound
  · rw [same] at sinceClock positive ⊢
    exact ⟨sinceClock, positive, by simp, by simp⟩
  · rw [same] at sinceClock positive evolves ⊢
    refine ⟨sinceClock, positive, ?_, ?_⟩
    · rintro item ⟨⟩
      exact writable.fits.later evolves
    · rintro item ⟨⟩ _
      exact (writable.active active).later writable.fits.present evolves
  · rw [same] at sinceClock positive evolves ⊢
    refine ⟨sinceClock, positive, ?_, ?_⟩
    · rintro item ⟨⟩
      exact writable.fits.later evolves
    · rintro item ⟨⟩ active
      exact absurd active denied

theorem eval_seals {row : UserSession} (found : shared.row = some row)
    (revoked : row.status ≠ .active) (denied : entry.status ≠ .active)
    (positive : 0 ≤ entry.version)
    (newest : ∀ cached, shared.visible = some cached → cached.version ≤ entry.version) :
    (shared.eval entry redisExpiration).1.Sealed ttlSeconds := by
  rcases eval_cases shared entry redisExpiration with
    ⟨_, ⟨active, _⟩ | ⟨cached, shown, newer⟩ | negative⟩ | ⟨active, _⟩ | ⟨_, same⟩
  · exact absurd active denied
  · exact absurd (newest cached shown) (by omega)
  · omega
  · exact absurd active denied
  · rw [same]
    exact sealed_of_denied sound found revoked denied writable rfl

end

theorem status_of_inactiveAt {session : UserSession} {now : Int}
    (active : session.inactiveAt now = false) : session.status = .active := by
  simp only [UserSession.inactiveAt, Bool.or_eq_false_iff, decide_eq_false_iff_not,
    ne_eq, Decidable.not_not] at active
  exact active.1.1

theorem status_of_afterFind {session : UserSession} {now : Int}
    (active : session.afterFind.inactiveAt now = false) :
    session.status = .active :=
  status_of_inactiveAt active

theorem perform_revokePresented (ttlSeconds : Int) (stored : Shared) (presentedHash : String)
    (now : Int) (reason : String) :
    perform ttlSeconds (.revokePresented presentedHash now reason)
        stored = (stored, .ok none) ∨
      ∃ row fence, stored.row = some row ∧ row.status = .active ∧
        fence = stored.eval (row.afterFind.denyEntry .revoking now reason)
          (denyExpiration ttlSeconds row.afterFind.expiresAt stored.clock) ∧
        (perform ttlSeconds (.revokePresented presentedHash now reason)
            stored = (fence.1, .error .inactive) ∨
          perform ttlSeconds (.revokePresented presentedHash now reason)
            stored = (fence.1.revokeRow row now reason,
              .ok (some (row.afterFind.revoke now reason)))) := by
  cases found : stored.row with
  | none =>
    left
    simp only [perform, found]
  | some row =>
    simp only [perform, found]
    split
    · exact Or.inl rfl
    rename_i stillActive
    have active : row.status = .active := status_of_afterFind (by simpa using stillActive)
    split
    · exact Or.inl rfl
    refine Or.inr ⟨row, _, rfl, active, rfl, ?_⟩
    cases written : (stored.eval (row.afterFind.denyEntry .revoking now reason)
        (denyExpiration ttlSeconds row.afterFind.expiresAt stored.clock)).2 with
    | true => exact Or.inr (by simp only [if_true])
    | false => exact Or.inl (by simp only [Bool.false_eq_true, if_false])

end NewApi.Sessions
