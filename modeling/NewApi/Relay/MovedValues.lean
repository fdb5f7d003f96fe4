import NewApi.Relay.JsonPaths

/-!
# Moving and copying a value of the body

A move is an assignment followed by a deletion in the document that the
assignment left.  Where one of the two paths lies on the other the deletion
meets the moved value.
-/

namespace NewApi.Relay

open JsonValue

section

variable (library : PathLibrary)

def moveValue (doc : JsonValue) (fromPath toPath : String) :
    Except String JsonValue :=
  match library.get doc fromPath with
  | none => .error ("source path does not exist: " ++ fromPath)
  | some sourceValue =>
    (library.setBytes doc toPath sourceValue).bind fun result => library.deleteBytes result fromPath

def copyValue (doc : JsonValue) (fromPath toPath : String) :
    Except String JsonValue :=
  match library.get doc fromPath with
  | none => .error ("source path does not exist: " ++ fromPath)
  | some sourceValue => library.setBytes doc toPath sourceValue

end

theorem moveValue_ok {library : PathLibrary} (plain : library.ReadsPlainPaths)
    {doc result : JsonValue} {source target : String}
    (plainSource : isPlainPath source = true) (plainTarget : isPlainPath target = true)
    (moved : moveValue library doc source target = .ok result) :
    ∃ value written,
      doc.get (pathSegments source) = some value ∧
        doc.set (pathSegments target) value = some written ∧
          result = written.remove (pathSegments source) := by
  unfold moveValue at moved
  rw [plain.get_eq doc source plainSource] at moved
  cases stands : doc.get (pathSegments source) with
  | none =>
    rw [stands] at moved
    cases moved
  | some value =>
    simp only [stands] at moved
    have assigned := plain.set_eq doc target value plainTarget
    cases outcome : library.setBytes doc target value with
    | error message =>
      rw [outcome] at moved
      cases moved
    | ok written =>
      rw [outcome] at moved assigned
      refine ⟨value, written, rfl, assigned.symm, ?_⟩
      have deleted := plain.delete_eq written source plainSource
      change library.deleteBytes written source = .ok result at moved
      rw [deleted] at moved
      exact (Except.ok.inj moved).symm

def JsonValue.isObject : JsonValue → Bool
  | .object _ => true
  | _ => false

/-- What a move keeps: the value reaches its target, the locations under
neither path are unchanged, and the source is gone unless one of the paths lies
on the other.  An object on the way to one of the paths stays an object. -/
structure MoveKept (doc result : JsonValue) (source target : List String) :
    Prop where
  arrived : result.get target = doc.get source
  apart :
    ∀ other, ¬source <+: other → ¬target <+: other →
      ¬other <+: source → ¬other <+: target → result.get other = doc.get other
  values :
    ∀ other value, ¬source <+: other → ¬target <+: other →
      doc.get other = some value → value.isObject = false → result.get other = some value
  objects :
    ∀ other fields, ¬source <+: other → ¬target <+: other →
      doc.get other = some (.object fields) → ∃ kept, result.get other = some (.object kept)
  vacated : ¬source <+: target → ¬target <+: source → result.get source = none

/-- The target is not under the source; nothing stands at the source followed
once more by the part of it that lies below the target; and the target passes
through objects only. -/
def MovesCleanly (doc : JsonValue) (source target : List String) : Prop :=
  ¬source <+: target ∧
    (∀ below, source = target ++ below →
      doc.remove? (source ++ below) = none) ∧
      ∀ above value, above <+: target → above ≠ target →
        doc.get above = some value → value.isObject = true

namespace JsonValue

variable {doc value : JsonValue} {path : List String}

theorem keyPath_append {below : List String} (named : doc.keyPath (path ++ below) = true)
    (stands : doc.get path = some value) : value.keyPath below = true := by
  induction path generalizing doc with
  | nil =>
    obtain rfl : doc = value := by exact Option.some.inj stands
    exact named
  | cons segment path ih =>
    cases doc with
    | object fields =>
      obtain ⟨child, found, standsBelow⟩ := Option.bind_eq_some_iff.mp stands
      rw [List.cons_append, keyPath_object_cons, found] at named
      exact ih named standsBelow
    | array items =>
      change ((segment :: (path ++ below)).all fun name => !indexes name) = true at named
      rw [List.all_cons, Bool.and_eq_true] at named
      rw [get_array, (not_indexes named.1).1] at stands
      cases stands
    | _ => cases stands

theorem get_of_not_object (notObject : value.isObject = false) (named : value.keyPath path = true)
    (nonempty : path ≠ []) :
    value.get path = none := by
  obtain ⟨segment, rest, rfl⟩ := List.exists_cons_of_ne_nil nonempty
  cases value with
  | object fields => cases notObject
  | array items =>
    change ((segment :: rest).all fun name => !indexes name) = true at named
    rw [List.all_cons, Bool.and_eq_true] at named
    rw [get_array, (not_indexes named.1).1]
    rfl
  | _ => rfl

theorem get_of_get_append {below : List String} (stands : doc.get (path ++ below) = some value) :
    ∃ standing, doc.get path = some standing ∧ standing.get below = some value := by
  rw [get_append] at stands
  exact Option.bind_eq_some_iff.mp stands

theorem ObjectsAbove.set {written : JsonValue} {target : List String}
    (named : doc.keyPath target = true) (assigned : doc.set target value = some written)
    (objects : doc.ObjectsAbove path)
    (notBelow : ∀ above, above <+: path → above ≠ path → ¬target <+: above) :
    written.ObjectsAbove path := by
  intro above onTheWay notThere
  obtain ⟨fields, stood⟩ := objects above onTheWay notThere
  have notUnder := notBelow above onTheWay notThere
  by_cases onTarget : above <+: target
  · refine get_set_above assigned onTarget ?_ stood
    rintro rfl
    exact notUnder (List.prefix_refl _)
  · exact ⟨fields, (get_set_apart named assigned notUnder onTarget).trans stood⟩

end JsonValue

section Moves

variable {doc value written : JsonValue} {source target : List String}

theorem lost_under_source (keySource : doc.keyPath source = true)
    (keyTarget : doc.keyPath target = true) (nonempty : source ≠ [])
    (stands : doc.get source = some value)
    (assigned : doc.set target value = some written) (under : source <+: target) :
    (written.remove source).get target = none := by
  obtain ⟨below, rfl⟩ := under
  obtain ⟨standing, there, -⟩ := get_of_get_append (get_set_self keyTarget assigned)
  have objects : written.ObjectsAbove source := by
    refine (objectsAbove_of_keyPath keySource stands).set keyTarget assigned ?_
    intro above onTheWay notThere reaches
    have long := reaches.length_le
    have short := onTheWay.length_le
    rw [List.length_append] at long
    exact notThere (onTheWay.eq_of_length (by omega))
  obtain ⟨result, deleted, removed⟩ := remove?_member nonempty objects there
  rw [remove, deleted]
  exact removed.gone below

theorem remove_above {below : List String} (keyTarget : doc.keyPath target = true)
    (stands : doc.get (target ++ below) = some value)
    (assigned : doc.set target value = some written) (nonempty : below ≠ []) :
    (written.remove (target ++ below) = written ∧ doc.remove? (target ++ below ++ below) = none) ∨
      ((written.remove (target ++ below)).get target ≠ some value ∧
        doc.remove? (target ++ below ++ below) ≠ none) := by
  have arrived := get_set_self keyTarget assigned
  obtain ⟨untouched, changes⟩ := remove?_append arrived nonempty
  obtain ⟨absent, present⟩ := remove?_append stands nonempty
  cases deleted : value.remove? below with
  | none =>
    refine Or.inl ⟨?_, absent deleted⟩
    rw [remove, untouched deleted]
    rfl
  | some changed =>
    obtain ⟨result, removed, there⟩ := changes changed deleted
    obtain ⟨other, found, -⟩ := present changed deleted
    refine Or.inr ⟨?_, ?_⟩
    · rw [remove, removed]
      intro same
      change result.get target = some value at same
      rw [there] at same
      exact remove?_ne deleted (Option.some.inj same)
    · rw [found]
      rintro ⟨⟩

section

variable (keySource : doc.keyPath source = true)
include keySource

theorem removed_apart (keyTarget : doc.keyPath target = true) (stands : doc.get source = some value)
    (assigned : doc.set target value = some written) (notUnder : ¬source <+: target)
    (notAbove : ¬target <+: source) :
    JsonValue.Removed written (written.remove source) source := by
  have nonempty : source ≠ [] := by
    rintro rfl
    exact notUnder List.nil_prefix
  have there : written.get source = some value :=
    (get_set_apart keyTarget assigned notAbove notUnder).trans stands
  have objects : written.ObjectsAbove source :=
    (objectsAbove_of_keyPath keySource stands).set keyTarget assigned
      fun above onTheWay _ reaches => notAbove (reaches.trans onTheWay)
  obtain ⟨result, deleted, removed⟩ := remove?_member nonempty objects there
  rw [remove, deleted]
  exact removed

/-- A value on the way to the source or to a clean target is an object. -/
theorem isObject_of_above (stands : doc.get source = some value)
    (clean : MovesCleanly doc source target) {other : List String} {standing : JsonValue}
    (notUnderSource : ¬source <+: other) (notUnderTarget : ¬target <+: other)
    (onTheWay : other <+: source ∨ other <+: target) (found : doc.get other = some standing) :
    standing.isObject = true := by
  rcases onTheWay with aboveSource | aboveTarget
  · have notThere : other ≠ source := by
      rintro rfl
      exact notUnderSource (List.prefix_refl _)
    obtain ⟨fields, object⟩ :=
      objectsAbove_of_keyPath keySource stands other aboveSource notThere
    rw [found] at object
    rw [Option.some.inj object]
    rfl
  · refine clean.2.2 other standing aboveTarget ?_ found
    rintro rfl
    exact notUnderTarget (List.prefix_refl _)

theorem moveKept_of_others (stands : doc.get source = some value)
    (clean : MovesCleanly doc source target) {result : JsonValue}
    (arrived : result.get target = doc.get source)
    (apart : ∀ other, ¬source <+: other → ¬target <+: other →
        ¬other <+: source → ¬other <+: target → result.get other = doc.get other)
    (above : ∀ other fields, ¬source <+: other → ¬target <+: other →
        (other <+: source ∨ other <+: target) →
          doc.get other = some (.object fields) → ∃ kept, result.get other = some (.object kept))
    (vacated : ¬source <+: target → ¬target <+: source → result.get source = none) :
    MoveKept doc result source target := by
  refine ⟨arrived, apart, ?_, ?_, vacated⟩
  · intro other standing notUnderSource notUnderTarget found notObject
    by_cases onTheWay : other <+: source ∨ other <+: target
    · have object := isObject_of_above keySource stands clean notUnderSource
        notUnderTarget onTheWay found
      rw [notObject] at object
      cases object
    · obtain ⟨notSource, notTarget⟩ := not_or.mp onTheWay
      rw [apart other notUnderSource notUnderTarget notSource notTarget]
      exact found
  · intro other fields notUnderSource notUnderTarget found
    by_cases onTheWay : other <+: source ∨ other <+: target
    · exact above other fields notUnderSource notUnderTarget onTheWay found
    · obtain ⟨notSource, notTarget⟩ := not_or.mp onTheWay
      exact ⟨fields, (apart other notUnderSource notUnderTarget notSource notTarget).trans found⟩

theorem moveKept_of_clean (keyTarget : doc.keyPath target = true)
    (stands : doc.get source = some value) (assigned : doc.set target value = some written)
    (clean : MovesCleanly doc source target) :
    MoveKept doc (written.remove source) source target := by
  have arrived := get_set_self keyTarget assigned
  have stays {other : List String} {fields : List (String × JsonValue)}
      (notUnder : ¬target <+: other) (onTheWay : other <+: target)
      (stood : doc.get other = some (.object fields)) :
      ∃ kept, written.get other = some (.object kept) := by
    refine get_set_above assigned onTheWay ?_ stood
    rintro rfl
    exact notUnder (List.prefix_refl _)
  by_cases above : target <+: source
  · obtain ⟨below, rfl⟩ := above
    have nonempty : below ≠ [] := by
      rintro rfl
      exact clean.1 (by rw [List.append_nil])
    -- The deletion finds nothing: the move ends with the assignment.
    have same : written.remove (target ++ below) = written := by
      rcases remove_above keyTarget stands assigned nonempty with ⟨same, -⟩ | ⟨-, found⟩
      · exact same
      · exact absurd (clean.2.1 below rfl) found
    rw [same]
    refine moveKept_of_others keySource stands clean (arrived.trans stands.symm) ?_ ?_ ?_
    · intro other _ notUnder _ notAbove
      exact get_set_apart keyTarget assigned notUnder notAbove
    · intro other fields _ notUnder onTheWay stood
      refine stays notUnder ?_ stood
      rcases onTheWay with onSource | onTarget
      · exact (List.prefix_or_prefix_of_prefix onSource
          (List.prefix_append target below)).resolve_right notUnder
      · exact onTarget
    · intro _ notAbove
      exact absurd (List.prefix_append target below) notAbove
  · have removed := removed_apart keySource keyTarget stands assigned clean.1 above
    refine moveKept_of_others keySource stands clean ?_ ?_ ?_ ?_
    · rw [removed.apart target clean.1 above, arrived, stands]
    · intro other notSource notTarget aboveSource aboveTarget
      rw [removed.apart other notSource aboveSource]
      exact get_set_apart keyTarget assigned notTarget aboveTarget
    · intro other fields notSource notTarget onTheWay stood
      by_cases onSource : other <+: source
      · refine removed.above other onSource ?_
        rintro rfl
        exact notSource (List.prefix_refl _)
      · have onTarget := onTheWay.resolve_left onSource
        obtain ⟨kept, stays⟩ := stays notTarget onTarget stood
        exact ⟨kept, (removed.apart other notSource onSource).trans stays⟩
    · intro _ _
      have gone := removed.gone []
      rwa [List.append_nil] at gone

theorem clean_of_moveKept (keyTarget : doc.keyPath target = true) (nonempty : source ≠ [])
    (stands : doc.get source = some value) (assigned : doc.set target value = some written)
    (kept : MoveKept doc (written.remove source) source target) :
    MovesCleanly doc source target := by
  have notUnder : ¬source <+: target := by
    intro under
    have lost := lost_under_source keySource keyTarget nonempty stands assigned under
    rw [kept.arrived, stands] at lost
    cases lost
  refine ⟨notUnder, ?_, ?_⟩
  · rintro below rfl
    have nonempty : below ≠ [] := by
      rintro rfl
      exact notUnder (by rw [List.append_nil])
    rcases remove_above keyTarget stands assigned nonempty with ⟨-, absent⟩ | ⟨lost, -⟩
    · exact absent
    · exact absurd (kept.arrived.trans stands) lost
  · intro above standing onTheWay notThere found
    by_contra notObject
    rw [Bool.not_eq_true] at notObject
    obtain ⟨below, rfl⟩ := onTheWay
    have notReached : ¬(above ++ below) <+: above := by
      intro reaches
      exact notThere (List.prefix_append above below |>.eq_of_length_le reaches.length_le)
    have stays := kept.values above standing
      (fun under => notUnder (under.trans (List.prefix_append above below)))
      notReached found notObject
    have belowNonempty : below ≠ [] := by
      rintro rfl
      exact notThere (List.append_nil above).symm
    have nothing := get_of_not_object notObject
      (keyPath_append keyTarget found) belowNonempty
    have arrived := kept.arrived
    rw [get_append, stays, Option.bind_some, nothing, stands] at arrived
    cases arrived

end

end Moves

/-- A move that succeeds keeps what it promises exactly when it is clean. -/
theorem move_keeps_value (library : PathLibrary) (plain : library.ReadsPlainPaths)
    (doc result : JsonValue) (fromPath toPath : String)
    (plainFrom : isPlainPath fromPath = true) (plainTo : isPlainPath toPath = true)
    (keyFrom : doc.keyPath (pathSegments fromPath) = true)
    (keyTo : doc.keyPath (pathSegments toPath) = true)
    (moved : moveValue library doc fromPath toPath = .ok result) :
    MoveKept doc result (pathSegments fromPath) (pathSegments toPath) ↔
      MovesCleanly doc (pathSegments fromPath) (pathSegments toPath) := by
  obtain ⟨value, written, stands, assigned, rfl⟩ := moveValue_ok plain plainFrom plainTo moved
  constructor
  · exact clean_of_moveKept keyFrom keyTo (pathSegments_ne_nil fromPath) stands assigned
  · exact moveKept_of_clean keyFrom keyTo stands assigned

/-- Unwrapping a text: it takes the place of the object that held it. -/
theorem unwrapped_text_keeps_value :
    let doc : JsonValue :=
      .object [("model", .object [("name", .string "gpt")]), ("n", .number "1")]
    let result : JsonValue := .object [("model", .string "gpt"), ("n", .number "1")]
    moveValue PathLibrary.dotted doc "model.name" "model" = .ok result ∧
      (MoveKept doc result ["model", "name"] ["model"] ↔
        MovesCleanly doc ["model", "name"] ["model"]) :=
  ⟨rfl, move_keeps_value PathLibrary.dotted PathLibrary.dotted_readsPlainPaths
    _ _ "model.name" "model" (by decide) (by decide) (by decide) (by decide)
      rfl⟩

/-- Moved onto itself, a value is deleted. -/
theorem moved_onto_itself_is_lost :
    ∃ result,
      moveValue PathLibrary.dotted (.object [("model", .string "gpt")]) "model"
          "model" = .ok result ∧
        ¬MoveKept (.object [("model", .string "gpt")]) result ["model"] ["model"] := by
  refine ⟨.object [], rfl, ?_⟩
  intro kept
  cases kept.arrived

end NewApi.Relay
