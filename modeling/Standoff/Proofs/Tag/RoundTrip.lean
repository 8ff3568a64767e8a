import Standoff.Proofs.Tag.Coverage
import Standoff.Proofs.Tag.Decoding

/-! Writing entities into a tag column and reading the column again. -/

namespace Standoff.Tag

/-! ## The segments of a written column -/

theorem Ascending.occupies_of_encodable {tokens entities : List Span}
    (ascending : Ascending tokens) (encodable : Encodable tokens entities) {entity : Span}
    (member : entity ∈ entities) :
    Occupies tokens entity (segmentOf tokens entity).first (segmentOf tokens entity).stop :=
  ascending.occupies_segmentOf (exists_contained (encodable.bounded entity member))

theorem proper_segmentOf {tokens entities : List Span} (ascending : Ascending tokens)
    (encodable : Encodable tokens entities) {entity : Span} (member : entity ∈ entities) :
    (segmentOf tokens entity).Proper (column tokens entities) := by
  have occupies := ascending.occupies_of_encodable encodable member
  apply Segment.proper_of_begin occupies.nonempty rfl
  · rw [column_of_occupies encodable member occupies (Nat.le_refl _) occupies.nonempty,
      if_neg (Nat.lt_irrefl _)]
    rfl
  · intro index after before
    rw [column_of_occupies encodable member occupies (Nat.le_of_lt after) before,
      if_pos after]
    rfl

/-- Of two entities without a common token, the one that starts first ends before
the other begins. -/
theorem segmentOf_before {tokens entities : List Span} (ascending : Ascending tokens)
    (encodable : Encodable tokens entities) {entity other : Span}
    (member : entity ∈ entities) (otherMember : other ∈ entities)
    (apart : Apart tokens entity other) (starts : entity.start ≤ other.start) :
    (segmentOf tokens entity).stop ≤ (segmentOf tokens other).first := by
  have occupies := ascending.occupies_of_encodable encodable member
  have otherOccupies := ascending.occupies_of_encodable encodable otherMember
  rcases (occupies.onBoundaries_iff.mp (encodable.bounded entity member)).1 with
    ⟨first, foundFirst, sameStart⟩
  rcases (otherOccupies.onBoundaries_iff.mp (encodable.bounded other otherMember)).1 with
    ⟨otherFirst, foundOther, otherStart⟩
  have nonempty := occupies.nonempty
  have otherNonempty := otherOccupies.nonempty
  have firstIn := (occupies.contains_iff _ _ foundFirst).mpr ⟨Nat.le_refl _, nonempty⟩
  have otherIn := (otherOccupies.contains_iff _ _ foundOther).mpr
    ⟨Nat.le_refl _, otherNonempty⟩
  by_contra overlaps
  -- Each possible place of the other's first token puts it into the entity too.
  refine apart otherFirst (List.mem_of_getElem? foundOther) ?_ otherIn
  by_cases after : (segmentOf tokens entity).first ≤ (segmentOf tokens other).first
  · exact (occupies.contains_iff _ _ foundOther).mpr ⟨after, by omega⟩
  · have before : (segmentOf tokens other).first ≤ (segmentOf tokens entity).first := by omega
    have startLe := le_of_pairwise ascending.starts foundOther foundFirst before
    have stopLe := le_of_pairwise ascending.stops foundOther foundFirst before
    rw [contains_iff] at firstIn ⊢
    omega

/-- Written into a column, entities are its segments in the order of their starts. -/
theorem segmentation_column {tokens entities ordered : List Span}
    (ascending : Ascending tokens) (encodable : Encodable tokens entities)
    (perm : ordered.Perm entities)
    (sorted : ordered.Pairwise fun entity later => entity.start ≤ later.start) :
    Segment.Segmentation (column tokens entities) (ordered.map (segmentOf tokens)) where
  proper segment member := by
    rcases List.mem_map.mp member with ⟨entity, inOrdered, rfl⟩
    exact proper_segmentOf ascending encodable (perm.subset inOrdered)
  ordered := by
    rw [List.pairwise_map]
    have both := (encodable.perm perm).apart.and sorted
    exact both.imp_of_mem fun member otherMember related =>
      segmentOf_before ascending encodable (perm.subset member) (perm.subset otherMember)
        related.1 related.2
  covering index := by
    rw [column_ne_outside_iff]
    constructor
    · rintro ⟨segment, member, covers⟩
      rcases List.mem_map.mp member with ⟨entity, inOrdered, rfl⟩
      have occupies := ascending.occupies_of_encodable encodable (perm.subset inOrdered)
      have found := List.getElem?_eq_getElem (Nat.lt_of_lt_of_le covers.2 occupies.bounded)
      exact ⟨_, found, entity, perm.subset inOrdered,
        (occupies.contains_iff index _ found).mpr covers⟩
    · rintro ⟨token, found, entity, member, contains⟩
      have occupies := ascending.occupies_of_encodable encodable member
      exact ⟨_, List.mem_map_of_mem (perm.symm.subset member),
        (occupies.contains_iff index token found).mp contains⟩

/-! ## The cells of a written column -/

def cells (tags : List Tag) : List (Option Text) := tags.map fun tag => some tag.render

theorem written_cells {tags : List Tag}
    (valid : ∀ tag ∈ tags, ∀ type, tag.type? = some type → ValidType type) :
    List.Forall₂ Written (cells tags) tags := by
  rw [cells, List.forall₂_map_left_iff, List.forall₂_same]
  intro tag member
  exact parse?_eq_some_iff.mp (parse?_render tag (valid tag member))

theorem exists_label_of_column {tokens entities : List Span} {tag : Tag}
    (member : tag ∈ column tokens entities) {type : Text} (typed : tag.type? = some type) :
    ∃ entity ∈ entities, entity.label.getD [] = type := by
  rcases List.mem_iff_getElem?.mp member with ⟨index, found⟩
  rw [column_getElem?] at found
  rcases Option.map_eq_some_iff.mp found with ⟨token, _, rfl⟩
  unfold ofEntities at typed
  split at typed
  · cases typed
  · rename_i entity entityFound
    refine ⟨entity, List.mem_of_find?_eq_some entityFound, ?_⟩
    split at typed <;> exact Option.some.inj typed

/-! ## Round trip -/

def startsNotAfter (entity other : Span) : Bool := entity.start ≤ other.start

theorem pairwise_mergeSort_startsNotAfter (entities : List Span) :
    (entities.mergeSort startsNotAfter).Pairwise fun entity later =>
      entity.start ≤ later.start := by
  have transitive : ∀ first second third : Span, startsNotAfter first second →
      startsNotAfter second third → startsNotAfter first third := by
    intro first second third
    simp only [startsNotAfter, decide_eq_true_eq]
    omega
  have total : ∀ entity other : Span,
      (startsNotAfter entity other || startsNotAfter other entity) = true := by
    intro entity other
    simp only [startsNotAfter, Bool.or_eq_true, decide_eq_true_eq]
    omega
  exact (List.pairwise_mergeSort transitive total entities).imp of_decide_eq_true

/-- What reading makes of an entity that was written. -/
structure Restores (tokens : List Span) (entity restored : Span) : Prop where
  start : restored.start = entity.start
  stop : restored.stop = entity.stop
  label : restored.label = entity.label
  metadata : restored.metadata = none
  role : ∃ first stop, Occupies tokens entity first stop ∧
    restored.role = .entity {
      source := if stop - first = 1 then EntityDetails.single else EntityDetails.complex
      implicitBegin := false
      tokenRange := some (first, stop) }

def restored (tokens : List Span) (entity : Span) : Span where
  start := entity.start
  stop := entity.stop
  label := entity.label
  role := .entity (segmentOf tokens entity).details

theorem restores_restored {tokens entities : List Span} (ascending : Ascending tokens)
    (encodable : Encodable tokens entities) {entity : Span} (member : entity ∈ entities) :
    Restores tokens entity (restored tokens entity) :=
  ⟨rfl, rfl, rfl, rfl, _, _, ascending.occupies_of_encodable encodable member, rfl⟩

theorem entity?_segmentOf {text : Text} {tokens entities : List Span}
    (ascending : Ascending tokens) (encodable : Encodable tokens entities) {entity : Span}
    (member : entity ∈ entities) (within : entity.Within text) :
    Segment.entity? text tokens (segmentOf tokens entity) = .ok (restored tokens entity) := by
  have occupies := ascending.occupies_of_encodable encodable member
  have ends := occupies.onBoundaries_iff.mp (encodable.bounded entity member)
  have label : entity.label = some (segmentOf tokens entity).type := by
    cases labelled : entity.label with
    | none => exact absurd labelled (encodable.labelled entity member)
    | some type => simp only [segmentOf, labelled, Option.getD_some]
  exact Segment.entity?_of_makes ⟨ends.1, ends.2, label, rfl, rfl⟩ within

/-- Reading a column gives back the entities that were written into it, in the
order of their starts, exactly when a tag can hold each of their labels. -/
theorem entities_restored_iff {text : Text} {tokens entities : List Span} {tags : List Tag}
    (ascending : Ascending tokens) (within : ∀ entity ∈ entities, entity.Within text)
    (encoded : encode tokens entities = .ok tags) :
    (∃ read, Segment.entities text tokens (cells tags) = .ok read ∧
      List.Forall₂ (Restores tokens) (entities.mergeSort startsNotAfter) read) ↔
    ∀ entity ∈ entities, ∃ label, entity.label = some label ∧ label ≠ [] ∧ '\n' ∉ label := by
  rcases encode_iff.mp encoded with ⟨encodable, rfl⟩
  have perm := List.mergeSort_perm entities startsNotAfter
  constructor
  · rintro ⟨read, decoded, all⟩ entity member
    rcases List.exists_right_of_forall₂ all (perm.symm.subset member) with
      ⟨span, inRead, restores⟩
    rcases Segment.valid_of_entities decoded inRead with ⟨label, labelled, valid⟩
    exact ⟨label, restores.label.symm.trans labelled, valid⟩
  · intro valid
    have written : List.Forall₂ Written (cells (column tokens entities))
        (column tokens entities) := by
      refine written_cells fun tag member type typed => ?_
      rcases exists_label_of_column member typed with ⟨entity, member, rfl⟩
      rcases valid entity member with ⟨label, labelled, validLabel⟩
      rw [labelled]
      exact validLabel
    have segments := (segmentation_column ascending encodable perm
      (pairwise_mergeSort_startsNotAfter entities)).unique (Segment.segmentation_ofTags _)
    refine ⟨(entities.mergeSort startsNotAfter).map (restored tokens),
      Segment.entities_eq_ok_iff.mpr ⟨?_, _, written, ?_⟩, ?_⟩
    · rw [cells, List.length_map, column_length]
    · rw [← segments, List.forall₂_map_left_iff, List.forall₂_map_right_iff, List.forall₂_same]
      intro entity member
      exact entity?_segmentOf ascending encodable (perm.subset member)
        (within entity (perm.subset member))
    · rw [List.forall₂_map_right_iff, List.forall₂_same]
      intro entity member
      exact restores_restored ascending encodable (perm.subset member)

/-- Touching entities of one type stay apart, and a token of no width is part of the
entity that begins with it. -/
theorem entities_restored_touching :
    let tokens : List Span := [⟨0, 3, none, none, .token⟩, ⟨3, 7, none, none, .token⟩,
      ⟨8, 8, none, none, .token⟩, ⟨8, 9, none, none, .token⟩]
    let entities : List Span := [⟨8, 9, some ['L'], none, .plain⟩,
      ⟨3, 7, some ['P'], none, .plain⟩, ⟨0, 3, some ['P'], none, .plain⟩]
    ∃ read,
      Segment.entities "one two .".toList tokens
        (cells [.begin ['P'], .begin ['P'], .begin ['L'], .inside ['L']]) = .ok read ∧
      List.Forall₂ (Restores tokens) (entities.mergeSort startsNotAfter) read := by
  intro tokens entities
  have within : ∀ entity ∈ entities, entity.Within "one two .".toList := by
    simp [entities, Span.Within]
  have encoded : encode tokens entities =
      .ok [.begin ['P'], .begin ['P'], .begin ['L'], .inside ['L']] := rfl
  apply (entities_restored_iff ⟨by decide, by decide⟩ within encoded).mpr
  simp [entities]

end Standoff.Tag
