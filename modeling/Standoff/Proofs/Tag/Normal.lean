import Standoff.Proofs.Tag.Coverage
import Standoff.Proofs.Tag.Decoding

/-! Normal form of tags: an entity begins with a begin tag and goes on with inside
tags. Reading a column and writing what was read gives the normal form of its tags. -/

namespace Standoff.Tag

/-! ## Normal form -/

def normalise (segments : List Segment) (index : Nat) (tag : Tag) : Tag :=
  match tag.type? with
  | none => .outside
  | some type =>
      if segments.any fun segment => segment.first == index then .begin type else .inside type

/-- The same segments, each written with a begin tag and then inside tags. -/
def normalForm (tags : List Tag) : List Tag :=
  tags.mapIdx (normalise (Segment.ofTags tags))

example : normalForm [.inside ['A'], .inside ['A'], .inside ['B'], .outside] =
    [.begin ['A'], .inside ['A'], .begin ['B'], .outside] := by decide

theorem normalForm_getElem? (tags : List Tag) (index : Nat) :
    (normalForm tags)[index]? = tags[index]?.map (normalise (Segment.ofTags tags) index) :=
  List.getElem?_mapIdx

theorem type?_normalise (segments : List Segment) (index : Nat) (tag : Tag) :
    (normalise segments index tag).type? = tag.type? := by
  rw [normalise]
  cases tag.type? with
  | none => rfl
  | some type =>
      dsimp only
      split <;> rfl

theorem normalise_eq_outside_iff {segments : List Segment} {index : Nat} {tag : Tag} :
    normalise segments index tag = .outside ↔ tag = .outside := by
  rw [← not_iff_not, ← ne_eq, ← ne_eq, ne_outside_iff, ne_outside_iff, type?_normalise]

theorem any_first_iff {tags : List Tag} {segments : List Segment}
    (segmentation : Segment.Segmentation tags segments) {segment : Segment} {index : Nat}
    (member : segment ∈ segments) (covers : segment.Covers index) :
    (segments.any fun other => other.first == index) ↔ ¬ segment.first < index := by
  have lower := covers.1
  have upper := covers.2
  rw [List.any_eq_true]
  constructor
  · intro found
    rcases found with ⟨other, otherMember, same⟩
    have first : other.first = index := beq_iff_eq.mp same
    have nonempty := (segmentation.proper other otherMember).nonempty
    rcases segmentation.eq_or_apart member otherMember with equal | before | before
    · subst equal
      omega
    · omega
    · omega
  · intro begins
    exact ⟨segment, member, beq_iff_eq.mpr (by omega)⟩

theorem normalForm_getElem?_of_covers {tags : List Tag} {segment : Segment} {index : Nat}
    (member : segment ∈ Segment.ofTags tags) (covers : segment.Covers index) :
    (normalForm tags)[index]? =
      some (if segment.first < index then .inside segment.type else .begin segment.type) := by
  have segmentation := Segment.segmentation_ofTags tags
  rcases (segmentation.proper segment member).typed covers with ⟨tag, found, typed⟩
  rw [normalForm_getElem?, found, Option.map_some]
  simp only [normalise, typed, any_first_iff segmentation member covers, ite_not]

theorem eq_outside_of_uncovered {tags : List Tag} {index : Nat} {tag : Tag}
    (uncovered : ¬ ∃ segment ∈ Segment.ofTags tags, segment.Covers index)
    (found : tags[index]? = some tag) : tag = .outside := by
  by_contra inside
  exact uncovered (((Segment.segmentation_ofTags tags).covering index).mpr ⟨tag, found, inside⟩)

theorem normalForm_getElem?_of_uncovered {tags : List Tag} {index : Nat}
    (uncovered : ¬ ∃ segment ∈ Segment.ofTags tags, segment.Covers index) :
    (normalForm tags)[index]? = tags[index]? := by
  rw [normalForm_getElem?]
  cases found : tags[index]? with
  | none => rfl
  | some tag =>
      have outside := eq_outside_of_uncovered uncovered found
      rw [Option.map_some, normalise_eq_outside_iff.mpr outside, outside]

/-! ## Writing what was read -/

/-- Both the starts and the ends of tokens always increase. -/
structure StrictlyAscending (tokens : List Span) : Prop where
  starts : tokens.Pairwise fun token later => token.start < later.start
  stops : tokens.Pairwise fun token later => token.stop < later.stop

theorem StrictlyAscending.ascending {tokens : List Span}
    (strictly : StrictlyAscending tokens) : Ascending tokens where
  starts := strictly.starts.imp Nat.le_of_lt
  stops := strictly.stops.imp Nat.le_of_lt

theorem lt_of_pairwise {tokens : List Span} {measure : Span → Nat}
    (pairwise : tokens.Pairwise fun token later => measure token < measure later)
    {index later : Nat} {token other : Span} (found : tokens[index]? = some token)
    (foundLater : tokens[later]? = some other) (before : index < later) :
    measure token < measure other := by
  rcases List.getElem?_eq_some_iff.mp found with ⟨bound, rfl⟩
  rcases List.getElem?_eq_some_iff.mp foundLater with ⟨laterBound, rfl⟩
  exact List.pairwise_iff_getElem.mp pairwise index later bound laterBound before

/-- An entity contains just the tokens that it was made of. -/
theorem StrictlyAscending.occupies {tokens : List Span} (strictly : StrictlyAscending tokens)
    {segment : Segment} {entity : Span} (makes : segment.Makes tokens entity)
    (nonempty : segment.first < segment.stop) :
    Occupies tokens entity segment.first segment.stop := by
  rcases makes.start with ⟨first, foundFirst, sameStart⟩
  rcases makes.stop with ⟨last, foundLast, sameStop⟩
  have bounded : segment.stop - 1 < tokens.length :=
    (List.getElem?_eq_some_iff.mp foundLast).1
  refine ⟨nonempty, by omega, ?_⟩
  intro index token found
  rw [contains_iff, ← sameStart, ← sameStop]
  constructor
  · intro inside
    constructor
    · by_contra before
      have := lt_of_pairwise strictly.starts found foundFirst (Nat.lt_of_not_le before)
      omega
    · by_contra after
      have := lt_of_pairwise strictly.stops foundLast found (by omega)
      omega
  · intro range
    exact ⟨le_of_pairwise strictly.ascending.starts foundFirst found range.1,
      le_of_pairwise strictly.ascending.stops found foundLast (by omega)⟩

/-- The entities stand over the segments of the tags. -/
def Over (tokens : List Span) (segment : Segment) (entity : Span) : Prop :=
  Occupies tokens entity segment.first segment.stop ∧ segment.Makes tokens entity

theorem encodable_of_over {tokens entities : List Span} {tags : List Tag}
    (all : List.Forall₂ (Over tokens) (Segment.ofTags tags) entities) :
    Encodable tokens entities where
  bounded entity member := by
    rcases List.exists_left_of_forall₂ all member with ⟨segment, _, occupies, makes⟩
    exact occupies.onBoundaries_iff.mpr ⟨makes.start, makes.stop⟩
  labelled entity member := by
    rcases List.exists_left_of_forall₂ all member with ⟨segment, _, _, makes⟩
    rw [makes.label]
    exact Option.some_ne_none _
  apart := by
    refine List.pairwise_of_forall₂ all (Segment.segmentation_ofTags tags).ordered ?_
    intro segment later entity other here there before token member inEntity inOther
    rcases List.mem_iff_getElem?.mp member with ⟨index, found⟩
    have range := (here.1.contains_iff index token found).mp inEntity
    have otherRange := (there.1.contains_iff index token found).mp inOther
    omega

theorem column_of_over {tokens entities : List Span} {tags : List Tag}
    (count : tokens.length = tags.length)
    (all : List.Forall₂ (Over tokens) (Segment.ofTags tags) entities) :
    column tokens entities = normalForm tags := by
  apply List.ext_getElem?
  intro index
  by_cases covered : ∃ segment ∈ Segment.ofTags tags, segment.Covers index
  · rcases covered with ⟨segment, member, covers⟩
    rcases List.exists_right_of_forall₂ all member with ⟨entity, inEntities, occupies, makes⟩
    rw [normalForm_getElem?_of_covers member covers,
      column_of_occupies (encodable_of_over all) inEntities occupies covers.1 covers.2,
      makes.label, Option.getD_some]
  · rw [column_getElem?, normalForm_getElem?_of_uncovered covered]
    by_cases bound : index < tokens.length
    · have tagFound := List.getElem?_eq_getElem (count ▸ bound : index < tags.length)
      have found := List.getElem?_eq_getElem bound
      have free : ∀ entity ∈ entities, ¬ entity.contains tokens[index] := by
        intro entity member contains
        rcases List.exists_left_of_forall₂ all member with ⟨segment, inTags, occupies, _⟩
        exact covered ⟨segment, inTags, (occupies.contains_iff index _ found).mp contains⟩
      rw [found, tagFound, eq_outside_of_uncovered covered tagFound, Option.map_some,
        ofEntities_eq_outside_iff.mpr free]
    · rw [List.getElem?_eq_none (Nat.le_of_not_lt bound),
        List.getElem?_eq_none (count ▸ Nat.le_of_not_lt bound), Option.map_none]

theorem encode_of_entities {text : Text} {tokens entities : List Span}
    {column : List (Option Text)} {tags : List Tag} (strictly : StrictlyAscending tokens)
    (written : List.Forall₂ Written column tags)
    (read : Segment.entities text tokens column = .ok entities) :
    encode tokens entities = .ok (normalForm tags) := by
  rcases Segment.entities_eq_ok_iff.mp read with ⟨count, others, othersWritten, made⟩
  obtain rfl := written_unique written othersWritten
  have all : List.Forall₂ (Over tokens) (Segment.ofTags tags) entities := by
    refine List.forall₂_iff_get.mpr ⟨made.length_eq, fun index bound entityBound => ?_⟩
    have makes := (Segment.makes_of_entity? (made.get bound entityBound)).1
    have nonempty := ((Segment.segmentation_ofTags tags).proper _
      (List.get_mem _ ⟨index, bound⟩)).nonempty
    exact ⟨strictly.occupies makes nonempty, makes⟩
  exact encode_iff.mpr ⟨encodable_of_over all,
    (column_of_over (count.trans written.length_eq) all).symm⟩

theorem exists_entities {text : Text} {tokens : List Span} {column : List (Option Text)}
    {tags : List Tag} (ascending : Ascending tokens)
    (within : ∀ token ∈ tokens, token.Within text) (count : tokens.length = column.length)
    (written : List.Forall₂ Written column tags) :
    ∃ entities, Segment.entities text tokens column = .ok entities := by
  have each : ∀ segment ∈ Segment.ofTags tags, ∃ entity,
      Segment.entity? text tokens segment = .ok entity := by
    intro segment member
    have nonempty := ((Segment.segmentation_ofTags tags).proper segment member).nonempty
    have bounded : segment.stop - 1 < tokens.length := by
      have covers : segment.Covers (segment.stop - 1) := by
        constructor <;> omega
      rcases ((Segment.segmentation_ofTags tags).proper segment member).typed covers with
        ⟨tag, found, _⟩
      have := (List.getElem?_eq_some_iff.mp found).1
      have := written.length_eq
      omega
    have foundFirst := List.getElem?_eq_getElem (show segment.first < tokens.length by omega)
    have foundLast := List.getElem?_eq_getElem bounded
    have firstWithin := within _ (List.mem_of_getElem? foundFirst)
    have lastWithin := within _ (List.mem_of_getElem? foundLast)
    have stops := le_of_pairwise ascending.stops foundFirst foundLast (by omega)
    let entity : Span := {
      start := tokens[segment.first].start
      stop := tokens[segment.stop - 1].stop
      label := some segment.type
      role := .entity segment.details }
    have makes : segment.Makes tokens entity :=
      ⟨⟨_, foundFirst, rfl⟩, ⟨_, foundLast, rfl⟩, rfl, rfl, rfl⟩
    exact ⟨entity, Segment.entity?_of_makes makes
      ⟨Nat.le_trans firstWithin.1 stops, lastWithin.2⟩⟩
  rcases List.exists_forall₂ each with ⟨entities, made⟩
  exact ⟨entities, Segment.entities_eq_ok_iff.mpr ⟨count, tags, written, made⟩⟩

end Standoff.Tag
