import Standoff.Proofs.Result
import Standoff.Proofs.Standing
import Standoff.Proofs.Tag.Segmentation

/-! What a tag column makes of the tokens of a sentence: an entity for each
segment, from the start of the segment's first token to the end of its last. -/

namespace Standoff

namespace Segment

/-- An entity that a segment makes of tokens. -/
structure Makes (tokens : List Span) (segment : Segment) (entity : Span) : Prop where
  start : ∃ token, tokens[segment.first]? = some token ∧ token.start = entity.start
  stop : ∃ token, tokens[segment.stop - 1]? = some token ∧ token.stop = entity.stop
  label : entity.label = some segment.type
  metadata : entity.metadata = none
  role : entity.role = .entity segment.details

theorem makes_of_entity? {text : Text} {tokens : List Span} {segment : Segment}
    {entity : Span} (made : entity? text tokens segment = .ok entity) :
    Makes tokens segment entity ∧ entity.Within text := by
  unfold entity? at made
  split at made
  · rename_i first last foundFirst foundLast
    split at made
    · rename_i span spanMade
      cases made
      rcases Span.make?_eq_ok_iff.mp spanMade with ⟨_, inOrder, inside, rfl⟩
      refine ⟨⟨⟨first, foundFirst, ?_⟩, ⟨last, foundLast, ?_⟩, rfl, rfl, rfl⟩, ?_, ?_⟩
      · exact (Int.toNat_natCast _).symm
      · exact (Int.toNat_natCast _).symm
      · simp only [Int.toNat_natCast]
        omega
      · simp only [Int.toNat_natCast]
        omega
    · cases made
  · cases made

theorem entity?_of_makes {text : Text} {tokens : List Span} {segment : Segment}
    {entity : Span} (makes : Makes tokens segment entity) (within : entity.Within text) :
    entity? text tokens segment = .ok entity := by
  rcases makes.start with ⟨first, foundFirst, sameStart⟩
  rcases makes.stop with ⟨last, foundLast, sameStop⟩
  have made : Span.entity? text first.start last.stop segment.type segment.details =
      .ok entity := by
    refine Span.make?_eq_ok_iff.mpr ⟨Int.natCast_nonneg _, ?_, ?_, ?_⟩
    · have := within.1
      omega
    · have := within.2
      omega
    · simp only [Int.toNat_natCast, sameStart, sameStop]
      cases entity
      cases makes.label
      cases makes.metadata
      cases makes.role
      rfl
  simp only [entity?, foundFirst, foundLast, made]

theorem entities_eq_ok_iff {text : Text} {tokens entities : List Span}
    {cells : List (Option Text)} :
    Segment.entities text tokens cells = .ok entities ↔
      tokens.length = cells.length ∧ ∃ tags, List.Forall₂ Tag.Written cells tags ∧
        List.Forall₂ (fun segment entity => entity? text tokens segment = .ok entity)
          (ofTags tags) entities := by
  unfold Segment.entities
  split
  · rename_i different
    exact ⟨nofun, fun known => absurd known.1 different⟩
  · rename_i same
    cases decoded : decode cells with
    | error error =>
        refine ⟨nofun, ?_⟩
        rintro ⟨_, tags, written, _⟩
        rw [decode, Tag.readAll_eq_ok_iff.mpr written] at decoded
        cases decoded
    | ok segments =>
        rcases Result.map_eq_ok_iff.mp decoded with ⟨tags, read, rfl⟩
        have written := Tag.readAll_eq_ok_iff.mp read
        simp only [Result.mapM_eq_ok_iff]
        constructor
        · exact fun made => ⟨not_not.mp same, tags, written, made⟩
        · rintro ⟨_, others, othersWritten, made⟩
          cases read.symm.trans (Tag.readAll_eq_ok_iff.mpr othersWritten)
          exact made

/-- A cell without a tag is the reason given when there is one. -/
theorem entities_of_firstUnreadable {text : Text} {tokens : List Span}
    {cells : List (Option Text)} {error : DecodeError} (count : tokens.length = cells.length)
    (found : Tag.firstUnreadable cells = some error) :
    Segment.entities text tokens cells = .error (.tag error) := by
  rw [Segment.entities, if_neg (not_not.mpr count), decode, Tag.readAll_of_firstUnreadable found]
  rfl

theorem exists_makes {text : Text} {tokens entities : List Span} {cells : List (Option Text)}
    (read : Segment.entities text tokens cells = .ok entities) {entity : Span}
    (member : entity ∈ entities) :
    ∃ tags segment, List.Forall₂ Tag.Written cells tags ∧ Proper tags segment ∧
      Makes tokens segment entity ∧ entity.Within text := by
  rcases entities_eq_ok_iff.mp read with ⟨_, tags, written, made⟩
  rcases List.exists_left_of_forall₂ made member with ⟨segment, inSegments, entityMade⟩
  exact ⟨tags, segment, written, (segmentation_ofTags tags).proper segment inSegments,
    makes_of_entity? entityMade⟩

theorem valid_of_entities {text : Text} {tokens entities : List Span}
    {cells : List (Option Text)}
    (read : Segment.entities text tokens cells = .ok entities) {entity : Span}
    (member : entity ∈ entities) : ∃ type, entity.label = some type ∧ Tag.ValidType type := by
  rcases exists_makes read member with ⟨tags, segment, written, proper, makes, _⟩
  rcases proper.opened with ⟨tag, found, typed⟩
  rcases List.exists_left_of_forall₂ written (List.mem_of_getElem? found) with
    ⟨cell, _, cellWritten⟩
  exact ⟨_, makes.label, Tag.valid_of_written cellWritten typed⟩

end Segment

end Standoff
