import Standoff.Proofs.Tag.Normal
import Standoff.Proofs.Tag.RoundTrip

/-! Reading a tag column and writing what was read. The tags come back in normal form,
which is kept from then on, and which says all that the entities do except how they began. -/

namespace Standoff

def Segment.begun (segment : Segment) : Segment := { segment with implicitBegin := false }

namespace Tag

/-! ## Tags in normal form -/

/-- Every inside tag goes on with the type of the tag in front of it. -/
def Continuing (tags : List Tag) : Prop :=
  ∀ index type, tags[index]? = some (.inside type) →
    ∃ previous tag, previous + 1 = index ∧ tags[previous]? = some tag ∧ tag.type? = some type

theorem continuing_normalForm (tags : List Tag) : Continuing (normalForm tags) := by
  intro index type found
  have covered : ∃ segment ∈ Segment.ofTags tags, segment.Covers index := by
    by_contra uncovered
    have same := (normalForm_getElem?_of_uncovered uncovered).symm.trans found
    cases eq_outside_of_uncovered uncovered same
  rcases covered with ⟨segment, member, covers⟩
  rw [normalForm_getElem?_of_covers member covers] at found
  split at found
  · rename_i after
    obtain rfl := Tag.inside.inj (Option.some.inj found)
    have coversPrevious : segment.Covers (index - 1) := by
      have := covers.2
      constructor <;> omega
    refine ⟨index - 1, _, by omega, normalForm_getElem?_of_covers member coversPrevious, ?_⟩
    split <;> rfl
  · cases Option.some.inj found

theorem normalForm_eq_self_iff {tags : List Tag} : normalForm tags = tags ↔ Continuing tags := by
  constructor
  · intro same
    exact same ▸ continuing_normalForm tags
  · intro continuing
    apply List.ext_getElem?
    intro index
    by_cases covered : ∃ segment ∈ Segment.ofTags tags, segment.Covers index
    · rcases covered with ⟨segment, member, covers⟩
      have proper := (Segment.segmentation_ofTags tags).proper segment member
      rw [normalForm_getElem?_of_covers member covers]
      split
      · rename_i after
        exact (proper.continued index after covers.2).symm
      · -- The first tag of a segment has nothing to go on with, so it is a begin tag.
        obtain rfl : segment.first = index := by
          have := covers.1
          omega
        rcases proper.opened with ⟨tag, found, typed⟩
        rw [found]
        cases tag with
        | outside => cases typed
        | begin type =>
            cases typed
            rfl
        | inside type =>
            cases typed
            rcases continuing _ _ found with ⟨previous, tag, follows, foundPrevious, same⟩
            exact absurd same (proper.detached found previous tag follows foundPrevious)
    · exact normalForm_getElem?_of_uncovered covered

theorem normalForm_normalForm (tags : List Tag) :
    normalForm (normalForm tags) = normalForm tags :=
  normalForm_eq_self_iff.mpr (continuing_normalForm tags)

/-! ## The segments of a normal form -/

theorem segmentation_normalForm (tags : List Tag) :
    Segment.Segmentation (normalForm tags) ((Segment.ofTags tags).map Segment.begun) where
  proper segment member := by
    rcases List.mem_map.mp member with ⟨original, inTags, rfl⟩
    have nonempty := ((Segment.segmentation_ofTags tags).proper original inTags).nonempty
    refine @Segment.proper_of_begin _ original.begun nonempty rfl ?_ ?_
    · exact (normalForm_getElem?_of_covers inTags ⟨Nat.le_refl _, nonempty⟩).trans
        (congrArg some (if_neg (Nat.lt_irrefl _)))
    · intro index after before
      exact (normalForm_getElem?_of_covers inTags ⟨Nat.le_of_lt after, before⟩).trans
        (congrArg some (if_pos after))
  ordered := List.pairwise_map.mpr (Segment.segmentation_ofTags tags).ordered
  covering index := by
    have covers : (∃ segment ∈ (Segment.ofTags tags).map Segment.begun, segment.Covers index) ↔
        ∃ segment ∈ Segment.ofTags tags, segment.Covers index := by
      simp [Segment.begun, Segment.Covers]
    rw [covers, (Segment.segmentation_ofTags tags).covering index, normalForm_getElem?]
    cases tags[index]? with
    | none => simp
    | some tag => simp [normalise_eq_outside_iff]

theorem ofTags_normalForm (tags : List Tag) :
    Segment.ofTags (normalForm tags) = (Segment.ofTags tags).map Segment.begun :=
  (Segment.segmentation_ofTags _).unique (segmentation_normalForm tags)

/-! ## Columns in normal form -/

/-- No cell has a line feed left over, and every inside tag goes on with the type of the
tag in front of it. -/
structure InNormalForm (column : List (Option Text)) : Prop where
  unended : ∀ written, some written ∈ column → written.getLast? ≠ some '\n'
  continued : ∀ (index : Nat) (type : Text),
    column[index]? = some (some ('I' :: '-' :: type)) →
      ∃ previous, previous + 1 = index ∧
        (column[previous]? = some (some ('B' :: '-' :: type)) ∨
          column[previous]? = some (some ('I' :: '-' :: type)))

theorem render_eq_inside_iff {tag : Tag} {type : Text} :
    tag.render = 'I' :: '-' :: type ↔ tag = .inside type := by
  cases tag <;> simp [render]

theorem type?_eq_some_iff {tag : Tag} {type : Text} :
    tag.type? = some type ↔
      tag.render = 'B' :: '-' :: type ∨ tag.render = 'I' :: '-' :: type := by
  cases tag <;> simp [render, type?]

theorem render_eq_iff {written : Text} {tag : Tag} (holds : Written (some written) tag) :
    tag.render = written ↔ written.getLast? ≠ some '\n' := by
  have unended : ∀ {type : Text}, ValidType type → ∀ letter,
      (letter :: '-' :: type).getLast? ≠ some '\n' := by
    intro type valid letter last
    rw [List.getLast?_cons_cons, List.getLast?_cons] at last
    cases end_ : type.getLast? with
    | none => exact valid.1 (List.getLast?_eq_none_iff.mp end_)
    | some character =>
        rw [end_] at last
        exact valid.2 (List.mem_of_getLast? (end_.trans last))
  have ended : ∀ (type : Text) letter,
      (letter :: '-' :: (type ++ ['\n'])).getLast? = some '\n' := by
    intro type letter
    rw [← List.cons_append, ← List.cons_append, List.getLast?_concat]
  cases holds with
  | outside => decide
  | begin type lineEnd valid ends =>
      rcases ends with rfl | rfl
      · simpa [render] using unended valid 'B'
      · simp [render, ended type 'B']
  | inside type lineEnd valid ends =>
      rcases ends with rfl | rfl
      · simpa [render] using unended valid 'I'
      · simp [render, ended type 'I']

theorem cells_getElem? (tags : List Tag) (index : Nat) :
    (cells tags)[index]? = tags[index]?.map fun tag => some tag.render :=
  List.getElem?_map

theorem cells_eq_iff {column : List (Option Text)} {tags : List Tag}
    (written : List.Forall₂ Written column tags) :
    cells tags = column ↔ ∀ written, some written ∈ column → written.getLast? ≠ some '\n' := by
  induction written with
  | nil => simp [cells]
  | @cons cell tag rest tags holds _ induction =>
      have content : ∃ written, cell = some written := by
        cases holds <;> exact ⟨_, rfl⟩
      rcases content with ⟨written, rfl⟩
      rw [cells, List.map_cons, ← cells, List.cons.injEq, Option.some.injEq, render_eq_iff holds,
        induction]
      simp only [List.mem_cons, Option.some.injEq, or_imp, forall_and, forall_eq]

theorem written_normalForm {column : List (Option Text)} {tags : List Tag}
    (written : List.Forall₂ Written column tags) :
    List.Forall₂ Written (cells (normalForm tags)) (normalForm tags) := by
  apply written_cells
  intro tag member type typed
  rcases List.mem_iff_getElem?.mp member with ⟨index, found⟩
  rw [normalForm_getElem?] at found
  rcases Option.map_eq_some_iff.mp found with ⟨original, foundOriginal, rfl⟩
  rw [type?_normalise] at typed
  rcases List.exists_left_of_forall₂ written (List.mem_of_getElem? foundOriginal) with
    ⟨cell, _, holds⟩
  exact valid_of_written holds typed

theorem inNormalForm_iff {column : List (Option Text)} {tags : List Tag}
    (written : List.Forall₂ Written column tags) :
    InNormalForm column ↔ cells (normalForm tags) = column := by
  constructor
  · intro inForm
    obtain rfl := (cells_eq_iff written).mpr inForm.unended
    refine congrArg cells (normalForm_eq_self_iff.mpr ?_)
    intro index type found
    rcases inForm.continued index type (by rw [cells_getElem?, found]; rfl) with
      ⟨previous, follows, foundPrevious⟩
    simp only [cells_getElem?, Option.map_eq_some_iff, Option.some.injEq, ← exists_or,
      ← and_or_left, ← type?_eq_some_iff] at foundPrevious
    rcases foundPrevious with ⟨tag, foundTag, typed⟩
    exact ⟨previous, tag, follows, foundTag, typed⟩
  · intro same
    have again := written_normalForm written
    rw [same] at again
    have normal := written_unique again written
    rw [normal] at same
    refine ⟨(cells_eq_iff written).mp same, ?_⟩
    subst same
    intro index type found
    rw [cells_getElem?] at found
    rcases Option.map_eq_some_iff.mp found with ⟨tag, foundTag, equal⟩
    obtain rfl := render_eq_inside_iff.mp (Option.some.inj equal)
    rcases normalForm_eq_self_iff.mp normal index type foundTag with
      ⟨previous, before, follows, foundPrevious, typed⟩
    refine ⟨previous, follows, ?_⟩
    simpa only [cells_getElem?, foundPrevious, Option.map_some, Option.some.injEq] using
      type?_eq_some_iff.mp typed

/-! ## What a normal form says -/

/-- What can be told of an entity apart from how it began. -/
structure Outline where
  start : Nat
  stop : Nat
  label : Option Text
  tokenRange : Option (Int × Int)
  deriving DecidableEq, Repr

def outline (entity : Span) : Outline where
  start := entity.start
  stop := entity.stop
  label := entity.label
  tokenRange :=
    match entity.role with
    | .entity details => details.tokenRange
    | _ => none

theorem outline_eq_of_makes {tokens : List Span} {segment other : Segment}
    {entity otherEntity : Span} (makes : segment.Makes tokens entity)
    (otherMakes : other.Makes tokens otherEntity) (same : segment.begun = other.begun) :
    outline entity = outline otherEntity := by
  rcases segment with ⟨first, stop, type, implicitBegin⟩
  rcases other with ⟨otherFirst, otherStop, otherType, otherBegin⟩
  cases same
  rcases makes.start with ⟨token, found, start⟩
  rcases otherMakes.start with ⟨otherToken, otherFound, otherStart⟩
  cases found.symm.trans otherFound
  rcases makes.stop with ⟨last, foundLast, end_⟩
  rcases otherMakes.stop with ⟨otherLast, otherFoundLast, otherEnd⟩
  cases foundLast.symm.trans otherFoundLast
  simp only [outline, makes.role, otherMakes.role, makes.label, otherMakes.label, ← start,
    ← otherStart, ← end_, ← otherEnd, Segment.details]

/-- The column of entities shows no more than their outlines. -/
theorem column_eq_of_outline {tokens entities others : List Span}
    (same : entities.map outline = others.map outline) :
    column tokens entities = column tokens others := by
  let span (outline : Outline) : Span :=
    { start := outline.start, stop := outline.stop, label := outline.label }
  have shown : ∀ shownEntities earlier token,
      ofEntities shownEntities earlier token =
        ofEntities ((shownEntities.map outline).map span) earlier token := by
    intro shownEntities earlier token
    rw [ofEntities, ofEntities, List.map_map, List.find?_map]
    have sameContains : ((fun entity : Span => entity.contains token) ∘ span ∘ outline) =
        fun entity => entity.contains token := rfl
    rw [sameContains]
    cases shownEntities.find? fun entity => entity.contains token <;> rfl
  apply List.ext_getElem?
  intro index
  rw [column_getElem?, column_getElem?]
  congr 1
  funext token
  rw [shown entities, shown others, same]

theorem outline_eq_iff {text : Text} {tokens entities others : List Span}
    {column otherColumn : List (Option Text)} {tags otherTags : List Tag}
    (strictly : StrictlyAscending tokens) (written : List.Forall₂ Written column tags)
    (otherWritten : List.Forall₂ Written otherColumn otherTags)
    (read : Segment.entities text tokens column = .ok entities)
    (otherRead : Segment.entities text tokens otherColumn = .ok others) :
    entities.map outline = others.map outline ↔ normalForm tags = normalForm otherTags := by
  constructor
  · intro same
    rw [(encode_iff.mp (encode_of_entities strictly written read)).2,
      (encode_iff.mp (encode_of_entities strictly otherWritten otherRead)).2]
    exact column_eq_of_outline same
  · intro same
    have segments := congrArg Segment.ofTags same
    rw [ofTags_normalForm, ofTags_normalForm] at segments
    rcases Segment.entities_eq_ok_iff.mp read with ⟨_, readTags, readWritten, made⟩
    rcases Segment.entities_eq_ok_iff.mp otherRead with ⟨_, otherTags', otherWritten', otherMade⟩
    obtain rfl := written_unique written readWritten
    obtain rfl := written_unique otherWritten otherWritten'
    exact List.map_eq_map_of_forall₂ made otherMade segments fun here there =>
      outline_eq_of_makes (Segment.makes_of_entity? here).1 (Segment.makes_of_entity? there).1

/-- Tags over strictly ascending tokens can be read, and what was read can be written. It is
written in normal form: with a begin tag where one of the segments that were found begins,
and with inside tags after it. This is kept when it is read and written again, it is the
column itself when that was in normal form, and it is the same for two columns just when
their entities are the same apart from how they began. -/
theorem reencoded_in_normal_form {text : Text} {tokens : List Span}
    {column : List (Option Text)} (strictly : StrictlyAscending tokens)
    (within : ∀ token ∈ tokens, token.Within text) (count : tokens.length = column.length)
    (readable : ∀ cell ∈ column, Readable cell) :
    ∃ tags segments entities, List.Forall₂ Written column tags ∧
      Segment.decode column = .ok segments ∧
      Segment.entities text tokens column = .ok entities ∧
      encode tokens entities = .ok (tags.mapIdx (normalise segments)) ∧
      (∃ again, Segment.entities text tokens (cells (tags.mapIdx (normalise segments))) =
          .ok again ∧
        encode tokens again = .ok (tags.mapIdx (normalise segments))) ∧
      (cells (tags.mapIdx (normalise segments)) = column ↔ InNormalForm column) ∧
      ∀ other : List (Option Text), tokens.length = other.length →
        (∀ cell ∈ other, Readable cell) →
        ∃ otherTags otherSegments otherEntities, List.Forall₂ Written other otherTags ∧
          Segment.decode other = .ok otherSegments ∧
          Segment.entities text tokens other = .ok otherEntities ∧
          (entities.map outline = otherEntities.map outline ↔
            tags.mapIdx (normalise segments) = otherTags.mapIdx (normalise otherSegments)) := by
  have decoded : ∀ {cells tags}, List.Forall₂ Written cells tags →
      Segment.decode cells = .ok (Segment.ofTags tags) := by
    intro cells tags written
    rw [Segment.decode, readAll_eq_ok_iff.mpr written]
    rfl
  rcases exists_tags_of_readable readable with ⟨tags, written⟩
  rcases exists_entities strictly.ascending within count written with ⟨entities, read⟩
  have again := written_normalForm written
  have againCount : tokens.length = (cells (normalForm tags)).length := by
    rw [count, written.length_eq, cells, List.length_map, normalForm, List.length_mapIdx]
  rcases exists_entities strictly.ascending within againCount again with ⟨entitiesAgain, readAgain⟩
  have encodedAgain := encode_of_entities strictly again readAgain
  rw [normalForm_normalForm] at encodedAgain
  refine ⟨tags, Segment.ofTags tags, entities, written, decoded written, read,
    encode_of_entities strictly written read, ⟨entitiesAgain, readAgain, encodedAgain⟩,
    (inNormalForm_iff written).symm, ?_⟩
  intro other otherCount otherReadable
  rcases exists_tags_of_readable otherReadable with ⟨otherTags, otherWritten⟩
  rcases exists_entities strictly.ascending within otherCount otherWritten with
    ⟨others, otherRead⟩
  exact ⟨otherTags, Segment.ofTags otherTags, others, otherWritten, decoded otherWritten,
    otherRead, outline_eq_iff strictly written otherWritten read otherRead⟩

/-- A first inside tag with a line feed left over behind it says the same as a begin tag,
and a begin tag behind it stays one. -/
theorem reencoded_from_inside_tags :
    let text := "ab cd ef".toList
    let tokens : List Span := [{ start := 0, stop := 2 }, { start := 3, stop := 5 },
      { start := 6, stop := 8 }]
    let column := [some "I-P\n".toList, some "I-P".toList, some "B-P".toList]
    let normal : List Tag := [.begin ['P'], .inside ['P'], .begin ['P']]
    ∃ entities others, Segment.entities text tokens column = .ok entities ∧
      encode tokens entities = .ok normal ∧
      Segment.entities text tokens (cells normal) = .ok others ∧
      entities.map outline = others.map outline ∧ ¬ InNormalForm column := by
  intro text tokens column normal
  let tags : List Tag := [.inside ['P'], .inside ['P'], .begin ['P']]
  have written : List.Forall₂ Written column tags := readAll_eq_ok_iff.mp rfl
  have normalWritten : List.Forall₂ Written (cells normal) normal := readAll_eq_ok_iff.mp rfl
  have within : ∀ token ∈ tokens, token.Within text := by decide
  rcases reencoded_in_normal_form ⟨by decide, by decide⟩ within rfl
    (readable_of_written written) with
    ⟨found, segments, entities, foundWritten, decoded, read, encoded, _, unchanged, same⟩
  obtain rfl := written_unique written foundWritten
  obtain rfl := Except.ok.inj (decoded.symm.trans rfl)
  rcases same (cells normal) rfl (readable_of_written normalWritten) with
    ⟨otherFound, otherSegments, others, otherWritten, otherDecoded, otherRead, alike⟩
  obtain rfl := written_unique normalWritten otherWritten
  obtain rfl := Except.ok.inj (otherDecoded.symm.trans rfl)
  exact ⟨entities, others, read, encoded, otherRead, alike.mpr rfl,
    fun inForm => absurd (unchanged.mpr inForm) (by decide)⟩

end Tag

end Standoff
