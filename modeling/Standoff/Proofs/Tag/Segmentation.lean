import Mathlib.Data.List.Sort
import Standoff.Proofs.Tag.Reading

/-! The segments that a tag column describes, said without a reader.

A segment is proper when its tags make it one entity, and a segmentation consists
of proper segments that cover every tag with a type. There is exactly one, and it
is what reading the column from the front finds. -/

namespace Standoff

namespace Segment

/-! ## Segmentations -/

def Covers (segment : Segment) (index : Nat) : Prop :=
  segment.first ≤ index ∧ index < segment.stop

/-- The tags of a segment make it one entity of its type: all but the first go on
with it, and a first tag that could go on with something has nothing of that type
in front of it. -/
structure Proper (tags : List Tag) (segment : Segment) : Prop where
  nonempty : segment.first < segment.stop
  opened : ∃ tag, tags[segment.first]? = some tag ∧ tag.type? = some segment.type
  continued : ∀ index, segment.first < index → index < segment.stop →
    tags[index]? = some (.inside segment.type)
  implicitBegin_iff : segment.implicitBegin = true ↔
    tags[segment.first]? = some (.inside segment.type)
  detached : tags[segment.first]? = some (.inside segment.type) →
    ∀ index tag, index + 1 = segment.first → tags[index]? = some tag →
      tag.type? ≠ some segment.type

structure Segmentation (tags : List Tag) (segments : List Segment) : Prop where
  proper : ∀ segment ∈ segments, Proper tags segment
  ordered : segments.Pairwise fun segment later => segment.stop ≤ later.first
  covering : ∀ index, (∃ segment ∈ segments, segment.Covers index) ↔
    ∃ tag, tags[index]? = some tag ∧ tag ≠ .outside

theorem Proper.typed {tags : List Tag} {segment : Segment} (proper : Proper tags segment)
    {index : Nat} (covers : segment.Covers index) :
    ∃ tag, tags[index]? = some tag ∧ tag.type? = some segment.type := by
  rcases Nat.eq_or_lt_of_le covers.1 with equal | after
  · exact equal ▸ proper.opened
  · exact ⟨_, proper.continued index after covers.2, rfl⟩

theorem proper_of_begin {tags : List Tag} {segment : Segment}
    (nonempty : segment.first < segment.stop) (explicit : segment.implicitBegin = false)
    (begins : tags[segment.first]? = some (.begin segment.type))
    (continued : ∀ index, segment.first < index → index < segment.stop →
      tags[index]? = some (.inside segment.type)) : Proper tags segment where
  nonempty := nonempty
  opened := ⟨_, begins, rfl⟩
  continued := continued
  implicitBegin_iff := by simp [explicit, begins]
  detached := by simp [begins]

end Segment

theorem Tag.ne_outside_iff {tag : Tag} : tag ≠ .outside ↔ ∃ type, tag.type? = some type := by
  cases tag <;> simp [Tag.type?]

/-! ## What is known while a column is read -/

namespace OpenSegment

/-- In front of an index, the open segment would be proper if it ended there, and
the last tag has its type, or none if nothing is open. -/
structure Holds (tags : List Tag) (index : Nat) (current : Option OpenSegment) : Prop where
  proper : ∀ segment, current = some segment → (segment.close index).Proper tags
  last : ∀ previous tag, previous + 1 = index → tags[previous]? = some tag →
    tag.type? = current.map (·.type)

theorem holds_zero (tags : List Tag) : Holds tags 0 none where
  proper := nofun
  last := nofun

def next (index : Nat) (current : Option OpenSegment) (tag : Tag) : Option OpenSegment :=
  if continuedBy current tag then current else ofTag index tag

theorem continuedBy_iff {current : Option OpenSegment} {tag : Tag} :
    continuedBy current tag = true ↔
      ∃ segment, current = some segment ∧ tag = .inside segment.type := by
  cases current with
  | none => simp [continuedBy]
  | some segment =>
      cases tag with
      | outside => simp [continuedBy]
      | begin type => simp [continuedBy]
      | inside type =>
          simp only [continuedBy, beq_iff_eq, Option.some.injEq, Tag.inside.injEq,
            exists_eq_left']
          exact eq_comm

private theorem proper_continue {tags : List Tag} {index : Nat} {segment : OpenSegment}
    (proper : (segment.close index).Proper tags)
    (goesOn : tags[index]? = some (.inside segment.type)) :
    (segment.close (index + 1)).Proper tags where
  nonempty := Nat.lt_succ_of_lt proper.nonempty
  opened := proper.opened
  continued other after before := by
    rcases Nat.lt_or_eq_of_le (Nat.le_of_lt_succ before) with earlier | equal
    · exact proper.continued other after earlier
    · exact equal ▸ goesOn
  implicitBegin_iff := proper.implicitBegin_iff
  detached := proper.detached

private theorem proper_ofTag {tags : List Tag} {index : Nat} {current : Option OpenSegment}
    (holds : Holds tags index current) {tag : Tag} (here : tags[index]? = some tag)
    (different : continuedBy current tag = false) {segment : OpenSegment}
    (opens : ofTag index tag = some segment) : (segment.close (index + 1)).Proper tags := by
  cases tag with
  | outside => cases opens
  | begin type =>
      cases opens
      exact {
        nonempty := Nat.lt_succ_self index
        opened := ⟨_, here, rfl⟩
        continued := fun other (after : index < other) before => by
          have before : other < index + 1 := before
          omega
        implicitBegin_iff := by simp [close, here]
        detached := by simp [close, here] }
  | inside type =>
      cases opens
      exact {
        nonempty := Nat.lt_succ_self index
        opened := ⟨_, here, rfl⟩
        continued := fun other (after : index < other) before => by
          have before : other < index + 1 := before
          omega
        implicitBegin_iff := by simp [close, here]
        detached := fun _ previous earlier follows found same => by
          have open_ := (holds.last previous earlier follows found).symm.trans same
          rcases Option.map_eq_some_iff.mp open_ with ⟨before, equal, sameType⟩
          have continues := continuedBy_iff.mpr ⟨before, equal, congrArg _ sameType.symm⟩
          exact Bool.false_ne_true (different.symm.trans continues) }

theorem type?_eq_next {index : Nat} {current : Option OpenSegment} {tag : Tag} :
    tag.type? = (next index current tag).map (·.type) := by
  unfold next
  split
  · rename_i continues
    rcases continuedBy_iff.mp continues with ⟨segment, rfl, rfl⟩
    rfl
  · cases tag <;> rfl

theorem Holds.step {tags : List Tag} {index : Nat} {current : Option OpenSegment}
    (holds : Holds tags index current) {tag : Tag} (here : tags[index]? = some tag) :
    Holds tags (index + 1) (next index current tag) where
  proper segment equal := by
    unfold next at equal
    split at equal
    · rename_i continues
      rcases continuedBy_iff.mp continues with ⟨before, rfl, rfl⟩
      cases equal
      exact proper_continue (holds.proper segment rfl) here
    · rename_i different
      exact proper_ofTag holds here (Bool.eq_false_of_not_eq_true different) equal
  last previous earlier follows found := by
    cases follows
    cases here.symm.trans found
    exact type?_eq_next

/-- The first index that belongs to what is still to be finished. -/
def origin (index : Nat) (current : Option OpenSegment) : Nat :=
  (current.map (·.first)).getD index

end OpenSegment

namespace Segment

open OpenSegment (Holds next origin)

theorem ofTagsFrom_cons (index : Nat) (current : Option OpenSegment) (tag : Tag)
    (rest : List Tag) :
    ofTagsFrom index current (tag :: rest) =
      (if OpenSegment.continuedBy current tag then []
        else (current.map (OpenSegment.close index)).toList) ++
        ofTagsFrom (index + 1) (next index current tag) rest := by
  simp only [ofTagsFrom, next]
  split <;> rfl

/-- What the rest of a column contributes when `current` is open in front of it. -/
structure Finished (tags : List Tag) (start : Nat) (segments : List Segment) : Prop where
  proper : ∀ segment ∈ segments, Proper tags segment
  after : ∀ segment ∈ segments, start ≤ segment.first
  ordered : segments.Pairwise fun segment later => segment.stop ≤ later.first
  covering : ∀ index tag, start ≤ index → tags[index]? = some tag → tag ≠ .outside →
    ∃ segment ∈ segments, segment.Covers index

private theorem finished_close {tags : List Tag} {index : Nat} {current : Option OpenSegment}
    (holds : Holds tags index current) {later : Nat} (notBefore : index ≤ later)
    (gap : ∀ tag, index < later → tags[index]? = some tag → tag = .outside)
    (notFar : later ≤ index + 1) {segments : List Segment}
    (finished : Finished tags later segments) :
    Finished tags (origin index current)
      ((current.map (OpenSegment.close index)).toList ++ segments) := by
  cases current with
  | none =>
      exact {
        proper := finished.proper
        after := fun segment member => Nat.le_trans notBefore (finished.after segment member)
        ordered := finished.ordered
        covering := fun other tag start found inside => by
          have start : index ≤ other := start
          by_cases reached : later ≤ other
          · exact finished.covering other tag reached found inside
          · have equal : other = index := by omega
            exact absurd (gap tag (by omega) (equal ▸ found)) inside }
  | some segment =>
      have proper := holds.proper segment rfl
      have nonempty : segment.first < index := proper.nonempty
      exact {
        proper := fun other member => by
          rcases List.mem_cons.mp member with rfl | member
          · exact proper
          · exact finished.proper other member
        after := fun other member => by
          rcases List.mem_cons.mp member with rfl | member
          · exact Nat.le_refl _
          · have := finished.after other member
            simp only [origin, Option.map_some, Option.getD_some]
            omega
        ordered := List.pairwise_cons.mpr
          ⟨fun other member => Nat.le_trans notBefore (finished.after other member),
            finished.ordered⟩
        covering := fun other tag start found inside => by
          by_cases earlier : other < index
          · exact ⟨_, List.mem_cons_self, start, earlier⟩
          · by_cases reached : later ≤ other
            · rcases finished.covering other tag reached found inside with
                ⟨cover, member, covers⟩
              exact ⟨cover, List.mem_cons_of_mem _ member, covers⟩
            · have equal : other = index := by omega
              exact absurd (gap tag (by omega) (equal ▸ found)) inside }

private theorem finished_at_end {tags : List Tag} {index : Nat}
    {current : Option OpenSegment} (holds : Holds tags index current)
    (ended : tags.length ≤ index) :
    Finished tags (origin index current) (ofTagsFrom index current []) := by
  have none : Finished tags (index + 1) [] := {
    proper := nofun
    after := nofun
    ordered := .nil
    covering := fun other tag start found _ => by
      have := (List.getElem?_eq_some_iff.mp found).1
      omega }
  have gap : ∀ tag, index < index + 1 → tags[index]? = some tag → tag = .outside := by
    intro tag _ found
    have := (List.getElem?_eq_some_iff.mp found).1
    omega
  have finished := finished_close holds (Nat.le_succ index) gap (Nat.le_refl _) none
  rw [List.append_nil] at finished
  exact finished

theorem finished_ofTagsFrom {tags rest : List Tag} {index : Nat}
    {current : Option OpenSegment} (holds : Holds tags index current)
    (remaining : tags.drop index = rest) :
    Finished tags (origin index current) (ofTagsFrom index current rest) := by
  induction rest generalizing index current with
  | nil => exact finished_at_end holds (List.drop_eq_nil_iff.mp remaining)
  | cons tag rest induction =>
      have here : tags[index]? = some tag := by
        rw [← Nat.add_zero index, ← List.getElem?_drop, remaining]
        rfl
      have remaining : tags.drop (index + 1) = rest := by
        rw [← List.tail_drop, remaining]
        rfl
      have finished := induction (holds.step here) remaining
      rw [ofTagsFrom_cons]
      by_cases continues : OpenSegment.continuedBy current tag
      · rw [if_pos continues, List.nil_append]
        rcases OpenSegment.continuedBy_iff.mp continues with ⟨segment, rfl, _⟩
        simp only [next, continues, if_true] at finished ⊢
        exact finished
      · rw [if_neg continues]
        simp only [next, continues] at finished ⊢
        -- Only an outside tag leaves its index uncovered between the closed segment and
        -- the later ones. Any other tag opens a segment at the index of the closing.
        have noGap : ∀ tag, index < index → tags[index]? = some tag → tag = .outside :=
          fun _ impossible => absurd impossible (Nat.lt_irrefl index)
        cases tag with
        | outside =>
            refine finished_close holds (Nat.le_succ index) ?_ (Nat.le_refl _) finished
            intro tag _ found
            cases here.symm.trans found
            rfl
        | begin type =>
            exact finished_close holds (Nat.le_refl index) noGap (Nat.le_succ index) finished
        | inside type =>
            exact finished_close holds (Nat.le_refl index) noGap (Nat.le_succ index) finished

theorem segmentation_ofTags (tags : List Tag) : Segmentation tags (ofTags tags) := by
  have finished : Finished tags 0 (ofTags tags) :=
    finished_ofTagsFrom (OpenSegment.holds_zero tags) List.drop_zero
  exact {
    proper := finished.proper
    ordered := finished.ordered
    covering := fun index => by
      constructor
      · rintro ⟨segment, member, covers⟩
        rcases (finished.proper segment member).typed covers with ⟨tag, found, typed⟩
        exact ⟨tag, found, Tag.ne_outside_iff.mpr ⟨_, typed⟩⟩
      · rintro ⟨tag, found, inside⟩
        exact finished.covering index tag (Nat.zero_le index) found inside }

/-! ## Uniqueness -/

/-- A proper segment does not begin in the middle of another one. -/
theorem Proper.first_eq {tags : List Tag} {segment other : Segment}
    (proper : Proper tags segment) (otherProper : Proper tags other)
    (covers : other.Covers segment.first) : other.first = segment.first := by
  rcases Nat.eq_or_lt_of_le covers.1 with equal | before
  · exact equal
  · have inside : tags[segment.first]? = some (.inside other.type) :=
      otherProper.continued segment.first before covers.2
    rcases proper.opened with ⟨tag, found, typed⟩
    cases inside.symm.trans found
    have sameType : other.type = segment.type := Option.some.inj typed
    have predecessor : segment.first - 1 + 1 = segment.first := by omega
    have reached : other.Covers (segment.first - 1) := by
      have := covers.2
      constructor <;> omega
    rcases otherProper.typed reached with ⟨tag, found, typed⟩
    exact absurd (sameType ▸ typed)
      (proper.detached (sameType ▸ inside) (segment.first - 1) tag predecessor found)

theorem Segmentation.eq_or_apart {tags : List Tag} {segments : List Segment}
    (segmentation : Segmentation tags segments) {segment other : Segment}
    (member : segment ∈ segments) (otherMember : other ∈ segments) :
    segment = other ∨ segment.stop ≤ other.first ∨ other.stop ≤ segment.first :=
  List.eq_or_of_pairwise segmentation.ordered member otherMember

/-- A segment of a segmentation reaches as far as any proper segment with the same
first tag. -/
theorem Segmentation.stop_le {tags : List Tag} {segments : List Segment}
    (segmentation : Segmentation tags segments) {segment other : Segment}
    (member : segment ∈ segments) (otherProper : Proper tags other)
    (sameFirst : other.first = segment.first) : other.stop ≤ segment.stop := by
  by_contra further
  have nonempty := (segmentation.proper segment member).nonempty
  have reached : other.Covers segment.stop := by
    constructor <;> omega
  rcases otherProper.typed reached with ⟨tag, found, typed⟩
  rcases (segmentation.covering segment.stop).mpr
    ⟨tag, found, Tag.ne_outside_iff.mpr ⟨_, typed⟩⟩ with ⟨later, laterMember, covers⟩
  have begins : later.first = segment.stop := by
    rcases segmentation.eq_or_apart member laterMember with rfl | before | before
    · exact absurd covers.2 (Nat.lt_irrefl _)
    · exact Nat.le_antisymm covers.1 before
    · have := covers.2
      omega
  have := (segmentation.proper later laterMember).first_eq otherProper (begins ▸ reached)
  omega

private theorem Segmentation.mem_of_mem {tags : List Tag} {left right : List Segment}
    (leftHolds : Segmentation tags left) (rightHolds : Segmentation tags right)
    {segment : Segment} (member : segment ∈ left) : segment ∈ right := by
  have proper := leftHolds.proper segment member
  have covered : ∃ other ∈ right, other.Covers segment.first :=
    (rightHolds.covering segment.first).mpr
      ((leftHolds.covering segment.first).mp
        ⟨segment, member, Nat.le_refl _, proper.nonempty⟩)
  rcases covered with ⟨other, otherMember, covers⟩
  have otherProper := rightHolds.proper other otherMember
  have sameFirst : other.first = segment.first := proper.first_eq otherProper covers
  have sameStop : other.stop = segment.stop :=
    Nat.le_antisymm (leftHolds.stop_le member otherProper sameFirst)
      (rightHolds.stop_le otherMember proper sameFirst.symm)
  have sameType : other.type = segment.type := by
    rcases otherProper.typed covers with ⟨tag, found, typed⟩
    rcases proper.opened with ⟨same, foundSame, typedSame⟩
    cases found.symm.trans foundSame
    exact Option.some.inj (typed.symm.trans typedSame)
  have sameBegin : other.implicitBegin = segment.implicitBegin := by
    rw [Bool.eq_iff_iff, otherProper.implicitBegin_iff, proper.implicitBegin_iff, sameFirst,
      sameType]
  cases other
  cases segment
  cases sameFirst
  cases sameStop
  cases sameType
  cases sameBegin
  exact otherMember

theorem Segmentation.strictly_ordered {tags : List Tag} {segments : List Segment}
    (segmentation : Segmentation tags segments) :
    segments.Pairwise fun segment later => segment.first < later.first :=
  segmentation.ordered.imp_of_mem fun member _ before =>
    Nat.lt_of_lt_of_le (segmentation.proper _ member).nonempty before

theorem Segmentation.unique {tags : List Tag} {left right : List Segment}
    (leftHolds : Segmentation tags left) (rightHolds : Segmentation tags right) :
    left = right := by
  have irreflexive : Std.Irrefl fun segment later : Segment => segment.first < later.first :=
    ⟨fun _ => Nat.lt_irrefl _⟩
  have antisymmetric :
      Std.Antisymm fun segment later : Segment => segment.first < later.first :=
    ⟨fun _ _ before after => absurd before (Nat.lt_asymm after)⟩
  exact leftHolds.strictly_ordered.eq_of_mem_iff rightHolds.strictly_ordered fun _ =>
    ⟨leftHolds.mem_of_mem rightHolds, rightHolds.mem_of_mem leftHolds⟩

/-! ## Reading columns -/

/-- The first cell without a tag ends the reading. Where there is none, what is
read is the only segmentation of the tags. -/
theorem decode_segmentation (column : List (Option Text)) :
    ((∃ cell ∈ column, ¬ Tag.Readable cell) →
      ∃ before cell after, column = before ++ cell :: after ∧
        (∀ earlier ∈ before, Tag.Readable earlier) ∧ ¬ Tag.Readable cell ∧
        decode column = .error ⟨cell, before.length⟩) ∧
    ((∀ cell ∈ column, Tag.Readable cell) →
      ∃ tags segments, List.Forall₂ Tag.Written column tags ∧
        decode column = .ok segments ∧ Segmentation tags segments ∧
        ∀ other, Segmentation tags other → other = segments) := by
  constructor
  · intro unreadable
    rcases Tag.exists_first_unreadable unreadable with
      ⟨before, cell, after, rfl, readable, without⟩
    refine ⟨before, cell, after, rfl, readable, without, ?_⟩
    rw [decode, Tag.readAll_eq_error_of_unreadable readable without]
    rfl
  · intro readable
    rcases Tag.exists_tags_of_readable readable with ⟨tags, written⟩
    refine ⟨tags, ofTags tags, written, ?_, segmentation_ofTags tags, ?_⟩
    · rw [decode, Tag.readAll_eq_ok_iff.mpr written]
      rfl
    · intro other segmentation
      exact segmentation.unique (segmentation_ofTags tags)

end Segment

end Standoff
