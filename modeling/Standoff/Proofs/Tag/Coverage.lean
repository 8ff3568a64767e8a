import Standoff.Proofs.List
import Standoff.Proofs.Tag.Writing

/-! The tokens that an entity covers. Among tokens in order they stand side by
side, so an entity is written over a range of indices. -/

namespace Standoff.Tag

/-! ## Ranges of tokens -/

/-- Neither the starts nor the ends of tokens ever decrease. -/
structure Ascending (tokens : List Span) : Prop where
  starts : tokens.Pairwise fun token later => token.start ≤ later.start
  stops : tokens.Pairwise fun token later => token.stop ≤ later.stop

/-- An entity contains the tokens from the index `first` up to `stop`, and no
others. -/
structure Occupies (tokens : List Span) (entity : Span) (first stop : Nat) : Prop where
  nonempty : first < stop
  bounded : stop ≤ tokens.length
  contains_iff : ∀ index token, tokens[index]? = some token →
    (entity.contains token ↔ first ≤ index ∧ index < stop)

theorem contains_iff {entity token : Span} :
    entity.contains token ↔ entity.start ≤ token.start ∧ token.stop ≤ entity.stop := by
  simp only [Span.contains, Bool.and_eq_true, decide_eq_true_eq]

theorem le_of_pairwise {tokens : List Span} {measure : Span → Nat}
    (pairwise : tokens.Pairwise fun token later => measure token ≤ measure later)
    {index later : Nat} {token other : Span} (found : tokens[index]? = some token)
    (foundLater : tokens[later]? = some other) (before : index ≤ later) :
    measure token ≤ measure other := by
  rcases List.getElem?_eq_some_iff.mp found with ⟨bound, rfl⟩
  rcases List.getElem?_eq_some_iff.mp foundLater with ⟨laterBound, rfl⟩
  rcases Nat.eq_or_lt_of_le before with equal | before
  · subst equal
    exact Nat.le_refl _
  · exact List.pairwise_iff_getElem.mp pairwise index later bound laterBound before

/-- A token between two that an entity contains lies in the entity too. -/
theorem Ascending.contains_between {tokens : List Span} (ascending : Ascending tokens)
    {entity : Span} {first middle last : Nat} {firstToken middleToken lastToken : Span}
    (foundFirst : tokens[first]? = some firstToken)
    (foundMiddle : tokens[middle]? = some middleToken)
    (foundLast : tokens[last]? = some lastToken) (lower : first ≤ middle)
    (upper : middle ≤ last) (inFirst : entity.contains firstToken)
    (inLast : entity.contains lastToken) : entity.contains middleToken := by
  have startLe := le_of_pairwise ascending.starts foundFirst foundMiddle lower
  have stopLe := le_of_pairwise ascending.stops foundMiddle foundLast upper
  rw [contains_iff] at *
  omega

/-- The index after the contained tokens that stand side by side from an index on. -/
def endOfRun (tokens : List Span) (entity : Span) (first : Nat) : Nat :=
  first + (tokens.drop first).findIdx fun token => !entity.contains token

theorem contains_of_lt_endOfRun {tokens : List Span} {entity token : Span}
    {first index : Nat} (lower : first ≤ index) (upper : index < endOfRun tokens entity first)
    (found : tokens[index]? = some token) : entity.contains token := by
  unfold endOfRun at upper
  have inRun : index - first <
      (tokens.drop first).findIdx fun token => !entity.contains token := by
    omega
  have here : (tokens.drop first)[index - first]? = some token := by
    rw [List.getElem?_drop, Nat.add_sub_cancel' lower]
    exact found
  rcases List.getElem?_eq_some_iff.mp here with ⟨bound, equal⟩
  have contained := List.not_of_lt_findIdx inRun
  rw [equal] at contained
  simpa using contained

theorem not_contains_endOfRun {tokens : List Span} {entity token : Span} {first : Nat}
    (found : tokens[endOfRun tokens entity first]? = some token) :
    ¬ entity.contains token := by
  unfold endOfRun at found
  rw [← List.getElem?_drop] at found
  simpa using List.findIdx_of_getElem?_eq_some found

theorem endOfRun_le {tokens : List Span} {entity : Span} {first : Nat}
    (bound : first ≤ tokens.length) : endOfRun tokens entity first ≤ tokens.length := by
  have runLe : ((tokens.drop first).findIdx fun token => !entity.contains token) ≤
      (tokens.drop first).length := List.findIdx_le_length
  rw [List.length_drop] at runLe
  unfold endOfRun
  omega

def segmentOf (tokens : List Span) (entity : Span) : Segment where
  first := tokens.findIdx entity.contains
  stop := endOfRun tokens entity (tokens.findIdx entity.contains)
  type := entity.label.getD []
  implicitBegin := false

theorem Ascending.occupies_segmentOf {tokens : List Span} (ascending : Ascending tokens)
    {entity : Span} (covers : ∃ token ∈ tokens, entity.contains token) :
    Occupies tokens entity (segmentOf tokens entity).first
      (segmentOf tokens entity).stop := by
  have firstBound : (segmentOf tokens entity).first < tokens.length :=
    List.findIdx_lt_length.mpr covers
  have ⟨firstToken, firstFound⟩ :
      ∃ token, tokens[(segmentOf tokens entity).first]? = some token :=
    ⟨_, List.getElem?_eq_getElem firstBound⟩
  have firstContains : entity.contains firstToken :=
    List.findIdx_of_getElem?_eq_some firstFound
  have inRange : ∀ index token, (segmentOf tokens entity).first ≤ index →
      index < (segmentOf tokens entity).stop → tokens[index]? = some token →
      entity.contains token :=
    fun _ _ lower upper found => contains_of_lt_endOfRun lower upper found
  have stopLe : (segmentOf tokens entity).stop ≤ tokens.length :=
    endOfRun_le (Nat.le_of_lt firstBound)
  have firstLe : (segmentOf tokens entity).first ≤ (segmentOf tokens entity).stop :=
    Nat.le_add_right _ _
  refine ⟨?_, stopLe, ?_⟩
  · refine Nat.lt_of_le_of_ne firstLe fun equal => ?_
    exact not_contains_endOfRun (equal ▸ firstFound) firstContains
  · intro index token found
    constructor
    · intro contains
      constructor
      · by_contra before
        have bound := (List.getElem?_eq_some_iff.mp found).1
        have refused := List.not_of_lt_findIdx (Nat.lt_of_not_le before)
        rw [(List.getElem?_eq_some_iff.mp found).2] at refused
        exact absurd contains (by simpa using refused)
      · by_contra after
        -- The token after the run would lie between two contained tokens.
        have stopBound : (segmentOf tokens entity).stop < tokens.length :=
          Nat.lt_of_le_of_lt (Nat.le_of_not_lt after) (List.getElem?_eq_some_iff.mp found).1
        have stopFound := List.getElem?_eq_getElem stopBound
        exact not_contains_endOfRun stopFound
          (ascending.contains_between firstFound stopFound found firstLe
            (Nat.le_of_not_lt after) firstContains contains)
    · rintro ⟨lower, upper⟩
      exact inRange index token lower upper found

/-! ## First and last tokens -/

theorem Occupies.filter_eq {tokens : List Span} {entity : Span} {first stop : Nat}
    (occupies : Occupies tokens entity first stop) :
    tokens.filter entity.contains = (tokens.take stop).drop first := by
  have nonempty := occupies.nonempty
  have parts : tokens = tokens.take first ++ ((tokens.take stop).drop first ++
      tokens.drop stop) := by
    have front : tokens.take first = (tokens.take stop).take first := by
      rw [List.take_take, Nat.min_eq_left (Nat.le_of_lt nonempty)]
    rw [front, ← List.append_assoc, List.take_append_drop, List.take_append_drop]
  have before : (tokens.take first).filter entity.contains = [] := by
    rw [List.filter_eq_nil_iff]
    intro token member contains
    rcases List.mem_take_iff_getElem.mp member with ⟨index, bound, rfl⟩
    have covered := (occupies.contains_iff index _ (List.getElem?_eq_getElem _)).mp contains
    omega
  have inside : ((tokens.take stop).drop first).filter entity.contains =
      (tokens.take stop).drop first := by
    rw [List.filter_eq_self]
    intro token member
    rcases List.mem_drop_iff_getElem.mp member with ⟨index, bound, rfl⟩
    rw [List.length_take] at bound
    rw [List.getElem_take]
    exact (occupies.contains_iff (first + index) _ (List.getElem?_eq_getElem _)).mpr
      ⟨Nat.le_add_right _ _, by omega⟩
  have after : (tokens.drop stop).filter entity.contains = [] := by
    rw [List.filter_eq_nil_iff]
    intro token member contains
    rcases List.mem_drop_iff_getElem.mp member with ⟨index, bound, rfl⟩
    have covered := (occupies.contains_iff (stop + index) _ (List.getElem?_eq_getElem _)).mp
      contains
    omega
  calc tokens.filter entity.contains
      = (tokens.take first ++ ((tokens.take stop).drop first ++ tokens.drop stop)).filter
          entity.contains := by rw [← parts]
    _ = (tokens.take stop).drop first := by
        rw [List.filter_append, List.filter_append, before, inside, after, List.nil_append,
          List.append_nil]

/-- Among tokens in order, an entity is bounded when it starts with its first token
and ends with its last. -/
theorem Occupies.onBoundaries_iff {tokens : List Span} {entity : Span} {first stop : Nat}
    (occupies : Occupies tokens entity first stop) :
    onBoundaries tokens entity ↔
      (∃ token, tokens[first]? = some token ∧ token.start = entity.start) ∧
      ∃ token, tokens[stop - 1]? = some token ∧ token.stop = entity.stop := by
  have nonempty := occupies.nonempty
  have bounded := occupies.bounded
  have head : ((tokens.take stop).drop first).head? = tokens[first]? := by
    rw [List.head?_drop, List.getElem?_take_of_lt nonempty]
  have last : ((tokens.take stop).drop first).getLast? = tokens[stop - 1]? := by
    rw [List.getLast?_eq_getElem?, List.getElem?_drop, List.length_drop, List.length_take,
      List.getElem?_take_of_lt (by omega)]
    congr 1
    omega
  have firstFound := List.getElem?_eq_getElem (Nat.lt_of_lt_of_le nonempty bounded)
  have lastFound := List.getElem?_eq_getElem (show stop - 1 < tokens.length by omega)
  simp only [onBoundaries, occupies.filter_eq, head, last, firstFound, lastFound,
    Bool.and_eq_true, beq_iff_eq, Option.some.injEq, exists_eq_left']

/-! ## The column over a range -/

theorem Encodable.eq_of_contains {tokens entities : List Span}
    (encodable : Encodable tokens entities) {entity other token : Span}
    (member : entity ∈ entities) (otherMember : other ∈ entities) (tokenMember : token ∈ tokens)
    (inEntity : entity.contains token) (inOther : other.contains token) : other = entity := by
  rcases List.eq_or_of_pairwise encodable.apart otherMember member with equal | apart | apart
  · exact equal
  · exact absurd inEntity (apart token tokenMember inOther)
  · exact absurd inOther (apart token tokenMember inEntity)

theorem any_contains_take_iff {tokens : List Span} {entity : Span} {first stop index : Nat}
    (occupies : Occupies tokens entity first stop) :
    (tokens.take index).any entity.contains ↔ first < index := by
  have nonempty := occupies.nonempty
  have bounded := occupies.bounded
  rw [List.any_eq_true]
  constructor
  · rintro ⟨token, member, contains⟩
    rcases List.mem_take_iff_getElem.mp member with ⟨earlier, bound, rfl⟩
    have range := (occupies.contains_iff earlier _ (List.getElem?_eq_getElem _)).mp contains
    omega
  · intro before
    have firstBound : first < tokens.length := by omega
    exact ⟨tokens[first], List.mem_take_iff_getElem.mpr ⟨first, by omega, rfl⟩,
      (occupies.contains_iff first _ (List.getElem?_eq_getElem firstBound)).mpr
        ⟨Nat.le_refl _, nonempty⟩⟩

theorem column_of_occupies {tokens entities : List Span}
    (encodable : Encodable tokens entities) {entity : Span} (member : entity ∈ entities)
    {first stop index : Nat} (occupies : Occupies tokens entity first stop)
    (lower : first ≤ index) (upper : index < stop) :
    (column tokens entities)[index]? =
      some (if first < index then .inside (entity.label.getD [])
        else .begin (entity.label.getD [])) := by
  have bound : index < tokens.length := Nat.lt_of_lt_of_le upper occupies.bounded
  have found := List.getElem?_eq_getElem bound
  have contains := (occupies.contains_iff index _ found).mpr ⟨lower, upper⟩
  have only : ∀ other ∈ entities, other.contains tokens[index] → other = entity :=
    fun other otherMember inOther =>
      encodable.eq_of_contains member otherMember (List.getElem_mem bound) contains inOther
  rw [column_getElem?, found, Option.map_some, ofEntities_of_contains member contains only]
  simp only [any_contains_take_iff occupies]

theorem column_ne_outside_iff {tokens entities : List Span} {index : Nat} :
    (∃ tag, (column tokens entities)[index]? = some tag ∧ tag ≠ .outside) ↔
      ∃ token, tokens[index]? = some token ∧ ∃ entity ∈ entities, entity.contains token := by
  rw [column_getElem?]
  cases tokens[index]? with
  | none => simp
  | some token =>
      simp only [Option.map_some, Option.some.injEq, exists_eq_left', ne_eq,
        ofEntities_eq_outside_iff, not_forall, not_not, exists_prop]

end Standoff.Tag
