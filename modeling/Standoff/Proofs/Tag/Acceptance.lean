import Standoff.Proofs.Tag.Coverage

/-! Which entities have a place in a tag column. Among tokens in order these are the
entities that reach from a token to a token, as long as no token lies in two of them. For
any tokens at all, the order in which entities are written makes no difference. -/

namespace Standoff.Tag

/-! ## From a token to a token -/

/-- An entity starts with a token, and ends with that token or a later one. -/
def Reaches (tokens : List Span) (entity : Span) : Prop :=
  ∃ (first last : Nat) (firstToken lastToken : Span), first ≤ last ∧
    tokens[first]? = some firstToken ∧ tokens[last]? = some lastToken ∧
    firstToken.start = entity.start ∧ lastToken.stop = entity.stop

/-- The tokens that an entity reaches from and to need not be the outermost ones that it
contains, but tokens in order leave no room for others. -/
theorem Ascending.onBoundaries_iff {tokens : List Span} (ascending : Ascending tokens)
    {entity : Span} : onBoundaries tokens entity ↔ Reaches tokens entity := by
  constructor
  · intro bounded
    have occupies := ascending.occupies_segmentOf (exists_contained bounded)
    rcases occupies.onBoundaries_iff.mp bounded with
      ⟨⟨firstToken, foundFirst, start⟩, lastToken, foundLast, stop⟩
    exact ⟨_, _, firstToken, lastToken, Nat.le_sub_one_of_lt occupies.nonempty, foundFirst,
      foundLast, start, stop⟩
  · rintro ⟨first, last, firstToken, lastToken, inOrder, foundFirst, foundLast, start, stop⟩
    have firstStop := le_of_pairwise ascending.stops foundFirst foundLast inOrder
    have lastStart := le_of_pairwise ascending.starts foundFirst foundLast inOrder
    have inFirst : entity.contains firstToken := contains_iff.mpr (by omega)
    have inLast : entity.contains lastToken := contains_iff.mpr (by omega)
    have occupies := ascending.occupies_segmentOf
      ⟨firstToken, List.mem_of_getElem? foundFirst, inFirst⟩
    have nonempty := occupies.nonempty
    have bounded := occupies.bounded
    have firstRange := (occupies.contains_iff first firstToken foundFirst).mp inFirst
    have lastRange := (occupies.contains_iff last lastToken foundLast).mp inLast
    have outerFirst := List.getElem?_eq_getElem (Nat.lt_of_lt_of_le nonempty bounded)
    have outerLast := List.getElem?_eq_getElem
      (show (segmentOf tokens entity).stop - 1 < tokens.length by omega)
    have inOuterFirst := contains_iff.mp
      ((occupies.contains_iff _ _ outerFirst).mpr ⟨Nat.le_refl _, nonempty⟩)
    have inOuterLast := contains_iff.mp
      ((occupies.contains_iff _ _ outerLast).mpr ⟨by omega, by omega⟩)
    have outerStart := le_of_pairwise ascending.starts outerFirst foundFirst firstRange.1
    have outerStop := le_of_pairwise ascending.stops foundLast outerLast (by omega)
    exact occupies.onBoundaries_iff.mpr ⟨⟨_, outerFirst, by omega⟩, _, outerLast, by omega⟩

/-! ## Tokens in two entities -/

/-- An entity that is listed twice counts twice. -/
theorem pairwise_apart_iff {tokens entities : List Span} :
    entities.Pairwise (Apart tokens) ↔
      ∀ token ∈ tokens, entities.countP (fun entity => entity.contains token) ≤ 1 := by
  induction entities with
  | nil => simp
  | cons entity rest induction =>
      rw [List.pairwise_cons, induction]
      constructor
      · rintro ⟨apart, restCounts⟩ token member
        by_cases contains : entity.contains token
        · have none : rest.countP (fun other => other.contains token) = 0 :=
            List.countP_eq_zero.mpr fun other otherMember =>
              apart other otherMember token member contains
          exact Nat.le_of_eq (by rw [List.countP_cons, if_pos contains, none])
        · rw [List.countP_cons, if_neg contains]
          exact restCounts token member
      · intro counts
        constructor
        · intro other otherMember token member inEntity inOther
          have positive : 0 < rest.countP fun other => other.contains token :=
            List.countP_pos_iff.mpr ⟨other, otherMember, inOther⟩
          have count := counts token member
          rw [List.countP_cons, if_pos inEntity] at count
          omega
        · intro token member
          have count := counts token member
          rw [List.countP_cons] at count
          omega

theorem Ascending.encodable_iff {tokens : List Span} (ascending : Ascending tokens)
    {entities : List Span} (labelled : ∀ entity ∈ entities, entity.label ≠ none) :
    Encodable tokens entities ↔ (∀ entity ∈ entities, Reaches tokens entity) ∧
      ∀ token ∈ tokens, entities.countP (fun entity => entity.contains token) ≤ 1 := by
  simp only [← pairwise_apart_iff, ← ascending.onBoundaries_iff]
  exact ⟨fun encodable => ⟨encodable.bounded, encodable.apart⟩,
    fun known => ⟨known.1, labelled, known.2⟩⟩

/-! ## Refusals -/

theorem mark_eq_error {entity : Span} {begun : Bool} {column : List (Span × Tag)}
    {error : EncodeError} (refused : mark entity begun column = .error error) :
    error = .overlapping entity ∨ entity.label = none ∧ error = .unlabelled entity := by
  induction column generalizing begun with
  | nil => cases refused
  | cons cell rest induction =>
      rcases cell with ⟨token, tag⟩
      unfold mark at refused
      split at refused
      · split at refused
        · exact .inl (Except.error.inj refused).symm
        · exact .inl (Except.error.inj refused).symm
        · rename_i unlabelled
          exact .inr ⟨unlabelled, (Except.error.inj refused).symm⟩
        · exact induction (Result.map_eq_error_iff.mp refused)
      · exact induction (Result.map_eq_error_iff.mp refused)

theorem encode_eq_error {tokens entities : List Span} {error : EncodeError}
    (labelled : ∀ entity ∈ entities, entity.label ≠ none)
    (refused : encode tokens entities = .error error) :
    ∃ entity ∈ entities, error = .offBoundary entity ∨ error = .overlapping entity := by
  rcases Result.foldlM_eq_error refused with ⟨entity, member, tags, here⟩
  refine ⟨entity, member, ?_⟩
  unfold encodeOne at here
  split at here
  · rcases mark_eq_error here with overlapping | ⟨unlabelled, _⟩
    · exact .inr overlapping
    · exact absurd unlabelled (labelled entity member)
  · exact .inl (Except.error.inj here).symm

/-! ## The order of entities -/

/-- A token lies in one entity at most, so that it does not matter which is found first. -/
theorem Encodable.column_perm {tokens entities ordered : List Span}
    (encodable : Encodable tokens entities) (perm : ordered.Perm entities) :
    column tokens ordered = column tokens entities := by
  apply List.ext_getElem?
  intro index
  rw [column_getElem?, column_getElem?]
  cases found : tokens[index]? with
  | none => rfl
  | some token =>
      rw [Option.map_some, Option.map_some, Option.some.injEq]
      by_cases covered : ∃ entity ∈ entities, entity.contains token
      · rcases covered with ⟨entity, member, contains⟩
        have only : ∀ other ∈ entities, other.contains token → other = entity :=
          fun other otherMember inOther => encodable.eq_of_contains member otherMember
            (List.mem_of_getElem? found) contains inOther
        rw [ofEntities_of_contains member contains only,
          ofEntities_of_contains (perm.symm.subset member) contains fun other otherMember =>
            only other (perm.subset otherMember)]
      · have free : ∀ entity ∈ entities, ¬ entity.contains token :=
          fun entity member contains => covered ⟨entity, member, contains⟩
        rw [ofEntities_eq_outside_iff.mpr free, ofEntities_eq_outside_iff.mpr
          fun entity member => free entity (perm.subset member)]

theorem encode_perm {tokens entities ordered : List Span} (perm : ordered.Perm entities)
    {tags : List Tag} (encoded : encode tokens entities = .ok tags) :
    encode tokens ordered = .ok tags := by
  rcases encode_iff.mp encoded with ⟨encodable, equal⟩
  exact encode_iff.mpr ⟨encodable.perm perm, equal.trans (encodable.column_perm perm).symm⟩

/-- Entities over tokens in order are written exactly when each reaches from a token to a
token and no token lies in two of them, and otherwise they are refused. Over any tokens, the
same entities in another order are written alike or refused too. -/
theorem encode_accepts (tokens entities : List Span) :
    (Ascending tokens → (∀ entity ∈ entities, entity.label ≠ none) →
      ((∃ tags, encode tokens entities = .ok tags) ↔
        (∀ entity ∈ entities, Reaches tokens entity) ∧
          ∀ token ∈ tokens, entities.countP (fun entity => entity.contains token) ≤ 1) ∧
      ((∀ tags, encode tokens entities ≠ .ok tags) → ∃ entity ∈ entities,
        encode tokens entities = .error (.offBoundary entity) ∨
          encode tokens entities = .error (.overlapping entity))) ∧
    ∀ ordered : List Span, ordered.Perm entities →
      (∃ tags, encode tokens entities = .ok tags ∧ encode tokens ordered = .ok tags) ∨
        ∃ error other, encode tokens entities = .error error ∧
          encode tokens ordered = .error other := by
  constructor
  · intro ascending labelled
    constructor
    · rw [← ascending.encodable_iff labelled]
      exact ⟨fun ⟨_, encoded⟩ => (encode_iff.mp encoded).1,
        fun encodable => ⟨_, encode_iff.mpr ⟨encodable, rfl⟩⟩⟩
    · intro refused
      cases result : encode tokens entities with
      | ok tags => exact absurd result (refused tags)
      | error error =>
          rcases encode_eq_error labelled result with ⟨entity, member, reason⟩
          exact ⟨entity, member, reason.imp (congrArg _) (congrArg _)⟩
  · intro ordered perm
    cases result : encode tokens entities with
    | ok tags => exact .inl ⟨tags, rfl, encode_perm perm result⟩
    | error error =>
        cases orderedResult : encode tokens ordered with
        | ok tags => cases result.symm.trans (encode_perm perm.symm orderedResult)
        | error other => exact .inr ⟨error, other, rfl, rfl⟩

/-- Two entities that touch at a token of no width both contain it, and are refused in
either order. -/
theorem encode_accepts_touching :
    let tokens : List Span := [{ start := 0, stop := 2 }, { start := 2, stop := 2 },
      { start := 2, stop := 4 }]
    let entities : List Span := [{ start := 0, stop := 2, label := some ['P'] },
      { start := 2, stop := 4, label := some ['L'] }]
    (∀ tags, encode tokens entities ≠ .ok tags) ∧
      (∃ entity ∈ entities, encode tokens entities = .error (.offBoundary entity) ∨
        encode tokens entities = .error (.overlapping entity)) ∧
      ∃ error other, encode tokens entities = .error error ∧
        encode tokens entities.reverse = .error other := by
  intro tokens entities
  have accepts := encode_accepts tokens entities
  have accepted := accepts.1 ⟨by decide, by decide⟩ (by simp [entities])
  have refused : ∀ tags, encode tokens entities ≠ .ok tags := by
    intro tags encoded
    have counts := (accepted.1.mp ⟨tags, encoded⟩).2 { start := 2, stop := 2 } (by simp [tokens])
    revert counts
    decide
  refine ⟨refused, accepted.2 refused, ?_⟩
  rcases accepts.2 entities.reverse (List.reverse_perm entities) with ⟨tags, encoded, _⟩ | failed
  · exact absurd encoded (refused tags)
  · exact failed

end Standoff.Tag
