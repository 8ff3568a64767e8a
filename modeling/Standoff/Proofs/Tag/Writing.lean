import Mathlib.Data.List.Induction
import Standoff.Proofs.Result
import Standoff.Tag.Encode

/-! What writing entities into a tag column gives.

Entities can be written when each reaches from a token to a token and no token
lies in two of them. The tag of a token then depends only on the entity that it
lies in, and on whether an earlier token lies in that entity too. -/

namespace Standoff.Tag

/-! ## The column of entities -/

/-- The tag that entities give to a token behind the tokens `earlier`. -/
def ofEntities (entities earlier : List Span) (token : Span) : Tag :=
  match entities.find? fun entity => entity.contains token with
  | none => .outside
  | some entity =>
      if earlier.any entity.contains then .inside (entity.label.getD [])
      else .begin (entity.label.getD [])

def columnFrom (entities earlier : List Span) : List Span → List Tag
  | [] => []
  | token :: rest =>
      ofEntities entities earlier token :: columnFrom entities (earlier ++ [token]) rest

def column (tokens entities : List Span) : List Tag := columnFrom entities [] tokens

/-- Two entities without a token in common. -/
def Apart (tokens : List Span) (entity other : Span) : Prop :=
  ∀ token ∈ tokens, entity.contains token → ¬ other.contains token

structure Encodable (tokens entities : List Span) : Prop where
  bounded : ∀ entity ∈ entities, onBoundaries tokens entity
  labelled : ∀ entity ∈ entities, entity.label ≠ none
  apart : entities.Pairwise (Apart tokens)

theorem Apart.symm {tokens : List Span} {entity other : Span}
    (apart : Apart tokens entity other) : Apart tokens other entity :=
  fun token member inOther inEntity => apart token member inEntity inOther

theorem Encodable.perm {tokens entities ordered : List Span}
    (encodable : Encodable tokens entities) (perm : ordered.Perm entities) :
    Encodable tokens ordered where
  bounded entity member := encodable.bounded entity (perm.subset member)
  labelled entity member := encodable.labelled entity (perm.subset member)
  apart := encodable.apart.perm perm.symm fun apart => apart.symm

theorem ofEntities_eq_outside_iff {entities earlier : List Span} {token : Span} :
    ofEntities entities earlier token = .outside ↔
      ∀ entity ∈ entities, ¬ entity.contains token := by
  rw [← List.find?_eq_none, ofEntities]
  cases entities.find? fun entity => entity.contains token with
  | none => simp
  | some entity =>
      simp only [reduceCtorEq, iff_false]
      split <;> exact Tag.noConfusion

/-- Where no other entity contains a token, its tag is that of the one that does. -/
theorem ofEntities_of_contains {entities earlier : List Span} {token entity : Span}
    (member : entity ∈ entities) (contains : entity.contains token)
    (only : ∀ other ∈ entities, other.contains token → other = entity) :
    ofEntities entities earlier token =
      if earlier.any entity.contains then .inside (entity.label.getD [])
      else .begin (entity.label.getD []) := by
  cases found : entities.find? fun other => other.contains token with
  | none => exact absurd contains (List.find?_eq_none.mp found entity member)
  | some other =>
      have holds : other.contains token := by
        have satisfied := List.find?_some found
        exact satisfied
      have same : other = entity := only other (List.mem_of_find?_eq_some found) holds
      rw [ofEntities, found, same]

theorem ofEntities_concat_of_not_contains {entities earlier : List Span}
    {token entity : Span} (without : ¬ entity.contains token) :
    ofEntities (entities ++ [entity]) earlier token = ofEntities entities earlier token := by
  simp only [ofEntities, List.find?_append, List.find?_singleton, without, Bool.false_eq_true,
    if_false, Option.or_none]

theorem ofEntities_concat_of_free {entities earlier : List Span} {token entity : Span}
    (free : ∀ other ∈ entities, ¬ other.contains token) (contains : entity.contains token) :
    ofEntities (entities ++ [entity]) earlier token =
      if earlier.any entity.contains then .inside (entity.label.getD [])
      else .begin (entity.label.getD []) := by
  simp only [ofEntities, List.find?_append, List.find?_eq_none.mpr free, List.find?_singleton,
    contains, if_true, Option.none_or]

theorem columnFrom_getElem? (entities earlier tokens : List Span) (index : Nat) :
    (columnFrom entities earlier tokens)[index]? =
      tokens[index]?.map (ofEntities entities (earlier ++ tokens.take index)) := by
  induction tokens generalizing earlier index with
  | nil => rfl
  | cons token rest induction =>
      cases index with
      | zero => simp [columnFrom]
      | succ index =>
          simp only [columnFrom, List.getElem?_cons_succ, induction, List.take_succ_cons,
            List.append_assoc, List.singleton_append]

theorem column_getElem? (tokens entities : List Span) (index : Nat) :
    (column tokens entities)[index]? =
      tokens[index]?.map (ofEntities entities (tokens.take index)) :=
  columnFrom_getElem? entities [] tokens index

theorem column_nil (tokens : List Span) : column tokens [] = tokens.map fun _ => .outside := by
  apply List.ext_getElem?
  intro index
  rw [column_getElem?, List.getElem?_map]
  rfl

theorem column_length (tokens entities : List Span) :
    (column tokens entities).length = tokens.length := by
  have unfolded : ∀ earlier, (columnFrom entities earlier tokens).length = tokens.length := by
    intro earlier
    induction tokens generalizing earlier with
    | nil => rfl
    | cons token rest induction => exact congrArg (· + 1) (induction _)
  exact unfolded []

/-! ## Writing one entity -/

theorem mark_of_occupied {entity token : Span} {begun : Bool} {tag : Tag}
    {rest : List (Span × Tag)} (contains : entity.contains token) (occupied : tag ≠ .outside) :
    mark entity begun ((token, tag) :: rest) = .error (.overlapping entity) := by
  cases tag with
  | outside => exact absurd rfl occupied
  | begin type => simp only [mark, contains, if_true]
  | inside type => simp only [mark, contains, if_true]

theorem mark_columnFrom_iff {entity : Span} {entities earlier tokens : List Span}
    {tags : List Tag} :
    mark entity (earlier.any entity.contains)
        (tokens.zip (columnFrom entities earlier tokens)) = .ok tags ↔
      (∀ token ∈ tokens, entity.contains token →
        entity.label ≠ none ∧ ∀ other ∈ entities, ¬ other.contains token) ∧
      tags = columnFrom (entities ++ [entity]) earlier tokens := by
  induction tokens generalizing earlier tags with
  | nil =>
      simp only [columnFrom, List.zip_nil_left, mark, Except.ok.injEq, List.not_mem_nil,
        false_implies, implies_true, true_and]
      exact eq_comm
  | cons token rest induction =>
      have begun : (earlier ++ [token]).any entity.contains =
          (earlier.any entity.contains || entity.contains token) := by
        simp
      have later := @induction (earlier ++ [token])
      simp only [columnFrom, List.zip_cons_cons, List.forall_mem_cons]
      by_cases contains : entity.contains token
      · rw [begun, contains, Bool.or_true] at later
        by_cases free : ∀ other ∈ entities, ¬ other.contains token
        · rw [ofEntities_concat_of_free free contains]
          simp only [mark, contains, if_true, ofEntities_eq_outside_iff.mpr free]
          cases label : entity.label with
          | none => simp
          | some type =>
              simp only [Result.map_eq_ok_iff, later, label, Option.getD_some]
              grind
        · rw [mark_of_occupied contains (mt ofEntities_eq_outside_iff.mp free)]
          exact ⟨nofun, fun writable => absurd (writable.1.1 contains).2 free⟩
      · rw [begun, (Bool.not_eq_true _).mp contains, Bool.or_false] at later
        simp only [mark, if_neg contains, Result.map_eq_ok_iff, later,
          ofEntities_concat_of_not_contains contains]
        grind

theorem exists_contained {tokens : List Span} {entity : Span}
    (bounded : onBoundaries tokens entity) : ∃ token ∈ tokens, entity.contains token := by
  cases covered : tokens.filter entity.contains with
  | nil => simp [onBoundaries, covered] at bounded
  | cons token _ =>
      have member : token ∈ tokens.filter entity.contains := covered ▸ List.mem_cons_self
      exact ⟨token, List.mem_of_mem_filter member, List.of_mem_filter member⟩

theorem encodeOne_column_iff {tokens entities : List Span} {entity : Span}
    {tags : List Tag} :
    encodeOne tokens (column tokens entities) entity = .ok tags ↔
      onBoundaries tokens entity ∧ entity.label ≠ none ∧
        (∀ other ∈ entities, Apart tokens other entity) ∧
        tags = column tokens (entities ++ [entity]) := by
  unfold encodeOne
  split
  · rename_i bounded
    rcases exists_contained bounded with ⟨first, member, contains⟩
    have written := @mark_columnFrom_iff entity entities [] tokens tags
    simp only [List.any_nil] at written
    rw [column, written]
    constructor
    · rintro ⟨writable, equal⟩
      refine ⟨bounded, (writable first member contains).1, ?_, equal⟩
      intro other otherMember token tokenMember inOther inEntity
      exact (writable token tokenMember inEntity).2 other otherMember inOther
    · rintro ⟨_, labelled, apart, equal⟩
      refine ⟨fun token tokenMember inEntity => ⟨labelled, ?_⟩, equal⟩
      intro other otherMember inOther
      exact apart other otherMember token tokenMember inOther inEntity
  · rename_i unbounded
    exact ⟨nofun, fun writable => absurd writable.1 unbounded⟩

/-! ## Writing all entities -/

theorem encodable_concat_iff {tokens entities : List Span} {entity : Span} :
    Encodable tokens (entities ++ [entity]) ↔
      Encodable tokens entities ∧ onBoundaries tokens entity ∧ entity.label ≠ none ∧
        ∀ other ∈ entities, Apart tokens other entity := by
  constructor
  · intro encodable
    have apart := List.pairwise_append.mp encodable.apart
    refine ⟨⟨?_, ?_, apart.1⟩, ?_, ?_, ?_⟩
    · exact fun other member => encodable.bounded other (List.mem_append_left _ member)
    · exact fun other member => encodable.labelled other (List.mem_append_left _ member)
    · exact encodable.bounded entity (by simp)
    · exact encodable.labelled entity (by simp)
    · exact fun other member => apart.2.2 other member entity (by simp)
  · rintro ⟨encodable, bounded, labelled, apart⟩
    refine ⟨?_, ?_, List.pairwise_append.mpr ⟨encodable.apart, by simp, ?_⟩⟩
    · intro other member
      rcases List.mem_append.mp member with member | member
      · exact encodable.bounded other member
      · exact List.mem_singleton.mp member ▸ bounded
    · intro other member
      rcases List.mem_append.mp member with member | member
      · exact encodable.labelled other member
      · exact List.mem_singleton.mp member ▸ labelled
    · intro other member last isLast
      exact List.mem_singleton.mp isLast ▸ apart other member

/-- Entities can be written exactly when they are encodable, and what is written
is their column. -/
theorem encode_iff {tokens entities : List Span} {tags : List Tag} :
    encode tokens entities = .ok tags ↔
      Encodable tokens entities ∧ tags = column tokens entities := by
  -- The last entity is written last, so the list is taken apart from its end.
  induction entities using List.reverseRecOn generalizing tags with
  | nil =>
      rw [column_nil]
      constructor
      · intro encoded
        exact ⟨⟨nofun, nofun, .nil⟩, (Except.ok.inj encoded).symm⟩
      · rintro ⟨_, rfl⟩
        rfl
  | append_singleton entities entity induction =>
      have before : encode tokens (entities ++ [entity]) =
          encode tokens entities >>= fun tags => encodeOne tokens tags entity := by
        simp [encode]
      rw [before, Result.bind_eq_ok_iff, encodable_concat_iff]
      constructor
      · rintro ⟨written, encoded, last⟩
        rcases induction.mp encoded with ⟨encodable, rfl⟩
        rcases encodeOne_column_iff.mp last with ⟨bounded, labelled, apart, equal⟩
        exact ⟨⟨encodable, bounded, labelled, apart⟩, equal⟩
      · rintro ⟨⟨encodable, bounded, labelled, apart⟩, equal⟩
        exact ⟨column tokens entities, induction.mpr ⟨encodable, rfl⟩,
          encodeOne_column_iff.mpr ⟨bounded, labelled, apart, equal⟩⟩

end Standoff.Tag
