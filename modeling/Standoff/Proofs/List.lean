import Mathlib.Data.List.Forall2

/-! Lists whose members are related to one another, or to those of a second list. -/

namespace Standoff.List

variable {α β : Type}

theorem eq_or_of_pairwise {relation : α → α → Prop} {list : List α}
    (pairwise : list.Pairwise relation) {member other : α} (inList : member ∈ list)
    (otherInList : other ∈ list) :
    member = other ∨ relation member other ∨ relation other member := by
  let Related (left right : α) : Prop := left = right ∨ relation left right ∨ relation right left
  have forward : list.Pairwise Related := pairwise.imp fun before => Or.inr (Or.inl before)
  have backward : list.Pairwise (flip Related) :=
    pairwise.imp fun before => Or.inr (Or.inr before)
  have reflexive : ∀ self ∈ list, Related self self := fun _ _ => Or.inl rfl
  exact List.Pairwise.forall_of_forall_of_flip reflexive forward backward inList otherInList

theorem exists_forall₂ {relation : α → β → Prop} {list : List α}
    (each : ∀ member ∈ list, ∃ image, relation member image) :
    ∃ images, List.Forall₂ relation list images := by
  induction list with
  | nil => exact ⟨[], .nil⟩
  | cons first rest induction =>
      rcases each first List.mem_cons_self with ⟨image, here⟩
      rcases induction fun member inRest => each member (List.mem_cons_of_mem first inRest)
        with ⟨images, later⟩
      exact ⟨image :: images, .cons here later⟩

theorem exists_left_of_forall₂ {relation : α → β → Prop} {left : List α} {right : List β}
    (all : List.Forall₂ relation left right) {image : β} (member : image ∈ right) :
    ∃ source ∈ left, relation source image := by
  rcases List.mem_iff_getElem.mp member with ⟨index, bound, rfl⟩
  have sourceBound := all.length_eq ▸ bound
  exact ⟨left[index], List.getElem_mem sourceBound, all.get sourceBound bound⟩

theorem exists_getElem?_of_forall₂ {relation : α → β → Prop} {left : List α} {right : List β}
    (all : List.Forall₂ relation left right) {index : Nat} {source : α}
    (found : left[index]? = some source) :
    ∃ image, right[index]? = some image ∧ relation source image := by
  rcases List.getElem?_eq_some_iff.mp found with ⟨bound, rfl⟩
  have imageBound := all.length_eq ▸ bound
  exact ⟨right[index], List.getElem?_eq_getElem imageBound, all.get bound imageBound⟩

theorem exists_right_of_forall₂ {relation : α → β → Prop} {left : List α} {right : List β}
    (all : List.Forall₂ relation left right) {source : α} (member : source ∈ left) :
    ∃ image ∈ right, relation source image := by
  rcases List.mem_iff_getElem?.mp member with ⟨index, found⟩
  rcases exists_getElem?_of_forall₂ all found with ⟨image, foundImage, related⟩
  exact ⟨image, List.mem_of_getElem? foundImage, related⟩

theorem exists_append_of_forall₂ {relation : α → β → Prop} {front back : List α}
    {list : List β} (all : List.Forall₂ relation (front ++ back) list) :
    ∃ first second, list = first ++ second ∧ List.Forall₂ relation front first ∧
      List.Forall₂ relation back second := by
  induction front generalizing list with
  | nil => exact ⟨[], list, rfl, .nil, all⟩
  | cons source rest induction =>
      cases all with
      | cons here later =>
          rcases induction later with ⟨first, second, rfl, inFront, inBack⟩
          exact ⟨_ :: first, second, rfl, .cons here inFront, inBack⟩

theorem pairwise_of_forall₂ {corresponds : α → β → Prop} {relation : α → α → Prop}
    {target : β → β → Prop} {left : List α} {right : List β}
    (all : List.Forall₂ corresponds left right) (pairwise : left.Pairwise relation)
    (carry : ∀ {first second image later}, corresponds first image →
      corresponds second later → relation first second → target image later) :
    right.Pairwise target := by
  induction all with
  | nil => exact .nil
  | cons here later induction =>
      have parts := List.pairwise_cons.mp pairwise
      refine List.pairwise_cons.mpr ⟨?_, induction parts.2⟩
      intro image member
      rcases exists_left_of_forall₂ later member with ⟨source, inRest, there⟩
      exact carry here there (parts.1 source inRest)

theorem map_eq_of_forall₂ {γ : Type} {corresponds : α → β → Prop} {key : α → γ} {image : β → γ}
    {left : List α} {right : List β} (all : List.Forall₂ corresponds left right)
    (carry : ∀ {source value}, corresponds source value → image value = key source) :
    right.map image = left.map key := by
  rw [← List.forall₂_eq_eq_eq, List.forall₂_map_left_iff, List.forall₂_map_right_iff]
  exact all.flip.imp fun _ _ => carry

/-- A selection that takes all of one part and nothing of the others gives this part back. -/
theorem filter_flatMap_eq {parts : List α} {own : α → List β} {selects : α → β → Bool}
    (apart : parts.Pairwise fun part later =>
      (∀ value ∈ own later, ¬ selects part value) ∧ ∀ value ∈ own part, ¬ selects later value)
    {part : α} (inParts : part ∈ parts) (all : ∀ value ∈ own part, selects part value) :
    (parts.flatMap own).filter (selects part) = own part := by
  induction parts with
  | nil => cases inParts
  | cons first rest induction =>
      have separate := List.pairwise_cons.mp apart
      rw [List.flatMap_cons, List.filter_append]
      rcases List.mem_cons.mp inParts with rfl | inRest
      · have without : (rest.flatMap own).filter (selects part) = [] := by
          rw [List.filter_eq_nil_iff]
          intro value member
          rcases List.mem_flatMap.mp member with ⟨other, otherInRest, inOther⟩
          exact (separate.1 other otherInRest).1 value inOther
        rw [List.filter_eq_self.mpr all, without, List.append_nil]
      · have without : (own first).filter (selects part) = [] :=
          List.filter_eq_nil_iff.mpr (separate.1 part inRest).2
        rw [without, List.nil_append, induction separate.2 inRest]

theorem exists_first {property : α → Prop} {list : List α}
    (found : ∃ member ∈ list, property member) :
    ∃ front member back, list = front ++ member :: back ∧
      (∀ earlier ∈ front, ¬ property earlier) ∧ property member := by
  induction list with
  | nil =>
      rcases found with ⟨member, inList, _⟩
      cases inList
  | cons first rest induction =>
      by_cases here : property first
      · exact ⟨[], first, rest, rfl, nofun, here⟩
      · have later : ∃ member ∈ rest, property member := by
          simpa [here] using found
        rcases induction later with ⟨front, member, back, rfl, without, holds⟩
        exact ⟨first :: front, member, back, rfl, List.forall_mem_cons.mpr ⟨here, without⟩, holds⟩

theorem exists_first_not {property : α → Prop} {list : List α}
    (found : ∃ member ∈ list, ¬ property member) :
    ∃ front member back, list = front ++ member :: back ∧
      (∀ earlier ∈ front, property earlier) ∧ ¬ property member := by
  rcases exists_first found with ⟨front, member, back, split, earlier, without⟩
  exact ⟨front, member, back, split, fun other inFront => not_not.mp (earlier other inFront),
    without⟩

theorem exists_last {property : α → Prop} {list : List α}
    (found : ∃ member ∈ list, property member) :
    ∃ front member back, list = front ++ member :: back ∧ property member ∧
      ∀ later ∈ back, ¬ property later := by
  have backwards : ∃ member ∈ list.reverse, property member := by
    simpa only [List.mem_reverse] using found
  rcases exists_first backwards with ⟨back, member, front, split, without, holds⟩
  refine ⟨front.reverse, member, back.reverse, ?_, holds, ?_⟩
  · rw [← List.reverse_reverse list, split, List.reverse_append, List.reverse_cons,
      List.append_assoc, List.singleton_append]
  · simpa only [List.mem_reverse] using without

/-- Lists that correspond to lists with the same keys look the same. -/
theorem map_eq_map_of_forall₂ {γ δ : Type} {corresponds : α → β → Prop} {key : α → γ}
    {image : β → δ} {left otherLeft : List α} {right otherRight : List β}
    (all : List.Forall₂ corresponds left right)
    (otherAll : List.Forall₂ corresponds otherLeft otherRight)
    (same : left.map key = otherLeft.map key)
    (carry : ∀ {source other value otherValue}, corresponds source value →
      corresponds other otherValue → key source = key other → image value = image otherValue) :
    right.map image = otherRight.map image := by
  induction all generalizing otherLeft otherRight with
  | nil =>
      obtain rfl := List.map_eq_nil_iff.mp same.symm
      cases otherAll
      rfl
  | cons here _ induction =>
      cases otherAll with
      | nil => cases same
      | cons there later =>
          rw [List.map_cons, List.map_cons, List.cons.injEq] at same
          rw [List.map_cons, List.map_cons, carry here there same.1, induction later same.2]

end Standoff.List
