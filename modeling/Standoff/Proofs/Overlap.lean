import Standoff.Proofs.Grouping

/-! Spans that do not overlap. As containers they reach no span twice, and what they
reach keeps its order. -/

namespace Standoff.Tier

/-! ## Spans one behind the other -/

/-- Spans that run forward, each behind the end of those in front of it. -/
structure Separate (tier : Tier) : Prop where
  forward : ∀ span ∈ tier, span.start ≤ span.stop
  apart : tier.Pairwise fun span later => span.stop ≤ later.start

theorem hasOverlaps_eq_false_iff {tier : Tier} :
    hasOverlaps tier = false ↔ tier.IsChain fun span next => span.stop ≤ next.start := by
  induction tier using hasOverlaps.induct with
  | case1 => simp [hasOverlaps]
  | case2 => simp [hasOverlaps]
  | case3 span next later induction => simp [hasOverlaps, induction]

theorem Separate.hasOverlaps_eq_false {tier : Tier} (separate : Separate tier) :
    hasOverlaps tier = false :=
  hasOverlaps_eq_false_iff.mpr separate.apart.isChain

theorem Separate.sorted {tier : Tier} (separate : Separate tier) : Sorted tier := by
  refine separate.apart.imp_of_mem fun member laterMember before => ?_
  have here := separate.forward _ member
  have there := separate.forward _ laterMember
  rw [Span.notAfter_iff]
  omega

theorem Separate.start_le {tier : Tier} (separate : Separate tier) {first span : Span}
    (isFirst : tier.head? = some first) (member : span ∈ tier) : first.start ≤ span.start := by
  rcases List.head?_eq_some_iff.mp isFirst with ⟨others, rfl⟩
  rcases List.mem_cons.mp member with rfl | inOthers
  · exact Nat.le_refl _
  · have here := separate.forward first List.mem_cons_self
    have behind := (List.pairwise_cons.mp separate.apart).1 span inOthers
    exact Nat.le_trans here behind

theorem Separate.stop_le {tier : Tier} (separate : Separate tier) {last span : Span}
    (isLast : tier.getLast? = some last) (member : span ∈ tier) : span.stop ≤ last.stop := by
  rcases List.getLast?_eq_some_iff.mp isLast with ⟨others, rfl⟩
  rcases List.mem_append.mp member with inOthers | isSpan
  · have before := (List.pairwise_append.mp separate.apart).2.2 span inOthers last
      List.mem_cons_self
    have there := separate.forward last (List.mem_append_right _ List.mem_cons_self)
    exact Nat.le_trans before there
  · obtain rfl := List.mem_singleton.mp isSpan
    exact Nat.le_refl _

/-! ## Containers -/

theorem Parted.separate {parts : List (Span × Tier)} (parted : Parted parts) :
    Separate (parts.map (·.1)) where
  forward container member := by
    rcases List.mem_map.mp member with ⟨part, inParts, rfl⟩
    exact parted.forward part inParts
  apart := List.pairwise_map.mpr parted.apart

/-- No character lies in two of the spans. -/
def Disjoint (tier : Tier) : Prop :=
  tier.Pairwise fun span later => ¬ (span.start < later.stop ∧ later.start < span.stop)

theorem disjoint_of_hasOverlaps {tier : Tier} (ordered : StartsOrdered tier)
    (separate : hasOverlaps tier = false) : Disjoint tier := by
  induction tier using hasOverlaps.induct with
  | case1 => exact .nil
  | case2 => exact List.pairwise_singleton _ _
  | case3 span next later induction =>
      rw [hasOverlaps, Bool.or_eq_false_iff, decide_eq_false_iff_not] at separate
      have starts := List.pairwise_cons.mp ordered
      refine List.pairwise_cons.mpr ⟨?_, induction starts.2 separate.2⟩
      intro other member overlap
      rcases List.mem_cons.mp member with rfl | inLater
      · exact separate.1 overlap.2
      · have behind := (List.pairwise_cons.mp starts.2).1 other inLater
        omega

def reachedGroups (containers spans : Tier) : List Tier :=
  (containers.map fun container => spans.filter (reaches container)).filter (· ≠ [])

theorem filter_append_filter {spans : Tier} (ordered : StartsOrdered spans) (bound : Nat) :
    (spans.filter fun span => span.start < bound) ++
      (spans.filter fun span => bound ≤ span.start) = spans := by
  rw [← takeWhile_eq_filter ordered, ← dropWhile_eq_filter ordered,
    List.takeWhile_append_dropWhile]

/-- What a later container reaches starts behind the end of an earlier one. -/
theorem filter_reaches_of_apart {container later : Span}
    (ordered : container.start ≤ later.start)
    (apart : ¬ (container.start < later.stop ∧ later.start < container.stop)) (spans : Tier) :
    (spans.filter fun span => container.stop ≤ span.start).filter (reaches later) =
      spans.filter (reaches later) := by
  rw [List.filter_filter]
  apply List.filter_congr
  intro span _
  rw [Bool.eq_iff_iff]
  simp only [reaches_iff, Bool.and_eq_true, decide_eq_true_eq]
  omega

theorem flatMap_filter_reaches_sublist {containers spans : Tier}
    (containersOrdered : StartsOrdered containers) (ordered : StartsOrdered spans)
    (disjoint : Disjoint containers) :
    (containers.flatMap fun container => spans.filter (reaches container)).Sublist spans := by
  -- The first container reaches spans in front of its end only, and the later ones spans
  -- behind it only.
  induction containers generalizing spans with
  | nil => exact List.nil_sublist spans
  | cons container rest induction =>
      have starts := List.pairwise_cons.mp containersOrdered
      have apart := List.pairwise_cons.mp disjoint
      have here : (spans.filter (reaches container)).Sublist
          (spans.filter fun span => span.start < container.stop) := by
        apply List.monotone_filter_right
        intro span reached
        simpa using (reaches_iff.mp reached).2.1
      have behind := induction starts.2 (ordered.filter fun span => container.stop ≤ span.start)
        apart.2
      have same : (rest.flatMap fun later =>
          (spans.filter fun span => container.stop ≤ span.start).filter (reaches later)) =
            rest.flatMap fun later => spans.filter (reaches later) := by
        apply List.flatMap_congr
        intro later member
        exact filter_reaches_of_apart (starts.1 later member) (apart.1 later member) spans
      rw [same] at behind
      have both := here.append behind
      rwa [filter_append_filter ordered] at both

theorem flatten_reachedGroups_sublist {containers spans : Tier}
    (containersOrdered : StartsOrdered containers) (ordered : StartsOrdered spans)
    (disjoint : Disjoint containers) :
    (reachedGroups containers spans).flatten.Sublist spans := by
  rw [reachedGroups, List.flatten_filter_ne_nil, ← List.flatMap_def]
  exact flatMap_filter_reaches_sublist containersOrdered ordered disjoint

end Standoff.Tier
