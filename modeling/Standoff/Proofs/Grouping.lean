import Standoff.Proofs.List
import Standoff.Tier

/-! What grouping by containing spans gives. Reading two tiers once from the front
finds for each container the spans that a search of the whole tier would find. -/

namespace Standoff.Tier

/-! ## Searching a whole tier -/

/-- A container's group has a span that lies in it and starts before its end. -/
def reaches (container span : Span) : Bool :=
  container.start ≤ span.start && span.start < container.stop && span.stop ≤ container.stop

theorem reaches_iff {container span : Span} :
    reaches container span ↔ container.start ≤ span.start ∧
      span.start < container.stop ∧ span.stop ≤ container.stop := by
  simp only [reaches, Bool.and_eq_true, decide_eq_true_eq, and_assoc]

def StartsOrdered (tier : Tier) : Prop :=
  tier.Pairwise fun span later => span.start ≤ later.start

theorem takeWhile_eq_filter {spans : Tier} (ordered : StartsOrdered spans) (bound : Nat) :
    (spans.takeWhile fun span => span.start < bound) =
      spans.filter fun span => span.start < bound := by
  induction spans with
  | nil => rfl
  | cons span rest induction =>
      have parts := List.pairwise_cons.mp ordered
      by_cases before : span.start < bound
      · simp [before, induction parts.2]
      · have none : ∀ later ∈ rest, ¬ later.start < bound := by
          intro later member
          have := parts.1 later member
          omega
        have without : rest.filter (fun span => span.start < bound) = [] :=
          List.filter_eq_nil_iff.mpr fun later member => by
            simpa using none later member
        simp [before, without]

theorem dropWhile_eq_filter {spans : Tier} (ordered : StartsOrdered spans) (bound : Nat) :
    (spans.dropWhile fun span => span.start < bound) =
      spans.filter fun span => bound ≤ span.start := by
  induction spans with
  | nil => rfl
  | cons span rest induction =>
      have parts := List.pairwise_cons.mp ordered
      by_cases before : span.start < bound
      · simp [before, induction parts.2]
      · have all : ∀ later ∈ rest, bound ≤ later.start := by
          intro later member
          have := parts.1 later member
          omega
        have kept : rest.filter (fun span => bound ≤ span.start) = rest :=
          List.filter_eq_self.mpr fun later member => decide_eq_true (all later member)
        simp [before, kept, Nat.le_of_not_lt before]

theorem filter_reached {spans : Tier} (ordered : StartsOrdered spans) (container : Span) :
    (((spans.dropWhile fun span => span.start < container.start).takeWhile
        fun span => span.start < container.stop).filter
        fun span => span.stop ≤ container.stop) = spans.filter (reaches container) := by
  have reachedOrdered : StartsOrdered (spans.filter fun span => container.start ≤ span.start) :=
    ordered.filter _
  rw [dropWhile_eq_filter ordered, takeWhile_eq_filter reachedOrdered, List.filter_filter,
    List.filter_filter]
  apply List.filter_congr
  intro span _
  rw [Bool.eq_iff_iff]
  simp only [reaches_iff, Bool.and_eq_true, decide_eq_true_eq]
  omega

/-- What is dropped for one container is out of reach for a later one. -/
theorem filter_reaches_dropWhile {spans : Tier} (ordered : StartsOrdered spans) {bound : Nat}
    {container : Span} (later : bound ≤ container.start) :
    (spans.dropWhile fun span => span.start < bound).filter (reaches container) =
      spans.filter (reaches container) := by
  rw [dropWhile_eq_filter ordered, List.filter_filter]
  apply List.filter_congr
  intro span _
  rw [Bool.eq_iff_iff]
  simp only [reaches_iff, Bool.and_eq_true, decide_eq_true_eq]
  omega

/-- Grouping ordered tiers finds in each container what it reaches. -/
theorem group_eq_map_filter {containers spans : Tier}
    (containersOrdered : StartsOrdered containers) (ordered : StartsOrdered spans) :
    group containers spans =
      containers.map fun container => (container, spans.filter (reaches container)) := by
  induction containers generalizing spans with
  | nil => rfl
  | cons container later induction =>
      have parts := List.pairwise_cons.mp containersOrdered
      have remaining : StartsOrdered
          (spans.dropWhile fun span => span.start < container.start) :=
        ordered.sublist (List.dropWhile_sublist _)
      have rest : group later (spans.dropWhile fun span => span.start < container.start) =
          later.map fun other => (other, spans.filter (reaches other)) := by
        rw [induction parts.2 remaining]
        apply List.map_congr_left
        intro other member
        rw [filter_reaches_dropWhile ordered (parts.1 other member)]
      rw [group, filter_reached ordered container, rest, List.map_cons]

/-! ## Grouping what was put together -/

/-- Containers that stand one behind the other, each with spans of its own. -/
structure Parted (parts : List (Span × Tier)) : Prop where
  forward : ∀ part ∈ parts, part.1.start ≤ part.1.stop
  apart : parts.Pairwise fun part later => part.1.stop ≤ later.1.start
  inside : ∀ part ∈ parts, ∀ span ∈ part.2, reaches part.1 span
  ordered : ∀ part ∈ parts, StartsOrdered part.2

theorem Parted.containersOrdered {parts : List (Span × Tier)} (parted : Parted parts) :
    StartsOrdered (parts.map (·.1)) := by
  rw [StartsOrdered, List.pairwise_map]
  exact parted.apart.imp_of_mem fun member _ before =>
    Nat.le_trans (parted.forward _ member) before

theorem Parted.spansOrdered {parts : List (Span × Tier)} (parted : Parted parts) :
    StartsOrdered (parts.flatMap (·.2)) := by
  rw [StartsOrdered, List.pairwise_flatMap]
  refine ⟨parted.ordered, parted.apart.imp_of_mem ?_⟩
  intro part later member laterMember before span inPart other inLater
  have here := reaches_iff.mp (parted.inside part member span inPart)
  have there := reaches_iff.mp (parted.inside later laterMember other inLater)
  omega

theorem Parted.filter_eq {parts : List (Span × Tier)} (parted : Parted parts)
    {part : Span × Tier} (member : part ∈ parts) :
    (parts.flatMap (·.2)).filter (reaches part.1) = part.2 := by
  have apart : parts.Pairwise fun part later =>
      (∀ span ∈ later.2, ¬ reaches part.1 span) ∧ ∀ span ∈ part.2, ¬ reaches later.1 span := by
    refine parted.apart.imp_of_mem ?_
    intro part later inParts laterInParts before
    constructor
    · intro span inLater reached
      have here := reaches_iff.mp reached
      have there := reaches_iff.mp (parted.inside later laterInParts span inLater)
      omega
    · intro span inPart reached
      have here := reaches_iff.mp reached
      have there := reaches_iff.mp (parted.inside part inParts span inPart)
      omega
  exact @List.filter_flatMap_eq _ _ parts (·.2) (fun part => reaches part.1) apart part member
    (parted.inside part member)

theorem Parted.group_eq {parts : List (Span × Tier)} (parted : Parted parts) :
    group (parts.map (·.1)) (parts.flatMap (·.2)) = parts := by
  rw [group_eq_map_filter parted.containersOrdered parted.spansOrdered, List.map_map]
  have same : ∀ part ∈ parts,
      ((fun container => (container, (parts.flatMap (·.2)).filter (reaches container))) ∘
        (·.1)) part = part :=
    fun part member => Prod.ext rfl (parted.filter_eq member)
  rw [List.map_congr_left same, List.map_id']

end Standoff.Tier
