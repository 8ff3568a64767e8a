import Standoff.Proofs.Grouping

/-! Grouping against containment. A group has what its container contains, in the order
of the tier, except for the spans of no width that lie at the container's end. -/

namespace Standoff.Tier

/-! ## Order by start -/

theorem Sorted.startsOrdered {tier : Tier} (sorted : Sorted tier) : StartsOrdered tier := by
  refine sorted.imp fun before => ?_
  rw [Span.notAfter_iff] at before
  omega

/-- What grouping reads of spans that it is given: a tier is read as it is, a plain list
after it has been sorted. -/
inductive ReadAs (spans : List Span) : Tier → Prop
  | tier (ordered : StartsOrdered spans) : ReadAs spans spans
  | list : ReadAs spans (sort spans)

theorem ReadAs.startsOrdered {spans : List Span} {read : Tier} (readAs : ReadAs spans read) :
    StartsOrdered read := by
  cases readAs with
  | tier ordered => exact ordered
  | list => exact (sorted_sort spans).startsOrdered

theorem ReadAs.perm {spans : List Span} {read : Tier} (readAs : ReadAs spans read) :
    read.Perm spans := by
  cases readAs with
  | tier _ => exact .refl spans
  | list => exact sort_perm spans

/-! ## Containment -/

/-- The spans that a container contains, without those of no width at its end. -/
def containedBefore (tier : Tier) (container : Span) : Tier :=
  (tier.containedIn container).filter fun span =>
    ¬ (span.start = container.stop ∧ span.stop = container.stop)

example :
    (containedBefore [{ start := 1, stop := 1 }, { start := 2, stop := 3 },
      { start := 3, stop := 3 }] { start := 1, stop := 3 }).map (·.start) = [1, 2] := by decide

/-- A span that runs forward and starts at the end of a container lies in it only if it
has no width. -/
theorem filter_reaches_eq {tier : Tier} (forward : ∀ span ∈ tier, span.start ≤ span.stop)
    (container : Span) : tier.filter (reaches container) = tier.containedBefore container := by
  rw [containedBefore, containedIn, List.filter_filter]
  apply List.filter_congr
  intro span member
  have inOrder := forward span member
  rw [Bool.eq_iff_iff, reaches_iff]
  simp only [Span.contains, Bool.and_eq_true, decide_eq_true_eq]
  omega

theorem containedBefore_eq_containedIn {tier : Tier}
    (wide : ∀ span ∈ tier, span.start ≠ span.stop) (container : Span) :
    tier.containedBefore container = tier.containedIn container := by
  apply List.filter_eq_self.mpr
  intro span member
  have different := wide span (List.mem_filter.mp member).1
  rw [decide_eq_true_eq]
  rintro ⟨start, stop⟩
  exact different (start.trans stop.symm)

/-- Grouping gives each container once and in order, with the spans that it contains
except for those of no width at its end. When there are none without width, these are all
spans that it contains. -/
theorem group_contained {containers read : Tier} {spans : List Span}
    (containersOrdered : StartsOrdered containers)
    (forward : ∀ span ∈ spans, span.start ≤ span.stop) (readAs : ReadAs spans read) :
    group containers read =
        containers.map (fun container => (container, read.containedBefore container)) ∧
      ((∀ span ∈ spans, span.start ≠ span.stop) → group containers read =
        containers.map fun container => (container, read.containedIn container)) := by
  have readForward : ∀ span ∈ read, span.start ≤ span.stop :=
    fun span member => forward span (readAs.perm.mem_iff.mp member)
  have grouped : group containers read =
      containers.map fun container => (container, read.containedBefore container) := by
    rw [group_eq_map_filter containersOrdered readAs.startsOrdered]
    apply List.map_congr_left
    intro container _
    rw [filter_reaches_eq readForward]
  refine ⟨grouped, fun wide => ?_⟩
  have readWide : ∀ span ∈ read, span.start ≠ span.stop :=
    fun span member => wide span (readAs.perm.mem_iff.mp member)
  rw [grouped]
  apply List.map_congr_left
  intro container _
  rw [containedBefore_eq_containedIn readWide]

/-- A container inside another with the same start, one without width, and a plain list
that is out of order, with spans of no width at both ends of a container. -/
theorem group_contained_nested :
    let containers : Tier :=
      [{ start := 0, stop := 6 }, { start := 0, stop := 2 }, { start := 2, stop := 2 }]
    let spans : List Span := [{ start := 2, stop := 2 }, { start := 1, stop := 4 },
      { start := 0, stop := 0 }, { start := 1, stop := 2 }]
    (group containers (sort spans)).map (fun grouped =>
        (grouped.1.stop, grouped.2.map fun span => (span.start, span.stop))) =
      [(6, [(0, 0), (1, 2), (1, 4), (2, 2)]), (2, [(0, 0), (1, 2)]), (2, [])] := by
  intro containers spans
  have containersOrdered : StartsOrdered containers := by
    simp [StartsOrdered, containers]
  have forward : ∀ span ∈ spans, span.start ≤ span.stop := by
    simp [spans]
  have sorted : sort spans = [{ start := 0, stop := 0 }, { start := 1, stop := 2 },
      { start := 1, stop := 4 }, { start := 2, stop := 2 }] := by
    simp [spans, sort, List.mergeSort, List.MergeSort.Internal.splitInTwo,
      Span.notAfter, Span.before]
  rw [(group_contained containersOrdered forward .list).1, sorted]
  rfl

end Standoff.Tier
