import Standoff.Proofs.Containment
import Standoff.Proofs.Overlap

/-! Overlaps between neighbours. In a sorted tier it is enough to compare each span with the
next one: if any two spans overlap, then so do two neighbours. -/

namespace Standoff.Tier

/-! ## Pairs of spans -/

theorem disjoint_perm {spans other : List Span} (perm : spans.Perm other) :
    Disjoint spans ↔ Disjoint other :=
  perm.pairwise_iff fun apart overlap => apart overlap.symm

theorem not_disjoint_iff {spans : List Span} :
    ¬ Disjoint spans ↔ ∃ (first second : Nat) (span other : Span), first ≠ second ∧
      spans[first]? = some span ∧ spans[second]? = some other ∧
      span.start < other.stop ∧ other.start < span.stop := by
  rw [Disjoint, List.pairwise_iff_getElem]
  constructor
  · intro overlapping
    push Not at overlapping
    rcases overlapping with ⟨first, second, inside, secondInside, before, overlap⟩
    exact ⟨first, second, _, _, Nat.ne_of_lt before, List.getElem?_eq_getElem inside,
      List.getElem?_eq_getElem secondInside, overlap⟩
  · rintro ⟨first, second, span, other, different, found, otherFound, overlap⟩ apart
    rcases List.getElem?_eq_some_iff.mp found with ⟨inside, rfl⟩
    rcases List.getElem?_eq_some_iff.mp otherFound with ⟨otherInside, rfl⟩
    rcases Nat.lt_or_gt_of_ne different with before | behind
    · exact apart first second inside otherInside before overlap
    · exact apart second first otherInside inside behind overlap.symm

def covers (offset : Nat) (span : Span) : Bool :=
  span.start ≤ offset && offset < span.stop

theorem covers_iff {offset : Nat} {span : Span} :
    covers offset span ↔ span.start ≤ offset ∧ offset < span.stop := by
  simp only [covers, Bool.and_eq_true, decide_eq_true_eq]

/-- No character lies in two spans that do not overlap. -/
theorem countP_covers_le_one {spans : List Span} (disjoint : Disjoint spans) (offset : Nat) :
    spans.countP (covers offset) ≤ 1 := by
  induction spans with
  | nil => exact Nat.zero_le 1
  | cons span rest induction =>
      rcases List.pairwise_cons.mp disjoint with ⟨apart, later⟩
      by_cases here : covers offset span
      · have nowhere : rest.countP (covers offset) = 0 := by
          rw [List.countP_eq_zero]
          intro other member there
          rw [covers_iff] at here there
          exact apart other member (by omega)
        have once : (span :: rest).countP (covers offset) = 1 := by
          rw [List.countP_cons_of_pos here, nowhere]
        exact Nat.le_of_eq once
      · rw [List.countP_cons_of_neg here]
        exact induction later

/-! ## Sorted tiers -/

/-- Of two spans in order that do not overlap, the first ends where the other starts or
before. That the earlier end stands in front decides for a span of no width at the start of
another span. -/
theorem separate_of_disjoint {tier : Tier} (sorted : Sorted tier)
    (forward : ∀ span ∈ tier, span.start ≤ span.stop) (disjoint : Disjoint tier) :
    Separate tier := by
  refine ⟨forward, (sorted.and disjoint).imp_of_mem ?_⟩
  rintro span later member laterMember ⟨before, apart⟩
  have here := forward span member
  have there := forward later laterMember
  rw [Span.notAfter_iff] at before
  omega

theorem disjoint_of_sorted {tier : Tier} (sorted : Sorted tier)
    (alone : hasOverlaps tier = false) : Disjoint tier :=
  disjoint_of_hasOverlaps sorted.startsOrdered alone

theorem separate_sort {spans : List Span} (forward : ∀ span ∈ spans, span.start ≤ span.stop)
    (disjoint : Disjoint (sort spans)) : Separate (sort spans) :=
  separate_of_disjoint (sorted_sort spans)
    (fun span member => forward span ((sort_perm spans).mem_iff.mp member)) disjoint

theorem hasOverlaps_sort_eq_false_iff {spans : List Span}
    (forward : ∀ span ∈ spans, span.start ≤ span.stop) :
    hasOverlaps (sort spans) = false ↔ Disjoint spans := by
  rw [← disjoint_perm (sort_perm spans)]
  exact ⟨disjoint_of_sorted (sorted_sort spans),
    fun disjoint => (separate_sort forward disjoint).hasOverlaps_eq_false⟩

/-- Comparing neighbours finds out whether any two spans of a document overlap, in whatever
order they are given. If none do, the spans of the tier follow one another and no character
lies in two of them. -/
theorem hasOverlaps_sort_iff {text : Text} {spans : List Span}
    (within : ∀ span ∈ spans, span.Within text) :
    (hasOverlaps (sort spans) = true ↔
      ∃ (first second : Nat) (span other : Span), first ≠ second ∧
        spans[first]? = some span ∧ spans[second]? = some other ∧
        span.start < other.stop ∧ other.start < span.stop) ∧
    (∀ reordered : List Span, reordered.Perm spans →
      hasOverlaps (sort reordered) = hasOverlaps (sort spans)) ∧
    (hasOverlaps (sort spans) = false →
      Disjoint (sort spans) ∧ Separate (sort spans) ∧
        ∀ offset, (sort spans).countP (covers offset) ≤ 1) := by
  have forward : ∀ span ∈ spans, span.start ≤ span.stop :=
    fun span member => (within span member).1
  refine ⟨?_, ?_, ?_⟩
  · rw [← Bool.not_eq_false, hasOverlaps_sort_eq_false_iff forward]
    exact not_disjoint_iff
  · intro reordered perm
    rw [Bool.eq_iff_iff, ← Bool.not_eq_false, ← Bool.not_eq_false,
      hasOverlaps_sort_eq_false_iff forward, hasOverlaps_sort_eq_false_iff, disjoint_perm perm]
    exact fun span member => forward span (perm.mem_iff.mp member)
  · intro alone
    have disjoint := disjoint_of_sorted (sorted_sort spans) alone
    exact ⟨disjoint, separate_sort forward disjoint, countP_covers_le_one disjoint⟩

/-- A long span overlaps a distant one, with a span of no width at its start and a nested
span between the two. Without the long span none overlap, although one starts where another
ends. -/
theorem hasOverlaps_sort_distant :
    let text := "standoff".toList
    let short : List Span := [{ start := 5, stop := 7 }, { start := 1, stop := 1 },
      { start := 2, stop := 5 }, { start := 5, stop := 5 }]
    let long : Span := { start := 1, stop := 6 }
    (∀ span ∈ long :: short, span.Within text) ∧
      hasOverlaps (sort (long :: short)) = true ∧
      hasOverlaps (sort (long :: short).reverse) = true ∧
      hasOverlaps (sort short) = false := by
  intro text short long
  have within : ∀ span ∈ long :: short, span.Within text := by decide
  rcases hasOverlaps_sort_iff within with ⟨pairs, order, _⟩
  have found : hasOverlaps (sort (long :: short)) = true :=
    pairs.mpr ⟨0, 1, long, { start := 5, stop := 7 }, by decide, rfl, rfl, by decide⟩
  refine ⟨within, found, ?_, ?_⟩
  · rw [order _ (List.reverse_perm _), found]
  · rw [hasOverlaps_sort_eq_false_iff (by decide)]
    unfold Disjoint
    decide

end Standoff.Tier
