import Standoff.Span
import Standoff.Text.Quoted

/-! Tiers: the spans of one layer of annotation, in an order of their own.

A tier is sorted when each span may stand in front of all later ones. Readers
that produce spans in order keep that order, so sorting is a choice of whoever
makes the tier. -/

namespace Standoff

abbrev Tier := List Span

namespace Tier

/-! ## Order -/

/-- Sort by start and then by end. Spans with the same extent keep their order. -/
def sort (spans : List Span) : Tier := spans.mergeSort Span.notAfter

def Sorted (tier : Tier) : Prop :=
  tier.Pairwise fun span later => span.notAfter later

theorem notAfter_trans (first second third : Span) (left : first.notAfter second)
    (right : second.notAfter third) : first.notAfter third := by
  rw [Span.notAfter_iff] at *
  omega

theorem notAfter_total (span other : Span) :
    (span.notAfter other || other.notAfter span) = true := by
  rw [Bool.or_eq_true, Span.notAfter_iff, Span.notAfter_iff]
  omega

theorem sorted_sort (spans : List Span) : Sorted (sort spans) :=
  List.pairwise_mergeSort notAfter_trans notAfter_total spans

theorem sort_perm (spans : List Span) : (sort spans).Perm spans :=
  List.mergeSort_perm spans Span.notAfter

/-! ## Grouping -/

/-- Give each container the spans of another tier that lie in it, both tiers
being read once from the front: a span that starts before a container is out of
reach for all later ones too. A span of no width at a container's end is not
reached. -/
def group (containers : Tier) (spans : Tier) : List (Span × Tier) :=
  match containers with
  | [] => []
  | container :: later =>
      let reached := spans.dropWhile fun span => span.start < container.start
      let started := reached.takeWhile fun span => span.start < container.stop
      (container, started.filter fun span => span.stop ≤ container.stop) ::
        group later reached

example :
    (group [{ start := 0, stop := 3 }, { start := 4, stop := 7 }]
      [{ start := 0, stop := 1 }, { start := 1, stop := 5 }, { start := 5, stop := 7 }]).map
        (fun grouped => grouped.2.map (·.start)) = [[0], [5]] := by decide

def containedIn (tier : Tier) (selector : Span) : Tier :=
  tier.filter selector.contains

/-! ## Overlaps -/

/-- Whether some span starts before the end of the span in front of it. -/
def hasOverlaps : Tier → Bool
  | [] => false
  | [_] => false
  | span :: next :: later => next.start < span.stop || hasOverlaps (next :: later)

/-! ## Showing and export -/

def describe (text : Text) (tier : Tier) : Text :=
  "AnnoTier([".toList ++ ", ".toList.intercalate (tier.map (Span.describe text)) ++
    "])".toList

def labels (tier : Tier) : List (Option Text) := tier.map (·.label)

def at? (tier : Tier) (index : Int) : Option Span :=
  if 0 ≤ index then tier[index.toNat]?
  else if 0 ≤ tier.length + index then tier[(tier.length + index).toNat]?
  else none

def toValue (tier : Tier) : Value := .list (tier.map Span.toValue)

end Tier

end Standoff
