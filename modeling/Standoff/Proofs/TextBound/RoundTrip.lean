import Standoff.Proofs.List
import Standoff.Proofs.Result
import Standoff.Proofs.Standing
import Standoff.Proofs.StoredText
import Standoff.Proofs.TextBound.Writing

/-! Annotations that are written into a file, among lines of other kinds, are read back:
each gives its span, in the order in which they were written. -/

namespace Standoff

/-! ## Sorted tiers -/

namespace Tier

/-- A tier has the spans of a list in order, and those of the same extent as they were. -/
structure SortOf (spans : List Span) (tier : Tier) : Prop where
  sorted : tier.Sorted
  perm : tier.Perm spans
  stable : ∀ start stop, (tier.filter fun span => span.start = start ∧ span.stop = stop) =
    spans.filter fun span => span.start = start ∧ span.stop = stop

theorem sortOf_sort (spans : List Span) : SortOf spans (sort spans) := by
  refine ⟨sorted_sort spans, sort_perm spans, fun start stop => ?_⟩
  generalize same : (fun span : Span => decide (span.start = start ∧ span.stop = stop)) = extent
  have inOrder : (spans.filter extent).Pairwise fun span later => span.notAfter later := by
    apply List.pairwise_of_forall_mem_list
    intro span member later laterMember
    have equal := (List.mem_filter.mp member).2
    have laterEqual := (List.mem_filter.mp laterMember).2
    rw [← same, decide_eq_true_eq] at equal laterEqual
    rw [Span.notAfter_iff]
    omega
  have kept : (spans.filter extent).Sublist (sort spans) :=
    List.sublist_mergeSort notAfter_trans notAfter_total inOrder List.filter_sublist
  have again := kept.filter extent
  rw [List.filter_filter] at again
  simp only [Bool.and_self] at again
  exact (again.eq_of_length ((sort_perm spans).filter extent).length_eq.symm).symm

end Tier

namespace TextBound

/-! ## Annotations as lines -/

def IsField (field : Text) : Prop := '\t' ∉ field ∧ field.Unbroken

instance (field : Text) : Decidable (IsField field) := by
  unfold IsField
  infer_instance

namespace Entry

/-- An annotation that can be written for a text. -/
structure Writable (text : Text) (entry : Entry) : Prop where
  begins : entry.id.head? = some 'T'
  isField : IsField entry.id
  category : entry.category.Valid
  nonempty : entry.ranges ≠ []
  within : ∀ range ∈ entry.ranges, range.1 ≤ range.2 ∧ range.2 ≤ text.length
  covered : IsField (entry.covered text)

def information (entry : Entry) : Text :=
  entry.category.render ++ ' ' :: writtenRanges entry.ranges

theorem render_eq (text : Text) (entry : Entry) :
    entry.render text = entry.id ++ '\t' :: (entry.information ++ '\t' :: entry.covered text) := by
  simp only [render, information, writtenRanges, List.append_assoc, List.cons_append]
  rfl

variable {text : Text} {entry : Entry}

theorem Writable.isField_information (writable : entry.Writable text) :
    IsField entry.information := by
  have absent {character : Char} (mark : Category.isMark character = false)
      (colon : character ≠ ':') (digit : character.isDigit = false)
      (space : character ≠ ' ') (semicolon : character ≠ ';') :
      character ∉ entry.information := by
    intro inInformation
    rw [information, List.mem_append, List.mem_cons] at inInformation
    rcases inInformation with member | same | member
    · exact writable.category.not_mem_render mark colon member
    · exact space same
    · exact not_mem_writtenRanges digit space semicolon entry.ranges member
  exact ⟨absent rfl (by decide) rfl (by decide) (by decide),
    absent rfl (by decide) rfl (by decide) (by decide),
    absent rfl (by decide) rfl (by decide) (by decide)⟩

theorem Writable.unbroken_render (writable : entry.Writable text) :
    (entry.render text).Unbroken := by
  have information := writable.isField_information.2
  have covered := writable.covered.2
  have id := writable.isField.2
  rw [render_eq]
  constructor
  · simp [id.1, information.1, covered.1]
  · simp [id.2, information.2, covered.2]

theorem Writable.readLine_render (writable : entry.Writable text) {limit : Option Nat}
    (readable : ∀ most ∈ limit, (Text.decimal text.length).length ≤ most) {read : Text}
    (ended : Text.Ended (entry.render text) read) (source : Text) (number : Nat) :
    readLine limit source number read = .ok (some (entry, entry.covered text)) := by
  have fields : Text.fields '\t' (entry.render text) =
      [entry.id, entry.information, entry.covered text] := by
    rw [render_eq, Text.fields_cons writable.isField.1,
      Text.fields_cons writable.isField_information.1,
      Text.fields_of_not_mem writable.covered.1]
  have cut : Text.cut ' ' entry.information =
      some (entry.category.render, writtenRanges entry.ranges) :=
    Text.cut_append (writable.category.not_mem_render rfl (by decide)) _
  have begins : (entry.render text).head? = some 'T' := by
    rw [render_eq, List.head?_append, writable.begins, Option.some_or]
  have short : overlong? limit (writtenRanges entry.ranges) = none :=
    overlong?_writtenRanges writable.nonempty readable fun range member =>
      ⟨Nat.le_trans (writable.within range member).1 (writable.within range member).2,
        (writable.within range member).2⟩
  simp only [readLine, Text.chomp_of_ended writable.unbroken_render ended, begins, fields, cut,
    ranges?_writtenRanges writable.nonempty, writable.category.parse?_render, short,
    ne_eq, not_true, if_false]

/-! ## Annotations as spans -/

/-- A span over ranges of the text: an entity over the only range, or a group with a member
for each range, from the least start to the greatest end. -/
def Over (ranges : List (Nat × Nat)) (span : Span) : Prop :=
  match ranges with
  | [(start, stop)] =>
      span.start = start ∧ span.stop = stop ∧
        span.role = .entity { source := EntityDetails.single }
  | ranges =>
      (ranges.map Prod.fst).min? = some span.start ∧
        (ranges.map Prod.snd).max? = some span.stop ∧
        span.role = .group (ranges.map fun range => { start := range.1, stop := range.2 })

structure Marks (entry : Entry) (span : Span) : Prop where
  label : span.label = some entry.category.type
  metadata : span.metadata = some (.record [("id".toList, .text entry.id),
    ("subcat".toList, .ofOptionalText entry.category.subcategory)])
  ranges : Over entry.ranges span

theorem make?_range {range : Nat × Nat} (inOrder : range.1 ≤ range.2)
    (inside : range.2 ≤ text.length) (label : Option Text) (role : Role Span)
    (metadata : Option Value) :
    Span.make? text range.1 range.2 label role metadata =
      .ok { start := range.1, stop := range.2, label, role, metadata } :=
  Span.make?_eq_ok_iff.mpr ⟨Int.natCast_nonneg _, Int.ofNat_le.mpr inOrder,
    Int.ofNat_le.mpr inside, rfl⟩

theorem group?_ranges (first : Nat × Nat) (others : List (Nat × Nat)) (label : Option Text)
    (metadata : Option Value) :
    ∃ group, Span.group? ((first :: others).map fun range =>
        { start := range.1, stop := range.2 }) label metadata = some group ∧
      group.label = label ∧ group.metadata = metadata ∧
      ((first :: others).map Prod.fst).min? = some group.start ∧
      ((first :: others).map Prod.snd).max? = some group.stop ∧
      group.role = .group ((first :: others).map fun range =>
        { start := range.1, stop := range.2 }) := by
  refine ⟨_, rfl, rfl, rfl, ?_, ?_, rfl⟩
  · simp only [List.map_cons, List.min?_cons', List.foldl_map]
  · simp only [List.map_cons, List.max?_cons', List.foldl_map]

/-- All pairs of offsets are in order and lie inside a text. -/
def Within (text : Text) (entry : Entry) : Prop :=
  ∀ range ∈ entry.ranges, range.1 ≤ range.2 ∧ range.2 ≤ text.length

theorem Within.exists_span (within : entry.Within text) (nonempty : entry.ranges ≠ []) :
    ∃ span, entry.span? text = .ok span ∧ entry.Marks span := by
  rcases entry with ⟨id, category, _ | ⟨first, _ | ⟨second, others⟩⟩⟩
  · exact absurd rfl nonempty
  · have within := within first List.mem_cons_self
    exact ⟨_, make?_range within.1 within.2 _ _ _, rfl, rfl, rfl, rfl, rfl⟩
  · have members : ((first :: second :: others).mapM fun range =>
        Span.make? text range.1 range.2) =
        .ok ((first :: second :: others).map fun range =>
          { start := range.1, stop := range.2 }) := by
      rw [Result.mapM_eq_ok_iff, List.forall₂_map_right_iff, List.forall₂_same]
      intro range member
      have within := within range member
      exact make?_range within.1 within.2 none .plain none
    rcases group?_ranges first (second :: others) category.type
      (metadata ⟨id, category, first :: second :: others⟩) with
      ⟨group, made, label, metadata, start, stop, role⟩
    refine ⟨group, ?_, label, metadata, start, stop, role⟩
    simp only [span?, members, bind, Except.bind, made]

theorem Writable.exists_span (writable : entry.Writable text) :
    ∃ span, entry.span? text = .ok span ∧ entry.Marks span :=
  Within.exists_span writable.within writable.nonempty

end Entry

/-! ## Lines of annotations among others -/

/-- The lines of annotations, and among them lines that begin differently. -/
inductive Interleaved (text : Text) : List Entry → List Text → Prop
  | none : Interleaved text [] []
  | entry {entry : Entry} {entries : List Entry} {lines : List Text}
      (later : Interleaved text entries lines) :
      Interleaved text (entry :: entries) (entry.render text :: lines)
  | other {line : Text} {entries : List Entry} {lines : List Text}
      (begins : line.head? ≠ some 'T') (unbroken : line.Unbroken)
      (later : Interleaved text entries lines) : Interleaved text entries (line :: lines)

section

variable {text : Text} {limit : Option Nat}

theorem readSpan_render {entry : Entry} (writable : entry.Writable text)
    (readable : ∀ most ∈ limit, (Text.decimal text.length).length ≤ most) {read : Text}
    (ended : Text.Ended (entry.render text) read) {span : Span}
    (made : entry.span? text = .ok span) (source : Text) (number : Nat) :
    readSpan limit text source number read = .ok (some span) := by
  simp only [readSpan, writable.readLine_render readable ended, made, if_true]

theorem readSpan_other {line read : Text} (begins : line.head? ≠ some 'T')
    (unbroken : line.Unbroken) (ended : Text.Ended line read) (source : Text) (number : Nat) :
    readSpan limit text source number read = .ok none := by
  simp only [readSpan, readLine, Text.chomp_of_ended unbroken ended, begins, ne_eq,
    not_false_eq_true, if_true]

theorem readSpansFrom_interleaved {entries : List Entry} {lines read : List Text}
    {spans : List Span} (writable : ∀ entry ∈ entries, entry.Writable text)
    (interleaved : Interleaved text entries lines)
    (ended : List.Forall₂ Text.Ended lines read)
    (readable : ∀ most ∈ limit, (Text.decimal text.length).length ≤ most)
    (made : List.Forall₂ (fun entry span => entry.span? text = .ok span) entries spans)
    (source : Text) (number : Nat) :
    readSpansFrom limit text source number read = .ok spans := by
  induction interleaved generalizing read spans number with
  | none =>
      cases ended
      cases made
      rfl
  | entry _ induction =>
      rw [List.forall_mem_cons] at writable
      rcases ended with _ | ⟨here, later⟩
      rcases made with _ | ⟨first, others⟩
      rw [readSpansFrom, readSpan_render writable.1 readable here first source number]
      simp only [induction writable.2 later others (number + 1), Except.map, Option.toList,
        List.singleton_append]
  | other begins unbroken _ induction =>
      rcases ended with _ | ⟨here, later⟩
      rw [readSpansFrom, readSpan_other begins unbroken here source number]
      simp only [induction writable later made (number + 1), Except.map, Option.toList,
        List.nil_append]

end

/-- Annotations are read back as they were written, in their order, whatever other lines
stand between them and however lines end, and a document has them as a sorted tier. No
number up to the length of the text may be too long to be read. -/
theorem annotations_restored {text : Text} {entries : List Entry} {lines : List Text}
    (writable : ∀ entry ∈ entries, entry.Writable text)
    (interleaved : Interleaved text entries lines) :
    ∃ spans, List.Forall₂ Entry.Marks entries spans ∧
      (∀ read source limit, List.Forall₂ Text.Ended lines read →
        (∀ most ∈ limit, (Text.decimal text.length).length ≤ most) →
        readSpans text read source limit = .ok (spans, .annotationsRead source spans.length)) ∧
      ∀ tree name language path annotationsPath annotations,
        FileTree.Stores tree path name text →
        FileTree.Stores tree annotationsPath name annotations →
        Text.HasLines lines annotations →
        (Text.decimal text.length).length ≤ digitLimit →
        ∃ tier, Tier.SortOf spans tier ∧
          load tree name language path annotationsPath =
            .ok ({ text, language, tiers := [("nes", tier)] },
              .annotationsRead annotationsPath spans.length) := by
  have each := fun entry member => (writable entry member).exists_span
  rcases List.exists_forall₂ each with ⟨spans, marked⟩
  have made := marked.imp fun _ _ known => known.1
  have readSpans_ended (read : List Text) (source : Text) (limit : Option Nat)
      (ended : List.Forall₂ Text.Ended lines read)
      (readable : ∀ most ∈ limit, (Text.decimal text.length).length ≤ most) :
      readSpans text read source limit =
        .ok (spans, .annotationsRead source spans.length) := by
    rw [readSpans, readSpansFrom_interleaved writable interleaved ended readable made source 1]
    rfl
  refine ⟨spans, marked.imp fun _ _ known => known.2, readSpans_ended, ?_⟩
  intro tree name language path annotationsPath annotations stored beside hasLines readable
  refine ⟨Tier.sort spans, Tier.sortOf_sort spans, ?_⟩
  have read := readSpans_ended _ annotationsPath (some digitLimit) hasLines.ended_lines
    (by simpa using readable)
  simp only [load, stored.wholeText, beside.lines, read, Except.mapError, bind, Except.bind]

/-- Parts out of order, a copy with a semicolon in it, an identifier with a space, a range of
no width, and every way to end a line. -/
theorem annotations_restored_among_notes :
    let text := "Real 1;2 Madrid".toList
    let parted : Entry := ⟨"T1".toList, ⟨"LOC".toList, some "city".toList⟩, [(9, 15), (0, 4)]⟩
    let short : Entry := ⟨"T 2".toList, ⟨"_x.".toList, none⟩, [(5, 8)]⟩
    let empty : Entry := ⟨"T".toList, ⟨"N-".toList, none⟩, [(4, 4)]⟩
    let annotations :=
      "R1\tx\r\nT1\tLOC:city 9 15;0 4\tMadrid Real\n\rT 2\t_x. 5 8\t1;2\r#\nT\tN- 4 4\t".toList
    let file (content : Text) : FileEntry :=
      .file (content.flatMap Encoding.utf8.encodeCharacter) false
    let tree : FileTree :=
      [(["a.txt".toList], file text), (["a.ann".toList], file annotations)]
    ∃ first second third tier,
      parted.Marks first ∧ (first.start, first.stop) = (0, 15) ∧
      short.Marks second ∧ (second.start, second.stop) = (5, 8) ∧
      empty.Marks third ∧ (third.start, third.stop) = (4, 4) ∧
      Tier.SortOf [first, second, third] tier ∧
      load tree "utf8".toList none "a.txt".toList "a.ann".toList =
        .ok ({ text, tiers := [("nes", tier)] }, .annotationsRead "a.ann".toList 3) := by
  intro text parted short empty annotations file tree
  have writable : ∀ entry ∈ [parted, short, empty], entry.Writable text := by
    simp only [List.forall_mem_cons, List.not_mem_nil, false_imp_iff, implies_true, and_true]
    refine ⟨⟨rfl, ?_, ⟨rfl, ?_⟩, ?_, ?_, ?_⟩, ⟨rfl, ?_, ⟨rfl, ?_⟩, ?_, ?_, ?_⟩,
      ⟨rfl, ?_, ⟨rfl, ?_⟩, ?_, ?_, ?_⟩⟩ <;> decide
  have interleaved : Interleaved text [parted, short, empty]
      ["R1\tx".toList, parted.render text, [], short.render text, ['#'], empty.render text] :=
    .other (by decide) (by decide) (.entry (.other (by decide) (by decide)
      (.entry (.other (by decide) (by decide) (.entry .none)))))
  have hasLines : Text.HasLines
      ["R1\tx".toList, parted.render text, [], short.render text, ['#'], empty.render text]
      annotations := by
    have last : Text.HasLines [empty.render text] (empty.render text) :=
      .unended (by decide) (by decide)
    have ends : annotations = "R1\tx".toList ++ ['\r', '\n'] ++ (parted.render text ++ ['\n'] ++
        ([] ++ ['\r'] ++ (short.render text ++ ['\r'] ++
          (['#'] ++ ['\n'] ++ empty.render text)))) := by decide
    rw [ends]
    exact .ended (by decide) (by decide) (by decide) (.ended (by decide) (by decide) (by decide)
      (.ended (by decide) (by decide) (by decide) (.ended (by decide) (by decide) (by decide)
        (.ended (by decide) (by decide) (by decide) last))))
  rcases annotations_restored writable interleaved with ⟨spans, marks, _, loaded⟩
  rcases loaded tree "utf8".toList none "a.txt".toList "a.ann".toList annotations
    ⟨.utf8, _, rfl, rfl, rfl⟩ ⟨.utf8, _, rfl, rfl, rfl⟩ hasLines (by decide) with
    ⟨tier, sortOf, loads⟩
  rcases marks with _ | ⟨first, _ | ⟨second, _ | ⟨third, _ | _⟩⟩⟩
  refine ⟨_, _, _, tier, first, ?_, second, ?_, third, ?_, sortOf, loads⟩
  · rcases first.ranges with ⟨start, stop, _⟩
    exact Prod.ext (Option.some.inj start).symm (Option.some.inj stop).symm
  · exact Prod.ext second.ranges.1 second.ranges.2.1
  · exact Prod.ext third.ranges.1 third.ranges.2.1

end TextBound

end Standoff
