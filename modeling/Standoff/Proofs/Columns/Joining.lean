import Standoff.Proofs.Columns.Isolation
import Standoff.Proofs.Columns.Lines

/-! Corpora one behind the other. What a sentence contributes to a document is the same
wherever the sentence stands, but for its offset. So a corpus in two parts makes the
documents of its parts, the second one set behind the text of the first. -/

namespace Standoff

/-! ## Spans further on -/

/-- The same span a distance further on in a text. -/
def Span.shift (distance : Nat) (span : Span) : Span :=
  { span with start := distance + span.start, stop := distance + span.stop }

namespace Span

theorem map_shift_zero (spans : List Span) : spans.map (shift 0) = spans := by
  have same : shift 0 = id := by
    funext span
    cases span
    simp only [shift, Nat.zero_add, id_eq]
  rw [same, List.map_id]

theorem shift_tokenAt (distance offset : Nat) (form : Text) :
    (tokenAt offset form).shift distance = tokenAt (distance + offset) form := by
  simp only [shift, tokenAt, Nat.add_assoc]

end Span

namespace Segment

variable {text longer : Text} {tokens entities : List Span} {segment : Segment} {entity : Span}
  {distance : Nat}

theorem Makes.shift (makes : Makes tokens segment entity) (distance : Nat) :
    Makes (tokens.map (Span.shift distance)) segment (entity.shift distance) := by
  rcases makes.start with ⟨first, foundFirst, start⟩
  rcases makes.stop with ⟨last, foundLast, stop⟩
  refine ⟨⟨first.shift distance, ?_, ?_⟩, ⟨last.shift distance, ?_, ?_⟩, makes.label,
    makes.metadata, makes.role⟩
  · rw [List.getElem?_map, foundFirst, Option.map_some]
  · exact congrArg (distance + ·) start
  · rw [List.getElem?_map, foundLast, Option.map_some]
  · exact congrArg (distance + ·) stop

theorem entity?_shift (fits : distance + text.length ≤ longer.length)
    (made : entity? text tokens segment = .ok entity) :
    entity? longer (tokens.map (Span.shift distance)) segment = .ok (entity.shift distance) := by
  rcases makes_of_entity? made with ⟨makes, within⟩
  refine entity?_of_makes (makes.shift distance) ?_
  have inOrder := within.1
  have inside := within.2
  constructor <;> simp only [Span.shift] <;> omega

/-- Tokens further on in a text that has room for them are parts of the same entities. -/
theorem entities_shift {cells : List (Option Text)}
    (fits : distance + text.length ≤ longer.length)
    (read : Segment.entities text tokens cells = .ok entities) :
    Segment.entities longer (tokens.map (Span.shift distance)) cells =
      .ok (entities.map (Span.shift distance)) := by
  rcases entities_eq_ok_iff.mp read with ⟨count, tags, written, made⟩
  refine entities_eq_ok_iff.mpr ⟨(List.length_map _).trans count, tags, written, ?_⟩
  rw [List.forall₂_map_right_iff]
  exact made.imp fun _ _ => entity?_shift fits

end Segment

namespace Columns

/-! ## Sentences behind others -/

theorem tokensFrom_shift (distance offset : Nat) (sentence : Sentence) :
    tokensFrom (distance + offset) sentence =
      (tokensFrom offset sentence).map (Span.shift distance) := by
  induction sentence generalizing offset with
  | nil => rfl
  | cons word rest induction =>
      rw [tokensFrom, tokensFrom, List.map_cons, Span.shift_tokenAt, ← induction]
      simp only [Nat.add_assoc]

theorem sentenceAt_shift {sentence : Sentence} (nonempty : sentence ≠ [])
    (distance offset : Nat) :
    sentenceAt (distance + offset) sentence = (sentenceAt offset sentence).shift distance := by
  have positive := lineText_pos nonempty
  simp only [sentenceAt, Span.shift, Span.mk.injEq, true_and, and_true]
  omega

theorem Decoded.shift {text longer : Text} {tokens entities : Tier} {cells : List (Option Text)}
    {distance : Nat} (decoded : Decoded text tokens cells entities)
    (fits : distance + text.length ≤ longer.length) :
    Decoded longer (tokens.map (Span.shift distance)) cells
      (entities.map (Span.shift distance)) where
  read readable := Segment.entities_shift fits (decoded.read readable)
  dropped unreadable := by rw [decoded.dropped unreadable, List.map_nil]

def Place.behind (front : List Sentence) (place : Place) : Place :=
  ⟨front.length + place.index, (corpusText front).length + place.offset, place.sentence⟩

theorem Place.map_behind_nil (places : List Place) : places.map (Place.behind []) = places := by
  have same : Place.behind [] = id := by
    funext place
    simp [Place.behind, corpusText]
  rw [same, List.map_id]

theorem placesFrom_behind (front : List Sentence) (index offset : Nat)
    (sentences : List Sentence) :
    placesFrom (front.length + index) ((corpusText front).length + offset) sentences =
      (placesFrom index offset sentences).map (Place.behind front) := by
  induction sentences generalizing index offset with
  | nil => rfl
  | cons sentence rest induction =>
      rw [placesFrom, placesFrom, List.map_cons, ← induction, Place.behind]
      simp only [Nat.add_assoc]

theorem placesFrom_append (index offset : Nat) (front back : List Sentence) :
    placesFrom index offset (front ++ back) = placesFrom index offset front ++
      placesFrom (index + front.length) (offset + (corpusText front).length) back := by
  induction front generalizing index offset with
  | nil => rfl
  | cons sentence rest induction =>
      simp only [List.cons_append, placesFrom, induction, corpusText, List.flatMap_cons,
        List.length_append, List.length_cons, Nat.add_assoc, Nat.add_comm 1]

theorem places_append (front back : List Sentence) :
    placesFrom 0 0 (front ++ back) =
      placesFrom 0 0 front ++ (placesFrom 0 0 back).map (Place.behind front) := by
  rw [placesFrom_append, Nat.zero_add, Nat.zero_add]
  exact congrArg (placesFrom 0 0 front ++ ·) (placesFrom_behind front 0 0 back)

/-! ## Tiers by their parts -/

/-- What each sentence contributes to a tier, by the names of the tiers. -/
def parts (options : Options) : Dictionary String (Annotated → Tier) :=
  [("tokens", (·.tokens)), ("sentences", fun one => [one.sentence])] ++
    ([Column.outer, Column.embedded].filter (·.wanted options)).map fun column =>
      (column.tierName, column.entities)

theorem tiersOf_eq (options : Options) (annotated : List Annotated) :
    tiersOf options annotated =
      (parts options).map fun part => (part.1, annotated.flatMap part.2) := by
  cases options with
  | mk separator comments language entities embedded =>
      rw [tiersOf, List.map_eq_flatMap]
      cases entities <;> cases embedded <;> rfl

theorem get?_tiersOf (options : Options) (annotated : List Annotated) (name : String) :
    (tiersOf options annotated).get? name =
      ((parts options).get? name).map fun part => annotated.flatMap part := by
  rw [tiersOf_eq]
  exact Dictionary.get?_map (fun part => annotated.flatMap part) (parts options) name

theorem keys_tiersOf (options : Options) (annotated : List Annotated) :
    (tiersOf options annotated).keys = (parts options).keys := by
  rw [tiersOf_eq, Dictionary.keys, List.map_map]
  rfl

theorem part_shift {options : Options} {text longer source otherSource : Text} {place : Place}
    {front : List Sentence} {one other : Annotated} (nonempty : place.sentence ≠ [])
    (fits : (corpusText front).length + text.length ≤ longer.length)
    (reads : Reads options text source place one)
    (readsBehind : Reads options longer otherSource (place.behind front) other) :
    ∀ part ∈ parts options,
      part.2 other = (part.2 one).map (Span.shift (corpusText front).length) := by
  have tokens : other.tokens = one.tokens.map (Span.shift (corpusText front).length) := by
    rw [readsBehind.tokens, reads.tokens]
    exact tokensFrom_shift _ _ _
  have sentence : other.sentence = one.sentence.shift (corpusText front).length := by
    rw [readsBehind.sentence, reads.sentence]
    exact sentenceAt_shift nonempty _ _
  intro part member
  rcases List.mem_append.mp member with inFixed | inColumns
  · simp only [List.mem_cons, List.not_mem_nil, or_false] at inFixed
    rcases inFixed with rfl | rfl
    · exact tokens
    · exact congrArg ([·]) sentence
  · rcases List.mem_map.mp inColumns with ⟨column, inWanted, rfl⟩
    have wanted := List.of_mem_filter inWanted
    have decoded := readsBehind.decoded wanted
    rw [tokens] at decoded
    exact decoded.unique ((reads.decoded wanted).shift fits)

section

variable {options : Options} {text longer source otherSource : Text} {places : List Place}
  {front : List Sentence} {annotated others : List Annotated}

theorem flatMap_shift (nonempty : ∀ place ∈ places, place.sentence ≠ [])
    (fits : (corpusText front).length + text.length ≤ longer.length)
    (all : List.Forall₂ (Reads options text source) places annotated)
    (behind : List.Forall₂ (Reads options longer otherSource)
      (places.map (Place.behind front)) others) :
    ∀ part ∈ parts options, others.flatMap part.2 =
      (annotated.flatMap part.2).map (Span.shift (corpusText front).length) := by
  intro part member
  induction all generalizing others with
  | nil =>
      cases behind
      rfl
  | cons here _ induction =>
      cases behind with
      | cons there later =>
          rw [List.forall_mem_cons] at nonempty
          rw [List.flatMap_cons, List.flatMap_cons, List.map_append,
            part_shift nonempty.1 fits here there part member, induction nonempty.2 later]

/-- What sentences contribute does not depend on the text behind them. -/
theorem flatMap_unchanged (nonempty : ∀ place ∈ places, place.sentence ≠ [])
    (fits : text.length ≤ longer.length)
    (all : List.Forall₂ (Reads options text source) places annotated)
    (othersAll : List.Forall₂ (Reads options longer otherSource) places others) :
    ∀ part ∈ parts options, others.flatMap part.2 = annotated.flatMap part.2 := by
  rw [← Place.map_behind_nil places] at othersAll
  intro part member
  rw [flatMap_shift nonempty (by simpa [corpusText] using fits) all othersAll part member]
  exact Span.map_shift_zero _

end

/-! ## Documents -/

def document? (result : Except Error (Document × List Notice)) : Option Document :=
  result.toOption.map (·.1)

theorem document?_eq_some_iff {result : Except Error (Document × List Notice)}
    {document : Document} :
    document? result = some document ↔ ∃ notices, result = .ok (document, notices) := by
  cases result <;> simp [document?, Except.toOption, Prod.ext_iff]

theorem document?_readLines (options : Options) (lines : List Text) (source : Text) :
    document? (readLines options lines source) =
      (sentences? options lines).bind fun sentences =>
        document? (documentOf options source sentences) := by
  rw [readLines, ← toOption_readSentences options source]
  cases readSentences options source lines <;> rfl

theorem nonempty_of_sentences? {options : Options} {lines : List Text}
    {sentences : List Sentence} (found : sentences? options lines = some sentences) :
    ∀ sentence ∈ sentences, sentence ≠ [] := by
  rw [← toOption_readSentences options noSource] at found
  cases split : readSentences options noSource lines with
  | error error =>
      rw [split] at found
      cases found
  | ok read =>
      rw [split] at found
      cases found
      exact nonempty_of_readSentences split

theorem exists_sentences {options : Options} {lines : List Text} {source : Text}
    {document : Document} (read : document? (readLines options lines source) = some document) :
    ∃ sentences notices, sentences? options lines = some sentences ∧
      (∀ sentence ∈ sentences, sentence ≠ []) ∧
      documentOf options source sentences = .ok (document, notices) := by
  rw [document?_readLines] at read
  rcases Option.bind_eq_some_iff.mp read with ⟨sentences, found, made⟩
  rcases document?_eq_some_iff.mp made with ⟨notices, made⟩
  exact ⟨sentences, notices, found, nonempty_of_sentences? found, made⟩

theorem isSome_document?_readLines (options : Options) (lines : List Text) (source : Text) :
    (document? (readLines options lines source)).isSome = (sentences? options lines).isSome := by
  rw [document?_readLines]
  cases found : sentences? options lines with
  | none => rfl
  | some sentences =>
      rcases @exists_documentOf options source sentences (nonempty_of_sentences? found) with
        ⟨document, notices, made⟩
      rw [Option.bind_some, made]
      rfl

theorem document_of_documentOf {options : Options} {source : Text} {sentences : List Sentence}
    {document : Document} {notices : List Notice}
    (made : documentOf options source sentences = .ok (document, notices)) :
    document = {
      text := corpusText sentences
      language := options.language
      tiers := document.tiers } := by
  rcases Result.bind_eq_ok_iff.mp made with ⟨annotated, _, returned⟩
  cases returned
  rfl

theorem text_of_documentOf {options : Options} {source : Text} {sentences : List Sentence}
    {document : Document} {notices : List Notice}
    (made : documentOf options source sentences = .ok (document, notices)) :
    document.text = corpusText sentences :=
  congrArg Document.text (document_of_documentOf made)

theorem nonempty_of_places {sentences : List Sentence}
    (nonempty : ∀ sentence ∈ sentences, sentence ≠ []) :
    ∀ place ∈ placesFrom 0 0 sentences, place.sentence ≠ [] :=
  fun _ member => nonempty _ (sentence_mem_of_place member)

/-- A document with the text and the tiers of two others, the second set behind the first. -/
structure Joined (first second document : Document) : Prop where
  text : document.text = first.text ++ second.text
  names : document.tiers.keys = first.tiers.keys ∧ document.tiers.keys = second.tiers.keys
  tiers : ∀ (name : String) (tier : Tier), document.tiers.get? name = some tier →
    ∃ before behind, first.tiers.get? name = some before ∧
      second.tiers.get? name = some behind ∧
      tier = before ++ behind.map (Span.shift first.text.length)

theorem joined_of_documentOf {options : Options} {front back : List Sentence}
    {first second document : Document} {firstSource secondSource source : Text}
    {firstNotices secondNotices notices : List Notice}
    (frontNonempty : ∀ sentence ∈ front, sentence ≠ [])
    (backNonempty : ∀ sentence ∈ back, sentence ≠ [])
    (firstMade : documentOf options firstSource front = .ok (first, firstNotices))
    (secondMade : documentOf options secondSource back = .ok (second, secondNotices))
    (made : documentOf options source (front ++ back) = .ok (document, notices)) :
    Joined first second document := by
  rcases reads_of_documentOf frontNonempty firstMade with ⟨firstRead, firstAll, firstTiers, _⟩
  rcases reads_of_documentOf backNonempty secondMade with ⟨secondRead, secondAll, secondTiers, _⟩
  rcases reads_of_documentOf (List.forall_mem_append.mpr ⟨frontNonempty, backNonempty⟩) made with
    ⟨read, all, tiers, _⟩
  rw [places_append] at all
  rcases List.exists_append_of_forall₂ all with ⟨before, behind, rfl, beforeAll, behindAll⟩
  have frontText := text_of_documentOf firstMade
  have text : document.text = first.text ++ second.text := by
    rw [text_of_documentOf made, frontText, text_of_documentOf secondMade]
    exact List.flatMap_append
  have fits : first.text.length + second.text.length ≤ document.text.length := by
    rw [text, List.length_append]
  have unchanged : ∀ part ∈ parts options, before.flatMap part.2 = firstRead.flatMap part.2 :=
    flatMap_unchanged (nonempty_of_places frontNonempty) (by omega) firstAll beforeAll
  have shifted : ∀ part ∈ parts options, behind.flatMap part.2 =
      (secondRead.flatMap part.2).map (Span.shift first.text.length) := by
    rw [frontText] at fits ⊢
    exact flatMap_shift (nonempty_of_places backNonempty) fits secondAll behindAll
  refine ⟨text, ?_, ?_⟩
  · rw [tiers, firstTiers, secondTiers, keys_tiersOf, keys_tiersOf, keys_tiersOf]
    exact ⟨rfl, rfl⟩
  · intro name tier found
    rw [tiers, get?_tiersOf] at found
    rcases Option.map_eq_some_iff.mp found with ⟨part, foundPart, rfl⟩
    have member := Dictionary.mem_of_get? foundPart
    refine ⟨firstRead.flatMap part, secondRead.flatMap part, ?_, ?_, ?_⟩
    · rw [firstTiers, get?_tiersOf, foundPart, Option.map_some]
    · rw [secondTiers, get?_tiersOf, foundPart, Option.map_some]
    · rw [List.flatMap_append, unchanged _ member, shifted _ member]

/-- A blank line parts a corpus. What is on both sides of it must be in format, and makes up
the whole document side by side. -/
theorem readLines_append_blank (options : Options) (front back : List Text) {blank : Text}
    (isBlank : Text.isBlank blank) (source frontSource backSource : Text) :
    ((document? (readLines options (front ++ blank :: back) source)).isSome ↔
      (document? (readLines options front frontSource)).isSome ∧
      (document? (readLines options back backSource)).isSome) ∧
    ∀ first second document,
      document? (readLines options front frontSource) = some first →
      document? (readLines options back backSource) = some second →
      document? (readLines options (front ++ blank :: back) source) = some document →
      Joined first second document := by
  constructor
  · rw [isSome_document?_readLines, isSome_document?_readLines, isSome_document?_readLines,
      sentences?_append_blank front back isBlank]
    cases sentences? options front <;> cases sentences? options back <;> simp
  · intro first second document firstRead secondRead read
    rcases exists_sentences firstRead with ⟨before, _, foundBefore, beforeNonempty, firstMade⟩
    rcases exists_sentences secondRead with ⟨behind, _, foundBehind, behindNonempty, secondMade⟩
    rcases exists_sentences read with ⟨sentences, _, found, _, made⟩
    rw [sentences?_append_blank front back isBlank, foundBefore, foundBehind] at found
    cases found
    exact joined_of_documentOf beforeNonempty behindNonempty firstMade secondMade made

/-- An entity that only goes on behind the blank line is one of its own there. -/
theorem readLines_append_blank_in_entity :
    ∃ first second document : Document, ∃ before behind : Tier,
      document? (readLines {} ["Del B-PER\n".toList]) = some first ∧
      document? (readLines {} ["\n".toList, "Bosque I-PER".toList]) = some second ∧
      document? (readLines {} ["Del B-PER\n".toList, " \r\n".toList, "\n".toList,
        "Bosque I-PER".toList]) = some document ∧
      document.text = "Del \nBosque \n".toList ∧
      first.tiers.get? "nes" = some before ∧ before.length = 1 ∧
      second.tiers.get? "nes" = some behind ∧ behind.length = 1 ∧
      document.tiers.get? "nes" = some (before ++ behind.map (Span.shift 5)) := by
  have joins := readLines_append_blank {} ["Del B-PER\n".toList]
    ["\n".toList, "Bosque I-PER".toList] (show Text.isBlank " \r\n".toList by decide)
    noSource noSource noSource
  have joined := joins.2 _ _ _ rfl rfl rfl
  rcases joined.tiers "nes" _ rfl with ⟨before, behind, foundBefore, foundBehind, same⟩
  cases foundBefore
  cases foundBehind
  exact ⟨_, _, _, _, _, rfl, rfl, rfl, joined.text, rfl, rfl, rfl, rfl, congrArg some same⟩

end Columns

end Standoff
