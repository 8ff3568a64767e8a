import Standoff.Proofs.Annotate.Forms
import Standoff.Proofs.Annotate.Pipeline
import Standoff.Proofs.Annotate.Tagger
import Standoff.Proofs.Document

/-! Tiers are committed to a document all or nothing. An annotator that fails leaves the
document as it was, and one that succeeds changes only its own tiers, each of them to its
complete result. A tagger that has to have tokens and sentences made commits these first,
so that they stay when the tagging fails. -/

namespace Standoff

/-! ## Commitment -/

section

variable {σ ε : Type}

/-- An outcome that leaves a document as it was, or commits to it what has been made. -/
def AllOrNothing (document : Document) (Complete : Tiers → Prop) (outcome : Outcome σ ε Unit) :
    Prop :=
  match outcome.result with
  | .error _ => outcome.document = document
  | .ok () => ∃ made, Complete made ∧ Committed made document outcome.document

theorem allOrNothing_annotate {annotator : Annotator σ ε} {document base : Document} {state : σ}
    {Complete : Tiers → Prop} (keeps : (annotator document state).document = base)
    (completes : ∀ made, (annotator document state).result = .ok made →
      ∃ tiers, made = some tiers ∧ tiers.keys.Nodup ∧ Complete tiers) :
    AllOrNothing base Complete (document.annotate annotator state) := by
  unfold Document.annotate AllOrNothing
  rcases outcome : annotator document state with ⟨failure | made, after, final⟩
  · rw [outcome] at keeps
    exact keeps
  · rw [outcome] at keeps completes
    rcases completes made rfl with ⟨tiers, rfl, distinct, complete⟩
    subst keeps
    exact ⟨tiers, complete, after.committed_update distinct⟩

end

/-! ## Segmentation -/

theorem nodup_keys_segmentation (tokens sentences : Tier) :
    Dictionary.keys [("tokens", tokens), ("sentences", sentences)] |>.Nodup := by
  simp [Dictionary.keys]

namespace Pipeline

theorem allOrNothing (options : Options) (answer : Answer) (trouble : Option Text)
    (document : Document) (shelf : Shelf) :
    AllOrNothing document (Complete document.text answer trouble)
      (document.annotate (annotator options answer trouble) shelf) := by
  rcases annotator_cases options answer trouble document shelf with
    ⟨after, ⟨failure, failed⟩ | ⟨tokens, sentences, made, complete⟩⟩
  · apply allOrNothing_annotate
    · rw [failed]
    · rw [failed]
      exact nofun
  · apply allOrNothing_annotate
    · rw [made]
    · rw [made]
      rintro _ returned
      cases returned
      exact ⟨_, rfl, nodup_keys_segmentation tokens sentences, complete⟩

end Pipeline

namespace Forms.Segmenter

variable {μ : Type}

def Complete (segmenter : Segmenter μ) (surroundings : Surroundings μ) (document : Document)
    (state : State μ) (made : Tiers) : Prop :=
  ∃ model answer tokens sentences groups,
    (segmenter.model surroundings document state).1 = .ok model ∧
    surroundings.tokenize model (segmenter.zone document.text) = some answer ∧
    answer.trouble = none ∧ made = [("tokens", tokens), ("sentences", sentences)] ∧
    Faithful document.text (segmenter.lower document.text) (segmenter.upper document.text)
      answer.sentences tokens sentences groups

theorem document_annotator (segmenter : Segmenter μ) (surroundings : Surroundings μ)
    (document : Document) (state : State μ) :
    (segmenter.annotator surroundings document state).document = document := by
  unfold annotator
  rcases segmenter.model surroundings document state with ⟨failure | model, after⟩
  · rfl
  · simp only
    cases surroundings.tokenize model (segmenter.zone document.text) with
    | none => rfl
    | some answer =>
        simp only
        cases segmenter.align document.text answer <;> rfl

theorem complete_of_annotator {segmenter : Segmenter μ} {surroundings : Surroundings μ}
    {document : Document} {state : State μ} {made : Option Tiers}
    (returned : (segmenter.annotator surroundings document state).result = .ok made) :
    ∃ tiers, made = some tiers ∧ tiers.keys.Nodup ∧
      segmenter.Complete surroundings document state tiers := by
  rcases exists_align_of_annotator returned with ⟨model, answer, sentences, chosen, answered,
    aligned, rfl⟩
  exact ⟨tiersOf sentences, rfl, nodup_keys_segmentation _ _, model, answer, _, _, _, chosen,
    answered, trouble_of_align aligned, rfl, (laid_of_align aligned).faithful⟩

theorem allOrNothing (segmenter : Segmenter μ) (surroundings : Surroundings μ)
    (document : Document) (state : State μ) :
    AllOrNothing document (segmenter.Complete surroundings document state)
      (document.annotate (segmenter.annotator surroundings) state) :=
  allOrNothing_annotate (segmenter.document_annotator surroundings document state)
    fun _ => complete_of_annotator

end Forms.Segmenter

/-! ## Tagging -/

namespace Tagger

/-- The document that is tagged, or on which tagging fails. Tokens and sentences have been
made for it if one of these tiers was missing and the pipeline succeeded. -/
inductive StartsFrom (surroundings : Surroundings) (document : Document)
    (shelf : Pipeline.Shelf) : Document → Prop
  | there {tokens sentences : Tier} (tokensThere : document.tiers.get? "tokens" = some tokens)
      (sentencesThere : document.tiers.get? "sentences" = some sentences) :
      StartsFrom surroundings document shelf document
  | failed {failure : Failure}
      (missing : document.tiers.get? "tokens" = none ∨ document.tiers.get? "sentences" = none)
      (fails : (Pipeline.annotator {} surroundings.segmentation
        surroundings.segmentationTrouble document shelf).result = .error failure) :
      StartsFrom surroundings document shelf document
  | made {made : Tiers} {base : Document}
      (missing : document.tiers.get? "tokens" = none ∨ document.tiers.get? "sentences" = none)
      (returned : (Pipeline.annotator {} surroundings.segmentation
        surroundings.segmentationTrouble document shelf).result = .ok (some made))
      (complete : Pipeline.Complete document.text surroundings.segmentation
        surroundings.segmentationTrouble made)
      (committed : Committed made document base) : StartsFrom surroundings document shelf base

/-- One tag for each token of each sentence, from its own line of the tool's answers. -/
def Complete (tagger : Tagger) (surroundings : Surroundings) (document : Document)
    (made : Tiers) : Prop :=
  ∃ tokens sentences plan encoding tags, document.tiers.get? "tokens" = some tokens ∧
    document.tiers.get? "sentences" = some sentences ∧
    tagger.plan surroundings document.language = .ok plan ∧
    Encoding.named plan.encoding = .ok encoding ∧
    Framed encoding document.text (((Tier.group sentences tokens).map (·.2)).filter (· ≠ []))
      (LineStream.ofPieces encoding surroundings.program.failsAtEnd
        surroundings.program.output).answers tags ∧
    tags.length = ((Tier.group sentences tokens).map (·.2)).flatten.length ∧
    made = [("pos", pair plan.table ((Tier.group sentences tokens).map (·.2)).flatten tags)]

section

variable {tagger : Tagger} {surroundings : Surroundings} {document base : Document}
  {state : State} {shelf : Pipeline.Shelf} {tokens sentences : Tier}

theorem required_of_missing
    (missing : document.tiers.get? "tokens" = none ∨ document.tiers.get? "sentences" = none) :
    required surroundings document shelf =
      match document.annotate (Pipeline.annotator {} surroundings.segmentation
        surroundings.segmentationTrouble) shelf with
      | ⟨.error failure, document, shelf⟩ => ⟨.error (.annotator failure), document, shelf⟩
      | ⟨.ok (), document, shelf⟩ => Document.demand ["tokens", "sentences"] document shelf := by
  have absent : document.tiers? ["tokens", "sentences"] = none := by
    rcases missing with missing | missing
    · simp [Document.tiers?, missing]
    · cases tokensThere : document.tiers.get? "tokens" <;>
        simp [Document.tiers?, missing, tokensThere]
  unfold required Document.require
  rw [if_neg (by simp), absent]
  simp only
  generalize document.annotate (Pipeline.annotator {} surroundings.segmentation
    surroundings.segmentationTrouble) shelf = outcome
  rcases outcome with ⟨failure | ⟨⟩, after, final⟩ <;> rfl

theorem required_cases (surroundings : Surroundings) (document : Document)
    (shelf : Pipeline.Shelf) :
    ∃ base after, StartsFrom surroundings document shelf base ∧
      ((∃ error, required surroundings document shelf = ⟨.error error, base, after⟩) ∨
        ∃ tokens sentences,
          required surroundings document shelf = ⟨.ok [tokens, sentences], base, after⟩ ∧
          base.tiers.get? "tokens" = some tokens ∧
          base.tiers.get? "sentences" = some sentences) := by
  by_cases missing : document.tiers.get? "tokens" = none ∨ document.tiers.get? "sentences" = none
  · rw [required_of_missing missing, Document.annotate]
    rcases Pipeline.annotator_cases {} surroundings.segmentation
      surroundings.segmentationTrouble document shelf with
      ⟨after, ⟨failure, failed⟩ | ⟨tokens, sentences, made, complete⟩⟩
    · have fails := congrArg Outcome.result failed
      rw [failed]
      exact ⟨document, after, .failed missing fails, Or.inl ⟨_, rfl⟩⟩
    · have committed :=
        document.committed_update (nodup_keys_segmentation tokens sentences)
      have tokensThere := committed.tiers "tokens"
      have sentencesThere := committed.tiers "sentences"
      have returned := congrArg Outcome.result made
      rw [made]
      refine ⟨_, after, .made missing returned complete committed, Or.inr ⟨tokens, sentences, ?_,
        tokensThere, sentencesThere⟩⟩
      simp only [Document.demand, tiers?_of_there tokensThere sentencesThere]
  · simp only [not_or, ← ne_eq, Option.ne_none_iff_exists'] at missing
    rcases missing with ⟨⟨tokens, tokensThere⟩, ⟨sentences, sentencesThere⟩⟩
    exact ⟨document, shelf, .there tokensThere sentencesThere, Or.inr ⟨tokens, sentences,
      required_of_there surroundings tokensThere sentencesThere shelf, tokensThere,
      sentencesThere⟩⟩

theorem document_annotator {base : Document} {after : Pipeline.Shelf}
    (found : required surroundings document state.shelf =
      ⟨.ok [tokens, sentences], base, after⟩) :
    (tagger.annotator surroundings document state).document = base := by
  rw [annotator_of_required found]
  cases tagger.plan surroundings base.language <;> rfl

theorem complete_of_annotator (tokensThere : document.tiers.get? "tokens" = some tokens)
    (sentencesThere : document.tiers.get? "sentences" = some sentences) {made : Option Tiers}
    (returned : (tagger.annotator surroundings document state).result = .ok made) :
    ∃ tiers, made = some tiers ∧ tiers.keys.Nodup ∧
      tagger.Complete surroundings document tiers := by
  rcases framed_of_annotator tokensThere sentencesThere returned with
    ⟨plan, encoding, tags, planned, known, framed, rfl⟩
  have count := framed.length_eq
  rw [List.flatten_filter_ne_nil] at count
  exact ⟨_, rfl, by simp [Dictionary.keys], tokens, sentences, plan, encoding, tags,
    tokensThere, sentencesThere, planned, known, framed, count, rfl⟩

theorem annotator_eq_of_required {base : Document} {after : Pipeline.Shelf}
    (found : required surroundings document state.shelf =
      ⟨.ok [tokens, sentences], base, after⟩)
    (tokensThere : base.tiers.get? "tokens" = some tokens)
    (sentencesThere : base.tiers.get? "sentences" = some sentences) :
    tagger.annotator surroundings document state =
      tagger.annotator surroundings base { state with shelf := after } := by
  rw [annotator_of_required found,
    annotator_of_required (required_of_there surroundings tokensThere sentencesThere _)]

theorem allOrNothing (tagger : Tagger) (surroundings : Surroundings) (document : Document)
    (state : State) :
    ∃ base, StartsFrom surroundings document state.shelf base ∧
      AllOrNothing base (tagger.Complete surroundings base)
        (document.annotate (tagger.annotator surroundings) state) := by
  rcases required_cases surroundings document state.shelf with
    ⟨base, after, starts, ⟨error, failed⟩ |
      ⟨tokens, sentences, found, tokensThere, sentencesThere⟩⟩
  · have fails : tagger.annotator surroundings document state =
        ⟨.error (.ofRequire error), base, { state with shelf := after }⟩ :=
      annotator_of_unavailable failed
    refine ⟨base, starts, allOrNothing_annotate ?_ ?_⟩
    · rw [fails]
    · rw [fails]
      exact nofun
  · refine ⟨base, starts, allOrNothing_annotate (document_annotator found) fun made returned => ?_⟩
    rw [annotator_eq_of_required found tokensThere sentencesThere] at returned
    exact complete_of_annotator tokensThere sentencesThere returned

end

end Tagger

/-! ## All annotators -/

/-- Whatever the tools answer, in whatever pieces, and wherever they break off, no annotator
leaves a part of its tiers in a document. A tagger's tool is spoken to in one of the three
encodings of `Encoding`. -/
theorem tiers_committed_all_or_nothing :
    (∀ (options : Pipeline.Options) (answer : Pipeline.Answer) (trouble : Option Text)
        (document : Document) (shelf : Pipeline.Shelf),
      AllOrNothing document (Pipeline.Complete document.text answer trouble)
        (document.annotate (Pipeline.annotator options answer trouble) shelf)) ∧
    (∀ (μ : Type) (segmenter : Forms.Segmenter μ) (surroundings : Forms.Surroundings μ)
        (document : Document) (state : Forms.State μ),
      AllOrNothing document (segmenter.Complete surroundings document state)
        (document.annotate (segmenter.annotator surroundings) state)) ∧
    ∀ (tagger : Tagger) (surroundings : Tagger.Surroundings) (document : Document)
        (state : Tagger.State),
      ∃ base, Tagger.StartsFrom surroundings document state.shelf base ∧
        AllOrNothing base (tagger.Complete surroundings base)
          (document.annotate (tagger.annotator surroundings) state) :=
  ⟨Pipeline.allOrNothing, fun _ => Forms.Segmenter.allOrNothing, Tagger.allOrNothing⟩

/-- Tokens and sentences stay although there is no model to tag with. -/
example :
    let tagger : Tagger := {
      options := {}
      choice := { template := some ['m'], language := some "en".toList }
      table := none }
    let surroundings : Tagger.Surroundings := {
      files := []
      directory := []
      segmentation := [[⟨0, "Hi".toList⟩]] }
    let document : Document := { text := "Hi".toList }
    let outcome := document.annotate (tagger.annotator surroundings) {}
    outcome.result = .error (.noTaggerModel ['m']) ∧
      outcome.document.tiers.keys = ["tokens", "sentences"] := by
  constructor <;> rfl

end Standoff
