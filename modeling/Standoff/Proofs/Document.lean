import Standoff.Document
import Standoff.Proofs.List
import Standoff.Proofs.Result

/-! Tiers of a document. A request for tiers is answered from the document if they are all
there. Otherwise an annotator is run once, and what it makes is put into the document before
the request is answered or refused. -/

namespace Standoff

/-! ## Putting tiers into a document -/

/-- Tiers that have been put in the place of those of the same names. Nothing else in the
document is different. -/
structure Committed (made : Tiers) (document after : Document) : Prop where
  text : after.text = document.text
  date : after.date = document.date
  language : after.language = document.language
  tiers : ∀ name, after.tiers.get? name = (made.get? name).or (document.tiers.get? name)

theorem Document.committed_update (document : Document) {made : Tiers}
    (distinct : made.keys.Nodup) : Committed made document (document.update made) :=
  ⟨rfl, rfl, rfl, Dictionary.get?_update document.tiers distinct⟩

/-- An annotator that counts its runs. -/
def Annotator.counting {σ ε : Type} (annotator : Annotator σ ε) : Annotator (σ × Nat) ε :=
  fun document state =>
    let outcome := annotator document state.1
    ⟨outcome.result, outcome.document, (outcome.state, state.2 + 1)⟩

namespace Document

/-! ## Looking up several tiers -/

def Has (document : Document) (names : List String) (tiers : List Tier) : Prop :=
  List.Forall₂ (fun name tier => document.tiers.get? name = some tier) names tiers

def Lacks (document : Document) (names : List String) : Prop :=
  ∃ name ∈ names, document.tiers.get? name = none

variable {document : Document} {names : List String} {tiers : List Tier}

theorem tiers?_eq_some_iff : document.tiers? names = some tiers ↔ document.Has names tiers :=
  Result.mapM_eq_some_iff

theorem tiers?_eq_none_iff : document.tiers? names = none ↔ document.Lacks names := by
  constructor
  · intro absent
    by_contra complete
    have each : ∀ name ∈ names, ∃ tier, document.tiers.get? name = some tier := by
      intro name member
      rw [← Option.ne_none_iff_exists']
      exact fun missing => complete ⟨name, member, missing⟩
    rcases List.exists_forall₂ each with ⟨tiers, has⟩
    cases absent.symm.trans (tiers?_eq_some_iff.mpr has)
  · rintro ⟨name, member, missing⟩
    rw [← Option.not_isSome_iff_eq_none, Option.isSome_iff_exists]
    rintro ⟨tiers, found⟩
    rcases List.exists_right_of_forall₂ (tiers?_eq_some_iff.mp found) member with
      ⟨tier, _, there⟩
    cases missing.symm.trans there

theorem has_or_lacks (document : Document) (names : List String) :
    (∃ tiers, document.Has names tiers) ∨ document.Lacks names := by
  cases found : document.tiers? names with
  | some tiers => exact Or.inl ⟨tiers, tiers?_eq_some_iff.mp found⟩
  | none => exact Or.inr (tiers?_eq_none_iff.mp found)

theorem Has.not_lacks (has : document.Has names tiers) : ¬ document.Lacks names := by
  intro lacks
  cases (tiers?_eq_some_iff.mpr has).symm.trans (tiers?_eq_none_iff.mpr lacks)

/-! ## Requests -/

section

variable {σ ε : Type} {annotator : Option (Annotator σ ε)} {state : σ}

/-- A request is answered with the tiers that a document has, or refused with the names that
there are. -/
structure Answered (document : Document) (names : List String)
    (result : Except (RequireError ε) Requested) : Prop where
  found : ∀ tiers, document.Has names tiers → result = .ok (.ofTiers tiers)
  refused : document.Lacks names → result = .error (.missing document.tiers.keys)

/-- What becomes of a request, of the document and of the state in which annotators work. An
annotator leaves the document as it is, unless it extends it by itself. -/
inductive Supplied (document : Document) (names : List String) (state : σ) :
    Option (Annotator σ ε) → Outcome σ (RequireError ε) Requested → Prop
  | there {annotator : Option (Annotator σ ε)} {tiers : List Tier}
      (has : document.Has names tiers) :
      Supplied document names state annotator ⟨.ok (.ofTiers tiers), document, state⟩
  | refused (lacks : document.Lacks names) :
      Supplied document names state none
        ⟨.error (.missing document.tiers.keys), document, state⟩
  | failed {annotator : Annotator σ ε} {failure : ε} {left : Document} {after : σ}
      (lacks : document.Lacks names)
      (ran : annotator document state = ⟨.error failure, left, after⟩) :
      Supplied document names state (some annotator)
        ⟨.error (.annotator failure), left, after⟩
  | silent {annotator : Annotator σ ε} {left : Document} {after : σ}
      {result : Except (RequireError ε) Requested} (lacks : document.Lacks names)
      (ran : annotator document state = ⟨.ok none, left, after⟩)
      (answered : left.Answered names result) :
      Supplied document names state (some annotator) ⟨result, left, after⟩
  | made {annotator : Annotator σ ε} {made : Tiers} {left extended : Document} {after : σ}
      {result : Except (RequireError ε) Requested} (lacks : document.Lacks names)
      (ran : annotator document state = ⟨.ok (some made), left, after⟩)
      (committed : made.keys.Nodup → Committed made left extended)
      (answered : extended.Answered names result) :
      Supplied document names state (some annotator) ⟨result, extended, after⟩

theorem demand_answered (names : List String) (document : Document) (state : σ) :
    ∃ result : Except (RequireError ε) (List Tier),
      document.demand names state = ⟨result, document, state⟩ ∧
      document.Answered names (result.map .ofTiers) := by
  unfold demand
  cases found : document.tiers? names with
  | some tiers =>
      have has := tiers?_eq_some_iff.mp found
      refine ⟨_, rfl, fun other otherHas => ?_, fun lacks => absurd lacks has.not_lacks⟩
      obtain rfl := Option.some.inj (found.symm.trans (tiers?_eq_some_iff.mpr otherHas))
      rfl
  | none =>
      have lacks := tiers?_eq_none_iff.mp found
      exact ⟨_, rfl, fun _ has => absurd lacks has.not_lacks, fun _ => rfl⟩

theorem supplied_request (document : Document) (named : names ≠ [])
    (annotator : Option (Annotator σ ε)) (state : σ) :
    Supplied document names state annotator (document.request names annotator 0 state) := by
  unfold request require
  rw [if_neg (by simpa using named)]
  cases found : document.tiers? names with
  | some tiers => exact .there (tiers?_eq_some_iff.mp found)
  | none =>
      have lacks := tiers?_eq_none_iff.mp found
      cases annotator with
      | none =>
          rcases demand_answered (ε := ε) names document state with ⟨result, demanded, answered⟩
          simp only [demanded, answered.refused lacks]
          exact .refused lacks
      | some annotator =>
          rcases ran : annotator document state with ⟨failure | ⟨_ | made⟩, left, after⟩
          · simp only [annotate, ran]
            exact .failed lacks ran
          · rcases demand_answered (ε := ε) names left after with ⟨result, demanded, answered⟩
            simp only [annotate, ran, demanded]
            exact .silent lacks ran answered
          · rcases demand_answered (ε := ε) names (left.update made) after with
              ⟨result, demanded, answered⟩
            simp only [annotate, ran, demanded]
            exact .made lacks ran left.committed_update answered

theorem request_of_has (has : document.Has names tiers) (named : names ≠ [])
    (annotator : Option (Annotator σ ε)) (state : σ) :
    document.request names annotator 0 state = ⟨.ok (.ofTiers tiers), document, state⟩ := by
  unfold request require
  rw [if_neg (by simpa using named), tiers?_eq_some_iff.mpr has]
  rfl

theorem Answered.has {result : Except (RequireError ε) Requested} {found : Requested}
    (answered : document.Answered names result) (ok : result = .ok found) :
    ∃ tiers, document.Has names tiers ∧ found = .ofTiers tiers := by
  subst ok
  rcases document.has_or_lacks names with ⟨tiers, has⟩ | lacks
  · exact ⟨tiers, has, Except.ok.inj (answered.found tiers has)⟩
  · cases answered.refused lacks

theorem Supplied.has {outcome : Outcome σ (RequireError ε) Requested} {found : Requested}
    (supplied : Supplied document names state annotator outcome)
    (ok : outcome.result = .ok found) :
    ∃ tiers, outcome.document.Has names tiers ∧ found = .ofTiers tiers := by
  cases supplied with
  | there has => exact ⟨_, has, (Except.ok.inj ok).symm⟩
  | refused _ | failed _ _ => cases ok
  | silent _ _ answered | made _ _ _ answered => exact answered.has ok

theorem Supplied.document_of_answering {run : Annotator σ ε}
    {outcome : Outcome σ (RequireError ε) Requested}
    (supplied : Supplied document names state (some run) outcome)
    (answering : (run document state).document = document) :
    outcome.document = document ∨ ∃ made, (run document state).result = .ok (some made) ∧
      (made.keys.Nodup → Committed made document outcome.document) := by
  cases supplied with
  | there _ => exact Or.inl rfl
  | failed _ ran | silent _ ran _ =>
      rw [ran] at answering
      exact Or.inl answering
  | made _ ran committed _ =>
      rw [ran] at answering ⊢
      obtain rfl : _ = document := answering
      exact Or.inr ⟨_, rfl, committed⟩

theorem Supplied.runs {outcome : Outcome (σ × Nat) (RequireError ε) Requested} {count : Nat}
    (supplied : Supplied document names (state, count) (annotator.map Annotator.counting) outcome) :
    (∀ tiers, document.Has names tiers → outcome.state.2 = count) ∧
    (document.Lacks names → outcome.state.2 = count + annotator.toList.length) := by
  cases annotator with
  | none =>
      cases supplied with
      | there _ | refused _ => exact ⟨fun _ _ => rfl, fun _ => rfl⟩
  | some annotator =>
      generalize counted : (some annotator).map Annotator.counting = counted at supplied
      cases supplied with
      | there has => exact ⟨fun _ _ => rfl, fun lacks => absurd lacks has.not_lacks⟩
      | refused _ => cases counted
      | failed lacks ran | silent lacks ran _ | made lacks ran _ _ =>
          refine ⟨fun _ has => absurd lacks has.not_lacks, fun _ => ?_⟩
          cases counted
          exact congrArg (·.state.2) ran.symm

/-- A request gets the tiers that the document has. If one is missing, the annotator is run,
once, and what it returns is put into the document, of which nothing else changes. A request
that has been answered is answered again in the same way without an annotator. -/
theorem request_supplies (document : Document) (named : names ≠ [])
    (annotator : Option (Annotator σ ε)) (state : σ) :
    let outcome := document.request names annotator 0 state
    let runs := (document.request names (annotator.map Annotator.counting) 0 (state, 0)).state.2
    Supplied document names state annotator outcome ∧
    (∀ tiers, document.Has names tiers → runs = 0) ∧
    (document.Lacks names → runs = annotator.toList.length) ∧
    (∀ run, annotator = some run → (run document state).document = document →
      outcome.document = document ∨ ∃ made, (run document state).result = .ok (some made) ∧
        (made.keys.Nodup → Committed made document outcome.document)) ∧
    ∀ found, outcome.result = .ok found → ∀ (other : Option (Annotator σ ε)) (later : σ),
      outcome.document.request names other 0 later = ⟨.ok found, outcome.document, later⟩ := by
  intro outcome runs
  have supplied : Supplied document names state annotator outcome :=
    supplied_request document named annotator state
  have counted := (supplied_request document named (annotator.map Annotator.counting) (state, 0)).runs
  rw [Nat.zero_add] at counted
  refine ⟨supplied, counted.1, counted.2, ?_, ?_⟩
  · rintro run rfl answering
    exact supplied.document_of_answering answering
  · intro found ok other later
    rcases supplied.has ok with ⟨tiers, has, rfl⟩
    exact request_of_has has named other later

end

/-- An annotator makes the missing sentences, and with them tokens in the place of those that
there are. An empty tier is not missing, and the order is that of the request. -/
theorem request_supplies_beside_empty_tier :
    let document : Document := { text := "Hi".toList, tiers := [("tokens", []), ("pos", [])] }
    let whole : Tier := [{ start := 0, stop := 2 }]
    let made : Tiers := [("sentences", whole), ("tokens", whole)]
    let annotator : Annotator Unit Unit := fun document state => ⟨.ok (some made), document, state⟩
    let names := ["sentences", "pos"]
    let outcome := document.request names (some annotator) 0 ()
    names ≠ [] ∧ document.Lacks names ∧
      (document.request names (some annotator.counting) 0 ((), 0)).state.2 = 1 ∧
      outcome.result = .ok (.several [whole, []]) ∧ Committed made document outcome.document ∧
      outcome.document.request (ε := Unit) names none 0 () =
        ⟨.ok (.several [whole, []]), outcome.document, ()⟩ := by
  intro document whole made annotator names outcome
  have named : names ≠ [] := by decide
  have lacks : document.Lacks names := ⟨"sentences", by decide, rfl⟩
  rcases request_supplies document named (some annotator) () with
    ⟨_, _, runs, changed, again⟩
  refine ⟨named, lacks, runs lacks, rfl, ?_, again _ rfl none ()⟩
  rcases changed annotator rfl rfl with unchanged | ⟨_, returned, committed⟩
  · cases congrArg Document.tiers unchanged
  · cases returned
    exact committed (by decide)

end Document

end Standoff
