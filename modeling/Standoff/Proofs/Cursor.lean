import Mathlib.Data.List.Forall2
import Standoff.Proofs.Placement

/-! An aligner is called for one form or for several, and answers or fails. Whatever it is
called for, its cursor moves forward only, and only over forms that it has found, so that the
extents of a whole series of calls lie one behind the other. -/

namespace Standoff.Aligner

/-! ## Calls -/

inductive Call where
  | locate (form : Text)
  | align (form : Text)
  | alignAll (forms : List Text)
  deriving DecidableEq, Repr

def Call.forms : Call → List Text
  | .locate form => [form]
  | .align form => [form]
  | .alignAll forms => forms

inductive Answer where
  | offset (start : Nat)
  | extent (found : Nat × Nat)
  | extents (found : List (Nat × Nat))
  deriving DecidableEq, Repr

def Answer.spans : Answer → List (Nat × Nat)
  | .offset _ => []
  | .extent found => [found]
  | .extents found => found

/-- A call, with the aligner before and after it. -/
structure Exchange where
  before : Aligner
  call : Call
  result : Except AlignmentError Answer
  after : Aligner

def exchange (aligner : Aligner) (call : Call) : Exchange :=
  match call with
  | .locate form => ⟨aligner, call, (aligner.locate form).map .offset, aligner⟩
  | .align form =>
      let (result, after) := aligner.align form
      ⟨aligner, call, result.map .extent, after⟩
  | .alignAll forms =>
      let (result, after) := aligner.alignAll forms
      ⟨aligner, call, result.map .extents, after⟩

/-- A series of calls, each of the aligner that the call before it has left. -/
def exchanges (aligner : Aligner) : List Call → List Exchange
  | [] => []
  | call :: rest => aligner.exchange call :: exchanges (aligner.exchange call).after rest

def Exchange.spans (exchange : Exchange) : List (Nat × Nat) :=
  match exchange.result with
  | .ok answer => answer.spans
  | .error _ => []

/-! ## What a call has to do -/

/-- A form stands somewhere at or after an offset. The empty form does not. -/
def Occurs (text : Text) (cursor : Nat) (form : Text) : Prop :=
  form ≠ [] ∧ ∃ offset, cursor ≤ offset ∧ text.StandsAt offset form

/-- An extent at or after an offset that holds a form. -/
structure Bounds (text : Text) (cursor : Nat) (form : Text) (extent : Nat × Nat) : Prop where
  reached : cursor ≤ extent.1
  forward : extent.1 < extent.2
  slice_eq : Text.slice text extent.1 extent.2 = form

/-- An answer is of the kind that was asked for, and tells of nothing before the cursor. -/
def Answers (aligner : Aligner) : Call → Answer → Prop
  | .locate form, .offset start =>
      Bounds aligner.text aligner.reach form (start, start + form.length)
  | .align form, .extent found => Bounds aligner.text aligner.reach form found
  | .alignAll forms, .extents found =>
      List.Forall₂ (Bounds aligner.text aligner.reach) forms found
  | _, _ => False

/-- Of the forms that are looked for, those with extents are found one after the other, and
the next one does not occur behind them. -/
structure Stuck (aligner : Aligner) (forms : List Text) (extents : List (Nat × Nat))
    (form : Text) : Prop where
  split : ∃ found rest final, forms = found ++ form :: rest ∧
    Aligned aligner.text aligner.reach found extents final
  missing : ¬ Occurs aligner.text (aligner.behind extents).reach form

structure Exchange.Sound (exchange : Exchange) : Prop where
  text_eq : exchange.after.text = exchange.before.text
  forward : exchange.before.cursor ≤ exchange.after.cursor
  located : ∀ form, exchange.call = .locate form → exchange.after = exchange.before
  unaligned : ∀ form error, exchange.call = .align form → exchange.result = .error error →
    exchange.after = exchange.before
  answered : ∀ answer, exchange.result = .ok answer →
    Answers exchange.before exchange.call answer ∧
      exchange.after = exchange.before.behind answer.spans
  failed : ∀ error, exchange.result = .error error → ∃ extents form,
    Stuck exchange.before exchange.call.forms extents form ∧
      exchange.after = exchange.before.behind extents ∧
      error = .of form exchange.after.cursor exchange.before.text
  fails : ∀ extents form, Stuck exchange.before exchange.call.forms extents form →
    ∃ error, exchange.result = .error error

/-! ## One call -/

variable {aligner : Aligner} {form : Text} {forms : List Text} {extents : List (Nat × Nat)}
  {final : Nat}

theorem exists_firstAt_iff {text : Text} {cursor : Nat} :
    (∃ start, FirstAt text cursor form start) ↔ Occurs text cursor form := by
  constructor
  · rintro ⟨start, first⟩
    exact ⟨first.nonempty, start, first.reached, first.stands⟩
  · rintro ⟨nonempty, offset, reached, stands⟩
    exact exists_firstAt nonempty reached stands

theorem slice_of_standsAt {text : Text} {start : Nat} (stands : text.StandsAt start form) :
    Text.slice text start (start + form.length : Nat) = form := by
  rw [Text.slice, Text.offsetOf_natCast, Text.offsetOf_natCast, List.drop_take,
    Nat.add_sub_cancel_left]
  exact (List.prefix_iff_eq_take.mp stands).symm

theorem FirstAt.bounds {text : Text} {cursor start : Nat}
    (first : FirstAt text cursor form start) :
    Bounds text cursor form (start, start + form.length) where
  reached := first.reached
  forward := Nat.lt_add_of_pos_right (List.length_pos_of_ne_nil first.nonempty)
  slice_eq := slice_of_standsAt first.stands

theorem Bounds.of_le {text : Text} {cursor earlier : Nat} {extent : Nat × Nat}
    (bounds : Bounds text cursor form extent) (before : earlier ≤ cursor) :
    Bounds text earlier form extent :=
  ⟨Nat.le_trans before bounds.reached, bounds.forward, bounds.slice_eq⟩

theorem Aligned.bounds {text : Text} {cursor : Nat}
    (aligned : Aligned text cursor forms extents final) :
    List.Forall₂ (Bounds text cursor) forms extents := by
  induction aligned with
  | nil => exact .nil
  | @cons cursor start final form forms extents first later induction =>
      have before : cursor ≤ start + form.length := Nat.le_add_right_of_le first.reached
      exact .cons first.bounds (induction.imp fun _ _ bounds => bounds.of_le before)

theorem FirstAt.placeable {text : Text} {cursor start : Nat}
    (first : FirstAt text cursor form start) : Placeable text cursor [form] := by
  refine ⟨?_, [start], .cons first.reached first.stands .nil⟩
  intro other member
  exact List.mem_singleton.mp member ▸ first.nonempty

theorem stuck_of_nowhere (nowhere : ¬ ∃ start, FirstAt aligner.text aligner.reach form start) :
    Stuck aligner [form] [] form :=
  ⟨⟨[], [], aligner.reach, rfl, .nil⟩, mt exists_firstAt_iff.mpr nowhere⟩

/-! The cursor behind what was found -/

theorem cursor_le_reach (aligner : Aligner) : aligner.cursor ≤ aligner.reach := by
  rw [reach, Text.offsetOf]
  split <;> omega

theorem behind_of_aligned (aligned : Aligned aligner.text aligner.reach forms extents final) :
    aligner.cursor ≤ (aligner.behind extents).cursor ∧ (aligner.behind extents).reach = final := by
  cases last : extents.getLast? with
  | none =>
      obtain rfl := List.getLast?_eq_none_iff.mp last
      cases aligned
      exact ⟨Int.le_refl _, rfl⟩
  | some extent =>
      have moved : aligner.behind extents = { aligner with cursor := final } := by
        rw [behind, last, Option.map_some, Option.getD_some, aligned.getLast?_stop last]
      rw [moved]
      have reached := aligner.cursor_le_reach
      have forward := aligned.cursor_le
      exact ⟨show aligner.cursor ≤ final by omega, reach_natCast aligner.text final⟩

/-- Forms with a place are not missed behind those that were found. -/
theorem Stuck.not_placeable (stuck : Stuck aligner forms extents form) :
    ¬ Placeable aligner.text aligner.reach forms := by
  rintro ⟨nonempty, offsets, placement⟩
  rcases stuck.split with ⟨found, rest, final, rfl, aligned⟩
  apply stuck.missing
  rw [(behind_of_aligned aligned).2]
  rcases aligned.placement_behind placement with ⟨behind, last⟩
  cases last with
  | cons reached stands _ => exact ⟨nonempty form (by simp), _, reached, stands⟩

theorem Stuck.extents_eq_nil {single : Text} (stuck : Stuck aligner [single] extents form) :
    extents = [] := by
  rcases stuck.split with ⟨found, rest, final, split, aligned⟩
  cases found with
  | nil =>
      cases aligned
      rfl
  | cons first others =>
      have rests := (List.cons.inj split).2
      simp at rests

namespace Exchange

theorem sound_of_answer {call : Call} {answer : Answer}
    (answers : Answers aligner call answer)
    (placeable : Placeable aligner.text aligner.reach call.forms)
    (aligned : Aligned aligner.text aligner.reach forms answer.spans final) :
    Sound ⟨aligner, call, .ok answer, aligner.behind answer.spans⟩ where
  text_eq := rfl
  forward := (behind_of_aligned aligned).1
  located form same := by
    subst same
    cases answer with
    | offset start => rfl
    | extent found => cases answers
    | extents found => cases answers
  unaligned _ _ _ failed := by cases failed
  answered other same := by
    cases same
    exact ⟨answers, rfl⟩
  failed _ failed := by cases failed
  fails _ _ stuck := absurd placeable stuck.not_placeable

theorem sound_of_stuck {call : Call} (stuck : Stuck aligner call.forms extents form) :
    Sound ⟨aligner, call,
      .error (.of form (aligner.behind extents).cursor aligner.text),
      aligner.behind extents⟩ where
  text_eq := rfl
  forward := by
    rcases stuck.split with ⟨_, _, _, _, aligned⟩
    exact (behind_of_aligned aligned).1
  located single same := by
    subst same
    rw [stuck.extents_eq_nil]
    rfl
  unaligned single _ same _ := by
    subst same
    rw [stuck.extents_eq_nil]
    rfl
  answered _ answered := by cases answered
  failed _ same := by
    cases same
    exact ⟨extents, form, stuck, rfl, rfl⟩
  fails _ _ _ := ⟨_, rfl⟩

end Exchange

theorem exchange_cases (aligner : Aligner) (call : Call) :
    (∃ answer found final, aligner.exchange call =
        ⟨aligner, call, .ok answer, aligner.behind answer.spans⟩ ∧
      Answers aligner call answer ∧ Placeable aligner.text aligner.reach call.forms ∧
      Aligned aligner.text aligner.reach found answer.spans final) ∨
    ∃ extents form, Stuck aligner call.forms extents form ∧ aligner.exchange call =
      ⟨aligner, call, .error (.of form (aligner.behind extents).cursor aligner.text),
        aligner.behind extents⟩ := by
  cases call with
  | locate form =>
      cases located : aligner.locate form with
      | ok start =>
          have first := locate_eq_ok_iff.mp located
          refine Or.inl ⟨.offset start, [], aligner.reach, ?_, first.bounds, first.placeable,
            .nil⟩
          simp only [exchange, located]
          rfl
      | error error =>
          rcases locate_eq_error_iff.mp located with ⟨nowhere, rfl⟩
          refine Or.inr ⟨[], form, stuck_of_nowhere nowhere, ?_⟩
          simp only [exchange, located]
          rfl
  | align form =>
      cases located : aligner.locate form with
      | ok start =>
          have first := locate_eq_ok_iff.mp located
          refine Or.inl ⟨.extent (start, start + form.length), [form], start + form.length, ?_,
            first.bounds, first.placeable, .cons first .nil⟩
          simp only [exchange, align, located]
          rfl
      | error error =>
          rcases locate_eq_error_iff.mp located with ⟨nowhere, rfl⟩
          refine Or.inr ⟨[], form, stuck_of_nowhere nowhere, ?_⟩
          simp only [exchange, align, located]
          rfl
  | alignAll forms =>
      rcases aligner.alignAll_outcome forms with ⟨extents, final, aligned, aligns⟩ |
        ⟨found, form, rest, extents, final, split, aligned, nowhere, aligns⟩
      · refine Or.inl ⟨.extents extents, forms, final, ?_, aligned.bounds,
          ⟨aligned.nonempty, _, aligned.placement⟩, aligned⟩
        simp only [exchange, aligns]
        rfl
      · refine Or.inr ⟨extents, form, ⟨⟨found, rest, final, split, aligned⟩, ?_⟩, ?_⟩
        · rw [(behind_of_aligned aligned).2, ← exists_firstAt_iff]
          exact nowhere
        · simp only [exchange, aligns]
          rfl

@[simp] theorem before_exchange (aligner : Aligner) (call : Call) :
    (aligner.exchange call).before = aligner := by
  cases call <;> rfl

theorem sound_exchange (aligner : Aligner) (call : Call) : (aligner.exchange call).Sound := by
  rcases aligner.exchange_cases call with
    ⟨answer, found, final, answered, answers, placeable, aligned⟩ | ⟨extents, form, stuck, failed⟩
  · rw [answered]
    exact Exchange.sound_of_answer answers placeable aligned
  · rw [failed]
    exact Exchange.sound_of_stuck stuck

theorem spans_exchange (aligner : Aligner) (call : Call) :
    aligner.reach ≤ (aligner.exchange call).after.reach ∧
    (∀ extent ∈ (aligner.exchange call).spans, aligner.reach ≤ extent.1 ∧
      extent.1 < extent.2 ∧ extent.2 ≤ (aligner.exchange call).after.reach) ∧
    (aligner.exchange call).spans.Pairwise fun extent later => extent.2 ≤ later.1 := by
  rcases aligner.exchange_cases call with
    ⟨answer, found, final, answered, _, _, aligned⟩ | ⟨extents, form, stuck, failed⟩
  · rw [answered]
    simp only [Exchange.spans, (behind_of_aligned aligned).2]
    exact ⟨aligned.cursor_le, aligned.extent_bounds, aligned.separated⟩
  · rcases stuck.split with ⟨_, _, final, _, aligned⟩
    rw [failed]
    simp only [Exchange.spans, (behind_of_aligned aligned).2]
    exact ⟨aligned.cursor_le, nofun, .nil⟩

/-! ## A series of calls -/

theorem spans_exchanges (aligner : Aligner) (calls : List Call) :
    (∀ extent ∈ (aligner.exchanges calls).flatMap Exchange.spans,
      aligner.reach ≤ extent.1 ∧ extent.1 < extent.2) ∧
    ((aligner.exchanges calls).flatMap Exchange.spans).Pairwise fun extent later =>
      extent.2 ≤ later.1 := by
  induction calls generalizing aligner with
  | nil => exact ⟨nofun, .nil⟩
  | cons call rest induction =>
      rcases aligner.spans_exchange call with ⟨forward, bounds, separated⟩
      rcases induction (aligner.exchange call).after with ⟨laterBounds, laterSeparated⟩
      rw [exchanges, List.flatMap_cons]
      constructor
      · intro extent member
        rcases List.mem_append.mp member with here | later
        · have := bounds extent here
          omega
        · have := laterBounds extent later
          omega
      · refine List.pairwise_append.mpr ⟨separated, laterSeparated, ?_⟩
        intro extent here next later
        have before := bounds extent here
        have behind := laterBounds next later
        omega

theorem cursor_le_exchanges (aligner : Aligner) (calls : List Call) :
    (aligner.cursor :: (aligner.exchanges calls).map (·.after.cursor)).Pairwise (· ≤ ·) := by
  induction calls generalizing aligner with
  | nil => exact List.pairwise_singleton _ _
  | cons call rest induction =>
      have later := induction (aligner.exchange call).after
      have forward := (aligner.sound_exchange call).forward
      rw [before_exchange] at forward
      refine List.pairwise_cons.mpr ⟨?_, later⟩
      intro cursor member
      rcases List.mem_cons.mp member with rfl | inRest
      · exact forward
      · exact Int.le_trans forward ((List.pairwise_cons.mp later).1 cursor inRest)

theorem sound_exchanges (aligner : Aligner) (calls : List Call) :
    ∀ exchange ∈ aligner.exchanges calls,
      exchange.before.text = aligner.text ∧ exchange.Sound := by
  induction calls generalizing aligner with
  | nil => exact nofun
  | cons call rest induction =>
      have here := aligner.sound_exchange call
      have sameText := here.text_eq
      rw [before_exchange] at sameText
      intro exchange member
      rcases List.mem_cons.mp member with rfl | inRest
      · exact ⟨by rw [before_exchange], here⟩
      · rcases induction _ exchange inRest with ⟨text, sound⟩
        exact ⟨text.trans sameText, sound⟩

/-- Over any series of calls the cursor never moves back, each call does what it has to do,
and all extents that are returned lie one behind the other. -/
theorem calls_keep_order (aligner : Aligner) (calls : List Call) :
    (aligner.cursor :: (aligner.exchanges calls).map (·.after.cursor)).Pairwise (· ≤ ·) ∧
    (∀ exchange ∈ aligner.exchanges calls,
      exchange.before.text = aligner.text ∧ exchange.Sound) ∧
    (∀ extent ∈ (aligner.exchanges calls).flatMap Exchange.spans, extent.1 < extent.2) ∧
    ((aligner.exchanges calls).flatMap Exchange.spans).Pairwise fun extent later =>
      extent.2 ≤ later.1 := by
  rcases aligner.spans_exchanges calls with ⟨bounds, separated⟩
  exact ⟨aligner.cursor_le_exchanges calls, aligner.sound_exchanges calls,
    fun extent member => (bounds extent member).2, separated⟩

/-- A cursor that counts from the end, and a call that fails behind its first form. -/
example :
    (exchanges { text := "aaaba".toList, cursor := -4 }
      [.alignAll [['a', 'a'], ['c']], .locate ['b'], .align ['a'], .align []]).map
        (fun exchange => (exchange.after.cursor, exchange.spans)) =
      [(3, []), (3, []), (5, [(4, 5)]), (5, [])] := by rfl

end Standoff.Aligner
