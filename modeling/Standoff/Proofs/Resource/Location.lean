import Mathlib.Data.List.ReduceOption
import Mathlib.Data.List.TakeWhile
import Standoff.Resource.Location

/-! Templates are filled in once. A template is read from left to right, each part of it once,
and what names stand for comes into the location as it is, whatever dollar signs and braces
it holds. -/

namespace Standoff

namespace Template

/-! ## Parts of a template -/

def IsName (name : Text) : Prop :=
  ∃ first rest, name = first :: rest ∧ isNameStart first ∧ ∀ character ∈ rest, isNamePart character

/-- The reference that a text behind a dollar sign begins with, and what comes behind the
reference. A name without braces goes on as long as it can. -/
inductive Begins : Text → Reference → Text → Prop
  | dollar {rest : Text} : Begins ('$' :: rest) .dollar rest
  | bare {name rest : Text} (isName : IsName name)
      (ended : ∀ next ∈ rest.head?, ¬ isNamePart next) : Begins (name ++ rest) (.named name) rest
  | braced {name rest : Text} (isName : IsName name) :
      Begins ('{' :: name ++ '}' :: rest) (.named name) rest

inductive Part where
  | plain (character : Char)
  | mark (reference : Reference)

/-- A text is read part by part up to a rest. -/
inductive Reads : Text → List Part → Text → Prop
  | nil {rest : Text} : Reads rest [] rest
  | plain {character : Char} {text rest : Text} {parts : List Part} (other : character ≠ '$')
      (later : Reads text parts rest) : Reads (character :: text) (.plain character :: parts) rest
  | mark {behind text rest : Text} {reference : Reference} {parts : List Part}
      (begins : Begins behind reference text) (later : Reads text parts rest) :
      Reads ('$' :: behind) (.mark reference :: parts) rest

/-- Some dollar sign begins no reference, or a name is none of those that stand for
something. -/
inductive Faulty (names : List Text) (template : Text) : Prop
  | invalid {parts : List Part} {behind : Text} (reads : Reads template parts ('$' :: behind))
      (stuck : ∀ reference rest, ¬ Begins behind reference rest) : Faulty names template
  | unknown {parts : List Part} {rest name : Text} (reads : Reads template parts rest)
      (member : .mark (.named name) ∈ parts) (unknown : name ∉ names) : Faulty names template

def Part.content (value : Text → Option Text) : Part → Except Fault Text
  | .plain character => .ok [character]
  | .mark reference => reference.content value

def contents (value : Text → Option Text) : List Part → Except Fault Text
  | [] => .ok []
  | part :: later => do return (← part.content value) ++ (← contents value later)

theorem contents_cons {value : Text → Option Text} {part : Part} {content : Text}
    (stands : part.content value = .ok content) (later : List Part) :
    contents value (part :: later) = (contents value later).map (content ++ ·) := by
  rw [contents, stands]
  cases contents value later <;> rfl

theorem Reads.trans {first second third : Text} {parts others : List Part}
    (reads : Reads first parts second) (readsOn : Reads second others third) :
    Reads first (parts ++ others) third := by
  induction reads with
  | nil => exact readsOn
  | plain other _ induction => exact .plain other (induction readsOn)
  | mark begins _ induction => exact .mark begins (induction readsOn)

/-! ## References -/

theorem name?_eq_some_iff {text name rest : Text} :
    name? text = some (name, rest) ↔
      text = name ++ rest ∧ IsName name ∧ ∀ next ∈ rest.head?, ¬ isNamePart next := by
  constructor
  · intro found
    cases text with
    | nil => cases found
    | cons first others =>
        rw [name?] at found
        split at found
        · rename_i begins
          cases found
          refine ⟨?_, ⟨first, _, rfl, begins, fun _ => List.mem_takeWhile_imp⟩, ?_⟩
          · rw [List.cons_append, List.takeWhile_append_dropWhile]
          · intro next isNext
            have refused := List.head?_dropWhile_not isNamePart others
            rw [Option.mem_def.mp isNext] at refused
            exact Bool.eq_false_iff.mp refused
        · cases found
  · intro known
    rcases known with ⟨rfl, ⟨first, others, rfl, begins, parts⟩, ended⟩
    have taken : rest.takeWhile isNamePart = [] ∧ rest.dropWhile isNamePart = rest := by
      cases rest with
      | nil => exact ⟨rfl, rfl⟩
      | cons next later =>
          have refused := ended next rfl
          exact ⟨List.takeWhile_cons_of_neg refused, List.dropWhile_cons_of_neg refused⟩
    rw [List.cons_append, name?, if_pos begins, List.takeWhile_append_of_pos parts,
      List.dropWhile_append_of_pos parts, taken.1, taken.2, List.append_nil]

theorem reference?_of_name {name rest : Text} (isName : IsName name)
    (ended : ∀ next ∈ rest.head?, ¬ isNamePart next) :
    reference? (name ++ rest) = some (.named name, name.length) := by
  have found : name? (name ++ rest) = some (name, rest) :=
    name?_eq_some_iff.mpr ⟨rfl, isName, ended⟩
  rcases isName with ⟨first, others, rfl, begins, _⟩
  rw [List.cons_append] at found ⊢
  unfold reference?
  split
  · rename_i equal
    cases equal
    exact absurd begins (by decide)
  · rename_i equal
    cases equal
    exact absurd begins (by decide)
  · rw [found]
    rfl

theorem drop_braced (name rest : Text) :
    ('{' :: (name ++ '}' :: rest)).drop (name.length + 2) = rest := by
  rw [List.drop_succ_cons, List.drop_add_one_eq_tail_drop, List.drop_left]
  rfl

theorem reference?_of_begins {behind rest : Text} {reference : Reference}
    (begins : Begins behind reference rest) :
    ∃ length, reference? behind = some (reference, length) ∧ behind.drop length = rest := by
  cases begins with
  | dollar => exact ⟨1, rfl, rfl⟩
  | @bare name _ isName ended =>
      exact ⟨name.length, reference?_of_name isName ended, List.drop_left⟩
  | @braced name _ isName =>
      have found : name? (name ++ '}' :: rest) = some (name, '}' :: rest) := by
        refine name?_eq_some_iff.mpr ⟨rfl, isName, ?_⟩
        intro next isNext
        cases isNext
        decide
      refine ⟨name.length + 2, ?_, drop_braced name rest⟩
      rw [List.cons_append, reference?, found]
      rfl

theorem begins_of_reference? {behind : Text} {reference : Reference} {length : Nat}
    (found : reference? behind = some (reference, length)) :
    Begins behind reference (behind.drop length) := by
  unfold reference? at found
  split at found
  · cases found
    exact .dollar
  · rename_i rest
    split at found
    · rename_i name later named
      rcases name?_eq_some_iff.mp named with ⟨rfl, isName, _⟩
      cases found
      rw [drop_braced]
      exact .braced isName
    · cases found
  · rcases Option.map_eq_some_iff.mp found with ⟨⟨name, rest⟩, named, equal⟩
    rcases name?_eq_some_iff.mp named with ⟨rfl, isName, ended⟩
    cases equal
    rw [List.drop_left]
    exact .bare isName ended

theorem Begins.length_le {behind rest : Text} {reference : Reference}
    (begins : Begins behind reference rest) : rest.length ≤ behind.length := by
  rcases reference?_of_begins begins with ⟨length, _, rfl⟩
  rw [List.length_drop]
  exact Nat.sub_le behind.length length

/-- A text is read to its end or up to a dollar sign that begins nothing. -/
theorem exists_reads (text : Text) :
    ∃ parts rest, Reads text parts rest ∧ (rest = [] ∨ ∃ behind, rest = '$' :: behind ∧
      ∀ reference later, ¬ Begins behind reference later) := by
  -- What is left behind a part is shorter, but no tail that the text's own recursion names.
  induction bound : text.length using Nat.strong_induction_on generalizing text with
  | _ length induction =>
      cases text with
      | nil => exact ⟨[], [], .nil, .inl rfl⟩
      | cons character behind =>
          have shorter : behind.length < length := bound ▸ Nat.lt_succ_self behind.length
          by_cases other : character ≠ '$'
          · rcases induction behind.length shorter behind rfl with ⟨parts, rest, reads, ending⟩
            exact ⟨_, rest, .plain other reads, ending⟩
          · obtain rfl := not_not.mp other
            by_cases stuck : ∀ reference later, ¬ Begins behind reference later
            · exact ⟨[], _, .nil, .inr ⟨behind, rfl, stuck⟩⟩
            · push Not at stuck
              rcases stuck with ⟨reference, later, begins⟩
              have less := Nat.lt_of_le_of_lt begins.length_le shorter
              rcases induction later.length less later rfl with ⟨parts, rest, reads, ending⟩
              exact ⟨_, rest, .mark begins reads, ending⟩

/-! ## Filling in -/

section

variable {value : Text → Option Text} {template : Text}

theorem exists_fillFrom_passing (value : Text → Option Text) (template : Text)
    (offset passing : Nat) (text : Text) :
    ∃ further, fillFrom value template offset passing text =
      fillFrom value template further 0 (text.drop passing) := by
  induction text generalizing offset passing with
  | nil => exact ⟨offset, by cases passing <;> rfl⟩
  | cons character rest induction =>
      cases passing with
      | zero => exact ⟨offset, rfl⟩
      | succ passing => exact induction (offset + 1) passing

theorem Reads.exists_fillFrom {text rest : Text} {parts : List Part}
    (reads : Reads text parts rest) (offset : Nat) :
    ∃ further, fillFrom value template offset 0 text =
      contents value parts >>= fun filled =>
        (fillFrom value template further 0 rest).map (filled ++ ·) := by
  induction reads generalizing offset with
  | @nil rest =>
      refine ⟨offset, ?_⟩
      rw [contents]
      cases fillFrom value template offset 0 rest <;> rfl
  | @plain character text rest parts other later induction =>
      rcases induction (offset + 1) with ⟨further, filled⟩
      refine ⟨further, ?_⟩
      rw [fillFrom, if_neg other, filled, contents, Part.content]
      rcases contents value parts with _ | content
      · rfl
      · cases fillFrom value template further 0 rest <;> rfl
  | @mark behind text rest reference parts begins later induction =>
      rcases reference?_of_begins begins with ⟨length, found, rfl⟩
      rcases exists_fillFrom_passing value template (offset + 1) length behind with ⟨reached, passed⟩
      rcases induction reached with ⟨further, filled⟩
      refine ⟨further, ?_⟩
      rw [fillFrom, if_pos rfl, contents, Part.content]
      simp only [found]
      rcases reference.content value with _ | content
      · rfl
      · simp only [passed, filled]
        rcases contents value parts with _ | others
        · rfl
        · cases fillFrom value template further 0 rest with
          | error _ => rfl
          | ok last => exact congrArg Except.ok (List.append_assoc content others last).symm

theorem Reads.fill_eq {parts : List Part} (reads : Reads template parts []) :
    fill value template = contents value parts := by
  rcases reads.exists_fillFrom 0 with ⟨further, filled⟩
  rw [fill, filled, fillFrom]
  rcases contents value parts with _ | content
  · rfl
  · exact congrArg Except.ok (List.append_nil content)

theorem fillFrom_of_stuck {behind : Text}
    (stuck : ∀ reference rest, ¬ Begins behind reference rest) (offset : Nat) :
    ∃ fault, fillFrom value template offset 0 ('$' :: behind) = .error fault := by
  cases found : reference? behind with
  | none =>
      refine ⟨.invalid (Text.lastPlace (template.take (offset + 1))), ?_⟩
      rw [fillFrom, if_pos rfl]
      simp only [found]
  | some known => exact absurd (begins_of_reference? found) (stuck known.1 _)

theorem Part.content_eq_error_iff {part : Part} :
    (∃ fault, part.content value = .error fault) ↔
      ∃ name, part = .mark (.named name) ∧ value name = none := by
  rcases part with character | _ | name
  · simp [Part.content]
  · simp [Part.content, Reference.content]
  · cases named : value name <;> simp [Part.content, Reference.content, named]

theorem contents_eq_error_iff {parts : List Part} :
    (∃ fault, contents value parts = .error fault) ↔
      ∃ name, .mark (.named name) ∈ parts ∧ value name = none := by
  induction parts with
  | nil => simp [contents]
  | cons part later induction =>
      have split : (∃ fault, contents value (part :: later) = .error fault) ↔
          (∃ fault, part.content value = .error fault) ∨
            ∃ fault, contents value later = .error fault := by
        rw [contents]
        rcases part.content value with _ | _ <;> rcases contents value later with _ | _ <;>
          simp [bind, Except.bind, pure, Except.pure]
      rw [split, Part.content_eq_error_iff, induction, ← exists_or]
      apply exists_congr
      intro name
      rw [List.mem_cons, or_and_right, eq_comm]

/-- Filling in fails for templates that are faulty, and for no others. -/
theorem fill_eq_error_iff {names : List Text}
    (known : ∀ name, value name = none ↔ name ∉ names) (template : Text) :
    (∃ fault, fill value template = .error fault) ↔ Faulty names template := by
  constructor
  · intro failed
    rcases exists_reads template with ⟨parts, rest, reads, rfl | ⟨behind, rfl, stuck⟩⟩
    · rw [reads.fill_eq, contents_eq_error_iff] at failed
      rcases failed with ⟨name, member, missing⟩
      exact .unknown reads member ((known name).mp missing)
    · exact .invalid reads stuck
  · intro faulty
    cases faulty with
    | @invalid parts behind reads stuck =>
        rcases reads.exists_fillFrom 0 with ⟨further, filled⟩
        rcases fillFrom_of_stuck stuck further with ⟨fault, failed⟩
        rw [fill, filled, failed]
        rcases contents value parts with other | content
        · exact ⟨other, rfl⟩
        · exact ⟨fault, rfl⟩
    | @unknown parts rest name reads member unknown =>
        rcases reads.exists_fillFrom 0 with ⟨further, filled⟩
        rcases contents_eq_error_iff.mpr ⟨name, member, (known name).mpr unknown⟩ with
          ⟨fault, failed⟩
        rw [fill, filled, failed]
        exact ⟨fault, rfl⟩

end

end Template

namespace ModelChoice

open Template

/-! ## Templates that are written -/

/-- What a template can ask for. -/
inductive Key where
  | directory
  | language
  | variant

def Key.name : Key → String
  | .directory => "model_path"
  | .language => "language"
  | .variant => "variant"

def Key.value (directory language : Text) (variant : Option Text) : Key → Text
  | .directory => directory
  | .language => language
  | .variant => variant.getD "None".toList

/-- The names by which a template asks. -/
def Key.names : List Text := [Key.directory, .language, .variant].map (·.name.toList)

/-- What a template is put together from: texts that stand for themselves, and keys. -/
inductive Piece where
  | literal (text : Text)
  | reference (key : Key)

/-- How a piece is written. Dollar signs that stand for themselves are written twice. -/
def Piece.written : Piece → Text
  | .literal text => text.flatMap fun character =>
      if character = '$' then ['$', '$'] else [character]
  | .reference key => '$' :: '{' :: key.name.toList ++ ['}']

def Piece.meaning (value : Key → Text) : Piece → Text
  | .literal text => text
  | .reference key => value key

example : [.literal "a$".toList, .reference .language].flatMap Piece.written =
    "a$$${language}".toList := by decide

def Piece.parts : Piece → List Part
  | .literal text => text.map fun character =>
      if character = '$' then .mark .dollar else .plain character
  | .reference key => [.mark (.named key.name.toList)]

theorem Key.isName_name (key : Key) : IsName key.name.toList := by
  have whole : name? key.name.toList = some (key.name.toList, []) := by
    cases key <;> decide
  exact (name?_eq_some_iff.mp whole).2.1

theorem Piece.reads_written (piece : Piece) (rest : Text) :
    Reads (piece.written ++ rest) piece.parts rest := by
  cases piece with
  | literal text =>
      induction text with
      | nil => exact .nil
      | cons character later induction =>
          rw [written, List.flatMap_cons, List.append_assoc, parts, List.map_cons]
          by_cases dollar : character = '$'
          · rw [if_pos dollar, if_pos dollar]
            exact .mark .dollar induction
          · rw [if_neg dollar, if_neg dollar]
            exact .plain dollar induction
  | reference key =>
      have begins : Begins ('{' :: key.name.toList ++ '}' :: rest) (.named key.name.toList) rest :=
        .braced key.isName_name
      have whole : written (.reference key) ++ rest =
          '$' :: ('{' :: key.name.toList ++ '}' :: rest) := by
        simp [written]
      rw [whole]
      exact .mark begins .nil

theorem reads_pieces (pieces : List Piece) :
    Reads (pieces.flatMap Piece.written) (pieces.flatMap Piece.parts) [] := by
  induction pieces with
  | nil => exact .nil
  | cons piece later induction => exact (piece.reads_written _).trans induction

section

variable (directory language : Text) (variant : Option Text)

theorem valueOf_name (key : Key) :
    valueOf directory language variant key.name.toList =
      some (key.value directory language variant) := by
  cases key <;> simp [valueOf, Key.name, Key.value]

theorem valueOf_eq_none_iff (name : Text) :
    valueOf directory language variant name = none ↔ name ∉ Key.names := by
  have listed : name ∈ Key.names ↔
      name = "model_path".toList ∨ name = "language".toList ∨ name = "variant".toList := by
    simp only [Key.names, Key.name, List.map_cons, List.map_nil, List.mem_cons, List.not_mem_nil,
      or_false]
  rw [listed, not_or, not_or, valueOf]
  split
  · simp only [*, reduceCtorEq, not_true, false_and]
  · split
    · simp only [*, reduceCtorEq, not_true, false_and, and_false]
    · split
      · simp only [*, reduceCtorEq, not_true, and_false]
      · simp only [*, not_false_eq_true, and_self]

theorem contents_piece (piece : Piece) (later : List Part) :
    contents (valueOf directory language variant) (piece.parts ++ later) =
      (contents (valueOf directory language variant) later).map
        (piece.meaning (Key.value directory language variant) ++ ·) := by
  cases piece with
  | literal text =>
      induction text with
      | nil =>
          cases filled : contents (valueOf directory language variant) later <;> exact filled
      | cons character rest induction =>
          have here : Part.content (valueOf directory language variant)
              (if character = '$' then .mark .dollar else .plain character) =
                .ok [character] := by
            by_cases dollar : character = '$'
            · rw [if_pos dollar, dollar]
              rfl
            · rw [if_neg dollar]
              rfl
          rw [Piece.parts] at induction ⊢
          rw [List.map_cons, List.cons_append, contents_cons here, induction]
          cases contents (valueOf directory language variant) later <;> rfl
  | reference key =>
      have here : Part.content (valueOf directory language variant)
          (.mark (.named key.name.toList)) = .ok (key.value directory language variant) := by
        simp only [Part.content, Reference.content, valueOf_name]
      exact contents_cons here later

theorem contents_pieces (pieces : List Piece) :
    contents (valueOf directory language variant) (pieces.flatMap Piece.parts) =
      .ok (pieces.flatMap (Piece.meaning (Key.value directory language variant))) := by
  induction pieces with
  | nil => rfl
  | cons piece later induction =>
      rw [List.flatMap_cons, contents_piece, induction]
      rfl

end

/-! ## Choices -/

def firstGiven (options : List (Option Text)) : Option Text := options.reduceOption.find? (· ≠ [])

example : firstGiven [none, some [], some ['a'], some ['b']] = some ['a'] := by decide

theorem firstGiven_cons (option : Option Text) (later : List (Option Text)) :
    firstGiven (option :: later) = orElse option (firstGiven later) := by
  rcases option with _ | _ | ⟨character, rest⟩ <;> rfl

theorem orElse_or (option other otherwise : Option Text) :
    orElse option (other.or otherwise) = (orElse option other).or otherwise := by
  rcases option with _ | _ | ⟨character, rest⟩ <;> rfl

/-- One text after the other is tried until one is given and not empty. -/
theorem foldr_orElse (options : List (Option Text)) (otherwise : Option Text) :
    options.foldr orElse otherwise = (firstGiven options).or otherwise := by
  induction options with
  | nil => rfl
  | cons option later induction =>
      rw [List.foldr_cons, induction, firstGiven_cons, orElse_or]

theorem languageFor_eq (choice : ModelChoice) (declared : Option Text) :
    choice.languageFor declared = firstGiven [choice.language, declared] :=
  (foldr_orElse [choice.language, declared] none).trans (Option.or_none)

theorem variantFor_eq (choice : ModelChoice) (language : Text) :
    choice.variantFor language =
      (firstGiven [choice.variant, (choice.variants.get? language).join]).or
        choice.defaultVariant :=
  foldr_orElse [choice.variant, (choice.variants.get? language).join] choice.defaultVariant

/-- With a language and a template, the location is the template filled in. -/
theorem resolve_eq {choice : ModelChoice} {declared : Option Text} {language template : Text}
    (languageGiven : firstGiven [choice.language, declared] = some language)
    (templateGiven : (firstGiven [choice.location]).or choice.template = some template)
    (directory : Text) :
    choice.resolve declared directory =
      ((fill (valueOf directory language (choice.variantFor language)) template).mapError
        (.template template)).map fun location =>
          { location, language, variant := choice.variantFor language } := by
  have chosen : orElse choice.location choice.template = some template :=
    (foldr_orElse [choice.location] choice.template).trans templateGiven
  rw [← languageFor_eq] at languageGiven
  simp only [resolve, languageGiven, chosen]
  cases fill (valueOf directory language (choice.variantFor language)) template <;> rfl

/-- The location is what the pieces of the template stand for, each read once. It is missing
for faulty templates and for no others, and without a language. The template is that of the
choice's own location if there is one, and a variant that is not given anywhere is the
standard one as it is. -/
theorem resolve_fills_once (choice : ModelChoice) (declared : Option Text) (directory : Text) :
    (∀ language template variant, firstGiven [choice.language, declared] = some language →
      (firstGiven [choice.location]).or choice.template = some template →
      (firstGiven [choice.variant, (choice.variants.get? language).join]).or
        choice.defaultVariant = variant →
      (∀ pieces : List Piece, template = pieces.flatMap Piece.written →
        choice.resolve declared directory = .ok {
          location := pieces.flatMap (Piece.meaning (Key.value directory language variant))
          language
          variant }) ∧
      ((∃ fault, choice.resolve declared directory = .error (.template template fault)) ↔
        Faulty Key.names template)) ∧
    (firstGiven [choice.language, declared] = none →
      choice.resolve declared directory = .error .noLanguage) := by
  constructor
  · intro language template variant languageGiven templateGiven variantGiven
    rw [← variantFor_eq] at variantGiven
    rw [resolve_eq languageGiven templateGiven, variantGiven]
    constructor
    · intro pieces equal
      have filled : fill (valueOf directory language variant) template =
          .ok (pieces.flatMap (Piece.meaning (Key.value directory language variant))) := by
        rw [equal, (reads_pieces pieces).fill_eq, contents_pieces]
      rw [filled]
      rfl
    · rw [← fill_eq_error_iff (valueOf_eq_none_iff directory language variant)]
      cases fill (valueOf directory language variant) template <;>
        simp [Except.map, Except.mapError]
  · intro none
    rw [← languageFor_eq] at none
    simp only [resolve, none]

/-- Literals and values are full of dollar signs, braces and whole placeholders. Behind two
dollar signs a third begins no reference, and a name without braces is taken to its end. -/
theorem resolve_fills_once_verbatim :
    let choice : ModelChoice := {
      template := some "$oops".toList
      location := some "$$$${language}/${variant}$${variant}".toList
      variant := some []
      variants := [("de".toList, some "${language}$".toList)] }
    let broken (template : Text) : ModelChoice := { template := some template }
    choice.resolve (some "de".toList) [] =
        .ok ⟨"$${language}/${language}$${variant}".toList, "de".toList,
          some "${language}$".toList⟩ ∧
      (∃ fault, (broken "$$$-".toList).resolve (some "de".toList) [] =
        .error (.template "$$$-".toList fault)) ∧
      (∃ fault, (broken "$languages".toList).resolve (some "de".toList) [] =
        .error (.template "$languages".toList fault)) ∧
      choice.resolve (some []) [] = .error .noLanguage := by
  intro choice broken
  have stuck : ∀ reference rest, ¬ Begins ['-'] reference rest := by
    intro reference rest begins
    rcases reference?_of_begins begins with ⟨length, found, _⟩
    have nothing : reference? ['-'] = none := by decide
    cases nothing.symm.trans found
  have invalid : Faulty Key.names "$$$-".toList := .invalid (.mark .dollar .nil) stuck
  have unknown : Faulty Key.names "$languages".toList := by
    have begins : Begins "languages".toList (.named "languages".toList) [] :=
      begins_of_reference? (by decide : _ = some (.named "languages".toList, 9))
    exact .unknown (.mark begins .nil) List.mem_cons_self (by decide)
  have faulty (template : Text) (isFaulty : Faulty Key.names template) :
      ∃ fault, (broken template).resolve (some "de".toList) [] =
        .error (.template template fault) :=
    (((broken template).resolve_fills_once (some "de".toList) []).1 "de".toList template _ rfl
      rfl rfl).2.mpr isFaulty
  have pieces : choice.location = some ([Piece.literal "$${language}/".toList,
      .reference .variant, .literal "${variant}".toList].flatMap Piece.written) := by decide
  refine ⟨?_, faulty _ invalid, faulty _ unknown, ?_⟩
  · have filled := ((choice.resolve_fills_once (some "de".toList) []).1 "de".toList _
      (some "${language}$".toList) rfl (by rw [pieces]; rfl) (by decide)).1 _ rfl
    rw [filled]
    decide
  · exact (choice.resolve_fills_once (some []) []).2 (by decide)

end ModelChoice

end Standoff
