import Standoff.Proofs.Channel.Exchange
import Standoff.Proofs.LineStream

/-! A tool that gives each form back with a tag behind it. A tag is read from the second
field of a line, so that a form gets its own tag unless a field of the form itself comes
second. -/

namespace Standoff

/-! ## Lines that are given back -/

/-- A tag that is read as it is written when it is the field of a line. -/
structure Readable (tag : Text) : Prop where
  nonempty : tag ≠ []
  trimmed : Text.trim tag = tag
  undivided : '\t' ∉ tag
  unbroken : tag.Unbroken

instance (tag : Text) : Decidable (Readable tag) :=
  decidable_of_iff
    (tag ≠ [] ∧ Text.trim tag = tag ∧ '\t' ∉ tag ∧ '\n' ∉ tag ∧ '\r' ∉ tag)
    ⟨fun ⟨nonempty, trimmed, undivided, unbroken⟩ => ⟨nonempty, trimmed, undivided, unbroken⟩,
      fun ⟨nonempty, trimmed, undivided, unbroken⟩ => ⟨nonempty, trimmed, undivided, unbroken⟩⟩

theorem Readable.not_isBlank {tag content : Text} (readable : Readable tag)
    (same : Text.trim content = tag) : ¬ Text.isBlank content :=
  fun blank => readable.nonempty (same.symm.trans (Text.trim_of_isBlank blank))

def echoLine (form tag : Text) : Text := form ++ '\t' :: tag

/-- The lines in which a sentence of forms and tags is given back. -/
def echo (sentence : List (Text × Text)) : List Text :=
  sentence.map (fun token => echoLine token.1 token.2) ++ [[]]

theorem unbroken_echoLine {form tag : Text} (formUnbroken : form.Unbroken)
    (tagUnbroken : tag.Unbroken) : (echoLine form tag).Unbroken := by
  simpa [echoLine, Text.Unbroken, and_and_and_comm] using ⟨formUnbroken, tagUnbroken⟩

theorem unbroken_of_mem_echo {sentence : List (Text × Text)} {line : Text}
    (member : line ∈ echo sentence)
    (unbroken : ∀ token ∈ sentence, token.1.Unbroken ∧ token.2.Unbroken) : line.Unbroken := by
  rw [echo, List.mem_append, List.mem_map, List.mem_singleton] at member
  rcases member with ⟨token, inSentence, rfl⟩ | rfl
  · exact unbroken_echoLine (unbroken token inSentence).1 (unbroken token inSentence).2
  · exact ⟨nofun, nofun⟩

/-- If a form has a second field, it reads as the tag. -/
def Keeps (form tag : Text) : Prop :=
  ∀ content ∈ (Text.fields '\t' form)[1]?, Text.trim content = tag

instance (form tag : Text) : Decidable (Keeps form tag) := by
  unfold Keeps
  infer_instance

theorem keeps_of_not_mem {form : Text} (undivided : '\t' ∉ form) (tag : Text) :
    Keeps form tag := by
  simp [Keeps, Text.fields_of_not_mem undivided]

theorem fieldAt?_echo {form tag : Text} (readable : Readable tag) (unbroken : form.Unbroken) :
    fieldAt? (Text.pieces ['\t'] (Text.chomp (echoLine form tag ++ ['\n']))) 1 =
      some ((Text.fields '\t' form)[1]?.getD tag) := by
  rw [Text.chomp_of_ended (unbroken_echoLine unbroken readable.unbroken) (Text.ended_lineFeed _),
    Text.pieces_singleton, echoLine, Text.fields_append readable.undivided]
  cases found : Text.fields '\t' form with
  | nil => exact absurd found (Text.fields_ne_nil '\t' form)
  | cons first others => cases others <;> rfl

theorem tagLine_echo_iff {form tag : Text} (readable : Readable tag)
    (unbroken : form.Unbroken) :
    TagLine ['\t'] 1 (echoLine form tag ++ ['\n']) tag ↔ Keeps form tag := by
  have field := fieldAt?_echo readable unbroken
  have visible : ¬ Text.isBlank (echoLine form tag ++ ['\n']) := by
    intro blank
    simp only [Text.isBlank, echoLine, List.all_append, List.all_cons, Bool.and_eq_true] at blank
    exact readable.not_isBlank readable.trimmed blank.1.2.2
  constructor
  · rintro ⟨_, content, found, _, same⟩ second isSecond
    rw [Option.mem_def] at isSecond
    rw [field, isSecond] at found
    cases found
    exact same.symm
  · intro keeps
    refine ⟨visible, _, field, ?_⟩
    cases second : (Text.fields '\t' form)[1]? with
    | none => exact ⟨readable.not_isBlank readable.trimmed, readable.trimmed.symm⟩
    | some content =>
        have same := keeps content second
        exact ⟨readable.not_isBlank same, same.symm⟩

section

variable {sentence : List (Text × Text)} {behind rest : List (Except ReadFault Text)}

theorem tagLines_echo_iff (readable : ∀ token ∈ sentence, Readable token.2)
    (unbroken : ∀ token ∈ sentence, token.1.Unbroken) :
    TagLines ['\t'] 1
        (sentence.map (fun token => .ok (echoLine token.1 token.2 ++ ['\n'])) ++ behind)
        (sentence.map (·.2)) rest ↔
      (∀ token ∈ sentence, Keeps token.1 token.2) ∧ rest = behind := by
  induction sentence with
  | nil =>
      constructor
      · intro lines
        cases lines
        exact ⟨nofun, rfl⟩
      · rintro ⟨_, rfl⟩
        exact .nil
  | cons token later induction =>
      rw [List.forall_mem_cons] at readable unbroken
      have here := tagLine_echo_iff readable.1 unbroken.1
      have there := induction readable.2 unbroken.2
      rw [List.forall_mem_cons]
      constructor
      · rintro (_ | ⟨line, lines⟩)
        exact ⟨⟨here.mp line, (there.mp lines).1⟩, (there.mp lines).2⟩
      · rintro ⟨⟨keeps, keepsLater⟩, equal⟩
        exact .cons (here.mpr keeps) (there.mpr ⟨keepsLater, equal⟩)

/-- A sentence is given back as a block of answers for its tags exactly when each of its
forms keeps its tag. -/
theorem block_echo_iff (readable : ∀ token ∈ sentence, Readable token.2)
    (unbroken : ∀ token ∈ sentence, token.1.Unbroken) :
    Block ['\t'] 1 ((echo sentence).map (fun line => .ok (line ++ ['\n'])) ++ behind)
        (sentence.map (·.2)) rest ↔
      (∀ token ∈ sentence, Keeps token.1 token.2) ∧ rest = behind := by
  have answers : (echo sentence).map (fun line => (.ok (line ++ ['\n']) : Except ReadFault Text)) ++
      behind = sentence.map (fun token => .ok (echoLine token.1 token.2 ++ ['\n'])) ++
        .ok ['\n'] :: behind := by
    simp [echo]
  rw [answers, Block]
  constructor
  · rintro ⟨blank, _, lines⟩
    rcases (tagLines_echo_iff readable unbroken).mp lines with ⟨keeps, equal⟩
    cases equal
    exact ⟨keeps, rfl⟩
  · rintro ⟨keeps, rfl⟩
    exact ⟨['\n'], rfl, (tagLines_echo_iff readable unbroken).mpr ⟨keeps, rfl⟩⟩

end

/-! ## Requests one after the other -/

namespace Tool

def requests (tool : Tool) :
    List (List Text) → List (Except ChannelError (List Text)) × Tool
  | [] => ([], tool)
  | forms :: rest =>
      let (result, tool) := tool.request forms
      let (results, tool) := tool.requests rest
      (result :: results, tool)

theorem Ready.requests_echo_iff {encoding : Encoding} {remaining : Option Nat} {tool : Tool}
    {sentences : List (List (Text × Text))}
    (ready : tool.Ready encoding remaining
      ((sentences.flatMap echo).map fun line => .ok (line ++ ['\n'])))
    (lasting : ∀ count ∈ remaining, sentences.length ≤ count)
    (accepted : ∀ sentence ∈ sentences,
      ∀ form ∈ sentence.map (·.1), Transmissible encoding form)
    (readable : ∀ sentence ∈ sentences, ∀ token ∈ sentence, Readable token.2) :
    (tool.requests (sentences.map (·.map (·.1)))).1 =
        sentences.map (fun sentence => .ok (sentence.map (·.2))) ↔
      ∀ sentence ∈ sentences, ∀ token ∈ sentence, Keeps token.1 token.2 := by
  -- What lies behind the block of one sentence is what the later sentences are given back
  -- in, so that each request finds the tool as ready as the one before.
  induction sentences generalizing tool remaining with
  | nil => exact ⟨fun _ => nofun, fun _ => rfl⟩
  | cons sentence later induction =>
      rw [List.forall_mem_cons] at accepted readable
      rcases accepted with ⟨transmissible, acceptedLater⟩
      rw [List.flatMap_cons, List.map_append] at ready
      have working : remaining ≠ some 0 := by
        intro broken
        exact absurd (lasting 0 broken) (Nat.not_succ_le_zero _)
      have lastingLater : ∀ count ∈ remaining.map (· - 1), later.length ≤ count := by
        intro count left
        rcases Option.map_eq_some_iff.mp left with ⟨before, isLeft, rfl⟩
        exact Nat.le_sub_one_of_lt (lasting before isLeft)
      have unbroken : ∀ token ∈ sentence, token.1.Unbroken := by
        intro token member
        exact (transmissible token.1 (List.mem_map_of_mem member)).1.2
      have block := fun rest => @block_echo_iff sentence
        ((later.flatMap echo).map fun line => .ok (line ++ ['\n'])) rest readable.1 unbroken
      rw [List.forall_mem_cons, List.map_cons, List.map_cons]
      constructor
      · intro answered
        rw [requests, List.cons.injEq] at answered
        rcases block_of_request ready (Prod.ext answered.1 rfl) with
          ⟨_, _, rest, found, _, readyAfter⟩
        rcases (block rest).mp found with ⟨keeps, rfl⟩
        exact ⟨keeps,
          (induction readyAfter lastingLater acceptedLater readable.2).mp answered.2⟩
      · rintro ⟨keeps, keepsLater⟩
        have whole := (block _).mpr ⟨keeps, rfl⟩
        rcases request_of_block ready working transmissible whole (by simp) with
          ⟨after, requested, readyAfter⟩
        have results := (induction readyAfter lastingLater acceptedLater readable.2).mpr keepsLater
        simp only [requests, requested, results]

/-- Forms that a tool accepts get their own tags back if none of them has a tab, and in
general exactly when each of them keeps its tag. The encoding is one of the three of
`Encoding`, the pipe lasts for all of the sentences, and what the tool gives back may arrive
in any pieces, line by line or otherwise. -/
theorem requests_echo {program : Program} {command : List Text} {name : Text}
    {period : Option Int} {encoding : Encoding} {tool : Tool}
    {sentences : List (List (Text × Text))}
    (started : start program command name { gracePeriod := period } = .ok tool)
    (known : Encoding.named name = .ok encoding)
    (lasting : ∀ count ∈ program.inputBreaksAfter, sentences.length ≤ count)
    (accepted : ∀ sentence ∈ sentences,
      ∃ writer, tool.writer.send (sentence.map (·.1)) = (.ok (), writer))
    (readable : ∀ sentence ∈ sentences, ∀ token ∈ sentence, Readable token.2)
    (faithful : encoding.encode ((sentences.flatMap echo).flatMap fun line => line ++ ['\n']) =
      .ok program.output.flatten) :
    ((∀ sentence ∈ sentences, ∀ token ∈ sentence, '\t' ∉ token.1) →
      (tool.requests (sentences.map (·.map (·.1)))).1 =
        sentences.map fun sentence => .ok (sentence.map (·.2))) ∧
    ((tool.requests (sentences.map (·.map (·.1)))).1 =
        sentences.map (fun sentence => .ok (sentence.map (·.2))) ↔
      ∀ sentence ∈ sentences, ∀ token ∈ sentence, Keeps token.1 token.2) := by
  rcases ready_of_start started with ⟨_, same, ready⟩
  obtain rfl := Except.ok.inj (known.symm.trans same)
  have transmissible : ∀ sentence ∈ sentences,
      ∀ form ∈ sentence.map (·.1), Transmissible encoding form :=
    fun sentence member => (ready.send_eq_ok_iff.mp (accepted sentence member)).2
  have unbroken : ∀ line ∈ sentences.flatMap echo, line.Unbroken := by
    intro line member
    rcases List.mem_flatMap.mp member with ⟨sentence, inSentences, inEcho⟩
    apply unbroken_of_mem_echo inEcho
    intro token inSentence
    have sent := transmissible sentence inSentences token.1 (List.mem_map_of_mem inSentence)
    exact ⟨sent.1.2, (readable sentence inSentences token inSentence).unbroken⟩
  rw [LineStream.answers_ofPieces unbroken faithful] at ready
  have answered := ready.requests_echo_iff lasting transmissible readable
  refine ⟨fun undivided => answered.mpr ?_, answered⟩
  intro sentence inSentences token inSentence
  exact keeps_of_not_mem (undivided sentence inSentences token inSentence) token.2

/-- A form that is white space, one whose own second field is its tag, and a sentence
without tokens. The pipe breaks right after the last of them. -/
theorem requests_echo_white_space :
    let sentences : List (List (Text × Text)) :=
      [[([' '], "SP".toList), ("a\tNN".toList, "NN".toList)], [], [("ü".toList, ['.'])]]
    let lines := (sentences.flatMap echo).flatMap fun line => line ++ ['\n']
    let bytes := lines.flatMap Encoding.latin1.encodeCharacter
    let program : Program := { output := Bytes.lineWise bytes, inputBreaksAfter := some 3 }
    ∃ tool, start program ["tagger".toList] "latin1".toList {} = .ok tool ∧
      (tool.requests (sentences.map (·.map (·.1)))).1 =
        sentences.map fun sentence => .ok (sentence.map (·.2)) := by
  intro sentences lines bytes program
  have started : ∃ tool, start program ["tagger".toList] "latin1".toList {} = .ok tool :=
    exists_start rfl rfl nofun
  rcases started with ⟨tool, started⟩
  refine ⟨tool, started, ?_⟩
  have lasting : ∀ count ∈ program.inputBreaksAfter, sentences.length ≤ count := by decide
  have accepted : ∀ sentence ∈ sentences,
      ∃ writer, tool.writer.send (sentence.map (·.1)) = (.ok (), writer) := by
    cases started
    simp only [sentences, List.forall_mem_cons]
    exact ⟨⟨_, rfl⟩, ⟨_, rfl⟩, ⟨_, rfl⟩, nofun⟩
  have whole : program.output.flatten = bytes := Bytes.lineWise_flatten bytes
  have faithful : Encoding.latin1.encode lines = .ok program.output.flatten := by
    rw [whole]
    rfl
  have echoed := requests_echo started rfl lasting accepted (by decide) faithful
  exact echoed.2.mpr (by decide)

/-- A form with a tab takes the place of its tag. -/
theorem requests_echo_tab :
    let form := "a\tb".toList
    let tag := "NN".toList
    let lines := (echo [(form, tag)]).flatMap fun line => line ++ ['\n']
    let program : Program := { output := [lines.flatMap Encoding.utf8.encodeCharacter] }
    ∃ tool, start program ["tagger".toList] "utf8".toList {} = .ok tool ∧
      (∃ writer, tool.writer.send [form] = (.ok (), writer)) ∧ Readable tag ∧
      Encoding.utf8.encode lines = .ok program.output.flatten ∧
      (tool.requests [[form]]).1 = [.ok [['b']]] ∧ [['b']] ≠ [tag] := by
  intro form tag lines program
  exact ⟨_, rfl, ⟨_, rfl⟩, by decide, rfl, rfl, by decide⟩

end Tool

end Standoff
