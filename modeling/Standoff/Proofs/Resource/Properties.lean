import Standoff.Proofs.List
import Standoff.Proofs.StoredText
import Standoff.Resource.Properties

/-! What the lines of a property file say. A line enters a value under a key, or it is silent,
or it cannot be read. Of all values that lines enter under a key the last one counts. -/

namespace Standoff.Properties

/-! ## Single lines -/

/-- A blank line or a comment. -/
def Silent (line : Text) : Prop := Text.trim line = [] ∨ (Text.trim line).head? = some '#'

/-- A line that is no comment has this key in front of its first equals sign and this value
behind it. -/
def Enters (line key value : Text) : Prop :=
  (Text.trim line).head? ≠ some '#' ∧ ∃ left right, '=' ∉ left ∧
    Text.trim line = left ++ '=' :: right ∧ key = Text.trim left ∧ value = Text.trim right

def Readable (line : Text) : Prop := Silent line ∨ '=' ∈ Text.trim line

instance (line : Text) : Decidable (Silent line) := by
  unfold Silent
  infer_instance

instance (line : Text) : Decidable (Readable line) := by
  unfold Readable
  infer_instance

section

variable {line key value : Text}

theorem Enters.not_silent (enters : Enters line key value) : ¬ Silent line := by
  rcases enters with ⟨visible, left, right, _, split, _⟩
  intro silent
  rcases silent with empty | comment
  · rw [split] at empty
    exact List.append_ne_nil_of_right_ne_nil left (List.cons_ne_nil '=' right) empty
  · exact visible comment

theorem Enters.readable (enters : Enters line key value) : Readable line := by
  rcases enters with ⟨_, left, right, _, split, _⟩
  refine .inr ?_
  rw [split]
  exact List.mem_append_right left List.mem_cons_self

theorem Silent.readLine_eq (silent : Silent line) (source : Text) (number : Nat) :
    readLine source number line = .ok none := by
  rw [readLine]
  exact if_pos silent

theorem Enters.readLine_eq (enters : Enters line key value) (source : Text) (number : Nat) :
    readLine source number line = .ok (some (key, value)) := by
  have audible := enters.not_silent
  rcases enters with ⟨_, left, right, absent, split, rfl, rfl⟩
  have cut : Text.cut '=' (Text.trim line) = some (left, right) :=
    Text.cut_eq_some_iff.mpr ⟨split, absent⟩
  simp only [readLine, cut]
  exact if_neg audible

theorem Enters.unique {otherKey otherValue : Text} (enters : Enters line key value)
    (other : Enters line otherKey otherValue) : key = otherKey ∧ value = otherValue := by
  have read := enters.readLine_eq [] 1
  rw [other.readLine_eq [] 1] at read
  cases read
  exact ⟨rfl, rfl⟩

theorem readLine_cases (source : Text) (number : Nat) (line : Text) :
    (Silent line ∧ readLine source number line = .ok none) ∨
    (∃ key value, Enters line key value ∧
      readLine source number line = .ok (some (key, value))) ∨
    (¬ Readable line ∧
      readLine source number line = .error ⟨number, source, Text.trim line⟩) := by
  by_cases silent : Silent line
  · exact .inl ⟨silent, silent.readLine_eq source number⟩
  · cases cut : Text.cut '=' (Text.trim line) with
    | some sides =>
        rcases Text.cut_eq_some_iff.mp cut with ⟨split, absent⟩
        have enters : Enters line (Text.trim sides.1) (Text.trim sides.2) :=
          ⟨fun comment => silent (.inr comment), _, _, absent, split, rfl, rfl⟩
        exact .inr (.inl ⟨_, _, enters, enters.readLine_eq source number⟩)
    | none =>
        refine .inr (.inr ⟨?_, ?_⟩)
        · intro readable
          rcases readable with blank | divided
          · exact silent blank
          · exact Text.not_mem_of_cut cut divided
        · simp only [readLine, cut]
          exact if_neg silent

def entered? (line : Text) : Option (Text × Text) := (readLine [] 1 line).toOption.join

theorem enters_iff : Enters line key value ↔ entered? line = some (key, value) := by
  constructor
  · intro enters
    rw [entered?, enters.readLine_eq]
    rfl
  · intro entered
    rw [entered?] at entered
    rcases readLine_cases [] 1 line with ⟨_, here⟩ | ⟨first, second, enters, here⟩ | ⟨_, here⟩
    · rw [here] at entered
      cases entered
    · rw [here] at entered
      cases entered
      exact enters
    · rw [here] at entered
      cases entered

instance : Decidable (Enters line key value) := decidable_of_iff _ enters_iff.symm

end

/-! ## The last line for a key -/

/-- No line enters anything under a key. -/
def Unlisted (lines : List Text) (key : Text) : Prop :=
  ∀ line ∈ lines, ∀ value, ¬ Enters line key value

theorem unlisted_iff {lines : List Text} {key : Text} :
    Unlisted lines key ↔ ∀ line ∈ lines, (entered? line).map (·.1) ≠ some key := by
  apply forall₂_congr
  intro line _
  cases entered : entered? line with
  | none => simp [enters_iff, entered]
  | some entry =>
      rcases entry with ⟨first, value⟩
      simp [enters_iff, entered]

instance (lines : List Text) (key : Text) : Decidable (Unlisted lines key) :=
  decidable_of_iff _ unlisted_iff.symm

/-- The last line that enters something under a key enters this value. -/
def LastEnters (lines : List Text) (key value : Text) : Prop :=
  ∃ front line back, lines = front ++ line :: back ∧ Enters line key value ∧
    Unlisted back key

section

variable {lines : List Text} {line key value : Text}

theorem LastEnters.exists_enters (last : LastEnters lines key value) :
    ∃ line ∈ lines, Enters line key value := by
  rcases last with ⟨front, line, back, rfl, enters, _⟩
  exact ⟨line, List.mem_append_right front List.mem_cons_self, enters⟩

theorem exists_lastEnters (member : line ∈ lines) (enters : Enters line key value) :
    ∃ last, LastEnters lines key last := by
  have listed : ∃ line ∈ lines, ∃ value, Enters line key value := ⟨line, member, value, enters⟩
  rcases List.exists_last listed with ⟨front, found, back, split, ⟨last, entersLast⟩, without⟩
  refine ⟨last, front, found, back, split, entersLast, ?_⟩
  intro later inBack other entersLater
  exact without later inBack ⟨other, entersLater⟩

theorem not_lastEnters_iff : (∀ value, ¬ LastEnters lines key value) ↔ Unlisted lines key := by
  constructor
  · intro none line member value enters
    rcases exists_lastEnters member enters with ⟨last, lastEnters⟩
    exact none last lastEnters
  · intro unlisted value last
    rcases last.exists_enters with ⟨line, member, enters⟩
    exact unlisted line member value enters

theorem unlisted_cons_iff : Unlisted (line :: lines) key ↔
    (∀ value, ¬ Enters line key value) ∧ Unlisted lines key :=
  List.forall_mem_cons

/-- A line counts if no later one enters anything under the same key. -/
theorem lastEnters_cons_iff : LastEnters (line :: lines) key value ↔
    LastEnters lines key value ∨ (Unlisted lines key ∧ Enters line key value) := by
  constructor
  · intro last
    rcases last with ⟨_ | ⟨first, front⟩, found, back, split, enters, unlisted⟩
    · cases split
      exact .inr ⟨unlisted, enters⟩
    · cases split
      exact .inl ⟨front, found, back, rfl, enters, unlisted⟩
  · intro known
    rcases known with ⟨front, found, back, rfl, enters, unlisted⟩ | ⟨unlisted, enters⟩
    · exact ⟨line :: front, found, back, rfl, enters, unlisted⟩
    · exact ⟨[], line, lines, rfl, enters, unlisted⟩

end

/-! ## All lines -/

section

variable {source : Text} {number : Nat} {properties read : Properties} {lines : List Text}

theorem exists_readLinesFrom_cons {line : Text} (readable : Readable line) (source : Text)
    (number : Nat) (properties : Properties) :
    ∃ after, ∀ rest, readLinesFrom source number properties (line :: rest) =
      readLinesFrom source (number + 1) after rest := by
  rcases readLine_cases source number line with
    ⟨_, here⟩ | ⟨key, value, _, here⟩ | ⟨unreadable, _⟩
  · refine ⟨properties, fun rest => ?_⟩
    rw [readLinesFrom, here]
  · refine ⟨Dictionary.set key value properties, fun rest => ?_⟩
    rw [readLinesFrom, here]
  · exact absurd readable unreadable

theorem exists_readLinesFrom (readable : ∀ line ∈ lines, Readable line) (source : Text)
    (number : Nat) (properties : Properties) :
    ∃ read, readLinesFrom source number properties lines = .ok read := by
  induction lines generalizing number properties with
  | nil => exact ⟨properties, rfl⟩
  | cons line rest induction =>
      rw [List.forall_mem_cons] at readable
      rcases exists_readLinesFrom_cons readable.1 source number properties with ⟨after, goesOn⟩
      rw [goesOn]
      exact induction readable.2 (number + 1) after

theorem readLinesFrom_of_unreadable {front back : List Text} {line : Text}
    (readable : ∀ earlier ∈ front, Readable earlier) (unreadable : ¬ Readable line)
    (source : Text) (number : Nat) (properties : Properties) :
    readLinesFrom source number properties (front ++ line :: back) =
      .error ⟨number + front.length, source, Text.trim line⟩ := by
  induction front generalizing number properties with
  | nil =>
      rcases readLine_cases source number line with ⟨silent, _⟩ | ⟨_, _, enters, _⟩ | ⟨_, here⟩
      · exact absurd (.inl silent) unreadable
      · exact absurd enters.readable unreadable
      · rw [List.nil_append, readLinesFrom, here]
        rfl
  | cons first rest induction =>
      rw [List.forall_mem_cons] at readable
      rcases exists_readLinesFrom_cons readable.1 source number properties with ⟨after, goesOn⟩
      rw [List.cons_append, goesOn, induction readable.2 (number + 1) after, List.length_cons,
        Nat.add_assoc, Nat.add_comm 1]

theorem exists_readLines (readable : ∀ line ∈ lines, Readable line) (source : Text) :
    ∃ read, readLines source lines = .ok read :=
  exists_readLinesFrom readable source 1 []

theorem readLines_of_unreadable (unreadable : ¬ ∀ line ∈ lines, Readable line) (source : Text) :
    ∃ front line back, lines = front ++ line :: back ∧
      (∀ earlier ∈ front, Readable earlier) ∧ ¬ Readable line ∧
      readLines source lines = .error ⟨front.length + 1, source, Text.trim line⟩ := by
  push Not at unreadable
  rcases List.exists_first_not unreadable with ⟨front, line, back, split, readable, here⟩
  refine ⟨front, line, back, split, readable, here, ?_⟩
  rw [split, Nat.add_comm]
  exact readLinesFrom_of_unreadable readable here source 1 []

/-- What is read under a key is the value of the last line for it, or else what was there
before. -/
theorem get?_readLinesFrom (reads : readLinesFrom source number properties lines = .ok read)
    (key value : Text) :
    Dictionary.get? read key = some value ↔ LastEnters lines key value ∨
      (Unlisted lines key ∧ Dictionary.get? properties key = some value) := by
  induction lines generalizing number properties with
  | nil =>
      cases reads
      have none : ¬ LastEnters [] key value := by
        intro last
        rcases last.exists_enters with ⟨_, member, _⟩
        cases member
      have unlisted : Unlisted [] key := nofun
      simp only [none, unlisted, false_or, true_and]
  | cons line rest induction =>
      rw [readLinesFrom] at reads
      rw [lastEnters_cons_iff, unlisted_cons_iff]
      rcases readLine_cases source number line with
        ⟨silent, here⟩ | ⟨first, entered, enters, here⟩ | ⟨_, here⟩
      · have nothing : ∀ key value, ¬ Enters line key value :=
          fun key value enters => enters.not_silent silent
        rw [here] at reads
        rw [induction reads]
        simp only [nothing, not_false_eq_true, implies_true, true_and, and_false, or_false]
      · rw [here] at reads
        rw [induction reads]
        by_cases same : first = key
        · subst same
          have only : Enters line first value ↔ entered = value :=
            ⟨fun other => (enters.unique other).2, fun equal => equal ▸ enters⟩
          have listed : ¬ ∀ other, ¬ Enters line first other := fun none => none entered enters
          simp only [Dictionary.get?_set_self, Option.some.injEq, only, listed, false_and, or_false]
        · have other : ∀ value, ¬ Enters line key value :=
            fun value there => same (enters.unique there).1
          rw [Dictionary.get?_set_of_ne _ _ (Ne.symm same)]
          simp only [other, not_false_eq_true, implies_true, true_and, and_false, or_false]
      · rw [here] at reads
        cases reads

theorem get?_readLines (reads : readLines source lines = .ok read) (key value : Text) :
    Dictionary.get? read key = some value ↔ LastEnters lines key value := by
  rw [get?_readLinesFrom reads key value]
  simp

theorem get?_readLines_eq_none (reads : readLines source lines = .ok read) (key : Text) :
    Dictionary.get? read key = none ↔ Unlisted lines key := by
  rw [← not_lastEnters_iff, Option.eq_none_iff_forall_ne_some]
  simp only [ne_eq, get?_readLines reads]

end

/-! ## Entries that are written -/

def row (entry : Text × Text) : Text := entry.1 ++ '=' :: entry.2

example : row ("$(".toList, "=D".toList) = "$(==D".toList := by decide

/-- An entry whose line says what it is. -/
structure Writable (entry : Text × Text) : Prop where
  keyTrimmed : Text.trim entry.1 = entry.1
  valueTrimmed : Text.trim entry.2 = entry.2
  undivided : '=' ∉ entry.1
  uncommented : entry.1.head? ≠ some '#'

/-- Lines for entries in any order, with silent lines between them. -/
def Lists (entries : List (Text × Text)) (written : List Text) : Prop :=
  ∃ others, (∀ other ∈ others, Silent other) ∧ written.Perm (entries.map row ++ others)

/-- White space around a line does not change what it says. -/
theorem enters_congr {line other : Text} (same : Text.trim line = Text.trim other)
    (key value : Text) : Enters line key value ↔ Enters other key value := by
  rw [Enters, Enters, same]

theorem silent_congr {line other : Text} (same : Text.trim line = Text.trim other) :
    Silent line ↔ Silent other := by
  rw [Silent, Silent, same]

theorem Writable.enters {entry : Text × Text} (writable : Writable entry) :
    Enters (row entry) entry.1 entry.2 := by
  have trimmed : Text.trim (row entry) = row entry :=
    Text.trim_append_cons writable.keyTrimmed writable.valueTrimmed (by decide)
  refine ⟨?_, entry.1, entry.2, writable.undivided, trimmed, writable.keyTrimmed.symm,
    writable.valueTrimmed.symm⟩
  rw [trimmed, row, List.head?_append]
  cases begins : entry.1.head? with
  | none => simp
  | some first =>
      rw [Option.some_or, ← begins]
      exact writable.uncommented

section

variable {entries : Properties} {written lines : List Text}
  (writable : ∀ entry ∈ entries, Writable entry) (lists : Lists entries written)
  (ended : List.Forall₂ Text.Ended written lines)

include writable lists ended

theorem line_of_lists {line : Text} (member : line ∈ lines) :
    (∃ entry ∈ entries, Enters line entry.1 entry.2) ∨ Silent line := by
  rcases lists with ⟨others, silent, perm⟩
  rcases List.exists_left_of_forall₂ ended member with ⟨source, inWritten, endedHere⟩
  have same := endedHere.trim_eq
  rcases List.mem_append.mp (perm.mem_iff.mp inWritten) with inRows | inOthers
  · rcases List.mem_map.mp inRows with ⟨entry, inEntries, rfl⟩
    exact .inl ⟨entry, inEntries, (enters_congr same _ _).mpr (writable entry inEntries).enters⟩
  · exact .inr ((silent_congr same).mpr (silent source inOthers))

theorem exists_enters_iff {key value : Text} :
    (∃ line ∈ lines, Enters line key value) ↔ (key, value) ∈ entries := by
  constructor
  · intro entered
    rcases entered with ⟨line, member, enters⟩
    rcases line_of_lists writable lists ended member with ⟨entry, inEntries, other⟩ | silent
    · rcases enters.unique other with ⟨rfl, rfl⟩
      exact inEntries
    · exact absurd silent enters.not_silent
  · intro member
    rcases lists with ⟨others, _, perm⟩
    have inWritten : row (key, value) ∈ written :=
      perm.mem_iff.mpr (List.mem_append_left others (List.mem_map_of_mem member))
    rcases List.exists_right_of_forall₂ ended inWritten with ⟨line, inLines, endedHere⟩
    exact ⟨line, inLines, (enters_congr endedHere.trim_eq _ _).mpr (writable _ member).enters⟩

/-- Entries are read back, however they are arranged. -/
theorem exists_readLines_of_lists (distinct : (Dictionary.keys entries).Nodup) (source : Text) :
    ∃ read, readLines source lines = .ok read ∧
      ∀ key, Dictionary.get? read key = Dictionary.get? entries key := by
  have readable : ∀ line ∈ lines, Readable line := by
    intro line member
    rcases line_of_lists writable lists ended member with ⟨entry, _, enters⟩ | silent
    · exact enters.readable
    · exact .inl silent
  rcases exists_readLines readable source with ⟨read, reads⟩
  refine ⟨read, reads, fun key => Option.ext fun value => ?_⟩
  rw [get?_readLines reads, Dictionary.get?_eq_some_iff distinct]
  constructor
  · intro last
    exact (exists_enters_iff writable lists ended).mp last.exists_enters
  · intro member
    rcases (exists_enters_iff writable lists ended).mpr member with ⟨line, inLines, enters⟩
    rcases exists_lastEnters inLines enters with ⟨other, last⟩
    have otherMember := (exists_enters_iff writable lists ended).mp last.exists_enters
    rw [← Dictionary.get?_eq_some_iff distinct] at member otherMember
    cases member.symm.trans otherMember
    exact last

end

/-! ## Files -/

theorem load_of_stores {tree : FileTree} {path encoding text : Text}
    (stores : tree.Stores path encoding text) :
    load tree path encoding =
      (readLines path (Text.lines (Text.unifyLineEnds text))).mapError .line := by
  simp only [load, stores.lines]
  cases readLines path (Text.lines (Text.unifyLineEnds text)) <;> rfl

end Standoff.Properties
