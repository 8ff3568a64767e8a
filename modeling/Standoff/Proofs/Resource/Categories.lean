import Standoff.Proofs.Resource.Properties
import Standoff.Resource.Categories

/-! A file means the table that its lines list. Which category a tag has can be read off the
lines alone, and a table that is written line by line is read back as it was. -/

namespace Standoff.CategoryTable

open Properties (Enters LastEnters Lists Readable Unlisted Writable)

/-! ## The category of a tag -/

/-- The category that lines assign to a tag: that of the last line for it, else that of the
last line for all other tags, else the category of what is unknown. -/
inductive Assigns (lines : List Text) (tag : Text) : Text → Prop
  | listed {value : Text} (last : LastEnters lines tag value) : Assigns lines tag value
  | other {value : Text} (unlisted : Unlisted lines tag)
      (last : LastEnters lines wildcard value) : Assigns lines tag value
  | unknown (unlisted : Unlisted lines tag) (nothing : Unlisted lines wildcard) :
      Assigns lines tag Category.other.name.toList

def ofEntries (entries : Properties) (fallback : Text) : CategoryTable where
  entries := entries.map fun entry => (entry.1, some entry.2)
  fallback := some fallback

/-- The entries of a table can be told apart in a file, and none of them looks like the
category of all other tags. -/
structure Listable (entries : Properties) (fallback : Text) : Prop where
  distinct : (Dictionary.keys entries).Nodup
  writable : ∀ entry ∈ entries, Writable entry
  named : wildcard ∉ Dictionary.keys entries
  trimmed : Text.trim fallback = fallback

/-- Once the wildcard is taken out, tags without an entry fall back on what it stood for. -/
theorem category_ofProperties (properties : Properties) (tag : Text) :
    (ofProperties properties).category tag =
      some (((Dictionary.get? properties tag).or (Dictionary.get? properties wildcard)).getD
        Category.other.name.toList) := by
  have fallback : (ofProperties properties).fallback =
      some ((Dictionary.get? properties wildcard).getD Category.other.name.toList) := by
    rw [ofProperties]
    cases Dictionary.get? properties wildcard <;> rfl
  have entries : (ofProperties properties).entries =
      (Dictionary.erase wildcard properties).map fun entry => (entry.1, some entry.2) := by
    rw [ofProperties]
    cases Dictionary.get? properties wildcard <;> rfl
  rw [category, entries, fallback, Dictionary.get?_map]
  by_cases same : tag = wildcard
  · rw [same, Dictionary.get?_erase_self]
    cases Dictionary.get? properties wildcard <;> rfl
  · rw [Dictionary.get?_erase_of_ne properties same]
    cases Dictionary.get? properties tag <;> rfl

theorem load_of_stores {tree : FileTree} {path text : Text}
    (stores : tree.Stores path Encoding.standard text) :
    load tree path =
      ((Properties.readLines path (Text.lines (Text.unifyLineEnds text))).mapError .line).map
        ofProperties := by
  rw [load, Properties.load_of_stores stores]

/-! ## Reading -/

section

variable {source : Text} {lines : List Text} {read : Properties}
  (reads : Properties.readLines source lines = .ok read)

include reads

theorem exists_assigns (tag : Text) :
    ∃ value, (ofProperties read).category tag = some value ∧ Assigns lines tag value := by
  rw [category_ofProperties]
  refine ⟨_, rfl, ?_⟩
  cases here : Dictionary.get? read tag with
  | some value =>
      exact .listed ((Properties.get?_readLines reads tag value).mp here)
  | none =>
      have unlisted := (Properties.get?_readLines_eq_none reads tag).mp here
      cases other : Dictionary.get? read wildcard with
      | some value =>
          exact .other unlisted ((Properties.get?_readLines reads wildcard value).mp other)
      | none =>
          exact .unknown unlisted ((Properties.get?_readLines_eq_none reads wildcard).mp other)

theorem category_of_assigns {tag value : Text} (assigns : Assigns lines tag value) :
    (ofProperties read).category tag = some value := by
  rw [category_ofProperties]
  cases assigns with
  | listed last =>
      rw [(Properties.get?_readLines reads tag value).mpr last]
      rfl
  | other unlisted last =>
      rw [(Properties.get?_readLines_eq_none reads tag).mpr unlisted,
        (Properties.get?_readLines reads wildcard value).mpr last]
      rfl
  | unknown unlisted nothing =>
      rw [(Properties.get?_readLines_eq_none reads tag).mpr unlisted,
        (Properties.get?_readLines_eq_none reads wildcard).mpr nothing]
      rfl

theorem assigns_only (tag : Text) :
    ∃ value, (ofProperties read).category tag = some value ∧
      ∀ other, Assigns lines tag other ↔ other = value := by
  rcases exists_assigns reads tag with ⟨value, here, assigns⟩
  refine ⟨value, here, ?_⟩
  intro other
  constructor
  · intro assignsOther
    have there := category_of_assigns reads assignsOther
    exact Option.some.inj (there.symm.trans here)
  · intro equal
    exact equal ▸ assigns

end

/-! ## Writing -/

def written (entries : Properties) (fallback : Text) : Properties :=
  entries ++ [(wildcard, fallback)]

section

variable {entries : Properties} {fallback : Text} (listable : Listable entries fallback)

include listable

theorem Listable.distinct_written : (Dictionary.keys (written entries fallback)).Nodup := by
  rw [Dictionary.keys, written, List.map_append]
  apply List.nodup_append.mpr
  refine ⟨listable.distinct, List.pairwise_singleton _ wildcard, ?_⟩
  intro key inEntries other last equal
  rw [equal, List.mem_singleton.mp last] at inEntries
  exact listable.named inEntries

theorem Listable.writable_written : ∀ entry ∈ written entries fallback, Writable entry := by
  have wild : Text.trim wildcard = wildcard ∧ '=' ∉ wildcard ∧ wildcard.head? ≠ some '#' := by
    decide
  intro entry member
  rcases List.mem_append.mp member with inEntries | last
  · exact listable.writable entry inEntries
  · rw [List.mem_singleton.mp last]
    exact ⟨wild.1, listable.trimmed, wild.2.1, wild.2.2⟩

theorem Listable.category_eq {read : Properties}
    (same : ∀ key, Dictionary.get? read key = Dictionary.get? (written entries fallback) key)
    (tag : Text) :
    (ofProperties read).category tag = (ofEntries entries fallback).category tag := by
  have looked (key : Text) : Dictionary.get? (written entries fallback) key =
      (Dictionary.get? entries key).or (if wildcard = key then some fallback else none) := by
    rw [written, Dictionary.get?_append, Dictionary.get?_cons, Dictionary.get?_nil]
  have named : Dictionary.get? entries wildcard = none := Dictionary.get?_eq_none listable.named
  rw [category_ofProperties, same, same, looked, looked, named, ofEntries, category,
    Dictionary.get?_map]
  cases Dictionary.get? entries tag with
  | some value => rfl
  | none => by_cases wild : wildcard = tag <;> simp [wild]

end

/-! ## Files -/

/-- A file whose lines can be read assigns each tag the one category that its lines say, and of
any other file the first line that cannot be read is named. A table that is written line by
line, in any order and with anything silent between the lines, is read back. -/
theorem load_means_table {tree : FileTree} {path text : Text}
    (stores : tree.Stores path Encoding.standard text) :
    let lines := Text.lines (Text.unifyLineEnds text)
    ((∀ line ∈ lines, Readable line) →
      ∃ table, load tree path = .ok table ∧ ∀ tag, ∃ value, table.category tag = some value ∧
        ∀ other, Assigns lines tag other ↔ other = value) ∧
    ((¬ ∀ line ∈ lines, Readable line) →
      ∃ front line back, lines = front ++ line :: back ∧
        (∀ earlier ∈ front, Readable earlier) ∧ ¬ Readable line ∧
        load tree path = .error (.line ⟨front.length + 1, path, Text.trim line⟩)) ∧
    ∀ entries fallback source, Listable entries fallback →
      Lists (written entries fallback) source → Text.HasLines source text →
      ∃ table, load tree path = .ok table ∧
        ∀ tag, table.category tag = (ofEntries entries fallback).category tag := by
  intro lines
  rw [load_of_stores stores]
  refine ⟨?_, ?_, ?_⟩
  · intro readable
    rcases Properties.exists_readLines readable path with ⟨read, reads⟩
    refine ⟨ofProperties read, ?_, assigns_only reads⟩
    rw [reads]
    rfl
  · intro unreadable
    rcases Properties.readLines_of_unreadable unreadable path with
      ⟨front, line, back, split, readable, here, failed⟩
    refine ⟨front, line, back, split, readable, here, ?_⟩
    rw [failed]
    rfl
  · intro entries fallback source listable lists hasLines
    rcases Properties.exists_readLines_of_lists listable.writable_written lists
      hasLines.ended_lines listable.distinct_written path with ⟨read, reads, same⟩
    refine ⟨ofProperties read, ?_, listable.category_eq same⟩
    rw [reads]
    rfl

/-- A comment with an equals sign, a tag that comes again with two equals signs, a line that
says nothing to a reader, and entries without characters behind the one for all other tags. -/
theorem load_means_table_of_odd_lines :
    let repeated := "NN = x\r# *=y\n\r\nNN=a=b\n *=O".toList
    let broken := "NN=N\n\n oops \r=".toList
    let arranged := "*=\n# x\r\n=\n \n$(==D".toList
    let file (content : Text) : FileEntry :=
      .file (content.flatMap Encoding.utf8.encodeCharacter) false
    let tree : FileTree :=
      [([['a']], file repeated), ([['b']], file broken), ([['c']], file arranged)]
    (∃ table, load tree ['a'] = .ok table ∧
      table.category "NN".toList = some "a=b".toList ∧
      table.category "VB".toList = some "O".toList) ∧
    load tree ['b'] = .error (.line ⟨3, ['b'], "oops".toList⟩) ∧
    ∃ table, load tree ['c'] = .ok table ∧
      ∀ tag, table.category tag =
        (ofEntries [("$(".toList, "=D".toList), ([], [])] []).category tag := by
  intro repeated broken arranged file tree
  have stores (path content : Text) (bytes : Bytes)
      (encoded : Encoding.utf8.encode content = .ok bytes)
      (stored : tree.content path = .ok bytes) : tree.Stores path Encoding.standard content :=
    ⟨.utf8, bytes, rfl, encoded, stored⟩
  refine ⟨?_, ?_, ?_⟩
  · rcases (load_means_table (stores ['a'] repeated _ rfl rfl)).1 (by decide) with
      ⟨table, loaded, assigned⟩
    have noun : Assigns (Text.lines (Text.unifyLineEnds repeated)) "NN".toList "a=b".toList :=
      .listed ⟨["NN = x\n".toList, "# *=y\n".toList, ['\n']], "NN=a=b\n".toList,
        [" *=O".toList], by decide, by decide, by decide⟩
    have verb : Assigns (Text.lines (Text.unifyLineEnds repeated)) "VB".toList "O".toList :=
      .other (by decide) ⟨["NN = x\n".toList, "# *=y\n".toList, ['\n'], "NN=a=b\n".toList],
        " *=O".toList, [], by decide, by decide, by decide⟩
    rcases assigned "NN".toList with ⟨first, firstCategory, onlyFirst⟩
    rcases assigned "VB".toList with ⟨second, secondCategory, onlySecond⟩
    refine ⟨table, loaded, ?_, ?_⟩
    · rw [firstCategory, (onlyFirst _).mp noun]
    · rw [secondCategory, (onlySecond _).mp verb]
  · rcases (load_means_table (stores ['b'] broken _ rfl rfl)).2.1 (by decide) with
      ⟨front, line, back, split, readable, unreadable, failed⟩
    have lines : Text.lines (Text.unifyLineEnds broken) =
        ["NN=N\n".toList, ['\n'], " oops \n".toList, ['=']] := by decide
    rw [lines] at split
    have unreadableThird : ¬ Readable " oops \n".toList := by decide
    rcases front with _ | ⟨first, _ | ⟨second, _ | ⟨third, rest⟩⟩⟩
    · cases split
      exact absurd (by decide) unreadable
    · cases split
      exact absurd (by decide) unreadable
    · cases split
      exact failed
    · simp only [List.cons_append, List.cons.injEq] at split
      rw [split.2.2.1] at unreadableThird
      exact absurd (readable third (by simp)) unreadableThird
  · have listable : Listable [("$(".toList, "=D".toList), ([], [])] [] := by
      refine ⟨by decide, ?_, by decide, by decide⟩
      simp only [List.forall_mem_cons, List.not_mem_nil, false_imp_iff, implies_true, and_true]
      exact ⟨⟨by decide, by decide, by decide, by decide⟩,
        ⟨by decide, by decide, by decide, by decide⟩⟩
    have lists : Lists (written [("$(".toList, "=D".toList), ([], [])] [])
        ["*=".toList, "# x".toList, ['='], [' '], "$(==D".toList] := by
      refine ⟨["# x".toList, [' ']], by decide, ?_⟩
      decide
    have hasLines : Text.HasLines
        ["*=".toList, "# x".toList, ['='], [' '], "$(==D".toList] arranged := by
      have last : Text.HasLines ["$(==D".toList] "$(==D".toList :=
        .unended (by decide) (by decide)
      have ends : arranged = "*=".toList ++ ['\n'] ++ ("# x".toList ++ ['\r', '\n'] ++
          (['='] ++ ['\n'] ++ ([' '] ++ ['\n'] ++ "$(==D".toList))) := by decide
      rw [ends]
      exact .ended (by decide) (by decide) (by decide) (.ended (by decide) (by decide) (by decide)
        (.ended (by decide) (by decide) (by decide) (.ended (by decide) (by decide) (by decide)
          last)))
    exact (load_means_table (stores ['c'] arranged _ rfl rfl)).2.2 _ _ _ listable lists hasLines

end Standoff.CategoryTable
