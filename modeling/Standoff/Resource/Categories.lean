import Standoff.Resource.Properties

/-! Coarse categories of parts of speech.

Taggers use tags of their own. A category table says which coarse category each
tag belongs to, and where all other tags belong. -/

namespace Standoff

/-! ## Categories -/

inductive Category where
  | noun
  | properNoun
  | verb
  | adjective
  | adverb
  | pronoun
  | determiner
  | adposition
  | conjunction
  | numeral
  | particle
  | punctuation
  | other
  deriving DecidableEq, Repr

def Category.name : Category → String
  | .noun => "NOUN"
  | .properNoun => "PROPN"
  | .verb => "VERB"
  | .adjective => "ADJ"
  | .adverb => "ADV"
  | .pronoun => "PRON"
  | .determiner => "DET"
  | .adposition => "ADP"
  | .conjunction => "CONJ"
  | .numeral => "NUM"
  | .particle => "PRT"
  | .punctuation => "PUNCT"
  | .other => "X"

/-! ## Tag sets -/

def pennTags : List (String × Category) :=
  [
    ("CC", .conjunction), ("CD", .numeral), ("DT", .determiner), ("EX", .pronoun),
    ("FW", .other), ("IN", .adposition), ("JJ", .adjective), ("JJR", .adjective),
    ("JJS", .adjective), ("LS", .other), ("MD", .verb), ("NN", .noun), ("NNS", .noun),
    ("NNP", .properNoun), ("NNPS", .properNoun), ("PDT", .determiner),
    ("POS", .particle), ("PRP", .pronoun), ("PRP$", .pronoun), ("RB", .adverb),
    ("RBR", .adverb), ("RBS", .adverb), ("RP", .particle), ("SYM", .other),
    ("TO", .particle), ("UH", .other), ("VB", .verb), ("VBD", .verb), ("VBG", .verb),
    ("VBN", .verb), ("VBP", .verb), ("VBZ", .verb), ("WDT", .determiner),
    ("WP", .pronoun), ("WP$", .pronoun), ("WRB", .adverb), (".", .punctuation),
    (",", .punctuation), (":", .punctuation), ("``", .punctuation),
    ("''", .punctuation), ("-LRB-", .punctuation), ("-RRB-", .punctuation),
    ("#", .other), ("$", .other)
  ]

def stuttgartTags : List (String × Category) :=
  [
    ("ADJA", .adjective), ("ADJD", .adjective), ("ADV", .adverb),
    ("APPR", .adposition), ("APPRART", .adposition), ("APPO", .adposition),
    ("APZR", .adposition), ("ART", .determiner), ("CARD", .numeral), ("FM", .other),
    ("ITJ", .other), ("KOUI", .conjunction), ("KOUS", .conjunction),
    ("KON", .conjunction), ("KOKOM", .conjunction), ("NN", .noun), ("NE", .properNoun),
    ("PDS", .pronoun), ("PDAT", .pronoun), ("PIS", .pronoun), ("PIAT", .pronoun),
    ("PIDAT", .pronoun), ("PPER", .pronoun), ("PPOSS", .pronoun), ("PPOSAT", .pronoun),
    ("PRELS", .pronoun), ("PRELAT", .pronoun), ("PRF", .pronoun), ("PWS", .pronoun),
    ("PWAT", .pronoun), ("PWAV", .pronoun), ("PAV", .pronoun), ("PROAV", .pronoun),
    ("PTKZU", .particle), ("PTKNEG", .particle), ("PTKVZ", .particle),
    ("PTKANT", .particle), ("PTKA", .particle), ("TRUNC", .other), ("VVFIN", .verb),
    ("VVIMP", .verb), ("VVINF", .verb), ("VVIZU", .verb), ("VVPP", .verb),
    ("VAFIN", .verb), ("VAIMP", .verb), ("VAINF", .verb), ("VAPP", .verb),
    ("VMFIN", .verb), ("VMINF", .verb), ("VMPP", .verb), ("XY", .other),
    ("$,", .punctuation), ("$.", .punctuation), ("$(", .punctuation)
  ]

example : pennTags.length = 45 ∧ stuttgartTags.length = 55 := by decide

/-! ## Tables -/

/-- The categories of tags, by name, and the category of all other tags. A tag may
be entered without a category. -/
structure CategoryTable where
  entries : Dictionary Text (Option Text)
  fallback : Option Text := some Category.other.name.toList

namespace CategoryTable

def category (table : CategoryTable) (tag : Text) : Option Text :=
  (table.entries.get? tag).getD table.fallback

def ofTagSet (tags : List (String × Category)) : CategoryTable where
  entries := tags.map fun entry => (entry.1.toList, some entry.2.name.toList)

/-- The table for the tags that the default model of a language uses. For an
unknown language it puts all tags into one category. -/
def ofLanguage (language : Option Text) : CategoryTable :=
  if language = some "en".toList then ofTagSet pennTags
  else if language = some "de".toList then ofTagSet stuttgartTags
  else { entries := [] }

/-- The key under which a file gives the category of all other tags. -/
def wildcard : Text := ['*']

def ofProperties (properties : Properties) : CategoryTable :=
  let entries := (properties.erase wildcard).map fun entry => (entry.1, some entry.2)
  match properties.get? wildcard with
  | some fallback => { entries, fallback := some fallback }
  | none => { entries }

def load (tree : FileTree) (path : Text) : Except Properties.LoadError CategoryTable :=
  (Properties.load tree path).map ofProperties

example : (ofProperties [("NN".toList, "N".toList), (wildcard, "OTHER".toList)]).category
    wildcard = some "OTHER".toList := by decide

end CategoryTable

end Standoff
