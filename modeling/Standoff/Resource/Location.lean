import Standoff.Dictionary
import Standoff.Path
import Standoff.Text.Line
import Standoff.Text.Quoted

/-! Where models are found.

The location of a model is a template in which names stand for the directory of
all models, the language and the variant. A name follows a dollar sign, in
braces or not, and two dollar signs stand for one. What a name stands for is
not read as a template again. -/

namespace Standoff

/-! ## Templates -/

namespace Template

def isNameStart (character : Char) : Bool :=
  ('a' ≤ character && character ≤ 'z') || ('A' ≤ character && character ≤ 'Z') ||
    character == '_'

def isNamePart (character : Char) : Bool :=
  isNameStart character || ('0' ≤ character && character ≤ '9')

def name? : Text → Option (Text × Text)
  | [] => none
  | first :: rest =>
      if isNameStart first then
        some (first :: rest.takeWhile isNamePart, rest.dropWhile isNamePart)
      else none

/-- What a dollar sign begins, in the order in which the possibilities are
tried. -/
inductive Reference where
  | dollar
  | named (name : Text)
  deriving DecidableEq, Repr

def reference? : Text → Option (Reference × Nat)
  | '$' :: _ => some (.dollar, 1)
  | '{' :: rest =>
      match name? rest with
      | some (name, '}' :: _) => some (.named name, name.length + 2)
      | _ => none
  | rest => (name? rest).map fun found => (.named found.1, found.1.length)

inductive Fault where
  | unknownName (name : Text)
  | invalid (place : Text.Place)
  deriving DecidableEq, Repr

def Fault.message : Fault → String
  | .unknownName name => String.ofList (Text.quoted name)
  | .invalid place =>
      "Invalid placeholder in string: line " ++ toString place.line ++ ", col " ++
        toString place.column

def Reference.content (value : Text → Option Text) : Reference → Except Fault Text
  | .dollar => .ok ['$']
  | .named name =>
      match value name with
      | some content => .ok content
      | none => .error (.unknownName name)

/-- Fill in the rest of a template from an offset on. `passing` counts the characters
of a reference that are still to be passed over. -/
def fillFrom (value : Text → Option Text) (template : Text) (offset : Nat) :
    (passing : Nat) → Text → Except Fault Text
  | _, [] => .ok []
  | passing + 1, _ :: rest => fillFrom value template (offset + 1) passing rest
  | 0, character :: rest =>
      if character = '$' then
        match reference? rest with
        | none => .error (.invalid (Text.lastPlace (template.take (offset + 1))))
        | some (reference, length) =>
            match reference.content value with
            | .error fault => .error fault
            | .ok content =>
                (fillFrom value template (offset + 1) length rest).map (content ++ ·)
      else
        (fillFrom value template (offset + 1) 0 rest).map (character :: ·)

def fill (value : Text → Option Text) (template : Text) : Except Fault Text :=
  fillFrom value template 0 0 template

end Template

/-! ## Models -/

/-- How a model is chosen. What is not given comes from the document or from the
defaults, and an empty text gives nothing. -/
structure ModelChoice where
  template : Option Text
  language : Option Text := none
  variant : Option Text := none
  location : Option Text := none
  defaultVariant : Option Text := some "default".toList
  variants : Dictionary Text (Option Text) := []

structure ResolvedModel where
  location : Text
  language : Text
  variant : Option Text
  deriving DecidableEq, Repr

inductive LocationError where
  | noLanguage
  | noTemplate
  | template (written : Text) (fault : Template.Fault)
  deriving DecidableEq, Repr

def LocationError.message : LocationError → String
  | .noLanguage => "No language set and the document does not declare one"
  | .noTemplate => "No model location template set"
  | .template written fault =>
      "Invalid model location template [" ++ String.ofList written ++ "]: " ++ fault.message

namespace ModelChoice

def orElse (first second : Option Text) : Option Text :=
  match first with
  | none | some [] => second
  | some text => some text

def languageFor (choice : ModelChoice) (declared : Option Text) : Option Text :=
  orElse choice.language (orElse declared none)

def variantFor (choice : ModelChoice) (language : Text) : Option Text :=
  orElse choice.variant (orElse (choice.variants.get? language).join choice.defaultVariant)

def valueOf (directory language : Text) (variant : Option Text) (name : Text) : Option Text :=
  if name = "model_path".toList then some directory
  else if name = "language".toList then some language
  else if name = "variant".toList then some (variant.getD "None".toList)
  else none

/-- The model for a document that declares a language, or none. `directory` is
the directory of all models. -/
def resolve (choice : ModelChoice) (declared : Option Text) (directory : Text) :
    Except LocationError ResolvedModel :=
  match choice.languageFor declared with
  | none => .error .noLanguage
  | some language =>
      let variant := choice.variantFor language
      match orElse choice.location choice.template with
      | none => .error .noTemplate
      | some template =>
          match Template.fill (valueOf directory language variant) template with
          | .ok location => .ok { location, language, variant }
          | .error fault => .error (.template template fault)

example :
    (resolve { template := some "${model_path}/$language$$-${variant}.model".toList }
      (some "de".toList) "/models".toList) =
    .ok ⟨"/models/de$-default.model".toList, "de".toList, some "default".toList⟩ := by
  rfl

/-- The directory of all models, from the environment: the one that is set, else
one below the home directory. -/
def modelDirectory (configured : Option Text) (home : Text) : Text :=
  match configured with
  | none | some [] =>
      let trimmed := Text.dropEndWhile (· == '/') home
      Path.join (if trimmed = [] then ['/'] else trimmed) ".annoadapters/models".toList
  | some directory => directory

example : modelDirectory none "/home/ada//".toList = "/home/ada/.annoadapters/models".toList ∧
    modelDirectory (some []) "/".toList = "/.annoadapters/models".toList := by decide

def directoryFor (asked : Option Text) (standard : Text) : Text :=
  (orElse asked none).getD standard

end ModelChoice

end Standoff
