import Standoff.Dictionary
import Standoff.Text.Basic

/-! A cache of loaded models.

Models are kept by location until the cache is cleared. Only a load that
succeeds is remembered; after any other the next request tries again. -/

namespace Standoff

abbrev ModelCache (μ : Type) := Dictionary Text μ

/-- Why a request got no model. `ε` is the type of a loader's own failures. -/
inductive ModelError (ε : Type) where
  | missing (location : Text)
  | notLoaded (location : Text)
  | loader (failure : ε)
  deriving DecidableEq, Repr

def ModelError.message {ε : Type} (describe : ε → String) : ModelError ε → String
  | .missing location => "There is no model at: " ++ String.ofList location
  | .notLoaded location => "Unable to load the model at: " ++ String.ofList location
  | .loader failure => describe failure

structure Fetch (μ ε : Type) where
  result : Except (ModelError ε) μ
  cache : ModelCache μ
  loads : List Text

namespace ModelCache

variable {μ ε : Type}

def empty : ModelCache μ := []

/-- Ask for the model at a location. `present` says whether there is a file, and
`load` what the loader answers there: a model, nothing, or a failure. Neither
matters when the model is in the cache. -/
def fetch (cache : ModelCache μ) (location : Text) (present : Bool)
    (load : Except ε (Option μ)) : Fetch μ ε :=
  match Dictionary.get? cache location with
  | some model => ⟨.ok model, cache, []⟩
  | none =>
      if !present then ⟨.error (.missing location), cache, []⟩
      else
        match load with
        | .ok (some model) => ⟨.ok model, Dictionary.set location model cache, [location]⟩
        | .ok none => ⟨.error (.notLoaded location), cache, [location]⟩
        | .error failure => ⟨.error (.loader failure), cache, [location]⟩

end ModelCache

end Standoff
