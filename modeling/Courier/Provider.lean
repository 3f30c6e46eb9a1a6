import Courier.Json.Basic
/-!
Usage of AI models, taken from the responses of their providers.

Each provider names the model and the two token counts at paths of its own.  A field is the value at
its first path that has the right type; a field without one is empty or zero.
-/
namespace Courier

/-- The model of one call and the tokens it took. -/
structure Usage where
  model : String
  inputTokens : UInt64
  outputTokens : UInt64
  deriving DecidableEq, Repr, Inhabited

/-- The natural number of 64 bits that a value is. -/
def Json.word? : Json → Option UInt64
  | .integer n => if 0 ≤ n ∧ n < 0x10000000000000000 then some (UInt64.ofNat n.toNat) else none
  | _ => none

/-- Who answers the calls. -/
inductive Provider where
  | openai
  | anthropic
  | google
  deriving DecidableEq, Repr, Inhabited

/-- The paths at which a response holds the fields of its usage, the preferred one first. -/
structure UsagePaths where
  model : List (List String)
  inputTokens : List (List String)
  outputTokens : List (List String)
  deriving DecidableEq, Repr

namespace Provider

/-- The vendor name under which the collector knows a provider. -/
def vendor : Provider → String
  | .openai => "openai"
  | .anthropic => "anthropic"
  | .google => "gemini"

def paths : Provider → UsagePaths
  | .openai =>
    { model := [["model"]]
      inputTokens := [["usage", "prompt_tokens"]]
      outputTokens := [["usage", "completion_tokens"]] }
  | .anthropic =>
    { model := [["model"]]
      inputTokens := [["usage", "input_tokens"]]
      outputTokens := [["usage", "output_tokens"]] }
  | .google =>
    { model := [["modelVersion"], ["model_version"]]
      inputTokens := [["usageMetadata", "promptTokenCount"],
        ["usage_metadata", "prompt_token_count"]]
      outputTokens := [["usageMetadata", "candidatesTokenCount"],
        ["usage_metadata", "candidates_token_count"]] }

/-- The first value at any of the paths that has the right type. -/
def firstAt {α : Type} (read : Json → Option α) (paths : List (List String)) (response : Json) :
    Option α :=
  paths.findSome? fun path => (response.at? path).bind read

def extract (provider : Provider) (response : Json) : Usage where
  model := (firstAt Json.text? provider.paths.model response).getD ""
  inputTokens := (firstAt Json.word? provider.paths.inputTokens response).getD 0
  outputTokens := (firstAt Json.word? provider.paths.outputTokens response).getD 0

/-- A response without any object has no usage. -/
theorem extract_null (provider : Provider) : provider.extract .null = ⟨"", 0, 0⟩ := by
  cases provider <;> rfl

end Provider

end Courier
