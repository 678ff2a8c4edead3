import TypeRepair.Http
import TypeRepair.Provider.Basic

/-!
# Generated text

What a provider returns for an instruction, and why it may return nothing.
-/

namespace TypeRepair

/-- Text from a provider, with the model that made it and the counted tokens. -/
structure Generated where
  content : String
  model : String
  inputTokens : Nat
  outputTokens : Nat
deriving DecidableEq, Repr

/-- Why a request came to nothing. -/
inductive RequestFault
  /-- The request cannot be written: the key is no header value. -/
  | unwritable
  /-- No reply came from this address. -/
  | unanswered (url : String)
  /-- The reply is cut short, no JSON, or not of the expected shape. -/
  | undecodable
deriving DecidableEq, Repr

/-- The fault in words. -/
def RequestFault.message : RequestFault → String
  | unwritable => "builder error"
  | unanswered url => "error sending request for url (" ++ url ++ ")"
  | undecodable => "error decoding response body"

/-- Why no text was generated. -/
inductive GenerationFault
  | request (provider : Provider) (fault : RequestFault)
  /-- The status is not one of success. -/
  | status (provider : Provider) (status : Nat) (body : String)
  /-- The reply holds no text. -/
  | missingContent (provider : Provider)
deriving DecidableEq, Repr

/-- The fault in words. -/
def GenerationFault.message : GenerationFault → String
  | request provider fault => provider.title ++ " API request failed: " ++ fault.message
  | status provider code body =>
    provider.title ++ " API error (" ++ Http.statusText code ++ "): " ++ body
  | missingContent provider => "No text content in " ++ provider.title ++ " response"

end TypeRepair
