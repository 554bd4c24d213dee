/-! Why a caller was not authenticated or not allowed. -/

namespace EventHub

inductive AuthError where
  | missingCredential
  | invalidCredential
  | expired
  | missingScope (scope : String)
  | unavailable (detail : String)
  | invalidInput (detail : String)
  deriving DecidableEq, Repr

def AuthError.message : AuthError → String
  | missingCredential => "missing credential"
  | invalidCredential => "invalid credential"
  | expired => "credential expired"
  | missingScope scope => "missing scope: " ++ scope
  | unavailable detail => "identity service unavailable: " ++ detail
  | invalidInput detail => "invalid input: " ++ detail

end EventHub
