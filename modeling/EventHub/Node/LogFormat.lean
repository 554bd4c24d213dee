import EventHub.Text.Ascii

/-! How a server writes its log. -/

namespace EventHub

inductive LogFormat where
  | pretty
  | json
  deriving DecidableEq

/-- Any spelling of `json` chooses it; everything else is the readable form. No character outside
ASCII has a letter of `json` as its lower case. -/
def LogFormat.ofString (name : String) : LogFormat :=
  if Text.lowerString name = "json" then json else pretty

end EventHub
