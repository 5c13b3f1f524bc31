import OneTimeCode.Proofs.CommandLine.Endings

/-!
# Exit codes

A run that gets a promise in time ends with what the promise holds, if the line for it can be
written. A stream that does not take the line makes the run end like one that was turned away, only
that its call has been made by then. In UTF-8 that happens to identifiers with a half of a
character.
-/
namespace OneTimeCode.CommandLine
open Text

end OneTimeCode.CommandLine
