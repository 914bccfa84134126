/-!
# When a store fails

The ways in which a store can refuse a call, and the words for the operator's log.
-/

namespace Gatehouse

inductive StoreFault where
  /-- A span too long to be added to an instant. -/
  | spanOutOfRange
  | keyExists (id : String)
  | tokenHashTaken
  | unavailable (reason : String)
deriving DecidableEq, Repr

def StoreFault.message : StoreFault → String
  | spanOutOfRange => "Source duration value is out of range for the target type"
  | keyExists id => "api key " ++ id ++ " already exists"
  | tokenHashTaken => "api key token hash collision"
  | unavailable reason => reason

end Gatehouse
