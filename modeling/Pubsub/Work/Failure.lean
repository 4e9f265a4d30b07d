import Pubsub.Text.Basic

/-! How a task can fail, and what comes of it where tasks are run apart from their caller. -/

namespace Pubsub

/-- An error is caught where tasks are run. An exit, which asks the program to end, is not. -/
inductive Failure where
  | error (reason : Text)
  | exit (reason : Text)
deriving DecidableEq

namespace Failure

/-- What is logged of a failure. -/
def logged : Failure → Option Text
  | .error reason => some reason
  | .exit _ => none

/-- What goes on to whoever had the task run. -/
def passed : Failure → Option Failure
  | .error _ => none
  | .exit reason => some (.exit reason)

end Failure
end Pubsub
