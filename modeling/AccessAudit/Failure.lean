/-
**Failures with their causes.**

What cannot be done is told from the outside in: what was attempted first, then why it did not
work, and so on to the innermost cause. Where the words of a step repeat those of its cause, both
are kept.

* `Failure.within`: a failure as the cause of what was attempted;
* `Failure.full`: the whole account in one line.
-/

namespace AccessAudit

/-- Why something could not be done. -/
structure Failure where
  /-- The outermost account of the failure. -/
  account : String
  /-- The causes, the innermost last. -/
  causes : List String := []
  deriving DecidableEq, Repr

namespace Failure

/-- The parts of the account, the outermost first. -/
def parts (failure : Failure) : List String :=
  failure.account :: failure.causes

/-- The failure as the cause of what was attempted. -/
def within (failure : Failure) (attempt : String) : Failure where
  account := attempt
  causes := failure.parts

/-- The account and all causes in one line. -/
def full (failure : Failure) : String :=
  ": ".intercalate failure.parts

end Failure

end AccessAudit
