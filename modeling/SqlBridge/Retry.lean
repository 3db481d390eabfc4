import SqlBridge.Error

/-!
# Outcomes of an attempt that may be repeated once

An operation succeeds at once, succeeds at the second attempt, or is given up after it.
-/

namespace SqlBridge

/-- How an operation ended. -/
inductive RetryOutcome (α : Type) where
  /-- The first attempt succeeded. -/
  | success (value : α)
  /-- The second attempt succeeded. -/
  | retriedSuccess (value : α)
  /-- The last error, after a second attempt or instead of one. -/
  | exhausted (error : Error)
  deriving Repr

namespace RetryOutcome

variable {α β : Type}

/-- More than the first attempt was needed. -/
def wasRetried : RetryOutcome α → Bool
  | .success _ => false
  | _ => true

/-- There is a value. -/
def isSuccess : RetryOutcome α → Bool
  | .exhausted _ => false
  | _ => true

/-- The outcome without the count of attempts. -/
def toExcept : RetryOutcome α → Except Error α
  | .success value => .ok value
  | .retriedSuccess value => .ok value
  | .exhausted error => .error error

/-- The outcome with another value. -/
def map (f : α → β) : RetryOutcome α → RetryOutcome β
  | .success value => .success (f value)
  | .retriedSuccess value => .retriedSuccess (f value)
  | .exhausted error => .exhausted error

@[simp] theorem wasRetried_map (f : α → β) (o : RetryOutcome α) :
    (o.map f).wasRetried = o.wasRetried := by cases o <;> rfl

@[simp] theorem isSuccess_map (f : α → β) (o : RetryOutcome α) :
    (o.map f).isSuccess = o.isSuccess := by cases o <;> rfl

@[simp] theorem toExcept_map (f : α → β) (o : RetryOutcome α) :
    (o.map f).toExcept = o.toExcept.map f := by cases o <;> rfl

end RetryOutcome

end SqlBridge
