import Vls.Lib.Call

/-! # Policy errors and the filter that demotes them

A check that fails raises an error under a tag. The filter of the policy decides per tag
whether the violation is an error or only a warning, in which case the check that raised it
goes on as if it had passed. -/

namespace Vls

inductive Code where
  | ok
  | invalidArgument
  | failedPrecondition
  | internal
  | temporary
  deriving DecidableEq

structure Status where
  code : Code
  message : String
  deriving DecidableEq

def Status.invalidArgument (message : String) : Status := ⟨.invalidArgument, message⟩

def Status.failedPrecondition (message : String) : Status := ⟨.failedPrecondition, message⟩

def Status.internal (message : String) : Status := ⟨.internal, message⟩

def Status.temporary (message : String) : Status := ⟨.temporary, message⟩

inductive ValidationErrorKind where
  | transactionFormat (message : String)
  | scriptFormat (message : String)
  | mismatch (message : String)
  | policy (message : String)
  | temporaryPolicy (message : String)
  | unknownDestinations (message : String) (indices : List Nat)
  deriving DecidableEq

structure ValidationError where
  tag : String
  kind : ValidationErrorKind
  deriving DecidableEq

namespace ValidationError

def prependMsg (premsg : String) (error : ValidationError) : ValidationError :=
  let kind := match error.kind with
    | .transactionFormat s => .transactionFormat (premsg ++ s)
    | .scriptFormat s => .scriptFormat (premsg ++ s)
    | .mismatch s => .mismatch (premsg ++ s)
    | .policy s => .policy (premsg ++ s)
    | .temporaryPolicy s => .temporaryPolicy (premsg ++ s)
    | .unknownDestinations s indices => .unknownDestinations (premsg ++ s) indices
  { error with kind := kind }

def message (error : ValidationError) : String :=
  match error.kind with
  | .transactionFormat s => "transaction format: " ++ s
  | .scriptFormat s => "script format: " ++ s
  | .mismatch s => "script template mismatch: " ++ s
  | .policy s => "policy failure: " ++ s
  | .temporaryPolicy s => "temporary policy failure: " ++ s
  | .unknownDestinations s indices => "unknown destinations: " ++ s ++ " " ++ toString indices

def toStatus (error : ValidationError) : Status :=
  match error.kind with
  | .temporaryPolicy s => Status.temporary s
  | _ => Status.failedPrecondition error.message

end ValidationError

def transactionFormatError (message : String) : ValidationError :=
  ⟨"policy-commitment-scripts", .transactionFormat message⟩

def policyError (tag message : String) : ValidationError := ⟨tag, .policy message⟩

def temporaryPolicyError (tag message : String) : ValidationError :=
  ⟨tag, .temporaryPolicy message⟩

/-- A validation error turns into a status where a channel call passes it on to its caller. -/
instance : MonadLift (Except (Fault ValidationError)) (Except (Fault Status)) where
  monadLift x := Result.mapErr ValidationError.toStatus x

@[simp]
theorem liftM_eq_ok {α : Type} {x : Result ValidationError α} {a} :
    (liftM x : Result Status α) = .ok a ↔ x = .ok a :=
  Result.mapErr_eq_ok

theorem ends_lift_validation {σ α : Type} {x : Result ValidationError α} {s} {good : α → σ → Prop}
    {bad : Fault Status → σ → Prop} :
    Call.Ends (liftM x : Call Status σ α) s good bad ↔
      Call.Ends (liftM (liftM x : Result Status α) : Call Status σ α) s good bad :=
  Iff.rfl

inductive FilterResult where
  | error
  | warn
  deriving DecidableEq

structure FilterRule where
  tag : String
  isPrefix : Bool
  action : FilterResult

def FilterRule.matches (rule : FilterRule) (tag : String) : Bool :=
  if rule.isPrefix then rule.tag.toList.isPrefixOf tag.toList else tag == rule.tag

structure PolicyFilter where
  rules : List FilterRule

namespace PolicyFilter

/-- The first rule that matches the tag decides; without one the violation is an error. -/
def filter (policy : PolicyFilter) (tag : String) : FilterResult :=
  match policy.rules.find? (·.matches tag) with
  | some rule => rule.action
  | none => .error

def default : PolicyFilter := ⟨[]⟩

def newPermissive : PolicyFilter := ⟨[⟨"", true, .warn⟩]⟩

/-- The rules that are there already take precedence. -/
def merge (policy other : PolicyFilter) : PolicyFilter := ⟨policy.rules ++ other.rules⟩

def Strict (policy : PolicyFilter) : Prop :=
  ∀ tag, policy.filter tag = .error

theorem default_strict : default.Strict := fun _ => rfl

def policyErrorWithFilter (policy : PolicyFilter) (tag message : String) :
    Result ValidationError Unit :=
  if policy.filter tag = .error then .err (policyError tag message) else .ok ()

def temporaryPolicyErrorWithFilter (policy : PolicyFilter) (tag message : String) :
    Result ValidationError Unit :=
  if policy.filter tag = .error then .err (temporaryPolicyError tag message) else .ok ()

theorem policyErrorWithFilter_strict {policy : PolicyFilter} (strict : policy.Strict)
    (tag message : String) :
    policy.policyErrorWithFilter tag message = .err (policyError tag message) := by
  rw [policyErrorWithFilter, if_pos (strict tag)]

end PolicyFilter

end Vls
