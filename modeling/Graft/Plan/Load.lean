import Graft.Plan.Issue
import Graft.Plan.Shape
import Graft.Toml.Document

/-! # Loading plans

A plan is loaded when its text is well formed, its tables have the shape of a plan, and the plan has
no issue. -/

namespace Graft

/-- Why a text is not loaded as a plan. -/
inductive LoadError where
  /-- the text is not well formed -/
  | syntaxError
  /-- the tables are not those of a plan -/
  | shape (fault : ShapeError)
  /-- the plan is not fit to run -/
  | rejected (issues : List Issue)

namespace Plan

/-- The plan that a text describes. -/
def load (t : Text) : Except LoadError Plan :=
  match Toml.parse? t with
  | none => .error .syntaxError
  | some entries =>
    match ofEntries entries with
    | .error fault => .error (.shape fault)
    | .ok plan => if plan.isValid then .ok plan else .error (.rejected plan.issues)

/-- The message about a plan that is not fit to run, read from the file `path` if from any. -/
def rejection (path : Option Text) (issues : List Issue) : Text :=
  let origin : Text := match path with
    | some path => " " ++ path
    | none => []
  "patch plan" ++ origin ++ " rejected:\n" ++ Issue.report issues

/-- A loaded plan is fit to run. -/
theorem isValid_of_load {t : Text} {plan : Plan} (h : load t = .ok plan) :
    plan.isValid = true := by
  simp only [load] at h
  split at h
  · simp at h
  · split at h
    · simp at h
    · split at h <;> simp_all

end Plan
end Graft
