import Graft.Plan.Load
import Graft.Tree.Content

/-! # Plans kept in files

A plan is read from a file as a whole and then loaded as any text is. -/

namespace Graft

/-- Why no plan is read from a file. -/
inductive PlanFileError where
  /-- the text of the file cannot be had -/
  | unreadable (cause : AccessError)
  /-- its text does not load -/
  | unfit (cause : LoadError)

/-- The message about a plan file that is not read. -/
def PlanFileError.unreadableMessage (path : Path) (cause : AccessError) : Text :=
  "cannot read patch plan " ++ path ++ ": " ++ cause.message

/-- The plan in the file that a path leads to. -/
def Tree.loadPlan (tree : Tree) (path : Path) : Except PlanFileError Plan :=
  match tree.read (.named path) with
  | .error cause => .error (.unreadable cause)
  | .ok content =>
    match Text.decode? content with
    | none => .error (.unreadable .notText)
    | some t =>
      match Plan.load t with
      | .error cause => .error (.unfit cause)
      | .ok plan => .ok plan

/-- A plan that is read from a file is fit to run. -/
theorem Tree.isValid_of_loadPlan {tree : Tree} {path : Path} {plan : Plan}
    (h : tree.loadPlan path = .ok plan) : plan.isValid = true := by
  simp only [loadPlan] at h
  split at h
  · simp at h
  · split at h
    · simp at h
    · split at h
      · simp at h
      · rename_i loaded
        cases h
        exact Plan.isValid_of_load loaded

end Graft
