import Graft.Tree.Walk

/-! # The boundary of a project

A guard lets files be patched that lie inside the project and in none of the folders that belong to
others.  It looks at where a path leads, not at how it is written, so links and `..` do not get
around it. -/

namespace Graft

/-- The folders of a project that are never patched: what is installed, and the history. -/
def forbiddenNames : List Text := ["vendor", "node_modules", ".git"]

/-- The boundary of a project. -/
structure Guard where
  /-- where the project is -/
  root : Location
  /-- where those of the forbidden folders are that the project has -/
  forbidden : List Location
  deriving DecidableEq, Repr

/-- Why a path is not let through. -/
inductive GuardError where
  | outside (location root : Location)
  | forbidden (location folder : Location)
  | unresolved (cause : AccessError)
  deriving DecidableEq, Repr

/-- The message of an error. -/
def GuardError.message : GuardError → Text
  | outside location root =>
    "Path is outside workspace: " ++ location.path ++ " (workspace: " ++ root.path ++ ")"
  | forbidden location folder =>
    "Path is in forbidden directory: " ++ location.path ++ " (forbidden: " ++ folder.path ++ ")"
  | unresolved cause => "Failed to canonicalize path: " ++ cause.message

namespace Guard

/-- The guard of the project at a path. -/
def ofRoot (tree : Tree) (path : Path) : Except GuardError Guard :=
  match tree.locate path with
  | .error cause => .error (.unresolved cause)
  | .ok root =>
    let forbidden := forbiddenNames.filterMap fun name => (tree.locateFrom root name).toOption
    .ok { root, forbidden }

/-- A location that the guard lets through. -/
def check (guard : Guard) (location : Location) : Except GuardError Location :=
  if ¬guard.root <+: location then .error (.outside location guard.root)
  else match guard.forbidden.find? fun folder => folder.isPrefixOf location with
    | some folder => .error (.forbidden location folder)
    | none => .ok location

/-- Where a path leads, if the guard lets it through.  Relative paths start at the project. -/
def validate (guard : Guard) (tree : Tree) (path : Path) : Except GuardError Location :=
  match tree.locateFrom guard.root path with
  | .error cause => .error (.unresolved cause)
  | .ok location => guard.check location

/-- What the guard lets through lies inside the project and in no forbidden folder. -/
theorem check_eq_ok {guard : Guard} {location place : Location}
    (h : guard.check location = .ok place) :
    place = location ∧ guard.root <+: location ∧
      ∀ folder ∈ guard.forbidden, ¬folder <+: location := by
  simp only [check] at h
  split at h
  · simp at h
  · rename_i inside
    split at h
    · simp at h
    · rename_i clear
      simp only [Except.ok.injEq] at h
      refine ⟨h.symm, by simpa using inside, ?_⟩
      intro folder member inFolder
      have := List.find?_eq_none.1 clear folder member
      exact this (List.isPrefixOf_iff_prefix.2 inFolder)

end Guard
end Graft
