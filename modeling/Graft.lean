import Graft.Block
import Graft.Decimal.Shortest
import Graft.Diff.Compact
import Graft.Diff.Edit
import Graft.Diff.Unified
import Graft.Plan.Basic
import Graft.Plan.Issue
import Graft.Plan.Load
import Graft.Plan.Shape
import Graft.Project.Event
import Graft.Project.Guard
import Graft.Project.Patch
import Graft.Project.PlanFile
import Graft.Project.Run
import Graft.Recipe.Feature
import Graft.Recipe.Patches
import Graft.Resolve
import Graft.Similarity
import Graft.Spec
import Graft.Splice
import Graft.Text.Basic
import Graft.Text.Blank
import Graft.Text.Case
import Graft.Text.Indent
import Graft.Text.Letters
import Graft.Text.Lines
import Graft.Text.Locate
import Graft.Text.Plural
import Graft.Text.Printable
import Graft.Text.Quoted
import Graft.Text.Search
import Graft.Toml.Document
import Graft.Toml.Quote
import Graft.Toml.Scalar
import Graft.Toml.Tables
import Graft.Toml.Value
import Graft.Tree.Basic
import Graft.Tree.Content
import Graft.Tree.Path
import Graft.Tree.Walk
import Graft.Weave
import Graft.Proofs.Text.Cut
import Graft.Proofs.Text.LineStart
import Graft.Proofs.Text.LineIndex
import Graft.Proofs.Resolve.Cut
import Graft.Proofs.Block.Nesting
import Graft.Proofs.Splice.Contents
import Graft.Proofs.Plan.Valid
import Graft.Proofs.Weave.Outcome
import Graft.Proofs.Weave.Idempotence
import Graft.Proofs.Weave.Permanence
import Graft.Proofs.Tree.Shape
import Graft.Proofs.Tree.Walk
import Graft.Proofs.Project.Step
import Graft.Proofs.Project.PatchFile
import Graft.Proofs.Project.Refinement
import Graft.Proofs.Project.Confinement
import Graft.Proofs.Block.Insertion
import Graft.Proofs.Splice.Layout
import Graft.Proofs.Project.Omission
import Graft.Proofs.Tree.Names
import Graft.Proofs.Project.DryRun
import Graft.Proofs.Splice.LineEndings
import Graft.Proofs.Text.Case
import Graft.Proofs.Recipe.Names
import Graft.Proofs.Recipe.Patches
import Graft.Proofs.Recipe.Valid
import Graft.Proofs.Project.Rerun
import Graft.Proofs.Recipe.Rerun
import Graft.Proofs.Resolve.Resolves
import Graft.Proofs.Splice.OwnLine
import Graft.Proofs.Project.Readiness
import Graft.Proofs.Recipe.Applies
import Graft.Proofs.Plan.Acceptance
import Graft.Proofs.Text.Position
import Graft.Proofs.Text.LineEdges
import Graft.Proofs.Resolve.Literal
import Graft.Proofs.Resolve.Resolvable
import Graft.Proofs.Text.LineInsert
import Graft.Proofs.Block.Gap
import Graft.Proofs.Block.Accumulation
import Graft.Proofs.Splice.Separators
import Graft.Proofs.Text.Words
import Graft.Proofs.Text.CamelCase
import Graft.Proofs.Recipe.ServiceNamespace
import Graft.Proofs.Recipe.Identifiers
import Graft.Proofs.Text.Utf8
import Graft.Proofs.Text.Checked
import Graft.Proofs.Text.CheckedLines
import Graft.Proofs.Block.Checked
import Graft.Proofs.Splice.Checked
import Graft.Proofs.Resolve.Checked
import Graft.Proofs.Block.Matching
import Graft.Proofs.Plan.EmptyFields
import Graft.Proofs.Recipe.ImportOrder
import Graft.Proofs.Text.Tiling
import Graft.Proofs.Text.Fragment
