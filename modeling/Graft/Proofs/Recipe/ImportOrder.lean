import Graft.Proofs.Recipe.Applies
import Graft.Proofs.Resolve.Literal
import Graft.Proofs.Text.LineInsert

/-!
# The order of imports

An import goes behind the line that the last import ends on, or else the namespace or the
opening tag, and takes the indentation of that line. If the line is not indented and there is
no other import behind it, the new one starts a line and is the last import. From then on the
last import ends on its own line, so the next one goes right behind it
(`firstPoint?_withImport`), and a whole chain of imports stands in order
(`AwaitsImports.run`).

Otherwise the very first import spoils the order (`takesImportsAt_of_keepsImportOrder`). If no
`;` ends the last import, the new one goes in ahead of it. If the `;` is on an indented line,
as it may be where an import takes several lines, the new one is indented too; the next one
does not find it, and is put ahead of it (`imports_out_of_order`).
-/

namespace Graft

open Text

/-! ## Order -/

/-- What a class is called in an import. -/
structure IsClassName (className : Text) : Prop where
  ne_nil : className ≠ []
  chars : ∀ c ∈ className, isClassChar c = true ∨ c = '_'

/-- The import of the class is the last one that starts a line. -/
def IsLastImport (t className : Text) : Prop :=
  ∃ place, IsLast t "\nuse " place ∧ StandsAt t (importLine className) (place + 1)

/-- The classes whose imports were put in. -/
def wovenClasses (classes : List Text) (outcomes : List Outcome) : List Text :=
  (classes.zip outcomes).filterMap fun
    | (className, .applied _) => some className
    | _ => none

/-- Every import that goes in is the last one then, and in the end the imports are lines of the text
in the order they went in. -/
structure KeepsImportOrder (t : Text) : Prop where
  last : ∀ classes : List Text, (∀ className ∈ classes, IsClassName className) →
    ∀ (i : Nat) className r, classes[i]? = some className →
      (weaveAll t (classes.map importSpec)).1[i]? = some (.applied r) → IsLastImport r className
  order : ∀ classes : List Text, (∀ className ∈ classes, IsClassName className) →
    ((wovenClasses classes (weaveAll t (classes.map importSpec)).1).map importLine).Sublist
      ((lines (weaveAll t (classes.map importSpec)).2).map Line.body)

/-- The place is behind a line that is not indented, and behind all imports. -/
structure TakesImportsAt (t : Text) (point : Point) : Prop where
  indent : point.indent = []
  behind : ∀ place, StandsAt t "\nuse " place → place + 1 < point.offset

namespace IsClassName

variable {className : Text} (h : IsClassName className)
include h

theorem notMem {c : Char} (hc : isClassChar c = false) (hne : c ≠ '_') : c ∉ className := by
  intro hmem
  rcases h.chars c hmem with hchar | rfl
  · rw [hc] at hchar
    cases hchar
  · exact hne rfl

theorem importSpec_eq :
    importSpec className = .ofLine (importLine className) (importLine className) importAnchors :=
  Graft.importSpec_eq (h.notMem rfl (by decide))

theorem unbroken_importLine : Unbroken (importLine className) := by
  intro c hc
  rw [← Bool.not_eq_true]
  intro hbreak
  simp only [isBreak, Bool.or_eq_true, beq_iff_eq] at hbreak
  rcases hbreak with rfl | rfl
  · exact notMem_importLine_of_notMem (h.notMem rfl (by decide)) (by decide) hc
  · exact notMem_importLine_of_notMem (h.notMem rfl (by decide)) (by decide) hc

end IsClassName

/-! ## The last import -/

theorem importLine_ne_nil (className : Text) : importLine className ≠ [] := by
  delta importLine
  simp

theorem byteSize_importLine (className : Text) :
    byteSize (importLine className) = 4 + byteSize className + 1 := by
  delta importLine
  rw [byteSize_append, byteSize_append]
  rfl

/-- A text with an import on a line of its own. -/
def withImport (front className : Text) (ending : LineEnding) (tail : Text) : Text :=
  front ++ ['\n'] ++ (importLine className ++ ending.text) ++ tail

section Inserted

variable (front : Text) {className : Text} (hclass : IsClassName className) (ending : LineEnding)
  (tail : Text)

include hclass

theorem getElem?_lines_withImport :
    (lines (withImport front className ending tail))[(lines (front ++ ['\n'])).length]? =
      some { start := byteSize (front ++ ['\n']), body := importLine className,
             terminator := some ending } := by
  have hline : AtLineStart (importLine className ++ ending.text) := atLineStart_append_text _ ending
  rw [withImport, List.append_assoc, lines_append (.inr (by simp)), lines_append hline,
    lines_line hclass.unbroken_importLine.isLine, List.getElem?_append_right le_rfl, Nat.sub_self]
  simp [Line.moved]

/-- The import has one `;`, at its end. -/
theorem isFirstFrom_semicolon_withImport :
    IsFirstFrom (withImport front className ending tail) ";" (byteSize front)
      (byteSize front + 5 + byteSize className) := by
  have hsize : byteSize front + 5 + byteSize className =
      byteSize (front ++ ("\nuse ".toList ++ className)) := by
    rw [byteSize_append, byteSize_append, Nat.add_assoc]
    rfl
  have hcut : withImport front className ending tail =
      front ++ (("\nuse ".toList ++ className) ++ (";".toList ++ (ending.text ++ tail))) := by
    delta withImport importLine
    simp
  have hsemicolon : ';' ∉ "\nuse ".toList ++ className := by
    rw [List.mem_append, not_or]
    exact ⟨by decide, hclass.notMem rfl (by decide)⟩
  rw [hcut, hsize]
  refine ⟨⟨by rw [byteSize_append]; omega, _, ending.text ++ tail, by simp, rfl⟩, ?_⟩
  rintro place ⟨hle, hplace⟩
  obtain ⟨more, rfl⟩ := Nat.exists_eq_add_of_le hle
  rw [standsAt_append_iff] at hplace
  rcases standsAt_or_of_append hplace with hword | ⟨_, rfl, -⟩
  · exact absurd hword.mem hsemicolon
  · rw [byteSize_append]
    omega

variable (htail : ¬"\nuse ".toList <:+: '\n' :: tail)

include htail

theorem isLast_withImport :
    IsLast (withImport front className ending tail) "\nuse " (byteSize front) := by
  constructor
  · refine ⟨front, className ++ [';'] ++ (ending.text ++ tail), ?_, rfl⟩
    delta withImport importLine
    simp
  · intro place (hplace : StandsAt _ _ place)
    refine Nat.le_of_not_lt fun hlt => htail ?_
    obtain ⟨more, rfl⟩ := Nat.exists_eq_add_of_le
      (show byteSize (front ++ ['\n']) ≤ place by rw [byteSize_append]; exact hlt)
    obtain ⟨closing, hreturns, htext⟩ := exists_text_eq ending
    rw [withImport, List.append_assoc, standsAt_append_iff, htext] at hplace
    obtain ⟨before, after, heq, -⟩ := hplace
    have hwithin : "\nuse ".toList <:+: importLine className ++ closing ++ ('\n' :: tail) :=
      ⟨before, after, by simpa using heq.symm⟩
    refine infix_of_infix_append_of_head? hwithin rfl ?_
    rw [List.mem_append, not_or]
    exact ⟨hclass.unbroken_importLine.notMem_of_isBreak rfl,
      fun hmem => absurd (hreturns _ hmem) (by decide)⟩

theorem isLastImport_withImport :
    IsLastImport (withImport front className ending tail) className := by
  refine ⟨byteSize front, isLast_withImport front hclass ending tail htail, front ++ ['\n'],
    ending.text ++ tail, ?_, by rw [byteSize_append]; rfl⟩
  rw [withImport]
  simp

/-- The next import goes behind it. -/
theorem firstPoint?_withImport :
    firstPoint? (withImport front className ending tail) importAnchors = some (0, {
      offset := byteSize (front ++ ['\n'] ++ (importLine className ++ ending.text))
      indent := []
      placement := .lineStart }) := by
  have hlast := isLast_withImport front hclass ending tail htail
  have hfound : StandsAt (withImport front className ending tail) "\nuse " (byteSize front) :=
    hlast.1
  have hfirst := isFirstFrom_semicolon_withImport front hclass ending tail
  -- the line of the `;` is that of the import
  have hsize := byteSize_importLine className
  have hfront : byteSize (front ++ ['\n']) = byteSize front + 1 := byteSize_append front ['\n']
  have hstart : byteSize (front ++ ['\n']) ≤ byteSize front + 5 + byteSize className := by omega
  have hafter := isPointAfter_of_line (getElem?_lines_withImport front hclass ending tail) hstart
    (by simp only [Line.next, Line.stop]; omega)
  have hresolve : resolve? (withImport front className ending tail)
      (.lastLiteralAfter "\nuse " (some ";")) = some {
        offset := byteSize (front ++ ['\n'] ++ (importLine className ++ ending.text))
        indent := []
        placement := .lineStart } := by
    simp only [resolve?, Option.bind_eq_bind]
    rw [locateLast?_eq_some_iff.mpr ⟨by decide, hlast⟩, Option.bind_some,
      pointAfterMatch?_eq_some_iff (by decide) hfound]
    refine ⟨_, _, _, ⟨by decide, hfirst, rfl⟩, .inl ⟨⟨le_rfl, ?_, ?_⟩, ?_⟩, ?_⟩
    · exact Nat.lt_add_of_pos_right (by decide)
    · rw [← breakAt_eq_false_iff, breakAt, charAt?_eq_some_iff.mpr hfirst.standsAt]
      rfl
    · rintro place ⟨-, hlt, -⟩
      exact Nat.le_of_lt_succ hlt
    · rw [byteSize_append (front ++ ['\n']), byteSize_append (importLine className),
        ← Nat.add_assoc]
      exact hafter
  rw [importAnchors, firstPoint?, hresolve]

end Inserted

/-! ## Chains -/

/-- The imports of the classes are lines of the text, in this order, and the next one goes behind
them and behind all others. -/
def EndsImports (t : Text) (classes : List Text) : Prop :=
  ∃ front tail, t = front ++ ['\n'] ++ tail ∧
    (classes.map importLine).Sublist ((lines (front ++ ['\n'])).map Line.body) ∧
    ¬"\nuse ".toList <:+: '\n' :: tail ∧
    firstPoint? t importAnchors = some (0, {
      offset := byteSize (front ++ ['\n']), indent := [], placement := .lineStart })

theorem endsImports_withImport {front tail className : Text} {classes : List Text}
    (hclass : IsClassName className) (ending : LineEnding)
    (htail : ¬"\nuse ".toList <:+: '\n' :: tail)
    (hlines : (classes.map importLine).Sublist ((lines (front ++ ['\n'])).map Line.body)) :
    EndsImports (withImport front className ending tail) (classes ++ [className]) := by
  obtain ⟨closing, -, htext⟩ := exists_text_eq ending
  have hfront : front ++ ['\n'] ++ (importLine className ++ ending.text) =
      front ++ ['\n'] ++ (importLine className ++ closing) ++ ['\n'] := by
    rw [htext]
    simp
  refine ⟨front ++ ['\n'] ++ (importLine className ++ closing), tail, ?_, ?_, htail, ?_⟩
  · rw [withImport, hfront]
  · rw [← hfront, map_body_lines_append (.inr (by simp)), lines_line hclass.unbroken_importLine.isLine,
      List.map_append]
    exact hlines.append (List.Sublist.refl [importLine className])
  · rw [← hfront]
    exact firstPoint?_withImport front hclass ending tail htail

/-- What no import has been put in yet, or what ends with imports that were. -/
def AwaitsImports (t : Text) (classes : List Text) : Prop :=
  EndsImports t classes ∨ classes = [] ∧
    ∀ strategy point, firstPoint? t importAnchors = some (strategy, point) → TakesImportsAt t point

/-- An import that goes in where imports are taken is on a line of its own, behind all others. -/
theorem exists_withImport_of_takesImportsAt {t : Text} {strategy : Nat} {point : Point}
    (hpoint : firstPoint? t importAnchors = some (strategy, point))
    (htakes : TakesImportsAt t point) (className : Text) :
    ∃ front ending tail, splice t point [importLine className] =
      withImport front className ending tail ∧ ¬"\nuse ".toList <:+: '\n' :: tail := by
  obtain ⟨i, line, hline, rfl⟩ := exists_line_of_importPoint hpoint
  have hindent : line.indent = [] := by
    rw [← pointAfter_indent t, htakes.indent]
  obtain ⟨head, tail, hfeed, hsplice, hcut⟩ :=
    exists_splice_pointAfter hline (importLine_ne_nil className)
  obtain ⟨front, rfl⟩ := List.getLast?_eq_some_iff.mp hfeed
  refine ⟨front, LineEnding.detect t, tail, ?_, ?_⟩
  · rw [hsplice, hindent, withImport, List.nil_append, List.append_assoc (front ++ ['\n'])]
  · rcases hcut with ⟨rfl, hoffset⟩ | ⟨-, rfl, -⟩
    · rintro ⟨before, after, heq⟩
      have hbehind := htakes.behind (byteSize (front ++ before)) ⟨front ++ before, after, ?_, rfl⟩
      · rw [hoffset, byteSize_append, byteSize_append] at hbehind
        change _ < byteSize front + 1 at hbehind
        omega
      · rw [List.append_assoc front, List.singleton_append, ← heq]
        simp
    · exact fun hwithin => absurd hwithin.length_le (by decide)

theorem step_import {t r className : Text} {classes : List Text} (hclass : IsClassName className)
    (h : AwaitsImports t classes) (hweave : weave t (importSpec className) = .applied r) :
    EndsImports r (classes ++ [className]) ∧ IsLastImport r className := by
  rw [hclass.importSpec_eq] at hweave
  obtain ⟨-, strategy, point, -, hpoint, rfl⟩ := exists_of_weave_eq_applied hweave
  obtain ⟨front, ending, tail, hsplice, htail, hlines⟩ :
      ∃ front ending tail, splice t point [importLine className] =
        withImport front className ending tail ∧ ¬"\nuse ".toList <:+: '\n' :: tail ∧
        (classes.map importLine).Sublist ((lines (front ++ ['\n'])).map Line.body) := by
    rcases h with ⟨front, tail, rfl, hlines, htail, hfirst⟩ | ⟨rfl, htakes⟩
    · obtain ⟨-, rfl⟩ := Prod.mk.inj (Option.some.inj (hpoint.symm.trans hfirst))
      refine ⟨front, LineEnding.detect (front ++ ['\n'] ++ tail), tail, ?_, htail, hlines⟩
      rw [splice_lineStart, renderFragment_singleton (importLine_ne_nil className),
        List.nil_append, List.append_assoc (front ++ ['\n'])]
      rfl
    · obtain ⟨front, ending, tail, hsplice, htail⟩ :=
        exists_withImport_of_takesImportsAt hpoint (htakes _ _ hpoint) className
      exact ⟨front, ending, tail, hsplice, htail, List.nil_sublist _⟩
  change EndsImports (splice t point [importLine className]) _ ∧
    IsLastImport (splice t point [importLine className]) _
  rw [hsplice]
  exact ⟨endsImports_withImport hclass ending htail hlines,
    isLastImport_withImport front hclass ending tail htail⟩

theorem AwaitsImports.sublist_lines {t : Text} {classes : List Text} (h : AwaitsImports t classes) :
    (classes.map importLine).Sublist ((lines t).map Line.body) := by
  rcases h with ⟨front, tail, rfl, hlines, -, -⟩ | ⟨rfl, -⟩
  · rw [map_body_lines_append (.inr (by simp))]
    exact hlines.trans (List.sublist_append_left _ _)
  · exact List.nil_sublist _

/-- **A chain of imports keeps their order.** -/
theorem AwaitsImports.run {t : Text} {earlier : List Text} (h : AwaitsImports t earlier)
    {classes : List Text} (hclasses : ∀ className ∈ classes, IsClassName className) :
    (∀ (i : Nat) className r, classes[i]? = some className →
      (weaveAll t (classes.map importSpec)).1[i]? = some (.applied r) → IsLastImport r className) ∧
    ((earlier ++ wovenClasses classes (weaveAll t (classes.map importSpec)).1).map
      importLine).Sublist ((lines (weaveAll t (classes.map importSpec)).2).map Line.body) := by
  induction classes generalizing t earlier with
  | nil =>
      refine ⟨fun i className r hi => by simp at hi, ?_⟩
      simpa [wovenClasses, weaveAll] using h.sublist_lines
  | cons className classes ih =>
      rw [List.forall_mem_cons] at hclasses
      simp only [List.map_cons, weaveAll]
      cases hweave : weave t (importSpec className) with
      | applied r =>
          obtain ⟨hends, hlast⟩ := step_import hclasses.1 h hweave
          obtain ⟨hlater, horder⟩ := ih (.inl hends) hclasses.2
          refine ⟨fun i name r' hi houtcome => ?_, by
            simpa [wovenClasses, Outcome.textFrom] using horder⟩
          cases i with
          | zero =>
              simp only [List.getElem?_cons_zero, Option.some.injEq, Outcome.applied.injEq]
                at hi houtcome
              exact hi ▸ houtcome ▸ hlast
          | succ i => exact hlater i name r' hi houtcome
      | _ =>
          obtain ⟨hlater, horder⟩ := ih h hclasses.2
          refine ⟨fun i name r' hi houtcome => ?_, by
            simpa [wovenClasses, Outcome.textFrom] using horder⟩
          cases i with
          | zero => cases houtcome
          | succ i => exact hlater i name r' hi houtcome

/-! ## Where order is not kept -/

section Spoiled

variable {t front indent className closing tail : Text} {strategy place : Nat} {point : Point}
  (hclass : IsClassName className)

include hclass

/-- Where neither the front nor the back has room for the import, it stands where it went in. -/
theorem eq_byteSize_of_standsAt {shown : Text} (hshown : '\n' ∉ shown)
    (hfront : front.length < (importLine className).length)
    (htail : tail.length < (importLine className).length)
    (hfeed : StandsAt (front ++ ['\n'] ++ (shown ++ '\n' :: tail)) ['\n'] place)
    (himport : StandsAt (front ++ ['\n'] ++ (shown ++ '\n' :: tail)) (importLine className)
      (place + 1)) : place = byteSize front := by
  have hone : byteSize (front ++ ['\n']) = byteSize front + 1 := byteSize_append front ['\n']
  rcases Nat.lt_trichotomy place (byteSize front) with hlt | heq | hlt
  · have hnot := hclass.unbroken_importLine.notMem_of_isBreak (show isBreak '\n' = true from rfl)
    rw [List.append_assoc] at himport
    have hwithin := (standsAt_append_cons_iff hnot hlt).mp himport
    exact absurd hwithin.length_le (by omega)
  · exact heq
  · obtain ⟨more, rfl⟩ := Nat.exists_eq_add_of_le (show byteSize (front ++ ['\n']) ≤ place by omega)
    rw [standsAt_append_iff] at hfeed
    rcases standsAt_or_of_append hfeed with hfeed | ⟨more, rfl, -⟩
    · exact absurd hfeed.mem hshown
    · rw [Nat.add_assoc, standsAt_append_iff, Nat.add_assoc, standsAt_append_iff, Nat.add_comm]
        at himport
      have hwithin := (standsAt_append_iff ['\n'] tail more).mp himport
      exact absurd hwithin.length_le (by omega)

/-- So if it is the last import, its line is not indented and no import follows. -/
theorem indent_eq_nil_of_isLast (hindent : indent.all isIndent = true) (hclosing : '\n' ∉ closing)
    (hfront : front.length < (importLine className).length)
    (htail : tail.length < (importLine className).length)
    (hlast : IsLast (front ++ ['\n'] ++ (indent ++ importLine className ++ closing ++ '\n' :: tail))
      "\nuse " place)
    (himport : StandsAt
      (front ++ ['\n'] ++ (indent ++ importLine className ++ closing ++ '\n' :: tail))
      (importLine className) (place + 1)) :
    indent = [] ∧ ∀ more, ¬StandsAt ('\n' :: tail) "\nuse " more := by
  have hone : byteSize (front ++ ['\n']) = byteSize front + 1 := byteSize_append front ['\n']
  have hline : '\n' ∉ indent ++ importLine className ++ closing := by
    simp only [List.mem_append, not_or]
    refine ⟨⟨fun hmem => ?_, hclass.unbroken_importLine.notMem_of_isBreak rfl⟩, hclosing⟩
    exact absurd (List.all_eq_true.mp hindent _ hmem) (by decide)
  have hfeed : StandsAt "\nuse " ['\n'] 0 := ⟨[], "use ", rfl, rfl⟩
  obtain rfl := eq_byteSize_of_standsAt hclass hline hfront htail
    (StandsAt.trans hlast.1 hfeed) himport
  constructor
  · rw [← hone] at himport
    have hstarts := ((standsAt_append_iff (front ++ ['\n']) _ 0).mp himport).prefix_of_zero
    cases indent with
    | nil => rfl
    | cons c indent =>
        obtain rfl : 'u' = c := (List.cons_prefix_cons.mp hstarts).1
        cases List.all_eq_true.mp hindent 'u' List.mem_cons_self
  · intro more hmore
    have hplace := (standsAt_append_iff
      (front ++ ['\n'] ++ (indent ++ importLine className ++ closing)) _ more).mpr hmore
    rw [List.append_assoc (front ++ ['\n'])] at hplace
    have hle := hlast.2 hplace
    rw [byteSize_append, hone] at hle
    omega

theorem takesImportsAt_of_isLastImport
    (hpoint : firstPoint? t importAnchors = some (strategy, point))
    (hlong : t.length + 1 < (importLine className).length)
    (hlast : IsLastImport (splice t point [importLine className]) className) :
    TakesImportsAt t point := by
  obtain ⟨i, line, hline, rfl⟩ := exists_line_of_importPoint hpoint
  obtain ⟨head, tail, hfeed, hsplice, hcut⟩ :=
    exists_splice_pointAfter hline (importLine_ne_nil className)
  obtain ⟨front, rfl⟩ := List.getLast?_eq_some_iff.mp hfeed
  obtain ⟨closing, hreturns, htext⟩ := exists_text_eq (LineEnding.detect t)
  have hclosing : '\n' ∉ closing := fun hmem => absurd (hreturns _ hmem) (by decide)
  have hsizes : front.length ≤ t.length + 1 ∧ tail.length ≤ t.length := by
    have hending : (LineEnding.detect t).text.length ≤ 2 := by
      cases LineEnding.detect t <;> decide
    rcases hcut with ⟨heq, -⟩ | ⟨heq, rfl, -⟩
    · have hwhole := congrArg List.length heq
      simp only [List.length_append] at hwhole
      omega
    · have hwhole := congrArg List.length heq
      simp only [List.length_append, List.length_singleton] at hwhole
      exact ⟨by omega, Nat.zero_le _⟩
  have hwhole : front ++ ['\n'] ++ (line.indent ++ importLine className) ++
      (LineEnding.detect t).text ++ tail =
        front ++ ['\n'] ++ (line.indent ++ importLine className ++ closing ++ '\n' :: tail) := by
    rw [htext]
    simp
  rw [hsplice, hwhole] at hlast
  obtain ⟨place, hplace, himport⟩ := hlast
  obtain ⟨hindent, hbehind⟩ := indent_eq_nil_of_isLast hclass line.all_indent hclosing
    (by omega) (by omega) hplace himport
  refine ⟨by rw [pointAfter_indent, hindent], fun other hother => ?_⟩
  rcases hcut with ⟨heq, hoffset⟩ | ⟨-, -, hoffset⟩
  · have hone : byteSize (front ++ ['\n']) = byteSize front + 1 := byteSize_append front ['\n']
    refine Nat.not_le.mp fun hle => ?_
    obtain ⟨more, rfl⟩ := Nat.exists_eq_add_of_le (show byteSize front ≤ other by omega)
    rw [heq, List.append_assoc, standsAt_append_iff] at hother
    exact hbehind more hother
  · have hinside := hother.add_le
    rw [show byteSize ("\nuse " : Text) = 5 from rfl] at hinside
    omega

theorem weave_importSpec_eq_applied
    (hpoint : firstPoint? t importAnchors = some (strategy, point))
    (habsent : ¬importLine className <:+: t) :
    weave t (importSpec className) = .applied (splice t point [importLine className]) := by
  have happlied : isApplied t (.contains (importLine className)) = false := by
    rw [← Bool.not_eq_true, isApplied_iff]
    exact fun ⟨_, hkeys⟩ => habsent (hkeys _ (List.mem_singleton_self _))
  rw [hclass.importSpec_eq]
  simp only [weave, decision, Spec.ofLine, happlied, if_neg Bool.false_ne_true, hpoint]
  rfl

end Spoiled

/-- An import that is not in the text goes astray at once. -/
theorem takesImportsAt_of_keepsImportOrder {t : Text} (h : KeepsImportOrder t) {strategy : Nat}
    {point : Point} (hpoint : firstPoint? t importAnchors = some (strategy, point)) :
    TakesImportsAt t point := by
  -- the import of a class with a name that is longer than the text
  obtain ⟨className, hclass, hlong⟩ : ∃ className, IsClassName className ∧
      t.length + 1 < (importLine className).length := by
    refine ⟨List.replicate (t.length + 1) 'A', ⟨by simp, fun c hc => .inl ?_⟩, ?_⟩
    · exact List.eq_of_mem_replicate hc ▸ rfl
    · delta importLine
      simp
  have hweave := weave_importSpec_eq_applied hclass hpoint fun hwithin =>
    absurd hwithin.length_le (by omega)
  have hlast := h.last [className] (List.forall_mem_singleton.mpr hclass) 0 className _ rfl
    (by rw [List.map_singleton, weaveAll, hweave]; rfl)
  exact takesImportsAt_of_isLastImport hclass hpoint hlong hlast

/-- **A text keeps imports in order exactly if the place where it takes them is behind a line that
is not indented and behind all imports.** -/
theorem keepsImportOrder_iff (t : Text) : KeepsImportOrder t ↔
    ∀ strategy point, firstPoint? t importAnchors = some (strategy, point) →
      TakesImportsAt t point := by
  constructor
  · intro h strategy point hpoint
    exact takesImportsAt_of_keepsImportOrder h hpoint
  · intro htakes
    have hawaits : AwaitsImports t [] := .inr ⟨rfl, htakes⟩
    refine ⟨fun classes hclasses => (hawaits.run hclasses).1, fun classes hclasses => ?_⟩
    simpa using (hawaits.run hclasses).2

/-- An import over three lines, of which the last is not indented. -/
def spreadImport : Text := "<?php\nuse A,\n    B\n;\nclass C\n"

theorem spreadImport_keepsImportOrder : KeepsImportOrder spreadImport ∧
    (weaveAll spreadImport ([("D" : Text), "E"].map importSpec)).2 =
      "<?php\nuse A,\n    B\n;\nuse D;\nuse E;\nclass C\n" := by
  refine ⟨(keepsImportOrder_iff spreadImport).mpr fun strategy point hpoint => ?_, by cbv⟩
  have hfirst : firstPoint? spreadImport importAnchors =
      some (0, { offset := 21, indent := [], placement := .lineStart }) := by cbv
  obtain ⟨-, rfl⟩ := Prod.mk.inj (Option.some.inj (hpoint.symm.trans hfirst))
  have hlast : locateLast? spreadImport "\nuse " = some 5 := by cbv
  refine ⟨rfl, fun place hplace => ?_⟩
  have hle : place ≤ 5 := (locateLast?_eq_some_iff.mp hlast).2.2 hplace
  change place + 1 < 21
  omega

/-- An import over two lines, of which the last is indented. -/
def indentedImport : Text := "<?php\nuse A,\n    B;\n"

/-- The `;` of the last import is found, and yet what goes in behind it is not the last import: it is
indented, and the next one is put ahead of it. -/
theorem imports_out_of_order : ¬KeepsImportOrder indentedImport ∧
    (weaveAll indentedImport ([("C" : Text), "D"].map importSpec)).2 =
      "<?php\nuse A,\n    B;\n    use D;\n    use C;\n" := by
  refine ⟨fun h => ?_, by cbv⟩
  have hpoint : firstPoint? indentedImport importAnchors =
      some (0, { offset := 20, indent := "    ", placement := .lineStart }) := by cbv
  have htakes := takesImportsAt_of_keepsImportOrder h hpoint
  exact absurd htakes.indent (by decide)

end Graft
