/-
This file says in what the two layouts of an expression differ.

The check of links comes before any text and does not see the layout, so an expression is refused
in both layouts or in none. The texts are the same fragments joined by two separators, and one
separator is the other with a line break behind it. Fragments are taken from the description as
they are and may hold line breaks and semicolons of their own: the first are taken away along
with those of the separators, and where there are none of the second, the semicolons are those of
the separators and show where each fragment ends.
-/

import FilterGraph.Expression
import FilterGraph.Proofs.LinkFaults
import FilterGraph.Proofs.Separators

namespace FilterGraph

/-- The text without its line breaks. -/
def withoutLineBreaks (text : String) : String :=
  String.ofList (text.toList.filter (· ≠ '\n'))

/-- A separator of either layout is a semicolon and line breaks. -/
theorem Layout.filter_separator (layout : Layout) :
    layout.separator.toList.filter (· ≠ '\n') = [';'] := by
  cases layout <;> rfl

namespace Pipeline

variable (pipeline : Pipeline)

/-! ### The same outcome -/

/-- The outcome is that of the check of links, whatever the layout is. -/
theorem expression_in_layouts (linkCheck : LinkCheck) :
    (∃ error, ∀ layout, pipeline.expression { linkCheck, layout } = .error error) ∨
      ∀ layout, pipeline.expression { linkCheck, layout } = .ok (pipeline.graph layout) := by
  cases linkCheck with
  | lenient => exact Or.inr fun _ => rfl
  | strict =>
    cases checked : pipeline.checkLinks with
    | error error => exact Or.inl ⟨error, fun _ => by simp only [expression, checked]⟩
    | ok _ => exact Or.inr fun _ => by simp only [expression, checked]

/-! ### What stands in the text -/

theorem length_fragments : pipeline.fragments.length = pipeline.stages.length := by
  rw [fragments, List.length_map]

theorem toList_graph (layout : Layout) :
    (pipeline.graph layout).toList =
      layout.separator.toList.intercalate (pipeline.fragments.map String.toList) := by
  rw [graph, String.toList_intercalate]

/-- Without its line breaks the text shows nothing of the layout. -/
theorem withoutLineBreaks_graph (layout : Layout) :
    withoutLineBreaks (pipeline.graph layout) =
      ";".intercalate (pipeline.fragments.map withoutLineBreaks) := by
  have parts : (pipeline.fragments.map String.toList).map (·.filter (· ≠ '\n')) =
      (pipeline.fragments.map withoutLineBreaks).map String.toList := by
    rw [List.map_map, List.map_map]
    refine List.map_congr_left fun fragment _ => ?_
    exact String.toList_ofList.symm
  rw [← String.toList_inj, withoutLineBreaks, String.toList_ofList, toList_graph,
    filter_intercalate, layout.filter_separator, parts, String.toList_intercalate]
  rfl

/-- A character stands in the text as often as in the fragments and in the separators, of which
there is one less than there are stages. -/
theorem count_graph (layout : Layout) (char : Char) :
    (pipeline.graph layout).toList.count char =
      (pipeline.fragments.map String.toList).flatten.count char +
        (pipeline.stages.length - 1) * layout.separator.toList.count char := by
  rw [toList_graph, count_intercalate, List.length_map, length_fragments]

/-- The line breaks of the pretty layout stand behind the semicolons of the separators. -/
theorem count_lineBreak_graph :
    (pipeline.graph .pretty).toList.count '\n' =
      (pipeline.graph .compact).toList.count '\n' + (pipeline.stages.length - 1) := by
  rw [count_graph, count_graph]
  show _ + (pipeline.stages.length - 1) * 1 = _ + (pipeline.stages.length - 1) * 0 + _
  omega

variable {pipeline}

/-- Where fragments have no semicolons, all semicolons are those of the separators. -/
theorem count_semicolon_graph (free : ∀ fragment ∈ pipeline.fragments, ';' ∉ fragment.toList) :
    (pipeline.graph .compact).toList.count ';' = pipeline.stages.length - 1 := by
  have none : (pipeline.fragments.map String.toList).flatten.count ';' = 0 := by
    refine List.count_eq_zero.mpr fun member => ?_
    obtain ⟨_, listed, inText⟩ := List.mem_flatten.mp member
    obtain ⟨fragment, here, rfl⟩ := List.mem_map.mp listed
    exact free fragment here inText
  rw [count_graph, none, Nat.zero_add]
  exact Nat.mul_one _

/-- Then the fragments are read off between them. -/
theorem pieces_graph (free : ∀ fragment ∈ pipeline.fragments, ';' ∉ fragment.toList)
    (staged : pipeline.stages ≠ []) :
    pieces ';' (pipeline.graph .compact) = pipeline.fragments := by
  have nonempty : pipeline.fragments ≠ [] := fun none => staged (List.map_eq_nil_iff.mp none)
  exact (pieces_intercalate free).trans (if_neg nonempty)

/-! ### The layouts side by side -/

/-- Both layouts are refused with one error, or both are written. The texts join the fragments
with one separator or the other, and differ only by line breaks: they are the same without any,
and the pretty one has one more for each separator. If fragments have no semicolons, the compact
text is cut by its semicolons into the fragments. -/
theorem layouts_differ_by_line_breaks (pipeline : Pipeline) (linkCheck : LinkCheck) :
    (∃ error, ∀ layout, pipeline.expression { linkCheck, layout } = .error error) ∨
    ∃ compact pretty,
      pipeline.expression { linkCheck, layout := .compact } = .ok compact ∧
      pipeline.expression { linkCheck, layout := .pretty } = .ok pretty ∧
      compact = ";".intercalate pipeline.fragments ∧
      pretty = ";\n".intercalate pipeline.fragments ∧
      withoutLineBreaks compact = withoutLineBreaks pretty ∧
      pretty.toList.count '\n' = compact.toList.count '\n' + (pipeline.stages.length - 1) ∧
      ((∀ fragment ∈ pipeline.fragments, ';' ∉ fragment.toList) → pipeline.stages ≠ [] →
        compact.toList.count ';' = pipeline.stages.length - 1 ∧
          pieces ';' compact = pipeline.fragments) := by
  refine (pipeline.expression_in_layouts linkCheck).imp_right fun written => ?_
  refine ⟨_, _, written .compact, written .pretty, rfl, rfl, ?_, pipeline.count_lineBreak_graph,
    fun free staged => ⟨count_semicolon_graph free, pieces_graph free staged⟩⟩
  rw [withoutLineBreaks_graph, withoutLineBreaks_graph]

/-- A filter with a line break in its text, and a split. -/
def broken : Pipeline where
  sources := [⟨"a", "a.mov"⟩]
  stages := [
    ⟨.one "a", .bare "scale=640:\n-1", .many ["left", "right"]⟩,
    ⟨.one "left", .bare "hflip", .one "turned"⟩,
    ⟨.many ["turned", "right"], .bare "hstack", .one "out"⟩]
  output := "out.avi"

theorem token_broken : broken.table.token = fun id => if id = "a" then "0:v" else id := by
  funext id
  rw [StreamTable.token, table, StreamTable.position?_ofSources]
  by_cases same : id = "a"
  · subst same
    rfl
  · have other : "a" ≠ id := fun equal => same equal.symm
    simp [broken, same, other]

theorem fragments_broken : broken.fragments =
    ["[0:v]scale=640:\n-1,split[left][right]", "[left]hflip[turned]",
      "[turned][right]hstack=inputs=2[out]"] := by
  show [Stage.fragment _ _, Stage.fragment _ _, Stage.fragment _ _] = _
  simp only [Stage.fragment, Stage.outputSegment, StreamTable.links, token_broken]
  rfl

/-- The line break of the filter is in both texts, and the semicolons of the compact one are those
between the stages. -/
theorem broken_layouts_differ :
    (∀ fragment ∈ broken.fragments, ';' ∉ fragment.toList) ∧ broken.stages ≠ [] ∧
      ∃ compact pretty,
        broken.expression { linkCheck := .strict, layout := .compact } = .ok compact ∧
        broken.expression { linkCheck := .strict, layout := .pretty } = .ok pretty ∧
        withoutLineBreaks compact = withoutLineBreaks pretty ∧
        pretty.toList.count '\n' = compact.toList.count '\n' + 2 ∧
        compact.toList.count ';' = 2 ∧
        pieces ';' compact = ["[0:v]scale=640:\n-1,split[left][right]", "[left]hflip[turned]",
          "[turned][right]hstack=inputs=2[out]"] := by
  have free : ∀ fragment ∈ broken.fragments, ';' ∉ fragment.toList := by
    rw [fragments_broken]
    decide
  have staged : broken.stages ≠ [] := List.cons_ne_nil _ _
  rcases layouts_differ_by_line_breaks broken .strict with ⟨error, refused⟩ | written
  · have accepted : broken.checkLinks = .ok () := broken.checkLinks_eq_verdict.trans rfl
    have ok := refused .compact
    simp only [expression, accepted] at ok
    cases ok
  · obtain ⟨compact, pretty, compactly, prettily, _, _, same, more, semicolons⟩ := written
    obtain ⟨between, cut⟩ := semicolons free staged
    exact ⟨free, staged, compact, pretty, compactly, prettily, same, more, between,
      cut.trans fragments_broken⟩

end Pipeline

end FilterGraph
