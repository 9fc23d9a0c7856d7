/-
This file says that the table of streams gives what a search through the declarations gives.

The table is filled in one pass over the declarations, and no position is ever replaced in it. So
after any number of declarations it holds the least position of every identifier among them, and
this is the position at which a search from the front stops. An identifier that the search does
not find is written as it is.
-/

import FilterGraph.StreamTable
import Mathlib.Order.Bounds.Basic

namespace FilterGraph

/-- The first item with a property is the one at the least place with such an item. -/
theorem findIdx?_eq_some_iff_isLeast {Item : Type} {holds : Item → Bool} {items : List Item}
    {place : Nat} :
    items.findIdx? holds = some place ↔
      IsLeast {place | ∃ item, items[place]? = some item ∧ holds item = true} place := by
  have holds_iff (place : Nat) (bound : place < items.length) :
      (∃ item, items[place]? = some item ∧ holds item = true) ↔ holds items[place] = true := by
    simp [bound]
  rw [List.findIdx?_eq_some_iff_getElem]
  constructor
  · rintro ⟨bound, found, first⟩
    refine ⟨(holds_iff place bound).mpr found, fun other foundOther => ?_⟩
    refine Nat.le_of_not_lt fun less => first other less ?_
    exact (holds_iff other (less.trans bound)).mp foundOther
  · rintro ⟨found, least⟩
    obtain ⟨_, atPlace, _⟩ := id found
    obtain ⟨bound, _⟩ := List.getElem?_eq_some_iff.mp atPlace
    refine ⟨bound, (holds_iff place bound).mp found, fun other less foundOther => ?_⟩
    refine Nat.not_le_of_lt less (least ?_)
    exact (holds_iff other (less.trans bound)).mpr foundOther

/-- Goes through declarations that are numbered from a position on, up to the first one that has
the identifier, and gives what the identifier is written as. -/
def search (id : String) (position : Nat) : List Source → String
  | [] => id
  | source :: others =>
    if source.id = id then videoStream position else search id (position + 1) others

/-- The declaration at that position has the identifier. -/
def DeclaredAt (sources : List Source) (id : String) (position : Nat) : Prop :=
  ∃ source, sources[position]? = some source ∧ source.id = id

namespace StreamTable

/-! ### Positions -/

/-- The position of an identifier is the least one at which it is declared. -/
theorem position?_eq_some_iff_isLeast {sources : List Source} {id : String} {position : Nat} :
    (ofSources sources).position? id = some position ↔
      IsLeast {position | DeclaredAt sources id position} position := by
  rw [position?_ofSources, findIdx?_eq_some_iff_isLeast]
  simp only [decide_eq_true_eq, DeclaredAt]

theorem position?_eq_none_iff {sources : List Source} {id : String} :
    (ofSources sources).position? id = none ↔ ∀ source ∈ sources, source.id ≠ id := by
  rw [position?_ofSources, List.findIdx?_eq_none_iff]
  simp only [decide_eq_false_iff_not, ne_eq]

/-! ### Tokens -/

/-- A search stops where the first declaration with the identifier is. -/
theorem search_eq (id : String) (position : Nat) (sources : List Source) :
    search id position sources =
      match sources.findIdx? (·.id = id) with
      | some place => videoStream (position + place)
      | none => id := by
  -- Behind a declaration with another identifier the search goes on at the next position.
  induction sources generalizing position with
  | nil => rfl
  | cons source others inductionHypothesis =>
    rw [search, List.findIdx?_cons]
    by_cases same : source.id = id
    · simp [same]
    · rw [if_neg same, inductionHypothesis]
      simp only [same, decide_false, Bool.false_eq_true, if_false]
      cases others.findIdx? (·.id = id) with
      | none => rfl
      | some place => simp only [Option.map_some, Nat.add_assoc, Nat.add_comm 1]

theorem token_ofSources (sources : List Source) (id : String) :
    (ofSources sources).token id = search id 0 sources := by
  rw [search_eq, token, position?_ofSources]
  cases sources.findIdx? (·.id = id) with
  | none => rfl
  | some place => simp only [Nat.zero_add]

/-- An identifier is written as the stream of its first declaration, or as it is. -/
theorem token_of_declared_or_undeclared (sources : List Source) (id : String) :
    (∃ position, IsLeast {position | DeclaredAt sources id position} position ∧
      (ofSources sources).token id = toString position ++ ":v") ∨
    (∀ source ∈ sources, source.id ≠ id) ∧ (ofSources sources).token id = id := by
  cases found : (ofSources sources).position? id with
  | some position =>
    refine Or.inl ⟨position, position?_eq_some_iff_isLeast.mp found, ?_⟩
    simp only [token, found, videoStream]
  | none =>
    refine Or.inr ⟨position?_eq_none_iff.mp found, ?_⟩
    rw [token, found]

/-! ### Links -/

theorem toList_links (table : StreamTable) (ids : List String) :
    (table.links ids).toList =
      ids.flatMap fun id => '[' :: ((table.token id).toList ++ [']']) := by
  rw [links, String.toList_join, List.flatMap_map]
  simp only [bracketed, String.toList_append]
  rfl

theorem links_append (table : StreamTable) (first second : List String) :
    table.links (first ++ second) = table.links first ++ table.links second := by
  rw [links, List.map_append, String.join_append, links, links]

/-- The table stands for a search: every identifier is written as a search through the
declarations would write it, which is the stream of the least position at which it is declared,
or the identifier itself if there is none. Links are their tokens between brackets, in order, so
that the text of some links and others is the text of the first and that of the others. -/
theorem table_stands_for_search (sources : List Source) :
    (∀ id, (ofSources sources).token id = search id 0 sources ∧
      ((∃ position, IsLeast {position | DeclaredAt sources id position} position ∧
        (ofSources sources).token id = toString position ++ ":v") ∨
      (∀ source ∈ sources, source.id ≠ id) ∧ (ofSources sources).token id = id)) ∧
    (∀ ids, ((ofSources sources).links ids).toList =
      ids.flatMap fun id => '[' :: (((ofSources sources).token id).toList ++ [']'])) ∧
    ∀ first second, (ofSources sources).links (first ++ second) =
      (ofSources sources).links first ++ (ofSources sources).links second :=
  ⟨fun id => ⟨token_ofSources sources id, token_of_declared_or_undeclared sources id⟩,
    (ofSources sources).toList_links, (ofSources sources).links_append⟩

end StreamTable

end FilterGraph
