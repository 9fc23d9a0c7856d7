/-
This file proves what can be read back from lists that are joined by a separator. Everything
rests on one fact: a list is cut at the first occurrence of a mark in one way only. The last
sections say what stands in a joined list, and into which pieces a joined text is cut.
-/

namespace FilterGraph

variable {Item : Type}

/-! ### Lists cut at a mark -/

/-- Two lists that go up to the first occurrence of a mark are cut there at the same place. -/
theorem append_mark_inj {mark : Item} {first second : List Item}
    {firstRest secondRest : List Item} (firstFree : mark ∉ first) (secondFree : mark ∉ second)
    (same : first ++ mark :: firstRest = second ++ mark :: secondRest) :
    first = second ∧ firstRest = secondRest := by
  induction first generalizing second with
  | nil =>
    cases second with
    | nil => exact ⟨rfl, (List.cons.inj same).2⟩
    | cons item others =>
      have head : mark = item := (List.cons.inj same).1
      exact absurd List.mem_cons_self (head ▸ secondFree)
  | cons item others inductionHypothesis =>
    cases second with
    | nil =>
      have head : item = mark := (List.cons.inj same).1
      exact absurd List.mem_cons_self (head ▸ firstFree)
    | cons item' others' =>
      obtain ⟨head, tail⟩ := List.cons.inj same
      obtain ⟨rest, behind⟩ := inductionHypothesis (fun member => firstFree (.tail _ member))
        (fun member => secondFree (.tail _ member)) tail
      exact ⟨by rw [head, rest], behind⟩

/-- The list begins with an item that it does not hold again. -/
def OpensOnce (start : Item) (mark : List Item) : Prop :=
  ∃ tail, mark = start :: tail ∧ start ∉ tail

/-- Such a list does not reach over a place where one that begins alike begins. -/
theorem OpensOnce.isPrefix_of_append_eq {start : Item} {mark extra rest behind : List Item}
    (opens : OpensOnce start mark) (nonempty : extra ≠ [])
    (same : mark ++ rest = extra ++ start :: behind) : mark <+: extra := by
  obtain ⟨tail, rfl, once⟩ := opens
  cases extra with
  | nil => exact absurd rfl nonempty
  | cons item others =>
    obtain ⟨rfl, tails⟩ := List.cons.inj same
    rw [List.cons_prefix_cons]
    refine ⟨rfl, ?_⟩
    rcases List.append_eq_append_iff.mp tails with ⟨between, split, _⟩ | ⟨between, split, starts⟩
    · exact ⟨between, split.symm⟩
    · cases between with
      | nil => exact ⟨[], by rw [split, List.append_nil, List.append_nil]⟩
      | cons other _ =>
        obtain ⟨rfl, _⟩ := List.cons.inj starts
        exact absurd (split ▸ List.mem_append_right others List.mem_cons_self) once

section

variable {start : Item} {ends : List (List Item)}

/-- Nothing stands between two places with an end if it holds none. -/
theorem eq_nil_of_ends (opens : ∀ mark ∈ ends, OpensOnce start mark)
    {extra behind behind' : List Item} (free : ∀ mark ∈ ends, ¬mark <:+: extra)
    (begins : ∃ mark ∈ ends, mark <+: behind) (begins' : ∃ mark ∈ ends, mark <+: behind')
    (same : behind = extra ++ behind') : extra = [] := by
  obtain ⟨mark, member, rest, rfl⟩ := begins
  obtain ⟨mark', member', rest', rfl⟩ := begins'
  obtain ⟨tail', rfl, _⟩ := opens mark' member'
  by_cases none : extra = []
  · exact none
  · exact absurd ((opens mark member).isPrefix_of_append_eq none same).isInfix
      (free mark member)

/-- Two lists that go up to the first of several ends are cut there at the same place. Parts of an
end may well stand there alone. -/
theorem append_ends_inj (opens : ∀ mark ∈ ends, OpensOnce start mark)
    {first second behind behind' : List Item} (firstFree : ∀ mark ∈ ends, ¬mark <:+: first)
    (secondFree : ∀ mark ∈ ends, ¬mark <:+: second)
    (begins : ∃ mark ∈ ends, mark <+: behind) (begins' : ∃ mark ∈ ends, mark <+: behind')
    (same : first ++ behind = second ++ behind') : first = second ∧ behind = behind' := by
  rcases List.append_eq_append_iff.mp same with ⟨extra, rfl, behinds⟩ | ⟨extra, rfl, behinds⟩
  · have none := eq_nil_of_ends opens (fun mark member inside =>
      secondFree mark member (inside.trans (List.suffix_append first extra).isInfix))
      begins begins' behinds
    subst none
    exact ⟨(List.append_nil first).symm, behinds⟩
  · have none := eq_nil_of_ends opens (fun mark member inside =>
      firstFree mark member (inside.trans (List.suffix_append second extra).isInfix))
      begins' begins behinds
    subst none
    exact ⟨List.append_nil second, behinds.symm⟩

end

/-- Parts that do not hold the first item of what ends them can be told apart. -/
theorem flatMap_append_mark_inj {mark : Item} {markRest : List Item}
    {first second : List (List Item)} (firstFree : ∀ part ∈ first, mark ∉ part)
    (secondFree : ∀ part ∈ second, mark ∉ part)
    (same : first.flatMap (· ++ mark :: markRest) = second.flatMap (· ++ mark :: markRest)) :
    first = second := by
  induction first generalizing second with
  | nil =>
    cases second with
    | nil => rfl
    | cons part others => simp at same
  | cons part others inductionHypothesis =>
    cases second with
    | nil => simp at same
    | cons part' others' =>
      simp only [List.flatMap_cons, List.append_assoc, List.cons_append] at same
      obtain ⟨rfl, behind⟩ := append_mark_inj (firstFree part List.mem_cons_self)
        (secondFree part' List.mem_cons_self) same
      rw [inductionHypothesis (fun other member => firstFree other (.tail _ member))
        (fun other member => secondFree other (.tail _ member)) (List.append_cancel_left behind)]

/-- A separator behind the joined parts ends the last of them as it ends the others. -/
theorem intercalate_append_separator (separator : List Item)
    {parts : List (List Item)} (nonempty : parts ≠ []) :
    separator.intercalate parts ++ separator = parts.flatMap (· ++ separator) := by
  induction parts with
  | nil => exact absurd rfl nonempty
  | cons part others inductionHypothesis =>
    cases others with
    | nil => simp
    | cons next rest =>
      rw [List.intercalate_cons_cons, List.flatMap_cons, ← inductionHypothesis (by simp)]
      simp only [List.append_assoc]

/-- Nothing is put behind the last part. -/
theorem intercalate_append_singleton (separator : List Item) (parts : List (List Item))
    (last : List Item) :
    separator.intercalate (parts ++ [last]) = parts.flatMap (· ++ separator) ++ last := by
  have ended := intercalate_append_separator separator
    (List.append_ne_nil_of_right_ne_nil parts (List.cons_ne_nil last []))
  rw [List.flatMap_append, List.flatMap_singleton, ← List.append_assoc] at ended
  exact List.append_cancel_right ended

theorem mem_of_mem_intercalate {separator : List Item} {parts : List (List Item)}
    {item : Item} (member : item ∈ separator.intercalate parts) :
    item ∈ separator ∨ ∃ part ∈ parts, item ∈ part := by
  induction parts with
  | nil => cases member
  | cons part others inductionHypothesis =>
    cases others with
    | nil =>
      rw [List.intercalate_singleton] at member
      exact Or.inr ⟨part, List.mem_cons_self, member⟩
    | cons next rest =>
      rw [List.intercalate_cons_cons, List.mem_append, List.mem_append] at member
      rcases member with (inPart | inSeparator) | inOthers
      · exact Or.inr ⟨part, List.mem_cons_self, inPart⟩
      · exact Or.inl inSeparator
      · rcases inductionHypothesis inOthers with inSeparator | ⟨other, later, inOther⟩
        · exact Or.inl inSeparator
        · exact Or.inr ⟨other, .tail _ later, inOther⟩

theorem intercalate_ne_nil (separator : List Item) {parts : List (List Item)}
    (nonempty : parts ≠ []) (filled : ∀ part ∈ parts, part ≠ []) :
    separator.intercalate parts ≠ [] := by
  cases parts with
  | nil => exact absurd rfl nonempty
  | cons part others =>
    have head := filled part List.mem_cons_self
    cases others with
    | nil => simpa using head
    | cons next rest => simp [List.intercalate_cons_cons, head]

/-- Parts can be read back from the joined list if none of them is empty or holds the first item
of the separator. Without the first condition no part and one empty part would look the same. -/
theorem intercalate_inj {mark : Item} {markRest : List Item}
    {first second : List (List Item)} (firstFree : ∀ part ∈ first, part ≠ [] ∧ mark ∉ part)
    (secondFree : ∀ part ∈ second, part ≠ [] ∧ mark ∉ part)
    (same : (mark :: markRest).intercalate first = (mark :: markRest).intercalate second) :
    first = second := by
  by_cases firstNone : first = []
  · by_cases secondNone : second = []
    · rw [firstNone, secondNone]
    · rw [firstNone, List.intercalate_nil] at same
      exact absurd same.symm (intercalate_ne_nil _ secondNone fun part member =>
        (secondFree part member).1)
  · by_cases secondNone : second = []
    · rw [secondNone, List.intercalate_nil] at same
      exact absurd same (intercalate_ne_nil _ firstNone fun part member =>
        (firstFree part member).1)
    · have ended : first.flatMap (· ++ mark :: markRest) =
          second.flatMap (· ++ mark :: markRest) := by
        rw [← intercalate_append_separator _ firstNone, same,
          intercalate_append_separator _ secondNone]
      exact flatMap_append_mark_inj (fun part member => (firstFree part member).2)
        (fun part member => (secondFree part member).2) ended

/-! ### What stands in a joined list -/

/-- What is left of the joined list is what is left of the parts, joined by what is left of the
separator. -/
theorem filter_intercalate (keep : Item → Bool) (separator : List Item)
    (parts : List (List Item)) :
    (separator.intercalate parts).filter keep =
      (separator.filter keep).intercalate (parts.map (·.filter keep)) := by
  induction parts with
  | nil => rfl
  | cons part others inductionHypothesis =>
    cases others with
    | nil => simp
    | cons next rest =>
      rw [List.intercalate_cons_cons, List.filter_append, List.filter_append, inductionHypothesis]
      exact List.intercalate_cons_cons.symm

/-- An item stands in the joined list as often as in the parts and in the separators, of which
there is one less than there are parts. -/
theorem count_intercalate [BEq Item] (item : Item) (separator : List Item)
    (parts : List (List Item)) :
    (separator.intercalate parts).count item =
      parts.flatten.count item + (parts.length - 1) * separator.count item := by
  induction parts with
  | nil => simp
  | cons part others inductionHypothesis =>
    cases others with
    | nil => simp
    | cons next rest =>
      have inParts : (part :: next :: rest).flatten.count item =
          part.count item + (next :: rest).flatten.count item := by
        rw [List.flatten_cons, List.count_append]
      have inSeparators : ((part :: next :: rest).length - 1) * separator.count item =
          ((next :: rest).length - 1) * separator.count item + separator.count item :=
        Nat.add_one_mul rest.length _
      rw [List.intercalate_cons_cons, List.count_append, List.count_append, inductionHypothesis,
        inParts, inSeparators]
      omega

/-! ### Texts cut at a character -/

/-- The pieces of a text between the occurrences of a character. -/
def pieces (mark : Char) (text : String) : List String :=
  (text.split mark).toList.map (·.copy)

/-- Joined texts are the pieces of the whole if none of them holds the character that they are
joined with. The whole has one piece at least, even if nothing is joined. -/
theorem pieces_intercalate {mark : Char} {parts : List String}
    (free : ∀ part ∈ parts, mark ∉ part.toList) :
    pieces mark ((String.singleton mark).intercalate parts) =
      if parts = [] then [""] else parts :=
  String.toList_split_intercalate free

end FilterGraph
