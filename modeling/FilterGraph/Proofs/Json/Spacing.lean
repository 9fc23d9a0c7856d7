/-
This file puts the two ways of writing a value under one roof, and says which values are read back
from their texts.

A value on one line and a value on several lines differ in nothing but blanks: behind an opening
bracket or a comma, before a closing bracket, and behind a colon. A spacing says what these blanks
are. Whatever is proved for all spacings holds of both ways of writing, and the proofs need to
know of a spacing only that it is blank.
-/

import FilterGraph.Json.Printer
import FilterGraph.Proofs.Json.Scalars

namespace FilterGraph.Json

/-! ### Parts of values -/

/-- What holds of scalars, and of a list or object if it holds of what is inside, holds of every
value. -/
theorem Value.byParts {motive : Value → Prop} (scalar : ∀ scalar, motive (.scalar scalar))
    (list : ∀ items, (∀ item ∈ items, motive item) → motive (.list items))
    (object : ∀ members, (∀ member ∈ members, motive member.2) → motive (.object members))
    (value : Value) : motive value := by
  cases value with
  | scalar value => exact scalar value
  | list items => exact list items fun item _ => byParts scalar list object item
  | object members => exact object members fun member _ => byParts scalar list object member.2
termination_by sizeOf value
decreasing_by
  · next here =>
    have := List.sizeOf_lt_of_mem here
    subst_vars
    simp only [Value.list.sizeOf_spec]
    omega
  · next here =>
    have := List.sizeOf_lt_of_mem here
    obtain ⟨key, value⟩ := member
    subst_vars
    simp only [Value.object.sizeOf_spec, Prod.mk.sizeOf_spec] at this ⊢
    omega

/-- The first value is the second one or stands somewhere inside of it. -/
inductive Value.Occurs (part : Value) : Value → Prop where
  | here : Occurs part part
  | item {items : List Value} {item : Value} (member : item ∈ items)
      (inside : Occurs part item) : Occurs part (.list items)
  | member {members : List (String × Value)} {key : String} {value : Value}
      (member : (key, value) ∈ members) (inside : Occurs part value) :
      Occurs part (.object members)

/-- Every scalar but a real has a text that it is read back from. -/
def Scalar.Exact : Scalar → Prop
  | .number (.real _ _) => False
  | _ => True

/-- What holds of all scalars but the reals. -/
@[elab_as_elim] theorem Scalar.Exact.byKind {motive : Scalar → Prop} (null : motive .null)
    (yes : motive (.bool true)) (no : motive (.bool false))
    (integer : ∀ value fits, motive (.number (.integer value fits)))
    (text : ∀ content, motive (.text content)) {scalar : Scalar} (exact : scalar.Exact) :
    motive scalar := by
  cases scalar with
  | null => exact null
  | bool value =>
    cases value with
    | true => exact yes
    | false => exact no
  | number number =>
    cases number with
    | integer value fits => exact integer value fits
    | real value finite => exact exact.elim
  | text content => exact text content

/-- No real occurs in the value, at any depth. -/
def Value.Exact (value : Value) : Prop :=
  ∀ scalar, Occurs (.scalar scalar) value → scalar.Exact

namespace Value.Exact

theorem scalar {scalar : Scalar} (exact : (Value.scalar scalar).Exact) : scalar.Exact :=
  exact scalar .here

theorem item {items : List Value} (exact : (Value.list items).Exact) {item : Value}
    (member : item ∈ items) : item.Exact :=
  fun scalar inside => exact scalar (.item member inside)

theorem member {members : List (String × Value)} (exact : (Value.object members).Exact)
    {member : String × Value} (here : member ∈ members) : member.2.Exact :=
  fun scalar inside => exact scalar (.member here inside)

end Value.Exact

/-! ### Spacings -/

/-- The blanks of a text: those before a part or a closing bracket, by the number of brackets that
are open around it, and those behind a colon. -/
structure Spacing where
  gap : Nat → List Char
  behindColon : List Char
  gap_blank : ∀ level, ∀ char ∈ gap level, isBlank char = true
  behindColon_blank : ∀ char ∈ behindColon, isBlank char = true

namespace Spacing

/-- No blanks at all. -/
def tight : Spacing where
  gap _ := []
  behindColon := []
  gap_blank := by simp
  behindColon_blank := by simp

/-- A line for every part, indented by the open brackets. -/
def lined : Spacing where
  gap := Value.newline
  behindColon := [' ']
  gap_blank level char member := by
    rcases List.mem_cons.mp member with rfl | blank
    · rfl
    · obtain rfl := List.eq_of_mem_replicate blank
      rfl
  behindColon_blank := by simp [isBlank]

/-- The parts behind another one, inside of `level` brackets and one more, and the bracket that
closes it. -/
def more (spacing : Spacing) (bracket : Bracket) (level : Nat) : List (List Char) → List Char
  | [] => spacing.gap level ++ [bracket.closing]
  | part :: others =>
    ',' :: (spacing.gap (level + 1) ++ (part ++ spacing.more bracket level others))

/-- What stands behind an opening bracket: the parts and the closing bracket. -/
def inside (spacing : Spacing) (bracket : Bracket) (level : Nat) : List (List Char) → List Char
  | [] => [bracket.closing]
  | part :: others => spacing.gap (level + 1) ++ (part ++ spacing.more bracket level others)

mutual

/-- The text of a value inside of `level` open brackets. -/
def write (spacing : Spacing) (level : Nat) : Value → List Char
  | .scalar value => value.write
  | .list items => '[' :: spacing.inside .list level (spacing.itemTexts (level + 1) items)
  | .object members =>
    '\x7b' :: spacing.inside .object level (spacing.memberTexts (level + 1) members)

/-- The texts of the items of a list. -/
def itemTexts (spacing : Spacing) (level : Nat) : List Value → List (List Char)
  | [] => []
  | item :: others => spacing.write level item :: spacing.itemTexts level others

/-- The texts of the members of an object. -/
def memberTexts (spacing : Spacing) (level : Nat) : List (String × Value) → List (List Char)
  | [] => []
  | (key, value) :: others =>
    (Quoted.encode key.toList ++ ':' :: (spacing.behindColon ++ spacing.write level value)) ::
      spacing.memberTexts level others

end

/-- The text of a member. -/
def memberText (spacing : Spacing) (level : Nat) (member : String × Value) : List Char :=
  Quoted.encode member.1.toList ++ ':' :: (spacing.behindColon ++ spacing.write level member.2)

theorem itemTexts_eq_map (spacing : Spacing) (level : Nat) (items : List Value) :
    spacing.itemTexts level items = items.map (spacing.write level) := by
  induction items with
  | nil => rfl
  | cons item others inductionHypothesis =>
    rw [itemTexts, inductionHypothesis, List.map_cons]

theorem memberTexts_eq_map (spacing : Spacing) (level : Nat) (members : List (String × Value)) :
    spacing.memberTexts level members = members.map (spacing.memberText level) := by
  induction members with
  | nil => rfl
  | cons member others inductionHypothesis =>
    obtain ⟨key, value⟩ := member
    rw [memberTexts, inductionHypothesis, List.map_cons]
    rfl

theorem write_list (spacing : Spacing) (level : Nat) (items : List Value) :
    spacing.write level (.list items) =
      '[' :: spacing.inside .list level (items.map (spacing.write (level + 1))) := by
  rw [write, itemTexts_eq_map]

theorem write_object (spacing : Spacing) (level : Nat) (members : List (String × Value)) :
    spacing.write level (.object members) =
      '\x7b' :: spacing.inside .object level (members.map (spacing.memberText (level + 1))) := by
  rw [write, memberTexts_eq_map]

/-! ### On one line -/

theorem writeMoreItems_eq_more (level : Nat) (items : List Value) :
    Value.writeMoreItems items = tight.more .list level (items.map Value.write) := by
  induction items with
  | nil => rfl
  | cons item others inductionHypothesis =>
    rw [Value.writeMoreItems, inductionHypothesis]
    rfl

theorem writeMoreMembers_eq_more (level : Nat) (members : List (String × Value)) :
    Value.writeMoreMembers members = tight.more .object level
      (members.map fun member => Quoted.encode member.1.toList ++ ':' :: member.2.write) := by
  induction members with
  | nil => rfl
  | cons member others inductionHypothesis =>
    rw [Value.writeMoreMembers, inductionHypothesis]
    simp [more, tight]

/-- Without blanks a value is on one line. -/
theorem write_tight (value : Value) : ∀ level, tight.write level value = value.write := by
  induction value using Value.byParts with
  | scalar value => intro level; rfl
  | list items each =>
    intro level
    have texts : items.map (tight.write (level + 1)) = items.map Value.write :=
      List.map_congr_left fun item member => each item member (level + 1)
    rw [write_list, texts, Value.write]
    cases items with
    | nil => rfl
    | cons item others =>
      rw [Value.writeItems, writeMoreItems_eq_more level]
      rfl
  | object members each =>
    intro level
    have texts : members.map (tight.memberText (level + 1)) =
        members.map fun member => Quoted.encode member.1.toList ++ ':' :: member.2.write :=
      List.map_congr_left fun member here => by
        rw [memberText, each member here (level + 1)]
        rfl
    rw [write_object, texts, Value.write]
    cases members with
    | nil => rfl
    | cons member others =>
      rw [Value.writeMembers, writeMoreMembers_eq_more level]
      simp [inside, tight]

/-! ### On several lines -/

theorem writeIndentedItems_eq_more (level : Nat) (items : List Value) :
    Value.writeIndentedItems level items =
      lined.more .list level (items.map (Value.writeIndented (level + 1))) := by
  induction items with
  | nil => rfl
  | cons item others inductionHypothesis =>
    rw [Value.writeIndentedItems, inductionHypothesis]
    simp [more, lined]

theorem writeIndentedMembers_eq_more (level : Nat) (members : List (String × Value)) :
    Value.writeIndentedMembers level members = lined.more .object level (members.map fun member =>
      Quoted.encode member.1.toList ++ ':' :: ' ' :: member.2.writeIndented (level + 1)) := by
  induction members with
  | nil => rfl
  | cons member others inductionHypothesis =>
    rw [Value.writeIndentedMembers, inductionHypothesis]
    simp [more, lined]

/-- With a line for every part a value is on several lines. -/
theorem write_lined (value : Value) :
    ∀ level, lined.write level value = value.writeIndented level := by
  induction value using Value.byParts with
  | scalar value =>
    intro level
    rw [Value.writeIndented]
    rfl
  | list items each =>
    intro level
    have texts : items.map (lined.write (level + 1)) =
        items.map (Value.writeIndented (level + 1)) :=
      List.map_congr_left fun item member => each item member (level + 1)
    rw [write_list, texts]
    cases items with
    | nil => rw [Value.writeIndented]; rfl
    | cons item others =>
      rw [Value.writeIndented, writeIndentedItems_eq_more]
      simp [inside, lined]
  | object members each =>
    intro level
    have texts : members.map (lined.memberText (level + 1)) = members.map fun member =>
        Quoted.encode member.1.toList ++ ':' :: ' ' :: member.2.writeIndented (level + 1) :=
      List.map_congr_left fun member here => by
        rw [memberText, each member here (level + 1)]
        rfl
    rw [write_object, texts]
    cases members with
    | nil => rw [Value.writeIndented]; rfl
    | cons member others =>
      rw [Value.writeIndented, writeIndentedMembers_eq_more]
      simp [inside, lined]

/-- A value is written with one of two spacings. -/
theorem exists_eq_of_mem {value : Value} {text : String}
    (written : text ∈ [value.compact, value.pretty]) :
    ∃ spacing : Spacing, text = String.ofList (spacing.write 0 value) := by
  rcases List.mem_cons.mp written with rfl | several
  · exact ⟨tight, by rw [write_tight]; rfl⟩
  · obtain rfl := List.mem_singleton.mp several
    exact ⟨lined, by rw [write_lined]; rfl⟩

end Spacing

end FilterGraph.Json
