/-
The parameters of a filter: values under distinct keys, in the order in which the keys were first
given. Giving a key again replaces its value and leaves it at its place.
-/

import FilterGraph.Json.Printer

namespace FilterGraph

/-! ### Values -/

/-- The value of a parameter: any JSON value whose objects are sorted by key, so that equal values
have one form. -/
structure Parameter where
  value : Json.Value
  canonical : value.Canonical

namespace Parameter

/-- The kinds of value that are shown in different ways. -/
inductive Kind where
  | bool
  | number
  | text
  | other
  deriving DecidableEq, Repr

/-- The kind of a value: everything that is neither true, false, a number nor a text is other. -/
def kind (parameter : Parameter) : Kind :=
  match parameter.value with
  | .scalar (.bool _) => .bool
  | .scalar (.number _) => .number
  | .scalar (.text _) => .text
  | _ => .other

/-- The value as it stands in a filter graph: a text is taken verbatim, all else as JSON. -/
def display (parameter : Parameter) : String :=
  match parameter.value with
  | .scalar (.text text) => text
  | value => value.compact

/-- A parameter from any JSON value. -/
def ofValue (value : Json.Value) : Parameter :=
  ⟨value.canonical, value.canonical_canonical⟩

/-- A parameter without parts. -/
def ofScalar (scalar : Json.Scalar) : Parameter :=
  ⟨.scalar scalar, trivial⟩

/-- The value true or false. -/
def ofBool (value : Bool) : Parameter :=
  ofScalar (.bool value)

/-- An integer, which is kept exactly. -/
def ofInt (value : Int) (fits : Json.FitsWord value) : Parameter :=
  ofScalar (.number (.integer value fits))

/-- A signed word of 64 bits. -/
def ofInt64 (word : Int64) : Parameter :=
  ofInt word.toInt (.of_int64 word)

/-- A signed word of 32 bits. -/
def ofInt32 (word : Int32) : Parameter :=
  ofInt word.toInt (.of_int32 word)

/-- An unsigned word of 64 bits. -/
def ofUInt64 (word : UInt64) : Parameter :=
  ofInt word.toNat (.of_uint64 word)

/-- A double that is infinite or NaN has no number and becomes `null`. -/
def ofFloat (value : Float) : Parameter :=
  match Json.Number.ofFloat? value with
  | some number => ofScalar (.number number)
  | none => ofScalar .null

/-- A text, which is shown verbatim. -/
def ofText (value : String) : Parameter :=
  ofScalar (.text value)

end Parameter

/-! ### Parameters in their order -/

/-- Values under distinct keys, in order. -/
structure Parameters where
  entries : List (String × Parameter)
  distinct : (entries.map Prod.fst).Nodup

namespace Parameters

/-- No parameters. -/
def empty : Parameters :=
  ⟨[], .nil⟩

/-- The keys in their order. -/
def keys (parameters : Parameters) : List String :=
  parameters.entries.map Prod.fst

/-- Whether there are no parameters. -/
def isEmpty (parameters : Parameters) : Bool :=
  parameters.entries.isEmpty

/-- The value under a key. -/
def get? (parameters : Parameters) (key : String) : Option Parameter :=
  parameters.entries.lookup key

/-- Gives the key the value: at the place of the key, if it is there already, else at the end. -/
def insertEntry (key : String) (value : Parameter) :
    List (String × Parameter) → List (String × Parameter)
  | [] => [(key, value)]
  | (key', value') :: others =>
    if key' = key then (key, value) :: others
    else (key', value') :: insertEntry key value others

theorem keys_insertEntry (key : String) (value : Parameter)
    (entries : List (String × Parameter)) :
    (insertEntry key value entries).map Prod.fst =
      if key ∈ entries.map Prod.fst then entries.map Prod.fst
      else entries.map Prod.fst ++ [key] := by
  induction entries with
  | nil => rfl
  | cons entry others ih =>
    obtain ⟨key', value'⟩ := entry
    by_cases same : key' = key
    · simp [insertEntry, same]
    · have other : key ≠ key' := fun equal => same equal.symm
      simp only [insertEntry, if_neg same, List.map_cons, ih, List.mem_cons, other, false_or]
      split <;> rfl

theorem distinct_insertEntry {key : String} {value : Parameter}
    {entries : List (String × Parameter)} (distinct : (entries.map Prod.fst).Nodup) :
    ((insertEntry key value entries).map Prod.fst).Nodup := by
  rw [keys_insertEntry]
  split
  · exact distinct
  · next fresh =>
    refine List.nodup_append.2 ⟨distinct, by simp, fun old member new single => ?_⟩
    rintro rfl
    exact fresh (List.mem_singleton.1 single ▸ member)

/-- Gives the key the value. -/
def insert (parameters : Parameters) (key : String) (value : Parameter) : Parameters :=
  ⟨insertEntry key value parameters.entries, distinct_insertEntry parameters.distinct⟩

/-- The parameters of a list in which keys may be repeated: the first occurrence of a key decides
its place, the last one its value. -/
def ofList (entries : List (String × Parameter)) : Parameters :=
  entries.foldl (fun parameters entry => parameters.insert entry.1 entry.2) empty

theorem keys_insert (parameters : Parameters) (key : String) (value : Parameter) :
    (parameters.insert key value).keys =
      if key ∈ parameters.keys then parameters.keys else parameters.keys ++ [key] :=
  keys_insertEntry key value parameters.entries

theorem get?_insert (parameters : Parameters) (key key' : String) (value : Parameter) :
    (parameters.insert key value).get? key' =
      if key' = key then some value else parameters.get? key' := by
  simp only [get?, insert]
  induction parameters.entries with
  | nil =>
    by_cases same : key' = key
    · simp [insertEntry, same]
    · simp [insertEntry, List.lookup_cons, beq_eq_false_iff_ne.2 same, same]
  | cons entry others ih =>
    obtain ⟨other, _⟩ := entry
    unfold insertEntry
    by_cases found : other = key
    · subst found
      by_cases same : key' = other
      · simp [same]
      · simp [List.lookup_cons, beq_eq_false_iff_ne.2 same, same]
    · rw [if_neg found]
      by_cases same : key' = other
      · subst same
        simp [found]
      · simp only [List.lookup_cons, beq_eq_false_iff_ne.2 same, ih]

/-- Keys and shown values, joined as options of a filter: `key=value`, with colons between them. -/
def display (parameters : Parameters) : String :=
  ":".intercalate (parameters.entries.map fun (key, value) => key ++ "=" ++ value.display)

/-- The keys with the values as they are shown, in order. -/
def shown (parameters : Parameters) : List (String × String) :=
  parameters.entries.map fun (key, value) => (key, value.display)

/-- Values that are shown alike are joined alike. -/
theorem display_eq_of_shown (parameters : Parameters) :
    parameters.display = ":".intercalate (parameters.shown.map fun (key, text) =>
      key ++ "=" ++ text) := by
  rw [display, shown, List.map_map]
  rfl

end Parameters

end FilterGraph
