/-
Which video stream an identifier stands for. Streams are numbered by the declarations; where two
declarations share an identifier the first one counts. Identifiers that no declaration has stand for
themselves, as labels. Looking an identifier up gives the same as searching the declarations.
-/

import Std.Data.HashMap
import FilterGraph.Pipeline

namespace FilterGraph

/-- The first position of each declared identifier. -/
structure StreamTable where
  positions : Std.HashMap String Nat

/-- The text between brackets. -/
def bracketed (text : String) : String :=
  "[" ++ text ++ "]"

/-- The video stream of the input at that position. -/
def videoStream (position : Nat) : String :=
  toString position ++ ":v"

namespace StreamTable

/-- Enters the declarations from a position on; an identifier that is there already keeps its
position. -/
def enter (positions : Std.HashMap String Nat) (position : Nat) :
    List Source → Std.HashMap String Nat
  | [] => positions
  | source :: others => enter (positions.insertIfNew source.id position) (position + 1) others

/-- The table of the declarations. -/
def ofSources (sources : List Source) : StreamTable :=
  ⟨enter ∅ 0 sources⟩

/-- The position of the first declaration of the identifier. -/
def position? (table : StreamTable) (id : String) : Option Nat :=
  table.positions[id]?

/-- What stands between the brackets of a link: a stream, or the identifier itself. -/
def token (table : StreamTable) (id : String) : String :=
  match table.position? id with
  | some position => videoStream position
  | none => id

/-- The links, each between brackets. -/
def links (table : StreamTable) (ids : List String) : String :=
  String.join (ids.map fun id => bracketed (table.token id))

/-! ### The table agrees with the declarations -/

theorem getElem?_enter (positions : Std.HashMap String Nat) (position : Nat)
    (sources : List Source) (id : String) :
    (enter positions position sources)[id]? =
      positions[id]?.or ((sources.findIdx? (·.id = id)).map (position + ·)) := by
  induction sources generalizing positions position with
  | nil => simp [enter]
  | cons source others ih =>
    rw [enter, ih, Std.HashMap.getElem?_insertIfNew, List.findIdx?_cons]
    by_cases same : source.id = id
    · subst same
      by_cases known : source.id ∈ positions
      · simp [known]
      · simp [known]
    · simp only [same, decide_false, beq_iff_eq, false_and, if_false]
      congr 1
      cases others.findIdx? (·.id = id) <;> simp [Nat.add_assoc, Nat.add_comm 1]

/-- The position of an identifier is that of the first declaration that has it. -/
theorem position?_ofSources (sources : List Source) (id : String) :
    (ofSources sources).position? id = sources.findIdx? (·.id = id) := by
  simp [ofSources, position?, getElem?_enter]

end StreamTable

end FilterGraph
