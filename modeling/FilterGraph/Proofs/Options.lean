/-
This file proves that a file of options sets those that it gives and leaves the others at their
defaults.

There are five options, and each of them may be given or not. Two of them stand in an object of
their own, which may be empty or left out if it gives neither. Both objects are records whose
fields may be left out, so the inner one is read as the options of the graph with the defaults that
it needs, and the outer one takes these as they are.
-/

import FilterGraph.Description
import FilterGraph.Proofs.Json.Choices
import FilterGraph.Proofs.Json.Defaults

namespace FilterGraph

open Json

/-- An option that is given, or is the default and not given. -/
theorem getD_eq_of_given {Content : Type} {given : Option Content} {content default : Content}
    (holds : given = some content ∨ given = none ∧ content = default) :
    given.getD default = content := by
  rcases holds with rfl | ⟨rfl, rfl⟩ <;> rfl

/-! ### Records of options -/

namespace GraphOptions

/-- The fields of the options of a graph. -/
def slots : shape.Slots where
  all := [
    .sure "link_check" LinkCheck.choice.reader_understands Draft.linkCheck
      (fun linkCheck draft => { draft with linkCheck := some linkCheck }) GraphOptions.linkCheck
      fun _ _ => rfl,
    .sure "layout" Layout.choice.reader_understands Draft.layout
      (fun layout draft => { draft with layout := some layout }) GraphOptions.layout
      fun _ _ => rfl]
  fields_eq := rfl
  named_apart := by decide
  empty := List.forall_mem_cons.mpr ⟨rfl, List.forall_mem_singleton.mpr rfl⟩
  get_set_of_ne := by
    intro slot here other there differs content draft
    simp only [List.mem_cons, List.not_mem_nil, or_false] at here there
    rcases here with rfl | rfl <;> rcases there with rfl | rfl <;>
      first | rfl | exact absurd rfl differs

theorem slots_optional : slots.Optional {} := by
  intro draft options each
  obtain ⟨first, each⟩ := List.forall_mem_cons.mp each
  have second := List.forall_mem_singleton.mp each
  have linkCheck : draft.linkCheck.getD .lenient = options.linkCheck := getD_eq_of_given first
  have layout : draft.layout.getD .compact = options.layout := getD_eq_of_given second
  show Except.ok (GraphOptions.mk (draft.linkCheck.getD .lenient)
    (draft.layout.getD .compact)) = _
  rw [linkCheck, layout]

theorem reader_understands : shape.reader.Understands slots.ofValue :=
  slots.reader_understands

end GraphOptions

namespace CommandOptions

/-- The fields of the options of a command. -/
def slots : shape.Slots where
  all := [
    .sure "program" readText_understands Draft.program
      (fun program draft => { draft with program := some program }) CommandOptions.program
      fun _ _ => rfl,
    .sure "codec" readText_understands Draft.codec
      (fun codec draft => { draft with codec := some codec }) CommandOptions.codec
      fun _ _ => rfl,
    .sure "no_codec_extension" readText_understands Draft.bareExtension
      (fun extension draft => { draft with bareExtension := some extension })
      CommandOptions.bareExtension fun _ _ => rfl,
    .sure "compile" GraphOptions.reader_understands Draft.graph
      (fun graph draft => { draft with graph := some graph }) CommandOptions.graph
      fun _ _ => rfl]
  fields_eq := rfl
  named_apart := by decide
  empty := List.forall_mem_cons.mpr ⟨rfl, List.forall_mem_cons.mpr ⟨rfl,
    List.forall_mem_cons.mpr ⟨rfl, List.forall_mem_singleton.mpr rfl⟩⟩⟩
  get_set_of_ne := by
    intro slot here other there differs content draft
    simp only [List.mem_cons, List.not_mem_nil, or_false] at here there
    rcases here with rfl | rfl | rfl | rfl <;> rcases there with rfl | rfl | rfl | rfl <;>
      first | rfl | exact absurd rfl differs

theorem slots_optional : slots.Optional {} := by
  intro draft options each
  obtain ⟨first, each⟩ := List.forall_mem_cons.mp each
  obtain ⟨second, each⟩ := List.forall_mem_cons.mp each
  obtain ⟨third, each⟩ := List.forall_mem_cons.mp each
  have fourth := List.forall_mem_singleton.mp each
  have program : draft.program.getD "ffmpeg" = options.program := getD_eq_of_given first
  have codec : draft.codec.getD "ffv1" = options.codec := getD_eq_of_given second
  have bareExtension : draft.bareExtension.getD "gif" = options.bareExtension :=
    getD_eq_of_given third
  have graph : draft.graph.getD {} = options.graph := getD_eq_of_given fourth
  show Except.ok (CommandOptions.mk (draft.program.getD "ffmpeg") (draft.codec.getD "ffv1")
    (draft.bareExtension.getD "gif") (draft.graph.getD {})) = _
  rw [program, codec, bareExtension, graph]

theorem reader_understands : shape.reader.Understands slots.ofValue :=
  slots.reader_understands

end CommandOptions

/-! ### Some of the options -/

/-- What can be given or left out by itself. -/
inductive CommandOptions.Leaf where
  | program
  | codec
  | bareExtension
  | linkCheck
  | layout
  deriving DecidableEq, Repr

open CommandOptions (Leaf)

/-- A member that is given or not. -/
def memberIf (given : Bool) (name : String) (value : Value) : List (String × Value) :=
  if given then [(name, value)] else []

@[simp] theorem mem_memberIf {given : Bool} {name : String} {value : Value}
    {member : String × Value} :
    member ∈ memberIf given name value ↔ given = true ∧ member = (name, value) := by
  cases given <;> simp [memberIf]

theorem keys_memberIf_sublist (given : Bool) (name : String) (value : Value) :
    ((memberIf given name value).map Prod.fst).Sublist [name] := by
  cases given
  · exact List.nil_sublist _
  · exact .refl _

/-- A member that is the only one with its name, if it is given, sets an option, which has its
default otherwise. -/
theorem given_or_default {Content : Type} {means : Value → Except Cause Content} {name : String}
    {isGiven : Bool} {value : Value} {given : List (String × Value)}
    (only : ∀ other, (name, other) ∈ given ↔ isGiven = true ∧ other = value)
    {content : Content} (meant : means value = .ok content) (default : Content) :
    (∃ other, (name, other) ∈ given ∧
        means other = .ok (if isGiven then content else default)) ∨
      name ∉ given.map Prod.fst ∧ (if isGiven then content else default) = default := by
  cases isGiven with
  | true => exact Or.inl ⟨value, (only value).mpr ⟨rfl, rfl⟩, meant⟩
  | false =>
    refine Or.inr ⟨fun named => ?_, rfl⟩
    obtain ⟨⟨_, other⟩, among, rfl⟩ := List.mem_map.mp named
    exact Bool.false_ne_true ((only other).mp among).1

theorem LinkCheck.meaning_word (linkCheck : LinkCheck) :
    choice.meaning (.text linkCheck.word) = .ok linkCheck := by
  cases linkCheck <;> rfl

theorem Layout.meaning_word (layout : Layout) :
    choice.meaning (.text layout.word) = .ok layout := by
  cases layout <;> rfl

namespace GraphOptions

variable (options : GraphOptions) (chosen : Leaf → Bool)

/-- The chosen options, and the defaults for the others. -/
def overriding : GraphOptions where
  linkCheck := if chosen .linkCheck then options.linkCheck else .lenient
  layout := if chosen .layout then options.layout else .compact

/-- The members for the chosen options. -/
def chosenMembers : List (String × Value) :=
  memberIf (chosen .linkCheck) "link_check" (.text options.linkCheck.word) ++
    memberIf (chosen .layout) "layout" (.text options.layout.word)

/-- The value is an object that gives just the chosen options. -/
def IsGivenBy (value : Value) : Prop :=
  value.Holds ["link_check", "layout"] (options.chosenMembers chosen)

theorem distinct_chosenMembers : ((options.chosenMembers chosen).map Prod.fst).Nodup := by
  have among : ((options.chosenMembers chosen).map Prod.fst).Sublist ["link_check", "layout"] := by
    rw [chosenMembers, List.map_append]
    exact (keys_memberIf_sublist _ _ _).append (keys_memberIf_sublist _ _ _)
  exact among.nodup (by decide)

variable {options chosen}

/-- What is given is read as the chosen options, with the defaults for the others. -/
theorem ofValue_of_isGivenBy {value : Value} (given : options.IsGivenBy chosen value) :
    slots.ofValue value = .ok (options.overriding chosen) := by
  have linkCheck : ∀ other, ("link_check", other) ∈ options.chosenMembers chosen ↔
      chosen .linkCheck = true ∧ other = .text options.linkCheck.word := by
    simp [chosenMembers]
  have layout : ∀ other, ("layout", other) ∈ options.chosenMembers chosen ↔
      chosen .layout = true ∧ other = .text options.layout.word := by
    simp [chosenMembers]
  refine slots_optional.ofValue_of_holds given (options.distinct_chosenMembers chosen) ?_
  exact List.forall_mem_cons.mpr
    ⟨given_or_default linkCheck (LinkCheck.meaning_word _) .lenient,
      List.forall_mem_singleton.mpr
        (given_or_default layout (Layout.meaning_word _) .compact)⟩

end GraphOptions

namespace CommandOptions

variable (options : CommandOptions) (chosen : Leaf → Bool)

/-- The chosen options, and the defaults for the others. -/
def overriding : CommandOptions where
  program := if chosen .program then options.program else "ffmpeg"
  codec := if chosen .codec then options.codec else "ffv1"
  bareExtension := if chosen .bareExtension then options.bareExtension else "gif"
  graph := options.graph.overriding chosen

/-- The members for the chosen options, where an object gives those of the graph. -/
def chosenMembers (graph : Option Value) : List (String × Value) :=
  memberIf (chosen .program) "program" (.text options.program) ++
    memberIf (chosen .codec) "codec" (.text options.codec) ++
    memberIf (chosen .bareExtension) "no_codec_extension" (.text options.bareExtension) ++
    graph.toList.map fun inner => ("compile", inner)

/-- The value is an object that gives just the chosen options. The object for those of the graph
may be left out if none of them is chosen. -/
def IsGivenBy (value : Value) : Prop :=
  ∃ graph : Option Value, (∀ inner ∈ graph, options.graph.IsGivenBy chosen inner) ∧
    (graph = none → chosen .linkCheck = false ∧ chosen .layout = false) ∧
    value.Holds ["program", "codec", "no_codec_extension", "compile"]
      (options.chosenMembers chosen graph)

theorem distinct_chosenMembers (graph : Option Value) :
    ((options.chosenMembers chosen graph).map Prod.fst).Nodup := by
  have inner : ((graph.toList.map fun inner => ("compile", inner)).map Prod.fst).Sublist
      ["compile"] := by
    cases graph
    · exact List.nil_sublist _
    · exact .refl _
  have among : ((options.chosenMembers chosen graph).map Prod.fst).Sublist
      (["program"] ++ ["codec"] ++ ["no_codec_extension"] ++ ["compile"]) := by
    rw [chosenMembers, List.map_append, List.map_append, List.map_append]
    exact (((keys_memberIf_sublist _ _ _).append (keys_memberIf_sublist _ _ _)).append
      (keys_memberIf_sublist _ _ _)).append inner
  exact among.nodup (by decide)

variable {options chosen}

/-- What is given is read as the chosen options, with the defaults for the others. -/
theorem ofValue_of_isGivenBy {value : Value} (given : options.IsGivenBy chosen value) :
    slots.ofValue value = .ok (options.overriding chosen) := by
  obtain ⟨graph, inside, absent, given⟩ := given
  have program : ∀ other, ("program", other) ∈ options.chosenMembers chosen graph ↔
      chosen .program = true ∧ other = .text options.program := by
    simp [chosenMembers]
  have codec : ∀ other, ("codec", other) ∈ options.chosenMembers chosen graph ↔
      chosen .codec = true ∧ other = .text options.codec := by
    simp [chosenMembers]
  have bareExtension : ∀ other,
      ("no_codec_extension", other) ∈ options.chosenMembers chosen graph ↔
        chosen .bareExtension = true ∧ other = .text options.bareExtension := by
    simp [chosenMembers]
  refine slots_optional.ofValue_of_holds given (options.distinct_chosenMembers chosen graph) ?_
  refine List.forall_mem_cons.mpr ⟨given_or_default program (Value.asText_text _) "ffmpeg",
    List.forall_mem_cons.mpr ⟨given_or_default codec (Value.asText_text _) "ffv1",
      List.forall_mem_cons.mpr ⟨given_or_default bareExtension (Value.asText_text _) "gif",
        List.forall_mem_singleton.mpr ?_⟩⟩⟩
  show (∃ content, ("compile", content) ∈ options.chosenMembers chosen graph ∧
      GraphOptions.slots.ofValue content = .ok (options.graph.overriding chosen)) ∨
    "compile" ∉ (options.chosenMembers chosen graph).map Prod.fst ∧
      options.graph.overriding chosen = {}
  cases graph with
  | some inner =>
    exact Or.inl ⟨inner, by simp [chosenMembers],
      GraphOptions.ofValue_of_isGivenBy (inside inner rfl)⟩
  | none =>
    obtain ⟨noCheck, noLayout⟩ := absent rfl
    refine Or.inr ⟨?_, ?_⟩
    · simp [chosenMembers]
    · simp [GraphOptions.overriding, noCheck, noLayout]

/-! ### Files of options -/

theorem parse_of_ofValue {value : Value} (exact : value.Exact)
    (meant : slots.ofValue value = .ok options) (spacing : Spacing) {blanks : List Char}
    (blank : ∀ char ∈ blanks, isBlank char = true) :
    parse (String.ofList (spacing.write 0 value ++ blanks)) = .ok options := by
  have read := reader_understands.readAll_append spacing exact blank
  rw [meant, mapError_eq_ok_iff] at read
  rw [parse, read]
  rfl

/-- All options are given by the value that is written for them. -/
theorem isGivenBy_toValue (options : CommandOptions) :
    options.IsGivenBy (fun _ => true) options.toValue := by
  refine ⟨some options.graph.toValue, ?_, nofun, _, rfl, .refl _⟩
  intro inner same
  obtain rfl := Option.some.inj same
  exact ⟨_, rfl, .refl _⟩

theorem exact_toValue (options : CommandOptions) : options.toValue.Exact := by
  have graph : options.graph.toValue.Exact :=
    Value.exact_object_iff.mpr <| List.forall_mem_cons.mpr ⟨Value.exact_text _,
      List.forall_mem_singleton.mpr (Value.exact_text _)⟩
  exact Value.exact_object_iff.mpr <| List.forall_mem_cons.mpr ⟨Value.exact_text _,
    List.forall_mem_cons.mpr ⟨Value.exact_text _, List.forall_mem_cons.mpr ⟨Value.exact_text _,
      List.forall_mem_singleton.mpr graph⟩⟩⟩

/-- A file that gives some of the options, in any order and among other members, is read as these
options with the defaults for all others, whatever the texts are and however it is spaced. What is
written for options gives all of them, so they are read back. -/
theorem file_sets_what_it_gives {value : Value} (given : options.IsGivenBy chosen value)
    (exact : value.Exact) (spacing : Spacing) {blanks : List Char}
    (blank : ∀ char ∈ blanks, isBlank char = true) :
    parse (String.ofList (spacing.write 0 value ++ blanks)) = .ok (options.overriding chosen) ∧
    (∀ path (host : Host),
      host.read path = .ok (String.ofList (spacing.write 0 value ++ blanks)) →
        load path host = .ok (options.overriding chosen)) ∧
    ∀ text ∈ [options.toValue.compact, options.toValue.pretty], parse text = .ok options := by
  have read := parse_of_ofValue exact (ofValue_of_isGivenBy given) spacing blank
  refine ⟨read, fun path host held => ?_, fun text written => ?_⟩
  · simp only [load, Host.readFile, held, Except.mapError]
    exact read
  · obtain ⟨spacing, rfl⟩ := Spacing.exists_eq_of_mem written
    have all := parse_of_ofValue options.exact_toValue
      (ofValue_of_isGivenBy options.isGivenBy_toValue) spacing (List.forall_mem_nil _)
    rw [List.append_nil] at all
    exact all

/-- A file with a codec, a layout and two members that are no options. -/
def codecAndLayout : Value :=
  .object [("comment", .list [.scalar .null]), ("codec", .text "utvideo"),
    ("compile", .object [("layout", .text "pretty"), ("links", .scalar (.bool true))])]

theorem codecAndLayout_isGivenBy :
    IsGivenBy ⟨"/opt/ffmpeg", "utvideo", "webp", ⟨.strict, .pretty⟩⟩
      (fun leaf => leaf = .codec ∨ leaf = .layout) codecAndLayout := by
  refine ⟨some (.object [("layout", .text "pretty"), ("links", .scalar (.bool true))]), ?_, nofun,
    _, rfl, .refl _⟩
  intro inner same
  obtain rfl := Option.some.inj same
  exact ⟨_, rfl, .refl _⟩

theorem codecAndLayout_exact : codecAndLayout.Exact := by
  simp [codecAndLayout, Value.exact_object_iff, Value.exact_list_iff, Value.exact_scalar_iff,
    Value.exact_text, Scalar.Exact]

/-- The program, the extension and the check of links have their defaults. -/
theorem codecAndLayout_sets_what_it_gives :
    IsGivenBy ⟨"/opt/ffmpeg", "utvideo", "webp", ⟨.strict, .pretty⟩⟩
        (fun leaf => leaf = .codec ∨ leaf = .layout) codecAndLayout ∧
      codecAndLayout.Exact ∧
      parse ("\x7b\"comment\":[null],\"codec\":\"utvideo\"," ++
        "\"compile\":\x7b\"layout\":\"pretty\",\"links\":true\x7d\x7d") =
        .ok ⟨"ffmpeg", "utvideo", "gif", ⟨.lenient, .pretty⟩⟩ :=
  ⟨codecAndLayout_isGivenBy, codecAndLayout_exact,
    (file_sets_what_it_gives codecAndLayout_isGivenBy codecAndLayout_exact .tight
      (List.forall_mem_nil _)).1⟩

end CommandOptions

end FilterGraph
