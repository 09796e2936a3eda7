import PlanGraph.Proofs.Compile.Readings
import PlanGraph.Proofs.Toolset

/-!
# Toolsets that are read again

A toolset that passed its check and is written out passes again, and what it passes as is the
toolset with its unknown members as they were written (`Toolset.check_dump`). What was known under
one of two spellings is now known under the written one, and the unknown ones beside it, among them
the other spelling of a known one, are unknown again (`unknownMembers_append_written`). Null in
place of a number that is not finite is a null that the next writing leaves out, so that nothing
changes after a second reading, and nothing changes after the first one where there is no such
number (`Toolset.stable_of_check`).
-/

namespace PlanGraph

namespace Json

/-! ## Finite values -/

mutual

/-- What is written has finite numbers only. -/
theorem isFinite_finiteOnly : ∀ value : Json, value.finiteOnly.isFinite = true
  | null => rfl
  | bool _ => rfl
  | int _ => rfl
  | float (.finite _ _) => rfl
  | float .nan => rfl
  | float (.infinite _) => rfl
  | str _ => rfl
  | arr items => isFiniteItems_finiteItems items
  | obj members => isFiniteMembers_finiteMembers members

theorem isFiniteItems_finiteItems : ∀ items : List Json, isFiniteItems (finiteItems items) = true
  | [] => rfl
  | item :: rest => by
    rw [finiteItems, isFiniteItems, isFinite_finiteOnly, isFiniteItems_finiteItems, Bool.and_self]

theorem isFiniteMembers_finiteMembers :
    ∀ members : List (String × Json), isFiniteMembers (finiteMembers members) = true
  | [] => rfl
  | (name, value) :: rest => by
    rw [finiteMembers, isFiniteMembers, isFinite_finiteOnly, isFiniteMembers_finiteMembers,
      Bool.and_self]

end

/-- The numbers of an object are finite where those of each member are. -/
theorem isFiniteMembers_iff {members : List (String × Json)} :
    isFiniteMembers members = true ↔ ∀ pair ∈ members, pair.2.isFinite = true := by
  induction members with
  | nil => simp [isFiniteMembers]
  | cons pair rest ih => rw [isFiniteMembers, Bool.and_eq_true, ih, List.forall_mem_cons]

end Json

/-! ## Unknown members that are written -/

/-- Unknown members as they are written: null ones are left out, and null is written for what is not
finite. -/
def writtenMembers (members : List (String × Json)) : List (String × Json) :=
  Json.finiteMembers (presentMembers members)

section

variable {members : List (String × Json)}

/-- Members that have finite numbers only, and of which none is null, are written as they are. -/
theorem writtenMembers_of_finite (finite : Json.isFiniteMembers members = true)
    (solid : ∀ pair ∈ members, pair.2 ≠ .null) : writtenMembers members = members := by
  rw [writtenMembers, presentMembers, List.filter_eq_self.mpr fun pair listed =>
    decide_eq_true (solid pair listed), Json.finiteMembers_of_isFinite finite]

/-- Members with finite numbers only are written in one way for good. -/
theorem writtenMembers_writtenMembers (finite : Json.isFiniteMembers members = true) :
    writtenMembers (writtenMembers members) = writtenMembers members := by
  have present : Json.isFiniteMembers (presentMembers members) = true :=
    Json.isFiniteMembers_iff.mpr fun pair listed =>
      Json.isFiniteMembers_iff.mp finite pair (List.mem_of_mem_filter listed)
  have written : writtenMembers members = presentMembers members :=
    Json.finiteMembers_of_isFinite present
  rw [written]
  refine writtenMembers_of_finite present fun pair listed => ?_
  exact of_decide_eq_true (List.mem_filter.mp listed).2

section

variable {keys : List Key} {front : List (String × Json)}
  (names : keys.filterMap (fun key => (Json.member? key.wire front).map fun _ => key.wire) =
    front.map Prod.fst)

include names

/-- Behind others whose names are the written spellings of known members, unknown ones are under no
name that is known: none under a written spelling, and none under another one, which is looked up
where the written one is missing. -/
theorem used?_append_written
    (spelled : ∀ key ∈ keys, key.plain = key.wire ∨ (Json.member? key.wire front).isSome = true) :
    keys.filterMap (·.used? (front ++ writtenMembers (unknownMembers keys members))) =
      front.map Prod.fst := by
  rw [← names]
  refine List.filterMap_congr fun key known => ?_
  have found : Json.member? key.wire (front ++ writtenMembers (unknownMembers keys members)) =
      Json.member? key.wire front := member?_append_unknown known front
  rw [Key.used?, Key.find?, found]
  rcases there : Json.member? key.wire front with _ | value
  · rcases spelled key known with same | there'
    · rw [same, found, there]
      rfl
    · rw [there] at there'
      cases there'
  · rfl

/-- So what was unknown is unknown again. -/
theorem unknownMembers_append_written
    (spelled : ∀ key ∈ keys, key.plain = key.wire ∨ (Json.member? key.wire front).isSome = true) :
    unknownMembers keys (front ++ writtenMembers (unknownMembers keys members)) =
      writtenMembers (unknownMembers keys members) := by
  have known : ∀ pair ∈ front, (front.map Prod.fst).contains pair.1 = true := fun pair listed =>
    List.contains_iff_mem.mpr (List.mem_map_of_mem listed)
  have unknown : ∀ pair ∈ writtenMembers (unknownMembers keys members),
      (front.map Prod.fst).contains pair.1 = false := by
    intro pair listed
    rw [← Bool.not_eq_true, List.contains_iff_mem, ← names, List.mem_filterMap]
    rintro ⟨key, known, same⟩
    obtain ⟨_, -, same⟩ := Option.map_eq_some_iff.mp same
    have apart : key.wire ∉ (writtenMembers (unknownMembers keys members)).map Prod.fst :=
      Json.member?_eq_none_iff.mp (member?_writtenUnknown known)
    exact apart (same ▸ List.mem_map_of_mem listed)
  rw [unknownMembers, used?_append_written names spelled, List.filter_append,
    List.filter_eq_nil_iff.mpr, List.nil_append, List.filter_eq_self.mpr]
  · intro pair listed
    rw [Bool.not_eq_true', unknown pair listed]
  · intro pair listed
    rw [known pair listed]
    exact Bool.false_ne_true

end

end

/-! ## Reading what was written -/

namespace ToolsetRef

/-- What a toolset stands for, with its unknown members as they are written. -/
def written (ref : ToolsetRef) : ToolsetRef :=
  { ref with extra := writtenMembers ref.extra }

/-- What a toolset stands for passes again when it is written out. -/
theorem check_dump {value : Json} {ref : ToolsetRef} (passed : check value = .passed ref) :
    check ref.dump = .passed ref.written := by
  obtain ⟨key, extra⟩ := ref
  obtain ⟨members, rfl, passed⟩ := Json.checkRecord_eq_passed_iff.mp passed
  obtain ⟨-, rfl⟩ := checkMembers_eq_passed_iff.mp passed
  refine Json.checkRecord_eq_passed_iff.mpr ⟨_, rfl, checkMembers_eq_passed_iff.mpr ⟨?_, ?_⟩⟩
  · rw [Key.optional_eq_passed_iff, Key.value?_word, member?_append_extra (by decide)]
    rcases key with _ | key
    · exact .inl ⟨rfl, rfl⟩
    · exact .inr ⟨.str key, rfl, rfl⟩
  · refine unknownMembers_append_written ?_ fun key known => .inl ?_
    · rcases key with _ | key
      · rfl
      · rfl
    · rw [List.mem_singleton.mp known]
      rfl

end ToolsetRef

namespace Toolset

/-- A toolset with its unknown members as they are written. -/
def written (toolset : Toolset) : Toolset :=
  { toolset with
    ref := toolset.ref.map ToolsetRef.written
    extra := writtenMembers toolset.extra }

/-- A toolset passes again when it is written out. -/
theorem check_dump {item : Json} {toolset : Toolset} (passed : check item = .passed toolset) :
    check toolset.dump = .passed toolset.written := by
  have refs := ref_of_check passed
  obtain ⟨id, name, kind, ref, selected, extra⟩ := toolset
  obtain ⟨members, rfl, passed⟩ := Json.checkRecord_eq_passed_iff.mp passed
  obtain ⟨-, -, -, -, -, rfl⟩ := checkMembers_eq_passed_iff.mp passed
  refine Json.checkRecord_eq_passed_iff.mpr
    ⟨_, rfl, checkMembers_eq_passed_iff.mpr ⟨?_, ?_, ?_, ?_, ?_, ?_⟩⟩
  · exact Key.required_eq_passed_iff.mpr ⟨.str id, rfl, rfl⟩
  · exact Key.optional_eq_passed_iff.mpr (.inr ⟨.str name, rfl, rfl⟩)
  · refine Key.optional_eq_passed_iff.mpr (.inr ⟨.str kind.name, rfl, ?_⟩)
    cases kind with
    | regular => rfl
    | mcp => rfl
  · rw [Key.optional_eq_passed_iff, Key.value?_word, member?_append_extra (by decide)]
    rcases refs with ⟨rfl, -⟩ | ⟨value, ref, -, passes, rfl⟩
    · exact .inl ⟨rfl, rfl⟩
    · refine .inr ⟨ref.dump, rfl, ?_⟩
      exact Json.checkNullable_eq_some_iff.mpr ⟨nofun, ToolsetRef.check_dump passes⟩
  · refine Key.optional_eq_passed_iff.mpr (.inr ⟨.ofStrings selected, ?_, ?_⟩)
    · rcases ref with _ | ref
      · rfl
      · rfl
    · exact Task.checkTexts_eq_passed_iff.mpr rfl
  · refine unknownMembers_append_written ?_ fun key known => ?_
    · rcases ref with _ | ref
      · rfl
      · rfl
    · -- only the selected tools have another spelling, and they are always written
      have word : ∀ key ∈ keys, key = .selectedTools ∨ key.plain = key.wire := by decide
      rcases word key known with rfl | same
      · rcases ref with _ | ref
        · exact .inr rfl
        · exact .inr rfl
      · exact .inl same

/-! ## What stays -/

/-- The unknown members have finite numbers only, those of what the toolset stands for as well. -/
structure FiniteExtra (toolset : Toolset) : Prop where
  extra : Json.isFiniteMembers toolset.extra = true
  ref : ∀ ref ∈ toolset.ref, Json.isFiniteMembers ref.extra = true

/-- Unknown members that are written have finite numbers only. -/
theorem finiteExtra_written (toolset : Toolset) : toolset.written.FiniteExtra where
  extra := Json.isFiniteMembers_finiteMembers _
  ref ref stands := by
    obtain ⟨given, -, rfl⟩ := Option.map_eq_some_iff.mp stands
    exact Json.isFiniteMembers_finiteMembers _

/-- What is unknown to a check is part of the value. -/
theorem finite_unknownMembers {members : List (String × Json)}
    (finite : Json.isFiniteMembers members = true) (keys : List Key) :
    Json.isFiniteMembers (unknownMembers keys members) = true :=
  Json.isFiniteMembers_iff.mpr fun pair listed =>
    Json.isFiniteMembers_iff.mp finite pair (List.mem_of_mem_filter listed)

section

variable {item : Json} {toolset : Toolset}

/-- A value with finite numbers only passes as a toolset with such members. -/
theorem finiteExtra_of_check (passed : check item = .passed toolset)
    (finite : item.isFinite = true) : toolset.FiniteExtra := by
  have refs := ref_of_check passed
  obtain ⟨members, rfl, passed⟩ := Json.checkRecord_eq_passed_iff.mp passed
  obtain ⟨-, -, -, -, -, extra⟩ := checkMembers_eq_passed_iff.mp passed
  refine ⟨extra ▸ finite_unknownMembers finite keys, fun ref stands => ?_⟩
  rcases refs with ⟨none, -⟩ | ⟨value, found, there, passes, some⟩
  · rw [none] at stands
    cases stands
  · obtain rfl := Option.some.inj (some.symm.trans stands)
    obtain ⟨inner, rfl, passes⟩ := Json.checkRecord_eq_passed_iff.mp passes
    obtain ⟨-, extra⟩ := ToolsetRef.checkMembers_eq_passed_iff.mp passes
    have listed : ("toolset", Json.obj inner) ∈ members := Json.mem_of_member? there
    have finite : Json.isFiniteMembers inner = true := Json.isFiniteMembers_iff.mp finite _ listed
    exact extra ▸ finite_unknownMembers finite ToolsetRef.keys

/-- A toolset whose unknown members have finite numbers only is written in one way for good. -/
theorem dump_written (finite : toolset.FiniteExtra) : toolset.written.dump = toolset.dump := by
  have refs : (toolset.ref.map ToolsetRef.written).map ToolsetRef.dump =
      toolset.ref.map ToolsetRef.dump := by
    rw [Option.map_map]
    refine Option.map_congr fun ref stands => ?_
    exact congrArg (fun extra => Json.obj (Json.memberIf "key" (ref.key.map Json.str) ++ extra))
      (writtenMembers_writtenMembers (finite.ref ref stands))
  have extra := writtenMembers_writtenMembers finite.extra
  simp only [writtenMembers] at extra
  simp only [dump, written, writtenMembers, refs, extra]

/-- **Toolsets go through a check unharmed.** A toolset that passes is written with its unknown
members that are not null, and so is what it stands for; the unused spelling of a known member is
one of the unknown ones. What is written passes again. It is then written as before, provided that
the numbers of the value are finite, and JSON has no others; for others null is written, and nothing
changes any more from the second writing on. -/
theorem stable_of_check (passed : check item = .passed toolset) :
    Json.Keeps (IsUnknown item) item toolset.dump ∧
    Json.Keeps (· ≠ "key") (item.getD "toolset") (toolset.dump.getD "toolset") ∧
    ∃ again, check toolset.dump = .passed again ∧
      (item.isFinite = true → again.dump = toolset.dump) ∧
      ∃ settled, check again.dump = .passed settled ∧ settled.dump = again.dump := by
  refine ⟨keeps_dump passed, keeps_dump_ref passed, toolset.written, check_dump passed, ?_,
    toolset.written.written, check_dump (check_dump passed), ?_⟩
  · exact fun finite => dump_written (finiteExtra_of_check passed finite)
  · exact dump_written (finiteExtra_written toolset)

end

/-- A toolset with both spellings of the selected tools, with a null member, which is left out, and
with nulls inside of unknown members, which stay. -/
theorem stable_of_check_of_twins :
    let item : Json := .obj [("selected_tools", .ofStrings ["x"]), ("id", .str "w"),
      ("toolset", .obj [("ports", .arr [.null]), ("key", .str "a"), ("host", .null)]),
      ("note", .null), ("selectedTools", .ofStrings ["y"]), ("rank", .obj [("by", .null)])]
    let written : Json := .obj [("id", .str "w"), ("name", .str ""), ("type", .str "regular"),
      ("toolset", .obj [("key", .str "a"), ("ports", .arr [.null])]),
      ("selectedTools", .ofStrings ["y"]), ("selected_tools", .ofStrings ["x"]),
      ("rank", .obj [("by", .null)])]
    ∃ toolset again, check item = .passed toolset ∧ toolset.dump = written ∧
      Json.Keeps (IsUnknown item) item written ∧ check written = .passed again ∧
      again.dump = written := by
  intro item written
  obtain ⟨toolset, passed, shown⟩ : ∃ toolset, check item = .passed toolset ∧
      toolset.dump = written := ⟨_, rfl, rfl⟩
  obtain ⟨kept, -, again, passed', stable, -⟩ := stable_of_check passed
  rw [shown] at kept passed'
  exact ⟨toolset, again, passed, shown, kept, passed', (stable rfl).trans shown⟩

/-- A number that is not finite is written as null, which the next writing leaves out. -/
example :
    (check (.obj [("id", .str "w"), ("rate", .float .nan)])).toOption.map dump =
      some (.obj [("id", .str "w"), ("name", .str ""), ("type", .str "regular"),
        ("selectedTools", .arr []), ("rate", .null)]) := rfl

end Toolset

end PlanGraph
