import PlanGraph.Proofs.Compile.Selection

/-!
# Toolsets that were checked

A toolset that passes its check is written out under the id and the key that it had
(`Toolset.id?_dump`, `Toolset.key?_dump`), with every unknown member that is not null, and so is
what it stands for (`Toolset.keeps_dump`, `Toolset.keeps_dump_ref`). Two spellings of the selected
tools, one beside the other, are one known member and one unknown one.
-/

namespace PlanGraph

namespace Json

/-! ## Finite values -/

mutual

/-- Every floating number in a value is finite. -/
def isFinite : Json → Bool
  | float .nan => false
  | float (.infinite _) => false
  | arr items => isFiniteItems items
  | obj members => isFiniteMembers members
  | _ => true

/-- Every floating number in some items is finite. -/
def isFiniteItems : List Json → Bool
  | [] => true
  | item :: rest => isFinite item && isFiniteItems rest

/-- Every floating number in some members is finite. -/
def isFiniteMembers : List (String × Json) → Bool
  | [] => true
  | (_, value) :: rest => isFinite value && isFiniteMembers rest

end

mutual

/-- A value with finite numbers only is written as it is. -/
theorem finiteOnly_of_isFinite : ∀ {value : Json}, value.isFinite = true → value.finiteOnly = value
  | null, _ => rfl
  | bool _, _ => rfl
  | int _, _ => rfl
  | float (.finite _ _), _ => rfl
  | float .nan, finite => by cases finite
  | float (.infinite _), finite => by cases finite
  | str _, _ => rfl
  | arr items, finite => by rw [finiteOnly, finiteItems_of_isFinite finite]
  | obj members, finite => by rw [finiteOnly, finiteMembers_of_isFinite finite]

theorem finiteItems_of_isFinite :
    ∀ {items : List Json}, isFiniteItems items = true → finiteItems items = items
  | [], _ => rfl
  | item :: rest, finite => by
    rw [isFiniteItems, Bool.and_eq_true] at finite
    rw [finiteItems, finiteOnly_of_isFinite finite.1, finiteItems_of_isFinite finite.2]

theorem finiteMembers_of_isFinite : ∀ {members : List (String × Json)},
    isFiniteMembers members = true → finiteMembers members = members
  | [], _ => rfl
  | (name, value) :: rest, finite => by
    rw [isFiniteMembers, Bool.and_eq_true] at finite
    rw [finiteMembers, finiteOnly_of_isFinite finite.1, finiteMembers_of_isFinite finite.2]

end

/-! ## Members that are kept -/

/-- A member is missing where no member has its name. -/
theorem member?_eq_none_iff {name : String} {members : List (String × Json)} :
    member? name members = none ↔ name ∉ members.map Prod.fst := by
  rw [member?, List.lookup_eq_none_iff, List.mem_map, not_exists]
  refine forall_congr' fun pair => ?_
  rw [bne_iff_ne, not_and, ne_comm]

/-- A member is found as before, with null for what is not finite. -/
theorem member?_finiteMembers (name : String) (members : List (String × Json)) :
    member? name (finiteMembers members) = (member? name members).map finiteOnly := by
  induction members with
  | nil => rfl
  | cons pair rest ih =>
      obtain ⟨other, value⟩ := pair
      rw [member?, finiteMembers, List.lookup_cons, member?, List.lookup_cons]
      split
      · rfl
      · exact ih

section

variable {keep : String × Json → Bool} {name : String} {value : Json}
  {members : List (String × Json)}

/-- A member that is kept is found as before. -/
theorem member?_filter_of_kept (found : member? name members = some value)
    (kept : keep (name, value) = true) : member? name (members.filter keep) = some value := by
  induction members with
  | nil => cases found
  | cons pair rest ih =>
      obtain ⟨other, first⟩ := pair
      rw [member?, List.lookup_cons] at found
      split at found
      case h_1 same =>
        obtain rfl : name = other := by simpa using same
        obtain rfl : first = value := Option.some.inj found
        rw [List.filter_cons_of_pos kept, member?, List.lookup_cons_self]
      case h_2 apart =>
        rw [List.filter_cons]
        split
        · rw [member?, List.lookup_cons, apart]
          exact ih found
        · exact ih found

/-- A member is missing where every member of its name is left out. -/
theorem member?_filter_of_dropped (dropped : ∀ pair ∈ members, pair.1 = name →
    keep pair = false) : member? name (members.filter keep) = none := by
  rw [member?_eq_none_iff, List.mem_map]
  rintro ⟨pair, listed, same⟩
  obtain ⟨listed, kept⟩ := List.mem_filter.mp listed
  rw [dropped pair listed same] at kept
  cases kept

end

/-- One value keeps the members of another that are unknown and not null. Members with finite
numbers only are kept as they are; otherwise null stands for what is not finite. -/
def Keeps (unknown : String → Prop) (value kept : Json) : Prop :=
  ∀ name member, unknown name → value.get? name = some member → member ≠ .null →
    kept.get? name = some member.finiteOnly ∧
    (member.isFinite = true → kept.get? name = some member)

end Json

/-! ## Unknown members -/

section unknown

variable {keys : List Key} {members : List (String × Json)} {name : String}

/-- A member is found under the spelling that is written, or else under the other one. -/
theorem Key.used?_eq_some_iff {key : Key} {spelling : String} :
    key.used? members = some spelling ↔
      ((Json.member? key.wire members).isSome ∧ key.wire = spelling) ∨
      (Json.member? key.wire members = none ∧ (Json.member? key.plain members).isSome ∧
        key.plain = spelling) := by
  unfold used? find?
  rcases Json.member? key.wire members with _ | value
  · rcases Json.member? key.plain members with _ | value
    · simp
    · simp
  · simp

/-- What is known is not found among the unknown members under its written spelling. -/
theorem member?_unknownMembers {key : Key} (known : key ∈ keys) :
    Json.member? key.wire (unknownMembers keys members) = none := by
  refine Json.member?_filter_of_dropped ?_
  rintro pair listed same
  have present : (Json.member? key.wire members).isSome := by
    rw [Option.isSome_iff_ne_none, Ne, Json.member?_eq_none_iff, not_not, ← same]
    exact List.mem_map_of_mem listed
  have used : key.used? members = some pair.1 :=
    Key.used?_eq_some_iff.mpr (.inl ⟨present, same.symm⟩)
  have listed : pair.1 ∈ keys.filterMap (·.used? members) := List.mem_filterMap.mpr ⟨_, known, used⟩
  rw [Bool.not_eq_false', List.contains_iff_mem]
  exact listed

/-- Nor is it among those that are written. -/
theorem member?_writtenUnknown {key : Key} (known : key ∈ keys) :
    Json.member? key.wire (Json.finiteMembers (presentMembers (unknownMembers keys members))) =
      none := by
  rw [Json.member?_finiteMembers, Option.map_eq_none_iff]
  refine Json.member?_filter_of_dropped fun pair listed same => ?_
  have apart : key.wire ∉ (unknownMembers keys members).map Prod.fst :=
    Json.member?_eq_none_iff.mp (member?_unknownMembers known)
  exact absurd (same ▸ List.mem_map_of_mem listed) apart

/-- What is known is looked up in front of the unknown members. -/
theorem member?_append_unknown {key : Key} (known : key ∈ keys) (front : List (String × Json)) :
    Json.member? key.wire (front ++
        Json.finiteMembers (presentMembers (unknownMembers keys members))) =
      Json.member? key.wire front := by
  have missing :
      Json.member? key.wire (Json.finiteMembers (presentMembers (unknownMembers keys members))) =
        none := member?_writtenUnknown known
  simp only [Json.member?] at missing ⊢
  rw [List.lookup_append, missing]
  exact Option.or_none

/-- A member that is known under one spelling is looked up in front of the unknown members. -/
theorem member?_append_extra (known : Key.word name ∈ keys) (front : List (String × Json)) :
    Json.member? name (front ++
        Json.finiteMembers (presentMembers (unknownMembers keys members))) =
      Json.member? name front :=
  member?_append_unknown known front

/-- Unknown members are kept behind others, provided that none of their names is known or written
in front of them. -/
theorem keeps_append_extra {unknown : String → Prop} {front : List (String × Json)}
    (unused : ∀ name, unknown name → ∀ key ∈ keys, key.used? members ≠ some name)
    (apart : ∀ name, unknown name → name ∉ front.map Prod.fst) :
    Json.Keeps unknown (.obj members) (.obj (front ++
      Json.finiteMembers (presentMembers (unknownMembers keys members)))) := by
  intro name value isUnknown found present
  have stays : Json.member? name (unknownMembers keys members) = some value := by
    refine Json.member?_filter_of_kept found ?_
    rw [Bool.not_eq_true', ← Bool.not_eq_true, List.contains_iff_mem, List.mem_filterMap]
    rintro ⟨key, listed, used⟩
    exact unused name isUnknown key listed used
  have kept : Json.member? name (presentMembers (unknownMembers keys members)) = some value :=
    Json.member?_filter_of_kept stays (decide_eq_true present)
  have written := Json.member?_finiteMembers name (presentMembers (unknownMembers keys members))
  have missing := Json.member?_eq_none_iff.mpr (apart name isUnknown)
  rw [kept] at written
  have shown : Json.get? name (.obj (front ++ Json.finiteMembers
      (presentMembers (unknownMembers keys members)))) = some value.finiteOnly := by
    simp only [Json.get?, Json.member?] at written missing ⊢
    rw [List.lookup_append, missing, written]
    rfl
  exact ⟨shown, fun finite => by rw [shown, Json.finiteOnly_of_isFinite finite]⟩

end unknown

/-! ## Toolsets that pass -/

theorem ToolsetRef.checkMembers_eq_passed_iff {members : List (String × Json)} {ref : ToolsetRef} :
    ToolsetRef.checkMembers members = .passed ref ↔
      Key.optional (.word "key") none (Json.checkNullable Json.checkText) members =
        .passed ref.key ∧
      unknownMembers ToolsetRef.keys members = ref.extra := by
  obtain ⟨key, extra⟩ := ref
  simp only [ToolsetRef.checkMembers, Checked.map_eq_passed_iff]
  constructor
  · rintro ⟨_, passed, made⟩
    cases made
    exact ⟨passed, rfl⟩
  · rintro ⟨passed, rfl⟩
    exact ⟨_, passed, rfl⟩

namespace ToolsetRef

section

variable {value : Json} {ref : ToolsetRef}

/-- What passes has the key of its value, none where it is missing or null. -/
theorem text_key_of_check (passed : check value = .passed ref) :
    value.get? "key" >>= Json.text? = ref.key := by
  obtain ⟨members, rfl, passed⟩ := Json.checkRecord_eq_passed_iff.mp passed
  obtain ⟨hasKey, -⟩ := checkMembers_eq_passed_iff.mp passed
  rw [Json.get?, ← Key.value?_word]
  rcases shown : ref.key with _ | key
  · rw [shown] at hasKey
    have absent := Changes.checkMember_eq_none_iff.mp hasKey
    rcases found : (Key.word "key").value? members with _ | value
    · rfl
    · rw [found] at absent
      have null : value = .null := absent
      rw [null]
      rfl
  · rw [shown] at hasKey
    obtain ⟨value, found, -, text⟩ := Changes.checkMember_eq_some_iff.mp hasKey
    rw [found, Json.checkText_eq_passed_iff.mp text]
    rfl

/-- What passed is written with its key. -/
theorem get?_key_dump (passed : check value = .passed ref) :
    ref.dump.get? "key" = ref.key.map Json.str := by
  obtain ⟨members, rfl, passed⟩ := Json.checkRecord_eq_passed_iff.mp passed
  obtain ⟨-, extra⟩ := checkMembers_eq_passed_iff.mp passed
  rw [dump, Json.get?, ← extra, member?_append_extra (by decide)]
  rcases ref.key with _ | key
  · rfl
  · rfl

/-- What passed is written with its unknown members. -/
theorem keeps_dump (passed : check value = .passed ref) :
    Json.Keeps (· ≠ "key") value ref.dump := by
  obtain ⟨members, rfl, passed⟩ := Json.checkRecord_eq_passed_iff.mp passed
  obtain ⟨-, extra⟩ := checkMembers_eq_passed_iff.mp passed
  rw [dump, ← extra]
  refine keeps_append_extra ?_ ?_
  · intro name apart key listed used
    obtain rfl := List.mem_singleton.mp listed
    rcases Key.used?_eq_some_iff.mp used with ⟨-, same⟩ | ⟨-, -, same⟩
    · exact apart same.symm
    · exact apart same.symm
  · intro name apart
    rcases ref.key with _ | key
    · exact List.not_mem_nil
    · exact fun listed => apart (List.mem_singleton.mp listed)

end

end ToolsetRef

namespace Toolset

/-- The members of a toolset pass when each of them does. -/
theorem checkMembers_eq_passed_iff {members : List (String × Json)} {toolset : Toolset} :
    checkMembers members = .passed toolset ↔
      Key.required (.word "id") Json.checkText members = .passed toolset.id ∧
      Key.optional (.word "name") "" Json.checkText members = .passed toolset.name ∧
      Key.optional (.word "type") .regular (Json.checkName ToolsetKind.choices) members =
        .passed toolset.kind ∧
      Key.optional (.word "toolset") none (Json.checkNullable ToolsetRef.check) members =
        .passed toolset.ref ∧
      Key.optional .selectedTools [] Task.checkTexts members = .passed toolset.selectedTools ∧
      unknownMembers keys members = toolset.extra := by
  obtain ⟨id, name, kind, ref, selected, extra⟩ := toolset
  simp only [checkMembers, Checked.seq_eq_passed_iff, Checked.map_eq_passed_iff]
  constructor
  · rintro ⟨_, _, ⟨_, _, ⟨_, _, ⟨_, _, ⟨_, hid, rfl⟩, hname, rfl⟩, hkind, rfl⟩, href, rfl⟩,
      hselected, made⟩
    cases made
    exact ⟨hid, hname, hkind, href, hselected, rfl⟩
  · rintro ⟨hid, hname, hkind, href, hselected, rfl⟩
    exact ⟨_, _, ⟨_, _, ⟨_, _, ⟨_, _, ⟨_, hid, rfl⟩, hname, rfl⟩, hkind, rfl⟩, href, rfl⟩,
      hselected, rfl⟩

section

variable {item : Json} {toolset : Toolset}

/-- A toolset that passes has the id of its value. -/
theorem id?_of_check (passed : check item = .passed toolset) : id? item = some toolset.id := by
  obtain ⟨members, rfl, passed⟩ := Json.checkRecord_eq_passed_iff.mp passed
  obtain ⟨value, found, text⟩ :=
    Key.required_eq_passed_iff.mp (checkMembers_eq_passed_iff.mp passed).1
  rw [Key.value?_word] at found
  rw [id?, Json.get?, found, Json.checkText_eq_passed_iff.mp text]
  rfl

/-- A toolset that passes stands for nothing where its value says so, by null or by no member, and
otherwise for what the member passes as. -/
theorem ref_of_check (passed : check item = .passed toolset) :
    (toolset.ref = none ∧ item.getD "toolset" = .null) ∨
    ∃ value ref, item.get? "toolset" = some value ∧ ToolsetRef.check value = .passed ref ∧
      toolset.ref = some ref := by
  obtain ⟨members, rfl, passed⟩ := Json.checkRecord_eq_passed_iff.mp passed
  obtain ⟨-, -, -, hasRef, -⟩ := checkMembers_eq_passed_iff.mp passed
  rw [Json.getD, Json.get?, ← Key.value?_word]
  rcases shown : toolset.ref with _ | ref
  · rw [shown] at hasRef
    exact .inl ⟨rfl, Changes.checkMember_eq_none_iff.mp hasRef⟩
  · rw [shown] at hasRef
    obtain ⟨value, found, -, passed⟩ := Changes.checkMember_eq_some_iff.mp hasRef
    exact .inr ⟨value, ref, found, passed, rfl⟩

/-- What a toolset that passes stands for has the key of its value. -/
theorem key?_of_check (passed : check item = .passed toolset) :
    key? item = toolset.ref >>= ToolsetRef.key := by
  rw [key?]
  rcases ref_of_check passed with ⟨none, null⟩ | ⟨value, ref, found, passed, some⟩
  · rw [none]
    rcases found : item.get? "toolset" with _ | value
    · rfl
    · rw [Json.getD, found] at null
      have null : value = .null := null
      rw [null]
      rfl
  · rw [found, some]
    exact ToolsetRef.text_key_of_check passed

/-! ## Toolsets that are written -/

/-- A toolset is written with its id. -/
theorem id?_dump (toolset : Toolset) : id? toolset.dump = some toolset.id := rfl

/-- A toolset that passed is written with what it stands for. -/
theorem get?_toolset_dump (passed : check item = .passed toolset) :
    toolset.dump.get? "toolset" = toolset.ref.map ToolsetRef.dump := by
  obtain ⟨members, rfl, passed⟩ := Json.checkRecord_eq_passed_iff.mp passed
  obtain ⟨-, -, -, -, -, extra⟩ := checkMembers_eq_passed_iff.mp passed
  rw [dump, Json.get?, ← extra, member?_append_extra (by decide)]
  rcases toolset.ref with _ | ref
  · rfl
  · rfl

/-- What it stands for is written with its key. -/
theorem key?_dump (passed : check item = .passed toolset) :
    key? toolset.dump = toolset.ref >>= ToolsetRef.key := by
  rw [key?, get?_toolset_dump passed]
  rcases ref_of_check passed with ⟨none, -⟩ | ⟨value, ref, -, passed, some⟩
  · rw [none]
    rfl
  · rw [some]
    change ref.dump.get? "key" >>= Json.text? = ref.key
    rw [ToolsetRef.get?_key_dump passed]
    rcases ref.key with _ | key
    · rfl
    · rfl

/-- The names of the members that toolsets have. -/
def memberNames : List String :=
  ["id", "name", "type", "toolset", "selectedTools"]

/-- A member of a toolset is unknown when its name is none of those that toolsets have. The other
spelling of the selected tools is unknown where they are there under the written one. -/
def IsUnknown (item : Json) (name : String) : Prop :=
  name ∉ memberNames ∧ (name = "selected_tools" → (item.get? "selectedTools").isSome)

/-- A toolset is written with its unknown members. -/
theorem keeps_dump (passed : check item = .passed toolset) :
    Json.Keeps (IsUnknown item) item toolset.dump := by
  obtain ⟨members, rfl, passed⟩ := Json.checkRecord_eq_passed_iff.mp passed
  obtain ⟨-, -, -, -, -, extra⟩ := checkMembers_eq_passed_iff.mp passed
  rw [dump, ← extra]
  refine keeps_append_extra ?_ ?_
  · rintro name ⟨apart, twin⟩ key listed used
    rcases Key.used?_eq_some_iff.mp used with ⟨-, rfl⟩ | ⟨missing, -, rfl⟩
    · exact apart (List.mem_map_of_mem listed)
    · -- only the selected tools have another spelling
      have other : key = .selectedTools := by
        by_contra known
        have word : ∀ key ∈ keys, key ≠ .selectedTools → key.plain ∈ memberNames := by decide
        exact apart (word key listed known)
      subst other
      have there : (Json.member? Key.selectedTools.wire members).isSome := twin rfl
      rw [missing] at there
      cases there
  · rintro name ⟨apart, -⟩
    refine mt ?_ apart
    rcases toolset.ref with _ | ref
    · have known : ["id", "name", "type", "selectedTools"] ⊆ memberNames := by decide
      exact fun listed => known listed
    · exact fun listed => listed

/-- What it stands for is written with its unknown members. -/
theorem keeps_dump_ref (passed : check item = .passed toolset) :
    Json.Keeps (· ≠ "key") (item.getD "toolset") (toolset.dump.getD "toolset") := by
  rw [Json.getD, Json.getD, get?_toolset_dump passed]
  rcases ref_of_check passed with ⟨-, null⟩ | ⟨value, ref, found, passed, some⟩
  · rw [Json.getD] at null
    rw [null]
    intro name member _ found
    cases found
  · rw [found, some]
    exact ToolsetRef.keeps_dump passed

end

end Toolset

end PlanGraph
