import PlanGraph.Proofs.Json.Respacing.Values
import PlanGraph.Proofs.Json.Written
import PlanGraph.Proofs.Patch.Legible
import PlanGraph.Proofs.Plan.RoundTrip

/-!
# Operations as text

An operation that was read and is written is read back as it was (`Operation.ofJson_toJson`), and so
is a list of operations from its text, with a fence around it or without
(`Operation.ofScript_scriptOf`). That the reader undoes the printer is taken there as given; for
operations that come from legible values it is `Operation.read_scriptOf`.

A fence around a text that some list of operations is read from leaves the operations as they are,
unless a string of the text holds a line end outside ASCII: such a text is refused inside a fence
(`Operation.ofScript_fenced`).
-/

namespace PlanGraph

/-! ## Changes that are read back -/

namespace Json

/-- A member that may be left out is found under its own name. -/
@[simp]
theorem lookup_memberIf (name other : String) (value : Option Json) :
    (memberIf other value).lookup name = if name = other then value else none := by
  cases value with
  | none => simp [memberIf]
  | some value =>
      by_cases same : name = other
      · simp [memberIf, same]
      · simp [memberIf, same]

end Json

namespace Changes

variable {α : Type} {key : Key} {check : Json → Checked α} {a? : Option α}

/-- A member that is written whenever it is given is read back: its values are, and none of them is
null. -/
theorem checkMember_of_map {members : List (String × Json)} (write : α → Json)
    (found : key.value? members = a?.map write) (reads : ∀ a, check (write a) = .passed a)
    (solid : ∀ a, write a ≠ .null) : checkMember key check members = .passed a? := by
  cases a? with
  | none =>
      rw [checkMember_eq_none_iff, found]
      rfl
  | some a => exact checkMember_eq_some_iff.mpr ⟨write a, found, solid a, reads a⟩

/-- Each member of what changes are written as holds the change that it is for, under its written
name alone. -/
theorem value?_of_dump {changes : Changes} {members : List (String × Json)}
    (written : changes.dump = .obj members) :
    (Key.word "title").value? members = changes.title.map Json.str ∧
      (Key.word "prompt").value? members = changes.prompt.map Json.str ∧
      Key.dependentTasks.value? members = changes.dependentTasks.map Json.ofStrings ∧
      (Key.word "toolsets").value? members = changes.toolsets.map Json.ofStrings ∧
      Key.variableType.value? members =
        changes.variableType.map (fun type => .str type.name) ∧
      (Key.word "name").value? members = changes.name.map Json.str ∧
      (Key.word "description").value? members = changes.description.map Json.str ∧
      (Key.word "required").value? members = changes.required.map Json.bool ∧
      Key.resourceTypes.value? members =
        changes.resourceTypes.map (fun types => .ofStrings (types.map ResourceType.name)) ∧
      (Key.word "value").value? members =
        changes.value.map (fun values => .arr (values.map VariableValue.dump)) := by
  obtain rfl := Json.obj.inj written
  simp [Key.value?_eq_or, Json.member?, List.lookup_append, Key.word, Key.dependentTasks,
    Key.variableType, Key.resourceTypes]

/-- Changes are read back from what they are written as. -/
theorem check_dump (changes : Changes) : Changes.check changes.dump = .passed changes := by
  obtain ⟨members, written⟩ : ∃ members, changes.dump = .obj members := ⟨_, rfl⟩
  obtain ⟨title, prompt, dependentTasks, toolsets, variableType, name, description, required,
    resourceTypes, value⟩ := value?_of_dump written
  -- what is written of each kind of member is read back, and is never null
  have text {key : Key} {a? : Option String} (found : key.value? members = a?.map Json.str) :
      checkMember key Json.checkText members = .passed a? :=
    checkMember_of_map _ found (fun _ => rfl) nofun
  have texts {key : Key} {a? : Option (List String)}
      (found : key.value? members = a?.map Json.ofStrings) :
      checkMember key Task.checkTexts members = .passed a? :=
    checkMember_of_map _ found (fun _ => Task.checkTexts_eq_passed_iff.mpr rfl) nofun
  have values (list : List VariableValue) :
      Json.checkItems VariableValue.check (.arr (list.map VariableValue.dump)) = .passed list :=
    (Json.SameItems.refl fun _ _ => rfl).checkItems fun value _ other same => by
      rw [← same]
      exact VariableValue.check_of_respells value.respells_dump
  rw [written]
  change checkMembers members = _
  rw [checkMembers, text title, text prompt, texts dependentTasks, texts toolsets,
    checkMember_of_map _ variableType (fun _ => VariableType.check_eq_passed_iff.mpr rfl) nofun,
    text name, text description, checkMember_of_map _ required (fun _ => rfl) nofun,
    checkMember_of_map _ resourceTypes ResourceType.checkItems_names nofun,
    checkMember_of_map _ value values nofun]
  rfl

end Changes

/-! ## Operations that are read back -/

namespace Operation

/-- What is written of changes is read as the changes. -/
theorem changesOf_dump {kind : OperationKind} {target : Json} {members : List (String × Json)}
    {changes : Changes} (given : Json.member? "data" members = some changes.dump) :
    changesOf kind target members = .ok changes := by
  have passed : (Changes.check changes.dump).under (.member "data") = .passed changes :=
    Checked.under_eq_passed_iff.mpr changes.check_dump
  rw [changesOf, given, Option.getD_some]
  split
  · rename_i isNull
    cases isNull
  · rw [passed]

/-- A payload that was read is read wherever it is found again. -/
theorem payload_of_payload {key : Key} {kind : OperationKind}
    {members again : List (String × Json)} {value : Json}
    (given : payload key kind members = .ok value) (found : key.value? again = some value) :
    payload key kind again = .ok value :=
  payload_eq_ok_iff.mpr ⟨found, (payload_eq_ok_iff.mp given).2⟩

/-- **An operation that was read is read back from what it is written as.** -/
theorem ofJson_toJson {value : Json} {operation : Operation} (h : ofJson value = .ok operation) :
    ofJson operation.toJson = .ok operation := by
  obtain ⟨members, name, kind, rfl, -, -, read⟩ := ofJson_eq_ok_iff.mp h
  refine ofJson_eq_ok_iff.mpr ⟨_, _, _, rfl, rfl, operation.kind.ofName?_name, ?_⟩
  cases kind with
  | updateTitle =>
      cases read
      generalize (Json.member? "title" members).getD .null = title
      cases title <;> rfl
  | createTask =>
      obtain ⟨body, given, made⟩ := bind_eq_ok_iff.mp read
      cases made
      exact bind_eq_ok_iff.mpr ⟨body, payload_of_payload given rfl, rfl⟩
  | updateTask =>
      obtain ⟨id, given, rest⟩ := bind_eq_ok_iff.mp read
      obtain ⟨changes, -, made⟩ := bind_eq_ok_iff.mp rest
      cases made
      exact bind_eq_ok_iff.mpr ⟨id, payload_of_payload given rfl,
        bind_eq_ok_iff.mpr ⟨changes, changesOf_dump rfl, rfl⟩⟩
  | deleteTask =>
      obtain ⟨id, given, made⟩ := bind_eq_ok_iff.mp read
      cases made
      exact bind_eq_ok_iff.mpr ⟨id, payload_of_payload given rfl, rfl⟩
  | createVariable =>
      obtain ⟨body, given, made⟩ := bind_eq_ok_iff.mp read
      cases made
      exact bind_eq_ok_iff.mpr ⟨body, payload_of_payload given rfl, rfl⟩
  | updateVariable =>
      obtain ⟨id, given, rest⟩ := bind_eq_ok_iff.mp read
      obtain ⟨changes, -, made⟩ := bind_eq_ok_iff.mp rest
      cases made
      exact bind_eq_ok_iff.mpr ⟨id, payload_of_payload given rfl,
        bind_eq_ok_iff.mpr ⟨changes, changesOf_dump rfl, rfl⟩⟩
  | deleteVariable =>
      obtain ⟨id, given, made⟩ := bind_eq_ok_iff.mp read
      cases made
      exact bind_eq_ok_iff.mpr ⟨id, payload_of_payload given rfl, rfl⟩

/-- Operations that were read are read back one after another. -/
theorem listOfJson_toJson {operations : List Operation}
    (read : ∀ operation ∈ operations, ∃ value, ofJson value = .ok operation) :
    listOfJson (operations.map toJson) = .ok operations := by
  induction operations with
  | nil => rfl
  | cons first rest ih =>
      obtain ⟨value, readFirst⟩ := read first (List.mem_cons_self ..)
      exact bind_eq_ok_iff.mpr ⟨first, ofJson_toJson readFirst,
        bind_eq_ok_iff.mpr ⟨rest, ih fun operation listed =>
          read operation (List.mem_cons_of_mem _ listed), rfl⟩⟩

/-! ## Texts that are read -/

/-- Operations are read from a text when its inside is an array of them. -/
theorem ofScript_eq_ok_iff {text : String} {operations : List Operation} :
    ofScript text = .ok operations ↔
      ∃ items, Json.readText (Text.unfence text.toList) = .ok (.arr items) ∧
        listOfJson items = .ok operations := by
  rw [ofScript, Json.read, String.toList_ofList]
  rcases Json.readText (Text.unfence text.toList) with stop | value
  · simp
  · cases value with
    | arr items => simp [mapError_eq_ok_iff]
    | _ => simp

/-- A text whose inside is no JSON is refused for the same flaw. -/
theorem ofScript_of_stop {text : String} {stop : Json.Stop}
    (h : Json.readText (Text.unfence text.toList) = .error stop) :
    ofScript text =
      .error (.notJson (Json.SyntaxFault.locate (Text.unfence text.toList) stop)) := by
  rw [ofScript, Json.read, String.toList_ofList, h]
  rfl

/-- The text of a list of operations stands between brackets. -/
theorem scriptOf_eq (operations : List Operation) :
    ∃ inside, (scriptOf operations).toList = '[' :: inside ++ [']'] := by
  rw [scriptOf, Json.indented, String.toList_ofList]
  cases operations with
  | nil => exact ⟨[], rfl⟩
  | cons first rest =>
      rw [List.map_cons, Json.writeIndented]
      exact ⟨_, rfl⟩

theorem trim_scriptOf (operations : List Operation) :
    Text.trim (scriptOf operations).toList = (scriptOf operations).toList := by
  obtain ⟨inside, brackets⟩ := scriptOf_eq operations
  rw [brackets]
  exact Text.trim_eq_self inside (by decide) (by decide)

theorem not_fence_scriptOf (operations : List Operation) :
    ¬ Text.fence <+: Text.trim (scriptOf operations).toList := by
  obtain ⟨inside, brackets⟩ := scriptOf_eq operations
  rw [trim_scriptOf, brackets]
  rintro ⟨rest, fenced⟩
  exact absurd (List.cons.inj fenced).1 (by decide)

theorem printed_scriptOf (operations : List Operation) :
    Printed (scriptOf operations).toList := by
  rw [scriptOf, Json.indented, String.toList_ofList]
  exact Json.printed_writeIndented 0 _

/-- **Operations that were read are read back from their text.** Each of them is read back from what
it is written as; and, given that the reader undoes the printer on the list, so is the whole list
from its text, with a fence around the text or without and with any blanks around both. -/
theorem ofScript_scriptOf {operations : List Operation}
    (read : ∀ operation ∈ operations, ∃ value, ofJson value = .ok operation) :
    (∀ operation ∈ operations, ofJson operation.toJson = .ok operation) ∧
      (Json.read (scriptOf operations) = .ok (.arr (operations.map toJson)) →
        ∀ front back, Text.AllBlank front → Text.AllBlank back →
          ofScript (String.ofList (front ++ (scriptOf operations).toList ++ back)) =
              .ok operations ∧
            ofScript (String.ofList (front ++ Text.fenced (scriptOf operations).toList ++ back)) =
              .ok operations) := by
  refine ⟨fun operation listed => ?_, fun undone front back atFront atBack => ?_⟩
  · obtain ⟨value, read⟩ := read operation listed
    exact ofJson_toJson read
  have inside : Json.readText (scriptOf operations).toList = .ok (.arr (operations.map toJson)) :=
    mapError_eq_ok_iff.mp undone
  have listed := listOfJson_toJson read
  have plain := Text.unfence_of_bare atFront atBack (not_fence_scriptOf operations)
  obtain ⟨n, respaced⟩ :=
    Text.exists_respaced_unfence atFront atBack (scriptOf operations).toList
  rw [trim_scriptOf] at plain respaced
  have fenced := respaced.eq_self fun c listed ends =>
    (printed_scriptOf operations).eq_feed listed ends
  constructor
  · refine ofScript_eq_ok_iff.mpr ⟨_, ?_, listed⟩
    rw [String.toList_ofList, plain]
    exact inside
  · refine ofScript_eq_ok_iff.mpr ⟨_, ?_, listed⟩
    rw [String.toList_ofList, fenced]
    exact inside

/-- Four operations, one of them with a character that is escaped and one with an id that is no
text, are read back from their text inside a fence between blanks. -/
theorem ofScript_scriptOf_of_four :
    let operations : List Operation := [.updateTitle (some (.str "a\u2028b")),
      .createTask (.raw (.obj [("id", .str "t"), ("notes", .arr [.null, .bool true])])),
      .updateTask (.str "t") { Changes.none with
        title := some "T", dependentTasks := some [], required := some false },
      .deleteTask (.int 5)]
    Json.read (scriptOf operations) = .ok (.arr (operations.map toJson)) ∧
      ofScript (String.ofList ([' '] ++ Text.fenced (scriptOf operations).toList ++ ['\r', '\n'])) =
        .ok operations := by
  intro operations
  have zero : 1 ≤ Text.maxIntegerDigits := by decide
  have five : (Nat.toDigits 10 5).length ≤ Text.maxIntegerDigits := by decide
  have read : ∀ operation ∈ operations,
      ∃ value, Json.Legible value ∧ ofJson value = .ok operation := by
    simp only [operations, List.forall_mem_cons]
    refine ⟨⟨.obj [("op", .str "updateTitle"), ("title", .str "a\u2028b")], ?_, rfl⟩,
      ⟨.obj [("task", .obj [("id", .str "t"), ("notes", .arr [.null, .bool true])]),
        ("op", .str "createTask")], ?_, rfl⟩,
      ⟨.obj [("op", .str "updateTask"), ("task_id", .str "t"), ("data", .obj [("title", .str "T"),
        ("dependent_tasks", .arr []), ("prompt", .null), ("required", .int 0)])], ?_, rfl⟩,
      ⟨.obj [("op", .str "deleteTask"), ("taskId", .int 5)], ?_, rfl⟩,
      fun _ listed => absurd listed List.not_mem_nil⟩
    all_goals simp [zero, five]
  have undone : Json.read (scriptOf operations) = .ok (.arr (operations.map toJson)) :=
    read_scriptOf read
  have blank : Text.AllBlank [' '] ∧ Text.AllBlank ['\r', '\n'] := by
    constructor
    · intro c listed
      obtain rfl := List.mem_singleton.mp listed
      decide
    · intro c listed
      rcases List.mem_pair.mp listed with rfl | rfl <;> decide
  have taken := @ofScript_scriptOf operations fun operation listed =>
    (read operation listed).imp fun _ given => given.2
  exact ⟨undone, (taken.2 undone [' '] ['\r', '\n'] blank.1 blank.2).2⟩

/-- **A fence around a text.** The operations that are read from a text stay as they are when it is
put between fences, as long as it holds no line end outside ASCII; and with one it is refused, for a
line feed would stand in one of its strings. -/
theorem ofScript_fenced {text : String} {operations : List Operation}
    (accepted : ofScript text = .ok operations) (bare : ¬ Text.fence <+: Text.trim text.toList) :
    (ofScript (String.ofList (Text.fenced text.toList)) = .ok operations ↔
        ∀ c ∈ Text.trim text.toList, Text.isWideEnd c = false) ∧
      ((∃ c ∈ Text.trim text.toList, Text.isWideEnd c = true) →
        ∃ fault, fault.flaw = .controlCharacter ∧
          ofScript (String.ofList (Text.fenced text.toList)) = .error (.notJson fault)) := by
  have none : Text.AllBlank [] := fun _ listed => absurd listed List.not_mem_nil
  obtain ⟨items, read, listed⟩ := ofScript_eq_ok_iff.mp accepted
  have plain : Text.unfence text.toList = Text.trim text.toList := by
    simpa using Text.unfence_of_bare none none bare
  obtain ⟨n, respaced⟩ := Text.exists_respaced_unfence none none text.toList
  rw [List.nil_append, List.append_nil] at respaced
  rw [plain] at read
  have narrow_iff : n = 0 ↔ ∀ c ∈ Text.trim text.toList, Text.isWideEnd c = false := by
    rw [respaced.count_eq, List.countP_eq_zero]
    simp only [Bool.not_eq_true]
  rcases Json.readText_of_respaced respaced read with ⟨narrow, read'⟩ | ⟨wide, left, stopped⟩
  · have same : ofScript (String.ofList (Text.fenced text.toList)) = .ok operations := by
      refine ofScript_eq_ok_iff.mpr ⟨items, ?_, listed⟩
      rw [String.toList_ofList]
      exact read'
    refine ⟨iff_of_true same (narrow_iff.mp narrow), ?_⟩
    rintro ⟨c, here, wide⟩
    exact absurd (wide.symm.trans (narrow_iff.mp narrow c here)) (by decide)
  · have refused := @ofScript_of_stop (String.ofList (Text.fenced text.toList)) _
      (by rw [String.toList_ofList]; exact stopped)
    refine ⟨iff_of_false ?_ fun narrow => wide.ne' (narrow_iff.mpr narrow), fun _ =>
      ⟨_, ?_, refused⟩⟩
    · rw [refused]
      exact fun accepted => nomatch accepted
    · rfl

/-- A text of two lines that end in different ways keeps its operations inside a fence. -/
theorem ofScript_fenced_of_two_lines :
    let text := " [\x7b\"op\":\r\n\"updateTitle\", \"title\": \"t\"\x7d\r]"
    ofScript text = .ok [.updateTitle (some (.str "t"))] ∧
      ofScript (String.ofList (Text.fenced text.toList)) =
        .ok [.updateTitle (some (.str "t"))] := by
  intro text
  have read : Json.readText (Text.unfence text.toList) =
      .ok (.arr [.obj [("op", .str "updateTitle"), ("title", .str "t")]]) := by
    decide +kernel
  have accepted : ofScript text = .ok [.updateTitle (some (.str "t"))] :=
    ofScript_eq_ok_iff.mpr ⟨_, read, rfl⟩
  have bare : ¬ Text.fence <+: Text.trim text.toList := by decide +kernel
  have narrow : (Text.trim text.toList).all (fun c => !Text.isWideEnd c) = true := by
    decide +kernel
  refine ⟨accepted, (ofScript_fenced accepted bare).1.mpr fun c listed => ?_⟩
  simpa using List.all_eq_true.mp narrow c listed

/-- A title with a line separator in it is read from a text, and inside a fence it is not. -/
theorem fenced_not_read :
    let text := "[\x7b\"op\":\"updateTitle\",\"title\":\"a\u2028b\"\x7d]"
    ofScript text = .ok [.updateTitle (some (.str "a\u2028b"))] ∧
      ¬ Text.fence <+: Text.trim text.toList ∧
      ofScript (String.ofList (Text.fenced text.toList)) =
        .error (.notJson ⟨.controlCharacter, 31, 1, 32⟩) := by
  intro text
  have read : Json.readText (Text.unfence text.toList) =
      .ok (.arr [.obj [("op", .str "updateTitle"), ("title", .str "a\u2028b")]]) := by
    decide +kernel
  have stopped : Json.readText (Text.unfence (String.ofList (Text.fenced text.toList)).toList) =
      .error ⟨.controlCharacter, 5⟩ := by
    decide +kernel
  refine ⟨ofScript_eq_ok_iff.mpr ⟨_, read, rfl⟩, by decide +kernel, ?_⟩
  rw [ofScript_of_stop stopped]
  have place : Json.SyntaxFault.locate
      (Text.unfence (String.ofList (Text.fenced text.toList)).toList) ⟨.controlCharacter, 5⟩ =
        ⟨.controlCharacter, 31, 1, 32⟩ := by
    decide +kernel
  rw [place]

end Operation

end PlanGraph
