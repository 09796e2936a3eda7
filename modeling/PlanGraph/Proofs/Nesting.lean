import PlanGraph.Patch.Envelope
import PlanGraph.Proofs.Plan.Grammar

/-!
# Values judged alone and in place

A task, a variable or a payload has the same issues by itself as it has in a plan or a patch, where
their paths begin with the place of the value (`reports_in_place`). Nothing else is said of a plan
or a patch whose remaining members pass, and repeated ids are looked for only in a plan of which
nothing is said.

Issues are compared as they are reported, with the texts of their paths. Such a text is `root` for
the value itself, and this is never the text of another path, since no member has that name
(`Checked.TellsRoot`).
-/

namespace PlanGraph

/-! ## Reports -/

/-- An issue as it is reported: the text of its path, and what is said. -/
def Issue.report (issue : Issue) : String × String :=
  (issue.place, issue.message)

/-- What is reported of a part of a value as it is reported of the whole, in which the part has the
given place. -/
def nestReport (place : String) (report : String × String) : String × String :=
  (if report.1 = "root" then place else place ++ "." ++ report.1, report.2)

/-- What a check reports. -/
def Checked.reports {α : Type} (x : Checked α) : List (String × String) :=
  x.issues.map Issue.report

/-- What a reading reports, which is nothing where it succeeds. -/
def reportsOf {α : Type} : Except Failure α → List (String × String)
  | .ok _ => []
  | .error failure => failure.issues.map Issue.report

/-- What is reported of the items of an array under a name, one after another. -/
def itemReports (name : String) (read : Json → List (String × String)) (items : List Json) :
    List (String × String) :=
  items.zipIdx.flatMap fun entry =>
    (read entry.1).map (nestReport (name ++ "." ++ toString entry.2))

/-- What is reported of a body that the operation of a patch at a place carries under a name, unless
it is missing or null. -/
def bodyReports (place : Nat) (name : String) (read : Json → List (String × String))
    (operation : Json) : List (String × String) :=
  if operation.getD name = .null then []
  else (read (operation.getD name)).map
    (nestReport ("operations." ++ toString place ++ "." ++ name))

/-- What is reported of the bodies that the operation of a patch at a place carries. -/
def operationReports (place : Nat) (operation : Json) : List (String × String) :=
  bodyReports place "task" (fun body => reportsOf (Task.ofJson body)) operation ++
    bodyReports place "variable" (fun body => reportsOf (Variable.ofJson body "Variable"))
      operation ++
    bodyReports place "data" (fun body => (Changes.check body).reports) operation

/-- What is reported of the tasks of a plan and then of its variables. -/
def planReports (value : Json) : List (String × String) :=
  itemReports "tasks" (fun task => reportsOf (Task.ofJson task)) (value.itemsOf "tasks") ++
    itemReports "variables" (fun input => reportsOf (Variable.ofJson input "Variable"))
      (value.itemsOf "variables")

/-- What is reported of the operations of a patch, one after another. -/
def patchReports (value : Json) : List (String × String) :=
  (value.itemsOf "operations").zipIdx.flatMap fun entry => operationReports entry.2 entry.1

/-- A reading reports what its check does. -/
theorem reportsOf_orFail {α : Type} (label : String) (x : Checked α) :
    reportsOf (x.orFail label) = x.reports := by
  rcases x with value | ⟨first, more⟩
  · rfl
  · rfl

/-! ## Frames -/

namespace Json

/-- What a plan looks like around its tasks and variables: it is an object with a title that passes
and with arrays of tasks and variables, whatever is in them. -/
structure IsPlanFrame (value : Json) : Prop where
  object : value.isObject = true
  title : ∀ title ∈ value.get? "title", IsNullOr IsText title
  tasks : ∀ tasks ∈ value.get? "tasks", ∃ items, tasks = .arr items
  inputs : ∀ inputs ∈ value.get? "variables", ∃ items, inputs = .arr items

/-- What an operation looks like around its bodies: it is an object with a name, and its title and
its ids are texts where it has any. -/
structure IsOperationFrame (value : Json) : Prop where
  object : value.isObject = true
  op : ∃ name ∈ value.get? "op", IsText name
  title : ∀ title ∈ value.get? "title", IsNullOr IsText title
  taskId : ∀ id ∈ value.either? "taskId" "task_id", IsNullOr IsText id
  variableId : ∀ id ∈ value.either? "variableId" "variable_id", IsNullOr IsText id

/-- What a patch looks like around its bodies. -/
structure IsPatchFrame (value : Json) : Prop where
  object : value.isObject = true
  planId : ∀ id ∈ value.either? "planId" "plan_id", IsNullOr IsText id
  operations : ∃ operations ∈ value.get? "operations", IsListOf IsOperationFrame operations

end Json

/-! ## Paths of parts -/

/-- A path below another one is written after it. -/
theorem pathText_append {first rest : List Segment} (h : first ≠ []) (h' : rest ≠ []) :
    pathText (first ++ rest) = pathText first ++ "." ++ pathText rest := by
  have text {path : List Segment} (h : path ≠ []) :
      pathText path = String.intercalate "." (path.map Segment.text) := by
    cases path with
    | nil => exact absurd rfl h
    | cons segment more => rfl
  rw [text h, text h', text (List.append_ne_nil_of_left_ne_nil h rest), List.map_append,
    String.intercalate_append_of_ne_nil (by simpa using h) (by simpa using h')]

/-- A path into a member of an item is written with the place of the item in the middle. -/
theorem pathText_itemMember (list : String) (place : Nat) (name : String) :
    pathText [.member list, .item place, .member name] =
      list ++ "." ++ toString place ++ "." ++ name := by
  change String.intercalate "." [list, toString place, name] = _
  rw [String.intercalate_cons_cons, String.intercalate_cons_cons, String.intercalate_singleton]
  simp only [String.append_assoc]

/-- A path into a member is not written like no path at all, unless the member has that name. -/
theorem pathText_member_ne_root {name : String} (h : name ≠ "root") (rest : List Segment) :
    pathText (.member name :: rest) ≠ "root" := by
  rcases rest with _ | ⟨next, more⟩
  · rw [pathText, List.map_singleton, String.intercalate_singleton]
    · exact h
    · simp
  · have split : pathText ([.member name] ++ next :: more) = _ :=
      pathText_append (List.cons_ne_nil _ _) (List.cons_ne_nil _ _)
    intro same
    have point : '.' ∈ (pathText ([.member name] ++ next :: more)).toList := by
      rw [split]
      simp
    rw [List.singleton_append, same] at point
    exact absurd point (by decide)

/-- An issue, seen from above, is reported under the place of the part. -/
theorem Issue.report_nest {issue : Issue} {above : List Segment} (h : above ≠ [])
    (root : issue.place = "root" → issue.path = []) :
    report ⟨above ++ issue.path, issue.cause⟩ = nestReport (pathText above) issue.report := by
  obtain ⟨path, cause⟩ := issue
  rcases path with _ | ⟨segment, more⟩
  · rw [List.append_nil]
    rfl
  · have below : pathText (segment :: more) ≠ "root" := fun same => nomatch root same
    have place : (report ⟨segment :: more, cause⟩).1 ≠ "root" := below
    rw [nestReport, if_neg place, report, Issue.place, pathText_append h (List.cons_ne_nil _ _)]
    rfl

/-! ## Checks whose reports tell the value itself -/

namespace Checked

variable {α β : Type}

/-- Only an issue of the value itself is reported as one at the root. -/
def TellsRoot (x : Checked α) : Prop :=
  ∀ issue ∈ x.issues, issue.place = "root" → issue.path = []

theorem TellsRoot.map {x : Checked α} (h : x.TellsRoot) (f : α → β) : (f <$> x).TellsRoot := by
  intro issue listed
  rw [issues_map] at listed
  exact h issue listed

theorem TellsRoot.seq {f : Checked (α → β)} {x : Checked α} (h : f.TellsRoot) (h' : x.TellsRoot) :
    (f <*> x).TellsRoot := by
  intro issue listed
  rw [issues_seq, List.mem_append] at listed
  rcases listed with first | later
  · exact h issue first
  · exact h' issue later

theorem TellsRoot.fail (cause : Cause) : (Checked.fail cause : Checked α).TellsRoot := by
  intro issue listed _
  rw [issues_fail, List.mem_singleton] at listed
  rw [listed]

theorem TellsRoot.guard {x : Checked α} (h : x.TellsRoot) (holds : α → Bool) (cause : Cause) :
    (x.guard holds cause).TellsRoot := by
  rcases x with value | ⟨first, more⟩
  · change (if holds value = true then passed value else Checked.fail cause).TellsRoot
    split
    · exact h
    · exact .fail cause
  · exact h

theorem TellsRoot.under_member {name : String} (h : name ≠ "root") (x : Checked α) :
    (x.under (.member name)).TellsRoot := by
  intro issue listed place
  rw [issues_under] at listed
  obtain ⟨inner, -, rfl⟩ := List.mem_map.mp listed
  exact absurd place (pathText_member_ne_root h inner.path)

end Checked

namespace Key

variable {α : Type} {key : Key} {check : Json → Checked α} {members : List (String × Json)}

/-- A member is found under one of the two spellings of its name. -/
theorem spelling_of_find? {spelling : String} {value : Json}
    (h : key.find? members = some (spelling, value)) :
    spelling = key.wire ∨ spelling = key.plain := by
  unfold find? at h
  split at h
  · cases h
    exact .inl rfl
  · obtain ⟨found, -, same⟩ := Option.map_eq_some_iff.mp h
    cases same
    exact .inr rfl

/-- A name of one spelling is found under it. -/
theorem find?_word (name : String) (members : List (String × Json)) :
    (word name).find? members = (Json.member? name members).map fun value => (name, value) := by
  unfold find? word
  rcases Json.member? name members with _ | value
  · rfl
  · rfl

/-- No spelling of the name is the one that stands for the value itself. -/
def NotRoot (key : Key) : Prop :=
  key.wire ≠ "root" ∧ key.plain ≠ "root"

instance (key : Key) : Decidable key.NotRoot := by
  unfold NotRoot
  infer_instance

theorem tellsRoot_optional (h : key.NotRoot) (default : α) :
    (optional key default check members).TellsRoot := by
  unfold optional
  rcases found : key.find? members with _ | ⟨spelling, value⟩
  · exact fun issue listed => absurd listed List.not_mem_nil
  · rcases spelling_of_find? found with rfl | rfl
    · exact .under_member h.1 _
    · exact .under_member h.2 _

theorem tellsRoot_required (h : key.NotRoot) : (required key check members).TellsRoot := by
  unfold required
  rcases found : key.find? members with _ | ⟨spelling, value⟩
  · exact .under_member h.1 _
  · rcases spelling_of_find? found with rfl | rfl
    · exact .under_member h.1 _
    · exact .under_member h.2 _

end Key

theorem Json.tellsRoot_checkRecord {α : Type} {shape : String}
    {check : List (String × Json) → Checked α} (h : ∀ members, (check members).TellsRoot)
    (value : Json) : (checkRecord shape check value).TellsRoot := by
  cases value with
  | obj members => exact h members
  | _ => exact .fail _

theorem Task.tellsRoot_check (value : Json) : (Task.check value).TellsRoot := by
  refine Json.tellsRoot_checkRecord (fun members => ?_) value
  unfold checkMembers
  refine .seq (.seq (.seq (.seq (.map ?_ _) ?_) ?_) ?_) ?_
  all_goals exact Key.tellsRoot_optional (by decide) _

theorem Variable.tellsRoot_check (value : Json) : (Variable.check value).TellsRoot := by
  refine Json.tellsRoot_checkRecord (fun members => .guard ?_ _ _) value
  unfold checkMembers
  refine .seq (.seq (.seq (.seq (.seq (.seq (.map ?_ _) ?_) ?_) ?_) ?_) ?_) ?_
  all_goals first
    | exact Key.tellsRoot_required (by decide)
    | exact Key.tellsRoot_optional (by decide) _

theorem Changes.tellsRoot_check (value : Json) : (Changes.check value).TellsRoot := by
  refine Json.tellsRoot_checkRecord (fun members => ?_) value
  unfold checkMembers
  refine .seq (.seq (.seq (.seq (.seq (.seq (.seq (.seq (.seq (.map ?_ _) ?_) ?_) ?_) ?_) ?_) ?_)
    ?_) ?_) ?_
  all_goals exact Key.tellsRoot_optional (by decide) _

/-! ## Parts in place -/

namespace Checked

variable {α : Type}

/-- What a part reports in place is what it reports by itself, under its place. -/
theorem TellsRoot.reports_place {x : Checked α} (h : x.TellsRoot) {above : List Segment}
    (inside : above ≠ []) :
    (x.issues.map fun issue => Issue.report ⟨above ++ issue.path, issue.cause⟩) =
      x.reports.map (nestReport (pathText above)) := by
  rw [reports, List.map_map]
  exact List.map_congr_left fun issue listed => Issue.report_nest inside (h issue listed)

/-- The items of a list report one after another, each from its place. -/
theorem issues_itemsFrom {β : Type} (check : β → Checked α) (index : Nat) (items : List β) :
    (itemsFrom check index items).issues = (items.zipIdx index).flatMap fun entry =>
      (check entry.1).issues.map (Issue.under (.item entry.2)) := by
  induction items generalizing index with
  | nil => rfl
  | cons item rest ih =>
      rw [itemsFrom, issues_seq, issues_map, issues_under, ih, List.zipIdx_cons,
        List.flatMap_cons]

end Checked

/-- The members of an array under a name report one after another, each from its place. -/
theorem Checked.reports_items {α : Type} {check : Json → Checked α}
    (h : ∀ item, (check item).TellsRoot) (name : String) (items : List Json) :
    ((Checked.itemsFrom check 0 items).under (.member name)).reports =
      itemReports name (fun item => (check item).reports) items := by
  rw [reports, issues_under, issues_itemsFrom, List.map_map, List.map_flatMap, itemReports]
  refine List.flatMap_congr fun entry _ => ?_
  have place : pathText [.member name, .item entry.2] = name ++ "." ++ toString entry.2 :=
    String.intercalate_cons_cons.trans (congrArg _ String.intercalate_singleton)
  rw [← place, ← (h entry.1).reports_place (List.cons_ne_nil _ _), List.map_map]
  rfl

/-- An array that may be missing reports item by item. -/
theorem Key.reports_items {α : Type} {check : Json → Checked α}
    (h : ∀ item, (check item).TellsRoot) {name : String} {members : List (String × Json)}
    (array : ∀ value ∈ (Json.obj members).get? name, ∃ items, value = .arr items) :
    (optional (.word name) [] (Json.checkItems check) members).reports =
      itemReports name (fun item => (check item).reports) ((Json.obj members).itemsOf name) := by
  change ∀ value ∈ Json.member? name members, _ at array
  rw [optional, find?_word]
  rcases found : Json.member? name members with _ | value
  · have none_there : (Json.obj members).itemsOf name = [] := by
      simp only [Json.itemsOf, Json.get?, found]
    rw [none_there]
    rfl
  · obtain ⟨items, rfl⟩ := array value found
    have all_there : (Json.obj members).itemsOf name = items := by
      simp only [Json.itemsOf, Json.get?, found]
    rw [all_there]
    exact Checked.reports_items h name items

/-- A plan reports what its tasks and then its variables do. -/
theorem Plan.reports_check {value : Json} (frame : value.IsPlanFrame) :
    (Plan.check value).reports = planReports value := by
  obtain ⟨members, rfl⟩ := Json.isObject_iff.mp frame.object
  have title : (Key.optional (.word "title") "" Task.checkBlankable members).issues = [] := by
    rw [Key.issues_optional_eq_nil_iff, Key.value?_word_eq_get?]
    simp only [Task.checkBlankable, Json.issues_checkOr_eq_nil_iff,
      Json.issues_checkText_eq_nil_iff]
    exact frame.title
  have tasks := Key.reports_items Task.tellsRoot_check frame.tasks
  have inputs := Key.reports_items Variable.tellsRoot_check frame.inputs
  simp only [planReports, Task.ofJson, Variable.ofJson, reportsOf_orFail]
  rw [← tasks, ← inputs]
  change (checkMembers members).issues.map Issue.report = _
  rw [checkMembers, Checked.issues_seq, Checked.issues_seq, Checked.issues_map,
    Checked.issues_map, title, List.nil_append, List.map_append]
  rfl

/-- A body that an operation may carry reports from its place in the patch. -/
theorem Changes.reports_member {α : Type} {check : Json → Checked α}
    (h : ∀ body, (check body).TellsRoot) (name : String) (members : List (String × Json))
    (place : Nat) :
    ((checkMember (.word name) check members).issues.map fun issue => Issue.report
        ⟨[.member "operations", .item place] ++ issue.path, issue.cause⟩) =
      bodyReports place name (fun body => (check body).reports) (.obj members) := by
  have body : (Json.obj members).getD name = (Json.member? name members).getD .null := rfl
  rw [bodyReports, body, checkMember, Key.optional, Key.find?_word]
  rcases Json.member? name members with _ | value
  · rfl
  · rw [Option.getD_some]
    by_cases isNull : value = .null
    · rw [if_pos isNull, isNull]
      rfl
    · have nullable : (Json.checkNullable check value).issues = (check value).issues := by
        cases value with
        | null => exact absurd rfl isNull
        | _ => exact Checked.issues_map _ _
      have above : pathText [.member "operations", .item place, .member name] =
          "operations." ++ toString place ++ "." ++ name := pathText_itemMember _ _ _
      rw [if_neg isNull, ← above, ← (h value).reports_place (List.cons_ne_nil _ _), ← nullable]
      change ((Json.checkNullable check value).under _).issues.map _ = _
      rw [Checked.issues_under, List.map_map]
      rfl

namespace OperationForm

variable {members : List (String × Json)}

/-- A member that may be missing or null has no issues when it is a text otherwise. -/
theorem issues_text_eq_nil {key : Key}
    (text : ∀ value ∈ (Json.obj members).either? key.wire key.plain, value.IsNullOr Json.IsText) :
    (Changes.checkMember key Json.checkText members).issues = [] := by
  rw [Changes.checkMember, Key.issues_optional_eq_nil_iff, Key.value?_eq_either?]
  simp only [Json.issues_checkNullable_eq_nil_iff, Json.issues_checkText_eq_nil_iff]
  exact text

/-- Of an operation only the bodies have issues. -/
theorem issues_check {operation : Json} (frame : operation.IsOperationFrame) :
    ∃ members, operation = .obj members ∧ (check operation).issues =
      (Changes.checkMember (.word "task") Task.check members).issues ++
        (Changes.checkMember (.word "variable") Variable.check members).issues ++
        (Changes.checkMember (.word "data") Changes.check members).issues := by
  obtain ⟨members, rfl⟩ := Json.isObject_iff.mp frame.object
  have op : (Key.required (.word "op") Json.checkText members).issues = [] := by
    rw [Key.issues_required_eq_nil_iff, Key.value?_word_eq_get?]
    simp only [Json.issues_checkText_eq_nil_iff]
    exact frame.op
  have title : (Changes.checkMember (.word "title") Json.checkText members).issues = [] :=
    issues_text_eq_nil fun value found =>
      frame.title value (by simpa [Json.either?, Key.word] using found)
  have taskId : (Changes.checkMember ⟨"taskId", "task_id"⟩ Json.checkText members).issues = [] :=
    issues_text_eq_nil frame.taskId
  have variableId : (Changes.checkMember .variableId Json.checkText members).issues = [] :=
    issues_text_eq_nil frame.variableId
  refine ⟨members, rfl, ?_⟩
  change (checkMembers members).issues = _
  simp only [checkMembers, Checked.issues_seq, Checked.issues_map, op, title, taskId, variableId,
    List.nil_append, List.append_nil]

/-- An operation of a patch reports what its bodies do. -/
theorem reports_check {operation : Json} (frame : operation.IsOperationFrame) (place : Nat) :
    ((check operation).issues.map fun issue => Issue.report
        ⟨[.member "operations", .item place] ++ issue.path, issue.cause⟩) =
      operationReports place operation := by
  obtain ⟨members, rfl, issues⟩ := issues_check frame
  rw [issues, List.map_append, List.map_append, Changes.reports_member Task.tellsRoot_check,
    Changes.reports_member Variable.tellsRoot_check,
    Changes.reports_member Changes.tellsRoot_check]
  simp only [operationReports, Task.ofJson, Variable.ofJson, reportsOf_orFail]

end OperationForm

/-- A patch reports what its operations do. -/
theorem EnvelopeForm.reports_check {value : Json} (frame : value.IsPatchFrame) :
    (EnvelopeForm.check value).reports = patchReports value := by
  obtain ⟨members, rfl⟩ := Json.isObject_iff.mp frame.object
  have planId : (Changes.checkMember ⟨"planId", "plan_id"⟩ Json.checkText members).issues = [] :=
    OperationForm.issues_text_eq_nil frame.planId
  obtain ⟨_, found, items, rfl, each⟩ := frame.operations
  change Json.member? "operations" members = some (.arr items) at found
  have there : operationsKey.find? members = some ("operations", .arr items) := by
    rw [operationsKey, Key.find?_word, found]
    rfl
  have listed : (Json.obj members).itemsOf "operations" = items := by
    have member : (Json.obj members).get? "operations" = some (.arr items) := found
    rw [Json.itemsOf, member]
  change (checkMembers members).issues.map Issue.report = _
  rw [checkMembers, Checked.issues_seq, Checked.issues_map, planId, List.nil_append,
    Key.required, there, patchReports, listed]
  change ((Checked.itemsFrom OperationForm.check 0 items).under _).issues.map Issue.report = _
  rw [Checked.issues_under, Checked.issues_itemsFrom, List.map_map, List.map_flatMap]
  refine List.flatMap_congr fun entry listed => ?_
  have inside : entry.1 ∈ items := (List.mem_zipIdx' listed).2 ▸ List.getElem_mem _
  rw [← OperationForm.reports_check (each entry.1 inside), List.map_map]
  rfl

/-- A plan whose structure is sound reports the ids that occur twice. -/
theorem Plan.reportsOf_distinct (plan : Plan) :
    reportsOf plan.distinct = plan.duplicateIssues.map Issue.report := by
  unfold distinct
  rcases plan.duplicateIssues with _ | ⟨first, more⟩
  · rfl
  · rfl

/-- A check that reports something fails with that. -/
theorem Checked.orFail_of_reports_ne_nil {α : Type} {x : Checked α} (h : x.reports ≠ [])
    (label : String) : x.orFail label = .error (.invalid label x.issues) := by
  rcases x with value | ⟨first, more⟩
  · exact absurd rfl h
  · rfl

/-- A check that reports nothing passes. -/
theorem Checked.passed_of_reports_eq_nil {α : Type} {x : Checked α} (h : x.reports = []) :
    ∃ value, x = .passed value :=
  issues_eq_nil_iff.mp (List.map_eq_nil_iff.mp h)

/-- **Values are judged alike alone and in place.** Where only its tasks and variables can be at
fault, a plan fails with what they report by themselves, each under its place, and ids that occur
twice are reported only where they report nothing. Where only its bodies can be at fault, a patch
fails with what they report by themselves, and operations that are not complete are reported only
where they report nothing. -/
theorem reports_in_place :
    (∀ value : Json, value.IsPlanFrame →
      (planReports value ≠ [] → ∃ issues,
        Plan.ofJson value = .error (.invalid Plan.label issues) ∧
          issues.map Issue.report = planReports value) ∧
      (planReports value = [] → ∃ plan, Plan.check value = .passed plan ∧
        reportsOf (Plan.ofJson value) = plan.duplicateIssues.map Issue.report)) ∧
    ∀ value : Json, value.IsPatchFrame →
      (patchReports value ≠ [] → ∃ issues,
        Envelope.ofJson value = .error (.invalid Envelope.label issues) ∧
          issues.map Issue.report = patchReports value) ∧
      (patchReports value = [] → ∃ form, EnvelopeForm.check value = .passed form ∧
        reportsOf (Envelope.ofJson value) = (Envelope.checkComplete form.operations).reports) := by
  refine ⟨fun value frame => ⟨fun some => ?_, fun none => ?_⟩,
    fun value frame => ⟨fun some => ?_, fun none => ?_⟩⟩
  · rw [← Plan.reports_check frame] at some ⊢
    refine ⟨_, ?_, rfl⟩
    rw [Plan.ofJson, Checked.orFail_of_reports_ne_nil some]
    rfl
  · rw [← Plan.reports_check frame] at none
    obtain ⟨plan, passed⟩ := Checked.passed_of_reports_eq_nil none
    refine ⟨plan, passed, ?_⟩
    rw [Plan.ofJson, passed, ← plan.reportsOf_distinct]
    rfl
  · rw [← EnvelopeForm.reports_check frame] at some ⊢
    refine ⟨_, ?_, rfl⟩
    rw [Envelope.ofJson, Checked.orFail_of_reports_ne_nil some]
  · rw [← EnvelopeForm.reports_check frame] at none
    obtain ⟨form, passed⟩ := Checked.passed_of_reports_eq_nil none
    refine ⟨form, passed, ?_⟩
    rw [← reportsOf_orFail Envelope.label, Envelope.ofJson, passed]
    change reportsOf (_ <$> (Envelope.checkComplete form.operations).orFail Envelope.label) = _
    rcases Envelope.checkComplete form.operations with operations | ⟨first, more⟩
    · rfl
    · rfl

/-- A plan and a patch with faults on every level, some of them at the entities themselves, and with
members under either spelling. -/
theorem reports_in_place_of_faulty :
    let plan : Json := .obj [("title", .null),
      ("tasks", .arr [.obj [("id", .str "a"), ("toolsets", .arr [.str "t", .int 1])],
        .int 5, .obj [("id", .str "a"), ("dependent_tasks", .str "a")]]),
      ("variables", .arr [.obj [("variableId", .str "v"), ("name", .str ""),
        ("description", .str ""), ("resourceTypes", .arr [.str "image"]), ("value", .arr [])]])]
    let patch : Json := .obj [("operations", .arr [
      .obj [("op", .str "fly"), ("task_id", .null), ("data", .obj [("variable_type", .str "x")]),
        ("task", .str ""), ("variable", .null)]])]
    (∃ issues, Plan.ofJson plan = .error (.invalid "Workflow plan" issues) ∧
      issues.map Issue.report =
        [("tasks.0.toolsets.1", "Input should be a valid string"),
          ("tasks.1", "Input should be a valid dictionary or instance of WorkflowTask"),
          ("tasks.2.dependent_tasks", "Input should be a valid list"),
          ("variables.0",
            "Value error, resourceTypes is only allowed when variableType is 'resource'")]) ∧
      ∃ issues, Envelope.ofJson patch = .error (.invalid "Workflow plan patch" issues) ∧
        issues.map Issue.report =
          [("operations.0.task",
              "Input should be a valid dictionary or instance of WorkflowTask"),
            ("operations.0.data.variable_type", "Input should be 'string' or 'resource'")] := by
  intro plan patch
  have frame : plan.IsPlanFrame := by
    refine ⟨rfl, ?_, ?_, ?_⟩
    · rintro _ ⟨⟩
      exact .inl rfl
    · rintro _ ⟨⟩
      exact ⟨_, rfl⟩
    · rintro _ ⟨⟩
      exact ⟨_, rfl⟩
  have frame' : patch.IsPatchFrame := by
    refine ⟨rfl, nofun, _, rfl, _, rfl, fun item listed => ?_⟩
    rw [List.mem_singleton.mp listed]
    refine ⟨rfl, ⟨_, rfl, _, rfl⟩, nofun, ?_, nofun⟩
    rintro _ ⟨⟩
    exact .inl rfl
  obtain ⟨issues, refused, found⟩ :=
    (reports_in_place.1 plan frame).1 (by decide +kernel : planReports plan ≠ [])
  obtain ⟨issues', refused', found'⟩ :=
    (reports_in_place.2 patch frame').1 (by decide +kernel : patchReports patch ≠ [])
  exact ⟨⟨issues, refused, found.trans (by decide +kernel)⟩,
    issues', refused', found'.trans (by decide +kernel)⟩

end PlanGraph
