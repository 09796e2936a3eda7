import PlanGraph.Proofs.Nesting
import PlanGraph.Proofs.Patch.Ingestion

/-!
# Complete operations

Which envelopes are read, once their structure is known to pass (`Envelope.ofJson_of_structured`).

An operation is complete if it names one of the seven operations and gives the payload that this one
needs (`Operation.Complete`). Otherwise it offends, in one member and for one cause
(`Operation.Offends`). An envelope is read exactly if every operation is complete, and then it holds
an operation of the named kind for each value, in the same order. Otherwise every offence is
reported, in the order of the operations, and nothing else is.
-/

namespace PlanGraph

/-! ## What an operation gives -/

/-- The member is there, under the spelling that is written or else the plain one, and is neither
null nor the empty text. -/
def Json.Gives (value : Json) (key : Key) : Prop :=
  ∃ payload, value.either? key.wire key.plain = some payload ∧ payload ≠ .null ∧ payload ≠ .str ""

/-- The operation of a name is the one that has it. -/
theorem OperationKind.ofName?_eq_some_iff {name : String} {kind : OperationKind} :
    ofName? name = some kind ↔ kind.name = name := by
  constructor
  · intro known
    have found : all.find? (fun kind => kind.name == name) = some kind := known
    have same := List.find?_some found
    exact beq_iff_eq.mp same
  · rintro rfl
    exact kind.ofName?_name

/-- Operations with the same name are the same. -/
theorem OperationKind.name_inj {kind other : OperationKind} (same : kind.name = other.name) :
    kind = other := by
  have known := kind.ofName?_name
  rw [same, other.ofName?_name] at known
  exact (Option.some.inj known).symm

namespace Operation

/-- The value names an operation and gives the payload that this operation needs. -/
def Complete (value : Json) : Prop :=
  ∃ kind : OperationKind, value.get? "op" = some (.str kind.name) ∧
    ∀ key, kind.payloadKey? = some key → value.Gives key

/-- The value makes no operation, since a member of it is at fault. -/
inductive Offends (value : Json) : String → Cause → Prop where
  /-- The name is the name of no operation. -/
  | name {name : String} (named : value.get? "op" = some (.str name))
      (unknown : ∀ kind : OperationKind, kind.name ≠ name) :
      Offends value "op" (.unknownOperation (.str name) knownNames)
  /-- The payload that the named operation needs is not given. -/
  | payload {kind : OperationKind} {key : Key} (named : value.get? "op" = some (.str kind.name))
      (needs : kind.payloadKey? = some key) (lacks : ¬ value.Gives key) :
      Offends value key.wire (.missingPayload key.wire kind.name)

variable {value : Json} {member member' : String} {cause cause' : Cause}

/-- A value that is complete does not offend. -/
theorem Complete.not_offends (complete : Complete value) : ¬ Offends value member cause := by
  obtain ⟨kind, named, given⟩ := complete
  rintro (⟨named', unknown⟩ | @⟨other, key, named', needs, lacks⟩)
  · obtain rfl := Json.str.inj (Option.some.inj (named.symm.trans named'))
    exact unknown kind rfl
  · obtain rfl := OperationKind.name_inj (Json.str.inj (Option.some.inj (named.symm.trans named')))
    exact lacks (given key needs)

/-- A value offends in one member only, and for one cause. -/
theorem Offends.unique (h : Offends value member cause) (h' : Offends value member' cause') :
    member = member' ∧ cause = cause' := by
  rcases h with ⟨named, unknown⟩ | @⟨kind, key, named, needs, lacks⟩
  · rcases h' with ⟨named', -⟩ | @⟨kind', -, named', -, -⟩
    · obtain rfl := Json.str.inj (Option.some.inj (named.symm.trans named'))
      exact ⟨rfl, rfl⟩
    · exact absurd (Json.str.inj (Option.some.inj (named'.symm.trans named))) (unknown kind')
  · rcases h' with ⟨named', unknown⟩ | @⟨kind', key', named', needs', -⟩
    · exact absurd (Json.str.inj (Option.some.inj (named.symm.trans named'))) (unknown kind)
    · obtain rfl := OperationKind.name_inj
        (Json.str.inj (Option.some.inj (named.symm.trans named')))
      obtain rfl := Option.some.inj (needs.symm.trans needs')
      exact ⟨rfl, rfl⟩

end Operation

/-! ## Forms -/

namespace OperationForm

open Operation

variable {members : List (String × Json)} {form : OperationForm} {item : Json}

/-- The payload is given if it can be read. -/
theorem gives_iff {key : Key} (kind : OperationKind) :
    (Json.obj members).Gives key ↔ ∃ value, payload key kind members = .ok value := by
  simp only [Json.Gives, payload_eq_ok_iff, Key.value?_eq_either?]

/-- What is read as an operation gives the payload that the operation needs. -/
theorem gives_of_ofMembers {kind : OperationKind} {operation : Operation} {key : Key}
    (read : ofMembers kind members = .ok operation) (needs : kind.payloadKey? = some key) :
    (Json.obj members).Gives key := by
  rw [gives_iff kind]
  cases kind with
  | updateTitle => cases needs
  | _ =>
      cases needs
      obtain ⟨value, given, -⟩ := bind_eq_ok_iff.mp read
      exact ⟨value, given⟩

/-- A needed body is there in the form, or it is not given and this is the issue. -/
theorem needed_or {α : Type} {check : Json → Checked α} {name : String} {given : Option α}
    (proper : ∀ a, check (.str "") ≠ .passed a)
    (passes : Changes.checkMember (.word name) check members = .passed given)
    (kind : OperationKind) :
    (∃ a, needed name kind given = .ok a ∧ (Json.obj members).Gives (.word name)) ∨
      needed name kind given = .error (missingPayload (.word name) kind) ∧
        ¬ (Json.obj members).Gives (.word name) := by
  rcases given with _ | a
  · right
    refine ⟨rfl, ?_⟩
    rintro ⟨value, there, nonnull, -⟩
    rw [← Key.value?_eq_either? (.word name)] at there
    have absent := Changes.checkMember_eq_none_iff.mp passes
    rw [there] at absent
    exact nonnull absent
  · left
    obtain ⟨value, read, -⟩ := payload_of_checkMember (proper a) kind passes
    exact ⟨a, rfl, (gives_iff kind).mpr ⟨value, read⟩⟩

/-- A needed id is there in the form, or it is not given and this is the issue. -/
theorem neededId_or {key : Key} {given : Option String}
    (passes : Changes.checkMember key Json.checkText members = .passed given)
    (kind : OperationKind) :
    (∃ id, neededId key.wire kind given = .ok id ∧ (Json.obj members).Gives key) ∨
      neededId key.wire kind given = .error (missingPayload key kind) ∧
        ¬ (Json.obj members).Gives key := by
  rcases given with _ | text
  · right
    refine ⟨rfl, ?_⟩
    rintro ⟨value, there, nonnull, -⟩
    rw [← Key.value?_eq_either?] at there
    have absent := Changes.checkMember_eq_none_iff.mp passes
    rw [there] at absent
    exact nonnull absent
  · obtain ⟨value, there, -, passed⟩ := Changes.checkMember_eq_some_iff.mp passes
    obtain rfl := Json.checkText_eq_passed_iff.mp passed
    by_cases filled : text = ""
    · right
      subst filled
      refine ⟨rfl, ?_⟩
      rintro ⟨value, there', -, nonempty⟩
      rw [← Key.value?_eq_either?, there] at there'
      exact nonempty (Option.some.inj there').symm
    · left
      have read : neededId key.wire kind (some text) = .ok (.str text) :=
        neededId_eq_ok_iff.mpr ⟨text, rfl, filled, rfl⟩
      exact ⟨.str text, read, (gives_iff kind).mpr ⟨_, payload_of_neededId kind passes read⟩⟩

/-- What comes of a form of a known kind: an operation of this kind if the payload that it needs is
given, and the issue that it is missing otherwise. -/
inductive Completes (members : List (String × Json)) (kind : OperationKind) :
    Except Issue Operation → Prop where
  /-- The payload is given if one is needed. -/
  | complete {operation : Operation} (named : operation.kind = kind)
      (given : ∀ key, kind.payloadKey? = some key → (Json.obj members).Gives key) :
      Completes members kind (.ok operation)
  /-- The payload is not given. -/
  | incomplete {key : Key} (needs : kind.payloadKey? = some key)
      (lacks : ¬ (Json.obj members).Gives key) :
      Completes members kind (.error (missingPayload key kind))

/-- What is made of the payload comes out as the payload does. -/
theorem Completes.map {α : Type} {kind : OperationKind} {key : Key} {read : Except Issue α}
    {make : α → Operation} (needs : kind.payloadKey? = some key)
    (named : ∀ a, (make a).kind = kind)
    (parts : (∃ a, read = .ok a ∧ (Json.obj members).Gives key) ∨
      read = .error (missingPayload key kind) ∧ ¬ (Json.obj members).Gives key) :
    Completes members kind (make <$> read) := by
  rcases parts with ⟨a, rfl, given⟩ | ⟨rfl, lacks⟩
  · refine .complete (named a) fun other needs' => ?_
    obtain rfl := Option.some.inj (needs.symm.trans needs')
    exact given
  · exact .incomplete needs lacks

/-- A form of a known kind stands for an operation of that kind, or it lacks the payload. -/
theorem completes (h : checkMembers members = .passed form) (kind : OperationKind) :
    Completes members kind (form.complete kind) := by
  obtain ⟨-, -, taskId, task, inputId, input, -⟩ := checkMembers_eq_passed_iff.mp h
  cases kind with
  | updateTitle => exact .complete rfl nofun
  | createTask =>
      have proper (a : Task) : Task.check (.str "") ≠ .passed a := by
        simp [Task.check, Json.checkRecord]
      exact .map rfl (fun _ => rfl) (needed_or proper task _)
  | updateTask => exact .map rfl (fun _ => rfl) (neededId_or taskId _)
  | deleteTask => exact .map rfl (fun _ => rfl) (neededId_or taskId _)
  | createVariable =>
      have proper (a : Variable) : Variable.check (.str "") ≠ .passed a := by
        simp [Variable.check, Json.checkRecord]
      exact .map rfl (fun _ => rfl) (needed_or proper input _)
  | updateVariable => exact .map rfl (fun _ => rfl) (neededId_or inputId _)
  | deleteVariable => exact .map rfl (fun _ => rfl) (neededId_or inputId _)

/-- A form stands for an operation of the kind that its value names and is complete, or its value
offends, and this is the issue. -/
theorem toOperation_or (h : check item = .passed form) :
    (∃ operation, form.toOperation = .ok operation ∧
      item.get? "op" = some (.str operation.kind.name) ∧ Complete item) ∨
    ∃ member cause, form.toOperation = .error ⟨[.member member], cause⟩ ∧
      Offends item member cause := by
  obtain ⟨members, rfl, passes⟩ := Json.checkRecord_eq_passed_iff.mp h
  obtain ⟨name, found, text⟩ :=
    Key.required_eq_passed_iff.mp (checkMembers_eq_passed_iff.mp passes).1
  obtain rfl := Json.checkText_eq_passed_iff.mp text
  have named : (Json.obj members).get? "op" = some (.str form.op) :=
    (Key.value?_word_eq_get? _ _).symm.trans found
  rcases known : OperationKind.ofName? form.op with _ | kind
  · right
    refine ⟨"op", _, by rw [toOperation, known]; rfl, .name named ?_⟩
    intro kind same
    rw [OperationKind.ofName?_eq_some_iff.mpr same] at known
    cases known
  · rw [← OperationKind.ofName?_eq_some_iff.mp known] at named
    have read : form.toOperation = form.complete kind := by rw [toOperation, known]
    have comes := completes passes kind
    rw [read]
    generalize form.complete kind = result at comes
    rcases comes with ⟨rfl, given⟩ | ⟨needs, lacks⟩
    · exact .inl ⟨_, rfl, named, _, named, given⟩
    · exact .inr ⟨_, _, rfl, .payload named needs lacks⟩

end OperationForm

/-! ## Envelopes -/

namespace Envelope

/-- One operation of an envelope at fault. -/
structure Offence where
  /-- The place of the operation. -/
  index : Nat
  /-- The member at fault. -/
  member : String
  /-- What is wrong with it. -/
  cause : Cause

/-- The issue that reports an offence. -/
def Offence.issue (offence : Offence) : Issue :=
  ⟨[.member "operations", .item offence.index, .member offence.member], offence.cause⟩

/-- An offence is reported at its member, in the operation at its place. -/
theorem Offence.place_issue (offence : Offence) :
    offence.issue.place = "operations." ++ toString offence.index ++ "." ++ offence.member :=
  pathText_itemMember _ _ _

/-- The offences of a list of operations: one for each operation that is not complete, in the order
of the list. -/
structure OffencesOf (items : List Json) (offences : List Offence) : Prop where
  /-- The operations come in their order, and none of them twice. -/
  ascending : (offences.map Offence.index).Pairwise (· < ·)
  /-- The operation at the place of an offence is the one that offends. -/
  mem_iff : ∀ offence, offence ∈ offences ↔ ∃ item, items[offence.index]? = some item ∧
    Operation.Offends item offence.member offence.cause
  /-- An operation has an offence if it is not complete. -/
  exists_iff : ∀ place item, items[place]? = some item →
    ((∃ offence ∈ offences, offence.index = place) ↔ ¬ Operation.Complete item)

/-- Nothing offends if every operation is complete, and otherwise something does. -/
theorem OffencesOf.eq_nil_iff {items : List Json} {offences : List Offence}
    (h : OffencesOf items offences) :
    offences = [] ↔ ∀ item ∈ items, Operation.Complete item := by
  constructor
  · rintro rfl item listed
    obtain ⟨place, found⟩ := List.mem_iff_getElem?.mp listed
    by_contra incomplete
    obtain ⟨offence, given, -⟩ := (h.exists_iff place item found).mpr incomplete
    exact absurd given List.not_mem_nil
  · intro complete
    refine List.eq_nil_iff_forall_not_mem.mpr fun offence given => ?_
    obtain ⟨item, found, offends⟩ := (h.mem_iff offence).mp given
    exact (complete item (List.mem_of_getElem? found)).not_offends offends

section

variable {items : List Json} {forms : List OperationForm}

/-- A form reports the offence of its value, if that offends. -/
theorem issues_checkComplete {item : Json} {form : OperationForm}
    (passes : OperationForm.check item = .passed form) :
    (form.checkComplete.issues = [] ∧ Operation.Complete item) ∨
      ∃ member cause, form.checkComplete.issues = [⟨[.member member], cause⟩] ∧
        Operation.Offends item member cause := by
  unfold OperationForm.checkComplete
  rcases OperationForm.toOperation_or passes with
    ⟨operation, made, -, complete⟩ | ⟨member, cause, made, offends⟩
  · left
    rw [made]
    exact ⟨rfl, complete⟩
  · right
    rw [made]
    exact ⟨member, cause, rfl, offends⟩

/-- Behind an envelope whose structure passes, each operation is complete or offends. -/
theorem complete_or_offends
    (checked : List.Forall₂ (fun item form => OperationForm.check item = .passed form)
      items forms) :
    ∀ item ∈ items, Operation.Complete item ∨
      ∃ member cause, Operation.Offends item member cause := by
  refine ((List.forall₂_and_left _ _).mp (checked.imp fun item form passes => ⟨?_, passes⟩)).1
  rcases issues_checkComplete passes with ⟨-, complete⟩ | ⟨member, cause, -, offends⟩
  · exact .inl complete
  · exact .inr ⟨member, cause, offends⟩

/-- The issues of forms are the offences of their values, one after another. -/
theorem exists_offences
    (checked : List.Forall₂ (fun item form => OperationForm.check item = .passed form) items forms)
    (index : Nat) :
    ∃ offences : List Offence,
      (Checked.itemsFrom OperationForm.checkComplete index forms).issues.map
          (Issue.under (.member "operations")) = offences.map Offence.issue ∧
      (offences.map Offence.index).Pairwise (· < ·) ∧
      ∀ offence, offence ∈ offences ↔ ∃ place item, items[place]? = some item ∧
        offence.index = index + place ∧ Operation.Offends item offence.member offence.cause := by
  induction checked generalizing index with
  | nil => exact ⟨[], rfl, .nil, by simp⟩
  | @cons item form items forms passes _ ih =>
      obtain ⟨offences, issues, ascending, listed⟩ := ih (index + 1)
      -- seen from the first item, the others have the places from one on
      have places (offence : Offence) : (∃ place other, (item :: items)[place]? = some other ∧
          offence.index = index + place ∧
            Operation.Offends other offence.member offence.cause) ↔
          (offence.index = index ∧ Operation.Offends item offence.member offence.cause) ∨
            offence ∈ offences := by
        rw [listed]
        constructor
        · rintro ⟨_ | place, other, here, place_eq, offends⟩
          · cases here
            exact .inl ⟨place_eq, offends⟩
          · exact .inr ⟨place, other, here, by omega, offends⟩
        · rintro (⟨place_eq, offends⟩ | ⟨place, other, here, place_eq, offends⟩)
          · exact ⟨0, item, rfl, place_eq, offends⟩
          · exact ⟨place + 1, other, here, by omega, offends⟩
      simp only [places, Checked.itemsFrom, Checked.issues_seq, Checked.issues_map,
        Checked.issues_under, List.map_append, issues]
      rcases issues_checkComplete passes with
        ⟨silent, complete⟩ | ⟨member, cause, reported, offends⟩
      · refine ⟨offences, by rw [silent]; rfl, ascending, fun offence => ?_⟩
        constructor
        · exact .inr
        · rintro (⟨-, offends⟩ | later)
          · exact absurd offends complete.not_offends
          · exact later
      · refine ⟨⟨index, member, cause⟩ :: offences, by rw [reported]; rfl, ?_, fun offence => ?_⟩
        · refine List.pairwise_cons.mpr ⟨fun place later => ?_, ascending⟩
          obtain ⟨offence, here, rfl⟩ := List.mem_map.mp later
          obtain ⟨place, -, -, place_eq, -⟩ := (listed offence).mp here
          show index < offence.index
          omega
        · rw [List.mem_cons]
          apply or_congr _ Iff.rfl
          constructor
          · rintro rfl
            exact ⟨rfl, offends⟩
          · obtain ⟨place, member', cause'⟩ := offence
            rintro ⟨rfl, offends'⟩
            obtain ⟨rfl, rfl⟩ := offends.unique offends'
            rfl

/-- What is reported of forms is the offences of their values. -/
theorem exists_offencesOf
    (checked : List.Forall₂ (fun item form => OperationForm.check item = .passed form)
      items forms) :
    ∃ offences, (checkComplete forms).issues = offences.map Offence.issue ∧
      OffencesOf items offences := by
  obtain ⟨offences, reported, ascending, listed⟩ := exists_offences checked 0
  have mem_iff (offence : Offence) : offence ∈ offences ↔
      ∃ item, items[offence.index]? = some item ∧
        Operation.Offends item offence.member offence.cause := by
    simp [listed]
  refine ⟨offences, by rw [checkComplete, Checked.issues_under, reported], ascending, mem_iff, ?_⟩
  intro place item found
  constructor
  · rintro ⟨offence, given, rfl⟩ complete
    obtain ⟨other, found', offends⟩ := (mem_iff offence).mp given
    obtain rfl := Option.some.inj (found.symm.trans found')
    exact complete.not_offends offends
  · intro incomplete
    obtain complete | ⟨member, cause, offends⟩ :=
      complete_or_offends checked item (List.mem_of_getElem? found)
    · exact absurd complete incomplete
    · exact ⟨⟨place, member, cause⟩, (mem_iff _).mpr ⟨item, found, offends⟩, rfl⟩

/-- Forms that are complete stand for operations of the kinds that their values name, which are the
operations that these values are read as, with the bodies checked. -/
theorem named_of_complete {operations : List Operation}
    (checked : List.Forall₂ (fun item form => OperationForm.check item = .passed form) items forms)
    (complete : List.Forall₂
      (fun form operation => OperationForm.checkComplete form = .passed operation)
      forms operations) :
    List.Forall₂ (fun item operation => item.get? "op" = some (.str operation.kind.name) ∧
        ∃ read, Operation.ofJson item = .ok read ∧ read.Settles operation) items operations := by
  induction checked generalizing operations with
  | nil =>
      cases complete
      exact .nil
  | cons passes _ ih =>
      rcases complete with _ | ⟨completes, others⟩
      have made := OperationForm.checkComplete_eq_passed_iff.mp completes
      refine .cons ⟨?_, OperationForm.settles passes made⟩ (ih others)
      rcases OperationForm.toOperation_or passes with
        ⟨operation, made', named, -⟩ | ⟨member, cause, made', -⟩
      · obtain rfl := Except.ok.inj (made.symm.trans made')
        exact named
      · rw [made] at made'
        cases made'

end

/-- **Envelopes drop, reorder and hide nothing.** Take an envelope whose structure passes.

* It is read exactly if each of its operations is complete: it names one of the seven operations,
  and the payload that this one needs is there, neither null nor the empty text.
* What is read has an operation for each value, in the same order. It is of the kind that the value
  names, and it is what the value is read as by itself, with the body checked.
* Otherwise the failure reports the operations that are not complete, each of them once and in their
  order, at the name that no operation has or at the payload that is missing. -/
theorem ofJson_of_structured {value : Json} {form : EnvelopeForm}
    (structured : EnvelopeForm.check value = .passed form) :
    ((∃ envelope, ofJson value = .ok envelope) ↔
      ∀ item ∈ value.itemsOf "operations", Operation.Complete item) ∧
    (∀ envelope, ofJson value = .ok envelope → envelope.planId = form.planId ∧
      List.Forall₂ (fun item operation => item.get? "op" = some (.str operation.kind.name) ∧
          ∃ read, Operation.ofJson item = .ok read ∧ read.Settles operation)
        (value.itemsOf "operations") envelope.operations) ∧
    ∀ failure, ofJson value = .error failure → ∃ offences,
      failure = .invalid label (offences.map Offence.issue) ∧
      OffencesOf (value.itemsOf "operations") offences ∧
      ∀ offence ∈ offences, offence.issue.place =
        "operations." ++ toString offence.index ++ "." ++ offence.member := by
  have checked := EnvelopeForm.forms_of_check structured
  have read : ofJson value =
      Envelope.mk form.planId <$> (checkComplete form.operations).orFail label := by
    rw [ofJson, Checked.orFail_eq_ok_iff.mpr structured]
  obtain ⟨offences, issues, offencesOf⟩ := exists_offencesOf checked
  refine ⟨?_, ?_, ?_⟩
  · rw [← offencesOf.eq_nil_iff, ← List.map_eq_nil_iff (f := Offence.issue), ← issues,
      Checked.issues_eq_nil_iff, read]
    simp only [map_eq_ok_iff, Checked.orFail_eq_ok_iff]
    constructor
    · rintro ⟨-, operations, passes, -⟩
      exact ⟨operations, passes⟩
    · rintro ⟨operations, passes⟩
      exact ⟨_, operations, passes, rfl⟩
  · intro envelope made
    rw [read] at made
    obtain ⟨operations, passes, rfl⟩ := map_eq_ok_iff.mp made
    have completes := Checked.itemsFrom_eq_passed_iff.mp
      (Checked.under_eq_passed_iff.mp (Checked.orFail_eq_ok_iff.mp passes))
    exact ⟨rfl, named_of_complete checked completes⟩
  · intro failure refused
    refine ⟨offences, ?_, offencesOf, fun offence _ => offence.place_issue⟩
    rw [← issues]
    rw [read] at refused
    rcases outcome : checkComplete form.operations with operations | ⟨first, more⟩
    · rw [outcome] at refused
      cases refused
    · rw [outcome] at refused
      cases refused
      rfl

/-- Of three operations, the first lacks the id that it needs and the last has an unknown name. -/
theorem ofJson_of_structured_of_three :
    let value : Json := .obj [("operations", .arr [
      .obj [("op", .str "deleteTask"), ("taskId", .str ""), ("title", .null)],
      .obj [("op", .str "deleteTask"), ("task_id", .str "a")],
      .obj [("op", .str "renameTask"), ("taskId", .str "a")]])]
    (∃ form, EnvelopeForm.check value = .passed form) ∧
      ∃ failure offences, ofJson value = .error failure ∧
        failure.issues.map Issue.place = ["operations.0.taskId", "operations.2.op"] ∧
        failure = .invalid label (offences.map Offence.issue) ∧
        OffencesOf (value.itemsOf "operations") offences := by
  intro value
  obtain ⟨form, structured⟩ : ∃ form, EnvelopeForm.check value = .passed form := ⟨_, rfl⟩
  obtain ⟨-, -, refused⟩ := ofJson_of_structured structured
  obtain ⟨offences, same, offencesOf, -⟩ := refused _ rfl
  exact ⟨⟨form, structured⟩, _, offences, rfl, by decide, same, offencesOf⟩

end Envelope

end PlanGraph
