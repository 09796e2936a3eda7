import PlanGraph.Supply

/-!
# Mentions of tasks

A prompt mentions a task as `@{type=agent,id=<id>,name=<label>}`. Task ids are only known inside
their plan, so a compiled prompt names the entity of the task instead. First every task is given an
entity id, then the mentions are resolved from the table of symbols, so that a task may be
mentioned before it is listed. Mentions of unknown tasks stay as they are.
-/

namespace PlanGraph

/-! ## Entity ids -/

/-- The type of the node that a task becomes. -/
def taskNodeType : String := "skillResponse"

/-- The entity ids of a list of tasks. -/
structure EntityAssignment where
  /-- One entity id for each task, in order. -/
  entityIds : List String
  /-- The entity id that each task id stands for. -/
  symbols : List (String × String)
deriving DecidableEq

namespace EntityAssignment

/-- The entity id that a task id stands for. -/
def lookup? (assignment : EntityAssignment) (taskId : String) : Option String :=
  assignment.symbols.lookup taskId

/-- Adds a symbol unless its task id stands for something already. -/
def bind (symbols : List (String × String)) (taskId entityId : String) :
    List (String × String) :=
  if (symbols.lookup taskId).isSome then symbols else symbols ++ [(taskId, entityId)]

/-- The symbols of task ids with their entity ids: the first of equal ids owns the symbol. -/
def symbolsOf (bindings : List (String × String)) : List (String × String) :=
  bindings.foldl (fun symbols pair => bind symbols pair.1 pair.2) []

end EntityAssignment

/-- Draws one entity id for each task id, in order. -/
def drawEntityIds : List String → Minting (List String)
  | [] => pure []
  | _ :: rest => do
    let id ← Supply.drawEntity taskNodeType
    pure (id :: (← drawEntityIds rest))

/-- Gives every task an entity id. -/
def assignEntityIds (taskIds : List String) : Minting EntityAssignment := do
  let entityIds ← drawEntityIds taskIds
  pure ⟨entityIds, EntityAssignment.symbolsOf (taskIds.zip entityIds)⟩

/-! ## Mentions -/

/-- What a mention starts with. -/
def mentionOpening : List Char := "@\x7btype=agent,id=".toList

/-- What stands between the id and the label of a mention. -/
def mentionMiddle : List Char := ",name=".toList

/-- The brace that ends a mention. -/
def closingBrace : Char := '\x7d'

/-- A character that the id of a mention may hold. -/
def isMentionIdChar (c : Char) : Bool :=
  c != ',' && c != closingBrace

/-- A mention of a task. -/
structure Mention where
  /-- The id of the task. -/
  id : List Char
  /-- The label that is displayed. -/
  label : List Char
deriving DecidableEq

/-- The text of a mention. -/
def Mention.text (mention : Mention) : List Char :=
  mentionOpening ++ mention.id ++ mentionMiddle ++ mention.label ++ [closingBrace]

/-- The rest of a text after a word that it starts with. -/
def dropStart? (word text : List Char) : Option (List Char) :=
  if word.isPrefixOf text then some (text.drop word.length) else none

/-- The mention that a text starts with, and the rest of the text. -/
def readMention? (text : List Char) : Option (Mention × List Char) :=
  match dropStart? mentionOpening text with
  | none => none
  | some body =>
    let id := body.takeWhile isMentionIdChar
    match dropStart? mentionMiddle (body.drop id.length) with
    | none => none
    | some tail =>
      let label := tail.takeWhile (· != closingBrace)
      match tail.drop label.length with
      | [] => none
      | _ :: rest => if id.isEmpty then none else some (⟨id, label⟩, rest)

theorem length_dropStart? {word text rest : List Char} (h : dropStart? word text = some rest) :
    rest.length ≤ text.length := by
  simp only [dropStart?, Option.ite_none_right_eq_some, Option.some.injEq] at h
  simp [← h.2]

/-- A mention takes at least one character of the text. -/
theorem length_readMention? {text rest : List Char} {mention : Mention}
    (h : readMention? text = some (mention, rest)) : rest.length < text.length := by
  unfold readMention? at h
  split at h
  · simp at h
  · rename_i body opened
    dsimp only at h
    split at h
    · simp at h
    · rename_i tail middle
      split at h
      · simp at h
      · rename_i _ after found
        split at h
        · simp at h
        · simp only [Option.some.injEq, Prod.mk.injEq] at h
          have first := length_dropStart? opened
          have second := length_dropStart? middle
          have third := congrArg List.length found
          simp only [List.length_drop, List.length_cons] at second third
          rw [← h.2]
          omega

/-! ## Resolving -/

/-- A mention with its id replaced, if the id is in the table. -/
def Mention.resolve (symbols : List (String × String)) (mention : Mention) : Mention :=
  match symbols.lookup (String.ofList mention.id) with
  | some entityId => { mention with id := entityId.toList }
  | none => mention

/-- A text with its mentions resolved, from left to right. -/
def resolveText (symbols : List (String × String)) (text : List Char) : List Char :=
  match text with
  | [] => []
  | c :: rest =>
    match _found : readMention? (c :: rest) with
    | some (mention, after) => (mention.resolve symbols).text ++ resolveText symbols after
    | none => c :: resolveText symbols rest
termination_by text.length
decreasing_by
  · exact length_readMention? _found
  · simp

/-- The text holds the two characters that every mention starts with. -/
def mayMention : List Char → Bool
  | [] => false
  | c :: rest => "@\x7b".toList.isPrefixOf (c :: rest) || mayMention rest

/-- A prompt with its mentions resolved; a prompt that holds none is left alone. -/
def resolveMentions (prompt : String) (symbols : List (String × String)) : String :=
  if mayMention prompt.toList then String.ofList (resolveText symbols prompt.toList)
  else prompt

end PlanGraph
