import PlanGraph.Json.Printer
import PlanGraph.Text.Lines

/-!
# What written text is made of

The text of a value that is no container is printable ASCII (`inline_writeScalar`): whatever else a
string holds is escaped. So is the text of any value on one line (`inline_spaced`). In the indented
form line feeds are added (`printed_writeIndented`), so a line of it ends with a line feed or not at
all (`Printed.eq_feed`).
-/

namespace PlanGraph

/-! ## Printed text -/

/-- The text is made of printable ASCII characters. -/
def Inline (text : List Char) : Prop :=
  ∀ c ∈ text, 0x20 ≤ c.toNat ∧ c.toNat < 0x7f

/-- The text is made of line feeds and printable ASCII characters. -/
def Printed (text : List Char) : Prop :=
  ∀ c ∈ text, c = '\n' ∨ 0x20 ≤ c.toNat ∧ c.toNat < 0x7f

variable {c : Char} {text front back : List Char}

namespace Inline

@[simp]
theorem nil : Inline [] := fun _ listed => absurd listed List.not_mem_nil

@[simp]
theorem cons_iff : Inline (c :: text) ↔ (0x20 ≤ c.toNat ∧ c.toNat < 0x7f) ∧ Inline text :=
  List.forall_mem_cons

@[simp]
theorem append_iff : Inline (front ++ back) ↔ Inline front ∧ Inline back :=
  List.forall_mem_append

/-- Part of a text is made of the characters of the text. -/
theorem of_subset (h : Inline text) (part : ∀ c ∈ front, c ∈ text) : Inline front :=
  fun c listed => h c (part c listed)

/-- A text is made of printable characters when a look at each character says so. -/
theorem of_all (h : text.all (fun c => 0x20 ≤ c.toNat && c.toNat < 0x7f) = true) :
    Inline text := by
  intro c listed
  simpa using List.all_eq_true.mp h c listed

theorem replicate (n : Nat) (h : 0x20 ≤ c.toNat ∧ c.toNat < 0x7f) :
    Inline (List.replicate n c) := by
  intro d listed
  rw [List.eq_of_mem_replicate listed]
  exact h

/-- A text on one line is printed. -/
theorem printed (h : Inline text) : Printed text :=
  fun c listed => .inr (h c listed)

/-- A text on one line holds no line feed. -/
theorem feed_not_mem (h : Inline text) : '\n' ∉ text :=
  fun listed => absurd (h _ listed) (by decide)

end Inline

namespace Printed

@[simp]
theorem nil : Printed [] := fun _ listed => absurd listed List.not_mem_nil

@[simp]
theorem cons_iff :
    Printed (c :: text) ↔ (c = '\n' ∨ 0x20 ≤ c.toNat ∧ c.toNat < 0x7f) ∧ Printed text :=
  List.forall_mem_cons

@[simp]
theorem append_iff : Printed (front ++ back) ↔ Printed front ∧ Printed back :=
  List.forall_mem_append

/-- The lines of a printed text end with line feeds. -/
theorem eq_feed (h : Printed text) (listed : c ∈ text) (ends : Text.isLineEnd c = true) :
    c = '\n' := by
  rcases h c listed with feed | printable
  · exact feed
  · simp only [Text.isLineEnd, Bool.or_eq_true, Bool.and_eq_true, decide_eq_true_eq,
      beq_iff_eq] at ends
    omega

end Printed

/-! ## Numbers -/

theorem inline_toDigits (n : Nat) : Inline (Nat.toDigits 10 n) := by
  intro c listed
  have digit := Nat.isDigit_of_mem_toDigits (by decide) (by decide) listed
  simp only [Char.isDigit, Bool.and_eq_true, decide_eq_true_eq, UInt32.le_iff_toNat_le] at digit
  change 0x30 ≤ c.toNat ∧ c.toNat ≤ 0x39 at digit
  exact ⟨by omega, by omega⟩

namespace Binary64

theorem inline_dropTrailingZeros {digits : List Char} (h : Inline digits) :
    Inline (dropTrailingZeros digits) := by
  refine h.of_subset fun c listed => ?_
  exact List.mem_reverse.mp (List.dropWhile_subset _ (List.mem_reverse.mp listed))

theorem inline_positional {digits : List Char} (h : Inline digits) (place : Int) :
    Inline (positional digits place) := by
  unfold positional
  split
  · simp [Inline.replicate, h]
  · split
    · simp [Inline.replicate, h]
    · simp [h.of_subset fun _ => List.mem_of_mem_take, h.of_subset fun _ => List.mem_of_mem_drop]

theorem inline_exponential {digits : List Char} (h : Inline digits) (exponent : Int) :
    Inline (exponential digits exponent) := by
  have sign : Inline ['e', if exponent < 0 then '-' else '+'] := by
    split <;> simp
  have power : Inline (exponentDigits exponent.natAbs) := by
    unfold exponentDigits
    split <;> simp [inline_toDigits]
  simp only [exponential, Inline.append_iff]
  refine ⟨⟨?_, sign⟩, power⟩
  rcases digits with _ | ⟨digit, _ | ⟨next, rest⟩⟩
  · simp
  · exact h
  · simp only [Inline.cons_iff] at h ⊢
    exact ⟨h.1, by decide, h.2⟩

theorem inline_unitsText (units : Nat) : Inline (unitsText units) := by
  have digits := inline_dropTrailingZeros (inline_toDigits (shortest units).digits)
  rw [unitsText]
  split
  · exact inline_positional digits _
  · exact inline_exponential digits _

theorem inline_finiteText (negative : Bool) (units : Nat) :
    Inline (finiteText negative units).toList := by
  have body : Inline (if units = 0 then ['0', '.', '0'] else unitsText units) := by
    split
    · simp
    · exact inline_unitsText units
  rw [finiteText, String.toList_ofList]
  split
  · exact Inline.cons_iff.mpr ⟨by decide, body⟩
  · exact body

end Binary64

/-! ## Strings -/

theorem inline_hexDigits (width value : Nat) : Inline (Text.hexDigits width value) := by
  have digits : ∀ v < 16, 0x20 ≤ (Text.hexDigit v).toNat ∧ (Text.hexDigit v).toNat < 0x7f := by
    decide
  induction width generalizing value with
  | zero => exact .nil
  | succ width ih =>
      rw [Text.hexDigits, Inline.append_iff]
      exact ⟨ih _, Inline.cons_iff.mpr ⟨digits _ (Nat.mod_lt _ (by decide)), .nil⟩⟩

namespace Json

theorem inline_unitEscape (unit : Nat) : Inline (unitEscape unit) := by
  simp [unitEscape, inline_hexDigits]

theorem inline_writeChar (c : Char) : Inline (writeChar c) := by
  unfold writeChar
  repeat' split
  all_goals simp_all [inline_unitEscape]

theorem inline_writeString (s : String) : Inline (writeString s) := by
  have inside : Inline (s.toList.flatMap writeChar) := by
    intro c listed
    obtain ⟨d, -, written⟩ := List.mem_flatMap.mp listed
    exact inline_writeChar d c written
  simp [writeString, inside]

/-! ## Values -/

theorem inline_writeScalar (value : Json) : Inline (writeScalar value) := by
  cases value with
  | bool b => cases b <;> simp [writeScalar]
  | int n =>
      rw [writeScalar, writeInt]
      split <;> simp [inline_toDigits]
  | float x =>
      rw [writeScalar]
      cases x with
      | nan => exact .of_all (by decide)
      | infinite negative =>
          cases negative with
          | false => exact .of_all (by decide)
          | true => exact .of_all (by decide)
      | finite negative units => exact Binary64.inline_finiteText negative units
  | str s => exact inline_writeString s
  | _ => simp [writeScalar]

theorem inline_item : Inline Separators.spaced.item := .of_all (by decide)

theorem inline_name : Inline Separators.spaced.name := .of_all (by decide)

mutual

/-- The text of a value with blanks is printable. -/
theorem inline_write : ∀ value : Json, Inline (write .spaced value)
  | arr items => by simp [write, inline_writeItems items]
  | obj members => by simp [write, inline_writeMembers members]
  | null => inline_writeScalar null
  | bool b => inline_writeScalar (bool b)
  | int n => inline_writeScalar (int n)
  | float x => inline_writeScalar (float x)
  | str s => inline_writeScalar (str s)

theorem inline_writeItems : ∀ items : List Json, Inline (writeItems .spaced items)
  | [] => .nil
  | [item] => inline_write item
  | item :: next :: rest => by
    simp [writeItems, inline_item, inline_write item, inline_writeItems (next :: rest)]

theorem inline_writeMembers :
    ∀ members : List (String × Json), Inline (writeMembers .spaced members)
  | [] => .nil
  | [(name, value)] => by
    simp [writeMembers, inline_name, inline_writeString name, inline_write value]
  | (name, value) :: next :: rest => by
    simp [writeMembers, inline_item, inline_name, inline_writeString name, inline_write value,
      inline_writeMembers (next :: rest)]

end

/-- The text of a value with blanks is one line. -/
theorem inline_spaced (value : Json) : Inline value.spaced.toList := by
  rw [spaced, String.toList_ofList]
  exact inline_write value

theorem printed_newLine (depth : Nat) : Printed (newLine depth) := by
  simp [newLine, (Inline.replicate _ _).printed]

mutual

/-- The indented text of a value is printed. -/
theorem printed_writeIndented (depth : Nat) : ∀ value : Json, Printed (writeIndented depth value)
  | arr [] => by simp [writeIndented]
  | arr (item :: rest) => by
    simp [writeIndented, printed_newLine, printed_indentedItems (depth + 1) (item :: rest)]
  | obj [] => by simp [writeIndented]
  | obj (pair :: rest) => by
    simp [writeIndented, printed_newLine, printed_indentedMembers (depth + 1) (pair :: rest)]
  | null => by simp [writeIndented, (inline_writeScalar _).printed]
  | bool _ => by simp [writeIndented, (inline_writeScalar _).printed]
  | int _ => by simp [writeIndented, (inline_writeScalar _).printed]
  | float _ => by simp [writeIndented, (inline_writeScalar _).printed]
  | str _ => by simp [writeIndented, (inline_writeScalar _).printed]

theorem printed_indentedItems (depth : Nat) :
    ∀ items : List Json, Printed (indentedItems depth items)
  | [] => .nil
  | [item] => by simp [indentedItems, printed_newLine, printed_writeIndented depth item]
  | item :: next :: rest => by
    simp [indentedItems, printed_newLine, printed_writeIndented depth item,
      printed_indentedItems depth (next :: rest)]

theorem printed_indentedMembers (depth : Nat) :
    ∀ members : List (String × Json), Printed (indentedMembers depth members)
  | [] => .nil
  | [(name, value)] => by
    simp [indentedMembers, printed_newLine, (inline_writeString name).printed,
      printed_writeIndented depth value]
  | (name, value) :: next :: rest => by
    simp [indentedMembers, printed_newLine, (inline_writeString name).printed,
      printed_writeIndented depth value, printed_indentedMembers depth (next :: rest)]

end

end Json

end PlanGraph
