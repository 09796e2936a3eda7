import Mathlib.Data.Nat.Digits.Defs
import PlanGraph.Proofs.Json.ReadBack.Floats
import PlanGraph.Proofs.Json.ReadBack.Values

/-!
# Decoded values

What a text of JSON can stand for (`Decoded`): the reader takes no integer that is
too long, rounds each floating number to one of the format, keeps one member of each name, and gets
no more items than a text can hold. Whatever it gives is decoded (`decoded_of_read`), and whatever
is decoded is read back from its own text (`Decoded.legible`).
-/

namespace PlanGraph.Json

/-! ## Decoded values -/

/-- No array has as many items as this. -/
def arrayLimit : Nat := 2 ^ 63

/-- The value can come of a text. -/
inductive Decoded : Json → Prop where
  /-- The null value. -/
  | null : Decoded null
  /-- A flag. -/
  | bool (b : Bool) : Decoded (bool b)
  /-- An integer with as many digits as the reader takes. -/
  | int {n : Int} (short : (Nat.toDigits 10 n.natAbs).length ≤ Text.maxIntegerDigits) :
      Decoded (int n)
  /-- A floating number of the format. -/
  | float {x : Binary64} (representable : x.Representable) : Decoded (float x)
  /-- A string. -/
  | str (s : String) : Decoded (str s)
  /-- An array of decoded items. -/
  | arr {items : List Json} (few : items.length < arrayLimit)
      (each : ∀ item ∈ items, Decoded item) : Decoded (arr items)
  /-- An object with decoded values under different names. -/
  | obj {members : List (String × Json)} (names : (members.map Prod.fst).Nodup)
      (each : ∀ member ∈ members, Decoded member.2) : Decoded (obj members)

/-- A number below the limit of arrays, and even some hundred times as large, has few digits. -/
theorem length_toDigits_of_lt {n : Nat} (h : n < 1000 * arrayLimit) :
    (Nat.toDigits 10 n).length ≤ Text.maxIntegerDigits := by
  have digits : (Nat.toDigits 10 n).length ≤ 30 := by
    refine Nat.toDigits_length 10 n 30 (by decide) (h.trans ?_)
    decide
  exact digits.trans (by decide)

/-- A count of items is legible. -/
theorem legible_ofNat {n : Nat} (h : n < arrayLimit) : Legible (ofNat n) :=
  .int (length_toDigits_of_lt (by omega))

namespace Decoded

attribute [simp] null bool str

variable {value : Json} {members : List (String × Json)} {items : List Json} {name : String}

@[simp]
theorem arr_iff :
    Decoded (.arr items) ↔ items.length < arrayLimit ∧ ∀ item ∈ items, Decoded item :=
  ⟨fun | .arr few each => ⟨few, each⟩, fun h => .arr h.1 h.2⟩

@[simp]
theorem obj_iff :
    Decoded (.obj members) ↔
      (members.map Prod.fst).Nodup ∧ ∀ member ∈ members, Decoded member.2 :=
  ⟨fun | .obj names each => ⟨names, each⟩, fun h => .obj h.1 h.2⟩

/-- **A decoded value is read back from its own text.** -/
theorem legible (h : Decoded value) : Legible value := by
  induction h with
  | null => exact .null
  | bool b => exact .bool b
  | int short => exact .int short
  | float representable => exact .float (readPlain_writeFloat representable)
  | str s => exact .str s
  | arr _ _ ih => exact .arr ih
  | obj names _ ih => exact .obj names ih

/-- What a decoded object holds is decoded. -/
theorem of_member? (h : Decoded (.obj members)) (found : member? name members = some value) :
    Decoded value :=
  (obj_iff.mp h).2 (name, value) (mem_of_member? found)

/-- What a decoded value holds is decoded. -/
theorem of_get? (h : Decoded value) {member : Json} (found : value.get? name = some member) :
    Decoded member := by
  cases value with
  | obj members => exact h.of_member? found
  | _ => cases found

/-- A member of a decoded value is decoded, also where null stands for a missing one. -/
theorem getD (h : Decoded value) (name : String) : Decoded (value.getD name) := by
  rw [Json.getD]
  rcases found : value.get? name with _ | member
  · exact .null
  · exact h.of_get? found

/-- The items of a member are decoded, and there are not too many of them. -/
theorem itemsOf (h : Decoded value) (name : String) : Decoded (.arr (value.itemsOf name)) := by
  unfold Json.itemsOf
  split
  · rename_i items found
    exact h.of_get? found
  · exact arr_iff.mpr ⟨by decide, List.forall_mem_nil _⟩

end Decoded

/-! ## What the reader gives -/

section

variable {text rest : List Char} {value : Json}

/-- Digits spell a number with no more digits than they are. -/
theorem natOfDigits_lt {digits : List Char} (all : ∀ c ∈ digits, isDigit c = true) :
    natOfDigits digits < 10 ^ digits.length := by
  induction digits using List.reverseRecOn with
  | nil => decide
  | append_singleton digits c ih =>
      have before := ih fun d listed => all d (List.mem_append_left _ listed)
      have digit := all c (List.mem_append_right _ List.mem_cons_self)
      simp only [isDigit, Bool.and_eq_true, decide_eq_true_eq, Char.le_def,
        UInt32.le_iff_toNat_le] at digit
      change 0x30 ≤ c.toNat ∧ c.toNat ≤ 0x39 at digit
      have spelled : natOfDigits (digits ++ [c]) = 10 * natOfDigits digits + (c.toNat - 0x30) := by
        simp [natOfDigits]
      rw [spelled, List.length_append, List.length_singleton, Nat.pow_succ]
      omega

/-- A whole part is made of digits. -/
theorem isDigit_of_mem_readWhole? {whole : List Char}
    (read : readWhole? text = some (whole, rest)) :
    ∀ c ∈ whole, isDigit c = true := by
  unfold readWhole? at read
  split at read
  · cases read
    exact List.forall_mem_singleton.mpr (by decide)
  · split at read
    · cases read
      exact fun c listed => List.mem_takeWhile_imp listed
    · cases read
  · cases read

/-- A number is decoded. -/
theorem decoded_of_readMagnitude? {negative : Bool}
    (read : readMagnitude? negative text = some (.ok value, rest)) : value.Decoded := by
  obtain ⟨⟨whole, afterWhole⟩, found, read⟩ := Option.bind_eq_some_iff.mp read
  dsimp only at read
  split at read
  · split at read
    · cases read
    · rename_i short
      cases read
      refine .int ?_
      have digits : (if negative then -(natOfDigits whole : Int) else natOfDigits whole).natAbs =
          natOfDigits whole := by
        split
        · rw [Int.natAbs_neg, Int.natAbs_natCast]
        · rw [Int.natAbs_natCast]
      rw [digits]
      have bound := natOfDigits_lt (isDigit_of_mem_readWhole? found)
      refine Nat.toDigits_length 10 _ _ (by decide) (bound.trans_le ?_)
      exact Nat.pow_le_pow_right (by decide) (not_lt.mp short)
  · cases read
    exact .float (Binary64.representable_ofDecimal _ _ _)

theorem decoded_of_readNumber (read : readNumber text = .ok (value, rest)) : value.Decoded := by
  by_cases minus : ∃ after, text = '-' :: after
  · obtain ⟨after, rfl⟩ := minus
    exact decoded_of_readMagnitude? (readNumber_minus.mp read)
  · exact decoded_of_readMagnitude?
      ((readNumber_of_no_minus fun after same => minus ⟨after, same⟩).mp read)

/-- A name or a number is decoded. -/
theorem decoded_of_readPlain (read : readPlain text = .ok (value, rest)) : value.Decoded := by
  unfold readPlain at read
  split at read
  · rename_i found named
    obtain ⟨⟨word, known⟩, listed, dropped⟩ := List.exists_of_findSome?_eq_some named
    obtain ⟨after, -, rfl⟩ := Option.map_eq_some_iff.mp dropped
    cases read
    have each : ∀ entry ∈ keywords, entry.2.Decoded := by
      simp only [keywords, List.forall_mem_cons]
      exact ⟨.null, .bool true, .bool false, .float .nan, .float (.infinite false),
        .float (.infinite true), List.forall_mem_nil _⟩
    exact each _ listed
  · exact decoded_of_readNumber read

theorem mem_names_put_iff {name key : String} {members : List (String × Json)} :
    key ∈ (put name value members).map Prod.fst ↔ key = name ∨ key ∈ members.map Prod.fst := by
  induction members with
  | nil => simp [put]
  | cons member more ih =>
      obtain ⟨first, old⟩ := member
      rw [put]
      split
      · rename_i same
        simp [same]
      · simp only [List.map_cons, List.mem_cons, ih]
        exact or_left_comm

/-- Setting a member keeps an object decoded. -/
theorem decoded_put {name : String} {members : List (String × Json)}
    (h : (obj members).Decoded) (decoded : value.Decoded) :
    (obj (put name value members)).Decoded := by
  rw [Decoded.obj_iff] at h ⊢
  induction members with
  | nil => simpa [put] using decoded
  | cons member more ih =>
      obtain ⟨first, old⟩ := member
      simp only [List.map_cons, List.nodup_cons, List.forall_mem_cons] at h
      obtain ⟨⟨fresh, names⟩, kept, each⟩ := h
      rw [put]
      split
      · rename_i same
        simp only [List.map_cons, List.nodup_cons, List.forall_mem_cons]
        exact ⟨⟨same ▸ fresh, names⟩, decoded, each⟩
      · rename_i other
        simp only [List.map_cons, List.nodup_cons, List.forall_mem_cons, mem_names_put_iff, not_or]
        obtain ⟨names, each⟩ := ih ⟨names, each⟩
        exact ⟨⟨⟨other, fresh⟩, names⟩, kept, each⟩

end

/-- A value that is read with some fuel is decoded. -/
def ValueDecodes (fuel : Nat) : Prop :=
  ∀ {text rest : List Char} {value : Json}, readValue fuel text = .ok (value, rest) → value.Decoded

/-- Items that are read with some fuel are decoded, and there are no more of them than fuel. -/
def ItemsDecode (fuel : Nat) : Prop :=
  ∀ {text rest : List Char} {items : List Json}, readItems fuel text = .ok (items, rest) →
    items.length ≤ fuel ∧ ∀ item ∈ items, item.Decoded

/-- Members that are read with some fuel are decoded, together with those known before. -/
def MembersDecode (fuel : Nat) : Prop :=
  ∀ {text rest : List Char} {known members : List (String × Json)}, (obj known).Decoded →
    readMembers fuel known text = .ok (members, rest) → (obj members).Decoded

section

variable {fuel : Nat}

theorem ValueDecodes.succ (small : fuel < arrayLimit) (ofItems : ItemsDecode fuel)
    (ofMembers : MembersDecode fuel) : ValueDecodes (fuel + 1) := by
  intro text rest value read
  rw [readValue.eq_def] at read
  dsimp only at read
  split at read
  · obtain ⟨⟨s, after⟩, -, made⟩ := bind_eq_ok_iff.mp read
    cases made
    exact .str s
  · split at read
    · cases read
      exact .arr (by decide) (List.forall_mem_nil _)
    · obtain ⟨⟨items, after⟩, found, made⟩ := bind_eq_ok_iff.mp read
      cases made
      obtain ⟨few, each⟩ := ofItems found
      exact .arr (Nat.lt_of_le_of_lt few small) each
  · split at read
    · cases read
      exact .obj .nil (List.forall_mem_nil _)
    · obtain ⟨⟨members, after⟩, found, made⟩ := bind_eq_ok_iff.mp read
      cases made
      exact ofMembers (by simp) found
  · exact decoded_of_readPlain read

theorem ItemsDecode.succ (ofValue : ValueDecodes fuel) (ofItems : ItemsDecode fuel) :
    ItemsDecode (fuel + 1) := by
  intro text rest items read
  rw [readItems.eq_2] at read
  obtain ⟨⟨item, after⟩, found, read⟩ := bind_eq_ok_iff.mp read
  dsimp only at read
  split at read
  · cases read
    exact ⟨Nat.succ_pos fuel, List.forall_mem_singleton.mpr (ofValue found)⟩
  · obtain ⟨⟨more, final⟩, tail, made⟩ := bind_eq_ok_iff.mp read
    cases made
    obtain ⟨few, each⟩ := ofItems tail
    exact ⟨Nat.succ_le_succ few, List.forall_mem_cons.mpr ⟨ofValue found, each⟩⟩
  · cases read

theorem MembersDecode.succ (ofValue : ValueDecodes fuel) (ofMembers : MembersDecode fuel) :
    MembersDecode (fuel + 1) := by
  intro text rest known members decoded read
  rw [readMembers.eq_def] at read
  dsimp only at read
  split at read
  · obtain ⟨⟨name, afterName⟩, -, read⟩ := bind_eq_ok_iff.mp read
    dsimp only at read
    split at read
    · obtain ⟨⟨value, after⟩, found, read⟩ := bind_eq_ok_iff.mp read
      have next : (obj (put name value known)).Decoded := decoded_put decoded (ofValue found)
      dsimp only at read
      split at read
      · cases read
        exact next
      · exact ofMembers next read
      · cases read
    · cases read
  · cases read

/-- Values, items and members are decoded, as long as the fuel is below the limit of arrays. -/
theorem decodes (fuel : Nat) (small : fuel ≤ arrayLimit) :
    ValueDecodes fuel ∧ ItemsDecode fuel ∧ MembersDecode fuel := by
  induction fuel with
  | zero =>
      refine ⟨fun read => ?_, fun read => ?_, fun _ read => ?_⟩ <;> cases read
  | succ fuel ih =>
      obtain ⟨ofValue, ofItems, ofMembers⟩ := ih (Nat.le_of_succ_le small)
      exact ⟨ValueDecodes.succ small ofItems ofMembers, ItemsDecode.succ ofValue ofItems,
        MembersDecode.succ ofValue ofMembers⟩

end

/-- What a text is read as is the value that it starts with behind its blanks. -/
theorem exists_readValue_of_readText {text : List Char} {value : Json}
    (h : readText text = .ok value) :
    ∃ after, readValue (2 * text.length + 2) (skipSpace text) = .ok (value, after) := by
  unfold readText at h
  split at h
  · split at h
    · cases h
    · obtain ⟨⟨found, after⟩, here, ends⟩ := bind_eq_ok_iff.mp h
      dsimp only at ends
      split at ends
      · cases ends
        exact ⟨after, here⟩
      · cases ends
  · cases h

/-- **What is read is decoded.** -/
theorem decoded_of_read {text : String} {value : Json} (short : text.length < 2 ^ 62)
    (h : read text = .ok value) : value.Decoded := by
  have small : 2 * text.toList.length + 2 ≤ arrayLimit := by
    rw [String.length_toList, arrayLimit]
    omega
  obtain ⟨_, here⟩ := exists_readValue_of_readText (mapError_eq_ok_iff.mp h)
  exact (decodes _ small).1 here

end PlanGraph.Json
