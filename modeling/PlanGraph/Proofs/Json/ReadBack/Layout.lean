import PlanGraph.Proofs.Checked
import PlanGraph.Proofs.Json.ReadBack.Numbers
import PlanGraph.Proofs.Json.ReadBack.Strings
import PlanGraph.Proofs.Json.Respacing.Values

/-!
# Containers that are read back

The printers differ only in the blanks that they put between the parts of a container: after it is
opened, after each comma, and before it is closed. Whatever these blanks are, a container is read
back when everything it holds is (`ReadsBack.arr`, `ReadsBack.obj`). The induction is on the list of
what the container holds, and the fuel is counted in the characters written.
-/

namespace PlanGraph.Json

/-- The value is read back from a text, whatever follows. -/
def ReadsBack (value : Json) (text : List Char) : Prop :=
  ∀ ⦃fuel : Nat⦄ ⦃rest : List Char⦄, EndsNumber rest → 2 * text.length + 1 ≤ fuel →
    readValue fuel (text ++ rest) = .ok (value, rest)

section

variable {c : Char} {text rest gap trail : List Char} {value : Json} {fuel : Nat}

/-! ## Blanks -/

/-- Nothing but blanks. -/
def IsGap (gap : List Char) : Prop :=
  ∀ c ∈ gap, isSpace c = true

theorem IsGap.nil : IsGap [] := nofun

theorem IsGap.space : IsGap [' '] := by
  simp [IsGap, isSpace]

theorem IsGap.newLine (depth : Nat) : IsGap (newLine depth) := by
  refine List.forall_mem_cons.mpr ⟨rfl, fun c listed => ?_⟩
  rw [List.eq_of_mem_replicate listed]
  rfl

theorem IsGap.skip (h : IsGap gap) (text : List Char) : skipSpace (gap ++ text) = skipSpace text :=
  List.dropWhile_append_of_pos h

theorem skipSpace_of_start (h : isSpace c = false) : skipSpace (c :: text) = c :: text :=
  List.dropWhile_cons_of_neg (by simp [h])

/-- Blanks go on with no number. -/
theorem IsGap.endsNumber (h : IsGap gap) (ends : EndsNumber rest) : EndsNumber (gap ++ rest) := by
  cases gap with
  | nil => exact ends
  | cons c gap =>
      have blank := h c List.mem_cons_self
      simp only [isSpace, Bool.or_eq_true, beq_iff_eq] at blank
      rcases blank with ((rfl | rfl) | rfl) | rfl
      all_goals exact .cons (by decide)

/-- No blank stands in front of a value, and no bracket is closed there. -/
theorem start_of_readValue {here : Json × List Char} (read : readValue fuel text = .ok here) :
    skipSpace text = text ∧ ∀ after, text ≠ ']' :: after := by
  obtain ⟨c, rest, rfl, start⟩ := exists_start_of_readValue read
  constructor
  · refine skipSpace_of_start ?_
    by_contra blank
    simp only [isSpace, Bool.not_eq_false, Bool.or_eq_true, beq_iff_eq] at blank
    rcases blank with ((rfl | rfl) | rfl) | rfl <;> cases start
  · intro after same
    rw [(List.cons.inj same).1] at start
    cases start

/-! ## Scalars -/

/-- A value that is a name or a number. -/
theorem ReadsBack.of_plain (read : readPlain text = .ok (value, [])) : ReadsBack value text := by
  intro fuel rest ends enough
  obtain ⟨fuel, rfl⟩ := Nat.exists_eq_succ_of_ne_zero (Nat.ne_zero_of_lt enough)
  have plain := readPlain_append ends read
  obtain ⟨c, more, written, start⟩ := exists_start_of_readPlain plain
  rw [readValue.eq_5, plain]
  all_goals
    intro after same
    rw [(List.cons.inj (written.symm.trans same)).1] at start
    cases start

theorem ReadsBack.str (s : String) : ReadsBack (str s) (writeString s) := by
  intro fuel rest _ enough
  obtain ⟨fuel, rfl⟩ := Nat.exists_eq_succ_of_ne_zero (Nat.ne_zero_of_lt enough)
  change readValue (fuel + 1) ('"' :: s.toList.flatMap writeChar ++ ['"'] ++ rest) = _
  rw [List.append_assoc, List.cons_append, readValue.eq_2, List.singleton_append,
    readString_writeString, ok_bind]
  rfl

/-! ## Rows -/

/-- Texts in a row, with a comma and blanks after each but the last. -/
def row (gap : List Char) : List (List Char) → List Char
  | [] => []
  | [text] => text
  | text :: rest => text ++ ',' :: gap ++ row gap rest

theorem row_map_cons_cons {α : Type} (gap : List Char) (print : α → List Char) (a next : α)
    (more : List α) :
    row gap ((a :: next :: more).map print) =
      print a ++ ',' :: gap ++ row gap ((next :: more).map print) := rfl

/-! ## Arrays -/

/-- The last item. -/
theorem readItems_of_close {after : List Char} (read : readValue fuel text = .ok (value, after))
    (close : skipSpace after = ']' :: rest) : readItems (fuel + 1) text = .ok ([value], rest) := by
  rw [readItems.eq_2, read, ok_bind]
  dsimp only
  rw [close]
  rfl

/-- An item that another one follows. -/
theorem readItems_of_comma {after : List Char} (read : readValue fuel text = .ok (value, after))
    (comma : skipSpace after = ',' :: rest) :
    readItems (fuel + 1) text =
      readItems fuel (skipSpace rest) >>= fun found => pure (value :: found.1, found.2) := by
  rw [readItems.eq_2, read, ok_bind]
  dsimp only
  rw [comma]
  rfl

/-- Items that are each read back are read back in a row. -/
theorem readItems_row {print : Json → List Char} {items : List Json} (between : IsGap gap)
    (behind : IsGap trail) (each : ∀ item ∈ items, ReadsBack item (print item))
    (nonempty : items ≠ []) (enough : 2 * (row gap (items.map print)).length + 2 ≤ fuel) :
    readItems fuel (skipSpace (row gap (items.map print) ++ (trail ++ ']' :: rest))) =
      .ok (items, rest) := by
  induction items generalizing fuel with
  | nil => exact absurd rfl nonempty
  | cons item more ih =>
      obtain ⟨fuel, rfl⟩ := Nat.exists_eq_succ_of_ne_zero (Nat.ne_zero_of_lt enough)
      have first := each item (List.mem_cons_self ..)
      cases more with
      | nil =>
          change 2 * (print item).length + 2 ≤ fuel + 1 at enough
          change readItems (fuel + 1) (skipSpace (print item ++ (trail ++ ']' :: rest))) = _
          have ends : EndsNumber (trail ++ ']' :: rest) := behind.endsNumber (.cons (by decide))
          have read := @first fuel _ ends (by omega)
          have close : skipSpace (trail ++ ']' :: rest) = ']' :: rest := by
            rw [behind.skip, skipSpace_of_start (by decide)]
          rw [(start_of_readValue read).1]
          exact readItems_of_close read close
      | cons next more =>
          rw [row_map_cons_cons] at enough ⊢
          simp only [List.length_append, List.length_cons] at enough
          have read := @first fuel
            (',' :: (gap ++ (row gap ((next :: more).map print) ++ (trail ++ ']' :: rest))))
            (.cons (by decide)) (by omega)
          have following := ih (fun item listed => each item (List.mem_cons_of_mem _ listed))
            (List.cons_ne_nil _ _) (show _ ≤ fuel by omega)
          rw [List.append_assoc, List.append_assoc, List.cons_append, (start_of_readValue read).1,
            readItems_of_comma read (skipSpace_of_start (by decide)), between.skip, following,
            ok_bind]
          rfl

/-- An array starts with an item, not with its end. -/
theorem readValue_of_readItems {items : List Json} {here : List Char}
    (read : readItems fuel (skipSpace text) = .ok (items, here)) :
    readValue (fuel + 1) ('[' :: text) = .ok (arr items, here) := by
  rw [readValue_array, read, ok_bind]
  · rfl
  · cases fuel with
    | zero => cases read
    | succ fuel =>
        obtain ⟨_, first, -⟩ := bind_eq_ok_iff.mp read
        exact (start_of_readValue first).2

theorem ReadsBack.arr {print : Json → List Char} {items : List Json} {lead : List Char}
    (before : IsGap lead) (between : IsGap gap) (behind : IsGap trail) (nonempty : items ≠ [])
    (each : ∀ item ∈ items, ReadsBack item (print item)) :
    ReadsBack (arr items) ('[' :: lead ++ row gap (items.map print) ++ trail ++ [']']) := by
  intro fuel rest _ enough
  obtain ⟨fuel, rfl⟩ := Nat.exists_eq_succ_of_ne_zero (Nat.ne_zero_of_lt enough)
  simp only [List.length_append, List.length_cons] at enough
  simp only [List.append_assoc, List.cons_append, List.nil_append]
  refine readValue_of_readItems ?_
  rw [before.skip]
  exact readItems_row between behind each nonempty (by omega)

/-! ## Objects -/

/-- A name that is not in use comes last. -/
theorem put_of_not_mem {name : String} {members : List (String × Json)}
    (new : name ∉ members.map Prod.fst) : put name value members = members ++ [(name, value)] := by
  induction members with
  | nil => rfl
  | cons member members ih =>
      obtain ⟨key, old⟩ := member
      rw [List.map_cons, List.mem_cons, not_or] at new
      rw [put, if_neg (Ne.symm new.1), ih new.2, List.cons_append]

/-- A member after its name, and what is done after its value. -/
theorem readMembers_of_readValue {name : String} {members : List (String × Json)}
    {after : List Char} (read : readValue fuel text = .ok (value, after)) :
    (skipSpace after = '\x7d' :: rest →
      readMembers (fuel + 1) members (writeString name ++ ([':', ' '] ++ text)) =
        .ok (put name value members, rest)) ∧
    (skipSpace after = ',' :: rest →
      readMembers (fuel + 1) members (writeString name ++ ([':', ' '] ++ text)) =
        readMembers fuel (put name value members) (skipSpace rest)) := by
  have named : writeString name ++ ([':', ' '] ++ text) =
      '"' :: (name.toList.flatMap writeChar ++ '"' :: ':' :: ' ' :: text) := by
    simp [writeString]
  have spaced : skipSpace (' ' :: text) = text := (start_of_readValue read).1
  rw [named, readMembers.eq_2, readString_writeString, ok_bind]
  dsimp only
  rw [skipSpace_of_start (by decide)]
  constructor
  · intro close
    change (readValue fuel (skipSpace (' ' :: text)) >>= _) = _
    rw [spaced, read, ok_bind]
    dsimp only
    rw [close]
    rfl
  · intro comma
    change (readValue fuel (skipSpace (' ' :: text)) >>= _) = _
    rw [spaced, read, ok_bind]
    dsimp only
    rw [comma]
    rfl

/-- A member as both printers write it, with its value in a form of theirs. -/
def memberText (print : Json → List Char) (member : String × Json) : List Char :=
  writeString member.1 ++ ([':', ' '] ++ print member.2)

/-- Members that are each read back, under names that differ from each other and from those already
read, are read back in a row. -/
theorem readMembers_row {print : Json → List Char} {known members : List (String × Json)}
    (between : IsGap gap) (behind : IsGap trail)
    (each : ∀ member ∈ members, ReadsBack member.2 (print member.2))
    (names : ((known ++ members).map Prod.fst).Nodup) (nonempty : members ≠ [])
    (enough : 2 * (row gap (members.map (memberText print))).length + 2 ≤ fuel) :
    readMembers fuel known
        (skipSpace (row gap (members.map (memberText print)) ++ (trail ++ '\x7d' :: rest))) =
      .ok (known ++ members, rest) := by
  induction members generalizing fuel known with
  | nil => exact absurd rfl nonempty
  | cons member more ih =>
      obtain ⟨fuel, rfl⟩ := Nat.exists_eq_succ_of_ne_zero (Nat.ne_zero_of_lt enough)
      obtain ⟨name, value⟩ := member
      have first : ReadsBack value (print value) := each (name, value) (List.mem_cons_self ..)
      have new : put name value known = known ++ [(name, value)] := by
        rw [List.map_append, List.map_cons] at names
        exact put_of_not_mem fun used =>
          (List.nodup_append.mp names).2.2 _ used _ (List.mem_cons_self ..) rfl
      have quote (text : List Char) :
          skipSpace (writeString name ++ text) = writeString name ++ text :=
        skipSpace_of_start (by decide)
      cases more with
      | nil =>
          change 2 * (writeString name ++ ([':', ' '] ++ print value)).length + 2 ≤ fuel + 1
            at enough
          change readMembers (fuel + 1) known (skipSpace (writeString name ++
            ([':', ' '] ++ print value) ++ (trail ++ '\x7d' :: rest))) = _
          simp only [List.length_append] at enough
          have ends : EndsNumber (trail ++ '\x7d' :: rest) :=
            behind.endsNumber (.cons (by decide))
          have read := @first fuel _ ends (by omega)
          have close : skipSpace (trail ++ '\x7d' :: rest) = '\x7d' :: rest := by
            rw [behind.skip, skipSpace_of_start (by decide)]
          rw [List.append_assoc, List.append_assoc, quote, (readMembers_of_readValue read).1 close,
            new]
      | cons next more =>
          rw [row_map_cons_cons, memberText] at enough ⊢
          simp only [List.length_append, List.length_cons] at enough
          have read := @first fuel
            (',' :: (gap ++ (row gap ((next :: more).map (memberText print)) ++
              (trail ++ '\x7d' :: rest)))) (.cons (by decide)) (by omega)
          have following := @ih fuel (known ++ [(name, value)])
            (fun member listed => each member (List.mem_cons_of_mem _ listed))
            (by rwa [List.append_assoc, List.singleton_append]) (List.cons_ne_nil _ _) (by omega)
          have parts (more : List Char) : writeString name ++ ([':', ' '] ++ print value) ++
              ',' :: gap ++ more = writeString name ++ ([':', ' '] ++
                (print value ++ ',' :: (gap ++ more))) := by
            simp only [List.append_assoc, List.cons_append, List.nil_append]
          rw [List.append_assoc, parts, quote,
            (readMembers_of_readValue read).2 (skipSpace_of_start (by decide)), new, between.skip,
            following, List.append_assoc, List.singleton_append]

theorem ReadsBack.obj {print : Json → List Char} {members : List (String × Json)}
    {lead : List Char} (before : IsGap lead) (between : IsGap gap) (behind : IsGap trail)
    (nonempty : members ≠ []) (names : (members.map Prod.fst).Nodup)
    (each : ∀ member ∈ members, ReadsBack member.2 (print member.2)) :
    ReadsBack (obj members)
      ('\x7b' :: lead ++ row gap (members.map (memberText print)) ++ trail ++ ['\x7d']) := by
  intro fuel rest _ enough
  obtain ⟨fuel, rfl⟩ := Nat.exists_eq_succ_of_ne_zero (Nat.ne_zero_of_lt enough)
  simp only [List.length_append, List.length_cons] at enough
  simp only [List.append_assoc, List.cons_append, List.nil_append]
  have inside := @readMembers_row rest gap trail fuel print [] members between behind each names
    nonempty (by omega)
  rw [← before.skip] at inside
  rw [readValue_object, inside, ok_bind]
  · rfl
  · intro after close
    rw [close] at inside
    cases fuel with
    | zero => cases inside
    | succ fuel => cases inside

/-! ## Whole texts -/

/-- A text from which a value is read back, whatever follows, is read as that value. -/
theorem ReadsBack.readText_eq (h : ReadsBack value text) : readText text = .ok value := by
  have read : readValue (2 * text.length + 2) text = .ok (value, []) := by
    simpa using h .nil (Nat.le_succ _)
  have unspaced := (start_of_readValue read).1
  obtain ⟨c, rest, written, start⟩ := exists_start_of_readValue read
  have unmarked : c.toNat ≠ 0xfeff := by
    intro marked
    rw [← Char.ofNat_toNat c, marked] at start
    cases start
  rw [written] at read unspaced ⊢
  rw [readText, if_neg unmarked, unspaced, read, ok_bind]
  rfl

end

end PlanGraph.Json
