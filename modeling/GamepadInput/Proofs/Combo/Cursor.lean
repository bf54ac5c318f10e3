import GamepadInput.Combo

/-!
# Reading a combination by byte offsets

A text can be kept as a whole beside the byte where reading goes on, and cut there whenever it is
looked at.  Such a cut is possible only between two characters (`splitAt?_isSome_iff`).  A reader
that works this way makes every cut it needs, and reads what `Combo.read` reads (`scan?_eq`).
-/

namespace GamepadInput.Combo

@[simp] theorem byteLength_nil : byteLength [] = 0 := rfl

@[simp] theorem byteLength_cons (c : Char) (text : List Char) :
    byteLength (c :: text) = c.utf8Size + byteLength text := rfl

@[simp] theorem byteLength_append (first second : List Char) :
    byteLength (first ++ second) = byteLength first + byteLength second := by
  induction first with
  | nil => simp
  | cons c first ih => simp [ih, Nat.add_assoc]

theorem byteLength_eq (text : List Char) : byteLength text = (String.ofList text).utf8ByteSize := by
  induction text with
  | nil => rfl
  | cons c text ih =>
    have split : String.ofList (c :: text) = String.singleton c ++ String.ofList text := by
      rw [String.singleton_eq_ofList, ← String.ofList_append]
      rfl
    rw [split, String.utf8ByteSize_append, String.utf8ByteSize_singleton, byteLength_cons, ih]

/-- The text before a byte and from it on.  There is no such cut within a character or past the
end. -/
def splitAt? (text : List Char) (offset : Nat) : Option (List Char × List Char) :=
  if offset = 0 then some ([], text)
  else
    match text with
    | [] => none
    | c :: rest =>
      if c.utf8Size ≤ offset then
        (splitAt? rest (offset - c.utf8Size)).map fun (before, after) => (c :: before, after)
      else none

/-- A cut leaves whole characters on both sides. -/
theorem splitAt?_eq_some_iff {text before after : List Char} {offset : Nat} :
    splitAt? text offset = some (before, after) ↔
      text = before ++ after ∧ offset = byteLength before := by
  induction text generalizing before offset with
  | nil =>
    unfold splitAt?
    cases before with
    | nil => by_cases start : offset = 0 <;> simp [start, eq_comm]
    | cons c before => by_cases start : offset = 0 <;> simp [start]
  | cons c rest ih =>
    have wide := c.utf8Size_pos
    unfold splitAt?
    split
    · cases before with
      | nil => simp_all [eq_comm]
      | cons d before =>
        have wider := d.utf8Size_pos
        simp only [Option.some.injEq, Prod.mk.injEq, reduceCtorEq, false_and, List.cons_append,
          List.cons.injEq, byteLength_cons, false_iff, not_and]
        omega
    · rename_i inside
      cases before with
      | nil => simp [inside]
      | cons d before =>
        simp only [Option.ite_none_right_eq_some, Option.map_eq_some_iff, List.cons_append,
          List.cons.injEq, byteLength_cons]
        constructor
        · rintro ⟨fits, ⟨first, last⟩, cut, same⟩
          cases same
          obtain ⟨rfl, reached⟩ := ih.mp cut
          dsimp only
          exact ⟨⟨rfl, rfl⟩, by omega⟩
        · rintro ⟨⟨rfl, rfl⟩, rfl⟩
          exact ⟨by omega, (before, after), ih.mpr ⟨rfl, by omega⟩, rfl⟩

theorem splitAt?_append (before after : List Char) :
    splitAt? (before ++ after) (byteLength before) = some (before, after) :=
  splitAt?_eq_some_iff.mpr ⟨rfl, rfl⟩

/-- A text can be cut just at the boundaries of its characters. -/
theorem splitAt?_isSome_iff {text : List Char} {offset : Nat} :
    (splitAt? text offset).isSome = true ↔
      (⟨offset⟩ : String.Pos.Raw).IsValid (String.ofList text) := by
  simp only [String.Pos.Raw.isValid_ofList, ← byteLength_eq, Option.isSome_iff_exists, Prod.exists,
    splitAt?_eq_some_iff]
  constructor
  · rintro ⟨before, after, rfl, reached⟩
    exact ⟨before.length, by simpa using reached⟩
  · rintro ⟨count, reached⟩
    exact ⟨text.take count, text.drop count, (List.take_append_drop count text).symm, reached⟩

/-- Reads a text on from a byte, which is all that is remembered of the place.  There is no answer
if a cut cannot be made. -/
def scan? (text : List Char) (combo : Combo) (offset : Nat) : Option (Except ComboError Combo) :=
  match _found : splitAt? text offset with
  | none => none
  | some (_, []) => some (.ok combo)
  | some (_, c :: rest) =>
    if isSeparator c then scan? text combo (offset + c.utf8Size)
    else if c.isAlphanum then
      let length := byteLength (c :: rest.takeWhile Char.isAlphanum)
      match splitAt? (c :: rest) length with
      | none => none
      | some (token, _) =>
        match Part.ofToken? token with
        | some part => scan? text (combo.add part) (offset + length)
        | none => some (.error (.unknownToken (String.ofList token)))
    else some (.error (.invalidCharacter c offset))
  termination_by byteLength text - offset
  decreasing_by
    · obtain ⟨rfl, rfl⟩ := splitAt?_eq_some_iff.mp _found
      have wide := c.utf8Size_pos
      simp only [byteLength_append, byteLength_cons]
      omega
    · obtain ⟨rfl, rfl⟩ := splitAt?_eq_some_iff.mp _found
      have wide := c.utf8Size_pos
      simp only [byteLength_append, byteLength_cons]
      omega

/-- One look at a text between two characters. -/
theorem scan?_step (before rest : List Char) (combo : Combo) :
    scan? (before ++ rest) combo (byteLength before) =
      match rest with
      | [] => some (.ok combo)
      | c :: rest =>
        if isSeparator c then
          scan? (before ++ c :: rest) combo (byteLength before + c.utf8Size)
        else if c.isAlphanum then
          let token := c :: rest.takeWhile Char.isAlphanum
          match Part.ofToken? token with
          | some part =>
            scan? (before ++ c :: rest) (combo.add part) (byteLength before + byteLength token)
          | none => some (.error (.unknownToken (String.ofList token)))
        else some (.error (.invalidCharacter c (byteLength before))) := by
  have cut := splitAt?_append before rest
  rw [scan?]
  split
  · rename_i missing
    rw [cut] at missing
    cases missing
  · rename_i found
    rw [cut] at found
    cases found
    rfl
  · rename_i first c rest found
    rw [cut] at found
    cases found
    have run := splitAt?_append (c :: rest.takeWhile Char.isAlphanum)
      (rest.dropWhile Char.isAlphanum)
    rw [List.cons_append, List.takeWhile_append_dropWhile] at run
    simp only [run]

/-- Between characters, reading goes on as it does on the text that is left. -/
theorem scan?_eq {before rest : List Char} {combo : Combo} {offset : Nat}
    (reached : offset = byteLength before) :
    scan? (before ++ rest) combo offset = some (combo.read offset rest) := by
  fun_induction read combo offset rest generalizing before with
  | case1 combo offset =>
    subst reached
    rw [scan?_step]
  | case2 combo offset c rest between ih =>
    subst reached
    rw [scan?_step]
    have onward := @ih (before ++ [c]) (by simp)
    rw [List.append_assoc] at onward
    simp only [between, if_true]
    exact onward
  | case3 combo offset c rest between plain token part named =>
    rename_i ih
    subst reached
    rw [scan?_step]
    have onward := @ih (before ++ token) (by simp)
    rw [List.append_assoc, List.cons_append, List.takeWhile_append_dropWhile] at onward
    simp only [between, plain, token, named, Bool.false_eq_true, if_false, if_true]
    exact onward
  | case4 combo offset c rest between plain token =>
    rename_i named
    subst reached
    rw [scan?_step]
    simp only [between, plain, token, named, Bool.false_eq_true, if_false, if_true]
  | case5 combo offset c rest between plain =>
    subst reached
    rw [scan?_step]
    simp only [between, plain, Bool.false_eq_true, if_false]

end GamepadInput.Combo
