import GamepadInput.Combo
import Mathlib.Data.List.Nodup

/-!
# What a name stands for

Every name of more than one character stands in one list, the `vocabulary`, and stands there once
whatever its case.  A token is looked up in it, and a single letter or digit is its own key
(`ofToken?_eq_some_iff`).
-/

namespace GamepadInput

/-! ## Letters and digits -/

namespace Text

theorem isDigit_iff {c : Char} : c.isDigit = true ↔ 48 ≤ c.toNat ∧ c.toNat ≤ 57 := by
  simp [Char.isDigit, UInt32.le_iff_toNat_le, ← Char.toNat_val]

theorem isAlphanum_iff {c : Char} :
    c.isAlphanum = true ↔
      (65 ≤ c.toNat ∧ c.toNat ≤ 90 ∨ 97 ≤ c.toNat ∧ c.toNat ≤ 122) ∨
        48 ≤ c.toNat ∧ c.toNat ≤ 57 := by
  have letter : c.isAlpha = (c.isUpper || c.isLower) := rfl
  have upper : c.isUpper = decide (c.val ≥ 'A'.val ∧ c.val ≤ 'Z'.val) := rfl
  have lower : c.isLower = (decide (c.val ≥ 'a'.val) && decide (c.val ≤ 'z'.val)) := rfl
  simp [Char.isAlphanum, letter, upper, lower, Char.isDigit, UInt32.le_iff_toNat_le,
    ← Char.toNat_val]

/-- Upper case moves the small letters down by 32 and nothing else. -/
theorem toNat_toUpper (c : Char) :
    c.toUpper.toNat = if 97 ≤ c.toNat ∧ c.toNat ≤ 122 then c.toNat - 32 else c.toNat := by
  have first : 'a'.val.toNat = 97 := rfl
  have last : 'z'.val.toNat = 122 := rfl
  have turn : ('A'.val - 'a'.val).toNat = 4294967264 := by decide
  have small : 'a'.val ≤ c.val ∧ c.val ≤ 'z'.val ↔ 97 ≤ c.toNat ∧ c.toNat ≤ 122 := by
    rw [UInt32.le_iff_toNat_le, UInt32.le_iff_toNat_le, first, last, Char.toNat_val]
  by_cases letter : 'a'.val ≤ c.val ∧ c.val ≤ 'z'.val
  · have moved : ∃ valid, c.toUpper = ⟨c.val + ('A'.val - 'a'.val), valid⟩ := ⟨_, dif_pos letter⟩
    obtain ⟨valid, moved⟩ := moved
    rw [small] at letter
    rw [if_pos letter, moved, ← Char.toNat_val, UInt32.toNat_add, turn, Char.toNat_val]
    omega
  · have same : c.toUpper = c := dif_neg letter
    rw [small] at letter
    rw [if_neg letter, same]

theorem toUpper_eq_digit_iff {c d : Char} (digit : d.isDigit = true) : c.toUpper = d ↔ c = d := by
  rw [isDigit_iff] at digit
  have upper := toNat_toUpper c
  simp only [← Char.toNat_inj]
  split at upper <;> omega

theorem toUpper_eq_F_iff {c : Char} : c.toUpper = 'F' ↔ c = 'F' ∨ c = 'f' := by
  have upper := toNat_toUpper c
  have big : 'F'.toNat = 70 := rfl
  have small : 'f'.toNat = 102 := rfl
  simp only [← Char.toNat_inj, big, small]
  split at upper <;> omega

/-- Digits have one case. -/
theorem map_toUpper_eq_digits_iff {digits : List Char} (all : ∀ d ∈ digits, d.isDigit = true)
    {chars : List Char} : chars.map Char.toUpper = digits ↔ chars = digits := by
  induction digits generalizing chars with
  | nil => exact List.map_eq_nil_iff
  | cons d digits ih =>
    cases chars with
    | nil => simp
    | cons c chars =>
      have rest : chars.map Char.toUpper = digits ↔ chars = digits :=
        ih fun x member => all x (List.mem_cons_of_mem _ member)
      rw [List.map_cons, List.cons.injEq, List.cons.injEq, rest,
        toUpper_eq_digit_iff (all d List.mem_cons_self)]

end Text

/-! ## Decimal numerals -/

namespace Key

theorem digitChar_of_isDigit {c : Char} (digit : c.isDigit = true) :
    (c.toNat - '0'.toNat).digitChar = c := by
  rw [Text.isDigit_iff] at digit
  have zero : '0'.toNat = 48 := rfl
  rw [← Char.toNat_inj, zero, Nat.toNat_digitChar_of_lt_ten (by omega)]
  omega

/-- Digits after a number that is not zero are the digits of the number they make with it. -/
theorem toDigits_append_digits {start : Nat} (positive : 0 < start) {digits : List Char}
    (all : ∀ c ∈ digits, c.isDigit = true) :
    Nat.toDigits 10 (Nat.ofDigitChars 10 digits start) = Nat.toDigits 10 start ++ digits := by
  induction digits generalizing start with
  | nil => simp
  | cons c digits ih =>
    have digit := all c (by simp)
    have small : c.toNat - '0'.toNat < 10 := by
      rw [Text.isDigit_iff] at digit
      have zero : '0'.toNat = 48 := rfl
      omega
    have one : Nat.toDigits 10 (10 * start + (c.toNat - '0'.toNat)) =
        Nat.toDigits 10 start ++ [c] := by
      rw [← Nat.toDigits_append_toDigits (by decide) positive small, Nat.toDigits_of_lt_base small,
        digitChar_of_isDigit digit]
    rw [Nat.ofDigitChars_cons, ih (by omega) fun x member => all x (by simp [member]), one]
    simp

/-- A numeral without a leading zero is that of its value. -/
theorem toDigits_of_decimal? {first : Char} {rest : List Char} {n : Nat} (leads : first ≠ '0')
    (read : decimal? (first :: rest) = some n) : Nat.toDigits 10 n = first :: rest := by
  simp only [decimal?, ne_eq, reduceCtorEq, not_false_eq_true, true_and, List.all_eq_true,
    Option.ite_none_right_eq_some, Option.some.injEq] at read
  obtain ⟨all, value⟩ := read
  have digit := all first (by simp)
  have zero : '0'.toNat = 48 := rfl
  have positive : 0 < first.toNat - '0'.toNat := by
    rw [Text.isDigit_iff] at digit
    rw [ne_eq, ← Char.toNat_inj, zero] at leads
    omega
  have small : first.toNat - '0'.toNat < 10 := by
    rw [Text.isDigit_iff] at digit
    omega
  have made : n = Nat.ofDigitChars 10 rest (first.toNat - '0'.toNat) := by
    rw [← value, Nat.ofDigitChars_eq_foldl, List.foldl_cons, Nat.mul_zero, Nat.zero_add]
  rw [made, toDigits_append_digits positive fun x member => all x (by simp [member]),
    Nat.toDigits_of_lt_base small, digitChar_of_isDigit digit]
  rfl

theorem isDigit_of_mem_numeral {n : Nat} {c : Char} (member : c ∈ Nat.toDigits 10 n) :
    c.isDigit = true :=
  Nat.isDigit_of_mem_toDigits (by decide) (by decide) member

theorem decimal?_toDigits (n : Nat) : decimal? (Nat.toDigits 10 n) = some n := by
  have value : (Nat.toDigits 10 n).foldl (fun n c => 10 * n + (c.toNat - '0'.toNat)) 0 = n := by
    rw [← Nat.ofDigitChars_eq_foldl, Nat.ofDigitChars_ten_toDigits]
  rw [decimal?, value, if_pos]
  exact ⟨Nat.toDigits_ne_nil, List.all_eq_true.mpr fun c member => isDigit_of_mem_numeral member⟩

/-- No numeral but that of zero leads with a zero. -/
theorem head?_toDigits_ne_zero {n : Nat} (positive : 0 < n) :
    (Nat.toDigits 10 n).head? ≠ some '0' := by
  induction n using Nat.strongRecOn with
  | ind n ih =>
    rw [Nat.toDigits_eq_if (by decide)]
    split
    · simp only [List.head?_cons, ne_eq, Option.some.injEq, Nat.digitChar_eq_zero]
      omega
    · have leads := ih (n / 10) (by omega) (by omega)
      cases digits : Nat.toDigits 10 (n / 10) with
      | nil => exact absurd digits Nat.toDigits_ne_nil
      | cons first rest =>
        rw [digits] at leads
        exact leads

/-! ## Function keys -/

/-- The letter of a function key, and a numeral without a leading zero. -/
theorem functionByName?_cons (c : Char) (digits : List Char) :
    functionByName? (.ofList (c :: digits)) =
      if (c = 'F' ∨ c = 'f') ∧ digits.head? ≠ some '0' then (decimal? digits).bind function?
      else none := by
  have leads {rest : List Char} (other : ∀ tail, rest = '0' :: tail → False) :
      rest.head? ≠ some '0' := fun zero => by
    obtain ⟨tail, split⟩ := List.head?_eq_some_iff.mp zero
    exact other tail split
  rw [functionByName?, String.toList_ofList]
  split
  · rename_i same
    cases same
    simp
  · rename_i same
    cases same
    simp
  · rename_i other same
    cases same
    rw [if_pos ⟨.inl rfl, leads other⟩]
  · rename_i other same
    cases same
    rw [if_pos ⟨.inr rfl, leads other⟩]
  · rename_i big small
    have letter : ¬(c = 'F' ∨ c = 'f') := by
      rintro (rfl | rfl)
      · exact big digits rfl
      · exact small digits rfl
    rw [if_neg fun written => letter written.1]

theorem function?_eq_some_iff {n : Nat} {key : Key} :
    function? n = some key ↔ (1 ≤ n ∧ n ≤ functionCount) ∧ ⟨289 + n⟩ = key := by
  rw [function?, Option.ite_none_right_eq_some, Option.some.injEq]

/-- What is written of a function key. -/
theorem sameName_function_iff {n : Nat} {name : String} :
    sameName ("F" ++ toString n) name = true ↔
      ∃ c, (c = 'F' ∨ c = 'f') ∧ name = .ofList (c :: Nat.toDigits 10 n) := by
  have numeral : ∀ c ∈ Nat.toDigits 10 n, c.isDigit = true :=
    fun c member => isDigit_of_mem_numeral member
  have upper : ("F" ++ toString n).map Char.toUpper = .ofList ('F' :: Nat.toDigits 10 n) := by
    have same := (Text.map_toUpper_eq_digits_iff numeral).mpr rfl
    rw [← String.toList_inj]
    simp [same]
  rw [sameName, decide_eq_true_eq, upper, ← String.toList_inj, String.toList_ofList,
    String.toList_map]
  constructor
  · intro same
    cases chars : name.toList with
    | nil => simp [chars] at same
    | cons c digits =>
      rw [chars, List.map_cons, List.cons.injEq] at same
      refine ⟨c, Text.toUpper_eq_F_iff.mp same.1.symm, ?_⟩
      rw [← String.toList_inj, String.toList_ofList, chars,
        (Text.map_toUpper_eq_digits_iff numeral).mp same.2.symm]
  · rintro ⟨c, letter, rfl⟩
    rw [String.toList_ofList, List.map_cons, Text.toUpper_eq_F_iff.mpr letter,
      (Text.map_toUpper_eq_digits_iff numeral).mpr rfl]

/-- The names of function keys are the numbered ones. -/
theorem functionByName?_eq_some_iff {name : String} {key : Key} :
    functionByName? name = some key ↔
      ∃ n, (1 ≤ n ∧ n ≤ functionCount) ∧ sameName ("F" ++ toString n) name = true ∧
        ⟨289 + n⟩ = key := by
  constructor
  · intro found
    cases chars : name.toList with
    | nil => simp [functionByName?, chars] at found
    | cons c digits =>
      have whole : name = .ofList (c :: digits) := by rw [← chars, String.ofList_toList]
      rw [whole, functionByName?_cons, Option.ite_none_right_eq_some,
        Option.bind_eq_some_iff] at found
      obtain ⟨⟨letter, leads⟩, n, read, numbered⟩ := found
      obtain ⟨range, rfl⟩ := function?_eq_some_iff.mp numbered
      cases digits with
      | nil => simp [decimal?] at read
      | cons first rest =>
        have written := toDigits_of_decimal? (by simpa using leads) read
        exact ⟨n, range, sameName_function_iff.mpr ⟨c, letter, by rw [whole, written]⟩, rfl⟩
  · rintro ⟨n, range, same, rfl⟩
    obtain ⟨c, letter, rfl⟩ := sameName_function_iff.mp same
    rw [functionByName?_cons, if_pos ⟨letter, head?_toDigits_ne_zero range.1⟩, decimal?_toDigits,
      Option.bind_some, function?_eq_some_iff]
    exact ⟨range, rfl⟩

end Key

/-! ## The vocabulary -/

namespace Combo

/-- Every name of more than one character, with what it stands for. -/
def vocabulary : List (String × Part) :=
  Modifiers.names.map (fun (name, mask) => (name, .modifiers mask)) ++
    Key.names.map (fun (name, key) => (name, .key key)) ++
    (List.range' 1 Key.functionCount).map fun n => ("F" ++ toString n, .key ⟨289 + n⟩)

/-- What a run of letters and digits stands for. -/
inductive Names : List Char → Part → Prop where
  /-- A single letter or digit is the key it is printed on. -/
  | character {c : Char} (plain : c.isAlphanum = true) : Names [c] (.key ⟨c.toUpper.toNat⟩)
  | word {token : List Char} {entry : String × Part} (long : 2 ≤ token.length)
    (known : entry ∈ vocabulary) (same : sameName entry.1 (.ofList token) = true) :
    Names token entry.2

/-- No two names differ in case only. -/
theorem vocabulary_distinct :
    (vocabulary.map fun entry => entry.1.toList.map Char.toUpper).Nodup := by
  -- Names are told apart by the numbers that their characters spell.
  apply List.Nodup.of_map fun chars => chars.foldl (fun n c => 0x100 * n + c.toNat) 0
  decide +kernel

namespace Names

variable {token : List Char} {part other : Part}

theorem unique (named : Names token part) (again : Names token other) : part = other := by
  cases named with
  | character plain =>
    cases again with
    | character => rfl
    | word long => simp at long
  | @word _ entry long known same =>
    cases again with
    | character => simp at long
    | @word _ twin _ knownTwin sameTwin =>
      simp only [sameName, decide_eq_true_eq] at same sameTwin
      have spelled := congrArg String.toList (same.trans sameTwin.symm)
      rw [String.toList_map, String.toList_map] at spelled
      rw [List.inj_on_of_nodup_map vocabulary_distinct known knownTwin spelled]

theorem of_mem (long : 2 ≤ token.length) {name : String} (known : (name, part) ∈ vocabulary)
    (same : sameName name (.ofList token) = true) : Names token part :=
  .word long known same

end Names

theorem mem_vocabulary_iff {name : String} {part : Part} :
    (name, part) ∈ vocabulary ↔
      (∃ mask, (name, mask) ∈ Modifiers.names ∧ .modifiers mask = part) ∨
        (∃ key, (name, key) ∈ Key.names ∧ .key key = part) ∨
          ∃ n, (1 ≤ n ∧ n ≤ Key.functionCount) ∧ "F" ++ toString n = name ∧
            .key ⟨289 + n⟩ = part := by
  have range (n : Nat) : n ∈ List.range' 1 Key.functionCount ↔ 1 ≤ n ∧ n ≤ Key.functionCount := by
    rw [List.mem_range'_1]
    omega
  simp [vocabulary, -List.mem_range'_1, range]

/-- What is found stands in the vocabulary. -/
theorem mem_of_modifiers {name : String} {mask : Modifiers}
    (found : Modifiers.byName? name = some mask) :
    ∃ known, (known, Part.modifiers mask) ∈ vocabulary ∧ sameName known name = true := by
  rw [Modifiers.byName?, Option.map_eq_some_iff] at found
  obtain ⟨⟨known, other⟩, first, rfl⟩ := found
  have member : (known, other) ∈ Modifiers.names := List.mem_of_find?_eq_some first
  have same := List.find?_some first
  exact ⟨known, mem_vocabulary_iff.mpr (.inl ⟨other, member, rfl⟩), same⟩

theorem mem_of_key {name : String} {key : Key} (found : Key.byName? name = some key) :
    ∃ known, (known, Part.key key) ∈ vocabulary ∧ sameName known name = true := by
  unfold Key.byName? at found
  split at found
  · rename_i known other first
    cases found
    have member : (known, key) ∈ Key.names := List.mem_of_find?_eq_some first
    have same := List.find?_some first
    exact ⟨known, mem_vocabulary_iff.mpr (.inr (.inl ⟨key, member, rfl⟩)), same⟩
  · obtain ⟨n, range, same, rfl⟩ := Key.functionByName?_eq_some_iff.mp found
    exact ⟨_, mem_vocabulary_iff.mpr (.inr (.inr ⟨n, range, rfl, rfl⟩)), same⟩

/-- What stands in the vocabulary is found. -/
theorem isSome_of_mem {known name : String} {part : Part} (member : (known, part) ∈ vocabulary)
    (same : sameName known name = true) :
    (Modifiers.byName? name).isSome = true ∨ (Key.byName? name).isSome = true := by
  rcases mem_vocabulary_iff.mp member with ⟨mask, listed, -⟩ | ⟨key, listed, -⟩ | ⟨n, range, rfl, -⟩
  · left
    rw [Modifiers.byName?, Option.isSome_map, List.find?_isSome]
    exact ⟨_, listed, same⟩
  · right
    have found : (Key.names.find? fun entry => sameName entry.1 name).isSome = true :=
      List.find?_isSome.mpr ⟨_, listed, same⟩
    unfold Key.byName?
    split
    · rfl
    · rename_i missing
      rw [missing] at found
      cases found
  · right
    unfold Key.byName?
    split
    · rfl
    · rw [Key.functionByName?_eq_some_iff.mpr ⟨n, range, same, rfl⟩]
      rfl

theorem names_of_ofToken? {token : List Char} {part : Part}
    (found : Part.ofToken? token = some part) : Names token part := by
  unfold Part.ofToken? at found
  split at found
  · rename_i c
    rw [Option.map_eq_some_iff] at found
    obtain ⟨key, printed, rfl⟩ := found
    rw [Key.ofChar?, Option.ite_none_right_eq_some] at printed
    obtain ⟨plain, same⟩ := printed
    cases same
    exact .character plain
  · rename_i several
    have long : 2 ≤ token.length := by
      cases token with
      | nil =>
        have nothing : Part.ofToken? [] = none := by decide +kernel
        cases nothing.symm.trans found
      | cons c rest =>
        cases rest with
        | nil => exact absurd rfl (several c)
        | cons => simp
    dsimp only at found
    split at found
    · rename_i mask found'
      cases found
      obtain ⟨known, member, same⟩ := mem_of_modifiers found'
      exact .of_mem long member same
    · rw [Option.map_eq_some_iff] at found
      obtain ⟨key, found, rfl⟩ := found
      obtain ⟨known, member, same⟩ := mem_of_key found
      exact .of_mem long member same

theorem Names.isSome {token : List Char} {part : Part} (named : Names token part) :
    (Part.ofToken? token).isSome = true := by
  cases named with
  | character plain => simp [Part.ofToken?, Key.ofChar?, plain]
  | word long member same =>
    unfold Part.ofToken?
    split
    · simp at long
    · dsimp only
      split
      · rfl
      · rename_i missing
        rw [Option.isSome_map]
        refine (isSome_of_mem member same).resolve_left ?_
        simp [missing]

/-- A token stands for what it names, and for nothing else. -/
theorem ofToken?_eq_some_iff {token : List Char} {part : Part} :
    Part.ofToken? token = some part ↔ Names token part := by
  refine ⟨names_of_ofToken?, fun named => ?_⟩
  obtain ⟨other, found⟩ := Option.isSome_iff_exists.mp named.isSome
  rw [found, (names_of_ofToken? found).unique named]

end Combo

end GamepadInput
