import GamepadInput.Proofs.Combo.Spelling
import Mathlib.Data.List.Perm.Basic

/-!
# Texts joined by a separator

No run of letters and digits reaches over a separator, so a text in two parts is read part after
part (`read_append`), and what was read before the second part only adds to it (`read_union`).  Two
texts with a separator between them therefore come to what their two answers come to
(`parse_joined`).
-/

namespace GamepadInput

/-- The error as it is reported when `bytes` stand before the text. -/
def ComboError.shift (bytes : Nat) : ComboError → ComboError
  | .invalidCharacter char offset => .invalidCharacter char (bytes + offset)
  | .empty => .empty
  | .unknownToken token => .unknownToken token

namespace Combo

/-- Both combinations as one.  A key that both have stays where the first has it. -/
def union (first second : Combo) : Combo :=
  ⟨first.modifiers ||| second.modifiers, first.keys ++ second.keys.filter (· ∉ first.keys)⟩

/-- The answer to a text, with the empty combination for a text that names nothing. -/
def lenient : Except ComboError Combo → Except ComboError Combo
  | .error .empty => .ok empty
  | answer => answer

/-- Two combinations as one, or the first error; the second is found after `bytes`. -/
def merged (bytes : Nat) (first second : Except ComboError Combo) : Except ComboError Combo := do
  let before ← first
  let after ← second.mapError (·.shift bytes)
  pure (before.union after)

/-- What the answers to two texts come to when `bytes` stand before the second. -/
def joined (bytes : Nat) (first second : Except ComboError Combo) : Except ComboError Combo :=
  match first, second with
  | .error .empty, .error .empty => .error .empty
  | _, _ => merged bytes (lenient first) (lenient second)

/-! ## Combinations put together -/

@[simp] theorem union_empty (combo : Combo) : combo.union empty = combo := by
  simp [union, empty]

theorem isEmpty_iff_eq {combo : Combo} : combo.isEmpty = true ↔ combo = empty := by
  cases combo
  simp [isEmpty, empty]

theorem union_eq_empty_iff {first second : Combo} :
    first.union second = empty ↔ first = empty ∧ second = empty := by
  constructor
  · intro nothing
    have masks : first.modifiers ||| second.modifiers = .none := congrArg modifiers nothing
    have keys : first.keys ++ second.keys.filter (· ∉ first.keys) = [] :=
      congrArg Combo.keys nothing
    obtain ⟨clear, clear'⟩ := (or_eq_none_iff _ _).mp masks
    obtain ⟨keyless, rest⟩ := List.append_eq_nil_iff.mp keys
    have keyless' : second.keys = [] := by simpa [keyless] using rest
    cases first
    cases second
    simp_all [empty]
  · rintro ⟨rfl, rfl⟩
    exact union_empty empty

/-- A name that is added last is added to the second of two combinations. -/
theorem union_add (first second : Combo) (part : Part) :
    (first.union second).add part = first.union (second.add part) := by
  cases part with
  | modifiers mask => simp [add, addModifiers, union, Modifiers.or_assoc]
  | key key =>
    by_cases before : key ∈ first.keys
    · by_cases after : key ∈ second.keys <;> simp [add, addKey, union, before, after]
    · by_cases after : key ∈ second.keys <;> simp [add, addKey, union, before, after]

theorem nodup_add {combo : Combo} (distinct : combo.keys.Nodup) (part : Part) :
    (combo.add part).keys.Nodup := by
  cases part with
  | modifiers mask => exact distinct
  | key key =>
    simp only [add, addKey]
    split
    · exact distinct
    · rename_i fresh
      rw [← List.concat_eq_append]
      exact distinct.concat fresh

/-! ## Reading in two parts -/

section Reading

variable {text : List Char} {items : List Item} (reads : Reads text items)

include reads

/-- Reading what names nothing is no error. -/
theorem read_ne_empty (combo : Combo) (offset : Nat) : combo.read offset text ≠ .error .empty := by
  induction reads generalizing combo offset with
  | nil => simp [read]
  | separator between _ ih =>
    rw [read_separator combo offset between]
    exact ih combo _
  | token nonempty plain ends _ ih =>
    rw [read_token combo offset nonempty plain ends]
    split
    · exact ih _ _
    · simp
  | other between plain _ _ =>
    rw [read_other combo offset between plain]
    simp

theorem nodup_read {combo result : Combo} {offset : Nat} (distinct : combo.keys.Nodup)
    (done : combo.read offset text = .ok result) : result.keys.Nodup := by
  induction reads generalizing combo offset with
  | nil =>
    rw [read] at done
    cases done
    exact distinct
  | separator between _ ih =>
    rw [read_separator combo offset between] at done
    exact ih distinct done
  | token nonempty plain ends _ ih =>
    rw [read_token combo offset nonempty plain ends] at done
    split at done
    · exact ih (nodup_add distinct _) done
    · cases done
  | other between plain _ _ =>
    rw [read_other combo offset between plain] at done
    cases done

/-- What was read before a text, and the bytes before it, do not change what the text names. -/
theorem read_union (first second : Combo) (bytes offset : Nat) :
    (first.union second).read (bytes + offset) text =
      ((second.read offset text).mapError (·.shift bytes)).map first.union := by
  induction reads generalizing second offset with
  | nil =>
    rw [read, read]
    rfl
  | separator between _ ih =>
    rw [read_separator _ _ between, read_separator _ _ between, Nat.add_assoc]
    exact ih second _
  | token nonempty plain ends _ ih =>
    rw [read_token _ _ nonempty plain ends, read_token _ _ nonempty plain ends]
    split
    · rw [union_add, Nat.add_assoc]
      exact ih _ _
    · rfl
  | other between plain _ _ =>
    rw [read_other _ _ between plain, read_other _ _ between plain]
    rfl

/-- A separator ends whatever is read before it. -/
theorem read_append {c : Char} (between : isSeparator c = true) (second : List Char)
    (combo : Combo) (offset : Nat) :
    combo.read offset (text ++ c :: second) =
      (combo.read offset text).bind
        (·.read (offset + byteLength (text ++ [c])) second) := by
  induction reads generalizing combo offset with
  | nil =>
    rw [List.nil_append, read_separator _ _ between, read]
    rfl
  | @separator d text items leads rest ih =>
    rw [List.cons_append, read_separator _ _ leads, read_separator _ _ leads, ih]
    simp only [byteLength_append, byteLength_cons, Nat.add_assoc, List.cons_append]
  | @token chars text items nonempty plain ends rest ih =>
    -- the run ends where it ended, or at the separator
    have stops : ∀ d ∈ (text ++ c :: second).head?, d.isAlphanum = false := by
      cases text with
      | nil =>
        intro d first
        cases first
        exact isAlphanum_of_isSeparator between
      | cons d text => exact ends
    rw [List.append_assoc, read_token _ _ nonempty plain stops, read_token _ _ nonempty plain ends]
    split
    · rw [ih]
      simp only [byteLength_append, Nat.add_assoc]
    · rfl
  | other leads plain rest ih =>
    rw [List.cons_append, read_other _ _ leads plain, read_other _ _ leads plain]
    rfl

end Reading

/-! ## Whole texts -/

/-- The answer to a text is what was read, if anything was. -/
theorem parse_eq (text : String) :
    parse text = (empty.read 0 text.toList).bind
      fun combo => if combo = empty then .error .empty else .ok combo := by
  simp only [parse, isEmpty_iff_eq]
  rfl

theorem lenient_parse (text : String) : lenient (parse text) = empty.read 0 text.toList := by
  obtain ⟨items, reads⟩ := Reads.exists_items text.toList
  have named := read_ne_empty reads empty 0
  rw [parse_eq]
  cases done : empty.read 0 text.toList with
  | ok combo =>
    simp only [Except.bind]
    split
    · rename_i nothing
      rw [nothing]
      rfl
    · rfl
  | error cause =>
    cases cause with
    | empty => exact absurd done named
    | unknownToken | invalidCharacter => rfl

theorem parse_eq_ok_iff {text : String} {combo : Combo} :
    parse text = .ok combo ↔ empty.read 0 text.toList = .ok combo ∧ combo ≠ empty := by
  rw [parse_eq]
  cases empty.read 0 text.toList with
  | error cause => simp [Except.bind]
  | ok read =>
    simp only [Except.bind, Except.ok.injEq]
    split
    · rename_i nothing
      simp_all [eq_comm]
    · rename_i something
      constructor
      · rintro ⟨⟩
        exact ⟨rfl, something⟩
      · rintro ⟨rfl, -⟩
        rfl

/-- What was read of two texts with a separator between them. -/
theorem read_join (first second : String) {c : Char} (between : isSeparator c = true) :
    empty.read 0 (first ++ .singleton c ++ second).toList =
      merged (first ++ .singleton c).utf8ByteSize (lenient (parse first))
        (lenient (parse second)) := by
  obtain ⟨items, reads⟩ := Reads.exists_items first.toList
  obtain ⟨others, onward⟩ := Reads.exists_items second.toList
  have bytes : (first ++ String.singleton c).utf8ByteSize = byteLength (first.toList ++ [c]) := by
    rw [byteLength_eq, ← String.toList_singleton, ← String.toList_append, String.ofList_toList]
  have whole : (first ++ String.singleton c ++ second).toList =
      first.toList ++ c :: second.toList := by
    simp
  rw [lenient_parse, lenient_parse, bytes, whole, read_append reads between]
  congr 1
  funext before
  have after := read_union onward before empty (byteLength (first.toList ++ [c])) 0
  rw [union_empty, Nat.add_zero] at after
  rw [Nat.zero_add, after]
  cases (empty.read 0 second.toList).mapError
    (·.shift (byteLength (first.toList ++ [c]))) <;> rfl

/-- Two texts with a separator between them are parsed to what their answers come to. -/
theorem parse_joined (first second : String) {c : Char} (between : isSeparator c = true) :
    parse (first ++ .singleton c ++ second) =
      joined (first ++ .singleton c).utf8ByteSize (parse first) (parse second) := by
  rw [parse_eq, read_join first second between]
  cases before : parse first with
  | error cause =>
    cases cause with
    | unknownToken | invalidCharacter => rfl
    | empty =>
      cases after : parse second with
      | error cause => cases cause <;> rfl
      | ok combo =>
        have something := (parse_eq_ok_iff.mp after).2
        exact if_neg fun nothing => something (union_eq_empty_iff.mp nothing).2
  | ok combo =>
    have something := (parse_eq_ok_iff.mp before).2
    cases after : parse second with
    | error cause =>
      cases cause with
      | unknownToken | invalidCharacter => rfl
      | empty => exact if_neg fun nothing => something (union_eq_empty_iff.mp nothing).1
    | ok other => exact if_neg fun nothing => something (union_eq_empty_iff.mp nothing).1

theorem nodup_parse {text : String} {combo : Combo} (accepted : parse text = .ok combo) :
    combo.keys.Nodup := by
  obtain ⟨items, reads⟩ := Reads.exists_items text.toList
  exact nodup_read reads List.nodup_nil (parse_eq_ok_iff.mp accepted).1

/-! ## Names in another order -/

theorem masksOf_perm {parts others : List Part} (same : parts.Perm others) :
    masksOf parts = masksOf others := by
  refine same.foldl_eq' (fun part _ other _ held => ?_) Modifiers.none
  rw [Modifiers.or_assoc, Modifiers.or_comm part.mask, ← Modifiers.or_assoc]

theorem eq_filterMap_of_names {tokens : List (List Char)} {parts : List Part}
    (named : List.Forall₂ Names tokens parts) : parts = tokens.filterMap Part.ofToken? := by
  induction named with
  | nil => rfl
  | cons first _ ih => rw [List.filterMap_cons_some (ofToken?_eq_some_iff.mpr first), ← ih]

/-- What an accepted text is made of. -/
theorem answers_of_parse {text : String} {items : List Item} {combo : Combo}
    (reads : Reads text.toList items) (accepted : parse text = .ok combo) :
    (∀ item ∈ items, item.offends = false) ∧ items.filterMap Item.token? ≠ [] ∧
      ∃ parts, List.Forall₂ Names (items.filterMap Item.token?) parts ∧
        combo = ⟨masksOf parts, keysOf parts⟩ := by
  obtain ⟨result, answers⟩ := exists_answer reads
  rw [parse_of_answers reads answers] at accepted
  cases answers with
  | refused | empty => cases accepted
  | combo clean something named =>
    cases accepted
    exact ⟨clean, something, _, named, rfl⟩

/-- The names of an accepted text are accepted in any order and among any separators, and the
modifiers stay the same. -/
theorem parse_reordered {text other : String} {items others : List Item} {combo : Combo}
    (reads : Reads text.toList items) (again : Reads other.toList others)
    (accepted : parse text = .ok combo)
    (same : (items.filterMap Item.token?).Perm (others.filterMap Item.token?))
    (plain : ∀ c, .other c ∉ others) :
    ∃ reordered, parse other = .ok reordered ∧ reordered.modifiers = combo.modifiers := by
  obtain ⟨clean, something, parts, named, rfl⟩ := answers_of_parse reads accepted
  have clean' : ∀ item ∈ others, item.offends = false := by
    intro item member
    cases item with
    | separator c => rfl
    | other c => exact absurd member (plain c)
    | token chars =>
      have listed : chars ∈ others.filterMap Item.token? :=
        List.mem_filterMap.mpr ⟨_, member, rfl⟩
      obtain ⟨twin, there, is_⟩ := List.mem_filterMap.mp (same.mem_iff.mpr listed)
      cases twin with
      | separator | other => cases is_
      | token => cases is_; exact clean _ there
  have something' : others.filterMap Item.token? ≠ [] := by
    rintro nothing
    rw [nothing, List.perm_nil] at same
    exact something same
  obtain ⟨parts', named'⟩ := exists_parts again clean'
  refine ⟨_, parse_of_answers again (.combo clean' something' named'), ?_⟩
  rw [eq_filterMap_of_names named, eq_filterMap_of_names named']
  exact (masksOf_perm (same.filterMap _)).symm

/-- A text in two parts with a separator between them says what its parts say, one after the other.
So the keys of a combination never repeat, and its modifiers do not depend on the order of the
names. -/
theorem parse_separated :
    (∀ (first second : String) (c : Char), isSeparator c = true →
      parse (first ++ .singleton c ++ second) =
        joined (first ++ .singleton c).utf8ByteSize (parse first) (parse second)) ∧
    (∀ text combo, parse text = .ok combo → combo.keys.Nodup) ∧
    ∀ (text other : String) (items others : List Item) (combo : Combo),
      Reads text.toList items → Reads other.toList others → parse text = .ok combo →
      (items.filterMap Item.token?).Perm (others.filterMap Item.token?) →
      (∀ c, .other c ∉ others) →
      ∃ reordered, parse other = .ok reordered ∧ reordered.modifiers = combo.modifiers :=
  ⟨fun first second _ between => parse_joined first second between, fun _ _ => nodup_parse,
    fun _ _ _ _ _ => parse_reordered⟩

/-- A key that both parts name, an error behind characters of several bytes, and two names turned
round. -/
theorem parse_separated_mixed :
    parse ("b" ++ .singleton '\u3000' ++ "c,B") =
        .ok ⟨.none, [⟨'B'.toNat⟩, ⟨'C'.toNat⟩]⟩ ∧
      parse ("a\u3000" ++ .singleton ',' ++ "é") = .error (.invalidCharacter 'é' 5) ∧
      [Key.mk 'C'.toNat, ⟨'B'.toNat⟩].Nodup ∧
      ∃ reordered, parse "a,ctrl" = .ok reordered ∧ reordered.modifiers = .ctrl := by
  obtain ⟨splits, distinct, reorders⟩ := parse_separated
  refine ⟨?_, ?_, ?_, ?_⟩
  · rw [splits _ _ _ (by decide)]
    decide +kernel
  · rw [splits _ _ _ (by decide)]
    decide +kernel
  · have accepted : parse "c,B" = .ok ⟨.none, [⟨'C'.toNat⟩, ⟨'B'.toNat⟩]⟩ := by decide +kernel
    exact distinct _ _ accepted
  · let name := ['c', 't', 'r', 'l']
    have plain : ∀ c ∈ name, c.isAlphanum = true := List.all_eq_true.mp (by decide)
    have letter : ∀ c ∈ ['a'], c.isAlphanum = true := List.all_eq_true.mp (by decide)
    have reads : Reads "ctrl+a".toList [.token name, .separator '+', .token ['a']] :=
      @Reads.token name ['+', 'a'] _ (by simp [name]) plain (fun c first => by cases first; decide)
        (.separator (by decide) (@Reads.token ['a'] [] _ (by simp) letter nofun .nil))
    have again : Reads "a,ctrl".toList [.token ['a'], .separator ',', .token name] :=
      @Reads.token ['a'] [',', 'c', 't', 'r', 'l'] _ (by simp) letter
        (fun c first => by cases first; decide)
        (.separator (by decide) (@Reads.token name [] _ (by simp [name]) plain nofun .nil))
    have spelled : List.Forall₂ Spells [.modifiers .ctrl, .key ⟨'A'.toNat⟩] ["ctrl", "a"] :=
      .cons (@Spells.modifiers "CTRL" _ _ (by simp [Modifiers.names])
        (sameName_iff.mpr (by decide))) (.cons (@Spells.character 'a' _ (by decide)) .nil)
    have accepted : parse "ctrl+a" = .ok ⟨.ctrl, [⟨'A'.toNat⟩]⟩ :=
      parse_of_writes (by decide) (.words spelled
        (@Joins.cons "ctrl" "+" "a" _ (by decide) (List.all_eq_true.mp (by decide)) (.single "a"))
        rfl rfl)
    exact reorders _ _ _ _ _ reads again accepted (List.Perm.swap ['a'] name []) (by simp)

end Combo

end GamepadInput
