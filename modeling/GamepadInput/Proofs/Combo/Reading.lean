import GamepadInput.Proofs.Combo.Cursor
import GamepadInput.Proofs.Combo.Names
import Mathlib.Data.List.Induction
import Mathlib.Data.List.TakeWhile

/-!
# What a text says

A text is a sequence of separators, of runs of letters and digits that no letter or digit follows,
and of other characters (`Reads`), and there is one such sequence for it.  The items alone tell what
comes of the text (`Answers`): the first of them that has no place in a combination, if there is
one, or everything that the runs name.
-/

namespace GamepadInput.Combo

/-- A part of a text. -/
inductive Item where
  | separator (c : Char)
  | token (chars : List Char)
  | other (c : Char)
  deriving DecidableEq, Repr

namespace Item

def text : Item → List Char
  | separator c => [c]
  | token chars => chars
  | other c => [c]

def token? : Item → Option (List Char)
  | token chars => some chars
  | separator _ | other _ => none

/-- An item that no combination can have: a character that is not of a name and does not stand
between names, or a run of several characters that is no name in any case. -/
def offends : Item → Bool
  | separator _ => false
  | token chars =>
    2 ≤ chars.length && vocabulary.all fun entry => !sameName entry.1 (.ofList chars)
  | other _ => true

/-- What is reported of an item that offends and starts at a byte. -/
def error? (offset : Nat) : Item → Option ComboError
  | separator _ => none
  | token chars => some (.unknownToken (.ofList chars))
  | other c => some (.invalidCharacter c offset)

end Item

/-- A text is a sequence of items, its runs of letters and digits being as long as can be. -/
inductive Reads : List Char → List Item → Prop where
  | nil : Reads [] []
  | separator {c : Char} {text : List Char} {items : List Item}
    (between : isSeparator c = true) (rest : Reads text items) :
    Reads (c :: text) (.separator c :: items)
  | token {chars text : List Char} {items : List Item} (nonempty : chars ≠ [])
    (plain : ∀ c ∈ chars, c.isAlphanum = true) (ends : ∀ c ∈ text.head?, c.isAlphanum = false)
    (rest : Reads text items) : Reads (chars ++ text) (.token chars :: items)
  | other {c : Char} {text : List Char} {items : List Item}
    (between : isSeparator c = false) (plain : c.isAlphanum = false) (rest : Reads text items) :
    Reads (c :: text) (.other c :: items)

def Part.mask : Part → Modifiers
  | .modifiers held => held
  | .key _ => .none

def Part.key? : Part → Option Key
  | .modifiers _ => none
  | .key named => some named

/-- The modifiers that some parts name. -/
def masksOf (parts : List Part) : Modifiers :=
  parts.foldl (fun held part => held ||| part.mask) .none

/-- The keys that some parts name, each once, where it is first named. -/
def keysOf (parts : List Part) : List Key := (parts.filterMap Part.key?).eraseDups

/-- What comes of a text with these items. -/
inductive Answers (items : List Item) : Except ComboError Combo → Prop where
  /-- The first item that offends decides. -/
  | refused {before after : List Item} {item : Item} {error : ComboError}
    (split : items = before ++ item :: after) (first : ∀ earlier ∈ before, earlier.offends = false)
    (offends : item.offends = true)
    (reported : item.error? (byteLength (before.flatMap Item.text)) = some error) :
    Answers items (.error error)
  | empty (clean : ∀ item ∈ items, item.offends = false)
    (nothing : items.filterMap Item.token? = []) : Answers items (.error .empty)
  | combo {parts : List Part} (clean : ∀ item ∈ items, item.offends = false)
    (something : items.filterMap Item.token? ≠ [])
    (named : List.Forall₂ Names (items.filterMap Item.token?) parts) :
    Answers items (.ok ⟨masksOf parts, keysOf parts⟩)

/-! ## The items of a text -/

/-- Letters and digits do not stand between names. -/
theorem isSeparator_of_isAlphanum {c : Char} (plain : c.isAlphanum = true) :
    isSeparator c = false := by
  rw [Text.isAlphanum_iff] at plain
  have plus : '+'.toNat = 43 := rfl
  have comma : ','.toNat = 44 := rfl
  simp only [isSeparator, Text.isBlank, Text.Ranges.contains, Text.blankRanges, List.any_cons,
    List.any_nil, ← Char.toNat_inj, plus, comma]
  simp
  omega

theorem isAlphanum_of_isSeparator {c : Char} (between : isSeparator c = true) :
    c.isAlphanum = false := by
  rw [← Bool.not_eq_true]
  intro plain
  rw [isSeparator_of_isAlphanum plain] at between
  cases between

section Runs

variable {chars text : List Char} (plain : ∀ c ∈ chars, c.isAlphanum = true)

include plain

theorem isAlphanum_head {c : Char} {rest : List Char} (nonempty : chars ≠ [])
    (whole : chars ++ text = c :: rest) : c.isAlphanum = true := by
  cases chars with
  | nil => exact absurd rfl nonempty
  | cons first chars =>
    cases whole
    exact plain c (by simp)

variable (ends : ∀ c ∈ text.head?, c.isAlphanum = false)

include ends

theorem takeWhile_run : (chars ++ text).takeWhile Char.isAlphanum = chars := by
  rw [List.takeWhile_append_of_pos plain]
  cases text with
  | nil => simp
  | cons c text => simp [ends c (by simp)]

theorem dropWhile_run : (chars ++ text).dropWhile Char.isAlphanum = text := by
  rw [List.dropWhile_append_of_pos plain]
  cases text with
  | nil => rfl
  | cons c text => simp [ends c (by simp)]

end Runs

namespace Reads

variable {text chars : List Char} {c : Char} {items others : List Item}

theorem exists_items (text : List Char) : ∃ items, Reads text items := by
  induction length : text.length using Nat.strongRecOn generalizing text with
  | ind _ ih =>
    subst length
    cases text with
    | nil => exact ⟨[], .nil⟩
    | cons c text =>
      by_cases plain : c.isAlphanum = true
      · have shorter : ((c :: text).dropWhile Char.isAlphanum).length < (c :: text).length := by
          rw [List.dropWhile_cons_of_pos plain]
          exact Nat.lt_succ_of_le (List.dropWhile_sublist _).length_le
        obtain ⟨items, rest⟩ := ih _ shorter _ rfl
        have nonempty : (c :: text).takeWhile Char.isAlphanum ≠ [] := by
          simp [List.takeWhile_cons_of_pos plain]
        have ends : ∀ d ∈ ((c :: text).dropWhile Char.isAlphanum).head?, d.isAlphanum = false := by
          intro d leads
          have stops := List.head?_dropWhile_not Char.isAlphanum (c :: text)
          rw [Option.mem_def.mp leads] at stops
          exact stops
        have reads := Reads.token nonempty (fun _ member => List.mem_takeWhile_imp member) ends rest
        rw [List.takeWhile_append_dropWhile] at reads
        exact ⟨_, reads⟩
      · obtain ⟨items, rest⟩ := ih text.length (by simp) text rfl
        cases between : isSeparator c with
        | true => exact ⟨_, .separator between rest⟩
        | false => exact ⟨_, .other between (by simpa using plain) rest⟩

/-- How a text goes on that starts with one character of a kind. -/
theorem of_cons (reads : Reads (c :: text) items) (plain : c.isAlphanum = false) :
    ∃ rest, Reads text rest ∧
      items = (if isSeparator c then .separator c else .other c) :: rest := by
  generalize whole : c :: text = input at reads
  cases reads with
  | nil => cases whole
  | separator between rest =>
    cases whole
    exact ⟨_, rest, by rw [if_pos between]⟩
  | token nonempty run =>
    rw [isAlphanum_head run nonempty whole.symm] at plain
    cases plain
  | other between plain rest =>
    cases whole
    exact ⟨_, rest, by simp [between]⟩

/-- How a text goes on that starts with a run. -/
theorem of_run (nonempty : chars ≠ []) (plain : ∀ c ∈ chars, c.isAlphanum = true)
    (ends : ∀ c ∈ text.head?, c.isAlphanum = false) (reads : Reads (chars ++ text) items) :
    ∃ rest, Reads text rest ∧ items = .token chars :: rest := by
  generalize whole : chars ++ text = input at reads
  cases reads with
  | nil => exact absurd (List.append_eq_nil_iff.mp whole).1 nonempty
  | separator between =>
    rw [isSeparator_of_isAlphanum (isAlphanum_head plain nonempty whole)] at between
    cases between
  | token _ run stops rest =>
    have same := congrArg (List.takeWhile Char.isAlphanum) whole
    have left := congrArg (List.dropWhile Char.isAlphanum) whole
    rw [takeWhile_run plain ends, takeWhile_run run stops] at same
    rw [dropWhile_run plain ends, dropWhile_run run stops] at left
    subst same left
    exact ⟨_, rest, rfl⟩
  | other _ breaks =>
    rw [isAlphanum_head plain nonempty whole] at breaks
    cases breaks

/-- A text has one sequence of items. -/
theorem unique (reads : Reads text items) (again : Reads text others) : others = items := by
  induction reads generalizing others with
  | nil =>
    generalize whole : ([] : List Char) = input at again
    cases again with
    | nil => rfl
    | separator | other => cases whole
    | token nonempty => exact absurd (List.append_eq_nil_iff.mp whole.symm).1 nonempty
  | @separator c text items between rest ih =>
    obtain ⟨left, there, rfl⟩ := again.of_cons (isAlphanum_of_isSeparator between)
    rw [ih there, if_pos between]
  | token nonempty plain ends rest ih =>
    obtain ⟨left, there, rfl⟩ := again.of_run nonempty plain ends
    rw [ih there]
  | other between plain rest ih =>
    obtain ⟨left, there, rfl⟩ := again.of_cons plain
    rw [ih there]
    simp [between]

end Reads

/-! ## One item -/

section Steps

variable (combo : Combo) (offset : Nat) {c : Char} {chars text : List Char}

theorem read_separator (between : isSeparator c = true) :
    combo.read offset (c :: text) = combo.read (offset + c.utf8Size) text := by
  rw [read, if_pos between]

theorem read_other (between : isSeparator c = false) (plain : c.isAlphanum = false) :
    combo.read offset (c :: text) = .error (.invalidCharacter c offset) := by
  rw [read]
  simp [between, plain]

theorem read_token (nonempty : chars ≠ []) (plain : ∀ c ∈ chars, c.isAlphanum = true)
    (ends : ∀ c ∈ text.head?, c.isAlphanum = false) :
    combo.read offset (chars ++ text) =
      match Part.ofToken? chars with
      | some part => (combo.add part).read (offset + byteLength chars) text
      | none => .error (.unknownToken (.ofList chars)) := by
  have run := takeWhile_run plain ends
  have left := dropWhile_run plain ends
  cases chars with
  | nil => exact absurd rfl nonempty
  | cons c chars =>
    have first := plain c (by simp)
    rw [List.cons_append] at run left ⊢
    rw [List.takeWhile_cons_of_pos first] at run
    rw [List.dropWhile_cons_of_pos first] at left
    rw [read]
    cases named : Part.ofToken? (c :: chars) <;>
      simp only [isSeparator_of_isAlphanum first, first, run, left, named, Bool.false_eq_true,
        if_false, if_true]

end Steps

/-- A run offends just if it names nothing. -/
theorem offends_token_iff {chars : List Char} (nonempty : chars ≠ [])
    (plain : ∀ c ∈ chars, c.isAlphanum = true) :
    (Item.token chars).offends = false ↔ ∃ part, Names chars part := by
  simp only [Item.offends, Bool.and_eq_false_iff, decide_eq_false_iff_not, List.all_eq_false,
    Bool.not_eq_true', Bool.not_eq_false]
  constructor
  · rintro (short | ⟨entry, known, same⟩)
    · match chars, nonempty, short with
      | [c], _, _ => exact ⟨_, .character (plain c (by simp))⟩
      | _ :: _ :: _, _, short => simp at short
    · match chars, nonempty with
      | [c], _ => exact ⟨_, .character (plain c (by simp))⟩
      | _ :: _ :: _, _ => exact ⟨_, .word (by simp) known same⟩
  · rintro ⟨part, named⟩
    cases named with
    | character => simp
    | word long known same => exact .inr ⟨_, known, same⟩

/-! ## Texts without an offence -/

section Clean

variable {text : List Char} {items : List Item} (reads : Reads text items)
  (clean : ∀ item ∈ items, item.offends = false)

include reads clean

theorem exists_parts : ∃ parts, List.Forall₂ Names (items.filterMap Item.token?) parts := by
  induction reads with
  | nil => exact ⟨[], .nil⟩
  | separator _ _ ih | other _ _ _ ih => exact ih fun item member => clean item (by simp [member])
  | token nonempty plain _ _ ih =>
    obtain ⟨part, named⟩ := (offends_token_iff nonempty plain).mp (clean _ (by simp))
    obtain ⟨parts, rest⟩ := ih fun item member => clean item (by simp [member])
    exact ⟨part :: parts, .cons named rest⟩

/-- Every name is added in turn. -/
theorem read_clean {parts : List Part}
    (named : List.Forall₂ Names (items.filterMap Item.token?) parts) (combo : Combo)
    (offset : Nat) : combo.read offset text = .ok (parts.foldl add combo) := by
  induction reads generalizing parts combo offset with
  | nil =>
    cases named
    rw [read]
    rfl
  | separator between _ ih =>
    rw [read_separator combo offset between]
    exact ih (fun item member => clean item (by simp [member])) named _ _
  | token nonempty plain ends _ ih =>
    cases named with
    | cons first rest =>
      rw [read_token combo offset nonempty plain ends, ofToken?_eq_some_iff.mpr first]
      exact ih (fun item member => clean item (by simp [member])) rest _ _
  | other => cases clean _ List.mem_cons_self

end Clean

/-! ## Texts with an offence -/

/-- The first item that offends ends the reading. -/
theorem read_refused {text : List Char} {items before after : List Item} {item : Item}
    {error : ComboError} (reads : Reads text items) (split : items = before ++ item :: after)
    (first : ∀ earlier ∈ before, earlier.offends = false) (offends : item.offends = true)
    (combo : Combo) (offset : Nat)
    (reported : item.error? (offset + byteLength (before.flatMap Item.text)) = some error) :
    combo.read offset text = .error error := by
  induction reads generalizing before combo offset with
  | nil => simp at split
  | separator between rest ih =>
    cases before with
    | nil =>
      cases split
      cases offends
    | cons earlier before =>
      cases split
      rw [read_separator combo offset between]
      refine ih rfl (fun item member => first item (by simp [member])) _ _ ?_
      simpa [Item.text, Nat.add_assoc] using reported
  | @token chars text items nonempty plain ends rest ih =>
    rw [read_token combo offset nonempty plain ends]
    cases before with
    | nil =>
      cases split
      have nameless : Part.ofToken? chars = none := by
        rw [Option.eq_none_iff_forall_ne_some]
        intro part found
        have clean := (offends_token_iff nonempty plain).mpr ⟨part, ofToken?_eq_some_iff.mp found⟩
        rw [offends] at clean
        cases clean
      rw [nameless]
      simpa [Item.error?] using reported
    | cons earlier before =>
      cases split
      obtain ⟨part, named⟩ := (offends_token_iff nonempty plain).mp (first _ (by simp))
      rw [ofToken?_eq_some_iff.mpr named]
      refine ih rfl (fun item member => first item (by simp [member])) _ _ ?_
      simpa [Item.text, Nat.add_assoc] using reported
  | other between plain rest ih =>
    rw [read_other combo offset between plain]
    cases before with
    | nil =>
      cases split
      simpa [Item.error?] using reported
    | cons earlier before =>
      cases split
      cases first _ List.mem_cons_self

/-! ## What is collected -/

theorem eraseDups_concat (keys : List Key) (key : Key) :
    (keys ++ [key]).eraseDups =
      if key ∈ keys then keys.eraseDups else keys.eraseDups ++ [key] := by
  rw [List.eraseDups_append]
  by_cases known : key ∈ keys <;> simp [List.removeAll, List.eraseDups_cons, known]

/-- Adding parts one by one collects the modifiers and the keys that they name. -/
theorem foldl_add (parts : List Part) : parts.foldl add empty = ⟨masksOf parts, keysOf parts⟩ := by
  induction parts using List.reverseRecOn with
  | nil => rfl
  | append_singleton parts part ih =>
    rw [List.foldl_append, ih]
    cases part with
    | modifiers mask =>
      have keys : keysOf (parts ++ [.modifiers mask]) = keysOf parts := by
        simp only [keysOf, List.filterMap_append, List.filterMap_cons, List.filterMap_nil,
          Part.key?, List.append_nil]
      simp [add, addModifiers, masksOf, Part.mask, keys]
    | key key =>
      have keys : keysOf (parts ++ [.key key]) =
          if key ∈ keysOf parts then keysOf parts else keysOf parts ++ [key] := by
        simp only [keysOf, List.filterMap_append, List.filterMap_cons, List.filterMap_nil,
          Part.key?, eraseDups_concat, List.mem_eraseDups]
      by_cases known : key ∈ keysOf parts <;> simp [add, addKey, known, masksOf, Part.mask, keys]

/-- A name holds something. -/
theorem mask_ne_none_of_names {token : List Char} {part : Part} (named : Names token part)
    (nameless : part.key? = none) : part.mask ≠ .none := by
  have held : ∀ entry ∈ Modifiers.names, entry.2 ≠ Modifiers.none := by decide
  cases named with
  | character => cases nameless
  | @word _ entry _ known =>
    obtain ⟨name, part⟩ := entry
    rcases mem_vocabulary_iff.mp known with ⟨mask, listed, rfl⟩ | ⟨key, -, rfl⟩ | ⟨n, -, -, rfl⟩
    · exact held _ listed
    · cases nameless
    · cases nameless

theorem or_eq_none_iff (a b : Modifiers) : a ||| b = .none ↔ a = .none ∧ b = .none := by
  cases a
  cases b
  simp [Modifiers.or_def, Modifiers.none, BitVec.or_eq_zero_iff]

theorem masksOf_eq_none_iff (parts : List Part) :
    masksOf parts = .none ↔ ∀ part ∈ parts, part.mask = .none := by
  induction parts using List.reverseRecOn with
  | nil => simp [masksOf]
  | append_singleton parts part ih =>
    have last : masksOf (parts ++ [part]) = masksOf parts ||| part.mask := by simp [masksOf]
    rw [last, or_eq_none_iff, ih]
    simp [or_imp, forall_and]

/-- A combination is empty just if nothing was named. -/
theorem isEmpty_iff {tokens : List (List Char)} {parts : List Part}
    (named : List.Forall₂ Names tokens parts) :
    (Combo.mk (masksOf parts) (keysOf parts)).isEmpty = true ↔ tokens = [] := by
  cases named with
  | nil => simp [isEmpty, masksOf, keysOf]
  | @cons token part tokens parts first rest =>
    have some_ : (Combo.mk (masksOf (part :: parts)) (keysOf (part :: parts))).isEmpty = false := by
      cases key : part.key? with
      | none =>
        have held : masksOf (part :: parts) ≠ .none := by
          rw [ne_eq, masksOf_eq_none_iff]
          intro clear
          exact mask_ne_none_of_names first key (clear part (by simp))
        simp [isEmpty, held]
      | some key => simp [isEmpty, keysOf, key, List.eraseDups_cons]
    simp [some_]

/-! ## The whole text -/

/-- There is an answer to every text. -/
theorem exists_answer {text : List Char} {items : List Item} (reads : Reads text items) :
    ∃ result, Answers items result := by
  cases offence : items.find? Item.offends with
  | none =>
    have clean : ∀ item ∈ items, item.offends = false := by simpa using offence
    obtain ⟨parts, named⟩ := exists_parts reads clean
    by_cases nothing : items.filterMap Item.token? = []
    · exact ⟨_, .empty clean nothing⟩
    · exact ⟨_, .combo clean nothing named⟩
  | some item =>
    rw [List.find?_eq_some_iff_append] at offence
    obtain ⟨offends, before, after, split, first⟩ := offence
    have clean : ∀ earlier ∈ before, earlier.offends = false := by simpa using first
    cases item with
    | separator => cases offends
    | token | other => exact ⟨_, .refused split clean offends rfl⟩

/-- The text is parsed to the answer of its items. -/
theorem parse_of_answers {text : String} {items : List Item} {result : Except ComboError Combo}
    (reads : Reads text.toList items) (answers : Answers items result) : parse text = result := by
  cases answers with
  | refused split first offends reported =>
    have refused := read_refused reads split first offends empty 0 (by simpa using reported)
    simp [parse, refused, bind, Except.bind]
  | empty clean nothing =>
    obtain ⟨parts, named⟩ := exists_parts reads clean
    have found := read_clean reads clean named empty 0
    rw [foldl_add] at found
    simp [parse, found, bind, Except.bind, (isEmpty_iff named).mpr nothing]
  | combo clean something named =>
    have found := read_clean reads clean named empty 0
    rw [foldl_add] at found
    simp [parse, found, bind, Except.bind, isEmpty_iff named, something]

/-- A text is parsed to what its items answer, and reading it by byte offsets cuts it between
characters only. -/
theorem parse_answers (text : String) :
    scan? text.toList empty 0 = some (empty.read 0 text.toList) ∧
      ∃ items, Reads text.toList items ∧ (∀ others, Reads text.toList others → others = items) ∧
        ∀ result, parse text = result ↔ Answers items result := by
  refine ⟨@scan?_eq [] text.toList empty 0 rfl, ?_⟩
  obtain ⟨items, reads⟩ := Reads.exists_items text.toList
  refine ⟨items, reads, fun others again => reads.unique again, fun result => ?_⟩
  constructor
  · rintro rfl
    obtain ⟨result, answers⟩ := exists_answer reads
    rwa [parse_of_answers reads answers]
  · exact parse_of_answers reads

/-- The offset is in bytes, and the earlier of two errors counts. -/
example : parse "a\u3000é+foo" = .error (.invalidCharacter 'é' 4) := by decide +kernel

end GamepadInput.Combo
