import GamepadInput.Proofs.Combo.Reading
import Mathlib.Data.List.Forall2

/-!
# Writing a combination

Every combination of named keys and of the four modifiers can be written down, and in many ways: the
names in any case, the modifiers anywhere among the keys, any separators between the names.
However it is written, it is read back as it was (`parse_written`).
-/

namespace GamepadInput

/-- A letter, a digit, a key of the table of names, or a function key. -/
def Key.IsNamed (key : Key) : Prop :=
  (∃ c, ofChar? c = some key) ∨ (∃ name, (name, key) ∈ names) ∨ ∃ n, function? n = some key

namespace Combo

/-- A word that names a part, in any case. -/
inductive Spells : Part → String → Prop where
  | modifiers {name word : String} {mask : Modifiers} (listed : (name, mask) ∈ Modifiers.names)
    (same : sameName name word = true) : Spells (.modifiers mask) word
  | character {c : Char} {key : Key} (printed : Key.ofChar? c = some key) :
    Spells (.key key) (.singleton c)
  | key {name word : String} {key : Key} (listed : (name, key) ∈ Key.names)
    (same : sameName name word = true) : Spells (.key key) word
  | function {n : Nat} {word : String} {key : Key} (numbered : Key.function? n = some key)
    (same : sameName ("F" ++ toString n) word = true) : Spells (.key key) word

/-- A text of some words, with separators between any two. -/
inductive Joins : List String → String → Prop where
  | single (word : String) : Joins [word] word
  | cons {word run text : String} {words : List String} (nonempty : run ≠ "")
    (between : ∀ c ∈ run.toList, isSeparator c = true) (rest : Joins words text) :
    Joins (word :: words) (word ++ run ++ text)

/-- A text of words that name modifiers, which make up the mask, and the keys in their order. -/
inductive Writes (combo : Combo) (text : String) : Prop where
  | words {parts : List Part} {words : List String} (spelled : List.Forall₂ Spells parts words)
    (joins : Joins words text) (mask : masksOf parts = combo.modifiers)
    (keys : parts.filterMap Part.key? = combo.keys)

/-! ## Words -/

theorem sameName_iff {name word : String} :
    sameName name word = true ↔
      name.toList.map Char.toUpper = word.toList.map Char.toUpper := by
  rw [sameName, decide_eq_true_eq, ← String.toList_inj, String.toList_map, String.toList_map]

theorem sameName_self (name : String) : sameName name name = true := sameName_iff.mpr rfl

theorem isAlphanum_of_toUpper {c d : Char} (same : c.toUpper = d.toUpper)
    (plain : c.isAlphanum = true) : d.isAlphanum = true := by
  have codes := congrArg Char.toNat same
  rw [Text.toNat_toUpper, Text.toNat_toUpper] at codes
  rw [Text.isAlphanum_iff] at plain ⊢
  split at codes <;> split at codes <;> omega

/-- The names of more than one character are of letters and digits. -/
theorem vocabulary_plain : ∀ entry ∈ vocabulary,
    2 ≤ entry.1.toList.length ∧ entry.1.toList.all Char.isAlphanum = true := by
  decide +kernel

/-- A name stays as long as it is, and of letters and digits, in another case. -/
theorem plain_of_sameName {name word : String} {part : Part} (known : (name, part) ∈ vocabulary)
    (same : sameName name word = true) :
    2 ≤ word.toList.length ∧ ∀ c ∈ word.toList, c.isAlphanum = true := by
  obtain ⟨long, plain⟩ := vocabulary_plain _ known
  rw [sameName_iff] at same
  constructor
  · have lengths := congrArg List.length same
    rw [List.length_map, List.length_map] at lengths
    rwa [← lengths]
  · intro d member
    have image : d.toUpper ∈ name.toList.map Char.toUpper := by
      rw [same]
      exact List.mem_map_of_mem member
    obtain ⟨c, listed, upper⟩ := List.mem_map.mp image
    exact isAlphanum_of_toUpper upper (List.all_eq_true.mp plain c listed)

/-- A name of the vocabulary, in any case, is read as what it stands for. -/
theorem names_of_sameName {name word : String} {part : Part} (known : (name, part) ∈ vocabulary)
    (same : sameName name word = true) : Names word.toList part :=
  .of_mem (plain_of_sameName known same).1 known (by rwa [String.ofList_toList])

namespace Spells

variable {part : Part} {word : String}

/-- A word is in the vocabulary, in some case, or a single letter or digit. -/
theorem cases_vocabulary (spells : Spells part word) :
    (∃ name, (name, part) ∈ vocabulary ∧ sameName name word = true) ∨
      ∃ c, c.isAlphanum = true ∧ word = .singleton c ∧ part = .key ⟨c.toUpper.toNat⟩ := by
  cases spells with
  | modifiers listed same =>
    exact .inl ⟨_, mem_vocabulary_iff.mpr (.inl ⟨_, listed, rfl⟩), same⟩
  | character printed =>
    rw [Key.ofChar?, Option.ite_none_right_eq_some, Option.some.injEq] at printed
    obtain ⟨plain, rfl⟩ := printed
    exact .inr ⟨_, plain, rfl, rfl⟩
  | key listed same =>
    exact .inl ⟨_, mem_vocabulary_iff.mpr (.inr (.inl ⟨_, listed, rfl⟩)), same⟩
  | function numbered same =>
    obtain ⟨range, rfl⟩ := Key.function?_eq_some_iff.mp numbered
    exact .inl ⟨_, mem_vocabulary_iff.mpr (.inr (.inr ⟨_, range, rfl, rfl⟩)), same⟩

theorem names (spells : Spells part word) : Names word.toList part := by
  rcases spells.cases_vocabulary with ⟨name, known, same⟩ | ⟨c, plain, rfl, rfl⟩
  · exact names_of_sameName known same
  · rw [String.toList_singleton]
    exact .character plain

theorem plain (spells : Spells part word) :
    word.toList ≠ [] ∧ ∀ c ∈ word.toList, c.isAlphanum = true := by
  rcases spells.cases_vocabulary with ⟨name, known, same⟩ | ⟨c, plain, rfl, rfl⟩
  · obtain ⟨long, plain⟩ := plain_of_sameName known same
    refine ⟨fun nothing => ?_, plain⟩
    rw [nothing] at long
    cases long
  · simp [plain]

end Spells

/-! ## Joined words -/

/-- Separators in front of a text are read one by one. -/
theorem Reads.run_append {run text : List Char} {items : List Item}
    (between : ∀ c ∈ run, isSeparator c = true) (rest : Reads text items) :
    Reads (run ++ text) (run.map .separator ++ items) := by
  induction run with
  | nil => exact rest
  | cons c run ih =>
    exact .separator (between c (by simp)) (ih fun d member => between d (by simp [member]))

/-- Joined words are read as these words, with nothing but separators between them. -/
theorem Joins.reads {words : List String} {text : String} (joins : Joins words text)
    (plain : ∀ word ∈ words, word.toList ≠ [] ∧ ∀ c ∈ word.toList, c.isAlphanum = true) :
    ∃ items, Reads text.toList items ∧
      items.filterMap Item.token? = words.map String.toList ∧ ∀ c, .other c ∉ items := by
  induction joins with
  | single word =>
    obtain ⟨nonempty, run⟩ := plain word (by simp)
    have reads := Reads.token nonempty run (by simp) .nil
    rw [List.append_nil] at reads
    exact ⟨_, reads, rfl, by simp⟩
  | @cons word run text words nonempty between rest ih =>
    obtain ⟨something, letters⟩ := plain word (by simp)
    obtain ⟨items, reads, tokens, clear⟩ := ih fun other member => plain other (by simp [member])
    have ends : ∀ c ∈ (run.toList ++ text.toList).head?, c.isAlphanum = false := by
      cases chars : run.toList with
      | nil => exact absurd (String.toList_eq_nil_iff.mp chars) nonempty
      | cons c chars =>
        intro d first
        cases first
        exact isAlphanum_of_isSeparator (between c (by simp [chars]))
    have whole : (word ++ run ++ text).toList = word.toList ++ (run.toList ++ text.toList) := by
      rw [String.toList_append, String.toList_append, List.append_assoc]
    have silent : (run.toList.map Item.separator).filterMap Item.token? = [] := by
      simp [Item.token?]
    refine ⟨.token word.toList :: (run.toList.map .separator ++ items), ?_, ?_, ?_⟩
    · rw [whole]
      exact .token something letters ends (reads.run_append between)
    · have first : (Item.token word.toList).token? = some word.toList := rfl
      rw [List.filterMap_cons_some first, List.filterMap_append, silent, List.nil_append, tokens,
        List.map_cons]
    · simp [clear]

/-- Names with nothing but separators between them do not offend. -/
theorem clean_of_names {text : List Char} {items : List Item} {parts : List Part}
    (reads : Reads text items) (clear : ∀ c, .other c ∉ items)
    (named : List.Forall₂ Names (items.filterMap Item.token?) parts) :
    ∀ item ∈ items, item.offends = false := by
  induction reads generalizing parts with
  | nil => simp
  | separator _ _ ih =>
    have rest := ih (fun c member => clear c (by simp [member])) named
    simpa [Item.offends] using rest
  | token nonempty plain _ _ ih =>
    cases named with
    | cons first named =>
      have rest := ih (fun c member => clear c (by simp [member])) named
      have known := (offends_token_iff nonempty plain).mpr ⟨_, first⟩
      simpa [known] using rest
  | @other c => exact absurd List.mem_cons_self (clear c)

theorem keysOf_of_nodup {parts : List Part} (distinct : (parts.filterMap Part.key?).Nodup) :
    keysOf parts = parts.filterMap Part.key? := by
  rw [keysOf]
  generalize parts.filterMap Part.key? = keys at distinct ⊢
  induction keys using List.reverseRecOn with
  | nil => rfl
  | append_singleton keys key ih =>
    obtain ⟨before, -, apart⟩ := List.nodup_append.mp distinct
    have fresh : key ∉ keys := fun member => apart key member key (by simp) rfl
    rw [eraseDups_concat, if_neg fresh, ih before]

/-- A written combination is read back. -/
theorem parse_of_writes {combo : Combo} {text : String} (distinct : combo.keys.Nodup)
    (writes : Writes combo text) : parse text = .ok combo := by
  cases writes with
  | @words parts words spelled joins mask keys =>
    have each := (List.forall₂_and_left words parts).mp
      (spelled.flip.imp fun _ _ spells => ⟨spells.plain, spells.names⟩)
    obtain ⟨plain, named⟩ := each
    obtain ⟨items, reads, tokens, clear⟩ := joins.reads plain
    have parts_named : List.Forall₂ Names (items.filterMap Item.token?) parts := by
      rw [tokens]
      exact List.forall₂_map_left_iff.mpr named
    have something : items.filterMap Item.token? ≠ [] := by
      rw [tokens]
      cases joins <;> simp
    have answers := Answers.combo (clean_of_names reads clear parts_named) something parts_named
    rw [keysOf_of_nodup (by rwa [keys]), mask, keys] at answers
    exact parse_of_answers reads answers

/-! ## Finding words -/

theorem exists_joins {words : List String} (something : words ≠ []) : ∃ text, Joins words text := by
  induction words with
  | nil => exact absurd rfl something
  | cons word words ih =>
    by_cases last : words = []
    · subst last
      exact ⟨word, .single word⟩
    · obtain ⟨text, rest⟩ := ih last
      have between : ∀ c ∈ "+".toList, isSeparator c = true := List.all_eq_true.mp (by decide)
      exact ⟨_, .cons (by decide) between rest⟩

theorem exists_words {parts : List Part} (spelled : ∀ part ∈ parts, ∃ word, Spells part word) :
    ∃ words, List.Forall₂ Spells parts words := by
  induction parts with
  | nil => exact ⟨[], .nil⟩
  | cons part parts ih =>
    obtain ⟨word, spells⟩ := spelled part (by simp)
    obtain ⟨words, rest⟩ := ih fun other member => spelled other (by simp [member])
    exact ⟨word :: words, .cons spells rest⟩

theorem exists_word {key : Key} (named : key.IsNamed) : ∃ word, Spells (.key key) word := by
  rcases named with ⟨c, printed⟩ | ⟨name, listed⟩ | ⟨n, numbered⟩
  · exact ⟨_, .character printed⟩
  · exact ⟨_, .key listed (sameName_self _)⟩
  · exact ⟨_, .function numbered (sameName_self _)⟩

/-- The modifiers that have names, each by one name. -/
def plainModifiers : List (String × Modifiers) :=
  [("SHIFT", .shift), ("CTRL", .ctrl), ("ALT", .alt), ("SUPER", .super)]

/-- The parts that make up a mask. -/
def partsOf (mask : Modifiers) : List Part :=
  (plainModifiers.filter (mask.contains ·.2)).map (.modifiers ·.2)

theorem masksOf_partsOf {mask : Modifiers}
    (within : (Modifiers.shift ||| .ctrl ||| .alt ||| .super).contains mask = true) :
    masksOf (partsOf mask) = mask := by
  have sixteen : ∀ n : Fin 16,
      masksOf (partsOf ⟨BitVec.ofNat 32 n⟩) = ⟨BitVec.ofNat 32 n⟩ := by decide
  obtain ⟨bits⟩ := mask
  have small : bits.toNat < 16 := by
    have masked : 0xf#32 &&& bits = bits := of_decide_eq_true within
    rw [← masked, BitVec.toNat_and]
    exact Nat.lt_of_le_of_lt Nat.and_le_left (by decide)
  have listed := sixteen ⟨bits.toNat, small⟩
  simpa using listed

theorem spelled_of_mem_partsOf {mask : Modifiers} {part : Part} (member : part ∈ partsOf mask) :
    part.key? = none ∧ ∃ word, Spells part word := by
  have known : ∀ entry ∈ plainModifiers, entry ∈ Modifiers.names := by decide +kernel
  obtain ⟨⟨name, held⟩, there, rfl⟩ := List.mem_map.mp member
  exact ⟨rfl, name, .modifiers (known _ (List.mem_of_mem_filter there)) (sameName_self name)⟩

/-- A combination of what has names can be written. -/
theorem exists_writes {combo : Combo}
    (within : (Modifiers.shift ||| .ctrl ||| .alt ||| .super).contains combo.modifiers = true)
    (named : ∀ key ∈ combo.keys, key.IsNamed) (something : combo ≠ empty) :
    ∃ text, Writes combo text := by
  let parts := combo.keys.map Part.key ++ partsOf combo.modifiers
  have keys : parts.filterMap Part.key? = combo.keys := by
    have nameless : (partsOf combo.modifiers).filterMap Part.key? = [] :=
      List.filterMap_eq_nil_iff.mpr fun part member => (spelled_of_mem_partsOf member).1
    have each : (combo.keys.map Part.key).filterMap Part.key? = combo.keys := by
      rw [List.filterMap_map]
      exact List.filterMap_some
    rw [List.filterMap_append, each, nameless, List.append_nil]
  have mask : masksOf parts = combo.modifiers := by
    have clear : masksOf (combo.keys.map Part.key) = .none := by
      rw [masksOf_eq_none_iff]
      intro part member
      obtain ⟨key, -, rfl⟩ := List.mem_map.mp member
      rfl
    have split : masksOf parts = (partsOf combo.modifiers).foldl
        (fun held part => held ||| part.mask) (masksOf (combo.keys.map Part.key)) :=
      List.foldl_append
    rw [split, clear]
    exact masksOf_partsOf within
  have spelled : ∀ part ∈ parts, ∃ word, Spells part word := by
    intro part member
    rcases List.mem_append.mp member with listed | listed
    · obtain ⟨key, there, rfl⟩ := List.mem_map.mp listed
      exact exists_word (named key there)
    · exact (spelled_of_mem_partsOf listed).2
  obtain ⟨words, spelled⟩ := exists_words spelled
  have nonempty : words ≠ [] := by
    rintro rfl
    rw [List.forall₂_nil_right_iff.mp spelled] at keys mask
    have fields : combo = ⟨combo.modifiers, combo.keys⟩ := rfl
    rw [← mask, ← keys] at fields
    exact something fields
  obtain ⟨text, joins⟩ := exists_joins nonempty
  exact ⟨text, .words spelled joins mask keys⟩

/-- Every combination of named keys and of the four modifiers can be written, and however it is
written, it is read back as it was. -/
theorem parse_written {combo : Combo}
    (within : (Modifiers.shift ||| .ctrl ||| .alt ||| .super).contains combo.modifiers = true)
    (distinct : combo.keys.Nodup) (named : ∀ key ∈ combo.keys, key.IsNamed)
    (something : combo ≠ empty) :
    (∃ text, Writes combo text) ∧ ∀ text, Writes combo text → parse text = .ok combo :=
  ⟨exists_writes within named something, fun _ => parse_of_writes distinct⟩

/-- Names in several cases, modifiers on both sides of the keys, and a Unicode space. -/
theorem parse_written_mixed :
    parse "Shift+a,, f12\u3000pgUp LCTRL" =
      .ok ⟨.shift ||| .ctrl, [⟨'A'.toNat⟩, ⟨301⟩, .pageUp]⟩ := by
  have joins : Joins ["Shift", "a", "f12", "pgUp", "LCTRL"] "Shift+a,, f12\u3000pgUp LCTRL" := by
    have whole : "Shift" ++ "+" ++ ("a" ++ ",, " ++ ("f12" ++ "\u3000" ++
        ("pgUp" ++ " " ++ "LCTRL"))) = "Shift+a,, f12\u3000pgUp LCTRL" := by decide
    rw [← whole]
    refine .cons (by decide) ?_ (.cons (by decide) ?_ (.cons (by decide) ?_
      (.cons (by decide) ?_ (.single "LCTRL"))))
    all_goals exact List.all_eq_true.mp (by decide)
  have spelled : List.Forall₂ Spells
      [.modifiers .shift, .key ⟨'A'.toNat⟩, .key ⟨301⟩, .key .pageUp, .modifiers .ctrl]
      ["Shift", "a", "f12", "pgUp", "LCTRL"] := by
    refine .cons (@Spells.modifiers "SHIFT" _ _ (by simp [Modifiers.names]) ?_)
      (.cons (@Spells.character 'a' _ (by decide))
        (.cons (@Spells.function 12 _ _ (by decide) ?_)
          (.cons (@Spells.key "PGUP" _ _ (by simp [Key.names]) ?_)
            (.cons (@Spells.modifiers "LCTRL" _ _ (by simp [Modifiers.names]) ?_) .nil))))
    all_goals exact sameName_iff.mpr (by decide)
  have named : ∀ key ∈ [Key.mk 'A'.toNat, ⟨301⟩, .pageUp], key.IsNamed := by
    simp only [List.mem_cons, List.not_mem_nil, or_false, forall_eq_or_imp, forall_eq]
    exact ⟨.inl ⟨'A', by decide⟩, .inr (.inr ⟨12, by decide⟩),
      .inr (.inl ⟨"PGUP", by simp [Key.names]⟩)⟩
  exact (parse_written (by decide) (by decide) named (by decide)).2 _
    (.words spelled joins (by decide) (by decide))

end Combo

end GamepadInput
