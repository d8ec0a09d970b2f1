import DeclScribe.Declaration.Basic
import Mathlib.Data.List.Nodup

/-!
# Words name at most one thing

The vocabularies of the language are lists that are looked up by spelling. Each is complete, and no
two of its items are spelled alike, so a word finds the item that it spells or nothing.
-/

set_option autoImplicit false

namespace DeclScribe

/-- A complete list of items that are all spelled differently. -/
structure IsVocabulary {α : Type} (all : List α) (word : α → String) : Prop where
  complete : ∀ item, item ∈ all
  distinct : (all.map word).Nodup

namespace IsVocabulary

variable {α : Type} {all : List α} {word : α → String} {text : String} {item : α}

/-- A search for a word finds the item that has it. -/
theorem find?_eq_some_iff (h : IsVocabulary all word) :
    all.find? (fun item => word item == text) = some item ↔ word item = text := by
  constructor
  · intro hfound
    simpa using List.find?_some hfound
  · rintro rfl
    cases hfound : all.find? (fun other => word other == word item) with
    | none =>
      have hno := List.find?_eq_none.mp hfound item (h.complete item)
      exact absurd (beq_self_eq_true (word item)) hno
    | some other =>
      have hword : word other = word item := by simpa using List.find?_some hfound
      have hsame := List.inj_on_of_nodup_map h.distinct (h.complete other) (h.complete item) hword
      rw [hsame]

/-- A search for a word fails if no item has it. -/
theorem find?_eq_none_iff (h : IsVocabulary all word) :
    all.find? (fun item => word item == text) = none ↔ ¬ ∃ item, word item = text := by
  rw [List.find?_eq_none]
  constructor
  · rintro hno ⟨item, rfl⟩
    exact hno item (h.complete item) (beq_self_eq_true (word item))
  · intro hno item _ hitem
    exact hno ⟨item, by simpa using hitem⟩

end IsVocabulary

/-- The predefined types are listed, each with a word of its own. -/
theorem Predefined.isVocabulary : IsVocabulary Predefined.all Predefined.word :=
  ⟨Predefined.mem_all, by decide⟩

/-- The modifiers are listed, each with a word of its own. -/
theorem Modifier.isVocabulary : IsVocabulary Modifier.all Modifier.word :=
  ⟨Modifier.mem_all, by decide⟩

/-- The accessors are listed, each with a word of its own. -/
theorem AccessorKind.isVocabulary : IsVocabulary AccessorKind.all AccessorKind.word :=
  ⟨fun kind => by cases kind <;> decide, by decide⟩

/-- A predefined type is found by its word and by no other. -/
theorem Predefined.ofWord?_eq_some_iff {word : String} {type : Predefined} :
    Predefined.ofWord? word = some type ↔ type.word = word :=
  Predefined.isVocabulary.find?_eq_some_iff

/-- The word of a predefined type is found. -/
theorem Predefined.ofWord?_word (type : Predefined) : Predefined.ofWord? type.word = some type :=
  Predefined.ofWord?_eq_some_iff.mpr rfl

/-- A modifier is found by its word and by no other. -/
theorem Modifier.ofWord?_eq_some_iff {word : String} {modifier : Modifier} :
    Modifier.ofWord? word = some modifier ↔ modifier.word = word :=
  Modifier.isVocabulary.find?_eq_some_iff

/-- No modifier is found for a word that none has. -/
theorem Modifier.ofWord?_eq_none_iff {word : String} :
    Modifier.ofWord? word = none ↔ ¬ ∃ modifier : Modifier, modifier.word = word :=
  Modifier.isVocabulary.find?_eq_none_iff

/-- An accessor is found by its word and by no other. -/
theorem AccessorKind.ofWord?_eq_some_iff {word : String} {kind : AccessorKind} :
    AccessorKind.ofWord? word = some kind ↔ kind.word = word :=
  AccessorKind.isVocabulary.find?_eq_some_iff

/-- Three words name accessors. -/
theorem AccessorKind.ofWord?_isNone_iff {word : String} :
    (AccessorKind.ofWord? word).isNone = false ↔ word = "get" ∨ word = "set" ∨ word = "init" := by
  constructor
  · intro h
    obtain ⟨kind, hkind⟩ := Option.isSome_iff_exists.mp (by simpa using h)
    have hword := AccessorKind.ofWord?_eq_some_iff.mp hkind
    cases kind
    · exact Or.inl hword.symm
    · exact Or.inr (Or.inl hword.symm)
    · exact Or.inr (Or.inr hword.symm)
  · rintro (rfl | rfl | rfl) <;> rfl

/-- The words of the kinds that some words name are those of the words that name one. -/
theorem AccessorKind.map_word_filterMap_ofWord? (words : List String) :
    (words.filterMap ofWord?).map word = words.filter fun text => (ofWord? text).isSome := by
  induction words with
  | nil => rfl
  | cons text rest ih =>
    cases hkind : ofWord? text with
    | none => rw [List.filterMap_cons_none hkind, ih, List.filter_cons_of_neg (by simp [hkind])]
    | some kind =>
      rw [List.filterMap_cons_some hkind, List.map_cons, ih,
        AccessorKind.ofWord?_eq_some_iff.mp hkind, List.filter_cons_of_pos (by simp [hkind])]

end DeclScribe
