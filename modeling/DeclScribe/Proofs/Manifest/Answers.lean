import DeclScribe.Manifest.Lowering
import DeclScribe.Manifest.Symbols
import Mathlib.Data.List.Forall2

/-!
# Answers put together from answers

Lowering and symbols read a manifest part by part and fail at the first part that fails. Here is
what success says: of two steps, that both succeed; of a list, that every item does, and that the
answers stand in the order of the items.
-/

set_option autoImplicit false

namespace DeclScribe

variable {ε α β γ : Type}

/-- A sequence of steps has an answer if the first step has one from which the others have it. -/
theorem bind_eq_ok {x : Except ε α} {f : α → Except ε β} {b : β} :
    (x >>= f) = .ok b ↔ ∃ a, x = .ok a ∧ f a = .ok b := by
  cases x with
  | error e => simp [bind, Except.bind]
  | ok a => simp [bind, Except.bind]

/-- A check in front of a step has to pass, and hands nothing on. -/
theorem andThen_eq_ok {x : Except ε Unit} {f : Unit → Except ε α} {a : α} :
    (x >>= f) = .ok a ↔ x = .ok () ∧ f () = .ok a := by
  rw [bind_eq_ok]
  constructor
  · rintro ⟨⟨⟩, hx, hf⟩
    exact ⟨hx, hf⟩
  · rintro ⟨hx, hf⟩
    exact ⟨(), hx, hf⟩

/-- A step that only answers gives its answer. -/
theorem pure_eq_ok {a b : α} : (pure a : Except ε α) = .ok b ↔ b = a := by
  simp [pure, Except.pure, eq_comm]

/-- An answer is changed if there is one. -/
theorem map_eq_ok {f : α → β} {x : Except ε α} {b : β} :
    x.map f = .ok b ↔ ∃ a, x = .ok a ∧ b = f a := by
  cases x with
  | error e => simp [Except.map]
  | ok a => simp [Except.map, eq_comm]

/-! ## Lists -/

/-- A list is read when every item is, and the answers stand in the order of the items. -/
theorem mapM_eq_ok_iff {f : α → Except ε β} {items : List α} {values : List β} :
    items.mapM f = .ok values ↔
      List.Forall₂ (fun item value => f item = .ok value) items values := by
  induction items generalizing values with
  | nil =>
    rw [List.mapM_nil, pure_eq_ok, List.forall₂_nil_left_iff]
  | cons item rest ih =>
    rw [List.mapM_cons, bind_eq_ok, List.forall₂_cons_left_iff]
    simp only [bind_eq_ok, pure_eq_ok, ih]
    constructor
    · rintro ⟨value, hitem, others, hrest, rfl⟩
      exact ⟨value, others, hitem, hrest, rfl⟩
    · rintro ⟨value, others, hitem, hrest, rfl⟩
      exact ⟨value, hitem, others, hrest, rfl⟩

/-- If each item has a value, the items have values one by one. -/
theorem exists_forall₂ {R : α → β → Prop} {items : List α}
    (h : ∀ item ∈ items, ∃ value, R item value) : ∃ values, List.Forall₂ R items values := by
  induction items with
  | nil => exact ⟨[], .nil⟩
  | cons item rest ih =>
    obtain ⟨hitem, hrest⟩ := List.forall_mem_cons.mp h
    obtain ⟨value, hvalue⟩ := hitem
    obtain ⟨values, hvalues⟩ := ih hrest
    exact ⟨value :: values, .cons hvalue hvalues⟩

/-- Two lists look alike item by item exactly when the lists of what is looked at are the same. -/
theorem forall₂_map_eq_iff {f : α → γ} {g : β → γ} {items : List α} {values : List β} :
    List.Forall₂ (fun item value => f item = g value) items values ↔
      items.map f = values.map g := by
  rw [← List.forall₂_eq_eq_eq, List.forall₂_map_left_iff, List.forall₂_map_right_iff]

/-- Every answer is the answer of an item. -/
theorem exists_of_mem_forall₂ {R : α → β → Prop} {items : List α} {values : List β}
    (h : List.Forall₂ R items values) : ∀ value ∈ values, ∃ item ∈ items, R item value := by
  induction h with
  | nil => exact List.forall_mem_nil _
  | @cons item value rest others hvalue _ ih =>
    rw [List.forall_mem_cons]
    refine ⟨⟨item, List.mem_cons_self, hvalue⟩, ?_⟩
    intro other hother
    obtain ⟨found, hfound, hright⟩ := ih other hother
    exact ⟨found, List.mem_cons_of_mem item hfound, hright⟩

/-- What holds of the answer of any item holds of all answers. -/
theorem holds_of_forall₂ {R : α → β → Prop} {Holds : β → Prop} {items : List α} {values : List β}
    (h : List.Forall₂ R items values) (hholds : ∀ {item value}, R item value → Holds value) :
    ∀ value ∈ values, Holds value := by
  intro value hvalue
  obtain ⟨item, -, hitem⟩ := exists_of_mem_forall₂ h value hvalue
  exact hholds hitem

/-- Two lists that are both read from a third one correspond as their items do. -/
theorem forall₂_of_common {R : α → β → Prop} {S : α → γ → Prop} {T : β → γ → Prop}
    {items : List α} {left : List β} {right : List γ} (hleft : List.Forall₂ R items left)
    (hright : List.Forall₂ S items right)
    (h : ∀ item ∈ items, ∀ {b c}, R item b → S item c → T b c) : List.Forall₂ T left right := by
  induction hleft generalizing right with
  | nil =>
    rw [List.forall₂_nil_left_iff] at hright
    exact hright ▸ .nil
  | cons hitem _ ih =>
    obtain ⟨c, others, hc, hothers, rfl⟩ := List.forall₂_cons_left_iff.mp hright
    obtain ⟨hhead, htail⟩ := List.forall_mem_cons.mp h
    exact .cons (hhead hitem hc) (ih hothers htail)

/-! ## The lists of a manifest -/

/-- Parsing some texts is parsing each in turn. -/
theorem parseAll_eq_mapM {parse : String → Except ParseError α} {texts : List String} :
    parseAll parse texts = texts.mapM parse := by
  induction texts with
  | nil => rfl
  | cons text rest ih =>
    rw [parseAll, ih, List.mapM_cons]
    cases parse text with
    | error e => rfl
    | ok value => cases rest.mapM parse <;> rfl

/-- Some texts are parsed if each is, one by one. -/
theorem parseAll_eq_ok_iff {parse : String → Except ParseError α} {texts : List String}
    {values : List α} :
    parseAll parse texts = .ok values ↔
      List.Forall₂ (fun text value => parse text = .ok value) texts values := by
  rw [parseAll_eq_mapM, mapM_eq_ok_iff]

namespace Manifest

/-- A fragment is lowered to what its text is parsed as. -/
theorem lowered_eq_ok {result : Except ParseError α} {value : α} :
    lowered result = .ok value ↔ result = .ok value := by
  cases result with
  | error e => simp [lowered]
  | ok found => simp [lowered]

/-- Lowering some entries is lowering each in turn. -/
theorem lowerAll_eq_mapM {lower : α → Except LowerError β} {items : List α} :
    lowerAll lower items = items.mapM lower := by
  induction items with
  | nil => rfl
  | cons item rest ih =>
    rw [lowerAll, ih, List.mapM_cons]
    cases lower item with
    | error e => rfl
    | ok value => cases rest.mapM lower <;> rfl

/-- Some entries are lowered if each is, one by one. -/
theorem lowerAll_eq_ok_iff {lower : α → Except LowerError β} {items : List α} {values : List β} :
    lowerAll lower items = .ok values ↔
      List.Forall₂ (fun item value => lower item = .ok value) items values := by
  rw [lowerAll_eq_mapM, mapM_eq_ok_iff]

/-- The symbols of some entries are those of each in turn. -/
theorem symbolAll_eq_mapM {symbol : α → Except ParseError β} {items : List α} :
    symbolAll symbol items = items.mapM symbol := by
  induction items with
  | nil => rfl
  | cons item rest ih =>
    rw [symbolAll, ih, List.mapM_cons]
    cases symbol item with
    | error e => rfl
    | ok value => cases rest.mapM symbol <;> rfl

/-- Some entries have symbols if each has one. -/
theorem symbolAll_eq_ok_iff {symbol : α → Except ParseError β} {items : List α}
    {values : List β} :
    symbolAll symbol items = .ok values ↔
      List.Forall₂ (fun item value => symbol item = .ok value) items values := by
  rw [symbolAll_eq_mapM, mapM_eq_ok_iff]

end Manifest

end DeclScribe
