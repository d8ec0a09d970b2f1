import DeclScribe.Proofs.Token.Numerals

/-!
# Nesting outside of literals

Brackets count only in code, not inside string and character literals. So a text is first made into
the text of its code, of the same length, in which every character of a literal is a blank; of what
remains it is said which brackets are closed in the order in which they are opened. Putting texts
together commutes with both, as long as no literal goes on from one text into the next.
-/

set_option autoImplicit false

namespace DeclScribe.Text

open Lexer (startsWith)

/-! ## Literals made blank -/

/-- What a character can stand in. -/
inductive Region where
  | code
  /-- A literal that ends at the delimiter and in which a backslash takes one more character. -/
  | regular (delimiter : Char)
  /-- A string that ends at a quote and in which two quotes stand for one. -/
  | verbatim
deriving DecidableEq

/-- A text that starts in a region, with a blank for every character of a literal. -/
def blankedIn : Region → List Char → List Char
  | _, [] => []
  | .code, '@' :: '"' :: rest => ' ' :: ' ' :: blankedIn .verbatim rest
  | .code, c :: rest =>
    if c = '"' ∨ c = '\'' then ' ' :: blankedIn (.regular c) rest else c :: blankedIn .code rest
  | .regular delimiter, '\\' :: _ :: rest => ' ' :: ' ' :: blankedIn (.regular delimiter) rest
  | .regular delimiter, c :: rest =>
    ' ' :: blankedIn (if c = delimiter then .code else .regular delimiter) rest
  | .verbatim, '"' :: '"' :: rest => ' ' :: ' ' :: blankedIn .verbatim rest
  | .verbatim, c :: rest => ' ' :: blankedIn (if c = '"' then .code else .verbatim) rest

/-- The code of a text: its string and character literals are blanks. -/
def blanked (text : List Char) : List Char :=
  blankedIn .code text

/-- No text is left of no text. -/
theorem blanked_nil : blanked [] = [] := by
  simp [blanked, blankedIn]

/-- The characters that can start a literal. -/
def literalMarks : List Char := ['"', '\'', '@']

/-- A character that starts no literal is code. -/
theorem blanked_cons {c : Char} (hc : c ∉ literalMarks) (rest : List Char) :
    blanked (c :: rest) = c :: blanked rest := by
  have hquote : c ≠ '"' := fun h => hc (by simp [h, literalMarks])
  have happostrophe : c ≠ '\'' := fun h => hc (by simp [h, literalMarks])
  have hat : c ≠ '@' := fun h => hc (by simp [h, literalMarks])
  unfold blanked
  rw [blankedIn]
  · rw [if_neg (by simp [hquote, happostrophe])]
  · intro more h
    exact absurd h hat

/-- An `@` is code unless a quote follows. -/
theorem blanked_at {rest : List Char} (h : startsWith (· == '"') rest = false) :
    blanked ('@' :: rest) = '@' :: blanked rest := by
  unfold blanked
  rw [blankedIn]
  · rw [if_neg (by decide)]
  · rintro more - rfl
    exact absurd h (by simp)

/-- Characters none of which can start a literal. -/
def IsCode (text : List Char) : Prop :=
  ∀ c ∈ text, c ∉ literalMarks

/-- It is decided by looking at each character. -/
instance (text : List Char) : Decidable (IsCode text) :=
  List.decidableBAll (fun c => c ∉ literalMarks) text

/-- Code is left as it is in front of any text. -/
theorem blanked_append_of_code {front : List Char} (h : IsCode front) (rest : List Char) :
    blanked (front ++ rest) = front ++ blanked rest := by
  induction front with
  | nil => rfl
  | cons c more ih =>
    obtain ⟨hc, hmore⟩ := List.forall_mem_cons.mp h
    rw [List.cons_append, blanked_cons hc, ih hmore, List.cons_append]

/-- No literal of the text goes on behind it, unless a quote follows. -/
def IsClosed (text : List Char) : Prop :=
  ∀ tail, startsWith (· == '"') tail = false → blanked (text ++ tail) = blanked text ++ blanked tail

/-- No literal of the text goes on behind it, whatever follows. -/
def IsComplete (text : List Char) : Prop :=
  ∀ tail, blanked (text ++ tail) = blanked text ++ blanked tail

/-- What a closed text is blanked to is seen in front of any text. -/
theorem isClosed_of_append {text shown : List Char}
    (h : ∀ tail, startsWith (· == '"') tail = false →
      blanked (text ++ tail) = shown ++ blanked tail) : IsClosed text ∧ blanked text = shown := by
  have hshown : blanked text = shown := by
    have hnil := h [] rfl
    rwa [List.append_nil, blanked_nil, List.append_nil] at hnil
  refine ⟨fun tail htail => ?_, hshown⟩
  rw [h tail htail, hshown]

/-- Code is complete. -/
theorem isComplete_of_code {text : List Char} (h : IsCode text) : IsComplete text := by
  intro tail
  have htext := blanked_append_of_code h []
  rw [List.append_nil] at htext
  rw [blanked_append_of_code h, htext, blanked_nil, List.append_nil]

/-- What is complete is closed. -/
theorem IsComplete.isClosed {text : List Char} (h : IsComplete text) : IsClosed text :=
  fun tail _ => h tail

namespace IsComplete

variable {text more : List Char}

/-- Complete texts are complete side by side. -/
theorem append (h : IsComplete text) (hmore : IsComplete more) : IsComplete (text ++ more) := by
  intro tail
  rw [List.append_assoc, h, hmore, h more, List.append_assoc]

/-- What is closed is closed behind what is complete. -/
theorem append_closed (h : IsComplete text) (hmore : IsClosed more) : IsClosed (text ++ more) := by
  intro tail htail
  rw [List.append_assoc, h, hmore tail htail, h more, List.append_assoc]

end IsComplete

namespace IsClosed

variable {text more : List Char}

/-- A closed text is blanked by itself, unless a quote follows it. -/
theorem blanked_append (h : IsClosed text) (hmore : startsWith (· == '"') more = false) :
    blanked (text ++ more) = blanked text ++ blanked more :=
  h more hmore

/-- Closed texts are closed side by side, unless the second one starts with a quote. -/
theorem append (h : IsClosed text) (hmore : IsClosed more)
    (hstart : startsWith (· == '"') more = false) : IsClosed (text ++ more) := by
  intro tail htail
  have hboth : startsWith (· == '"') (more ++ tail) = false :=
    startsWith_append_eq_false hstart htail
  rw [List.append_assoc, h _ hboth, hmore tail htail, h more hstart, List.append_assoc]

/-- What is complete and does not start with a quote completes what stands before it. -/
theorem append_complete (h : IsClosed text) (hmore : IsComplete more) (hne : more ≠ [])
    (hstart : startsWith (· == '"') more = false) : IsComplete (text ++ more) := by
  intro tail
  have hboth : startsWith (· == '"') (more ++ tail) = false := by
    cases more with
    | nil => exact absurd rfl hne
    | cons c rest => exact hstart
  rw [List.append_assoc, h _ hboth, hmore, h more hstart, List.append_assoc]

end IsClosed

/-! ## Brackets -/

/-- The characters that some pairs of brackets are made of. -/
def bracketsOf (pairs : List (Char × Char)) : List Char :=
  pairs.flatMap fun pair => [pair.1, pair.2]

/-- Every bracket of the pairs is closed by its partner, and those inside it before. -/
inductive IsNested (pairs : List (Char × Char)) : List Char → Prop
  | nil : IsNested pairs []
  | other {c : Char} {rest : List Char} : c ∉ bracketsOf pairs → IsNested pairs rest →
      IsNested pairs (c :: rest)
  | pair {opening closing : Char} {inner rest : List Char} : (opening, closing) ∈ pairs →
      IsNested pairs inner → IsNested pairs rest →
      IsNested pairs (opening :: (inner ++ closing :: rest))

namespace IsNested

variable {pairs : List (Char × Char)} {text more : List Char}

/-- Without brackets of these kinds there is nothing to close. -/
theorem of_other (h : ∀ c ∈ text, c ∉ bracketsOf pairs) : IsNested pairs text := by
  induction text with
  | nil => exact .nil
  | cons c rest ih =>
    obtain ⟨hc, hrest⟩ := List.forall_mem_cons.mp h
    exact .other hc (ih hrest)

/-- Nested texts are nested side by side. -/
theorem append (h : IsNested pairs text) (hmore : IsNested pairs more) :
    IsNested pairs (text ++ more) := by
  induction h with
  | nil => exact hmore
  | other hc _ ih => exact .other hc ih
  | pair hpair hinner _ _ ih =>
    rw [List.cons_append, List.append_assoc, List.cons_append]
    exact .pair hpair hinner ih

/-- What is nested is nested in one more pair. -/
theorem enclosed {opening closing : Char} (hpair : (opening, closing) ∈ pairs)
    (h : IsNested pairs text) : IsNested pairs (opening :: (text ++ [closing])) :=
  .pair hpair h .nil

/-- Kinds of brackets that are left out make no difference, and neither do kinds that do not occur.
Pairs of either list are in the other one or have nothing to do with it. -/
theorem restrict {others : List (Char × Char)} (h : IsNested pairs text)
    (hpairs : ∀ pair ∈ pairs, pair ∈ others ∨
      pair.1 ∉ bracketsOf others ∧ pair.2 ∉ bracketsOf others)
    (hothers : ∀ c ∈ text, c ∈ bracketsOf others → c ∈ bracketsOf pairs) :
    IsNested others text := by
  induction h with
  | nil => exact .nil
  | other hc _ ih =>
    obtain ⟨hhead, htail⟩ := List.forall_mem_cons.mp hothers
    exact .other (mt hhead hc) (ih htail)
  | pair hpair _ _ ihInner ihRest =>
    obtain ⟨-, htail⟩ := List.forall_mem_cons.mp hothers
    obtain ⟨hinner, hbehind⟩ := List.forall_mem_append.mp htail
    obtain ⟨-, hrest⟩ := List.forall_mem_cons.mp hbehind
    obtain hkept | ⟨hopening, hclosing⟩ := hpairs _ hpair
    · exact .pair hkept (ihInner hinner) (ihRest hrest)
    · exact .other hopening ((ihInner hinner).append (.other hclosing (ihRest hrest)))

end IsNested

end DeclScribe.Text
