import DeclScribe.Proofs.Token.Positions

/-!
# Where reading tokens fails

A reader that fails says how much of the text it had read. For each reader that is a front of the
text in front of it, also when the failure shows in the middle of an escape sequence or behind the
digits of a number. The place of the error is the place of the token moved over that front, so it is
the place behind a front of the whole text.
-/

set_option autoImplicit false

namespace DeclScribe

/-- An error has a place, and that is the place behind some front of the text. -/
def ParseError.ShowsIn (e : ParseError) (text : List Char) : Prop :=
  ∃ place front, e.position? = some place ∧ front <+: text ∧ place.IsBehind front

/-- Without a token there is no place, so an error that has one is about a token. -/
theorem ParseError.ShowsIn.ne_emptyInput {e : ParseError} {text : List Char}
    (h : e.ShowsIn text) : e ≠ .emptyInput := by
  obtain ⟨place, front, hplace, -⟩ := h
  rintro rfl
  exact absurd hplace (by simp [position?])

namespace Lexer

/-! ## What was read before a failure -/

/-- A failure behind a front of a text, seen from before that front. -/
theorem Fault.behind_isPrefix {fault : Fault} {front text : List Char} (hfront : front <+: text)
    (h : fault.read <+: text.drop front.length) : (fault.behind front).read <+: text :=
  append_prefix_of_drop hfront h

/-- An escape sequence fails at the end of the text or at its letter. -/
theorem escape_eq_error {text : List Char} {fault : Fault} (h : escape text = .error fault) :
    text = [] ∧ fault = ⟨.openEscape, []⟩ ∨
      ∃ c rest, text = c :: rest ∧ fault = ⟨.invalidEscape c, []⟩ := by
  unfold escape at h
  split at h
  · injection h with h
    exact .inl ⟨rfl, h.symm⟩
  · rename_i c rest
    split at h
    · exact absurd h (by simp)
    · split at h
      · injection h with h
        exact .inr ⟨c, rest, rfl, h.symm⟩
      · dsimp only at h
        split at h
        · injection h with h
          exact .inr ⟨c, rest, rfl, h.symm⟩
        · exact absurd h (by simp)

/-- An escape sequence fails with nothing read. -/
theorem escape_fault {text : List Char} {fault : Fault} (h : escape text = .error fault) :
    fault.read = [] := by
  rcases escape_eq_error h with ⟨-, rfl⟩ | ⟨c, rest, -, rfl⟩
  · rfl
  · rfl

/-- A string fails behind a front of its text. -/
theorem stringTail_fault {text : List Char} {fault : Fault} (h : stringTail text = .error fault) :
    fault.read <+: text := by
  fun_induction stringTail text generalizing fault with
  | case1 | case2 =>
    injection h with h
    subst h
    exact List.nil_prefix
  | case3 => exact absurd h (by simp)
  | case4 rest inner hinner =>
    injection h with h
    subst h
    refine Fault.behind_isPrefix (by simp) ?_
    rw [escape_fault hinner]
    exact List.nil_prefix
  | case5 rest sequence hsequence inner hinner _ _ ih =>
    injection h with h
    subst h
    exact Fault.behind_isPrefix ((List.prefix_cons_inj _).mpr (escape_isPrefix hsequence))
      (ih hinner)
  | case6 => exact absurd h (by simp)
  | case7 c rest _ _ _ inner hinner ih =>
    injection h with h
    subst h
    exact Fault.behind_isPrefix (by simp) (ih hinner)
  | case8 => exact absurd h (by simp)

/-- A verbatim string fails behind a front of its text. -/
theorem verbatimTail_fault {text : List Char} {fault : Fault}
    (h : verbatimTail text = .error fault) : fault.read <+: text := by
  fun_induction verbatimTail text generalizing fault with
  | case1 =>
    injection h with h
    subst h
    exact List.nil_prefix
  | case2 rest inner hinner ih =>
    injection h with h
    subst h
    exact Fault.behind_isPrefix (by simp) (ih hinner)
  | case3 => exact absurd h (by simp)
  | case4 => exact absurd h (by simp)
  | case5 c rest _ _ inner hinner ih =>
    injection h with h
    subst h
    exact Fault.behind_isPrefix (by simp) (ih hinner)
  | case6 => exact absurd h (by simp)

/-- A character literal that does not close fails behind its body. -/
theorem closeChar_eq_error {body rest : List Char} {fault : Fault}
    (h : closeChar body rest = .error fault) : fault = ⟨.openChar, body⟩ := by
  unfold closeChar at h
  split at h
  · exact absurd h (by simp)
  · injection h with h
    exact h.symm

/-- A character literal fails behind a front of its text. -/
theorem charTail_fault {text : List Char} {fault : Fault} (h : charTail text = .error fault) :
    fault.read <+: text := by
  cases text with
  | nil =>
    injection h with h
    subst h
    exact List.nil_prefix
  | cons c rest =>
    simp only [charTail] at h
    split_ifs at h with hstop hslash
    · injection h with h
      subst h
      exact List.nil_prefix
    · split at h
      · rename_i inner hinner
        injection h with h
        subst h
        refine Fault.behind_isPrefix (by simp) ?_
        rw [escape_fault hinner]
        exact List.nil_prefix
      · rename_i sequence hsequence
        obtain rfl := closeChar_eq_error h
        exact (List.prefix_cons_inj c).mpr (escape_isPrefix hsequence)
    · obtain rfl := closeChar_eq_error h
      simp

/-- What there is of a number without its suffix, whether its digits are complete or missing. -/
def numberFront (text : List Char) : List Char :=
  match numberBody text with
  | .ok (body, _) => body
  | .error fault => fault.read

open Numeral in
/-- A number without its suffix is a front of the text. -/
theorem numberFront_isPrefix (text : List Char) : numberFront text <+: text := by
  unfold numberFront numberBody
  cases hannounced : Radix.announced? text with
  | some radix =>
    have hbody : text.take 2 ++ radix.run (text.drop 2) <+: text := by
      refine append_prefix_of_drop (List.take_prefix 2 text) ?_
      rw [(announced?_take hannounced).1]
      exact run_isPrefix _ _
    dsimp only
    split_ifs <;> exact hbody
  | none =>
    have hsignificand := append_prefix_of_drop (run_isPrefix .decimal text) (fraction_isPrefix _)
    have hbody := append_prefix_of_drop hsignificand (exponent_isPrefix _)
    dsimp only
    split_ifs <;> exact hbody

/-- A number fails behind a front of its text. -/
theorem number_fault {text : List Char} {fault : Fault} (h : number text = .error fault) :
    fault.read <+: text := by
  have hfront := numberFront_isPrefix text
  unfold numberFront at hfront
  unfold number at h
  split at h
  · rename_i inner hinner
    rw [hinner] at hfront
    injection h with h
    subst h
    exact hfront
  · -- a complete number with an identifier character behind its suffix
    rename_i body isReal hbody
    rw [hbody] at hfront
    have hlexeme := append_prefix_of_drop hfront
      (Numeral.suffix_isPrefix (Radix.announced? text).isNone isReal _)
    dsimp only at h
    split at h
    · split at h
      · injection h with h
        subst h
        exact hlexeme
      · exact absurd h (by simp)
    · exact absurd h (by simp)

/-- A number fails as a token if it fails as a number. -/
theorem number_of_map_eq_error {text : List Char} {fault : Fault}
    (h : (number text).map (fun lexeme => (TokenKind.number, lexeme.tail)) = .error fault) :
    number text = .error fault := by
  cases hnumber : number text with
  | ok lexeme =>
    rw [hnumber] at h
    exact absurd h (by simp [Except.map])
  | error inner =>
    rw [hnumber] at h
    injection h with h
    rw [h]

/-- A token fails behind a front of its text, whatever it starts with. -/
theorem token_fault {c : Char} {rest : List Char} {fault : Fault}
    (h : token c rest = .error fault) : fault.read <+: c :: rest := by
  unfold token at h
  split at h
  · exact number_fault (number_of_map_eq_error h)
  · split at h
    · exact absurd h (by simp)
    · split_ifs at h with hcolon hquote happostrophe hverbatim hmarked hdigit hstart
      · split at h
        · rename_i inner hinner
          injection h with h
          subst h
          exact Fault.behind_isPrefix (by simp) (stringTail_fault hinner)
        · exact absurd h (by simp)
      · split at h
        · rename_i inner hinner
          injection h with h
          subst h
          exact Fault.behind_isPrefix (by simp) (charTail_fault hinner)
        · exact absurd h (by simp)
      · split at h
        · rename_i inner hinner
          injection h with h
          subst h
          cases rest with
          | nil => exact absurd hverbatim.2 (by simp)
          | cons d more =>
            -- the quote behind the `@` was read as well
            obtain rfl : d = '"' := by simpa using hverbatim.2
            exact Fault.behind_isPrefix (by simp) (verbatimTail_fault hinner)
        · exact absurd h (by simp)
      · exact number_fault (number_of_map_eq_error h)
      · injection h with h
        subst h
        exact List.nil_prefix

/-! ## Whole texts -/

/-- An error shows where the token starts or where its reading stopped. -/
theorem Fault.position?_toError (fault : Fault) (start : Position) :
    (fault.toError start).position? = some start ∨
      (fault.toError start).position? = some (start.after fault.read) := by
  unfold toError
  dsimp only
  split
  all_goals simp [ParseError.position?]

/-- The error of a failure shows behind what was read, seen from the front of the whole text. -/
theorem Fault.toError_showsIn {fault : Fault} {start : Position} {before text : List Char}
    (hstart : start.IsBehind before) (h : fault.read <+: text) :
    (fault.toError start).ShowsIn (before ++ text) := by
  rcases fault.position?_toError start with hplace | hplace
  · exact ⟨start, before, hplace, List.prefix_append _ _, hstart⟩
  · exact ⟨_, before ++ fault.read, hplace, (List.prefix_append_right_inj before).mpr h,
      hstart.after _⟩

/-- The error of a text shows in it. The induction carries what was read before the place. -/
theorem tokensFrom_showsIn {pos : Position} {before text : List Char} {e : ParseError}
    (hpos : pos.IsBehind before) (h : tokensFrom pos text = .error e) :
    e.ShowsIn (before ++ text) := by
  fun_induction tokensFrom pos text generalizing before e with
  | case1 => exact absurd h (by simp)
  | case2 pos c rest _ ih =>
    have hrest := ih (hpos.next c) h
    rw [List.append_assoc, List.singleton_append] at hrest
    exact hrest
  | case3 pos c rest _ fault hfault =>
    injection h with h
    subst h
    exact Fault.toError_showsIn hpos (token_fault hfault)
  | case4 pos c rest _ kind more htoken e' herror ih =>
    injection h with h
    subst h
    have hrest : more ++ rest.drop more.length = rest :=
      List.prefix_iff_eq_append.mp (token_sound htoken).2
    have hbehind := ih (hpos.after (c :: more)) herror
    rw [List.append_assoc, List.cons_append, hrest] at hbehind
    exact hbehind
  | case5 => exact absurd h (by simp)

/-- A text without tokens is white space. -/
theorem tokensFrom_eq_nil_iff (pos : Position) (text : List Char) :
    (∃ stop, tokensFrom pos text = .ok ⟨[], stop⟩) ↔ ∀ c ∈ text, Text.isBlank c = true := by
  fun_induction tokensFrom pos text with
  | case1 pos => simp
  | case2 pos c rest hblank ih =>
    rw [ih, List.forall_mem_cons]
    exact (and_iff_right hblank).symm
  | case3 pos c rest hblank fault => simp [hblank]
  | case4 pos c rest hblank kind more _ e => simp [hblank]
  | case5 pos c rest hblank kind more _ stream => simp [hblank]

end Lexer

end DeclScribe
