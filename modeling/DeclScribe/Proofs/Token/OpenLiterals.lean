import DeclScribe.Proofs.Token.Faults
import Mathlib.Logic.Relation

/-!
# Literals that are not closed

A text is read as tokens from left to right, one blank or one token at a time, up to the first token
that cannot be read. If that is a literal that is still open where the text or the line ends, the
error says which kind of literal it is and where it opens. Only the reader of escape sequences,
which does not know the literal around it, answers for the end of the text by itself: right behind a
backslash it says that a string is open there, and among the digits of an escape sequence that the
sequence is invalid.
-/

set_option autoImplicit false

namespace DeclScribe

namespace Lexer

/-! ## Steps through a text -/

/-- A place in a text: what has been read as blanks and tokens, and what is left of the text. -/
structure Cursor where
  before : List Char
  ahead : List Char

/-- A step of the reader over one blank or one token. -/
inductive Step : Cursor → Cursor → Prop
  | blank {before ahead : List Char} {c : Char} (hblank : Text.isBlank c = true) :
      Step ⟨before, c :: ahead⟩ ⟨before ++ [c], ahead⟩
  | token {before ahead more : List Char} {c : Char} {kind : TokenKind}
      (hblank : Text.isBlank c = false) (htoken : token c (more ++ ahead) = .ok (kind, more)) :
      Step ⟨before, c :: (more ++ ahead)⟩ ⟨before ++ c :: more, ahead⟩

/-- The reader of a text comes to a place. -/
def Reaches (text : List Char) (place : Cursor) : Prop :=
  Relation.ReflTransGen Step ⟨[], text⟩ place

/-- Where a place is in the text. -/
def Cursor.position (place : Cursor) : Position :=
  Position.start.after place.before

/-- A step moves characters from what is ahead to what has been read. -/
theorem Step.text_eq {place next : Cursor} (h : Step place next) :
    next.before ++ next.ahead = place.before ++ place.ahead := by
  cases h with
  | blank => simp
  | token => simp

/-- A step neither removes a failure further on nor adds one. -/
theorem Step.error_iff {place next : Cursor} (h : Step place next) (e : ParseError) :
    tokensFrom place.position place.ahead = .error e ↔
      tokensFrom next.position next.ahead = .error e := by
  cases h with
  | @blank before ahead c hblank =>
    have hposition : Cursor.position ⟨before ++ [c], ahead⟩ =
        (Cursor.position ⟨before, c :: ahead⟩).next c := Position.after_append _ _ _
    rw [hposition, tokensFrom, if_pos hblank]
  | @token before ahead more c kind hblank htoken =>
    have hposition : Cursor.position ⟨before ++ c :: more, ahead⟩ =
        (Cursor.position ⟨before, c :: (more ++ ahead)⟩).after (c :: more) :=
      Position.after_append _ _ _
    rw [hposition, tokensFrom, if_neg (by simp [hblank])]
    simp only [htoken, List.drop_left]
    cases tokensFrom ((Cursor.position ⟨before, c :: (more ++ ahead)⟩).after (c :: more)) ahead with
    | error e' => rfl
    | ok stream => simp

/-- What has been read and what is ahead are the text, wherever the reader has come. -/
theorem Reaches.text_eq {text : List Char} {place : Cursor} (h : Reaches text place) :
    place.before ++ place.ahead = text := by
  induction h with
  | refl => rfl
  | tail _ hstep ih => rw [hstep.text_eq, ih]

/-- A text fails as the rest of it fails, wherever the reader has come. -/
theorem Reaches.error_iff {text : List Char} {place : Cursor} (h : Reaches text place)
    (e : ParseError) :
    tokensFrom .start text = .error e ↔ tokensFrom place.position place.ahead = .error e := by
  induction h with
  | refl => rfl
  | tail _ hstep ih => rw [ih, hstep.error_iff]

/-- A token that cannot be read at a place is why the text cannot be read. -/
theorem Reaches.error_of_token {text before rest : List Char} {c : Char} {fault : Fault}
    (h : Reaches text ⟨before, c :: rest⟩) (hblank : Text.isBlank c = false)
    (hfault : token c rest = .error fault) :
    tokensFrom .start text = .error (fault.toError (Position.start.after before)) := by
  rw [h.error_iff, tokensFrom, if_neg (by simp [hblank]), hfault]
  rfl

/-- What cannot be read as tokens has a place where the token that starts there cannot be read. -/
theorem exists_fault_of_tokensFrom (place : Cursor) {e : ParseError}
    (h : tokensFrom place.position place.ahead = .error e) :
    ∃ before c rest fault, Relation.ReflTransGen Step place ⟨before, c :: rest⟩ ∧
      Text.isBlank c = false ∧ token c rest = .error fault ∧
      e = fault.toError (Position.start.after before) := by
  obtain ⟨before, ahead⟩ := place
  generalize hpos : Cursor.position ⟨before, ahead⟩ = pos at h
  dsimp only at h
  fun_induction tokensFrom pos ahead generalizing before with
  | case1 pos => exact absurd h (by simp)
  | case2 pos c rest hblank ih =>
    have hnext : Cursor.position ⟨before ++ [c], rest⟩ = pos.next c := by
      rw [← hpos]
      exact Position.after_append _ _ _
    obtain ⟨found, d, more, fault, hreach, hrest⟩ := ih (before ++ [c]) hnext h
    exact ⟨found, d, more, fault, .head (.blank hblank) hreach, hrest⟩
  | case3 pos c rest hblank fault hfault =>
    injection h with h
    subst h
    subst hpos
    exact ⟨before, c, rest, fault, .refl, by simpa using hblank, hfault, rfl⟩
  | case4 pos c rest hblank kind more htoken e' herror ih =>
    injection h with h
    subst h
    have hrest : more ++ rest.drop more.length = rest :=
      List.prefix_iff_eq_append.mp (token_sound htoken).2
    have hnext : Cursor.position ⟨before ++ c :: more, rest.drop more.length⟩ =
        pos.after (c :: more) := by
      rw [← hpos]
      exact Position.after_append _ _ _
    obtain ⟨found, d, behind, fault, hreach, hfound⟩ := ih (before ++ c :: more) hnext herror
    rw [← hrest] at htoken
    have hstep : Step ⟨before, c :: (more ++ rest.drop more.length)⟩
        ⟨before ++ c :: more, rest.drop more.length⟩ :=
      .token (by simpa using hblank) htoken
    rw [hrest] at hstep
    exact ⟨found, d, behind, fault, .head hstep hreach, hfound⟩
  | case5 => exact absurd h (by simp)

/-- The reader of a text comes to a place where the token that starts there cannot be read. -/
structure Stops (text before : List Char) (c : Char) (rest : List Char) : Prop where
  reaches : Reaches text ⟨before, c :: rest⟩
  start : Text.isBlank c = false
  fails : ∃ fault, token c rest = .error fault

/-- An error is the failure of the one token that cannot be read. -/
theorem exists_stops {text : List Char} {e : ParseError} (h : tokensFrom .start text = .error e) :
    ∃ before c rest, Stops text before c rest := by
  obtain ⟨before, c, rest, fault, hreach, hstart, hfault, -⟩ :=
    exists_fault_of_tokensFrom ⟨[], text⟩ h
  exact ⟨before, c, rest, hreach, hstart, fault, hfault⟩

/-- The error of a text is the failure where the reader stops. -/
theorem Stops.error_eq {text before rest : List Char} {c : Char} {fault : Fault} {e : ParseError}
    (h : Stops text before c rest) (he : tokensFrom .start text = .error e)
    (hfault : token c rest = .error fault) :
    e = fault.toError (Position.start.after before) := by
  rw [h.reaches.error_of_token h.start hfault] at he
  injection he with he
  exact he.symm

/-- The text is what was read before the place and what the reader stops at. -/
theorem Stops.text_eq {text before rest : List Char} {c : Char} (h : Stops text before c rest) :
    before ++ c :: rest = text :=
  h.reaches.text_eq

/-! ## Literals that the text cuts off -/

/-- A string literal starts here, verbatim or not. -/
def OpensString (ahead : List Char) : Prop :=
  (∃ tail, ahead = '"' :: tail) ∨ ∃ tail, ahead = '@' :: '"' :: tail

/-- Behind its apostrophe a character literal is not complete where the text ends, and there is a
way to go on that completes it. -/
def IsCutChar (tail : List Char) : Prop :=
  ∃ more, more ≠ [] ∧ IsCharTail (tail ++ more)

/-- Behind its opening quote a string literal goes on up to a backslash that ends the text. -/
inductive EndsInBackslash : List Char → Prop
  | here : EndsInBackslash ['\\']
  | plain (c : Char) (rest : List Char) : c ≠ '\n' → c ≠ '"' → c ≠ '\\' → EndsInBackslash rest →
      EndsInBackslash (c :: rest)
  | escaped (sequence rest : List Char) : escape (sequence ++ rest) = .ok sequence →
      EndsInBackslash rest → EndsInBackslash ('\\' :: (sequence ++ rest))

/-- A literal that starts with this character ends with the text, behind a backslash. -/
def LeavesBackslash (first : Char) (rest : List Char) : Prop :=
  first = '"' ∧ EndsInBackslash rest ∨ first = '\'' ∧ rest = ['\\']

/-- A character literal ends with the text behind an escape letter that needs more digits. -/
def LeavesDigits (letter first : Char) (rest : List Char) : Prop :=
  first = '\'' ∧ ∃ digits least most, rest = '\\' :: letter :: digits ∧
    escapeDigits? letter = some (least, most) ∧
    (∀ d ∈ digits, Radix.hexadecimal.isDigit d = true) ∧ digits.length < least

/-! ## What stops the readers of literals -/

/-- The reader of a string that ends in a backslash fails behind all of it. -/
theorem stringTail_of_endsInBackslash {text : List Char} (h : EndsInBackslash text) :
    stringTail text = .error ⟨.openEscape, text⟩ := by
  induction h with
  | here => simp [stringTail, escape, Fault.behind]
  | plain c rest hline hquote hslash _ ih =>
    simp [stringTail, hline, hquote, hslash, ih, Fault.behind]
  | escaped sequence rest hsequence _ ih =>
    rw [stringTail]
    simp [hsequence, ih, Fault.behind]

/-- Where that reader finds the end behind a backslash, the string ends in one. -/
theorem endsInBackslash_of_stringTail {text : List Char} {fault : Fault}
    (h : stringTail text = .error fault) (hopen : fault.obstacle = .openEscape) :
    EndsInBackslash text := by
  fun_induction stringTail text generalizing fault with
  | case1 | case2 =>
    injection h with h
    subst h
    exact absurd hopen (by simp)
  | case3 => exact absurd h (by simp)
  | case4 rest inner hinner =>
    injection h with h
    subst h
    obtain ⟨rfl, -⟩ | ⟨c, more, -, rfl⟩ := escape_eq_error hinner
    · exact .here
    · exact absurd hopen (by simp [Fault.behind])
  | case5 rest sequence hsequence inner hinner _ _ ih =>
    injection h with h
    subst h
    have hrest := List.prefix_iff_eq_append.mp (escape_isPrefix hsequence)
    have hmore := EndsInBackslash.escaped sequence _ (by rwa [hrest]) (ih hinner hopen)
    rwa [hrest] at hmore
  | case6 => exact absurd h (by simp)
  | case7 c rest hline hquote hslash inner hinner ih =>
    injection h with h
    subst h
    exact .plain c rest hline hquote hslash (ih hinner hopen)
  | case8 => exact absurd h (by simp)

/-- The reader of a verbatim string fails for one reason only. -/
theorem verbatimTail_obstacle {text : List Char} {fault : Fault}
    (h : verbatimTail text = .error fault) : fault.obstacle = .openString := by
  fun_induction verbatimTail text generalizing fault with
  | case1 =>
    injection h with h
    subst h
    rfl
  | case2 rest inner hinner ih | case5 c rest _ _ inner hinner ih =>
    injection h with h
    subst h
    have hrest : inner.obstacle = .openString := ih hinner
    exact hrest
  | case3 | case4 | case6 => exact absurd h (by simp)

/-- The reader of a character literal never takes it for a string that is open, and finds the end
behind a backslash only where the backslash is all there is. -/
theorem charTail_obstacle {text : List Char} {fault : Fault} (h : charTail text = .error fault) :
    fault.obstacle ≠ .openString ∧ (fault.obstacle = .openEscape → text = ['\\']) := by
  cases text with
  | nil =>
    injection h with h
    subst h
    simp
  | cons c rest =>
    simp only [charTail] at h
    split_ifs at h with hstop hslash
    · injection h with h
      subst h
      simp
    · split at h
      · rename_i inner hinner
        injection h with h
        subst h
        subst hslash
        obtain ⟨rfl, rfl⟩ | ⟨letter, more, -, rfl⟩ := escape_eq_error hinner
        · simp [Fault.behind]
        · simp [Fault.behind]
      · obtain rfl := closeChar_eq_error h
        simp
    · obtain rfl := closeChar_eq_error h
      simp

/-- A letter that needs more digits than there are is refused. -/
theorem charTail_of_leavesDigits {letter first : Char} {rest : List Char}
    (h : LeavesDigits letter first rest) :
    charTail rest = .error ⟨.invalidEscape letter, ['\\']⟩ := by
  obtain ⟨-, digits, least, most, rfl, hbounds, hdigits, hshort⟩ := h
  have hsimple : ¬ simpleEscapes.contains letter = true := by
    rw [List.contains_iff_mem]
    exact notMem_simpleEscapes hbounds
  have htaken : ((digits.take most).takeWhile Radix.hexadecimal.isDigit).length < least := by
    have hwhile := (List.takeWhile_prefix (l := digits.take most)
      Radix.hexadecimal.isDigit).length_le
    have htake := List.length_take_le' most digits
    omega
  have hescape : escape (letter :: digits) = .error ⟨.invalidEscape letter, []⟩ := by
    rw [escape, if_neg hsimple, hbounds]
    simp only [if_pos htaken]
  simp [charTail, hescape, Fault.behind]

/-! ## Character literals that the text cuts off -/

/-- A backslash alone can be completed. -/
theorem isCutChar_backslash : IsCutChar ['\\'] := by
  refine ⟨['n', '\''], by simp, ?_⟩
  have hescape : escape (['n'] ++ ['\'']) = .ok ['n'] := by decide
  exact .escaped ['n'] hescape

/-- Digits that are missing can be added. -/
theorem LeavesDigits.isCutChar {letter first : Char} {rest : List Char}
    (h : LeavesDigits letter first rest) : IsCutChar rest := by
  obtain ⟨-, digits, least, most, rfl, hbounds, hdigits, hshort⟩ := h
  have hle : least ≤ most := by
    unfold escapeDigits? at hbounds
    split at hbounds
    all_goals
      simp only [Option.some.injEq, Prod.mk.injEq, reduceCtorEq] at hbounds
    all_goals omega
  let zeros := List.replicate (least - digits.length) '0'
  have hescape : escape ((letter :: (digits ++ zeros)) ++ ['\'']) =
      .ok (letter :: (digits ++ zeros)) := by
    have hlength : (digits ++ zeros).length = least := by
      simp only [zeros, List.length_append, List.length_replicate]
      omega
    refine escape_eq_ok_iff.mpr (.inr ⟨letter, least, most, _, rfl, hbounds, hlength.ge,
      hlength.trans_le hle, ?_, .inr (by decide)⟩)
    intro d hd
    rcases List.mem_append.mp hd with hd | hd
    · exact hdigits d hd
    · rw [List.eq_of_mem_replicate hd]
      decide
  refine ⟨zeros ++ ['\''], by simp, ?_⟩
  have htail := IsCharTail.escaped _ hescape
  simpa using htail

/-- A character literal that the text cuts off is reported as open, unless the text ends inside its
escape sequence. -/
theorem IsCutChar.openChar_or {tail : List Char} (h : IsCutChar tail) :
    tail = ['\\'] ∨ (∃ letter, LeavesDigits letter '\'' tail) ∨
      ∃ read, charTail tail = .error ⟨.openChar, read⟩ := by
  obtain ⟨more, hmore, htail⟩ := h
  generalize hwhole : tail ++ more = whole at htail
  cases tail with
  | nil => exact .inr (.inr ⟨[], rfl⟩)
  | cons c behind =>
    cases htail with
    | plain d hline hquote hslash =>
      obtain ⟨rfl, hbehind⟩ := List.cons.inj hwhole
      -- only the apostrophe is missing
      have hnil : behind = [] := by
        rcases List.append_eq_singleton_iff.mp hbehind with ⟨hnil, -⟩ | ⟨-, hnil⟩
        · exact hnil
        · exact absurd hnil hmore
      subst hnil
      exact .inr (.inr ⟨[c], by simp [charTail, hline, hquote, hslash, closeChar]⟩)
    | escaped sequence hsequence =>
      rw [List.cons_append] at hwhole
      obtain ⟨rfl, hbehind⟩ := List.cons.inj hwhole
      have hfront : behind <+: sequence := by
        rw [← List.dropLast_append_getLast hmore, ← List.append_assoc] at hbehind
        exact ⟨_, (List.append_inj' hbehind rfl).1⟩
      cases behind with
      | nil => exact .inl rfl
      | cons letter digits =>
        have hclosed (hread : escape (letter :: digits) = .ok (letter :: digits)) :
            charTail ('\\' :: letter :: digits) =
              .error ⟨.openChar, '\\' :: letter :: digits⟩ := by
          simp [charTail, hread, closeChar]
        rcases escape_eq_ok_iff.mp hsequence with ⟨single, hsingle, rfl⟩ |
          ⟨single, least, most, all, rfl, hbounds, -, hmost, hall, -⟩
        · obtain ⟨rfl, hdigits⟩ := List.cons_prefix_cons.mp hfront
          obtain rfl := List.prefix_nil.mp hdigits
          have hread : escape ([letter] ++ []) = .ok [letter] :=
            escape_eq_ok_iff.mpr (.inl ⟨letter, hsingle, rfl⟩)
          exact .inr (.inr ⟨_, hclosed hread⟩)
        · obtain ⟨rfl, hdigits⟩ := List.cons_prefix_cons.mp hfront
          have hhex : ∀ d ∈ digits, Radix.hexadecimal.isDigit d = true := fun d hd =>
            hall d (hdigits.subset hd)
          by_cases hshort : digits.length < least
          · exact .inr (.inl ⟨letter, rfl, digits, least, most, rfl, hbounds, hhex, hshort⟩)
          · have hread : escape (letter :: digits ++ []) = .ok (letter :: digits) :=
              escape_eq_ok_iff.mpr (.inr ⟨letter, least, most, digits, rfl, hbounds, by omega,
                hdigits.length_le.trans hmost, hhex, .inr rfl⟩)
            rw [List.append_nil] at hread
            exact .inr (.inr ⟨_, hclosed hread⟩)

/-! ## What stops the reader of tokens -/

/-- An unterminated string is reported where the token starts, or behind what was read of an escape
sequence. -/
theorem Fault.toError_eq_unterminatedString_iff {fault : Fault} {start pos : Position} :
    fault.toError start = .unterminatedString pos ↔
      fault.obstacle = .openString ∧ pos = start ∨
        fault.obstacle = .openEscape ∧ pos = start.after fault.read := by
  unfold toError
  dsimp only
  split
  all_goals rename_i hobstacle; simp [hobstacle, eq_comm]

/-- The reader of numbers finds neither of these obstacles. -/
theorem number_obstacle {text : List Char} {fault : Fault} (h : number text = .error fault) :
    fault.obstacle ≠ .openString ∧ fault.obstacle ≠ .openEscape := by
  unfold number at h
  split at h
  · rename_i inner hbody
    injection h with h
    subst h
    unfold numberBody at hbody
    dsimp only at hbody
    split at hbody
    all_goals
      split_ifs at hbody
      all_goals
        injection hbody with hbody
        subst hbody
        simp
  · dsimp only at h
    split at h
    · split_ifs at h
      injection h with h
      subst h
      simp
    · exact absurd h (by simp)

/-- An open string is found in string literals only, and an end behind a backslash in strings and
character literals only. -/
theorem token_obstacle {c : Char} {rest : List Char} {fault : Fault}
    (h : token c rest = .error fault) :
    (fault.obstacle = .openString → OpensString (c :: rest)) ∧
      (fault.obstacle = .openEscape → LeavesBackslash c rest) := by
  unfold token at h
  split at h
  · obtain ⟨hstring, hescape⟩ := number_obstacle (number_of_map_eq_error h)
    exact ⟨fun hopen => absurd hopen hstring, fun hopen => absurd hopen hescape⟩
  · split at h
    · exact absurd h (by simp)
    · split_ifs at h with hcolon hquote happostrophe hverbatim hmarked hdigit hstart
      · split at h
        · rename_i inner hinner
          injection h with h
          subst h
          -- a string
          subst hquote
          exact ⟨fun _ => .inl ⟨rest, rfl⟩,
            fun hopen => .inl ⟨rfl, endsInBackslash_of_stringTail hinner hopen⟩⟩
        · exact absurd h (by simp)
      · split at h
        · rename_i inner hinner
          injection h with h
          subst h
          -- a character literal
          subst happostrophe
          obtain ⟨hstring, hescape⟩ := charTail_obstacle hinner
          exact ⟨fun hopen => absurd hopen hstring, fun hopen => .inr ⟨rfl, hescape hopen⟩⟩
        · exact absurd h (by simp)
      · split at h
        · rename_i inner hinner
          injection h with h
          subst h
          -- a verbatim string, which has no escape sequences
          have hobstacle : inner.obstacle = .openString := verbatimTail_obstacle hinner
          cases rest with
          | nil => exact absurd hverbatim.2 (by simp)
          | cons d more =>
            obtain ⟨rfl, hnext⟩ := hverbatim
            obtain rfl : d = '"' := by simpa using hnext
            refine ⟨fun _ => .inr ⟨more, rfl⟩, ?_⟩
            intro hopen
            exact absurd (hobstacle.symm.trans hopen) (by simp)
        · exact absurd h (by simp)
      · obtain ⟨hstring, hescape⟩ := number_obstacle (number_of_map_eq_error h)
        exact ⟨fun hopen => absurd hopen hstring, fun hopen => absurd hopen hescape⟩
      · injection h with h
        subst h
        simp

/-- The reader of tokens fails at the end of the text if a literal leaves a backslash there. -/
theorem token_of_leavesBackslash {c : Char} {rest : List Char} (h : LeavesBackslash c rest) :
    token c rest = .error ⟨.openEscape, c :: rest⟩ := by
  rcases h with ⟨rfl, hrest⟩ | ⟨rfl, rfl⟩
  · simp [token, TokenKind.ofChar?, stringTail_of_endsInBackslash hrest, Fault.behind]
  · simp [token, TokenKind.ofChar?, charTail, escape, Fault.behind]

/-- A character literal fails as a token as it fails behind its apostrophe. -/
theorem token_apostrophe_of_error {rest : List Char} {fault : Fault}
    (h : charTail rest = .error fault) : token '\'' rest = .error (fault.behind ['\'']) := by
  simp [token, TokenKind.ofChar?, h]

/-- The reader of tokens refuses a letter with too few digits, behind the backslash. -/
theorem token_of_leavesDigits {letter c : Char} {rest : List Char}
    (h : LeavesDigits letter c rest) :
    token c rest = .error ⟨.invalidEscape letter, ['\'', '\\']⟩ := by
  have hread := token_apostrophe_of_error (charTail_of_leavesDigits h)
  obtain ⟨rfl, -⟩ := h
  exact hread

/-! ## Naming the literal that is open -/

/-- An error of a text names and locates the literal that is open: a string that is said to be open
opens at that place, where the text cannot be read on, and a character literal that the text cuts
off is said to be open at its apostrophe. -/
structure NamesOpenLiteral (text : List Char) (e : ParseError) : Prop where
  string : ∀ pos, e = .unterminatedString pos → ∃ before c rest, Stops text before c rest ∧
    OpensString (c :: rest) ∧ pos.IsBehind before
  char : ∀ before rest, Stops text before '\'' rest → IsCutChar rest →
    ∃ pos, e = .unterminatedChar pos ∧ pos.IsBehind before

/-- No token starts where the text ends. -/
theorem Stops.not_isBehind_text {text before rest : List Char} {c : Char} {pos : Position}
    (h : Stops text before c rest) (hbefore : pos.IsBehind before) : ¬ pos.IsBehind text := by
  intro htext
  have hsize := hbefore.offset.symm.trans htext.offset
  rw [← h.text_eq, String.ofList_append, String.utf8ByteSize_append, String.ofList_cons,
    String.utf8ByteSize_append, String.utf8ByteSize_singleton] at hsize
  have hpos := c.utf8Size_pos
  omega

/-- A literal that leaves a backslash is reported as an unterminated string, at the end of the text.
-/
theorem Stops.error_of_leavesBackslash {text before rest : List Char} {c : Char} {e : ParseError}
    (h : Stops text before c rest) (he : tokensFrom .start text = .error e)
    (hends : LeavesBackslash c rest) :
    ∃ pos, e = .unterminatedString pos ∧ pos.IsBehind text := by
  refine ⟨(Position.start.after before).after (c :: rest),
    h.error_eq he (token_of_leavesBackslash hends), ?_⟩
  rw [← h.text_eq]
  exact (Position.isBehind_start.after before).after (c :: rest)

/-- A character literal that leaves digits out is reported as an invalid escape sequence, behind its
backslash. -/
theorem Stops.error_of_leavesDigits {text before rest : List Char} {letter c : Char}
    {e : ParseError} (h : Stops text before c rest) (he : tokensFrom .start text = .error e)
    (hends : LeavesDigits letter c rest) :
    ∃ pos, e = .invalidEscape letter pos ∧ pos.IsBehind (before ++ ['\'', '\\']) :=
  ⟨(Position.start.after before).after ['\'', '\\'],
    h.error_eq he (token_of_leavesDigits hends),
    (Position.isBehind_start.after before).after _⟩

/-- Where the text does not end inside an escape sequence, the literal that is open is named. -/
theorem namesOpenLiteral {text : List Char} {e : ParseError}
    (he : tokensFrom .start text = .error e)
    (hends : ∀ before c rest, Stops text before c rest →
      ¬ LeavesBackslash c rest ∧ ∀ letter, ¬ LeavesDigits letter c rest) :
    NamesOpenLiteral text e where
  string := by
    intro pos hpos
    obtain ⟨before, c, rest, hstops⟩ := exists_stops he
    obtain ⟨fault, hfault⟩ := hstops.fails
    obtain ⟨hstring, hescape⟩ := token_obstacle hfault
    rw [hstops.error_eq he hfault, Fault.toError_eq_unterminatedString_iff] at hpos
    rcases hpos with ⟨hopen, rfl⟩ | ⟨hopen, -⟩
    · exact ⟨before, c, rest, hstops, hstring hopen, Position.isBehind_start.after before⟩
    · exact absurd (hescape hopen) (hends before c rest hstops).1
  char := by
    intro before rest hstops hcut
    obtain ⟨hbackslash, hdigits⟩ := hends before '\'' rest hstops
    rcases hcut.openChar_or with htail | ⟨letter, htail⟩ | ⟨read, htail⟩
    · exact absurd (.inr ⟨rfl, htail⟩) hbackslash
    · exact absurd htail (hdigits letter)
    · exact ⟨Position.start.after before, hstops.error_eq he (token_apostrophe_of_error htail),
        Position.isBehind_start.after before⟩

end Lexer

open Lexer

/-- An error names and locates the literal that is open exactly if the text does not end inside an
escape sequence: behind the backslash of one, or in a character literal among the digits of one. At
the end behind a backslash the error is an open string at the end of the text, whatever the literal
is; among digits it is an invalid escape sequence at its letter. -/
theorem open_literals_are_named_iff {text : String} {e : ParseError}
    (h : tokenize text = .error e) :
    (NamesOpenLiteral text.toList e ↔ ∀ before c rest, Stops text.toList before c rest →
        ¬ LeavesBackslash c rest ∧ ∀ letter, ¬ LeavesDigits letter c rest) ∧
      (∀ before c rest, Stops text.toList before c rest → LeavesBackslash c rest →
        ∃ pos, e = .unterminatedString pos ∧ pos.IsBehind text.toList) ∧
      (∀ before c rest letter, Stops text.toList before c rest → LeavesDigits letter c rest →
        ∃ pos, e = .invalidEscape letter pos ∧ pos.IsBehind (before ++ ['\'', '\\'])) := by
  refine ⟨⟨?_, ?_⟩, ?_, ?_⟩
  · intro hnames before c rest hstops
    constructor
    · intro hbackslash
      -- the end of the text is not where a literal opens
      obtain ⟨pos, hpos, hend⟩ := hstops.error_of_leavesBackslash h hbackslash
      obtain ⟨front, d, behind, hother, -, hfront⟩ := hnames.string pos hpos
      exact hother.not_isBehind_text hfront hend
    · intro letter hdigits
      obtain ⟨pos, hpos, -⟩ := hstops.error_of_leavesDigits h hdigits
      obtain ⟨rfl, -⟩ := id hdigits
      obtain ⟨place, hplace, -⟩ := hnames.char before rest hstops hdigits.isCutChar
      rw [hpos] at hplace
      exact absurd hplace (by simp)
  · intro hends
    exact namesOpenLiteral h hends
  · intro before c rest hstops hbackslash
    exact hstops.error_of_leavesBackslash h hbackslash
  · intro before c rest letter hstops hdigits
    exact hstops.error_of_leavesDigits h hdigits

/-- A string that the text ends behind a backslash is not named. -/
theorem open_literals_are_named_iff_sample :
    tokenize "A(\"b\\" = .error (.unterminatedString ⟨5, 1, 6⟩) ∧
      Stops "A(\"b\\".toList ['A', '('] '"' ['b', '\\'] ∧ LeavesBackslash '"' ['b', '\\'] ∧
      ¬ NamesOpenLiteral "A(\"b\\".toList (.unterminatedString ⟨5, 1, 6⟩) := by
  have hread : tokenize "A(\"b\\" = .error (.unterminatedString ⟨5, 1, 6⟩) := by decide +kernel
  have hends : LeavesBackslash '"' ['b', '\\'] :=
    .inl ⟨rfl, .plain 'b' _ (by decide) (by decide) (by decide) .here⟩
  have hname : token 'A' ['(', '"', 'b', '\\'] = .ok (.identifier, []) := by decide +kernel
  have hparen : token '(' ['"', 'b', '\\'] = .ok (.leftParen, []) := by decide +kernel
  have hfirst : Step ⟨[], ['A', '(', '"', 'b', '\\']⟩ ⟨['A'], ['(', '"', 'b', '\\']⟩ :=
    @Step.token [] ['(', '"', 'b', '\\'] [] 'A' .identifier (by decide) hname
  have hsecond : Step ⟨['A'], ['(', '"', 'b', '\\']⟩ ⟨['A', '('], ['"', 'b', '\\']⟩ :=
    @Step.token ['A'] ['"', 'b', '\\'] [] '(' .leftParen (by decide) hparen
  have hstops : Stops "A(\"b\\".toList ['A', '('] '"' ['b', '\\'] :=
    ⟨.head hfirst (.single hsecond), by decide, _, token_of_leavesBackslash hends⟩
  refine ⟨hread, hstops, hends, ?_⟩
  intro hnames
  exact ((open_literals_are_named_iff hread).1.mp hnames _ _ _ hstops).1 hends

/-- Behind a backslash that ends the text, an open character literal passes for a string. -/
theorem apostrophe_passes_for_string :
    tokenize "'\\" = .error (.unterminatedString ⟨2, 1, 3⟩) ∧
      ¬ NamesOpenLiteral "'\\".toList (.unterminatedString ⟨2, 1, 3⟩) := by
  constructor
  · decide +kernel
  · intro hnames
    have hstops : Stops "'\\".toList [] '\'' ['\\'] :=
      ⟨.refl, by decide, _, token_of_leavesBackslash (.inr ⟨rfl, rfl⟩)⟩
    obtain ⟨pos, hpos, -⟩ := hnames.char [] _ hstops isCutChar_backslash
    exact absurd hpos (by simp)

end DeclScribe
