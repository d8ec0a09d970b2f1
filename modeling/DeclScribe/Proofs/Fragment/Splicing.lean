import DeclScribe.Proofs.Fragment.RoundTrip
import DeclScribe.Proofs.Token.Fronts

/-!
# Expressions spliced from texts

Two ways of putting a text into another one leave no choice what the whole is read as. Behind a name
and an equal sign a text is an expression if it is one by itself, and the whole is the assignment of
it to the name. Between two quotes it is an expression only if the whole is a single string literal:
whatever the text does with quotes of its own, the expression would start with a string literal and
end with one, and no other expression does both.
-/

set_option autoImplicit false

namespace DeclScribe

/-- A text is read as an expression if it has the tokens of the expression. -/
theorem Expr.parse_eq_ok_iff {text : String} {e : Expr} :
    Expr.parse text = .ok e ↔ e.WellFormed ∧ Reads text.toList e.pieces := by
  constructor
  · intro h
    obtain ⟨he, hstream⟩ := Expr.parse_sound h
    exact ⟨he, reads_iff_tokenize.mpr hstream⟩
  · rintro ⟨he, hreads⟩
    obtain ⟨stream, hstream, hpieces⟩ := hreads.tokenize
    exact Expr.parse_of_pieces he hstream hpieces

/-! ## Behind a name and an equal sign -/

/-- No prefix operator is a word. -/
theorem PrefixOp.kind_ne_identifier (op : PrefixOp) : op.kind ≠ .identifier := by
  cases op <;> decide

/-- Only an identifier is assigned to. -/
theorem Expr.IsTarget.exists_eq {e : Expr} (h : e.IsTarget) : ∃ text, e = .identifier text := by
  cases e with
  | name path =>
    cases path with
    | identifier text => exact ⟨text, rfl⟩
    | _ => exact absurd h id
  | _ => exact absurd h id

/-- An expression that is no assignment has no equal sign as its second token. -/
theorem Expr.IsOperand.pieces_ne {e : Expr} (hoperand : e.IsOperand) (he : e.WellFormed)
    (target : String) (more : List Piece) :
    e.pieces ≠ .word target :: .fixed .equals :: more := by
  intro h
  induction e generalizing more with
  | literal value => exact absurd h (by simp [pieces])
  | name path =>
    cases path with
    | identifier text => exact absurd h (by simp [pieces, Name.pieces])
    | aliased qualifier inner => exact absurd h (by simp [pieces, Name.pieces, Piece.fixed])
    | _ => exact he.1
  | predefined type => exact absurd h (by simp [pieces])
  | member receiver field ih =>
    obtain ⟨hreceiver, hwf, -⟩ := he
    rw [pieces] at h
    -- The receiver is one token and a dot follows, or it has the equal sign itself.
    rcases hfront : receiver.pieces with _ | ⟨first, _ | ⟨second, rest⟩⟩
    · exact absurd h (by simp [hfront, Piece.fixed, Piece.word])
    · exact absurd h (by simp [hfront, Piece.fixed])
    · rw [hfront, List.cons_append, List.cons_append] at h
      obtain ⟨rfl, hbehind⟩ := List.cons.inj h
      obtain ⟨rfl, -⟩ := List.cons.inj hbehind
      exact ih hreceiver.isOperand hwf rest hfront
  | unary op operand _ =>
    obtain ⟨hfirst, -⟩ := List.cons.inj h
    exact op.kind_ne_identifier (congrArg Piece.kind hfirst)
  | paren inner _ => exact absurd h (by simp [pieces, Piece.fixed, Piece.word])
  | typeOf type => exact absurd h (by simp [pieces, Piece.fixed])
  | nameOf inner _ => exact absurd h (by simp [pieces, Piece.fixed])
  | assign left right _ _ => exact hoperand

/-- An expression that goes on with an equal sign behind a first word is an assignment. -/
theorem Expr.exists_eq_assign {e : Expr} (he : e.WellFormed) {target : String} {more : List Piece}
    (h : e.pieces = .word target :: .fixed .equals :: more) :
    ∃ right : Expr, e = .assign (.identifier target) right ∧ right.WellFormed ∧
      right.pieces = more := by
  cases e with
  | assign left right =>
    obtain ⟨htarget, -, hright⟩ := he
    obtain ⟨text, rfl⟩ := htarget.exists_eq
    obtain ⟨hword, hbehind⟩ := List.cons.inj h
    obtain rfl : text = target := congrArg Piece.lexeme hword
    exact ⟨right, rfl, hright, (List.cons.inj hbehind).2⟩
  | _ =>
    refine absurd h (IsOperand.pieces_ne ?_ he target more)
    exact trivial

/-- A text that is read as an identifier is the identifier with white space around it. -/
theorem Name.exists_gaps_of_parse {name id : String}
    (h : Name.parse name = .ok (.identifier id)) :
    IsIdentifierText id ∧ ∃ gap behind, IsGap gap ∧ IsGap behind ∧
      name.toList = gap ++ (id.toList ++ behind) := by
  obtain ⟨hid, stream, hstream, hpieces⟩ := Name.parse_sound h
  obtain ⟨⟨gap, spaced, htokens, hspelled⟩, -⟩ := tokenize_isSpelledBy hstream
  rw [← htokens, List.map_map, Name.pieces] at hpieces
  obtain ⟨entry, rfl, hentry⟩ := List.map_eq_singleton_iff.mp hpieces
  refine ⟨hid, gap, entry.2, hspelled.blank, hspelled.blanks entry List.mem_cons_self, ?_⟩
  have hlexeme : entry.1.lexeme = id := congrArg Piece.lexeme hentry
  rw [hspelled.text, spelled, List.flatMap_singleton, hlexeme]

/-- Behind a name and an equal sign a text is read as it is by itself. -/
theorem reads_named_iff {name id value : String} (h : Name.parse name = .ok (.identifier id))
    {pieces : List Piece} :
    Reads (name ++ " = " ++ value).toList pieces ↔
      ∃ more, pieces = .word id :: .fixed .equals :: more ∧ Reads value.toList more := by
  obtain ⟨hid, gap, behind, hgap, hbehind, hname⟩ := Name.exists_gaps_of_parse h
  have htext : (name ++ " = " ++ value).toList =
      gap ++ (id.toList ++ ((behind ++ [' ']) ++ (['='] ++ ' ' :: value.toList))) := by
    rw [String.toList_append, String.toList_append, hname]
    simp
  have hspace : IsGap (behind ++ [' ']) :=
    List.forall_mem_append.mpr ⟨hbehind, List.forall_mem_singleton.mpr (by decide)⟩
  have hbreak : IsBreak ((behind ++ [' ']) ++ (['='] ++ ' ' :: value.toList)) :=
    hspace.isBreak_append (by simp)
  rw [htext, reads_gap_iff hgap, reads_cons_iff hid.isLexeme (hbreak.endsToken .identifier)]
  simp only [reads_gap_iff hspace, reads_cons_iff (.single .equals '=' rfl) trivial,
    reads_blank_iff (c := ' ') (by decide), String.ofList_toList]
  constructor
  · rintro ⟨more, rfl, rest, rfl, hrest⟩
    exact ⟨rest, rfl, hrest⟩
  · rintro ⟨rest, rfl, hrest⟩
    exact ⟨_, rfl, rest, rfl, hrest⟩

/-- A name, an equal sign and a text are an expression if the text is one, and then the assignment
of it to the name. -/
theorem Expr.parse_named_iff {name id value : String} (h : Name.parse name = .ok (.identifier id))
    {e : Expr} :
    Expr.parse (name ++ " = " ++ value) = .ok e ↔
      ∃ right, Expr.parse value = .ok right ∧ e = .assign (.identifier id) right := by
  obtain ⟨hid, -⟩ := Name.exists_gaps_of_parse h
  rw [Expr.parse_eq_ok_iff, reads_named_iff h]
  constructor
  · rintro ⟨he, more, hpieces, hmore⟩
    obtain ⟨right, rfl, hright, rfl⟩ := Expr.exists_eq_assign he hpieces
    exact ⟨right, Expr.parse_eq_ok_iff.mpr ⟨hright, hmore⟩, rfl⟩
  · rintro ⟨right, hparse, rfl⟩
    obtain ⟨hright, hreads⟩ := Expr.parse_eq_ok_iff.mp hparse
    exact ⟨⟨trivial, ⟨trivial, hid⟩, hright⟩, right.pieces, rfl, hreads⟩

/-! ## Between quotes -/

/-- An expression that starts with a string literal and ends with one is that string literal. -/
theorem Expr.exists_eq_string {e : Expr} (he : e.WellFormed)
    (hfirst : ∃ first ∈ e.pieces.head?, first.kind = .string)
    (hlast : ∃ last ∈ e.pieces.getLast?, last.kind = .string) :
    ∃ token, e = .literal ⟨.string, token⟩ := by
  obtain ⟨first, hhead, hstring⟩ := hfirst
  obtain ⟨last, htail, hstring'⟩ := hlast
  cases e with
  | literal value =>
    obtain ⟨kind, token⟩ := value
    obtain rfl : Literal.piece ⟨kind, token⟩ = first := Option.some.inj hhead
    cases kind with
    | string => exact ⟨token, rfl⟩
    | _ => exact absurd hstring (by simp [Literal.piece, Piece.word])
  | name path =>
    obtain ⟨word, rest, -, hpieces⟩ := path.exists_pieces_eq_cons he.2
    rw [pieces, hpieces] at hhead
    obtain rfl := Option.some.inj hhead
    exact absurd hstring (by simp [Piece.word])
  | member receiver field =>
    rw [pieces, List.getLast?_append] at htail
    obtain rfl := Option.some.inj htail
    exact absurd hstring' (by simp [Piece.word])
  | unary op operand =>
    obtain rfl := Option.some.inj hhead
    cases op <;> exact absurd hstring (by decide)
  | assign left right =>
    obtain ⟨text, rfl⟩ := he.1.exists_eq
    obtain rfl := Option.some.inj hhead
    exact absurd hstring (by simp [Piece.word])
  | _ =>
    obtain rfl := Option.some.inj hhead
    exact absurd hstring (by simp [Piece.word, Piece.fixed])

/-- If a text between quotes has tokens, it starts with a string literal and ends with one, and
there is nothing around its tokens. -/
theorem exists_strings_of_quoted {value : String} {stream : TokenStream}
    (h : tokenize ("\"" ++ value ++ "\"") = .ok stream) :
    (∃ first ∈ stream.tokens.head?, first.kind = .string) ∧
      (∃ last ∈ stream.tokens.getLast?, last.kind = .string) ∧
      ∀ t, stream.tokens = [t] → t.lexeme = "\"" ++ value ++ "\"" := by
  obtain ⟨⟨gap, spaced, htokens, hspelled⟩, -⟩ := tokenize_isSpelledBy h
  have hlexemes : ∀ entry ∈ spaced, IsLexeme entry.1.kind entry.1.lexeme.toList := by
    intro entry hentry
    exact Lexer.isLexeme_of_tokensFrom h entry.1 (htokens ▸ List.mem_map_of_mem hentry)
  have hhead : ("\"" ++ value ++ "\"").toList.head? = some '"' := by simp
  have hlast : ("\"" ++ value ++ "\"").toList.getLast? = some '"' := by
    rw [String.toList_append]
    exact List.getLast?_concat
  obtain ⟨rfl, first, rest, hrest, hfirst⟩ := hspelled.exists_first hlexemes (by decide) hhead
  obtain ⟨front, last, hfront, hgap, hend⟩ :=
    hspelled.exists_last (by simp [hrest]) hlexemes (by decide) hlast
  rw [← htokens]
  refine ⟨⟨first.1, by simp [hrest], ?_⟩, ⟨last.1, by simp [hfront], ?_⟩, ?_⟩
  · exact (hlexemes first (by simp [hrest])).kind_of_head? hfirst
  · exact (hlexemes last (by simp [hfront])).kind_of_getLast? hend
  · intro t ht
    obtain ⟨entry, rfl, rfl⟩ := List.map_eq_singleton_iff.mp ht
    obtain rfl : entry = last := by simpa using congrArg List.getLast? hfront
    rw [← String.toList_inj, hspelled.text, spelled, List.flatMap_singleton, hgap]
    simp

/-- A text between quotes is an expression only if it is one string literal with them. -/
theorem Expr.parse_quoted_iff {value : String} {e : Expr} :
    Expr.parse ("\"" ++ value ++ "\"") = .ok e ↔
      IsSoleToken .string ("\"" ++ value ++ "\"") ∧
        e = .literal ⟨.string, "\"" ++ value ++ "\""⟩ := by
  constructor
  · intro h
    obtain ⟨he, stream, hstream, hpieces⟩ := Expr.parse_sound h
    obtain ⟨⟨first, hhead, hfirst⟩, ⟨last, htail, hlast⟩, hsole⟩ :=
      exists_strings_of_quoted hstream
    obtain ⟨token, rfl⟩ := Expr.exists_eq_string he
      ⟨first.piece, by rw [← hpieces, List.head?_map, hhead]; rfl, hfirst⟩
      ⟨last.piece, by rw [← hpieces, List.getLast?_map, htail]; rfl, hlast⟩
    obtain ⟨t, ht, hpiece⟩ := List.map_eq_singleton_iff.mp hpieces
    obtain rfl : t.lexeme = token := congrArg Piece.lexeme hpiece
    rw [← hsole t ht]
    exact ⟨he, rfl⟩
  · rintro ⟨hsole, rfl⟩
    have hliteral : (Expr.literal ⟨.string, "\"" ++ value ++ "\""⟩).WellFormed := hsole
    exact Expr.parse_print hliteral

end DeclScribe
