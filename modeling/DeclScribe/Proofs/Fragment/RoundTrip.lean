import DeclScribe.Fragment
import DeclScribe.Proofs.Fragment.Complete
import DeclScribe.Proofs.Fragment.Printing

/-!
# Reading and printing fragments

What a text is read as is well-formed and has the tokens of the text; a well-formed tree, printed
and read again, is the same tree. Names, types and expressions are one argument with the grammar
and the printing put in.
-/

set_option autoImplicit false

namespace DeclScribe

/-- What is read by `parse` is well-formed, and what is well-formed is read from what it prints. -/
structure IsRoundTrip {α : Type} (parse : String → Except ParseError α) (print : α → String)
    (WellFormed : α → Prop) : Prop where
  wellFormed {text : String} {value : α} : parse text = .ok value → WellFormed value
  parse_print {value : α} : WellFormed value → parse (print value) = .ok value

namespace Parser

variable {α : Type} {kind : FragmentKind}
  {step : Position → (ahead : List Token) → Except ParseError (α × Fewer ahead)}

/-- A whole text is read as what its tokens are, if none of them are left. -/
theorem whole_eq_ok_iff {text : String} {value : α} :
    whole kind step text = .ok value ↔
      ∃ stream, tokenize text = .ok stream ∧ Gives (step stream.stop stream.tokens) value [] := by
  unfold whole
  constructor
  · intro h
    split at h
    · exact absurd h (by simp)
    · exact absurd h (by simp)
    · rename_i t rest stop htokens
      split at h
      · exact absurd h (by simp)
      · rename_i result fewer hstep
        injection h with h
        subst h
        exact ⟨_, htokens, ⟨fewer, hstep⟩⟩
      · exact absurd h (by simp)
  · rintro ⟨⟨tokens, stop⟩, htokens, ⟨fewer, hstep⟩⟩
    cases tokens with
    | nil => exact absurd fewer (by simp)
    | cons t rest =>
      simp only at hstep
      simp only [htokens, hstep]

variable {pieces : α → List Piece} {WellFormed : α → Prop}

/-- If all that a step reads is well-formed and leaves its tokens in the value, the same holds of a
whole text. -/
theorem whole_sound
    (hsound : ∀ {stop : Position} {ahead left : List Token} {value : α}, Lexed ahead →
      Gives (step stop ahead) value left → WellFormed value ∧ Takes ahead (pieces value) left)
    {text : String} {value : α} (h : whole kind step text = .ok value) :
    WellFormed value ∧
      ∃ stream, tokenize text = .ok stream ∧ stream.tokens.map Token.piece = pieces value := by
  obtain ⟨stream, hstream, hgives⟩ := whole_eq_ok_iff.mp h
  have hlexed : Lexed stream.tokens := Lexer.isLexeme_of_tokensFrom hstream
  obtain ⟨hvalue, used, hused, hpieces⟩ := hsound hlexed hgives
  rw [List.append_nil] at hused
  exact ⟨hvalue, stream, hstream, hused ▸ hpieces⟩

/-- If a step reads every well-formed value from its tokens, a text with these tokens is read as the
value. -/
theorem whole_complete
    (hcomplete : ∀ {stop : Position} {ahead : List Token} {value : α}, WellFormed value →
      Takes ahead (pieces value) [] → Gives (step stop ahead) value [])
    {text : String} {stream : TokenStream} {value : α} (hvalue : WellFormed value)
    (hstream : tokenize text = .ok stream) (h : stream.tokens.map Token.piece = pieces value) :
    whole kind step text = .ok value :=
  whole_eq_ok_iff.mpr ⟨stream, hstream, hcomplete hvalue ⟨stream.tokens, by simp, h⟩⟩

end Parser

/-! ## Names -/

/-- A text that is read as a name has the tokens of the name. -/
theorem Name.parse_sound {text : String} {n : Name} (h : Name.parse text = .ok n) :
    n.WellFormed ∧
      ∃ stream, tokenize text = .ok stream ∧ stream.tokens.map Token.piece = n.pieces :=
  Parser.whole_sound Parser.name_sound h

/-- A text with the tokens of a name is read as that name. -/
theorem Name.parse_of_pieces {text : String} {stream : TokenStream} {n : Name} (hn : n.WellFormed)
    (hstream : tokenize text = .ok stream) (h : stream.tokens.map Token.piece = n.pieces) :
    Name.parse text = .ok n :=
  Parser.whole_complete (fun hvalue htakes => Parser.name_complete _ hvalue htakes rfl rfl
    (Parser.qualifiedTail_stop rfl)) hn hstream h

/-- The print of a name has the tokens of the name. -/
theorem Name.tokenize_print {n : Name} (hn : n.WellFormed) :
    ∃ stream, tokenize n.print = .ok stream ∧ stream.tokens.map Token.piece = n.pieces := by
  have hreads := n.reads_print hn .nil .nil
  rw [List.append_nil, List.append_nil] at hreads
  exact hreads.tokenize

/-- A name is read back from its print. -/
theorem Name.parse_print {n : Name} (hn : n.WellFormed) : Name.parse n.print = .ok n := by
  obtain ⟨stream, hstream, hpieces⟩ := Name.tokenize_print hn
  exact Name.parse_of_pieces hn hstream hpieces

/-- The text of an identifier is read as that identifier. -/
theorem IsIdentifierText.parse {name : String} (h : IsIdentifierText name) :
    Name.parse name = .ok (.identifier name) := by
  have hwf : (Name.identifier name).WellFormed := h
  have hprint := Name.parse_print hwf
  rw [Name.print] at hprint
  exact hprint

/-! ## Types -/

/-- A text that is read as a type has the tokens of the type. -/
theorem TypeRef.parse_sound {text : String} {type : TypeRef} (h : TypeRef.parse text = .ok type) :
    type.WellFormed ∧
      ∃ stream, tokenize text = .ok stream ∧ stream.tokens.map Token.piece = type.pieces :=
  Parser.whole_sound Parser.typeRef_sound h

/-- A text with the tokens of a type is read as that type. -/
theorem TypeRef.parse_of_pieces {text : String} {stream : TokenStream} {type : TypeRef}
    (htype : type.WellFormed) (hstream : tokenize text = .ok stream)
    (h : stream.tokens.map Token.piece = type.pieces) : TypeRef.parse text = .ok type :=
  Parser.whole_complete (fun hvalue htakes => Parser.typeRef_complete _ hvalue htakes .nil) htype
    hstream h

/-- The print of a type has the tokens of the type. -/
theorem TypeRef.tokenize_print {type : TypeRef} (htype : type.WellFormed) :
    ∃ stream, tokenize type.print = .ok stream ∧ stream.tokens.map Token.piece = type.pieces := by
  have hreads := type.reads_print htype .nil .nil
  rw [List.append_nil, List.append_nil] at hreads
  exact hreads.tokenize

/-- A type is read back from its print. -/
theorem TypeRef.parse_print {type : TypeRef} (htype : type.WellFormed) :
    TypeRef.parse type.print = .ok type := by
  obtain ⟨stream, hstream, hpieces⟩ := TypeRef.tokenize_print htype
  exact TypeRef.parse_of_pieces htype hstream hpieces

/-! ## Expressions -/

/-- A text that is read as an expression has the tokens of the expression. -/
theorem Expr.parse_sound {text : String} {e : Expr} (h : Expr.parse text = .ok e) :
    e.WellFormed ∧
      ∃ stream, tokenize text = .ok stream ∧ stream.tokens.map Token.piece = e.pieces :=
  Parser.whole_sound Parser.expression_sound h

/-- A text with the tokens of an expression is read as that expression. -/
theorem Expr.parse_of_pieces {text : String} {stream : TokenStream} {e : Expr} (he : e.WellFormed)
    (hstream : tokenize text = .ok stream) (h : stream.tokens.map Token.piece = e.pieces) :
    Expr.parse text = .ok e :=
  Parser.whole_complete (fun hvalue htakes => Parser.expression_complete _ hvalue htakes .nil) he
    hstream h

/-- The print of an expression has the tokens of the expression. -/
theorem Expr.tokenize_print {e : Expr} (he : e.WellFormed) :
    ∃ stream, tokenize e.print = .ok stream ∧ stream.tokens.map Token.piece = e.pieces := by
  have hreads := e.reads_print he .nil .nil
  rw [List.append_nil, List.append_nil] at hreads
  exact hreads.tokenize

/-- An expression is read back from its print. -/
theorem Expr.parse_print {e : Expr} (he : e.WellFormed) : Expr.parse e.print = .ok e := by
  obtain ⟨stream, hstream, hpieces⟩ := Expr.tokenize_print he
  exact Expr.parse_of_pieces he hstream hpieces

/-! ## All fragments -/

/-- Reading and printing are inverse to each other on the well-formed names, types and
expressions, and nothing else is read. -/
theorem fragments_isRoundTrip :
    IsRoundTrip Name.parse Name.print Name.WellFormed ∧
      IsRoundTrip TypeRef.parse TypeRef.print TypeRef.WellFormed ∧
      IsRoundTrip Expr.parse Expr.print Expr.WellFormed := by
  refine ⟨⟨?_, Name.parse_print⟩, ⟨?_, TypeRef.parse_print⟩, ⟨?_, Expr.parse_print⟩⟩
  · intro text n h
    exact (Name.parse_sound h).1
  · intro text type h
    exact (TypeRef.parse_sound h).1
  · intro text e h
    exact (Expr.parse_sound h).1

end DeclScribe
