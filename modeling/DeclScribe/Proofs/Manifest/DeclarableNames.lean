import DeclScribe.Proofs.Fragment.Splicing
import DeclScribe.Proofs.Manifest.Arguments
import DeclScribe.Proofs.Manifest.Validation

/-!
# Names that are checked and names that are read

A name is checked by its characters alone, and what is written for it later is read by the parser of
names, which takes the text apart into tokens first. Both come to the same names. The parser is only
the more generous one as to white space: it reads a text with white space around a name as that
name, while the check looks at the text as a whole.
-/

set_option autoImplicit false

namespace DeclScribe

/-! ## Names as tokens -/

/-- A text is an identifier exactly when it is one identifier token. -/
theorem isIdentifier_iff_isSoleToken {name : String} :
    IsIdentifier name ↔ IsSoleToken .identifier name := by
  rw [isSoleToken_iff]
  constructor
  · rintro ⟨mark, c, rest, hname, hmark, hstart, hparts⟩
    have hstart' : isIdentifierStart c = true := by simpa [isIdentifierStart] using hstart
    have hparts' : ∀ d ∈ rest, isIdentifierPart d = true := by
      intro d hd
      simpa [isIdentifierPart, or_assoc] using hparts d hd
    rw [hname]
    obtain rfl | rfl := hmark
    · exact .identifier c rest hstart' hparts'
    · exact .marked c rest hstart' hparts'
  · intro h
    generalize htext : name.toList = text at h
    cases h with
    | single _ c hc =>
      unfold TokenKind.ofChar? at hc
      split at hc
      all_goals exact absurd hc (by simp)
    | identifier c rest hstart hparts =>
      refine ⟨[], c, rest, htext, .inl rfl, by simpa [isIdentifierStart] using hstart, ?_⟩
      intro d hd
      simpa [isIdentifierPart, or_assoc] using hparts d hd
    | marked c rest hstart hparts =>
      refine ⟨['@'], c, rest, htext, .inr rfl, by simpa [isIdentifierStart] using hstart, ?_⟩
      intro d hd
      simpa [isIdentifierPart, or_assoc] using hparts d hd

/-- No reserved word is marked. -/
theorem notMem_reservedWords_of_isVerbatim {name : String}
    (h : Parser.isVerbatim name = true) : name ∉ reservedWords := by
  have hplain : ∀ word ∈ reservedWords, Parser.isVerbatim word = false := by decide
  intro hmem
  rw [hplain name hmem] at h
  exact absurd h (by simp)

/-- A name can be declared exactly when it is an identifier of the grammar. -/
theorem isDeclarable_iff_isIdentifierText {name : String} :
    IsDeclarable name ↔ IsIdentifierText name := by
  constructor
  · exact IsDeclarable.isIdentifierText
  · rintro ⟨hsole, hfree⟩
    refine ⟨isIdentifier_iff_isSoleToken.mpr hsole, ?_⟩
    obtain hmarked | hunreserved := hfree
    · exact notMem_reservedWords_of_isVerbatim hmarked
    · simpa [isReserved] using hunreserved

/-! ## Names as they are read -/

/-- What is read as one identifier is a name that can be declared, with white space around it. -/
theorem Name.parse_eq_identifier_iff {text id : String} :
    Name.parse text = .ok (.identifier id) ↔
      IsDeclarable id ∧ ∃ gap behind, IsGap gap ∧ IsGap behind ∧
        text.toList = gap ++ (id.toList ++ behind) := by
  constructor
  · intro h
    obtain ⟨hid, hgaps⟩ := Name.exists_gaps_of_parse h
    exact ⟨isDeclarable_iff_isIdentifierText.mpr hid, hgaps⟩
  · rintro ⟨hid, gap, behind, hgap, hbehind, htext⟩
    have hidentifier := isDeclarable_iff_isIdentifierText.mp hid
    have hbreak : IsBreak (behind ++ []) := hbehind.isBreak_append (by simp)
    rw [List.append_nil] at hbreak
    have hnothing : Reads behind [] := by
      have h := Reads.gap hbehind Reads.nil
      rwa [List.append_nil] at h
    have hreads : Reads text.toList [.word id] := by
      rw [htext, reads_gap_iff hgap,
        reads_cons_iff hidentifier.isLexeme (hbreak.endsToken .identifier)]
      exact ⟨[], by rw [String.ofList_toList]; rfl, hnothing⟩
    obtain ⟨stream, hstream, hpieces⟩ := hreads.tokenize
    exact Name.parse_of_pieces hidentifier hstream hpieces

namespace Manifest.Scope

/-- A name passes the check exactly when it is read as the identifier that it spells. A text is read
as an identifier exactly when the identifier passes the check and stands in the text with nothing
but white space around it. -/
theorem checkName_iff_parse (scope : Scope) (what text : String) :
    (scope.checkName text what = .ok () ↔ Name.parse text = .ok (.identifier text)) ∧
      ∀ id, Name.parse text = .ok (.identifier id) ↔
        scope.checkName id what = .ok () ∧ ∃ gap behind, IsGap gap ∧ IsGap behind ∧
          text.toList = gap ++ (id.toList ++ behind) := by
  constructor
  · rw [checkName_iff, Name.parse_eq_identifier_iff]
    constructor
    · intro h
      exact ⟨h, [], [], List.forall_mem_nil _, List.forall_mem_nil _, by simp⟩
    · exact And.left
  · intro id
    rw [checkName_iff]
    exact Name.parse_eq_identifier_iff

/-- A marked word may be reserved, and white space is no part of a name. -/
example (scope : Scope) : scope.checkName "@class" "name" = .ok () ∧
    scope.checkName " a" "name" ≠ .ok () := by
  constructor
  · rfl
  · intro h
    exact nomatch h

end Manifest.Scope

end DeclScribe
