import DeclScribe.Manifest.Span
import Mathlib.Data.String.Basic

/-!
# What a span holds

A search answers with a number of bytes and a length. Here it is shown that both always cut the text
that was looked for out of the source: the searches count the bytes of whole characters, so what
they find is a piece of the source as a list of characters, and such a piece lies between two
boundaries of the source as bytes. This holds wherever a search starts, also inside of a character
or behind the end of the source.
-/

set_option autoImplicit false

namespace DeclScribe.Span

/-- A span is a place of a text in a source: it ends inside of the source, both of its ends lie
between characters, and the text is what stands there. -/
structure Covers (span : Span) (source text : String) : Prop where
  inside : span.offset + span.length ≤ source.utf8ByteSize
  start : String.Pos.Raw.IsValid source ⟨span.offset⟩
  stop : String.Pos.Raw.IsValid source ⟨span.offset + span.length⟩
  content : String.Pos.Raw.extract source ⟨span.offset⟩ ⟨span.offset + span.length⟩ = text

/-! ## Characters and bytes -/

/-- The bytes of characters are counted as a string counts them. -/
theorem byteLength_eq_utf8Len (text : List Char) : byteLength text = String.utf8Len text := by
  induction text with
  | nil => rfl
  | cons c rest ih => rw [byteLength, ih, String.utf8Len_cons, Nat.add_comm]

/-- The bytes of a text and of what follows it add up. -/
theorem byteLength_append (text more : List Char) :
    byteLength (text ++ more) = byteLength text + byteLength more := by
  simp only [byteLength_eq_utf8Len, String.utf8Len_append]

/-- The quote before a text is one byte. -/
theorem byteLength_append_quote (text : List Char) :
    byteLength (text ++ ['"']) = byteLength text + 1 := by
  rw [byteLength_append]
  rfl

/-- A span counts the bytes before a piece of a source, and those of the piece. -/
def IsPlaceOf (span : Span) (source text : List Char) : Prop :=
  ∃ before after, source = before ++ text ++ after ∧
    span = ⟨byteLength before, byteLength text⟩

/-- A piece of the characters of a source is a piece of its bytes. -/
theorem IsPlaceOf.covers {span : Span} {source text : String}
    (h : span.IsPlaceOf source.toList text.toList) : span.Covers source text := by
  obtain ⟨before, after, hsource, rfl⟩ := h
  have hwhole : source = String.ofList (before ++ text.toList ++ after) := by
    rw [← hsource, String.ofList_toList]
  have hsize : source.utf8ByteSize =
      String.utf8Len before + String.utf8Len text.toList + String.utf8Len after := by
    rw [hwhole, String.utf8ByteSize_ofList, String.utf8Len_append, String.utf8Len_append]
  simp only [byteLength_eq_utf8Len]
  refine ⟨by simp only [hsize]; omega, ?_, ?_, ?_⟩
  · rw [String.Pos.Raw.isValid_iff_exists_append]
    refine ⟨String.ofList before, String.ofList (text.toList ++ after), ?_, ?_⟩
    · rw [← String.ofList_append, ← List.append_assoc, ← hwhole]
    · rw [String.rawEndPos_ofList]
  · rw [String.Pos.Raw.isValid_iff_exists_append]
    refine ⟨String.ofList (before ++ text.toList), String.ofList after, ?_, ?_⟩
    · rw [← String.ofList_append, ← hwhole]
    · rw [String.rawEndPos_ofList, String.utf8Len_append]
  · have hcut := String.extract_of_valid before text.toList after
    rw [← hwhole, String.ofList_toList] at hcut
    exact hcut

/-! ## Searches -/

/-- What is found first is a piece of the text. -/
theorem exists_of_first? {wanted text : List Char} {n : Nat} (h : first? wanted text = some n) :
    ∃ before after, text = before ++ wanted ++ after ∧ n = byteLength before := by
  induction text generalizing n with
  | nil =>
    rw [first?] at h
    split at h
    · rename_i hempty
      injection h with h
      rw [List.isEmpty_iff] at hempty
      subst hempty
      exact ⟨[], [], rfl, h.symm⟩
    · exact absurd h (by simp)
  | cons c rest ih =>
    rw [first?] at h
    split at h
    · rename_i hfront
      injection h with h
      obtain ⟨after, hafter⟩ := List.isPrefixOf_iff_prefix.mp hfront
      exact ⟨[], after, hafter.symm, h.symm⟩
    · obtain ⟨m, hm, rfl⟩ := Option.map_eq_some_iff.mp h
      obtain ⟨before, after, rfl, rfl⟩ := ih hm
      exact ⟨c :: before, after, rfl, by rw [byteLength, Nat.add_comm]⟩

/-- What is found last is a piece of the text. -/
theorem exists_of_last? {wanted text : List Char} {n : Nat} (h : last? wanted text = some n) :
    ∃ before after, text = before ++ wanted ++ after ∧ n = byteLength before := by
  induction text generalizing n with
  | nil =>
    rw [last?] at h
    split at h
    · rename_i hempty
      injection h with h
      rw [List.isEmpty_iff] at hempty
      subst hempty
      exact ⟨[], [], rfl, h.symm⟩
    · exact absurd h (by simp)
  | cons c rest ih =>
    rw [last?] at h
    split at h
    · rename_i m hm
      injection h with h
      obtain ⟨before, after, rfl, rfl⟩ := ih hm
      exact ⟨c :: before, after, rfl, by rw [← h, byteLength, Nat.add_comm]⟩
    · split at h
      · rename_i hfront
        injection h with h
        obtain ⟨after, hafter⟩ := List.isPrefixOf_iff_prefix.mp hfront
        exact ⟨[], after, hafter.symm, h.symm⟩
      · exact absurd h (by simp)

/-- What is left behind a number of bytes is left behind whole characters with as many. -/
theorem exists_of_dropBytes? {text tail : List Char} {n : Nat} (h : dropBytes? text n = some tail) :
    ∃ before, text = before ++ tail ∧ byteLength before = n := by
  fun_induction dropBytes? text n with
  | case1 text =>
    injection h with h
    exact ⟨[], h, rfl⟩
  | case2 n => exact absurd h (by simp)
  | case3 c rest n hfits ih =>
    obtain ⟨before, rfl, hbefore⟩ := ih h
    exact ⟨c :: before, rfl, by rw [byteLength, hbefore]; omega⟩
  | case4 c rest n _ => exact absurd h (by simp)

/-- What is found behind an offset is found in the source. Nothing but the empty text is found
behind an offset that is no boundary. -/
theorem isPlaceOf_tail {source text before after : List Char} {start : Nat} (htext : text ≠ [])
    (hfound : (dropBytes? source start).getD [] = before ++ text ++ after) :
    IsPlaceOf ⟨start + byteLength before, byteLength text⟩ source text := by
  cases hdrop : dropBytes? source start with
  | none =>
    rw [hdrop, Option.getD_none] at hfound
    exact absurd hfound.symm (by simp [htext])
  | some rest =>
    rw [hdrop, Option.getD_some] at hfound
    obtain ⟨skipped, hsource, hskipped⟩ := exists_of_dropBytes? hdrop
    refine ⟨skipped ++ before, after, ?_, ?_⟩
    · rw [hsource, hfound]
      simp only [List.append_assoc]
    · rw [← hskipped, byteLength_append]

/-- A value found behind an offset is a piece of the source, between quotes or not. -/
theorem isPlaceOf_valueFrom? {source value : List Char} {start : Nat} {span : Span}
    (hvalue : value ≠ []) (h : valueFrom? source value start = some span) :
    span.IsPlaceOf source value := by
  unfold valueFrom? at h
  dsimp only at h
  split at h
  · -- between quotes
    rename_i n hn
    injection h with h
    obtain ⟨before, after, hfound, rfl⟩ := exists_of_first? hn
    have hinner : (dropBytes? source start).getD [] =
        (before ++ ['"']) ++ value ++ ('"' :: after) := by
      rw [hfound, quoted]
      simp
    have hplace := isPlaceOf_tail hvalue hinner
    rw [byteLength_append_quote, ← Nat.add_assoc] at hplace
    exact h ▸ hplace
  · obtain ⟨n, hn, hspan⟩ := Option.map_eq_some_iff.mp h
    obtain ⟨before, after, hfound, rfl⟩ := exists_of_first? hn
    rw [← hspan]
    exact isPlaceOf_tail hvalue hfound

/-- A value found from an offset, or else anywhere, is a piece of the source. -/
theorem isPlaceOf_value? {source value : List Char} {start : Nat} {span : Span}
    (h : value? source value start = some span) : span.IsPlaceOf source value := by
  unfold value? at h
  split at h
  · exact absurd h (by simp)
  · rename_i hempty
    have hvalue : value ≠ [] := fun hnil => hempty (List.isEmpty_iff.mpr hnil)
    split at h
    · rename_i found hfound
      injection h with h
      exact isPlaceOf_valueFrom? hvalue (h ▸ hfound)
    · split at h
      · exact absurd h (by simp)
      · exact isPlaceOf_valueFrom? hvalue h

/-- The last occurrence of a value is a piece of the source, between quotes or not. -/
theorem isPlaceOf_lastValue? {source value : List Char} {span : Span}
    (h : lastValue? source value = some span) : span.IsPlaceOf source value := by
  obtain ⟨n, hn, rfl⟩ := Option.map_eq_some_iff.mp h
  obtain ⟨before, after, rfl, rfl⟩ := exists_of_last? hn
  exact ⟨before ++ ['"'], '"' :: after, by simp [quoted], by rw [byteLength_append_quote]⟩

/-! ## Keys -/

/-- The lines of a text are the text, line feeds included. -/
theorem flatten_lines (text : List Char) : (lines text).flatten = text := by
  fun_induction lines text with
  | case1 => rfl
  | case2 rest ih => simp [ih]
  | case3 c rest _ hnone ih =>
    rw [hnone] at ih
    simp [← ih]
  | case4 c rest _ line more hmore ih =>
    rw [hmore] at ih
    simp [← ih]

/-- A line is the blanks at its front and the line without them. -/
theorem exists_trimStart (line : List Char) : ∃ blanks, line = blanks ++ trimStart line :=
  ⟨line.takeWhile Text.isBlank, List.takeWhile_append_dropWhile.symm⟩

/-- The lines before the one that is found are passed over with all their bytes. -/
theorem exists_of_keyInLines? {key : List Char} {start offset : Nat} {text : List (List Char)}
    {span : Span} (h : keyInLines? key start offset text = some span) :
    ∃ before after, text.flatten = before ++ key ++ after ∧
      span = ⟨offset + byteLength before, byteLength key⟩ := by
  induction text generalizing offset with
  | nil => exact absurd h (by simp [keyInLines?])
  | cons line rest ih =>
    rw [keyInLines?] at h
    split at h
    · rename_i hentry
      injection h with h
      obtain ⟨blanks, hline⟩ := exists_trimStart line
      have hkey : key.isPrefixOf (trimStart line) = true := by
        have hboth := hentry.2
        rw [isEntry, Bool.and_eq_true] at hboth
        exact hboth.1
      obtain ⟨after, hafter⟩ := List.isPrefixOf_iff_prefix.mp hkey
      have hblanks : byteLength line - byteLength (trimStart line) = byteLength blanks := by
        have hsum : byteLength line = byteLength blanks + byteLength (trimStart line) := by
          rw [← byteLength_append, ← hline]
        omega
      refine ⟨blanks, after ++ rest.flatten, ?_, by rw [← h, hblanks]⟩
      calc (line :: rest).flatten = blanks ++ trimStart line ++ rest.flatten := by
            rw [List.flatten_cons, ← hline]
        _ = blanks ++ key ++ (after ++ rest.flatten) := by
            rw [← hafter]
            simp only [List.append_assoc]
    · obtain ⟨before, after, hrest, rfl⟩ := ih h
      refine ⟨line ++ before, after, by rw [List.flatten_cons, hrest]; simp, ?_⟩
      rw [byteLength_append, Nat.add_assoc]

/-- A key that is found is a piece of the source. -/
theorem isPlaceOf_key? {source key : List Char} {start : Nat} {span : Span}
    (h : key? source key start = some span) : span.IsPlaceOf source key := by
  obtain ⟨before, after, hsource, rfl⟩ := exists_of_keyInLines? h
  rw [flatten_lines] at hsource
  exact ⟨before, after, hsource, by rw [Nat.zero_add]⟩

end DeclScribe.Span
