import DeclScribe.Proofs.Manifest.Spans
import Mathlib.Data.Set.Basic
import Mathlib.Order.Bounds.Basic

/-!
# Which place of a value is answered

A value can stand at many places of a source, and a search answers one of them: the first place
between quotes at or behind the offset, or else the first place there. Where the offset cuts a
character, or the value does not stand behind it, the whole source is searched in the same way. The
places are said here by the bytes of the source, and not by how they are found.
-/

set_option autoImplicit false

namespace DeclScribe.Span

/-! ## Places of a text -/

/-- A text that is not empty has bytes. -/
theorem byteLength_pos {text : List Char} (h : text ≠ []) : 0 < byteLength text := by
  cases text with
  | nil => exact absurd rfl h
  | cons c rest =>
    have hsize := c.utf8Size_pos
    rw [byteLength]
    omega

/-- Of two texts at the front of a source, the one with fewer bytes is at the front of the other. -/
theorem prefix_of_byteLength_le {text more source : List Char} (htext : text <+: source)
    (hmore : more <+: source) (hle : byteLength text ≤ byteLength more) : text <+: more := by
  obtain h | ⟨rest, rfl⟩ := List.prefix_or_prefix_of_prefix htext hmore
  · exact h
  · rw [byteLength_append] at hle
    have hrest : rest = [] := by
      by_contra hne
      have hpos := byteLength_pos hne
      omega
    simp [hrest]

/-- The bytes of a string are those of its characters. -/
theorem utf8ByteSize_eq (text : String) : text.utf8ByteSize = byteLength text.toList := by
  rw [byteLength_eq_utf8Len, ← String.utf8ByteSize_ofList, String.ofList_toList]

/-- An offset lies between characters of a source if it counts the bytes of a text at its front. -/
theorem isValid_iff_exists_append {source : String} {n : Nat} :
    String.Pos.Raw.IsValid source ⟨n⟩ ↔
      ∃ before after, source.toList = before ++ after ∧ n = byteLength before := by
  rw [String.Pos.Raw.isValid_iff_exists_append]
  constructor
  · rintro ⟨before, after, rfl, hn⟩
    refine ⟨before.toList, after.toList, String.toList_append, ?_⟩
    rw [← utf8ByteSize_eq]
    exact congrArg String.Pos.Raw.byteIdx hn
  · rintro ⟨before, after, hsource, rfl⟩
    refine ⟨String.ofList before, String.ofList after, ?_, ?_⟩
    · rw [← String.ofList_append, ← hsource, String.ofList_toList]
    · rw [String.rawEndPos_ofList, byteLength_eq_utf8Len]

/-- What the bytes of a source say at a place is what its characters say there. -/
theorem covers_iff_isPlaceOf {span : Span} {source text : String} :
    span.Covers source text ↔ span.IsPlaceOf source.toList text.toList := by
  refine ⟨fun h => ?_, IsPlaceOf.covers⟩
  obtain ⟨before, behind, hbefore, hstart⟩ := isValid_iff_exists_append.mp h.start
  obtain ⟨through, after, hthrough, hstop⟩ := isValid_iff_exists_append.mp h.stop
  obtain ⟨piece, rfl⟩ : before <+: through :=
    prefix_of_byteLength_le ⟨behind, hbefore.symm⟩ ⟨after, hthrough.symm⟩ (by omega)
  have hlength : span.length = byteLength piece := by
    rw [byteLength_append] at hstop
    omega
  have htext : text = String.ofList piece := by
    rw [← h.content, hstart, hlength, byteLength_eq_utf8Len, byteLength_eq_utf8Len,
      ← String.extract_of_valid before piece after, ← hthrough, String.ofList_toList]
  refine ⟨before, after, ?_, ?_⟩
  · rw [hthrough, htext, String.toList_ofList]
  · rw [htext, String.toList_ofList, ← hstart, ← hlength]

/-- The places of a text in a source at or behind an offset. -/
def placesFrom (source text : String) (start : Nat) : Set Nat :=
  {n | start ≤ n ∧ Covers ⟨n, text.utf8ByteSize⟩ source text}

/-- The places of a text, said with characters: what stands before it and behind it. -/
theorem mem_placesFrom {source text : String} {start n : Nat} :
    n ∈ placesFrom source text start ↔ start ≤ n ∧
      ∃ before after, source.toList = before ++ text.toList ++ after ∧ n = byteLength before := by
  simp only [placesFrom, Set.mem_ofPred_eq, covers_iff_isPlaceOf, IsPlaceOf, utf8ByteSize_eq,
    Span.mk.injEq, and_true]

/-! ## Offsets between characters -/

/-- Cutting off the bytes of a text leaves what stands behind it. -/
theorem dropBytes?_append (before tail : List Char) :
    dropBytes? (before ++ tail) (byteLength before) = some tail := by
  induction before with
  | nil => rw [byteLength, List.nil_append, dropBytes?]
  | cons c rest ih =>
    have hsize := c.utf8Size_pos
    obtain ⟨n, hn⟩ := Nat.exists_eq_succ_of_ne_zero (n := byteLength (c :: rest))
      (by rw [byteLength]; omega)
    rw [hn, List.cons_append, dropBytes?]
    rw [byteLength] at hn
    rw [if_pos (by omega), ← ih]
    congr 1
    omega

/-- Text can be cut off at an offset exactly if the offset lies between characters of the source. -/
theorem isValid_iff_exists_dropBytes? {source : String} {start : Nat} :
    String.Pos.Raw.IsValid source ⟨start⟩ ↔ ∃ tail, dropBytes? source.toList start = some tail := by
  rw [isValid_iff_exists_append]
  constructor
  · rintro ⟨before, tail, hsource, rfl⟩
    exact ⟨tail, by rw [hsource, dropBytes?_append]⟩
  · rintro ⟨tail, htail⟩
    obtain ⟨before, hsource, rfl⟩ := exists_of_dropBytes? htail
    exact ⟨before, tail, hsource, rfl⟩

/-- The places behind an offset between characters are the places in the text behind it. -/
theorem mem_placesFrom_iff_tail {source text : String} {start n : Nat} {tail : List Char}
    (hdrop : dropBytes? source.toList start = some tail) :
    n ∈ placesFrom source text start ↔
      ∃ before after, tail = before ++ text.toList ++ after ∧ n = start + byteLength before := by
  obtain ⟨skipped, hsource, hskipped⟩ := exists_of_dropBytes? hdrop
  rw [mem_placesFrom]
  constructor
  · rintro ⟨hle, before, after, hplace, rfl⟩
    obtain ⟨between, rfl⟩ : skipped <+: before := by
      apply prefix_of_byteLength_le ⟨tail, hsource.symm⟩
      · exact ⟨text.toList ++ after, by rw [← List.append_assoc, ← hplace]⟩
      · omega
    rw [hsource, List.append_assoc, List.append_assoc, List.append_cancel_left_eq] at hplace
    refine ⟨between, after, by rw [hplace, List.append_assoc], ?_⟩
    rw [byteLength_append, hskipped]
  · rintro ⟨before, after, htail, rfl⟩
    refine ⟨by omega, skipped ++ before, after, ?_, ?_⟩
    · rw [hsource, htail]
      simp only [List.append_assoc]
    · rw [byteLength_append, hskipped]

/-! ## Values -/

/-- A text that stands somewhere is found, and not behind that place. -/
theorem exists_first?_le (wanted before after : List Char) :
    ∃ n, first? wanted (before ++ wanted ++ after) = some n ∧ n ≤ byteLength before := by
  induction before with
  | nil =>
    rw [List.nil_append]
    refine ⟨0, ?_, Nat.le_refl 0⟩
    have hfront : wanted.isPrefixOf (wanted ++ after) = true :=
      List.isPrefixOf_iff_prefix.mpr (List.prefix_append wanted after)
    cases htext : wanted ++ after with
    | nil =>
      rw [first?, if_pos]
      rw [List.isEmpty_iff]
      exact (List.append_eq_nil_iff.mp htext).1
    | cons c rest =>
      rw [htext] at hfront
      rw [first?, if_pos hfront]
  | cons c rest ih =>
    obtain ⟨n, hn, hle⟩ := ih
    rw [List.cons_append, List.cons_append, first?, byteLength]
    split
    · exact ⟨0, rfl, by omega⟩
    · rw [hn, Option.map_some]
      exact ⟨n + c.utf8Size, rfl, by omega⟩

/-- What is found first in the text behind an offset is the first place behind the offset. -/
theorem isLeast_of_first? {source text : String} {start n : Nat} {tail : List Char}
    (hdrop : dropBytes? source.toList start = some tail) (h : first? text.toList tail = some n) :
    IsLeast (placesFrom source text start) (start + n) := by
  constructor
  · rw [mem_placesFrom_iff_tail hdrop]
    obtain ⟨before, after, htail, rfl⟩ := exists_of_first? h
    exact ⟨before, after, htail, rfl⟩
  · intro m hm
    obtain ⟨before, after, htail, rfl⟩ := (mem_placesFrom_iff_tail hdrop).mp hm
    obtain ⟨k, hk, hle⟩ := exists_first?_le text.toList before after
    rw [← htail, h] at hk
    injection hk with hk
    omega

/-- If nothing is found in the text behind an offset, there is no place behind it. -/
theorem placesFrom_eq_empty_of_first? {source text : String} {start : Nat} {tail : List Char}
    (hdrop : dropBytes? source.toList start = some tail) (h : first? text.toList tail = none) :
    placesFrom source text start = ∅ := by
  rw [Set.eq_empty_iff_forall_notMem]
  intro n hn
  obtain ⟨before, after, htail, -⟩ := (mem_placesFrom_iff_tail hdrop).mp hn
  obtain ⟨k, hk, -⟩ := exists_first?_le text.toList before after
  rw [← htail, h] at hk
  exact absurd hk (by simp)

/-- A span is the preferred place of a value at or behind an offset: the first one between quotes
that are themselves at or behind the offset, or the first one of all if there are no such quotes. -/
def IsPreferred (span : Span) (source value : String) (start : Nat) : Prop :=
  (∃ n, IsLeast (placesFrom source ("\"" ++ value ++ "\"") start) n ∧
    span = ⟨n + 1, value.utf8ByteSize⟩) ∨
  (placesFrom source ("\"" ++ value ++ "\"") start = ∅ ∧
    ∃ n, IsLeast (placesFrom source value start) n ∧ span = ⟨n, value.utf8ByteSize⟩)

/-- The search for a quoted value looks for the value between quotes. -/
theorem toList_quotes (value : String) :
    ("\"" ++ value ++ "\"").toList = quoted value.toList := by
  rw [String.toList_append, String.toList_append, quoted]
  rfl

/-- A preferred place is not before the offset. -/
theorem IsPreferred.start_le {span : Span} {source value : String} {start : Nat}
    (h : span.IsPreferred source value start) : start ≤ span.offset := by
  obtain ⟨n, hn, rfl⟩ | ⟨-, n, hn, rfl⟩ := h
  · exact Nat.le_succ_of_le hn.1.1
  · exact hn.1.1

/-- What the search for a value answers behind an offset is the preferred place. -/
theorem isPreferred_of_valueFrom? {source value : String} {start : Nat} {tail : List Char}
    {span : Span} (hdrop : dropBytes? source.toList start = some tail)
    (h : valueFrom? source.toList value.toList start = some span) :
    span.IsPreferred source value start := by
  unfold valueFrom? at h
  rw [hdrop, Option.getD_some, ← toList_quotes, ← utf8ByteSize_eq] at h
  dsimp only at h
  split at h
  · rename_i n hn
    injection h with h
    exact .inl ⟨start + n, isLeast_of_first? hdrop hn, h.symm⟩
  · rename_i hquoted
    obtain ⟨n, hn, hspan⟩ := Option.map_eq_some_iff.mp h
    exact .inr ⟨placesFrom_eq_empty_of_first? hdrop hquoted, start + n,
      isLeast_of_first? hdrop hn, hspan.symm⟩

/-- If that search has no answer, the value does not stand behind the offset. -/
theorem placesFrom_eq_empty_of_valueFrom? {source value : String} {start : Nat} {tail : List Char}
    (hdrop : dropBytes? source.toList start = some tail)
    (h : valueFrom? source.toList value.toList start = none) :
    placesFrom source value start = ∅ := by
  unfold valueFrom? at h
  rw [hdrop, Option.getD_some] at h
  dsimp only at h
  split at h
  · exact absurd h (by simp)
  · exact placesFrom_eq_empty_of_first? hdrop (Option.map_eq_none_iff.mp h)

/-- Nothing is found behind an offset that cuts a character or lies behind the source. -/
theorem valueFrom?_eq_none_of_cut {source value : List Char} {start : Nat} (hvalue : value ≠ [])
    (hdrop : dropBytes? source start = none) : valueFrom? source value start = none := by
  cases value with
  | nil => exact absurd rfl hvalue
  | cons c rest => simp [valueFrom?, hdrop, first?, quoted]

/-- A search can be answered at an offset: it lies between characters of the source, and the value
stands at or behind it. -/
def IsAnchor (source value : String) (start : Nat) : Prop :=
  String.Pos.Raw.IsValid source ⟨start⟩ ∧ (placesFrom source value start).Nonempty

/-- The front of a source is an anchor if the value stands anywhere. -/
theorem isAnchor_zero_iff {source value : String} :
    IsAnchor source value 0 ↔ (placesFrom source value 0).Nonempty := by
  refine and_iff_right (isValid_iff_exists_dropBytes?.mpr ⟨source.toList, ?_⟩)
  rw [dropBytes?]

/-- A value that stands behind an offset stands in the source. -/
theorem IsAnchor.zero {source value : String} {start : Nat} (h : IsAnchor source value start) :
    IsAnchor source value 0 := by
  obtain ⟨n, hn⟩ := h.2
  exact isAnchor_zero_iff.mpr ⟨n, Nat.zero_le n, hn.2⟩

/-- The search from an offset fails exactly if the offset is no anchor. -/
theorem valueFrom?_eq_none_iff {source value : String} {start : Nat} (hvalue : value.toList ≠ []) :
    valueFrom? source.toList value.toList start = none ↔ ¬ IsAnchor source value start := by
  rw [IsAnchor, isValid_iff_exists_dropBytes?]
  cases hdrop : dropBytes? source.toList start with
  | none => simp [valueFrom?_eq_none_of_cut hvalue hdrop]
  | some tail =>
    cases hfound : valueFrom? source.toList value.toList start with
    | none => simp [placesFrom_eq_empty_of_valueFrom? hdrop hfound]
    | some span =>
      have hle : start ≤ span.offset := (isPreferred_of_valueFrom? hdrop hfound).start_le
      obtain ⟨before, after, hsource, rfl⟩ := isPlaceOf_valueFrom? hvalue hfound
      have hmem : byteLength before ∈ placesFrom source value start :=
        mem_placesFrom.mpr ⟨hle, before, after, hsource, rfl⟩
      refine iff_of_false (by simp) ?_
      exact not_not_intro ⟨⟨tail, rfl⟩, _, hmem⟩

/-- Behind an anchor nothing else is searched. -/
theorem value?_of_isAnchor {source value : String} {start : Nat} (hvalue : value.toList ≠ [])
    (h : IsAnchor source value start) :
    value? source.toList value.toList start = valueFrom? source.toList value.toList start := by
  have hfound : valueFrom? source.toList value.toList start ≠ none :=
    fun hnone => (valueFrom?_eq_none_iff hvalue).mp hnone h
  obtain ⟨span, hspan⟩ := Option.ne_none_iff_exists'.mp hfound
  rw [value?, if_neg (by simpa using hvalue), hspan]

/-- Behind any other offset nothing is found, and the whole source is searched. -/
theorem value?_of_not_isAnchor {source value : String} {start : Nat} (hvalue : value.toList ≠ [])
    (h : ¬ IsAnchor source value start) :
    value? source.toList value.toList start = valueFrom? source.toList value.toList 0 := by
  have hnone : valueFrom? source.toList value.toList start = none :=
    (valueFrom?_eq_none_iff hvalue).mpr h
  rw [value?, if_neg (by simpa using hvalue), hnone]
  dsimp only
  split
  · rename_i hstart
    rw [← hnone, hstart]
  · rfl

/-- The search for a value fails exactly if the value is empty or stands nowhere. -/
theorem value?_eq_none_iff {source value : String} {start : Nat} :
    value? source.toList value.toList start = none ↔
      value = "" ∨ placesFrom source value 0 = ∅ := by
  by_cases hvalue : value.toList = []
  · refine iff_of_true ?_ (.inl (String.toList_eq_nil_iff.mp hvalue))
    rw [value?, hvalue]
    rfl
  · have hne : value ≠ "" := fun h => hvalue (String.toList_eq_nil_iff.mpr h)
    rw [or_iff_right hne, ← Set.not_nonempty_iff_eq_empty, ← isAnchor_zero_iff]
    by_cases hanchor : IsAnchor source value start
    · rw [value?_of_isAnchor hvalue hanchor, valueFrom?_eq_none_iff hvalue]
      exact not_congr (iff_of_true hanchor hanchor.zero)
    · rw [value?_of_not_isAnchor hvalue hanchor, valueFrom?_eq_none_iff hvalue]

/-- What is answered is the preferred place behind the offset if that is an anchor, and the
preferred place of the whole source if it is none. -/
theorem isPreferred_of_value? {source value : String} {start : Nat} {span : Span}
    (h : value? source.toList value.toList start = some span) :
    (IsAnchor source value start → span.IsPreferred source value start) ∧
    (¬ IsAnchor source value start → span.IsPreferred source value 0) := by
  have hvalue : value.toList ≠ [] := by
    intro hnil
    rw [value?, hnil] at h
    exact absurd h (by simp)
  constructor
  · intro hanchor
    obtain ⟨tail, hdrop⟩ := isValid_iff_exists_dropBytes?.mp hanchor.1
    rw [value?_of_isAnchor hvalue hanchor] at h
    exact isPreferred_of_valueFrom? hdrop h
  · intro hanchor
    rw [value?_of_not_isAnchor hvalue hanchor] at h
    exact isPreferred_of_valueFrom? (by rw [dropBytes?]) h

end DeclScribe.Span
