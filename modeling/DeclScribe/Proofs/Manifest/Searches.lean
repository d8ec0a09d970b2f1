import DeclScribe.Proofs.Manifest.Places
import Mathlib.Data.List.TakeWhile

/-!
# What a search answers

A key is looked for line by line. What is found is the first place at or behind the offset where a
line has the key behind its blanks, and a `=` behind the key. Together with the places of values
this says of every search for which sources and offsets it answers, and with which place.
-/

set_option autoImplicit false

namespace DeclScribe.Span

/-! ## Lines -/

/-- A text is empty or ends with a line feed, so that a line starts behind it. -/
def EndsLine (text : List Char) : Prop :=
  ∀ c ∈ text.getLast?, c = '\n'

/-- A text that is not empty has a line. -/
theorem lines_ne_nil {text : List Char} (h : text ≠ []) : lines text ≠ [] := by
  intro hnil
  rw [← flatten_lines text, hnil] at h
  exact h rfl

/-- No line is empty, since a line feed belongs to the line in front of it. -/
theorem nil_notMem_lines (text : List Char) : [] ∉ lines text := by
  fun_induction lines text with
  | case1 => simp
  | case2 rest ih => simp [ih]
  | case3 c rest _ hnone ih => simp
  | case4 c rest _ line more hmore ih =>
    rw [hmore, List.mem_cons, not_or] at ih
    simpa using ih.2

/-- What is left behind the first character of such a text is such a text. -/
theorem EndsLine.tail {c : Char} {text : List Char} (h : EndsLine (c :: text)) : EndsLine text := by
  intro d hd
  apply h
  rw [List.getLast?_cons, hd]
  rfl

/-- A character in front keeps the end of a text, and is the end itself if nothing follows. -/
theorem EndsLine.cons {c : Char} {text : List Char} (h : EndsLine text)
    (hc : text = [] → c = '\n') : EndsLine (c :: text) := by
  intro d hd
  cases text with
  | nil => exact (Option.some.inj hd) ▸ hc rfl
  | cons e rest => exact h d (by rwa [List.getLast?_cons_cons] at hd)

/-- Behind the end of a line the lines are counted anew. -/
theorem EndsLine.lines_append {before : List Char} (h : EndsLine before) (rest : List Char) :
    lines (before ++ rest) = lines before ++ lines rest := by
  induction before with
  | nil => rfl
  | cons c more ih =>
    have hmore := ih h.tail
    rw [List.cons_append, lines, lines]
    split
    · rw [hmore]
      rfl
    · rename_i hc
      have hne : more ≠ [] := by
        rintro rfl
        exact hc (h c rfl)
      obtain ⟨line, others, hlines⟩ := List.exists_cons_of_ne_nil (lines_ne_nil hne)
      rw [hmore, hlines]
      rfl

/-- A piece without line feeds is at the front of one line. -/
theorem exists_lines_append {front : List Char} (hne : front ≠ []) (hfeed : '\n' ∉ front)
    (after : List Char) :
    ∃ stop more, lines (front ++ after) = (front ++ stop) :: more := by
  induction front with
  | nil => exact absurd rfl hne
  | cons c rest ih =>
    rw [List.mem_cons, not_or] at hfeed
    obtain ⟨hc, hrest⟩ := hfeed
    rw [List.cons_append, lines, if_neg (Ne.symm hc)]
    by_cases hnil : rest = []
    · subst hnil
      cases hlines : lines ([] ++ after) with
      | nil => exact ⟨[], [], rfl⟩
      | cons line more => exact ⟨line, more, rfl⟩
    · obtain ⟨stop, more, hlines⟩ := ih hnil hrest
      rw [hlines]
      exact ⟨stop, more, rfl⟩

/-- A line starts behind a line feed or at the front of the text, and only its last character can be
a line feed. -/
theorem endsLine_of_lines {text : List Char} {earlier later : List (List Char)} {line : List Char}
    (h : lines text = earlier ++ line :: later) :
    EndsLine earlier.flatten ∧ '\n' ∉ line.dropLast := by
  fun_induction lines text generalizing earlier line with
  | case1 => exact absurd h (by simp)
  | case2 rest ih =>
    obtain ⟨rfl, hline⟩ | ⟨others, rfl, hothers⟩ := List.cons_eq_append_iff.mp h
    · injection hline with hline
      exact ⟨by simp [EndsLine], by simp [hline]⟩
    · obtain ⟨hends, hfeed⟩ := ih hothers
      exact ⟨hends.cons fun _ => rfl, hfeed⟩
  | case3 c rest hc hnone ih =>
    obtain ⟨rfl, hline⟩ | ⟨others, rfl, hothers⟩ := List.cons_eq_append_iff.mp h
    · injection hline with hline
      exact ⟨by simp [EndsLine], by simp [hline]⟩
    · exact absurd hothers (by simp)
  | case4 c rest hc first more hmore ih =>
    obtain ⟨rfl, hline⟩ | ⟨others, rfl, hothers⟩ := List.cons_eq_append_iff.mp h
    · injection hline with hline hlater
      have hrest : lines rest = [] ++ first :: later := by rw [hmore, hlater, List.nil_append]
      refine ⟨by simp [EndsLine], ?_⟩
      rw [hline]
      cases first with
      | nil => simp
      | cons d more => simpa [Ne.symm hc] using (ih hrest).2
    · have hrest : lines rest = (first :: others) ++ line :: later := by
        rw [hmore, hothers, List.cons_append]
      obtain ⟨hends, hfeed⟩ := ih hrest
      refine ⟨hends.cons fun hnil => ?_, hfeed⟩
      -- the line that goes on is not empty, so something stands in front
      have hfirst : first = [] := (List.append_eq_nil_iff.mp hnil).1
      exact absurd (hfirst ▸ hmore ▸ List.mem_cons_self) (nil_notMem_lines rest)

/-! ## Entries -/

/-- A line that starts behind a text has a key as the first thing that is not blank, and behind the
key only blanks and a `=`. -/
structure IsEntryLine (before blanks key gap : List Char) : Prop where
  starts : EndsLine before
  unbroken : '\n' ∉ blanks ++ key ++ gap
  blank : ∀ c ∈ blanks ++ gap, Text.isBlank c = true
  first : ∀ c ∈ (key ++ gap).head?, Text.isBlank c = false

/-- A line of a source is the entry of a key, with a number of bytes before the key. -/
def IsEntryAt (source key : List Char) (n : Nat) : Prop :=
  ∃ before blanks gap after, source = before ++ blanks ++ key ++ gap ++ '=' :: after ∧
    IsEntryLine before blanks key gap ∧ n = byteLength (before ++ blanks)

/-- A trimmed line is an entry if it is the key, blanks and a `=`, and then anything. -/
theorem isEntry_iff {key line : List Char} :
    isEntry key line = true ↔ ∃ gap stop, line = key ++ gap ++ '=' :: stop ∧
      ∀ c ∈ gap, Text.isBlank c = true := by
  rw [isEntry, Bool.and_eq_true, List.isPrefixOf_iff_prefix, beq_iff_eq]
  constructor
  · rintro ⟨⟨rest, rfl⟩, hhead⟩
    rw [List.drop_left, List.head?_eq_some_iff] at hhead
    obtain ⟨stop, hstop⟩ := hhead
    refine ⟨rest.takeWhile Text.isBlank, stop, ?_, fun c hc => List.mem_takeWhile_imp hc⟩
    rw [List.append_assoc, ← hstop, trimStart, List.takeWhile_append_dropWhile]
  · rintro ⟨gap, stop, rfl, hgap⟩
    refine ⟨⟨gap ++ '=' :: stop, (List.append_assoc _ _ _).symm⟩, ?_⟩
    rw [List.append_assoc, List.drop_left, trimStart, List.dropWhile_append_of_pos hgap]
    rfl

/-- One of some lines is the entry of a key, with a number of bytes before the key. -/
def IsEntryIn (key : List Char) (offset : Nat) (text : List (List Char)) (n : Nat) : Prop :=
  ∃ earlier line later, text = earlier ++ line :: later ∧ isEntry key (trimStart line) = true ∧
    n = offset + byteLength (earlier.flatten ++ line.takeWhile Text.isBlank)

/-- What trimming takes away are the blanks at the front. -/
theorem byteLength_sub_trimStart (line : List Char) :
    byteLength line - byteLength (trimStart line) =
      byteLength (line.takeWhile Text.isBlank) := by
  have hsum : byteLength line =
      byteLength (line.takeWhile Text.isBlank) + byteLength (trimStart line) := by
    rw [← byteLength_append, trimStart, List.takeWhile_append_dropWhile]
  omega

/-- The entries of some lines lie behind the place where the lines begin. -/
theorem IsEntryIn.le {key : List Char} {offset n : Nat} {text : List (List Char)}
    (h : IsEntryIn key offset text n) : offset ≤ n := by
  obtain ⟨earlier, line, later, -, -, rfl⟩ := h
  omega

/-- An entry is the first line or one of the lines behind it. -/
theorem isEntryIn_cons {key line : List Char} {offset n : Nat} {rest : List (List Char)} :
    IsEntryIn key offset (line :: rest) n ↔
      (isEntry key (trimStart line) = true ∧
        n = offset + (byteLength line - byteLength (trimStart line))) ∨
      IsEntryIn key (offset + byteLength line) rest n := by
  rw [byteLength_sub_trimStart]
  constructor
  · rintro ⟨earlier, entry, later, htext, hentry, rfl⟩
    obtain ⟨rfl, hline⟩ | ⟨others, rfl, hothers⟩ := List.cons_eq_append_iff.mp htext
    · injection hline with hline
      exact .inl ⟨hline ▸ hentry, by rw [hline]; rfl⟩
    · refine .inr ⟨others, entry, later, hothers, hentry, ?_⟩
      rw [List.flatten_cons, List.append_assoc, byteLength_append _ (_ ++ _), Nat.add_assoc]
  · rintro (⟨hentry, rfl⟩ | ⟨earlier, entry, later, rfl, hentry, rfl⟩)
    · exact ⟨[], line, rest, rfl, hentry, rfl⟩
    · refine ⟨line :: earlier, entry, later, rfl, hentry, ?_⟩
      rw [List.flatten_cons, List.append_assoc, byteLength_append _ (_ ++ _), Nat.add_assoc]

/-- A search by lines fails exactly if none of the lines that are left is an entry. -/
theorem keyInLines?_eq_none_iff {key : List Char} {start offset : Nat} {text : List (List Char)} :
    keyInLines? key start offset text = none ↔
      ∀ n, start ≤ n → ¬ IsEntryIn key offset text n := by
  induction text generalizing offset with
  | nil => simp [keyInLines?, IsEntryIn]
  | cons line rest ih =>
    rw [keyInLines?]
    simp only [isEntryIn_cons, not_or]
    split
    · rename_i hentry
      refine iff_of_false (by simp) fun h => ?_
      exact (h _ hentry.1).1 ⟨hentry.2, rfl⟩
    · rename_i hother
      rw [ih]
      refine forall_congr' fun n => imp_congr_right fun hn => ?_
      refine (and_iff_right ?_).symm
      rintro ⟨hentry, rfl⟩
      exact hother ⟨hn, hentry⟩

/-- A search by lines finds the first of the entries that are not before the offset. -/
theorem isLeast_of_keyInLines? {key : List Char} {start offset : Nat} {text : List (List Char)}
    {span : Span} (h : keyInLines? key start offset text = some span) :
    span.length = byteLength key ∧
      IsLeast {n | start ≤ n ∧ IsEntryIn key offset text n} span.offset := by
  induction text generalizing offset with
  | nil => exact absurd h (by simp [keyInLines?])
  | cons line rest ih =>
    rw [keyInLines?] at h
    simp only [isEntryIn_cons]
    split at h
    · rename_i hentry
      injection h with h
      subst h
      refine ⟨rfl, ⟨hentry.1, .inl ⟨hentry.2, rfl⟩⟩, ?_⟩
      rintro n ⟨-, ⟨-, rfl⟩ | hrest⟩
      · exact Nat.le_refl _
      · -- an entry further on lies behind the whole line
        have hle := hrest.le
        dsimp only
        omega
    · rename_i hother
      obtain ⟨hlength, ⟨hstart, hmem⟩, hleast⟩ := ih h
      refine ⟨hlength, ⟨hstart, .inr hmem⟩, ?_⟩
      rintro n ⟨hn, ⟨hentry, rfl⟩ | hrest⟩
      · exact absurd ⟨hn, hentry⟩ hother
      · exact hleast ⟨hn, hrest⟩

/-- The blanks at the front of an entry go up to its key. -/
theorem IsEntryLine.trimmed {before blanks key gap : List Char}
    (h : IsEntryLine before blanks key gap) (stop : List Char) :
    (blanks ++ (key ++ gap ++ '=' :: stop)).takeWhile Text.isBlank = blanks ∧
      trimStart (blanks ++ (key ++ gap ++ '=' :: stop)) = key ++ gap ++ '=' :: stop := by
  have hblanks : ∀ c ∈ blanks, Text.isBlank c = true :=
    fun c hc => h.blank c (List.mem_append_left _ hc)
  obtain ⟨c, rest, hrest, hc⟩ :
      ∃ c rest, key ++ gap ++ '=' :: stop = c :: rest ∧ Text.isBlank c = false := by
    cases hfront : key ++ gap with
    | nil => exact ⟨'=', stop, rfl, by decide⟩
    | cons d more => exact ⟨d, more ++ '=' :: stop, rfl, h.first d (by rw [hfront]; rfl)⟩
  rw [hrest]
  constructor
  · rw [List.takeWhile_append_of_pos hblanks, List.takeWhile_cons_of_neg (by simp [hc]),
      List.append_nil]
  · rw [trimStart, List.dropWhile_append_of_pos hblanks,
      List.dropWhile_cons_of_neg (by simp [hc])]

/-- A line of a source that is an entry is written in the source as one. -/
theorem IsEntryIn.isEntryAt {source key : List Char} {n : Nat}
    (h : IsEntryIn key 0 (lines source) n) : IsEntryAt source key n := by
  obtain ⟨earlier, line, later, hlines, hentry, rfl⟩ := h
  obtain ⟨gap, stop, htrimmed, hgap⟩ := isEntry_iff.mp hentry
  obtain ⟨hends, hfeed⟩ := endsLine_of_lines hlines
  have hline : line = line.takeWhile Text.isBlank ++ key ++ gap ++ '=' :: stop := by
    rw [List.append_assoc, List.append_assoc, ← List.append_assoc key, ← htrimmed, trimStart,
      List.takeWhile_append_dropWhile]
  refine ⟨earlier.flatten, line.takeWhile Text.isBlank, gap, stop ++ later.flatten, ?_, ?_, ?_⟩
  · rw [← flatten_lines source, hlines, List.flatten_append, List.flatten_cons]
    nth_rewrite 1 [hline]
    simp only [List.append_assoc, List.cons_append]
  · refine ⟨hends, fun hmem => hfeed ?_, ?_, ?_⟩
    · rw [hline, List.dropLast_append_of_ne_nil (List.cons_ne_nil _ _)]
      exact List.mem_append_left _ hmem
    · intro c hc
      obtain hc | hc := List.mem_append.mp hc
      · exact List.mem_takeWhile_imp hc
      · exact hgap c hc
    · intro c hc
      have hhead := List.head?_dropWhile_not Text.isBlank line
      rw [← trimStart, htrimmed, List.head?_append, hc] at hhead
      exact hhead
  · rw [Nat.zero_add]

/-- An entry that is written in a source is one of its lines. -/
theorem IsEntryAt.isEntryIn {source key : List Char} {n : Nat} (h : IsEntryAt source key n) :
    IsEntryIn key 0 (lines source) n := by
  obtain ⟨before, blanks, gap, after, rfl, hentry, rfl⟩ := h
  have hfront : '\n' ∉ blanks ++ key ++ gap ++ ['='] := by
    simpa using hentry.unbroken
  obtain ⟨stop, more, hlines⟩ := exists_lines_append (by simp) hfront after
  obtain ⟨hblanks, htrimmed⟩ := hentry.trimmed stop
  refine ⟨lines before, blanks ++ (key ++ gap ++ '=' :: stop), more, ?_, ?_, ?_⟩
  · have hbehind := hentry.starts.lines_append (blanks ++ key ++ gap ++ ['='] ++ after)
    rw [hlines] at hbehind
    simpa only [List.append_assoc, List.cons_append, List.nil_append] using hbehind
  · rw [htrimmed]
    exact isEntry_iff.mpr ⟨gap, stop, rfl, fun c hc => hentry.blank c (List.mem_append_right _ hc)⟩
  · rw [hblanks, flatten_lines, Nat.zero_add]

/-- The lines of a source that are entries are where entries are written in the source. -/
theorem isEntryIn_lines_iff {source key : List Char} {n : Nat} :
    IsEntryIn key 0 (lines source) n ↔ IsEntryAt source key n :=
  ⟨IsEntryIn.isEntryAt, IsEntryAt.isEntryIn⟩

/-- The places of a key in a source at or behind an offset: those where a line is its entry. -/
def entriesFrom (source key : String) (start : Nat) : Set Nat :=
  {n | start ≤ n ∧ IsEntryAt source.toList key.toList n}

/-- The search for a key fails exactly if there is no entry behind the offset. -/
theorem key?_eq_none_iff {source key : String} {start : Nat} :
    key? source.toList key.toList start = none ↔ entriesFrom source key start = ∅ := by
  rw [key?, keyInLines?_eq_none_iff, Set.eq_empty_iff_forall_notMem]
  simp only [isEntryIn_lines_iff, entriesFrom, Set.mem_ofPred_eq, not_and]

/-- The search for a key answers with the key at the first entry behind the offset. -/
theorem key?_eq_some_iff {source key : String} {start : Nat} {span : Span} :
    key? source.toList key.toList start = some span ↔
      span.length = key.utf8ByteSize ∧ IsLeast (entriesFrom source key start) span.offset := by
  have hfound : ∀ found, key? source.toList key.toList start = some found →
      found.length = key.utf8ByteSize ∧ IsLeast (entriesFrom source key start) found.offset := by
    intro found h
    have hleast := isLeast_of_keyInLines? h
    simp only [isEntryIn_lines_iff, ← utf8ByteSize_eq] at hleast
    exact hleast
  refine ⟨hfound span, fun ⟨hlength, hleast⟩ => ?_⟩
  cases hkey : key? source.toList key.toList start with
  | none =>
    rw [key?_eq_none_iff] at hkey
    exact absurd (hkey ▸ hleast.1) (Set.notMem_empty _)
  | some found =>
    obtain ⟨hlength', hleast'⟩ := hfound found hkey
    have hoffset : found.offset = span.offset := hleast'.unique hleast
    obtain ⟨offset, length⟩ := found
    obtain ⟨offset', length'⟩ := span
    dsimp only at hlength hlength' hoffset
    rw [hoffset, hlength', ← hlength]

/-- A search for a value fails exactly if the value is empty or stands nowhere in the source.
Otherwise it answers a place of the value: the preferred one at or behind the offset, if the offset
lies between characters and the value stands behind it, and the preferred one of the whole source,
if not. A search for a key fails exactly if no line at or behind the offset is its entry, and
otherwise answers the first one. -/
theorem searches_answer_first (source value key : String) (start : Nat) :
    (value? source.toList value.toList start = none ↔
      value = "" ∨ placesFrom source value 0 = ∅) ∧
    (∀ span, value? source.toList value.toList start = some span →
      span.Covers source value ∧
      (IsAnchor source value start →
        start ≤ span.offset ∧ span.IsPreferred source value start) ∧
      (¬ IsAnchor source value start → span.IsPreferred source value 0)) ∧
    (key? source.toList key.toList start = none ↔ entriesFrom source key start = ∅) ∧
    ∀ span, key? source.toList key.toList start = some span ↔
      span.length = key.utf8ByteSize ∧ IsLeast (entriesFrom source key start) span.offset := by
  refine ⟨value?_eq_none_iff, fun span h => ?_, key?_eq_none_iff, fun span => key?_eq_some_iff⟩
  obtain ⟨hanchored, hwhole⟩ := isPreferred_of_value? h
  refine ⟨(isPlaceOf_value? h).covers, fun hanchor => ?_, hwhole⟩
  exact ⟨(hanchored hanchor).start_le, hanchored hanchor⟩

/-- A source with a word that stands bare behind a character of two bytes, and between quotes in a
later line with a blank at its front. -/
def searchedSample : String :=
  "é int\nint =\n\ttype = \"int\"\n"

/-- An offset behind the first character is an anchor, and one inside of it is none. -/
theorem searches_answer_first_sample :
    value? searchedSample.toList "int".toList 2 = some ⟨22, 3⟩ ∧
      IsAnchor searchedSample "int" 2 ∧
      IsPreferred ⟨22, 3⟩ searchedSample "int" 2 ∧
      value? searchedSample.toList "int".toList 1 = some ⟨22, 3⟩ ∧
      ¬ IsAnchor searchedSample "int" 1 ∧
      IsPreferred ⟨22, 3⟩ searchedSample "int" 0 ∧
      key? searchedSample.toList "type".toList 2 = some ⟨14, 4⟩ ∧
      IsLeast (entriesFrom searchedSample "type" 2) 14 := by
  have hbehind : value? searchedSample.toList "int".toList 2 = some ⟨22, 3⟩ := by decide
  have hinside : value? searchedSample.toList "int".toList 1 = some ⟨22, 3⟩ := by decide
  have hkey : key? searchedSample.toList "type".toList 2 = some ⟨14, 4⟩ := by decide
  have hanchor : IsAnchor searchedSample "int" 2 :=
    not_not.mp ((valueFrom?_eq_none_iff (by decide)).not.mp (by decide))
  have hcut : ¬ IsAnchor searchedSample "int" 1 :=
    (valueFrom?_eq_none_iff (by decide)).mp (by decide)
  obtain ⟨-, hanswer, -, hentry⟩ := searches_answer_first searchedSample "int" "type" 2
  obtain ⟨-, hfallback, -⟩ := searches_answer_first searchedSample "int" "type" 1
  exact ⟨hbehind, hanchor, ((hanswer _ hbehind).2.1 hanchor).2, hinside, hcut,
    (hfallback _ hinside).2.2 hcut, hkey, ((hentry _).mp hkey).2⟩

end DeclScribe.Span
