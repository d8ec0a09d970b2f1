import DeclScribe.Proofs.Manifest.Preservation

/-!
# Named and positional arguments

An attribute has its arguments twice: as they are written, where a label or the left side of an
assignment is the name, and in the data of its symbol, where the manifest alone says which arguments
have names. The data is first described as a list of arguments sorts it, and it is what the names of
the manifest sort it into. The written names sort the arguments in the same way unless an argument
without a name is an expression that happens to be an assignment.
-/

set_option autoImplicit false

namespace DeclScribe

/-! ## Sorting arguments -/

namespace AttributeData

/-- The data is what a list of arguments comes to, each with its name if it has one: those without a
name in their order, and for each name, in the order in which the names first come, the last one
with that name. -/
structure Sorts (data : AttributeData) (arguments : List (Option String × Constant)) : Prop where
  positional : data.positional = (arguments.filter (·.1.isNone)).map Prod.snd
  names : data.named.map Prod.fst = (arguments.filterMap Prod.fst).eraseDups
  last : ∀ name, data.named? name = (arguments.filter (·.1 == some name)).getLast?.map Prod.snd

/-- Putting a value under a name keeps the order of the names, and a new name comes last. -/
theorem map_fst_put (name : String) (value : Constant) (named : List (String × Constant)) :
    (put name value named).map Prod.fst =
      if name ∈ named.map Prod.fst then named.map Prod.fst else named.map Prod.fst ++ [name] := by
  induction named with
  | nil => rfl
  | cons entry rest ih =>
    obtain ⟨key, old⟩ := entry
    rw [put]
    by_cases hkey : key = name
    · simp [hkey]
    · rw [if_neg hkey, List.map_cons, ih, List.map_cons]
      simp only [List.mem_cons, Ne.symm hkey, false_or]
      split <;> rfl

/-- A value that is put under a name is found there, and other names are as before. -/
theorem lookup_put (name other : String) (value : Constant) (named : List (String × Constant)) :
    (put name value named).lookup other =
      if other = name then some value else named.lookup other := by
  induction named with
  | nil =>
    rw [put, List.lookup_cons]
    split <;> simp_all
  | cons entry rest ih =>
    obtain ⟨key, old⟩ := entry
    rw [put]
    by_cases hkey : key = name
    · subst hkey
      rw [if_pos rfl, List.lookup_cons, List.lookup_cons]
      by_cases hother : other = key
      · simp [hother]
      · have hapart : (other == key) = false := by simpa using hother
        rw [if_neg hother, hapart]
    · rw [if_neg hkey, List.lookup_cons, List.lookup_cons, ih]
      by_cases hother : other = name
      · have hapart : (other == key) = false := by simpa [hother] using Ne.symm hkey
        rw [if_pos hother, if_pos hother, hapart]
      · rw [if_neg hother, if_neg hother]

/-- Data without arguments sorts no arguments. -/
theorem sorts_nil (className : String) : Sorts { className } [] :=
  ⟨rfl, rfl, fun _ => rfl⟩

/-- One more argument is sorted in behind the others. -/
theorem Sorts.add {data : AttributeData} {arguments : List (Option String × Constant)}
    (h : data.Sorts arguments) (name : Option String) (value : Constant) :
    (data.add name value).Sorts (arguments ++ [(name, value)]) := by
  cases name with
  | none =>
    refine ⟨?_, ?_, ?_⟩
    · simp [AttributeData.add, h.positional]
    · simpa [AttributeData.add] using h.names
    · intro name
      simpa [AttributeData.add, named?] using h.last name
  | some name =>
    refine ⟨?_, ?_, ?_⟩
    · simpa [AttributeData.add] using h.positional
    · -- a name that came before keeps its place, a new one comes last
      have hmem : name ∈ data.named.map Prod.fst ↔ name ∈ arguments.filterMap Prod.fst := by
        rw [h.names, List.mem_eraseDups]
      have hnames : (data.add (some name) value).named.map Prod.fst =
          if name ∈ arguments.filterMap Prod.fst then data.named.map Prod.fst
          else data.named.map Prod.fst ++ [name] := by
        rw [AttributeData.add, map_fst_put]
        simp only [hmem]
      rw [hnames, List.filterMap_append, List.eraseDups_append, ← h.names]
      split
      · rename_i hold
        simp [List.removeAll, hold]
      · rename_i hnew
        simp [List.removeAll, hnew, List.eraseDups_cons]
    · intro other
      have hlast := h.last other
      rw [named?] at hlast
      rw [named?, AttributeData.add, lookup_put, hlast]
      by_cases hother : other = name
      · simp [hother]
      · simp [hother, Ne.symm hother]

end AttributeData

namespace Manifest

/-- The data of an attribute sorts its arguments by the names of the manifest. -/
theorem ArgumentEntry.sorts_of_collect {arguments : List ArgumentEntry} {constants : List Constant}
    (hconstants : List.Forall₂ (fun argument value => argument.constant = .ok value) arguments
      constants) {data : AttributeData} {before : List (Option String × Constant)}
    (hbefore : data.Sorts before) :
    ∃ found, ArgumentEntry.collect arguments data = .ok found ∧
      found.Sorts (before ++ (arguments.map (·.name)).zip constants) := by
  induction hconstants generalizing data before with
  | nil => exact ⟨data, rfl, by simpa using hbefore⟩
  | @cons argument value rest values hvalue _ ih =>
    obtain ⟨found, hfound, hsorts⟩ := ih (hbefore.add argument.name value)
    refine ⟨found, ?_, ?_⟩
    · rw [collect, hvalue]
      exact hfound
    · simpa using hsorts

/-- An attribute whose name parses and whose arguments all have a constant has data, which sorts
these constants. -/
theorem AttributeEntry.exists_sorts {entry : AttributeEntry} (hname : Parses Name.parse entry.name)
    (h : ∀ argument ∈ entry.arguments, ∃ value, argument.constant = .ok value) :
    ∃ data constants, entry.symbol = .ok data ∧
      List.Forall₂ (fun argument value => argument.constant = .ok value) entry.arguments
        constants ∧
      data.Sorts ((entry.arguments.map (·.name)).zip constants) := by
  obtain ⟨name, hname⟩ := hname
  obtain ⟨constants, hconstants⟩ := exists_forall₂ h
  obtain ⟨data, hdata, hsorts⟩ := ArgumentEntry.sorts_of_collect hconstants
    (AttributeData.sorts_nil name.simpleIdentifier)
  refine ⟨data, constants, ?_, hconstants, hsorts⟩
  rw [symbol, hname]
  exact hdata

/-! ## Written names -/

/-- An argument that has no name in the manifest and is an assignment as it is written. -/
def ArgumentEntry.IsBareAssignment (argument : ArgumentEntry) : Prop :=
  argument.name = none ∧ argument.isQuoted = false ∧ ∃ text target right,
    argument.value = some (.string text) ∧ Expr.parse text = .ok (.assign target right)

/-- An argument has the name it is labelled with, unless it has none and is an assignment. -/
theorem name?_eq_label {label : Option String} {e : Expr}
    (h : label = none → ∀ target right, e ≠ .assign target right) :
    AttributeArgument.name? ⟨label, e⟩ = label := by
  cases label with
  | some name => rfl
  | none =>
    cases e with
    | assign target right => exact absurd rfl (h rfl target right)
    | _ => rfl

/-- A number or a truth value is written as no assignment. -/
theorem ne_assign_of_isWrittenAs {value : Toml.Value} {e : Expr} (h : value.IsWrittenAs e)
    (target right : Expr) : e ≠ .assign target right := by
  cases h with
  | integer h => cases h <;> exact Expr.noConfusion
  | float h => cases h <;> exact Expr.noConfusion
  | _ => exact Expr.noConfusion

namespace ArgumentEntry

variable {argument : ArgumentEntry} {added : AttributeArgument}

/-- A written argument has the name of its entry, if any, unless it is a bare assignment. -/
theorem KeptBy.name?_eq (h : argument.KeptBy added) (hbare : ¬ argument.IsBareAssignment) :
    added.name? = argument.name := by
  cases h with
  | null _ hname => exact hname.symm
  | namedSpelling _ _ _ _ hname => exact hname.symm
  | spelling _ _ _ _ hname => exact hname.symm
  | string => exact name?_eq_label fun _ _ _ => Expr.noConfusion
  | literal _ _ hwritten => exact name?_eq_label fun _ => ne_assign_of_isWrittenAs hwritten
  | expression hvalue hquoted he =>
    refine name?_eq_label fun hname target right hassign => hbare ?_
    have hunquoted : argument.isQuoted = false := by
      rw [Bool.eq_false_iff, ne_eq, isQuoted_string_iff hvalue]
      exact not_not_intro hquoted
    exact ⟨hname, hunquoted, _, target, right, hvalue, hassign ▸ he⟩

/-- A bare assignment is written with a name all the same. -/
theorem IsBareAssignment.name?_ne_none (hbare : argument.IsBareAssignment)
    (h : argument.KeptBy added) : added.name? ≠ none := by
  obtain ⟨hname, hunquoted, text, target, right, htext, hparse⟩ := hbare
  rw [Bool.eq_false_iff, ne_eq, isQuoted_string_iff htext, not_not] at hunquoted
  cases h with
  | null hvalue => exact absurd (htext.symm.trans hvalue) (by simp)
  | namedSpelling _ _ _ hquoted => exact absurd (hunquoted.symm.trans hquoted) (by simp)
  | spelling _ _ _ hquoted => exact absurd (hunquoted.symm.trans hquoted) (by simp)
  | string _ hquoted => exact absurd hunquoted hquoted
  | literal hvalue _ hwritten =>
    obtain rfl := Option.some.inj (htext.symm.trans hvalue)
    cases hwritten
  | expression hvalue _ he =>
    obtain rfl := Toml.Value.string.inj (Option.some.inj (htext.symm.trans hvalue))
    obtain rfl := Except.ok.inj (hparse.symm.trans he)
    simp [AttributeArgument.name?, hname]

/-- Bare assignments are all that can make fewer written arguments positional than the manifest
has without a name. -/
theorem countP_isNone_name? {arguments : List ArgumentEntry} {written : List AttributeArgument}
    (h : List.Forall₂ KeptBy arguments written) :
    (written.map (·.name?)).countP Option.isNone ≤
        (arguments.map (·.name)).countP Option.isNone ∧
      ((written.map (·.name?)).countP Option.isNone =
          (arguments.map (·.name)).countP Option.isNone →
        ∀ argument ∈ arguments, ¬ argument.IsBareAssignment) := by
  induction h with
  | nil => simp
  | @cons argument added rest others hkept _ ih =>
    obtain ⟨hle, hnone⟩ := ih
    simp only [List.map_cons, List.countP_cons]
    by_cases hbare : argument.IsBareAssignment
    · have hsome := Option.isSome_iff_ne_none.mpr (hbare.name?_ne_none hkept)
      have hwritten : added.name?.isNone = false := Option.isNone_eq_false_iff.mpr hsome
      have hname : argument.name.isNone = true := by simp [hbare.1]
      rw [hwritten, hname]
      simp only [Bool.false_eq_true, if_false, if_true]
      omega
    · rw [hkept.name?_eq hbare]
      refine ⟨by omega, ?_⟩
      intro hcount
      exact List.forall_mem_cons.mpr ⟨hbare, hnone (by omega)⟩

end ArgumentEntry

end Manifest

/-- The number of positional arguments is that of the arguments without a name. -/
theorem AttributeData.Sorts.length_positional {data : AttributeData} {names : List (Option String)}
    {constants : List Constant} (h : data.Sorts (names.zip constants))
    (hlength : names.length = constants.length) :
    data.positional.length = names.countP Option.isNone := by
  have hnames : (names.zip constants).map Prod.fst = names := List.map_fst_zip hlength.le
  rw [h.positional, List.length_map, ← List.countP_eq_length_filter]
  conv_rhs => rw [← hnames, List.countP_map]
  rfl

namespace Manifest

/-- An attribute that passes validation has its arguments both as they are written and in the data
of its symbol. The data sorts them by the names of the manifest. The written names sort them in the
same way exactly when no argument is a bare assignment. -/
theorem AttributeEntry.sorts_written_iff {entry : AttributeEntry} {scope : Scope}
    (h : entry.validate scope = .ok ()) :
    ∃ a data constants, entry.lower = .ok a ∧ entry.symbol = .ok data ∧
      a.arguments.length = entry.arguments.length ∧
      List.Forall₂ (fun argument value => argument.constant = .ok value) entry.arguments
        constants ∧
      data.Sorts ((entry.arguments.map (·.name)).zip constants) ∧
      (data.Sorts ((a.arguments.map (·.name?)).zip constants) ↔
        ∀ argument ∈ entry.arguments, ¬ argument.IsBareAssignment) := by
  have hwf := AttributeEntry.validate_iff.mp h
  obtain ⟨a, ha⟩ := AttributeEntry.exists_lower hwf
  obtain ⟨data, constants, hdata, hconstants, hsorts⟩ := AttributeEntry.exists_sorts hwf.name
    fun argument hargument => ArgumentEntry.exists_constant (hwf.arguments argument hargument)
  have hkept := (AttributeEntry.appliedAs_of_lower hwf ha).arguments
  refine ⟨a, data, constants, ha, hdata, hkept.length_eq.symm, hconstants, hsorts, ?_⟩
  constructor
  · intro hwritten
    have hfirst := hsorts.length_positional (by simp [hconstants.length_eq])
    have hsecond := hwritten.length_positional (by simp [← hkept.length_eq, hconstants.length_eq])
    exact (ArgumentEntry.countP_isNone_name? hkept).2 (hsecond.symm.trans hfirst)
  · intro hbare
    have hsame : List.Forall₂ (fun argument added => argument.name = added.name?) entry.arguments
        a.arguments :=
      forall₂_of_wellFormed hbare hkept fun hbare hkept => (hkept.name?_eq hbare).symm
    have hnames : entry.arguments.map (·.name) = a.arguments.map (·.name?) :=
      forall₂_map_eq_iff.mp hsame
    rw [← hnames]
    exact hsorts

/-- A name that comes twice, an assignment in quotes, one in parentheses and one behind a name. -/
def sortedSample : AttributeEntry where
  name := "A"
  arguments := [
    { value := some (.string "x = 1") },
    { name := some "N" },
    { value := some (.string "(x = 1)"), quoted := some false },
    { name := some "N", value := some (.integer 2), quoted := some true },
    { name := some "L", value := some (.string "x = 1"), quoted := some false }]

/-- The arguments of the sample are sorted by their names in the manifest, and by those they are
written with only if none of them is a bare assignment. -/
theorem AttributeEntry.sorts_written_iff_sample :
    sortedSample.validate (.ofSource "" "") = .ok () ∧
      ∃ a data constants, sortedSample.lower = .ok a ∧ sortedSample.symbol = .ok data ∧
        a.arguments.length = sortedSample.arguments.length ∧
        List.Forall₂ (fun argument value => argument.constant = .ok value) sortedSample.arguments
          constants ∧
        data.Sorts ((sortedSample.arguments.map (·.name)).zip constants) ∧
        (data.Sorts ((a.arguments.map (·.name?)).zip constants) ↔
          ∀ argument ∈ sortedSample.arguments, ¬ argument.IsBareAssignment) := by
  have hvalid : sortedSample.validate (.ofSource "" "") = .ok () := by decide +kernel
  exact ⟨hvalid, AttributeEntry.sorts_written_iff hvalid⟩

/-- An attribute with one argument, which has no name and is an assignment. -/
def bareSample : AttributeEntry where
  name := "A"
  arguments := [{ value := some (.string "X = 5"), quoted := some false }]

/-- The one argument is written with a name, and the data has it as a positional one. -/
theorem bareSample_positional :
    bareSample.validate (.ofSource "" "") = .ok () ∧
      ∃ a data, bareSample.lower = .ok a ∧ bareSample.symbol = .ok data ∧
        a.arguments.map (·.name?) = [some "X"] ∧ data.named? "X" = none ∧
        data.positional.length = 1 := by
  have hvalid : bareSample.validate (.ofSource "" "") = .ok () := by decide +kernel
  have hname : Name.parse "A" = .ok (.identifier "A") := by decide +kernel
  have hvalue : Expr.parse "X = 5" =
      .ok (.assign (.identifier "X") (LiteralValue.natLiteral 5)) := by decide +kernel
  have hwritten : bareSample.lower = .ok ⟨.identifier "A",
      some [⟨none, .assign (.identifier "X") (LiteralValue.natLiteral 5)⟩]⟩ := by decide +kernel
  refine ⟨hvalid, _, { className := "A", positional :=
    [.ofExpr (.assign (.identifier "X") (LiteralValue.natLiteral 5))] }, hwritten, ?_, rfl, rfl,
    rfl⟩
  simp [bareSample, AttributeEntry.symbol, hname, ArgumentEntry.collect, ArgumentEntry.constant,
    ArgumentEntry.isQuoted, constantOfText, hvalue, Except.map, AttributeData.add,
    Name.simpleIdentifier]

end Manifest

end DeclScribe
