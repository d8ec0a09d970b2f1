import DeclScribe.Proofs.Manifest.NamedArguments

/-!
# The data of an attribute

The data of an attribute is put together from its arguments one by one: a constant without a name
goes behind the others, a constant with a name takes the place of an earlier one of that name.
Nothing but a text that does not parse can keep an attribute from having data, and then the data
says of every argument what the list of all arguments says: which constants have no name, which
names there are and which constant a name has in the end.
-/

set_option autoImplicit false

namespace DeclScribe

namespace Manifest

/-! ## Texts that are read -/

/-- The text that the constant of an argument is read from, if there is one: a string that is not
quoted, or the spelling of a value that is neither quoted nor a number or truth value. -/
def ArgumentEntry.expressionText? (argument : ArgumentEntry) : Option String :=
  if argument.isQuoted then none
  else
    match argument.value with
    | none => none
    | some (.string text) => some text
    | some (.integer _) => none
    | some (.float _) => none
    | some (.boolean _) => none
    | some other => some other.print

/-- A value that is read as an expression has a constant if the expression parses, since every
expression has one. -/
theorem constantOfText_isOk_iff {text : String} :
    (∃ value, constantOfText text = .ok value) ↔ ParsesIfPresent Expr.parse (some text) := by
  constructor
  · rintro ⟨value, hvalue⟩ present hpresent
    obtain ⟨e, he, -⟩ := map_eq_ok.mp hvalue
    obtain rfl := Option.some.inj hpresent
    exact ⟨e, he⟩
  · intro h
    exact exists_constantOfText (h text rfl)

/-- An argument has a constant unless that is read from a text that does not parse. -/
theorem ArgumentEntry.exists_constant_iff {argument : ArgumentEntry} :
    (∃ value, argument.constant = .ok value) ↔
      ParsesIfPresent Expr.parse argument.expressionText? := by
  have hnothing : ParsesIfPresent Expr.parse none := fun _ h => absurd h (by simp)
  have hgiven (value : Constant) :
      (∃ found, (.ok value : Except ParseError Constant) = .ok found) ↔
        ParsesIfPresent Expr.parse none := ⟨fun _ => hnothing, fun _ => ⟨value, rfl⟩⟩
  unfold constant expressionText?
  cases hvalue : argument.value with
  | none =>
    by_cases hquoted : argument.isQuoted = true
    · simpa only [if_pos hquoted] using hgiven .null
    · simpa only [if_neg hquoted] using hgiven .null
  | some value =>
    by_cases hquoted : argument.isQuoted = true
    · cases value
      all_goals
        simp only [if_pos hquoted]
        exact hgiven _
    · cases value
      all_goals simp only [if_neg hquoted]
      case string text => exact constantOfText_isOk_iff
      case datetime text => exact constantOfText_isOk_iff
      case array items => exact constantOfText_isOk_iff
      case table entries => exact constantOfText_isOk_iff
      all_goals exact hgiven _

/-- The texts of an attribute parse: its name, and what the constants of its arguments are read
from. -/
structure AttributeEntry.TextsParse (entry : AttributeEntry) : Prop where
  name : Parses Name.parse entry.name
  arguments : ∀ argument ∈ entry.arguments,
    ParsesIfPresent Expr.parse argument.expressionText?

/-! ## What the data says of the arguments -/

/-- Every argument stands beside its constant. -/
theorem exists_mem_zip {arguments : List ArgumentEntry} {constants : List Constant}
    (hlength : arguments.length = constants.length) {argument : ArgumentEntry}
    (h : argument ∈ arguments) : ∃ value, (argument, value) ∈ arguments.zip constants := by
  rw [← List.map_fst_zip hlength.le, List.mem_map] at h
  obtain ⟨⟨found, value⟩, hmem, rfl⟩ := h
  exact ⟨value, hmem⟩

/-- Data that sorts arguments by their names says the same of them when each argument stands beside
its constant. -/
theorem sorts_zip_iff {data : AttributeData} {arguments : List ArgumentEntry}
    {constants : List Constant} (hlength : arguments.length = constants.length) :
    data.Sorts ((arguments.map (·.name)).zip constants) ↔
      data.positional =
          ((arguments.zip constants).filter (·.1.name.isNone)).map Prod.snd ∧
        data.named.map Prod.fst = (arguments.filterMap (·.name)).eraseDups ∧
        ∀ name, data.named? name =
          ((arguments.zip constants).filter (·.1.name == some name)).getLast?.map Prod.snd := by
  have hpairs : (arguments.map (·.name)).zip constants =
      (arguments.zip constants).map (Prod.map (·.name) id) := by
    rw [List.zip_map_left]
  have hnames : ((arguments.map (·.name)).zip constants).filterMap Prod.fst =
      arguments.filterMap (·.name) := by
    have hfirst : ((arguments.map (·.name)).zip constants).map Prod.fst = arguments.map (·.name) :=
      List.map_fst_zip (by simp [hlength])
    calc ((arguments.map (·.name)).zip constants).filterMap Prod.fst
        = (((arguments.map (·.name)).zip constants).map Prod.fst).filterMap id := by
          rw [List.filterMap_map]; rfl
      _ = arguments.filterMap (·.name) := by
          rw [hfirst, List.filterMap_map]; rfl
  -- filtering by the name of an entry is filtering by the name beside its constant
  have hchosen (p : Option String → Bool) :
      (((arguments.map (·.name)).zip constants).filter (p ·.1)).map Prod.snd =
        ((arguments.zip constants).filter (p ·.1.name)).map Prod.snd := by
    rw [hpairs, List.filter_map, List.map_map]
    rfl
  have hlast (name : String) :
      (((arguments.map (·.name)).zip constants).filter (·.1 == some name)).getLast?.map Prod.snd =
        ((arguments.zip constants).filter (·.1.name == some name)).getLast?.map Prod.snd := by
    rw [← List.getLast?_map, ← List.getLast?_map]
    exact congrArg List.getLast? (hchosen (· == some name))
  constructor
  · intro h
    refine ⟨?_, ?_, ?_⟩
    · rw [h.positional]
      exact hchosen Option.isNone
    · rw [h.names, hnames]
    · intro name
      rw [h.last, hlast]
  · rintro ⟨hpositional, hkeys, hvalues⟩
    refine ⟨?_, ?_, ?_⟩
    · rw [hpositional]
      exact (hchosen Option.isNone).symm
    · rw [hkeys, hnames]
    · intro name
      rw [hvalues, hlast]

/-- An argument that has no constant keeps the arguments from being collected. -/
theorem ArgumentEntry.exists_constant_of_collect {arguments : List ArgumentEntry}
    {data found : AttributeData} (h : ArgumentEntry.collect arguments data = .ok found) :
    ∀ argument ∈ arguments, ∃ value, argument.constant = .ok value := by
  induction arguments generalizing data with
  | nil => exact List.forall_mem_nil _
  | cons argument rest ih =>
    unfold collect at h
    split at h
    · exact absurd h (by simp)
    · rename_i value hvalue
      exact List.forall_mem_cons.mpr ⟨⟨value, hvalue⟩, ih h⟩

/-- An attribute has data exactly when its texts parse. -/
theorem AttributeEntry.exists_symbol_iff {entry : AttributeEntry} :
    (∃ data, entry.symbol = .ok data) ↔ entry.TextsParse := by
  constructor
  · rintro ⟨data, hdata⟩
    unfold symbol at hdata
    split at hdata
    · exact absurd hdata (by simp)
    · rename_i name hname
      refine ⟨⟨name, hname⟩, ?_⟩
      intro argument hargument
      apply ArgumentEntry.exists_constant_iff.mp
      exact ArgumentEntry.exists_constant_of_collect hdata argument hargument
  · intro h
    obtain ⟨data, -, hdata, -⟩ := AttributeEntry.exists_sorts h.name fun argument hargument =>
      ArgumentEntry.exists_constant_iff.mpr (h.arguments argument hargument)
    exact ⟨data, hdata⟩

/-- An attribute whose texts parse has data, of the class that its name ends in. The data has the
constants of the arguments without a name in their order; the names of the others once each, in the
order in which they first come; and under each name the constant of the last argument of that name,
or nothing if no argument has it. -/
theorem AttributeEntry.symbol_keeps_arguments {entry : AttributeEntry} (h : entry.TextsParse) :
    ∃ name data constants, Name.parse entry.name = .ok name ∧ entry.symbol = .ok data ∧
      data.className = name.simpleIdentifier ∧
      List.Forall₂ (fun argument value => argument.constant = .ok value) entry.arguments
        constants ∧
      data.positional =
        ((entry.arguments.zip constants).filter (·.1.name.isNone)).map Prod.snd ∧
      data.named.map Prod.fst = (entry.arguments.filterMap (·.name)).eraseDups ∧
      ∀ x, data.named? x =
          ((entry.arguments.zip constants).filter (·.1.name == some x)).getLast?.map Prod.snd ∧
        (data.named? x = none ↔ ∀ argument ∈ entry.arguments, argument.name ≠ some x) := by
  obtain ⟨data, constants, hdata, hconstants, hsorts⟩ := AttributeEntry.exists_sorts h.name
    fun argument hargument => ArgumentEntry.exists_constant_iff.mpr (h.arguments argument hargument)
  obtain ⟨name, hname, hclass⟩ := AttributeEntry.symbol_className hdata
  obtain ⟨hpositional, hkeys, hvalues⟩ := (sorts_zip_iff hconstants.length_eq).mp hsorts
  refine ⟨name, data, constants, hname, hdata, hclass, hconstants, hpositional, hkeys, ?_⟩
  intro x
  refine ⟨hvalues x, ?_⟩
  rw [hvalues x, Option.map_eq_none_iff, List.getLast?_eq_none_iff, List.filter_eq_nil_iff]
  constructor
  · intro hnone argument hargument hx
    obtain ⟨value, hvalue⟩ := exists_mem_zip hconstants.length_eq hargument
    exact hnone _ hvalue (by simpa using hx)
  · rintro hnone ⟨argument, value⟩ hmem hx
    exact hnone argument (List.of_mem_zip hmem).1 (by simpa using hx)

/-- A name that comes twice, with another one and positional arguments in between. -/
def repeatedSample : AttributeEntry where
  name := "A"
  arguments := [
    { name := some "N" },
    { value := some (.string "x") },
    { name := some "M", value := some (.string "E.Y"), quoted := some false },
    { value := some (.integer 1), quoted := some true },
    { name := some "N", value := some (.boolean true) }]

/-- The texts of the attribute parse. Only one of its values is read as an expression. -/
theorem textsParse_repeatedSample : repeatedSample.TextsParse := by
  have hname : Name.parse "A" = .ok (.identifier "A") := by decide +kernel
  have htext : Expr.parse "E.Y" = .ok (.member (.identifier "E") "Y") := by decide +kernel
  refine ⟨⟨_, hname⟩, ?_⟩
  intro argument hargument present hpresent
  simp only [repeatedSample, List.mem_cons, List.not_mem_nil, or_false] at hargument
  obtain rfl | rfl | rfl | rfl | rfl := hargument
  · exact nomatch hpresent
  · exact nomatch hpresent
  · obtain rfl : "E.Y" = present := Option.some.inj hpresent
    exact ⟨_, htext⟩
  · exact nomatch hpresent
  · exact nomatch hpresent

/-- The arguments of the attribute are kept: the name that comes twice has one place and the last of
its values. -/
theorem AttributeEntry.symbol_keeps_arguments_sample :
    repeatedSample.TextsParse ∧
      ∃ name data constants, Name.parse repeatedSample.name = .ok name ∧
        repeatedSample.symbol = .ok data ∧ data.className = name.simpleIdentifier ∧
        List.Forall₂ (fun argument value => argument.constant = .ok value) repeatedSample.arguments
          constants ∧
        data.positional =
          ((repeatedSample.arguments.zip constants).filter (·.1.name.isNone)).map Prod.snd ∧
        data.named.map Prod.fst = (repeatedSample.arguments.filterMap (·.name)).eraseDups ∧
        ∀ x, data.named? x = ((repeatedSample.arguments.zip constants).filter
            (·.1.name == some x)).getLast?.map Prod.snd ∧
          (data.named? x = none ↔
            ∀ argument ∈ repeatedSample.arguments, argument.name ≠ some x) :=
  ⟨textsParse_repeatedSample, AttributeEntry.symbol_keeps_arguments textsParse_repeatedSample⟩

example : (repeatedSample.arguments.filterMap (·.name)).eraseDups = ["N", "M"] := by
  decide

end Manifest

end DeclScribe
