import DeclScribe.Proofs.Keyword
import DeclScribe.Proofs.Manifest.Answers
import DeclScribe.Proofs.Manifest.WellFormed
import Mathlib.Data.List.Nodup

/-!
# Validation accepts the well-formed manifests

Each check is shown to pass exactly when the part it checks keeps the rules, from the single text up
to the whole document. The checks that hand on the names they have seen come to one statement: all
items are right, and no name stands twice among those seen and those of the items.
-/

set_option autoImplicit false

namespace DeclScribe

namespace Manifest

/-! ## Sequences of checks -/

/-- Items pass if each of them passes. -/
theorem checkAll_iff {α : Type} {check : α → Except Diagnostic Unit} {items : List α} :
    checkAll check items = .ok () ↔ ∀ item ∈ items, check item = .ok () := by
  induction items with
  | nil => simp [checkAll]
  | cons item rest ih =>
    rw [checkAll, List.forall_mem_cons, ← ih]
    cases hitem : check item with
    | error e => simp
    | ok u => simp

/-- A check of names against those seen before passes if all the names differ. -/
theorem checkEach_iff {α : Type} {name : α → String}
    {check : List String → α → Except Diagnostic Unit} {IsRight : α → Prop}
    (hcheck : ∀ seen item, check seen item = .ok () ↔ name item ∉ seen ∧ IsRight item)
    {items : List α} {seen : List String} (hseen : seen.Nodup) :
    checkEach name check seen items = .ok () ↔
      (∀ item ∈ items, IsRight item) ∧ (seen ++ items.map name).Nodup := by
  induction items generalizing seen with
  | nil => simpa [checkEach] using hseen
  | cons item rest ih =>
    have hstep : (seen ++ (item :: rest).map name) = (seen ++ [name item]) ++ rest.map name := by
      simp
    rw [checkEach, List.forall_mem_cons, hstep]
    -- The names seen so far are kept distinct, so that the rest is checked under the same premise.
    by_cases hitem : check seen item = .ok ()
    · obtain ⟨hnew, hright⟩ := (hcheck seen item).mp hitem
      have hseen' : (seen ++ [name item]).Nodup := by
        rw [List.nodup_append_comm]
        exact List.nodup_cons.mpr ⟨hnew, hseen⟩
      rw [hitem]
      simp only [ih hseen', hright, true_and]
    · constructor
      · intro h
        cases hresult : check seen item with
        | error e =>
          rw [hresult] at h
          exact absurd h (by simp)
        | ok u => exact absurd hresult hitem
      · rintro ⟨⟨hright, -⟩, hdistinct⟩
        have hnew : name item ∉ seen := by
          intro hmem
          have happart := List.nodup_append.mp (List.Nodup.of_append_left hdistinct)
          exact happart.2.2 _ hmem _ (by simp) rfl
        exact absurd ((hcheck seen item).mpr ⟨hnew, hright⟩) hitem

/-! ## Texts -/

namespace Scope

variable {scope : Scope} {what : String}

/-- What is right behind the mark is right as a whole. -/
theorem identifierFault?_eq_none_iff {name : String} :
    identifierFault? name = none ↔ IsIdentifier name := by
  have hstart (c : Char) : isIdentifierStart c = true ↔ Text.isAlphabetic c = true ∨ c = '_' := by
    simp [isIdentifierStart]
  have hpart (d : Char) : isIdentifierPart d = true ↔
      Text.isAlphabetic d = true ∨ Text.isNumeric d = true ∨ d = '_' := by
    simp [isIdentifierPart, or_assoc]
  unfold identifierFault? IsIdentifier
  simp only [← hstart, ← hpart]
  constructor
  · intro h
    split at h
    · exact absurd h (by simp)
    · rename_i c rest hbare
      split_ifs at h with hno hall
      have hright : isIdentifierStart c = true := by simpa using hno
      have hparts : ∀ d ∈ rest, isIdentifierPart d = true := List.all_eq_true.mp hall
      split at hbare
      · rename_i hmark
        exact ⟨['@'], c, rest, by rw [hmark, hbare]; rfl, Or.inr rfl, hright, hparts⟩
      · exact ⟨[], c, rest, hbare, Or.inl rfl, hright, hparts⟩
  · rintro ⟨mark, c, rest, hname, hmark, hright, hparts⟩
    have hall : rest.all isIdentifierPart = true := List.all_eq_true.mpr hparts
    rw [hname]
    obtain rfl | rfl := hmark
    · -- no identifier starts with a second mark
      have hunmarked : c ≠ '@' := by
        rintro rfl
        exact absurd hright (by decide)
      simp only [List.nil_append]
      split
      · rename_i hempty
        split at hempty
        · rename_i heq
          exact absurd (List.cons.inj heq).1 hunmarked
        · exact absurd hempty (by simp)
      · rename_i d more hcons
        split at hcons
        · rename_i heq
          exact absurd (List.cons.inj heq).1 hunmarked
        · obtain ⟨rfl, rfl⟩ := List.cons.inj hcons
          simp [hright, hall]
    · simp [hright, hall]

/-- A name passes if it is declarable. -/
theorem checkName_iff {name : String} :
    scope.checkName name what = .ok () ↔ IsDeclarable name := by
  unfold checkName IsDeclarable
  rw [← identifierFault?_eq_none_iff]
  by_cases hreserved : isReserved name = true
  · have hmem : name ∈ reservedWords := by simpa [isReserved] using hreserved
    simp [hreserved, hmem]
  · have hmem : name ∉ reservedWords := by simpa [isReserved] using hreserved
    simp only [hreserved, hmem, not_false_eq_true, and_true]
    cases identifierFault? name with
    | none => simp
    | some fault => simp

/-- Modifiers pass if all words are modifiers. -/
theorem checkModifiers_iff {words : List String} :
    scope.checkModifiers what words = .ok () ↔ ∀ word ∈ words, IsModifier word := by
  induction words with
  | nil => simp [checkModifiers]
  | cons word rest ih =>
    rw [checkModifiers, List.forall_mem_cons, ← ih]
    cases hword : Modifier.ofWord? word with
    | none =>
      have hno : ¬ IsModifier word := Modifier.ofWord?_eq_none_iff.mp hword
      simp [hno]
    | some modifier =>
      have hyes : IsModifier word := ⟨modifier, Modifier.ofWord?_eq_some_iff.mp hword⟩
      simp [hyes]

variable {α : Type} {parser : String → Except ParseError α}

/-- A fragment passes if it parses. -/
theorem checkFragment_iff {text : String} :
    scope.checkFragment parser what text = .ok () ↔ Parses parser text := by
  unfold checkFragment Scope.parse Parses
  cases parser text with
  | error e => simp [Except.map]
  | ok value => simp [Except.map]

/-- A fragment that may be missing passes if it is missing or parses. -/
theorem checkOptional_iff {text : Option String} :
    scope.checkOptional parser what text = .ok () ↔ ParsesIfPresent parser text := by
  cases text with
  | none => simp [checkOptional, ParsesIfPresent]
  | some present =>
    rw [checkOptional, checkFragment_iff]
    simp [ParsesIfPresent]

/-- A name passes if it is not there already. -/
theorem checkUnique_iff {names : NameScope} {seen : List String} {name : String} :
    scope.checkUnique names seen name = .ok () ↔ name ∉ seen := by
  unfold checkUnique
  by_cases hmem : name ∈ seen
  · simp [hmem]
  · simp [hmem]

end Scope

/-! ## Attributes -/

/-- A value passes if it is scalar and parses as far as it is read, or is missing behind a name. -/
theorem ArgumentEntry.validateValue_iff {scope : Scope} {attributeName : String}
    {argument : ArgumentEntry} :
    argument.validateValue scope attributeName = .ok () ↔
      (argument.value = none → argument.name ≠ none) ∧
      (∀ value, argument.value = some value → value.IsScalar) ∧
      ∀ text, argument.value = some (.string text) → argument.quoted = some false →
        Parses Expr.parse text := by
  unfold validateValue
  cases hvalue : argument.value with
  | none => cases argument.name <;> simp
  | some value =>
    cases value with
    | string text =>
      have hquoted := isQuoted_string_iff hvalue
      by_cases hyes : argument.isQuoted = true
      · have hno := hquoted.mp hyes
        simp [hyes, hno, Toml.Value.IsScalar]
      · have hno : argument.quoted = some false := by
          by_contra hcontra
          exact hyes (hquoted.mpr hcontra)
        simp [hyes, hno, Toml.Value.IsScalar, Scope.checkFragment_iff]
    | integer value => simp [Toml.Value.IsScalar]
    | float value => simp [Toml.Value.IsScalar]
    | boolean value => simp [Toml.Value.IsScalar]
    | datetime text => simp [Toml.Value.IsScalar]
    | array items => simp [Toml.Value.IsScalar]
    | table entries => simp [Toml.Value.IsScalar]

/-- An argument passes if its name is declarable and its value passes. -/
theorem ArgumentEntry.validate_iff {scope : Scope} {attributeName : String}
    {argument : ArgumentEntry} :
    argument.validate scope attributeName = .ok () ↔ argument.WellFormed := by
  have hname : argument.WellFormed ↔
      (∀ name, argument.name = some name → IsDeclarable name) ∧
        argument.validateValue scope attributeName = .ok () := by
    rw [validateValue_iff]
    constructor
    · rintro ⟨hname, hnamed, hscalar, hexpression⟩
      exact ⟨hname, hnamed, hscalar, hexpression⟩
    · rintro ⟨hname, hnamed, hscalar, hexpression⟩
      exact ⟨hname, hnamed, hscalar, hexpression⟩
  rw [hname]
  unfold validate
  cases argument.name with
  | none => simp
  | some name => simp [andThen_eq_ok, Scope.checkName_iff]

/-- An attribute passes if its name parses and its arguments pass. -/
theorem AttributeEntry.validate_iff {scope : Scope} {entry : AttributeEntry} :
    entry.validate scope = .ok () ↔ entry.WellFormed := by
  unfold validate
  rw [andThen_eq_ok, Scope.checkFragment_iff, checkAll_iff]
  simp only [ArgumentEntry.validate_iff]
  constructor
  · rintro ⟨hname, harguments⟩
    exact ⟨hname, harguments⟩
  · rintro ⟨hname, harguments⟩
    exact ⟨hname, harguments⟩

/-- The attributes of a declaration pass if each of them passes. -/
theorem AttributeEntry.validateAll_iff {scope : Scope} {entries : List AttributeEntry} :
    AttributeEntry.validateAll scope entries = .ok () ↔ ∀ entry ∈ entries, entry.WellFormed := by
  unfold validateAll
  rw [checkAll_iff]
  simp only [AttributeEntry.validate_iff]

/-! ## Members -/

/-- A field passes if it is well-formed. -/
theorem FieldEntry.validate_iff {scope : Scope} {field : FieldEntry} :
    field.validate scope = .ok () ↔ field.WellFormed := by
  unfold validate
  simp only [andThen_eq_ok, Scope.checkName_iff, Scope.checkFragment_iff, Scope.checkModifiers_iff,
    AttributeEntry.validateAll_iff, Scope.checkOptional_iff]
  constructor
  · rintro ⟨hname, htype, hmodifiers, hattributes, hinitializer⟩
    exact ⟨hname, htype, hmodifiers, hattributes, hinitializer⟩
  · rintro ⟨hname, htype, hmodifiers, hattributes, hinitializer⟩
    exact ⟨hname, htype, hmodifiers, hattributes, hinitializer⟩

/-- Words have a duplicate if they are not distinct. -/
theorem hasDuplicate_eq_false_iff {words : List String} :
    hasDuplicate words = false ↔ words.Nodup := by
  induction words with
  | nil => simp [hasDuplicate]
  | cons word rest ih => simp [hasDuplicate, ih]

/-- The accessors of a property that does not list any go together. -/
theorem areAccessors_getD_iff {accessors : Option (List String)} :
    AreAccessors (accessors.getD ["get", "set"]) ↔
      ∀ words, accessors = some words → AreAccessors words := by
  cases accessors with
  | none =>
    have hdefault : AreAccessors ["get", "set"] :=
      ⟨by decide, by decide, by decide, by decide⟩
    exact iff_of_true hdefault fun words hwords => absurd hwords (by simp)
  | some listed =>
    rw [Option.getD_some]
    refine ⟨?_, fun h => h listed rfl⟩
    rintro h words hwords
    exact Option.some.inj hwords ▸ h

/-- Accessors have no fault if there is no list of them or the list is one of accessors. -/
theorem PropertyEntry.accessorFault?_eq_none_iff {property : PropertyEntry} :
    property.accessorFault? = none ↔
      ∀ words, property.accessors = some words → AreAccessors words := by
  rw [← areAccessors_getD_iff]
  unfold accessorFault? accessorWords
  generalize property.accessors.getD ["get", "set"] = words
  constructor
  · intro h
    dsimp only at h
    split at h
    · exact absurd h (by simp)
    · rename_i hunknown
      split_ifs at h with hget hboth htwice
      refine ⟨?_, by simpa using hget, by simpa using hboth, ?_⟩
      · intro word hword
        have hknown := List.find?_eq_none.mp hunknown word hword
        exact AccessorKind.ofWord?_isNone_iff.mp (Bool.eq_false_iff.mpr hknown)
      · rw [← hasDuplicate_eq_false_iff]
        simpa using htwice
  · rintro ⟨hknown, hget, hboth, hdistinct⟩
    have hunknown : words.find? (fun word => (AccessorKind.ofWord? word).isNone) = none := by
      rw [List.find?_eq_none]
      intro word hword
      rw [AccessorKind.ofWord?_isNone_iff.mpr (hknown word hword)]
      simp
    have htwice := hasDuplicate_eq_false_iff.mpr hdistinct
    simpa [hunknown, hget, htwice] using hboth

/-- A property passes if it is well-formed. -/
theorem PropertyEntry.validate_iff {scope : Scope} {property : PropertyEntry} :
    property.validate scope = .ok () ↔ property.WellFormed := by
  unfold validate
  simp only [andThen_eq_ok, Scope.checkName_iff, Scope.checkFragment_iff, Scope.checkModifiers_iff,
    AttributeEntry.validateAll_iff, Scope.checkOptional_iff]
  constructor
  · rintro ⟨hname, htype, hmodifiers, hattributes, hinitializer, haccessors⟩
    refine ⟨hname, htype, hmodifiers, hattributes, hinitializer, ?_⟩
    rw [← accessorFault?_eq_none_iff]
    split at haccessors
    · exact absurd haccessors (by simp)
    · assumption
  · rintro ⟨hname, htype, hmodifiers, hattributes, hinitializer, haccessors⟩
    refine ⟨hname, htype, hmodifiers, hattributes, hinitializer, ?_⟩
    rw [accessorFault?_eq_none_iff.mpr haccessors]

/-- A parameter passes if its name is new and it is well-formed. -/
theorem ParameterEntry.validate_iff {scope : Scope} {seen : List String}
    {parameter : ParameterEntry} :
    parameter.validate scope seen = .ok () ↔ parameter.name ∉ seen ∧ parameter.WellFormed := by
  unfold validate
  simp only [andThen_eq_ok, Scope.checkName_iff, Scope.checkUnique_iff, Scope.checkFragment_iff,
    Scope.checkOptional_iff]
  constructor
  · rintro ⟨hname, hnew, htype, hdefault⟩
    exact ⟨hnew, hname, htype, hdefault⟩
  · rintro ⟨hnew, hname, htype, hdefault⟩
    exact ⟨hname, hnew, htype, hdefault⟩

/-- The parameters of a method pass if they are well-formed and have distinct names. -/
theorem ParameterEntry.validateEach_iff {scope : Scope} {parameters : List ParameterEntry} :
    checkEach (·.name) (ParameterEntry.validate scope) [] parameters = .ok () ↔
      (∀ parameter ∈ parameters, parameter.WellFormed) ∧ (parameters.map (·.name)).Nodup := by
  refine checkEach_iff (fun seen parameter => ?_) List.nodup_nil
  exact ParameterEntry.validate_iff

/-- A method passes if it is well-formed. -/
theorem MethodEntry.validate_iff {scope : Scope} {method : MethodEntry} :
    method.validate scope = .ok () ↔ method.WellFormed := by
  unfold validate
  simp only [andThen_eq_ok, Scope.checkName_iff, Scope.checkFragment_iff, Scope.checkModifiers_iff,
    AttributeEntry.validateAll_iff, Scope.checkOptional_iff,
    ParameterEntry.validateEach_iff]
  constructor
  · rintro ⟨hname, hreturns, hmodifiers, hattributes, ⟨hparameters, hdistinct⟩, hbody⟩
    exact ⟨hname, hreturns, hmodifiers, hattributes, hparameters, hdistinct, hbody⟩
  · rintro ⟨hname, hreturns, hmodifiers, hattributes, hparameters, hdistinct, hbody⟩
    exact ⟨hname, hreturns, hmodifiers, hattributes, ⟨hparameters, hdistinct⟩, hbody⟩

/-- The fields of a class pass if they are well-formed and their names are new and distinct. -/
theorem FieldEntry.validateAll_iff {scope : Scope} {seen : List String}
    {fields : List FieldEntry} (hseen : seen.Nodup) :
    FieldEntry.validateAll scope seen fields = .ok () ↔
      (∀ field ∈ fields, field.WellFormed) ∧ (seen ++ fields.map (·.name)).Nodup := by
  unfold validateAll
  refine checkEach_iff (fun seen field => ?_) hseen
  rw [andThen_eq_ok, Scope.checkUnique_iff, FieldEntry.validate_iff]

/-- Properties pass if they are well-formed and their names are new and distinct. -/
theorem PropertyEntry.validateAll_iff {scope : Scope} {seen : List String}
    {properties : List PropertyEntry} (hseen : seen.Nodup) :
    PropertyEntry.validateAll scope seen properties = .ok () ↔
      (∀ property ∈ properties, property.WellFormed) ∧
        (seen ++ properties.map (·.name)).Nodup := by
  unfold validateAll
  refine checkEach_iff (fun seen property => ?_) hseen
  rw [andThen_eq_ok, Scope.checkUnique_iff, PropertyEntry.validate_iff]

/-- Methods pass if they are well-formed and not named like a field or a property. Two methods may
have the same name. -/
theorem MethodEntry.validateAll_iff {scope : Scope} {dataNames : List String}
    {methods : List MethodEntry} :
    MethodEntry.validateAll scope dataNames methods = .ok () ↔
      (∀ method ∈ methods, method.WellFormed) ∧ ∀ method ∈ methods, method.name ∉ dataNames := by
  unfold validateAll
  rw [checkAll_iff]
  simp only [andThen_eq_ok, Scope.checkUnique_iff, MethodEntry.validate_iff]
  constructor
  · intro h
    exact ⟨fun method hmethod => (h method hmethod).2, fun method hmethod => (h method hmethod).1⟩
  · rintro ⟨hmethods, hapart⟩ method hmethod
    exact ⟨hapart method hmethod, hmethods method hmethod⟩

/-! ## Types -/

/-- A base list passes if it is missing or all its types parse. -/
theorem checkBases_iff {scope : Scope} {bases : Option (List String)} :
    checkBases scope bases = .ok () ↔
      ∀ texts, bases = some texts → ∀ text ∈ texts, Parses TypeRef.parse text := by
  unfold checkBases
  rw [checkAll_iff]
  simp only [Scope.checkFragment_iff]
  cases bases with
  | none => simp
  | some texts => simp

/-- A type passes if its name is new and declarable and what is inside passes. -/
theorem checkType_iff {scope : Scope} {what name : String} {seen : List String}
    {inside : Scope → Except Diagnostic Unit} :
    checkType scope what seen name inside = .ok () ↔
      name ∉ seen ∧ IsDeclarable name ∧ inside (scope.push name) = .ok () := by
  unfold checkType
  rw [andThen_eq_ok, andThen_eq_ok, Scope.checkName_iff, Scope.checkUnique_iff]
  constructor
  · rintro ⟨hname, hnew, hinside⟩
    exact ⟨hnew, hname, hinside⟩
  · rintro ⟨hnew, hname, hinside⟩
    exact ⟨hname, hnew, hinside⟩

/-- A class passes, with its name, if it is well-formed. -/
theorem ClassEntry.validate_iff {scope : Scope} {entry : ClassEntry} :
    IsDeclarable entry.name ∧ entry.validate scope = .ok () ↔ entry.WellFormed := by
  unfold validate
  simp only [andThen_eq_ok, Scope.checkModifiers_iff, checkBases_iff,
    AttributeEntry.validateAll_iff, FieldEntry.validateAll_iff List.nodup_nil, List.nil_append,
    MethodEntry.validateAll_iff]
  constructor
  · rintro ⟨hname, hmodifiers, hbases, hattributes, ⟨hfields, hnames⟩, hproperties, hmethods,
      hapart⟩
    obtain ⟨hproperties, hdistinct⟩ := (PropertyEntry.validateAll_iff hnames).mp hproperties
    exact ⟨hname, hfields, hmodifiers, hbases, hattributes, hproperties, hmethods, hdistinct,
      hapart⟩
  · rintro ⟨hname, hfields, hmodifiers, hbases, hattributes, hproperties, hmethods, hdistinct,
      hapart⟩
    have hnames := List.Nodup.of_append_left hdistinct
    exact ⟨hname, hmodifiers, hbases, hattributes, ⟨hfields, hnames⟩,
      (PropertyEntry.validateAll_iff hnames).mpr ⟨hproperties, hdistinct⟩, hmethods, hapart⟩

/-- An interface passes, with its name, if it is well-formed. -/
theorem InterfaceEntry.validate_iff {scope : Scope} {entry : InterfaceEntry} :
    IsDeclarable entry.name ∧ entry.validate scope = .ok () ↔ entry.WellFormed := by
  unfold validate
  cases hstray : entry.strayFields with
  | some value =>
    have hno : ¬ entry.WellFormed := by
      intro h
      exact absurd (hstray.symm.trans h.noFields) (by simp)
    simp [hno]
  | none =>
    simp only [Option.isSome_none, Bool.false_eq_true, if_false, andThen_eq_ok,
      Scope.checkModifiers_iff, checkBases_iff, AttributeEntry.validateAll_iff,
      PropertyEntry.validateAll_iff List.nodup_nil, List.nil_append, MethodEntry.validateAll_iff]
    constructor
    · rintro ⟨hname, hmodifiers, hbases, hattributes, ⟨hproperties, hdistinct⟩, hmethods, hapart⟩
      exact ⟨hname, hstray, hmodifiers, hbases, hattributes, hproperties, hmethods, hdistinct,
        hapart⟩
    · rintro ⟨hname, -, hmodifiers, hbases, hattributes, hproperties, hmethods, hdistinct, hapart⟩
      exact ⟨hname, hmodifiers, hbases, hattributes, ⟨hproperties, hdistinct⟩, hmethods, hapart⟩

/-! ## Enums -/

/-- The types with a range are the predefined ones that have integral bounds. -/
theorem integralRange?_eq_some_iff {type : TypeRef} {range : IntRange} :
    integralRange? type = some range ↔
      ∃ word : Predefined, type = .predefined word ∧
        word.integralBounds? = some (range.least, range.greatest) := by
  constructor
  · intro h
    unfold integralRange? at h
    split at h
    case h_9 => exact absurd h (by simp)
    all_goals
      injection h with h
      subst h
      exact ⟨_, rfl, rfl⟩
  · rintro ⟨word, rfl, h⟩
    obtain ⟨least, greatest⟩ := range
    cases word
    all_goals
      simp only [Predefined.integralBounds?, reduceCtorEq, Option.some.injEq, Prod.mk.injEq] at h
    all_goals
      obtain ⟨rfl, rfl⟩ := h
      rfl

/-- An enum has a range if its underlying type has these bounds, or those of `int` if it has none.
-/
theorem EnumEntry.underlyingRange_iff {scope : Scope} {entry : EnumEntry} {range : IntRange} :
    (∃ text, entry.underlyingRange scope = .ok (text, range)) ↔
      entry.HasBounds range.least range.greatest := by
  unfold underlyingRange HasBounds
  cases entry.underlying with
  | none =>
    constructor
    · rintro ⟨text, h⟩
      simp only [Except.ok.injEq, Prod.mk.injEq] at h
      obtain ⟨-, rfl⟩ := h
      rfl
    · intro h
      have hrange : integralRange? (.predefined .int) = some range :=
        integralRange?_eq_some_iff.mpr ⟨.int, rfl, h⟩
      injection hrange with hrange
      subst hrange
      exact ⟨"int", rfl⟩
  | some text =>
    unfold Scope.parse
    cases htype : TypeRef.parse text with
    | error e => simp [htype]
    | ok type =>
      have hrange : (∃ word : Predefined, (Except.ok type : Except ParseError TypeRef) =
          .ok (.predefined word) ∧ word.integralBounds? = some (range.least, range.greatest)) ↔
          integralRange? type = some range := by
        rw [integralRange?_eq_some_iff]
        simp only [Except.ok.injEq]
      simp only [htype, hrange]
      cases integralRange? type with
      | none => simp
      | some found => simp

/-- A value passes if it is missing or in the range. -/
theorem EnumMemberEntry.validateValue_iff {scope : Scope} {text : String} {range : IntRange}
    {member : EnumMemberEntry} :
    member.validateValue scope text range = .ok () ↔
      ∀ value, member.value = some value → range.least ≤ value ∧ value ≤ range.greatest := by
  unfold validateValue
  cases member.value with
  | none => simp
  | some value =>
    have hsome : (∀ found, some value = some found → range.least ≤ found ∧
        found ≤ range.greatest) ↔ range.holds value = true := by
      simp [IntRange.holds_iff]
    rw [hsome]
    by_cases hholds : range.holds value = true
    · simp [hholds]
    · simp [hholds]

/-- A member of an enum passes if its name is new and it is well-formed for the range. -/
theorem EnumMemberEntry.validate_iff {scope : Scope} {text : String} {range : IntRange}
    {seen : List String} {member : EnumMemberEntry} :
    member.validate scope text range seen = .ok () ↔
      member.name ∉ seen ∧ member.WellFormed range.least range.greatest := by
  unfold validate
  simp only [andThen_eq_ok, Scope.checkName_iff, Scope.checkUnique_iff]
  cases hmodifiers : member.strayModifiers with
  | some value =>
    have hno : ¬ member.WellFormed range.least range.greatest := by
      intro h
      exact absurd (hmodifiers.symm.trans h.noModifiers) (by simp)
    simp [hno]
  | none =>
    cases hbases : member.strayBaseTypes with
    | some value =>
      have hno : ¬ member.WellFormed range.least range.greatest := by
        intro h
        exact absurd (hbases.symm.trans h.noBaseTypes) (by simp)
      simp [hno]
    | none =>
      simp only [Option.isSome_none, Bool.false_eq_true, if_false, andThen_eq_ok,
        validateValue_iff, AttributeEntry.validateAll_iff]
      constructor
      · rintro ⟨hname, hnew, hrange, hattributes⟩
        exact ⟨hnew, hname, hmodifiers, hbases, hrange, hattributes⟩
      · rintro ⟨hnew, hname, -, -, hrange, hattributes⟩
        exact ⟨hname, hnew, hrange, hattributes⟩

/-- An enum passes, with its name, if it is well-formed. -/
theorem EnumEntry.validate_iff {scope : Scope} {entry : EnumEntry} :
    IsDeclarable entry.name ∧ entry.validate scope = .ok () ↔ entry.WellFormed := by
  unfold validate
  cases hbases : entry.strayBaseTypes with
  | some value =>
    have hno : ¬ entry.WellFormed := by
      intro h
      exact absurd (hbases.symm.trans h.noBaseTypes) (by simp)
    simp [hno]
  | none =>
    simp only [Option.isSome_none, Bool.false_eq_true, if_false]
    rw [andThen_eq_ok, andThen_eq_ok, bind_eq_ok, Scope.checkModifiers_iff,
      AttributeEntry.validateAll_iff]
    -- the text of the type is only needed for messages
    have hmembers (text : String) (range : IntRange) :
        checkEach (·.name) (EnumMemberEntry.validate scope text range) [] entry.members = .ok () ↔
          (∀ member ∈ entry.members, member.WellFormed range.least range.greatest) ∧
            (entry.members.map (·.name)).Nodup := by
      refine checkEach_iff (fun seen member => ?_) List.nodup_nil
      exact EnumMemberEntry.validate_iff
    constructor
    · rintro ⟨hname, hmodifiers, hattributes, ⟨text, range⟩, hrange, hchecked⟩
      obtain ⟨hmembers, hdistinct⟩ := (hmembers text range).mp hchecked
      have hbounds := underlyingRange_iff.mp ⟨text, hrange⟩
      exact ⟨hname, hbases, hmodifiers, hattributes,
        ⟨range.least, range.greatest, hbounds, hmembers⟩, hdistinct⟩
    · rintro ⟨hname, -, hmodifiers, hattributes, ⟨least, greatest, hbounds, hright⟩, hdistinct⟩
      obtain ⟨text, hrange⟩ : ∃ text, entry.underlyingRange scope =
          .ok (text, (⟨least, greatest⟩ : IntRange)) := underlyingRange_iff.mpr hbounds
      exact ⟨hname, hmodifiers, hattributes, (text, ⟨least, greatest⟩), hrange,
        (hmembers text ⟨least, greatest⟩).mpr ⟨hright, hdistinct⟩⟩

/-! ## Manifests -/

/-- A namespace can be entered if it is missing or well-formed. -/
theorem enter_iff {manifest : Manifest} {root : Scope} :
    (∃ scope, manifest.enter root = .ok scope) ↔
      ∀ entry, manifest.enclosing = some entry → entry.WellFormed := by
  unfold enter
  cases manifest.enclosing with
  | none => simp
  | some entry =>
    simp only [andThen_eq_ok, Scope.checkFragment_iff, checkAll_iff]
    constructor
    · rintro ⟨scope, hname, husings, -⟩ found hfound
      injection hfound with hfound
      subst hfound
      exact ⟨hname, husings⟩
    · intro h
      obtain ⟨hname, husings⟩ := h entry rfl
      exact ⟨root.push entry.name, hname, husings, rfl⟩

/-- The types of one kind are checked behind the types of the kinds before it. -/
theorem checkTypes_iff {α : Type} {name : α → String} {inside : α → Scope → Except Diagnostic Unit}
    {IsRight : α → Prop} {scope : Scope} {what : String} {types : List α} {seen : List String}
    (hinside : ∀ scope entry, IsDeclarable (name entry) ∧ inside entry scope = .ok () ↔
      IsRight entry) (hseen : seen.Nodup) :
    checkEach name (fun seen entry => checkType scope what seen (name entry) (inside entry)) seen
        types = .ok () ↔
      (∀ entry ∈ types, IsRight entry) ∧ (seen ++ types.map name).Nodup := by
  refine checkEach_iff (fun seen entry => ?_) hseen
  rw [checkType_iff, hinside]

/-- A manifest that passes follows the rules. -/
theorem wellFormed_of_validate {manifest : Manifest} {root : Scope}
    (h : manifest.validate root = .ok ()) : manifest.WellFormed := by
  unfold validate at h
  simp only [andThen_eq_ok, checkAll_iff, Scope.checkFragment_iff] at h
  obtain ⟨husings, h⟩ := h
  obtain ⟨scope, henter, h⟩ := bind_eq_ok.mp h
  simp only [andThen_eq_ok] at h
  obtain ⟨hclasses, hinterfaces, henums⟩ := h
  obtain ⟨hclasses, hdistinct⟩ :=
    (checkTypes_iff (fun _ _ => ClassEntry.validate_iff) List.nodup_nil).mp hclasses
  obtain ⟨hinterfaces, hdistinct⟩ :=
    (checkTypes_iff (fun _ _ => InterfaceEntry.validate_iff) hdistinct).mp hinterfaces
  obtain ⟨henums, hdistinct⟩ :=
    (checkTypes_iff (fun _ _ => EnumEntry.validate_iff) hdistinct).mp henums
  exact ⟨husings, enter_iff.mp ⟨scope, henter⟩, hclasses, hinterfaces, henums, hdistinct⟩

/-- A manifest that follows the rules passes, whatever its text. -/
theorem validate_of_wellFormed {manifest : Manifest} (root : Scope) (h : manifest.WellFormed) :
    manifest.validate root = .ok () := by
  obtain ⟨husings, henclosing, hclasses, hinterfaces, henums, hdistinct⟩ := h
  obtain ⟨scope, henter⟩ : ∃ scope, manifest.enter root = .ok scope := enter_iff.mpr henclosing
  -- The names are distinct in all, hence those of classes and interfaces, hence those of classes.
  have hbehind := List.Nodup.of_append_left hdistinct
  unfold validate
  simp only [andThen_eq_ok, checkAll_iff, Scope.checkFragment_iff]
  refine ⟨husings, bind_eq_ok.mpr ⟨scope, henter, ?_⟩⟩
  simp only [andThen_eq_ok]
  refine ⟨?_, ?_, ?_⟩
  · exact (checkTypes_iff (fun _ _ => ClassEntry.validate_iff) List.nodup_nil).mpr
      ⟨hclasses, List.Nodup.of_append_left hbehind⟩
  · exact (checkTypes_iff (fun _ _ => InterfaceEntry.validate_iff)
      (List.Nodup.of_append_left hbehind)).mpr ⟨hinterfaces, hbehind⟩
  · exact (checkTypes_iff (fun _ _ => EnumEntry.validate_iff) hbehind).mpr ⟨henums, hdistinct⟩

/-- A manifest passes validation exactly when it keeps the rules, whatever its source text is. -/
theorem validate_ofSource_eq_ok_iff (manifest : Manifest) (source filename : String) :
    manifest.validate (.ofSource source filename) = .ok () ↔ manifest.WellFormed :=
  ⟨wellFormed_of_validate, validate_of_wellFormed _⟩

end Manifest

end DeclScribe
