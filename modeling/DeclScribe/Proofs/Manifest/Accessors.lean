import DeclScribe.Proofs.Manifest.Agreement

/-!
# Words that name no accessor

Nothing but validation looks at the accessor words of a manifest one by one. Lowering goes on
without those that name no accessor, whatever else is in the manifest: it succeeds, or fails, as if
they were not there. So the properties of a unit have all the words of their entries only if no
word is unknown.
-/

set_option autoImplicit false

namespace DeclScribe

/-- A word that names an accessor. -/
def IsAccessorWord (word : String) : Prop :=
  word = "get" ∨ word = "set" ∨ word = "init"

/-- It is decided by comparing with the three words. -/
instance (word : String) : Decidable (IsAccessorWord word) :=
  inferInstanceAs (Decidable (word = "get" ∨ word = "set" ∨ word = "init"))

/-- A word is read as a kind of accessor exactly when it names one. -/
theorem AccessorKind.isSome_ofWord? (word : String) :
    (AccessorKind.ofWord? word).isSome = decide (IsAccessorWord word) := by
  rw [Bool.eq_iff_iff, decide_eq_true_iff, ← Option.isNone_eq_false_iff]
  exact AccessorKind.ofWord?_isNone_iff

/-! ## Declared properties -/

/-- The words of the accessors of a property. -/
def PropertyDecl.accessorWords (decl : PropertyDecl) : List String :=
  decl.accessors.map (·.kind.word)

/-- The property that a member is. -/
def Member.property? : Member → Option PropertyDecl
  | .propertyDecl decl => some decl
  | _ => none

/-- The properties that a type declares. -/
def Member.properties : Member → List PropertyDecl
  | .typeDecl _ _ members => members.filterMap property?
  | _ => []

/-- The properties of all types of a unit, type by type. -/
def CompilationUnit.properties (unit : CompilationUnit) : List PropertyDecl :=
  unit.declaredTypes.flatMap Member.properties

namespace Manifest

/-- The properties of all types of a manifest, classes first. -/
def propertyEntries (manifest : Manifest) : List PropertyEntry :=
  manifest.classes.flatMap (·.properties) ++ manifest.interfaces.flatMap (·.properties)

/-! ## Leaving words out -/

/-- The property without the words that name no accessor. -/
def PropertyEntry.withKnownAccessors (entry : PropertyEntry) : PropertyEntry :=
  { entry with accessors := entry.accessors.map (·.filter fun word => IsAccessorWord word) }

/-- The class, with such properties only. -/
def ClassEntry.withKnownAccessors (entry : ClassEntry) : ClassEntry :=
  { entry with properties := entry.properties.map PropertyEntry.withKnownAccessors }

/-- The interface, with such properties only. -/
def InterfaceEntry.withKnownAccessors (entry : InterfaceEntry) : InterfaceEntry :=
  { entry with properties := entry.properties.map PropertyEntry.withKnownAccessors }

/-- The manifest without the words that name no accessor. -/
def withKnownAccessors (manifest : Manifest) : Manifest :=
  { manifest with
    classes := manifest.classes.map ClassEntry.withKnownAccessors
    interfaces := manifest.interfaces.map InterfaceEntry.withKnownAccessors }

/-- A property keeps its other words in their order. A property without a list of its own has only
words that name an accessor, so the usual words stay. -/
theorem PropertyEntry.accessorWords_withKnownAccessors (entry : PropertyEntry) :
    entry.withKnownAccessors.accessorWords =
      entry.accessorWords.filter fun word => IsAccessorWord word := by
  obtain ⟨name, type, modifiers, attributes, accessors, initializer⟩ := entry
  cases accessors with
  | none => rfl
  | some words => rfl

/-- Leaving out unknown words first does not change which kinds of accessor are read. -/
theorem filterMap_ofWord?_filter (words : List String) :
    (words.filter fun word => IsAccessorWord word).filterMap AccessorKind.ofWord? =
      words.filterMap AccessorKind.ofWord? := by
  rw [List.filterMap_filter]
  refine List.filterMap_congr fun word _ => ?_
  rw [← AccessorKind.isSome_ofWord?]
  cases AccessorKind.ofWord? word with
  | none => rfl
  | some kind => rfl

/-! ## Lowering without them -/

/-- Changing the entries and then lowering them is lowering what each is changed to. -/
theorem lowerAll_map {α β γ : Type} (f : α → β) (lower : β → Except LowerError γ)
    (items : List α) :
    lowerAll lower (items.map f) = lowerAll (fun item => lower (f item)) items := by
  induction items with
  | nil => rfl
  | cons item rest ih => rw [List.map_cons, lowerAll, lowerAll, ih]

/-- Lowering a property does not see the words that name no accessor. -/
theorem PropertyEntry.lower_withKnownAccessors (entry : PropertyEntry) :
    entry.withKnownAccessors.lower = entry.lower := by
  unfold lower
  rw [accessorWords_withKnownAccessors, filterMap_ofWord?_filter]
  rfl

/-- Lowering some properties does not see the words that name no accessor. -/
theorem PropertyEntry.lowerAll_withKnownAccessors (properties : List PropertyEntry) :
    Manifest.lowerAll PropertyEntry.lower (properties.map withKnownAccessors) =
      Manifest.lowerAll PropertyEntry.lower properties := by
  rw [lowerAll_map]
  simp only [PropertyEntry.lower_withKnownAccessors]

/-- Lowering a class does not see such words in its properties. -/
theorem ClassEntry.lower_withKnownAccessors (entry : ClassEntry) :
    entry.withKnownAccessors.lower = entry.lower := by
  unfold lower withKnownAccessors
  dsimp only
  rw [PropertyEntry.lowerAll_withKnownAccessors]

/-- Lowering an interface does not see such words in its properties. -/
theorem InterfaceEntry.lower_withKnownAccessors (entry : InterfaceEntry) :
    entry.withKnownAccessors.lower = entry.lower := by
  unfold lower withKnownAccessors
  dsimp only
  rw [PropertyEntry.lowerAll_withKnownAccessors]

/-- Lowering succeeds and fails as if the words that name no accessor were not there. -/
theorem lower_withKnownAccessors (manifest : Manifest) :
    manifest.withKnownAccessors.lower = manifest.lower := by
  have htypes : manifest.withKnownAccessors.lowerTypes = manifest.lowerTypes := by
    unfold lowerTypes withKnownAccessors
    dsimp only
    rw [lowerAll_map, lowerAll_map]
    simp only [ClassEntry.lower_withKnownAccessors, InterfaceEntry.lower_withKnownAccessors]
  unfold lower
  rw [htypes]
  rfl

/-! ## What is left -/

/-- A property has the words of its entry that name an accessor. -/
def PropertyEntry.HasKnownAccessors (entry : PropertyEntry) (decl : PropertyDecl) : Prop :=
  decl.accessorWords = entry.accessorWords.filter fun word => IsAccessorWord word

/-- The words of a lowered property are those of its entry that name an accessor. -/
theorem PropertyEntry.hasKnownAccessors_of_lower {entry : PropertyEntry} {decl : PropertyDecl}
    (h : entry.lower = .ok decl) : entry.HasKnownAccessors decl := by
  obtain ⟨-, -, -, -, -, haccessors⟩ := PropertyEntry.lower_eq_ok_iff.mp h
  have hwords : decl.accessorWords =
      (entry.accessorWords.filterMap AccessorKind.ofWord?).map AccessorKind.word := by
    rw [PropertyDecl.accessorWords, haccessors, List.map_map]
    rfl
  rw [HasKnownAccessors, hwords, AccessorKind.map_word_filterMap_ofWord?]
  simp only [AccessorKind.isSome_ofWord?]

/-- Among the members of a type, the properties are those that were lowered from the entries, in the
same order, since fields and methods are none. -/
theorem properties_of_lowersMembers {fields : List FieldEntry} {properties : List PropertyEntry}
    {methods : List MethodEntry} {body : MethodEntry → MethodBody} {members : List Member}
    (h : LowersMembers fields properties methods body members) :
    List.Forall₂ PropertyEntry.HasKnownAccessors properties
      (members.filterMap Member.property?) := by
  obtain ⟨fieldDecls, propertyDecls, methodDecls, -, hproperties, -, rfl⟩ := h
  have hmembers : (fieldDecls.map Member.fieldDecl ++ propertyDecls.map Member.propertyDecl ++
      methodDecls.map Member.methodDecl).filterMap Member.property? = propertyDecls := by
    simp [List.filterMap_map, Member.property?, Function.comp_def]
  rw [hmembers]
  exact hproperties.imp fun _ _ => PropertyEntry.hasKnownAccessors_of_lower

/-- The properties of a unit are those of the manifest, in the same order. -/
theorem properties_of_lower {manifest : Manifest} {unit : CompilationUnit}
    (h : manifest.lower = .ok unit) :
    List.Forall₂ PropertyEntry.HasKnownAccessors manifest.propertyEntries unit.properties := by
  obtain ⟨classes, interfaces, enums, hclasses, hinterfaces, -, htypes⟩ :=
    lowerTypes_eq_ok_iff.mp (declaredTypes_of_lower h)
  have henums : (enums.map Member.enumDecl).flatMap Member.properties = [] := by
    simp [Member.properties]
  rw [CompilationUnit.properties, htypes, List.flatMap_append, List.flatMap_append, henums,
    List.append_nil, List.flatMap_map, List.flatMap_map]
  refine List.rel_append ?_ ?_
  · refine List.rel_flatMap hclasses fun entry decl hdecl => ?_
    obtain ⟨-, -, -, -, -, hmembers⟩ := ClassEntry.lower_eq_ok_iff.mp hdecl
    exact properties_of_lowersMembers hmembers
  · refine List.rel_flatMap hinterfaces fun entry decl hdecl => ?_
    obtain ⟨-, -, -, -, -, hmembers⟩ := InterfaceEntry.lower_eq_ok_iff.mp hdecl
    exact properties_of_lowersMembers hmembers

/-- Properties have all the words of their entries exactly when every word names an accessor. -/
theorem forall₂_accessorWords_iff {entries : List PropertyEntry} {decls : List PropertyDecl}
    (h : List.Forall₂ PropertyEntry.HasKnownAccessors entries decls) :
    List.Forall₂ (fun entry decl => decl.accessorWords = entry.accessorWords) entries decls ↔
      ∀ entry ∈ entries, ∀ word ∈ entry.accessorWords, IsAccessorWord word := by
  induction h with
  | nil => simp
  | @cons entry decl rest others hhead _ ih =>
    have hsame : decl.accessorWords = entry.accessorWords ↔
        ∀ word ∈ entry.accessorWords, IsAccessorWord word := by
      rw [hhead, List.filter_eq_self]
      simp only [decide_eq_true_eq]
    rw [List.forall₂_cons, ih, hsame, List.forall_mem_cons]

/-- A word that names no accessor is passed over in silence. Lowering gives the same unit, or fails
in the same way, as without such words; every property of the unit has the other words of its entry
in their order; and all properties have all their words exactly when every word is known. -/
theorem lower_passes_over_accessors (manifest : Manifest) :
    manifest.lower = manifest.withKnownAccessors.lower ∧
      ∀ unit, manifest.lower = .ok unit →
        List.Forall₂ PropertyEntry.HasKnownAccessors manifest.propertyEntries unit.properties ∧
          (List.Forall₂ (fun entry decl => decl.accessorWords = entry.accessorWords)
              manifest.propertyEntries unit.properties ↔
            ∀ entry ∈ manifest.propertyEntries, ∀ word ∈ entry.accessorWords,
              IsAccessorWord word) := by
  refine ⟨(lower_withKnownAccessors manifest).symm, fun unit hunit => ?_⟩
  have hproperties := properties_of_lower hunit
  exact ⟨hproperties, forall₂_accessorWords_iff hproperties⟩

/-- Properties with words of their own, with the usual ones and with one that is unknown. -/
def accessorsSample : Manifest where
  enclosing := some { name := "N" }
  classes := [{ name := "C", properties := [
    { name := "P", type := "int", accessors := some ["init", "remove", "get"] },
    { name := "Q", type := "int" }] }]
  interfaces := [{ name := "I", properties := [
    { name := "R", type := "int", accessors := some ["get"] }] }]

/-- The sample is lowered, and what is left of the first property is `init` and `get`. -/
theorem lower_accessorsSample :
    ∃ unit, accessorsSample.lower = .ok unit ∧
      unit.properties.map (·.accessorWords) = [["init", "get"], ["get", "set"], ["get"]] := by
  have hwords : accessorsSample.lower.map (fun unit => unit.properties.map (·.accessorWords)) =
      .ok [["init", "get"], ["get", "set"], ["get"]] := by decide +kernel
  obtain ⟨unit, hunit, hproperties⟩ := map_eq_ok.mp hwords
  exact ⟨unit, hunit, hproperties.symm⟩

/-- The statement at a manifest in which one of three properties has an unknown word. -/
theorem lower_passes_over_accessors_sample :
    ∃ unit, accessorsSample.lower = .ok unit ∧
      accessorsSample.withKnownAccessors.lower = .ok unit ∧
      List.Forall₂ PropertyEntry.HasKnownAccessors accessorsSample.propertyEntries
        unit.properties ∧
      (List.Forall₂ (fun entry decl => decl.accessorWords = entry.accessorWords)
          accessorsSample.propertyEntries unit.properties ↔
        ∀ entry ∈ accessorsSample.propertyEntries, ∀ word ∈ entry.accessorWords,
          IsAccessorWord word) := by
  obtain ⟨unit, hunit, -⟩ := lower_accessorsSample
  obtain ⟨hsame, hproperties⟩ := lower_passes_over_accessors accessorsSample
  exact ⟨unit, hunit, hsame ▸ hunit, hproperties unit hunit⟩

/-- One property loses a word, and the unit is given all the same. -/
theorem accessorsSample_loses_word :
    ∃ unit, accessorsSample.lower = .ok unit ∧
      ¬ List.Forall₂ (fun entry decl => decl.accessorWords = entry.accessorWords)
        accessorsSample.propertyEntries unit.properties := by
  obtain ⟨unit, hunit, hwords⟩ := lower_accessorsSample
  refine ⟨unit, hunit, fun hall => ?_⟩
  have hlists : accessorsSample.propertyEntries.map (·.accessorWords) =
      unit.properties.map (·.accessorWords) :=
    forall₂_map_eq_iff.mp (hall.imp fun _ _ => Eq.symm)
  rw [hwords] at hlists
  exact absurd hlists (by decide)

end Manifest

end DeclScribe
