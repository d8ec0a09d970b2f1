import DeclScribe.Proofs.Manifest.Arguments

/-!
# What lowering gives

For each kind of entry, lowering succeeds with a declaration exactly when the slots of the
declaration are what the texts of the entry are read as. Of a well-formed entry every text can be
read, so every well-formed manifest has a compilation unit.
-/

set_option autoImplicit false

namespace DeclScribe

namespace Manifest

/-! ## Parts -/

/-- Words are lowered one by one, and only if each of them is a modifier. -/
theorem lowerModifiers_eq_ok_iff {place : String} {words : List String}
    {modifiers : List Modifier} :
    lowerModifiers place words = .ok modifiers ↔
      List.Forall₂ (fun word modifier => Modifier.ofWord? word = some modifier) words
        modifiers := by
  unfold lowerModifiers
  rw [lowerAll_eq_ok_iff]
  constructor
  · intro h
    refine h.imp fun word modifier hword => ?_
    split at hword
    · rename_i found hfound
      injection hword with hword
      exact hword ▸ hfound
    · exact absurd hword (by simp)
  · intro h
    refine h.imp fun word modifier hword => ?_
    simp only [hword]

/-- Words that are modifiers are lowered, wherever they stand. -/
theorem exists_lowerModifiers {words : List String} (h : ∀ word ∈ words, IsModifier word)
    (place : String) : ∃ modifiers, lowerModifiers place words = .ok modifiers := by
  have hword : ∀ word ∈ words, ∃ modifier, Modifier.ofWord? word = some modifier := by
    intro word hmem
    obtain ⟨modifier, hmodifier⟩ := h word hmem
    exact ⟨modifier, Modifier.ofWord?_eq_some_iff.mpr hmodifier⟩
  obtain ⟨modifiers, hmodifiers⟩ := exists_forall₂ hword
  exact ⟨modifiers, lowerModifiers_eq_ok_iff.mpr hmodifiers⟩

/-- Arguments are added behind the name of an attribute, which stays. -/
theorem ArgumentEntry.exists_addAll {arguments : List ArgumentEntry}
    (h : ∀ argument ∈ arguments, argument.WellFormed) (a : Attribute) :
    ∃ next, ArgumentEntry.addAll arguments a = .ok next := by
  induction arguments generalizing a with
  | nil => exact ⟨a, rfl⟩
  | cons argument rest ih =>
    obtain ⟨hargument, hrest⟩ := List.forall_mem_cons.mp h
    obtain ⟨added, hadded, -⟩ := ArgumentEntry.exists_addTo hargument a
    obtain ⟨next, hnext⟩ := ih hrest (a.add added)
    exact ⟨next, by simp only [addAll, hadded, hnext]⟩

/-- A well-formed attribute is lowered. Its arguments are added one behind the other. -/
theorem AttributeEntry.exists_lower {entry : AttributeEntry} (h : entry.WellFormed) :
    ∃ a, entry.lower = .ok a := by
  obtain ⟨name, hname⟩ := h.name
  obtain ⟨a, ha⟩ := ArgumentEntry.exists_addAll h.arguments { name }
  exact ⟨a, by simp only [lower, Attribute.parse, hname, ha]⟩

/-- Each attribute comes to stand alone in a list. -/
theorem AttributeEntry.lowerAll_eq_ok_iff {entries : List AttributeEntry}
    {lists : List AttributeList} :
    AttributeEntry.lowerAll entries = .ok lists ↔
      List.Forall₂ (fun entry list => ∃ a, entry.lower = .ok a ∧ list = .single a)
        entries lists := by
  unfold AttributeEntry.lowerAll
  rw [Manifest.lowerAll_eq_ok_iff]
  simp only [map_eq_ok, lowered_eq_ok]

/-- The attributes of a well-formed declaration are lowered. -/
theorem AttributeEntry.exists_lowerAll {entries : List AttributeEntry}
    (h : ∀ entry ∈ entries, entry.WellFormed) :
    ∃ lists, AttributeEntry.lowerAll entries = .ok lists := by
  have hentry : ∀ entry ∈ entries, ∃ list, ∃ a, entry.lower = .ok a ∧
      list = AttributeList.single a := by
    intro entry hmem
    obtain ⟨a, ha⟩ := AttributeEntry.exists_lower (h entry hmem)
    exact ⟨.single a, a, ha, rfl⟩
  obtain ⟨lists, hlists⟩ := exists_forall₂ hentry
  exact ⟨lists, AttributeEntry.lowerAll_eq_ok_iff.mpr hlists⟩

/-- A base list is lowered if there is one and all its types parse. -/
theorem lowerBases_eq_ok_iff {bases : Option (List String)} {types : Option (List TypeRef)} :
    lowerBases bases = .ok types ↔
      bases = none ∧ types = none ∨
        ∃ texts found, bases = some texts ∧ types = some found ∧
          parseAll TypeRef.parse texts = .ok found := by
  unfold lowerBases
  cases bases with
  | none => simp [eq_comm]
  | some texts => simp [map_eq_ok, lowered_eq_ok, and_comm]

/-- A base list is lowered if all its types parse. -/
theorem exists_lowerBases {bases : Option (List String)}
    (h : ∀ texts, bases = some texts → ∀ text ∈ texts, Parses TypeRef.parse text) :
    ∃ types, lowerBases bases = .ok types := by
  cases bases with
  | none => exact ⟨none, rfl⟩
  | some texts =>
    obtain ⟨types, htypes⟩ := exists_parseAll (h texts rfl)
    exact ⟨some types, lowerBases_eq_ok_iff.mpr (Or.inr ⟨texts, types, rfl, rfl, htypes⟩)⟩

/-! ## Members -/

/-- A field is lowered to one declarator, which has the name as it is read. -/
theorem FieldEntry.lower_eq_ok_iff {entry : FieldEntry} {decl : FieldDecl} :
    entry.lower = .ok decl ↔
      TypeRef.parse entry.type = .ok decl.type ∧
      lowerModifiers (owner .fieldDecl entry.name) entry.modifiers = .ok decl.modifiers ∧
      AttributeEntry.lowerAll entry.attributes = .ok decl.attributes ∧
      ∃ identifier initializer,
        Name.parseIdentifier .simpleIdentifier entry.name = .ok identifier ∧
        parseOption Expr.parse entry.initializer = .ok initializer ∧
        decl.declarators = [⟨identifier, initializer⟩] := by
  obtain ⟨attributes, modifiers, type, declarators⟩ := decl
  unfold lower FieldDecl.single
  simp only [bind_eq_ok, pure_eq_ok, lowered_eq_ok, map_eq_ok]
  constructor
  · rintro ⟨type, htype, field, ⟨identifier, hname, rfl⟩, modifiers, hmodifiers, initializer,
      hinitializer, attributes, hattributes, hdecl⟩
    injection hdecl
    subst_vars
    exact ⟨htype, hmodifiers, hattributes, identifier, initializer, hname, hinitializer, rfl⟩
  · rintro ⟨htype, hmodifiers, hattributes, identifier, initializer, hname, hinitializer, rfl⟩
    exact ⟨type, htype, _, ⟨identifier, hname, rfl⟩, modifiers, hmodifiers, initializer,
      hinitializer, attributes, hattributes, rfl⟩

/-- A well-formed field is lowered. -/
theorem FieldEntry.exists_lower {entry : FieldEntry} (h : entry.WellFormed) :
    ∃ decl, entry.lower = .ok decl := by
  obtain ⟨type, htype⟩ := h.type
  obtain ⟨modifiers, hmodifiers⟩ := exists_lowerModifiers h.modifiers (owner .fieldDecl entry.name)
  obtain ⟨attributes, hattributes⟩ := AttributeEntry.exists_lowerAll h.attributes
  obtain ⟨initializer, hinitializer⟩ := exists_parseOption h.initializer
  have hname := Name.parseIdentifier_of_isDeclarable .simpleIdentifier h.name
  exact ⟨⟨attributes, modifiers, type, _⟩, FieldEntry.lower_eq_ok_iff.mpr
    ⟨htype, hmodifiers, hattributes, _, _, hname, hinitializer, rfl⟩⟩

/-- A property is lowered if its texts parse and its modifiers are known. Accessor words are not
asked for: those that name no accessor are dropped. -/
theorem PropertyEntry.lower_eq_ok_iff {entry : PropertyEntry} {decl : PropertyDecl} :
    entry.lower = .ok decl ↔
      parseOption Expr.parse entry.initializer = .ok decl.initializer ∧
      TypeRef.parse entry.type = .ok decl.type ∧
      lowerModifiers (owner .propertyDecl entry.name) entry.modifiers = .ok decl.modifiers ∧
      AttributeEntry.lowerAll entry.attributes = .ok decl.attributes ∧
      decl.identifier = entry.name ∧
      decl.accessors =
        (entry.accessorWords.filterMap AccessorKind.ofWord?).map fun kind => { kind } := by
  obtain ⟨attributes, modifiers, type, identifier, accessors, initializer⟩ := decl
  unfold lower
  simp only [bind_eq_ok, pure_eq_ok, lowered_eq_ok]
  constructor
  · rintro ⟨initializer, hinitializer, type, htype, modifiers, hmodifiers, attributes, hattributes,
      hdecl⟩
    injection hdecl
    subst_vars
    exact ⟨hinitializer, htype, hmodifiers, hattributes, rfl, rfl⟩
  · rintro ⟨hinitializer, htype, hmodifiers, hattributes, rfl, rfl⟩
    exact ⟨initializer, hinitializer, type, htype, modifiers, hmodifiers, attributes, hattributes,
      rfl⟩

/-- A well-formed property is lowered. -/
theorem PropertyEntry.exists_lower {entry : PropertyEntry} (h : entry.WellFormed) :
    ∃ decl, entry.lower = .ok decl := by
  obtain ⟨type, htype⟩ := h.type
  obtain ⟨modifiers, hmodifiers⟩ :=
    exists_lowerModifiers h.modifiers (owner .propertyDecl entry.name)
  obtain ⟨attributes, hattributes⟩ := AttributeEntry.exists_lowerAll h.attributes
  obtain ⟨initializer, hinitializer⟩ := exists_parseOption h.initializer
  exact ⟨⟨attributes, modifiers, type, entry.name, _, initializer⟩,
    PropertyEntry.lower_eq_ok_iff.mpr
      ⟨hinitializer, htype, hmodifiers, hattributes, rfl, rfl⟩⟩

/-- A parameter is lowered if its texts parse, with its name as it is written. -/
theorem ParameterEntry.lower_eq_ok_iff {entry : ParameterEntry} {parameter : Parameter} :
    entry.lower = .ok parameter ↔
      parseOption Expr.parse entry.default = .ok parameter.default ∧
      TypeRef.parse entry.type = .ok parameter.type ∧ parameter.identifier = entry.name := by
  obtain ⟨type, identifier, default⟩ := parameter
  unfold lower
  simp only [bind_eq_ok, pure_eq_ok, lowered_eq_ok]
  constructor
  · rintro ⟨default, hdefault, type, htype, hparameter⟩
    injection hparameter
    subst_vars
    exact ⟨hdefault, htype, rfl⟩
  · rintro ⟨hdefault, htype, rfl⟩
    exact ⟨default, hdefault, type, htype, rfl⟩

/-- A well-formed parameter is lowered. -/
theorem ParameterEntry.exists_lower {entry : ParameterEntry} (h : entry.WellFormed) :
    ∃ parameter, entry.lower = .ok parameter := by
  obtain ⟨type, htype⟩ := h.type
  obtain ⟨default, hdefault⟩ := exists_parseOption h.default
  exact ⟨⟨type, entry.name, default⟩, ParameterEntry.lower_eq_ok_iff.mpr ⟨hdefault, htype, rfl⟩⟩

/-- The body of a well-formed method is what its expression is read as, or what stands in for it. -/
theorem MethodEntry.exists_lowerBody {entry : MethodEntry} (h : entry.WellFormed)
    (otherwise : MethodBody) : ∃ body, entry.lowerBody otherwise = .ok body := by
  unfold lowerBody
  cases hbody : entry.body with
  | none => exact ⟨otherwise, rfl⟩
  | some text =>
    obtain ⟨e, he⟩ := h.body text hbody
    exact ⟨.expression e, map_eq_ok.mpr ⟨e, lowered_eq_ok.mpr he, rfl⟩⟩

/-- A method is lowered with its parameters one by one, and with the name as it is written. -/
theorem MethodEntry.lower_eq_ok_iff {entry : MethodEntry} {otherwise : MethodBody}
    {decl : MethodDecl} :
    entry.lower otherwise = .ok decl ↔
      entry.lowerBody otherwise = .ok decl.body ∧
      List.Forall₂ (fun entry parameter => ParameterEntry.lower entry = .ok parameter)
        entry.parameters decl.parameters ∧
      TypeRef.parse entry.returns = .ok decl.returns ∧
      lowerModifiers (owner .methodDecl entry.name) entry.modifiers = .ok decl.modifiers ∧
      AttributeEntry.lowerAll entry.attributes = .ok decl.attributes ∧
      decl.identifier = entry.name := by
  obtain ⟨attributes, modifiers, returns, identifier, parameters, body⟩ := decl
  unfold lower
  simp only [bind_eq_ok, pure_eq_ok, lowered_eq_ok, Manifest.lowerAll_eq_ok_iff]
  constructor
  · rintro ⟨body, hbody, parameters, hparameters, returns, hreturns, modifiers, hmodifiers,
      attributes, hattributes, hdecl⟩
    injection hdecl
    subst_vars
    exact ⟨hbody, hparameters, hreturns, hmodifiers, hattributes, rfl⟩
  · rintro ⟨hbody, hparameters, hreturns, hmodifiers, hattributes, rfl⟩
    exact ⟨body, hbody, parameters, hparameters, returns, hreturns, modifiers, hmodifiers,
      attributes, hattributes, rfl⟩

/-- A well-formed method is lowered, whatever stands in for a missing body. -/
theorem MethodEntry.exists_lower {entry : MethodEntry} (h : entry.WellFormed)
    (otherwise : MethodBody) : ∃ decl, entry.lower otherwise = .ok decl := by
  obtain ⟨body, hbody⟩ := MethodEntry.exists_lowerBody h otherwise
  obtain ⟨parameters, hparameters⟩ := exists_forall₂ fun parameter hparameter =>
    ParameterEntry.exists_lower (h.parameters parameter hparameter)
  obtain ⟨returns, hreturns⟩ := h.returns
  obtain ⟨modifiers, hmodifiers⟩ := exists_lowerModifiers h.modifiers (owner .methodDecl entry.name)
  obtain ⟨attributes, hattributes⟩ := AttributeEntry.exists_lowerAll h.attributes
  exact ⟨⟨attributes, modifiers, returns, entry.name, parameters, body⟩,
    MethodEntry.lower_eq_ok_iff.mpr
      ⟨hbody, hparameters, hreturns, hmodifiers, hattributes, rfl⟩⟩

/-! ## Types -/

/-- Members that are what the entries of a class or interface are lowered to: fields, then
properties, then methods. `body` is what stands for a method without a body. -/
def LowersMembers (fields : List FieldEntry) (properties : List PropertyEntry)
    (methods : List MethodEntry) (body : MethodEntry → MethodBody) (members : List Member) : Prop :=
  ∃ fieldDecls propertyDecls methodDecls,
    List.Forall₂ (fun entry decl => FieldEntry.lower entry = .ok decl) fields fieldDecls ∧
    List.Forall₂ (fun entry decl => PropertyEntry.lower entry = .ok decl) properties
      propertyDecls ∧
    List.Forall₂ (fun entry decl => MethodEntry.lower entry (body entry) = .ok decl) methods
      methodDecls ∧
    members = fieldDecls.map .fieldDecl ++ propertyDecls.map .propertyDecl ++
      methodDecls.map .methodDecl

/-- Well-formed fields, properties and methods are lowered to members. -/
theorem exists_lowersMembers {fields : List FieldEntry} {properties : List PropertyEntry}
    {methods : List MethodEntry} (hfields : ∀ field ∈ fields, field.WellFormed)
    (hproperties : ∀ property ∈ properties, property.WellFormed)
    (hmethods : ∀ method ∈ methods, method.WellFormed) (body : MethodEntry → MethodBody) :
    ∃ members, LowersMembers fields properties methods body members := by
  obtain ⟨fieldDecls, hfieldDecls⟩ := exists_forall₂ fun field hfield =>
    FieldEntry.exists_lower (hfields field hfield)
  obtain ⟨propertyDecls, hpropertyDecls⟩ := exists_forall₂ fun property hproperty =>
    PropertyEntry.exists_lower (hproperties property hproperty)
  obtain ⟨methodDecls, hmethodDecls⟩ := exists_forall₂ fun method hmethod =>
    MethodEntry.exists_lower (hmethods method hmethod) (body method)
  exact ⟨_, fieldDecls, propertyDecls, methodDecls, hfieldDecls, hpropertyDecls, hmethodDecls, rfl⟩

/-- A class is lowered to a type with its header and its members. -/
theorem ClassEntry.lower_eq_ok_iff {entry : ClassEntry} {decl : TypeDecl} :
    entry.lower = .ok decl ↔
      decl.keyword = .classType ∧
      lowerModifiers (owner .classDecl entry.name) entry.modifiers = .ok decl.header.modifiers ∧
      lowerBases entry.baseTypes = .ok decl.header.bases ∧
      AttributeEntry.lowerAll entry.attributes = .ok decl.header.attributes ∧
      decl.header.identifier = entry.name ∧
      LowersMembers entry.fields entry.properties entry.methods MethodEntry.classBody
        decl.members := by
  obtain ⟨keyword, ⟨attributes, modifiers, identifier, bases⟩, members⟩ := decl
  unfold lower LowersMembers
  simp only [bind_eq_ok, pure_eq_ok, Manifest.lowerAll_eq_ok_iff]
  constructor
  · rintro ⟨modifiers, hmodifiers, bases, hbases, attributes, hattributes, fields, hfields,
      properties, hproperties, methods, hmethods, hdecl⟩
    injection hdecl with hkeyword hheader hmembers
    injection hheader
    subst_vars
    exact ⟨rfl, hmodifiers, hbases, hattributes, rfl, fields, properties, methods, hfields,
      hproperties, hmethods, rfl⟩
  · rintro ⟨rfl, hmodifiers, hbases, hattributes, rfl, fields, properties, methods, hfields,
      hproperties, hmethods, rfl⟩
    exact ⟨modifiers, hmodifiers, bases, hbases, attributes, hattributes, fields, hfields,
      properties, hproperties, methods, hmethods, rfl⟩

/-- A well-formed class is lowered. -/
theorem ClassEntry.exists_lower {entry : ClassEntry} (h : entry.WellFormed) :
    ∃ decl, entry.lower = .ok decl := by
  obtain ⟨modifiers, hmodifiers⟩ :=
    exists_lowerModifiers h.body.modifiers (owner .classDecl entry.name)
  obtain ⟨bases, hbases⟩ := exists_lowerBases h.body.baseTypes
  obtain ⟨attributes, hattributes⟩ := AttributeEntry.exists_lowerAll h.body.attributes
  obtain ⟨members, hmembers⟩ := exists_lowersMembers h.fields h.body.properties h.body.methods
    MethodEntry.classBody
  exact ⟨⟨.classType, ⟨attributes, modifiers, entry.name, bases⟩, members⟩,
    ClassEntry.lower_eq_ok_iff.mpr ⟨rfl, hmodifiers, hbases, hattributes, rfl, hmembers⟩⟩

/-- An interface is lowered to a type without fields. -/
theorem InterfaceEntry.lower_eq_ok_iff {entry : InterfaceEntry} {decl : TypeDecl} :
    entry.lower = .ok decl ↔
      decl.keyword = .interfaceType ∧
      lowerModifiers (owner .interfaceDecl entry.name) entry.modifiers =
        .ok decl.header.modifiers ∧
      lowerBases entry.baseTypes = .ok decl.header.bases ∧
      AttributeEntry.lowerAll entry.attributes = .ok decl.header.attributes ∧
      decl.header.identifier = entry.name ∧
      LowersMembers [] entry.properties entry.methods (fun _ => .none) decl.members := by
  obtain ⟨keyword, ⟨attributes, modifiers, identifier, bases⟩, members⟩ := decl
  unfold lower LowersMembers
  simp only [bind_eq_ok, pure_eq_ok, Manifest.lowerAll_eq_ok_iff]
  constructor
  · rintro ⟨modifiers, hmodifiers, bases, hbases, attributes, hattributes, properties, hproperties,
      methods, hmethods, hdecl⟩
    injection hdecl with hkeyword hheader hmembers
    injection hheader
    subst_vars
    exact ⟨rfl, hmodifiers, hbases, hattributes, rfl, [], properties, methods, .nil, hproperties,
      hmethods, rfl⟩
  · rintro ⟨rfl, hmodifiers, hbases, hattributes, rfl, fields, properties, methods, hfields,
      hproperties, hmethods, rfl⟩
    rw [List.forall₂_nil_left_iff] at hfields
    subst hfields
    exact ⟨modifiers, hmodifiers, bases, hbases, attributes, hattributes, properties, hproperties,
      methods, hmethods, rfl⟩

/-- A well-formed interface is lowered. -/
theorem InterfaceEntry.exists_lower {entry : InterfaceEntry} (h : entry.WellFormed) :
    ∃ decl, entry.lower = .ok decl := by
  obtain ⟨modifiers, hmodifiers⟩ :=
    exists_lowerModifiers h.body.modifiers (owner .interfaceDecl entry.name)
  obtain ⟨bases, hbases⟩ := exists_lowerBases h.body.baseTypes
  obtain ⟨attributes, hattributes⟩ := AttributeEntry.exists_lowerAll h.body.attributes
  have hfields : ∀ field ∈ ([] : List FieldEntry), field.WellFormed := List.forall_mem_nil _
  obtain ⟨members, hmembers⟩ := exists_lowersMembers hfields h.body.properties h.body.methods
    fun _ => .none
  exact ⟨⟨.interfaceType, ⟨attributes, modifiers, entry.name, bases⟩, members⟩,
    InterfaceEntry.lower_eq_ok_iff.mpr ⟨rfl, hmodifiers, hbases, hattributes, rfl, hmembers⟩⟩

/-- A member of an enum is lowered with the expression of its value, if it has one. -/
theorem EnumMemberEntry.lower_eq_ok_iff {entry : EnumMemberEntry} {member : EnumMember} :
    entry.lower = .ok member ↔
      AttributeEntry.lowerAll entry.attributes = .ok member.attributes ∧
      member.identifier = entry.name ∧
      (entry.value = none ∧ member.value = none ∨
        ∃ value e, entry.value = some value ∧ LiteralValue.toExpr (.int value) = .ok e ∧
          member.value = some e) := by
  obtain ⟨attributes, identifier, value⟩ := member
  unfold lower
  -- a missing value is not lowered at all, so the two cases have different steps
  cases entry.value with
  | none =>
    simp only [bind_eq_ok, pure_eq_ok]
    constructor
    · rintro ⟨value, rfl, attributes, hattributes, hmember⟩
      injection hmember
      subst_vars
      exact ⟨hattributes, rfl, Or.inl ⟨trivial, rfl⟩⟩
    · rintro ⟨hattributes, rfl, ⟨-, rfl⟩ | ⟨value, e, hvalue, -⟩⟩
      · exact ⟨none, rfl, attributes, hattributes, rfl⟩
      · exact absurd hvalue (by simp)
  | some n =>
    simp only [bind_eq_ok, pure_eq_ok, map_eq_ok, lowered_eq_ok]
    constructor
    · rintro ⟨value, ⟨e, he, rfl⟩, attributes, hattributes, hmember⟩
      injection hmember
      subst_vars
      exact ⟨hattributes, rfl, Or.inr ⟨n, e, rfl, he, rfl⟩⟩
    · rintro ⟨hattributes, rfl, ⟨hvalue, -⟩ | ⟨found, e, hvalue, he, rfl⟩⟩
      · exact absurd hvalue (by simp)
      · injection hvalue with hvalue
        subst hvalue
        exact ⟨some e, ⟨e, he, rfl⟩, attributes, hattributes, rfl⟩

/-- A well-formed member of an enum is lowered. That its value is in range is not needed for it. -/
theorem EnumMemberEntry.exists_lower {least greatest : Int} {entry : EnumMemberEntry}
    (h : entry.WellFormed least greatest) : ∃ member, entry.lower = .ok member := by
  obtain ⟨attributes, hattributes⟩ := AttributeEntry.exists_lowerAll h.attributes
  cases hvalue : entry.value with
  | none =>
    exact ⟨⟨attributes, entry.name, none⟩, EnumMemberEntry.lower_eq_ok_iff.mpr
      ⟨hattributes, rfl, Or.inl ⟨hvalue, rfl⟩⟩⟩
  | some n =>
    exact ⟨⟨attributes, entry.name, some _⟩, EnumMemberEntry.lower_eq_ok_iff.mpr
      ⟨hattributes, rfl, Or.inr ⟨n, _, hvalue, rfl, rfl⟩⟩⟩

/-- An enum is lowered with its members one by one. -/
theorem EnumEntry.lower_eq_ok_iff {entry : EnumEntry} {decl : EnumDecl} :
    entry.lower = .ok decl ↔
      parseOption TypeRef.parse entry.underlying = .ok decl.underlying ∧
      lowerModifiers (owner .enumDecl entry.name) entry.modifiers = .ok decl.modifiers ∧
      AttributeEntry.lowerAll entry.attributes = .ok decl.attributes ∧
      List.Forall₂ (fun entry member => EnumMemberEntry.lower entry = .ok member) entry.members
        decl.members ∧
      decl.identifier = entry.name := by
  obtain ⟨attributes, modifiers, identifier, underlying, members⟩ := decl
  unfold lower
  simp only [bind_eq_ok, pure_eq_ok, lowered_eq_ok, Manifest.lowerAll_eq_ok_iff]
  constructor
  · rintro ⟨underlying, hunderlying, modifiers, hmodifiers, attributes, hattributes, members,
      hmembers, hdecl⟩
    injection hdecl
    subst_vars
    exact ⟨hunderlying, hmodifiers, hattributes, hmembers, rfl⟩
  · rintro ⟨hunderlying, hmodifiers, hattributes, hmembers, rfl⟩
    exact ⟨underlying, hunderlying, modifiers, hmodifiers, attributes, hattributes, members,
      hmembers, rfl⟩

/-- The underlying type of an enum with bounds is one that parses. -/
theorem EnumEntry.HasBounds.parses {entry : EnumEntry} {least greatest : Int}
    (h : entry.HasBounds least greatest) : ParsesIfPresent TypeRef.parse entry.underlying := by
  intro text htext
  unfold HasBounds at h
  rw [htext] at h
  obtain ⟨type, htype, -⟩ := h
  exact ⟨_, htype⟩

/-- A well-formed enum is lowered. -/
theorem EnumEntry.exists_lower {entry : EnumEntry} (h : entry.WellFormed) :
    ∃ decl, entry.lower = .ok decl := by
  obtain ⟨least, greatest, hbounds, hright⟩ := h.members
  obtain ⟨underlying, hunderlying⟩ := exists_parseOption hbounds.parses
  obtain ⟨modifiers, hmodifiers⟩ := exists_lowerModifiers h.modifiers (owner .enumDecl entry.name)
  obtain ⟨attributes, hattributes⟩ := AttributeEntry.exists_lowerAll h.attributes
  obtain ⟨members, hmembers⟩ := exists_forall₂ fun member hmember =>
    EnumMemberEntry.exists_lower (hright member hmember)
  exact ⟨⟨attributes, modifiers, entry.name, underlying, members⟩,
    EnumEntry.lower_eq_ok_iff.mpr ⟨hunderlying, hmodifiers, hattributes, hmembers, rfl⟩⟩

/-! ## Units -/

/-- The types of a manifest are its classes, then its interfaces, then its enums. -/
theorem lowerTypes_eq_ok_iff {manifest : Manifest} {types : List Member} :
    manifest.lowerTypes = .ok types ↔
      ∃ classes interfaces enums,
        List.Forall₂ (fun entry decl => ClassEntry.lower entry = .ok decl) manifest.classes
          classes ∧
        List.Forall₂ (fun entry decl => InterfaceEntry.lower entry = .ok decl)
          manifest.interfaces interfaces ∧
        List.Forall₂ (fun entry decl => EnumEntry.lower entry = .ok decl) manifest.enums enums ∧
        types = classes.map TypeDecl.toMember ++ interfaces.map TypeDecl.toMember ++
          enums.map Member.enumDecl := by
  unfold lowerTypes
  simp only [bind_eq_ok, pure_eq_ok, lowerAll_eq_ok_iff]
  constructor
  · rintro ⟨classes, hclasses, interfaces, hinterfaces, enums, henums, htypes⟩
    exact ⟨classes, interfaces, enums, hclasses, hinterfaces, henums, htypes⟩
  · rintro ⟨classes, interfaces, enums, hclasses, hinterfaces, henums, htypes⟩
    exact ⟨classes, hclasses, interfaces, hinterfaces, enums, henums, htypes⟩

/-- Directives are lowered to plain ones for the names that their texts are read as. -/
theorem usingParseAll_eq_ok_iff {texts : List String} {usings : List Using} :
    Using.parseAll texts = .ok usings ↔
      ∃ names, parseAll Name.parse texts = .ok names ∧
        usings = names.map fun name => { name } := by
  unfold Using.parseAll
  rw [map_eq_ok]

/-- The types stand in the unit itself, or in the one namespace that it has. -/
theorem enclose_eq_ok_iff {manifest : Manifest} {types members : List Member} :
    manifest.enclose types = .ok members ↔
      manifest.enclosing = none ∧ members = types ∨
        ∃ entry name usings, manifest.enclosing = some entry ∧
          Name.parse entry.name = .ok name ∧ Using.parseAll entry.usings = .ok usings ∧
          members = [.namespaceDecl name usings types] := by
  unfold enclose NamespaceDecl.parse
  cases manifest.enclosing with
  | none => simp [eq_comm]
  | some entry =>
    simp only [bind_eq_ok, pure_eq_ok, lowered_eq_ok, map_eq_ok]
    constructor
    · rintro ⟨decl, ⟨name, hname, rfl⟩, usings, husings, hmembers⟩
      exact Or.inr ⟨entry, name, usings, rfl, hname, husings, hmembers⟩
    · rintro (⟨hnone, -⟩ | ⟨found, name, usings, hfound, hname, husings, hmembers⟩)
      · exact absurd hnone (by simp)
      · injection hfound with hfound
        subst hfound
        exact ⟨_, ⟨name, hname, rfl⟩, usings, husings, hmembers⟩

/-- A manifest is lowered to a unit with its directives and with its types, in a namespace or not.
-/
theorem lower_eq_ok_iff {manifest : Manifest} {unit : CompilationUnit} :
    manifest.lower = .ok unit ↔
      Using.parseAll manifest.usings = .ok unit.usings ∧
      ∃ types, manifest.lowerTypes = .ok types ∧ manifest.enclose types = .ok unit.members := by
  obtain ⟨usings, members⟩ := unit
  unfold lower
  simp only [bind_eq_ok, pure_eq_ok, lowered_eq_ok]
  constructor
  · rintro ⟨types, htypes, usings, husings, members, hmembers, hunit⟩
    injection hunit
    subst_vars
    exact ⟨husings, types, htypes, hmembers⟩
  · rintro ⟨husings, types, htypes, hmembers⟩
    exact ⟨types, htypes, usings, husings, members, hmembers, rfl⟩

/-- Directives whose names parse are lowered. -/
theorem exists_usings {texts : List String} (h : ∀ text ∈ texts, Parses Name.parse text) :
    ∃ usings, Using.parseAll texts = .ok usings := by
  obtain ⟨names, hnames⟩ := exists_parseAll h
  exact ⟨_, usingParseAll_eq_ok_iff.mpr ⟨names, hnames, rfl⟩⟩

/-- The types of a well-formed manifest can be put into its namespace. -/
theorem exists_enclose {manifest : Manifest} (h : manifest.WellFormed) (types : List Member) :
    ∃ members, manifest.enclose types = .ok members := by
  cases henclosing : manifest.enclosing with
  | none => exact ⟨types, enclose_eq_ok_iff.mpr (Or.inl ⟨henclosing, rfl⟩)⟩
  | some entry =>
    obtain ⟨name, hname⟩ := (h.enclosing entry henclosing).name
    obtain ⟨usings, husings⟩ := exists_usings (h.enclosing entry henclosing).usings
    exact ⟨[.namespaceDecl name usings types], enclose_eq_ok_iff.mpr
      (Or.inr ⟨entry, name, usings, henclosing, hname, husings, rfl⟩)⟩

/-- A well-formed manifest has a compilation unit. -/
theorem exists_lower {manifest : Manifest} (h : manifest.WellFormed) :
    ∃ unit, manifest.lower = .ok unit := by
  obtain ⟨classes, hclasses⟩ := exists_forall₂ fun entry hentry =>
    ClassEntry.exists_lower (h.classes entry hentry)
  obtain ⟨interfaces, hinterfaces⟩ := exists_forall₂ fun entry hentry =>
    InterfaceEntry.exists_lower (h.interfaces entry hentry)
  obtain ⟨enums, henums⟩ := exists_forall₂ fun entry hentry =>
    EnumEntry.exists_lower (h.enums entry hentry)
  have htypes := lowerTypes_eq_ok_iff.mpr
    ⟨classes, interfaces, enums, hclasses, hinterfaces, henums, rfl⟩
  obtain ⟨usings, husings⟩ := exists_usings h.usings
  obtain ⟨members, hmembers⟩ := exists_enclose h (classes.map TypeDecl.toMember ++
    interfaces.map TypeDecl.toMember ++ enums.map Member.enumDecl)
  exact ⟨⟨usings, members⟩, lower_eq_ok_iff.mpr ⟨husings, _, htypes, hmembers⟩⟩

end Manifest

end DeclScribe
