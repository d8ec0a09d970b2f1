import DeclScribe.Proofs.Manifest.Arguments

/-!
# What the symbols are

The symbols of a manifest are read from its entries without a detour over the declarations. Again it
is said for each kind of entry what its symbol is made of, and that a well-formed entry has one.
-/

set_option autoImplicit false

namespace DeclScribe

/-- An argument, positional or named, leaves the class of the data alone. -/
theorem AttributeData.add_className (data : AttributeData) (name : Option String)
    (value : Constant) : (data.add name value).className = data.className := by
  cases name <;> rfl

namespace Manifest

variable {declared : Declared}

/-! ## Parts -/

/-- A type is known by its printed text, whether it is declared or not. -/
theorem Declared.resolve_name {text : String} {type : TypeRef} {mention : TypeMention}
    (htype : TypeRef.parse text = .ok type) (h : declared.resolve text = .ok mention) :
    mention.name = type.print := by
  unfold resolve at h
  rw [htype] at h
  dsimp only at h
  split at h
  · injection h with h
    rw [← h, Declared.mention]
  · injection h with h
    rw [← h]

/-- A type that parses is resolved, to a declared type or to what it prints as. -/
theorem Declared.exists_resolve {text : String} (h : Parses TypeRef.parse text) :
    ∃ type, declared.resolve text = .ok type := by
  obtain ⟨found, hfound⟩ := h
  unfold resolve
  rw [hfound]
  dsimp only
  split
  · exact ⟨_, rfl⟩
  · exact ⟨_, rfl⟩

/-- A value that is read as an expression has a constant if it parses. -/
theorem exists_constantOfText {text : String} (h : Parses Expr.parse text) :
    ∃ value, constantOfText text = .ok value := by
  obtain ⟨e, he⟩ := h
  exact ⟨Constant.ofExpr e, map_eq_ok.mpr ⟨e, he, rfl⟩⟩

/-- A well-formed argument has a constant. -/
theorem ArgumentEntry.exists_constant {argument : ArgumentEntry} (h : argument.WellFormed) :
    ∃ value, argument.constant = .ok value := by
  unfold constant
  split
  · exact ⟨_, rfl⟩
  · rename_i text hvalue
    by_cases hquoted : argument.isQuoted = true
    · rw [if_pos hquoted]
      exact ⟨_, rfl⟩
    · rw [if_neg hquoted]
      rw [ArgumentEntry.isQuoted_string_iff hvalue, not_not] at hquoted
      exact exists_constantOfText (h.expression text hvalue hquoted)
  · rename_i value hstring hvalue
    have hscalar := h.scalar value hvalue
    split
    · exact ⟨_, rfl⟩
    · cases value with
      | string text => exact absurd rfl (hstring text)
      | integer n => exact ⟨_, rfl⟩
      | float x => exact ⟨_, rfl⟩
      | boolean b => exact ⟨_, rfl⟩
      | datetime text => exact absurd hscalar id
      | array items => exact absurd hscalar id
      | table entries => exact absurd hscalar id

/-- Arguments are collected behind the class of an attribute, which stays. -/
theorem ArgumentEntry.collect_className {arguments : List ArgumentEntry}
    {data found : AttributeData} (h : ArgumentEntry.collect arguments data = .ok found) :
    found.className = data.className := by
  induction arguments generalizing data with
  | nil =>
    injection h with h
    rw [h]
  | cons argument rest ih =>
    rw [collect] at h
    split at h
    · exact absurd h (by simp)
    · rename_i value _
      rw [ih h, AttributeData.add_className]

/-- The constants of well-formed arguments are collected, whatever was collected before. -/
theorem ArgumentEntry.exists_collect {arguments : List ArgumentEntry}
    (h : ∀ argument ∈ arguments, argument.WellFormed) (data : AttributeData) :
    ∃ found, ArgumentEntry.collect arguments data = .ok found := by
  induction arguments generalizing data with
  | nil => exact ⟨data, rfl⟩
  | cons argument rest ih =>
    obtain ⟨hargument, hrest⟩ := List.forall_mem_cons.mp h
    obtain ⟨value, hvalue⟩ := ArgumentEntry.exists_constant hargument
    obtain ⟨found, hfound⟩ := ih hrest (data.add argument.name value)
    exact ⟨found, by simp only [collect, hvalue, hfound]⟩

/-- The class of the data is the simple identifier of the name that the attribute is given. -/
theorem AttributeEntry.symbol_className {entry : AttributeEntry} {data : AttributeData}
    (h : entry.symbol = .ok data) :
    ∃ name, Name.parse entry.name = .ok name ∧ data.className = name.simpleIdentifier := by
  unfold symbol at h
  split at h
  · exact absurd h (by simp)
  · rename_i name hname
    exact ⟨name, hname, ArgumentEntry.collect_className h⟩

/-- A well-formed attribute has data. -/
theorem AttributeEntry.exists_symbol {entry : AttributeEntry} (h : entry.WellFormed) :
    ∃ data, entry.symbol = .ok data := by
  obtain ⟨name, hname⟩ := h.name
  obtain ⟨data, hdata⟩ := ArgumentEntry.exists_collect h.arguments
    { className := name.simpleIdentifier }
  exact ⟨data, by simp only [symbol, hname, hdata]⟩

/-- The attributes of a well-formed declaration have data. -/
theorem AttributeEntry.exists_symbols {entries : List AttributeEntry}
    (h : ∀ entry ∈ entries, entry.WellFormed) :
    ∃ data, AttributeEntry.symbols entries = .ok data := by
  obtain ⟨data, hdata⟩ := exists_forall₂ fun entry hentry =>
    AttributeEntry.exists_symbol (h entry hentry)
  exact ⟨data, symbolAll_eq_ok_iff.mpr hdata⟩

/-! ## Members -/

/-- The symbol of a field has the type that its text is resolved to and the modifiers that say
something of it. -/
theorem FieldEntry.symbol_eq_ok_iff {entry : FieldEntry} {symbol : FieldSymbol} :
    entry.symbol declared = .ok symbol ↔
      declared.resolve entry.type = .ok symbol.type ∧
      AttributeEntry.symbols entry.attributes = .ok symbol.attributes ∧
      symbol.name = entry.name ∧ symbol.isConst = entry.modifiers.contains "const" ∧
      symbol.isStatic =
        (entry.modifiers.contains "const" || entry.modifiers.contains "static") := by
  obtain ⟨name, type, isStatic, isConst, attributes⟩ := symbol
  unfold FieldEntry.symbol
  simp only [bind_eq_ok, pure_eq_ok]
  constructor
  · rintro ⟨type, htype, attributes, hattributes, hsymbol⟩
    injection hsymbol
    subst_vars
    exact ⟨htype, hattributes, rfl, rfl, rfl⟩
  · rintro ⟨htype, hattributes, rfl, rfl, rfl⟩
    exact ⟨type, htype, attributes, hattributes, rfl⟩

/-- A well-formed field has a symbol. -/
theorem FieldEntry.exists_symbol {entry : FieldEntry} (h : entry.WellFormed) :
    ∃ symbol, entry.symbol declared = .ok symbol := by
  obtain ⟨type, htype⟩ := Declared.exists_resolve h.type
  obtain ⟨attributes, hattributes⟩ := AttributeEntry.exists_symbols h.attributes
  exact ⟨⟨entry.name, type, _, _, attributes⟩,
    FieldEntry.symbol_eq_ok_iff.mpr ⟨htype, hattributes, rfl, rfl, rfl⟩⟩

/-- The symbol of a property has the type that its text is resolved to. -/
theorem PropertyEntry.symbol_eq_ok_iff {entry : PropertyEntry} {symbol : PropertySymbol} :
    entry.symbol declared = .ok symbol ↔
      declared.resolve entry.type = .ok symbol.type ∧
      AttributeEntry.symbols entry.attributes = .ok symbol.attributes ∧
      symbol.name = entry.name ∧ symbol.isStatic = entry.modifiers.contains "static" ∧
      symbol.isReadOnly = entry.isReadOnly := by
  obtain ⟨name, type, isStatic, isReadOnly, attributes⟩ := symbol
  unfold PropertyEntry.symbol
  simp only [bind_eq_ok, pure_eq_ok]
  constructor
  · rintro ⟨type, htype, attributes, hattributes, hsymbol⟩
    injection hsymbol
    subst_vars
    exact ⟨htype, hattributes, rfl, rfl, rfl⟩
  · rintro ⟨htype, hattributes, rfl, rfl, rfl⟩
    exact ⟨type, htype, attributes, hattributes, rfl⟩

/-- A well-formed property has a symbol. -/
theorem PropertyEntry.exists_symbol {entry : PropertyEntry} (h : entry.WellFormed) :
    ∃ symbol, entry.symbol declared = .ok symbol := by
  obtain ⟨type, htype⟩ := Declared.exists_resolve h.type
  obtain ⟨attributes, hattributes⟩ := AttributeEntry.exists_symbols h.attributes
  exact ⟨⟨entry.name, type, _, _, attributes⟩,
    PropertyEntry.symbol_eq_ok_iff.mpr ⟨htype, hattributes, rfl, rfl, rfl⟩⟩

/-- The symbol of a parameter has the type that its text is resolved to. -/
theorem ParameterEntry.symbol_eq_ok_iff {entry : ParameterEntry} {symbol : ParameterSymbol} :
    entry.symbol declared = .ok symbol ↔
      declared.resolve entry.type = .ok symbol.type ∧ symbol.name = entry.name := by
  obtain ⟨name, type⟩ := symbol
  unfold ParameterEntry.symbol
  rw [map_eq_ok]
  constructor
  · rintro ⟨type, htype, hsymbol⟩
    injection hsymbol
    subst_vars
    exact ⟨htype, rfl⟩
  · rintro ⟨htype, rfl⟩
    exact ⟨type, htype, rfl⟩

/-- A well-formed parameter has a symbol. -/
theorem ParameterEntry.exists_symbol {entry : ParameterEntry} (h : entry.WellFormed) :
    ∃ symbol, entry.symbol declared = .ok symbol := by
  obtain ⟨type, htype⟩ := Declared.exists_resolve h.type
  exact ⟨⟨entry.name, type⟩, ParameterEntry.symbol_eq_ok_iff.mpr ⟨htype, rfl⟩⟩

/-- The symbol of a method has its parameters one by one. -/
theorem MethodEntry.symbol_eq_ok_iff {entry : MethodEntry} {symbol : MethodSymbol} :
    entry.symbol declared = .ok symbol ↔
      List.Forall₂ (fun entry symbol => ParameterEntry.symbol declared entry = .ok symbol)
        entry.parameters symbol.parameters ∧
      declared.resolve entry.returns = .ok symbol.returns ∧
      AttributeEntry.symbols entry.attributes = .ok symbol.attributes ∧
      symbol.name = entry.name ∧ symbol.isStatic = entry.modifiers.contains "static" := by
  obtain ⟨name, returns, parameters, isStatic, attributes⟩ := symbol
  unfold MethodEntry.symbol
  simp only [bind_eq_ok, pure_eq_ok, symbolAll_eq_ok_iff]
  constructor
  · rintro ⟨parameters, hparameters, returns, hreturns, attributes, hattributes, hsymbol⟩
    injection hsymbol
    subst_vars
    exact ⟨hparameters, hreturns, hattributes, rfl, rfl⟩
  · rintro ⟨hparameters, hreturns, hattributes, rfl, rfl⟩
    exact ⟨parameters, hparameters, returns, hreturns, attributes, hattributes, rfl⟩

/-- A well-formed method has a symbol. -/
theorem MethodEntry.exists_symbol {entry : MethodEntry} (h : entry.WellFormed) :
    ∃ symbol, entry.symbol declared = .ok symbol := by
  obtain ⟨parameters, hparameters⟩ := exists_forall₂ fun parameter hparameter =>
    ParameterEntry.exists_symbol (h.parameters parameter hparameter)
  obtain ⟨returns, hreturns⟩ := Declared.exists_resolve h.returns
  obtain ⟨attributes, hattributes⟩ := AttributeEntry.exists_symbols h.attributes
  exact ⟨⟨entry.name, returns, parameters, _, attributes⟩,
    MethodEntry.symbol_eq_ok_iff.mpr ⟨hparameters, hreturns, hattributes, rfl, rfl⟩⟩

/-! ## Types -/

/-- Symbols that are what the entries of a class or interface mean: fields, then properties, then
methods. -/
def MeansMembers (declared : Declared) (fields : List FieldEntry)
    (properties : List PropertyEntry) (methods : List MethodEntry) (members : List MemberSymbol) :
    Prop :=
  ∃ fieldSymbols propertySymbols methodSymbols,
    List.Forall₂ (fun entry symbol => FieldEntry.symbol declared entry = .ok symbol) fields
      fieldSymbols ∧
    List.Forall₂ (fun entry symbol => PropertyEntry.symbol declared entry = .ok symbol) properties
      propertySymbols ∧
    List.Forall₂ (fun entry symbol => MethodEntry.symbol declared entry = .ok symbol) methods
      methodSymbols ∧
    members = fieldSymbols.map .field ++ propertySymbols.map .property ++
      methodSymbols.map .method

/-- Well-formed fields, properties and methods have symbols. -/
theorem exists_meansMembers {fields : List FieldEntry} {properties : List PropertyEntry}
    {methods : List MethodEntry} (hfields : ∀ field ∈ fields, field.WellFormed)
    (hproperties : ∀ property ∈ properties, property.WellFormed)
    (hmethods : ∀ method ∈ methods, method.WellFormed) :
    ∃ members, MeansMembers declared fields properties methods members := by
  obtain ⟨fieldSymbols, hfieldSymbols⟩ := exists_forall₂ fun field hfield =>
    FieldEntry.exists_symbol (hfields field hfield)
  obtain ⟨propertySymbols, hpropertySymbols⟩ := exists_forall₂ fun property hproperty =>
    PropertyEntry.exists_symbol (hproperties property hproperty)
  obtain ⟨methodSymbols, hmethodSymbols⟩ := exists_forall₂ fun method hmethod =>
    MethodEntry.exists_symbol (hmethods method hmethod)
  exact ⟨_, fieldSymbols, propertySymbols, methodSymbols, hfieldSymbols, hpropertySymbols,
    hmethodSymbols, rfl⟩

/-- The symbol of a class is a mention of it with its data and its members. -/
theorem ClassEntry.symbol_eq_ok_iff {entry : ClassEntry} {symbol : TypeSymbol} :
    entry.symbol declared = .ok symbol ↔
      symbol.toTypeMention = declared.mention .classType entry.name ∧
      AttributeEntry.symbols entry.attributes = .ok symbol.attributes ∧
      MeansMembers declared entry.fields entry.properties entry.methods symbol.members := by
  obtain ⟨mention, members, attributes⟩ := symbol
  unfold ClassEntry.symbol MeansMembers
  simp only [bind_eq_ok, pure_eq_ok, symbolAll_eq_ok_iff]
  constructor
  · rintro ⟨attributes, hattributes, fields, hfields, properties, hproperties, methods, hmethods,
      hsymbol⟩
    injection hsymbol
    subst_vars
    exact ⟨rfl, hattributes, fields, properties, methods, hfields, hproperties, hmethods, rfl⟩
  · rintro ⟨rfl, hattributes, fields, properties, methods, hfields, hproperties, hmethods, rfl⟩
    exact ⟨attributes, hattributes, fields, hfields, properties, hproperties, methods, hmethods,
      rfl⟩

/-- A well-formed class has a symbol. -/
theorem ClassEntry.exists_symbol {entry : ClassEntry} (h : entry.WellFormed) :
    ∃ symbol, entry.symbol declared = .ok symbol := by
  obtain ⟨attributes, hattributes⟩ := AttributeEntry.exists_symbols h.body.attributes
  obtain ⟨members, hmembers⟩ := exists_meansMembers h.fields h.body.properties h.body.methods
  exact ⟨⟨declared.mention .classType entry.name, members, attributes⟩,
    ClassEntry.symbol_eq_ok_iff.mpr ⟨rfl, hattributes, hmembers⟩⟩

/-- The symbol of an interface has the same slots as that of a class. -/
theorem InterfaceEntry.symbol_eq_ok_iff {entry : InterfaceEntry} {symbol : TypeSymbol} :
    entry.symbol declared = .ok symbol ↔
      symbol.toTypeMention = declared.mention .interfaceType entry.name ∧
      AttributeEntry.symbols entry.attributes = .ok symbol.attributes ∧
      MeansMembers declared [] entry.properties entry.methods symbol.members := by
  obtain ⟨mention, members, attributes⟩ := symbol
  unfold InterfaceEntry.symbol MeansMembers
  simp only [bind_eq_ok, pure_eq_ok, symbolAll_eq_ok_iff]
  constructor
  · rintro ⟨attributes, hattributes, properties, hproperties, methods, hmethods, hsymbol⟩
    injection hsymbol
    subst_vars
    exact ⟨rfl, hattributes, [], properties, methods, .nil, hproperties, hmethods, rfl⟩
  · rintro ⟨rfl, hattributes, fields, properties, methods, hfields, hproperties, hmethods, rfl⟩
    rw [List.forall₂_nil_left_iff] at hfields
    subst hfields
    exact ⟨attributes, hattributes, properties, hproperties, methods, hmethods, rfl⟩

/-- A well-formed interface has a symbol. -/
theorem InterfaceEntry.exists_symbol {entry : InterfaceEntry} (h : entry.WellFormed) :
    ∃ symbol, entry.symbol declared = .ok symbol := by
  obtain ⟨attributes, hattributes⟩ := AttributeEntry.exists_symbols h.body.attributes
  have hfields : ∀ field ∈ ([] : List FieldEntry), field.WellFormed := List.forall_mem_nil _
  obtain ⟨members, hmembers⟩ := exists_meansMembers hfields h.body.properties h.body.methods
  exact ⟨⟨declared.mention .interfaceType entry.name, members, attributes⟩,
    InterfaceEntry.symbol_eq_ok_iff.mpr ⟨rfl, hattributes, hmembers⟩⟩

/-- The symbol of a member of an enum is a constant that has the enum as its type. -/
theorem EnumMemberEntry.symbol_eq_ok_iff {type : TypeMention} {entry : EnumMemberEntry}
    {symbol : FieldSymbol} :
    entry.symbol type = .ok symbol ↔
      AttributeEntry.symbols entry.attributes = .ok symbol.attributes ∧
      symbol.name = entry.name ∧ symbol.type = type ∧ symbol.isStatic = true ∧
      symbol.isConst = true := by
  obtain ⟨name, type, isStatic, isConst, attributes⟩ := symbol
  unfold EnumMemberEntry.symbol
  rw [map_eq_ok]
  constructor
  · rintro ⟨attributes, hattributes, hsymbol⟩
    injection hsymbol
    subst_vars
    exact ⟨hattributes, rfl, rfl, rfl, rfl⟩
  · rintro ⟨hattributes, rfl, rfl, rfl, rfl⟩
    exact ⟨attributes, hattributes, rfl⟩

/-- The members of the symbol of an enum are constants of the enum itself. -/
theorem EnumEntry.symbol_eq_ok_iff {entry : EnumEntry} {symbol : TypeSymbol} :
    entry.symbol declared = .ok symbol ↔
      symbol.toTypeMention = declared.mention .enumType entry.name ∧
      AttributeEntry.symbols entry.attributes = .ok symbol.attributes ∧
      ∃ fields,
        List.Forall₂ (fun entry field =>
            EnumMemberEntry.symbol symbol.toTypeMention entry = .ok field)
          entry.members fields ∧
        symbol.members = fields.map .field := by
  obtain ⟨mention, members, attributes⟩ := symbol
  unfold EnumEntry.symbol
  simp only [bind_eq_ok, pure_eq_ok, symbolAll_eq_ok_iff]
  constructor
  · rintro ⟨attributes, hattributes, fields, hfields, hsymbol⟩
    injection hsymbol
    subst_vars
    exact ⟨rfl, hattributes, fields, hfields, rfl⟩
  · rintro ⟨rfl, hattributes, fields, hfields, rfl⟩
    exact ⟨attributes, hattributes, fields, hfields, rfl⟩

/-- A well-formed enum has a symbol. -/
theorem EnumEntry.exists_symbol {entry : EnumEntry} (h : entry.WellFormed) :
    ∃ symbol, entry.symbol declared = .ok symbol := by
  obtain ⟨attributes, hattributes⟩ := AttributeEntry.exists_symbols h.attributes
  obtain ⟨least, greatest, -, hright⟩ := h.members
  have hmember : ∀ member ∈ entry.members, ∃ field,
      EnumMemberEntry.symbol (declared.mention .enumType entry.name) member = .ok field := by
    intro member hmem
    obtain ⟨data, hdata⟩ := AttributeEntry.exists_symbols (hright member hmem).attributes
    exact ⟨⟨member.name, _, true, true, data⟩,
      EnumMemberEntry.symbol_eq_ok_iff.mpr ⟨hdata, rfl, rfl, rfl, rfl⟩⟩
  obtain ⟨fields, hfields⟩ := exists_forall₂ hmember
  exact ⟨⟨declared.mention .enumType entry.name, fields.map .field, attributes⟩,
    EnumEntry.symbol_eq_ok_iff.mpr ⟨rfl, hattributes, fields, hfields, rfl⟩⟩

/-! ## Manifests -/

/-- The symbols of a manifest are those of its classes, of its interfaces and of its enums. -/
theorem symbols_eq_ok_iff {manifest : Manifest} {symbols : List TypeSymbol} :
    manifest.symbols = .ok symbols ↔
      ∃ classes interfaces enums,
        List.Forall₂
          (fun entry symbol => ClassEntry.symbol (.ofManifest manifest) entry = .ok symbol)
          manifest.classes classes ∧
        List.Forall₂
          (fun entry symbol => InterfaceEntry.symbol (.ofManifest manifest) entry = .ok symbol)
          manifest.interfaces interfaces ∧
        List.Forall₂
          (fun entry symbol => EnumEntry.symbol (.ofManifest manifest) entry = .ok symbol)
          manifest.enums enums ∧
        symbols = classes ++ interfaces ++ enums := by
  unfold Manifest.symbols
  simp only [bind_eq_ok, pure_eq_ok, symbolAll_eq_ok_iff]
  constructor
  · rintro ⟨classes, hclasses, interfaces, hinterfaces, enums, henums, hsymbols⟩
    exact ⟨classes, interfaces, enums, hclasses, hinterfaces, henums, hsymbols⟩
  · rintro ⟨classes, interfaces, enums, hclasses, hinterfaces, henums, hsymbols⟩
    exact ⟨classes, hclasses, interfaces, hinterfaces, enums, henums, hsymbols⟩

/-- A well-formed manifest has symbols. -/
theorem exists_symbols {manifest : Manifest} (h : manifest.WellFormed) :
    ∃ symbols, manifest.symbols = .ok symbols := by
  obtain ⟨classes, hclasses⟩ := exists_forall₂ fun entry hentry =>
    ClassEntry.exists_symbol (h.classes entry hentry)
  obtain ⟨interfaces, hinterfaces⟩ := exists_forall₂ fun entry hentry =>
    InterfaceEntry.exists_symbol (h.interfaces entry hentry)
  obtain ⟨enums, henums⟩ := exists_forall₂ fun entry hentry =>
    EnumEntry.exists_symbol (h.enums entry hentry)
  exact ⟨classes ++ interfaces ++ enums, symbols_eq_ok_iff.mpr
    ⟨classes, interfaces, enums, hclasses, hinterfaces, henums, rfl⟩⟩

end Manifest

end DeclScribe
