import DeclScribe.Proofs.Manifest.Lowering
import DeclScribe.Proofs.Manifest.Symbols
import DeclScribe.Proofs.Manifest.Validation

/-!
# Declarations and symbols agree

A manifest is read twice, once for the declarations that are printed and once for the symbols that
are shown. Here it is said what it means that a symbol describes a declaration, and shown that both
readings of a valid manifest succeed and describe the same types, with the same members in the same
order. Each kind of entry is compared on its own; lists are then compared item by item, since both
readings keep the order of the entries.
-/

set_option autoImplicit false

namespace DeclScribe

/-! ## What agrees with what -/

/-- The types that a unit declares: its members, or those of the namespace around them. -/
def CompilationUnit.declaredTypes (unit : CompilationUnit) : List Member :=
  match unit.members with
  | [.namespaceDecl _ _ members] => members
  | members => members

/-- The kind of type that a keyword introduces. -/
def TypeKeyword.typeKind : TypeKeyword → TypeKind
  | .classType => .classType
  | .interfaceType => .interfaceType

/-- A text is the rightmost identifier of a name, without the type arguments behind it. -/
inductive Name.EndsIn : Name → String → Prop where
  | identifier (text : String) : EndsIn (.identifier text) text
  | generic (text : String) (arguments : List TypeRef) : EndsIn (.generic text arguments) text
  | qualified {right : Name} {text : String} (left : Name) (h : EndsIn right text) :
      EndsIn (.qualified left right) text
  | aliased {name : Name} {text : String} (qualifier : String) (h : EndsIn name text) :
      EndsIn (.aliased qualifier name) text

/-- The class of each datum is the rightmost identifier of its attribute's name, one for one. -/
def AttributesAgree (lists : List AttributeList) (data : List AttributeData) : Prop :=
  List.Forall₂ (fun (a : Attribute) datum => a.name.EndsIn datum.className)
    (lists.flatMap (·.attributes)) data

/-- A symbol describes a field: it has the name of the only declarator, the type as it is printed,
and counts as static if the field is a constant. -/
structure FieldAgrees (decl : FieldDecl) (symbol : FieldSymbol) : Prop where
  name : decl.declarators.map (·.identifier) = [symbol.name]
  type : symbol.type.name = decl.type.print
  isConst : symbol.isConst = true ↔ .constMod ∈ decl.modifiers
  isStatic : symbol.isStatic = true ↔ .staticMod ∈ decl.modifiers ∨ .constMod ∈ decl.modifiers
  attributes : AttributesAgree decl.attributes symbol.attributes

/-- A symbol describes a property, which is read-only if no accessor can write to it. -/
structure PropertyAgrees (decl : PropertyDecl) (symbol : PropertySymbol) : Prop where
  name : symbol.name = decl.identifier
  type : symbol.type.name = decl.type.print
  isStatic : symbol.isStatic = true ↔ .staticMod ∈ decl.modifiers
  isReadOnly : symbol.isReadOnly = true ↔
    ∀ accessor ∈ decl.accessors, accessor.kind ≠ .set ∧ accessor.kind ≠ .init
  attributes : AttributesAgree decl.attributes symbol.attributes

/-- A symbol describes a parameter. -/
structure ParameterAgrees (parameter : Parameter) (symbol : ParameterSymbol) : Prop where
  name : symbol.name = parameter.identifier
  type : symbol.type.name = parameter.type.print

/-- A symbol describes a method, with its parameters in their order. -/
structure MethodAgrees (decl : MethodDecl) (symbol : MethodSymbol) : Prop where
  name : symbol.name = decl.identifier
  returns : symbol.returns.name = decl.returns.print
  parameters : List.Forall₂ ParameterAgrees decl.parameters symbol.parameters
  isStatic : symbol.isStatic = true ↔ .staticMod ∈ decl.modifiers
  attributes : AttributesAgree decl.attributes symbol.attributes

/-- A member of an enum is a constant of the enum. -/
structure EnumMemberAgrees (type : TypeMention) (member : EnumMember) (symbol : FieldSymbol) :
    Prop where
  name : symbol.name = member.identifier
  type : symbol.type = type
  isConst : symbol.isConst = true
  isStatic : symbol.isStatic = true
  attributes : AttributesAgree member.attributes symbol.attributes

/-- A symbol describes the member of a class or interface. -/
inductive MemberAgrees : Member → MemberSymbol → Prop where
  | field {decl symbol} (h : FieldAgrees decl symbol) :
      MemberAgrees (.fieldDecl decl) (.field symbol)
  | property {decl symbol} (h : PropertyAgrees decl symbol) :
      MemberAgrees (.propertyDecl decl) (.property symbol)
  | method {decl symbol} (h : MethodAgrees decl symbol) :
      MemberAgrees (.methodDecl decl) (.method symbol)

/-- A symbol describes a type. -/
inductive TypeAgrees : Member → TypeSymbol → Prop where
  | typeDecl {keyword : TypeKeyword} {header : TypeHeader} {declared : List Member}
      {symbol : TypeSymbol} (kind : symbol.kind = keyword.typeKind)
      (name : symbol.name = header.identifier)
      (attributes : AttributesAgree header.attributes symbol.attributes)
      (members : List.Forall₂ MemberAgrees declared symbol.members) :
      TypeAgrees (.typeDecl keyword header declared) symbol
  | enumDecl {decl : EnumDecl} {symbol : TypeSymbol} (fields : List FieldSymbol)
      (kind : symbol.kind = .enumType) (name : symbol.name = decl.identifier)
      (attributes : AttributesAgree decl.attributes symbol.attributes)
      (constants : symbol.members = fields.map .field)
      (members : List.Forall₂ (EnumMemberAgrees symbol.toTypeMention) decl.members fields) :
      TypeAgrees (.enumDecl decl) symbol

/-! ## Attributes -/

/-- A name ends in its simple identifier. -/
theorem Name.endsIn_simpleIdentifier (name : Name) : name.EndsIn name.simpleIdentifier := by
  fun_induction simpleIdentifier name with
  | case1 text => exact .identifier text
  | case2 text arguments => exact .generic text arguments
  | case3 left _ ih => exact .qualified left ih
  | case4 qualifier _ ih => exact .aliased qualifier ih

/-- Lists of one attribute each agree with the data as the attributes do. -/
theorem attributesAgree_of_single {lists : List AttributeList} {data : List AttributeData}
    (h : List.Forall₂ (fun list (datum : AttributeData) => ∃ a, list = AttributeList.single a ∧
      a.name.EndsIn datum.className) lists data) : AttributesAgree lists data := by
  unfold AttributesAgree
  induction h with
  | nil => exact .nil
  | cons hhead _ ih =>
    obtain ⟨a, rfl, ha⟩ := hhead
    exact .cons ha ih

namespace Attribute

/-- An argument read from a text leaves the name of an attribute alone. -/
theorem name_of_addText {a next : Attribute} {text : String} (h : a.addText text = .ok next) :
    next.name = a.name := by
  unfold addText at h
  split at h
  · exact absurd h (by simp)
  · injection h with h
    rw [← h, add]

/-- An argument with a literal value leaves the name of an attribute alone. -/
theorem name_of_addLiteral {a next : Attribute} {name : Option String} {value : LiteralValue}
    (h : a.addLiteral name value = .ok next) : next.name = a.name := by
  unfold addLiteral at h
  split at h
  · exact absurd h (by simp)
  · split at h
    · injection h with h
      rw [← h, add]
    · split at h
      · exact absurd h (by simp)
      · injection h with h
        rw [← h, add]

end Attribute

namespace Manifest

/-- Whichever route an argument takes, the name of the attribute stays. -/
theorem ArgumentEntry.name_of_addTo {argument : ArgumentEntry} {a next : Attribute}
    (h : argument.addTo a = .ok next) : next.name = a.name := by
  unfold addTo at h
  split at h
  · exact Attribute.name_of_addText h
  · exact Attribute.name_of_addLiteral h
  · split at h
    · split at h
      · exact Attribute.name_of_addText h
      · exact Attribute.name_of_addText h
    · exact Attribute.name_of_addLiteral h

/-- The name of an attribute is not changed by the arguments it is given. -/
theorem ArgumentEntry.name_of_addAll {arguments : List ArgumentEntry} {a next : Attribute}
    (h : ArgumentEntry.addAll arguments a = .ok next) : next.name = a.name := by
  induction arguments generalizing a with
  | nil =>
    injection h with h
    rw [h]
  | cons argument rest ih =>
    rw [addAll] at h
    split at h
    · exact absurd h (by simp)
    · rename_i added hadded
      rw [ih h, ArgumentEntry.name_of_addTo hadded]

/-- An attribute keeps the name it is parsed from, whatever arguments it is given. -/
theorem AttributeEntry.parse_name_of_lower {entry : AttributeEntry} {a : Attribute}
    (h : entry.lower = .ok a) : Name.parse entry.name = .ok a.name := by
  unfold lower Attribute.parse at h
  cases hname : Name.parse entry.name with
  | error e =>
    rw [hname] at h
    exact absurd h (by simp)
  | ok name =>
    rw [hname] at h
    rw [ArgumentEntry.name_of_addAll h]

/-- The attributes that are printed and the data of a symbol come from the same entries, so each
datum has the class that its attribute names. -/
theorem AttributeEntry.agree {entries : List AttributeEntry} {lists : List AttributeList}
    {data : List AttributeData} (hlists : AttributeEntry.lowerAll entries = .ok lists)
    (hdata : AttributeEntry.symbols entries = .ok data) : AttributesAgree lists data := by
  refine attributesAgree_of_single (forall₂_of_common
    (AttributeEntry.lowerAll_eq_ok_iff.mp hlists) (symbolAll_eq_ok_iff.mp hdata) ?_)
  rintro entry - list datum ⟨a, ha, hlist⟩ hdatum
  obtain ⟨name, hname, hclass⟩ := AttributeEntry.symbol_className hdatum
  have hsame := hname.symm.trans (AttributeEntry.parse_name_of_lower ha)
  injection hsame with hsame
  refine ⟨a, hlist, ?_⟩
  rw [hclass, hsame]
  exact a.name.endsIn_simpleIdentifier

/-! ## Members -/

/-- A modifier is there when its word is. -/
theorem contains_word_iff_mem {place : String} {words : List String} {modifiers : List Modifier}
    (h : lowerModifiers place words = .ok modifiers) (modifier : Modifier) :
    words.contains modifier.word = true ↔ modifier ∈ modifiers := by
  rw [lowerModifiers_eq_ok_iff] at h
  induction h with
  | nil => simp
  | @cons word found rest others hword _ ih =>
    have hhead : modifier.word = word ↔ modifier = found := by
      rw [← Modifier.ofWord?_eq_some_iff, hword, Option.some_inj, eq_comm]
    rw [List.contains_cons, Bool.or_eq_true, ih, beq_iff_eq, hhead, List.mem_cons]

/-- The accessors of a property are those that its words name. -/
theorem PropertyEntry.mem_accessors_iff {entry : PropertyEntry} {kind : AccessorKind} :
    kind ∈ entry.accessorWords.filterMap AccessorKind.ofWord? ↔
      kind.word ∈ entry.accessorWords := by
  rw [List.mem_filterMap]
  constructor
  · rintro ⟨word, hword, hkind⟩
    rw [AccessorKind.ofWord?_eq_some_iff] at hkind
    exact hkind ▸ hword
  · intro hword
    exact ⟨kind.word, hword, AccessorKind.ofWord?_eq_some_iff.mpr rfl⟩

/-- A property is read-only if none of its words names an accessor that writes. -/
theorem PropertyEntry.isReadOnly_iff {entry : PropertyEntry} :
    entry.isReadOnly = true ↔ "set" ∉ entry.accessorWords ∧ "init" ∉ entry.accessorWords := by
  unfold isReadOnly
  rw [Bool.not_eq_true', List.any_eq_false]
  constructor
  · intro h
    refine ⟨fun hset => h _ hset ?_, fun hinit => h _ hinit ?_⟩
    · rfl
    · rfl
  · rintro ⟨hset, hinit⟩ word hword hsetter
    rw [Bool.or_eq_true, beq_iff_eq, beq_iff_eq] at hsetter
    obtain rfl | rfl := hsetter
    · exact hset hword
    · exact hinit hword

variable {declared : Declared}

/-- A field is printed and described alike. -/
theorem FieldEntry.agrees {entry : FieldEntry} {decl : FieldDecl} {symbol : FieldSymbol}
    (h : entry.WellFormed) (hdecl : entry.lower = .ok decl)
    (hsymbol : entry.symbol declared = .ok symbol) : FieldAgrees decl symbol := by
  obtain ⟨htype, hmodifiers, hlists, identifier, initializer, hname, -, hdeclarators⟩ :=
    FieldEntry.lower_eq_ok_iff.mp hdecl
  obtain ⟨hresolve, hdata, hsymbolName, hconst, hstatic⟩ := FieldEntry.symbol_eq_ok_iff.mp hsymbol
  -- The declaration has the name as the parser reads it, the symbol as it is written.
  have hidentifier : identifier = entry.name := by
    rw [Name.parseIdentifier_of_isDeclarable .simpleIdentifier h.name] at hname
    injection hname with hname
    exact hname.symm
  have hisConst : entry.modifiers.contains "const" = true ↔ .constMod ∈ decl.modifiers :=
    contains_word_iff_mem hmodifiers .constMod
  have hisStatic : entry.modifiers.contains "static" = true ↔ .staticMod ∈ decl.modifiers :=
    contains_word_iff_mem hmodifiers .staticMod
  refine ⟨?_, Declared.resolve_name htype hresolve, ?_, ?_, AttributeEntry.agree hlists hdata⟩
  · rw [hdeclarators, hsymbolName, ← hidentifier]
    rfl
  · rw [hconst, hisConst]
  · rw [hstatic, Bool.or_eq_true, hisConst, hisStatic, or_comm]

/-- A property is printed and described alike. -/
theorem PropertyEntry.agrees {entry : PropertyEntry} {decl : PropertyDecl}
    {symbol : PropertySymbol} (hdecl : entry.lower = .ok decl)
    (hsymbol : entry.symbol declared = .ok symbol) : PropertyAgrees decl symbol := by
  obtain ⟨-, htype, hmodifiers, hlists, hname, haccessors⟩ := PropertyEntry.lower_eq_ok_iff.mp hdecl
  obtain ⟨hresolve, hdata, hsymbolName, hstatic, hreadOnly⟩ :=
    PropertyEntry.symbol_eq_ok_iff.mp hsymbol
  refine ⟨?_, Declared.resolve_name htype hresolve, ?_, ?_, AttributeEntry.agree hlists hdata⟩
  · rw [hsymbolName, hname]
  · rw [hstatic]
    exact contains_word_iff_mem hmodifiers .staticMod
  · have hset : .set ∈ entry.accessorWords.filterMap AccessorKind.ofWord? ↔
        "set" ∈ entry.accessorWords := PropertyEntry.mem_accessors_iff
    have hinit : .init ∈ entry.accessorWords.filterMap AccessorKind.ofWord? ↔
        "init" ∈ entry.accessorWords := PropertyEntry.mem_accessors_iff
    rw [hreadOnly, PropertyEntry.isReadOnly_iff, ← hset, ← hinit, haccessors, List.forall_mem_map]
    constructor
    · rintro ⟨hnoSet, hnoInit⟩ kind hkind
      exact ⟨fun h => hnoSet (h ▸ hkind), fun h => hnoInit (h ▸ hkind)⟩
    · intro h
      exact ⟨fun hmem => (h .set hmem).1 rfl, fun hmem => (h .init hmem).2 rfl⟩

/-- A parameter is printed and described alike. -/
theorem ParameterEntry.agrees {entry : ParameterEntry} {parameter : Parameter}
    {symbol : ParameterSymbol} (hparameter : entry.lower = .ok parameter)
    (hsymbol : entry.symbol declared = .ok symbol) : ParameterAgrees parameter symbol := by
  obtain ⟨-, htype, hname⟩ := ParameterEntry.lower_eq_ok_iff.mp hparameter
  obtain ⟨hresolve, hsymbolName⟩ := ParameterEntry.symbol_eq_ok_iff.mp hsymbol
  exact ⟨by rw [hsymbolName, hname], Declared.resolve_name htype hresolve⟩

/-- A method is printed and described alike, with or without a block. -/
theorem MethodEntry.agrees {entry : MethodEntry} {otherwise : MethodBody} {decl : MethodDecl}
    {symbol : MethodSymbol} (hdecl : entry.lower otherwise = .ok decl)
    (hsymbol : entry.symbol declared = .ok symbol) : MethodAgrees decl symbol := by
  obtain ⟨-, hparameters, hreturns, hmodifiers, hlists, hname⟩ :=
    MethodEntry.lower_eq_ok_iff.mp hdecl
  obtain ⟨hsymbols, hresolve, hdata, hsymbolName, hstatic⟩ :=
    MethodEntry.symbol_eq_ok_iff.mp hsymbol
  refine ⟨?_, Declared.resolve_name hreturns hresolve, ?_, ?_, AttributeEntry.agree hlists hdata⟩
  · rw [hsymbolName, hname]
  · exact forall₂_of_common hparameters hsymbols fun _ _ => ParameterEntry.agrees
  · rw [hstatic]
    exact contains_word_iff_mem hmodifiers .staticMod

/-- A member of an enum is printed and described alike, whatever the type of the enum. -/
theorem EnumMemberEntry.agrees {type : TypeMention} {entry : EnumMemberEntry} {member : EnumMember}
    {symbol : FieldSymbol} (hmember : entry.lower = .ok member)
    (hsymbol : entry.symbol type = .ok symbol) : EnumMemberAgrees type member symbol := by
  obtain ⟨hlists, hname, -⟩ := EnumMemberEntry.lower_eq_ok_iff.mp hmember
  obtain ⟨hdata, hsymbolName, htype, hstatic, hconst⟩ := EnumMemberEntry.symbol_eq_ok_iff.mp hsymbol
  exact ⟨by rw [hsymbolName, hname], htype, hconst, hstatic, AttributeEntry.agree hlists hdata⟩

/-- Fields, properties and methods are appended in the same order by both readings. -/
theorem members_agree {fields : List FieldEntry} {properties : List PropertyEntry}
    {methods : List MethodEntry} {body : MethodEntry → MethodBody} {members : List Member}
    {symbols : List MemberSymbol} (hfields : ∀ field ∈ fields, field.WellFormed)
    (hmembers : LowersMembers fields properties methods body members)
    (hsymbols : MeansMembers declared fields properties methods symbols) :
    List.Forall₂ MemberAgrees members symbols := by
  obtain ⟨fieldDecls, propertyDecls, methodDecls, hfieldDecls, hpropertyDecls, hmethodDecls, rfl⟩ :=
    hmembers
  obtain ⟨fieldSymbols, propertySymbols, methodSymbols, hfieldSymbols, hpropertySymbols,
    hmethodSymbols, rfl⟩ := hsymbols
  have hfieldsAgree : List.Forall₂ FieldAgrees fieldDecls fieldSymbols :=
    forall₂_of_common hfieldDecls hfieldSymbols fun field hfield =>
      FieldEntry.agrees (hfields field hfield)
  have hpropertiesAgree : List.Forall₂ PropertyAgrees propertyDecls propertySymbols :=
    forall₂_of_common hpropertyDecls hpropertySymbols fun _ _ => PropertyEntry.agrees
  have hmethodsAgree : List.Forall₂ MethodAgrees methodDecls methodSymbols :=
    forall₂_of_common hmethodDecls hmethodSymbols fun _ _ => MethodEntry.agrees
  apply List.rel_append
  · apply List.rel_append
    · rw [List.forall₂_map_left_iff, List.forall₂_map_right_iff]
      exact hfieldsAgree.imp fun _ _ => .field
    · rw [List.forall₂_map_left_iff, List.forall₂_map_right_iff]
      exact hpropertiesAgree.imp fun _ _ => .property
  · rw [List.forall₂_map_left_iff, List.forall₂_map_right_iff]
    exact hmethodsAgree.imp fun _ _ => .method

/-! ## Types -/

/-- A class is printed and described alike. -/
theorem ClassEntry.agrees {entry : ClassEntry} {decl : TypeDecl} {symbol : TypeSymbol}
    (h : entry.WellFormed) (hdecl : entry.lower = .ok decl)
    (hsymbol : entry.symbol declared = .ok symbol) : TypeAgrees decl.toMember symbol := by
  obtain ⟨hkeyword, -, -, hlists, hname, hmembers⟩ := ClassEntry.lower_eq_ok_iff.mp hdecl
  obtain ⟨hmention, hdata, hsymbols⟩ := ClassEntry.symbol_eq_ok_iff.mp hsymbol
  refine .typeDecl ?_ ?_ (AttributeEntry.agree hlists hdata)
    (members_agree h.fields hmembers hsymbols)
  · rw [hmention, hkeyword]
    rfl
  · rw [hmention, hname]
    rfl

/-- An interface is printed and described alike. It has no fields. -/
theorem InterfaceEntry.agrees {entry : InterfaceEntry} {decl : TypeDecl} {symbol : TypeSymbol}
    (hdecl : entry.lower = .ok decl) (hsymbol : entry.symbol declared = .ok symbol) :
    TypeAgrees decl.toMember symbol := by
  obtain ⟨hkeyword, -, -, hlists, hname, hmembers⟩ := InterfaceEntry.lower_eq_ok_iff.mp hdecl
  obtain ⟨hmention, hdata, hsymbols⟩ := InterfaceEntry.symbol_eq_ok_iff.mp hsymbol
  have hfields : ∀ field ∈ ([] : List FieldEntry), field.WellFormed := List.forall_mem_nil _
  refine .typeDecl ?_ ?_ (AttributeEntry.agree hlists hdata)
    (members_agree hfields hmembers hsymbols)
  · rw [hmention, hkeyword]
    rfl
  · rw [hmention, hname]
    rfl

/-- An enum is printed and described alike. -/
theorem EnumEntry.agrees {entry : EnumEntry} {decl : EnumDecl} {symbol : TypeSymbol}
    (hdecl : entry.lower = .ok decl) (hsymbol : entry.symbol declared = .ok symbol) :
    TypeAgrees (.enumDecl decl) symbol := by
  obtain ⟨-, -, hlists, hmembers, hname⟩ := EnumEntry.lower_eq_ok_iff.mp hdecl
  obtain ⟨hmention, hdata, fields, hfields, hsymbols⟩ := EnumEntry.symbol_eq_ok_iff.mp hsymbol
  refine .enumDecl fields ?_ ?_ (AttributeEntry.agree hlists hdata) hsymbols ?_
  · rw [hmention]
    rfl
  · rw [hmention, hname]
    rfl
  · exact forall₂_of_common hmembers hfields fun _ _ => EnumMemberEntry.agrees

/-! ## Manifests -/

/-- No type is a namespace, so the types of a unit are found behind the namespace or without one. -/
theorem declaredTypes_of_lower {manifest : Manifest} {unit : CompilationUnit}
    (h : manifest.lower = .ok unit) : manifest.lowerTypes = .ok unit.declaredTypes := by
  obtain ⟨-, types, htypes, henclose⟩ := lower_eq_ok_iff.mp h
  suffices hsame : unit.declaredTypes = types by rw [hsame, htypes]
  unfold CompilationUnit.declaredTypes
  obtain ⟨-, hmembers⟩ | ⟨entry, name, usings, -, -, -, hmembers⟩ := enclose_eq_ok_iff.mp henclose
  · rw [hmembers]
    split
    · -- a namespace among the types
      rename_i name usings members
      have hmem : Member.namespaceDecl name usings members ∈
          [Member.namespaceDecl name usings members] := List.mem_singleton_self _
      obtain ⟨classes, interfaces, enums, -, -, -, hall⟩ := lowerTypes_eq_ok_iff.mp htypes
      rw [hall] at hmem
      simp [TypeDecl.toMember] at hmem
    · rfl
  · rw [hmembers]

/-- Both readings of a well-formed manifest describe the same types. -/
theorem types_agree {manifest : Manifest} {types : List Member} {symbols : List TypeSymbol}
    (h : manifest.WellFormed) (htypes : manifest.lowerTypes = .ok types)
    (hsymbols : manifest.symbols = .ok symbols) : List.Forall₂ TypeAgrees types symbols := by
  obtain ⟨classes, interfaces, enums, hclasses, hinterfaces, henums, rfl⟩ :=
    lowerTypes_eq_ok_iff.mp htypes
  obtain ⟨classSymbols, interfaceSymbols, enumSymbols, hclassSymbols, hinterfaceSymbols,
    henumSymbols, rfl⟩ := symbols_eq_ok_iff.mp hsymbols
  apply List.rel_append
  · apply List.rel_append
    · rw [List.forall₂_map_left_iff]
      exact forall₂_of_common hclasses hclassSymbols fun entry hentry =>
        ClassEntry.agrees (h.classes entry hentry)
    · rw [List.forall₂_map_left_iff]
      exact forall₂_of_common hinterfaces hinterfaceSymbols fun _ _ => InterfaceEntry.agrees
  · rw [List.forall₂_map_left_iff]
    exact forall₂_of_common henums henumSymbols fun _ _ => EnumEntry.agrees

/-- A manifest with a type and a member of each kind. The arguments are those that are written as
text and read again: a missing value and a quoted number. -/
def sample : Manifest where
  usings := ["System"]
  enclosing := some { name := "Demo.Shapes" }
  classes := [{
    name := "Point"
    attributes := [{
      name := "System.Obsolete"
      arguments := [{ name := some "Message" },
        { value := some (.integer 3), quoted := some true }] }]
    fields := [{ name := "Zero", type := "int", modifiers := ["const"], initializer := some "0" }]
    properties := [{ name := "X", type := "double", accessors := some ["get"] }]
    methods := [{ name := "Move", parameters := [{ name := "by", type := "List<int>" }] }] }]
  interfaces := [{ name := "IShape", methods := [{ name := "Area", returns := "double" }] }]
  enums := [{ name := "Color", members := [{ name := "Red", value := some 1 }] }]

/-- The sample passes validation. -/
theorem validate_sample : sample.validate (.ofSource "" "") = .ok () := by
  decide +kernel

/-- A manifest that passes validation has a compilation unit and symbols: no text is left that does
not parse, and no modifier that is not known. -/
theorem lower_symbols_succeed {manifest : Manifest} {source filename : String}
    (h : manifest.validate (.ofSource source filename) = .ok ()) :
    (∃ unit, manifest.lower = .ok unit) ∧ ∃ symbols, manifest.symbols = .ok symbols := by
  have hwf : manifest.WellFormed := wellFormed_of_validate h
  exact ⟨exists_lower hwf, exists_symbols hwf⟩

/-- Both readings of the sample succeed. -/
theorem lower_symbols_succeed_sample :
    sample.validate (.ofSource "" "") = .ok () ∧
      (∃ unit, sample.lower = .ok unit) ∧ ∃ symbols, sample.symbols = .ok symbols :=
  ⟨validate_sample, lower_symbols_succeed validate_sample⟩

/-- The compilation unit and the symbols of a manifest that passes validation describe the same
program: one symbol for each declared type, in the same order, that agrees with it in its kind, its
name, its attributes and, member by member, in everything it shows of its members. -/
theorem declaredTypes_agree_symbols {manifest : Manifest} {source filename : String}
    (h : manifest.validate (.ofSource source filename) = .ok ()) :
    ∃ unit symbols, manifest.lower = .ok unit ∧ manifest.symbols = .ok symbols ∧
      List.Forall₂ TypeAgrees unit.declaredTypes symbols := by
  have hwf : manifest.WellFormed := wellFormed_of_validate h
  obtain ⟨unit, hunit⟩ := exists_lower hwf
  obtain ⟨symbols, hsymbols⟩ := exists_symbols hwf
  exact ⟨unit, symbols, hunit, hsymbols,
    types_agree hwf (declaredTypes_of_lower hunit) hsymbols⟩

/-- The types of the sample are described one by one. -/
theorem declaredTypes_agree_symbols_sample :
    sample.validate (.ofSource "" "") = .ok () ∧
      ∃ unit symbols, sample.lower = .ok unit ∧ sample.symbols = .ok symbols ∧
        List.Forall₂ TypeAgrees unit.declaredTypes symbols :=
  ⟨validate_sample, declaredTypes_agree_symbols validate_sample⟩

end Manifest

end DeclScribe
