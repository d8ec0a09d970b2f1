import DeclScribe.Proofs.Manifest.Agreement

/-!
# Lowering keeps everything

What it means that a declaration is what an entry describes is said here slot by slot: names,
modifier words and accessor words are kept as they are, texts as what they are read as, lists item
by item in their order, and what is absent stays absent. Lowering a well-formed manifest then gives
a unit of which every slot is kept, so that nothing of the manifest is lost, repeated or moved.
-/

set_option autoImplicit false

namespace DeclScribe

/-! ## What is kept -/

/-- A text is what a parser reads as a value. -/
def IsReadAs {α : Type} (parse : String → Except ParseError α) (text : String) (value : α) : Prop :=
  parse text = .ok value

/-- A directive for a name, without an alias and not static. -/
structure IsPlainUsing (text : String) (directive : Using) : Prop where
  name : IsReadAs Name.parse text directive.name
  noAlias : directive.aliasName = none
  noStatic : directive.isStatic = false

namespace Manifest

/-- An attribute with the name of an entry and one argument for each of its arguments. Without
arguments it has no parentheses. -/
structure AttributeEntry.AppliedAs (entry : AttributeEntry) (a : Attribute) : Prop where
  name : IsReadAs Name.parse entry.name a.name
  arguments : List.Forall₂ ArgumentEntry.KeptBy entry.arguments a.arguments
  parentheses : a.argumentList = none ↔ entry.arguments = []

/-- An attribute stands alone in its list, which does not say what it applies to. -/
structure AttributeEntry.KeptBy (entry : AttributeEntry) (list : AttributeList) : Prop where
  untargeted : list.target = none
  alone : ∃ a, list.attributes = [a] ∧ entry.AppliedAs a

/-- The modifiers are those that the words name, in the same order. -/
def WordsKeptBy (words : List String) (modifiers : List Modifier) : Prop :=
  modifiers.map Modifier.word = words

/-- A field with everything of an entry, in one declarator. -/
structure FieldEntry.KeptBy (entry : FieldEntry) (decl : FieldDecl) : Prop where
  attributes : List.Forall₂ AttributeEntry.KeptBy entry.attributes decl.attributes
  modifiers : WordsKeptBy entry.modifiers decl.modifiers
  type : IsReadAs TypeRef.parse entry.type decl.type
  declarator : ∃ initializer, decl.declarators = [⟨entry.name, initializer⟩] ∧
    Option.Rel (IsReadAs Expr.parse) entry.initializer initializer

/-- A property with everything of an entry. Its accessors have no modifiers, which an entry cannot
give them. -/
structure PropertyEntry.KeptBy (entry : PropertyEntry) (decl : PropertyDecl) : Prop where
  attributes : List.Forall₂ AttributeEntry.KeptBy entry.attributes decl.attributes
  modifiers : WordsKeptBy entry.modifiers decl.modifiers
  type : IsReadAs TypeRef.parse entry.type decl.type
  name : decl.identifier = entry.name
  /-- The accessors are those that are listed, or `get` and `set` if there is no list. -/
  accessors : decl.accessors.map (·.kind.word) = entry.accessors.getD ["get", "set"]
  plainAccessors : ∀ accessor ∈ decl.accessors, accessor.modifiers = []
  initializer : Option.Rel (IsReadAs Expr.parse) entry.initializer decl.initializer

/-- A parameter with everything of an entry. -/
structure ParameterEntry.KeptBy (entry : ParameterEntry) (parameter : Parameter) : Prop where
  type : IsReadAs TypeRef.parse entry.type parameter.type
  name : parameter.identifier = entry.name
  default : Option.Rel (IsReadAs Expr.parse) entry.default parameter.default

/-- A method that is only declared unless it is given a body. -/
def MethodEntry.IsBodyless (entry : MethodEntry) : Prop :=
  "abstract" ∈ entry.modifiers ∨ "extern" ∈ entry.modifiers ∨ "partial" ∈ entry.modifiers

/-- The body of a method: its expression, or else none in interfaces and behind the modifiers that
say so, and a block everywhere else. -/
inductive MethodEntry.BodyKeptBy (keyword : TypeKeyword) (entry : MethodEntry) : MethodBody → Prop
  | expression {text : String} {value : Expr} : entry.body = some text →
      Expr.parse text = .ok value → BodyKeptBy keyword entry (.expression value)
  | none : entry.body = none → keyword = .interfaceType ∨ entry.IsBodyless →
      BodyKeptBy keyword entry .none
  | block : entry.body = none → keyword = .classType → ¬ entry.IsBodyless →
      BodyKeptBy keyword entry .block

/-- A method with everything of an entry, in a type of some kind. -/
structure MethodEntry.KeptBy (keyword : TypeKeyword) (entry : MethodEntry) (decl : MethodDecl) :
    Prop where
  attributes : List.Forall₂ AttributeEntry.KeptBy entry.attributes decl.attributes
  modifiers : WordsKeptBy entry.modifiers decl.modifiers
  returns : IsReadAs TypeRef.parse entry.returns decl.returns
  name : decl.identifier = entry.name
  parameters : List.Forall₂ ParameterEntry.KeptBy entry.parameters decl.parameters
  body : MethodEntry.BodyKeptBy keyword entry decl.body

/-- Members that are the given fields, then the properties, then the methods. -/
inductive MembersKeptBy (keyword : TypeKeyword) (fields : List FieldEntry)
    (properties : List PropertyEntry) (methods : List MethodEntry) : List Member → Prop
  | intro {fieldDecls : List FieldDecl} {propertyDecls : List PropertyDecl}
      {methodDecls : List MethodDecl} :
      List.Forall₂ FieldEntry.KeptBy fields fieldDecls →
      List.Forall₂ PropertyEntry.KeptBy properties propertyDecls →
      List.Forall₂ (MethodEntry.KeptBy keyword) methods methodDecls →
      MembersKeptBy keyword fields properties methods (fieldDecls.map .fieldDecl ++
        propertyDecls.map .propertyDecl ++ methodDecls.map .methodDecl)

/-- What stands before the members of a type. A base list is present when the entry has one, even
an empty one. -/
structure HeaderKeptBy (name : String) (words : List String) (bases : Option (List String))
    (applied : List AttributeEntry) (header : TypeHeader) : Prop where
  attributes : List.Forall₂ AttributeEntry.KeptBy applied header.attributes
  modifiers : WordsKeptBy words header.modifiers
  name : header.identifier = name
  bases : Option.Rel (List.Forall₂ (IsReadAs TypeRef.parse)) bases header.bases

/-- A class with everything of an entry. -/
inductive ClassEntry.KeptBy (entry : ClassEntry) : Member → Prop
  | intro {header : TypeHeader} {members : List Member} :
      HeaderKeptBy entry.name entry.modifiers entry.baseTypes entry.attributes header →
      MembersKeptBy .classType entry.fields entry.properties entry.methods members →
      KeptBy entry (.typeDecl .classType header members)

/-- An interface with everything of an entry. -/
inductive InterfaceEntry.KeptBy (entry : InterfaceEntry) : Member → Prop
  | intro {header : TypeHeader} {members : List Member} :
      HeaderKeptBy entry.name entry.modifiers entry.baseTypes entry.attributes header →
      MembersKeptBy .interfaceType [] entry.properties entry.methods members →
      KeptBy entry (.typeDecl .interfaceType header members)

/-- A member of an enum with everything of an entry. Its value is a literal that denotes the
integer, or one behind a minus sign. -/
structure EnumMemberEntry.KeptBy (entry : EnumMemberEntry) (member : EnumMember) : Prop where
  attributes : List.Forall₂ AttributeEntry.KeptBy entry.attributes member.attributes
  name : member.identifier = entry.name
  value : Option.Rel IsIntegerLiteral entry.value member.value

/-- The slots of an enum that has everything of an entry. -/
structure EnumEntry.IsKept (entry : EnumEntry) (decl : EnumDecl) : Prop where
  attributes : List.Forall₂ AttributeEntry.KeptBy entry.attributes decl.attributes
  modifiers : WordsKeptBy entry.modifiers decl.modifiers
  name : decl.identifier = entry.name
  underlying : Option.Rel (IsReadAs TypeRef.parse) entry.underlying decl.underlying
  members : List.Forall₂ EnumMemberEntry.KeptBy entry.members decl.members

/-- An enum with everything of an entry, as a member. -/
inductive EnumEntry.KeptBy (entry : EnumEntry) : Member → Prop
  | intro {decl : EnumDecl} : entry.IsKept decl → KeptBy entry (.enumDecl decl)

/-- Types that are the classes, then the interfaces, then the enums. -/
inductive TypesKeptBy (manifest : Manifest) : List Member → Prop
  | intro {classes interfaces enums : List Member} :
      List.Forall₂ ClassEntry.KeptBy manifest.classes classes →
      List.Forall₂ InterfaceEntry.KeptBy manifest.interfaces interfaces →
      List.Forall₂ EnumEntry.KeptBy manifest.enums enums →
      TypesKeptBy manifest (classes ++ interfaces ++ enums)

/-- The members of a unit: the types themselves, or one namespace that has all of them. -/
inductive EnclosureKeptBy (types : List Member) : Option NamespaceEntry → List Member → Prop
  | absent : EnclosureKeptBy types none types
  | present {entry : NamespaceEntry} {name : Name} {usings : List Using} :
      IsReadAs Name.parse entry.name name → List.Forall₂ IsPlainUsing entry.usings usings →
      EnclosureKeptBy types (some entry) [.namespaceDecl name usings types]

/-- A unit that has everything of a manifest and nothing else. -/
structure KeptBy (manifest : Manifest) (unit : CompilationUnit) : Prop where
  usings : List.Forall₂ IsPlainUsing manifest.usings unit.usings
  members : ∃ types, manifest.TypesKeptBy types ∧
    EnclosureKeptBy types manifest.enclosing unit.members

/-! ## Attributes -/

/-- Arguments are added one behind the other, and none are taken away. -/
theorem ArgumentEntry.keptBy_of_addAll {arguments : List ArgumentEntry} {a next : Attribute}
    (h : ∀ argument ∈ arguments, argument.WellFormed)
    (hnext : ArgumentEntry.addAll arguments a = .ok next) :
    (∃ more, next.arguments = a.arguments ++ more ∧
      List.Forall₂ ArgumentEntry.KeptBy arguments more) ∧
      (next.argumentList = none ↔ a.argumentList = none ∧ arguments = []) := by
  induction arguments generalizing a with
  | nil =>
    obtain rfl : a = next := Except.ok.inj hnext
    exact ⟨⟨[], by simp, .nil⟩, by simp⟩
  | cons argument rest ih =>
    obtain ⟨hargument, hrest⟩ := List.forall_mem_cons.mp h
    obtain ⟨added, hadded, hkept⟩ := ArgumentEntry.exists_addTo hargument a
    simp only [addAll, hadded] at hnext
    obtain ⟨⟨more, hmore, hall⟩, hlist⟩ := ih hrest hnext
    refine ⟨⟨added :: more, ?_, .cons hkept hall⟩, ?_⟩
    · rw [hmore]
      simp [Attribute.add, Attribute.arguments]
    · simp [hlist, Attribute.add]

/-- An attribute is lowered with its name and one argument for each of its own. -/
theorem AttributeEntry.appliedAs_of_lower {entry : AttributeEntry} {a : Attribute}
    (h : entry.WellFormed) (ha : entry.lower = .ok a) : entry.AppliedAs a := by
  have hname := AttributeEntry.parse_name_of_lower ha
  unfold lower Attribute.parse at ha
  simp only [hname] at ha
  obtain ⟨⟨more, hmore, hall⟩, hlist⟩ := ArgumentEntry.keptBy_of_addAll h.arguments ha
  have harguments : a.arguments = more := hmore
  exact ⟨hname, harguments ▸ hall, by rw [hlist]; simp⟩

/-- What holds of the results of well-formed entries holds of the results of a list of them. -/
theorem forall₂_of_wellFormed {α β : Type} {R S : α → β → Prop} {WellFormed : α → Prop}
    {entries : List α} {results : List β} (h : ∀ entry ∈ entries, WellFormed entry)
    (hresults : List.Forall₂ R entries results)
    (hkept : ∀ {entry : α} {result : β}, WellFormed entry → R entry result → S entry result) :
    List.Forall₂ S entries results :=
  ((List.forall₂_and_left entries results).mpr ⟨h, hresults⟩).imp
    fun _ _ hboth => hkept hboth.1 hboth.2

/-- Attributes are lowered one by one, each in a list of its own. -/
theorem AttributeEntry.keptBy_of_lowerAll {entries : List AttributeEntry}
    {lists : List AttributeList} (h : ∀ entry ∈ entries, entry.WellFormed)
    (hlists : AttributeEntry.lowerAll entries = .ok lists) :
    List.Forall₂ AttributeEntry.KeptBy entries lists := by
  refine forall₂_of_wellFormed h (AttributeEntry.lowerAll_eq_ok_iff.mp hlists) ?_
  rintro entry list hentry ⟨a, ha, rfl⟩
  exact ⟨rfl, a, rfl, AttributeEntry.appliedAs_of_lower hentry ha⟩

/-! ## Texts and words -/

/-- Modifiers are lowered to those that the words name. -/
theorem wordsKeptBy_of_lowerModifiers {place : String} {words : List String}
    {modifiers : List Modifier} (h : lowerModifiers place words = .ok modifiers) :
    WordsKeptBy words modifiers := by
  rw [lowerModifiers_eq_ok_iff] at h
  unfold WordsKeptBy
  induction h with
  | nil => rfl
  | cons hword _ ih => rw [List.map_cons, Modifier.ofWord?_eq_some_iff.mp hword, ih]

/-- A text that may be missing is read, or stays missing. -/
theorem rel_of_parseOption {α : Type} {parse : String → Except ParseError α}
    {text : Option String} {value : Option α} (h : parseOption parse text = .ok value) :
    Option.Rel (IsReadAs parse) text value := by
  cases text with
  | none =>
    obtain rfl := Except.ok.inj h
    exact .none
  | some present =>
    rw [parseOption] at h
    split at h
    · exact absurd h (by simp)
    · rename_i found hfound
      obtain rfl := Except.ok.inj h
      exact .some hfound

/-- A base list is read type by type, or stays missing. -/
theorem rel_of_lowerBases {bases : Option (List String)} {types : Option (List TypeRef)}
    (h : lowerBases bases = .ok types) :
    Option.Rel (List.Forall₂ (IsReadAs TypeRef.parse)) bases types := by
  obtain ⟨rfl, rfl⟩ | ⟨texts, found, rfl, rfl, hfound⟩ := lowerBases_eq_ok_iff.mp h
  · exact .none
  · exact .some (parseAll_eq_ok_iff.mp hfound)

/-- Directives are lowered to plain ones, in their order. -/
theorem plainUsings_of_parseAll {texts : List String} {usings : List Using}
    (h : Using.parseAll texts = .ok usings) : List.Forall₂ IsPlainUsing texts usings := by
  obtain ⟨names, hnames, rfl⟩ := usingParseAll_eq_ok_iff.mp h
  rw [List.forall₂_map_right_iff]
  exact (parseAll_eq_ok_iff.mp hnames).imp fun _ _ hname => ⟨hname, rfl, rfl⟩

/-- Every accessor word names an accessor, so that none is passed over. -/
theorem PropertyEntry.accessorWords_kept {words : List String}
    (h : ∀ word ∈ words, word = "get" ∨ word = "set" ∨ word = "init") :
    (words.filterMap AccessorKind.ofWord?).map AccessorKind.word = words := by
  rw [AccessorKind.map_word_filterMap_ofWord?, List.filter_eq_self]
  intro word hword
  exact Option.isNone_eq_false_iff.mp (AccessorKind.ofWord?_isNone_iff.mpr (h word hword))

/-! ## Members -/

/-- A lowered field keeps its entry. -/
theorem FieldEntry.keptBy_of_lower {entry : FieldEntry} {decl : FieldDecl} (h : entry.WellFormed)
    (hdecl : entry.lower = .ok decl) : entry.KeptBy decl := by
  obtain ⟨htype, hmodifiers, hattributes, identifier, initializer, hname, hinitializer,
    hdeclarators⟩ := FieldEntry.lower_eq_ok_iff.mp hdecl
  rw [Name.parseIdentifier_of_isDeclarable .simpleIdentifier h.name] at hname
  obtain rfl : entry.name = identifier := Except.ok.inj hname
  exact ⟨AttributeEntry.keptBy_of_lowerAll h.attributes hattributes,
    wordsKeptBy_of_lowerModifiers hmodifiers, htype,
    ⟨initializer, hdeclarators, rel_of_parseOption hinitializer⟩⟩

/-- A lowered property keeps its entry. Here validation is needed, since lowering drops words that
name no accessor. -/
theorem PropertyEntry.keptBy_of_lower {entry : PropertyEntry} {decl : PropertyDecl}
    (h : entry.WellFormed) (hdecl : entry.lower = .ok decl) : entry.KeptBy decl := by
  obtain ⟨hinitializer, htype, hmodifiers, hattributes, hname, haccessors⟩ :=
    PropertyEntry.lower_eq_ok_iff.mp hdecl
  refine ⟨AttributeEntry.keptBy_of_lowerAll h.attributes hattributes,
    wordsKeptBy_of_lowerModifiers hmodifiers, htype, hname, ?_, ?_,
    rel_of_parseOption hinitializer⟩
  · rw [haccessors, List.map_map]
    exact PropertyEntry.accessorWords_kept (areAccessors_getD_iff.mpr h.accessors).known
  · rw [haccessors, List.forall_mem_map]
    exact fun _ _ => rfl

/-- A lowered parameter keeps its entry. -/
theorem ParameterEntry.keptBy_of_lower {entry : ParameterEntry} {parameter : Parameter}
    (hparameter : entry.lower = .ok parameter) : entry.KeptBy parameter := by
  obtain ⟨hdefault, htype, hname⟩ := ParameterEntry.lower_eq_ok_iff.mp hparameter
  exact ⟨htype, hname, rel_of_parseOption hdefault⟩

/-- What stands for a method without a body, by the kind of type that declares it. -/
def MethodEntry.otherwise : TypeKeyword → MethodEntry → MethodBody
  | .classType, entry => entry.classBody
  | .interfaceType, _ => .none

/-- The modifiers that a method without a block is recognized by are those that say so. -/
theorem MethodEntry.isBodyless_iff {entry : MethodEntry} :
    ["abstract", "extern", "partial"].any entry.modifiers.contains = true ↔ entry.IsBodyless := by
  simp [IsBodyless]

/-- What stands in for a missing body is what the kind of the type and the modifiers call for. -/
theorem MethodEntry.bodyKeptBy_otherwise {keyword : TypeKeyword} {entry : MethodEntry}
    (hbody : entry.body = none) : entry.BodyKeptBy keyword (entry.otherwise keyword) := by
  cases keyword with
  | classType =>
    by_cases hbodyless : entry.IsBodyless
    · rw [otherwise, classBody, if_pos (MethodEntry.isBodyless_iff.mpr hbodyless)]
      exact .none hbody (.inr hbodyless)
    · rw [otherwise, classBody, if_neg (mt MethodEntry.isBodyless_iff.mp hbodyless)]
      exact .block hbody rfl hbodyless
  | interfaceType => exact .none hbody (.inl rfl)

/-- A lowered method keeps its entry. -/
theorem MethodEntry.keptBy_of_lower {keyword : TypeKeyword} {entry : MethodEntry}
    {decl : MethodDecl} (h : entry.WellFormed)
    (hdecl : entry.lower (entry.otherwise keyword) = .ok decl) : entry.KeptBy keyword decl := by
  obtain ⟨hbody, hparameters, hreturns, hmodifiers, hattributes, hname⟩ :=
    MethodEntry.lower_eq_ok_iff.mp hdecl
  refine ⟨AttributeEntry.keptBy_of_lowerAll h.attributes hattributes,
    wordsKeptBy_of_lowerModifiers hmodifiers, hreturns, hname,
    hparameters.imp fun _ _ => ParameterEntry.keptBy_of_lower, ?_⟩
  unfold lowerBody at hbody
  split at hbody
  · rename_i hnone
    exact Except.ok.inj hbody ▸ MethodEntry.bodyKeptBy_otherwise hnone
  · rename_i text htext
    obtain ⟨value, hvalue, hdeclBody⟩ := map_eq_ok.mp hbody
    rw [lowered_eq_ok] at hvalue
    exact hdeclBody ▸ .expression htext hvalue

/-- Members are lowered to those that keep the fields, the properties and the methods. -/
theorem membersKeptBy_of_lowersMembers {keyword : TypeKeyword} {fields : List FieldEntry}
    {properties : List PropertyEntry} {methods : List MethodEntry} {members : List Member}
    (hfields : ∀ field ∈ fields, field.WellFormed)
    (hproperties : ∀ property ∈ properties, property.WellFormed)
    (hmethods : ∀ method ∈ methods, method.WellFormed)
    (h : LowersMembers fields properties methods (MethodEntry.otherwise keyword) members) :
    MembersKeptBy keyword fields properties methods members := by
  obtain ⟨fieldDecls, propertyDecls, methodDecls, hfieldDecls, hpropertyDecls, hmethodDecls, rfl⟩ :=
    h
  exact .intro (forall₂_of_wellFormed hfields hfieldDecls FieldEntry.keptBy_of_lower)
    (forall₂_of_wellFormed hproperties hpropertyDecls PropertyEntry.keptBy_of_lower)
    (forall₂_of_wellFormed hmethods hmethodDecls MethodEntry.keptBy_of_lower)

/-! ## Types -/

/-- A lowered class keeps its entry. -/
theorem ClassEntry.keptBy_of_lower {entry : ClassEntry} {decl : TypeDecl} (h : entry.WellFormed)
    (hdecl : entry.lower = .ok decl) : entry.KeptBy decl.toMember := by
  obtain ⟨hkeyword, hmodifiers, hbases, hattributes, hname, hmembers⟩ :=
    ClassEntry.lower_eq_ok_iff.mp hdecl
  have hheader : HeaderKeptBy entry.name entry.modifiers entry.baseTypes entry.attributes
      decl.header :=
    ⟨AttributeEntry.keptBy_of_lowerAll h.body.attributes hattributes,
      wordsKeptBy_of_lowerModifiers hmodifiers, hname, rel_of_lowerBases hbases⟩
  rw [TypeDecl.toMember, hkeyword]
  exact .intro hheader
    (membersKeptBy_of_lowersMembers h.fields h.body.properties h.body.methods hmembers)

/-- A lowered interface keeps its entry. -/
theorem InterfaceEntry.keptBy_of_lower {entry : InterfaceEntry} {decl : TypeDecl}
    (h : entry.WellFormed) (hdecl : entry.lower = .ok decl) : entry.KeptBy decl.toMember := by
  obtain ⟨hkeyword, hmodifiers, hbases, hattributes, hname, hmembers⟩ :=
    InterfaceEntry.lower_eq_ok_iff.mp hdecl
  have hheader : HeaderKeptBy entry.name entry.modifiers entry.baseTypes entry.attributes
      decl.header :=
    ⟨AttributeEntry.keptBy_of_lowerAll h.body.attributes hattributes,
      wordsKeptBy_of_lowerModifiers hmodifiers, hname, rel_of_lowerBases hbases⟩
  have hfields : ∀ field ∈ ([] : List FieldEntry), field.WellFormed := List.forall_mem_nil _
  rw [TypeDecl.toMember, hkeyword]
  exact .intro hheader
    (membersKeptBy_of_lowersMembers hfields h.body.properties h.body.methods hmembers)

/-- A lowered member of an enum keeps its entry. -/
theorem EnumMemberEntry.keptBy_of_lower {least greatest : Int} {entry : EnumMemberEntry}
    {member : EnumMember} (h : entry.WellFormed least greatest)
    (hmember : entry.lower = .ok member) : entry.KeptBy member := by
  obtain ⟨hattributes, hname, hvalue⟩ := EnumMemberEntry.lower_eq_ok_iff.mp hmember
  refine ⟨AttributeEntry.keptBy_of_lowerAll h.attributes hattributes, hname, ?_⟩
  obtain ⟨hnone, habsent⟩ | ⟨value, e, hsome, he, hpresent⟩ := hvalue
  · rw [hnone, habsent]
    exact .none
  · rw [hsome, hpresent]
    exact .some (LiteralValue.isIntegerLiteral_iff.mpr he)

/-- A lowered enum keeps its entry. -/
theorem EnumEntry.keptBy_of_lower {entry : EnumEntry} {decl : EnumDecl} (h : entry.WellFormed)
    (hdecl : entry.lower = .ok decl) : entry.KeptBy (.enumDecl decl) := by
  obtain ⟨hunderlying, hmodifiers, hattributes, hmembers, hname⟩ :=
    EnumEntry.lower_eq_ok_iff.mp hdecl
  obtain ⟨least, greatest, -, hright⟩ := h.members
  exact .intro ⟨AttributeEntry.keptBy_of_lowerAll h.attributes hattributes,
    wordsKeptBy_of_lowerModifiers hmodifiers, hname, rel_of_parseOption hunderlying,
    forall₂_of_wellFormed hright hmembers EnumMemberEntry.keptBy_of_lower⟩

/-! ## Manifests -/

/-- The types of a manifest are lowered to those that keep them, kind by kind. -/
theorem typesKeptBy_of_lowerTypes {manifest : Manifest} {types : List Member}
    (h : manifest.WellFormed) (htypes : manifest.lowerTypes = .ok types) :
    manifest.TypesKeptBy types := by
  obtain ⟨classes, interfaces, enums, hclasses, hinterfaces, henums, rfl⟩ :=
    lowerTypes_eq_ok_iff.mp htypes
  refine .intro ?_ ?_ ?_
  · rw [List.forall₂_map_right_iff]
    exact forall₂_of_wellFormed h.classes hclasses ClassEntry.keptBy_of_lower
  · rw [List.forall₂_map_right_iff]
    exact forall₂_of_wellFormed h.interfaces hinterfaces InterfaceEntry.keptBy_of_lower
  · rw [List.forall₂_map_right_iff]
    exact forall₂_of_wellFormed h.enums henums EnumEntry.keptBy_of_lower

/-- The types are put into the namespace as they are, if there is one. -/
theorem enclosureKeptBy_of_enclose {manifest : Manifest} {types members : List Member}
    (h : manifest.enclose types = .ok members) :
    EnclosureKeptBy types manifest.enclosing members := by
  obtain ⟨hnone, rfl⟩ | ⟨entry, name, usings, hsome, hname, husings, rfl⟩ :=
    enclose_eq_ok_iff.mp h
  · rw [hnone]
    exact .absent
  · rw [hsome]
    exact .present hname (plainUsings_of_parseAll husings)

/-- A well-formed manifest is kept by the unit it is lowered to. -/
theorem keptBy_of_lower {manifest : Manifest} {unit : CompilationUnit} (h : manifest.WellFormed)
    (hunit : manifest.lower = .ok unit) : manifest.KeptBy unit := by
  obtain ⟨husings, types, htypes, hmembers⟩ := lower_eq_ok_iff.mp hunit
  exact ⟨plainUsings_of_parseAll husings, types, typesKeptBy_of_lowerTypes h htypes,
    enclosureKeptBy_of_enclose hmembers⟩

/-- A manifest that passes validation is lowered to a unit that has exactly what the manifest has:
every directive, type, member, attribute and argument of it once and in its order, with the names,
words and texts that it is written with. -/
theorem lower_keeps {manifest : Manifest} {source filename : String}
    (h : manifest.validate (.ofSource source filename) = .ok ()) :
    ∃ unit, manifest.lower = .ok unit ∧ manifest.KeptBy unit := by
  have hwf : manifest.WellFormed := wellFormed_of_validate h
  obtain ⟨unit, hunit⟩ := exists_lower hwf
  exact ⟨unit, hunit, keptBy_of_lower hwf hunit⟩

/-- Everything in the sample is kept. -/
theorem lower_keeps_sample :
    sample.validate (.ofSource "" "") = .ok () ∧
      ∃ unit, sample.lower = .ok unit ∧ sample.KeptBy unit :=
  ⟨validate_sample, lower_keeps validate_sample⟩

end Manifest

end DeclScribe
