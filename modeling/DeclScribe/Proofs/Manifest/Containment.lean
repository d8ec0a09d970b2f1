import DeclScribe.Proofs.Declaration.Containment
import DeclScribe.Proofs.Fragment.LiteralValues
import DeclScribe.Proofs.Manifest.Preservation

/-!
# No fragment reaches out of its place

A manifest that passes validation has names that are identifiers and texts that parse, and lowering
puts what they are read as, or a literal made of a value, into the slots of declarations. So all
slots of the unit are well-formed, whatever the texts and values are, and then its brackets are
closed in the order in which they are opened and its braces are those of its own declarations: no
attribute argument, initial value, default value or body can open or close any of them.
-/

set_option autoImplicit false

namespace DeclScribe

/-- What holds of every result of a well-formed entry holds of all results of a list of them. -/
theorem forall_mem_of_forall₂ {α β : Type} {R : α → β → Prop} {WellFormed : α → Prop}
    {Holds : β → Prop} {entries : List α} {results : List β}
    (hresults : List.Forall₂ R entries results) (h : ∀ entry ∈ entries, WellFormed entry)
    (hholds : ∀ {entry : α} {result : β}, WellFormed entry → R entry result → Holds result) :
    ∀ result ∈ results, Holds result := by
  intro result hresult
  obtain ⟨entry, hentry, hright⟩ := exists_of_mem_forall₂ hresults result hresult
  exact hholds (h entry hentry) hright

/-- What holds of every result of a text holds of all results of some texts. -/
theorem forall_mem_of_readAs {α β : Type} {R : α → β → Prop} {Holds : β → Prop} {texts : List α}
    {results : List β} (hresults : List.Forall₂ R texts results)
    (hholds : ∀ {text : α} {result : β}, R text result → Holds result) :
    ∀ result ∈ results, Holds result := by
  have hany : ∀ text ∈ texts, True := fun _ _ => trivial
  exact forall_mem_of_forall₂ hresults hany fun _ => hholds

/-- What holds of every result of a text holds of the result of a text that may be missing. -/
theorem forall_mem_of_rel {α β : Type} {R : α → β → Prop} {Holds : β → Prop} {entry : Option α}
    {slot : Option β} (hslot : Option.Rel R entry slot)
    (hholds : ∀ {text : α} {result : β}, R text result → Holds result) :
    ∀ result ∈ slot, Holds result := by
  intro result hresult
  cases hslot with
  | none => exact absurd hresult (by simp)
  | some h =>
    obtain rfl := Option.some.inj hresult
    exact hholds h

/-! ## Fragments -/

/-- A name that is the reading of a text is well-formed. -/
theorem Name.wellFormed_of_isReadAs {text : String} {n : Name} (h : IsReadAs Name.parse text n) :
    n.WellFormed :=
  (Name.parse_sound h).1

/-- A type that is the reading of a text is well-formed. -/
theorem TypeRef.wellFormed_of_isReadAs {text : String} {type : TypeRef}
    (h : IsReadAs TypeRef.parse text type) : type.WellFormed :=
  (TypeRef.parse_sound h).1

/-- An expression that is the reading of a text is well-formed. -/
theorem Expr.wellFormed_of_isReadAs {text : String} {e : Expr} (h : IsReadAs Expr.parse text e) :
    e.WellFormed :=
  (Expr.parse_sound h).1

/-- A plain directive for a namespace is well-formed. -/
theorem IsPlainUsing.wellFormed {text : String} {directive : Using}
    (h : IsPlainUsing text directive) : directive.WellFormed := by
  refine ⟨Name.wellFormed_of_isReadAs h.name, ?_⟩
  rw [h.noAlias]
  exact fun text htext => absurd htext (by simp)

/-- A number or a truth value is written as a well-formed expression. -/
theorem Toml.Value.IsWrittenAs.wellFormed {value : Toml.Value} {e : Expr}
    (h : value.IsWrittenAs e) : e.WellFormed := by
  cases h with
  | integer h => exact LiteralValue.wellFormed_of_toExpr (LiteralValue.isIntegerLiteral_iff.mp h)
  | float h => exact LiteralValue.wellFormed_of_isFloatLiteral h
  | true => exact Literal.wellFormed_ofBool Bool.true
  | false => exact Literal.wellFormed_ofBool Bool.false

namespace Manifest

/-! ## Attributes -/

/-- The argument that keeps an entry is well-formed. -/
theorem ArgumentEntry.wellFormed_of_keptBy {argument : ArgumentEntry} {added : AttributeArgument}
    (h : argument.WellFormed) (hkept : argument.KeptBy added) : added.WellFormed := by
  have hlabel : ∀ text ∈ argument.name, IsIdentifierText text :=
    fun text htext => (h.name text htext).isIdentifierText
  have hnoLabel : ∀ text ∈ (none : Option String), IsIdentifierText text :=
    fun text htext => absurd htext (by simp)
  cases hkept with
  | null _ hname =>
    exact ⟨hnoLabel, Expr.wellFormed_named (h.name _ hname) Literal.wellFormed_null⟩
  | string _ _ hliteral => exact ⟨hlabel, hliteral ▸ Literal.wellFormed_ofString _⟩
  | expression _ _ he => exact ⟨hlabel, Expr.wellFormed_of_isReadAs he⟩
  | literal _ _ hwritten => exact ⟨hlabel, hwritten.wellFormed⟩
  | spelling _ hscalar hstring =>
    exact ⟨hnoLabel, Expr.wellFormed_quoted (Toml.Value.isPlainText_print hscalar hstring)⟩
  | namedSpelling _ hscalar hstring _ hname =>
    have hvalue := Expr.wellFormed_quoted (Toml.Value.isPlainText_print hscalar hstring)
    exact ⟨hnoLabel, Expr.wellFormed_named (h.name _ hname) hvalue⟩

/-- The attribute that keeps an entry is well-formed, with all its arguments. -/
theorem AttributeEntry.wellFormed_of_keptBy {entry : AttributeEntry} {list : AttributeList}
    (h : entry.WellFormed) (hkept : entry.KeptBy list) : list.WellFormed := by
  obtain ⟨a, hlist, ha⟩ := hkept.alone
  have hattribute : a.WellFormed := ⟨Name.wellFormed_of_isReadAs ha.name,
    forall_mem_of_forall₂ ha.arguments h.arguments ArgumentEntry.wellFormed_of_keptBy⟩
  rw [AttributeList.WellFormed, hlist]
  exact List.forall_mem_singleton.mpr hattribute

/-- Attributes that keep their entries one by one are well-formed. -/
theorem AttributeEntry.wellFormed_of_keptByAll {entries : List AttributeEntry}
    {lists : List AttributeList} (h : ∀ entry ∈ entries, entry.WellFormed)
    (hkept : List.Forall₂ AttributeEntry.KeptBy entries lists) :
    ∀ list ∈ lists, list.WellFormed :=
  forall_mem_of_forall₂ hkept h AttributeEntry.wellFormed_of_keptBy

/-! ## Members -/

/-- The field that keeps an entry is well-formed. -/
theorem FieldEntry.wellFormed_of_keptBy {entry : FieldEntry} {decl : FieldDecl}
    (h : entry.WellFormed) (hkept : entry.KeptBy decl) : decl.WellFormed := by
  obtain ⟨initializer, hdeclarators, hinitializer⟩ := hkept.declarator
  refine ⟨AttributeEntry.wellFormed_of_keptByAll h.attributes hkept.attributes,
    TypeRef.wellFormed_of_isReadAs hkept.type, ?_⟩
  rw [hdeclarators]
  exact List.forall_mem_singleton.mpr
    ⟨h.name.isIdentifierText, forall_mem_of_rel hinitializer Expr.wellFormed_of_isReadAs⟩

/-- The property that keeps an entry is well-formed. -/
theorem PropertyEntry.wellFormed_of_keptBy {entry : PropertyEntry} {decl : PropertyDecl}
    (h : entry.WellFormed) (hkept : entry.KeptBy decl) : decl.WellFormed where
  attributes := AttributeEntry.wellFormed_of_keptByAll h.attributes hkept.attributes
  type := TypeRef.wellFormed_of_isReadAs hkept.type
  identifier := hkept.name ▸ h.name.isIdentifierText
  initializer := forall_mem_of_rel hkept.initializer Expr.wellFormed_of_isReadAs

/-- The parameter that keeps an entry is well-formed. -/
theorem ParameterEntry.wellFormed_of_keptBy {entry : ParameterEntry} {parameter : Parameter}
    (h : entry.WellFormed) (hkept : entry.KeptBy parameter) : parameter.WellFormed where
  type := TypeRef.wellFormed_of_isReadAs hkept.type
  identifier := hkept.name ▸ h.name.isIdentifierText
  default := forall_mem_of_rel hkept.default Expr.wellFormed_of_isReadAs

/-- The body of a method is well-formed: it is a block or a semicolon, in a class and in an
interface. -/
theorem MethodEntry.wellFormed_body {keyword : TypeKeyword} {entry : MethodEntry}
    {body : MethodBody} (h : entry.BodyKeptBy keyword body) : body.WellFormed := by
  cases h with
  | expression _ hvalue => exact Expr.wellFormed_of_isReadAs hvalue
  | none => exact trivial
  | block => exact trivial

/-- The method that keeps an entry is well-formed. -/
theorem MethodEntry.wellFormed_of_keptBy {keyword : TypeKeyword} {entry : MethodEntry}
    {decl : MethodDecl} (h : entry.WellFormed) (hkept : entry.KeptBy keyword decl) :
    decl.WellFormed where
  attributes := AttributeEntry.wellFormed_of_keptByAll h.attributes hkept.attributes
  returns := TypeRef.wellFormed_of_isReadAs hkept.returns
  identifier := hkept.name ▸ h.name.isIdentifierText
  parameters :=
    forall_mem_of_forall₂ hkept.parameters h.parameters ParameterEntry.wellFormed_of_keptBy
  body := MethodEntry.wellFormed_body hkept.body

/-- The members that keep the fields, properties and methods of a type are well-formed. -/
theorem wellFormed_of_membersKeptBy {keyword : TypeKeyword} {fields : List FieldEntry}
    {properties : List PropertyEntry} {methods : List MethodEntry} {members : List Member}
    (hfields : ∀ field ∈ fields, field.WellFormed)
    (hproperties : ∀ property ∈ properties, property.WellFormed)
    (hmethods : ∀ method ∈ methods, method.WellFormed)
    (h : MembersKeptBy keyword fields properties methods members) :
    Member.AllWellFormed members := by
  obtain ⟨hfieldDecls, hpropertyDecls, hmethodDecls⟩ := h
  rw [Member.allWellFormed_iff, List.forall_mem_append, List.forall_mem_append,
    List.forall_mem_map, List.forall_mem_map, List.forall_mem_map]
  exact ⟨⟨forall_mem_of_forall₂ hfieldDecls hfields FieldEntry.wellFormed_of_keptBy,
    forall_mem_of_forall₂ hpropertyDecls hproperties PropertyEntry.wellFormed_of_keptBy⟩,
    forall_mem_of_forall₂ hmethodDecls hmethods MethodEntry.wellFormed_of_keptBy⟩

/-! ## Types -/

/-- The header that keeps the name, the bases and the attributes of a type is well-formed. -/
theorem wellFormed_of_headerKeptBy {name : String} {words : List String}
    {bases : Option (List String)} {applied : List AttributeEntry} {header : TypeHeader}
    (hname : IsDeclarable name) (happlied : ∀ entry ∈ applied, entry.WellFormed)
    (h : HeaderKeptBy name words bases applied header) : header.WellFormed where
  attributes := AttributeEntry.wellFormed_of_keptByAll happlied h.attributes
  identifier := h.name ▸ hname.isIdentifierText
  bases := forall_mem_of_rel h.bases fun htypes =>
    forall_mem_of_readAs htypes TypeRef.wellFormed_of_isReadAs

/-- The class that keeps an entry is well-formed. -/
theorem ClassEntry.wellFormed_of_keptBy {entry : ClassEntry} {m : Member} (h : entry.WellFormed)
    (hkept : entry.KeptBy m) : m.WellFormed := by
  obtain ⟨hheader, hmembers⟩ := hkept
  exact ⟨wellFormed_of_headerKeptBy h.name h.body.attributes hheader,
    wellFormed_of_membersKeptBy h.fields h.body.properties h.body.methods hmembers⟩

/-- The interface that keeps an entry is well-formed. -/
theorem InterfaceEntry.wellFormed_of_keptBy {entry : InterfaceEntry} {m : Member}
    (h : entry.WellFormed) (hkept : entry.KeptBy m) : m.WellFormed := by
  obtain ⟨hheader, hmembers⟩ := hkept
  exact ⟨wellFormed_of_headerKeptBy h.name h.body.attributes hheader,
    wellFormed_of_membersKeptBy (List.forall_mem_nil _) h.body.properties h.body.methods hmembers⟩

/-- The member of an enum that keeps an entry is well-formed. It is declarable whatever the range of
its values. -/
theorem EnumMemberEntry.wellFormed_of_keptBy {least greatest : Int} {entry : EnumMemberEntry}
    {member : EnumMember} (h : entry.WellFormed least greatest) (hkept : entry.KeptBy member) :
    member.WellFormed where
  attributes := AttributeEntry.wellFormed_of_keptByAll h.attributes hkept.attributes
  identifier := hkept.name ▸ h.name.isIdentifierText
  value := forall_mem_of_rel hkept.value fun h =>
    LiteralValue.wellFormed_of_toExpr (LiteralValue.isIntegerLiteral_iff.mp h)

/-- The enum that keeps an entry is well-formed. -/
theorem EnumEntry.wellFormed_of_keptBy {entry : EnumEntry} {m : Member} (h : entry.WellFormed)
    (hkept : entry.KeptBy m) : m.WellFormed := by
  obtain ⟨hdecl⟩ := hkept
  obtain ⟨least, greatest, -, hmembers⟩ := h.members
  exact {
    attributes := AttributeEntry.wellFormed_of_keptByAll h.attributes hdecl.attributes
    identifier := hdecl.name ▸ h.name.isIdentifierText
    underlying := forall_mem_of_rel hdecl.underlying TypeRef.wellFormed_of_isReadAs
    members := forall_mem_of_forall₂ hdecl.members hmembers EnumMemberEntry.wellFormed_of_keptBy }

/-! ## Units -/

/-- All types of a well-formed manifest are lowered to well-formed members. -/
theorem wellFormed_of_typesKeptBy {manifest : Manifest} {types : List Member}
    (h : manifest.WellFormed) (htypes : manifest.TypesKeptBy types) :
    ∀ m ∈ types, m.WellFormed := by
  obtain ⟨hclasses, hinterfaces, henums⟩ := htypes
  rw [List.forall_mem_append, List.forall_mem_append]
  exact ⟨⟨forall_mem_of_forall₂ hclasses h.classes ClassEntry.wellFormed_of_keptBy,
    forall_mem_of_forall₂ hinterfaces h.interfaces InterfaceEntry.wellFormed_of_keptBy⟩,
    forall_mem_of_forall₂ henums h.enums EnumEntry.wellFormed_of_keptBy⟩

/-- A namespace around well-formed types is well-formed. -/
theorem wellFormed_of_enclosureKeptBy {enclosing : Option NamespaceEntry}
    {types members : List Member} (htypes : ∀ m ∈ types, m.WellFormed)
    (h : EnclosureKeptBy types enclosing members) : ∀ m ∈ members, m.WellFormed := by
  cases h with
  | absent => exact htypes
  | present hname husings =>
    exact List.forall_mem_singleton.mpr ⟨Name.wellFormed_of_isReadAs hname,
      forall_mem_of_readAs husings IsPlainUsing.wellFormed, Member.allWellFormed_iff.mpr htypes⟩

/-- A well-formed manifest is lowered to a well-formed unit. -/
theorem wellFormed_of_keptBy {manifest : Manifest} {unit : CompilationUnit}
    (h : manifest.WellFormed) (hkept : manifest.KeptBy unit) : unit.WellFormed := by
  obtain ⟨types, htypes, hmembers⟩ := hkept.members
  exact ⟨forall_mem_of_readAs hkept.usings IsPlainUsing.wellFormed,
    wellFormed_of_enclosureKeptBy (wellFormed_of_typesKeptBy h htypes) hmembers⟩

/-- The unit of a well-formed manifest has as many opening braces as it has declarations and bodies
in braces, and its blanked text is balanced. -/
theorem isBalanced_lower {manifest : Manifest} (h : manifest.WellFormed) :
    ∃ unit, manifest.lower = .ok unit ∧
      IsBalanced unit.bracedCount (Text.blanked unit.print.toList) := by
  obtain ⟨unit, hunit⟩ := exists_lower h
  have hwf : unit.WellFormed := wellFormed_of_keptBy h (keptBy_of_lower h hunit)
  exact ⟨unit, hunit, CompilationUnit.isBalanced_print hwf⟩

/-- Whatever a parser accepts stays in its place when it is printed, and the unit of a manifest that
passes validation, its literals aside, closes all brackets in order and has one opening brace for
each of its namespaces, types, properties and methods with a block. -/
theorem fragments_stayInPlace :
    (∀ text n, Name.parse text = .ok n → StaysInPlace n.print) ∧
      (∀ text type, TypeRef.parse text = .ok type → StaysInPlace type.print) ∧
      (∀ text e, Expr.parse text = .ok e → StaysInPlace e.print) ∧
      ∀ (manifest : Manifest) (source filename : String),
        manifest.validate (.ofSource source filename) = .ok () →
        ∃ unit, manifest.lower = .ok unit ∧
          IsBalanced unit.bracedCount (Text.blanked unit.print.toList) := by
  refine ⟨?_, ?_, ?_, ?_⟩
  · intro text n h
    exact Name.staysInPlace_of_parse h
  · intro text type h
    exact TypeRef.staysInPlace_of_parse h
  · intro text e h
    exact Expr.staysInPlace_of_parse h
  · intro manifest source filename h
    exact isBalanced_lower (wellFormed_of_validate h)

/-- The string literal of the expression looks like the end of a body and of a declaration. -/
theorem fragments_stayInPlace_sample :
    StaysInPlace (Name.aliased "global" (.identifier "Demo")).print ∧
      StaysInPlace (TypeRef.array (.named (.generic "List" [.predefined .int])) 2).print ∧
      StaysInPlace (Expr.assign (.identifier "Text") (.literal ⟨.string, "\"\x7d;\""⟩)).print ∧
      ∃ unit, sample.lower = .ok unit ∧
        IsBalanced unit.bracedCount (Text.blanked unit.print.toList) := by
  obtain ⟨hnames, htypes, hexprs, hmanifests⟩ := fragments_stayInPlace
  refine ⟨hnames "global :: Demo" _ ?_, htypes "List<int>[,]" _ ?_,
    hexprs "Text = \"\x7d;\"" _ ?_, hmanifests sample "" "" validate_sample⟩
  all_goals decide +kernel

end Manifest

end DeclScribe
