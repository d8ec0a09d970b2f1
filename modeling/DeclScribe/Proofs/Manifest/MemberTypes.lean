import DeclScribe.Proofs.Manifest.Enclosing
import DeclScribe.Proofs.Manifest.Identifiers

/-!
# The types of members

The type of a member is looked up among the declared types by what it prints as. Types that a text
can be read as print differently, so only the plain name of a declared type finds it: no generic,
qualified or aliased name, no array and no nullable or predefined type does. As declared types have
names of their own, there is one declaration to be found. For the same reason a type is primitive
only when it is predefined.
-/

set_option autoImplicit false

namespace DeclScribe

/-! ## What types print as -/

/-- A well-formed type is known by its print, since the print is read as the type. -/
theorem TypeRef.eq_of_print_eq {a b : TypeRef} (ha : a.WellFormed) (hb : b.WellFormed)
    (h : a.print = b.print) : a = b := by
  have hread := TypeRef.parse_print ha
  rw [h, TypeRef.parse_print hb] at hread
  exact (Except.ok.inj hread).symm

/-- The only type that prints as a name is that name. -/
theorem TypeRef.print_eq_iff {type : TypeRef} {name : String} (htype : type.WellFormed)
    (hname : IsDeclarable name) : type.print = name ↔ type = .named (.identifier name) := by
  constructor
  · intro h
    exact TypeRef.eq_of_print_eq htype (b := .named (.identifier name)) hname.isIdentifierText h
  · rintro rfl
    rfl

/-- The primitive types are the predefined ones, apart from `void`. -/
theorem mem_primitiveNames_iff {text : String} :
    text ∈ TypeMention.primitiveNames ↔ ∃ type : Predefined, type ≠ .void ∧ text = type.word := by
  constructor
  · intro h
    have hall : ∀ text ∈ TypeMention.primitiveNames,
        ∃ type ∈ Predefined.all, type ≠ .void ∧ text = type.word := by
      decide
    obtain ⟨type, -, htype⟩ := hall text h
    exact ⟨type, htype⟩
  · rintro ⟨type, hvoid, rfl⟩
    cases type with
    | void => exact absurd rfl hvoid
    | _ => decide

/-- Of all types only the predefined ones print as a primitive one. -/
theorem TypeRef.print_mem_primitiveNames_iff {type : TypeRef} (htype : type.WellFormed) :
    type.print ∈ TypeMention.primitiveNames ↔
      ∃ word : Predefined, type = .predefined word ∧ word ≠ .void := by
  rw [mem_primitiveNames_iff]
  constructor
  · rintro ⟨word, hvoid, hprint⟩
    exact ⟨word, TypeRef.eq_of_print_eq htype (b := .predefined word) trivial hprint, hvoid⟩
  · rintro ⟨word, rfl, hvoid⟩
    exact ⟨word, hvoid, rfl⟩

/-- A type is primitive if it is shown as a primitive one. -/
theorem TypeMention.isPrimitive_iff {mention : TypeMention} :
    mention.isPrimitive = true ↔ mention.display ∈ primitiveNames := by
  rw [isPrimitive, List.contains_iff_mem]

/-- Names of declared types are not reserved, those of primitive types are. -/
theorem IsDeclarable.notMem_primitiveNames {name : String} (h : IsDeclarable name) :
    name ∉ TypeMention.primitiveNames := by
  have hreserved : ∀ word ∈ TypeMention.primitiveNames, word ∈ reservedWords := by decide
  intro hmem
  exact h.2 (hreserved name hmem)

/-- A type that is shown with a namespace is not primitive. -/
theorem TypeMention.notMem_primitiveNames_of_enclosing {mention : TypeMention} {space : String}
    (h : mention.enclosing = some space) : mention.display ∉ primitiveNames := by
  have hall : ∀ name ∈ primitiveNames, '.' ∉ name.toList := by decide
  intro hmem
  apply hall _ hmem
  rw [display, h]
  simp

namespace Manifest

variable {manifest : Manifest} {name : String} {kind : TypeKind}

/-! ## Declared types -/

/-- A manifest declares a type of this name as a class, an interface or an enum. -/
inductive Declares (manifest : Manifest) : String → TypeKind → Prop
  | classType {entry : ClassEntry} (h : entry ∈ manifest.classes) :
      Declares manifest entry.name .classType
  | interfaceType {entry : InterfaceEntry} (h : entry ∈ manifest.interfaces) :
      Declares manifest entry.name .interfaceType
  | enumType {entry : EnumEntry} (h : entry ∈ manifest.enums) :
      Declares manifest entry.name .enumType

/-- A name is listed with a kind if a type of that name and kind is declared. -/
theorem mem_kinds_iff : (name, kind) ∈ (Declared.ofManifest manifest).kinds ↔
    manifest.Declares name kind := by
  simp only [Declared.ofManifest, List.mem_append, List.mem_map, Prod.mk.injEq]
  constructor
  · rintro ((⟨entry, hentry, rfl, rfl⟩ | ⟨entry, hentry, rfl, rfl⟩) | ⟨entry, hentry, rfl, rfl⟩)
    · exact .classType hentry
    · exact .interfaceType hentry
    · exact .enumType hentry
  · rintro (⟨h⟩ | ⟨h⟩ | ⟨h⟩)
    · exact .inl (.inl ⟨_, h, rfl, rfl⟩)
    · exact .inl (.inr ⟨_, h, rfl, rfl⟩)
    · exact .inr ⟨_, h, rfl, rfl⟩

/-- The names that are listed are those of the types, in their order. -/
theorem map_fst_kinds (manifest : Manifest) :
    (Declared.ofManifest manifest).kinds.map Prod.fst = manifest.typeNames := by
  simp [Declared.ofManifest, typeNames, Function.comp_def]

/-- A name is declared, with whatever kind, if it is the name of a type. -/
theorem exists_declares_iff :
    (∃ kind, manifest.Declares name kind) ↔ name ∈ manifest.typeNames := by
  simp only [← map_fst_kinds, List.mem_map, ← mem_kinds_iff, Prod.exists, exists_and_right,
    exists_eq_right]

/-- A declared type is resolved. -/
theorem Declares.ne_unresolved (h : manifest.Declares name kind) : kind ≠ .unresolved := by
  cases h <;> simp

/-- A name finds the kind of its declaration when there is no other type of that name. -/
theorem kind?_eq_some_iff (h : manifest.typeNames.Nodup) :
    (Declared.ofManifest manifest).kind? name = some kind ↔ manifest.Declares name kind := by
  rw [Declared.kind?, List.lookup_eq_some_iff, ← mem_kinds_iff]
  constructor
  · rintro ⟨front, back, hsplit, -⟩
    rw [← List.mem_reverse, hsplit]
    simp
  · intro hmem
    obtain ⟨front, back, hsplit⟩ := List.append_of_mem (List.mem_reverse.mpr hmem)
    refine ⟨front, back, hsplit, ?_⟩
    -- no entry in front has the name, as the names differ
    have hnames : (manifest.typeNames.reverse) =
        front.map Prod.fst ++ name :: back.map Prod.fst := by
      rw [← map_fst_kinds, ← List.map_reverse, hsplit, List.map_append, List.map_cons]
    have hdistinct := List.nodup_reverse.mpr h
    rw [hnames] at hdistinct
    intro entry hentry
    rw [bne_iff_ne]
    rintro rfl
    exact (List.nodup_append.mp hdistinct).2.2 _ (List.mem_map_of_mem hentry) _
      List.mem_cons_self rfl

/-- A name has no kind if it is the name of no type. -/
theorem kind?_eq_none_iff (h : manifest.typeNames.Nodup) :
    (Declared.ofManifest manifest).kind? name = none ↔ name ∉ manifest.typeNames := by
  rw [← exists_declares_iff, Option.eq_none_iff_forall_ne_some, not_exists]
  simp only [ne_eq, kind?_eq_some_iff h]

/-! ## The meaning of a type -/

/-- What a text that is the type of a member means. It is a declared type exactly if it is read as
the plain name of one, and then it has that name, the kind of the one declaration and the namespace
of the manifest. Otherwise it is known by what it prints as. It is primitive exactly if it is read
as a predefined type that has values. -/
structure IsTypeOf (manifest : Manifest) (text : String) (mention : TypeMention) : Prop where
  resolved_iff : mention.kind ≠ .unresolved ↔
    ∃ name ∈ manifest.typeNames, TypeRef.parse text = .ok (.named (.identifier name))
  resolved : ∀ name ∈ manifest.typeNames, TypeRef.parse text = .ok (.named (.identifier name)) →
    mention.name = name ∧ mention.enclosing = manifest.enclosingName? ∧
      manifest.Declares name mention.kind ∧ manifest.typeNames.count name = 1
  unresolved : mention.kind = .unresolved →
    ∃ type, TypeRef.parse text = .ok type ∧ mention.name = type.print ∧ mention.enclosing = none
  isPrimitive_iff : mention.isPrimitive = true ↔
    ∃ word : Predefined, TypeRef.parse text = .ok (.predefined word) ∧ word ≠ .void

/-- A declared type is not primitive: with a namespace it is shown with a dot, and without one its
name would be reserved. -/
theorem Declared.isPrimitive_mention {declared : Declared} (h : IsDeclarable name) :
    (declared.mention kind name).isPrimitive = false := by
  rw [Bool.eq_false_iff, ne_eq, TypeMention.isPrimitive_iff]
  cases henclosing : declared.enclosing with
  | some space => exact TypeMention.notMem_primitiveNames_of_enclosing henclosing
  | none =>
    rw [TypeMention.display, Declared.mention, henclosing]
    exact h.notMem_primitiveNames

section

variable {text : String} {type : TypeRef}

/-- A text is read as the plain name of a declared type if it is read as a type with that print. -/
theorem parse_eq_named_iff (h : manifest.WellFormed) (htype : TypeRef.parse text = .ok type)
    (hmem : name ∈ manifest.typeNames) :
    TypeRef.parse text = .ok (.named (.identifier name)) ↔ type.print = name := by
  have hwf := (TypeRef.parse_sound htype).1
  rw [htype, Except.ok.injEq, TypeRef.print_eq_iff hwf (h.isDeclarable_typeNames name hmem)]

/-- A text is read as a primitive type if it is read as a type with the print of one. -/
theorem exists_parse_eq_predefined_iff (htype : TypeRef.parse text = .ok type) :
    (∃ word : Predefined, TypeRef.parse text = .ok (.predefined word) ∧ word ≠ .void) ↔
      type.print ∈ TypeMention.primitiveNames := by
  rw [TypeRef.print_mem_primitiveNames_iff (TypeRef.parse_sound htype).1, htype]
  simp only [Except.ok.injEq]

/-- What prints as the name of a declared type is that type. -/
theorem isTypeOf_mention (h : manifest.WellFormed) (htype : TypeRef.parse text = .ok type)
    (hkind : manifest.Declares type.print kind) :
    manifest.IsTypeOf text ((Declared.ofManifest manifest).mention kind type.print) := by
  have hmem : type.print ∈ manifest.typeNames := exists_declares_iff.mp ⟨kind, hkind⟩
  have hdeclarable := h.isDeclarable_typeNames _ hmem
  refine ⟨?_, ?_, ?_, ?_⟩
  · exact iff_of_true hkind.ne_unresolved
      ⟨type.print, hmem, (parse_eq_named_iff h htype hmem).mpr rfl⟩
  · intro name hname hparse
    obtain rfl := (parse_eq_named_iff h htype hname).mp hparse
    exact ⟨rfl, rfl, hkind, List.count_eq_one_of_mem h.distinct hmem⟩
  · intro hunresolved
    exact absurd hunresolved hkind.ne_unresolved
  · rw [Declared.isPrimitive_mention hdeclarable, exists_parse_eq_predefined_iff htype]
    exact iff_of_false Bool.false_ne_true hdeclarable.notMem_primitiveNames

/-- What prints as anything else is only known by that. -/
theorem isTypeOf_spelled (h : manifest.WellFormed) (htype : TypeRef.parse text = .ok type)
    (hno : type.print ∉ manifest.typeNames) :
    manifest.IsTypeOf text { name := type.print } := by
  have hother : ∀ name ∈ manifest.typeNames,
      TypeRef.parse text ≠ .ok (.named (.identifier name)) := by
    intro name hname hparse
    obtain rfl := (parse_eq_named_iff h htype hname).mp hparse
    exact hno hname
  refine ⟨?_, ?_, ?_, ?_⟩
  · refine iff_of_false (not_not_intro rfl) ?_
    rintro ⟨name, hname, hparse⟩
    exact hother name hname hparse
  · intro name hname hparse
    exact absurd hparse (hother name hname)
  · intro _
    exact ⟨type, htype, rfl, rfl⟩
  · rw [TypeMention.isPrimitive_iff, exists_parse_eq_predefined_iff htype]
    exact Iff.rfl

/-- What a text is resolved to is what it means, whether a type of that name is declared or not. -/
theorem isTypeOf_of_resolve (h : manifest.WellFormed) {mention : TypeMention}
    (hmention : (Declared.ofManifest manifest).resolve text = .ok mention) :
    manifest.IsTypeOf text mention := by
  unfold Declared.resolve at hmention
  split at hmention
  · exact absurd hmention (by simp)
  · rename_i type htype
    split at hmention
    · rename_i kind hkind
      injection hmention with hmention
      rw [← hmention]
      exact isTypeOf_mention h htype ((kind?_eq_some_iff h.distinct).mp hkind)
    · rename_i hnone
      injection hmention with hmention
      rw [← hmention]
      exact isTypeOf_spelled h htype ((kind?_eq_none_iff h.distinct).mp hnone)

end

/-! ## All members -/

/-- The texts of the types of some members: of a field or property its type, of a method the type
of its result and those of its parameters. -/
def memberTypes (fields : List FieldEntry) (properties : List PropertyEntry)
    (methods : List MethodEntry) : List (List String) :=
  fields.map (fun field => [field.type]) ++ properties.map (fun property => [property.type]) ++
    methods.map fun method => method.returns :: method.parameters.map (·.type)

/-- The types that the members of a class are given. -/
def ClassEntry.memberTypes (entry : ClassEntry) : List (List String) :=
  Manifest.memberTypes entry.fields entry.properties entry.methods

/-- The types that the members of an interface are given. -/
def InterfaceEntry.memberTypes (entry : InterfaceEntry) : List (List String) :=
  Manifest.memberTypes [] entry.properties entry.methods

/-- The members of a symbol have the types that the texts mean, member by member. -/
def HasMemberTypes (manifest : Manifest) (texts : List (List String)) (symbol : TypeSymbol) :
    Prop :=
  List.Forall₂ (List.Forall₂ manifest.IsTypeOf) texts (symbol.members.map MemberSymbol.mentions)

/-- The result and the parameters of a method have the types that their texts mean. -/
theorem MethodEntry.isTypeOf_of_symbol (h : manifest.WellFormed) {entry : MethodEntry}
    {symbol : MethodSymbol} (hsymbol : entry.symbol (.ofManifest manifest) = .ok symbol) :
    List.Forall₂ manifest.IsTypeOf (entry.returns :: entry.parameters.map (·.type))
      (MemberSymbol.method symbol).mentions := by
  obtain ⟨hparameters, hreturns, -⟩ := MethodEntry.symbol_eq_ok_iff.mp hsymbol
  refine .cons (isTypeOf_of_resolve h hreturns) ?_
  rw [List.forall₂_map_left_iff, List.forall₂_map_right_iff]
  refine hparameters.imp ?_
  intro parameter symbol hparameter
  exact isTypeOf_of_resolve h (ParameterEntry.symbol_eq_ok_iff.mp hparameter).1

/-- The members of a type have the types that their texts mean, member by member. -/
theorem isTypeOf_of_meansMembers (h : manifest.WellFormed) {fields : List FieldEntry}
    {properties : List PropertyEntry} {methods : List MethodEntry} {members : List MemberSymbol}
    (hmembers : MeansMembers (.ofManifest manifest) fields properties methods members) :
    List.Forall₂ (List.Forall₂ manifest.IsTypeOf) (memberTypes fields properties methods)
      (members.map MemberSymbol.mentions) := by
  obtain ⟨fieldSymbols, propertySymbols, methodSymbols, hfields, hproperties, hmethods, rfl⟩ :=
    hmembers
  rw [memberTypes, List.map_append, List.map_append, List.map_map, List.map_map, List.map_map]
  apply List.rel_append
  · apply List.rel_append
    · rw [List.forall₂_map_left_iff, List.forall₂_map_right_iff]
      refine hfields.imp ?_
      intro field symbol hsymbol
      exact .cons (isTypeOf_of_resolve h (FieldEntry.symbol_eq_ok_iff.mp hsymbol).1) .nil
    · rw [List.forall₂_map_left_iff, List.forall₂_map_right_iff]
      refine hproperties.imp ?_
      intro property symbol hsymbol
      exact .cons (isTypeOf_of_resolve h (PropertyEntry.symbol_eq_ok_iff.mp hsymbol).1) .nil
  · rw [List.forall₂_map_left_iff, List.forall₂_map_right_iff]
    exact hmethods.imp fun _ _ => MethodEntry.isTypeOf_of_symbol h

/-- A manifest that passes validation has its symbols, those of the classes, of the interfaces and
of the enums, and every type of a field, property, parameter or result is resolved to the declared
type that it names, if it is the plain name of one, and to none if it is not. -/
theorem member_types_are_resolved {manifest : Manifest} {source filename : String}
    (h : manifest.validate (.ofSource source filename) = .ok ()) :
    ∃ classes interfaces enums, manifest.symbols = .ok (classes ++ interfaces ++ enums) ∧
      List.Forall₂ (fun entry symbol => manifest.HasMemberTypes entry.memberTypes symbol)
        manifest.classes classes ∧
      List.Forall₂ (fun entry symbol => manifest.HasMemberTypes entry.memberTypes symbol)
        manifest.interfaces interfaces := by
  have hwf : manifest.WellFormed := wellFormed_of_validate h
  obtain ⟨symbols, hsymbols⟩ := exists_symbols hwf
  obtain ⟨classes, interfaces, enums, hclasses, hinterfaces, -, rfl⟩ :=
    symbols_eq_ok_iff.mp hsymbols
  refine ⟨classes, interfaces, enums, hsymbols, ?_, ?_⟩
  · refine hclasses.imp ?_
    intro entry symbol hsymbol
    exact isTypeOf_of_meansMembers hwf (ClassEntry.symbol_eq_ok_iff.mp hsymbol).2.2
  · refine hinterfaces.imp ?_
    intro entry symbol hsymbol
    exact isTypeOf_of_meansMembers hwf (InterfaceEntry.symbol_eq_ok_iff.mp hsymbol).2.2

/-- A class with its own type, an array of it, an enum and two types that are not declared. -/
def mentionSample : Manifest where
  enclosing := some { name := "Acme" }
  classes := [{
    name := "User"
    fields := [{ name := "next", type := "User" }, { name := "all", type := "User[]" }]
    methods := [{
      name := "Paint", returns := "Color"
      parameters := [{ name := "shade", type := "int" },
        { name := "other", type := "Acme.Color" }] }] }]
  enums := [{ name := "Color", members := [{ name := "Red" }] }]

/-- Types of both kinds in members of each kind: those of declared types are shown with the
namespace, and what is built from them is shown as it is spelled. -/
theorem member_types_are_resolved_sample :
    mentionSample.validate (.ofSource "" "") = .ok () ∧
    (mentionSample.symbols.map fun symbols => symbols.map fun symbol => symbol.members.map
      fun member => member.mentions.map fun mention => (mention.display, mention.kind)) =
      .ok [[[("Acme.User", .classType)], [("User[]", .unresolved)],
        [("Acme.Color", .enumType), ("int", .unresolved), ("Acme.Color", .unresolved)]],
        [[("Acme.Color", .enumType)]]] ∧
    ∃ classes interfaces enums, mentionSample.symbols = .ok (classes ++ interfaces ++ enums) ∧
      List.Forall₂ (fun entry symbol => mentionSample.HasMemberTypes entry.memberTypes symbol)
        mentionSample.classes classes ∧
      List.Forall₂ (fun entry symbol => mentionSample.HasMemberTypes entry.memberTypes symbol)
        mentionSample.interfaces interfaces := by
  have hvalid : mentionSample.validate (.ofSource "" "") = .ok () := by decide +kernel
  exact ⟨hvalid, by decide +kernel, member_types_are_resolved hvalid⟩

end Manifest

end DeclScribe
