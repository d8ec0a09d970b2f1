import DeclScribe.Proofs.Manifest.Agreement

/-!
# The namespace of symbols

The symbols of a manifest with a namespace, and the types of the manifest that their members have,
all carry the namespace as the manifest spells it. The declaration that is printed carries what was
read from that spelling. So a symbol is shown with its name in the file if the manifest spells the
namespace the way it is printed, and with another one if there are blanks around the parts of it.
-/

set_option autoImplicit false

namespace DeclScribe

/-! ## Types in a namespace -/

/-- A type that has a namespace and is shown with it. -/
structure TypeMention.IsIn (mention : TypeMention) (space : String) : Prop where
  carries : mention.enclosing = some space
  shown : mention.display = space ++ "." ++ mention.name

/-- A type that has a namespace is shown with it. -/
theorem TypeMention.isIn_iff {mention : TypeMention} {space : String} :
    mention.IsIn space ↔ mention.enclosing = some space := by
  constructor
  · exact IsIn.carries
  · intro h
    exact ⟨h, by rw [display, h]⟩

/-- The types that a member has. -/
def MemberSymbol.mentions : MemberSymbol → List TypeMention
  | .field symbol => [symbol.type]
  | .property symbol => [symbol.type]
  | .method symbol => symbol.returns :: symbol.parameters.map (·.type)
  | .event symbol => [symbol.type]

/-- A member whose types, if they are declared at all, are types of a namespace. -/
def MemberSymbol.IsIn (symbol : MemberSymbol) (space : String) : Prop :=
  ∀ mention ∈ symbol.mentions, mention.kind ≠ .unresolved → mention.IsIn space

/-- A type of a namespace, down to the types of its members. -/
structure TypeSymbol.IsIn (symbol : TypeSymbol) (space : String) : Prop where
  type : symbol.toTypeMention.IsIn space
  members : ∀ member ∈ symbol.members, member.IsIn space

namespace Manifest

variable {declared : Declared} {space : String}

/-- A declared type is mentioned with the namespace that all declared types are in. -/
theorem Declared.isIn_mention (h : declared.enclosing = some space) (kind : TypeKind)
    (name : String) : (declared.mention kind name).IsIn space :=
  TypeMention.isIn_iff.mpr h

/-- A type that is found among the declared ones is mentioned with their namespace. -/
theorem Declared.isIn_of_resolve (h : declared.enclosing = some space) {text : String}
    {mention : TypeMention} (hmention : declared.resolve text = .ok mention)
    (hkind : mention.kind ≠ .unresolved) : mention.IsIn space := by
  unfold resolve at hmention
  split at hmention
  · exact absurd hmention (by simp)
  · split at hmention
    · rename_i kind _
      injection hmention with hmention
      exact hmention ▸ declared.isIn_mention h kind _
    · injection hmention with hmention
      exact absurd (hmention ▸ rfl) hkind

/-! ## Members -/

/-- The type of a field, if declared, is a type of the namespace. -/
theorem FieldEntry.isIn_of_symbol (h : declared.enclosing = some space) {entry : FieldEntry}
    {symbol : FieldSymbol} (hsymbol : entry.symbol declared = .ok symbol) :
    (MemberSymbol.field symbol).IsIn space := by
  intro mention hmention hkind
  obtain rfl := List.mem_singleton.mp hmention
  exact declared.isIn_of_resolve h (FieldEntry.symbol_eq_ok_iff.mp hsymbol).1 hkind

/-- The type of a property, if declared, is a type of the namespace. -/
theorem PropertyEntry.isIn_of_symbol (h : declared.enclosing = some space) {entry : PropertyEntry}
    {symbol : PropertySymbol} (hsymbol : entry.symbol declared = .ok symbol) :
    (MemberSymbol.property symbol).IsIn space := by
  intro mention hmention hkind
  obtain rfl := List.mem_singleton.mp hmention
  exact declared.isIn_of_resolve h (PropertyEntry.symbol_eq_ok_iff.mp hsymbol).1 hkind

/-- The types of a method and of its parameters, if declared, are types of the namespace. -/
theorem MethodEntry.isIn_of_symbol (h : declared.enclosing = some space) {entry : MethodEntry}
    {symbol : MethodSymbol} (hsymbol : entry.symbol declared = .ok symbol) :
    (MemberSymbol.method symbol).IsIn space := by
  obtain ⟨hparameters, hreturns, -⟩ := MethodEntry.symbol_eq_ok_iff.mp hsymbol
  intro mention hmention hkind
  obtain rfl | hparameter := List.mem_cons.mp hmention
  · exact declared.isIn_of_resolve h hreturns hkind
  · obtain ⟨parameter, hmem, rfl⟩ := List.mem_map.mp hparameter
    obtain ⟨found, -, hfound⟩ := exists_of_mem_forall₂ hparameters parameter hmem
    exact declared.isIn_of_resolve h (ParameterEntry.symbol_eq_ok_iff.mp hfound).1 hkind

/-- The members of a type, of whatever kind, are in the namespace. -/
theorem isIn_of_meansMembers (h : declared.enclosing = some space) {fields : List FieldEntry}
    {properties : List PropertyEntry} {methods : List MethodEntry} {members : List MemberSymbol}
    (hmembers : MeansMembers declared fields properties methods members) :
    ∀ member ∈ members, member.IsIn space := by
  obtain ⟨fieldSymbols, propertySymbols, methodSymbols, hfields, hproperties, hmethods, rfl⟩ :=
    hmembers
  simp only [List.forall_mem_append, List.forall_mem_map]
  refine ⟨⟨?_, ?_⟩, ?_⟩
  · exact holds_of_forall₂ hfields (FieldEntry.isIn_of_symbol h)
  · exact holds_of_forall₂ hproperties (PropertyEntry.isIn_of_symbol h)
  · exact holds_of_forall₂ hmethods (MethodEntry.isIn_of_symbol h)

/-! ## Types -/

/-- A class is in the namespace, with its members. -/
theorem ClassEntry.isIn_of_symbol (h : declared.enclosing = some space) {entry : ClassEntry}
    {symbol : TypeSymbol} (hsymbol : entry.symbol declared = .ok symbol) : symbol.IsIn space := by
  obtain ⟨hmention, -, hmembers⟩ := ClassEntry.symbol_eq_ok_iff.mp hsymbol
  exact ⟨hmention ▸ declared.isIn_mention h _ _, isIn_of_meansMembers h hmembers⟩

/-- An interface is in the namespace, with its members. -/
theorem InterfaceEntry.isIn_of_symbol (h : declared.enclosing = some space)
    {entry : InterfaceEntry} {symbol : TypeSymbol} (hsymbol : entry.symbol declared = .ok symbol) :
    symbol.IsIn space := by
  obtain ⟨hmention, -, hmembers⟩ := InterfaceEntry.symbol_eq_ok_iff.mp hsymbol
  exact ⟨hmention ▸ declared.isIn_mention h _ _, isIn_of_meansMembers h hmembers⟩

/-- The members of an enum have the type of the enum. -/
theorem EnumEntry.isIn_of_symbol (h : declared.enclosing = some space) {entry : EnumEntry}
    {symbol : TypeSymbol} (hsymbol : entry.symbol declared = .ok symbol) : symbol.IsIn space := by
  obtain ⟨hmention, -, fields, hfields, hmembers⟩ := EnumEntry.symbol_eq_ok_iff.mp hsymbol
  have htype : symbol.toTypeMention.IsIn space := hmention ▸ declared.isIn_mention h _ _
  refine ⟨htype, ?_⟩
  rw [hmembers, List.forall_mem_map]
  refine holds_of_forall₂ hfields ?_
  intro member field hfield mention hmem _
  obtain rfl := List.mem_singleton.mp hmem
  obtain ⟨-, -, hsame, -⟩ := EnumMemberEntry.symbol_eq_ok_iff.mp hfield
  exact hsame ▸ htype

/-! ## Manifests -/

/-- Symbols carry the namespace as it is spelled. -/
theorem isIn_of_symbols {manifest : Manifest} {entry : NamespaceEntry} {symbols : List TypeSymbol}
    (hentry : manifest.enclosing = some entry) (hsymbols : manifest.symbols = .ok symbols) :
    ∀ symbol ∈ symbols, symbol.IsIn entry.name := by
  have h : (Declared.ofManifest manifest).enclosing = some entry.name := by
    rw [Declared.ofManifest, enclosingName?, hentry, Option.map_some]
  obtain ⟨classes, interfaces, enums, hclasses, hinterfaces, henums, rfl⟩ :=
    symbols_eq_ok_iff.mp hsymbols
  simp only [List.forall_mem_append]
  refine ⟨⟨?_, ?_⟩, ?_⟩
  · exact holds_of_forall₂ hclasses (ClassEntry.isIn_of_symbol h)
  · exact holds_of_forall₂ hinterfaces (InterfaceEntry.isIn_of_symbol h)
  · exact holds_of_forall₂ henums (EnumEntry.isIn_of_symbol h)

/-- A manifest with types has its symbols in the namespace that is printed exactly if it spells the
namespace as it is printed. They are in the namespace as it is spelled, which is read as the same
name, in any case. -/
theorem symbols_isIn_print_iff {manifest : Manifest} {source filename : String}
    {entry : NamespaceEntry} (h : manifest.validate (.ofSource source filename) = .ok ())
    (hentry : manifest.enclosing = some entry) :
    ∃ unit symbols name usings types, manifest.lower = .ok unit ∧ manifest.symbols = .ok symbols ∧
      unit.members = [.namespaceDecl name usings types] ∧ Name.parse entry.name = .ok name ∧
      (∀ symbol ∈ symbols, symbol.IsIn entry.name) ∧
      ((∀ symbol ∈ symbols, symbol.IsIn name.print) ↔
        entry.name = name.print ∨ symbols = []) := by
  have hwf : manifest.WellFormed := wellFormed_of_validate h
  obtain ⟨unit, hunit⟩ := exists_lower hwf
  obtain ⟨symbols, hsymbols⟩ := exists_symbols hwf
  obtain ⟨-, types, -, henclose⟩ := lower_eq_ok_iff.mp hunit
  have hspelled := isIn_of_symbols hentry hsymbols
  obtain ⟨hnone, -⟩ | ⟨found, name, usings, hfound, hname, -, hmembers⟩ :=
    enclose_eq_ok_iff.mp henclose
  · exact absurd (hentry.symm.trans hnone) (by simp)
  · obtain rfl : entry = found := Option.some.inj (hentry.symm.trans hfound)
    refine ⟨unit, symbols, name, usings, types, hunit, hsymbols, hmembers, hname, hspelled, ?_⟩
    constructor
    · intro hprinted
      cases hcase : symbols with
      | nil => exact .inr rfl
      | cons symbol rest =>
        have hmem : symbol ∈ symbols := hcase ▸ List.mem_cons_self
        -- one symbol is enough to compare the two spellings
        have hsame := (hspelled symbol hmem).type.carries.symm.trans
          (hprinted symbol hmem).type.carries
        exact .inl (Option.some.inj hsame)
    · rintro (hsame | hempty)
      · exact hsame ▸ hspelled
      · rw [hempty]
        exact List.forall_mem_nil _

/-- The sample spells its namespace as it is printed. -/
theorem symbols_isIn_print_iff_sample :
    sample.validate (.ofSource "" "") = .ok () ∧
    sample.enclosing = some { name := "Demo.Shapes" } ∧
    ∃ unit symbols name usings types, sample.lower = .ok unit ∧ sample.symbols = .ok symbols ∧
      unit.members = [.namespaceDecl name usings types] ∧ Name.parse "Demo.Shapes" = .ok name ∧
      (∀ symbol ∈ symbols, symbol.IsIn "Demo.Shapes") ∧
      ((∀ symbol ∈ symbols, symbol.IsIn name.print) ↔
        "Demo.Shapes" = name.print ∨ symbols = []) :=
  ⟨validate_sample, rfl, symbols_isIn_print_iff validate_sample rfl⟩

/-- A namespace with blanks around the point of its name. -/
def spacedSample : Manifest where
  enclosing := some { name := "Acme . Models" }
  classes := [{ name := "User", fields := [{ name := "Next", type := "User" }] }]

/-- The type is shown as `Acme . Models.User` and printed in the namespace `Acme.Models`. -/
theorem spacedSample_not_isIn_print :
    spacedSample.validate (.ofSource "" "") = .ok () ∧
    ∃ unit symbols name usings types, spacedSample.lower = .ok unit ∧
      spacedSample.symbols = .ok symbols ∧ unit.members = [.namespaceDecl name usings types] ∧
      name.print = "Acme.Models" ∧ symbols.map (·.display) = ["Acme . Models.User"] ∧
      ¬ ∀ symbol ∈ symbols, symbol.IsIn name.print := by
  have hvalid : spacedSample.validate (.ofSource "" "") = .ok () := by decide +kernel
  have hread : Name.parse "Acme . Models" =
      .ok (.qualified (.identifier "Acme") (.identifier "Models")) := by
    decide +kernel
  have hdisplay : (spacedSample.symbols.map fun symbols => symbols.map (·.display)) =
      .ok ["Acme . Models.User"] := by
    decide +kernel
  obtain ⟨symbols, hsymbols, hshown⟩ := map_eq_ok.mp hdisplay
  obtain ⟨unit, hunit⟩ := exists_lower (wellFormed_of_validate hvalid)
  obtain ⟨-, types, -, henclose⟩ := lower_eq_ok_iff.mp hunit
  obtain ⟨hnone, -⟩ | ⟨entry, name, usings, hentry, hname, -, hmembers⟩ :=
    enclose_eq_ok_iff.mp henclose
  · exact absurd hnone (by simp [spacedSample])
  · injection hentry with hentry
    subst hentry
    obtain rfl := Except.ok.inj (hname.symm.trans hread)
    refine ⟨hvalid, unit, symbols, _, usings, types, hunit, hsymbols, hmembers, by decide,
      hshown.symm, ?_⟩
    intro hprinted
    have hmem : "Acme . Models.User" ∈ symbols.map (·.display) := hshown ▸ List.mem_singleton_self _
    obtain ⟨symbol, hsymbol, -⟩ := List.mem_map.mp hmem
    have hspelled := (isIn_of_symbols rfl hsymbols symbol hsymbol).type.carries
    have hsame := hspelled.symm.trans (hprinted symbol hsymbol).type.carries
    exact absurd (Option.some.inj hsame) (by decide)

end Manifest

end DeclScribe
