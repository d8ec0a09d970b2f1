import DeclScribe.Manifest.Validation
import DeclScribe.Proofs.Manifest.Answers
import DeclScribe.Proofs.Manifest.Spans

/-!
# Diagnostics point at what they are about

Every problem is about a text: a name, a word, a fragment, or the key of an entry. A diagnostic that
has a place has the place of that text. This is shown check by check: a check that fails does so
with a diagnostic that points at its text, and so does a sequence of such checks. No check has to
know where another one looks for its text, because any span that a search gives is a place of what
was looked for.
-/

set_option autoImplicit false

namespace DeclScribe.Manifest

/-! ## What a diagnostic is about -/

/-- The text that a problem of a manifest is about. Problems that say the text are about it; a part
that a declaration cannot carry, a value out of range and accessors that do not go together are
about the key of the part, and an underlying type is about the type as the manifest spells it. -/
inductive Problem.IsAbout (manifest : Manifest) : Problem → String → Prop
  | reservedKeyword (name place : String) : IsAbout manifest (.reservedKeyword name place) name
  | invalidIdentifier (name place : String) (fault : IdentifierFault) :
      IsAbout manifest (.invalidIdentifier name place fault) name
  | unknownModifier (word place : String) : IsAbout manifest (.unknownModifier word place) word
  | invalidFragment (text place : String) (error : ParseError) :
      IsAbout manifest (.invalidFragment text place error) text
  | interfaceField (name : String) :
      IsAbout manifest (.shapeMismatch .interfaceDecl name "fields") "interface.field"
  | enumBases (name feature : String) :
      IsAbout manifest (.shapeMismatch .enumDecl name feature) "base_types"
  | memberModifiers (name : String) :
      IsAbout manifest (.shapeMismatch .enumMember name "modifiers") "modifiers"
  | memberBases (name : String) :
      IsAbout manifest (.shapeMismatch .enumMember name "base types") "base_types"
  | namelessNull (name : String) : IsAbout manifest (.violation (.namelessNull name)) name
  | unsuitableValue (name kind : String) :
      IsAbout manifest (.violation (.unsuitableValue name kind)) name
  | duplicate (names : NameScope) (name : String) :
      IsAbout manifest (.violation (.duplicate names name)) name
  | notIntegral {entry : EnumEntry} {text : String} {type : TypeRef} : entry ∈ manifest.enums →
      entry.underlying = some text → TypeRef.parse text = .ok type →
      IsAbout manifest (.violation (.notIntegral entry.name type.print)) text
  | outOfRange (value : Int) (member type : String) :
      IsAbout manifest (.violation (.outOfRange value member type)) "value"
  | accessors (fault : AccessorFault) (place : String) :
      IsAbout manifest (.violation (.accessors fault place)) "accessors"

/-- A diagnostic that has a place has the place of the text it is about. -/
def Diagnostic.PointsAtText (manifest : Manifest) (source : List Char) (d : Diagnostic) : Prop :=
  ∀ span, d.span = some span →
    ∃ text, d.problem.IsAbout manifest text ∧ span.IsPlaceOf source text.toList

/-- A check in a scope whose failure, if it fails, points at its text. -/
def Scope.IsLocated (manifest : Manifest) (scope : Scope) {α : Type}
    (result : Except Diagnostic α) : Prop :=
  ∀ d, result = .error d → d.PointsAtText manifest scope.source

/-! ## Sequences of checks -/

variable {manifest : Manifest} {scope : Scope}

namespace Scope.IsLocated

variable {α β : Type}

/-- A check that passes has no failure to place. -/
theorem ok (value : α) : scope.IsLocated manifest (.ok value) := by
  intro d h
  exact absurd h (by simp)

/-- A failure is located if its diagnostic points at its text. -/
theorem error {d : Diagnostic} (h : d.PointsAtText manifest scope.source) :
    scope.IsLocated manifest (.error d : Except Diagnostic α) := by
  intro found hfound
  injection hfound with hfound
  exact hfound ▸ h

/-- Two steps are located if the first is, and the second for every answer of the first. -/
theorem bind {x : Except Diagnostic α} {f : α → Except Diagnostic β}
    (hx : scope.IsLocated manifest x) (hf : ∀ a, x = .ok a → scope.IsLocated manifest (f a)) :
    scope.IsLocated manifest (x >>= f) := by
  cases hresult : x with
  | error d => exact .error (hx d hresult)
  | ok a => exact hf a hresult

/-- One check behind another one that has no answer. -/
theorem andThen {x : Except Diagnostic Unit} {f : Unit → Except Diagnostic β}
    (hx : scope.IsLocated manifest x) (hf : scope.IsLocated manifest (f ())) :
    scope.IsLocated manifest (x >>= f) :=
  hx.bind fun _ _ => hf

/-- The scope of a declaration is in the same document as the one around it. -/
theorem of_push {x : Except Diagnostic α} (name : String)
    (hx : (scope.push name).IsLocated manifest x) : scope.IsLocated manifest x :=
  hx

/-- Changing the answer of a check leaves its failure alone. -/
theorem map {x : Except Diagnostic α} (f : α → β) (hx : scope.IsLocated manifest x) :
    scope.IsLocated manifest (x.map f) := by
  cases hresult : x with
  | error d => exact .error (hx d hresult)
  | ok a => exact .ok (f a)

/-- Items are checked in turn, and the first failure is that of an item. -/
theorem checkAll {check : α → Except Diagnostic Unit} {items : List α}
    (h : ∀ item ∈ items, scope.IsLocated manifest (check item)) :
    scope.IsLocated manifest (Manifest.checkAll check items) := by
  induction items with
  | nil => exact .ok ()
  | cons item rest ih =>
    obtain ⟨hitem, hrest⟩ := List.forall_mem_cons.mp h
    rw [Manifest.checkAll]
    split
    · rename_i d hd
      exact .error (hitem d hd)
    · exact ih hrest

/-- The same holds where each item is checked against the names in front of it. -/
theorem checkEach {name : α → String} {check : List String → α → Except Diagnostic Unit}
    {seen : List String} {items : List α}
    (h : ∀ seen, ∀ item ∈ items, scope.IsLocated manifest (check seen item)) :
    scope.IsLocated manifest (Manifest.checkEach name check seen items) := by
  induction items generalizing seen with
  | nil => exact .ok ()
  | cons item rest ih =>
    rw [Manifest.checkEach]
    split
    · rename_i d hd
      exact .error (h seen item List.mem_cons_self d hd)
    · exact ih fun seen found hfound => h seen found (List.mem_cons_of_mem item hfound)

end Scope.IsLocated

/-! ## Texts -/

namespace Scope

variable {what : String}

/-- A problem at the place of a value points at the value. -/
theorem pointsAtText_value {problem : Problem} {text : String} (h : problem.IsAbout manifest text) :
    Diagnostic.PointsAtText manifest scope.source ⟨problem, scope.valueSpan? text⟩ :=
  fun _ hspan => ⟨text, h, Span.isPlaceOf_value? hspan⟩

/-- A problem at the place of a key points at the key. -/
theorem pointsAtText_key {problem : Problem} {key : String} (h : problem.IsAbout manifest key) :
    Diagnostic.PointsAtText manifest scope.source ⟨problem, scope.keySpan? key⟩ :=
  fun _ hspan => ⟨key, h, Span.isPlaceOf_key? hspan⟩

/-- A name that comes twice is looked for as a value. -/
theorem pointsAtText_duplicate (names : NameScope) (name : String) :
    (scope.duplicate names name).PointsAtText manifest scope.source :=
  fun _ hspan => ⟨name, .duplicate names name, Span.isPlaceOf_lastValue? hspan⟩

/-- The key of a part is looked for as a key, and then as any text. -/
theorem pointsAtText_shapeMismatch {kind : DeclarationKind} {name feature key : String}
    (h : Problem.IsAbout manifest (.shapeMismatch kind name feature) key) :
    (scope.shapeMismatch kind name feature key).PointsAtText manifest scope.source := by
  intro span hspan
  refine ⟨key, h, ?_⟩
  unfold shapeMismatch at hspan
  dsimp only at hspan
  split at hspan
  · rename_i found hfound
    injection hspan with hspan
    exact Span.isPlaceOf_key? (hspan ▸ hfound)
  · exact Span.isPlaceOf_value? hspan

/-- A name that is refused is pointed at. -/
theorem isLocated_checkName (name what : String) :
    scope.IsLocated manifest (scope.checkName name what) := by
  unfold checkName
  split
  · exact .error (pointsAtText_value (.reservedKeyword ..))
  · split
    · exact .error (pointsAtText_value (.invalidIdentifier ..))
    · exact .ok ()

/-- A modifier that is not known is pointed at. -/
theorem isLocated_checkModifiers (what : String) (words : List String) :
    scope.IsLocated manifest (scope.checkModifiers what words) := by
  induction words with
  | nil => exact .ok ()
  | cons word rest ih =>
    rw [checkModifiers]
    split
    · exact ih
    · exact .error (pointsAtText_value (.unknownModifier ..))

variable {α : Type} (parser : String → Except ParseError α)

/-- A text that does not parse is pointed at. -/
theorem isLocated_parse (text what : String) :
    scope.IsLocated manifest (scope.parse parser text what) := by
  unfold Scope.parse
  split
  · exact .ok _
  · exact .error (pointsAtText_value (.invalidFragment ..))

/-- A text that passes is what the parser makes of it. -/
theorem parse_eq_ok {text : String} {value : α} (h : scope.parse parser text what = .ok value) :
    parser text = .ok value := by
  unfold Scope.parse at h
  split at h
  · rename_i found hfound
    rw [hfound, Except.ok.inj h]
  · exact absurd h (by simp)

/-- A fragment that does not parse is pointed at. -/
theorem isLocated_checkFragment (what text : String) :
    scope.IsLocated manifest (scope.checkFragment parser what text) :=
  (isLocated_parse parser text what).map _

/-- A fragment that may be missing is pointed at if it is there and does not parse. -/
theorem isLocated_checkOptional (what : String) (text : Option String) :
    scope.IsLocated manifest (scope.checkOptional parser what text) := by
  cases text with
  | none => exact .ok ()
  | some present => exact isLocated_checkFragment parser what present

/-- A name that is there already is pointed at. -/
theorem isLocated_checkUnique (names : NameScope) (seen : List String) (name : String) :
    scope.IsLocated manifest (scope.checkUnique names seen name) := by
  unfold checkUnique
  split
  · exact .error (pointsAtText_duplicate names name)
  · exact .ok ()

end Scope

open Scope

/-! ## Attributes -/

/-- A value that is read as an expression is pointed at if it does not parse. A missing value
without a name and a value that is no literal are faults of the attribute, which is pointed at. -/
theorem ArgumentEntry.isLocated_validateValue (name : String) (argument : ArgumentEntry) :
    scope.IsLocated manifest (argument.validateValue scope name) := by
  unfold validateValue
  split
  · split
    · exact .error (pointsAtText_value (.namelessNull name))
    · exact .ok ()
  · split
    · exact .ok ()
    · exact isLocated_checkFragment _ _ _
  · exact .ok ()
  · exact .ok ()
  · exact .ok ()
  · exact .error (pointsAtText_value (.unsuitableValue ..))

/-- An argument points at its name, or where its value does. -/
theorem ArgumentEntry.isLocated_validate (name : String) (argument : ArgumentEntry) :
    scope.IsLocated manifest (argument.validate scope name) := by
  unfold validate
  split
  · exact (isLocated_checkName _ _).andThen (isLocated_validateValue name argument)
  · exact isLocated_validateValue name argument

/-- An attribute points at its name, or where one of its arguments does. -/
theorem AttributeEntry.isLocated_validate (entry : AttributeEntry) :
    scope.IsLocated manifest (entry.validate scope) :=
  (isLocated_checkFragment _ _ _).andThen
    (.checkAll fun argument _ => ArgumentEntry.isLocated_validate entry.name argument)

/-- The attributes of a declaration are checked in turn. -/
theorem AttributeEntry.isLocated_validateAll (entries : List AttributeEntry) :
    scope.IsLocated manifest (AttributeEntry.validateAll scope entries) :=
  .checkAll fun entry _ => isLocated_validate entry

/-! ## Members -/

/-- A field points at its name, its type, a modifier, its initializer or into an attribute. -/
theorem FieldEntry.isLocated_validate (field : FieldEntry) :
    scope.IsLocated manifest (field.validate scope) := by
  apply (isLocated_checkName _ _).andThen
  apply IsLocated.of_push field.name
  apply (isLocated_checkFragment _ _ _).andThen
  apply (isLocated_checkModifiers _ _).andThen
  apply (AttributeEntry.isLocated_validateAll _).andThen
  exact isLocated_checkOptional _ _ _

/-- A property points where a field does, or at the key of its accessors. -/
theorem PropertyEntry.isLocated_validate (property : PropertyEntry) :
    scope.IsLocated manifest (property.validate scope) := by
  apply (isLocated_checkName _ _).andThen
  apply IsLocated.of_push property.name
  apply (isLocated_checkFragment _ _ _).andThen
  apply (isLocated_checkModifiers _ _).andThen
  apply (AttributeEntry.isLocated_validateAll _).andThen
  apply (isLocated_checkOptional _ _ _).andThen
  split
  · exact .error (pointsAtText_key (.accessors ..))
  · exact .ok ()

/-- A parameter points at its name, at its type or at its default. -/
theorem ParameterEntry.isLocated_validate (seen : List String) (parameter : ParameterEntry) :
    scope.IsLocated manifest (parameter.validate scope seen) := by
  apply (isLocated_checkName _ _).andThen
  apply (isLocated_checkUnique _ _ _).andThen
  apply (isLocated_checkFragment _ _ _).andThen
  exact isLocated_checkOptional _ _ _

/-- A method points at one of its own texts or into one of its parameters. -/
theorem MethodEntry.isLocated_validate (method : MethodEntry) :
    scope.IsLocated manifest (method.validate scope) := by
  apply (isLocated_checkName _ _).andThen
  apply IsLocated.of_push method.name
  apply (isLocated_checkFragment _ _ _).andThen
  apply (isLocated_checkModifiers _ _).andThen
  apply (AttributeEntry.isLocated_validateAll _).andThen
  apply IsLocated.andThen (.checkEach fun seen parameter _ =>
    ParameterEntry.isLocated_validate seen parameter)
  exact isLocated_checkOptional _ _ _

/-- The fields of a class are checked against the names in front of them. -/
theorem FieldEntry.isLocated_validateAll (seen : List String) (fields : List FieldEntry) :
    scope.IsLocated manifest (FieldEntry.validateAll scope seen fields) :=
  .checkEach fun seen field _ =>
    (isLocated_checkUnique .member seen field.name).andThen field.isLocated_validate

/-- Properties are checked against the names of the fields and of the properties in front of them.
-/
theorem PropertyEntry.isLocated_validateAll (seen : List String)
    (properties : List PropertyEntry) :
    scope.IsLocated manifest (PropertyEntry.validateAll scope seen properties) :=
  .checkEach fun seen property _ =>
    (isLocated_checkUnique .member seen property.name).andThen property.isLocated_validate

/-- Methods are checked against the names of fields and properties. -/
theorem MethodEntry.isLocated_validateAll (dataNames : List String) (methods : List MethodEntry) :
    scope.IsLocated manifest (MethodEntry.validateAll scope dataNames methods) :=
  .checkAll fun method _ =>
    (isLocated_checkUnique .member dataNames method.name).andThen method.isLocated_validate

/-! ## Types -/

/-- The bases of a type are checked in turn. -/
theorem isLocated_checkBases (bases : Option (List String)) :
    scope.IsLocated manifest (checkBases scope bases) :=
  .checkAll fun _ _ => isLocated_checkFragment _ _ _

/-- A class points at a modifier or a base, or into an attribute or a member. -/
theorem ClassEntry.isLocated_validate (entry : ClassEntry) :
    scope.IsLocated manifest (entry.validate scope) := by
  apply (isLocated_checkModifiers _ _).andThen
  apply (isLocated_checkBases _).andThen
  apply (AttributeEntry.isLocated_validateAll _).andThen
  apply (FieldEntry.isLocated_validateAll _ _).andThen
  apply (PropertyEntry.isLocated_validateAll _ _).andThen
  exact MethodEntry.isLocated_validateAll _ _

/-- An interface points where a class does, or at the key of the fields that it cannot have. -/
theorem InterfaceEntry.isLocated_validate (entry : InterfaceEntry) :
    scope.IsLocated manifest (entry.validate scope) := by
  unfold validate
  split
  · exact .error (pointsAtText_shapeMismatch (.interfaceField entry.name))
  · apply (isLocated_checkModifiers _ _).andThen
    apply (isLocated_checkBases _).andThen
    apply (AttributeEntry.isLocated_validateAll _).andThen
    apply (PropertyEntry.isLocated_validateAll _ _).andThen
    exact MethodEntry.isLocated_validateAll _ _

/-- A value out of the range of the enum is pointed at by its key. -/
theorem EnumMemberEntry.isLocated_validateValue (typeText : String) (range : IntRange)
    (member : EnumMemberEntry) :
    scope.IsLocated manifest (member.validateValue scope typeText range) := by
  unfold validateValue
  split
  · exact .ok ()
  · split
    · exact .ok ()
    · exact .error (pointsAtText_key (.outOfRange ..))

/-- A member of an enum points at its name, at the key of its value or of a part it cannot have, or
into an attribute. -/
theorem EnumMemberEntry.isLocated_validate (typeText : String) (range : IntRange)
    (seen : List String) (member : EnumMemberEntry) :
    scope.IsLocated manifest (member.validate scope typeText range seen) := by
  apply (isLocated_checkName _ _).andThen
  apply (isLocated_checkUnique _ _ _).andThen
  apply IsLocated.of_push member.name
  dsimp only
  split
  · exact .error (pointsAtText_shapeMismatch (.memberModifiers member.name))
  · split
    · exact .error (pointsAtText_shapeMismatch (.memberBases member.name))
    · apply (isLocated_validateValue _ _ member).andThen
      exact AttributeEntry.isLocated_validateAll _

/-- The type of an enum is looked for as the manifest spells it, and reported as it is printed. -/
theorem EnumEntry.isLocated_underlyingRange {entry : EnumEntry} (hentry : entry ∈ manifest.enums) :
    scope.IsLocated manifest (entry.underlyingRange scope) := by
  unfold underlyingRange
  split
  · exact .ok _
  · rename_i text htext
    have hparse : scope.IsLocated manifest (scope.parse TypeRef.parse text "underlying type") :=
      isLocated_parse _ _ _
    split
    · rename_i d hd
      exact .error (hparse d hd)
    · rename_i type htype
      split
      · exact .ok _
      · exact .error (pointsAtText_value (.notIntegral hentry htext (parse_eq_ok _ htype)))

/-- An enum points at its underlying type as well, and so it has to be one of the manifest, since
the text is said to be found there. -/
theorem EnumEntry.isLocated_validate {entry : EnumEntry} (hentry : entry ∈ manifest.enums) :
    scope.IsLocated manifest (entry.validate scope) := by
  unfold validate
  split
  · exact .error (pointsAtText_shapeMismatch (.enumBases ..))
  · apply (isLocated_checkModifiers _ _).andThen
    apply (AttributeEntry.isLocated_validateAll _).andThen
    apply (isLocated_underlyingRange hentry).bind
    intro bounds _
    exact .checkEach fun seen member _ => member.isLocated_validate bounds.1 bounds.2 seen

/-- A type is checked in a scope of its own, whose document is the one around it. -/
theorem isLocated_checkType {what : String} {seen : List String} {name : String}
    {inside : Scope → Except Diagnostic Unit}
    (hinside : (scope.push name).IsLocated manifest (inside (scope.push name))) :
    scope.IsLocated manifest (checkType scope what seen name inside) := by
  apply (isLocated_checkName _ _).andThen
  apply (isLocated_checkUnique _ _ _).andThen
  exact hinside.of_push name

/-! ## Documents -/

/-- The namespace points at its name or at one of its directives. -/
theorem isLocated_enter : scope.IsLocated manifest (manifest.enter scope) := by
  unfold enter
  split
  · exact .ok _
  · apply (isLocated_checkFragment _ _ _).andThen
    apply IsLocated.andThen (.checkAll fun _ _ => isLocated_checkFragment _ _ _)
    exact .ok _

/-- The types of a namespace are in the document of the namespace. -/
theorem source_of_enter {inner : Scope} (h : manifest.enter scope = .ok inner) :
    inner.source = scope.source := by
  unfold enter at h
  split at h
  · injection h with h
    exact h ▸ rfl
  · rename_i entry _
    simp only [andThen_eq_ok, pure_eq_ok] at h
    obtain ⟨-, -, hinner⟩ := h
    exact hinner ▸ rfl

/-- Whatever is wrong with a manifest is located. The types are checked in the scope of their
namespace, whose document is the same. -/
theorem isLocated_validate : scope.IsLocated manifest (manifest.validate scope) := by
  apply IsLocated.andThen (.checkAll fun _ _ => isLocated_checkFragment _ _ _)
  apply isLocated_enter.bind
  intro inner hinner
  have hsource : inner.source = scope.source := source_of_enter hinner
  have htypes : inner.IsLocated manifest (do
      checkEach (·.name) (fun seen (entry : ClassEntry) =>
        checkType inner "class name" seen entry.name fun inner => entry.validate inner)
        [] manifest.classes
      checkEach (·.name) (fun seen (entry : InterfaceEntry) =>
        checkType inner "interface name" seen entry.name fun inner => entry.validate inner)
        (manifest.classes.map (·.name)) manifest.interfaces
      checkEach (·.name) (fun seen (entry : EnumEntry) =>
        checkType inner "enum name" seen entry.name fun inner => entry.validate inner)
        (manifest.classes.map (·.name) ++ manifest.interfaces.map (·.name)) manifest.enums) := by
    apply IsLocated.andThen (.checkEach fun _ entry _ =>
      isLocated_checkType entry.isLocated_validate)
    apply IsLocated.andThen (.checkEach fun _ entry _ =>
      isLocated_checkType entry.isLocated_validate)
    exact .checkEach fun _ entry hentry =>
      isLocated_checkType (EnumEntry.isLocated_validate hentry)
  intro d hd
  exact hsource ▸ htypes d hd

/-- The span of a diagnostic is a place of the text that the diagnostic is about: it lies inside of
the document, it cuts no character, and the text is what stands there. -/
theorem validate_span_covers {source filename : String} {problem : Problem} {span : Span}
    (h : manifest.validate (.ofSource source filename) = .error ⟨problem, some span⟩) :
    ∃ text, problem.IsAbout manifest text ∧ span.Covers source text := by
  obtain ⟨text, habout, hplace⟩ := isLocated_validate _ h span rfl
  exact ⟨text, habout, hplace.covers⟩

/-- The name stands behind a character of two bytes, so its place is one byte later than its
number of characters. -/
theorem validate_span_covers_sample :
    validate { classes := [{ name := "class" }] }
        (.ofSource "# é\n[[class]]\nname = \"class\"\n" "a.toml") =
      .error ⟨.reservedKeyword "class" "class name", some ⟨23, 5⟩⟩ ∧
    ∃ text, Problem.IsAbout { classes := [{ name := "class" }] }
        (.reservedKeyword "class" "class name") text ∧
      Span.Covers ⟨23, 5⟩ "# é\n[[class]]\nname = \"class\"\n" text := by
  have hinvalid : validate { classes := [{ name := "class" }] }
      (.ofSource "# é\n[[class]]\nname = \"class\"\n" "a.toml") =
        .error ⟨.reservedKeyword "class" "class name", some ⟨23, 5⟩⟩ := by
    decide +kernel
  exact ⟨hinvalid, validate_span_covers hinvalid⟩

end DeclScribe.Manifest
