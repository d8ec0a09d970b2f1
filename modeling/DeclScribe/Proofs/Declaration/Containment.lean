import DeclScribe.Declaration.Printer
import DeclScribe.Proofs.Declaration.Lines
import DeclScribe.Proofs.Declaration.WellFormed

/-!
# Declarations keep their braces

The braces of a unit come from its declarations alone: whatever fragments a well-formed declaration
is made of, they stay in their place, so that its lines are balanced and have the braces that its
kind of declaration writes. By recursion over members the braces of a unit are those of the members
at any depth that are written with braces.
-/

set_option autoImplicit false

namespace DeclScribe

/-! ## Parts of declarations -/

/-- Ordinary characters are plain ones. -/
theorem AreOrdinary.arePlain {text : List Char} (h : AreOrdinary text) : ArePlain text := by
  have hall :
      (Text.literalMarks ++ Text.bracketsOf unitBrackets).all (· ∈ specialChars) = true := by
    decide
  intro c hc hplain
  exact h c hc (of_decide_eq_true (List.all_eq_true.mp hall c hplain))

/-- Words of modifiers are letters, and spaces behind them. -/
theorem Modifier.areOrdinary_lead (modifiers : List Modifier) :
    AreOrdinary (Modifier.lead modifiers).toList := by
  have hword : ∀ modifier : Modifier, AreOrdinary (modifier.word ++ " ").toList := by
    intro modifier
    rw [String.toList_append]
    refine AreOrdinary.append (.of_letters ?_) (by decide)
    cases modifier
    all_goals decide
  intro c hc
  rw [Modifier.lead, String.toList_join, List.mem_flatMap] at hc
  obtain ⟨text, htext, hc⟩ := hc
  obtain ⟨modifier, -, rfl⟩ := List.mem_map.mp htext
  exact hword modifier c hc

/-- A value behind an equal sign reaches no further than the text before it. -/
theorem isContained_withValue {text : String} (h : IsContained text.toList) {value : Option Expr}
    (hvalue : ∀ e ∈ value, e.WellFormed) : IsContained (withValue text value).toList := by
  cases value with
  | none => exact h
  | some e =>
    have hbehind := (e.isContained_print (hvalue e rfl)).assigned
    have hwhole := h.append hbehind rfl
    rw [withValue]
    simpa using hwhole

/-- Printed items with commas between them, each of which stays in its place. -/
theorem IsContained.commaSeparated_map {α : Type} {items : List α} {print : α → String}
    (h : ∀ item ∈ items, IsContained (print item).toList) :
    IsContained (Text.commaSeparated (items.map print)).toList :=
  .commaSeparated (List.forall_mem_map.mpr h)

/-- A using-directive is a line without braces. -/
theorem Using.isLine_print {u : Using} (h : u.WellFormed) : IsLine 0 u.print.toList := by
  have hname := u.name.isContained_print h.name
  have hmodifier : AreOrdinary (if u.isStatic then "static " else "").toList := by
    cases u.isStatic
    all_goals decide
  have hwhole : ∀ target : List Char, IsContained target → IsLine 0 ("using ".toList ++
      ((if u.isStatic then "static " else "").toList ++ target) ++ [';']) := by
    intro target htarget
    exact ((htarget.ordinary_append _ hmodifier).ordinary_append _ (by decide)).isLine.ended
  cases halias : u.aliasName with
  | none => simpa [Using.print, halias] using hwhole _ hname
  | some aliasName =>
    have hidentifier := (h.aliasName aliasName halias).isContained
    have htarget := hidentifier.append hname.assigned rfl
    simpa [Using.print, halias] using hwhole _ htarget

/-! ## Attributes -/

/-- An argument is contained: its label is an identifier and its value an expression. -/
theorem AttributeArgument.isContained_print {argument : AttributeArgument}
    (h : argument.WellFormed) : IsContained argument.print.toList := by
  have hvalue := argument.value.isContained_print h.value
  unfold AttributeArgument.print
  split
  · rename_i label hlabel
    have hidentifier := (h.label label hlabel).isContained
    simpa using hidentifier.append hvalue.assigned rfl
  · exact hvalue

/-- An attribute is contained, with its arguments in parentheses of its own. -/
theorem Attribute.isContained_print {a : Attribute} (h : a.WellFormed) :
    IsContained a.print.toList := by
  have hname := a.name.isContained_print h.name
  unfold Attribute.print
  split
  · exact hname
  · rename_i arguments hlist
    have harguments : ∀ argument ∈ arguments, argument.WellFormed := by
      have hall := h.arguments
      rwa [Attribute.arguments, hlist, Option.getD_some] at hall
    have hitems := IsContained.commaSeparated_map fun argument hargument =>
      AttributeArgument.isContained_print (harguments argument hargument)
    simpa using hname.append hitems.inParens rfl

/-- The words for what attributes apply to are ordinary. -/
theorem AttributeTarget.areOrdinary_lead (target : AttributeTarget) :
    AreOrdinary (target.word ++ ": ").toList := by
  rw [String.toList_append]
  refine AreOrdinary.append (.of_letters ?_) (by decide)
  cases target
  all_goals decide

/-- An attribute list closes the bracket that it opens. -/
theorem AttributeList.isContained_print {list : AttributeList} (h : list.WellFormed) :
    IsContained list.print.toList := by
  have hitems := IsContained.commaSeparated_map fun a ha => Attribute.isContained_print (h a ha)
  cases htarget : list.target with
  | none => simpa [AttributeList.print, htarget] using hitems.enclosed '[' ']' (by decide)
  | some target =>
    have hwhole := (hitems.ordinary_append _ target.areOrdinary_lead).enclosed '[' ']'
      (by decide)
    simpa [AttributeList.print, htarget] using hwhole

open Layout (HasBraces)

/-- Attribute lists have no braces, so the braces below them are those of what they belong to. -/
theorem AttributeList.hasBraces_above {lists : List AttributeList} {parts : List Layout}
    {braces : Nat} (hlists : ∀ list ∈ lists, list.WellFormed) (h : HasBraces braces parts) :
    HasBraces braces (AttributeList.layout lists ++ parts) := by
  induction lists with
  | nil => exact h
  | cons list rest ih =>
    obtain ⟨hlist, hrest⟩ := List.forall_mem_cons.mp hlists
    have hline := HasBraces.line (AttributeList.isContained_print hlist).isLine
    have hwhole := hline.append (ih hrest)
    rw [Nat.zero_add] at hwhole
    exact hwhole

/-! ## Members of types -/

/-- A variable is contained, with its initial value. -/
theorem Declarator.isContained_print {v : Declarator} (h : v.WellFormed) :
    IsContained v.print.toList :=
  isContained_withValue h.identifier.isContained h.initializer

/-- Modifiers, a type and what it is the type of. -/
theorem isContained_typed (modifiers : List Modifier) {type : TypeRef} (htype : type.WellFormed)
    {text : List Char} (h : IsContained text) :
    IsContained ((Modifier.lead modifiers).toList ++ (type.print.toList ++ (' ' :: text))) := by
  have hbehind := h.ordinary_append [' '] (by decide)
  exact ((type.isContained_print htype).append hbehind rfl).ordinary_append _
    (Modifier.areOrdinary_lead modifiers)

/-- A field is one line, and its initial values bring no braces. -/
theorem FieldDecl.hasBraces_layout {d : FieldDecl} (h : d.WellFormed) : HasBraces 0 d.layout := by
  have hitems := IsContained.commaSeparated_map fun v hv =>
    Declarator.isContained_print (h.declarators v hv)
  have hline := (isContained_typed d.modifiers h.type hitems).isLine.ended
  refine AttributeList.hasBraces_above h.attributes (.line ?_)
  rw [FieldDecl.print]
  simpa using hline

/-- The braces of accessors are around words and semicolons only. -/
theorem PropertyDecl.arePlain_accessors (accessors : List Accessor) :
    ArePlain (Text.joined " " (accessors.map (·.print))).toList := by
  have hword : ∀ accessor : Accessor, ArePlain accessor.print.toList := by
    intro accessor
    have hlead := (Modifier.areOrdinary_lead accessor.modifiers).arePlain
    have hkind : AreOrdinary accessor.kind.word.toList := by
      refine .of_letters ?_
      cases accessor.kind
      all_goals decide
    have hend : ArePlain ";".toList := by decide
    rw [Accessor.print, String.toList_append, String.toList_append]
    exact List.forall_mem_append.mpr ⟨List.forall_mem_append.mpr ⟨hlead, hkind.arePlain⟩, hend⟩
  have hspace : ArePlain " ".toList := by decide
  induction accessors with
  | nil => exact List.forall_mem_nil _
  | cons accessor rest ih =>
    cases rest with
    | nil => exact hword accessor
    | cons next others =>
      rw [List.map_cons, List.map_cons, Text.joined, String.toList_append, String.toList_append]
      exact List.forall_mem_append.mpr
        ⟨List.forall_mem_append.mpr ⟨hword accessor, hspace⟩, ih⟩

/-- A property has the braces around its accessors. -/
theorem PropertyDecl.hasBraces_layout {d : PropertyDecl} (h : d.WellFormed) :
    HasBraces 1 d.layout := by
  have haccessors := (IsLine.of_plain (PropertyDecl.arePlain_accessors d.accessors)).plain_append
    [' '] (by decide)
  have hbraces := (haccessors.append_plain [' '] (by decide) rfl).braced.isLine
  have hheader := (isContained_typed d.modifiers h.type h.identifier.isContained).isLine
  have hfront := (hheader.append_plain [' '] (by decide) rfl).append hbraces rfl
  refine AttributeList.hasBraces_above h.attributes (.line ?_)
  cases hinitializer : d.initializer with
  | none => simpa [PropertyDecl.print, hinitializer] using hfront
  | some e =>
    have hprint := e.isContained_print (h.initializer e hinitializer)
    have hvalue := hprint.assigned.isLine.ended
    simpa [PropertyDecl.print, hinitializer] using hfront.append hvalue rfl

/-- A parameter is contained, with its default value. -/
theorem Parameter.isContained_print {p : Parameter} (h : p.WellFormed) :
    IsContained p.print.toList := by
  have htyped := isContained_typed [] h.type h.identifier.isContained
  refine isContained_withValue ?_ h.default
  simpa [Modifier.lead] using htyped

/-- What stands before the body of a method is contained: the parentheses of the parameters are
closed. -/
theorem MethodDecl.isContained_header {d : MethodDecl} (h : d.WellFormed) :
    IsContained d.header.toList := by
  have hitems := IsContained.commaSeparated_map fun p hp =>
    Parameter.isContained_print (h.parameters p hp)
  have hcall := h.identifier.isContained.append hitems.inParens rfl
  have hwhole := isContained_typed d.modifiers h.returns hcall
  rw [MethodDecl.header]
  simpa using hwhole

/-- A method has braces only around a block. -/
theorem MethodDecl.hasBraces_layout {d : MethodDecl} (h : d.WellFormed) :
    HasBraces (if d.body = .block then 1 else 0) d.layout := by
  have hheader := (MethodDecl.isContained_header h).isLine
  refine AttributeList.hasBraces_above h.attributes ?_
  cases hbody : d.body with
  | none =>
    refine .line ?_
    simpa using hheader.ended
  | block => exact .braced hheader .nil
  | expression value =>
    have hvalue : value.WellFormed := by
      have hall := h.body
      rwa [hbody] at hall
    have harrow := (value.isContained_print hvalue).isLine.plain_append
      [' ', '=', '>', ' '] (by decide)
    refine .line ?_
    simpa using (hheader.append harrow rfl).ended

/-! ## Enums -/

/-- A member of an enum is contained, with its value. -/
theorem EnumMember.isContained_print {m : EnumMember} (h : m.WellFormed) :
    IsContained m.print.toList :=
  isContained_withValue h.identifier.isContained h.value

/-- The members of an enum bring no braces. -/
theorem EnumMember.hasBraces_layoutAll {members : List EnumMember}
    (h : ∀ m ∈ members, m.WellFormed) : HasBraces 0 (EnumMember.layoutAll members) := by
  match members with
  | [] => exact .nil
  | [m] =>
    have hm := h m List.mem_cons_self
    exact AttributeList.hasBraces_above hm.attributes (.line (isContained_print hm).isLine)
  | m :: next :: rest =>
    obtain ⟨hm, hrest⟩ := List.forall_mem_cons.mp h
    have hline : IsLine 0 (m.print ++ ",").toList := by
      simpa using (isContained_print hm).isLine.append_plain [','] (by decide) rfl
    exact AttributeList.hasBraces_above hm.attributes
      ((HasBraces.line hline).append (hasBraces_layoutAll hrest))

/-- An enum has the one pair of braces that stands around its members. -/
theorem EnumDecl.hasBraces_layout {d : EnumDecl} (h : d.WellFormed) : HasBraces 1 d.layout := by
  have hmembers := EnumMember.hasBraces_layoutAll h.members
  have hwhole : ∀ name : List Char, IsContained name → IsLine 0
      ((Modifier.lead d.modifiers).toList ++ ("enum ".toList ++ name)) := by
    intro name hname
    exact ((hname.ordinary_append _ (by decide)).ordinary_append _
      (Modifier.areOrdinary_lead d.modifiers)).isLine
  have hname := h.identifier.isContained
  refine AttributeList.hasBraces_above h.attributes (.braced ?_ hmembers)
  cases hunderlying : d.underlying with
  | none => simpa using hwhole _ hname
  | some type =>
    have htype := (type.isContained_print (h.underlying type hunderlying)).ordinary_append
      [' ', ':', ' '] (by decide)
    simpa using hwhole _ (hname.append htype rfl)

/-! ## Types and namespaces -/

/-- What stands before the members of a type is contained. -/
theorem TypeHeader.isContained_print (keyword : TypeKeyword) {header : TypeHeader}
    (h : header.WellFormed) : IsContained (header.print keyword).toList := by
  have hbases : IsContained header.printBases.toList ∧
      Lexer.startsWith (· == '"') header.printBases.toList = false := by
    unfold TypeHeader.printBases
    split
    · rename_i type rest hlist
      have hitems := IsContained.commaSeparated_map fun base hbase =>
        TypeRef.isContained_print base (h.bases _ hlist base hbase)
      refine ⟨?_, by simp⟩
      simpa using hitems.ordinary_append [' ', ':', ' '] (by decide)
    · exact ⟨.of_ordinary (by decide), rfl⟩
    · exact ⟨.of_ordinary (by decide), rfl⟩
  have hkeyword : AreOrdinary (keyword.declarationKind.word ++ " ").toList := by
    rw [String.toList_append]
    refine AreOrdinary.append (.of_letters ?_) (by decide)
    cases keyword
    all_goals decide
  have hname := h.identifier.isContained.append hbases.1 hbases.2
  have hwhole := (hname.ordinary_append _ hkeyword).ordinary_append _
    (Modifier.areOrdinary_lead header.modifiers)
  rw [TypeHeader.print]
  simpa using hwhole

/-- Using-directives bring no braces. -/
theorem hasBraces_usings {usings : List Using} (h : ∀ u ∈ usings, u.WellFormed) :
    HasBraces 0 (usings.map fun u => .line u.print) := by
  induction usings with
  | nil => exact .nil
  | cons u rest ih =>
    obtain ⟨hu, hrest⟩ := List.forall_mem_cons.mp h
    exact (HasBraces.line (Using.isLine_print hu)).append (ih hrest)

/-- A body has the braces of the members in it, with directives above them or without. -/
theorem hasBraces_bodyLayout {usings : List Using} {members : List Layout} {braces : Nat}
    (husings : ∀ u ∈ usings, u.WellFormed) (h : HasBraces braces members) :
    HasBraces braces (bodyLayout usings members) := by
  have hdirectives := hasBraces_usings husings
  have hplain := hdirectives.append h
  have hspaced := hdirectives.append (HasBraces.blank.append h)
  rw [Nat.zero_add] at hplain
  rw [Nat.zero_add, Nat.zero_add] at hspaced
  unfold bodyLayout
  dsimp only
  split
  · exact hplain
  · exact hspaced

namespace Member

/-- The braces of the first member and of the others add up. -/
theorem bracedCount_cons (m : Member) (rest : List Member) :
    bracedCount (m :: rest) = m.within.countP isBraced + bracedCount rest := by
  rw [bracedCount, withinAll, List.countP_append, bracedCount]

/-- A member with braces counts itself and all members in it. -/
theorem countP_isBraced_cons (m : Member) (h : m.isBraced = true) (members : List Member) :
    (m :: withinAll members).countP isBraced = bracedCount members + 1 :=
  List.countP_cons_of_pos h

mutual

/-- A member brings one pair of braces for every member with braces in it, itself included. The
induction is on the tree of members, together with the two lemmas on lists of them below. -/
theorem hasBraces_layout (m : Member) (h : m.WellFormed) :
    HasBraces (m.within.countP isBraced) m.layout := by
  match m with
  | .namespaceDecl name usings members =>
    obtain ⟨hname, husings, hmembers⟩ := h
    have hheader : IsLine 0 ("namespace " ++ name.print).toList := by
      have hwhole := (name.isContained_print hname).ordinary_append "namespace ".toList (by decide)
      simpa using hwhole.isLine
    have hbody := hasBraces_bodyLayout husings (hasBraces_layoutAll members hmembers)
    have hcount := countP_isBraced_cons (.namespaceDecl name usings members) rfl members
    rw [layout, within, hcount]
    exact .braced hheader hbody
  | .typeDecl keyword header members =>
    obtain ⟨hheader, hmembers⟩ := h
    have hline := (TypeHeader.isContained_print keyword hheader).isLine
    have hcount := countP_isBraced_cons (.typeDecl keyword header members) rfl members
    rw [layout, within, hcount]
    exact AttributeList.hasBraces_above hheader.attributes
      (.braced hline (hasBraces_layoutAll members hmembers))
  | .enumDecl decl =>
    rw [layout, within]
    exact EnumDecl.hasBraces_layout h
  | .fieldDecl decl =>
    rw [layout, within]
    exact FieldDecl.hasBraces_layout h
  | .propertyDecl decl =>
    rw [layout, within]
    exact PropertyDecl.hasBraces_layout h
  | .methodDecl decl =>
    have hcount : [Member.methodDecl decl].countP isBraced =
        if decl.body = .block then 1 else 0 := by
      simp [isBraced, List.countP_cons]
    rw [layout, within, hcount]
    exact MethodDecl.hasBraces_layout h

/-- Several members bring the braces of each. -/
theorem hasBraces_layoutAll (members : List Member) (h : AllWellFormed members) :
    HasBraces (bracedCount members) (layoutAll members) := by
  match members with
  | [] => exact .nil
  | m :: rest =>
    obtain ⟨hm, hrest⟩ := h
    rw [bracedCount_cons, layoutAll]
    exact (m.hasBraces_layout hm).append (hasBraces_layoutAfter m.isData rest hrest)

/-- Gaps between members bring no braces. -/
theorem hasBraces_layoutAfter (previousIsData : Bool) (members : List Member)
    (h : AllWellFormed members) :
    HasBraces (bracedCount members) (layoutAfter previousIsData members) := by
  match members with
  | [] => exact .nil
  | m :: rest =>
    obtain ⟨hm, hrest⟩ := h
    have hspace : HasBraces 0 (if previousIsData && m.isData then [] else [.blank]) := by
      split
      · exact .nil
      · exact .blank
    have hwhole := (hspace.append (m.hasBraces_layout hm)).append
      (hasBraces_layoutAfter m.isData rest hrest)
    rw [Nat.zero_add] at hwhole
    rw [bracedCount_cons, layoutAfter]
    exact hwhole

end

end Member

/-! ## Units -/

/-- The code of a well-formed unit is nested, and its braces are those of its members. -/
theorem CompilationUnit.isBalanced_print {u : CompilationUnit} (h : u.WellFormed) :
    IsBalanced u.bracedCount (Text.blanked u.print.toList) := by
  have hmembers := Member.hasBraces_layoutAll u.members (Member.allWellFormed_iff.mpr h.members)
  have hlayout : HasBraces u.bracedCount u.layout := hasBraces_bodyLayout h.usings hmembers
  rw [CompilationUnit.print, Layout.toList_render]
  exact (hlayout .standard 0).balanced

end DeclScribe
