import DeclScribe.Declaration.Builder
import Mathlib.Data.List.Chain

/-!
# Blank lines

Blank lines stand between what they separate: in the layout of a declaration and in the body of
every block inside it none is the first or the last piece, and no two follow each other. What is
separated is the content of a block, which is using-directives and members, or the members of an
enum. Its layout is written out here without any recursion over the members: each pair of members
that follow each other has one blank line between them, or none if both hold data.
-/

set_option autoImplicit false

namespace DeclScribe

namespace Layout

/-! ## Blank lines in a list of pieces -/

/-- Blank lines only separate: none is first or last and no two follow each other. -/
structure WellSpaced (parts : List Layout) : Prop where
  first : parts.head? ≠ some .blank
  last : parts.getLast? ≠ some .blank
  apart : parts.IsChain fun a b => ¬ (a = .blank ∧ b = .blank)

namespace WellSpaced

/-- Pieces without a blank line among them are well spaced. -/
theorem of_notMem {parts : List Layout} (h : Layout.blank ∉ parts) : WellSpaced parts where
  first := fun hfirst => h (List.mem_of_mem_head? hfirst)
  last := fun hlast => h (List.mem_of_getLast? hlast)
  apart := by
    refine List.Pairwise.isChain (List.pairwise_of_forall_mem_list ?_)
    rintro a ha b - ⟨rfl, -⟩
    exact h ha

/-- Well spaced lists can be put behind each other: no blank line meets another one at the seam. -/
theorem append {parts more : List Layout} (h : WellSpaced parts) (hmore : WellSpaced more) :
    WellSpaced (parts ++ more) where
  first := by
    cases parts with
    | nil => exact hmore.first
    | cons part rest => exact h.first
  last := by
    rw [List.getLast?_append]
    cases hlast : more.getLast? with
    | none => exact h.last
    | some part =>
      have hpart := hmore.last
      rw [hlast] at hpart
      exact hpart
  apart := by
    refine List.isChain_append.mpr ⟨h.apart, hmore.apart, ?_⟩
    rintro a ha b hb ⟨rfl, -⟩
    exact h.last ha

/-- A blank line may stand between two lists that have pieces. -/
theorem append_blank {parts more : List Layout} (h : WellSpaced parts) (hmore : WellSpaced more)
    (hparts : parts ≠ []) (hne : more ≠ []) : WellSpaced (parts ++ .blank :: more) where
  first := by
    cases parts with
    | nil => exact absurd rfl hparts
    | cons part rest => exact h.first
  last := by
    rw [List.getLast?_append_cons, List.getLast?_cons_of_ne_nil hne]
    exact hmore.last
  apart := by
    have htail : (Layout.blank :: more).IsChain fun a b => ¬ (a = .blank ∧ b = .blank) := by
      refine List.isChain_cons.mpr ⟨?_, hmore.apart⟩
      rintro b hb ⟨-, rfl⟩
      exact hmore.first hb
    refine List.isChain_append.mpr ⟨h.apart, htail, ?_⟩
    rintro a ha b hb ⟨rfl, -⟩
    exact h.last ha

end WellSpaced

/-! ## The bodies of blocks -/

mutual

/-- The bodies of all blocks in a piece of layout, at any depth, in the order they open. -/
def bodies : Layout → List (List Layout)
  | .line _ => []
  | .blank => []
  | .block _ body _ => body :: bodiesAll body
  | .sequence parts => bodiesAll parts

/-- The bodies of all blocks in several pieces of layout. -/
def bodiesAll : List Layout → List (List Layout)
  | [] => []
  | part :: rest => bodies part ++ bodiesAll rest

end

/-- Blocks are found in pieces one behind the other. -/
theorem bodiesAll_append (parts more : List Layout) :
    bodiesAll (parts ++ more) = bodiesAll parts ++ bodiesAll more := by
  induction parts with
  | nil => rfl
  | cons part rest ih => rw [List.cons_append, bodiesAll, bodiesAll, ih, List.append_assoc]

/-- A block in braces has its body, and the blocks in it. -/
theorem bodiesAll_braced (header : String) (body : List Layout) :
    bodiesAll [braced header body] = body :: bodiesAll body := by
  simp [braced, bodiesAll, bodies]

/-- Lines and blank lines have no blocks in them. -/
theorem bodiesAll_map_line {α : Type} (text : α → String) (items : List α) :
    bodiesAll (items.map fun item => .line (text item)) = [] := by
  induction items with
  | nil => rfl
  | cons item rest ih => rw [List.map_cons, bodiesAll, bodies, ih, List.append_nil]

end Layout

/-! ## Members and what is between them -/

namespace AttributeList

/-- Attribute lists are laid out as lines, none of them blank. -/
theorem blank_notMem_layout (lists : List AttributeList) : Layout.blank ∉ layout lists := by
  simp [layout]

/-- The attribute lists above a declaration hold no blocks. -/
theorem bodiesAll_layout_append (lists : List AttributeList) (parts : List Layout) :
    Layout.bodiesAll (layout lists ++ parts) = Layout.bodiesAll parts := by
  rw [Layout.bodiesAll_append, layout, Layout.bodiesAll_map_line, List.nil_append]

end AttributeList

namespace Member

/-- A member has a layout, without a blank line of its own. -/
theorem layout_ne_nil (m : Member) : m.layout ≠ [] := by
  cases m <;> simp [layout, EnumDecl.layout, FieldDecl.layout, PropertyDecl.layout,
    MethodDecl.layout]

/-- A member is laid out as lines and blocks, with blank lines only inside of blocks. -/
theorem blank_notMem_layout (m : Member) : Layout.blank ∉ m.layout := by
  cases m with
  | namespaceDecl name usings members => simp [layout, Layout.braced]
  | typeDecl keyword header members =>
    simp [layout, Layout.braced, AttributeList.blank_notMem_layout]
  | enumDecl decl =>
    simp [layout, EnumDecl.layout, Layout.braced, AttributeList.blank_notMem_layout]
  | fieldDecl decl => simp [layout, FieldDecl.layout, AttributeList.blank_notMem_layout]
  | propertyDecl decl => simp [layout, PropertyDecl.layout, AttributeList.blank_notMem_layout]
  | methodDecl decl =>
    cases hbody : decl.body <;>
      simp [layout, MethodDecl.layout, hbody, Layout.braced, AttributeList.blank_notMem_layout]

/-- Fields and properties follow each other directly, any other two members have a blank line
between them. -/
def gap (a b : Member) : List Layout :=
  let close := [DeclarationKind.fieldDecl, .propertyDecl]
  if a.kind ∈ close ∧ b.kind ∈ close then [] else [.blank]

/-- A member holds data if it is a field or a property. -/
theorem isData_iff (m : Member) :
    m.isData = true ↔ m.kind ∈ [DeclarationKind.fieldDecl, .propertyDecl] := by
  cases m with
  | typeDecl keyword header members =>
    cases keyword <;> simp [isData, kind, TypeKeyword.declarationKind]
  | _ => simp [isData, kind]

/-- The layouts of members with the gaps between those that follow each other. -/
def separated : List Member → List Layout
  | [] => []
  | m :: rest =>
    m.layout ++ ((m :: rest).zip rest).flatMap fun pair => pair.1.gap pair.2 ++ pair.2.layout

/-- Two members that follow each other have the gap between them that their kinds ask for. -/
theorem layoutAll_cons_cons (a b : Member) (rest : List Member) :
    layoutAll (a :: b :: rest) = a.layout ++ a.gap b ++ layoutAll (b :: rest) := by
  have hgap : (if a.isData && b.isData then [] else [.blank]) = a.gap b := by
    simp only [Bool.and_eq_true, isData_iff, gap]
  rw [layoutAll, layoutAfter, layoutAll, hgap, List.append_assoc, List.append_assoc]

/-- The layout of members, which remembers whether the last one held data, is each member with the
gap to the next one. -/
theorem layoutAll_eq_separated (members : List Member) : layoutAll members = separated members := by
  cases members with
  | nil => rfl
  | cons a rest =>
    induction rest generalizing a with
    | nil => simp [layoutAll, layoutAfter, separated]
    | cons b rest ih =>
      rw [layoutAll_cons_cons, ih b]
      simp [separated]

/-- Every member has something to lay out. -/
theorem layoutAll_eq_nil_iff (members : List Member) : layoutAll members = [] ↔ members = [] := by
  cases members with
  | nil => simp [layoutAll]
  | cons m rest => simp [layoutAll, layout_ne_nil]

/-- Members are well spaced, since gaps stand only between members and members are not empty. -/
theorem layoutAll_wellSpaced (members : List Member) : Layout.WellSpaced (layoutAll members) := by
  cases members with
  | nil => exact .of_notMem (by simp [layoutAll])
  | cons a rest =>
    induction rest generalizing a with
    | nil =>
      rw [layoutAll, layoutAfter, List.append_nil]
      exact .of_notMem a.blank_notMem_layout
    | cons b rest ih =>
      have ha := Layout.WellSpaced.of_notMem a.blank_notMem_layout
      rw [layoutAll_cons_cons, gap]
      by_cases hclose : a.kind ∈ [DeclarationKind.fieldDecl, .propertyDecl] ∧
          b.kind ∈ [DeclarationKind.fieldDecl, .propertyDecl]
      · rw [if_pos hclose, List.append_nil]
        exact ha.append (ih b)
      · rw [if_neg hclose, List.append_assoc]
        exact ha.append_blank (ih b) a.layout_ne_nil (by simp [layoutAll_eq_nil_iff])

end Member

/-! ## The contents of blocks -/

/-- What the body of a block consists of. -/
inductive BlockContent where
  | code (usings : List Using) (members : List Member)
  | enumMembers (members : List EnumMember)
deriving Repr, DecidableEq

/-- The layout of a content. A blank line stands between using-directives and members if there are
both, and every member of an enum but the last has a comma behind its line. -/
def BlockContent.layout : BlockContent → List Layout
  | .code usings members =>
    let gap := if usings = [] ∨ members = [] then [] else [Layout.blank]
    usings.map (fun u => .line u.print) ++ gap ++ Member.separated members
  | .enumMembers members =>
    members.dropLast.flatMap
        (fun m => AttributeList.layout m.attributes ++ [.line (m.print ++ ",")]) ++
      members.getLast?.toList.flatMap EnumMember.layout

/-- What stands in the braces of a type or a namespace is its directives, a blank line and its
members. -/
theorem bodyLayout_eq (usings : List Using) (members : List Member) :
    bodyLayout usings (Member.layoutAll members) = (BlockContent.code usings members).layout := by
  rw [BlockContent.layout, ← Member.layoutAll_eq_separated, bodyLayout]
  simp only [Bool.or_eq_true, List.isEmpty_iff, Member.layoutAll_eq_nil_iff]
  by_cases hempty : usings = [] ∨ members = []
  · rw [if_pos hempty, if_pos hempty, List.append_nil]
  · rw [if_neg hempty, if_neg hempty, List.append_assoc, List.singleton_append]

/-- Members of an enum are laid out one by one, with a comma behind each but the last. -/
theorem EnumMember.layoutAll_eq (members : List EnumMember) :
    layoutAll members = (BlockContent.enumMembers members).layout := by
  cases members with
  | nil => rfl
  | cons m rest =>
    induction rest generalizing m with
    | nil => simp [layoutAll, BlockContent.layout]
    | cons next rest ih =>
      rw [layoutAll, ih next]
      simp [BlockContent.layout]

/-- A member of an enum is laid out as lines, none of them blank. -/
theorem EnumMember.blank_notMem_layout (m : EnumMember) : Layout.blank ∉ m.layout := by
  simp [layout, AttributeList.blank_notMem_layout]

/-- Blank lines only separate in the body of a block. -/
theorem BlockContent.layout_wellSpaced (content : BlockContent) :
    Layout.WellSpaced content.layout := by
  cases content with
  | code usings members =>
    have husings : Layout.WellSpaced (usings.map fun u => .line u.print) :=
      .of_notMem (by simp)
    have hmembers := Member.layoutAll_wellSpaced members
    rw [layout, ← Member.layoutAll_eq_separated]
    by_cases hempty : usings = [] ∨ members = []
    · rw [if_pos hempty, List.append_nil]
      exact husings.append hmembers
    · rw [if_neg hempty, List.append_assoc]
      rw [not_or] at hempty
      refine husings.append_blank hmembers ?_ ?_
      · simpa using hempty.1
      · simpa [Member.layoutAll_eq_nil_iff] using hempty.2
  | enumMembers members =>
    apply Layout.WellSpaced.of_notMem
    simp [layout, AttributeList.blank_notMem_layout, EnumMember.blank_notMem_layout]

/-- The content of the block that a method may have. -/
def MethodDecl.contents (d : MethodDecl) : List BlockContent :=
  match d.body with
  | .none => []
  | .block => [.code [] []]
  | .expression _ => []

mutual

/-- The contents of all blocks of a member, at any depth, in the order they open. -/
def Member.contents : Member → List BlockContent
  | .namespaceDecl _ usings members => .code usings members :: Member.contentsAll members
  | .typeDecl _ _ members => .code [] members :: Member.contentsAll members
  | .enumDecl decl => [.enumMembers decl.members]
  | .fieldDecl _ => []
  | .propertyDecl _ => []
  | .methodDecl decl => decl.contents

/-- The contents of all blocks of members in order. -/
def Member.contentsAll : List Member → List BlockContent
  | [] => []
  | m :: rest => m.contents ++ Member.contentsAll rest

end

/-- A member of an enum holds no blocks. -/
theorem EnumMember.bodiesAll_layout (m : EnumMember) : Layout.bodiesAll m.layout = [] :=
  AttributeList.bodiesAll_layout_append m.attributes [.line m.print]

/-- The members of an enum have no blocks. -/
theorem EnumMember.bodiesAll_layoutAll (members : List EnumMember) :
    Layout.bodiesAll (layoutAll members) = [] := by
  cases members with
  | nil => rfl
  | cons m rest =>
    induction rest generalizing m with
    | nil => exact m.bodiesAll_layout
    | cons next rest ih =>
      rw [layoutAll, AttributeList.bodiesAll_layout_append, Layout.bodiesAll, ih next]
      rfl

/-- An enum has one block, which holds its members. -/
theorem EnumDecl.bodiesAll_layout (d : EnumDecl) :
    Layout.bodiesAll d.layout = [(BlockContent.enumMembers d.members).layout] := by
  rw [layout, AttributeList.bodiesAll_layout_append, Layout.bodiesAll_braced,
    EnumMember.bodiesAll_layoutAll, EnumMember.layoutAll_eq]

/-- Directives add no blocks to those of the members. -/
theorem bodiesAll_bodyLayout (usings : List Using) (parts : List Layout) :
    Layout.bodiesAll (bodyLayout usings parts) = Layout.bodiesAll parts := by
  have husings := Layout.bodiesAll_map_line Using.print usings
  unfold bodyLayout
  dsimp only
  split
  · rw [Layout.bodiesAll_append, husings, List.nil_append]
  · rw [Layout.bodiesAll_append, husings, List.nil_append, Layout.bodiesAll, Layout.bodies,
      List.nil_append]

/-- A method has a block if its body is one, and there is nothing in it. -/
theorem MethodDecl.bodiesAll_layout (d : MethodDecl) :
    Layout.bodiesAll d.layout = d.contents.map BlockContent.layout := by
  rw [layout, AttributeList.bodiesAll_layout_append, contents]
  cases d.body with
  | none => rfl
  | block => rfl
  | expression value => rfl

/-- Gaps hold no blocks. -/
theorem Member.bodiesAll_gap (a b : Member) : Layout.bodiesAll (a.gap b) = [] := by
  unfold gap
  dsimp only
  split
  · rfl
  · rfl

mutual

/-- The blocks in the layout of a member are those of its contents. -/
theorem Member.bodiesAll_layout (m : Member) :
    Layout.bodiesAll m.layout = m.contents.map BlockContent.layout := by
  match m with
  | .namespaceDecl name usings members =>
    rw [Member.layout, Layout.bodiesAll_braced, bodiesAll_bodyLayout,
      Member.bodiesAll_layoutAll members, bodyLayout_eq, Member.contents, List.map_cons]
  | .typeDecl keyword header members =>
    have hbody : Member.layoutAll members = (BlockContent.code [] members).layout :=
      bodyLayout_eq [] members
    rw [Member.layout, AttributeList.bodiesAll_layout_append, Layout.bodiesAll_braced,
      Member.bodiesAll_layoutAll members, hbody, Member.contents, List.map_cons]
  | .enumDecl decl => exact decl.bodiesAll_layout
  | .fieldDecl decl =>
    exact AttributeList.bodiesAll_layout_append decl.attributes [.line decl.print]
  | .propertyDecl decl =>
    exact AttributeList.bodiesAll_layout_append decl.attributes [.line decl.print]
  | .methodDecl decl => exact decl.bodiesAll_layout

/-- The blocks of several members are those of each, in the order of the members. -/
theorem Member.bodiesAll_layoutAll (members : List Member) :
    Layout.bodiesAll (Member.layoutAll members) =
      (Member.contentsAll members).map BlockContent.layout := by
  match members with
  | [] => rfl
  | [a] =>
    rw [layoutAll, layoutAfter, List.append_nil, a.bodiesAll_layout, contentsAll, contentsAll,
      List.append_nil]
  | a :: b :: rest =>
    have hcontents : contentsAll (a :: b :: rest) = a.contents ++ contentsAll (b :: rest) := rfl
    rw [layoutAll_cons_cons, Layout.bodiesAll_append, Layout.bodiesAll_append, bodiesAll_gap,
      List.append_nil, a.bodiesAll_layout, Member.bodiesAll_layoutAll (b :: rest), hcontents,
      List.map_append]

end

/-! ## Nodes -/

namespace Node

/-- The contents of all blocks of a node. -/
def contents : Node → List BlockContent
  | .unit d => Member.contentsAll d.members
  | node => (node.toMember?.map Member.contents).getD []

/-- A node that has a layout is a unit, stands in an enum, or can be a member. -/
theorem layout?_cases {node : Node} {parts : List Layout} (h : node.layout? = some parts) :
    (∃ d, node = .unit d ∧ parts = d.layout) ∨
      (∃ m, node = .enumMember m ∧ parts = m.layout) ∨
        ∃ m, node.toMember? = some m ∧ parts = m.layout ∧ node.contents = m.contents := by
  match node with
  | .attribute _ | .attributeList _ | .usingDirective _ => exact absurd h (by simp [layout?])
  | .unit d => exact .inl ⟨d, rfl, (Option.some.inj h).symm⟩
  | .enumMember m => exact .inr (.inl ⟨m, rfl, (Option.some.inj h).symm⟩)
  | .type _ | .enumDecl _ | .field _ | .property _ | .method _ | .namespaceDecl _ =>
    exact .inr (.inr ⟨_, rfl, (Option.some.inj h).symm, rfl⟩)

end Node

/-- The bodies of the blocks of a node are those of its contents. -/
theorem Node.bodiesAll_eq {node : Node} {parts : List Layout} (h : node.layout? = some parts) :
    Layout.bodiesAll parts = node.contents.map BlockContent.layout := by
  rcases layout?_cases h with ⟨d, rfl, rfl⟩ | ⟨m, rfl, rfl⟩ | ⟨m, -, rfl, hcontents⟩
  · rw [CompilationUnit.layout, bodiesAll_bodyLayout]
    exact Member.bodiesAll_layoutAll d.members
  · exact m.bodiesAll_layout
  · rw [hcontents]
    exact m.bodiesAll_layout

/-- Every node that is a declaration is well spaced on the outside. -/
theorem Node.wellSpaced {node : Node} {parts : List Layout} (h : node.layout? = some parts) :
    Layout.WellSpaced parts := by
  rcases layout?_cases h with ⟨d, rfl, rfl⟩ | ⟨m, rfl, rfl⟩ | ⟨m, -, rfl, -⟩
  · rw [CompilationUnit.layout, bodyLayout_eq]
    exact BlockContent.layout_wellSpaced _
  · exact .of_notMem m.blank_notMem_layout
  · exact .of_notMem m.blank_notMem_layout

/-- Blank lines separate and never pile up. In the layout of a node and in the body of every block
in it none is first or last and no two follow each other. The bodies are those of the contents of
the node with their separators, and a unit is itself such a content; the members that are separated
have no blank lines of their own. -/
theorem blank_lines_separate {node : Node} {parts : List Layout} (h : node.layout? = some parts) :
    (∀ list ∈ parts :: Layout.bodiesAll parts, Layout.WellSpaced list) ∧
      Layout.bodiesAll parts = node.contents.map BlockContent.layout ∧
      (∀ d, node = .unit d → parts = (BlockContent.code d.usings d.members).layout) ∧
      ∀ m : Member, m.layout ≠ [] ∧ Layout.blank ∉ m.layout := by
  refine ⟨?_, Node.bodiesAll_eq h, ?_, fun m => ⟨m.layout_ne_nil, m.blank_notMem_layout⟩⟩
  · intro list hlist
    rcases List.mem_cons.mp hlist with rfl | hbody
    · exact Node.wellSpaced h
    · rw [Node.bodiesAll_eq h] at hbody
      obtain ⟨content, -, rfl⟩ := List.mem_map.mp hbody
      exact content.layout_wellSpaced
  · rintro d rfl
    rw [← bodyLayout_eq]
    exact (Option.some.inj h).symm

/-- A unit with a directive and a namespace, in which a class with two fields and a method stands
before an enum. -/
def spacedSample : CompilationUnit where
  usings := [{ name := .identifier "System" }]
  members := [.namespaceDecl (.identifier "N") [] [
    .typeDecl .classType { identifier := "C" } [
      .fieldDecl { type := .predefined .int, declarators := [{ identifier := "a" }] },
      .fieldDecl { type := .predefined .int, declarators := [{ identifier := "b" }] },
      .methodDecl { returns := .predefined .void, identifier := "F", body := .block }],
    .enumDecl { identifier := "E", members := [{ identifier := "X" }, { identifier := "Y" }] }]]

/-- A unit with a directive, a namespace, data and methods. -/
theorem blank_lines_separate_sample :
    (Node.unit spacedSample).layout? = some spacedSample.layout ∧
      (∀ list ∈ spacedSample.layout :: Layout.bodiesAll spacedSample.layout,
        Layout.WellSpaced list) ∧
      Layout.bodiesAll spacedSample.layout =
        (Node.unit spacedSample).contents.map BlockContent.layout := by
  have hlayout : (Node.unit spacedSample).layout? = some spacedSample.layout := rfl
  obtain ⟨hspaced, hbodies, -⟩ := blank_lines_separate hlayout
  exact ⟨hlayout, hspaced, hbodies⟩

/-- The unit as it is written. -/
example : spacedSample.print =
    "using System;\n\nnamespace N\n\x7b\n" ++
      "    class C\n    \x7b\n        int a;\n        int b;\n\n" ++
      "        void F()\n        \x7b\n        \x7d\n    \x7d\n\n" ++
      "    enum E\n    \x7b\n        X,\n        Y\n    \x7d\n\x7d\n" := by
  decide +kernel

end DeclScribe
