import DeclScribe.Proofs.Declaration.Slots
import Mathlib.Data.List.DropRight

/-!
# Runs of edits

A run of edits acts slot by slot: what a slot holds in the end is the last content put in its place,
or what it held at first, with everything appended since, and the edits of other slots have no say
in it. Edits that are refused leave the node as it is, and which ones are refused does not depend on
the edits before them. So edits of different slots can be interleaved in any way.
-/

set_option autoImplicit false

namespace DeclScribe

variable {slot : Slot}

/-! ## What changes of one slot come to -/

namespace Change

/-- The content that a change puts in the place of another one. -/
def replacement? : Change slot → Option slot.Content
  | .replace content => some content
  | .add _ => none

/-- The items that a change appends. -/
def items? : Change slot → Option (List slot.Item)
  | .replace _ => none
  | .add items => some items

/-- The last content that was put in place of another one, or the content at the start. -/
def lastReplacement (changes : List (Change slot)) (start : slot.Content) : slot.Content :=
  (changes.filterMap replacement?).getLast?.getD start

/-- What was appended behind the last replacement, addition by addition. -/
def laterItems (changes : List (Change slot)) : List (List slot.Item) :=
  (changes.rtakeWhile fun change => change.items?.isSome).filterMap items?

/-- What a slot holds behind changes: the last replacement, and all that was appended since. The
cases are split because appending no items still creates an argument list that is missing. -/
def outcome (changes : List (Change slot)) (start : slot.Content) : slot.Content :=
  if laterItems changes = [] then lastReplacement changes start
  else slot.append (lastReplacement changes start) (laterItems changes).flatten

variable (changes : List (Change slot)) (start content : slot.Content) (items : List slot.Item)

/-- A replacement at the end is the last one. -/
theorem lastReplacement_concat_replace :
    lastReplacement (changes ++ [.replace content]) start = content := by
  simp [lastReplacement, replacement?]

/-- An addition at the end leaves the last replacement what it was. -/
theorem lastReplacement_concat_add :
    lastReplacement (changes ++ [.add items]) start = lastReplacement changes start := by
  simp [lastReplacement, replacement?]

/-- Nothing has been appended since a replacement at the end. -/
theorem laterItems_concat_replace : laterItems (changes ++ [.replace content]) = [] := by
  rw [laterItems, List.rtakeWhile_concat_neg _ _ _ (by simp [items?]), List.filterMap_nil]

/-- An addition at the end is appended behind the ones before it. -/
theorem laterItems_concat_add :
    laterItems (changes ++ [.add items]) = laterItems changes ++ [items] := by
  rw [laterItems, List.rtakeWhile_concat_pos _ _ _ (by simp [items?]), List.filterMap_append]
  rfl

/-- One more change is made of what the changes before it come to. -/
theorem outcome_concat (change : Change slot) :
    outcome (changes ++ [change]) start = change.apply (outcome changes start) := by
  cases change with
  | replace content =>
    rw [outcome, laterItems_concat_replace, if_pos rfl, lastReplacement_concat_replace]
    rfl
  | add items =>
    rw [outcome, laterItems_concat_add, if_neg (by simp), lastReplacement_concat_add, apply,
      outcome]
    split_ifs with hnone
    · rw [hnone, List.nil_append, List.flatten_singleton]
    · rw [Slot.append_append, List.flatten_append, List.flatten_singleton]

/-- What a slot holds behind a change, if there is one. -/
def applyIfAny (change : Option (Change slot)) (content : slot.Content) : slot.Content :=
  change.elim content fun change => change.apply content

/-- No change leaves what is held as it is. -/
theorem map_applyIfAny_none (held : Option slot.Content) :
    held.map (applyIfAny none) = held := by
  cases held <;> rfl

/-- One more change, or none, is made of what the changes before it come to. -/
theorem outcome_append_toList (change : Option (Change slot)) :
    outcome (changes ++ change.toList) start = applyIfAny change (outcome changes start) := by
  cases change with
  | none => rw [Option.toList_none, List.append_nil]; rfl
  | some change => exact outcome_concat changes start change

end Change

/-- What an edit does to a slot, if it addresses the slot and its texts parse. -/
def Edit.changeOf? (edit : Edit) (slot : Slot) : Option (Change slot) :=
  if h : edit.slot = slot then h ▸ edit.change.toOption else none

/-- An edit changes the slot that it addresses, if its texts parse. -/
theorem Edit.changeOf?_self (edit : Edit) :
    edit.changeOf? edit.slot = edit.change.toOption := by
  simp [changeOf?]

/-- An edit changes no slot but the one it addresses. -/
theorem Edit.changeOf?_of_ne {edit : Edit} (h : edit.slot ≠ slot) : edit.changeOf? slot = none :=
  dif_neg h

/-- No edit makes a class of an interface or the other way round. -/
theorem Edit.slot_ne_keyword (edit : Edit) : edit.slot ≠ .keyword := by
  cases edit <;> simp [slot]

/-! ## Single edits -/

namespace Node

variable (node : Node) (edit : Edit) (edits : List Edit)

/-- Whether a node has the slot that an edit addresses, and lets the edit change it. -/
def takes : Bool :=
  (node.addressed? edit).isSome

/-- The node behind an edit. A refused edit leaves it as it is. -/
def step : Node :=
  match node.apply edit with
  | .ok changed => changed
  | .error _ => node

/-- The node behind edits, one after the other. -/
def run : Node :=
  edits.foldl step node

/-- The change that an edit makes to a slot, unless it is refused or addresses another one. -/
def changeOf? (slot : Slot) : Option (Change slot) :=
  if node.takes edit then edit.changeOf? slot else none

/-- The changes that edits make to a slot, in order. -/
def changes (slot : Slot) : List (Change slot) :=
  edits.filterMap fun edit => node.changeOf? edit slot

variable {node edit edits}

/-- The slot that an edit reaches is one that the node has. -/
theorem focus_of_addressed? {focus : Focus edit.slot} (h : node.addressed? edit = some focus) :
    node.focus edit.slot = some focus := by
  cases edit
  case setMembers members | setIdentifier identifier =>
    simp only [addressed?] at h
    split_ifs at h
    exact h
  all_goals exact h

/-- An edit is refused, or changes the slot that it addresses. -/
theorem step_cases (node : Node) (edit : Edit) :
    (node.step edit = node ∧ (node.takes edit = false ∨ edit.change.toOption = none)) ∨
      ∃ focus change, node.takes edit = true ∧ node.focus edit.slot = some focus ∧
        edit.change = .ok change ∧ node.step edit = focus.put (change.apply focus.content) := by
  rw [step, apply_eq, takes]
  cases hfocus : node.addressed? edit with
  | none => exact Or.inl ⟨rfl, Or.inl rfl⟩
  | some focus =>
    cases hchange : edit.change with
    | error e => exact Or.inl ⟨rfl, Or.inr rfl⟩
    | ok change => exact Or.inr ⟨focus, change, rfl, focus_of_addressed? hfocus, rfl, rfl⟩

/-- An edit that is not refused changes the slot that it addresses. -/
theorem isOk_apply (node : Node) (edit : Edit) :
    (node.apply edit).isOk = (node.changeOf? edit edit.slot).isSome := by
  rw [apply_eq, changeOf?, takes, Edit.changeOf?_self]
  cases node.addressed? edit with
  | none => rfl
  | some focus => cases edit.change <;> rfl

/-- Behind an edit a slot holds what the edit makes of it, and any slot that is not addressed what
it held before. -/
theorem content?_step (node : Node) (edit : Edit) (slot : Slot) :
    (node.step edit).content? slot =
      (node.content? slot).map (Change.applyIfAny (node.changeOf? edit slot)) := by
  by_cases hslot : edit.slot = slot
  · subst hslot
    rw [changeOf?, Edit.changeOf?_self]
    obtain ⟨hsame, hrefused | hrefused⟩ | ⟨focus, change, htakes, hfocus, hchange, hstep⟩ :=
      node.step_cases edit
    · rw [hsame, if_neg (by simp [hrefused]), Change.map_applyIfAny_none]
    · rw [hsame, hrefused, ite_self, Change.map_applyIfAny_none]
    · rw [hstep, content?_put_self hfocus, content?, hfocus, if_pos htakes, hchange]
      rfl
  · have hkept : (node.step edit).content? slot = node.content? slot := by
      obtain ⟨hsame, -⟩ | ⟨focus, change, -, hfocus, -, hstep⟩ := node.step_cases edit
      · rw [hsame]
      · rw [hstep, content?_put_of_ne hfocus _ (Ne.symm hslot)]
    rw [hkept, changeOf?, Edit.changeOf?_of_ne hslot, ite_self, Change.map_applyIfAny_none]

/-- Whether a node is a class shows in one of its slots. -/
theorem isClass_iff : node.isClass = true ↔ node.content? .keyword = some .classType := by
  cases node <;> simp [isClass, content?, focus]

/-- Which edits a node takes shows in the slots that it has. -/
theorem takes_congr {a b : Node}
    (hslots : ∀ slot, (a.content? slot).isSome = (b.content? slot).isSome)
    (hkeyword : a.content? .keyword = b.content? .keyword) (edit : Edit) :
    a.takes edit = b.takes edit := by
  have hclass : a.isClass = b.isClass := by
    rw [Bool.eq_iff_iff, isClass_iff, isClass_iff, hkeyword]
  have hfocus : ∀ slot, (a.focus slot).isSome = (b.focus slot).isSome := by
    intro slot
    simpa [content?] using hslots slot
  cases edit
  case setMembers members | setIdentifier identifier =>
    simp only [takes, addressed?, hclass]
    split_ifs
    · exact hfocus _
    · rfl
  all_goals exact hfocus _

/-- An edit does not change which edits the node takes. -/
theorem takes_step (node : Node) (edit other : Edit) :
    (node.step edit).takes other = node.takes other := by
  refine takes_congr (fun slot => ?_) ?_ other
  · rw [content?_step, Option.isSome_map]
  · rw [content?_step, changeOf?, Edit.changeOf?_of_ne edit.slot_ne_keyword, ite_self,
      Change.map_applyIfAny_none]

/-! ## Runs -/

/-- The last edit of a run is made behind all others. -/
theorem run_concat (node : Node) (edits : List Edit) (edit : Edit) :
    node.run (edits ++ [edit]) = (node.run edits).step edit := by
  rw [run, List.foldl_append]
  rfl

/-- A run of edits does not change which edits the node takes. -/
theorem takes_run (node : Node) (edits : List Edit) (other : Edit) :
    (node.run edits).takes other = node.takes other := by
  induction edits using List.reverseRecOn with
  | nil => rfl
  | append_singleton edits edit ih => rw [run_concat, takes_step, ih]

/-- What an edit changes does not depend on the edits before it. -/
theorem changeOf?_run (node : Node) (edits : List Edit) (edit : Edit) (slot : Slot) :
    (node.run edits).changeOf? edit slot = node.changeOf? edit slot := by
  rw [changeOf?, takes_run, changeOf?]

/-- The changes of a slot are found in the edits one behind the other. -/
theorem changes_concat (node : Node) (edits : List Edit) (edit : Edit) (slot : Slot) :
    node.changes (edits ++ [edit]) slot =
      node.changes edits slot ++ (node.changeOf? edit slot).toList := by
  cases hchange : node.changeOf? edit slot <;> simp [changes, hchange]

/-- What a slot holds behind a run is what the changes of that slot come to. -/
theorem content?_run (node : Node) (edits : List Edit) (slot : Slot) :
    (node.run edits).content? slot =
      (node.content? slot).map (Change.outcome (node.changes edits slot)) := by
  induction edits using List.reverseRecOn with
  | nil => cases hheld : node.content? slot <;> exact hheld
  | append_singleton edits edit ih =>
    rw [run_concat, content?_step, ih, changeOf?_run, Option.map_map, changes_concat]
    refine congrArg (fun f => Option.map f _) (funext fun start => ?_)
    exact (Change.outcome_append_toList _ start _).symm

/-- Only the edits that address a slot change it. -/
theorem changes_filter (node : Node) (edits : List Edit) (slot : Slot) :
    node.changes (edits.filter fun edit => edit.slot = slot) slot = node.changes edits slot := by
  rw [changes, List.filterMap_filter, changes]
  refine congrArg (fun f => List.filterMap f edits) (funext fun edit => ?_)
  by_cases hslot : edit.slot = slot
  · rw [if_pos (by simpa using hslot)]
  · rw [if_neg (by simpa using hslot), changeOf?, Edit.changeOf?_of_ne hslot, ite_self]

/-- Edits act slot by slot. Whether one of them is refused does not depend on the ones before it. A
slot holds in the end what the edits addressing it come to: the last content that was put in, or the
one at the start, with all that was appended since. So runs that agree on the edits of each slot
come to the same node, however these are interleaved. -/
theorem run_acts_slot_by_slot (node : Node) (edits : List Edit) :
    (∀ edit : Edit, ((node.run edits).apply edit).isOk =
      (node.changeOf? edit edit.slot).isSome) ∧
      (∀ slot, (node.run edits).content? slot =
        (node.content? slot).map (Change.outcome (node.changes edits slot))) ∧
      ∀ others : List Edit,
        (∀ slot, others.filter (fun edit => edit.slot = slot) =
          edits.filter fun edit => edit.slot = slot) →
        node.run others = node.run edits := by
  refine ⟨fun edit => ?_, node.content?_run edits, fun others h => ?_⟩
  · rw [isOk_apply, changeOf?_run]
  · refine eq_of_content?_eq fun slot => ?_
    rw [content?_run, content?_run, ← changes_filter, h slot, changes_filter]

/-- A class with two attributes whose bases fail to parse at last, its edits in two orders. -/
theorem run_acts_slot_by_slot_sample :
    (Node.type ⟨.classType, { identifier := "Resource" }, []⟩).run
        [.setBases ["Entity"], .setBases ["List<"], .addAttribute { name := .identifier "A" },
          .addAttribute { name := .identifier "B" }, .setModifiers [.publicMod]] =
      (Node.type ⟨.classType, { identifier := "Resource" }, []⟩).run
        [.addAttribute { name := .identifier "A" }, .setModifiers [.publicMod],
          .setBases ["Entity"], .addAttribute { name := .identifier "B" },
          .setBases ["List<"]] := by
  refine (run_acts_slot_by_slot _ _).2.2 _ fun slot => ?_
  cases slot <;> rfl

end Node

end DeclScribe
