import DeclScribe.Proofs.Manifest.Agreement

/-!
# Names and the identifiers they denote

A name may be marked with an `@`, which is not part of the identifier that the name denotes. Names
that stand side by side in a valid manifest differ as they are spelled. They denote different
identifiers too unless one of them is the other one with the mark.
-/

set_option autoImplicit false

namespace DeclScribe

/-! ## The identifier of a name -/

/-- The identifier that a name denotes: the name without its mark. -/
def identifierOf (name : String) : String :=
  match name.toList with
  | '@' :: rest => String.ofList rest
  | _ => name

/-- A name is the identifier it denotes, or that identifier with the mark. -/
theorem identifierOf_eq_or (name : String) :
    identifierOf name = name ∨ name = "@" ++ identifierOf name := by
  unfold identifierOf
  split
  · rename_i rest hname
    refine .inr (String.toList_inj.mp ?_)
    simp [hname]
  · exact .inl rfl

/-- The mark in front of a name is not part of the identifier. -/
theorem identifierOf_marked (name : String) : identifierOf ("@" ++ name) = name := by
  have hmarked : ("@" ++ name).toList = '@' :: name.toList := by simp
  unfold identifierOf
  rw [hmarked]
  exact String.ofList_toList

/-- What is left of a marked identifier has no mark. -/
theorem IsDeclarable.identifierOf_eq {name : String} (h : IsDeclarable ("@" ++ name)) :
    identifierOf name = name := by
  obtain ⟨⟨mark, c, rest, htext, hmark, hstart, -⟩, -⟩ := h
  have hc : c ≠ '@' := by
    rintro rfl
    exact absurd hstart (by decide)
  have hmarked : '@' :: name.toList = mark ++ c :: rest := by
    rw [← htext]
    simp
  obtain rfl | rfl := hmark
  · exact absurd (List.cons.inj hmarked).1.symm hc
  · have hname : name.toList = c :: rest := (List.cons.inj hmarked).2
    unfold identifierOf
    rw [hname]
    split
    · rename_i hat
      exact absurd (List.cons.inj hat).1 hc
    · rfl

/-- Of two names that differ, both denote the same identifier only if one is the other one with
the mark. -/
theorem identifierOf_eq_iff {a b : String} (ha : IsDeclarable a) (hb : IsDeclarable b)
    (hne : a ≠ b) : identifierOf a = identifierOf b ↔ a = "@" ++ b ∨ b = "@" ++ a := by
  constructor
  · intro h
    obtain hplain | hmarked := identifierOf_eq_or a
    · obtain hplain' | hmarked' := identifierOf_eq_or b
      · exact absurd (hplain.symm.trans (h.trans hplain')) hne
      · exact .inr (by rw [hmarked', ← h, hplain])
    · obtain hplain' | hmarked' := identifierOf_eq_or b
      · exact .inl (by rw [hmarked, h, hplain'])
      · exact absurd (by rw [hmarked, h, ← hmarked']) hne
  · rintro (rfl | rfl)
    · rw [identifierOf_marked, ha.identifierOf_eq]
    · rw [identifierOf_marked, hb.identifierOf_eq]

namespace Manifest

/-! ## Names side by side -/

/-- What classes and interfaces declare: the names of their fields and properties, and methods. -/
structure TypeBody where
  dataNames : List String
  methods : List MethodEntry

/-- A class declares fields and properties, and methods. -/
def ClassEntry.typeBody (entry : ClassEntry) : TypeBody where
  dataNames := entry.fields.map (·.name) ++ entry.properties.map (·.name)
  methods := entry.methods

/-- An interface has no fields, so its data are its properties. -/
def InterfaceEntry.typeBody (entry : InterfaceEntry) : TypeBody where
  dataNames := entry.properties.map (·.name)
  methods := entry.methods

/-- The bodies of all classes and interfaces. -/
def typeBodies (manifest : Manifest) : List TypeBody :=
  manifest.classes.map ClassEntry.typeBody ++ manifest.interfaces.map InterfaceEntry.typeBody

/-- Names of which no two may be the same: those of two types, of two fields or properties of one
type, of a method and a field or property of one type, of two members of one enum, and of two
parameters of one method. -/
inductive Rivals (manifest : Manifest) (a b : String) : Prop
  | types (h : [a, b].Sublist manifest.typeNames)
  | data {body : TypeBody} (hbody : body ∈ manifest.typeBodies) (h : [a, b].Sublist body.dataNames)
  | member {body : TypeBody} {method : MethodEntry} (hbody : body ∈ manifest.typeBodies)
      (hdata : a ∈ body.dataNames) (hmethod : method ∈ body.methods) (hname : method.name = b)
  | enumMembers {entry : EnumEntry} (hentry : entry ∈ manifest.enums)
      (h : [a, b].Sublist (entry.members.map (·.name)))
  | parameters {body : TypeBody} {method : MethodEntry} (hbody : body ∈ manifest.typeBodies)
      (hmethod : method ∈ body.methods) (h : [a, b].Sublist (method.parameters.map (·.name)))

/-! ## Well-formed bodies -/

/-- What the rules of a manifest say of the names in a class or interface. -/
structure TypeBody.WellFormed (body : TypeBody) : Prop where
  names : ∀ name ∈ body.dataNames, IsDeclarable name
  methods : ∀ method ∈ body.methods, method.WellFormed
  distinct : body.dataNames.Nodup
  apart : ∀ method ∈ body.methods, method.name ∉ body.dataNames

/-- A class that follows the rules has a body that follows them. -/
theorem ClassEntry.WellFormed.typeBody {entry : ClassEntry} (h : entry.WellFormed) :
    entry.typeBody.WellFormed := by
  refine ⟨?_, h.body.methods, h.body.distinct, h.body.apart⟩
  intro name hname
  rw [ClassEntry.typeBody, List.mem_append, List.mem_map, List.mem_map] at hname
  obtain ⟨field, hfield, rfl⟩ | ⟨property, hproperty, rfl⟩ := hname
  · exact (h.fields field hfield).name
  · exact (h.body.properties property hproperty).name

/-- So has an interface. -/
theorem InterfaceEntry.WellFormed.typeBody {entry : InterfaceEntry} (h : entry.WellFormed) :
    entry.typeBody.WellFormed := by
  refine ⟨?_, h.body.methods, h.body.distinct, h.body.apart⟩
  intro name hname
  obtain ⟨property, hproperty, rfl⟩ := List.mem_map.mp hname
  exact (h.body.properties property hproperty).name

variable {manifest : Manifest} {a b : String}

/-- Two names in different places of a list without repetitions differ. -/
theorem ne_of_sublist {names : List String} (h : names.Nodup) (hpair : [a, b].Sublist names) :
    a ≠ b := by
  rintro rfl
  exact List.nodup_iff_sublist.mp h a hpair

/-- Two names in different places of a list of declarable names are declarable. -/
theorem isDeclarable_of_sublist {names : List String} (h : ∀ name ∈ names, IsDeclarable name)
    (hpair : [a, b].Sublist names) : IsDeclarable a ∧ IsDeclarable b :=
  ⟨h a (hpair.subset (by simp)), h b (hpair.subset (by simp))⟩

namespace WellFormed

/-- The bodies of a well-formed manifest follow the rules, in classes and in interfaces. -/
theorem typeBodies (h : manifest.WellFormed) : ∀ body ∈ manifest.typeBodies, body.WellFormed := by
  intro body hbody
  rw [Manifest.typeBodies, List.mem_append, List.mem_map, List.mem_map] at hbody
  obtain ⟨entry, hentry, rfl⟩ | ⟨entry, hentry, rfl⟩ := hbody
  · exact (h.classes entry hentry).typeBody
  · exact (h.interfaces entry hentry).typeBody

/-- The types of a well-formed manifest have declarable names. -/
theorem isDeclarable_typeNames (h : manifest.WellFormed) :
    ∀ name ∈ manifest.typeNames, IsDeclarable name := by
  intro name hname
  rw [typeNames, List.mem_append, List.mem_append, List.mem_map, List.mem_map,
    List.mem_map] at hname
  obtain (⟨entry, hentry, rfl⟩ | ⟨entry, hentry, rfl⟩) | ⟨entry, hentry, rfl⟩ := hname
  · exact (h.classes entry hentry).name
  · exact (h.interfaces entry hentry).name
  · exact (h.enums entry hentry).name

/-- Names side by side are spelled differently. -/
theorem ne_of_rivals (h : manifest.WellFormed) (hrivals : manifest.Rivals a b) : a ≠ b := by
  cases hrivals with
  | types hpair => exact ne_of_sublist h.distinct hpair
  | data hbody hpair => exact ne_of_sublist (h.typeBodies _ hbody).distinct hpair
  | member hbody hdata hmethod hname =>
    rintro rfl
    exact (h.typeBodies _ hbody).apart _ hmethod (hname ▸ hdata)
  | enumMembers hentry hpair => exact ne_of_sublist (h.enums _ hentry).distinct hpair
  | parameters hbody hmethod hpair =>
    exact ne_of_sublist ((h.typeBodies _ hbody).methods _ hmethod).distinct hpair

/-- Names side by side are declarable, whatever they are names of. -/
theorem isDeclarable_of_rivals (h : manifest.WellFormed) (hrivals : manifest.Rivals a b) :
    IsDeclarable a ∧ IsDeclarable b := by
  cases hrivals with
  | types hpair => exact isDeclarable_of_sublist h.isDeclarable_typeNames hpair
  | data hbody hpair => exact isDeclarable_of_sublist (h.typeBodies _ hbody).names hpair
  | member hbody hdata hmethod hname =>
    have hright := h.typeBodies _ hbody
    exact ⟨hright.names a hdata, hname ▸ (hright.methods _ hmethod).name⟩
  | @enumMembers entry hentry hpair =>
    obtain ⟨least, greatest, -, hmembers⟩ := (h.enums entry hentry).members
    refine isDeclarable_of_sublist ?_ hpair
    rw [List.forall_mem_map]
    exact fun member hmember => (hmembers member hmember).name
  | @parameters body method hbody hmethod hpair =>
    have hparameters := ((h.typeBodies body hbody).methods method hmethod).parameters
    refine isDeclarable_of_sublist ?_ hpair
    rw [List.forall_mem_map]
    exact fun parameter hparameter => (hparameters parameter hparameter).name

end WellFormed

/-- Names side by side in a manifest that passes validation are spelled differently, and two of them
denote the same identifier exactly when one is the other one with the mark. -/
theorem rivals_denote_iff {manifest : Manifest} {scope : Scope}
    (h : manifest.validate scope = .ok ()) :
    ∀ a b, manifest.Rivals a b →
      a ≠ b ∧ (identifierOf a = identifierOf b ↔ a = "@" ++ b ∨ b = "@" ++ a) := by
  have hwf := wellFormed_of_validate h
  intro a b hrivals
  have hne := hwf.ne_of_rivals hrivals
  obtain ⟨ha, hb⟩ := hwf.isDeclarable_of_rivals hrivals
  exact ⟨hne, identifierOf_eq_iff ha hb hne⟩

/-- A property and a method of the sample are side by side. -/
theorem rivals_denote_iff_sample :
    sample.validate (.ofSource "" "") = .ok () ∧ sample.Rivals "X" "Move" ∧
      "X" ≠ "Move" ∧ (identifierOf "X" = identifierOf "Move" ↔ "X" = "@" ++ "Move" ∨
        "Move" = "@" ++ "X") := by
  have hrivals : sample.Rivals "X" "Move" :=
    .member List.mem_cons_self (by decide) List.mem_cons_self rfl
  exact ⟨validate_sample, hrivals, rivals_denote_iff validate_sample "X" "Move" hrivals⟩

/-- Two classes whose names differ in the mark only. -/
def markedSample : Manifest where
  classes := [{ name := "@Foo" }, { name := "Foo" }]

/-- Validation lets two types pass that denote the same identifier. -/
theorem markedSample_denote_same :
    markedSample.validate (.ofSource "" "") = .ok () ∧ markedSample.Rivals "@Foo" "Foo" ∧
      identifierOf "@Foo" = identifierOf "Foo" :=
  ⟨by decide +kernel, .types (.refl _), by decide⟩

end Manifest

end DeclScribe
