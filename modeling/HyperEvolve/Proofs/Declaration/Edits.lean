import HyperEvolve.Proofs.Declaration.RoundTrip
import HyperEvolve.Proofs.Document.Fields
import Mathlib.Data.List.Permutation
import Mathlib.Logic.Relation

/-!
# Edits that decoding does not see

What is read of an object depends on the fields that are known at its place, under any of their spellings,
and neither on the order of the fields nor on other ones. So decoding answers alike, with the same
declarations or with the same faults in the same order, when the fields of objects are permuted, unknown
fields are added or removed and the parts of triples are respelled, at any depth of a tree. A fault in a part
of a triple names the spelling that is there, and a respelled part is known by its letter only.
-/

namespace HyperEvolve

open Document

namespace Tree

/-! ## Places -/

/-- What is expected at a place of a declaration tree. -/
inductive Place where
  | program
  | declaration
  | body
  | rule
  | item
  | items
  | source
  | groups
  | group
  | text
  | count
  | tag
  | unknown
deriving DecidableEq

/-- A field of a node. Of its spellings the first that is present counts. -/
structure Slot where
  spellings : List String
  place : Place
deriving DecidableEq

def itemSlots : String → List Slot
  | "inline" => [⟨["value"], .group⟩]
  | "varRef" => [⟨["name"], .text⟩]
  | "ruleRef" => [⟨["name"], .text⟩]
  | _ => []

def bodySlots : String → List Slot
  | "triple" => [⟨["L", "left"], .item⟩, ⟨["I", "interface"], .item⟩, ⟨["R", "right"], .item⟩]
  | "sequence" => [⟨["items"], .items⟩]
  | _ => []

def ruleSlots (tag : String) : List Slot := bodySlots tag ++ itemSlots tag

def declarationSlots : String → List Slot
  | "array" => [⟨["name"], .text⟩, ⟨["value"], .groups⟩]
  | "rule" => [⟨["name"], .text⟩, ⟨["body"], .body⟩]
  | "state" => [⟨["name"], .text⟩, ⟨["source"], .source⟩, ⟨["rule"], .rule⟩, ⟨["count"], .count⟩]
  | _ => []

/-- A tag is a text. -/
def tag? : Document → Option Text
  | .text tag => some tag
  | _ => none

/-- The fields of a node: its tag, and those that go with the tag. -/
def nodeSlots (slots : String → List Slot) (fields : Fields) : List Slot :=
  ⟨["type"], .tag⟩ :: match (field? fields "type").map tag? with
    | some (some tag) => slots tag.toString
    | _ => []

theorem nodeSlots_of_tag {slots : String → List Slot} {fields : Fields} {tag : String}
    (h : field? fields "type" = some (ofString tag)) : nodeSlots slots fields = ⟨["type"], .tag⟩ :: slots tag := by
  simp only [nodeSlots, h, ofString, Option.map_some, tag?, Text.toString_ofString]

namespace Place

/-- The fields that are known of an object at the place. Only some places are those of nodes. -/
def slots : Place → Fields → List Slot
  | .declaration => nodeSlots declarationSlots
  | .body => nodeSlots bodySlots
  | .rule => nodeSlots ruleSlots
  | .item => nodeSlots itemSlots
  | _ => fun _ => []

/-- The place of a field of an object. -/
def field (p : Place) (fields : Fields) (name : Text) : Place :=
  ((p.slots fields).find? fun s => name ∈ s.spellings.map Text.ofString).elim .unknown Slot.place

/-- The place of a member of an array. -/
def element : Place → Place
  | .program => .declaration
  | .rule => .item
  | .items => .item
  | .source => .group
  | .groups => .group
  | .group => .text
  | _ => .unknown

/-- What is read at the place: of a tag its text, and nothing of an unknown field. -/
def Value : Place → Type
  | .program => List Declaration
  | .declaration => Declaration
  | .body => RuleBody
  | .rule => StateRule
  | .item => Item
  | .items => List Item
  | .source => Source
  | .groups => List Group
  | .group => Group
  | .text => String
  | .count => Option Nat
  | .tag => Option Text
  | .unknown => Unit

end Place

def Place.read : (p : Place) → Document → Checked p.Value
  | .program => declarations
  | .declaration => Tree.declaration
  | .body => Tree.body
  | .rule => stateRule
  | .item => Tree.item
  | .items => list Tree.item
  | .source => Tree.source
  | .groups => Tree.groups
  | .group => Tree.group
  | .text => string
  | .count => Tree.count
  | .tag => fun d => .ok (tag? d)
  | .unknown => fun _ => .ok ()

/-- The letter of a part of a triple that stands under its word; any other name stays. -/
def letter : String → String
  | "left" => "L"
  | "interface" => "I"
  | "right" => "R"
  | name => name

/-- One edit of a tree at a place, where spellings of one field are known apart by their images: under `letter`
all of them are one, and under `id` none is another. -/
inductive Edit (known : String → String) : Place → Document → Document → Prop
  /-- The fields of an object without repeated names in another order. -/
  | permute {p : Place} {fs fs' : Fields} : (fs.map Prod.fst).Nodup → fs.Perm fs' →
      Edit known p (.object fs) (.object fs')
  /-- A field more that is not known of the object. -/
  | insert {p : Place} {before after : Fields} {name : Text} (value : Document) :
      (∀ s ∈ p.slots (before ++ after), name ∉ s.spellings.map Text.ofString) →
      Edit known p (.object (before ++ after)) (.object (before ++ (name, value) :: after))
  /-- A field of the object, there under one spelling only, under another of its spellings. -/
  | respell {p : Place} {fs : Fields} {s : Slot} {old new : String} : s ∈ p.slots fs →
      old ∈ s.spellings → new ∈ s.spellings → known old = known new →
      (∀ name ∈ s.spellings, name ≠ old → Text.ofString name ∉ fs.map Prod.fst) →
      Edit known p (.object fs) (.object (respelled old new fs))
  /-- An edit of the value of a field. -/
  | field {p : Place} {before after : Fields} {name : Text} {d d' : Document} :
      Edit known (p.field (before ++ (name, d) :: after) name) d d' →
      Edit known p (.object (before ++ (name, d) :: after)) (.object (before ++ (name, d') :: after))
  /-- An edit of a member of an array. -/
  | element {p : Place} {before after : List Document} {d d' : Document} : Edit known p.element d d' →
      Edit known p (.array (before ++ d :: after)) (.array (before ++ d' :: after))

/-! ## Faults as they are known -/

/-- The step with its name as it is known. -/
def Step.renamed (known : String → String) : Step → Step
  | .index i => .index i
  | .field name => .field (known name)

def Fault.renamed (known : String → String) (f : Fault) : Fault := { f with path := f.path.map (Step.renamed known) }

/-- What was decoded, with the names on the way to every fault as they are known. -/
def Checked.renamed {α : Type} (known : String → String) : Checked α → Checked α
  | .ok a => .ok a
  | .error fs => .error (fs.map (Fault.renamed known))

namespace Checked

variable {α β : Type} {known : String → String}

@[simp] theorem renamed_id (r : Checked α) : r.renamed id = r := by
  have hstep : Step.renamed id = id := funext fun step => by cases step <;> rfl
  have hfault : Fault.renamed id = id := funext fun f => by simp [Fault.renamed, hstep]
  cases r <;> simp [renamed, hfault]

@[simp] theorem renamed_map (f : α → β) (r : Checked α) :
    renamed known (Except.map f r) = Except.map f (r.renamed known) := by
  cases r <;> rfl

@[simp] theorem renamed_under (step : Step) (r : Checked α) :
    (r.under step).renamed known = (r.renamed known).under (step.renamed known) := by
  cases r with
  | ok a => rfl
  | error fs => simp [renamed, under, Fault.renamed]

@[simp] theorem renamed_ap (f : Checked (α → β)) (r : Checked α) :
    (f.ap r).renamed known = (f.renamed known).ap (r.renamed known) := by
  cases f <;> cases r <;> simp [renamed, ap]

@[simp] theorem renamed_orElse (n m : String) (r r' : Checked α) :
    (orElse (n, r) (m, r')).renamed known = orElse (known n, r.renamed known) (known m, r'.renamed known) := by
  cases r with
  | ok a => rfl
  | error fs =>
      cases r' with
      | ok b => rfl
      | error gs =>
          simp only [orElse, renamed_ap, renamed_under]
          rfl

end Checked

/-! ## What a field gives -/

/-- Two objects have the same read under a name, as far as it is known. -/
def SameField {α : Type} (known : String → String) (fs fs' : Fields) (name : String) (read : Document → Checked α) :
    Prop :=
  (field? fs name).map (fun d => (read d).renamed known) = (field? fs' name).map fun d => (read d).renamed known

/-- The value of a field under its first spelling that is present, with that spelling. -/
def Slot.found (s : Slot) (fields : Fields) : Option (String × Document) :=
  s.spellings.foldr (fun (name : String) rest => ((field? fields name).map fun d => (name, d)).or rest) none

/-- What is read of a field, with its spelling, as far as they are known. -/
def Slot.view (known : String → String) (s : Slot) (fields : Fields) : Option (String × Checked s.place.Value) :=
  (s.found fields).map fun f => (known f.1, (s.place.read f.2).renamed known)

/-- Two objects have the same read at a field. -/
def Slot.Agrees (known : String → String) (s : Slot) (fs fs' : Fields) : Prop := s.view known fs = s.view known fs'

variable {known : String → String}

theorem Slot.agrees_of_spellings {s : Slot} {fs fs' : Fields}
    (h : ∀ name ∈ s.spellings, SameField known fs fs' name s.place.read) : s.Agrees known fs fs' := by
  obtain ⟨names, p⟩ := s
  induction names with
  | nil => rfl
  | cons name names ih =>
      have hrest : Slot.Agrees known ⟨names, p⟩ fs fs' := ih fun n hn => h n (List.mem_cons_of_mem _ hn)
      have hname : SameField known fs fs' name p.read := h name List.mem_cons_self
      have hview : ∀ fs, Slot.view known ⟨name :: names, p⟩ fs =
          (((field? fs name).map fun d => (p.read d).renamed known).map fun r => (known name, r)).or
            (Slot.view known ⟨names, p⟩ fs) := by
        intro fs
        rw [Slot.view, Slot.view, Slot.found, List.foldr_cons, Option.map_or, Option.map_map, Option.map_map]
        rfl
      rw [SameField] at hname
      rw [Slot.Agrees] at hrest ⊢
      rw [hview, hview, hname, hrest]

/-- A field that is present under one spelling only has its value from there. -/
theorem Slot.found_of_only {s : Slot} {fs : Fields} {name : String} (hname : name ∈ s.spellings)
    (h : ∀ n ∈ s.spellings, n ≠ name → field? fs n = none) :
    s.found fs = (field? fs name).map fun d => (name, d) := by
  obtain ⟨names, p⟩ := s
  -- Without the name among the spellings that are left, they give nothing.
  have hfound : Slot.found ⟨names, p⟩ fs = if name ∈ names then (field? fs name).map fun d => (name, d) else none := by
    clear hname
    induction names with
    | nil => rfl
    | cons n names ih =>
        have hrest := ih fun m hm => h m (List.mem_cons_of_mem _ hm)
        simp only [Slot.found, List.foldr_cons] at hrest ⊢
        rw [hrest]
        by_cases hn : n = name
        · subst hn
          rw [if_pos List.mem_cons_self]
          split <;> simp
        · simp [h n List.mem_cons_self hn, Ne.symm hn]
  rw [hfound, if_pos hname]

theorem Slot.Agrees.single {fs fs' : Fields} {name : String} {p : Place} (h : Slot.Agrees known ⟨[name], p⟩ fs fs') :
    SameField known fs fs' name p.read := by
  have hview : ∀ fs, ((Slot.view known ⟨[name], p⟩ fs).map fun r => r.2) =
      (field? fs name).map fun d => (p.read d).renamed known := by
    intro fs
    rw [Slot.view, Slot.found, List.foldr_cons, List.foldr_nil, Option.or_none, Option.map_map, Option.map_map]
    rfl
  rw [SameField, ← hview, ← hview, h]

/-! ## Decoding the fields of a node -/

section

variable {α : Type} {decode : Document → Checked α} {fs fs' : Fields} {name : String}

theorem field_congr (h : SameField known fs fs' name decode) :
    (field fs name decode).renamed known = (field fs' name decode).renamed known := by
  have hfield : ∀ fs, (field fs name decode).renamed known =
      (((field? fs name).map fun d => (decode d).renamed known).getD (Checked.fault .missing)).under
        (.field (known name)) := by
    intro fs
    rw [field]
    cases field? fs name with
    | none => exact Checked.renamed_under _ (Checked.fault .missing)
    | some d => exact Checked.renamed_under _ _
  rw [SameField] at h
  rw [hfield, hfield, h]

theorem optional_congr {default : α} (h : SameField known fs fs' name decode) :
    (optional fs name default decode).renamed known = (optional fs' name default decode).renamed known := by
  have hoptional : ∀ fs, (optional fs name default decode).renamed known =
      ((field? fs name).map fun d => (decode d).renamed known).elim (.ok default)
        (Checked.under (.field (known name))) := by
    intro fs
    rw [optional]
    cases field? fs name with
    | none => rfl
    | some d => exact Checked.renamed_under _ _
  rw [SameField] at h
  rw [hoptional, hoptional, h]

/-- A part of a triple is what is found of it, under the spelling where it is found. -/
theorem part_congr {word : String} (h : Slot.Agrees known ⟨[name, word], .item⟩ fs fs') :
    (part fs name word).renamed known = (part fs' name word).renamed known := by
  have hpart : ∀ fs, (part fs name word).renamed known =
      (Slot.view known ⟨[name, word], .item⟩ fs).elim ((Checked.fault .missing).under (.field (known name)))
        fun r => r.2.under (.field r.1) := by
    intro fs
    simp only [Slot.view, Slot.found, List.foldr_cons, List.foldr_nil, Option.or_none]
    cases hletter : field? fs name with
    | some d =>
        rw [part_of_letter hletter]
        exact Checked.renamed_under _ _
    | none =>
        cases hword : field? fs word with
        | some d =>
            rw [part_of_word hletter hword]
            exact Checked.renamed_under _ _
        | none =>
            rw [part, hletter, hword]
            exact Checked.renamed_under _ (Checked.fault .missing)
  rw [hpart, hpart, h]

end

variable {fs fs' : Fields} {tag : String}

theorem itemFields_congr {decode : Fields → Checked Item} (h : selectItem tag = some decode)
    (hs : ∀ s ∈ itemSlots tag, s.Agrees known fs fs') : (decode fs).renamed known = (decode fs').renamed known := by
  unfold selectItem at h
  split at h
  · cases h
    have hvalue : SameField known fs fs' "value" group := (hs ⟨["value"], .group⟩ (by decide)).single
    simp only [inlineItem, Checked.renamed_map, optional_congr hvalue]
  · cases h
    have hname : SameField known fs fs' "name" string := (hs ⟨["name"], .text⟩ (by decide)).single
    simp only [arrayRefItem, Checked.renamed_map, field_congr hname]
  · cases h
    have hname : SameField known fs fs' "name" string := (hs ⟨["name"], .text⟩ (by decide)).single
    simp only [ruleRefItem, Checked.renamed_map, field_congr hname]
  · cases h

theorem bodyFields_congr {decode : Fields → Checked RuleBody} (h : selectBody tag = some decode)
    (hs : ∀ s ∈ bodySlots tag, s.Agrees known fs fs') : (decode fs).renamed known = (decode fs').renamed known := by
  unfold selectBody at h
  split at h
  · cases h
    have hleft := part_congr (hs ⟨["L", "left"], .item⟩ (by decide))
    have hinterface := part_congr (hs ⟨["I", "interface"], .item⟩ (by decide))
    have hright := part_congr (hs ⟨["R", "right"], .item⟩ (by decide))
    simp only [tripleBody, Checked.renamed_ap, Checked.renamed_map, hleft, hinterface, hright]
  · cases h
    have hitems : SameField known fs fs' "items" (list item) := (hs ⟨["items"], .items⟩ (by decide)).single
    simp only [sequenceBody, Checked.renamed_map, optional_congr hitems]
  · cases h

theorem ruleFields_congr {decode : Fields → Checked StateRule} (h : selectRule tag = some decode)
    (hs : ∀ s ∈ ruleSlots tag, s.Agrees known fs fs') : (decode fs).renamed known = (decode fs').renamed known := by
  rw [ruleSlots, List.forall_mem_append] at hs
  unfold selectRule at h
  split at h
  · rename_i decodeBody hbody
    cases h
    simp only [Checked.renamed_map, bodyFields_congr hbody hs.1]
  · obtain ⟨decodeItem, hitem, rfl⟩ := Option.map_eq_some_iff.mp h
    simp only [Checked.renamed_map, itemFields_congr hitem hs.2]

theorem declarationFields_congr {decode : Fields → Checked Declaration} (h : selectDeclaration tag = some decode)
    (hs : ∀ s ∈ declarationSlots tag, s.Agrees known fs fs') :
    (decode fs).renamed known = (decode fs').renamed known := by
  unfold selectDeclaration at h
  split at h
  · cases h
    have hname : SameField known fs fs' "name" string := (hs ⟨["name"], .text⟩ (by decide)).single
    have hvalue : SameField known fs fs' "value" groups := (hs ⟨["value"], .groups⟩ (by decide)).single
    simp only [arrayDecl, Checked.renamed_ap, Checked.renamed_map, field_congr hname, optional_congr hvalue]
  · cases h
    have hname : SameField known fs fs' "name" string := (hs ⟨["name"], .text⟩ (by decide)).single
    have hbody : SameField known fs fs' "body" body := (hs ⟨["body"], .body⟩ (by decide)).single
    simp only [ruleDecl, Checked.renamed_ap, Checked.renamed_map, field_congr hname, field_congr hbody]
  · cases h
    have hname : SameField known fs fs' "name" string := (hs ⟨["name"], .text⟩ (by decide)).single
    have hsource : SameField known fs fs' "source" source := (hs ⟨["source"], .source⟩ (by decide)).single
    have hrule : SameField known fs fs' "rule" stateRule := (hs ⟨["rule"], .rule⟩ (by decide)).single
    have hcount : SameField known fs fs' "count" count := (hs ⟨["count"], .count⟩ (by decide)).single
    simp only [stateDecl, Checked.renamed_ap, Checked.renamed_map, field_congr hname, field_congr hsource,
      field_congr hrule, optional_congr hcount]
  · cases h

/-! ## Objects and arrays -/

/-- A tagged object with the tag that is read of it, if there is one. -/
theorem tagged_object {α : Type} (select : String → Option (Fields → Checked α)) (fs : Fields) :
    tagged select (.object fs) = match (field? fs "type").map tag? with
      | none => Checked.fault .tagNotFound
      | some none => Checked.fault .tagInvalid
      | some (some tag) => match select tag.toString with
        | some decode => (decode fs).under (.field tag.toString)
        | none => Checked.fault .tagInvalid := by
  rw [tagged]
  cases field? fs "type" with
  | none => rfl
  | some d => cases d <;> rfl

theorem tag_congr (h : Slot.Agrees known ⟨["type"], .tag⟩ fs fs') :
    (field? fs "type").map tag? = (field? fs' "type").map tag? := by
  have hview : ∀ fs, (field? fs "type").map tag? =
      ((field? fs "type").map fun d => (Place.tag.read d).renamed known).map fun r => r.toOption.join := by
    intro fs
    cases field? fs "type" <;> rfl
  exact (hview fs).trans ((congrArg _ h.single).trans (hview fs').symm)

theorem tagged_congr {α : Type} {select : String → Option (Fields → Checked α)} {slots : String → List Slot}
    (hselect : ∀ {tag decode}, select tag = some decode → (∀ s ∈ slots tag, s.Agrees known fs fs') →
      (decode fs).renamed known = (decode fs').renamed known)
    (h : ∀ s ∈ nodeSlots slots fs, s.Agrees known fs fs') :
    (tagged select (.object fs)).renamed known = (tagged select (.object fs')).renamed known := by
  obtain ⟨hagrees, hslots⟩ := List.forall_mem_cons.mp h
  rw [tagged_object, tagged_object, ← tag_congr hagrees]
  rcases hread : (field? fs "type").map tag? with - | - | tag
  · rfl
  · rfl
  · rw [hread] at hslots
    cases hdecode : select tag.toString with
    | none => simp only [hdecode]
    | some decode => simp only [hdecode, Checked.renamed_under, hselect hdecode hslots]

theorem read_object_congr {p : Place} (h : ∀ s ∈ p.slots fs, s.Agrees known fs fs') :
    (p.read (.object fs)).renamed known = (p.read (.object fs')).renamed known := by
  cases p with
  | declaration => exact tagged_congr declarationFields_congr h
  | body => exact tagged_congr bodyFields_congr h
  | item => exact tagged_congr itemFields_congr h
  | rule =>
      have htagged : (tagged selectRule (.object fs)).renamed known = (tagged selectRule (.object fs')).renamed known :=
        tagged_congr ruleFields_congr h
      change (stateRule (.object fs)).renamed known = (stateRule (.object fs')).renamed known
      rw [stateRule, stateRule, Checked.renamed_orElse, Checked.renamed_orElse, htagged]
      rfl
  | _ => rfl

section

variable {α : Type} {decode : Document → Checked α} {before after : List Document} {d d' : Document}

theorem elements_congr (h : (decode d).renamed known = (decode d').renamed known) (i : Nat) :
    (elements decode i (before ++ d :: after)).renamed known =
      (elements decode i (before ++ d' :: after)).renamed known := by
  induction before generalizing i with
  | nil => simp only [List.nil_append, elements, Checked.renamed_ap, Checked.renamed_map, Checked.renamed_under, h]
  | cons b before ih => simp only [List.cons_append, elements, Checked.renamed_ap, ih]

theorem list_congr (h : (decode d).renamed known = (decode d').renamed known) :
    (list decode (.array (before ++ d :: after))).renamed known =
      (list decode (.array (before ++ d' :: after))).renamed known :=
  elements_congr h 0

theorem read_array_congr {p : Place} (h : (p.element.read d).renamed known = (p.element.read d').renamed known) :
    (p.read (.array (before ++ d :: after))).renamed known =
      (p.read (.array (before ++ d' :: after))).renamed known := by
  cases p with
  | program => exact list_congr h
  | items => exact list_congr h
  | groups => exact list_congr h
  | group => exact list_congr h
  | rule =>
      have hitems : (list item (.array (before ++ d :: after))).renamed known =
          (list item (.array (before ++ d' :: after))).renamed known := list_congr h
      change (stateRule _).renamed known = (stateRule _).renamed known
      rw [stateRule, stateRule, Checked.renamed_orElse, Checked.renamed_orElse, Checked.renamed_map,
        Checked.renamed_map StateRule.items, hitems]
      rfl
  | source =>
      have hgroups : (groups (.array (before ++ d :: after))).renamed known =
          (groups (.array (before ++ d' :: after))).renamed known := list_congr h
      change (Tree.source _).renamed known = (Tree.source _).renamed known
      rw [Tree.source, Tree.source, Checked.renamed_orElse, Checked.renamed_orElse, Checked.renamed_map Source.groups,
        Checked.renamed_map Source.groups, hgroups]
      rfl
  | _ => rfl

end

/-! ## Edits -/

/-- No two fields of an object share a spelling. -/
theorem nodup_spellings (p : Place) (fs : Fields) : ((p.slots fs).flatMap Slot.spellings).Nodup := by
  have hnode : ∀ slots : String → List Slot,
      (∀ tag, ((⟨["type"], .tag⟩ :: slots tag).flatMap Slot.spellings).Nodup) →
        ((nodeSlots slots fs).flatMap Slot.spellings).Nodup := by
    intro slots htags
    unfold nodeSlots
    split
    · exact htags _
    · decide
  cases p with
  | declaration => exact hnode _ fun tag => by unfold declarationSlots; split <;> decide
  | body => exact hnode _ fun tag => by unfold bodySlots; split <;> decide
  | item => exact hnode _ fun tag => by unfold itemSlots; split <;> decide
  | rule =>
      refine hnode _ fun tag => ?_
      unfold ruleSlots bodySlots
      split
      · decide
      · decide
      · unfold itemSlots; split <;> decide
  | _ => exact List.nodup_nil

theorem slot_unique {p : Place} {s s' : Slot} {name : String} (hs : s ∈ p.slots fs) (hs' : s' ∈ p.slots fs)
    (hname : name ∈ s.spellings) (hname' : name ∈ s'.spellings) : s = s' := by
  by_contra hne
  have hdisjoint : (p.slots fs).Pairwise (Function.onFun List.Disjoint Slot.spellings) :=
    (List.nodup_flatMap.mp (nodup_spellings p fs)).2
  have hsymm : Std.Symm (Function.onFun List.Disjoint Slot.spellings) :=
    ⟨fun _ _ h _ hs hs' => h hs' hs⟩
  exact hdisjoint.forall hs hs' hne hname hname'

theorem mem_map_ofString {names : List String} {name : String} :
    Text.ofString name ∈ names.map Text.ofString ↔ name ∈ names := by
  simp only [List.mem_map, Text.ofString_inj, exists_eq_right]

/-- A value under a spelling of a field stands at the place of that field. -/
theorem Place.field_of_mem {p : Place} {s : Slot} {name : String} (hs : s ∈ p.slots fs)
    (hname : name ∈ s.spellings) : p.field fs (Text.ofString name) = s.place := by
  have hfind : (p.slots fs).find? (fun s => Text.ofString name ∈ s.spellings.map Text.ofString) = some s := by
    cases hf : (p.slots fs).find? fun s => Text.ofString name ∈ s.spellings.map Text.ofString with
    | none =>
        have hnot := List.find?_eq_none.mp hf s hs
        exact absurd (decide_eq_true (mem_map_ofString.mpr hname)) hnot
    | some s' =>
        have hmem : Text.ofString name ∈ s'.spellings.map Text.ofString := by
          simpa only [decide_eq_true_eq] using List.find?_some hf
        rw [slot_unique hs (List.mem_of_find?_eq_some hf) hname (mem_map_ofString.mp hmem)]
  rw [Place.field, hfind, Option.elim_some]

theorem Edit.field_of_mem {p : Place} {before after : Fields} {s : Slot} {name : String} {d d' : Document}
    (hs : s ∈ p.slots (before ++ (Text.ofString name, d) :: after)) (hname : name ∈ s.spellings)
    (h : Edit known s.place d d') :
    Edit known p (.object (before ++ (Text.ofString name, d) :: after))
      (.object (before ++ (Text.ofString name, d') :: after)) := by
  rw [← Place.field_of_mem hs hname] at h
  exact .field h

/-- A field that is there under one spelling only gives what it gave when it is put under another. -/
theorem Slot.found_respelled {s : Slot} {old new : String} (hold : old ∈ s.spellings) (hnew : new ∈ s.spellings)
    (hother : ∀ name ∈ s.spellings, name ≠ old → Text.ofString name ∉ fs.map Prod.fst) :
    s.found fs = ((field? fs old).map fun d => (old, d)) ∧
      s.found (respelled old new fs) = (field? fs old).map fun d => (new, d) := by
  have hfree : new ≠ old → Text.ofString new ∉ fs.map Prod.fst := hother new hnew
  refine ⟨Slot.found_of_only hold fun name hname hne => field?_eq_none_iff.mpr (hother name hname hne), ?_⟩
  have hafter : s.found (respelled old new fs) = (field? (respelled old new fs) new).map fun d => (new, d) := by
    refine Slot.found_of_only hnew fun name hname hne => ?_
    rw [field?_respelled hfree, if_neg hne]
    split
    · rfl
    · rename_i hne'
      exact field?_eq_none_iff.mpr (hother name hname hne')
  rw [hafter, field?_respelled hfree, if_pos rfl]

theorem field?_respelled_of_ne {old new name : String} (hne : name ≠ old) (hne' : name ≠ new)
    (hfree : new ≠ old → Text.ofString new ∉ fs.map Prod.fst) :
    field? (respelled old new fs) name = field? fs name := by
  rw [field?_respelled hfree, if_neg hne', if_neg hne]

/-- An edit leaves what is read at its place, as far as it is known. -/
theorem Edit.renamed_read_eq {p : Place} {d d' : Document} (h : Edit known p d d') :
    (p.read d).renamed known = (p.read d').renamed known := by
  -- The tag is a field like the others, so an edit that keeps every field keeps which fields there are.
  induction h with
  | permute hnodup hperm =>
      refine read_object_congr fun s _ => Slot.agrees_of_spellings fun name _ => ?_
      rw [SameField, field?_perm hnodup hperm]
  | @insert p before after name value hunknown =>
      refine read_object_congr fun s hs => Slot.agrees_of_spellings fun spelling hspelling => ?_
      have hne : name ≠ Text.ofString spelling := fun he => hunknown s hs (he ▸ mem_map_ofString.mpr hspelling)
      rw [SameField, field?_insert_of_ne hne]
  | @respell p fs s old new hs hold hnew hknown hother =>
      refine read_object_congr fun s' hs' => ?_
      by_cases he : s' = s
      · obtain ⟨hbefore, hafter⟩ := Slot.found_respelled hold hnew hother
        rw [he, Slot.Agrees, Slot.view, Slot.view, hbefore, hafter, Option.map_map, Option.map_map]
        simp only [Function.comp_def, hknown]
      · refine Slot.agrees_of_spellings fun name hname => ?_
        have hne : name ≠ old := fun hn => he (slot_unique hs' hs hname (hn ▸ hold))
        have hne' : name ≠ new := fun hn => he (slot_unique hs' hs hname (hn ▸ hnew))
        rw [SameField, field?_respelled_of_ne hne hne' (hother new hnew)]
  | @field p before after name d d' _ ih =>
      refine read_object_congr fun s hs => Slot.agrees_of_spellings fun spelling hspelling => ?_
      refine map_field?_replace fun he => ?_
      subst he
      rwa [Place.field_of_mem hs hspelling] at ih
  | element _ ih => exact read_array_congr ih

theorem renamed_read_eq_of_eqvGen {p : Place} {d d' : Document} (h : Relation.EqvGen (Edit known p) d d') :
    (p.read d).renamed known = (p.read d').renamed known := by
  induction h with
  | rel d d' hedit => exact hedit.renamed_read_eq
  | refl d => rfl
  | symm d d' _ ih => exact ih.symm
  | trans d d'' d' _ _ ih ih' => exact ih.trans ih'

/-- All spellings of a field have one letter. -/
theorem letter_eq_of_mem {p : Place} {s : Slot} (hs : s ∈ p.slots fs) {old new : String} (hold : old ∈ s.spellings)
    (hnew : new ∈ s.spellings) : letter old = letter new := by
  have hletters : ∀ slots : String → List Slot,
      (∀ tag, ∀ s ∈ slots tag, ∀ old ∈ s.spellings, ∀ new ∈ s.spellings, letter old = letter new) →
        s ∈ nodeSlots slots fs → letter old = letter new := by
    intro slots htags hs
    rcases List.mem_cons.mp hs with rfl | hs
    · rw [List.mem_singleton.mp hold, List.mem_singleton.mp hnew]
    · split at hs
      · exact htags _ s hs old hold new hnew
      · cases hs
  have hitem : ∀ tag, ∀ s ∈ itemSlots tag, ∀ old ∈ s.spellings, ∀ new ∈ s.spellings, letter old = letter new := by
    intro tag
    unfold itemSlots
    split <;> decide
  have hbody : ∀ tag, ∀ s ∈ bodySlots tag, ∀ old ∈ s.spellings, ∀ new ∈ s.spellings, letter old = letter new := by
    intro tag
    unfold bodySlots
    split <;> decide
  cases p with
  | declaration => exact hletters _ (fun tag => by unfold declarationSlots; split <;> decide) hs
  | body => exact hletters _ hbody hs
  | item => exact hletters _ hitem hs
  | rule => exact hletters _ (fun tag => List.forall_mem_append.mpr ⟨hbody tag, hitem tag⟩) hs
  | _ => cases hs

theorem Edit.respell_letter {p : Place} {s : Slot} {old new : String} (hs : s ∈ p.slots fs) (hold : old ∈ s.spellings)
    (hnew : new ∈ s.spellings) (hother : ∀ name ∈ s.spellings, name ≠ old → Text.ofString name ∉ fs.map Prod.fst) :
    Edit letter p (.object fs) (.object (respelled old new fs)) :=
  .respell hs hold hnew (letter_eq_of_mem hs hold hnew) hother

end Tree

/-- Trees that can be edited into each other are parsed alike, whatever the layout of their texts: the fields
of objects without repeated names may change places, and unknown fields come or go, each at any depth and any
number of times. The parts of triples may stand under either of their names too, and then the faults of the two
trees are the same but for these names on the way to them. -/
theorem parseDeclarations_edited {text text' : Text} {d d' : Document} (hd : Tree.document text = .ok d)
    (hd' : Tree.document text' = .ok d') :
    (Relation.EqvGen (Tree.Edit id .program) d d' → parseDeclarations text = parseDeclarations text') ∧
    (Relation.EqvGen (Tree.Edit Tree.letter .program) d d' →
      (parseDeclarations text).renamed Tree.letter = (parseDeclarations text').renamed Tree.letter) := by
  have hparse : parseDeclarations text = Tree.declarations d ∧ parseDeclarations text' = Tree.declarations d' := by
    rw [parseDeclarations, parseDeclarations, hd, hd']
    exact ⟨rfl, rfl⟩
  rw [hparse.1, hparse.2]
  constructor
  · intro h
    have hread : (Tree.declarations d).renamed id = (Tree.declarations d').renamed id :=
      Tree.renamed_read_eq_of_eqvGen h
    rwa [Tree.Checked.renamed_id, Tree.Checked.renamed_id] at hread
  · intro h
    exact Tree.renamed_read_eq_of_eqvGen h

/-! ## A tree written in two ways -/

def ruleTree (body : Document) : Document :=
  .array [record [("type", ofString "rule"), ("body", body), ("name", ofString "r")]]

/-- A triple without an interface, whose other parts are no items. -/
def twoParts (left right : String) : Tree.Fields :=
  [(right, .array []), ("type", ofString "triple"), (left, .array [])]

def strayBody : Document :=
  record [("right", .array []), ("x", .array []), ("type", ofString "triple"), ("left", .array [])]

def strayText : Text :=
  "[\x7b\"type\":\"rule\",\"body\":\x7b\"right\":[],\"x\":[],\"type\":\"triple\",\"left\":[]\x7d,\"name\":\"r\"\x7d]"

def tidyBody (left right : String) : Document :=
  record [("type", ofString "triple"), (left, .array []), (right, .array [])]

def tidyTree (left right : String) : Document :=
  .array [record [("type", ofString "rule"), ("name", ofString "r"), ("body", tidyBody left right)]]

def tidyText (left right : String) : Text := Text.ofString (tidyTree left right).compact

section

variable {known : String → String}

theorem edit_ruleTree {b b' : Document} (h : Tree.Edit known .body b b') :
    Tree.Edit known .program (ruleTree b) (ruleTree b') := by
  let before : Tree.Fields := [(Text.ofString "type", ofString "rule")]
  let after : Tree.Fields := [(Text.ofString "name", ofString "r")]
  have htag : field? (before ++ (Text.ofString "body", b) :: after) "type" = some (ofString "rule") := by cbv
  have hslot : ⟨["body"], .body⟩ ∈ Tree.Place.slots .declaration (before ++ (Text.ofString "body", b) :: after) := by
    rw [Tree.Place.slots, Tree.nodeSlots_of_tag htag]
    decide
  exact @Tree.Edit.element known .program [] [] _ _ (Tree.Edit.field_of_mem hslot List.mem_cons_self h)

theorem eqvGen_stray : Relation.EqvGen (Tree.Edit known .program) (ruleTree strayBody)
    (ruleTree (.object (twoParts "left" "right"))) := by
  have hinsert : Tree.Edit known .body (.object (twoParts "left" "right")) strayBody :=
    @Tree.Edit.insert known .body ((twoParts "left" "right").take 1) ((twoParts "left" "right").drop 1) "x" _
      (by decide +kernel)
  exact .symm _ _ (.rel _ _ (edit_ruleTree hinsert))

theorem eqvGen_tidy {left right : String} (h : ((twoParts left right).map Prod.fst).Nodup) :
    Relation.EqvGen (Tree.Edit known .program) (ruleTree (.object (twoParts left right))) (tidyTree left right) := by
  have hbody : Tree.Edit known .body (.object (twoParts left right)) (tidyBody left right) :=
    .permute h (@List.perm_append_comm _ [_] [_, _])
  have hrule : Tree.Edit known .program (ruleTree (tidyBody left right)) (tidyTree left right) := by
    refine @Tree.Edit.element known .program [] [] _ _ (.permute ?_ (.cons _ (.swap _ _ _)))
    simp [Text.ofString_inj]
  exact .trans _ _ _ (.rel _ _ (edit_ruleTree hbody)) (.rel _ _ hrule)

end

theorem eqvGen_respelled : Relation.EqvGen (Tree.Edit Tree.letter .program)
    (ruleTree (.object (twoParts "left" "right"))) (ruleTree (.object (twoParts "L" "R"))) := by
  have hright : Tree.Edit Tree.letter .body (.object (twoParts "left" "right")) (.object (twoParts "left" "R")) :=
    @Tree.Edit.respell_letter (twoParts "left" "right") .body ⟨["R", "right"], .item⟩ "right" "R" (by decide +kernel)
      (by decide) (by decide) (by decide +kernel)
  have hleft : Tree.Edit Tree.letter .body (.object (twoParts "left" "R")) (.object (twoParts "L" "R")) :=
    @Tree.Edit.respell_letter (twoParts "left" "R") .body ⟨["L", "left"], .item⟩ "left" "L" (by decide +kernel)
      (by decide) (by decide) (by decide +kernel)
  exact .trans _ _ _ (.rel _ _ (edit_ruleTree hright)) (.rel _ _ (edit_ruleTree hleft))

theorem eqvGen_stray_letters :
    Relation.EqvGen (Tree.Edit Tree.letter .program) (ruleTree strayBody) (tidyTree "L" "R") :=
  .trans _ _ _ eqvGen_stray (.trans _ _ _ eqvGen_respelled (eqvGen_tidy (by decide +kernel)))

/-- The faults of a triple that has a wrong part under each of two names and none under `I`. -/
def partFaults (left right : String) : List Tree.Fault :=
  [⟨[.index 0, .field "rule", .field "body", .field "triple", .field left], .dictType⟩,
    ⟨[.index 0, .field "rule", .field "body", .field "triple", .field "I"], .missing⟩,
    ⟨[.index 0, .field "rule", .field "body", .field "triple", .field right], .dictType⟩]

theorem document_strayText : Tree.document strayText = .ok (ruleTree strayBody) := by cbv

theorem document_tidyText {left right : String} (h : ["type", left, right].Nodup) :
    Tree.document (tidyText left right) = .ok (tidyTree left right) := by
  have hempty : (Document.array []).Readable := .array (List.forall_mem_nil _)
  have hbody : (tidyBody left right).Readable := readable_record h (by simp [inherited_readable.text, hempty])
  have hbody' : (tidyBody left right).isScalar = true :=
    isScalar_record (by simp [inherited_isScalar.text, Document.isScalar, Document.itemsScalar])
  refine Tree.document_compact (.array (List.forall_mem_singleton.mpr (readable_record (by simp) ?_)))
    (isScalar_array (List.forall_mem_singleton.mpr (isScalar_record ?_))) ?_
  · simp [inherited_readable.text, hbody]
  · simp [inherited_isScalar.text, hbody']
  · have hnesting : (tidyTree left right).nesting = 3 := rfl
    rw [hnesting]
    decide

theorem parseDeclarations_edited_strayText :
    (Tree.document strayText = .ok (ruleTree strayBody) ∧
      Tree.document (tidyText "left" "right") = .ok (tidyTree "left" "right") ∧
      Relation.EqvGen (Tree.Edit id .program) (ruleTree strayBody) (tidyTree "left" "right") ∧
      parseDeclarations strayText = parseDeclarations (tidyText "left" "right")) ∧
    (Tree.document (tidyText "L" "R") = .ok (tidyTree "L" "R") ∧
      Relation.EqvGen (Tree.Edit Tree.letter .program) (ruleTree strayBody) (tidyTree "L" "R") ∧
      (parseDeclarations strayText).renamed Tree.letter = (parseDeclarations (tidyText "L" "R")).renamed Tree.letter) ∧
    parseDeclarations strayText = .error (partFaults "left" "right") := by
  have hwords : Tree.document (tidyText "left" "right") = .ok (tidyTree "left" "right") :=
    document_tidyText (by decide)
  have hletters : Tree.document (tidyText "L" "R") = .ok (tidyTree "L" "R") := document_tidyText (by decide)
  have heqv : Relation.EqvGen (Tree.Edit id .program) (ruleTree strayBody) (tidyTree "left" "right") :=
    .trans _ _ _ eqvGen_stray (eqvGen_tidy (by decide +kernel))
  exact ⟨⟨document_strayText, hwords, heqv, (parseDeclarations_edited document_strayText hwords).1 heqv⟩,
    ⟨hletters, eqvGen_stray_letters,
      (parseDeclarations_edited document_strayText hletters).2 eqvGen_stray_letters⟩,
    by decide +kernel⟩

/-! ## Edits that are seen -/

def emptyArray : Tree.Fields := [("type", ofString "array"), ("name", ofString "a")]

/-- The array with a further field, which holds an integer of too many digits. -/
def overlongArray : Tree.Fields := emptyArray ++ [(Text.ofString "x", .int ((10 ^ Decimal.maxDigits : Nat) : Int))]

theorem overlong_overlongArray : (Document.array [.object overlongArray]).Overlong := by
  have hlong : Decimal.maxDigits < Decimal.width ((10 ^ Decimal.maxDigits : Nat) : Int).natAbs :=
    lt_width (Nat.le_refl _)
  refine @Overlong.array [] [] _ (List.forall_mem_nil _) ?_
  refine @Overlong.object emptyArray [] _ _ ?_ ?_ (Text.unpaired_ofString "x") (.int hlong)
  · simp [emptyArray, Text.unpaired_ofString]
  · simp [emptyArray, inherited_readable.text]

/-- A fault names the spelling of the part that it is in; and a text is no tree any more when a field is added
that cannot be read, although the field is unknown. -/
theorem parseDeclarations_edits_seen :
    (Tree.document strayText = .ok (ruleTree strayBody) ∧ Tree.document (tidyText "L" "R") = .ok (tidyTree "L" "R") ∧
      Relation.EqvGen (Tree.Edit Tree.letter .program) (ruleTree strayBody) (tidyTree "L" "R") ∧
      parseDeclarations strayText = .error (partFaults "left" "right") ∧
      parseDeclarations (tidyText "L" "R") = .error (partFaults "L" "R") ∧
      partFaults "left" "right" ≠ partFaults "L" "R") ∧
    Tree.Edit Tree.letter .program (.array [.object emptyArray]) (.array [.object overlongArray]) ∧
    parseDeclarations (Text.ofString (Document.array [.object emptyArray]).compact) = .ok [.array "a" []] ∧
    parseDeclarations (Text.ofString (Document.array [.object overlongArray]).compact) =
      .error [⟨[], .jsonInvalid⟩] := by
  refine ⟨⟨document_strayText, document_tidyText (by decide), eqvGen_stray_letters, by decide +kernel,
    by decide +kernel, by decide⟩, ?_, by decide +kernel, ?_⟩
  · exact @Tree.Edit.element _ .program [] [] _ _ (@Tree.Edit.insert _ .declaration emptyArray [] "x" _
      (by decide +kernel))
  · obtain ⟨digits, hread⟩ := read_write_overlong overlong_overlongArray
    rw [← ofString_compact] at hread
    exact parseDeclarations_of_fault (Text.isScalar_ofString _) hread

end HyperEvolve
