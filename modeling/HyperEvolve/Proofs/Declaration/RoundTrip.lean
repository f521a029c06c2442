import HyperEvolve.Declaration.Decode
import HyperEvolve.Proofs.Document.Overlong
import Mathlib.Data.List.Permutation

/-!
# Declaration trees read back

The decoder finds in the canonical tree of a program the program itself: no form of a rule is taken
for another, and nothing is reordered. A text of the tree is read as long as the counts in it are not
too long to be read at all.
-/

namespace HyperEvolve

open Document

namespace Tree

/-! ## Decoding parts -/

theorem string_ofString (s : String) : string (ofString s) = .ok s := by
  rw [ofString, string, Text.isScalar_ofString, if_pos rfl, Text.toString_ofString]

theorem elements_map {α : Type} {decode : Document → Checked α} {tree : α → Document}
    (h : ∀ a, decode (tree a) = .ok a) (i : Nat) (as : List α) :
    elements decode i (as.map tree) = .ok as := by
  induction as generalizing i with
  | nil => rfl
  | cons a as ih =>
      rw [List.map_cons, elements, h, ih]
      rfl

/-- A list is decoded when each of its members is, with the order kept. -/
theorem list_map {α : Type} {decode : Document → Checked α} {tree : α → Document}
    (h : ∀ a, decode (tree a) = .ok a) (as : List α) : list decode (.array (as.map tree)) = .ok as :=
  elements_map h 0 as

/-- The fields of a record. -/
def fieldsOf (fs : List (String × Document)) : Fields := fs.map fun f => (Text.ofString f.1, f.2)

section

variable {α : Type} {fs : List (String × Document)} {name : String} {d : Document}
  {decode : Document → Checked α} {a : α}

theorem field?_fieldsOf (hd : (fs.reverse.find? fun f => f.1 = name).map Prod.snd = some d) :
    field? (fieldsOf fs) (Text.ofString name) = some d :=
  (field?_record fs name).trans hd

theorem field_fieldsOf (hd : (fs.reverse.find? fun f => f.1 = name).map Prod.snd = some d)
    (h : decode d = .ok a) : field (fieldsOf fs) name decode = .ok a := by
  rw [field, field?_fieldsOf hd, required, h]
  rfl

theorem optional_fieldsOf {default : α} (hd : (fs.reverse.find? fun f => f.1 = name).map Prod.snd = some d)
    (h : decode d = .ok a) : optional (fieldsOf fs) name default decode = .ok a := by
  rw [optional, field?_fieldsOf hd]
  simp only [h]
  rfl

/-- A record with its tag in front is decoded as the tag says. -/
theorem tagged_record {select : String → Option (Fields → Checked α)} {tag : String}
    {decode : Fields → Checked α} (hselect : select tag = some decode) (hnames : ∀ f ∈ fs, f.1 ≠ "type")
    (h : decode (fieldsOf (("type", ofString tag) :: fs)) = .ok a) :
    tagged select (record (("type", ofString tag) :: fs)) = .ok a := by
  have htag : field? (fieldsOf (("type", ofString tag) :: fs)) "type" = some (ofString tag) := by
    have hnone : (fs.reverse.find? fun f => f.1 = "type") = none := by
      simpa only [List.find?_eq_none, List.mem_reverse, decide_eq_true_eq] using hnames
    refine field?_fieldsOf ?_
    rw [List.reverse_cons, List.find?_append, hnone]
    rfl
  change tagged select (.object (fieldsOf (("type", ofString tag) :: fs))) = .ok a
  simp only [tagged, htag]
  simp only [ofString, Text.toString_ofString, hselect] at h ⊢
  rw [h]
  rfl

end

theorem group_tree (g : Group) : group g.tree = .ok g := list_map string_ofString g

theorem groups_tree (gs : List Group) : groups (groupsTree gs) = .ok gs := list_map group_tree gs

theorem count_ofNat? (n : Option Nat) : count (ofNat? n) = .ok n := by
  cases n with
  | none => rfl
  | some n =>
      have hn : ¬(n : Int) < 0 := Int.not_lt.mpr (Int.natCast_nonneg n)
      simp [ofNat?, count, integer, bind, Except.bind, hn]

/-! ## Decoding declarations -/

theorem item_tree (i : Item) : item i.tree = .ok i := by
  cases i with
  | inline g =>
      refine tagged_record (show selectItem "inline" = some inlineItem from rfl) (by simp) ?_
      rw [inlineItem, optional_fieldsOf (by simp) (group_tree g)]
      rfl
  | arrayRef n =>
      refine tagged_record (show selectItem "varRef" = some arrayRefItem from rfl) (by simp) ?_
      rw [arrayRefItem, field_fieldsOf (by simp) (string_ofString n)]
      rfl
  | ruleRef n =>
      refine tagged_record (show selectItem "ruleRef" = some ruleRefItem from rfl) (by simp) ?_
      rw [ruleRefItem, field_fieldsOf (by simp) (string_ofString n)]
      rfl

theorem items_tree (is : List Item) : list item (itemsTree is) = .ok is := list_map item_tree is

theorem part_fieldsOf {fs : List (String × Document)} {letter word : String} {i : Item}
    (hi : (fs.reverse.find? fun f => f.1 = letter).map Prod.snd = some i.tree) :
    part (fieldsOf fs) letter word = .ok i := by
  rw [part_of_letter (field?_fieldsOf hi), item_tree]
  rfl

theorem body_tree (b : RuleBody) : body b.tree = .ok b := by
  cases b with
  | triple l i r =>
      refine tagged_record (show selectBody "triple" = some tripleBody from rfl) (by simp) ?_
      rw [tripleBody, part_fieldsOf (i := l) (by simp), part_fieldsOf (i := i) (by simp),
        part_fieldsOf (i := r) (by simp)]
      rfl
  | sequence is =>
      refine tagged_record (show selectBody "sequence" = some sequenceBody from rfl) (by simp) ?_
      rw [sequenceBody, optional_fieldsOf (by simp) (items_tree is)]
      rfl

/-- A text is no list of groups, and a list is no text. -/
theorem source_tree (s : Source) : source s.tree = .ok s := by
  cases s with
  | name n =>
      rw [Source.tree, source, string_ofString]
      rfl
  | groups gs =>
      have hname : string (groupsTree gs) = Checked.fault .stringType := rfl
      rw [Source.tree, source, hname, groups_tree]
      rfl

theorem tagged_map {α β : Type} {select : String → Option (Fields → Checked α)}
    {select' : String → Option (Fields → Checked β)} {f : α → β} {d : Document} {a : α}
    (hselect : ∀ tag decode, select tag = some decode →
      select' tag = some fun fields => (decode fields).map f)
    (h : tagged select d = .ok a) : tagged select' d = .ok (f a) := by
  match d with
  | .object fields =>
      simp only [tagged] at h ⊢
      split at h
      · cases h
      · rename_i tag htag
        split at h
        · rename_i decode hdecode
          simp only [hselect _ _ hdecode]
          cases hfields : decode fields with
          | ok b =>
              rw [hfields] at h
              cases h
              rfl
          | error faults =>
              rw [hfields] at h
              cases h
        · cases h
      · cases h
  | .null | .bool _ | .int _ | .float _ | .text _ | .array _ => cases h

theorem selectBody_eq_none {tag : String} {decode : Fields → Checked Item} (h : selectItem tag = some decode) :
    selectBody tag = none := by
  unfold selectItem at h
  split at h
  · rfl
  · rfl
  · rfl
  · cases h

/-- The three forms of a state's rule are told apart: a list has no tag, and no tag of a rule body is
one of an item. -/
theorem stateRule_tree (r : StateRule) : stateRule r.tree = .ok r := by
  cases r with
  | body b =>
      have hselect : ∀ tag decode, selectBody tag = some decode →
          selectRule tag = some fun fields => (decode fields).map StateRule.body := by
        intro tag decode hdecode
        rw [selectRule, hdecode]
      rw [StateRule.tree, stateRule, tagged_map hselect (body_tree b)]
      rfl
  | item i =>
      have hselect : ∀ tag decode, selectItem tag = some decode →
          selectRule tag = some fun fields => (decode fields).map StateRule.item := by
        intro tag decode hdecode
        rw [selectRule, selectBody_eq_none hdecode, hdecode]
        rfl
      rw [StateRule.tree, stateRule, tagged_map hselect (item_tree i)]
      rfl
  | items is =>
      have htagged : tagged selectRule (itemsTree is) = Checked.fault .dictType := rfl
      rw [StateRule.tree, stateRule, htagged, items_tree]
      rfl

theorem declaration_tree (d : Declaration) : declaration d.tree = .ok d := by
  cases d with
  | array n gs =>
      refine tagged_record (show selectDeclaration "array" = some arrayDecl from rfl) (by simp) ?_
      rw [arrayDecl, field_fieldsOf (by simp) (string_ofString n),
        optional_fieldsOf (by simp) (groups_tree gs)]
      rfl
  | rule n b =>
      refine tagged_record (show selectDeclaration "rule" = some ruleDecl from rfl) (by simp) ?_
      rw [ruleDecl, field_fieldsOf (by simp) (string_ofString n), field_fieldsOf (by simp) (body_tree b)]
      rfl
  | state s =>
      refine tagged_record (show selectDeclaration "state" = some stateDecl from rfl) (by simp) ?_
      rw [stateDecl, field_fieldsOf (by simp) (string_ofString s.name),
        field_fieldsOf (by simp) (source_tree s.source), field_fieldsOf (by simp) (stateRule_tree s.rule),
        optional_fieldsOf (by simp) (count_ofNat? s.count)]
      rfl

theorem declarations_programTree (ds : List Declaration) : declarations (programTree ds) = .ok ds :=
  list_map declaration_tree ds

end Tree

/-! ## What trees inherit from their parts -/

/-- A property of texts that an array and a record have when their parts have it. -/
structure Document.Inherited (P : Document → Prop) : Prop where
  text : ∀ s : String, P (ofString s)
  array : ∀ {ds : List Document}, (∀ d ∈ ds, P d) → P (.array ds)
  record : ∀ {fs : List (String × Document)}, (fs.map Prod.fst).Nodup → (∀ f ∈ fs, P f.2) → P (record fs)

namespace Document.Inherited

variable {P : Document → Prop}

theorem map (hP : Inherited P) {α : Type} {tree : α → Document} (h : ∀ a, P (tree a)) (as : List α) :
    P (.array (as.map tree)) := by
  refine hP.array ?_
  intro d hd
  obtain ⟨a, -, rfl⟩ := List.mem_map.mp hd
  exact h a

theorem group (hP : Inherited P) (g : Group) : P g.tree := hP.map hP.text g

theorem groups (hP : Inherited P) (gs : List Group) : P (groupsTree gs) := hP.map hP.group gs

theorem item (hP : Inherited P) (i : Item) : P i.tree := by
  cases i with
  | inline g => exact hP.record (by simp) (by simp [hP.text, hP.group])
  | arrayRef n => exact hP.record (by simp) (by simp [hP.text])
  | ruleRef n => exact hP.record (by simp) (by simp [hP.text])

theorem items (hP : Inherited P) (is : List Item) : P (itemsTree is) := hP.map hP.item is

theorem body (hP : Inherited P) (b : RuleBody) : P b.tree := by
  cases b with
  | triple l i r => exact hP.record (by simp) (by simp [hP.text, hP.item])
  | sequence is => exact hP.record (by simp) (by simp [hP.text, hP.items])

theorem stateRule (hP : Inherited P) (r : StateRule) : P r.tree := by
  cases r with
  | body b => exact hP.body b
  | item i => exact hP.item i
  | items is => exact hP.items is

theorem source (hP : Inherited P) (s : Source) : P s.tree := by
  cases s with
  | groups gs => exact hP.groups gs
  | name n => exact hP.text n

/-- Only the count of a state is no text. -/
theorem declaration (hP : Inherited P) (d : Declaration) (hcount : ∀ s, d = .state s → P (ofNat? s.count)) :
    P d.tree := by
  cases d with
  | array n gs => exact hP.record (by simp) (by simp [hP.text, hP.groups])
  | rule n b => exact hP.record (by simp) (by simp [hP.text, hP.body])
  | state s => exact hP.record (by simp) (by simp [hP.text, hP.source, hP.stateRule, hcount s rfl])

end Document.Inherited

/-! ## Trees hold no surrogate -/

theorem Document.isScalar_array {ds : List Document} (h : ∀ d ∈ ds, d.isScalar = true) :
    (array ds).isScalar = true := by
  have hitems : itemsScalar ds = true := by
    induction ds with
    | nil => rfl
    | cons d ds ih =>
        obtain ⟨hd, hds⟩ := List.forall_mem_cons.mp h
        rw [itemsScalar, hd, ih hds]
        rfl
  exact hitems

theorem Document.isScalar_record {fs : List (String × Document)} (h : ∀ f ∈ fs, f.2.isScalar = true) :
    (record fs).isScalar = true := by
  have hfields : fieldsScalar (fs.map fun f => (Text.ofString f.1, f.2)) = true := by
    induction fs with
    | nil => rfl
    | cons f fs ih =>
        obtain ⟨hf, hfs⟩ := List.forall_mem_cons.mp h
        rw [List.map_cons, fieldsScalar, Text.isScalar_ofString, hf, ih hfs]
        rfl
  exact hfields

theorem Document.inherited_isScalar : Inherited fun d => d.isScalar = true where
  text := Text.isScalar_ofString
  array := isScalar_array
  record _ h := isScalar_record h

theorem isScalar_programTree (ds : List Declaration) : (programTree ds).isScalar = true := by
  refine Document.inherited_isScalar.map (fun d => Document.inherited_isScalar.declaration d ?_) ds
  intro s _
  cases s.count <;> rfl

/-! ## Trees are shallow -/

theorem Document.nesting_ofString (s : String) : (ofString s).nesting = 0 := rfl

theorem Document.nesting_array_le {ds : List Document} {n : Nat} (h : ∀ d ∈ ds, d.nesting ≤ n) :
    (array ds).nesting ≤ n + 1 := by
  have hitems : itemsNesting ds ≤ n + 1 := by
    induction ds with
    | nil => exact Nat.zero_le _
    | cons d ds ih =>
        obtain ⟨hd, hds⟩ := List.forall_mem_cons.mp h
        exact Nat.max_le.mpr ⟨Nat.succ_le_succ hd, ih hds⟩
  exact hitems

theorem Document.nesting_map_le {α : Type} {tree : α → Document} {n : Nat} (h : ∀ a, (tree a).nesting ≤ n)
    (as : List α) : (array (as.map tree)).nesting ≤ n + 1 := by
  refine nesting_array_le fun d hd => ?_
  obtain ⟨a, -, rfl⟩ := List.mem_map.mp hd
  exact h a

theorem Document.nesting_record_le {fs : List (String × Document)} {n : Nat} (h : ∀ f ∈ fs, f.2.nesting ≤ n) :
    (record fs).nesting ≤ n + 1 := by
  have hfields : fieldsNesting (fs.map fun f => (Text.ofString f.1, f.2)) ≤ n + 1 := by
    induction fs with
    | nil => exact Nat.zero_le _
    | cons f fs ih =>
        obtain ⟨hf, hfs⟩ := List.forall_mem_cons.mp h
        exact Nat.max_le.mpr ⟨Nat.succ_le_succ hf, ih hfs⟩
  exact hfields

theorem Group.nesting_tree (g : Group) : g.tree.nesting ≤ 1 :=
  nesting_map_le (fun s => Nat.le_of_eq (nesting_ofString s)) g

theorem nesting_groupsTree (gs : List Group) : (groupsTree gs).nesting ≤ 2 := nesting_map_le Group.nesting_tree gs

theorem Item.nesting_tree (i : Item) : i.tree.nesting ≤ 2 := by
  cases i <;> exact nesting_record_le (by simp [nesting_ofString, Group.nesting_tree])

theorem nesting_itemsTree (is : List Item) : (itemsTree is).nesting ≤ 3 := nesting_map_le Item.nesting_tree is

theorem RuleBody.nesting_tree (b : RuleBody) : b.tree.nesting ≤ 4 := by
  have hitem : ∀ i : Item, i.tree.nesting ≤ 3 := fun i => Nat.le_succ_of_le i.nesting_tree
  cases b <;> exact nesting_record_le (by simp [nesting_ofString, hitem, nesting_itemsTree])

theorem StateRule.nesting_tree (r : StateRule) : r.tree.nesting ≤ 4 := by
  cases r with
  | body b => exact b.nesting_tree
  | item i => exact i.nesting_tree.trans (by decide)
  | items is => exact Nat.le_succ_of_le (nesting_itemsTree is)

theorem Source.nesting_tree (s : Source) : s.tree.nesting ≤ 2 := by
  cases s with
  | groups gs => exact nesting_groupsTree gs
  | name n => exact Nat.zero_le _

theorem Declaration.nesting_tree (d : Declaration) : d.tree.nesting ≤ 5 := by
  have hgroups : ∀ gs, (groupsTree gs).nesting ≤ 4 := fun gs => (nesting_groupsTree gs).trans (by decide)
  have hsource : ∀ s : Source, s.tree.nesting ≤ 4 := fun s => s.nesting_tree.trans (by decide)
  have hcount : ∀ count, (ofNat? count).nesting ≤ 4 := by rintro (_ | n) <;> exact Nat.zero_le _
  cases d <;> exact nesting_record_le
    (by simp [nesting_ofString, hgroups, hsource, hcount, RuleBody.nesting_tree, StateRule.nesting_tree])

theorem nesting_programTree (ds : List Declaration) : (programTree ds).nesting ≤ Tree.maxNesting :=
  (nesting_map_le Declaration.nesting_tree ds).trans (by decide)

/-! ## Trees are readable -/

theorem Document.inherited_readable : Inherited Readable where
  text s := .text (Text.unpaired_ofString s)
  array := .array
  record := readable_record

theorem Declaration.readable_tree {d : Declaration}
    (h : ∀ n ∈ d.counts, Decimal.width n ≤ Decimal.maxDigits) : d.tree.Readable := by
  refine inherited_readable.declaration d ?_
  rintro s rfl
  cases hs : s.count with
  | none => exact .null
  | some n => exact .int (h n (by rw [counts, hs, Option.toList_some, List.mem_singleton]))

/-- The count stands last, behind parts that are readable. -/
theorem Declaration.overlong_tree {d : Declaration}
    (h : ∃ n ∈ d.counts, Decimal.maxDigits < Decimal.width n) : d.tree.Overlong := by
  obtain ⟨n, hn, hlong⟩ := h
  cases d with
  | array m gs => cases hn
  | rule m b => cases hn
  | state s =>
      have hs : ofNat? s.count = .int n := by
        rw [counts, Option.mem_toList] at hn
        rw [hn, ofNat?]
      rw [tree, hs]
      refine @Overlong.object [(Text.ofString "type", ofString "state"), (Text.ofString "name", ofString s.name),
          (Text.ofString "source", s.source.tree), (Text.ofString "rule", s.rule.tree)] [] _ _
        ?_ ?_ (Text.unpaired_ofString "count") (.int hlong)
      · simp [Text.unpaired_ofString]
      · simp [inherited_readable.text, inherited_readable.source, inherited_readable.stateRule]

theorem readable_programTree {ds : List Declaration}
    (h : ∀ n ∈ ds.flatMap Declaration.counts, Decimal.width n ≤ Decimal.maxDigits) :
    (programTree ds).Readable := by
  refine .array ?_
  intro t ht
  obtain ⟨d, hd, rfl⟩ := List.mem_map.mp ht
  exact Declaration.readable_tree fun n hn => h n (List.mem_flatMap.mpr ⟨d, hd, hn⟩)

/-- The first declaration with too long a count is the one the reader stops at. -/
theorem overlong_programTree {ds : List Declaration}
    (h : ¬∀ n ∈ ds.flatMap Declaration.counts, Decimal.width n ≤ Decimal.maxDigits) :
    (programTree ds).Overlong := by
  induction ds with
  | nil => simp at h
  | cons d ds ih =>
      by_cases hd : ∀ n ∈ d.counts, Decimal.width n ≤ Decimal.maxDigits
      · rw [List.flatMap_cons, List.forall_mem_append, not_and] at h
        have hrest := ih (h hd)
        generalize hds : programTree ds = tree at hrest
        cases hrest with
        | int hn => cases hds
        | object ht hr hk hf => cases hds
        | @array before after x hbefore hx =>
            have htree : ds.map Declaration.tree = before ++ x :: after := Document.array.inj hds
            rw [programTree, List.map_cons, htree, ← List.cons_append]
            exact .array (List.forall_mem_cons.mpr ⟨Declaration.readable_tree hd, hbefore⟩) hx
      · have hlong : ∃ n ∈ d.counts, Decimal.maxDigits < Decimal.width n := by
          simpa only [not_forall, exists_prop, Nat.not_le] using hd
        exact @Overlong.array [] _ _ (by simp) (Declaration.overlong_tree hlong)

/-! ## Texts of a tree -/

theorem Tree.document_of_read {text : Text} {d : Document} (htext : text.isScalar = true)
    (h : Document.read text = .ok d) (hd : d.isScalar = true) (hnesting : d.nesting ≤ maxNesting) :
    document text = .ok d := by
  simp [document, htext, h, hd, hnesting]

/-- The compact text of a document without deep parts and lone surrogates is read as the document. -/
theorem Tree.document_compact {d : Document} (h : d.Readable) (hd : d.isScalar = true)
    (hnesting : d.nesting ≤ maxNesting) : document (Text.ofString d.compact) = .ok d := by
  refine document_of_read (Text.isScalar_ofString _) ?_ hd hnesting
  rw [ofString_compact]
  exact read_write h

theorem parseDeclarations_of_read {text : Text} {ds : List Declaration} (htext : text.isScalar = true)
    (h : Document.read text = .ok (programTree ds)) : parseDeclarations text = .ok ds := by
  rw [parseDeclarations, Tree.document_of_read htext h (isScalar_programTree ds) (nesting_programTree ds)]
  exact Tree.declarations_programTree ds

theorem parseDeclarations_of_fault {text : Text} {fault : Document.Fault} (htext : text.isScalar = true)
    (h : Document.read text = .error fault) : parseDeclarations text = .error [⟨[], .jsonInvalid⟩] := by
  rw [parseDeclarations, Tree.document, htext, h]
  rfl

theorem parseDeclarations_compact_overlong {ds : List Declaration}
    (h : ¬∀ n ∈ ds.flatMap Declaration.counts, Decimal.width n ≤ Decimal.maxDigits) :
    parseDeclarations (Text.ofString (programTree ds).compact) = .error [⟨[], .jsonInvalid⟩] := by
  obtain ⟨digits, hread⟩ := read_write_overlong (overlong_programTree h)
  rw [← ofString_compact] at hread
  exact parseDeclarations_of_fault (Text.isScalar_ofString _) hread

/-- Every text that is read as the canonical tree of a program is parsed as that program. The compact
text is read as the tree exactly if no count in the program is too long to be read, and is no declaration
tree at all otherwise. -/
theorem parseDeclarations_programTree (ds : List Declaration) :
    (∀ text : Text, text.isScalar = true → Document.read text = .ok (programTree ds) →
      parseDeclarations text = .ok ds) ∧
    parseDeclarations (Text.ofString (programTree ds).compact) =
      if ∀ n ∈ ds.flatMap Declaration.counts, Decimal.width n ≤ Decimal.maxDigits then .ok ds
      else .error [⟨[], .jsonInvalid⟩] := by
  refine ⟨fun text htext h => parseDeclarations_of_read htext h, ?_⟩
  by_cases h : ∀ n ∈ ds.flatMap Declaration.counts, Decimal.width n ≤ Decimal.maxDigits
  · rw [if_pos h]
    refine parseDeclarations_of_read (Text.isScalar_ofString _) ?_
    rw [ofString_compact]
    exact read_write (readable_programTree h)
  · rw [if_neg h]
    exact parseDeclarations_compact_overlong h

/-- A rule with three parts, and a state with a count that evolves by it. -/
def ruledProgram : List Declaration :=
  [.rule "r" (.triple (.inline ["x"]) (.inline []) (.inline ["y"])),
    .state ⟨"s", .groups [["a"]], .item (.ruleRef "r"), some 12⟩]

/-- The text of the program on a line of its own. -/
def spacedText : Text := Text.ofString "\n  " ++ (Text.ofChars (programTree ruledProgram).write ++ Text.ofString "\n")

theorem counts_ruledProgram : ∀ n ∈ ruledProgram.flatMap Declaration.counts, Decimal.width n ≤ Decimal.maxDigits := by
  intro n hn
  have hn : n = 12 := List.mem_singleton.mp hn
  rw [hn]
  decide

theorem parseDeclarations_programTree_spacedText :
    (spacedText.isScalar = true ∧ Document.read spacedText = .ok (programTree ruledProgram)) ∧
    parseDeclarations spacedText = .ok ruledProgram ∧
    parseDeclarations (Text.ofString (programTree ruledProgram).compact) = .ok ruledProgram := by
  have hscalar : spacedText.isScalar = true := by decide +kernel
  have hread : Document.read spacedText = .ok (programTree ruledProgram) :=
    read_between (readable_programTree counts_ruledProgram) (by decide) (by decide)
  obtain ⟨hany, hcompact⟩ := parseDeclarations_programTree ruledProgram
  exact ⟨⟨hscalar, hread⟩, hany spacedText hscalar hread, hcompact.trans (if_pos counts_ruledProgram)⟩

/-! ## A count that is too long -/

/-- One state whose count is the least number with one digit more than can be read. -/
def overlongCount : List Declaration := [.state ⟨"s", .groups [["a"]], .items [], some (10 ^ Decimal.maxDigits)⟩]

theorem long_overlongCount : ¬∀ n ∈ overlongCount.flatMap Declaration.counts, Decimal.width n ≤ Decimal.maxDigits := by
  intro h
  have hwidth := h (10 ^ Decimal.maxDigits) (by simp [overlongCount, Declaration.counts])
  exact Nat.not_le.mpr (lt_width (Nat.le_refl _)) hwidth

/-- A program whose count is a natural number of too many digits is not given back. -/
theorem parseDeclarations_overlongCount :
    parseDeclarations (Text.ofString (programTree overlongCount).compact) ≠ .ok overlongCount := by
  rw [parseDeclarations_compact_overlong long_overlongCount]
  intro h
  cases h

end HyperEvolve
