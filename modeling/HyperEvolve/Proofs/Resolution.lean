import HyperEvolve.Proofs.Symbols

/-!
# Resolution of names and lookups

A program has no unresolved reference exactly when every name in it has an entry in the lookups.
-/

namespace HyperEvolve

namespace Symbols

/-- The name in an item is declared. -/
def Resolves (t : Symbols) : Item → Prop
  | .inline _ => True
  | .arrayRef n => n ∈ t.arrays.keys
  | .ruleRef n => n ∈ t.rules.keys

/-- The name in a source is declared. -/
def SourceResolves (t : Symbols) : Source → Prop
  | .groups _ => True
  | .name n => n ∈ t.arrays.keys ∨ n ∈ t.stateIndex.keys

/-- The names in a declaration are declared. -/
def DeclarationResolves (t : Symbols) : Declaration → Prop
  | .array .. => True
  | .rule _ body => ∀ i ∈ body.items, t.Resolves i
  | .state s => (∀ i ∈ s.rule.parts, t.Resolves i) ∧ t.SourceResolves s.source

/-- Every name that is declared in the first is declared in the second. -/
structure DeclaresMore (t t' : Symbols) : Prop where
  arrays : t.arrays.keys ⊆ t'.arrays.keys
  rules : t.rules.keys ⊆ t'.rules.keys
  states : t.stateIndex.keys ⊆ t'.stateIndex.keys

namespace DeclaresMore

variable {t t' : Symbols} (h : t.DeclaresMore t')
include h

theorem resolves {item : Item} (hi : t.Resolves item) : t'.Resolves item := by
  cases item with
  | inline g => trivial
  | arrayRef n => exact h.arrays hi
  | ruleRef n => exact h.rules hi

theorem sourceResolves {source : Source} (hs : t.SourceResolves source) : t'.SourceResolves source := by
  cases source with
  | groups gs => trivial
  | name n => exact hs.imp (fun ha => h.arrays ha) fun hn => h.states hn

theorem declarationResolves {d : Declaration} (hd : t.DeclarationResolves d) : t'.DeclarationResolves d := by
  cases d with
  | array n gs => trivial
  | rule n body => exact fun i hi => h.resolves (hd i hi)
  | state s => exact ⟨fun i hi => h.resolves (hd.1 i hi), h.sourceResolves hd.2⟩

end DeclaresMore

end Symbols

open Symbols

variable {ds : List Declaration}

theorem ite_nil_eq_nil_iff {α : Type} {p : Prop} [Decidable p] {a : α} :
    (if p then [] else [a]) = [] ↔ p := by
  by_cases h : p <;> simp [h]

theorem checkItem_eq_nil_iff {states : List StateDecl} {site : Site} {item : Item} :
    (Scope.ofDeclarations ds states).checkItem site item = [] ↔ (ofDeclarations ds).Resolves item := by
  cases item with
  | inline g => simp [Scope.checkItem, Resolves]
  | arrayRef n => exact ite_nil_eq_nil_iff.trans mem_declaredNames_array
  | ruleRef n => exact ite_nil_eq_nil_iff.trans mem_declaredNames_rule

theorem checkSource_eq_nil_iff {name : String} {source : Source} :
    (Scope.ofDeclarations ds (ofDeclarations ds).states).checkSource name source = [] ↔
      (ofDeclarations ds).SourceResolves source := by
  cases source with
  | groups gs => simp [Scope.checkSource, SourceResolves]
  | name n => exact ite_nil_eq_nil_iff.trans (or_congr mem_declaredNames_array mem_stateNames)

theorem check_eq_nil_iff {d : Declaration} :
    (Scope.ofDeclarations ds (ofDeclarations ds).states).check d = [] ↔
      (ofDeclarations ds).DeclarationResolves d := by
  cases d with
  | array n gs => simp [Scope.check, DeclarationResolves]
  | rule n body =>
      simp only [Scope.check, DeclarationResolves, List.flatMap_eq_nil_iff, checkItem_eq_nil_iff]
  | state s =>
      simp only [Scope.check, DeclarationResolves, List.append_eq_nil_iff, List.flatMap_eq_nil_iff,
        checkItem_eq_nil_iff, checkSource_eq_nil_iff]

theorem unresolvedAmong_eq_nil_iff :
    unresolvedAmong ds (ofDeclarations ds).states = [] ↔
      ∀ d ∈ ds, (ofDeclarations ds).DeclarationResolves d := by
  simp only [unresolvedAmong, List.flatMap_eq_nil_iff, check_eq_nil_iff]

end HyperEvolve
