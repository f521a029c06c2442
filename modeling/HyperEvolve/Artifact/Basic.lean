import HyperEvolve.Declaration.Basic
import HyperEvolve.Table
import HyperEvolve.Text.CodePoint

/-!
# Artifacts

What is handed to the execution service for one state: a hypergraph and the rule to evolve it by. A
hypergraph is a list of hyperedges, or the result of evolving another hypergraph.
-/

namespace HyperEvolve

/-- An ordered list of vertex labels. -/
structure Hyperedge where
  vertices : List Text
deriving DecidableEq

/-- How one level of an artifact evolves: hyperedges by role, the number of steps, and a mark that
is set on everything freshly compiled. -/
structure Layer where
  rule : Table Text (List Hyperedge)
  steps : Option Int
  clean : Bool
deriving DecidableEq

inductive Hypergraph where
  | edges (edges : List Hyperedge)
  | evolved (base : Hypergraph) (layer : Layer)
deriving DecidableEq

structure Artifact extends Layer where
  hypergraph : Hypergraph
deriving DecidableEq

/-- The artifact as the hypergraph it evolves into. -/
def Artifact.evolved (a : Artifact) : Hypergraph := .evolved a.hypergraph a.toLayer

/-- The numbers of steps, at every level that has one. -/
def Hypergraph.counts : Hypergraph → List Int
  | .edges _ => []
  | .evolved base layer => base.counts ++ layer.steps.toList

def Artifact.counts (a : Artifact) : List Int := a.evolved.counts

def Hyperedge.ofGroup (g : Group) : Hyperedge := ⟨g.map Text.ofString⟩

@[simp] theorem Hyperedge.vertices_ofGroup (g : Group) :
    (Hyperedge.ofGroup g).vertices = g.map Text.ofString := rfl

/-- One hyperedge for each group. -/
def edgesOf (gs : List Group) : List Hyperedge := gs.map Hyperedge.ofGroup

end HyperEvolve
