import HyperEvolve.Proofs.Artifact.Wire
import HyperEvolve.Proofs.Storage.Files
import HyperEvolve.Storage.Artifacts

/-!
# Stored artifacts read back

An artifact is given back by its wire text, and by the file that the wire text was written to.
-/

namespace HyperEvolve

/-- The text of a document is read back from the file that holds it. -/
theorem Disk.readText_compact {d : Document} (h : d.Readable) {p : Path} {t : FileTree} {place : Place}
    (hnull : p.hasNull = false) (hplace : t.locate p = .ok place)
    (hfile : t.entry? place = some (.file (Utf8.encode d.compact))) :
    (Disk.readText p).run t = (.ok d.compact, t) := by
  have hplain : ∀ c ∈ d.write, c.toNat < 0x80 ∧ c ≠ '\r' := by
    intro c hc
    obtain ⟨hlow, hhigh⟩ := h.printable c hc
    refine ⟨by omega, ?_⟩
    rintro rfl
    exact absurd hlow (by decide)
  exact Disk.readText_of_file hplain hnull hplace hfile

/-- An artifact is read back from the file that holds its wire text. -/
theorem readArtifact_of_file {a : Artifact} (h : a.document.Readable) {p : Path} {t : FileTree} {place : Place}
    (hnull : p.hasNull = false) (hplace : t.locate p = .ok place)
    (hfile : t.entry? place = some (.file (Utf8.encode a.serialize))) : readArtifact p t = .ok a := by
  have hread : (Disk.readText p).run t = (.ok a.serialize, t) := Disk.readText_compact h hnull hplace hfile
  rw [readArtifact, hread]
  simp only [Artifact.deserialize_serialize h]

/-- Writing an artifact stores its wire text and makes the directories that are missing above. -/
structure WroteArtifact (a : Artifact) (p : Path) (place : Place) (t t' : FileTree) : Prop where
  noNull : p.hasNull = false
  located : t'.locate p = .ok place
  grows : t.Grows t'
  entry : t'.entry? place = some .void ∨ t'.entry? place = some (.file (Utf8.encode a.serialize))
  other : ∀ q e, q ≠ place → t.entry? q = some e → t'.entry? q = some e

theorem wrote_of_writeArtifact {a : Artifact} {p : Path} {t t' : FileTree}
    (h : (writeArtifact a p).run t = (.ok (), t')) : ∃ place, WroteArtifact a p place t t' := by
  obtain ⟨_, t₁, hmake, hwrite⟩ := Disk.run_bind_ok h
  have hextends := Disk.extends_makeDirectories hmake
  obtain ⟨hnull, place, hplace, hstored⟩ := Disk.stored_of_writeText hwrite
  refine ⟨place, hnull, hplace, hextends.toGrows.trans hstored.grows, hstored.entry, ?_⟩
  intro q e hq he
  rw [hstored.other q hq]
  exact hextends.keeps q e he

theorem readArtifact_of_writeArtifact {a : Artifact} (h : a.document.Readable) {p : Path} {t t' : FileTree}
    (hwrite : (writeArtifact a p).run t = (.ok (), t')) (hvoid : t'.look p ≠ .ok .void) :
    readArtifact p t' = .ok a := by
  obtain ⟨place, hwrote⟩ := wrote_of_writeArtifact hwrite
  obtain hentry | hentry := hwrote.entry
  · refine absurd ?_ hvoid
    simp only [FileTree.look, hwrote.located, bind, Except.bind, hentry]
  · exact readArtifact_of_file h hwrote.noNull hwrote.located hentry

/-- Decoding undoes encoding: an artifact whose texts hold no high surrogate directly before a low one,
and whose numbers of steps are not too long to be read, is given back by its wire text and by the file
that it was written to. -/
theorem Artifact.read_back (a : Artifact) (htexts : ∀ t ∈ a.texts, t.Unpaired)
    (hcounts : ∀ n ∈ a.counts, Decimal.width n.natAbs ≤ Decimal.maxDigits) :
    Artifact.deserialize a.serialize = .ok a ∧
    (∀ c ∈ a.serialize.toList, 0x20 ≤ c.toNat ∧ c.toNat ≤ 0x7E) ∧
    ∀ p t t', (writeArtifact a p).run t = (.ok (), t') → t'.look p ≠ .ok .void →
      readArtifact p t' = .ok a := by
  have h := Artifact.readable_document htexts hcounts
  refine ⟨Artifact.deserialize_serialize h, ?_, ?_⟩
  · intro c hc
    rw [serialize, Document.compact, String.toList_ofList] at hc
    exact h.printable c hc
  · intro p t t' hwrite hvoid
    exact readArtifact_of_writeArtifact h hwrite hvoid

/-- Two levels, with texts that hold a quote, a control, a character beyond the basic plane and
surrogates in the wrong order. -/
def nestedArtifact : Artifact where
  hypergraph := .evolved (.edges [⟨["a", "\"\\\r\x7f", "😀"]⟩, ⟨[]⟩])
    ⟨.ofList [("left", [⟨["x"]⟩]), ("", [])], some (-120), false⟩
  rule := .ofList [("right", []), ("é", [⟨[[.ofNat 0xDC00, .ofNat 0xD800]]⟩])]
  steps := none
  clean := true

def nestedPath : Path := ⟨.relative, ["build", "s.hg.json"]⟩

/-- The file of the nested artifact below a new build directory. -/
def nestedTree : FileTree :=
  (FileTree.put ⟨∅, []⟩ ["build"] .directory).put ["build", "s.hg.json"]
    (.file (Utf8.encode nestedArtifact.serialize))

theorem Artifact.read_back_nestedArtifact :
    (∀ t ∈ nestedArtifact.texts, t.Unpaired) ∧
    (∀ n ∈ nestedArtifact.counts, Decimal.width n.natAbs ≤ Decimal.maxDigits) ∧
    Artifact.deserialize nestedArtifact.serialize = .ok nestedArtifact ∧
    (writeArtifact nestedArtifact nestedPath).run ⟨∅, []⟩ = (.ok (), nestedTree) ∧
    nestedTree.look nestedPath ≠ .ok .void ∧ readArtifact nestedPath nestedTree = .ok nestedArtifact := by
  have htexts : ∀ t ∈ nestedArtifact.texts, t.Unpaired := by decide
  have hcounts : ∀ n ∈ nestedArtifact.counts, Decimal.width n.natAbs ≤ Decimal.maxDigits := by decide
  have hwrite : (writeArtifact nestedArtifact nestedPath).run ⟨∅, []⟩ = (.ok (), nestedTree) := by
    unfold writeArtifact Disk.makeDirectories Disk.makeDirectoriesWithin
    rfl
  have hlook : nestedTree.look nestedPath = .ok (.file (Utf8.encode nestedArtifact.serialize)) := rfl
  have hvoid : nestedTree.look nestedPath ≠ .ok .void := by
    rw [hlook]
    intro h
    cases h
  obtain ⟨htext, -, hfile⟩ := Artifact.read_back nestedArtifact htexts hcounts
  exact ⟨htexts, hcounts, htext, hwrite, hvoid, hfile _ _ _ hwrite hvoid⟩

end HyperEvolve
