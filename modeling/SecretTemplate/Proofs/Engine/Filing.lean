import SecretTemplate.Proofs.Engine.Paths
import SecretTemplate.Proofs.Engine.Queries

namespace SecretTemplate.Engine

namespace Lookups

variable {σ : Type} {answers : Answers} {paths : List String} {m : Lookups σ} {told : List Happening}

theorem Turns.named {cell : Cell} {shape : Shape} (turns : Turns cell told) (known : cell = .known shape) :
    ∃ e ∈ told, ∃ answer, e.deed = .asked answer ∧ classify (clean e.path) answer = .ok shape := by
  induction turns with
  | nil => cases known
  | ask => cases known
  | answer before i path answer =>
    exact ⟨⟨i, path, .asked answer⟩, by simp, answer, rfl, Cell.ofResult_eq_known known⟩
  | reuse before i path ih =>
    obtain ⟨e, member, named⟩ := ih known
    exact ⟨e, List.mem_append_left _ member, named⟩

/-- Shapes are kept under the first segments of the paths that were asked for and of those that are read, as far as the
    paths are clean after they were cleaned once. -/
structure Filed (m : Lookups σ) (told : List Happening) : Prop where
  named : ∀ {name : String} {shape : Shape}, m.cell name = .known shape →
    ∃ e ∈ told, ∃ answer, e.deed = .asked answer ∧ classify (clean e.path) answer = .ok shape ∧
      cellOf e.path = name ∧ (clean (clean e.path) = clean e.path → firstSegment (clean e.path) = name)
  served : ∀ {i : Nat} {l : Lookup} {shape : Shape}, m.lookups[i]? = some l → l.stage = .settled (.ok shape) →
    clean l.query = l.query →
    m.cell (firstSegment l.query) = .known shape ∧ m.cell (firstSegment (shape.readPath l.path)) = .known shape

theorem Recorded.filed (recorded : m.Recorded answers paths told) : Filed m told where
  named := by
    intro name shape known
    obtain ⟨e, member, answer, asked, classified⟩ := (recorded.inTurns.turns name).named known
    obtain ⟨listed, same⟩ := List.mem_filter.mp member
    have filed : cellOf e.path = name := of_decide_eq_true same
    refine ⟨e, listed, answer, asked, classified, filed, fun again => ?_⟩
    rw [firstSegment_clean, ← cellOf_of_clean again]
    exact filed
  served := by
    intro i l shape here settled again
    have listed : paths[i]? = some l.path := by rw [← recorded.samePaths, List.getElem?_map, here, Option.map_some]
    have result : m.result? i = some (.ok shape) := result?_eq_some_iff.mpr ⟨l, here, settled⟩
    obtain ⟨e, member, found⟩ := recorded.found_of_result_ok listed result
    have known := (recorded.inTurns.turns _).known_of_shape? member (by rw [found]; rfl)
    rw [cellOf_of_clean again] at known
    rw [Lookup.query, firstSegment_clean, firstSegment_readPath]
    exact ⟨known, known⟩

/-- A path is clean after it was cleaned once exactly if that left no white space at its ends. The path that is read for
    it begins with the same segment as the one that is asked for, and under that segment its shape is kept if it was
    clean after it was cleaned once. -/
theorem shapes_filed (store : Store σ) (paths : List String) (s : Session σ) (schedule : List Nat) :
    (∀ path, clean (clean path) = clean path ↔ Trimmed (clean path)) ∧
    (∀ path (shape : Shape), firstSegment (shape.readPath path) = firstSegment (clean path)) ∧
    let first := ofPaths paths s
    let last := first.run store schedule
    let told := history store first schedule
    last.session.calls = s.calls ++ told.filterMap Happening.call? ∧ Filed last told := by
  refine ⟨clean_clean_iff, fun path shape => ?_, calls_run store (ofPaths paths s) schedule, ?_⟩
  · rw [firstSegment_readPath, firstSegment_clean]
  · exact (recorded_history store paths s schedule).filed

/-- A store in which one mount with a blank in front of its name is enveloped, and all others are flat. -/
def spaced : Store Unit where
  name := "spaced"
  authenticate _ s := ⟨.ok (), [], s⟩
  mountVersion path s := ⟨.ok (some (if firstSegment path = " d" then "2" else "1")), [], s⟩
  read _ s := ⟨.ok none, [], s⟩

/-- The shape of one mount is kept under the name of another, and is taken for the other's. -/
theorem shape_filed_under_another_mount :
    clean "/ d/x" = " d/x" ∧ clean (clean "/ d/x") = "d/x" ∧ firstSegment (clean "/ d/x") = " d" ∧
      firstSegment (Shape.enveloped.readPath "/ d/x") = " d" ∧
      let last := (ofPaths ["/ d/x", "d/x"] ⟨(), []⟩).run spaced [0, 0, 1]
      last.session.calls = [.mountVersion " d/x"] ∧ last.cell " d" = .vacant ∧ last.cell "d" = .known .enveloped ∧
        (last.result? 1).map Except.toOption = some (some .enveloped) ∧
        (spaced.mountVersion "d/x" ()).answer.toOption = some (some "1") := by
  decide +kernel

end Lookups

end SecretTemplate.Engine
