import Storefront.Proofs.Setups

/-! What comes to the files. Every setup that names a file adds one more handler for it, and what
the logger holds back, no handler sees. So a file has a record once for each of these setups, or not
at all when the record is below the level of the logger. -/
namespace Storefront.Log.Registry

variable {r : Registry} {uses : List Use} {level : Level}

theorem openedPaths_of_granted (hok : ∀ s ∈ setups uses, s.granted?.isSome = true)
    (directory : List (List Char)) (path : String) :
    (openedPaths directory uses).countP (· = path) =
      (setups uses).countP (·.path? directory = some path) := by
  rw [openedPaths, List.countP_filterMap]
  refine List.countP_congr fun s hs => ?_
  obtain ⟨level, hlevel⟩ := Option.isSome_iff_exists.mp (hok s hs)
  rw [hlevel]
  cases s.path? directory <;> simp

theorem allOpen_of_granted (hok : ∀ s ∈ setups uses, s.granted?.isSome = true) : AllOpen uses := by
  intro s hs f hf
  have hs := hok s hs
  rw [Setup.granted?, Option.mem_def.mp hf] at hs
  by_contra hclosed
  simp [hclosed] at hs

/-- Lines that are there stand somewhere else when they are written again. -/
theorem copies_eq_self_iff {n : Nat} {new : List String} (h : new ≠ []) :
    copies n new = new ↔ n = 1 := by
  constructor
  · intro hn
    have hlength := congrArg List.length hn
    rw [length_copies] at hlength
    exact Nat.eq_of_mul_eq_mul_right (List.length_pos_iff.mpr h) (by omega)
  · rintro rfl
    exact copies_one new

/-- After any history of a logger that had no handlers, in which all setups succeeded, a record
comes to a file once for each setup that has named the file, unless the record is below the level of
the last setup (where none is set, below that of a warning); then it does not come there at all. So
it comes there exactly once exactly when one setup alone has named the file and the record reaches
that level. -/
theorem file_has_record_per_setup (h₀ : r.handlers = [])
    (hok : ∀ s ∈ setups uses, s.granted?.isSome = true) (hlast : lastLevel? uses = some level)
    (path : String) (name : Option String) (rank : Int) (message : String) :
    (((r.after uses).emit name rank message).2.contents path =
      (r.after uses).contents path ++
        copies (if level.threshold.rank ≤ rank then
            (setups uses).countP (·.path? r.directory = some path) else 0)
          (lines name rank message)) ∧
    (((r.after uses).emit name rank message).2.contents path =
        (r.after uses).contents path ++ lines name rank message ↔
      level.threshold.rank ≤ rank ∧
        (setups uses).countP (·.path? r.directory = some path) = 1) := by
  have harranged : (r.after uses).Arranged (some level) (openedPaths r.directory uses) :=
    hlast ▸ arranged_after h₀ (allOpen_of_granted hok)
  have hcontents := contents_emit (r.after uses) name rank message path
  rw [countP_file_takers harranged, openedPaths_of_granted hok] at hcontents
  refine ⟨hcontents, ?_⟩
  rw [hcontents, List.append_cancel_left_eq, copies_eq_self_iff (lines_ne_nil name rank message)]
  split
  · rename_i hrank
    exact (and_iff_right hrank).symm
  · rename_i hrank
    simp [hrank]

/-- A setup that names a file, or the same file in other words. -/
def logging (path : String) : Use := .setup ⟨none, some "info", some { path }⟩

/-- Three setups, of which two name one file. -/
def three : List Use := [logging "a.log", logging "b.log", logging "./b/../b.log"]

theorem file_has_record_per_setup_of_three :
    (∀ s ∈ setups three, s.granted?.isSome = true) ∧ lastLevel? three = some .info ∧
    ((({} : Registry).after three).emit (some "task") 20 "done").2.contents "/a.log" =
      ["buy_client.task - INFO - done"] ∧
    ((({} : Registry).after three).emit (some "task") 20 "done").2.contents "/b.log" =
      ["buy_client.task - INFO - done", "buy_client.task - INFO - done"] := by
  have hok : ∀ s ∈ setups three, s.granted?.isSome = true := by decide +kernel
  have hlast : lastLevel? three = some .info := by decide +kernel
  obtain ⟨-, honce⟩ :=
    file_has_record_per_setup (r := {}) rfl hok hlast "/a.log" (some "task") 20 "done"
  obtain ⟨htwice, -⟩ :=
    file_has_record_per_setup (r := {}) rfl hok hlast "/b.log" (some "task") 20 "done"
  refine ⟨hok, hlast, ?_, ?_⟩
  · rw [honce.mpr ⟨by decide, by decide +kernel⟩]
    decide +kernel
  · rw [htwice]
    decide +kernel

/-- Two setups with one file: a record of the lowest level does not come to the file, and any other
record comes there twice. -/
theorem repeated_setup_repeats_record :
    (∀ s ∈ setups [logging "a.log", logging "a.log"], s.granted?.isSome = true) ∧
    ((({} : Registry).after [logging "a.log", logging "a.log"]).emit (some "task") 10
      "quiet").2.contents "/a.log" = [] ∧
    ((({} : Registry).after [logging "a.log", logging "a.log"]).emit (some "task") 20
      "loud").2.contents "/a.log" =
        ["buy_client.task - INFO - loud", "buy_client.task - INFO - loud"] := by
  decide +kernel

end Storefront.Log.Registry
