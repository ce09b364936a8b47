import Storefront.Proofs.Setups

/-! What comes to the console. Setups may succeed or fail in any order, with and without files: the
console shows every record from the level of the last successful one on, once, and no other record.
-/
namespace Storefront.Log

theorem upperChar_of_toUpper {c : Char} (h : c.toUpper.toNat < 128) :
    upperChar c = [c.toUpper] := by
  unfold upperChar
  split
  case h_11 => rfl
  all_goals exact absurd h (by decide)

theorem upperCase_eq {s : String} {cs : List Char} (h : s.toList.map Char.toUpper = cs)
    (hcs : ∀ c ∈ cs, c.toNat < 128) : upperCase s = String.ofList cs := by
  subst h
  have hchar : ∀ c ∈ s.toList, upperChar c = [c.toUpper] := fun c hc =>
    upperChar_of_toUpper (hcs _ (List.mem_map_of_mem hc))
  rw [upperCase, List.flatMap_congr hchar, List.map_eq_flatMap]

/-- The letters of the name of a level may be small or capital. -/
theorem Level.ofName?_of_toUpper {p : String × Level} (hp : p ∈ names) {s : String}
    (h : s.toList.map Char.toUpper = p.1.toList) : ofName? s = some p.2 := by
  have hplain : names.all (fun p => p.1.toList.all fun c => c.toNat < 128) = true := by decide
  have hfound : ∀ p ∈ names, names.find? (·.1 = p.1) = some p := by decide
  have hchars : ∀ c ∈ p.1.toList, c.toNat < 128 := fun c hc =>
    of_decide_eq_true (List.all_eq_true.mp (List.all_eq_true.mp hplain p hp) c hc)
  rw [ofName?, upperCase_eq h hchars, String.ofList_toList, hfound p hp]
  rfl

namespace Registry

/-- A level whose name nobody knows is refused, and nothing has changed. -/
theorem setup_unknown {s : Setup} {wanted : String} (hw : s.wanted? = some wanted)
    (hu : Level.ofName? wanted = none) (r : Registry) :
    r.setup s = (.error (.level (.unknown wanted)), r) := by
  have hlevel : s.level = .error (.unknown wanted) := by rw [Setup.level, hw]; simp only [hu]
  rw [setup, hlevel]

/-- After any history of a logger that had no handlers, in which every file could be opened and some
setup succeeded, the console shows a record under any name exactly once, and exactly when the record
reaches the level of the last setup that succeeded. A setup succeeds exactly when its level is
granted; one that names an unknown level fails and leaves everything as it was. Known names may be
written in any case. -/
theorem console_follows_last_setup {r : Registry} {uses : List Use} {level : Level}
    (h₀ : r.handlers = []) (hopen : AllOpen uses) (hlast : lastLevel? uses = some level)
    (hset : level ≠ .notSet) :
    (∀ name rank message, lines name rank message ≠ [] ∧
      ((r.after uses).emit name rank message).1 =
        if level.rank ≤ rank then lines name rank message else []) ∧
    (∀ (r : Registry) (s : Setup), (r.setup s).1 = .ok () ↔ s.granted?.isSome = true) ∧
    (∀ (r : Registry) (s : Setup) (wanted : String), s.wanted? = some wanted →
      Level.ofName? wanted = none → r.setup s = (.error (.level (.unknown wanted)), r)) ∧
    ∀ p ∈ Level.names, ∀ s : String, s.toList.map Char.toUpper = p.1.toList →
      Level.ofName? s = some p.2 := by
  have harranged : (r.after uses).Arranged (some level) (openedPaths r.directory uses) :=
    hlast ▸ arranged_after h₀ hopen
  have hthreshold : level.threshold = level := if_neg hset
  refine ⟨fun name rank message => ⟨lines_ne_nil name rank message, ?_⟩, fun r s => setup_eq_ok_iff,
    fun r s wanted hw hu => setup_unknown hw hu r, fun p hp s hs => Level.ofName?_of_toUpper hp hs⟩
  rw [emit_fst, countP_console_takers harranged, hthreshold]
  split
  · exact copies_one _
  · rfl

/-- Two setups that succeed, with files, and one between them that does not. -/
def quieted : List Use :=
  [.setup ⟨some "INFO", some "debug", some { path := "one.log" }⟩, .emit (some "task") 10 "begun",
    .setup ⟨some "INFO", some "LOUD", none⟩,
    .setup ⟨some "Info", some "", some { path := "../two.log" }⟩]

theorem console_follows_last_setup_of_quieted :
    AllOpen quieted ∧ lastLevel? quieted = some .info ∧
    ((({ level := .error } : Registry).after quieted).emit (some "task") 25 "a\nb").1 =
      ["buy_client.task - Level 25 - a", "b"] ∧
    ((({ level := .error } : Registry).after quieted).emit none 19 "a").1 = [] := by
  have hlast : lastLevel? quieted = some .info := by decide +kernel
  have hopen : AllOpen quieted := by
    unfold AllOpen
    decide +kernel
  obtain ⟨hconsole, -⟩ :=
    console_follows_last_setup (r := { level := .error }) rfl hopen hlast (by decide)
  refine ⟨hopen, hlast, ?_, ?_⟩
  · rw [(hconsole _ _ _).2]
    decide +kernel
  · rw [(hconsole _ _ _).2]
    rfl

end Registry

end Storefront.Log
