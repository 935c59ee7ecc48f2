import ParenTokens.Proofs.Places
import ParenTokens.Proofs.Validation

namespace ParenTokens

/-!
# Initializing keeps all files

A run of `init` either changes nothing or writes one file, where nothing was before.  So runs in a sequence, each from a
place of its own, never write a file twice.  There are no links, and all that may be forbidden is to add to a directory.

* `Settings.ofBytes_defaultText` — the file that is written loads as the defaults.
* `Command.Start` — a run of `init`, and where it starts; `Command.Start.Writes` — it may write its file.
* `Command.Start.run_eq` — what a run asks for; `Command.Start.ends_run` — all that it can do.
* `Command.Start.standing?_leaves` — what stands where after it.
* `Command.Start.standing?_after`, `Command.Start.nodup_written` — the same for runs in a sequence.
* `Command.Start.run_keeps_files` — all of this together.
-/

open Yaml (Document)

/-! ### The file that is written -/

namespace Settings

/-- The document in the file that is written. -/
def defaultDocument : Document where
  root := .collection 0
  collections := [(0, .mapping [(.text formatField, .scalar (.text OutputFormat.text.name)),
    (.text colorField, .scalar (.truthValue true))])]

theorem document_defaultText : Document.ofText (unifyLines defaultText) = .ok defaultDocument := by decide +kernel

/-- The file that is written has the defaults. -/
theorem ofBytes_defaultText (label : Text) : ofBytes label defaultText.utf8 = .ok {} := by
  have hdecode : Utf8.decode defaultText.utf8 = .ok defaultText := by decide +kernel
  have hsettings : ofDocument defaultDocument = .ok {} := by decide +kernel
  rw [ofBytes_of_decode hdecode, ofText_of_document document_defaultText, hsettings]
  rfl

end Settings

namespace Command

/-! ### One run -/

/-- A run of `init`: where it starts, by names from the root down, the directory that it is given, and its input. -/
structure Start where
  home : List Text
  plain : Path.above ∉ home
  directory : Text
  input : List UInt8

namespace Start

/-- What a run does to a tree of files. -/
def run (s : Start) (root : Tree) : Outcome := (Invocation.init s.directory).run ⟨root, s.home⟩ s.input

/-- The files after a run. -/
def leaves (s : Start) (root : Tree) : Tree := (s.run root).world.root

/-- The directory that is meant. -/
def location (s : Start) : List Text := (Path.ofText s.directory).canonical s.home

/-- The file that is meant. -/
def target (s : Start) : List Text := s.location ++ [Settings.fileName]

theorem above_notMem_location (s : Start) : Path.above ∉ s.location := Path.above_notMem_canonical s.plain _

theorem above_notMem_target (s : Start) : Path.above ∉ s.target := by
  have hname : Path.above ≠ Settings.fileName := by decide +kernel
  simp [target, s.above_notMem_location, hname]

/-- A run may write its file: the directory is there, the file is not, and the system accepts both. -/
structure Writes (s : Start) (root : Tree) : Prop where
  given : (Path.ofText s.directory).hasNul = false
  named : (Path.absolute s.location).hasNul = false
  outer : Path.Fits s.location
  fits : Path.Fits s.target
  directory : root.standing? s.location = some none
  absent : root.standing? s.target = none

theorem hasNul_target (s : Start) (h : (Path.absolute s.location).hasNul = false) :
    (Path.absolute s.target).hasNul = false := by
  have hname : Settings.fileName.any (·.val == 0) = false := by decide +kernel
  have hlocation : s.location.any (fun part => part.any (·.val == 0)) = false := h
  show (s.location ++ [Settings.fileName]).any (fun part => part.any (·.val == 0)) = false
  simp [List.any_append, hlocation, hname]

/-- The name of the file is short. -/
theorem fits_target {s : Start} (h : Path.Fits s.location)
    (hpath : (Path.absolute s.target).display.utf8.length ≤ World.pathLimit) : Path.Fits s.target := by
  refine ⟨hpath, ?_⟩
  intro name hmem
  rcases List.mem_append.1 hmem with hmem | hmem
  · exact h.names name hmem
  · rw [List.mem_singleton.1 hmem]
    decide +kernel

/-- What is told where there is no directory. -/
def absentMessage (s : Start) : Text :=
  ("directory '" : Text) ++ (Path.absolute s.location).display ++ ("' does not exist." : Text)

/-- What is told where the file is there. -/
def presentMessage (s : Start) : Text :=
  ("configuration already exists at '" : Text) ++ (Path.absolute s.target).display ++ ("'." : Text)

/-- What is told where the file is written. -/
def writtenMessage (s : Start) : Text :=
  ("Wrote parenlex configuration to '" : Text) ++ (Path.absolute s.target).display ++ ("'." : Text)

theorem run_of_hasNul {s : Start} {root : Tree} (h : (Path.ofText s.directory).hasNul = true) :
    s.run root = interruptedBy ⟨root, s.home⟩ .nulInPath := by
  show runInit ⟨root, s.home⟩ s.directory = _
  unfold runInit
  dsimp only
  rw [if_pos h]

/-- A run asks for the location, then for the target, and then writes. -/
theorem run_eq {s : Start} {root : Tree} (h : (Path.ofText s.directory).hasNul = false) :
    s.run root = match World.exists? ⟨root, s.home⟩ (.absolute s.location) with
      | .error fault => interruptedBy ⟨root, s.home⟩ (.file fault)
      | .ok false => failWith ⟨root, s.home⟩ s.absentMessage
      | .ok true => match World.exists? ⟨root, s.home⟩ (.absolute s.target) with
        | .error fault => interruptedBy ⟨root, s.home⟩ (.file fault)
        | .ok true => failWith ⟨root, s.home⟩ s.presentMessage
        | .ok false => match World.write ⟨root, s.home⟩ s.location Settings.fileName Settings.defaultText.utf8 with
          | .error fault => interruptedBy ⟨root, s.home⟩ (.file fault)
          | .ok after => { verdict := .exit 0, out := line s.writtenMessage, err := [], world := after } := by
  show runInit ⟨root, s.home⟩ s.directory = _
  unfold runInit
  dsimp only
  rw [if_neg (Bool.eq_false_iff.1 h)]
  rfl

/-- How a run ends: it is interrupted, or tells why it does nothing; or it writes its file, which it may. -/
inductive Ends (s : Start) (root : Tree) : Outcome → Prop
  | interrupted (i : Interruption) : Ends s root (interruptedBy ⟨root, s.home⟩ i)
  | told (message : Text) : Ends s root (failWith ⟨root, s.home⟩ message)
  | wrote {o : Outcome} (writes : s.Writes root) (verdict : o.verdict = .exit 0)
      (world : o.world = ⟨.put (.file Settings.defaultText.utf8) s.target root, s.home⟩) : Ends s root o

/-- **A run.** It writes its file into a directory that has none, or changes nothing. -/
theorem ends_run (s : Start) (root : Tree) : s.Ends root (s.run root) := by
  cases hgiven : (Path.ofText s.directory).hasNul with
  | true =>
    rw [run_of_hasNul hgiven]
    exact .interrupted _
  | false =>
  rw [run_eq hgiven]
  split
  · exact .interrupted _
  · exact .told _
  next hlocation =>
  split
  · exact .interrupted _
  · exact .told _
  next htarget =>
  split
  · exact .interrupted _
  next after hwrite =>
  obtain ⟨hnamed, houter, hstanding⟩ := (World.exists?_eq_true_iff s.above_notMem_location).1 hlocation
  have hnul := s.hasNul_target hnamed
  obtain ⟨hshort, hsome⟩ := World.isSome_standing?_of_exists? s.above_notMem_target hnul htarget
  have hfits := fits_target houter (Nat.not_lt.1 (not_or.1 hshort).1)
  have habsent : root.standing? s.target = none :=
    Option.isNone_iff_eq_none.1 (Option.isSome_eq_false_iff.1 hsome)
  obtain ⟨t, hat⟩ := Option.ne_none_iff_exists'.1 (mt Tree.standing?_eq_none_iff.2 hstanding)
  have hwritten := hwrite.symm.trans (World.write_of_fits s.above_notMem_location hat houter _ _)
  -- What is there is a directory, or nothing would have been written.
  cases t with
  | file content => cases hwritten
  | directory children writable =>
    have hdirectory : root.standing? s.location = some none :=
      Tree.standing?_eq_directory_iff.2 ⟨children, writable, hat⟩
    cases writable with
    | false => cases hwritten
    | true => exact .wrote ⟨hgiven, hnamed, houter, hfits, hdirectory, habsent⟩ rfl (Except.ok.inj hwritten)

variable {s : Start} {root : Tree}

theorem Ends.writes {o : Outcome} (h : s.Ends root o) (hverdict : o.verdict = .exit 0) :
    s.Writes root ∧ o.world = ⟨.put (.file Settings.defaultText.utf8) s.target root, s.home⟩ := by
  cases h with
  | interrupted i => cases hverdict
  | told message => cases hverdict
  | wrote writes verdict world => exact ⟨writes, world⟩

theorem Ends.world_eq {o : Outcome} (h : s.Ends root o) (hverdict : o.verdict ≠ .exit 0) : o.world = ⟨root, s.home⟩ := by
  cases h with
  | interrupted i => rfl
  | told message => rfl
  | wrote writes verdict world => exact (hverdict verdict).elim

/-- What stands where after a run. -/
theorem standing?_leaves (s : Start) (root : Tree) (location : List Text) :
    (s.leaves root).standing? location =
      if (s.run root).verdict = .exit 0 ∧ location = s.target then some (some Settings.defaultText.utf8)
      else root.standing? location := by
  by_cases hverdict : (s.run root).verdict = .exit 0
  · obtain ⟨hwrites, hworld⟩ := (s.ends_run root).writes hverdict
    unfold leaves
    rw [hworld]
    simp only [hverdict, true_and]
    exact Tree.standing?_put_file hwrites.directory hwrites.absent _ _
  · unfold leaves
    rw [(s.ends_run root).world_eq hverdict, if_neg fun h => hverdict h.1]

/-- A run forgets nothing. -/
theorem standing?_leaves_of_some {location : List Text} {standing : Option (List UInt8)}
    (h : root.standing? location = some standing) : (s.leaves root).standing? location = some standing := by
  rw [standing?_leaves]
  split
  · next hnew =>
    obtain ⟨hverdict, rfl⟩ := hnew
    rw [((s.ends_run root).writes hverdict).1.absent] at h
    cases h
  · exact h

/-- Where the file is there already, that is told, and nothing changes. -/
theorem run_of_standing (hwrites : s.Writes root) {root' : Tree}
    (hlocation : root'.standing? s.location ≠ none) (htarget : root'.standing? s.target ≠ none) :
    (s.run root').verdict = .exit 1 ∧ (s.run root').world = ⟨root', s.home⟩ := by
  have hexists : World.exists? ⟨root', s.home⟩ (.absolute s.location) = .ok true :=
    (World.exists?_eq_true_iff s.above_notMem_location).2 ⟨hwrites.named, hwrites.outer, hlocation⟩
  have hexists' : World.exists? ⟨root', s.home⟩ (.absolute s.target) = .ok true :=
    (World.exists?_eq_true_iff s.above_notMem_target).2 ⟨s.hasNul_target hwrites.named, hwrites.fits, htarget⟩
  rw [run_eq hwrites.given, hexists, hexists']
  exact ⟨rfl, rfl⟩

/-- The file that was written loads as the defaults. -/
theorem load_target (h : (s.run root).verdict = .exit 0) :
    Settings.load (s.run root).world (.absolute s.target) = .ok {} := by
  obtain ⟨hwrites, hworld⟩ := (s.ends_run root).writes h
  have hat : (s.leaves root).at? s.target = some (.file Settings.defaultText.utf8) := by
    rw [← Tree.standing?_eq_file_iff, standing?_leaves, if_pos ⟨h, rfl⟩]
  have hread : (s.run root).world.read (.absolute s.target) = .ok Settings.defaultText.utf8 := by
    unfold World.read
    rw [World.find_of_fits s.above_notMem_target hat hwrites.fits]
  have hnul := s.hasNul_target hwrites.named
  unfold Settings.load
  rw [if_neg (Bool.eq_false_iff.1 hnul), hread]
  exact Settings.ofBytes_defaultText _

/-! ### Runs in a sequence -/

/-- The files after some runs, one after another. -/
def after (root : Tree) (starts : List Start) : Tree := starts.foldl (fun root s => s.leaves root) root

/-- The files that some runs write, one after another. -/
def written (root : Tree) : List Start → List (List Text)
  | [] => []
  | s :: later =>
    if (s.run root).verdict = .exit 0 then s.target :: written (s.leaves root) later else written (s.leaves root) later

theorem mem_written_cons {later : List Start} {location : List Text} :
    location ∈ written root (s :: later) ↔
      ((s.run root).verdict = .exit 0 ∧ location = s.target) ∨ location ∈ written (s.leaves root) later := by
  rw [written]
  by_cases hverdict : (s.run root).verdict = .exit 0
  · simp [hverdict]
  · simp [hverdict]

/-- What stands where after some runs. -/
theorem standing?_after (root : Tree) (starts : List Start) (location : List Text) :
    (after root starts).standing? location =
      if location ∈ written root starts then some (some Settings.defaultText.utf8) else root.standing? location := by
  induction starts generalizing root with
  | nil => rfl
  | cons s later ih =>
    show (after (s.leaves root) later).standing? location = _
    rw [ih, standing?_leaves]
    by_cases hlater : location ∈ written (s.leaves root) later
    · rw [if_pos hlater, if_pos (mem_written_cons.2 (.inr hlater))]
    · have hiff : location ∈ written root (s :: later) ↔ (s.run root).verdict = .exit 0 ∧ location = s.target := by
        simp [mem_written_cons, hlater]
      simp only [if_neg hlater, hiff]

/-- What is written was not there before. -/
theorem standing?_of_mem_written {starts : List Start} {location : List Text} (h : location ∈ written root starts) :
    root.standing? location = none := by
  induction starts generalizing root with
  | nil => cases h
  | cons s later ih =>
    rcases mem_written_cons.1 h with ⟨hverdict, rfl⟩ | hlater
    · exact ((s.ends_run root).writes hverdict).1.absent
    · cases hstanding : root.standing? location with
      | none => rfl
      | some standing =>
        have habsent := ih hlater
        rw [standing?_leaves_of_some hstanding] at habsent
        cases habsent

theorem nodup_written (root : Tree) (starts : List Start) : (written root starts).Nodup := by
  induction starts generalizing root with
  | nil => exact List.nodup_nil
  | cons s later ih =>
    rw [written]
    by_cases hverdict : (s.run root).verdict = .exit 0
    · rw [if_pos hverdict, List.nodup_cons]
      refine ⟨?_, ih _⟩
      intro hmem
      -- It is there after the first run.
      have habsent := standing?_of_mem_written hmem
      rw [standing?_leaves, if_pos ⟨hverdict, rfl⟩] at habsent
      cases habsent
    · rw [if_neg hverdict]
      exact ih _

theorem standing?_after_of_some {location : List Text} {standing : Option (List UInt8)}
    (h : root.standing? location = some standing) (starts : List Start) :
    (after root starts).standing? location = some standing := by
  rw [standing?_after, if_neg, h]
  intro hmem
  rw [standing?_of_mem_written hmem] at h
  cases h

end Start

end Command

end ParenTokens
