import ParenTokens.Files.World
import Mathlib.Data.List.Basic

namespace ParenTokens

/-!
# What stands at a location

A location is told by the names that lead to it from the root.  If none of them means the directory above, the path to a
location leads to what stands there, unless the system refuses the path for its length.

* `Tree.standing?` — what stands at a location, by its bytes; `Tree.standing?_put_file` — a new file changes nothing else.
* `Tree.standing?_of_append_cons` — above anything there are directories.
* `Path.Fits` — the locations that the system accepts whatever is there; `Path.above_notMem_canonical`.
* `Tree.Overlong` — those that it refuses in a tree; `Tree.overlong_iff_not_fits`: where something stands, all others.
* `World.find_absolute_eq_ok_iff` — what the path to a location leads to.
* `World.exists?_of_overlong`, `World.exists?_of_not_overlong`, `World.exists?_eq_true_iff` — whether it leads to anything.
* `World.write_of_fits` — what comes of writing into it.
-/

namespace Tree

/-! ### What stands at a location -/

/-- What stands at a location: nothing, a directory, or a file with its bytes. -/
def standing? (location : List Text) (t : Tree) : Option (Option (List UInt8)) := (t.at? location).map content?

theorem standing?_eq_none_iff {location : List Text} {t : Tree} : t.standing? location = none ↔ t.at? location = none :=
  Option.map_eq_none_iff

theorem standing?_eq_directory_iff {location : List Text} {t : Tree} :
    t.standing? location = some none ↔ ∃ children writable, t.at? location = some (directory children writable) := by
  unfold standing?
  cases t.at? location with
  | none => simp
  | some u => cases u <;> simp [content?]

theorem standing?_eq_file_iff {location : List Text} {t : Tree} {content : List UInt8} :
    t.standing? location = some (some content) ↔ t.at? location = some (file content) := by
  unfold standing?
  cases t.at? location with
  | none => simp
  | some u => cases u <;> simp [content?]

theorem at?_append (outer inner : List Text) (t : Tree) : t.at? (outer ++ inner) = (t.at? outer).bind (at? inner) := by
  induction outer generalizing t with
  | nil => rfl
  | cons name outer ih =>
    show (t.child? name).bind (at? (outer ++ inner)) = ((t.child? name).bind (at? outer)).bind (at? inner)
    cases t.child? name with
    | none => rfl
    | some u => exact ih u

theorem at?_file_of_ne_nil {location : List Text} (h : location ≠ []) (content : List UInt8) :
    (file content).at? location = none := by
  cases location with
  | nil => exact absurd rfl h
  | cons name rest => rfl

theorem standing?_cons (name : Text) (rest : List Text) (t : Tree) :
    t.standing? (name :: rest) = (t.child? name).bind (standing? rest) := by
  unfold standing?
  rw [at?]
  cases t.child? name <;> rfl

theorem standing?_below_file {outer : List Text} {t : Tree} {content : List UInt8}
    (h : t.at? outer = some (file content)) (name : Text) (inner : List Text) :
    t.standing? (outer ++ name :: inner) = none := by
  rw [standing?_eq_none_iff, at?_append, h, Option.bind_some]
  exact at?_file_of_ne_nil (List.cons_ne_nil _ _) content

/-- What is above anything is a directory. -/
theorem standing?_of_append_cons {outer inner : List Text} {name : Text} {t : Tree}
    (h : t.standing? (outer ++ name :: inner) ≠ none) : t.standing? outer = some none := by
  cases houter : t.at? outer with
  | none => simp [standing?, at?_append, houter] at h
  | some u =>
    cases u with
    | file content => exact absurd (standing?_below_file houter name inner) h
    | directory children writable => exact standing?_eq_directory_iff.2 ⟨children, writable, houter⟩

theorem standing?_of_append {outer inner : List Text} {t : Tree} (h : t.standing? (outer ++ inner) = some none) :
    t.standing? outer = some none := by
  cases inner with
  | nil => simpa using h
  | cons name inner =>
    have hstanding : t.standing? (outer ++ name :: inner) ≠ none := by simp [h]
    exact standing?_of_append_cons hstanding

/-! ### A new file -/

theorem content?_put (new : Tree) {location : List Text} (h : location ≠ []) (t : Tree) :
    (put new location t).content? = none := by
  cases location with
  | nil => exact absurd rfl h
  | cons name rest => rfl

/-- On the way to where something is put, the rest of the way leads there. -/
theorem at?_put_append {outer inner : List Text} {t u : Tree} (new : Tree) (h : t.at? outer = some u) :
    (put new (outer ++ inner) t).at? outer = some (put new inner u) := by
  induction outer generalizing t with
  | nil =>
    obtain rfl := Option.some.inj h
    rfl
  | cons name outer ih =>
    obtain ⟨child, hchild, hrest⟩ := Option.bind_eq_some_iff.1 h
    show ((put new (name :: (outer ++ inner)) t).child? name).bind (at? outer) = _
    rw [child?_put_cons, if_pos rfl, hchild]
    exact ih hrest

/-- **A new file.** One of a new name in a directory changes nothing else. -/
theorem standing?_put_file {outer : List Text} {name : Text} {t : Tree} (houter : t.standing? outer = some none)
    (habsent : t.standing? (outer ++ [name]) = none) (content : List UInt8) (location : List Text) :
    (put (file content) (outer ++ [name]) t).standing? location =
      if location = outer ++ [name] then some (some content) else t.standing? location := by
  by_cases htarget : location = outer ++ [name]
  · rw [if_pos htarget, htarget, standing?_eq_file_iff]
    exact at?_put _ _ _
  rw [if_neg htarget]
  by_cases hbeyond : outer ++ [name] <+: location
  · -- Beyond the new file there is nothing, and there was nothing.
    obtain ⟨rest, rfl⟩ := hbeyond
    have hrest : rest ≠ [] := by
      rintro rfl
      exact htarget (List.append_nil _)
    rw [standing?_eq_none_iff] at habsent
    unfold standing?
    rw [at?_append, at?_append _ rest t, at?_put, habsent, Option.bind_some, at?_file_of_ne_nil hrest]
    rfl
  by_cases hway : location <+: outer ++ [name]
  · -- On the way there are directories only, which stay some.
    obtain ⟨rest, rfl⟩ := (List.prefix_concat_iff.1 hway).resolve_left htarget
    have hbefore := standing?_of_append houter
    obtain ⟨children, writable, hat⟩ := standing?_eq_directory_iff.1 hbefore
    have hrest : rest ++ [name] ≠ [] := by simp
    rw [hbefore, List.append_assoc]
    unfold standing?
    rw [at?_put_append _ hat, Option.map_some, content?_put _ hrest]
  · have hsame : (put (file content) (outer ++ [name]) t).at? location = t.at? location :=
      at?_put_of_not_prefix hbeyond hway
    unfold standing?
    rw [hsame]

end Tree

/-! ### Locations -/

namespace Path

/-- The system refuses neither the names of a location nor the path to it for being too long. -/
structure Fits (location : List Text) : Prop where
  path : (absolute location).display.utf8.length ≤ World.pathLimit
  names : ∀ name ∈ location, name.utf8.length ≤ World.nameLimit

theorem above_notMem_collapse {location parts : List Text} (h : above ∉ location) : above ∉ collapse location parts := by
  induction parts generalizing location with
  | nil => exact h
  | cons part parts ih =>
    show above ∉ collapse (if part = above then location.dropLast else location ++ [part]) parts
    apply ih
    by_cases hpart : part = above
    · rw [if_pos hpart]
      exact fun hmem => h (List.dropLast_subset _ hmem)
    · rw [if_neg hpart, List.mem_append, List.mem_singleton]
      rintro (hmem | rfl)
      · exact h hmem
      · exact hpart rfl

/-- The location that a path means has a name for every step down. -/
theorem above_notMem_canonical {home : List Text} (h : above ∉ home) (p : Path) : above ∉ p.canonical home := by
  apply above_notMem_collapse
  by_cases hp : p.isAbsolute = true
  · simp [hp]
  · simpa [hp] using h

end Path

/-! ### Paths that are too long -/

namespace Tree

/-- A directory on the way to a location is asked for a name that is too long. -/
def LongName (t : Tree) (location : List Text) : Prop :=
  ∃ outer name, outer ++ [name] <+: location ∧ t.standing? outer = some none ∧ World.nameLimit < name.utf8.length

/-- The system refuses the path to a location for the length of the whole, or of a name. -/
def Overlong (t : Tree) (location : List Text) : Prop :=
  World.pathLimit < (Path.absolute location).display.utf8.length ∨ t.LongName location

theorem not_longName_nil (t : Tree) : ¬ t.LongName [] := by
  rintro ⟨outer, name, hprefix, -⟩
  simp at hprefix

theorem longName_cons {t : Tree} {name : Text} {rest : List Text} :
    t.LongName (name :: rest) ↔
      (t.standing? [] = some none ∧ World.nameLimit < name.utf8.length) ∨
        ∃ u, t.child? name = some u ∧ u.LongName rest := by
  constructor
  · rintro ⟨outer, long, hprefix, hstanding, hlong⟩
    cases outer with
    | nil =>
      obtain ⟨rfl, -⟩ := List.cons_prefix_cons.1 hprefix
      exact .inl ⟨hstanding, hlong⟩
    | cons first outer =>
      obtain ⟨rfl, hinner⟩ := List.cons_prefix_cons.1 hprefix
      rw [standing?_cons] at hstanding
      obtain ⟨u, hchild, hstanding⟩ := Option.bind_eq_some_iff.1 hstanding
      exact .inr ⟨u, hchild, outer, long, hinner, hstanding, hlong⟩
  · rintro (⟨hstanding, hlong⟩ | ⟨u, hchild, outer, long, hprefix, hstanding, hlong⟩)
    · exact ⟨[], name, by simp, hstanding, hlong⟩
    · refine ⟨name :: outer, long, by simpa using hprefix, ?_, hlong⟩
      rw [standing?_cons, hchild]
      exact hstanding

/-- A location with something at it is refused iff it does not fit. -/
theorem overlong_iff_not_fits {t : Tree} {location : List Text} (h : t.standing? location ≠ none) :
    t.Overlong location ↔ ¬ Path.Fits location := by
  constructor
  · rintro (hpath | ⟨outer, name, hprefix, -, hlong⟩) hfits
    · exact absurd hfits.path (Nat.not_le.2 hpath)
    · have hmem : name ∈ location := hprefix.subset (by simp)
      exact absurd (hfits.names name hmem) (Nat.not_le.2 hlong)
  · intro hfits
    by_cases hpath : World.pathLimit < (Path.absolute location).display.utf8.length
    · exact .inl hpath
    · right
      by_contra hnames
      refine hfits ⟨Nat.not_lt.1 hpath, ?_⟩
      intro name hmem
      by_contra hlong
      obtain ⟨outer, inner, rfl⟩ := List.append_of_mem hmem
      exact hnames ⟨outer, name, ⟨inner, by simp⟩, standing?_of_append_cons h, Nat.not_le.1 hlong⟩

end Tree

namespace World

/-! ### Following a path -/

section

variable {t u : Tree} {name : Text} {outer : List Tree} {parts : List Text}

theorem enter_of_child? (hname : name ≠ Path.above) (h : t.child? name = some u) (outer : List Tree) :
    enter (t :: outer) name = if nameLimit < name.utf8.length then .error .nameTooLong else .ok (u :: t :: outer) := by
  cases t with
  | file content => cases h
  | directory children writable =>
    have hlookup : children.lookup name = some u := h
    simp [enter, hname, hlookup]

theorem follow_cons (way : List Tree) (name : Text) (parts : List Text) :
    follow way (name :: parts) = enter way name >>= fun way => follow way parts := List.foldlM_cons

/-- Parts lead to what stands at them, below the tree where they start. -/
theorem exists_follow_eq_ok (habove : Path.above ∉ parts) (h : t.at? parts = some u)
    (hnames : ∀ name ∈ parts, name.utf8.length ≤ nameLimit) (outer : List Tree) :
    ∃ way, follow (t :: outer) parts = .ok (u :: way) := by
  induction parts generalizing t outer with
  | nil =>
    obtain rfl := Option.some.inj h
    exact ⟨outer, rfl⟩
  | cons name parts ih =>
    obtain ⟨child, hchild, hrest⟩ := Option.bind_eq_some_iff.1 h
    have hname : name ≠ Path.above := fun heq => habove (heq ▸ List.mem_cons_self)
    have hshort : ¬ nameLimit < name.utf8.length := Nat.not_lt.2 (hnames name List.mem_cons_self)
    rw [follow_cons, enter_of_child? hname hchild, if_neg hshort]
    exact ih (fun hmem => habove (List.mem_cons_of_mem _ hmem)) hrest
      (fun name hmem => hnames name (List.mem_cons_of_mem _ hmem)) _

theorem follow_of_longName (habove : Path.above ∉ parts) (h : t.LongName parts) (outer : List Tree) :
    follow (t :: outer) parts = .error .nameTooLong := by
  induction parts generalizing t outer with
  | nil => exact absurd h t.not_longName_nil
  | cons name parts ih =>
    have hname : name ≠ Path.above := fun heq => habove (heq ▸ List.mem_cons_self)
    rw [follow_cons]
    rcases Tree.longName_cons.1 h with ⟨hstanding, hlong⟩ | ⟨u, hchild, hrest⟩
    · obtain ⟨children, writable, hat⟩ := Tree.standing?_eq_directory_iff.1 hstanding
      obtain rfl := Option.some.inj hat
      have henter : enter (.directory children writable :: outer) name = .error .nameTooLong := by
        simp [enter, hname, hlong]
      rw [henter]
      rfl
    · rw [enter_of_child? hname hchild]
      by_cases hlong : nameLimit < name.utf8.length
      · rw [if_pos hlong]
        rfl
      · rw [if_neg hlong]
        exact ih (fun hmem => habove (List.mem_cons_of_mem _ hmem)) hrest _

/-- Where nothing stands, parts end at a name that is not there, or at a file. -/
theorem exists_follow_eq_error (habove : Path.above ∉ parts) (h : t.at? parts = none) (hnames : ¬ t.LongName parts)
    (outer : List Tree) :
    ∃ trouble, follow (t :: outer) parts = .error trouble ∧ (trouble = .missing ∨ trouble = .notDirectory) := by
  induction parts generalizing t outer with
  | nil => cases h
  | cons name parts ih =>
    have hname : name ≠ Path.above := fun heq => habove (heq ▸ List.mem_cons_self)
    rw [follow_cons]
    cases t with
    | file content => exact ⟨.notDirectory, rfl, .inr rfl⟩
    | directory children writable =>
      have hshort : ¬ nameLimit < name.utf8.length := fun hlong => hnames (Tree.longName_cons.2 (.inl ⟨rfl, hlong⟩))
      cases hchild : Tree.child? name (.directory children writable) with
      | none =>
        have hlookup : children.lookup name = none := hchild
        have henter : enter (.directory children writable :: outer) name = .error .missing := by
          simp [enter, hname, hshort, hlookup]
        rw [henter]
        exact ⟨.missing, rfl, .inl rfl⟩
      | some u =>
        have hrest : u.at? parts = none := by simpa [Tree.at?, hchild] using h
        rw [enter_of_child? hname hchild, if_neg hshort]
        exact ih (fun hmem => habove (List.mem_cons_of_mem _ hmem)) hrest
          (fun hlong => hnames (Tree.longName_cons.2 (.inr ⟨u, hchild, hlong⟩))) _

end

/-! ### The path to a location -/

section

variable {w : World} {location : List Text}

theorem find_of_long (h : pathLimit < (Path.absolute location).display.utf8.length) :
    w.find (.absolute location) = .error .nameTooLong := by
  unfold find
  rw [if_pos h]
  rfl

theorem find_of_follow_ok (h : ¬ pathLimit < (Path.absolute location).display.utf8.length) {t : Tree} {way : List Tree}
    (hfollow : follow [w.root] location = .ok (t :: way)) : w.find (.absolute location) = .ok t := by
  unfold find
  rw [if_neg h]
  show (follow [w.root] location >>= _) = _
  rw [hfollow]
  rfl

theorem find_of_follow_error (h : ¬ pathLimit < (Path.absolute location).display.utf8.length) {trouble : FileTrouble}
    (hfollow : follow [w.root] location = .error trouble) : w.find (.absolute location) = .error trouble := by
  unfold find
  rw [if_neg h]
  show (follow [w.root] location >>= _) = _
  rw [hfollow]
  rfl

variable (habove : Path.above ∉ location)
include habove

theorem find_of_fits {t : Tree} (h : w.root.at? location = some t) (hfits : Path.Fits location) :
    w.find (.absolute location) = .ok t := by
  obtain ⟨way, hfollow⟩ := exists_follow_eq_ok habove h hfits.names []
  exact find_of_follow_ok (Nat.not_lt.2 hfits.path) hfollow

theorem find_of_overlong (h : w.root.Overlong location) : w.find (.absolute location) = .error .nameTooLong := by
  by_cases hpath : pathLimit < (Path.absolute location).display.utf8.length
  · exact find_of_long hpath
  · exact find_of_follow_error hpath (follow_of_longName habove (h.resolve_left hpath) [])

theorem find_of_at? {t : Tree} (hshort : ¬ w.root.Overlong location) (h : w.root.at? location = some t) :
    w.find (.absolute location) = .ok t := by
  have hstanding : w.root.standing? location ≠ none := by simp [Tree.standing?, h]
  exact find_of_fits habove h (not_not.1 (mt (Tree.overlong_iff_not_fits hstanding).2 hshort))

theorem exists_find_eq_error (hshort : ¬ w.root.Overlong location) (h : w.root.at? location = none) :
    ∃ trouble, w.find (.absolute location) = .error trouble ∧ (trouble = .missing ∨ trouble = .notDirectory) := by
  obtain ⟨hpath, hnames⟩ := not_or.1 hshort
  obtain ⟨trouble, hfollow, htrouble⟩ := exists_follow_eq_error habove h hnames []
  exact ⟨trouble, find_of_follow_error hpath hfollow, htrouble⟩

/-- **Paths.** The path to a location leads to what stands there, if the system accepts it. -/
theorem find_absolute_eq_ok_iff {t : Tree} :
    w.find (.absolute location) = .ok t ↔ ¬ w.root.Overlong location ∧ w.root.at? location = some t := by
  refine ⟨?_, fun h => find_of_at? habove h.1 h.2⟩
  intro hfind
  have hshort : ¬ w.root.Overlong location := by
    intro hlong
    rw [find_of_overlong habove hlong] at hfind
    cases hfind
  cases hat : w.root.at? location with
  | none =>
    obtain ⟨trouble, herror, -⟩ := exists_find_eq_error habove hshort hat
    rw [hfind] at herror
    cases herror
  | some u =>
    rw [find_of_at? habove hshort hat] at hfind
    exact ⟨hshort, congrArg some (Except.ok.inj hfind)⟩

/-- What is there is looked at only where the path to it is not too long. -/
theorem exists?_of_overlong (hnul : (Path.absolute location).hasNul = false) (h : w.root.Overlong location) :
    w.exists? (.absolute location) = .error ⟨.nameTooLong, .absolute location⟩ := by
  unfold exists?
  rw [if_neg (Bool.eq_false_iff.1 hnul), find_of_overlong habove h]

theorem exists?_of_not_overlong (hnul : (Path.absolute location).hasNul = false) (h : ¬ w.root.Overlong location) :
    w.exists? (.absolute location) = .ok (w.root.standing? location).isSome := by
  unfold exists?
  rw [if_neg (Bool.eq_false_iff.1 hnul)]
  cases hat : w.root.at? location with
  | some t => simp [find_of_at? habove h hat, Tree.standing?, hat]
  | none =>
    obtain ⟨trouble, hfind, htrouble⟩ := exists_find_eq_error habove h hat
    rw [hfind, Tree.standing?_eq_none_iff.2 hat]
    rcases htrouble with rfl | rfl <;> rfl

/-- Something is said of a location only where the path to it is not too long. -/
theorem isSome_standing?_of_exists? (hnul : (Path.absolute location).hasNul = false) {b : Bool}
    (h : w.exists? (.absolute location) = .ok b) :
    ¬ w.root.Overlong location ∧ (w.root.standing? location).isSome = b := by
  have hshort : ¬ w.root.Overlong location := by
    intro hlong
    rw [exists?_of_overlong habove hnul hlong] at h
    cases h
  rw [exists?_of_not_overlong habove hnul hshort] at h
  exact ⟨hshort, Except.ok.inj h⟩

theorem exists?_eq_true_iff :
    w.exists? (.absolute location) = .ok true ↔
      (Path.absolute location).hasNul = false ∧ Path.Fits location ∧ w.root.standing? location ≠ none := by
  constructor
  · intro h
    have hnul : (Path.absolute location).hasNul = false := by
      by_contra hnul
      rw [Bool.not_eq_false] at hnul
      unfold exists? at h
      rw [if_pos hnul] at h
      cases h
    obtain ⟨hshort, hsome⟩ := isSome_standing?_of_exists? habove hnul h
    have hstanding := Option.isSome_iff_ne_none.1 hsome
    exact ⟨hnul, not_not.1 (mt (Tree.overlong_iff_not_fits hstanding).2 hshort), hstanding⟩
  · rintro ⟨hnul, hfits, hstanding⟩
    have hshort : ¬ w.root.Overlong location := fun hlong => (Tree.overlong_iff_not_fits hstanding).1 hlong hfits
    rw [exists?_of_not_overlong habove hnul hshort, Option.isSome_iff_ne_none.2 hstanding]

/-- Writing fails below a file, and in a directory that is not writable. -/
theorem write_of_fits {t : Tree} (h : w.root.at? location = some t) (hfits : Path.Fits location) (name : Text)
    (content : List UInt8) :
    w.write location name content = match t with
      | .directory _ true => .ok { w with root := .put (.file content) (location ++ [name]) w.root }
      | .directory _ false => .error ⟨.denied, .absolute (location ++ [name])⟩
      | .file _ => .error ⟨.notDirectory, .absolute (location ++ [name])⟩ := by
  unfold write
  rw [find_of_fits habove h hfits]
  cases t with
  | file content => rfl
  | directory children writable => cases writable <;> rfl

end

end World

end ParenTokens
