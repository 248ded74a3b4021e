import ApexConstants.Proofs.TreeGrowth
import Mathlib.Algebra.GroupWithZero.Nat
import Mathlib.Data.List.Basic

namespace ApexConstants

/-- Where a name leads to from a folder. -/
def Location.next (l : Location) (name : String) : Location :=
  if name == ".." then l.dropLast else l ++ [name]

namespace Location

/-- The places from which the names are followed. -/
def through (l : Location) : List String → List Location
  | [] => []
  | name :: names => l :: through (l.next name) names

def along (l : Location) (names : List String) : Location := names.foldl next l

theorem through_append (l : Location) (xs ys : List String) :
    through l (xs ++ ys) = through l xs ++ through (along l xs) ys := by
  induction xs generalizing l with
  | nil => rfl
  | cons x xs ih => exact congrArg (l :: ·) (ih (l.next x))

theorem along_append (l : Location) (xs ys : List String) :
    along l (xs ++ ys) = along (along l xs) ys := List.foldl_append

/-- The last place is where the names before the last lead to. -/
theorem through_concat (l : Location) (names : List String) (name : String) :
    through l (names ++ [name]) = through l names ++ [along l names] := by
  rw [through_append]
  rfl

/-- Names that lead down pass the locations above where they lead to. -/
theorem through_of_down {names : List String} (h : ".." ∉ names) (l : Location) :
    along l names = l ++ names ∧
      ∀ k ∈ through l names, k <+: l ++ names ∧ k ≠ l ++ names := by
  induction names generalizing l with
  | nil => simp [along, through]
  | cons name names ih =>
    simp only [List.mem_cons, not_or] at h
    have hnext : l.next name = l ++ [name] := if_neg (by simpa using Ne.symm h.1)
    obtain ⟨halong, hthrough⟩ := ih h.2 (l ++ [name])
    rw [List.append_assoc, List.singleton_append] at halong hthrough
    constructor
    · rw [← halong, ← hnext]
      rfl
    · rw [through, List.forall_mem_cons, hnext]
      exact ⟨⟨List.prefix_append l _, by simp⟩, hthrough⟩

end Location

namespace Path

def start (p : Path) (home : Location) : Location := if p.anchor == .here then home else []

/-- The places on the way of a path, without the one it leads to. -/
def way (p : Path) (home : Location) : List Location := Location.through (p.start home) p.names

def target (p : Path) (home : Location) : Location := Location.along (p.start home) p.names

def places (p : Path) (home : Location) : List Location := p.way home ++ [p.target home]

theorem parent_eq {anchor : Anchor} {front : List String} {last : String} :
    Path.parent ⟨anchor, front ++ [last]⟩ = ⟨anchor, front⟩ := by
  rw [parent, List.dropLast_concat]

theorem way_concat (anchor : Anchor) (front : List String) (last : String) (home : Location) :
    way ⟨anchor, front ++ [last]⟩ home = places ⟨anchor, front⟩ home :=
  Location.through_concat _ _ _

/-- The way of a path begins with the way of a path with the first of its names. -/
theorem way_subset_append (anchor : Anchor) (xs ys : List String) (home : Location) :
    way ⟨anchor, xs⟩ home ⊆ way ⟨anchor, xs ++ ys⟩ home := by
  have hsplit : way ⟨anchor, xs ++ ys⟩ home = way ⟨anchor, xs⟩ home ++ _ :=
    Location.through_append _ xs ys
  rw [hsplit]
  exact List.subset_append_left _ _

theorem target_mem_places (p : Path) (home : Location) : p.target home ∈ p.places home :=
  List.mem_append_right _ (List.mem_singleton_self _)

/-- A path that leads down passes no place but those above where it leads. -/
theorem prefix_target (p : Path) {home k : Location} (hdown : ".." ∉ p.names)
    (hk : k ∈ p.places home) : k <+: p.target home := by
  obtain ⟨halong, hthrough⟩ := Location.through_of_down hdown (p.start home)
  have htarget : p.target home = p.start home ++ p.names := halong
  rcases List.mem_append.mp hk with hway | hend
  · rw [htarget]
    exact (hthrough k hway).1
  · obtain rfl := List.mem_singleton.mp hend
    exact List.prefix_refl _

/-- The places of the folder of a path are places of the path. -/
theorem places_parent_subset (p : Path) (home : Location) :
    ∀ k ∈ p.parent.places home, k ∈ p.places home := by
  intro k hk
  obtain ⟨anchor, names⟩ := p
  rcases List.eq_nil_or_concat' names with rfl | ⟨front, last, rfl⟩
  · exact hk
  · rw [parent_eq] at hk
    exact List.mem_append_left _ (by rwa [way_concat])

theorem way_subset_parent (p : Path) (home : Location) :
    ∀ k ∈ p.way home, k ∈ p.parent.places home := by
  intro k hk
  obtain ⟨anchor, names⟩ := p
  rcases List.eq_nil_or_concat' names with rfl | ⟨front, last, rfl⟩
  · exact absurd hk (List.not_mem_nil)
  · rwa [parent_eq, ← way_concat anchor front last]

/-- A path that a file can have: no name holds a zero, and neither a name nor the whole is too
long. -/
structure Usable (p : Path) : Prop where
  noZero : ∀ name ∈ p.names, '\x00' ∉ name.toList
  shortText : p.text.utf8ByteSize ≤ Tree.longestPath
  shortNames : ∀ name ∈ p.names, name.utf8ByteSize ≤ Tree.longestName

/-- Joined names take as much room as each with one slash, less one slash. -/
theorem size_intercalate {names : List String} (h : names ≠ []) :
    (String.intercalate "/" names).utf8ByteSize + 1 =
      (names.map fun name => name.utf8ByteSize + 1).sum := by
  induction names with
  | nil => exact absurd rfl h
  | cons first rest ih =>
    cases rest with
    | nil => simp
    | cons next rest =>
      have hslash : "/".utf8ByteSize = 1 := rfl
      rw [String.intercalate_cons_cons, List.map_cons, List.sum_cons, ← ih (by simp)]
      simp only [String.utf8ByteSize_append, hslash]
      omega

theorem size_intercalate_le (xs ys : List String) :
    (String.intercalate "/" xs).utf8ByteSize ≤ (String.intercalate "/" (xs ++ ys)).utf8ByteSize := by
  cases xs with
  | nil => exact Nat.zero_le _
  | cons x xs =>
    have hfront := size_intercalate (List.cons_ne_nil x xs)
    have hwhole := size_intercalate (List.cons_ne_nil x (xs ++ ys))
    rw [← List.cons_append, List.map_append, List.sum_append, ← hfront] at hwhole
    omega

/-- The folders on the way of a usable path have usable paths. -/
theorem Usable.front {anchor : Anchor} {xs ys : List String} (h : Usable ⟨anchor, xs ++ ys⟩) :
    Usable ⟨anchor, xs⟩ where
  noZero name hname := h.noZero name (List.mem_append_left ys hname)
  shortNames name hname := h.shortNames name (List.mem_append_left ys hname)
  shortText := by
    have hsize := size_intercalate_le xs ys
    have hwhole := h.shortText
    unfold text at hwhole ⊢
    split
    · decide
    · split at hwhole
      · rename_i hsome hnone
        simp only [Bool.and_eq_true, List.isEmpty_iff, List.append_eq_nil_iff] at hsome hnone
        exact absurd ⟨hnone.1, hnone.2.1⟩ hsome
      · simp only [String.utf8ByteSize_append] at hwhole ⊢
        omega

theorem Usable.parent {p : Path} (h : p.Usable) : p.parent.Usable := by
  obtain ⟨anchor, names⟩ := p
  rcases List.eq_nil_or_concat' names with rfl | ⟨front, last, rfl⟩
  · exact h
  · rw [parent_eq]
    exact h.front

end Path

namespace Tree

theorem follow_eq_ok_iff {t : Tree} {l k : Location} {name : String} :
    t.follow l name = .ok k ↔
      t.entry? l = some .folder ∧ name.utf8ByteSize ≤ longestName ∧ k = l.next name := by
  unfold follow
  split
  · rename_i hl
    simp [hl]
  · rename_i hl
    simp [hl]
  · rename_i hl
    split
    · rename_i hlong
      simp only [hl, true_and]
      constructor
      · intro h
        cases h
      · rintro ⟨hshort, _⟩
        omega
    · rename_i hshort
      simp only [hl, true_and]
      constructor
      · intro h
        exact ⟨Nat.not_lt.mp hshort, (Except.ok.inj h).symm⟩
      · rintro ⟨_, rfl⟩
        rfl

/-- Names can be followed when they are short and there are folders on the way. -/
theorem followAll_eq_ok_iff {t : Tree} {names : List String} {l k : Location} :
    names.foldlM t.follow l = .ok k ↔
      (∀ name ∈ names, name.utf8ByteSize ≤ longestName) ∧
        (∀ j ∈ Location.through l names, t.entry? j = some .folder) ∧ k = Location.along l names := by
  induction names generalizing l with
  | nil =>
    constructor
    · intro h
      exact ⟨by simp, by simp [Location.through], (Except.ok.inj h).symm⟩
    · rintro ⟨_, _, rfl⟩
      rfl
  | cons name names ih =>
    rw [List.foldlM_cons, bind_eq_ok]
    simp only [follow_eq_ok_iff, ih, Location.through, List.forall_mem_cons]
    constructor
    · rintro ⟨j, ⟨hl, hshort, rfl⟩, hnames, hthrough, rfl⟩
      exact ⟨⟨hshort, hnames⟩, ⟨hl, hthrough⟩, rfl⟩
    · rintro ⟨⟨hshort, hnames⟩, ⟨hl, hthrough⟩, rfl⟩
      exact ⟨l.next name, ⟨hl, hshort, rfl⟩, hnames, hthrough, rfl⟩

/-- Where there is no file on the way, what is not there is all that can stop short names. -/
theorem followAll_eq_missing {t : Tree} {names : List String} {l : Location}
    (hshort : ∀ name ∈ names, name.utf8ByteSize ≤ longestName)
    (hfree : ∀ j ∈ Location.through l names, ∀ c, t.entry? j ≠ some (.file c))
    (hgap : ¬ ∀ j ∈ Location.through l names, t.entry? j = some .folder) :
    names.foldlM t.follow l = .error .missing := by
  induction names generalizing l with
  | nil => exact absurd (by simp [Location.through]) hgap
  | cons name names ih =>
    simp only [Location.through, List.forall_mem_cons] at hfree hgap
    rw [List.forall_mem_cons] at hshort
    rw [List.foldlM_cons]
    cases hl : t.entry? l with
    | none => simp [follow, hl, Bind.bind, Except.bind]
    | some entry =>
      cases entry with
      | file c => exact absurd hl (hfree.1 c)
      | folder =>
        have hstep : t.follow l name = .ok (l.next name) :=
          follow_eq_ok_iff.mpr ⟨hl, hshort.1, rfl⟩
        rw [hstep]
        exact ih hshort.2 hfree.2 fun hall => hgap ⟨hl, hall⟩

/-- A path leads to its target when it can be a path and there are folders on its way. -/
theorem locate_eq_ok_iff {t : Tree} {p : Path} {l : Location} :
    t.locate p = .ok l ↔
      p.Usable ∧ (∀ k ∈ p.way t.home, t.entry? k = some .folder) ∧ l = p.target t.home := by
  have hzero : (p.names.any (·.toList.contains '\x00')) = false ↔
      ∀ name ∈ p.names, '\x00' ∉ name.toList := by
    simp
  unfold locate
  split
  · rename_i h
    constructor
    · intro hl
      cases hl
    · rintro ⟨husable, _⟩
      rw [hzero.mpr husable.noZero] at h
      cases h
  · rename_i hnone
    split
    · rename_i hlong
      constructor
      · intro hl
        cases hl
      · rintro ⟨husable, _⟩
        have := husable.shortText
        omega
    · rename_i hshort
      rw [followAll_eq_ok_iff]
      constructor
      · rintro ⟨hnames, hway, hl⟩
        exact ⟨⟨hzero.mp (by simpa using hnone), Nat.not_lt.mp hshort, hnames⟩, hway, hl⟩
      · rintro ⟨husable, hway, hl⟩
        exact ⟨husable.shortNames, hway, hl⟩

theorem locate_eq_missing {t : Tree} {p : Path} (h : p.Usable)
    (hfree : ∀ k ∈ p.way t.home, ∀ c, t.entry? k ≠ some (.file c))
    (hgap : ¬ ∀ k ∈ p.way t.home, t.entry? k = some .folder) : t.locate p = .error .missing := by
  unfold locate
  rw [if_neg (by simpa using h.noZero), if_neg (Nat.not_lt.mpr h.shortText)]
  exact followAll_eq_missing h.shortNames hfree hgap

theorem followAll_congr {t u : Tree} {names : List String} {l : Location}
    (h : ∀ k ∈ Location.through l names, t.entry? k = some .folder)
    (h' : ∀ k ∈ Location.through l names, u.entry? k = some .folder) :
    names.foldlM u.follow l = names.foldlM t.follow l := by
  induction names generalizing l with
  | nil => rfl
  | cons name names ih =>
    simp only [Location.through, List.forall_mem_cons] at h h'
    have hstep : u.follow l name = t.follow l name := by
      unfold follow
      rw [h.1, h'.1]
    rw [List.foldlM_cons, List.foldlM_cons, hstep]
    cases hnext : t.follow l name with
    | error fault => rfl
    | ok k =>
      obtain ⟨_, _, rfl⟩ := follow_eq_ok_iff.mp hnext
      exact ih h.2 h'.2

/-- A path leads to the same end in two trees that both have folders on its way. -/
theorem locate_congr {t u : Tree} {p : Path} (hhome : u.home = t.home)
    (h : ∀ k ∈ p.way t.home, t.entry? k = some .folder)
    (h' : ∀ k ∈ p.way t.home, u.entry? k = some .folder) : u.locate p = t.locate p := by
  have hnames : p.names.foldlM u.follow (if p.anchor == .here then t.home else []) =
      p.names.foldlM t.follow (if p.anchor == .here then t.home else []) := followAll_congr h h'
  unfold locate
  rw [hhome, hnames]

end Tree

end ApexConstants
