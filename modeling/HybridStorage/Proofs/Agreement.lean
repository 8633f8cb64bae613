import HybridStorage.Storage.GridMode

/-!
# Agreement on a grid mode

Units have a common mode exactly if there are some and all of them are in it. So the common mode
depends on which modes there are, not on their order or number, and groups of units can be combined
first. Nothing after the first conflict matters, and one can stop there.
-/

namespace HybridStorage.GridMode

variable {a b m common : GridMode} {modes others rest : List GridMode}

/-- There are units, and all of them are in one known mode. -/
structure Unanimous (m : GridMode) (modes : List GridMode) : Prop where
  known : m ≠ .undefined
  nonempty : modes ≠ []
  all : ∀ mode ∈ modes, mode = m

theorem Unanimous.mem (agreed : Unanimous m modes) : m ∈ modes := by
  obtain ⟨mode, member⟩ := List.exists_mem_of_ne_nil modes agreed.nonempty
  rwa [← agreed.all mode member]

theorem Unanimous.of_members (members : ∀ mode, mode ∈ others ↔ mode ∈ modes)
    (agreed : Unanimous m modes) : Unanimous m others where
  known := agreed.known
  nonempty := List.ne_nil_of_mem ((members m).mpr agreed.mem)
  all mode member := agreed.all mode ((members mode).mp member)

/-! ### The common mode as agreement -/

theorem meet_eq_iff (known : m ≠ .undefined) : meet a b = m ↔ a = m ∧ b = m := by
  unfold meet
  split
  · next same => rw [same, and_self]
  · next different =>
    apply iff_of_false (Ne.symm known)
    rintro ⟨rfl, rfl⟩
    exact different rfl

theorem foldl_meet_eq_iff (known : m ≠ .undefined) :
    modes.foldl meet common = m ↔ common = m ∧ ∀ mode ∈ modes, mode = m := by
  induction modes generalizing common with
  | nil => simp
  | cons mode rest ih =>
    rw [List.foldl_cons, ih, meet_eq_iff known, List.forall_mem_cons, and_assoc]

theorem combine_eq_iff (known : m ≠ .undefined) : combine modes = m ↔ Unanimous m modes := by
  cases modes with
  | nil =>
    apply iff_of_false (Ne.symm known)
    intro agreed
    exact agreed.nonempty rfl
  | cons mode rest =>
    rw [combine, foldl_meet_eq_iff known]
    constructor
    · intro all
      exact ⟨known, List.cons_ne_nil mode rest, List.forall_mem_cons.mpr all⟩
    · intro agreed
      exact List.forall_mem_cons.mp agreed.all

theorem eq_undefined_iff : a = .undefined ↔ ¬∃ m, a = m ∧ m ≠ .undefined := by
  cases a <;> simp

theorem combine_congr (same : ∀ m, Unanimous m others ↔ Unanimous m modes) :
    combine others = combine modes := by
  by_cases known : combine modes = .undefined
  · rw [known, eq_undefined_iff]
    rintro ⟨m, common, knownToo⟩
    have agreed := (same m).mp ((combine_eq_iff knownToo).mp common)
    exact knownToo (((combine_eq_iff knownToo).mpr agreed).symm.trans known)
  · exact (combine_eq_iff known).mpr ((same _).mpr ((combine_eq_iff known).mp rfl))

theorem combine_of_members (members : ∀ mode, mode ∈ others ↔ mode ∈ modes) :
    combine others = combine modes := by
  apply combine_congr
  intro m
  constructor
  · exact Unanimous.of_members fun mode => (members mode).symm
  · exact Unanimous.of_members members

theorem combine_append (nonempty : modes ≠ []) (conflict : combine modes = .undefined) :
    combine (modes ++ rest) = .undefined := by
  rw [eq_undefined_iff]
  rintro ⟨m, common, known⟩
  have agreed := (combine_eq_iff known).mp common
  have before : combine modes = m := by
    apply (combine_eq_iff known).mpr
    exact ⟨known, nonempty, fun mode member => agreed.all mode (List.mem_append_left rest member)⟩
  exact known (before.symm.trans conflict)

theorem unanimous_map_combine {parts : List (List GridMode)} (nonempty : [] ∉ parts) :
    Unanimous m (parts.map combine) ↔ Unanimous m parts.flatten := by
  constructor
  · intro agreed
    have each : ∀ part ∈ parts, Unanimous m part := by
      intro part member
      exact (combine_eq_iff agreed.known).mp (agreed.all _ (List.mem_map_of_mem member))
    obtain ⟨part, member, -⟩ := List.mem_map.mp agreed.mem
    have inParts := List.mem_flatten_of_mem member (each part member).mem
    refine ⟨agreed.known, List.ne_nil_of_mem inParts, ?_⟩
    intro mode inside
    obtain ⟨part, member, inPart⟩ := List.mem_flatten.mp inside
    exact (each part member).all mode inPart
  · intro agreed
    have each : ∀ part ∈ parts, combine part = m := by
      intro part member
      apply (combine_eq_iff agreed.known).mpr
      refine ⟨agreed.known, ?_, ?_⟩
      · rintro rfl
        exact nonempty member
      · intro mode inPart
        exact agreed.all mode (List.mem_flatten_of_mem member inPart)
    obtain ⟨part, member, -⟩ := List.mem_flatten.mp agreed.mem
    refine ⟨agreed.known, List.ne_nil_of_mem (List.mem_map_of_mem member), ?_⟩
    intro mode inside
    obtain ⟨part, member, rfl⟩ := List.mem_map.mp inside
    exact each part member

/-! ### Stopping at a conflict -/

/-- Goes on through the modes after those with a common one, if there were any, and stops at the
first that is unknown or another one. -/
def scan : Option GridMode → List GridMode → GridMode
  | common, [] => common.getD .undefined
  | common, mode :: rest =>
    if mode = .undefined then .undefined
    else
      match common with
      | none => scan (some mode) rest
      | some before => if before = mode then scan (some before) rest else .undefined

theorem undefined_meet (mode : GridMode) : meet .undefined mode = .undefined := by
  cases mode <;> rfl

theorem meet_undefined (mode : GridMode) : meet mode .undefined = .undefined := by
  cases mode <;> rfl

theorem foldl_meet_undefined (modes : List GridMode) :
    modes.foldl meet .undefined = .undefined := by
  induction modes with
  | nil => rfl
  | cons mode rest ih => rw [List.foldl_cons, undefined_meet, ih]

theorem scan_some (common : GridMode) (modes : List GridMode) :
    scan (some common) modes = modes.foldl meet common := by
  induction modes with
  | nil => rfl
  | cons mode rest ih =>
    rw [scan, List.foldl_cons]
    by_cases unknown : mode = .undefined
    · rw [if_pos unknown, unknown, meet_undefined, foldl_meet_undefined]
    · -- As long as the modes agree the common one stays, so it need not be generalised.
      rw [if_neg unknown, meet]
      split
      · exact ih
      · exact (foldl_meet_undefined rest).symm

theorem scan_none (modes : List GridMode) : scan none modes = combine modes := by
  cases modes with
  | nil => rfl
  | cons mode rest =>
    rw [scan, combine]
    split
    · next unknown => rw [unknown, foldl_meet_undefined]
    · exact scan_some mode rest

/-- The common mode is the known one that all units are in, if there are units and such a mode, and
undefined otherwise. It is the same for all lists with the same modes in them, in whatever order and
however often, and for the common modes of the parts into which the units are grouped. Who stops at
the first conflict finds it too, since what follows makes no difference. -/
theorem combine_unanimous (modes : List GridMode) :
    (∀ m, combine modes = m ∧ m ≠ .undefined ↔ Unanimous m modes) ∧
    (combine modes = .undefined ↔ ¬∃ m, Unanimous m modes) ∧
    (∀ others, (∀ mode, mode ∈ others ↔ mode ∈ modes) → combine others = combine modes) ∧
    (∀ parts : List (List GridMode), [] ∉ parts → parts.flatten.Perm modes →
      combine (parts.map combine) = combine modes) ∧
    scan none modes = combine modes ∧
    (modes ≠ [] → combine modes = .undefined →
      ∀ rest, combine (modes ++ rest) = .undefined) := by
  have unanimous (m : GridMode) : combine modes = m ∧ m ≠ .undefined ↔ Unanimous m modes := by
    constructor
    · rintro ⟨common, known⟩
      exact (combine_eq_iff known).mp common
    · intro agreed
      exact ⟨(combine_eq_iff agreed.known).mpr agreed, agreed.known⟩
  refine ⟨unanimous, ?_, ?_, ?_, scan_none modes, ?_⟩
  · simp only [eq_undefined_iff, unanimous]
  · intro others members
    exact combine_of_members members
  · intro parts nonempty perm
    have grouped : combine (parts.map combine) = combine parts.flatten :=
      combine_congr fun m => unanimous_map_combine nonempty
    exact grouped.trans (combine_of_members fun mode => perm.mem_iff)
  · intro nonempty conflict rest
    exact combine_append nonempty conflict

/-- Three units that are off the grid, and a conflict after which nothing matters. -/
theorem combine_unanimous_offGrid :
    Unanimous .offGrid [.offGrid, .offGrid, .offGrid] ∧
      combine [.offGrid, .offGrid, .offGrid] = .offGrid ∧ combine [.offGrid] = .offGrid ∧
      combine ([[.offGrid], [.offGrid, .offGrid]].map combine) = .offGrid ∧
      ∀ rest, combine ([.offGrid, .onGrid] ++ rest) = .undefined := by
  obtain ⟨unanimous, -, members, parts, -, -⟩ :=
    combine_unanimous [.offGrid, .offGrid, .offGrid]
  obtain ⟨-, -, -, -, -, stop⟩ := combine_unanimous [.offGrid, .onGrid]
  have off : Unanimous .offGrid [.offGrid, .offGrid, .offGrid] := by
    constructor <;> decide
  have common := ((unanimous .offGrid).mpr off).1
  have grouped := parts [[.offGrid], [.offGrid, .offGrid]] (by decide) (.refl _)
  exact ⟨off, common, (members [.offGrid] (by simp)).trans common, grouped.trans common,
    stop (by decide) (by decide)⟩

end HybridStorage.GridMode
