import HybridStorage.Proofs.Site
import HybridStorage.Scenario.Basic
import Mathlib.Data.List.Induction

/-!
# Resolution of two units

Under an identifier a site finds the battery that was inserted there last, unless it was removed
since. Two identifiers resolve to their batteries in the order in which they are given, and what is
written to these two changes no other. Instead of looking them up, one can also go through all the
units in any order and take the two on the way.
-/

namespace HybridStorage

namespace Roster

variable {α : Type} {first second : String}

/-- The components under two identifiers, met on the way through some entries. -/
def meet (first second : String) (met : Option α × Option α) :
    List (String × α) → Option α × Option α
  | [] => met
  | (id, x) :: rest =>
    meet first second
      (if id = first then (some x, met.2) else if id = second then (met.1, some x) else met) rest

theorem meet_eq (different : first ≠ second) {entries : List (String × α)}
    (nodup : (entries.map Prod.fst).Nodup) (met : Option α × Option α) :
    meet first second met entries =
      ((entries.lookup first).or met.1, (entries.lookup second).or met.2) := by
  induction entries generalizing met with
  | nil => rfl
  | cons entry rest ih =>
    obtain ⟨key, x⟩ := entry
    obtain ⟨fresh, nodup⟩ := List.nodup_cons.mp nodup
    have absent : rest.lookup key = none := lookup_of_absent fresh
    rw [meet, ih nodup, lookup_cons_eq, lookup_cons_eq]
    by_cases isFirst : key = first
    · subst isFirst
      rw [if_pos rfl, if_pos rfl, if_neg different.symm, absent]
      rfl
    · rw [if_neg isFirst, if_neg (Ne.symm isFirst)]
      by_cases isSecond : key = second
      · subst isSecond
        rw [if_pos rfl, if_pos rfl, absent]
        rfl
      · rw [if_neg isSecond, if_neg (Ne.symm isSecond)]

end Roster

namespace Site

variable {s : Site} {first second id : String} {b : Battery} {e : DispatchError}

/-- Checks both identifiers and then takes the two units on the way through all units in some order.
The last two answers are for a unit that passed the check and is not met. -/
def scanPair (s : Site) (order : List (String × Battery)) (first second : String) :
    Except DispatchError (Battery × Battery) :=
  if first = second then .error (.sharedComponent first)
  else do
    let _ ← s.unit first
    let _ ← s.unit second
    match Roster.meet first second (none, none) order with
    | (some a, some b) => .ok (a, b)
    | (none, _) => .error (.componentNotFound first)
    | (_, none) => .error (.componentNotFound second)

theorem scanPair_eq {order : List (String × Battery)} (perm : order.Perm s.units.entries)
    (first second : String) : s.scanPair order first second = s.unitPair first second := by
  unfold scanPair unitPair
  by_cases shared : first = second
  · rw [if_pos shared, if_pos shared]
  · rw [if_neg shared, if_neg shared]
    have nodup : (order.map Prod.fst).Nodup := (perm.map Prod.fst).nodup_iff.mpr s.units.nodup
    rw [Roster.meet_eq shared nodup, Roster.lookup_of_perm perm nodup,
      Roster.lookup_of_perm perm nodup]
    cases foundFirst : s.unit first with
    | error e => rfl
    | ok a =>
      cases foundSecond : s.unit second with
      | error e => rfl
      | ok b =>
        have presentFirst : s.units.entries.lookup first = some a :=
          (require_eq_ok_iff.mp foundFirst).1
        have presentSecond : s.units.entries.lookup second = some b :=
          (require_eq_ok_iff.mp foundSecond).1
        rw [presentFirst, presentSecond]
        rfl

theorem require_eq_error_iff {α : Type} {enabled : α → Bool} {found : Option α} :
    require id enabled found = .error e ↔
      (found = none ∧ e = .componentNotFound id) ∨
        ∃ x, found = some x ∧ enabled x = false ∧ e = .componentDisabled id := by
  cases found with
  | none =>
    constructor
    · intro failed
      cases failed
      exact .inl ⟨rfl, rfl⟩
    · rintro (⟨-, rfl⟩ | ⟨x, absent, -⟩)
      · rfl
      · cases absent
  | some x =>
    rw [require]
    constructor
    · intro failed
      split at failed
      · cases failed
      · next off =>
        cases failed
        exact .inr ⟨x, rfl, Bool.not_eq_true _ ▸ off, rfl⟩
    · rintro (⟨absent, -⟩ | ⟨y, same, off, rfl⟩)
      · cases absent
      · cases same
        rw [if_neg (Bool.eq_false_iff.mp off)]

theorem unitPair_eq_error_iff : s.unitPair first second = .error e ↔
    (first = second ∧ e = .sharedComponent first) ∨
      (first ≠ second ∧ (s.unit first = .error e ∨
        (∃ a, s.unit first = .ok a) ∧ s.unit second = .error e)) := by
  unfold unitPair
  by_cases shared : first = second
  · simp [shared, eq_comm]
  · rw [if_neg shared, bind_eq_error_iff]
    simp only [bind_eq_error_iff, pure, Except.pure, reduceCtorEq, and_false, exists_false,
      or_false, exists_and_right, shared, false_and, false_or, ne_eq, not_false_eq_true, true_and]

/-! ### Histories -/

/-- What is done to the components of a site. -/
inductive Change where
  | insertUnit (b : Battery)
  | removeUnit (id : String)
  | insertMeter (m : Meter)

def change (s : Site) : Change → Site
  | .insertUnit b => (s.insertUnit b).2
  | .removeUnit id => (s.removeUnit id).2
  | .insertMeter m => (s.insertMeter m).2

/-- The site that an empty one becomes. -/
def ofChanges (changes : List Change) : Site := changes.foldl change empty

/-- The change puts a battery under an identifier or takes it away. -/
def Change.Concerns (id : String) : Change → Prop
  | .insertUnit b => b.parameters.id = id
  | .removeUnit removed => removed = id
  | .insertMeter _ => False

/-- The battery was inserted under its identifier, and no later change concerns this identifier. -/
def Latest (changes : List Change) (id : String) (b : Battery) : Prop :=
  ∃ earlier later, changes = earlier ++ .insertUnit b :: later ∧ b.parameters.id = id ∧
    ∀ c ∈ later, ¬c.Concerns id

theorem unit?_change {c : Change} : (s.change c).unit? id = some b ↔
    (c = .insertUnit b ∧ b.parameters.id = id) ∨ (¬c.Concerns id ∧ s.unit? id = some b) := by
  cases c with
  | insertUnit new =>
    rw [change, unit?_insertUnit]
    by_cases own : id = new.parameters.id
    · rw [if_pos own]
      constructor
      · rintro ⟨⟩
        exact .inl ⟨rfl, own.symm⟩
      · rintro (⟨⟨⟩, -⟩ | ⟨other, -⟩)
        · rfl
        · exact absurd own.symm other
    · rw [if_neg own]
      constructor
      · exact fun found => .inr ⟨Ne.symm own, found⟩
      · rintro (⟨⟨⟩, same⟩ | ⟨-, found⟩)
        · exact absurd same.symm own
        · exact found
  | removeUnit removed =>
    rw [change, unit?_removeUnit]
    by_cases gone : id = removed
    · simp [gone, Change.Concerns]
    · simp [gone, Change.Concerns, Ne.symm gone]
  | insertMeter m => simp [change, Change.Concerns, insertMeter, unit?]

theorem not_latest_nil : ¬Latest [] id b := by
  rintro ⟨earlier, later, whole, -, -⟩
  simp at whole

theorem latest_concat {changes : List Change} {c : Change} : Latest (changes ++ [c]) id b ↔
    (c = .insertUnit b ∧ b.parameters.id = id) ∨ (¬c.Concerns id ∧ Latest changes id b) := by
  constructor
  · rintro ⟨earlier, later, whole, own, quiet⟩
    -- The insertion is the last change, or the last change comes after it.
    cases later using List.reverseRecOn with
    | nil =>
      obtain ⟨-, last⟩ := List.append_inj' whole rfl
      exact .inl ⟨List.cons.inj last |>.1, own⟩
    | append_singleton later last _ =>
      have parted : changes ++ [c] = (earlier ++ .insertUnit b :: later) ++ [last] := by
        simpa using whole
      obtain ⟨before, same⟩ := List.append_inj' parted rfl
      obtain rfl : c = last := (List.cons.inj same).1
      exact .inr ⟨quiet c (by simp),
        earlier, later, before, own, fun x member => quiet x (by simp [member])⟩
  · rintro (⟨rfl, own⟩ | ⟨other, earlier, later, rfl, own, quiet⟩)
    · exact ⟨changes, [], rfl, own, by simp⟩
    · refine ⟨earlier, later ++ [c], by simp, own, fun x member => ?_⟩
      rcases List.mem_append.mp member with member | last
      · exact quiet x member
      · exact List.mem_singleton.mp last ▸ other

/-- Whatever is done to a site, the battery found is the one that was inserted last. -/
theorem unit?_ofChanges {changes : List Change} :
    (ofChanges changes).unit? id = some b ↔ Latest changes id b := by
  induction changes using List.reverseRecOn with
  | nil => simp [ofChanges, empty, unit?, Roster.empty, Roster.get?, not_latest_nil]
  | append_singleton changes c ih =>
    rw [ofChanges, List.foldl_append, latest_concat, ← ih]
    exact unit?_change

/-- The battery under an identifier is there and switched on. -/
def Usable (changes : List Change) (id : String) (b : Battery) : Prop :=
  Latest changes id b ∧ b.parameters.enabled = true

/-- Why there is no usable battery under an identifier. -/
inductive Unusable (changes : List Change) (id : String) : DispatchError → Prop where
  | missing (none : ∀ b, ¬Latest changes id b) : Unusable changes id (.componentNotFound id)
  | off {b : Battery} (latest : Latest changes id b) (disabled : b.parameters.enabled = false) :
    Unusable changes id (.componentDisabled id)

theorem unit_eq_ok_iff {changes : List Change} :
    (ofChanges changes).unit id = .ok b ↔ Usable changes id b := by
  rw [unit, require_eq_ok_iff, unit?_ofChanges, Usable]

theorem unit_eq_error_iff {changes : List Change} :
    (ofChanges changes).unit id = .error e ↔ Unusable changes id e := by
  rw [unit, require_eq_error_iff, Option.eq_none_iff_forall_not_mem]
  simp only [Option.mem_def, unit?_ofChanges]
  constructor
  · rintro (⟨missing, rfl⟩ | ⟨b, latest, off, rfl⟩)
    · exact .missing missing
    · exact .off latest off
  · rintro (⟨missing⟩ | ⟨latest, off⟩)
    · exact .inl ⟨missing, rfl⟩
    · exact .inr ⟨_, latest, off, rfl⟩

/-- What is written to a pair that was found is there afterwards, and nothing else has changed. -/
theorem putPair_of_unitPair {pair : Battery × Battery} (found : s.unitPair first second = .ok pair)
    (written : Battery × Battery) :
    let after : Site := Plant.putPair s first second written
    after.meters = s.meters ∧ after.units.ids = s.units.ids ∧
      after.unit? first = some written.1 ∧ after.unit? second = some written.2 ∧
      ∀ id, id ≠ first → id ≠ second → after.unit? id = s.unit? id := by
  obtain ⟨different, foundFirst, -, foundSecond, -⟩ := unitPair_eq_ok_iff.mp found
  intro after
  refine ⟨rfl, ?_, ?_, ?_, fun id notFirst notSecond => ?_⟩
  · change ((s.units.replace first written.1).replace second written.2).ids = _
    rw [Roster.ids_replace, Roster.ids_replace]
  · rw [unit?_putPair, foundFirst, Option.map_some, if_neg different, if_pos rfl]
  · rw [unit?_putPair, foundSecond, Option.map_some, if_pos rfl]
  · rw [unit?_putPair]
    simp only [if_neg notFirst, if_neg notSecond, Option.map_id']

/-- Two identifiers resolve to the batteries that were inserted last under them, in this order, if
they are different and both batteries are there and switched on; otherwise the first identifier that
fails says why. It makes no difference in which order all units are gone through to find them. -/
theorem pair_resolved (changes : List Change) (first second : String) :
    let s := ofChanges changes
    (∀ a b, s.unitPair first second = .ok (a, b) ↔
      first ≠ second ∧ Usable changes first a ∧ Usable changes second b) ∧
    (∀ e, s.unitPair first second = .error e ↔
      (first = second ∧ e = .sharedComponent first) ∨
        (first ≠ second ∧ (Unusable changes first e ∨
          (∃ a, Usable changes first a) ∧ Unusable changes second e))) ∧
    (∀ order, order.Perm s.units.entries →
      s.scanPair order first second = s.unitPair first second) ∧
    (∀ pair written, s.unitPair first second = .ok pair →
      let after : Site := Plant.putPair s first second written
      after.meters = s.meters ∧ after.units.ids = s.units.ids ∧
        after.unit? first = some written.1 ∧ after.unit? second = some written.2 ∧
        ∀ id, id ≠ first → id ≠ second → after.unit? id = s.unit? id) ∧
    (∀ new displaced, (s.insertUnit new).1 = some displaced ↔
      Latest changes new.parameters.id displaced) ∧
    ∀ id displaced, (s.removeUnit id).1 = some displaced ↔ Latest changes id displaced := by
  intro s
  refine ⟨fun a b => ?_, fun e => ?_, fun order perm => scanPair_eq perm first second,
    fun pair written found => putPair_of_unitPair found written,
    fun new displaced => unit?_ofChanges, fun id displaced => unit?_ofChanges⟩
  · rw [unitPair_eq_ok_iff, unit?_ofChanges, unit?_ofChanges]
    exact ⟨fun ⟨different, foundA, onA, foundB, onB⟩ => ⟨different, ⟨foundA, onA⟩, foundB, onB⟩,
      fun ⟨different, ⟨foundA, onA⟩, foundB, onB⟩ => ⟨different, foundA, onA, foundB, onB⟩⟩
  · simp only [unitPair_eq_error_iff, s, unit_eq_ok_iff, unit_eq_error_iff]

/-- An empty battery that does nothing. -/
def idle (u : UnitSpec) : Battery where
  parameters := u.parameters
  readiness := .notReady
  envelope := .closed
  energy := 0
  charge := 0
  active := 0
  reactive := 0
  pending := {}
  lastApplied := none

/-- A battery that is switched off is taken away and comes back switched on. -/
def repair : List Change :=
  [.insertUnit (idle { UnitSpec.redox with enabled := false }), .insertUnit (idle .lithium),
    .removeUnit "ess0", .insertMeter { id := "meter0" }, .insertUnit (idle .redox)]

/-- Until then the pair is not found: once because the battery is off, once because it is gone. -/
theorem pair_resolved_repaired :
    (ofChanges repair).unitPair "ess1" "ess0" = .ok (idle .lithium, idle .redox) ∧
      (ofChanges (repair.take 2)).unitPair "ess1" "ess0" = .error (.componentDisabled "ess0") ∧
      (ofChanges (repair.take 3)).unitPair "ess1" "ess0" = .error (.componentNotFound "ess0") := by
  have different : "ess1" ≠ "ess0" := by decide
  have other {changes : List Change}
      (found : (ofChanges changes).unit? "ess1" = some (idle .lithium)) :
      Usable changes "ess1" (idle .lithium) := ⟨unit?_ofChanges.mp found, rfl⟩
  refine ⟨?_, ?_, ?_⟩
  · refine ((pair_resolved repair "ess1" "ess0").1 _ _).mpr ⟨different, other rfl, ?_⟩
    exact ⟨⟨repair.take 4, [], rfl, rfl, by simp⟩, rfl⟩
  · refine ((pair_resolved (repair.take 2) "ess1" "ess0").2.1 _).mpr
      (.inr ⟨different, .inr ⟨⟨_, other rfl⟩, ?_⟩⟩)
    refine .off ⟨[], (repair.take 2).drop 1, rfl, rfl, ?_⟩ rfl
    simp [repair, Change.Concerns, idle, UnitSpec.parameters, UnitSpec.lithium]
  · refine ((pair_resolved (repair.take 3) "ess1" "ess0").2.1 _).mpr
      (.inr ⟨different, .inr ⟨⟨_, other rfl⟩, .missing fun b latest => ?_⟩⟩)
    have found := unit?_ofChanges.mpr latest
    cases found

end Site

end HybridStorage
