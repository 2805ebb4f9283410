import EphemeralDatabase.Proofs.Lifecycle.Cycle
import EphemeralDatabase.Proofs.Server.Simulator
import EphemeralDatabase.Proofs.Teardown.Report

/-!
# Tearing down on a server without faults

On such a server tearing down removes the objects that it is given and no others.  An object that
was there is reported as deleted once, and every other mention of an object as missing.  After
that there is nothing left to delete: to tear down once more changes nothing, and reports all
objects as missing (`Teardown.deleteAll_removes`).
-/

namespace EphemeralDatabase

variable {τ ω : Type} {o o' : Objects} {es : List (Exchange τ)}

namespace Teardown

variable {addresses : List Address} {report : Report} {r : Except Fault Report}

/-- The objects are gone, the others are as they were, and the report counts each object that was
there as deleted once and every other mention of an object as missing. -/
structure Removes (addresses : List Address) (o o' : Objects) (report : Report) : Prop where
  removed : ∀ a ∈ addresses, o' a = none
  others : ∀ a ∉ addresses, o' a = o a
  failures : report.failures = []
  deleted : ∀ a, report.deleted.count a = if a ∈ addresses ∧ o a ≠ none then 1 else 0
  mentioned : ∀ a, report.deleted.count a + report.alreadyGone.count a = addresses.count a

/-- What is not there is reported as missing, and nothing changes. -/
theorem Course.misses (course : Course addresses report es r) (h : Carries Serves o es o')
    (absent : ∀ a ∈ addresses, o a = none) :
    r = .ok { report with alreadyGone := report.alreadyGone ++ addresses } ∧ o' = o := by
  induction course with
  | done => exact ⟨by simp, carries_nil.1 h⟩
  | broken delete =>
    cases ((carries_singleton.1 h).deletes_absent delete (absent _ (by simp))).2
  | @next a rest report e outcome es r delete others ih =>
    obtain ⟨o₁, first, second⟩ := carries_cons.1 h
    obtain ⟨rfl, hmissing⟩ := first.deletes_absent delete (absent a (by simp))
    cases hmissing
    obtain ⟨rfl, hsame⟩ := ih second fun b hb => absent b (List.mem_cons_of_mem _ hb)
    exact ⟨by simp [enter], hsame⟩

section Removes

variable {a : Address} {rest : List Address}

/-- An object that was not there. -/
theorem Removes.missing (h : Removes rest o o' report) (absent : o a = none) :
    Removes (a :: rest) o o' ((Report.on [⟨a, .notFound a⟩]).followedBy report) where
  removed b hb := by
    by_cases hrest : b ∈ rest
    · exact h.removed b hrest
    · obtain rfl : b = a := (List.mem_cons.1 hb).resolve_right hrest
      rw [h.others b hrest, absent]
  others b hb := h.others b fun hrest => hb (List.mem_cons_of_mem _ hrest)
  failures := h.failures
  deleted b := by
    have hsame : ((Report.on [⟨a, .notFound a⟩]).followedBy report).deleted = report.deleted := rfl
    rw [hsame, h.deleted b]
    by_cases hb : b = a <;> simp [hb, absent]
  mentioned b := by
    have hgone : ((Report.on [⟨a, .notFound a⟩]).followedBy report).alreadyGone =
        a :: report.alreadyGone := rfl
    have hsame : ((Report.on [⟨a, .notFound a⟩]).followedBy report).deleted = report.deleted := rfl
    rw [hgone, hsame, List.count_cons, List.count_cons, ← h.mentioned b, Nat.add_assoc]

/-- An object that was there, and is not any more. -/
theorem Removes.there (h : Removes rest (o.drop a) o' report) (there : o a ≠ none) :
    Removes (a :: rest) o o' ((Report.on [⟨a, .deleted a⟩]).followedBy report) where
  removed b hb := by
    by_cases hrest : b ∈ rest
    · exact h.removed b hrest
    · obtain rfl : b = a := (List.mem_cons.1 hb).resolve_right hrest
      rw [h.others b hrest, Objects.drop_self]
  others b hb := by
    obtain ⟨hne, hrest⟩ := not_or.1 (List.mem_cons.not.1 hb)
    rw [h.others b hrest, Objects.drop_of_ne hne]
  failures := h.failures
  deleted b := by
    have hdeleted : ((Report.on [⟨a, .deleted a⟩]).followedBy report).deleted =
        a :: report.deleted := rfl
    rw [hdeleted, List.count_cons, h.deleted b]
    by_cases hb : b = a
    · simp [hb, there]
    · simp [hb, Ne.symm hb]
  mentioned b := by
    have hdeleted : ((Report.on [⟨a, .deleted a⟩]).followedBy report).deleted =
        a :: report.deleted := rfl
    have hsame : ((Report.on [⟨a, .deleted a⟩]).followedBy report).alreadyGone =
        report.alreadyGone := rfl
    rw [hdeleted, hsame, List.count_cons, List.count_cons, ← h.mentioned b, Nat.add_right_comm]

end Removes

/-- **On a server without faults every object is removed**, and that is put into the report. -/
theorem Course.removes (course : Course addresses report es r) (h : Carries Serves o es o') :
    ∃ rest, r = .ok (report.followedBy rest) ∧ Removes addresses o o' rest := by
  induction course generalizing o with
  | @done report =>
    obtain rfl := carries_nil.1 h
    exact ⟨{}, by simp [Report.followedBy], by simp, by simp, rfl, by simp, by simp⟩
  | @broken a rest report e fault delete =>
    have served := carries_singleton.1 h
    by_cases absent : o a = none
    · cases (served.deletes_absent delete absent).2
    · cases (served.deletes_there delete absent).2
  | @next a rest report e outcome es r delete others ih =>
    obtain ⟨o₁, first, second⟩ := carries_cons.1 h
    obtain ⟨later, rfl, removes⟩ := ih second
    refine ⟨(Report.on [⟨a, outcome⟩]).followedBy later, ?_, ?_⟩
    · rw [← Report.followedBy_assoc, ← Report.enter_eq report ⟨a, outcome⟩]
    · by_cases absent : o a = none
      · obtain ⟨rfl, hmissing⟩ := first.deletes_absent delete absent
        cases hmissing
        exact removes.missing absent
      · obtain ⟨rfl, hdeleted⟩ := first.deletes_there delete absent
        cases hdeleted
        exact removes.there absent

/-- **On a world that imitates a server without faults tearing down removes the objects**, and to do
it again changes nothing. -/
theorem deleteAll_removes {world : World τ ω} {like : ω → Objects → Prop}
    (imitates : world.Imitates Serves like) {w : ω} (stands : like w o)
    (addresses : List Address) :
    let first := deleteAll world addresses w
    let second := deleteAll world addresses first.world
    ∃ o' report, first.result = .ok report ∧ Removes addresses o o' report ∧
      like first.world o' ∧ second.result = .ok { alreadyGone := addresses } ∧
      like second.world o' := by
  intro first second
  obtain ⟨es, r, w₁, course, carries⟩ := exists_course world addresses {} w
  obtain ⟨hresult, rfl, -⟩ := deleteAll_of_course course carries
  obtain ⟨o', served, hlike⟩ := imitates.carries stands carries
  obtain ⟨report, rfl, removes⟩ := course.removes served
  obtain ⟨fs, r', w₂, again, carries'⟩ := exists_course world addresses {} first.world
  obtain ⟨hagain, rfl, -⟩ := deleteAll_of_course again carries'
  obtain ⟨o'', served', hlike'⟩ := imitates.carries hlike carries'
  obtain ⟨rfl, rfl⟩ := again.misses served' removes.removed
  exact ⟨_, report, hresult, removes, hlike, hagain, hlike'⟩

end Teardown

end EphemeralDatabase
