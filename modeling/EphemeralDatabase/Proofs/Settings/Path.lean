import EphemeralDatabase.Settings.Path
import Mathlib.Tactic.Common

/-!
# The normal form of paths

The parts of a path contain no slash (`Path.of_mem_parts`), so putting them together with slashes
and taking the result apart gives them back (`Path.parts_intercalate`).  The slashes at the
beginning are no parts and stay what they are.  Hence the normal form is one: a path that has it
is not changed (`Path.normal_normal`), and a path that was read once reads the same again.
-/

namespace EphemeralDatabase

namespace Path

variable {path text part : String}

/-- What stands between separators contains none. -/
theorem notMem_of_mem_splitOn {a : Char} {cs piece : List Char} (h : piece ∈ cs.splitOn a) :
    a ∉ piece := by
  induction cs generalizing piece with
  | nil =>
    obtain rfl : piece = [] := by simpa using h
    exact List.not_mem_nil
  | cons c cs ih =>
    rw [List.splitOn_cons_eq_if_modifyHead] at h
    cases hsplit : cs.splitOn a with
    | nil => exact absurd hsplit (List.splitOn_ne_nil a cs)
    | cons first rest =>
      rw [hsplit] at h ih
      by_cases hc : c = a
      · rw [if_pos (by simpa using hc), List.mem_cons] at h
        rcases h with rfl | h
        · exact List.not_mem_nil
        · exact ih h
      · rw [if_neg (by simpa using hc), List.modifyHead_cons, List.mem_cons] at h
        rcases h with rfl | h
        · have hfirst : a ∉ first := ih List.mem_cons_self
          simp [hfirst, Ne.symm hc]
        · exact ih (List.mem_cons_of_mem _ h)

/-- A part is not empty, is not a point, and has no slash in it. -/
theorem of_mem_parts (h : part ∈ parts path) : part ≠ "" ∧ part ≠ "." ∧ '/' ∉ part.toList := by
  obtain ⟨hmem, hkept⟩ := List.mem_filter.1 h
  obtain ⟨piece, hpiece, rfl⟩ := List.mem_map.1 hmem
  have hslash : '/' ∉ piece := notMem_of_mem_splitOn hpiece
  simp_all

theorem parts_slash (text : String) : parts ("/" ++ text) = parts text := by
  have hsplit : ("/" ++ text).toList.splitOn '/' = [] :: text.toList.splitOn '/' := by
    rw [String.toList_append]
    exact List.splitOn_append_cons_self [] text.toList
  rw [parts, hsplit]
  rfl

/-- A path begins with no slash, with two, or with one. -/
theorem root_mem (path : String) : root path = "" ∨ root path = "//" ∨ root path = "/" := by
  unfold root
  split <;> simp

/-- The slashes at the beginning are no parts. -/
theorem parts_root (path text : String) : parts (root path ++ text) = parts text := by
  rcases root_mem path with hroot | hroot | hroot <;> rw [hroot]
  · rw [String.empty_append]
  · exact (parts_slash ("/" ++ text)).trans (parts_slash text)
  · exact parts_slash text

/-- Parts that are put together with slashes are the parts of the result. -/
theorem parts_intercalate {ps : List String}
    (h : ∀ part ∈ ps, part ≠ "" ∧ part ≠ "." ∧ '/' ∉ part.toList) :
    parts ("/".intercalate ps) = ps := by
  by_cases hps : ps = []
  · subst hps
    simp [parts]
  · have hslash : ∀ l ∈ ps.map String.toList, '/' ∉ l := by
      intro l hl
      obtain ⟨part, hpart, rfl⟩ := List.mem_map.1 hl
      exact (h part hpart).2.2
    have hsplit : ("/".intercalate ps).toList.splitOn '/' = ps.map String.toList := by
      rw [String.toList_intercalate]
      exact List.splitOn_intercalate '/' hslash (by simpa using hps)
    have hback : (ps.map String.toList).map String.ofList = ps := by simp
    rw [parts, hsplit, hback, List.filter_eq_self]
    intro part hpart
    simp [(h part hpart).1, (h part hpart).2.1]

/-- The slashes at the beginning are kept. -/
theorem root_of_parts (path : String) {ps : List String}
    (h : ∀ part ∈ ps, part ≠ "" ∧ part ≠ "." ∧ '/' ∉ part.toList) :
    root (root path ++ "/".intercalate ps) = root path := by
  have hstart : ("/".intercalate ps).toList.takeWhile (· == '/') = [] := by
    cases ps with
    | nil => simp
    | cons part ps =>
      obtain ⟨hne, -, hslash⟩ := h part List.mem_cons_self
      cases hpart : part.toList with
      | nil => exact absurd (String.toList_eq_nil_iff.1 hpart) hne
      | cons c cs =>
        have hc : c ≠ '/' := by
          rintro rfl
          exact hslash (hpart ▸ List.mem_cons_self)
        cases ps with
        | nil => simp [hpart, hc]
        | cons q qs => simp [hpart, hc]
  have htake : ∀ slashes : String, (∀ c ∈ slashes.toList, c = '/') →
      (slashes ++ "/".intercalate ps).toList.takeWhile (· == '/') = slashes.toList := by
    intro slashes hall
    rw [String.toList_append, List.takeWhile_append_of_pos (by simpa using hall), hstart,
      List.append_nil]
  rcases root_mem path with hroot | hroot | hroot <;> rw [hroot, root, htake _ (by simp)] <;> rfl

/-- **A path in normal form stays as it is.** -/
theorem normal_normal (path : String) : normal (normal path) = normal path := by
  have hparts : ∀ part ∈ parts path, part ≠ "" ∧ part ≠ "." ∧ '/' ∉ part.toList :=
    fun part hpart => of_mem_parts hpart
  by_cases hempty : root path ++ "/".intercalate (parts path) = ""
  · have hpoint : normal path = "." := by simp [normal, hempty]
    have hnone : parts "." = [] := by
      rw [parts, List.splitOn_eq_singleton (by decide)]
      rfl
    rw [hpoint, normal, hnone]
    rfl
  · have hself : normal path = root path ++ "/".intercalate (parts path) := by
      simp only [normal, if_neg hempty]
    rw [hself, normal, parts_root, parts_intercalate hparts, root_of_parts path hparts,
      if_neg hempty]

end Path
end EphemeralDatabase
