import EphemeralDatabase.Proofs.Console.Verbatim
import EphemeralDatabase.Proofs.Settings.Names
import EphemeralDatabase.Proofs.Text.Numeral

/-!
# Texts that mean nothing to a console

Numbers, ports and labels are made of characters that no console takes for anything but themselves
(`Markup.Plain`), and so is what objects are called by (`Address.plain_ref`).
-/

namespace EphemeralDatabase

open Markup (Plain)

theorem inert_of_isDigit {c : Char} (h : c.isDigit = true) : Pictograph.isInert c = true := by
  have hrange : 48 ≤ c.toNat ∧ c.toNat ≤ 57 := by
    simpa [Char.isDigit, UInt32.le_iff_toNat_le] using h
  refine Markup.inert_of_toNat (by omega) ?_ ?_ ?_
  all_goals
    rintro rfl
    exact absurd h (by decide)

theorem Numeric.plain {text : String} (h : Numeric text) : Plain text.toList := fun c hc => by
  have hmarks : Plain "+-.aefin".toList := by decide
  exact (h c hc).elim inert_of_isDigit (hmarks c)

/-- A label is plain. -/
theorem Form.plain_of_label {text : String} (h : Form.label.fits text = true) :
    Plain text.toList := fun c hc => by
  have hadmits : (('a' ≤ c ∧ c ≤ 'z') ∨ c.isDigit = true) ∨ c = '-' := by
    have hform := (Pattern.accepts_iff.1 h).admits hc
    simp only [Form.label, Form.labelEdge, Form.labelInside, Pattern.optional, Pattern.admits,
      Bool.or_eq_true, decide_eq_true_eq, beq_iff_eq, Bool.false_eq_true, or_false] at hform
    tauto
  rcases hadmits with (⟨hlow, -⟩ | hdigit) | rfl
  · have hrange : 97 ≤ c.toNat := hlow
    refine Markup.inert_of_toNat (by omega) ?_ ?_ ?_
    all_goals
      rintro rfl
      exact absurd hlow (by decide)
  · exact inert_of_isDigit hdigit
  · decide

theorem Address.plain_ref {a : Address} (hspace : Plain a.space.toList)
    (hname : Plain a.name.toList) : Plain a.ref.toList := by
  obtain ⟨kind, space, name⟩ := a
  simp only [ref, Markup.plain_append]
  exact ⟨⟨⟨⟨by cases kind <;> decide, by decide⟩, hspace⟩, by decide⟩, hname⟩

theorem plain_portText (port : Option ℤ) : Plain (portText port).toList := by
  cases port with
  | none => decide
  | some n => exact (Numeric.toString_int n).plain

/-- **What the two objects are called by is plain.** -/
theorem Settings.plain_refs {s : Settings} (hcluster : s.cluster.Valid)
    (hdatabase : s.database.Valid) :
    Plain (serviceDescriptor s.cluster s.database).address.ref.toList ∧
      Plain (podDescriptor s.cluster s.database).address.ref.toList :=
  have hspace := Form.plain_of_label hcluster.space_label
  ⟨Address.plain_ref hspace (Form.plain_of_label hdatabase.name_labels.1),
    Address.plain_ref hspace (Form.plain_of_label hdatabase.name_labels.2)⟩

end EphemeralDatabase
