import EphemeralDatabase.Console.Device
import EphemeralDatabase.Proofs.Console.Markup
import EphemeralDatabase.Proofs.Console.Pictograph
import Mathlib.Data.List.Infix

/-!
# What is printed as it stands

Texts from outside are put into marked-up text as they are, so they are printed as they are only if
nothing in them is markup.  `Markup.Literal` says what that takes: no tag, no escaped bracket, no
known name of a pictograph and no control character.

That this is enough on a console on which the text fits is a matter of following the text to its
end (`taken_of_kept`).  That it is necessary on any console needs a measure, because what is dropped
in one place might come back in another: `weight` counts brackets and colons, and backslashes twice.
Every tag, every escape and every pictograph makes the text lighter, and nothing makes it heavier
(`lighter_or_kept`), not even the breaking of its lines (`weight_laid_le`), so a text that is
printed as it stands has none.  A text in a colour has the closing tag after it, which a backslash
at the end of the text would escape.
-/

namespace EphemeralDatabase.Markup

variable {cs rest inside plain text tail : List Char} {escapes position : ℕ} {c : Char}

/-! ## Literal text -/

/-- There is no tag in the text, escaped or not. -/
def Untagged (cs : List Char) : Prop := ∀ inside, IsTag inside → ¬ '[' :: inside ++ [']'] <:+: cs

/-- The text is printed as it stands. -/
structure Literal (cs : List Char) : Prop where
  untagged : Untagged cs
  unescaped : ¬ ['\\', '['] <:+: cs
  unnamed : Pictograph.replaced cs = cs
  visible : ∀ c ∈ cs, isControl c = false ∧ c ≠ '\t'

/-! ## Weights -/

/-- How much of a character can be taken away. -/
def mass (c : Char) : ℕ := if c = '\\' then 2 else if c = '[' ∨ c = ':' then 1 else 0

/-- How much there is in a text that can be taken away. -/
def weight : List Char → ℕ
  | [] => 0
  | c :: cs => mass c + weight cs

@[simp] theorem weight_nil : weight [] = 0 := rfl

theorem weight_cons (c : Char) (cs : List Char) : weight (c :: cs) = mass c + weight cs := rfl

@[simp] theorem weight_append (cs ds : List Char) : weight (cs ++ ds) = weight cs + weight ds := by
  induction cs with
  | nil => simp
  | cons c cs ih => rw [List.cons_append, weight_cons, weight_cons, ih, Nat.add_assoc]

theorem weight_slashes (n : ℕ) : weight (List.replicate n '\\') = 2 * n := by
  induction n with
  | zero => rfl
  | succ n ih =>
    rw [List.replicate_succ, weight_cons, ih, Nat.mul_succ, Nat.add_comm]
    rfl

theorem weight_of_massless (h : ∀ c ∈ cs, mass c = 0) : weight cs = 0 := by
  induction cs with
  | nil => rfl
  | cons c cs ih =>
    obtain ⟨hc, hcs⟩ := List.forall_mem_cons.1 h
    rw [weight_cons, hc, ih hcs]

theorem massless_of_inert (h : Pictograph.isInert c = true) : mass c = 0 := by
  simp only [Pictograph.isInert, Bool.and_eq_true, bne_iff_ne] at h
  simp [mass, h.1.1.1.1, h.1.1.1.2, h.1.1.2]

/-- Replacing a name makes the text lighter, and changes nothing else. -/
theorem replaced_cases (cs : List Char) :
    weight (Pictograph.replaced cs) < weight cs ∨ Pictograph.replaced cs = cs := by
  induction cs using Pictograph.replaced.induct with
  | case1 => exact .inr (by simp [Pictograph.replaced])
  | case2 c rest hname ih =>
    obtain ⟨rfl, hcolon⟩ := hname
    have hrest := Pictograph.eq_of_name hcolon
    generalize hafter : rest.drop ((Pictograph.nameOf rest).length + 1) = after at ih hrest
    rw [Pictograph.replaced, if_pos ⟨rfl, hcolon⟩, hafter]
    have hweight : weight (':' :: rest) = weight (Pictograph.nameOf rest) + 2 + weight after := by
      conv_lhs => rw [hrest]
      simp only [weight_cons, weight_append, mass]
      simp
      omega
    cases hpicture : Pictograph.shown? (Pictograph.nameOf rest) with
    | some picture =>
      have hnone := weight_of_massless fun c hc =>
        massless_of_inert (Pictograph.inert_of_shown? hpicture c hc)
      refine .inl ?_
      rw [Option.getD_some, weight_append, hnone, hweight]
      rcases ih with ih | ih
      · omega
      · rw [ih]
        omega
    | none =>
      rw [Option.getD_none]
      rcases ih with ih | ih
      · refine .inl ?_
        simp only [List.cons_append, List.append_assoc, List.nil_append, weight_cons, weight_append]
          at hweight ⊢
        have hone : mass ':' = 1 := rfl
        omega
      · refine .inr ?_
        rw [ih]
        simp [← hrest]
  | case3 d rest hname ih =>
    rw [Pictograph.replaced, if_neg hname]
    rcases ih with ih | ih
    · exact .inl (by rw [weight_cons, weight_cons]; omega)
    · exact .inr (by rw [ih])

/-- Unescaping a bracket makes the text lighter, and changes nothing else. -/
theorem unescaped_cases (cs : List Char) :
    ['\\', '['] <:+: cs ∧ weight (unescaped cs) < weight cs ∨
      ¬ ['\\', '['] <:+: cs ∧ unescaped cs = cs := by
  induction cs using unescaped.induct with
  | case1 rest ih =>
    have hle : weight (unescaped rest) ≤ weight rest := by
      rcases ih with ⟨-, ih⟩ | ⟨-, ih⟩
      · exact ih.le
      · rw [ih]
    refine .inl ⟨(List.prefix_append ['\\', '['] rest).isInfix, ?_⟩
    rw [unescaped, weight_cons, weight_cons, weight_cons]
    have hslash : mass '\\' = 2 := rfl
    omega
  | case2 c rest hpair ih =>
    rw [unescaped, weight_cons, weight_cons c rest]
    · rcases ih with ⟨hwithin, ih⟩ | ⟨hrest, ih⟩
      · exact .inl ⟨hwithin.trans (List.suffix_cons c rest).isInfix, by omega⟩
      · refine .inr ⟨fun hwithin => ?_, by rw [ih]⟩
        rcases List.infix_cons_iff.1 hwithin with ⟨more, hhead⟩ | hwithin
        · obtain ⟨rfl, rfl⟩ : '\\' = c ∧ '[' :: more = rest := by simpa using hhead
          exact hpair more rfl rfl
        · exact hrest hwithin
    · exact hpair
  | case3 => exact .inr ⟨by simp, rfl⟩

/-- What is shown of a piece is lighter, or it is the piece. -/
theorem shown_piece_cases (cs : List Char) :
    weight (Pictograph.replaced (unescaped cs)) < weight cs ∨
      ¬ ['\\', '['] <:+: cs ∧ Pictograph.replaced cs = cs ∧
        Pictograph.replaced (unescaped cs) = cs := by
  rcases unescaped_cases cs with ⟨-, hlighter⟩ | ⟨hnone, hsame⟩
  · refine .inl (lt_of_le_of_lt ?_ hlighter)
    rcases replaced_cases (unescaped cs) with h | h
    · exact h.le
    · rw [h]
  · rw [hsame]
    exact (replaced_cases cs).imp_right fun h => ⟨hnone, h, h⟩

theorem weight_shown_piece_le (cs : List Char) :
    weight (Pictograph.replaced (unescaped cs)) ≤ weight cs := by
  rcases shown_piece_cases cs with h | ⟨-, -, h⟩
  · exact h.le
  · rw [h]

/-! ## Text that is kept -/

/-- Nothing in the text is taken away, after these plain characters and before this tail. -/
structure Kept (plain text tail : List Char) : Prop where
  untagged : Untagged text
  unescaped : ¬ ['\\', '['] <:+: plain ++ text
  unnamed : Pictograph.replaced (plain ++ text) = plain ++ text
  apart : tail ≠ [] → text.getLast? ≠ some '\\'

/-- A text with one more character before it that begins no tag. -/
theorem Kept.cons (hnone : escapedTag? (c :: (text ++ tail)) = none) (htail : IsTail tail)
    (h : Kept (plain ++ [c]) text tail) : Kept plain (c :: text) tail := by
  have hbegins (inside : List Char) (htag : IsTag inside) (escapes : ℕ) (after : List Char)
      (heq : c :: (text ++ tail) = List.replicate escapes '\\' ++ '[' :: inside ++ ']' :: after) :
      False := by
    rw [escapedTag?_eq_some_iff.2 ⟨htag, after, heq⟩] at hnone
    cases hnone
  refine ⟨fun inside htag hwithin => ?_, by simpa using h.unescaped, by simpa using h.unnamed,
    fun hne hlast => ?_⟩
  · rcases List.infix_cons_iff.1 hwithin with ⟨after, hhead⟩ | hwithin
    · obtain ⟨rfl, rfl⟩ : '[' = c ∧ inside ++ ']' :: after = text := by simpa using hhead
      exact hbegins inside htag 0 (after ++ tail) (by simp)
    · exact h.untagged inside htag hwithin
  · cases text with
    | nil =>
      obtain rfl : c = '\\' := by simpa using hlast
      cases htail with
      | nil => exact hne rfl
      | @tag last htag => exact hbegins last htag 1 [] (by simp)
    | cons d text => exact h.apart hne (by simpa using hlast)

/-- A tag that is passed takes something away. -/
theorem exists_weight_lt_of_tag (htag : IsTag inside) (escapes position : ℕ)
    (plain rest : List Char) :
    ∃ next, weight (visible (taken position plain
        (List.replicate escapes '\\' ++ '[' :: inside ++ ']' :: rest))) <
      weight plain + escapes + weight ('[' :: inside ++ [']']) +
        weight (visible (taken next [] rest)) := by
  have hplain := weight_shown_piece_le plain
  have hslashes := weight_shown_piece_le (List.replicate (escapes / 2) '\\')
  rw [weight_slashes] at hslashes
  refine ⟨position + (escapes + inside.length + 2), ?_⟩
  rcases Nat.mod_two_eq_zero_or_one escapes with even | odd
  · have hbracket : 0 < weight ('[' :: inside ++ [']']) := by
      rw [List.cons_append, weight_cons]
      exact Nat.add_pos_left (by decide) _
    simp only [taken_tag htag even, visible, weight_append] at hbracket ⊢
    omega
  · have hshown := weight_shown_piece_le ('[' :: inside ++ [']'])
    simp only [taken_escaped htag odd, visible, weight_append] at hshown ⊢
    omega

theorem visible_plain (cs : List Char) :
    visible [.plain cs] = Pictograph.replaced (unescaped cs) := by
  rw [visible, visible, List.append_nil]

/-- Before a tail what is printed are the characters before. -/
theorem visible_tail (htail : IsTail tail) (position : ℕ) (plain : List Char) :
    visible (taken position plain tail) = Pictograph.replaced (unescaped plain) := by
  cases htail with
  | nil => rw [taken_nil, visible_plain]
  | tag htag =>
    rw [taken_bracket htag]
    simp [visible, unescaped, Pictograph.replaced]

/-- At the end of the text what is printed are the characters before. -/
theorem lighter_or_kept_nil (plain tail : List Char) :
    weight (Pictograph.replaced (unescaped plain)) < weight (plain ++ []) ∨
      Kept plain [] tail ∧ Pictograph.replaced (unescaped plain) = plain ++ [] := by
  rw [List.append_nil]
  refine (shown_piece_cases plain).imp_right fun ⟨hnone, hname, hsame⟩ => ⟨?_, hsame⟩
  exact ⟨fun _ _ => by simp, by simpa using hnone, by simpa using hname, by simp⟩

/-- **What is printed is lighter than the text, or it is the text**, and nothing is taken away. -/
theorem lighter_or_kept (htail : IsTail tail) (light : weight tail ≤ 1) (position : ℕ)
    (plain text : List Char) :
    weight (visible (taken position plain (text ++ tail))) < weight (plain ++ text) ∨
      Kept plain text tail ∧ visible (taken position plain (text ++ tail)) = plain ++ text := by
  -- On the length of the text, because a tag is passed with all that stands in it.
  induction hlength : text.length using Nat.strong_induction_on
    generalizing text position plain with
  | _ n ih =>
    cases hfound : escapedTag? (text ++ tail) with
    | none =>
      cases text with
      | nil =>
        rw [List.nil_append, visible_tail htail]
        exact lighter_or_kept_nil plain tail
      | cons c text =>
        rw [List.cons_append] at hfound ⊢
        rw [taken_skip hfound]
        rcases ih text.length (by simp [← hlength]) (position + 1) (plain ++ [c]) text rfl with
          hlighter | ⟨hkept, hsame⟩
        · exact .inl (by simpa using hlighter)
        · exact .inr ⟨hkept.cons hfound htail, by simpa using hsame⟩
    | some tag =>
      obtain ⟨escapes, inside⟩ := tag
      obtain ⟨htag, rest, heq⟩ := escapedTag?_eq_some_iff.1 hfound
      rcases within_or_tail htail htag heq with ⟨after, rfl, rfl⟩ | ⟨rfl, rfl, rfl⟩
      · -- The tag stands within the text, and the text that is left is shorter.
        obtain ⟨next, hlighter⟩ := exists_weight_lt_of_tag htag escapes position plain
          (after ++ tail)
        have hshorter : after.length < n := by
          simp only [← hlength, List.length_append, List.length_cons]
          omega
        have hafter : weight (visible (taken next [] (after ++ tail))) ≤ weight after := by
          rcases ih after.length hshorter next [] after rfl with hlighter | ⟨-, hsame⟩
          · exact hlighter.le
          · rw [hsame, List.nil_append]
        have htext : weight (List.replicate escapes '\\' ++ '[' :: inside ++ ']' :: after) =
            2 * escapes + weight ('[' :: inside ++ [']']) + weight after := by
          rw [← weight_slashes, ← weight_append, ← weight_append]
          simp
        refine .inl ?_
        rw [heq, weight_append, htext]
        omega
      · -- The tag is the tail, so the text is what is before it: backslashes.
        rcases Nat.eq_zero_or_pos escapes with rfl | hpos
        · rw [List.replicate_zero, List.nil_append, visible_tail htail]
          exact lighter_or_kept_nil plain _
        · obtain ⟨next, hlighter⟩ := exists_weight_lt_of_tag htag escapes position plain []
          have hnothing : weight (visible (taken next [] [])) = 0 := by
            simp [visible, unescaped, Pictograph.replaced]
          refine .inl ?_
          rw [heq, weight_append, weight_slashes]
          omega

/-- Nothing is taken away from a text without brackets and names. -/
theorem kept_of_notMem (hopen : '[' ∉ text) (hname : Pictograph.replaced text = text)
    (hlast : text.getLast? ≠ some '\\') : Kept [] text tail where
  untagged _ _ hwithin := hopen (hwithin.subset List.mem_cons_self)
  unescaped hwithin := hopen (hwithin.subset (List.mem_cons_of_mem _ List.mem_cons_self))
  unnamed := hname
  apart _ := hlast

/-- **Text that is kept is one piece.** -/
theorem taken_of_kept (htail : IsTail tail) {before : List Char} (h : Kept before text tail)
    (position : ℕ) (plain : List Char) : taken position plain (text ++ tail) =
      taken (position + text.length) (plain ++ text) tail := by
  induction text generalizing position plain before with
  | nil => simp
  | cons c text ih =>
    have hnone : escapedTag? (c :: (text ++ tail)) = none := by
      refine Option.eq_none_iff_forall_ne_some.2 fun ⟨escapes, inside⟩ hfound => ?_
      obtain ⟨htag, rest, heq⟩ := escapedTag?_eq_some_iff.1 hfound
      rw [← List.cons_append] at heq
      rcases within_or_tail htail htag heq with ⟨after, htext, -⟩ | ⟨htext, rfl, -⟩
      · exact h.untagged inside htag ⟨List.replicate escapes '\\', after, by simp [htext]⟩
      · have hall : ∀ d ∈ c :: text, d = '\\' := fun d hd =>
          List.eq_of_mem_replicate (htext ▸ hd)
        refine h.apart (by simp) ?_
        rw [List.getLast?_eq_some_getLast (List.cons_ne_nil c text)]
        exact congrArg some (hall _ (List.getLast_mem (List.cons_ne_nil c text)))
    have hrest : Kept (before ++ [c]) text tail := by
      refine ⟨fun inside htag hwithin => ?_, by simpa using h.unescaped, by simpa using h.unnamed,
        fun hne hlast => h.apart hne ?_⟩
      · exact h.untagged inside htag (hwithin.trans (List.suffix_cons c text).isInfix)
      · cases text with
        | nil => cases hlast
        | cons d text => simpa using hlast
    rw [List.cons_append, taken_skip hnone, ih hrest, List.append_assoc, List.singleton_append,
      List.length_cons, Nat.add_assoc, Nat.add_comm 1]

/-- What is kept is printed. -/
theorem visible_of_kept (htail : IsTail tail) (h : Kept [] text tail) (position : ℕ) :
    visible (taken position [] (text ++ tail)) = text := by
  have hsame : unescaped text = text :=
    ((unescaped_cases text).resolve_left fun hescaped => h.unescaped hescaped.1).2
  rw [taken_of_kept htail h, visible_tail htail, List.nil_append, hsame]
  exact h.unnamed

theorem Literal.kept (h : Literal text) (apart : tail ≠ [] → text.getLast? ≠ some '\\') :
    Kept [] text tail :=
  ⟨h.untagged, h.unescaped, h.unnamed, apart⟩

/-! ## Text on a console -/

/-- A text as it is printed if nothing in it is markup. -/
def laid [Console] (cs : List Char) : String := String.ofList (Console.layOut (uncontrolled cs))

/-- There are no control characters in what is printed. -/
theorem visible_laid [Console] (cs : List Char) :
    ∀ c ∈ (laid cs).toList, isControl c = false ∧ c ≠ '\t' := by
  intro c hc
  rw [laid, String.toList_ofList] at hc
  rcases Console.mem_layOut hc with hspacing | ⟨hmem, htab⟩
  · simp only [isSpacing, Bool.or_eq_true, beq_iff_eq] at hspacing
    rcases hspacing with rfl | rfl <;> decide
  · exact ⟨by simpa using (List.mem_filter.1 hmem).2, htab⟩

theorem weight_le_of_sublist {ds : List Char} (h : cs.Sublist ds) : weight cs ≤ weight ds := by
  induction h with
  | slnil => exact Nat.le_refl _
  | cons c _ ih => rw [weight_cons]; omega
  | cons_cons c _ ih => rw [weight_cons, weight_cons]; omega

/-- Spacing has no weight. -/
theorem weight_filter_spacing (cs : List Char) :
    weight (cs.filter fun c => !isSpacing c) = weight cs := by
  induction cs with
  | nil => rfl
  | cons c cs ih =>
    rw [List.filter_cons]
    split
    · rw [weight_cons, ih, weight_cons]
    · rename_i hc
      have hmass : mass c = 0 := by
        simp only [isSpacing, Bool.not_eq_true', Bool.not_eq_false, Bool.or_eq_true,
          beq_iff_eq] at hc
        rcases hc with rfl | rfl <;> rfl
      rw [ih, weight_cons, hmass, Nat.zero_add]

/-- **No text gets heavier when its lines are broken.** -/
theorem weight_laid_le [Console] (cs : List Char) : weight (laid cs).toList ≤ weight cs := by
  rw [laid, String.toList_ofList, ← weight_filter_spacing]
  calc weight ((Console.layOut (uncontrolled cs)).filter fun c => !isSpacing c)
      ≤ weight (uncontrolled cs) := weight_le_of_sublist (Console.sublist_layOut _)
    _ ≤ weight cs := weight_le_of_sublist List.filter_sublist

/-- For a text that is given this is decided character by character. -/
theorem visible_of_all (h : (cs.all fun c => !isControl c && c != '\t') = true) :
    ∀ c ∈ cs, isControl c = false ∧ c ≠ '\t' := by
  simpa using h

theorem uncontrolled_of_visible (h : ∀ c ∈ cs, isControl c = false ∧ c ≠ '\t') :
    uncontrolled cs = cs :=
  List.filter_eq_self.2 fun c hc => by simp [(h c hc).1]

/-- **Text without control characters is printed as it is**, if it fits. -/
theorem laid_of_fits [Console] {text : String}
    (h : ∀ c ∈ text.toList, isControl c = false ∧ c ≠ '\t') (fits : Console.Fits text) :
    laid text.toList = text := by
  rw [laid, uncontrolled_of_visible h, Console.layOut_of_fits fits.untabbed fits.narrow,
    String.ofList_toList]

/-! ## Texts that are literal -/

/-- No character of the text means anything to the console. -/
def Plain (cs : List Char) : Prop := ∀ c ∈ cs, Pictograph.isInert c = true

-- By name, since otherwise it may be decided by going through all characters.
instance (cs : List Char) : Decidable (Plain cs) := List.decidableBAll _ _

theorem plain_append {s t : String} : Plain (s ++ t).toList ↔ Plain s.toList ∧ Plain t.toList := by
  rw [String.toList_append]
  exact List.forall_mem_append

/-- After the control characters there are three characters that are not inert. -/
theorem inert_of_toNat (hlow : 13 < c.toNat) (hopen : c ≠ '[') (hslash : c ≠ '\\')
    (hcolon : c ≠ ':') : Pictograph.isInert c = true := by
  have htab : c ≠ '\t' := by
    rintro rfl
    exact absurd hlow (by decide)
  have hcontrol : isControl c = false := by
    simp only [isControl, List.contains_eq_mem, decide_eq_false_iff_not, List.mem_cons,
      List.not_mem_nil, or_false]
    omega
  simp [Pictograph.isInert, hopen, hslash, hcolon, htab, hcontrol]

theorem Plain.notMem (h : Plain cs) (hc : Pictograph.isInert c = false) : c ∉ cs := fun hmem =>
  Bool.false_ne_true (hc.symm.trans (h c hmem))

theorem visible_of_inert (h : Pictograph.isInert c = true) : isControl c = false ∧ c ≠ '\t' := by
  simp only [Pictograph.isInert, Bool.and_eq_true, Bool.not_eq_true', bne_iff_ne] at h
  exact ⟨h.2, h.1.2⟩

/-- After a plain label and a colon, a text is literal if and only if it is by itself. -/
theorem literal_labelled {label : List Char} (h : Plain label) :
    Literal (label ++ ':' :: ' ' :: text) ↔ Literal text := by
  have hsplit : label ++ ':' :: ' ' :: text = (label ++ [':', ' ']) ++ text := by simp
  have hbefore {c : Char} (more : List Char) (hc : c ∉ label ++ [':', ' ']) :
      c :: more <:+: label ++ ':' :: ' ' :: text ↔ c :: more <:+: text :=
    ⟨fun hwithin => infix_of_infix_append hc (hsplit ▸ hwithin),
      fun hwithin => hwithin.trans ⟨label ++ [':', ' '], [], by simp⟩⟩
  have hopen : '[' ∉ label ++ [':', ' '] := by simpa using h.notMem (c := '[') rfl
  have hslash : '\\' ∉ label ++ [':', ' '] := by simpa using h.notMem (c := '\\') rfl
  have hname : Pictograph.replaced (label ++ ':' :: ' ' :: text) = label ++ ':' :: ' ' :: text ↔
      Pictograph.replaced text = text := by
    rw [Pictograph.replaced_append (h.notMem rfl), Pictograph.replaced_of_space,
      Pictograph.replaced]
    simp
  constructor
  · intro hl
    refine ⟨fun inside htag hwithin => hl.untagged inside htag ((hbefore _ hopen).2 hwithin),
      fun hwithin => hl.unescaped ((hbefore _ hslash).2 hwithin), hname.1 hl.unnamed,
      fun c hc => hl.visible c (by simp [hc])⟩
  · intro hl
    refine ⟨fun inside htag hwithin => hl.untagged inside htag ((hbefore _ hopen).1 hwithin),
      fun hwithin => hl.unescaped ((hbefore _ hslash).1 hwithin), hname.2 hl.unnamed, ?_⟩
    rw [hsplit]
    have hcolon : ∀ c ∈ [':', ' '], isControl c = false ∧ c ≠ '\t' := visible_of_all rfl
    exact List.forall_mem_append.2 ⟨List.forall_mem_append.2
      ⟨fun c hc => visible_of_inert (h c hc), hcolon⟩, hl.visible⟩

/-- The same of a label before a text. -/
theorem literal_entry_iff {label value : String} (h : Plain label.toList) :
    Literal (label ++ ": " ++ value).toList ↔ Literal value.toList := by
  have hsplit : (label ++ ": " ++ value).toList = label.toList ++ ':' :: ' ' :: value.toList := by
    simp
  rw [hsplit, literal_labelled h]

/-- Plain text is literal. -/
theorem Plain.literal (h : Plain cs) : Literal cs where
  untagged _ _ hwithin := h.notMem rfl (hwithin.subset List.mem_cons_self)
  unescaped hwithin := h.notMem (c := '\\') rfl (hwithin.subset List.mem_cons_self)
  unnamed := Pictograph.replaced_of_notMem (h.notMem rfl)
  visible c hc := visible_of_inert (h c hc)

/-- Plain text with a colon after it is literal, since no name begins there. -/
theorem Plain.literal_title (h : Plain cs) : Literal (cs ++ [':']) := by
  have hall : ∀ c ∈ cs ++ [':'], Pictograph.isInert c = true ∨ c = ':' :=
    List.forall_mem_append.2 ⟨fun c hc => .inl (h c hc), by simp⟩
  have habsent {c : Char} (hc : Pictograph.isInert c = false ∧ c ≠ ':') : c ∉ cs ++ [':'] :=
    fun hmem => (hall c hmem).elim (fun hinert => by simp [hc.1] at hinert) hc.2
  refine ⟨fun inside _ hwithin => ?_, fun hwithin => ?_, ?_, fun c hc => ?_⟩
  · exact habsent (c := '[') ⟨rfl, by decide⟩ (hwithin.subset List.mem_cons_self)
  · exact habsent (c := '\\') ⟨rfl, by decide⟩ (hwithin.subset List.mem_cons_self)
  · rw [Pictograph.replaced_append (h.notMem rfl), Pictograph.replaced_of_last List.not_mem_nil]
  · rcases hall c hc with hinert | rfl
    · exact visible_of_inert hinert
    · decide

end EphemeralDatabase.Markup
