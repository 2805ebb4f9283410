import EphemeralDatabase.Console.Markup
import Mathlib.Data.List.Basic
import Mathlib.Data.List.TakeWhile
import Mathlib.Tactic.Common

/-!
# What can be printed

Marked-up text is taken apart from its front: text without an opening bracket is one piece
(`taken_plain`), a tag is another (`taken_tag`), and an escaped tag is text again
(`taken_escaped`).  What is wrong with the text and what is printed of it are both read off the
pieces.

A text stands in a style with the closing tag after it.  The tags before that one are tags of the
text (`exists_taken_append`), so the text can be printed if they all open styles that need no
evaluation (`firstProblem?_closing`), and it cannot if one of them closes a style
(`exists_problem_of_closing`).
-/

namespace EphemeralDatabase

/-- What does not begin in one part of a text stands in the other. -/
theorem infix_of_infix_append {before after more : List Char} {c : Char} (h : c ∉ before)
    (hwithin : c :: more <:+: before ++ after) : c :: more <:+: after := by
  induction before with
  | nil => exact hwithin
  | cons d before ih =>
    rcases List.infix_cons_iff.1 hwithin with ⟨rest, hrest⟩ | hwithin
    · obtain ⟨rfl, -⟩ : c = d ∧ _ := by simpa using hrest
      exact absurd List.mem_cons_self h
    · exact ih (List.not_mem_of_not_mem_cons h) hwithin

namespace Markup

variable {cs rest inside plain text tail : List Char} {escapes position fuel : ℕ}
  {opened : List String} {c : Char}

/-! ## Tags -/

/-- What stands in a tag: it begins as tags do and has no brackets in it. -/
def IsTag (inside : List Char) : Prop :=
  inside.head?.any opensTag = true ∧ '[' ∉ inside ∧ ']' ∉ inside

instance (inside : List Char) : Decidable (IsTag inside) :=
  inferInstanceAs (Decidable (_ ∧ _ ∧ _))

theorem ne_bracket_of_opensTag (h : opensTag c = true) : c ≠ '[' ∧ c ≠ ']' := by
  constructor <;> rintro rfl <;> revert h <;> decide

theorem drop_length_takeWhile (p : Char → Bool) (cs : List Char) :
    cs.drop (cs.takeWhile p).length = cs.dropWhile p := by
  induction cs with
  | nil => rfl
  | cons c cs ih => by_cases h : p c = true <;> simp [h, ih]

theorem tagText?_eq_some_iff :
    tagText? cs = some inside ↔ IsTag inside ∧ ∃ rest, cs = inside ++ ']' :: rest := by
  cases cs with
  | nil => simp [tagText?]
  | cons c rest =>
    constructor
    · intro h
      simp only [tagText?] at h
      split at h
      · rename_i hcond
        obtain ⟨hopens, hclosed⟩ := hcond
        obtain rfl : c :: rest.takeWhile (fun d => d != '[' && d != ']') = inside := by
          simpa using h
        obtain ⟨hopen, hclose⟩ := ne_bracket_of_opensTag hopens
        have hinside : ∀ d ∈ rest.takeWhile (fun d => d != '[' && d != ']'),
            d ≠ '[' ∧ d ≠ ']' := fun d hd => by
          simpa using List.all_eq_true.1 List.all_takeWhile d hd
        rw [drop_length_takeWhile, List.head?_eq_some_iff] at hclosed
        obtain ⟨after, hafter⟩ := hclosed
        refine ⟨⟨by simpa using hopens, ?_, ?_⟩, after, ?_⟩
        · exact List.not_mem_cons_of_ne_of_not_mem hopen.symm fun hd => (hinside _ hd).1 rfl
        · exact List.not_mem_cons_of_ne_of_not_mem hclose.symm fun hd => (hinside _ hd).2 rfl
        · rw [List.cons_append, ← hafter]
          exact congrArg (c :: ·) List.takeWhile_append_dropWhile.symm
      · cases h
    · rintro ⟨⟨hopens, hopen, hclose⟩, after, heq⟩
      cases inside with
      | nil => simp at hopens
      | cons d inside =>
        obtain ⟨rfl, rfl⟩ : c = d ∧ rest = inside ++ ']' :: after := by simpa using heq
        have hplain : ∀ d ∈ inside, (d != '[' && d != ']') = true := by
          intro d hd
          have hopen : d ≠ '[' := fun h => hopen (h ▸ List.mem_cons_of_mem _ hd)
          have hclose : d ≠ ']' := fun h => hclose (h ▸ List.mem_cons_of_mem _ hd)
          simp [hopen, hclose]
        have htake :
            (inside ++ ']' :: after).takeWhile (fun d => d != '[' && d != ']') = inside := by
          rw [List.takeWhile_append_of_pos hplain]
          simp
        simp only [tagText?, htake, List.drop_left]
        simpa using hopens

/-- **A tag is found where one stands**, after all backslashes before it. -/
theorem escapedTag?_eq_some_iff :
    escapedTag? cs = some (escapes, inside) ↔ IsTag inside ∧
      ∃ rest, cs = List.replicate escapes '\\' ++ '[' :: inside ++ ']' :: rest := by
  constructor
  · intro h
    unfold escapedTag? at h
    simp only [drop_length_takeWhile] at h
    split at h
    · rename_i after hdrop
      obtain ⟨found, htag, heq⟩ := Option.map_eq_some_iff.1 h
      obtain ⟨hlength, rfl⟩ := Prod.mk.inj heq
      obtain ⟨hinside, rest, rfl⟩ := tagText?_eq_some_iff.1 htag
      refine ⟨hinside, rest, ?_⟩
      have hslashes : cs.takeWhile (· == '\\') = List.replicate escapes '\\' := by
        rw [← hlength, List.eq_replicate_iff]
        exact ⟨rfl, fun d hd => by simpa using List.all_eq_true.1 List.all_takeWhile d hd⟩
      rw [← hslashes, List.append_assoc, List.cons_append, ← hdrop]
      exact List.takeWhile_append_dropWhile.symm
    · cases h
  · rintro ⟨hinside, rest, rfl⟩
    have htake :
        (List.replicate escapes '\\' ++ '[' :: inside ++ ']' :: rest).takeWhile (· == '\\') =
          List.replicate escapes '\\' := by
      rw [List.append_assoc, List.takeWhile_append_of_pos (by simp)]
      simp
    have hdrop : (List.replicate escapes '\\' ++ '[' :: inside ++ ']' :: rest).drop escapes =
        '[' :: (inside ++ ']' :: rest) := by
      rw [List.append_assoc, List.drop_left' (by simp)]
      rfl
    simp only [escapedTag?, htake, List.length_replicate, hdrop,
      tagText?_eq_some_iff.2 ⟨hinside, rest, rfl⟩, Option.map_some]

theorem escapedTag?_of_tag (htag : IsTag inside) :
    escapedTag? ('[' :: inside ++ ']' :: rest) = some (0, inside) :=
  escapedTag?_eq_some_iff.2 ⟨htag, rest, rfl⟩

/-! ## Pieces -/

/-- The pieces are the same for every amount of fuel that is enough. -/
theorem pieces_fuel {fuel' : ℕ} (h : cs.length < fuel) (h' : cs.length < fuel') :
    pieces fuel position plain cs = pieces fuel' position plain cs := by
  induction fuel generalizing fuel' position plain cs with
  | zero => cases h
  | succ fuel ih =>
    cases fuel' with
    | zero => cases h'
    | succ fuel' =>
      cases cs with
      | nil => rfl
      | cons c rest =>
        simp only [List.length_cons] at h h'
        simp only [pieces]
        split
        · rename_i escapes inside _
          have hshorter :
              ((c :: rest).drop (escapes + inside.length + 2)).length ≤ rest.length := by
            simp only [List.length_drop, List.length_cons]
            omega
          exact congrArg _ (ih (by omega) (by omega))
        · exact ih (by omega) (by omega)

/-- The pieces of the characters from a position on, after characters that are in no piece yet. -/
def taken (position : ℕ) (plain cs : List Char) : List Piece :=
  pieces (cs.length + 1) position plain cs

theorem piecesOf_eq (text : String) : piecesOf text = taken 0 [] text.toList := rfl

@[simp] theorem taken_nil : taken position plain [] = [.plain plain] := rfl

/-- A character that does not begin a tag belongs to the text around it. -/
theorem taken_skip (h : escapedTag? (c :: rest) = none) :
    taken position plain (c :: rest) = taken (position + 1) (plain ++ [c]) rest := by
  simp only [taken, pieces, h]
  exact pieces_fuel (by simp) (by simp)

/-- The name that stands in a tag. -/
def tagName (inside : List Char) : String := String.ofList (inside.takeWhile (· != '='))

/-- What stands in a tag after the name. -/
def tagParameters (inside : List Char) : Option String :=
  match inside.drop (inside.takeWhile (· != '=')).length with
  | [] => none
  | _ :: rest => some (String.ofList rest)

/-- Where a tag is found, it is what comes next. -/
theorem taken_found (htag : IsTag inside)
    (hcs : cs = List.replicate escapes '\\' ++ '[' :: inside ++ ']' :: rest) :
    taken position plain cs = .plain plain :: tagPieces position escapes inside
      ++ taken (position + (escapes + inside.length + 2)) [] rest := by
  have hfound := escapedTag?_eq_some_iff.2 ⟨htag, rest, hcs⟩
  have hdrop : cs.drop (escapes + inside.length + 2) = rest := by
    have hsplit : cs = (List.replicate escapes '\\' ++ '[' :: inside ++ [']']) ++ rest := by
      simp [hcs]
    rw [hsplit, List.drop_left' (by simp; omega)]
  cases cs with
  | nil => simp at hcs
  | cons c cs =>
    have hlength : rest.length ≤ cs.length := by
      have hdropped := congrArg List.length hdrop
      simp only [List.length_drop, List.length_cons] at hdropped
      omega
    simp only [taken, pieces, hfound, hdrop]
    rw [pieces_fuel]
    all_goals simp; try omega

/-- A tag is a piece after its backslashes. -/
theorem taken_tag (htag : IsTag inside) (even : escapes % 2 = 0) :
    taken position plain (List.replicate escapes '\\' ++ '[' :: inside ++ ']' :: rest) =
      .plain plain :: .plain (List.replicate (escapes / 2) '\\') ::
        .tag (position + escapes) (tagName inside) (tagParameters inside) ::
          taken (position + (escapes + inside.length + 2)) [] rest := by
  rw [taken_found htag rfl, tagPieces, if_neg (by omega)]
  rfl

/-- The same for a tag without backslashes before it. -/
theorem taken_bracket (htag : IsTag inside) :
    taken position plain ('[' :: inside ++ ']' :: rest) =
      .plain plain :: .plain [] :: .tag position (tagName inside) (tagParameters inside) ::
        taken (position + (inside.length + 2)) [] rest := by
  have h : taken position plain (List.replicate 0 '\\' ++ '[' :: inside ++ ']' :: rest) = _ :=
    taken_tag htag rfl
  simpa using h

/-- A tag that its backslashes make text of is text. -/
theorem taken_escaped (htag : IsTag inside) (odd : escapes % 2 = 1) :
    taken position plain (List.replicate escapes '\\' ++ '[' :: inside ++ ']' :: rest) =
      .plain plain :: .plain (List.replicate (escapes / 2) '\\') ::
        .plain ('[' :: inside ++ [']']) ::
          taken (position + (escapes + inside.length + 2)) [] rest := by
  rw [taken_found htag rfl, tagPieces, if_pos odd]
  rfl

/-- Text without an opening bracket is one piece, unless its last backslashes are before one. -/
theorem taken_plain (hopen : '[' ∉ text) (hlast : text.getLast? ≠ some '\\') :
    taken position plain (text ++ rest) =
      taken (position + text.length) (plain ++ text) rest := by
  induction text generalizing position plain with
  | nil => simp
  | cons c text ih =>
    -- A tag that begins here has its bracket in the text, or all of the text is backslashes.
    have hslashes : ¬ ∀ d ∈ c :: text, d = '\\' := fun hall => by
      have hmem := List.getLast_mem (List.cons_ne_nil c text)
      exact hlast (by rw [List.getLast?_eq_some_getLast (List.cons_ne_nil c text), hall _ hmem])
    have hnone : escapedTag? (c :: (text ++ rest)) = none := by
      refine Option.eq_none_iff_forall_ne_some.2 fun ⟨escapes, inside⟩ hfound => ?_
      obtain ⟨-, after, heq⟩ := escapedTag?_eq_some_iff.1 hfound
      rw [← List.cons_append, List.append_assoc, List.append_eq_append_iff] at heq
      rcases heq with ⟨more, hmore, -⟩ | ⟨found, htext, hfound⟩
      · exact hslashes fun d hd => List.eq_of_mem_replicate (hmore ▸ List.mem_append_left more hd)
      · cases found with
        | nil =>
          rw [List.append_nil] at htext
          exact hslashes fun d hd => List.eq_of_mem_replicate (htext ▸ hd)
        | cons d found =>
          obtain ⟨rfl, -⟩ : '[' = d ∧ _ := by simpa using hfound
          exact hopen (htext ▸ List.mem_append_right _ List.mem_cons_self)
    have hlast' : text.getLast? ≠ some '\\' := by
      cases text with
      | nil => simp
      | cons d text => simpa using hlast
    rw [List.cons_append, taken_skip hnone, ih (List.not_mem_of_not_mem_cons hopen) hlast',
      List.length_cons, List.append_assoc, List.singleton_append]
    congr 1
    omega

/-! ## Texts and what follows them -/

/-- What may follow a text: nothing, or a tag. -/
inductive IsTail : List Char → Prop
  | nil : IsTail []
  | tag {last : List Char} (htag : IsTag last) : IsTail ('[' :: last ++ [']'])

/-- The next tag stands within the text, or it is the one at the end. -/
theorem within_or_last {last : List Char} (htag : IsTag inside) (hlast : IsTag last)
    (h : text ++ '[' :: last ++ [']'] =
      List.replicate escapes '\\' ++ '[' :: inside ++ ']' :: rest) :
    (∃ after, text = List.replicate escapes '\\' ++ '[' :: inside ++ ']' :: after ∧
        rest = after ++ '[' :: last ++ [']']) ∨
      text = List.replicate escapes '\\' ∧ inside = last ∧ rest = [] := by
  have hfront : text ++ '[' :: (last ++ [']']) =
      (List.replicate escapes '\\' ++ '[' :: (inside ++ [']'])) ++ rest := by
    simpa using h
  rcases List.append_eq_append_iff.1 hfront with ⟨found, hfound, hrest⟩ | ⟨after, htext, hrest⟩
  · cases found with
    | nil =>
      rw [List.append_nil] at hfound
      refine Or.inl ⟨[], by simpa using hfound.symm, by simpa using hrest.symm⟩
    | cons d found =>
      obtain ⟨rfl, hfound'⟩ : '[' = d ∧ last ++ [']'] = found ++ rest := by simpa using hrest
      have hslashes : '[' ∉ List.replicate escapes '\\' := by simp
      have hinside : '[' ∉ inside ++ [']'] := by simp [htag.2.1]
      obtain ⟨htext, -, hsame⟩ := (List.append_cons_inj_of_notMem hslashes hinside).1 hfound
      subst hsame
      have hends : last ++ ']' :: [] = inside ++ ']' :: rest := by simpa using hfound'
      obtain ⟨hsame, -, hrest⟩ :=
        (List.append_cons_inj_of_notMem hlast.2.2 List.not_mem_nil).1 hends
      exact Or.inr ⟨htext.symm, hsame.symm, hrest.symm⟩
  · exact Or.inl ⟨after, by simpa using htext, by simpa using hrest⟩

/-- The next tag stands within the text, or it is the tail. -/
theorem within_or_tail (htail : IsTail tail) (htag : IsTag inside)
    (h : text ++ tail = List.replicate escapes '\\' ++ '[' :: inside ++ ']' :: rest) :
    (∃ after, text = List.replicate escapes '\\' ++ '[' :: inside ++ ']' :: after ∧
        rest = after ++ tail) ∨
      text = List.replicate escapes '\\' ∧ tail = '[' :: inside ++ [']'] ∧ rest = [] := by
  cases htail with
  | nil => exact .inl ⟨rest, by simpa using h, by simp⟩
  | @tag last hlast =>
    rw [← List.append_assoc] at h
    rcases within_or_last htag hlast h with ⟨after, htext, hrest⟩ | ⟨htext, rfl, hrest⟩
    · exact .inl ⟨after, htext, by rw [hrest, List.append_assoc]⟩
    · exact .inr ⟨htext, rfl, hrest⟩

/-- If the piece is a tag, it stands in the text. -/
def Piece.StandsIn (cs : List Char) : Piece → Prop
  | .plain _ => True
  | .tag _ name parameters => ∃ inside, IsTag inside ∧ '[' :: inside ++ [']'] <:+: cs ∧
      tagName inside = name ∧ tagParameters inside = parameters

theorem Piece.StandsIn.mono {piece : Piece} (hcs : cs <:+: text) (h : piece.StandsIn cs) :
    piece.StandsIn text := by
  cases piece with
  | plain => trivial
  | tag position name parameters =>
    obtain ⟨inside, htag, hwithin, hname, hparameters⟩ := h
    exact ⟨inside, htag, hwithin.trans hcs, hname, hparameters⟩

/-- **The tags among the pieces of a text and its tail are tags of the text, and then the tail**,
unless the text ends with backslashes. -/
theorem exists_taken_append (htail : IsTail tail) (position : ℕ) (plain text : List Char) :
    ∃ front back, taken position plain (text ++ tail) = front ++ back ∧
      (∀ piece ∈ front, piece.StandsIn text) ∧
      (back = [] ∨ ∃ last next, IsTag last ∧ tail = '[' :: last ++ [']'] ∧
        back = [.tag next (tagName last) (tagParameters last), .plain []]) := by
  -- On the length of the text, because a tag is passed with all that stands in it.
  induction hlength : text.length using Nat.strong_induction_on
    generalizing text position plain with
  | _ n ih =>
    have plainly (texts : List (List Char)) : ∀ piece ∈ texts.map Piece.plain,
        piece.StandsIn text := List.forall_mem_map.2 fun _ _ => trivial
    cases hfound : escapedTag? (text ++ tail) with
    | none =>
      cases text with
      | nil =>
        cases htail with
        | nil => exact ⟨[.plain plain], [], rfl, plainly [plain], .inl rfl⟩
        | tag htag => exact absurd (hfound.symm.trans (escapedTag?_of_tag htag)) (by simp)
      | cons c text =>
        obtain ⟨front, back, htaken, hfront, hback⟩ :=
          ih text.length (by simp [← hlength]) (position + 1) (plain ++ [c]) text rfl
        refine ⟨front, back, (taken_skip hfound).trans htaken, fun piece hpiece => ?_, hback⟩
        exact (hfront piece hpiece).mono (List.suffix_cons c text).isInfix
    | some tag =>
      obtain ⟨escapes, inside⟩ := tag
      obtain ⟨htag, rest, heq⟩ := escapedTag?_eq_some_iff.1 hfound
      have hslashes := plainly [plain, List.replicate (escapes / 2) '\\']
      rcases within_or_tail htail htag heq with ⟨after, htext, rfl⟩ | ⟨-, rfl, rfl⟩
      · -- The tag stands within the text, and the text that is left is shorter.
        have hshorter : after.length < n := by
          simp only [← hlength, htext, List.length_append, List.length_cons]
          omega
        obtain ⟨front, back, htaken, hfront, hback⟩ := ih after.length hshorter
          (position + (escapes + inside.length + 2)) [] after rfl
        have hlater : ∀ piece ∈ front, piece.StandsIn text := fun piece hpiece =>
          (hfront piece hpiece).mono
            ⟨List.replicate escapes '\\' ++ '[' :: inside ++ [']'], [], by simp [htext]⟩
        have hhere : '[' :: inside ++ [']'] <:+: text :=
          ⟨List.replicate escapes '\\', after, by simp [htext]⟩
        rw [heq]
        rcases Nat.mod_two_eq_zero_or_one escapes with even | odd
        · rw [taken_tag htag even, htaken]
          have hpiece : (Piece.tag (position + escapes) (tagName inside)
              (tagParameters inside)).StandsIn text := ⟨inside, htag, hhere, rfl, rfl⟩
          exact ⟨_ :: _ :: _ :: front, back, rfl, List.forall_mem_append.2 ⟨hslashes,
            List.forall_mem_cons.2 ⟨hpiece, hlater⟩⟩, hback⟩
        · rw [taken_escaped htag odd, htaken]
          have hpiece : (Piece.plain ('[' :: inside ++ [']'])).StandsIn text := trivial
          exact ⟨_ :: _ :: _ :: front, back, rfl, List.forall_mem_append.2 ⟨hslashes,
            List.forall_mem_cons.2 ⟨hpiece, hlater⟩⟩, hback⟩
      · rw [heq]
        rcases Nat.mod_two_eq_zero_or_one escapes with even | odd
        · rw [taken_tag htag even]
          exact ⟨_, _, rfl, hslashes, .inr ⟨inside, _, htag, rfl, rfl⟩⟩
        · rw [taken_escaped htag odd]
          exact ⟨_, [], (List.append_nil _).symm, plainly [_, _, _, _], .inl rfl⟩

section Problems

variable {front back ps : List Piece} {name : String} {parameters : Option String}
  {e : PrintError}

@[simp] theorem firstProblem?_nil : firstProblem? opened [] = none := rfl

@[simp] theorem firstProblem?_plain :
    firstProblem? opened (.plain text :: ps) = firstProblem? opened ps := rfl

theorem firstProblem?_of_follow {left : List String}
    (h : follow position name parameters opened = .ok left) :
    firstProblem? opened (.tag position name parameters :: ps) = firstProblem? left ps := by
  rw [firstProblem?, h]

theorem firstProblem?_of_error (h : follow position name parameters opened = .error e) :
    firstProblem? opened (.tag position name parameters :: ps) = some e := by
  rw [firstProblem?, h]

/-- If the piece is a tag, it opens a style. -/
def Piece.Opens : Piece → Prop
  | .plain _ => True
  | .tag _ name _ => name.toList.head? ≠ some '/' ∧ ∃ style, Style.normal name = .ok style

theorem follow_of_opens {style : String} (hopens : name.toList.head? ≠ some '/')
    (hstyle : Style.normal name = .ok style) :
    follow position name parameters opened = .ok (style :: opened) := by
  unfold follow
  split
  · rename_i heq
    simp [heq] at hopens
  · rw [hstyle]

/-- Tags that open styles are followed, and the styles are open after them. -/
theorem exists_firstProblem?_append (h : ∀ piece ∈ front, piece.Opens) :
    ∃ more, firstProblem? opened (front ++ back) = firstProblem? (more ++ opened) back := by
  induction front generalizing opened with
  | nil => exact ⟨[], rfl⟩
  | cons piece front ih =>
    obtain ⟨hpiece, hfront⟩ := List.forall_mem_cons.1 h
    cases piece with
    | plain text => exact ih hfront
    | tag position name parameters =>
      obtain ⟨hopens, style, hstyle⟩ := hpiece
      obtain ⟨more, hmore⟩ : ∃ more, firstProblem? (style :: opened) (front ++ back) = _ :=
        ih hfront
      refine ⟨more ++ [style], ?_⟩
      rw [List.cons_append, firstProblem?_of_follow (follow_of_opens hopens hstyle), hmore,
        List.append_assoc, List.singleton_append]

end Problems

/-! ## Opening and closing -/

theorem length_of_close? {name : String} {left : List String} (h : close? name opened = some left) :
    left.length + 1 = opened.length := by
  induction opened generalizing left with
  | nil => cases h
  | cons tag opened ih =>
    unfold close? at h
    split at h
    · obtain rfl : opened = left := by simpa using h
      rfl
    · obtain ⟨left, hleft, rfl⟩ := Option.map_eq_some_iff.1 h
      simp [ih hleft]

theorem exists_close? {name : String} (h : name ∈ opened) :
    ∃ left, close? name opened = some left := by
  induction opened with
  | nil => cases h
  | cons tag opened ih =>
    unfold close?
    split
    · exact ⟨_, rfl⟩
    · rename_i hne
      obtain ⟨left, hleft⟩ := ih ((List.mem_cons.1 h).resolve_left (Ne.symm hne))
      exact ⟨tag :: left, by rw [hleft, Option.map_some]⟩

/-- An error about a tag that closes nothing shows what stands in the tag. -/
def PrintError.Shows (e : PrintError) : Prop :=
  match e with
  | .notOpen tag _ => IsTag tag.toList ∧ tag.toList.head? = some '/'
  | .nothingOpen _ => True
  | .number _ => True
  | .other _ => False

theorem tagShown_tagName (inside : List Char) :
    tagShown (tagName inside) (tagParameters inside) = String.ofList inside := by
  have hsplit : inside.takeWhile (· != '=') ++ inside.dropWhile (· != '=') = inside :=
    List.takeWhile_append_dropWhile
  simp only [tagParameters, drop_length_takeWhile, tagName, tagShown]
  cases hdrop : inside.dropWhile (· != '=') with
  | nil =>
    rw [hdrop, List.append_nil] at hsplit
    exact congrArg String.ofList hsplit
  | cons c rest =>
    have hc : c = '=' := by
      have := List.head?_dropWhile_not (· != '=') inside
      simpa [hdrop] using this
    subst hc
    rw [hdrop] at hsplit
    conv_rhs => rw [← hsplit]
    simp [String.ofList_append, String.append_assoc]

/-- The name of a tag begins as the tag does. -/
theorem exists_tagName (htag : IsTag inside) : ∃ c name rest, inside = c :: rest ∧
    (tagName inside).toList = c :: name := by
  obtain ⟨hopens, -, -⟩ := htag
  cases inside with
  | nil => simp at hopens
  | cons c inside =>
    have hequals : c ≠ '=' := by
      rintro rfl
      exact absurd hopens (by simp [opensTag])
    exact ⟨c, inside.takeWhile (· != '='), inside, rfl, by simp [tagName, hequals]⟩

theorem head?_tagName (htag : IsTag inside) : (tagName inside).toList.head? = inside.head? := by
  obtain ⟨c, name, rest, rfl, hname⟩ := exists_tagName htag
  rw [hname]
  rfl

/-- A tag that closes closes one of the open tags, or is an error. -/
theorem follow_of_closing (htag : IsTag inside) (h : inside.head? = some '/') :
    (∃ left, follow position (tagName inside) (tagParameters inside) opened = .ok left ∧
        left.length + 1 = opened.length) ∨
      ∃ e, follow position (tagName inside) (tagParameters inside) opened = .error e := by
  obtain ⟨c, name, rest, rfl, hname⟩ := exists_tagName htag
  obtain rfl : c = '/' := by simpa using h
  unfold follow
  rw [hname]
  simp only
  split
  · cases opened with
    | nil => exact Or.inr ⟨_, rfl⟩
    | cons tag opened => exact Or.inl ⟨_, rfl, rfl⟩
  · split
    · exact Or.inr ⟨_, rfl⟩
    · split
      · rename_i left hclose
        exact Or.inl ⟨left, rfl, length_of_close? hclose⟩
      · exact Or.inr ⟨_, rfl⟩

@[simp] theorem isOrdinary_plain : (Piece.plain text).isOrdinary = true := rfl

/-- The console has nothing to evaluate in a tag that closes. -/
theorem isOrdinary_of_closing (htag : IsTag inside) (h : inside.head? = some '/') :
    (Piece.tag position (tagName inside) (tagParameters inside)).isOrdinary = true := by
  simp only [Piece.isOrdinary, head?_tagName htag, h]

/-- The tag opens a style, and the console has nothing to evaluate in it. -/
structure Harmless (inside : List Char) : Prop where
  opens : inside.head? ≠ some '/'
  style : ∃ style, Style.normal (tagName inside) = .ok style
  ordinary : (Piece.tag 0 (tagName inside) (tagParameters inside)).isOrdinary = true

/-- All tags of the text are harmless. -/
def Tame (cs : List Char) : Prop :=
  ∀ inside, IsTag inside → '[' :: inside ++ [']'] <:+: cs → Harmless inside

theorem tame_of_notMem (h : '[' ∉ cs) : Tame cs := fun _ _ hwithin =>
  absurd (hwithin.subset List.mem_cons_self) h

theorem Piece.StandsIn.opens {piece : Piece} (tame : Tame cs) (h : piece.StandsIn cs) :
    piece.Opens := by
  cases piece with
  | plain => trivial
  | tag position name parameters =>
    obtain ⟨inside, htag, hwithin, rfl, rfl⟩ := h
    have harmless := tame inside htag hwithin
    exact ⟨fun hhead => harmless.opens ((head?_tagName htag).symm.trans hhead), harmless.style⟩

theorem Piece.StandsIn.isOrdinary {piece : Piece} (tame : Tame cs) (h : piece.StandsIn cs) :
    piece.isOrdinary = true := by
  cases piece with
  | plain => rfl
  | tag position name parameters =>
    obtain ⟨inside, htag, hwithin, rfl, rfl⟩ := h
    exact (tame inside htag hwithin).ordinary

/-! ## Text in a style -/

/-- A style that is opened and closed by its name. -/
structure IsStyle (style : String) : Prop where
  opens : IsTag style.toList ∧ style.toList.head? ≠ some '/' ∧ style.toList.head? ≠ some '@'
  closes : IsTag ('/' :: style.toList)
  plain : '=' ∉ style.toList
  trimmed : trimmed style = style
  normal : Style.normal style = .ok style

theorem isStyle_red : IsStyle "red" := by constructor <;> decide

theorem isStyle_green : IsStyle "green" := by constructor <;> decide

theorem isStyle_yellow : IsStyle "yellow" := by constructor <;> decide

/-- The tag that closes a style. -/
def closing (style : String) : List Char := '[' :: ('/' :: style.toList) ++ [']']

theorem eq_of_closing {style : String} {last : List Char}
    (h : closing style = '[' :: last ++ [']']) : '/' :: style.toList = last := by
  rw [closing, List.append_left_inj] at h
  exact (List.cons.inj h).2

namespace IsStyle

variable {style : String}

theorem takeWhile_eq (h : IsStyle style) : style.toList.takeWhile (· != '=') = style.toList :=
  List.takeWhile_eq_self_iff.2 fun c hc => by
    have hne : c ≠ '=' := fun heq => h.plain (heq ▸ hc)
    simpa using hne

theorem tagName_eq (h : IsStyle style) : tagName style.toList = style := by
  rw [tagName, h.takeWhile_eq, String.ofList_toList]

theorem tagName_closing (h : IsStyle style) :
    tagName ('/' :: style.toList) = String.ofList ('/' :: style.toList) := by
  rw [tagName, List.takeWhile_cons_of_pos (by decide), h.takeWhile_eq]

theorem tagParameters_eq (h : IsStyle style) : tagParameters style.toList = none := by
  simp [tagParameters, h.takeWhile_eq]

/-- The closing tag closes the style, if it is open. -/
theorem follow_closing (h : IsStyle style) :
    follow position (tagName ('/' :: style.toList)) (tagParameters ('/' :: style.toList)) opened =
      match close? style opened with
      | some left => .ok left
      | none => .error (.notOpen (String.ofList ('/' :: style.toList)) position) := by
  have hempty : style ≠ "" := by
    rintro rfl
    exact absurd h.opens.1.1 (by decide)
  unfold follow
  rw [tagShown_tagName, h.tagName_closing, String.toList_ofList]
  cases hclose : close? style opened <;>
    simp only [String.ofList_toList, h.trimmed, h.normal, if_neg hempty, hclose]

theorem isTail (h : IsStyle style) : IsTail (closing style) := .tag h.closes

/-- The pieces of text in a style: the tag of the style and the pieces of the text with the tag
that closes it. -/
theorem taken_opening (h : IsStyle style) : taken 0 [] ('[' :: style.toList ++ ']' :: rest) =
    .plain [] :: .plain [] :: .tag 0 style none :: taken (style.toList.length + 2) [] rest := by
  rw [taken_bracket h.opens.1, h.tagName_eq, h.tagParameters_eq, Nat.zero_add]

theorem taken_closing (h : IsStyle style) : taken position plain (closing style) =
    [.plain plain, .plain [], .tag position (tagName ('/' :: style.toList))
      (tagParameters ('/' :: style.toList)), .plain []] :=
  taken_bracket h.closes

/-- The tag of the style opens it. -/
theorem firstProblem?_opening (h : IsStyle style) (ps : List Piece) :
    firstProblem? opened (.tag position style none :: ps) = firstProblem? (style :: opened) ps :=
  firstProblem?_of_follow (follow_of_opens h.opens.2.1 h.normal)

theorem isOrdinary_opening (h : IsStyle style) :
    (Piece.tag position style none).isOrdinary = true := by
  have heval := h.opens.2.2
  simp only [Piece.isOrdinary]
  split <;> simp_all

/-- The tag that closes the style closes it, if it is open. -/
theorem firstProblem?_closing (h : IsStyle style) (hopened : style ∈ opened) (position : ℕ)
    (plain : List Char) : firstProblem? opened [.tag position (tagName ('/' :: style.toList))
      (tagParameters ('/' :: style.toList)), .plain plain] = none := by
  obtain ⟨left, hclose⟩ := exists_close? hopened
  have hfollow : follow position (tagName ('/' :: style.toList))
      (tagParameters ('/' :: style.toList)) opened = .ok left := by rw [h.follow_closing, hclose]
  rw [firstProblem?_of_follow hfollow]
  rfl

/-- **Text with harmless tags can be printed in a style.** -/
theorem firstProblem?_of_tame (h : IsStyle style) (hopened : style ∈ opened) (tame : Tame text) :
    firstProblem? opened (taken position plain (text ++ closing style)) = none := by
  obtain ⟨front, back, htaken, hfront, hback⟩ :=
    exists_taken_append h.isTail position plain text
  obtain ⟨more, hmore⟩ : ∃ more, firstProblem? opened (front ++ back) = _ :=
    exists_firstProblem?_append fun piece hpiece => (hfront piece hpiece).opens tame
  rw [htaken, hmore]
  rcases hback with rfl | ⟨last, next, -, hlast, rfl⟩
  · rfl
  · obtain rfl := eq_of_closing hlast
    exact h.firstProblem?_closing (List.mem_append_right more hopened) next []

theorem isOrdinary_of_tame (h : IsStyle style) (tame : Tame text) :
    ∀ piece ∈ taken position plain (text ++ closing style), piece.isOrdinary = true := by
  obtain ⟨front, back, htaken, hfront, hback⟩ :=
    exists_taken_append h.isTail position plain text
  rw [htaken, List.forall_mem_append]
  refine ⟨fun piece hpiece => (hfront piece hpiece).isOrdinary tame, ?_⟩
  rcases hback with rfl | ⟨last, next, htag, hlast, rfl⟩
  · exact nofun
  · obtain rfl := eq_of_closing hlast
    simp [isOrdinary_of_closing htag rfl]

section Closing

variable {before after : List Char} (h : IsStyle style)
  (hbefore : '[' ∉ before ∧ before.getLast? ≠ some '\\')
  (hafter : '[' ∉ after ∧ after.getLast? ≠ some '\\')
  (htag : IsTag inside)

include h hbefore hafter htag

/-- The pieces of a text with one tag in it. -/
theorem taken_of_tag (position : ℕ) : ∃ next last,
    taken position [] (before ++ ('[' :: inside ++ ']' :: (after ++ closing style))) =
      [.plain before, .plain [], .tag next (tagName inside) (tagParameters inside), .plain after,
        .plain [], .tag last (tagName ('/' :: style.toList)) (tagParameters ('/' :: style.toList)),
        .plain []] := by
  rw [taken_plain hbefore.1 hbefore.2, taken_bracket htag, taken_plain hafter.1 hafter.2,
    h.taken_closing]
  exact ⟨_, _, rfl⟩

/-- **A closing tag in a style leaves nothing for the style's own closing tag to close.** -/
theorem exists_problem_of_closing (hcloses : inside.head? = some '/') (position : ℕ) :
    ∃ e, firstProblem? [style]
      (taken position [] (before ++ ('[' :: inside ++ ']' :: (after ++ closing style)))) =
        some e := by
  obtain ⟨next, last, htaken⟩ := h.taken_of_tag hbefore hafter htag position
  rw [htaken, firstProblem?_plain, firstProblem?_plain]
  have hfollows : (∃ left, follow next (tagName inside) (tagParameters inside) [style] = .ok left ∧
      left.length + 1 = [style].length) ∨ _ := follow_of_closing htag hcloses
  rcases hfollows with ⟨left, hfollow, hlength⟩ | ⟨e, hfollow⟩
  · obtain rfl : left = [] := List.eq_nil_of_length_eq_zero (by simpa using hlength)
    rw [firstProblem?_of_follow hfollow]
    exact ⟨_, firstProblem?_of_error h.follow_closing⟩
  · exact ⟨e, firstProblem?_of_error hfollow⟩

theorem isOrdinary_of_tag (hcloses : inside.head? = some '/') (position : ℕ) :
    ∀ piece ∈ taken position [] (before ++ ('[' :: inside ++ ']' :: (after ++ closing style))),
      piece.isOrdinary = true := by
  obtain ⟨next, last, htaken⟩ := h.taken_of_tag hbefore hafter htag position
  rw [htaken]
  simp [isOrdinary_of_closing htag hcloses, isOrdinary_of_closing h.closes rfl]

end Closing

end IsStyle

end Markup

end EphemeralDatabase
