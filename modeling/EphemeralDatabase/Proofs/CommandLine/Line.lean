import EphemeralDatabase.Proofs.CommandLine.Printing
import EphemeralDatabase.Proofs.Console.Verbatim
import Mathlib.Data.List.Forall2

/-!
# Lines that are printed

A line is a text, by itself or in a colour, and it is meant to appear as the text stands.  On any
console it does only if the text is literal and, in a colour, does not end with a backslash
(`Line.literal_of_render`), and on a console on which it fits it does if it is
(`Line.render_of_literal`).

Several lines are printed one after the other, and what is taken away from one of them could be made
up for by another, since a text can have line breaks in it, and the console can break its lines.  It
is not, for the weights add up (`Line.lighter_or_laid_all`): the screen shows the lines as they
stand only if each of them is literal (`Screen.literal_of_printAll`).
-/

namespace EphemeralDatabase

open Console (render)
open Markup (IsStyle IsTag IsTail Kept closing firstProblem? laid piecesOf taken uncontrolled
  visible weight)

/-- A colour, by the name that stands in its tags. -/
structure Colour where
  name : String
  style : IsStyle name
  weightless : weight name.toList = 0

namespace Colour

def red : Colour := ⟨"red", Markup.isStyle_red, rfl⟩

def green : Colour := ⟨"green", Markup.isStyle_green, rfl⟩

def yellow : Colour := ⟨"yellow", Markup.isStyle_yellow, rfl⟩

end Colour

/-- A line that is printed. -/
structure Line where
  colour : Option Colour := none
  text : String

namespace Line

variable {l : Line} {printed : String}

/-- The line as marked-up text. -/
def marked (l : Line) : String :=
  match l.colour with
  | none => l.text
  | some colour => coloured colour.name l.text

/-- The line is printed as its text stands. -/
structure Literal (l : Line) : Prop where
  text : Markup.Literal l.text.toList
  apart : l.colour ≠ none → l.text.toList.getLast? ≠ some '\\'

/-- What follows the text of a line: the tag that closes its colour. -/
def tail (l : Line) : List Char :=
  match l.colour with
  | none => []
  | some colour => closing colour.name

/-- The tags that are open in the text of a line. -/
def opened (l : Line) : List String := l.colour.toList.map Colour.name

/-- The pieces before the text of a line. -/
def front (l : Line) : List Markup.Piece :=
  match l.colour with
  | none => []
  | some colour => [.plain [], .plain [], .tag 0 colour.name none]

theorem isTail (l : Line) : IsTail l.tail := by
  obtain ⟨_ | colour, text⟩ := l
  · exact .nil
  · exact colour.style.isTail

theorem weight_tail_le (l : Line) : weight l.tail ≤ 1 := by
  obtain ⟨_ | colour, text⟩ := l
  · exact Nat.zero_le 1
  · simp only [tail, closing, Markup.weight_append, Markup.weight_cons, colour.weightless]
    decide

theorem tail_ne_nil_iff : l.tail ≠ [] ↔ l.colour ≠ none := by
  obtain ⟨_ | colour, text⟩ := l <;> simp [tail, closing]

/-- The pieces of a line are the tag of its colour and those of its text with the closing tag. -/
theorem exists_piecesOf (l : Line) : ∃ position, piecesOf l.marked =
    l.front ++ taken position [] (l.text.toList ++ l.tail) := by
  obtain ⟨_ | colour, text⟩ := l
  · exact ⟨0, by simp [marked, front, tail, Markup.piecesOf_eq]⟩
  · exact ⟨_, piecesOf_coloured colour.style text⟩

theorem visible_front (l : Line) (ps : List Markup.Piece) :
    visible (l.front ++ ps) = visible ps := by
  obtain ⟨_ | colour, text⟩ := l
  · rfl
  · simp [front, visible, Markup.unescaped, Pictograph.replaced]

/-- After the tag of the colour the colour is open. -/
theorem firstProblem?_front (l : Line) (ps : List Markup.Piece) :
    firstProblem? [] (l.front ++ ps) = firstProblem? l.opened ps := by
  obtain ⟨_ | colour, text⟩ := l
  · rfl
  · exact colour.style.firstProblem?_opening ps

theorem isOrdinary_front (l : Line) : ∀ piece ∈ l.front, piece.isOrdinary = true := by
  obtain ⟨_ | colour, text⟩ := l
  · exact nofun
  · simp [front, colour.style.isOrdinary_opening]

/-- What follows the text of a line closes its colour. -/
theorem firstProblem?_tail (l : Line) (position : ℕ) (plain : List Char) :
    firstProblem? l.opened (taken position plain l.tail) = none := by
  obtain ⟨_ | colour, text⟩ := l
  · rfl
  · change firstProblem? [colour.name] (taken position plain (closing colour.name)) = none
    rw [colour.style.taken_closing, Markup.firstProblem?_plain, Markup.firstProblem?_plain,
      colour.style.firstProblem?_closing List.mem_cons_self]

theorem isOrdinary_tail (l : Line) (position : ℕ) (plain : List Char) :
    ∀ piece ∈ taken position plain l.tail, piece.isOrdinary = true := by
  obtain ⟨_ | colour, text⟩ := l
  · simp [tail]
  · simp [tail, colour.style.taken_closing, Markup.isOrdinary_of_closing colour.style.closes rfl]

section Console

variable [Console]

/-- **A line in which nothing is taken away can be printed.** -/
theorem problem?_of_kept (h : Kept [] l.text.toList l.tail) : Console.problem? l.marked = none := by
  obtain ⟨position, hpieces⟩ := l.exists_piecesOf
  rw [Markup.taken_of_kept l.isTail h] at hpieces
  have hordinary : Markup.Ordinary l.marked := by
    rw [Markup.Ordinary, hpieces]
    exact List.forall_mem_append.2 ⟨l.isOrdinary_front, l.isOrdinary_tail _ _⟩
  rw [Console.problem?_of_ordinary hordinary, Markup.problem?, hpieces, firstProblem?_front,
    firstProblem?_tail]

/-- What is printed of a line that can be printed. -/
theorem render_eq (l : Line) (h : Console.problem? l.marked = none) : ∃ position,
    render l.marked = .ok (laid (visible (taken position [] (l.text.toList ++ l.tail)))) := by
  obtain ⟨position, hpieces⟩ := l.exists_piecesOf
  refine ⟨position, ?_⟩
  rw [render, h, Markup.text, hpieces, visible_front]
  rfl

theorem render_of_kept (h : Kept [] l.text.toList l.tail) :
    render l.marked = .ok (laid l.text.toList) := by
  obtain ⟨position, hrender⟩ := l.render_eq (problem?_of_kept h)
  rw [hrender, Markup.visible_of_kept l.isTail h]

/-- What is printed of a line is lighter than its text, or nothing is taken away but control
characters. -/
theorem lighter_or_laid (h : render l.marked = .ok printed) :
    weight printed.toList < weight l.text.toList ∨
      Kept [] l.text.toList l.tail ∧ printed = laid l.text.toList := by
  obtain ⟨position, hrender⟩ := l.render_eq (Console.exists_render_iff.1 ⟨printed, h⟩)
  obtain rfl := Except.ok.inj (h.symm.trans hrender)
  rcases Markup.lighter_or_kept l.isTail l.weight_tail_le position [] l.text.toList with
    hlighter | ⟨hkept, hsame⟩
  · exact .inl (lt_of_le_of_lt (Markup.weight_laid_le _) hlighter)
  · exact .inr ⟨hkept, by rw [hsame, List.nil_append]⟩

/-- **On a console on which it fits, a literal line is printed as its text stands.** -/
theorem render_of_literal (h : l.Literal) (fits : Console.Fits l.text) :
    render l.marked = .ok l.text := by
  rw [render_of_kept (h.text.kept fun hne => h.apart (tail_ne_nil_iff.1 hne)),
    Markup.laid_of_fits h.text.visible fits]

theorem problem?_of_literal (h : l.Literal) : Console.problem? l.marked = none :=
  problem?_of_kept (h.text.kept fun hne => h.apart (tail_ne_nil_iff.1 hne))

end Console

/-- A line is literal if nothing is taken away from it and it has no control characters. -/
theorem literal_of_kept (h : Kept [] l.text.toList l.tail)
    (hvisible : ∀ c ∈ l.text.toList, Markup.isControl c = false ∧ c ≠ '\t') : l.Literal :=
  ⟨⟨h.untagged, h.unescaped, h.unnamed, hvisible⟩,
    fun hcolour => h.apart (tail_ne_nil_iff.2 hcolour)⟩

/-- A plain text is literal in any colour. -/
theorem literal_of_plain {colour : Option Colour} {text : String} (h : Markup.Plain text.toList) :
    (⟨colour, text⟩ : Line).Literal :=
  ⟨h.literal, fun _ hlast => h.notMem rfl (List.mem_of_getLast? hlast)⟩

section Entry

variable {label value : String} (hlabel : Markup.Plain label.toList)

include hlabel

/-- After a plain label, a line is literal if and only if its value is. -/
theorem literal_entry_iff :
    (⟨none, label ++ ": " ++ value⟩ : Line).Literal ↔ Markup.Literal value.toList := by
  rw [← Markup.literal_entry_iff hlabel]
  exact ⟨Literal.text, fun htext => ⟨htext, fun hcolour => absurd rfl hcolour⟩⟩

/-- In a colour the value must not end with a backslash. -/
theorem literal_coloured_iff (colour : Colour) :
    (⟨some colour, label ++ ": " ++ value⟩ : Line).Literal ↔
      Markup.Literal value.toList ∧ value.toList.getLast? ≠ some '\\' := by
  have hlast : (label ++ ": " ++ value).toList.getLast? ≠ some '\\' ↔
      value.toList.getLast? ≠ some '\\' := by
    rw [String.toList_append, List.getLast?_append]
    cases value.toList.getLast? with
    | none => simp
    | some c => simp
  rw [← Markup.literal_entry_iff hlabel, ← hlast]
  exact ⟨fun h => ⟨h.text, h.apart (by simp)⟩, fun h => ⟨h.1, fun _ => h.2⟩⟩

end Entry

/-! ## Several lines -/

/-- Texts one below the other. -/
def block (texts : List String) : List Char := texts.flatMap fun text => text.toList ++ ['\n']

theorem block_cons (text : String) (texts : List String) :
    block (text :: texts) = text.toList ++ '\n' :: block texts := by
  simp [block]

theorem weight_block_cons (text : String) (texts : List String) :
    weight (block (text :: texts)) = weight text.toList + weight (block texts) := by
  rw [block_cons, Markup.weight_append, Markup.weight_cons]
  exact congrArg _ (Nat.zero_add _)

theorem weight_block_laid_le [Console] (lines : List Line) :
    weight (block (lines.map fun l => laid l.text.toList)) ≤ weight (block (lines.map text)) := by
  induction lines with
  | nil => exact Nat.le_refl _
  | cons l lines ih =>
    rw [List.map_cons, List.map_cons, weight_block_cons, weight_block_cons]
    exact Nat.add_le_add (Markup.weight_laid_le _) ih

/-- What is printed of several lines is lighter than their texts, or nothing is taken away but
control characters. -/
theorem lighter_or_laid_all [Console] {lines : List Line} {printed : List String}
    (h : List.Forall₂ (fun l p => render l.marked = .ok p) lines printed) :
    weight (block printed) < weight (block (lines.map text)) ∨
      (∀ l ∈ lines, Kept [] l.text.toList l.tail) ∧
        printed = lines.map fun l => laid l.text.toList := by
  induction h with
  | nil => exact .inr ⟨by simp, rfl⟩
  | @cons l p lines printed hline _ ih =>
    have hrest : weight (block printed) ≤ weight (block (lines.map text)) := by
      rcases ih with ih | ⟨-, rfl⟩
      · exact ih.le
      · exact weight_block_laid_le lines
    rw [List.map_cons, weight_block_cons, weight_block_cons]
    rcases lighter_or_laid hline with hlighter | ⟨hkept, rfl⟩
    · exact .inl (by omega)
    · have hfirst := Markup.weight_laid_le l.text.toList
      rcases ih with ih | ⟨hlines, rfl⟩
      · exact .inl (by omega)
      · exact .inr ⟨List.forall_mem_cons.2 ⟨hkept, hlines⟩, rfl⟩

/-- Lines that are printed as one block with their texts are literal. -/
theorem literal_of_block [Console] {lines : List Line} {printed : List String}
    (h : List.Forall₂ (fun l p => render l.marked = .ok p) lines printed)
    (hblock : block printed = block (lines.map text)) : ∀ l ∈ lines, l.Literal := by
  rcases lighter_or_laid_all h with hlighter | ⟨hkept, rfl⟩
  · rw [hblock] at hlighter
    exact absurd hlighter (Nat.lt_irrefl _)
  · -- No control character is printed, so there is none in the texts.
    intro l hl
    refine literal_of_kept (hkept l hl) fun c hc => ?_
    have hmem : c ∈ block (lines.map text) :=
      List.mem_flatMap.2 ⟨l.text, List.mem_map_of_mem hl, List.mem_append_left _ hc⟩
    rw [← hblock] at hmem
    obtain ⟨p, hp, hmem⟩ := List.mem_flatMap.1 hmem
    obtain ⟨l', -, rfl⟩ := List.mem_map.1 hp
    rcases List.mem_append.1 hmem with hmem | hmem
    · exact Markup.visible_laid _ c hmem
    · rw [List.mem_singleton.1 hmem]
      decide

/-- **A line that is printed as its text stands is literal.** -/
theorem literal_of_render [Console] (h : render l.marked = .ok l.text) : l.Literal := by
  have hline : List.Forall₂ (fun l p => render (marked l) = .ok p) [l] [l.text] := .cons h .nil
  exact literal_of_block hline rfl l List.mem_cons_self

end Line

/-! ## The screen -/

namespace Screen

variable {screen : Screen} {lines : List Line} {texts : List String}

/-- The screen with texts below what it shows already. -/
def showing (screen : Screen) (texts : List String) : Screen :=
  { screen with console := screen.console ++ String.ofList (Line.block texts) }

theorem showing_cons (screen : Screen) (text : String) (texts : List String) :
    screen.showing (text :: texts) =
      { screen with console := screen.console ++ text ++ "\n" }.showing texts := by
  simp [showing, Line.block_cons, ← String.toList_inj]

/-- Texts that are shown are the same if the screens are. -/
theorem block_eq_of_showing {texts' : List String}
    (h : screen.showing texts = screen.showing texts') : Line.block texts = Line.block texts' := by
  have hconsole := congrArg (fun s : Screen => s.console.toList) h
  simpa [showing] using hconsole

section Console

variable [Console]

/-- More texts are printed if the first ones can be. -/
theorem printAll_append (screen : Screen) (texts texts' : List String) :
    screen.printAll (texts ++ texts') =
      match screen.printAll texts with
      | (screen, none) => screen.printAll texts'
      | (screen, some e) => (screen, some e) := by
  induction texts generalizing screen with
  | nil => rfl
  | cons text texts ih =>
    rw [List.cons_append, printAll, printAll]
    cases screen.print text with
    | error e => rfl
    | ok screen => exact ih screen

theorem printAll_of_forall {printed : List String} (screen : Screen)
    (h : List.Forall₂ (fun l p => render l.marked = .ok p) lines printed) :
    screen.printAll (lines.map Line.marked) = (screen.showing printed, none) := by
  induction h generalizing screen with
  | nil => simp [printAll, showing, Line.block]
  | @cons l p lines printed hline _ ih =>
    rw [List.map_cons, printAll, print, hline, showing_cons]
    exact ih _

/-- What came to its end has printed every line. -/
theorem exists_of_printAll {screen' : Screen}
    (h : screen.printAll (lines.map Line.marked) = (screen', none)) :
    ∃ printed, List.Forall₂ (fun l p => render l.marked = .ok p) lines printed ∧
      screen' = screen.showing printed := by
  induction lines generalizing screen with
  | nil =>
    obtain rfl : screen = screen' := by simpa [printAll] using h
    exact ⟨[], .nil, by simp [showing, Line.block]⟩
  | cons l lines ih =>
    rw [List.map_cons, printAll, print] at h
    cases hline : render l.marked with
    | error e => simp [hline, Except.map] at h
    | ok p =>
      simp only [hline, Except.map] at h
      obtain ⟨printed, hprinted, rfl⟩ := ih h
      exact ⟨p :: printed, .cons hline hprinted, (showing_cons screen p printed).symm⟩

/-- Printing comes to its end if and only if every line can be printed. -/
theorem printAll_ends_iff (screen : Screen) (lines : List Line) :
    (screen.printAll (lines.map Line.marked)).2 = none ↔
      ∀ l ∈ lines, Console.problem? l.marked = none := by
  induction lines generalizing screen with
  | nil => simp [printAll]
  | cons l lines ih =>
    rw [List.map_cons, printAll, print, List.forall_mem_cons, ← Console.exists_render_iff]
    cases hline : render l.marked with
    | error e => simp [Except.map]
    | ok p => simpa [Except.map] using ih _

/-- **The screen shows lines as they stand only if all of them are literal.** -/
theorem literal_of_printAll
    (h : screen.printAll (lines.map Line.marked) = (screen.showing (lines.map Line.text), none)) :
    ∀ l ∈ lines, l.Literal := by
  obtain ⟨printed, hprinted, hsame⟩ := exists_of_printAll h
  exact Line.literal_of_block hprinted (block_eq_of_showing hsame.symm)

/-- **If the lines fit, the screen shows them as they stand if and only if all are literal.** -/
theorem printAll_iff (screen : Screen) (fits : ∀ l ∈ lines, Console.Fits l.text) :
    screen.printAll (lines.map Line.marked) = (screen.showing (lines.map Line.text), none) ↔
      ∀ l ∈ lines, l.Literal := by
  refine ⟨literal_of_printAll, fun h => printAll_of_forall screen ?_⟩
  rw [List.forall₂_map_right_iff, List.forall₂_same]
  exact fun l hl => Line.render_of_literal (h l hl) (fits l hl)

end Console

end Screen

end EphemeralDatabase
