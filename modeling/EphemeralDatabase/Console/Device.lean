import EphemeralDatabase.Console.Markup

/-!
# Consoles

Text whose markup has been dealt with is printed on a console, and a console has a width.  A line
that fits is printed as it is; one that does not is broken, at a blank if it has one and anywhere
otherwise.  Tabs are filled up with spaces, and blanks at the end of a broken line are dropped.
Nothing else is known of a console here: how many columns a character takes, where it breaks a
line, how it draws a box, and what it makes of a tag that it has to evaluate.

`Console.wide` is a console on which every line fits.
-/

namespace EphemeralDatabase

/-- The lines of a text. -/
def linesOf : List Char → List (List Char)
  | [] => [[]]
  | c :: rest =>
      if c = '\n' then [] :: linesOf rest
      else
        match linesOf rest with
        | [] => [[c]]
        | line :: lines => (c :: line) :: lines

/-- Whether a console can leave the character out, or put it in: a space or a line break. -/
def isSpacing (c : Char) : Bool := c == ' ' || c == '\n'

/-- A console. -/
class Console where
  /-- how many columns a line can have -/
  width : Nat
  /-- how many columns a line takes -/
  columns : List Char → Nat
  /-- what keeps a marked-up text from being printed -/
  problem? : String → Option Markup.PrintError
  /-- a text as it is printed, with its lines broken where they do not fit -/
  layOut : List Char → List Char
  /-- a title in a box -/
  boxed : String → String
  problem?_of_ordinary : ∀ {text : String}, Markup.Ordinary text →
    problem? text = Markup.problem? text
  layOut_of_fits : ∀ {text : List Char}, '\t' ∉ text →
    (∀ line ∈ linesOf text, columns line ≤ width) → layOut text = text
  /-- no character is printed that is not in the text, but for spacing -/
  mem_layOut : ∀ {text : List Char} {c : Char}, c ∈ layOut text →
    isSpacing c = true ∨ c ∈ text ∧ c ≠ '\t'
  /-- what is not spacing is printed in its order and not twice -/
  sublist_layOut : ∀ text : List Char,
    ((layOut text).filter fun c => !isSpacing c).Sublist text

namespace Console

/-- Every line of the text fits the console, and no tab has to be filled up. -/
structure Fits [Console] (text : String) : Prop where
  untabbed : '\t' ∉ text.toList
  narrow : ∀ line ∈ linesOf text.toList, columns line ≤ width

/-- A marked-up text as it is printed. -/
def render [Console] (marked : String) : Except Markup.PrintError String :=
  match problem? marked with
  | some e => .error e
  | none => .ok (String.ofList (layOut (Markup.text marked)))

/-- What can be printed has no problem. -/
theorem exists_render_iff [Console] {marked : String} :
    (∃ printed, render marked = .ok printed) ↔ problem? marked = none := by
  cases h : problem? marked <;> simp [render, h]

/-- The first and last code point of the ranges whose characters take two columns. -/
def wideRanges : List (Nat × Nat) :=
  [(0x1100, 0x115F), (0x231A, 0x231B), (0x2329, 0x232A), (0x23E9, 0x23EC), (0x23F0, 0x23F0),
    (0x23F3, 0x23F3), (0x25FD, 0x25FE), (0x2614, 0x2615), (0x2648, 0x2653), (0x267F, 0x267F),
    (0x2693, 0x2693), (0x26A1, 0x26A1), (0x26AA, 0x26AB), (0x26BD, 0x26BE), (0x26C4, 0x26C5),
    (0x26CE, 0x26CE), (0x26D4, 0x26D4), (0x26EA, 0x26EA), (0x26F2, 0x26F3), (0x26F5, 0x26F5),
    (0x26FA, 0x26FA), (0x26FD, 0x26FD), (0x2705, 0x2705), (0x270A, 0x270B), (0x2728, 0x2728),
    (0x274C, 0x274C), (0x274E, 0x274E), (0x2753, 0x2755), (0x2757, 0x2757), (0x2795, 0x2797),
    (0x27B0, 0x27B0), (0x27BF, 0x27BF), (0x2B1B, 0x2B1C), (0x2B50, 0x2B50), (0x2B55, 0x2B55),
    (0x2E80, 0x2E99), (0x2E9B, 0x2EF3), (0x2F00, 0x2FD5), (0x2FF0, 0x3029), (0x3030, 0x303E),
    (0x3041, 0x3096), (0x309B, 0x30FF), (0x3105, 0x312F), (0x3131, 0x318E), (0x3190, 0x31E3),
    (0x31EF, 0x321E), (0x3220, 0x3247), (0x3250, 0x4DBF), (0x4E00, 0xA48C), (0xA490, 0xA4C6),
    (0xA960, 0xA97C), (0xAC00, 0xD7A3), (0xF900, 0xFAFF), (0xFE10, 0xFE19), (0xFE30, 0xFE52),
    (0xFE54, 0xFE66), (0xFE68, 0xFE6B), (0xFF01, 0xFF60), (0xFFE0, 0xFFE6), (0x16FE0, 0x16FE3),
    (0x17000, 0x187F7), (0x18800, 0x18CD5), (0x18D00, 0x18D08), (0x1AFF0, 0x1AFF3),
    (0x1AFF5, 0x1AFFB), (0x1AFFD, 0x1AFFE), (0x1B000, 0x1B122), (0x1B132, 0x1B132),
    (0x1B150, 0x1B152), (0x1B155, 0x1B155), (0x1B164, 0x1B167), (0x1B170, 0x1B2FB),
    (0x1F004, 0x1F004), (0x1F0CF, 0x1F0CF), (0x1F18E, 0x1F18E), (0x1F191, 0x1F19A),
    (0x1F200, 0x1F202), (0x1F210, 0x1F23B), (0x1F240, 0x1F248), (0x1F250, 0x1F251),
    (0x1F260, 0x1F265), (0x1F300, 0x1F320), (0x1F32D, 0x1F335), (0x1F337, 0x1F37C),
    (0x1F37E, 0x1F393), (0x1F3A0, 0x1F3CA), (0x1F3CF, 0x1F3D3), (0x1F3E0, 0x1F3F0),
    (0x1F3F4, 0x1F3F4), (0x1F3F8, 0x1F3FA), (0x1F400, 0x1F43E), (0x1F440, 0x1F440),
    (0x1F442, 0x1F4FC), (0x1F4FF, 0x1F53D), (0x1F54B, 0x1F54E), (0x1F550, 0x1F567),
    (0x1F57A, 0x1F57A), (0x1F595, 0x1F596), (0x1F5A4, 0x1F5A4), (0x1F5FB, 0x1F64F),
    (0x1F680, 0x1F6C5), (0x1F6CC, 0x1F6CC), (0x1F6D0, 0x1F6D2), (0x1F6D5, 0x1F6D7),
    (0x1F6DC, 0x1F6DF), (0x1F6EB, 0x1F6EC), (0x1F6F4, 0x1F6FC), (0x1F7E0, 0x1F7EB),
    (0x1F7F0, 0x1F7F0), (0x1F90C, 0x1F93A), (0x1F93C, 0x1F945), (0x1F947, 0x1F9FF),
    (0x1FA70, 0x1FA7C), (0x1FA80, 0x1FA88), (0x1FA90, 0x1FABD), (0x1FABF, 0x1FAC5),
    (0x1FACE, 0x1FADB), (0x1FAE0, 0x1FAE8), (0x1FAF0, 0x1FAF8), (0x20000, 0x2FFFD),
    (0x30000, 0x3FFFD)]

/-- How many columns a character takes. -/
def charColumns (c : Char) : Nat :=
  if wideRanges.any fun r => decide (r.1 ≤ c.toNat ∧ c.toNat ≤ r.2) then 2 else 1

/-- Text from a column on with its tabs as spaces up to the next multiple of eight. -/
def untabbed : Nat → List Char → List Char
  | _, [] => []
  | column, c :: rest =>
      if c = '\t' then
        let spaces := 8 - column % 8
        List.replicate spaces ' ' ++ untabbed (column + spaces) rest
      else if c = '\n' then c :: untabbed 0 rest
      else c :: untabbed (column + charColumns c) rest

theorem untabbed_of_notMem {cs : List Char} (h : '\t' ∉ cs) (column : Nat) :
    untabbed column cs = cs := by
  induction cs generalizing column with
  | nil => rfl
  | cons c rest ih =>
    obtain ⟨hc, hrest⟩ : '\t' ≠ c ∧ '\t' ∉ rest := by simpa using h
    rw [untabbed, if_neg hc.symm]
    split <;> rw [ih hrest]

theorem mem_untabbed {cs : List Char} {c : Char} {column : Nat} (h : c ∈ untabbed column cs) :
    c = ' ' ∨ c ∈ cs ∧ c ≠ '\t' := by
  induction cs generalizing column with
  | nil => cases h
  | cons d rest ih =>
    have later : ∀ {column}, c ∈ untabbed column rest → c = ' ' ∨ c ∈ d :: rest ∧ c ≠ '\t' :=
      fun hc => (ih hc).imp_right fun hc => ⟨List.mem_cons_of_mem d hc.1, hc.2⟩
    have first (hd : d ≠ '\t') : c = d → c = ' ' ∨ c ∈ d :: rest ∧ c ≠ '\t' := by
      rintro rfl
      exact .inr ⟨List.mem_cons_self, hd⟩
    rw [untabbed] at h
    split at h
    · rcases List.mem_append.1 h with hc | hc
      · exact .inl (List.eq_of_mem_replicate hc)
      · exact later hc
    · rename_i hd
      split at h <;> exact (List.mem_cons.1 h).elim (first hd) later

theorem sublist_untabbed (column : Nat) (cs : List Char) :
    ((untabbed column cs).filter fun c => !isSpacing c).Sublist cs := by
  induction cs generalizing column with
  | nil => exact .slnil
  | cons c rest ih =>
    rw [untabbed]
    split
    · -- the spaces in place of a tab are left out
      have hspaces : (List.replicate (8 - column % 8) ' ').filter (fun c => !isSpacing c) = [] :=
        List.filter_eq_nil_iff.2 fun c hc => by rw [List.eq_of_mem_replicate hc]; decide
      rw [List.filter_append, hspaces, List.nil_append]
      exact (ih _).cons c
    · have kept : ∀ column, ((c :: untabbed column rest).filter fun c => !isSpacing c).Sublist
          (c :: rest) := fun column => by
        rw [List.filter_cons]
        split
        · exact (ih column).cons_cons c
        · exact (ih column).cons c
      split <;> exact kept _

/-- A console on which every line fits, and which evaluates nothing. -/
instance wide : Console where
  width := 10000
  columns _ := 0
  problem? := Markup.problem?
  layOut := untabbed 0
  boxed title :=
    let bar := String.ofList (List.replicate (title.length + 2) '─')
    "╭" ++ bar ++ "╮\n│ " ++ title ++ " │\n╰" ++ bar ++ "╯\n"
  problem?_of_ordinary _ := rfl
  layOut_of_fits h _ := untabbed_of_notMem h 0
  mem_layOut h := (mem_untabbed h).imp_left fun h => by rw [h]; rfl
  sublist_layOut := sublist_untabbed 0

end Console

end EphemeralDatabase
