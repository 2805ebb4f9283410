import EphemeralDatabase.Console.Pictograph.Table
import EphemeralDatabase.Text.Blank
import EphemeralDatabase.Text.Lower

/-!
# Pictographs by name

On the console a name between two colons stands for a pictograph: `:warning:` is a warning sign.
After the name, `-text` and `-emoji` choose between the plain and the coloured presentation.
Nothing between the colons may be blank, and what is no name stays as it is.  The colon that ends
one name does not begin another, whether or not the name was known.
-/

namespace EphemeralDatabase.Pictograph

/-- The pictograph of a name among names and pictographs in turn. -/
def lookUp (name : String) : List String → Option String
  | known :: picture :: rest => if known = name then some picture else lookUp name rest
  | _ => none

/-- The pictograph of a name, in any case. -/
def ofName? (name : String) : Option String :=
  lookUp (lower name) (table.flatMap blankWords)

/-- The suffixes of a name, each with the character that chooses the presentation. -/
def presentations : List (List Char × Char) :=
  [("-emoji".toList, '\uFE0F'), ("-text".toList, '\uFE0E')]

/-- What stands for the characters between two colons. -/
def shown? (inside : List Char) : Option (List Char) :=
  match presentations.find? fun p => p.1.isSuffixOf inside with
  | some (suffix, mark) =>
      (ofName? (String.ofList (inside.take (inside.length - suffix.length)))).map fun picture =>
        picture.toList ++ [mark]
  | none => (ofName? (String.ofList inside)).map String.toList

/-- The characters up to the next colon or blank. -/
def nameOf (cs : List Char) : List Char := cs.takeWhile fun c => c != ':' && !isBlank c

/-- Text with pictographs for their names. -/
def replaced : List Char → List Char
  | [] => []
  | c :: rest =>
      if c = ':' ∧ (rest.drop (nameOf rest).length).head? = some ':' then
        (shown? (nameOf rest)).getD (':' :: nameOf rest ++ [':'])
          ++ replaced (rest.drop ((nameOf rest).length + 1))
      else c :: replaced rest
  termination_by cs => cs.length
  decreasing_by all_goals (simp only [List.length_drop, List.length_cons]; omega)

/-- Without a colon there is no name. -/
theorem replaced_of_notMem {cs : List Char} (h : ':' ∉ cs) : replaced cs = cs := by
  induction cs with
  | nil => simp [replaced]
  | cons c rest ih =>
    have hc : c ≠ ':' := fun e => h (by simp [e])
    rw [replaced, if_neg (by simp [hc]), ih fun m => h (List.mem_cons_of_mem c m)]

end EphemeralDatabase.Pictograph
