/-!
# Regular patterns

A pattern is a regular expression over characters, and `Pattern.accepts` decides whether a
*whole* word belongs to it.  There is no searching and no anchoring: a pattern that is written
with `^` and `$` in a message is here the expression between the two anchors.

The decision is Brzozowski's.  `nullable` says whether the empty word belongs, `after c` is the
pattern of everything that may follow a first `c`, and a word is accepted when the pattern left
over after all of its characters is nullable.  The constructors `both` and `either` drop dead
branches on the way, so that the pattern left over stays about as large as the one we began
with.
-/

namespace EphemeralDatabase

/-- A regular expression over characters. -/
inductive Pattern where
  /-- no word at all -/
  | nothing
  /-- the empty word only -/
  | empty
  /-- one character that passes a test -/
  | one (test : Char → Bool)
  /-- a word of the first, then a word of the second -/
  | chain (first second : Pattern)
  /-- a word of either -/
  | choice (left right : Pattern)
  /-- any number of words of the inner pattern -/
  | many (inner : Pattern)

namespace Pattern

/-- Whether the empty word belongs to the pattern. -/
def nullable : Pattern → Bool
  | nothing => false
  | empty => true
  | one _ => false
  | chain p q => p.nullable && q.nullable
  | choice p q => p.nullable || q.nullable
  | many _ => true

/-- Both, one after the other; nothing if either is nothing. -/
def both : Pattern → Pattern → Pattern
  | nothing, _ => nothing
  | _, nothing => nothing
  | empty, q => q
  | p, q => chain p q

/-- Either of the two; the other one if one is nothing. -/
def either : Pattern → Pattern → Pattern
  | nothing, q => q
  | p, nothing => p
  | p, q => choice p q

/-- What may follow a first character `c`. -/
def after (c : Char) : Pattern → Pattern
  | nothing => nothing
  | empty => nothing
  | one test => if test c then empty else nothing
  | chain p q =>
      if p.nullable then either (both (p.after c) q) (q.after c) else both (p.after c) q
  | choice p q => either (p.after c) (q.after c)
  | many p => both (p.after c) (many p)

/-- Whether a whole word belongs to the pattern. -/
def accepts (p : Pattern) (word : List Char) : Bool :=
  (word.foldl (fun rest c => rest.after c) p).nullable

/-! ## Patterns in common use -/

/-- Exactly the given character. -/
def char (c : Char) : Pattern := one (· == c)

/-- Any one of the given characters. -/
def among (cs : List Char) : Pattern := one cs.contains

/-- An ASCII digit. -/
def digit : Pattern := one Char.isDigit

/-- Exactly the given word. -/
def word (w : List Char) : Pattern := w.foldr (fun c rest => chain (char c) rest) empty

/-- Exactly one of the given words. -/
def words (ws : List String) : Pattern :=
  ws.foldr (fun w rest => choice (word w.toList) rest) nothing

/-- The given patterns in order. -/
def series (ps : List Pattern) : Pattern := ps.foldr chain empty

/-- Any of the given patterns. -/
def anyOf (ps : List Pattern) : Pattern := ps.foldr choice nothing

/-- The pattern or the empty word. -/
def optional (p : Pattern) : Pattern := choice p empty

/-- The pattern at least once. -/
def some (p : Pattern) : Pattern := chain p (many p)

/-! ## The empty word and the first character -/

@[simp] theorem accepts_nil (p : Pattern) : p.accepts [] = p.nullable := rfl

@[simp] theorem accepts_cons (p : Pattern) (c : Char) (w : List Char) :
    p.accepts (c :: w) = (p.after c).accepts w := rfl

end Pattern

end EphemeralDatabase
