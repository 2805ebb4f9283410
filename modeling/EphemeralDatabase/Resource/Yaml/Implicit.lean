import EphemeralDatabase.Text.Pattern

/-!
# Texts that read back as something else

A reader of YAML 1.1 takes a plain text that looks like a truth value, a number, a null, a date
or a merge key for just that.  `readsAsOther` tells these texts from the others, one pattern for
each sort.
-/

namespace EphemeralDatabase.Yaml

/-- An optional plus or minus. -/
def sign : Pattern := .optional (.among ['+', '-'])

/-- Digits and underscores. -/
def digitsOrLines : Pattern := .many (.one fun c => c.isDigit || c == '_')

/-- One digit, then digits and underscores. -/
def grouped : Pattern := .chain .digit digitsOrLines

/-- An exponent, its sign written out. -/
def exponent : Pattern :=
  .series [.among ['e', 'E'], .among ['+', '-'], .some .digit]

/-- The sixties after a colon: `:30` or `:5`, any number of times. -/
def sixties : Pattern :=
  .some (.series [.char ':', .optional (.one fun c => decide ('0' ≤ c ∧ c ≤ '5')), .digit])

/-- A nonzero digit, then digits and underscores. -/
def nonzeroGrouped : Pattern :=
  .chain (.one fun c => decide ('1' ≤ c ∧ c ≤ '9')) digitsOrLines

/-- Truth values. -/
def truths : Pattern :=
  .words ["yes", "Yes", "YES", "no", "No", "NO", "true", "True", "TRUE", "false", "False",
    "FALSE", "on", "On", "ON", "off", "Off", "OFF"]

/-- Numbers with a fraction, infinities and the number that is none. -/
def fractions : Pattern :=
  .anyOf [
    .series [sign, grouped, .char '.', digitsOrLines, .optional exponent],
    .series [.char '.', grouped, .optional exponent],
    .series [sign, grouped, sixties, .char '.', digitsOrLines],
    .series [sign, .words [".inf", ".Inf", ".INF"]],
    .words [".nan", ".NaN", ".NAN"]]

/-- Whole numbers in bases two, eight, ten, sixteen and sixty. -/
def wholes : Pattern :=
  .anyOf [
    .series [sign, .word ['0', 'b'], .some (.among ['0', '1', '_'])],
    .series [sign, .char '0', .some (.one fun c => decide ('0' ≤ c ∧ c ≤ '7') || c == '_')],
    .series [sign, .choice (.char '0') nonzeroGrouped],
    .series [sign, .word ['0', 'x'], .some (.one fun c =>
      c.isDigit || decide ('a' ≤ c ∧ c ≤ 'f') || decide ('A' ≤ c ∧ c ≤ 'F') || c == '_')],
    .series [sign, nonzeroGrouped, sixties]]

/-- Nulls, the empty text among them. -/
def nulls : Pattern := .words ["", "~", "null", "Null", "NULL"]

/-- One digit or two. -/
def shortNumber : Pattern := .chain .digit (.optional .digit)

/-- Two digits. -/
def twoDigits : Pattern := .chain .digit .digit

/-- Four digits. -/
def year : Pattern := .chain twoDigits twoDigits

/-- Blanks before a time zone or between a date and a time. -/
def gap : Pattern := .among [' ', '\t']

/-- Dates, and dates with a time of day. -/
def dates : Pattern :=
  .anyOf [
    .series [year, .char '-', twoDigits, .char '-', twoDigits],
    .series [year, .char '-', shortNumber, .char '-', shortNumber,
      .choice (.among ['T', 't']) (.some gap),
      shortNumber, .char ':', twoDigits, .char ':', twoDigits,
      .optional (.chain (.char '.') (.many .digit)),
      .optional (.chain (.many gap) (.choice (.char 'Z')
        (.series [.among ['+', '-'], shortNumber,
          .optional (.chain (.char ':') twoDigits)])))]]

/-- The merge key, the value key and the lone indicators. -/
def marks : Pattern := .words ["<<", "=", "!", "&", "*"]

/-- Whether a text, written plainly, would read back as something other than a text. -/
def readsAsOther (s : List Char) : Bool :=
  [truths, fractions, wholes, nulls, dates, marks].any fun p => p.accepts s

end EphemeralDatabase.Yaml
