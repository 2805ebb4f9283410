import EphemeralDatabase.Text.Pattern

/-!
# The forms of names

The names of objects must have the form of a DNS label, and a Service type is one of three
words.  A `Form` keeps the regular expression that a message shows beside the pattern that
decides; the pattern is the expression between its two anchors.
-/

namespace EphemeralDatabase

/-- A form that a text can be required to have. -/
structure Form where
  /-- the form as a message shows it -/
  expression : String
  pattern : Pattern

namespace Form

/-- Whether a text has the form. -/
def fits (form : Form) (text : String) : Bool := form.pattern.accepts text.toList

/-- A lower-case letter or a digit. -/
def labelEdge : Pattern := .one fun c => decide ('a' ≤ c ∧ c ≤ 'z') || c.isDigit

/-- A hyphen, a lower-case letter or a digit. -/
def labelInside : Pattern := .one fun c => c == '-' || decide ('a' ≤ c ∧ c ≤ 'z') || c.isDigit

/-- Lower-case letters, digits and hyphens, with no hyphen at either end. -/
def label : Form where
  expression := "^[a-z0-9]([-a-z0-9]*[a-z0-9])?$"
  pattern := .chain labelEdge (.optional (.chain (.many labelInside) labelEdge))

/-- How a Service can be exposed. -/
def serviceType : Form where
  expression := "^(NodePort|LoadBalancer|ClusterIP)$"
  pattern := .words ["NodePort", "LoadBalancer", "ClusterIP"]

end Form

end EphemeralDatabase
